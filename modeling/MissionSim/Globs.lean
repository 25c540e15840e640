import Mathlib.Data.List.Infix
import Mathlib.Tactic.Common

/-!
# Shell patterns

A pattern is a list of tokens: a run of anything, any single element, or one element exactly.
What a pattern accepts splits where the pattern splits, so the literal ends of a pattern are ends
of everything it accepts.
-/

namespace Globs

variable {α : Type}

/-- A token of a pattern. -/
inductive Token (α : Type) where
  | any
  | one
  | exactly (a : α)
  deriving DecidableEq, Repr

/-- The pattern that accepts one list only. -/
def literal (l : List α) : List (Token α) := l.map .exactly

@[simp] theorem literal_cons (a : α) (l : List α) :
    literal (a :: l) = .exactly a :: literal l := rfl

variable [DecidableEq α]

/-- Does a pattern accept a list, from its first element to its last? -/
def accepts : List (Token α) → List α → Bool
  | [], s => s.isEmpty
  | .any :: p, s => s.tails.any (accepts p)
  | .one :: p, _ :: s => accepts p s
  | .one :: _, [] => false
  | .exactly a :: p, b :: s => decide (a = b) && accepts p s
  | .exactly _ :: _, [] => false

variable {s : List α}

@[simp] theorem accepts_nil : accepts [] s = true ↔ s = [] := List.isEmpty_iff

variable {p : List (Token α)}

theorem accepts_any : accepts (.any :: p) s = true ↔ ∃ t, t <:+ s ∧ accepts p t = true := by
  show s.tails.any (accepts p) = true ↔ _
  simp [List.any_eq_true, List.mem_tails]

theorem accepts_one : accepts (.one :: p) s = true ↔ ∃ a t, s = a :: t ∧ accepts p t = true := by
  cases s with
  | nil => exact ⟨nofun, nofun⟩
  | cons b s =>
      show accepts p s = true ↔ _
      simp

theorem accepts_exactly {a : α} :
    accepts (.exactly a :: p) s = true ↔ ∃ t, s = a :: t ∧ accepts p t = true := by
  cases s with
  | nil => exact ⟨nofun, nofun⟩
  | cons b s =>
      show (decide (a = b) && accepts p s) = true ↔ _
      simp only [Bool.and_eq_true, decide_eq_true_eq, List.cons.injEq]
      constructor
      · rintro ⟨rfl, h⟩
        exact ⟨s, ⟨rfl, rfl⟩, h⟩
      · rintro ⟨t, ⟨rfl, rfl⟩, h⟩
        exact ⟨rfl, h⟩

/-- **Splitting.**  Two patterns in a row accept a part each. -/
theorem accepts_append {p q : List (Token α)} :
    accepts (p ++ q) s = true ↔
      ∃ s₁ s₂, s = s₁ ++ s₂ ∧ accepts p s₁ = true ∧ accepts q s₂ = true := by
  induction p generalizing s with
  | nil => simp
  | cons token p ih =>
      cases token with
      | any =>
          rw [List.cons_append, accepts_any]
          constructor
          · rintro ⟨t, ⟨skipped, rfl⟩, h⟩
            obtain ⟨s₁, s₂, rfl, hp, hq⟩ := ih.mp h
            exact ⟨skipped ++ s₁, s₂, (List.append_assoc ..).symm,
              accepts_any.mpr ⟨s₁, List.suffix_append .., hp⟩, hq⟩
          · rintro ⟨s₁, s₂, rfl, h, hq⟩
            obtain ⟨t, ⟨skipped, rfl⟩, hp⟩ := accepts_any.mp h
            exact ⟨t ++ s₂, ⟨skipped, (List.append_assoc ..).symm⟩, ih.mpr ⟨t, s₂, rfl, hp, hq⟩⟩
      | one =>
          rw [List.cons_append, accepts_one]
          constructor
          · rintro ⟨a, t, rfl, h⟩
            obtain ⟨s₁, s₂, rfl, hp, hq⟩ := ih.mp h
            exact ⟨a :: s₁, s₂, rfl, accepts_one.mpr ⟨a, s₁, rfl, hp⟩, hq⟩
          · rintro ⟨s₁, s₂, rfl, h, hq⟩
            obtain ⟨a, t, rfl, hp⟩ := accepts_one.mp h
            exact ⟨a, t ++ s₂, rfl, ih.mpr ⟨t, s₂, rfl, hp, hq⟩⟩
      | exactly a =>
          rw [List.cons_append, accepts_exactly]
          constructor
          · rintro ⟨t, rfl, h⟩
            obtain ⟨s₁, s₂, rfl, hp, hq⟩ := ih.mp h
            exact ⟨a :: s₁, s₂, rfl, accepts_exactly.mpr ⟨s₁, rfl, hp⟩, hq⟩
          · rintro ⟨s₁, s₂, rfl, h, hq⟩
            obtain ⟨t, rfl, hp⟩ := accepts_exactly.mp h
            exact ⟨t ++ s₂, rfl, ih.mpr ⟨t, s₂, rfl, hp, hq⟩⟩

@[simp] theorem accepts_literal {l s : List α} : accepts (literal l) s = true ↔ s = l := by
  induction l generalizing s with
  | nil => exact accepts_nil
  | cons a l ih =>
      rw [literal_cons, accepts_exactly]
      simp [ih]

/-- What a pattern accepts ends as the pattern does. -/
theorem suffix_of_accepts {l s : List α} (h : accepts (p ++ literal l) s = true) : l <:+ s := by
  obtain ⟨s₁, s₂, rfl, -, hl⟩ := accepts_append.mp h
  rw [accepts_literal.mp hl]
  exact List.suffix_append ..

/-- A run of anything accepts whatever comes before. -/
theorem accepts_any_append (h : accepts p s = true) (before : List α) :
    accepts (.any :: p) (before ++ s) = true :=
  accepts_any.mpr ⟨s, List.suffix_append .., h⟩

end Globs
