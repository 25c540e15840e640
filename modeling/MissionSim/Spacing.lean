import Mathlib.Algebra.Order.AbsoluteValue.Basic
import Mathlib.Algebra.Order.Field.Basic
import Mathlib.Data.List.Pairwise
import Mathlib.Tactic.Linarith

/-!
# Keeping a distance

Times are taken in order, and one that comes less than a distance after the last time kept is
dropped.  At the start the last time is the latest of some that are given.

What is kept keeps the distance from each other and from the given times.  What is dropped before
anything is kept may be far from all of these: it was only compared with the latest
(`greedy_exact_iff`).
-/

namespace Spacing

variable {K : Type} [Field K] [LinearOrder K]

/-- The times kept and the times dropped, from the last time on. -/
def greedy (gap : K) : Option K → List K → List K × List K
  | _, [] => ([], [])
  | last, t :: rest =>
      match last with
      | some prev =>
          if t - prev < gap then (greedy gap last rest).map id (t :: ·)
          else (greedy gap (some t) rest).map (t :: ·) id
      | none => (greedy gap (some t) rest).map (t :: ·) id

/-- The last time is the latest of the given ones. -/
def Latest (given : List K) : Option K → Prop
  | none => given = []
  | some last => last ∈ given ∧ ∀ c ∈ given, c ≤ last

/-- What is kept is far from each other and from the given times, and what is dropped is close to
one of these. -/
structure Exact (gap : K) (given kept dropped : List K) : Prop where
  apart : kept.Pairwise fun a b => gap ≤ |b - a|
  far : ∀ t ∈ kept, ∀ c ∈ given, gap ≤ |t - c|
  close : ∀ t ∈ dropped, ∃ k, (k ∈ kept ∨ k ∈ given) ∧ |t - k| < gap

/-- What lies less than the distance after the latest of the given times, or before it, is close to
one of them. -/
def NoneSkipped (gap : K) (given times : List K) : Prop :=
  ∀ t ∈ times, ∀ last, Latest given (some last) → t - last < gap → ∃ c ∈ given, |t - c| < gap

variable {gap t prev : K} {last : Option K} {times given rest : List K}

theorem greedy_drop (h : t - prev < gap) :
    greedy gap (some prev) (t :: rest) = (greedy gap (some prev) rest).map id (t :: ·) := by
  exact if_pos h

theorem greedy_keep (h : ∀ prev, last = some prev → ¬ t - prev < gap) :
    greedy gap last (t :: rest) = (greedy gap (some t) rest).map (t :: ·) id := by
  cases last with
  | none => rfl
  | some prev =>
      exact if_neg (h prev rfl)

/-- A time is kept or dropped. -/
theorem greedy_cases (gap : K) (last : Option K) (t : K) :
    (∃ prev, last = some prev ∧ t - prev < gap) ∨ ∀ prev, last = some prev → ¬ t - prev < gap := by
  by_cases h : ∃ prev, last = some prev ∧ t - prev < gap
  · exact Or.inl h
  · exact Or.inr fun prev hprev hlt => h ⟨prev, hprev, hlt⟩

open List

theorem mem_of_mem_greedy (h : t ∈ (greedy gap last times).1 ∨ t ∈ (greedy gap last times).2) :
    t ∈ times := by
  induction times generalizing last with
  | nil =>
      rcases h with h | h
      · exact h
      · exact h
  | cons u rest ih =>
      rcases greedy_cases gap last u with ⟨prev, rfl, hlt⟩ | hkeep
      · rw [greedy_drop hlt] at h
        rcases h with h | h
        · exact mem_cons_of_mem u (ih (Or.inl h))
        · exact (mem_cons.mp h).elim (fun heq => heq ▸ mem_cons_self)
            fun h => mem_cons_of_mem u (ih (Or.inr h))
      · rw [greedy_keep hkeep] at h
        rcases h with h | h
        · exact (mem_cons.mp h).elim (fun heq => heq ▸ mem_cons_self)
            fun h => mem_cons_of_mem u (ih (Or.inl h))
        · exact mem_cons_of_mem u (ih (Or.inr h))

section Ordered

variable [IsStrictOrderedRing K] (hsorted : times.Pairwise (· ≤ ·))
include hsorted

/-- What is kept comes at least the distance after the last time. -/
theorem le_sub_of_kept (h : t ∈ (greedy gap (some prev) times).1) : gap ≤ t - prev := by
  induction times with
  | nil => cases h
  | cons u rest ih =>
      have hparts := pairwise_cons.mp hsorted
      rcases greedy_cases gap (some prev) u with ⟨prev', hprev, hlt⟩ | hkeep
      · cases hprev
        rw [greedy_drop hlt] at h
        exact ih hparts.2 h
      · have hu := not_lt.mp (hkeep prev rfl)
        rw [greedy_keep hkeep] at h
        rcases mem_cons.mp h with rfl | h
        · exact hu
        · have hle := hparts.1 t (mem_of_mem_greedy (Or.inl h))
          linarith

theorem kept_apart : (greedy gap last times).1.Pairwise fun a b => gap ≤ b - a := by
  induction times generalizing last with
  | nil => exact List.Pairwise.nil
  | cons u rest ih =>
      have hparts := pairwise_cons.mp hsorted
      rcases greedy_cases gap last u with ⟨prev, rfl, hlt⟩ | hkeep
      · rw [greedy_drop hlt]
        exact ih hparts.2
      · rw [greedy_keep hkeep]
        exact pairwise_cons.mpr ⟨fun b hb => le_sub_of_kept hparts.2 hb, ih hparts.2⟩

/-- What is dropped comes too soon after the last time at the start, or is close to one kept. -/
theorem dropped_close (h : t ∈ (greedy gap last times).2) :
    (∃ prev, last = some prev ∧ t - prev < gap) ∨
      ∃ k ∈ (greedy gap last times).1, |t - k| < gap := by
  induction times generalizing last with
  | nil => cases h
  | cons u rest ih =>
      have hparts := pairwise_cons.mp hsorted
      rcases greedy_cases gap last u with ⟨prev, rfl, hlt⟩ | hkeep
      · rw [greedy_drop hlt] at h ⊢
        rcases mem_cons.mp h with rfl | h
        · exact Or.inl ⟨prev, rfl, hlt⟩
        · exact ih hparts.2 h
      · rw [greedy_keep hkeep] at h ⊢
        right
        have hle := hparts.1 t (mem_of_mem_greedy (Or.inr h))
        rcases ih hparts.2 h with ⟨prev, hprev, hlt⟩ | ⟨k, hk, hlt⟩
        · cases hprev
          refine ⟨u, mem_cons_self, ?_⟩
          rwa [abs_of_nonneg (sub_nonneg.mpr hle)]
        · exact ⟨k, mem_cons_of_mem u hk, hlt⟩

/-- What comes too soon after the last time at the start is dropped. -/
theorem dropped_of_lt (hmem : t ∈ times) (hlt : t - prev < gap) :
    t ∈ (greedy gap (some prev) times).2 := by
  induction times with
  | nil => cases hmem
  | cons u rest ih =>
      have hparts := pairwise_cons.mp hsorted
      have hu : u - prev < gap := by
        rcases mem_cons.mp hmem with rfl | hmem
        · exact hlt
        · have hle := hparts.1 t hmem
          linarith
      rw [greedy_drop hu]
      rcases mem_cons.mp hmem with rfl | hmem
      · exact mem_cons_self
      · exact mem_cons_of_mem u (ih hparts.2 hmem)

/-- **Keeping the distance is exact if and only if** no time that comes too soon after the latest of
the given ones is far from all of them. -/
theorem greedy_exact_iff (hlast : Latest given last) :
    Exact gap given (greedy gap last times).1 (greedy gap last times).2 ↔
      NoneSkipped gap given times := by
  constructor
  · intro h t ht prev hprev hlt
    have hsame : last = some prev := by
      cases last with
      | none =>
          have hempty : given = [] := hlast
          exact absurd (hempty ▸ hprev.1) not_mem_nil
      | some prev' =>
          exact congrArg some (le_antisymm (hprev.2 prev' hlast.1) (hlast.2 prev hprev.1))
    subst hsame
    obtain ⟨k, hk, hclose⟩ := h.close t (dropped_of_lt hsorted ht hlt)
    rcases hk with hk | hk
    · -- what is kept is as far from the latest, so that `t` is near the latest
      have hfar := le_sub_of_kept hsorted hk
      have hbounds := abs_lt.mp hclose
      refine ⟨prev, hprev.1, abs_lt.mpr ⟨?_, hlt⟩⟩
      linarith [hbounds.1]
    · exact ⟨k, hk, hclose⟩
  · intro h
    exact {
      apart := (kept_apart hsorted).imp fun hle => hle.trans (le_abs_self _)
      far := by
        intro t ht c hc
        cases last with
        | none =>
            have hempty : given = [] := hlast
            exact absurd (hempty ▸ hc) not_mem_nil
        | some prev =>
            have hfar := le_sub_of_kept hsorted ht
            have hle := hlast.2 c hc
            exact le_trans (by linarith) (le_abs_self _)
      close := by
        intro t ht
        rcases dropped_close hsorted ht with ⟨prev, rfl, hlt⟩ | ⟨k, hk, hlt⟩
        · obtain ⟨c, hc, hclose⟩ := h t (mem_of_mem_greedy (Or.inr ht)) prev hlast hlt
          exact ⟨c, Or.inr hc, hclose⟩
        · exact ⟨k, Or.inl hk, hlt⟩ }

end Ordered

end Spacing
