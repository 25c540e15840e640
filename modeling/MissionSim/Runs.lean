import Mathlib.Data.List.Basic
import Mathlib.Tactic.Common

/-!
# Runs of a state machine

A machine takes one operation after another; `after step s ops` is the state it
reaches from `s`.  Facts about whole runs are stated at positions: the state
before the operation at position `i` is `after step s (ops.take i)`, and
`holds_between` carries a fact from one position to a later one across the
operations in between.
-/

namespace Runs

universe u v

variable {σ : Type u} {α : Type v} (step : σ → α → σ)

/-- The state reached from `s` by a sequence of operations. -/
def after (s : σ) (ops : List α) : σ := ops.foldl step s

variable {step} {s : σ} {ops : List α}

@[simp] theorem after_nil : after step s [] = s := rfl

theorem after_append (ops ops' : List α) :
    after step s (ops ++ ops') = after step (after step s ops) ops' :=
  List.foldl_append

theorem after_concat (ops : List α) (op : α) :
    after step s (ops ++ [op]) = step (after step s ops) op := by
  rw [after_append]
  rfl

theorem after_take_succ {i : Nat} {op : α} (h : ops[i]? = some op) :
    after step s (ops.take (i + 1)) = step (after step s (ops.take i)) op := by
  rw [List.take_add_one, h]
  exact after_concat _ op

/-- **The invariant rule.**  What the start satisfies and every step preserves holds of
every state a run reaches. -/
theorem invariant {P : σ → Prop} (hstep : ∀ s op, P s → P (step s op)) (h : P s)
    (ops : List α) : P (after step s ops) := by
  induction ops generalizing s with
  | nil => exact h
  | cons op rest ih => exact ih (hstep s op h)

/-- What holds at a position and is preserved by every operation up to a later position
holds there. -/
theorem holds_between {P : σ → Prop} {i j : Nat} (hij : i ≤ j)
    (hstart : P (after step s (ops.take i)))
    (hstep : ∀ k op, i ≤ k → k < j → ops[k]? = some op →
      P (after step s (ops.take k)) → P (step (after step s (ops.take k)) op)) :
    P (after step s (ops.take j)) := by
  induction hij with
  | refl => exact hstart
  | @step k hik ih =>
      have hbefore := ih fun m op him hmk hop hP => hstep m op him (Nat.lt_succ_of_lt hmk) hop hP
      cases hop : ops[k]? with
      | none =>
          have hshort := List.getElem?_eq_none_iff.mp hop
          rw [List.take_of_length_le (Nat.le_succ_of_le hshort),
            ← List.take_of_length_le hshort]
          exact hbefore
      | some op =>
          rw [after_take_succ hop]
          exact hstep k op hik (Nat.lt_succ_self k) hop hbefore

variable (step s ops) in
/-- At a position there is an operation that, in the state before it, satisfies `P`. -/
def HappensAt (P : σ → α → Prop) (i : Nat) : Prop :=
  ∃ op, ops[i]? = some op ∧ P (after step s (ops.take i)) op

/-- The operation at a position is the only one there. -/
theorem HappensAt.holds {P : σ → α → Prop} {i : Nat} {op : α} (h : HappensAt step s ops P i)
    (hop : ops[i]? = some op) : P (after step s (ops.take i)) op := by
  obtain ⟨op', hop', hP⟩ := h
  obtain rfl : op = op' := Option.some.inj (hop.symm.trans hop')
  exact hP

theorem HappensAt.imp {P P' : σ → α → Prop} {i : Nat} (h : HappensAt step s ops P i)
    (himp : ∀ {s op}, P s op → P' s op) : HappensAt step s ops P' i := by
  obtain ⟨op, hop, hP⟩ := h
  exact ⟨op, hop, himp hP⟩

/-- **The invariant rule of guarded runs.**  What the start satisfies and every step but the bad
ones preserves holds at every position of a run without bad steps. -/
theorem invariant_unless {P : σ → Prop} {bad : σ → α → Prop}
    (hstep : ∀ s op, P s → ¬ bad s op → P (step s op)) (h : P s)
    (hnever : ∀ i, ¬ HappensAt step s ops bad i) (i : Nat) : P (after step s (ops.take i)) := by
  refine holds_between (Nat.zero_le i) h ?_
  intro k op _ _ hop hP
  exact hstep _ op hP fun hbad => hnever k ⟨op, hop, hbad⟩

/-- Between a position where something fails and a later one where it holds, it starts to
hold. -/
theorem starts_between {p : Nat → Prop} {j i : Nat} (hji : j ≤ i) (hj : ¬ p j) (hi : p i) :
    ∃ k, j ≤ k ∧ k < i ∧ ¬ p k ∧ p (k + 1) := by
  induction hji with
  | refl => exact absurd hi hj
  | @step m hjm ih =>
      by_cases hm : p m
      · obtain ⟨k, hjk, hkm, hk⟩ := ih hm
        exact ⟨k, hjk, Nat.lt_succ_of_lt hkm, hk⟩
      · exact ⟨m, hjm, Nat.lt_succ_self m, hm, hi⟩

end Runs
