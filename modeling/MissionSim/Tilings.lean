import Mathlib.Algebra.BigOperators.Group.List.Lemmas
import Mathlib.Algebra.Order.Archimedean.Basic
import Mathlib.Tactic.Linarith
import Mathlib.Tactic.Ring

/-!
# Tilings by repeated addition

A loop adds a step to a mark until the end is reached, and makes something of every mark.  With a
positive step it ends (`exists_collect`), and otherwise it does not (`collect_eq_none`).

The intervals from mark to mark, cut to a span, tile the span (`tiles_of_collect`).  Counting over
closed intervals counts what lies on a boundary between two of them twice, so the counts add up
exactly if nothing does (`sum_within_iff`).
-/

namespace Tilings

variable {K β : Type} [Field K] [LinearOrder K]

/-! ### The loop -/

/-- `while t < stop: out.append(f(t, i)); t += step; i += 1`; nothing without enough fuel. -/
def collect (f : K → Int → β) (step stop : K) : Nat → K → Int → Option (List β)
  | 0, t, _ => if t < stop then none else some []
  | fuel + 1, t, i =>
      if t < stop then (collect f step stop fuel (t + step) (i + 1)).map (f t i :: ·)
      else some []

variable {f : K → Int → β} {step stop : K} {fuel : Nat} {t : K} {i : Int} {out : List β}

theorem collect_of_le (h : stop ≤ t) : collect f step stop fuel t i = some [] := by
  cases fuel with
  | zero | succ => exact if_neg (not_lt.mpr h)

/-- What was collected before the end is the first, and then what the rest of the loop collects. -/
theorem collect_of_lt (h : t < stop) (hout : collect f step stop fuel t i = some out) :
    ∃ fuel' rest, fuel = fuel' + 1 ∧ out = f t i :: rest ∧
      collect f step stop fuel' (t + step) (i + 1) = some rest := by
  cases fuel with
  | zero =>
      unfold collect at hout
      rw [if_pos h] at hout
      cases hout
  | succ fuel =>
      unfold collect at hout
      rw [if_pos h] at hout
      obtain ⟨rest, hrest, rfl⟩ := Option.map_eq_some_iff.mp hout
      exact ⟨fuel, rest, rfl, rfl, hrest⟩

variable [IsStrictOrderedRing K]

/-- **With a positive step the loop ends.** -/
theorem exists_collect [Archimedean K] (f : K → Int → β) (hstep : 0 < step) (stop t : K) (i : Int) :
    ∃ fuel out, collect f step stop fuel t i = some out := by
  obtain ⟨n, hn⟩ := Archimedean.arch (stop - t) hstep
  rw [nsmul_eq_mul] at hn
  refine ⟨n, ?_⟩
  induction n generalizing t i with
  | zero =>
      rw [Nat.cast_zero, zero_mul] at hn
      exact ⟨[], collect_of_le (sub_nonpos.mp hn)⟩
  | succ n ih =>
      rcases le_or_gt stop t with hle | hlt
      · exact ⟨[], collect_of_le hle⟩
      · have hrest : stop - (t + step) ≤ (n : K) * step := by
          rw [Nat.cast_succ, add_mul, one_mul] at hn
          linarith
        obtain ⟨rest, hcollect⟩ := ih (t + step) (i + 1) hrest
        refine ⟨f t i :: rest, ?_⟩
        unfold collect
        rw [if_pos hlt, hcollect]
        rfl

/-- Without one it does not. -/
theorem collect_eq_none (hstep : step ≤ 0) (ht : t < stop) : collect f step stop fuel t i = none := by
  induction fuel generalizing t i with
  | zero => exact if_pos ht
  | succ fuel ih =>
      unfold collect
      rw [if_pos ht, ih (by linarith)]
      rfl

/-! ### Tilings -/

omit [Field K] [IsStrictOrderedRing K] in
/-- Intervals that follow one another from `a` to `b`. -/
def Tiles : K → K → List (K × K) → Prop
  | a, b, [] => a = b
  | a, b, tile :: rest => tile.1 = a ∧ tile.1 < tile.2 ∧ Tiles tile.2 b rest

omit [Field K] [IsStrictOrderedRing K] in
theorem Tiles.le {a b : K} {tiles : List (K × K)} (h : Tiles a b tiles) : a ≤ b := by
  induction tiles generalizing a with
  | nil => exact le_of_eq h
  | cons tile rest ih =>
      obtain ⟨rfl, hlt, hrest⟩ := h
      exact hlt.le.trans (ih hrest)

/-- The interval of a mark, cut to the span. -/
def tile (start stop step t : K) : K × K := (max t start, min (t + step) stop)

open List

/-- **From mark to mark the span is tiled**, from the mark that the loop is at. -/
theorem tiles_of_collect {start : K} (hspan : start < stop) (hstep : 0 < step)
    (ht : start < t + step) (span : β → K × K)
    (hf : ∀ u i, t ≤ u → span (f u i) = tile start stop step u)
    (hout : collect f step stop fuel t i = some out) :
    Tiles (min (max t start) stop) stop (out.map span) := by
  induction fuel generalizing t i out with
  | zero =>
      rcases le_or_gt stop t with hle | hlt
      · rw [collect_of_le hle] at hout
        cases hout
        exact min_eq_right (hle.trans (le_max_left t start))
      · obtain ⟨_, _, hfuel, _⟩ := collect_of_lt hlt hout
        cases hfuel
  | succ fuel ih =>
      rcases le_or_gt stop t with hle | hlt
      · rw [collect_of_le hle] at hout
        cases hout
        exact min_eq_right (hle.trans (le_max_left t start))
      · obtain ⟨_, rest, hfuel, rfl, hrest⟩ := collect_of_lt hlt hout
        obtain rfl := Nat.succ.inj hfuel
        have htail := ih (by linarith) (fun u i hu => hf u i (by linarith)) hrest
        rw [max_eq_left ht.le] at htail
        rw [map_cons, hf t i le_rfl]
        refine ⟨(min_eq_left (max_le hlt.le hspan.le)).symm, ?_, htail⟩
        exact max_lt (lt_min (by linarith) hlt) (lt_min ht hspan)

/-- Where the tiles start. -/
theorem mem_starts_iff {start : K} (span : β → K × K)
    (hf : ∀ u i, t ≤ u → span (f u i) = tile start stop step u)
    (hstep : 0 < step) (hout : collect f step stop fuel t i = some out) (x : K) :
    x ∈ (out.map span).map Prod.fst ↔
      ∃ k : Nat, x = max (t + k * step) start ∧ t + k * step < stop := by
  induction fuel generalizing t i out with
  | zero =>
      rcases le_or_gt stop t with hle | hlt
      · rw [collect_of_le hle] at hout
        cases hout
        constructor
        · intro h
          cases h
        · rintro ⟨k, _, hk⟩
          have hpos : 0 ≤ (k : K) * step := mul_nonneg (Nat.cast_nonneg k) hstep.le
          exact absurd hk (not_lt.mpr (by linarith))
      · obtain ⟨_, _, hfuel, _⟩ := collect_of_lt hlt hout
        cases hfuel
  | succ fuel ih =>
      rcases le_or_gt stop t with hle | hlt
      · rw [collect_of_le hle] at hout
        cases hout
        constructor
        · intro h
          cases h
        · rintro ⟨k, _, hk⟩
          have hpos : 0 ≤ (k : K) * step := mul_nonneg (Nat.cast_nonneg k) hstep.le
          exact absurd hk (not_lt.mpr (by linarith))
      · obtain ⟨_, rest, hfuel, rfl, hrest⟩ := collect_of_lt hlt hout
        obtain rfl := Nat.succ.inj hfuel
        have hnext : ∀ k : Nat, t + step + k * step = t + (k + 1 : Nat) * step := by
          intro k
          push_cast
          ring
        have htail := ih (fun u i hu => hf u i (by linarith)) hrest
        rw [map_cons, map_cons, mem_cons, htail, hf t i le_rfl]
        constructor
        · rintro (rfl | ⟨k, hx, hk⟩)
          · exact ⟨0, by simp [tile], by simpa using hlt⟩
          · rw [hnext] at hx hk
            exact ⟨k + 1, hx, hk⟩
        · rintro ⟨k, hx, hk⟩
          cases k with
          | zero =>
              rw [Nat.cast_zero, zero_mul, add_zero] at hx
              exact Or.inl hx
          | succ k =>
              rw [← hnext] at hx hk
              exact Or.inr ⟨k, hx, hk⟩

/-! ### Counting -/

section Counting

omit [Field K] [IsStrictOrderedRing K]

/-- How many of the times lie in a closed interval. -/
def within (times : List K) (a b : K) : Nat := times.countP fun t => a ≤ t && t ≤ b

theorem within_split (times : List K) {a e b : K} (hae : a ≤ e) (heb : e ≤ b) :
    within times a e + within times e b = within times a b + times.count e := by
  unfold within
  induction times with
  | nil => rfl
  | cons t times ih =>
      rw [countP_cons, countP_cons, countP_cons, count_cons]
      rcases lt_trichotomy t e with h | rfl | h
      · have h1 : (decide (e ≤ t) && decide (t ≤ b)) = false := by simp [h]
        have h2 : (t == e) = false := by simp [h.ne]
        have h3 : decide (t ≤ e) = decide (t ≤ b) := by simp [h.le, h.le.trans heb]
        rw [h1, h2, h3]
        omega
      · simp only [hae, heb, le_refl, decide_true, Bool.and_self, if_true, beq_self_eq_true]
        omega
      · have h1 : (decide (a ≤ t) && decide (t ≤ e)) = false := by simp [h]
        have h2 : (t == e) = false := by simp [h.ne']
        have h3 : decide (e ≤ t) = decide (a ≤ t) := by simp [h.le, hae.trans h.le]
        rw [h1, h2, h3]
        omega

/-- A time on a boundary between two tiles is counted once more. -/
theorem sum_within {a b : K} {first : K × K} {rest : List (K × K)} (times : List K)
    (h : Tiles a b (first :: rest)) :
    ((first :: rest).map fun tile => within times tile.1 tile.2).sum =
      within times a b + (rest.map fun tile => times.count tile.1).sum := by
  induction rest generalizing a first with
  | nil =>
      obtain ⟨rfl, _, hend⟩ := h
      obtain rfl : first.2 = b := hend
      simp
  | cons next rest ih =>
      obtain ⟨rfl, hlt, htail⟩ := h
      have hsum := ih htail
      have hle := htail.le
      obtain ⟨hstart, _, _⟩ := htail
      have hsplit := within_split times hlt.le hle
      rw [map_cons, sum_cons, hsum, map_cons, sum_cons, hstart]
      omega

/-- **The counts over the tiles add up to the count over the span if and only if** no time lies on a
boundary between two tiles. -/
theorem sum_within_iff {a b : K} {first : K × K} {rest : List (K × K)} (times : List K)
    (h : Tiles a b (first :: rest)) :
    ((first :: rest).map fun tile => within times tile.1 tile.2).sum = within times a b ↔
      ∀ x ∈ rest.map Prod.fst, x ∉ times := by
  rw [sum_within times h]
  constructor
  · intro hsum x hx
    have hzero : (rest.map fun tile => times.count tile.1).sum = 0 := by omega
    obtain ⟨tile, htile, rfl⟩ := mem_map.mp hx
    have hcount := List.sum_eq_zero_iff_forall_eq_nat.mp hzero (times.count tile.1) (mem_map_of_mem htile)
    exact count_eq_zero.mp hcount
  · intro hnone
    have hzero : (rest.map fun tile => times.count tile.1).sum = 0 := by
      apply List.sum_eq_zero_iff_forall_eq_nat.mpr
      intro n hn
      obtain ⟨tile, htile, rfl⟩ := mem_map.mp hn
      exact count_eq_zero.mpr (hnone tile.1 (mem_map_of_mem htile))
    rw [hzero, Nat.add_zero]

end Counting

end Tilings
