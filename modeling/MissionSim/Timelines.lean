import Mathlib.Algebra.BigOperators.Ring.List
import Mathlib.Algebra.Order.BigOperators.Group.List
import Mathlib.Algebra.Order.Field.Basic
import Mathlib.Tactic.Linarith
import Mathlib.Tactic.Ring

/-!
# Timelines cut at boundaries, and a store with a limit

A strictly sorted list of times cuts its span into gaps.  An interval whose ends are among the times
is covered without rest: the gaps within it add up to its length (`covered_eq`).  So what is
produced at a constant rate over such an interval is the same, whether it is summed gap by gap or
at once (`sum_rate`).

A store takes an inflow and gives up to a demand, in steps.  What it cannot hold is spilled.  What
was there and flowed in is there, drawn or spilled (`Store.total_step`), and the level stays between
zero and the limit (`Store.step_within`).
-/

namespace Timelines

variable {K : Type} [Field K] [LinearOrder K]

/-! ### Numerals

The numerals that several definitions share: factors of time and of data, parts and percents. -/

scoped instance atLeastTwo_2 : Nat.AtLeastTwo 2 := ⟨by decide⟩

scoped instance atLeastTwo_8 : Nat.AtLeastTwo 8 := ⟨by decide⟩

scoped instance atLeastTwo_10 : Nat.AtLeastTwo 10 := ⟨by decide⟩

scoped instance atLeastTwo_30 : Nat.AtLeastTwo 30 := ⟨by decide⟩

scoped instance atLeastTwo_100 : Nat.AtLeastTwo 100 := ⟨by decide⟩

scoped instance atLeastTwo_1000 : Nat.AtLeastTwo 1000 := ⟨by decide⟩

scoped instance atLeastTwo_1024 : Nat.AtLeastTwo 1024 := ⟨by decide⟩

scoped instance atLeastTwo_3600 : Nat.AtLeastTwo 3600 := ⟨by decide⟩

scoped instance atLeastTwo_1000000000 : Nat.AtLeastTwo 1000000000 := ⟨by decide⟩

/-! ### Gaps -/

/-- Consecutive times. -/
def gaps (times : List K) : List (K × K) := times.zip times.tail

omit [Field K] [LinearOrder K] in
theorem gaps_cons_cons (x y : K) (rest : List K) :
    gaps (x :: y :: rest) = (x, y) :: gaps (y :: rest) := rfl

/-- A gap lies within an interval. -/
def Within (interval gap : K × K) : Prop := interval.1 ≤ gap.1 ∧ gap.2 ≤ interval.2

instance (interval gap : K × K) : Decidable (Within interval gap) :=
  inferInstanceAs (Decidable (_ ∧ _))

/-- The length of a gap. -/
def length (gap : K × K) : K := gap.2 - gap.1

/-- The length of a gap, where a condition holds. -/
def lengthIf (p : K × K → Prop) [DecidablePred p] (gap : K × K) : K := if p gap then length gap else 0

/-- The length of the gaps within an interval. -/
def covered (interval : K × K) (times : List K) : K :=
  ((gaps times).map (lengthIf (Within interval))).sum

open List

theorem covered_cons_cons (interval : K × K) (x y : K) (rest : List K) :
    covered interval (x :: y :: rest) =
      lengthIf (Within interval) (x, y) + covered interval (y :: rest) := by
  unfold covered
  rw [gaps_cons_cons, map_cons, sum_cons]

/-- No gap lies in an interval that ends before the times. -/
theorem covered_eq_zero {a b x : K} {rest : List K} (h : (x :: rest).Pairwise (· < ·))
    (hb : b ≤ x) : covered (a, b) (x :: rest) = 0 := by
  induction rest generalizing x with
  | nil => rfl
  | cons y rest ih =>
      have hxy : x < y := rel_of_pairwise_cons h mem_cons_self
      rw [covered_cons_cons, ih (List.Pairwise.of_cons h) (hb.trans hxy.le), add_zero]
      exact if_neg fun hwithin => absurd (hwithin.2.trans hb) (not_le.mpr hxy)

/-- The gaps from the first time on add up. -/
theorem covered_from {a b x : K} {rest : List K} (h : (x :: rest).Pairwise (· < ·)) (ha : a ≤ x)
    (hb : b ∈ x :: rest) : covered (a, b) (x :: rest) = b - x := by
  induction rest generalizing x with
  | nil =>
      rw [mem_singleton.mp hb, sub_self]
      rfl
  | cons y rest ih =>
      have hxy : x < y := rel_of_pairwise_cons h mem_cons_self
      rcases mem_cons.mp hb with rfl | hb
      · rw [covered_eq_zero h le_rfl, sub_self]
      · have htail := List.Pairwise.of_cons h
        have hyb : y ≤ b := by
          rcases mem_cons.mp hb with rfl | hmem
          · exact le_rfl
          · exact (rel_of_pairwise_cons htail hmem).le
        have hgap : lengthIf (Within (a, b)) (x, y) = y - x := if_pos ⟨ha, hyb⟩
        rw [covered_cons_cons, hgap, ih htail (ha.trans hxy.le) hb]
        ring

variable {times : List K}

/-- **The gaps within an interval whose ends are among the times add up to its length.** -/
theorem covered_eq {a b : K} (h : times.Pairwise (· < ·)) (ha : a ∈ times) (hb : b ∈ times)
    (hab : a ≤ b) : covered (a, b) times = b - a := by
  induction times with
  | nil => cases ha
  | cons x rest ih =>
      rcases mem_cons.mp ha with rfl | hmem
      · exact covered_from h le_rfl hb
      · have hxa : x < a := rel_of_pairwise_cons h hmem
        have hb' : b ∈ rest := by
          rcases mem_cons.mp hb with rfl | hb'
          · exact absurd hab (not_le.mpr hxa)
          · exact hb'
        cases rest with
        | nil => cases hmem
        | cons y rest =>
            have hgap : lengthIf (Within (a, b)) (x, y) = 0 :=
              if_neg fun hwithin => absurd hwithin.1 (not_le.mpr hxa)
            rw [covered_cons_cons, hgap, zero_add]
            exact ih (List.Pairwise.of_cons h) hmem hb'

omit [Field K] in
theorem lt_of_mem_gaps (h : times.Pairwise (· < ·)) {gap : K × K} (hgap : gap ∈ gaps times) :
    gap.1 < gap.2 := by
  induction times with
  | nil => cases hgap
  | cons x rest ih =>
      cases rest with
      | nil => cases hgap
      | cons y rest =>
          rcases mem_cons.mp hgap with rfl | hmem
          · exact rel_of_pairwise_cons h mem_cons_self
          · exact ih (List.Pairwise.of_cons h) hmem

omit [Field K] in
/-- No time lies inside a gap. -/
theorem apart_of_mem_gaps (h : times.Pairwise (· < ·)) {gap : K × K} (hgap : gap ∈ gaps times)
    {z : K} (hz : z ∈ times) : z ≤ gap.1 ∨ gap.2 ≤ z := by
  induction times with
  | nil => cases hgap
  | cons x rest ih =>
      have hrest := List.Pairwise.of_cons h
      cases rest with
      | nil => cases hgap
      | cons y rest =>
          rcases mem_cons.mp hgap with rfl | hmem
          · rcases mem_cons.mp hz with rfl | hz
            · exact Or.inl le_rfl
            · rcases mem_cons.mp hz with rfl | hz
              · exact Or.inr le_rfl
              · exact Or.inr (rel_of_pairwise_cons hrest hz).le
          · rcases mem_cons.mp hz with rfl | hz
            · have hmem' : gap.1 ∈ y :: rest := (of_mem_zip hmem).1
              exact Or.inl (rel_of_pairwise_cons h hmem').le
            · exact ih hrest hmem hz

/-- A time is in an interval. -/
def Contains (interval : K × K) (x : K) : Prop := interval.1 ≤ x ∧ x < interval.2

instance (interval : K × K) (x : K) : Decidable (Contains interval x) :=
  inferInstanceAs (Decidable (_ ∧ _))

omit [Field K] in
/-- A gap lies within an interval that begins and ends at times if any time of the gap does. -/
theorem within_iff_contains (h : times.Pairwise (· < ·)) {interval gap : K × K}
    (hends : interval.1 ∈ times ∧ interval.2 ∈ times) (hgap : gap ∈ gaps times) {x : K}
    (hx : gap.1 ≤ x ∧ x < gap.2) : Within interval gap ↔ Contains interval x := by
  constructor
  · rintro ⟨hfrom, hto⟩
    exact ⟨hfrom.trans hx.1, hx.2.trans_le hto⟩
  · rintro ⟨hfrom, hto⟩
    refine ⟨?_, ?_⟩
    · rcases apart_of_mem_gaps h hgap hends.1 with hbefore | hafter
      · exact hbefore
      · exact absurd (hafter.trans hfrom) (not_le.mpr hx.2)
    · rcases apart_of_mem_gaps h hgap hends.2 with hbefore | hafter
      · exact absurd (hbefore.trans hx.1) (not_le.mpr hto)
      · exact hafter

/-- Some of the gaps within an interval are no longer together than the interval. -/
theorem sum_lengthIf_le [IsStrictOrderedRing K] {a b : K} (h : times.Pairwise (· < ·))
    (ha : a ∈ times) (hb : b ∈ times) (hab : a ≤ b) {p : K × K → Prop} [DecidablePred p]
    (hp : ∀ gap, p gap → Within (a, b) gap) : ((gaps times).map (lengthIf p)).sum ≤ b - a := by
  rw [← covered_eq h ha hb hab]
  refine sum_le_sum fun gap hgap => ?_
  have hpos : 0 ≤ length gap := sub_nonneg.mpr (lt_of_mem_gaps h hgap).le
  unfold lengthIf
  by_cases hc : p gap
  · rw [if_pos hc, if_pos (hp gap hc)]
  · rw [if_neg hc]
    split
    · exact hpos
    · exact le_rfl

/-- The rates of the intervals that a gap lies within. -/
def rateOver (intervals : List ((K × K) × K)) (gap : K × K) : K :=
  (intervals.map fun i => if Within i.1 gap then i.2 else 0).sum

theorem sum_rateOver (intervals : List ((K × K) × K)) (gs : List (K × K)) :
    (gs.map fun gap => rateOver intervals gap * length gap).sum =
      (intervals.map fun i => i.2 * (gs.map (lengthIf (Within i.1))).sum).sum := by
  induction gs with
  | nil => simp
  | cons gap rest ih =>
      have hhead : rateOver intervals gap * length gap =
          (intervals.map fun i => i.2 * lengthIf (Within i.1) gap).sum := by
        unfold rateOver
        rw [← sum_map_mul_right]
        refine congrArg sum (map_congr_left fun i _ => ?_)
        unfold lengthIf
        split
        · rfl
        · rw [zero_mul, mul_zero]
      rw [map_cons, sum_cons, ih, hhead, ← sum_map_add]
      refine congrArg sum (map_congr_left fun i _ => ?_)
      rw [map_cons, sum_cons, mul_add]

/-- **What is produced gap by gap is what is produced interval by interval.** -/
theorem sum_rate (h : times.Pairwise (· < ·)) {intervals : List ((K × K) × K)}
    (hmem : ∀ i ∈ intervals, i.1.1 ∈ times ∧ i.1.2 ∈ times ∧ i.1.1 ≤ i.1.2) :
    ((gaps times).map fun gap => rateOver intervals gap * length gap).sum =
      (intervals.map fun i => i.2 * length i.1).sum := by
  rw [sum_rateOver]
  refine congrArg sum (map_congr_left fun i hi => ?_)
  obtain ⟨ha, hb, hab⟩ := hmem i hi
  exact congrArg (i.2 * ·) (covered_eq h ha hb hab)

/-! ### Stores -/

/-- A store, with what it has spilled and what was drawn from it. -/
structure Store (K : Type) where
  level : K
  spilled : K
  drawn : K

namespace Store

/-- What flows in fills the store up to the limit, and is then drawn up to the demand. -/
def step (limit inflow demand : K) (s : Store K) : Store K :=
  let filled := s.level + inflow
  let kept := min filled limit
  let given := min kept demand
  { level := kept - given, spilled := s.spilled + (filled - kept), drawn := s.drawn + given }

/-- What was ever in the store. -/
def total (s : Store K) : K := s.level + s.drawn + s.spilled

/-- **A step accounts for what flows in.** -/
theorem total_step (limit inflow demand : K) (s : Store K) :
    (s.step limit inflow demand).total = s.total + inflow := by
  unfold total step
  ring

variable [IsStrictOrderedRing K] {limit : K}

/-- **A step keeps the level between zero and the limit.** -/
theorem step_within {inflow demand : K} {s : Store K} (hinflow : 0 ≤ inflow) (hdemand : 0 ≤ demand)
    (h : 0 ≤ s.level ∧ s.level ≤ limit) :
    0 ≤ (s.step limit inflow demand).level ∧ (s.step limit inflow demand).level ≤ limit := by
  have hkept : 0 ≤ min (s.level + inflow) limit :=
    le_min (add_nonneg h.1 hinflow) (h.1.trans h.2)
  have hgiven : 0 ≤ min (min (s.level + inflow) limit) demand := le_min hkept hdemand
  refine ⟨sub_nonneg.mpr (min_le_left _ _), ?_⟩
  exact (sub_le_self _ hgiven).trans (min_le_right _ _)

end Store

end Timelines
