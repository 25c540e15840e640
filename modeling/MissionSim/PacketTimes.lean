import Mathlib.Data.List.Find
import Mathlib.Data.List.Pairwise
import Mathlib.Data.Rat.Floor
import Mathlib.Tactic.FieldSimp
import Mathlib.Tactic.Linarith
import Mathlib.Tactic.Positivity

/-!
# The times of packets without a time

Most packets of a dump carry the on-board time in whole seconds; verification reports and some others
carry zero.  The latter are placed between their neighbours in the file: in proportion to their
position between two different seconds, and a millisecond off a neighbour elsewhere.

Between two packets of one second there is no room for a millisecond.  So the times keep the order of
the file exactly if no packet without a time lies between two of the same second
(`assignTimes_keeps_order_iff`).
-/

namespace Reporting

/-- `zero_cuc_policy`. -/
inductive ZeroCucPolicy
  | interpolate
  | exclude
  | pinToDumpStart
deriving DecidableEq, Repr

/-- A packet of a dump. -/
structure Record where
  svc : Nat
  sub : Nat
  /-- Whole seconds, or zero. -/
  cuc : Nat
  t : Option ℚ := none
  timeEstimated : Bool := false
deriving DecidableEq, Repr

/-- `[(i, r["cuc"]) for i, r in enumerate(records) if r["cuc"]]`. -/
def nonzero (records : List Record) : List (Nat × Nat) :=
  (records.zipIdx.filter fun r => r.1.cuc ≠ 0).map fun r => (r.2, r.1.cuc)

/-- The last packet with a time before a position.  It is the one of the highest position. -/
def bracketBefore (nz : List (Nat × Nat)) (idx : Nat) : Option (Nat × Nat) :=
  nz.reverse.find? fun p => p.1 < idx

/-- The first packet with a time after a position. -/
def bracketAfter (nz : List (Nat × Nat)) (idx : Nat) : Option (Nat × Nat) :=
  nz.find? fun p => idx < p.1

/-- The time between two neighbours, by index distance. -/
def between (before after : Nat × Nat) (idx : Nat) : ℚ :=
  let prev : ℚ := before.2
  let nxt : ℚ := after.2
  let frac : ℚ := ((idx : ℚ) - before.1) / max ((after.1 : ℚ) - before.1) 1
  let t := prev + (nxt - prev) * frac
  -- keep strictly between when the bracket is a single second
  let t := if t ≤ prev then prev + 1 / 1000 else t
  if nxt ≤ t ∧ prev < nxt then nxt - 1 / 1000 else t

/-- The time that is interpolated at a position. -/
def interpolated (nz : List (Nat × Nat)) (idx : Nat) : Option ℚ :=
  match bracketBefore nz idx, bracketAfter nz idx with
  | some before, some after => some (between before after idx)
  | some before, none => some (before.2 + 1 / 1000)
  | none, some after => some (after.2 - 1 / 1000)
  | none, none => none

/-- The time of a packet that carries none. -/
def placed (policy : ZeroCucPolicy) (nz : List (Nat × Nat)) (idx : Nat) : Option ℚ :=
  if policy = .exclude then none
  else if policy = .pinToDumpStart ∨ nz = [] then nz.head?.map fun p => (p.2 : ℚ)
  else interpolated nz idx

/-- One packet in `_assign_times`. -/
def assignTime (policy : ZeroCucPolicy) (nz : List (Nat × Nat)) (idx : Nat) (rec : Record) : Record :=
  if rec.cuc ≠ 0 then { rec with t := some rec.cuc }
  else
    { rec with
      t := placed policy nz idx
      timeEstimated := rec.timeEstimated || (placed policy nz idx).isSome }

/-- The packets with their times, and what is counted. -/
structure Placement where
  records : List Record
  zeroCucPlaced : Nat
  zeroCucExcluded : Nat
deriving DecidableEq, Repr

/-- `_assign_times(records, policy)`. -/
def assignTimes (policy : ZeroCucPolicy) (records : List Record) : Placement :=
  let timed := records.mapIdx (assignTime policy (nonzero records))
  let zeros := timed.filter fun r => r.cuc = 0
  { records := timed
    zeroCucPlaced := (zeros.filter fun r => r.t.isSome).length
    zeroCucExcluded := if policy = .exclude then zeros.length else 0 }

/-! ### What is required -/

/-- The packets that carry a time carry it in the order of the file. -/
def Ascending (records : List Record) : Prop :=
  (records.filter fun r => r.cuc ≠ 0).Pairwise fun a b => a.cuc ≤ b.cuc

instance (records : List Record) : Decidable (Ascending records) :=
  inferInstanceAs (Decidable (List.Pairwise _ _))

/-- A packet without a time at `k` between packets with a time at `i` and `j`. -/
structure Bracketed (records : List Record) (i k j : Nat) (a z b : Record) : Prop where
  left : records[i]? = some a
  middle : records[k]? = some z
  right : records[j]? = some b
  left_lt : i < k
  lt_right : k < j
  left_timed : a.cuc ≠ 0
  untimed : z.cuc = 0
  right_timed : b.cuc ≠ 0

/-- The times do not decrease, and a packet between two with different times gets one strictly
between. -/
structure KeepsOrder (records : List Record) : Prop where
  nondecreasing :
    ((assignTimes .interpolate records).records.filterMap Record.t).Pairwise (· ≤ ·)
  strictly : ∀ i k j a z b, Bracketed records i k j a z b → a.cuc ≠ b.cuc →
    ∃ r t, (assignTimes .interpolate records).records[k]? = some r ∧ r.t = some t ∧
      (a.cuc : ℚ) < t ∧ t < b.cuc

/-- No packet without a time lies between two of the same second. -/
def NoSameSecond (records : List Record) : Prop :=
  ∀ i k j a z b, Bracketed records i k j a z b → a.cuc ≠ b.cuc

/-! ### Neighbours -/

open List

/-- What is found first is related to everything else that could be found. -/
theorem find?_first {α : Type} {R : α → α → Prop} {l : List α} {p : α → Bool} {b : α}
    (h : l.Pairwise R) (hfind : l.find? p = some b) :
    b ∈ l ∧ p b = true ∧ ∀ q ∈ l, p q = true → q = b ∨ R b q := by
  obtain ⟨hp, as, bs, rfl, has⟩ := find?_eq_some_iff_append.mp hfind
  refine ⟨mem_append_right as mem_cons_self, hp, fun q hq hpq => ?_⟩
  rcases mem_append.mp hq with hq | hq
  · have hnot := has q hq
    rw [hpq] at hnot
    cases hnot
  · rcases mem_cons.mp hq with rfl | hq
    · exact Or.inl rfl
    · exact Or.inr ((pairwise_cons.mp (pairwise_append.mp h).2.1).1 q hq)

variable {records : List Record} {idx : Nat} {p : Nat × Nat}

theorem mem_nonzero {k c : Nat} :
    (k, c) ∈ nonzero records ↔ ∃ r, records[k]? = some r ∧ r.cuc = c ∧ c ≠ 0 := by
  unfold nonzero
  rw [mem_map]
  constructor
  · rintro ⟨r, hr, heq⟩
    have hparts := mem_filter.mp hr
    have hget := mem_zipIdx_iff_getElem?.mp hparts.1
    have hcuc : r.1.cuc ≠ 0 := by simpa using hparts.2
    obtain ⟨rfl, rfl⟩ := Prod.mk.inj heq
    exact ⟨r.1, hget, rfl, hcuc⟩
  · rintro ⟨r, hget, rfl, hcuc⟩
    refine ⟨(r, k), mem_filter.mpr ⟨?_, by simpa using hcuc⟩, rfl⟩
    exact mem_zipIdx_iff_getElem?.mpr hget

theorem pairwise_nonzero (records : List Record) :
    (nonzero records).Pairwise fun a b => a.1 < b.1 := by
  have h : (records.zipIdx.map Prod.snd).Pairwise (· < ·) := by
    rw [zipIdx_map_snd]
    exact pairwise_lt_range' ..
  exact pairwise_map.mpr ((pairwise_map.mp h).filter _)

theorem bracketAfter_spec (h : bracketAfter (nonzero records) idx = some p) :
    p ∈ nonzero records ∧ idx < p.1 ∧ ∀ q ∈ nonzero records, idx < q.1 → p.1 ≤ q.1 := by
  have hspec := find?_first (pairwise_nonzero records) h
  refine ⟨hspec.1, by simpa using hspec.2.1, fun q hq hlt => ?_⟩
  rcases hspec.2.2 q hq (by simpa using hlt) with rfl | hgt
  · exact le_rfl
  · exact hgt.le

theorem bracketBefore_spec (h : bracketBefore (nonzero records) idx = some p) :
    p ∈ nonzero records ∧ p.1 < idx ∧ ∀ q ∈ nonzero records, q.1 < idx → q.1 ≤ p.1 := by
  have hreverse : (nonzero records).reverse.Pairwise fun a b => b.1 < a.1 :=
    pairwise_reverse.mpr (pairwise_nonzero records)
  have hspec := find?_first hreverse h
  refine ⟨mem_reverse.mp hspec.1, by simpa using hspec.2.1, fun q hq hlt => ?_⟩
  rcases hspec.2.2 q (mem_reverse.mpr hq) (by simpa using hlt) with rfl | hgt
  · exact le_rfl
  · exact hgt.le

theorem exists_bracketAfter {q : Nat × Nat} (hq : q ∈ nonzero records) (hlt : idx < q.1) :
    ∃ p, bracketAfter (nonzero records) idx = some p := by
  cases hfind : bracketAfter (nonzero records) idx with
  | some p => exact ⟨p, rfl⟩
  | none =>
      have hnot := find?_eq_none.mp hfind q hq
      simp [hlt] at hnot

theorem exists_bracketBefore {q : Nat × Nat} (hq : q ∈ nonzero records) (hlt : q.1 < idx) :
    ∃ p, bracketBefore (nonzero records) idx = some p := by
  cases hfind : bracketBefore (nonzero records) idx with
  | some p => exact ⟨p, rfl⟩
  | none =>
      have hnot := find?_eq_none.mp hfind q (mem_reverse.mpr hq)
      simp [hlt] at hnot

/-! ### Between two neighbours -/

section Between

variable {before after : Nat × Nat}

/-- Between different seconds no nudge is needed. -/
theorem between_eq (hlo : before.1 < idx) (hhi : idx < after.1) (hlt : before.2 < after.2) :
    between before after idx =
      before.2 + ((after.2 : ℚ) - before.2) *
        (((idx : ℚ) - before.1) / ((after.1 : ℚ) - before.1)) ∧
      (before.2 : ℚ) < between before after idx ∧ between before after idx < after.2 := by
  have hlo' : (before.1 : ℚ) + 1 ≤ idx := by exact_mod_cast hlo
  have hhi' : (idx : ℚ) + 1 ≤ after.1 := by exact_mod_cast hhi
  have hlt' : (before.2 : ℚ) < after.2 := by exact_mod_cast hlt
  have hwidth : 0 < (after.1 : ℚ) - before.1 := by linarith
  have hmax : max ((after.1 : ℚ) - before.1) 1 = (after.1 : ℚ) - before.1 :=
    max_eq_left (by linarith)
  have hfrac0 : 0 < ((idx : ℚ) - before.1) / ((after.1 : ℚ) - before.1) :=
    div_pos (by linarith) hwidth
  have hfrac1 : ((idx : ℚ) - before.1) / ((after.1 : ℚ) - before.1) < 1 :=
    (div_lt_one hwidth).mpr (by linarith)
  have hgap : 0 < (after.2 : ℚ) - before.2 := by linarith
  have habove := mul_pos hgap hfrac0
  have hbelow := mul_lt_of_lt_one_right hgap hfrac1
  have heq : between before after idx =
      before.2 + ((after.2 : ℚ) - before.2) *
        (((idx : ℚ) - before.1) / ((after.1 : ℚ) - before.1)) := by
    have hprev : ¬ (before.2 : ℚ) + ((after.2 : ℚ) - before.2) *
        (((idx : ℚ) - before.1) / ((after.1 : ℚ) - before.1)) ≤ before.2 := by linarith
    have hnxt : ¬ ((after.2 : ℚ) ≤ (before.2 : ℚ) + ((after.2 : ℚ) - before.2) *
        (((idx : ℚ) - before.1) / ((after.1 : ℚ) - before.1)) ∧ (before.2 : ℚ) < after.2) :=
      fun hnudge => by linarith [hnudge.1]
    unfold between
    simp only [hmax, if_neg hprev, if_neg hnxt]
  rw [heq]
  exact ⟨rfl, by linarith, by linarith⟩

/-- Within one second the packet is put a millisecond after both neighbours. -/
theorem between_same (hsame : before.2 = after.2) :
    between before after idx = after.2 + 1 / 1000 := by
  unfold between
  dsimp only
  rw [hsame, sub_self, zero_mul, add_zero, if_pos le_rfl, if_neg fun h => lt_irrefl _ h.2]

theorem between_mono {i j : Nat} (hlo : before.1 < i) (hij : i ≤ j) (hhi : j < after.1)
    (hlt : before.2 < after.2) : between before after i ≤ between before after j := by
  have hcast : (i : ℚ) ≤ j := by exact_mod_cast hij
  have hlo' : (before.1 : ℚ) < after.1 := by exact_mod_cast hlo.trans_le (hij.trans hhi.le)
  have hlt' : (before.2 : ℚ) < after.2 := by exact_mod_cast hlt
  rw [(between_eq hlo (hij.trans_lt hhi) hlt).1, (between_eq (hlo.trans_le hij) hhi hlt).1]
  have hfrac : ((i : ℚ) - before.1) / ((after.1 : ℚ) - before.1) ≤
      ((j : ℚ) - before.1) / ((after.1 : ℚ) - before.1) :=
    div_le_div_of_nonneg_right (by linarith) (by linarith)
  have hmul := mul_le_mul_of_nonneg_left hfrac (sub_nonneg.mpr hlt'.le)
  linarith

end Between

/-! ### The order of the times -/

theorem assignTime_timed {nz : List (Nat × Nat)} {rec : Record} (h : rec.cuc ≠ 0) :
    (assignTime .interpolate nz idx rec).t = some (rec.cuc : ℚ) := by
  unfold assignTime
  rw [if_pos h]

theorem assignTime_untimed {nz : List (Nat × Nat)} {rec : Record} (h : rec.cuc = 0) :
    (assignTime .interpolate nz idx rec).t = interpolated nz idx := by
  unfold assignTime
  rw [if_neg (not_not.mpr h)]
  cases nz with
  | nil => rfl
  | cons p nz => simp [placed]

theorem getElem?_assignTimes (records : List Record) (k : Nat) :
    (assignTimes .interpolate records).records[k]? =
      records[k]?.map (assignTime .interpolate (nonzero records) k) :=
  List.getElem?_mapIdx

theorem Ascending.le (h : Ascending records) {i j a b : Nat} (ha : (i, a) ∈ nonzero records)
    (hb : (j, b) ∈ nonzero records) (hij : i ≤ j) : a ≤ b := by
  obtain ⟨r, hr, rfl, hr0⟩ := mem_nonzero.mp ha
  obtain ⟨r', hr', rfl, hr0'⟩ := mem_nonzero.mp hb
  obtain ⟨hi, rfl⟩ := List.getElem?_eq_some_iff.mp hr
  obtain ⟨hj, rfl⟩ := List.getElem?_eq_some_iff.mp hr'
  rcases hij.lt_or_eq with hlt | rfl
  · have hall := pairwise_iff_getElem.mp (pairwise_filter.mp h)
    exact hall i j hi hj hlt (by simpa using hr0) (by simpa using hr0')
  · exact le_rfl

section Order

variable (hsorted : Ascending records) (hroom : NoSameSecond records)
include hsorted hroom

variable {z : Record}

/-- Around a packet without a time the seconds differ. -/
theorem bracket_lt {p q : Nat × Nat} (hz : records[idx]? = some z) (hcuc : z.cuc = 0)
    (hp : p ∈ nonzero records) (hq : q ∈ nonzero records) (hlo : p.1 < idx) (hhi : idx < q.1) :
    p.2 < q.2 := by
  obtain ⟨a, ha, hacuc, ha0⟩ := mem_nonzero.mp hp
  obtain ⟨b, hb, hbcuc, hb0⟩ := mem_nonzero.mp hq
  have hle := hsorted.le hp hq (hlo.trans hhi).le
  have hne := hroom p.1 idx q.1 a z b
    ⟨ha, hz, hb, hlo, hhi, hacuc ▸ ha0, hcuc, hbcuc ▸ hb0⟩
  omega

/-- A packet without a time is strictly between its neighbours, where it has two. -/
theorem between_brackets {before after : Nat × Nat} (hz : records[idx]? = some z) (hcuc : z.cuc = 0)
    (hbefore : bracketBefore (nonzero records) idx = some before)
    (hafter : bracketAfter (nonzero records) idx = some after) :
    (before.2 : ℚ) < between before after idx ∧ between before after idx < after.2 := by
  have hb := bracketBefore_spec hbefore
  have ha := bracketAfter_spec hafter
  exact (between_eq hb.2.1 ha.2.1
    (bracket_lt hsorted hroom hz hcuc hb.1 ha.1 hb.2.1 ha.2.1)).2

/-- The time of a packet is at most that of any later one that carries its own. -/
theorem interpolated_lt {k c : Nat} {t : ℚ} (hz : records[idx]? = some z) (hcuc : z.cuc = 0)
    (hk : (k, c) ∈ nonzero records) (hlt : idx < k)
    (ht : interpolated (nonzero records) idx = some t) : t < c := by
  obtain ⟨after, hafter⟩ := exists_bracketAfter hk hlt
  have ha := bracketAfter_spec hafter
  have hle : (after.2 : ℚ) ≤ c := by
    exact_mod_cast hsorted.le ha.1 hk (ha.2.2 (k, c) hk hlt)
  unfold interpolated at ht
  rw [hafter] at ht
  cases hbefore : bracketBefore (nonzero records) idx with
  | some before =>
      rw [hbefore] at ht
      cases ht
      exact (between_brackets hsorted hroom hz hcuc hbefore hafter).2.trans_le hle
  | none =>
      rw [hbefore] at ht
      cases ht
      linarith

/-- The time of a packet is at least that of any earlier one that carries its own. -/
theorem lt_interpolated {k c : Nat} {t : ℚ} (hz : records[idx]? = some z) (hcuc : z.cuc = 0)
    (hk : (k, c) ∈ nonzero records) (hlt : k < idx)
    (ht : interpolated (nonzero records) idx = some t) : (c : ℚ) < t := by
  obtain ⟨before, hbefore⟩ := exists_bracketBefore hk hlt
  have hb := bracketBefore_spec hbefore
  have hle : (c : ℚ) ≤ before.2 := by
    exact_mod_cast hsorted.le hk hb.1 (hb.2.2 (k, c) hk hlt)
  unfold interpolated at ht
  rw [hbefore] at ht
  cases hafter : bracketAfter (nonzero records) idx with
  | some after =>
      rw [hafter] at ht
      cases ht
      exact hle.trans_lt (between_brackets hsorted hroom hz hcuc hbefore hafter).1
  | none =>
      rw [hafter] at ht
      cases ht
      linarith

/-- Packets without a time in one gap are placed in their order. -/
theorem interpolated_mono {i j : Nat} {t t' : ℚ} (hij : i < j) (hz : records[i]? = some z)
    (hcuc : z.cuc = 0) (hgap : ∀ p ∈ nonzero records, p.1 < i ∨ j < p.1)
    (ht : interpolated (nonzero records) i = some t)
    (ht' : interpolated (nonzero records) j = some t') : t ≤ t' := by
  have hbefore : bracketBefore (nonzero records) i = bracketBefore (nonzero records) j := by
    apply find?_congr
    intro p hp
    have hp' := hgap p (mem_reverse.mp hp)
    apply decide_eq_decide.mpr
    omega
  have hafter : bracketAfter (nonzero records) i = bracketAfter (nonzero records) j := by
    apply find?_congr
    intro p hp
    have hp' := hgap p hp
    apply decide_eq_decide.mpr
    omega
  unfold interpolated at ht ht'
  rw [← hbefore, ← hafter] at ht'
  cases hb : bracketBefore (nonzero records) i with
  | some before =>
      rw [hb] at ht ht'
      cases ha : bracketAfter (nonzero records) i with
      | some after =>
          rw [ha] at ht ht'
          cases ht
          cases ht'
          have hb' := bracketBefore_spec hb
          have ha' := bracketAfter_spec ha
          have hj := bracketAfter_spec (hafter ▸ ha)
          exact between_mono hb'.2.1 hij.le hj.2.1
            (bracket_lt hsorted hroom hz hcuc hb'.1 ha'.1 hb'.2.1 ha'.2.1)
      | none =>
          rw [ha] at ht ht'
          exact (Option.some.inj (ht.symm.trans ht')).le
  | none =>
      rw [hb] at ht ht'
      cases ha : bracketAfter (nonzero records) i with
      | some after =>
          rw [ha] at ht ht'
          exact (Option.some.inj (ht.symm.trans ht')).le
      | none =>
          rw [ha] at ht
          cases ht

/-- Two packets in the order of the file have their times in order. -/
theorem assigned_le {i j : Nat} {z z' : Record} {t t' : ℚ} (hij : i < j)
    (hz : records[i]? = some z) (hz' : records[j]? = some z')
    (ht : (assignTime .interpolate (nonzero records) i z).t = some t)
    (ht' : (assignTime .interpolate (nonzero records) j z').t = some t') : t ≤ t' := by
  by_cases hcuc : z.cuc = 0
  · rw [assignTime_untimed hcuc] at ht
    by_cases hcuc' : z'.cuc = 0
    · rw [assignTime_untimed hcuc'] at ht'
      by_cases hgap : ∀ p ∈ nonzero records, p.1 < i ∨ j < p.1
      · exact interpolated_mono hsorted hroom hij hz hcuc hgap ht ht'
      · -- a packet with a time stands between the two
        push Not at hgap
        obtain ⟨⟨k, c⟩, hk, hik, hkj⟩ := hgap
        have hne : ∀ n r, records[n]? = some r → r.cuc = 0 → k ≠ n := by
          rintro n r hr hr0 rfl
          obtain ⟨r', hr', rfl, hr0'⟩ := mem_nonzero.mp hk
          rw [hr] at hr'
          exact hr0' (Option.some.inj hr' ▸ hr0)
        have hlt := interpolated_lt hsorted hroom hz hcuc hk
          (lt_of_le_of_ne hik (hne i z hz hcuc).symm) ht
        have hgt := lt_interpolated hsorted hroom hz' hcuc' hk
          (lt_of_le_of_ne hkj (hne j z' hz' hcuc')) ht'
        exact (hlt.trans hgt).le
    · rw [assignTime_timed hcuc'] at ht'
      cases ht'
      have hj : (j, z'.cuc) ∈ nonzero records := mem_nonzero.mpr ⟨z', hz', rfl, hcuc'⟩
      exact (interpolated_lt hsorted hroom hz hcuc hj hij ht).le
  · rw [assignTime_timed hcuc] at ht
    cases ht
    have hi : (i, z.cuc) ∈ nonzero records := mem_nonzero.mpr ⟨z, hz, rfl, hcuc⟩
    by_cases hcuc' : z'.cuc = 0
    · rw [assignTime_untimed hcuc'] at ht'
      exact (lt_interpolated hsorted hroom hz' hcuc' hi hij ht').le
    · rw [assignTime_timed hcuc'] at ht'
      cases ht'
      have hj : (j, z'.cuc) ∈ nonzero records := mem_nonzero.mpr ⟨z', hz', rfl, hcuc'⟩
      exact_mod_cast hsorted.le hi hj hij.le

theorem keepsOrder_of_room : KeepsOrder records := by
  constructor
  · apply pairwise_filterMap.mpr
    apply pairwise_iff_getElem.mpr
    intro i j hi hj hij t ht t' ht'
    have hget := fun k (hk : k < (assignTimes .interpolate records).records.length) =>
      (List.getElem?_eq_getElem hk).symm.trans (getElem?_assignTimes records k)
    obtain ⟨z, hz, hzeq⟩ := Option.map_eq_some_iff.mp (hget i hi).symm
    obtain ⟨z', hz', hzeq'⟩ := Option.map_eq_some_iff.mp (hget j hj).symm
    rw [← hzeq] at ht
    rw [← hzeq'] at ht'
    exact assigned_le hsorted hroom hij hz hz' ht ht'
  · intro i k j a z b h _
    have ha : (i, a.cuc) ∈ nonzero records := mem_nonzero.mpr ⟨a, h.left, rfl, h.left_timed⟩
    have hb : (j, b.cuc) ∈ nonzero records := mem_nonzero.mpr ⟨b, h.right, rfl, h.right_timed⟩
    have hget : (assignTimes .interpolate records).records[k]? =
        some (assignTime .interpolate (nonzero records) k z) := by
      rw [getElem?_assignTimes, h.middle]
      rfl
    obtain ⟨before, hbefore⟩ := exists_bracketBefore ha h.left_lt
    obtain ⟨after, hafter⟩ := exists_bracketAfter hb h.lt_right
    have ht : interpolated (nonzero records) k = some (between before after k) := by
      unfold interpolated
      rw [hbefore, hafter]
    exact ⟨_, _, hget, (assignTime_untimed h.untimed).trans ht,
      lt_interpolated hsorted hroom h.middle h.untimed ha h.left_lt ht,
      interpolated_lt hsorted hroom h.middle h.untimed hb h.lt_right ht⟩

end Order

/-- A packet between two of one second gets a later time than the second of them. -/
theorem room_of_keepsOrder (hsorted : Ascending records) (h : KeepsOrder records) :
    NoSameSecond records := by
  intro i k j a z b hbr hsame
  have ha : (i, a.cuc) ∈ nonzero records := mem_nonzero.mpr ⟨a, hbr.left, rfl, hbr.left_timed⟩
  have hb : (j, b.cuc) ∈ nonzero records := mem_nonzero.mpr ⟨b, hbr.right, rfl, hbr.right_timed⟩
  obtain ⟨before, hbefore⟩ := exists_bracketBefore ha hbr.left_lt
  obtain ⟨⟨n, c⟩, hafter⟩ := exists_bracketAfter hb hbr.lt_right
  have hb' := bracketBefore_spec hbefore
  have ha' := bracketAfter_spec hafter
  -- the neighbours carry that same second
  have h1 : a.cuc ≤ before.2 := hsorted.le ha hb'.1 (hb'.2.2 _ ha hbr.left_lt)
  have h2 : before.2 ≤ c := hsorted.le hb'.1 ha'.1 (hb'.2.1.trans ha'.2.1).le
  have h3 : c ≤ b.cuc := hsorted.le ha'.1 hb (ha'.2.2 _ hb hbr.lt_right)
  have hone : before.2 = c := by omega
  have ht : interpolated (nonzero records) k = some ((c : ℚ) + 1 / 1000) := by
    unfold interpolated
    rw [hbefore, hafter]
    exact congrArg some (between_same hone)
  obtain ⟨r, hr, hrc, hr0⟩ := mem_nonzero.mp ha'.1
  have hall := pairwise_iff_getElem.mp (pairwise_filterMap.mp h.nondecreasing)
  have hgetk : (assignTimes .interpolate records).records[k]? =
      some (assignTime .interpolate (nonzero records) k z) := by
    rw [getElem?_assignTimes, hbr.middle]
    rfl
  have hgetn : (assignTimes .interpolate records).records[n]? =
      some (assignTime .interpolate (nonzero records) n r) := by
    rw [getElem?_assignTimes, hr]
    rfl
  obtain ⟨hk, hkeq⟩ := List.getElem?_eq_some_iff.mp hgetk
  obtain ⟨hn, hneq⟩ := List.getElem?_eq_some_iff.mp hgetn
  have hle := hall k n hk hn ha'.2.1 ((c : ℚ) + 1 / 1000)
    (by rw [hkeq, assignTime_untimed hbr.untimed, ht]) c
    (by rw [hneq, assignTime_timed (hrc ▸ hr0), hrc])
  linarith

/-- **The times keep the order of the file if and only if** no packet without a time lies between two
of the same second. -/
theorem assignTimes_keeps_order_iff (records : List Record) (hsorted : Ascending records) :
    KeepsOrder records ↔ NoSameSecond records :=
  ⟨room_of_keepsOrder hsorted, keepsOrder_of_room hsorted⟩

/-- A packet without a time between seconds 10 and 20. -/
theorem assignTimes_keeps_order_example :
    KeepsOrder [{ svc := 3, sub := 25, cuc := 10 }, { svc := 1, sub := 1, cuc := 0 },
      { svc := 3, sub := 25, cuc := 20 }] := by
  apply (assignTimes_keeps_order_iff _ (by decide)).mpr
  intro i k j a z b h hsame
  have hi := (List.getElem?_eq_some_iff.mp h.left).1
  have hj := (List.getElem?_eq_some_iff.mp h.right).1
  have hpos := h.left_lt
  have hpos' := h.lt_right
  simp only [List.length_cons, List.length_nil] at hi hj
  obtain rfl : i = 0 := by omega
  obtain rfl : j = 2 := by omega
  have ha := Option.some.inj h.left
  have hb := Option.some.inj h.right
  rw [← ha, ← hb] at hsame
  cases hsame

/-- Between two packets of second 10, a packet is put at 10.001. -/
theorem assignTimes_not_in_order :
    ¬ KeepsOrder [{ svc := 3, sub := 25, cuc := 10 }, { svc := 1, sub := 1, cuc := 0 },
      { svc := 3, sub := 25, cuc := 10 }] := by
  intro h
  have horder := h.nondecreasing
  revert horder
  decide +kernel

end Reporting
