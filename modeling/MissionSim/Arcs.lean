import Mathlib.Algebra.Order.Floor.Ring
import Mathlib.Tactic.Linarith
import Mathlib.Tactic.Ring

/-!
# Distances on a circle

Positions on a circle are numbers up to whole turns.  The arc of a difference is its length the short
way round.  Seen from outside an interval, its near edge is the nearest of its points exactly if the
way round to the far edge is no shorter (`near_edge_iff`).
-/

namespace Arcs

variable {K : Type} [Field K] [LinearOrder K] [FloorRing K]

/-- What is left of `x` after whole turns `p`; at least zero for a positive turn. -/
def residue (p x : K) : K := x - p * (⌊x / p⌋ : Int)

/-- The length of a difference, the short way round. -/
def arc (p x : K) : K := min (residue p x) (p - residue p x)

variable [IsStrictOrderedRing K] {p : K}

/-! ### Residues -/

theorem residue_nonneg (hp : 0 < p) (x : K) : 0 ≤ residue p x := by
  have h : (⌊x / p⌋ : K) ≤ x / p := Int.floor_le (x / p)
  have hmul : p * (⌊x / p⌋ : K) ≤ x := by
    rw [mul_comm]
    exact (le_div_iff₀ hp).mp h
  exact sub_nonneg.mpr hmul

theorem residue_lt (hp : 0 < p) (x : K) : residue p x < p := by
  have h : x / p < (⌊x / p⌋ : K) + 1 := Int.lt_floor_add_one (x / p)
  have hmul : x < ((⌊x / p⌋ : K) + 1) * p := (div_lt_iff₀ hp).mp h
  unfold residue
  linarith

omit [IsStrictOrderedRing K] in
theorem eq_residue_add (x : K) : x = residue p x + p * (⌊x / p⌋ : Int) := by
  unfold residue
  ring

theorem residue_add_turns (hp : 0 < p) (x : K) (k : Int) : residue p (x + p * k) = residue p x := by
  have h : (x + p * k) / p = x / p + k := by
    rw [add_div, mul_div_cancel_left₀ (k : K) hp.ne']
  unfold residue
  rw [h, Int.floor_add_intCast]
  push_cast
  ring

theorem residue_of_mem (hp : 0 < p) {x : K} (h0 : 0 ≤ x) (h1 : x < p) : residue p x = x := by
  have h : ⌊x / p⌋ = 0 := by
    apply Int.floor_eq_zero_iff.mpr
    exact ⟨div_nonneg h0 hp.le, (div_lt_one hp).mpr h1⟩
  unfold residue
  rw [h, Int.cast_zero, mul_zero, sub_zero]

theorem residue_turn (hp : 0 < p) : residue p p = 0 := by
  have h := residue_add_turns hp 0 1
  rw [Int.cast_one, mul_one, zero_add] at h
  rw [h]
  exact residue_of_mem hp le_rfl hp

/-! ### Arcs -/

theorem arc_nonneg (hp : 0 < p) (x : K) : 0 ≤ arc p x :=
  le_min (residue_nonneg hp x) (sub_nonneg.mpr (residue_lt hp x).le)

theorem arc_add_turns (hp : 0 < p) (x : K) (k : Int) : arc p (x + p * k) = arc p x := by
  unfold arc
  rw [residue_add_turns hp]

/-- Up to one turn, one way round is `x` and the other the rest of the turn. -/
theorem arc_of_mem (hp : 0 < p) {x : K} (h0 : 0 ≤ x) (h1 : x ≤ p) : arc p x = min x (p - x) := by
  unfold arc
  rcases h1.lt_or_eq with h | rfl
  · rw [residue_of_mem hp h0 h]
  · rw [residue_turn hp, sub_self, sub_zero, min_comm]

theorem arc_neg (hp : 0 < p) (x : K) : arc p (-x) = arc p x := by
  have h0 := residue_nonneg hp x
  have h1 := residue_lt hp x
  have hturn : -x = (p - residue p x) + p * ((-⌊x / p⌋ - 1 : Int) : K) := by
    have h := eq_residue_add (p := p) x
    push_cast
    linarith
  calc arc p (-x) = arc p (p - residue p x) := by rw [hturn, arc_add_turns hp]
    _ = min (p - residue p x) (p - (p - residue p x)) := by
        apply arc_of_mem hp
        · linarith
        · linarith
    _ = arc p x := by
        rw [sub_sub_cancel, min_comm]
        rfl

/-- The difference brought within half a turn has the arc as its size. -/
theorem abs_residue_sub (hp : 0 < p) {half : K} (hhalf : p = half + half) (x : K) :
    |residue p (x + half) - half| = arc p x := by
  have h0 := residue_nonneg hp x
  have h1 := residue_lt hp x
  have hx := eq_residue_add (p := p) x
  rcases lt_or_ge (residue p x) half with h | h
  · have hres : residue p (x + half) = residue p x + half := by
      have hsum : x + half = residue p x + half + p * (⌊x / p⌋ : Int) := by linarith
      rw [hsum, residue_add_turns hp]
      exact residue_of_mem hp (by linarith) (by linarith)
    rw [hres, add_sub_cancel_right, abs_of_nonneg h0]
    exact (min_eq_left (by linarith)).symm
  · have hres : residue p (x + half) = residue p x - half := by
      have hsum : x + half = residue p x - half + p * ((⌊x / p⌋ + 1 : Int) : K) := by
        push_cast
        linarith
      rw [hsum, residue_add_turns hp]
      exact residue_of_mem hp (by linarith) (by linarith)
    have hneg : residue p x - half - half = -(p - residue p x) := by linarith
    rw [hres, hneg, abs_neg, abs_of_nonneg (by linarith)]
    exact (min_eq_right (by linarith)).symm

/-! ### Edges -/

/-- **The near edge of an interval is its nearest point if and only if the far edge is no nearer the
other way round**, or there is nothing to choose. -/
theorem near_edge_iff (hp : 0 < p) {gap width : K} (hw : 0 ≤ width) :
    (∀ t, 0 ≤ t → t ≤ width → arc p gap ≤ arc p (gap + t)) ↔
      width = 0 ∨ residue p gap = 0 ∨ residue p gap + (residue p gap + width) ≤ p := by
  have h0 := residue_nonneg hp gap
  have h1 := residue_lt hp gap
  have hreduce : ∀ t, arc p (gap + t) = arc p (residue p gap + t) := by
    intro t
    have hsum : gap + t = residue p gap + t + p * (⌊gap / p⌋ : Int) := by
      have h := eq_residue_add (p := p) gap
      linarith
    rw [hsum, arc_add_turns hp]
  constructor
  · intro hnear
    by_contra hne
    rw [not_or, not_or, not_le] at hne
    have hwidth : 0 < width := lt_of_le_of_ne hw (Ne.symm hne.1)
    have hres : 0 < residue p gap := lt_of_le_of_ne h0 (Ne.symm hne.2.1)
    -- as far into the interval as the turn allows
    have hle := hnear (min width (p - residue p gap)) (le_min hw (by linarith)) (min_le_left _ _)
    have hpos : 0 < min width (p - residue p gap) := lt_min hwidth (by linarith)
    have hfar : p - (residue p gap + residue p gap) < min width (p - residue p gap) :=
      lt_min (by linarith [hne.2.2]) (by linarith)
    have hin : residue p gap + min width (p - residue p gap) ≤ p := by
      linarith [min_le_right width (p - residue p gap)]
    rw [hreduce, arc_of_mem hp (by linarith) hin] at hle
    have hcloser := hle.trans (min_le_right _ _)
    rcases min_le_iff.mp hcloser with h | h
    · linarith
    · linarith
  · intro hcases t ht htw
    rcases hcases with hwidth | hres | hround
    · have hzero : t = 0 := le_antisymm (htw.trans hwidth.le) ht
      rw [hzero, add_zero]
    · have hzero : arc p gap = 0 := by
        unfold arc
        rw [hres, sub_zero, min_eq_left hp.le]
      rw [hzero]
      exact arc_nonneg hp _
    · have hgap : arc p gap = residue p gap := min_eq_left (by linarith)
      rw [hgap, hreduce, arc_of_mem hp (by linarith) (by linarith)]
      exact le_min (by linarith) (by linarith)

end Arcs
