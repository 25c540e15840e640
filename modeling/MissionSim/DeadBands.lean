import Mathlib.Algebra.Order.BigOperators.Group.List
import Mathlib.Algebra.Order.Group.Abs
import Mathlib.Algebra.Order.Group.MinMax
import Mathlib.Data.List.Induction

/-!
# Ramps with a dead band

A value moves toward a target by increments, and a change within the dead band is not made.  What is
not made is not made up for: only the increments beyond the band count, and the value comes within
the band of the target exactly when they reach that far together.
-/

namespace DeadBands

universe u

variable {K : Type u} [AddCommGroup K] [LinearOrder K] (band target : K)

/-- A value moves by an increment, but not past the target, nor by a change within the band. -/
def move (value increment : K) : K :=
  let moved := min target (value + increment)
  if band < |moved - value| then moved else value

/-- The sum of the increments beyond the band. -/
def beyond (increments : List K) : K := (increments.filter fun x => band < x).sum

/-- The ramp from zero. -/
def ramp (increments : List K) : K := increments.foldl (move band target) 0

variable {band target} {value increment : K} {increments : List K}

theorem beyond_concat (increments : List K) (increment : K) :
    beyond band (increments ++ [increment]) =
      if band < increment then beyond band increments + increment else beyond band increments := by
  unfold beyond
  rw [List.filter_append, List.sum_append]
  split_ifs with hfast
  · rw [List.filter_cons_of_pos (by simpa using hfast)]
    simp
  · rw [List.filter_cons_of_neg (by simpa using hfast)]
    simp

theorem ramp_concat (increments : List K) (increment : K) :
    ramp band target (increments ++ [increment]) =
      move band target (ramp band target increments) increment := List.foldl_concat ..

/-! ### One increment -/

variable [IsOrderedAddMonoid K]

theorem le_move (h : value ≤ target) (hincrement : 0 ≤ increment) :
    value ≤ move band target value increment := by
  unfold move
  dsimp only
  split_ifs
  · exact le_min h (le_add_of_nonneg_right hincrement)
  · exact le_refl value

/-- A value within the band of the target stays, and so does one with an increment within it. -/
theorem move_of_within (h : value ≤ target) (hincrement : 0 ≤ increment)
    (hwithin : target - value ≤ band ∨ increment ≤ band) :
    move band target value increment = value := by
  have hmoved : value ≤ min target (value + increment) :=
    le_min h (le_add_of_nonneg_right hincrement)
  have hsmall : min target (value + increment) - value ≤ band := by
    rcases hwithin with hnear | hslow
    · exact (sub_le_sub_right (min_le_left _ _) value).trans hnear
    · have hstep := sub_le_sub_right (min_le_right target (value + increment)) value
      rw [add_sub_cancel_left] at hstep
      exact hstep.trans hslow
  unfold move
  dsimp only
  rw [abs_of_nonneg (sub_nonneg.mpr hmoved), if_neg hsmall.not_gt]

/-- Any other value moves. -/
theorem move_of_beyond (hincrement : 0 ≤ increment) (hfar : band < target - value)
    (hfast : band < increment) (h : value ≤ target) :
    move band target value increment = min target (value + increment) := by
  have hmoved : value ≤ min target (value + increment) :=
    le_min h (le_add_of_nonneg_right hincrement)
  have hlarge : band < min target (value + increment) - value := by
    rw [lt_sub_iff_add_lt] at hfar ⊢
    refine lt_min hfar ?_
    rw [add_comm value]
    exact add_lt_add_left hfast value
  unfold move
  dsimp only
  rw [abs_of_nonneg (sub_nonneg.mpr hmoved), if_pos hlarge]

/-! ### Ramps -/

/-- The value is as far as the increments beyond the band have come, or it stopped within the
band. -/
structure Follows (band target sum value : K) : Prop where
  behind : value ≤ min target sum
  reached : value = min target sum ∨ target - value ≤ band

/-- **The step lemma.** -/
theorem Follows.move {sum : K} (hband : 0 ≤ band) (h : Follows band target sum value)
    (hincrement : 0 ≤ increment) :
    Follows band target (if band < increment then sum + increment else sum)
      (move band target value increment) := by
  have hle : value ≤ target := h.behind.trans (min_le_left _ _)
  have hgrown : min target sum ≤ min target (sum + increment) :=
    min_le_min_left target (le_add_of_nonneg_right hincrement)
  by_cases hfast : band < increment
  · rw [if_pos hfast]
    by_cases hnear : target - value ≤ band
    · rw [move_of_within hle hincrement (.inl hnear)]
      exact ⟨h.behind.trans hgrown, .inr hnear⟩
    · have hfar := lt_of_not_ge hnear
      have hsum : value = sum := by
        have hvalue := h.reached.resolve_right hnear
        rcases min_choice target sum with htarget | hsum
        · rw [hvalue, htarget, sub_self] at hnear
          exact absurd hband hnear
        · exact hvalue.trans hsum
      rw [move_of_beyond hincrement hfar hfast hle, hsum]
      exact ⟨le_refl _, .inl rfl⟩
  · rw [if_neg hfast, move_of_within hle hincrement (.inr (le_of_not_gt hfast))]
    exact h

/-- **The run lemma.** -/
theorem follows_ramp (hband : 0 ≤ band) (htarget : 0 ≤ target)
    (hincrements : ∀ increment ∈ increments, 0 ≤ increment) :
    Follows band target (beyond band increments) (ramp band target increments) := by
  induction increments using List.reverseRecOn with
  | nil => exact ⟨le_min htarget (le_refl 0), .inl (min_eq_right htarget).symm⟩
  | append_singleton increments increment ih =>
      rw [beyond_concat, ramp_concat]
      apply Follows.move hband
      · exact ih fun other hmem => hincrements other (List.mem_append_left _ hmem)
      · exact hincrements increment (List.mem_append_right _ List.mem_cons_self)

theorem ramp_le_target (hband : 0 ≤ band) (htarget : 0 ≤ target)
    (hincrements : ∀ increment ∈ increments, 0 ≤ increment) :
    ramp band target increments ≤ target :=
  (follows_ramp hband htarget hincrements).behind.trans (min_le_left _ _)

/-- **When a ramp is done**: it is within the band of its target exactly if the increments beyond the
band are. -/
theorem ramp_within_iff (hband : 0 ≤ band) (htarget : 0 ≤ target)
    (hincrements : ∀ increment ∈ increments, 0 ≤ increment) :
    target - ramp band target increments ≤ band ↔ target - beyond band increments ≤ band := by
  have hfollows := follows_ramp hband htarget hincrements
  constructor
  · intro hnear
    have hbehind := hfollows.behind.trans (min_le_right _ _)
    exact (sub_le_sub_left hbehind target).trans hnear
  · intro hsum
    rcases hfollows.reached with hvalue | hnear
    · rw [hvalue]
      rcases min_choice target (beyond band increments) with hmin | hmin
      · rw [hmin, sub_self]
        exact hband
      · rwa [hmin]
    · exact hnear

end DeadBands
