import MissionSim.Division
import MissionSim.Python
import Mathlib.Data.Rat.Floor

/-!
# Floating-point built-ins of the language of the source

Division raises on a zero divisor; `max` and `min` return their first argument unless the second
is greater or smaller, so a NaN in the first place stays.

A value is *not negative* when it is no number below zero: a NaN is not negative.  Sums, products
and quotients of such values are such values.
-/

namespace Python

open Binary32

/-- A literal, the double nearest to `n / d`. -/
@[irreducible] def literal (n : Nat) (d : Nat := 1) : FloatValue := quotient n d

/-- `x / y`. -/
def divide (x y : FloatValue) : Except PyError FloatValue :=
  if truthy y then .ok (x.div y) else .error (.other "float division by zero")

/-- `max(x, y)`. -/
def maxFloat (x y : FloatValue) : FloatValue := if x.lt y then y else x

/-- `min(x, y)`. -/
def minFloat (x y : FloatValue) : FloatValue := if y.lt x then y else x

/-- `math.ceil(x)`. -/
def ceilInt : FloatValue → Except PyError Int
  | .finite negative m e => .ok ⌈dyadic negative m e⌉
  | .infinite _ => .error .overflowError
  | .nan _ _ => .error .valueError

/-- `float(cmd.get(key, default))`. -/
def floatArg (arg : Option Value) (default : FloatValue) : Except PyError FloatValue :=
  (arg.getD (.float default)).toFloat

/-- `int(cmd.get(key, default))`. -/
def intArg (arg : Option Value) (default : Int) : Except PyError Int :=
  (arg.getD (.int default)).toInt

end Python

namespace Binary32

/-- The value is not below zero. -/
def FloatValue.NotNegative : FloatValue → Prop
  | .finite negative m _ => negative = true → m = 0
  | .infinite negative => negative = false
  | .nan _ _ => True

instance : DecidablePred FloatValue.NotNegative
  | .finite _ _ _ => inferInstanceAs (Decidable (_ → _))
  | .infinite _ => inferInstanceAs (Decidable (_ = _))
  | .nan _ _ => inferInstanceAs (Decidable True)

theorem dyadic_nonneg {negative : Bool} {m : Nat} {e : Int} :
    0 ≤ dyadic negative m e ↔ (negative = true → m = 0) := by
  have hpow : (0 : ℚ) < 2 ^ e := zpow_pos (by norm_num) e
  unfold dyadic
  cases negative
  · simp only [Bool.false_eq_true, if_false, false_imp_iff, iff_true]
    positivity
  · simp only [if_true, true_imp_iff, Left.nonneg_neg_iff]
    constructor
    · intro h
      have hle : (m : ℚ) ≤ 0 := le_of_mul_le_mul_right (by simpa using h) hpow
      exact_mod_cast le_antisymm hle (Nat.cast_nonneg m)
    · rintro rfl
      simp

open FloatValue

/-- What is not negative and not above zero is a zero. -/
theorem FloatValue.NotNegative.rat_eq_zero {x zero : FloatValue} (h : x.NotNegative)
    (hzero : zero.rat = 0) (hfinite : ∃ negative m e, zero = .finite negative m e)
    (hle : x.le zero = true) : x.rat = 0 := by
  obtain ⟨negative, m, e, rfl⟩ := hfinite
  cases x with
  | nan | infinite => rfl
  | finite n m' e' =>
      have hnot : ¬ dyadic negative m e < dyadic n m' e' := by
        simpa [le, lt] using hle
      have hvalue : dyadic negative m e = 0 := hzero
      have hpos : 0 ≤ dyadic n m' e' := dyadic_nonneg.mpr h
      show dyadic n m' e' = 0
      linarith [not_lt.mp hnot]

theorem FloatValue.NotNegative.maxFloat (x : FloatValue) {y : FloatValue} (hy : y.NotNegative)
    (hnumber : ∃ negative m e, y = .finite negative m e) :
    (Python.maxFloat x y).NotNegative := by
  unfold Python.maxFloat
  split_ifs with hlt
  · exact hy
  · obtain ⟨negative, m, e, rfl⟩ := hnumber
    cases x with
    | nan n payload => trivial
    | infinite n =>
        cases n
        · rfl
        · simp [lt] at hlt
    | finite n m' e' =>
        have hnot : ¬ dyadic n m' e' < dyadic negative m e := by simpa [lt] using hlt
        exact dyadic_nonneg.mp ((dyadic_nonneg.mpr hy).trans (not_lt.mp hnot))

theorem roundAt_zero (place e : Int) : roundAt place 0 e = 0 := by
  unfold roundAt halfEven
  split_ifs <;> simp

theorem FloatValue.NotNegative.round {negative : Bool} {m : Nat} {e : Int} (h : negative = true → m = 0) :
    (FloatValue.round negative m e).NotNegative := by
  unfold FloatValue.round
  dsimp only
  split_ifs with hfits
  · intro hneg
    rw [h hneg]
    exact roundAt_zero _ _
  · cases negative
    · rfl
    · refine absurd ?_ hfits
      have hlength : bitLength 0 = 0 := rfl
      have hplace : lastPlace 53 (-1074) 0 e = -1074 := rfl
      rw [h rfl, roundAt_zero, hlength, hplace]
      decide

variable {x y : FloatValue}

theorem FloatValue.NotNegative.mul (hx : x.NotNegative) (hy : y.NotNegative) :
    (x.mul y).NotNegative := by
  cases x with
  | nan n payload => cases y <;> trivial
  | infinite n =>
      obtain rfl : n = false := hx
      cases y with
      | nan n' payload => trivial
      | infinite n' =>
          obtain rfl : n' = false := hy
          rfl
      | finite n' m' e' =>
          simp only [mul]
          split_ifs with hzero
          · trivial
          · cases n'
            · rfl
            · exact absurd (hy rfl) hzero
  | finite n m e =>
      cases y with
      | nan n' payload => trivial
      | infinite n' =>
          obtain rfl : n' = false := hy
          simp only [mul]
          split_ifs with hzero
          · trivial
          · cases n
            · rfl
            · exact absurd (hx rfl) hzero
      | finite n' m' e' =>
          refine FloatValue.NotNegative.round fun hsign => ?_
          cases n
          · cases n'
            · cases hsign
            · rw [hy rfl, Nat.mul_zero]
          · rw [hx rfl, Nat.zero_mul]

/-- A quotient by a value that is not zero, or has no sign. -/
theorem FloatValue.NotNegative.div (hx : x.NotNegative) (hy : y.NotNegative)
    (hsign : Python.truthy y = true ∨ ∃ m e, y = .finite false m e) : (x.div y).NotNegative := by
  have hunsigned : ∀ n' m' e', y = .finite n' m' e' → n' = true → m' ≠ 0 := by
    rintro n' m' e' rfl rfl
    rcases hsign with htruthy | ⟨m, e, h⟩
    · simpa [Python.truthy] using htruthy
    · cases h
  cases x with
  | nan n payload => cases y <;> trivial
  | infinite n =>
      obtain rfl : n = false := hx
      cases y with
      | nan | infinite => trivial
      | finite n' m' e' =>
          cases n'
          · rfl
          · exact absurd (hy rfl) (hunsigned true m' e' rfl rfl)
  | finite n m e =>
      cases y with
      | nan n' payload => trivial
      | infinite n' => exact fun _ => rfl
      | finite n' m' e' =>
          by_cases hzero : m' = 0
          · simp only [div, if_pos hzero]
            split_ifs with hnumerator
            · trivial
            · cases n
              · cases n'
                · rfl
                · exact absurd hzero (hunsigned true m' e' rfl rfl)
              · exact absurd (hx rfl) hnumerator
          · simp only [div, if_neg hzero]
            refine FloatValue.NotNegative.round fun hsign => ?_
            cases n
            · cases n'
              · cases hsign
              · exact absurd (hy rfl) hzero
            · rw [hx rfl]
              simp

/-- A literal has no sign. -/
theorem literal_cases (n d : Nat) :
    (∃ m e, Python.literal n d = .finite false m e) ∨ Python.literal n d = .infinite false := by
  have hsign : decide ((n : Int) < 0) = false := decide_eq_false (by omega)
  unfold Python.literal quotient
  exact round_cases false _ _

theorem literal_notNegative (n d : Nat) : (Python.literal n d).NotNegative := by
  rcases literal_cases n d with ⟨m, e, h⟩ | h
  · rw [h]
    exact nofun
  · rw [h]
    rfl

theorem literal_zero : Python.literal 0 = .finite false 0 (-1074) := by
  decide +kernel

theorem FloatValue.NotNegative.div_literal {x : FloatValue} (hx : x.NotNegative) (n d : Nat) :
    (x.div (Python.literal n d)).NotNegative := by
  refine hx.div (literal_notNegative n d) ?_
  rcases literal_cases n d with hfinite | h
  · exact .inr hfinite
  · rw [h]
    exact .inl rfl

theorem FloatValue.NotNegative.max_zero (x : FloatValue) :
    (Python.maxFloat x (Python.literal 0)).NotNegative := by
  refine FloatValue.NotNegative.maxFloat x (literal_notNegative 0 1) ?_
  exact ⟨_, _, _, literal_zero⟩

/-- What is not negative and at most zero is a zero. -/
theorem FloatValue.NotNegative.rat_of_le_zero {x : FloatValue} (h : x.NotNegative)
    (hle : x.le (Python.literal 0) = true) : x.rat = 0 := by
  refine FloatValue.NotNegative.rat_eq_zero h ?_ ⟨_, _, _, literal_zero⟩ hle
  rw [literal_zero]
  simp [rat, dyadic]

/-- A quotient that is computed is one by a divisor that is not zero. -/
theorem FloatValue.NotNegative.divide {x y z : FloatValue} (hx : x.NotNegative)
    (hy : y.NotNegative) (h : Python.divide x y = .ok z) : z.NotNegative := by
  unfold Python.divide at h
  split_ifs at h with htruthy
  cases h
  exact hx.div hy (.inl htruthy)

/-- A multiple is as negative as its value. -/
theorem scaled_nonneg {low : Int} {negative : Bool} {m : Nat} {e : Int}
    (h : negative = true → m = 0) : 0 ≤ scaled low negative m e := by
  unfold scaled
  split_ifs with hneg
  · simp [h hneg]
  · exact Int.natCast_nonneg _

theorem FloatValue.NotNegative.add (hx : x.NotNegative) (hy : y.NotNegative) :
    (x.add y).NotNegative := by
  cases x with
  | nan n payload => cases y <;> trivial
  | infinite n =>
      obtain rfl : n = false := hx
      cases y with
      | nan n' payload => trivial
      | infinite n' =>
          obtain rfl : n' = false := hy
          rfl
      | finite n' m' e' => rfl
  | finite n m e =>
      cases y with
      | nan n' payload => trivial
      | infinite n' => exact hy
      | finite n' m' e' =>
          have hleft : 0 ≤ scaled (min e e') n m e := scaled_nonneg hx
          have hright : 0 ≤ scaled (min e e') n' m' e' := scaled_nonneg hy
          simp only [add]
          split_ifs with hsum
          · exact fun _ => rfl
          · refine FloatValue.NotNegative.round fun hsign => ?_
            have hlt := of_decide_eq_true hsign
            omega

theorem FloatValue.not_lt_of_le (h : x.le y = true) : y.lt x = false := by
  have hle : (!y.lt x) = true := by
    cases x with
    | nan n payload => cases h
    | finite | infinite =>
        cases y with
        | nan n' payload => cases h
        | finite | infinite => exact h
  simpa using hle

theorem literal_two : Python.literal 2 = .finite false (2 ^ 52) (-51) := by
  decide +kernel

/-- Half of a number above two is at least one, also rounded. -/
theorem one_le_half {x : FloatValue} (h : (Python.literal 2).lt x = true) {n : Int}
    (hn : Python.ceilInt (x.div (Python.literal 2)) = .ok n) : 1 ≤ n := by
  rw [literal_two] at h hn
  cases x with
  | nan s payload => cases h
  | infinite s => cases hn
  | finite s m e =>
      have hlt : dyadic false (2 ^ 52) (-51) < dyadic s m e := of_decide_eq_true h
      have hs : s = false := by
        cases s with
        | false => rfl
        | true =>
            have hneg : dyadic true m e ≤ 0 := neg_nonpos.mpr (by positivity)
            have hpos : (0 : ℚ) < dyadic false (2 ^ 52) (-51) := by norm_num [dyadic]
            linarith
      subst hs
      have htwo : (2 : ℚ) ≤ m * 2 ^ e := by
        have hval : dyadic false (2 ^ 52) (-51) = 2 := by norm_num [dyadic]
        rw [hval] at hlt
        exact hlt.le
      have hshift : 64 + bitLength (2 ^ 52) = 117 := by decide
      have hdigits : div (.finite false m e) (.finite false (2 ^ 52) (-51)) =
          FloatValue.round false (m * 2 ^ 66) (e - 67) := by
        have hsplit : m * 2 ^ 117 = m * 2 ^ 65 * 2 ^ 52 := by ring
        have hne : (2 : Nat) ^ 52 ≠ 0 := by norm_num
        unfold div
        dsimp only
        rw [if_neg hne, hshift, hsplit, Nat.mul_mod_left, if_pos rfl, Nat.mul_div_cancel _ (by norm_num)]
        congr 1 <;> ring
      rw [hdigits] at hn
      have hone : (2 : ℚ) ^ 0 ≤ ((m * 2 ^ 66 : Nat) : ℚ) * 2 ^ (e - 67) := by
        have hval : ((m * 2 ^ 66 : Nat) : ℚ) * 2 ^ (e - 67) = m * 2 ^ e / 2 := by
          rw [show e - 67 = e + (-67) by ring, zpow_add₀ (by norm_num)]
          push_cast
          ring
        rw [hval, pow_zero]
        linarith
      rcases round_cases false (m * 2 ^ 66) (e - 67) with ⟨m', e', hround⟩ | hround
      · rw [hround] at hn
        have hge : (2 : ℚ) ^ 0 ≤ m' * 2 ^ e' := le_round hone hround
        have hceil : n = ⌈dyadic false m' e'⌉ := (Except.ok.inj hn).symm
        rw [hceil, Int.one_le_ceil_iff]
        unfold dyadic
        rw [if_neg Bool.false_ne_true]
        linarith
      · rw [hround] at hn
        cases hn

end Binary32
