import MissionSim.Rounding
import Mathlib.Algebra.Order.Field.Power

/-!
# Double-precision division

The quotient is computed to more digits than are kept, with one more digit below that tells an
inexact quotient from a tie.

The errors are relative here: a finite result is off by at most half of its last place, and
the last place of a number is bounded by the number.
-/

namespace Binary32

open FloatValue

/-- `x / y` in double precision. -/
def FloatValue.div : FloatValue → FloatValue → FloatValue
  | .nan negative payload, _ => .nan negative payload
  | _, .nan negative payload => .nan negative payload
  | .infinite _, .infinite _ => .nan true 0
  | .infinite negative, .finite n _ _ => .infinite (negative ^^ n)
  | .finite n _ _, .infinite negative => .finite (n ^^ negative) 0 (-1074)
  | .finite n m e, .finite n' m' e' =>
      if m' = 0 then if m = 0 then .nan true 0 else .infinite (n ^^ n')
      else
        let shift := 64 + bitLength m'
        let sticky := if m * 2 ^ shift % m' = 0 then 0 else 1
        FloatValue.round (n ^^ n') (2 * (m * 2 ^ shift / m') + sticky) (e - e' - shift - 1)

/-- The number a value stands for; infinities and NaNs stand for none, and have zero here. -/
def FloatValue.rat : FloatValue → ℚ
  | .finite negative m e => dyadic negative m e
  | _ => 0

theorem FloatValue.rat_ne_zero {x : FloatValue} (h : x.rat ≠ 0) :
    ∃ negative m e, x = .finite negative m e ∧ m ≠ 0 := by
  cases x with
  | finite negative m e =>
      refine ⟨negative, m, e, rfl, ?_⟩
      rintro rfl
      exact h (by simp [rat, dyadic])
  | infinite | nan => exact absurd rfl h

/-! ### Signs -/

theorem dyadic_mul (s s' : Bool) (m m' : Nat) (e e' : Int) :
    dyadic s m e * dyadic s' m' e' = dyadic (s ^^ s') (m * m') (e + e') := by
  unfold dyadic
  rw [zpow_add₀ (by norm_num)]
  cases s <;> cases s' <;> simp <;> ring

/-- Numbers of one sign are as far apart as their magnitudes. -/
theorem abs_dyadic_sub (s : Bool) (m m' : Nat) (e e' : Int) :
    |dyadic s m e - dyadic s m' e'| = |(m : ℚ) * 2 ^ e - m' * 2 ^ e'| := by
  unfold dyadic
  cases s
  · rfl
  · have hneg : -((m : ℚ) * 2 ^ e) - -(m' * 2 ^ e') = -(m * 2 ^ e - m' * 2 ^ e') := by ring
    simp only [if_true]
    rw [hneg, abs_neg]

/-! ### The last place -/

/-- Rounding to a place is off by at most half of it. -/
theorem roundAt_half (place : Int) (m : Nat) (e : Int) :
    |(roundAt place m e : ℚ) * 2 ^ place - m * 2 ^ e| ≤ 2 ^ place / 2 := by
  unfold roundAt
  by_cases hfine : place ≤ e
  · have hexact : ((m * 2 ^ (e - place).toNat : Nat) : ℚ) * 2 ^ place = m * 2 ^ e := by
      have hsplit : e = ((e - place).toNat : Int) + place := by omega
      conv_rhs => rw [hsplit, zpow_add₀ (by norm_num), zpow_natCast]
      push_cast
      ring
    rw [if_pos hfine, hexact, sub_self, abs_zero]
    positivity
  · obtain ⟨k, hk⟩ : ∃ k : Nat, place = e + k := ⟨(place - e).toNat, by omega⟩
    have hplaces : (place - e).toNat = k := by omega
    have hpow : (2 : ℚ) ^ place = 2 ^ k * 2 ^ e := by
      rw [hk, zpow_add₀ (by norm_num), zpow_natCast, mul_comm]
    have hpos : (0 : ℚ) < 2 ^ e := zpow_pos (by norm_num) e
    have hscaled : (halfEven m k : ℚ) * 2 ^ place - m * 2 ^ e =
        ((halfEven m k : ℚ) * 2 ^ k - m) * 2 ^ e := by
      rw [hpow]
      ring
    rw [if_neg hfine, hplaces, hscaled, abs_mul, abs_of_pos hpos]
    calc |(halfEven m k : ℚ) * 2 ^ k - m| * 2 ^ e ≤ 2 ^ k / 2 * 2 ^ e :=
          mul_le_mul_of_nonneg_right (halfEven_error m k) hpos.le
      _ = 2 ^ place / 2 := by rw [hpow]; ring

/-- A number that is not zero is at least the power of two of its first digit. -/
theorem two_pow_bitLength_le {m : Nat} (h : m ≠ 0) (e : Int) :
    (2 : ℚ) ^ (bitLength m + e - 1) ≤ m * 2 ^ e := by
  have hlength : ¬ m < 2 ^ (bitLength m - 1) := by
    rw [← bitLength_le_iff]
    have hpos : bitLength m ≠ 0 := by
      unfold bitLength
      simp [h]
    omega
  have hlow : (2 : ℚ) ^ (bitLength m - 1) ≤ m := by exact_mod_cast not_lt.mp hlength
  have hpos : 0 < bitLength m := by
    unfold bitLength
    simp [h]
  have hsplit : (bitLength m + e - 1 : Int) = ((bitLength m - 1 : Nat) : Int) + e := by omega
  rw [hsplit, zpow_add₀ (by norm_num), zpow_natCast]
  exact mul_le_mul_of_nonneg_right hlow (zpow_nonneg (by norm_num) e)

/-- The last place of a number below `2 ^ b`. -/
theorem lastPlace_le {m : Nat} {e b : Int} (h : (m : ℚ) * 2 ^ e < 2 ^ b) (hb : -1021 ≤ b) :
    lastPlace 53 (-1074) m e ≤ b - 53 := by
  unfold lastPlace
  by_cases hm : m = 0
  · omega
  · have hlt := (two_pow_bitLength_le hm e).trans_lt h
    have hexp := (zpow_lt_zpow_iff_right₀ (by norm_num : (1 : ℚ) < 2)).mp hlt
    omega

/-- The last place is a small part of the number, but for the smallest numbers. -/
theorem two_pow_lastPlace_le (m : Nat) (e : Int) :
    (2 : ℚ) ^ lastPlace 53 (-1074) m e ≤ m * 2 ^ e / 2 ^ 52 + 2 ^ (-1074 : Int) := by
  have hsmall : (0 : ℚ) < 2 ^ (-1074 : Int) := zpow_pos (by norm_num) _
  have hnumber : (0 : ℚ) ≤ m * 2 ^ e :=
    mul_nonneg (Nat.cast_nonneg m) (zpow_nonneg (by norm_num) e)
  unfold lastPlace
  by_cases hm : m = 0
  · rw [if_pos hm]
    linarith [div_nonneg hnumber (by norm_num : (0 : ℚ) ≤ 2 ^ 52)]
  · rw [if_neg hm]
    rcases max_choice (-1074 : Int) (bitLength m + e - (53 : Nat)) with hmax | hmax
    · rw [hmax]
      linarith [div_nonneg hnumber (by norm_num : (0 : ℚ) ≤ 2 ^ 52)]
    · have hfirst := two_pow_bitLength_le hm e
      have hsplit : (2 : ℚ) ^ (bitLength m + e - (53 : Nat) : Int) =
          2 ^ (bitLength m + e - 1 : Int) / 2 ^ 52 := by
        have hexp : (bitLength m + e - (53 : Nat) : Int) = bitLength m + e - 1 - (52 : Nat) := by
          omega
        rw [hexp, zpow_sub₀ (by norm_num), zpow_natCast]
      rw [hmax, hsplit]
      linarith [div_le_div_of_nonneg_right hfirst (by norm_num : (0 : ℚ) ≤ 2 ^ 52)]

/-- **A finite result of rounding** has the sign of the number and is off by at most half of its
last place. -/
theorem round_finite {s s' : Bool} {m m' : Nat} {e e' : Int}
    (h : FloatValue.round s m e = .finite s' m' e') :
    s' = s ∧ |(m' : ℚ) * 2 ^ e' - m * 2 ^ e| ≤ 2 ^ lastPlace 53 (-1074) m e / 2 := by
  unfold FloatValue.round at h
  dsimp only at h
  split_ifs at h
  injection h with hs hm he
  rw [← hm, ← he]
  exact ⟨hs.symm, roundAt_half _ m e⟩

/-- Rounding yields a number of the same sign or an infinity. -/
theorem round_cases (s : Bool) (m : Nat) (e : Int) :
    (∃ m' e', FloatValue.round s m e = .finite s m' e') ∨
      FloatValue.round s m e = .infinite s := by
  unfold FloatValue.round
  dsimp only
  split_ifs
  · exact .inl ⟨_, _, rfl⟩
  · exact .inr rfl

theorem two_pow_double (k : Int) : (2 : ℚ) ^ (k + 1) = 2 * 2 ^ k := by
  rw [zpow_add₀ (by norm_num), zpow_one, mul_comm]

/-- Only a number of at least `3 * 2 ^ 1022` is rounded to an infinity. -/
theorem round_infinite {s s' : Bool} {m : Nat} {e : Int}
    (h : FloatValue.round s m e = .infinite s') : 3 * (2 : ℚ) ^ (1022 : Int) ≤ m * 2 ^ e := by
  by_contra hlt
  have hpos : (0 : ℚ) < 2 ^ (1022 : Int) := zpow_pos (by norm_num) _
  have hfull : (2 : ℚ) ^ (1024 : Int) = 4 * 2 ^ (1022 : Int) := by
    have hstep := two_pow_double 1023
    have hstep' := two_pow_double 1022
    norm_num only at hstep hstep'
    rw [hstep, hstep']
    ring
  have hbelow : (m : ℚ) * 2 ^ e < 2 ^ (1024 : Int) := by
    rw [hfull]
    generalize (2 : ℚ) ^ (1022 : Int) = unit at hlt hpos ⊢
    linarith only [hlt, hpos]
  have hplace := lastPlace_le hbelow (by norm_num)
  have herror := roundAt_half (lastPlace 53 (-1074) m e) m e
  generalize hq : lastPlace 53 (-1074) m e = place at hplace herror
  have hpow : (2 : ℚ) ^ place ≤ 2 ^ (971 : Int) :=
    zpow_le_zpow_right₀ (by norm_num) (by omega)
  have hrounded : (roundAt place m e : ℚ) * 2 ^ place < 2 ^ (1024 : Int) := by
    have habove := (abs_le.mp herror).2
    have hunit : (2 : ℚ) ^ (971 : Int) ≤ 2 ^ (1022 : Int) :=
      zpow_le_zpow_right₀ (by norm_num) (by norm_num)
    rw [hfull]
    generalize (2 : ℚ) ^ (1022 : Int) = unit at hlt hpos hunit ⊢
    generalize (2 : ℚ) ^ (971 : Int) = half at hpow hunit
    linarith only [habove, hunit, hpow, hlt, hpos]
  have hfits : bitLength (roundAt place m e) + place ≤ 1024 := by
    by_cases hzero : roundAt place m e = 0
    · have hlength : bitLength (roundAt place m e) = 0 := by rw [hzero]; rfl
      omega
    · have hlow := (two_pow_bitLength_le hzero place).trans_lt hrounded
      have hexp := (zpow_lt_zpow_iff_right₀ (by norm_num : (1 : ℚ) < 2)).mp hlow
      omega
  unfold FloatValue.round at h
  rw [hq, if_pos hfits] at h
  cases h

/-- A number that is rounded to less than `2 ^ p` is off by at most half the last place of such a
number. -/
theorem round_below {s s' : Bool} {m m' p : Nat} {e e' : Int}
    (h : FloatValue.round s m e = .finite s' m' e') (hlt : (m' : ℚ) * 2 ^ e' < 2 ^ p) :
    |(m' : ℚ) * 2 ^ e' - m * 2 ^ e| ≤ 2 ^ (p - 54 : Int) := by
  have hunsigned : FloatValue.round false m e = .finite false m' e' := by
    unfold FloatValue.round at h ⊢
    dsimp only at h ⊢
    split_ifs at h ⊢
    injection h with _ hm he
    rw [hm, he]
  have hbelow : (m : ℚ) * 2 ^ e < 2 ^ (p : Int) := by
    exact not_le.mp fun hle => absurd (le_round hle hunsigned) (not_le.mpr hlt)
  have hplace := lastPlace_le hbelow (by omega)
  refine (round_finite h).2.trans ?_
  have hpow : (2 : ℚ) ^ lastPlace 53 (-1074) m e ≤ 2 ^ (p - 53 : Int) :=
    zpow_le_zpow_right₀ (by norm_num) hplace
  have hdouble := two_pow_double (p - 54 : Int)
  have hexp : (p - 54 + 1 : Int) = p - 53 := by ring
  rw [hexp] at hdouble
  linarith

/-- The nearest integer is off by at most a half. -/
theorem nearest_error (s : Bool) (m : Nat) (e : Int) :
    |(nearest s m e : ℚ) - dyadic s m e| ≤ 1 / 2 := by
  have herror := roundAt_half 0 m e
  rw [zpow_zero, mul_one] at herror
  unfold nearest dyadic
  cases s
  · simpa using herror
  · have hneg : ((-(roundAt 0 m e : Int) : Int) : ℚ) - -(m * 2 ^ e) = -(roundAt 0 m e - m * 2 ^ e) := by
      push_cast
      ring
    simp only [if_true]
    rw [hneg, abs_neg]
    exact herror

/-- An integer that double precision holds is converted as it is. -/
theorem ofInt_exact {n : Int} (h : n.natAbs < 2 ^ 53) :
    ∃ s m e, ofInt n = some (.finite s m e) ∧ dyadic s m e = n := by
  obtain ⟨m, e, hround, hexact⟩ := round_exact (e := 0) h (by omega) (by omega) (decide (n < 0))
  rw [zpow_zero, mul_one] at hexact
  unfold FloatValue.round at hround
  dsimp only at hround
  split_ifs at hround with hfits
  injection hround with _ hm he
  refine ⟨decide (n < 0), m, e, ?_, ?_⟩
  · unfold ofInt
    rw [if_pos hfits, hm, he]
  · unfold dyadic
    rw [hexact]
    by_cases hneg : n < 0
    · rw [if_pos (decide_eq_true hneg), Nat.cast_natAbs, abs_of_neg hneg]
      push_cast
      ring
    · rw [if_neg (by simpa using hneg), Nat.cast_natAbs, abs_of_nonneg (not_lt.mp hneg)]

/-! ### Quotients -/

/-- The digits the quotient is rounded from are off by less than their last. -/
theorem quotient_digits {m m' : Nat} (hm' : m' ≠ 0) (sticky : Nat)
    (hsticky : sticky ≤ 1) (e e' : Int) (shift : Nat) :
    |((2 * (m * 2 ^ shift / m') + sticky : Nat) : ℚ) * 2 ^ (e - e' - shift - 1 : Int) -
      m * 2 ^ e / (m' * 2 ^ e')| ≤ 2 ^ e / 2 ^ e' / 2 ^ shift := by
  have hdiv : m' * (m * 2 ^ shift / m') + m * 2 ^ shift % m' = m * 2 ^ shift := Nat.div_add_mod _ _
  have hrest : m * 2 ^ shift % m' < m' := Nat.mod_lt _ (Nat.pos_of_ne_zero hm')
  generalize m * 2 ^ shift / m' = q at hdiv
  generalize m * 2 ^ shift % m' = r at hdiv hrest
  have hd : (0 : ℚ) < m' := by exact_mod_cast Nat.pos_of_ne_zero hm'
  have hexp : (2 : ℚ) ^ (e - e' - shift - 1 : Int) = 2 ^ e / 2 ^ e' / 2 ^ shift / 2 := by
    rw [zpow_sub₀ (by norm_num), zpow_sub₀ (by norm_num), zpow_sub₀ (by norm_num), zpow_natCast,
      zpow_one]
  have hshift : (0 : ℚ) < 2 ^ shift := by positivity
  have hm : (m : ℚ) = (m' * q + r) / 2 ^ shift := by
    rw [eq_div_iff hshift.ne']
    exact_mod_cast hdiv.symm
  have hvalue : ((2 * q + sticky : Nat) : ℚ) * (2 ^ e / 2 ^ e' / 2 ^ shift / 2) -
      m * 2 ^ e / (m' * 2 ^ e') = ((sticky : ℚ) / 2 - r / m') * (2 ^ e / 2 ^ e' / 2 ^ shift) := by
    rw [hm]
    push_cast
    field_simp
    ring
  have hr0 : (0 : ℚ) ≤ r / m' := by positivity
  have hr1 : (r : ℚ) / m' ≤ 1 := by
    rw [div_le_one hd]
    exact_mod_cast hrest.le
  have hst : (sticky : ℚ) ≤ 1 := by exact_mod_cast hsticky
  have hone : |(sticky : ℚ) / 2 - r / m'| ≤ 1 := by
    rw [abs_le]
    constructor <;> linarith
  have hunit : (0 : ℚ) < 2 ^ e / 2 ^ e' / 2 ^ shift := by positivity
  rw [hexp, hvalue, abs_mul, abs_of_pos hunit]
  calc |(sticky : ℚ) / 2 - r / m'| * (2 ^ e / 2 ^ e' / 2 ^ shift)
      ≤ 1 * (2 ^ e / 2 ^ e' / 2 ^ shift) := mul_le_mul_of_nonneg_right hone hunit.le
    _ = 2 ^ e / 2 ^ e' / 2 ^ shift := one_mul _

/-- The digits are within a small part of the quotient. -/
theorem quotient_digits_relative {m m' : Nat} (hm' : m' ≠ 0) (sticky : Nat)
    (hzero : m = 0 → sticky = 0) (hsticky : sticky ≤ 1) (e e' : Int) :
    |((2 * (m * 2 ^ (64 + bitLength m') / m') + sticky : Nat) : ℚ) *
        2 ^ (e - e' - (64 + bitLength m' : Nat) - 1 : Int) - m * 2 ^ e / (m' * 2 ^ e')| ≤
      m * 2 ^ e / (m' * 2 ^ e') / 2 ^ 64 := by
  by_cases hm : m = 0
  · subst hm
    rw [hzero rfl]
    simp
  · refine (quotient_digits hm' sticky hsticky e e' _).trans ?_
    have hd : (0 : ℚ) < m' := by exact_mod_cast Nat.pos_of_ne_zero hm'
    have hone : (1 : ℚ) ≤ m := by exact_mod_cast Nat.one_le_iff_ne_zero.mpr hm
    have hlength : (m' : ℚ) ≤ 2 ^ bitLength m' := by
      exact_mod_cast (bitLength_le_iff.mp (le_refl (bitLength m'))).le
    calc (2 : ℚ) ^ e / 2 ^ e' / 2 ^ (64 + bitLength m')
        = 1 * (2 ^ e / 2 ^ e' / 2 ^ 64) / 2 ^ bitLength m' := by rw [pow_add]; field_simp
      _ ≤ m * (2 ^ e / 2 ^ e' / 2 ^ 64) / m' := by
          refine div_le_div₀ (by positivity) ?_ hd hlength
          exact mul_le_mul_of_nonneg_right hone (by positivity)
      _ = m * 2 ^ e / (m' * 2 ^ e') / 2 ^ 64 := by field_simp

/-- **The error of a division** by a number that is not zero: a finite quotient is off by a small
part of itself, and an infinite one stands for a number no double holds. -/
theorem div_error (s s' : Bool) (m : Nat) {m' : Nat} (e e' : Int) (hm' : m' ≠ 0) :
    (∃ k j, (finite s m e).div (.finite s' m' e') = .finite (s ^^ s') k j ∧
      |(k : ℚ) * 2 ^ j - m * 2 ^ e / (m' * 2 ^ e')| ≤
        m * 2 ^ e / (m' * 2 ^ e') / 2 ^ 52 + 2 ^ (-1074 : Int)) ∨
    (finite s m e).div (.finite s' m' e') = .infinite (s ^^ s') ∧
      (2 : ℚ) ^ (1023 : Int) ≤ m * 2 ^ e / (m' * 2 ^ e') := by
  have hdiv : (finite s m e).div (.finite s' m' e') = FloatValue.round (s ^^ s')
      (2 * (m * 2 ^ (64 + bitLength m') / m') +
        (if m * 2 ^ (64 + bitLength m') % m' = 0 then 0 else 1))
      (e - e' - (64 + bitLength m' : Nat) - 1) := by
    simp only [div, if_neg hm']
  have hdigits := quotient_digits_relative (m := m) hm'
    (if m * 2 ^ (64 + bitLength m') % m' = 0 then 0 else 1)
    (by rintro rfl; simp) (by split <;> omega) e e'
  rw [hdiv]
  generalize (2 * (m * 2 ^ (64 + bitLength m') / m') +
    (if m * 2 ^ (64 + bitLength m') % m' = 0 then 0 else 1) : Nat) = digits at hdigits ⊢
  generalize (e - e' - (64 + bitLength m' : Nat) - 1 : Int) = place at hdigits ⊢
  have hquotient : (0 : ℚ) ≤ m * 2 ^ e / (m' * 2 ^ e') := by positivity
  generalize (m : ℚ) * 2 ^ e / (m' * 2 ^ e') = q at hdigits hquotient ⊢
  have hclose := abs_le.mp hdigits
  rcases round_cases (s ^^ s') digits place with ⟨k, j, hround⟩ | hround
  · refine .inl ⟨k, j, hround, ?_⟩
    have hrounded := (round_finite hround).2
    have hlast := two_pow_lastPlace_le digits place
    have hsmall : (0 : ℚ) < 2 ^ (-1074 : Int) := zpow_pos (by norm_num) _
    refine (abs_sub_le _ ((digits : ℚ) * 2 ^ place) _).trans ?_
    linarith
  · refine .inr ⟨hround, ?_⟩
    have hlarge := round_infinite hround
    have hpos : (0 : ℚ) < 2 ^ (1022 : Int) := zpow_pos (by norm_num) _
    have hdouble := two_pow_double 1022
    norm_num only at hdouble
    rw [hdouble]
    by_contra hlt
    rw [not_le] at hlt
    generalize (2 : ℚ) ^ (1022 : Int) = unit at hlt hlarge hpos
    linarith only [hlt, hlarge, hclose.2, hpos]

end Binary32
