import MissionSim.Binary32
import Mathlib.Algebra.Order.AbsoluteValue.Basic
import Mathlib.Data.Nat.Prime.Basic
import Mathlib.Data.Rat.Cast.Order
import Mathlib.Data.Rat.Lemmas
import Mathlib.Tactic.Linarith
import Mathlib.Tactic.Positivity
import Mathlib.Tactic.FieldSimp
import Mathlib.Tactic.Ring

/-!
# Double-precision rounding

A rounded number is off by at most half of its last place: these results are about
non-negative numbers `m / 2 ^ i` below a bound, with the error as a rational.  What double
precision holds is not rounded, and how a number is written makes no difference.
-/

namespace Binary32

open FloatValue

/-- Rounding an integer to a multiple of `2 ^ k` is off by at most half of it. -/
theorem halfEven_error (m k : Nat) : |(halfEven m k : ℚ) * 2 ^ k - m| ≤ 2 ^ k / 2 := by
  have hsplit : (m : ℚ) = (m / 2 ^ k : Nat) * 2 ^ k + (m % 2 ^ k : Nat) := by
    exact_mod_cast (Nat.div_add_mod' m (2 ^ k)).symm
  have hrest : ((m % 2 ^ k : Nat) : ℚ) < 2 ^ k := by
    exact_mod_cast Nat.mod_lt m (Nat.two_pow_pos k)
  unfold halfEven
  dsimp only
  split_ifs with hup
  · have hhalf : (2 : ℚ) ^ k ≤ (m % 2 ^ k : Nat) * 2 := by
      have hnat : 2 ^ k ≤ m % 2 ^ k * 2 := by omega
      exact_mod_cast hnat
    rw [abs_le]
    push_cast
    constructor <;> linarith
  · have hhalf : ((m % 2 ^ k : Nat) : ℚ) * 2 ≤ 2 ^ k := by
      have hnat : m % 2 ^ k * 2 ≤ 2 ^ k := by omega
      exact_mod_cast hnat
    rw [abs_le]
    constructor <;> linarith

/-- The value of `m / 2 ^ i`. -/
def ratio (m i : Nat) : ℚ := m / 2 ^ i

/-- Dropping the last `k` of `i` binary places is off by at most half of the last place
kept. -/
theorem ratio_halfEven (m : Nat) {i k : Nat} (h : k ≤ i) :
    |ratio (halfEven m k) (i - k) - ratio m i| ≤ 1 / 2 ^ (i - k) / 2 := by
  obtain ⟨j, rfl⟩ := Nat.exists_eq_add_of_le h
  have herror := halfEven_error m k
  have hpos : (0 : ℚ) < 2 ^ (k + j) := by positivity
  have hscaled : ratio (halfEven m k) (k + j - k) - ratio m (k + j) =
      ((halfEven m k : ℚ) * 2 ^ k - m) / 2 ^ (k + j) := by
    unfold ratio
    rw [Nat.add_sub_cancel_left, pow_add]
    field_simp
  rw [hscaled, abs_div, abs_of_pos hpos, div_le_iff₀ hpos, Nat.add_sub_cancel_left]
  refine herror.trans (le_of_eq ?_)
  rw [pow_add]
  field_simp

/-- The digits kept of `m / 2 ^ i` down to the place `-j` are off by at most half of that
place. -/
theorem roundAt_error (m i j : Nat) :
    |ratio (roundAt (-j) m (-i)) j - ratio m i| ≤ 1 / 2 ^ j / 2 := by
  unfold roundAt
  by_cases hfine : -(j : Int) ≤ -i
  · obtain ⟨k, rfl⟩ : ∃ k, j = i + k := Nat.exists_eq_add_of_le (by omega)
    have hplaces : (-(i : Int) - -((i + k : Nat) : Int)).toNat = k := by omega
    have hexact : ratio (m * 2 ^ k) (i + k) = ratio m i := by
      unfold ratio
      push_cast
      rw [pow_add]
      field_simp
    rw [if_pos hfine, hplaces, hexact, sub_self, abs_zero]
    positivity
  · have hplaces : (-(j : Int) - -(i : Int)).toNat = i - j := by omega
    have herror := ratio_halfEven m (Nat.sub_le i j)
    rw [Nat.sub_sub_self (by omega)] at herror
    rw [if_neg hfine, hplaces]
    exact herror

/-- **The error of rounding** a number below `2 ^ b`. -/
theorem round_error {m i b : Nat} (hm : m < 2 ^ (i + b)) (hb : b ≤ 53) :
    ∃ m' j : Nat, FloatValue.round false m (-i) = .finite false m' (-j) ∧
      |ratio m' j - ratio m i| ≤ 1 / 2 ^ (54 - b) := by
  obtain ⟨j, hj⟩ : ∃ j : Nat, lastPlace 53 (-1074) m (-i) = -j := by
    have hlength := bitLength_le_iff.mpr hm
    refine ⟨(-lastPlace 53 (-1074) m (-i)).toNat, ?_⟩
    unfold lastPlace
    omega
  have hlast : 53 - b ≤ j := by
    have hlength := bitLength_le_iff.mpr hm
    unfold lastPlace at hj
    omega
  have hpow : (2 : ℚ) ^ (54 - b) ≤ 2 ^ j * 2 := by
    rw [← pow_succ]
    exact pow_le_pow_right₀ (by norm_num) (by omega)
  have herror : |ratio (roundAt (-j) m (-i)) j - ratio m i| ≤ 1 / 2 ^ (54 - b) := by
    refine (roundAt_error m i j).trans ?_
    rw [div_div]
    exact one_div_le_one_div_of_le (by positivity) hpow
  have hfits : bitLength (roundAt (-j) m (-i)) + -(j : Int) ≤ 1024 := by
    have hvalue : ratio m i < 2 ^ b := by
      unfold ratio
      rw [div_lt_iff₀ (by positivity), ← pow_add, Nat.add_comm b i]
      exact_mod_cast hm
    have hone : (1 : ℚ) / 2 ^ (54 - b) ≤ 1 := by
      rw [div_le_one (by positivity)]
      exact one_le_pow₀ (by norm_num)
    have hbound : ratio (roundAt (-j) m (-i)) j < 2 ^ 54 := by
      have hpow : (2 : ℚ) ^ b ≤ 2 ^ 53 := pow_le_pow_right₀ (by norm_num) hb
      have habove := (abs_le.mp herror).2
      linarith [show (2 : ℚ) ^ 54 = 2 ^ 53 + 2 ^ 53 by ring, show (1 : ℚ) ≤ 2 ^ 53 by norm_num]
    have hnat : roundAt (-j) m (-i) < 2 ^ (54 + j) := by
      unfold ratio at hbound
      rw [div_lt_iff₀ (by positivity), ← pow_add] at hbound
      exact_mod_cast hbound
    have hlength := bitLength_le_iff.mpr hnat
    omega
  refine ⟨roundAt (-j) m (-i), j, ?_, herror⟩
  unfold FloatValue.round
  rw [hj]
  exact if_pos hfits

/-- A quotient below `2 ^ b` is off by the rounding and by the digits that are cut. -/
theorem quotient_error {n d b : Nat} (hd : 0 < d) (hn : n < d * 2 ^ b) (hb : b ≤ 53) :
    ∃ m j : Nat, quotient n d = .finite false m (-j) ∧
      |ratio m j - n / d| ≤ 1 / 2 ^ (54 - b) + 1 / 2 ^ 64 := by
  unfold quotient
  dsimp only
  rw [Int.natAbs_natCast]
  generalize hs : 64 + bitLength d = s
  generalize hsticky : (if n * 2 ^ s % d = 0 then 0 else 1) = sticky
  have hsticky1 : sticky ≤ 1 := by
    rw [← hsticky]
    split <;> omega
  have hdiv : d * (n * 2 ^ s / d) + n * 2 ^ s % d = n * 2 ^ s := Nat.div_add_mod _ _
  have hrest : n * 2 ^ s % d < d := Nat.mod_lt _ hd
  generalize n * 2 ^ s / d = q at hdiv
  generalize n * 2 ^ s % d = r at hdiv hrest
  have hq : q < 2 ^ (s + b) := by
    refine Nat.lt_of_mul_lt_mul_left (a := d) ?_
    have hlt : n * 2 ^ s < d * 2 ^ b * 2 ^ s := Nat.mul_lt_mul_of_pos_right hn (Nat.two_pow_pos s)
    calc d * q ≤ n * 2 ^ s := by omega
      _ < d * 2 ^ b * 2 ^ s := hlt
      _ = d * 2 ^ (s + b) := by rw [pow_add]; ring
  have hm : 2 * q + sticky < 2 ^ (s + 1 + b) := by
    have hdouble : 2 ^ (s + 1 + b) = 2 * 2 ^ (s + b) := by ring
    omega
  obtain ⟨m, j, hround, herror⟩ := round_error hm hb
  have hneg : decide ((n : Int) < 0) = false := decide_eq_false (by omega)
  have hexponent : -(s : Int) - 1 = -((s + 1 : Nat) : Int) := by omega
  refine ⟨m, j, by rw [hneg, hexponent, hround], ?_⟩
  have hcut : |ratio (2 * q + sticky) (s + 1) - n / d| ≤ 1 / 2 ^ 64 := by
    have hd' : (0 : ℚ) < d := by exact_mod_cast hd
    have hdiv' : (d : ℚ) * q + r = n * 2 ^ s := by exact_mod_cast hdiv
    have hvalue : ratio (2 * q + sticky) (s + 1) - n / d = ((sticky : ℚ) / 2 - r / d) / 2 ^ s := by
      have hn' : (n : ℚ) = (d * q + r) / 2 ^ s := by
        rw [hdiv']
        field_simp
      unfold ratio
      rw [hn']
      push_cast
      field_simp
      ring
    have hr0 : (0 : ℚ) ≤ r / d := by positivity
    have hr1 : (r : ℚ) / d ≤ 1 := by
      rw [div_le_one hd']
      exact_mod_cast hrest.le
    have hst : (sticky : ℚ) ≤ 1 := by exact_mod_cast hsticky1
    have hpow : (2 : ℚ) ^ 64 ≤ 2 ^ s := pow_le_pow_right₀ (by norm_num) (by omega)
    have hone : |(sticky : ℚ) / 2 - r / d| ≤ 1 := by
      rw [abs_le]
      constructor <;> linarith
    rw [hvalue, abs_div, abs_of_pos (show (0 : ℚ) < 2 ^ s by positivity)]
    exact div_le_div₀ zero_le_one hone (by positivity) hpow
  calc |ratio m j - n / d|
      ≤ |ratio m j - ratio (2 * q + sticky) (s + 1)| + |ratio (2 * q + sticky) (s + 1) - n / d| :=
        abs_sub_le _ _ _
    _ ≤ 1 / 2 ^ (54 - b) + 1 / 2 ^ 64 := add_le_add herror hcut

/-- The integer nearest to a number close to an integer. -/
theorem nearest_eq_of_close {m j k : Nat} (h : |ratio m j - k| ≤ 1 / 4) :
    nearest false m (-j) = k := by
  have herror := roundAt_error m j 0
  have hclose : |(roundAt 0 m (-j) : ℚ) - k| < 1 := by
    have hzero : ratio (roundAt (-(0 : Nat)) m (-j)) 0 = roundAt 0 m (-j) := by
      unfold ratio
      simp
    rw [hzero] at herror
    refine (abs_sub_le _ (ratio m j) _).trans_lt ?_
    norm_num at herror
    linarith
  have hint : |(roundAt 0 m (-j) : Int) - k| < 1 := by exact_mod_cast hclose
  have hequal : (roundAt 0 m (-j) : Int) = k := by
    rw [abs_lt] at hint
    omega
  exact hequal

/-! ### Lower bounds -/

theorem halfEven_ge (m k : Nat) : m / 2 ^ k ≤ halfEven m k := by
  unfold halfEven
  dsimp only
  split_ifs <;> omega

/-- Rounding to a place no greater than `2 ^ p`, or to one within the digits of the number,
leaves a number of at least `2 ^ p` at least that. -/
theorem le_roundAt {m p : Nat} {e place : Int} (h : (2 : ℚ) ^ p ≤ m * 2 ^ e)
    (hplace : place ≤ p ∨ place ≤ bitLength m - 1 + e) :
    (2 : ℚ) ^ p ≤ roundAt place m e * 2 ^ place := by
  unfold roundAt
  by_cases hfine : place ≤ e
  · rw [if_pos hfine]
    have hsame : ((m * 2 ^ (e - place).toNat : Nat) : ℚ) * 2 ^ place = m * 2 ^ e := by
      have hsplit : e = ((e - place).toNat : Int) + place := by omega
      conv_rhs => rw [hsplit, zpow_add₀ (by norm_num), zpow_natCast]
      push_cast
      ring
    rw [hsame]
    exact h
  · rw [if_neg hfine]
    obtain ⟨k, hk⟩ : ∃ k : Nat, place = e + k := ⟨(place - e).toNat, by omega⟩
    have hplaces : (place - e).toNat = k := by omega
    rw [hplaces]
    by_cases hsmall : place ≤ p
    · obtain ⟨t, ht⟩ : ∃ t : Nat, (p : Int) = place + t := ⟨(p - place).toNat, by omega⟩
      have hmul : 2 ^ t * 2 ^ k ≤ m := by
        have hrat : (2 : ℚ) ^ t * 2 ^ k ≤ m := by
          have hexp : (2 : ℚ) ^ p = 2 ^ t * 2 ^ k * 2 ^ e := by
            rw [← zpow_natCast, ← zpow_natCast, ← zpow_natCast, ht, hk, ← zpow_add₀ (by norm_num),
              ← zpow_add₀ (by norm_num)]
            congr 1
            ring
          rw [hexp] at h
          exact le_of_mul_le_mul_right h (zpow_pos (by norm_num) _)
        exact_mod_cast hrat
      have hquot : 2 ^ t ≤ halfEven m k :=
        ((Nat.le_div_iff_mul_le (Nat.two_pow_pos k)).mpr hmul).trans (halfEven_ge m k)
      have hexp : (2 : ℚ) ^ p = 2 ^ t * 2 ^ place := by
        rw [← zpow_natCast, ← zpow_natCast, ht, zpow_add₀ (by norm_num), mul_comm]
      rw [hexp]
      exact mul_le_mul_of_nonneg_right (by exact_mod_cast hquot) (zpow_nonneg (by norm_num) _)
    · have hdigits : k ≤ bitLength m - 1 := by omega
      have hlow : 2 ^ k ≤ m := by
        have hlength : ¬ m < 2 ^ (bitLength m - 1) := by
          rw [← bitLength_le_iff]
          omega
        exact (Nat.pow_le_pow_right (by decide) hdigits).trans (not_lt.mp hlength)
      have hquot : 1 ≤ halfEven m k :=
        ((Nat.le_div_iff_mul_le (Nat.two_pow_pos k)).mpr (by omega)).trans (halfEven_ge m k)
      have hpow : (2 : ℚ) ^ p ≤ 2 ^ place := by
        rw [← zpow_natCast]
        exact zpow_le_zpow_right₀ (by norm_num) (by omega)
      calc (2 : ℚ) ^ p ≤ 1 * 2 ^ place := by rw [one_mul]; exact hpow
        _ ≤ halfEven m k * 2 ^ place :=
          mul_le_mul_of_nonneg_right (by exact_mod_cast hquot) (zpow_nonneg (by norm_num) _)

variable {e e' : Int}

/-- A finite result of rounding a number of at least `2 ^ p` is at least that. -/
theorem le_round {m m' p : Nat} (h : (2 : ℚ) ^ p ≤ m * 2 ^ e)
    (hround : FloatValue.round false m e = .finite false m' e') : (2 : ℚ) ^ p ≤ m' * 2 ^ e' := by
  unfold FloatValue.round at hround
  dsimp only at hround
  split_ifs at hround
  injection hround with _ hm' he'
  rw [← hm', ← he']
  refine le_roundAt h ?_
  unfold lastPlace
  omega

/-! ### Numbers that are not rounded -/

theorem bitLength_mul_two_pow {m : Nat} (h : m ≠ 0) (k : Nat) :
    bitLength (m * 2 ^ k) = bitLength m + k := by
  have hpos : m * 2 ^ k ≠ 0 := mul_ne_zero h (Nat.two_pow_pos k).ne'
  unfold bitLength
  rw [if_neg hpos, if_neg h, Nat.log2_eq_log_two, Nat.log2_eq_log_two]
  induction k with
  | zero => simp
  | succ k ih =>
      rw [pow_succ, ← mul_assoc, Nat.log_mul_base (by decide) (mul_ne_zero h (Nat.two_pow_pos k).ne')]
      have := ih (mul_ne_zero h (Nat.two_pow_pos k).ne')
      omega

theorem lastPlace_mul (precision : Nat) (lowest : Int) (m k : Nat) (e : Int) :
    lastPlace precision lowest (m * 2 ^ k) e = lastPlace precision lowest m (e + k) := by
  unfold lastPlace
  by_cases hm : m = 0
  · simp [hm]
  · rw [if_neg (mul_ne_zero hm (Nat.two_pow_pos k).ne'), if_neg hm, bitLength_mul_two_pow hm]
    congr 1
    push_cast
    ring

theorem halfEven_mul (m k j : Nat) : halfEven (m * 2 ^ k) (j + k) = halfEven m j := by
  have hk := Nat.two_pow_pos k
  unfold halfEven
  rw [pow_add, Nat.mul_div_mul_right _ _ hk, Nat.mul_mod_mul_right]
  have hlt : 2 ^ j * 2 ^ k < m % 2 ^ j * 2 ^ k * 2 ↔ 2 ^ j < m % 2 ^ j * 2 := by
    rw [mul_right_comm, Nat.mul_lt_mul_right hk]
  have heq : m % 2 ^ j * 2 ^ k * 2 = 2 ^ j * 2 ^ k ↔ m % 2 ^ j * 2 = 2 ^ j := by
    rw [mul_right_comm, Nat.mul_left_inj hk.ne']
  simp only [hlt, heq]

theorem halfEven_exact (m k j : Nat) : halfEven (m * 2 ^ (k + j)) k = m * 2 ^ j := by
  have hsplit : m * 2 ^ (k + j) = m * 2 ^ j * 2 ^ k := by ring
  have hpos := Nat.two_pow_pos k
  unfold halfEven
  rw [hsplit, Nat.mul_div_cancel _ hpos, Nat.mul_mod_left]
  rw [if_neg (by omega)]

theorem roundAt_mul (place : Int) (m k : Nat) (e : Int) :
    roundAt place (m * 2 ^ k) e = roundAt place m (e + k) := by
  unfold roundAt
  by_cases hfine : place ≤ e
  · have hplaces : (e + k - place).toNat = k + (e - place).toNat := by omega
    rw [if_pos hfine, if_pos (by omega), hplaces, pow_add, mul_assoc]
  · rw [if_neg hfine]
    by_cases hwithin : place ≤ e + k
    · have hsplit : k = (place - e).toNat + (e + k - place).toNat := by omega
      rw [if_pos hwithin]
      conv_lhs => rw [hsplit]
      exact halfEven_exact m _ _
    · have hsplit : (place - e).toNat = (place - (e + k)).toNat + k := by omega
      rw [if_neg hwithin, hsplit, halfEven_mul]

/-- Two ways to write one number differ by a power of two. -/
theorem exists_scale {m m' : Nat} (h : (m : ℚ) * 2 ^ e = m' * 2 ^ e') (hle : e ≤ e') :
    ∃ k : Nat, m = m' * 2 ^ k ∧ e' = e + k := by
  obtain ⟨k, rfl⟩ : ∃ k : Nat, e' = e + k := ⟨(e' - e).toNat, by omega⟩
  refine ⟨k, ?_, rfl⟩
  have hpos : (2 : ℚ) ^ e ≠ 0 := zpow_ne_zero _ (by norm_num)
  rw [zpow_add₀ (by norm_num), zpow_natCast, mul_comm ((2 : ℚ) ^ e), ← mul_assoc] at h
  exact_mod_cast mul_right_cancel₀ hpos h

/-- Rounding depends on the number alone. -/
theorem rounding_congr {m m' : Nat} (h : (m : ℚ) * 2 ^ e = m' * 2 ^ e') (precision : Nat)
    (lowest : Int) :
    lastPlace precision lowest m e = lastPlace precision lowest m' e' ∧
      ∀ place, roundAt place m e = roundAt place m' e' := by
  rcases le_total e e' with hle | hle
  · obtain ⟨k, rfl, rfl⟩ := exists_scale h hle
    exact ⟨lastPlace_mul _ _ _ _ _, fun place => roundAt_mul _ _ _ _⟩
  · obtain ⟨k, rfl, rfl⟩ := exists_scale h.symm hle
    exact ⟨(lastPlace_mul _ _ _ _ _).symm, fun place => (roundAt_mul _ _ _ _).symm⟩

theorem round_congr {m m' : Nat} (h : (m : ℚ) * 2 ^ e = m' * 2 ^ e') (negative : Bool) :
    FloatValue.round negative m e = FloatValue.round negative m' e' := by
  obtain ⟨hplace, hround⟩ := rounding_congr h 53 (-1074)
  unfold FloatValue.round
  dsimp only
  rw [hplace, hround]

theorem toBits_congr {m m' : Nat} (h : (m : ℚ) * 2 ^ e = m' * 2 ^ e') (negative : Bool) :
    (finite negative m e).toBits = (finite negative m' e').toBits := by
  obtain ⟨hplace, hround⟩ := rounding_congr h 24 (-149)
  unfold toBits
  dsimp only
  rw [hplace, hround]

/-- What double precision holds is not rounded. -/
theorem round_exact {m : Nat} {e : Int} (hm : m < 2 ^ 53) (he : -1074 ≤ e)
    (hbig : e ≤ 971) (negative : Bool) :
    ∃ m' e', FloatValue.round negative m e = .finite negative m' e' ∧
      (m' : ℚ) * 2 ^ e' = m * 2 ^ e := by
  have hlength := bitLength_le_iff.mpr hm
  have hplace : lastPlace 53 (-1074) m e ≤ e := by
    unfold lastPlace
    omega
  obtain ⟨k, hk⟩ : ∃ k : Nat, e = lastPlace 53 (-1074) m e + k :=
    ⟨(e - lastPlace 53 (-1074) m e).toNat, by omega⟩
  have hround : roundAt (lastPlace 53 (-1074) m e) m e = m * 2 ^ k := by
    rw [roundAt, if_pos hplace]
    congr 2
    omega
  have hfits : bitLength (m * 2 ^ k) + lastPlace 53 (-1074) m e ≤ 1024 := by
    by_cases hzero : m = 0
    · subst hzero
      rw [zero_mul]
      unfold lastPlace
      rw [if_pos rfl]
      decide
    · rw [bitLength_mul_two_pow hzero]
      omega
  refine ⟨m * 2 ^ k, lastPlace 53 (-1074) m e, ?_, ?_⟩
  · unfold FloatValue.round
    dsimp only
    rw [hround]
    exact if_pos hfits
  · conv_rhs => rw [hk, zpow_add₀ (by norm_num), zpow_natCast]
    push_cast
    ring

theorem abs_dyadic (negative : Bool) (m : Nat) (e : Int) : |dyadic negative m e| = m * 2 ^ e := by
  have hpos : (0 : ℚ) ≤ m * 2 ^ e := mul_nonneg (Nat.cast_nonneg m) (zpow_nonneg (by norm_num) e)
  unfold dyadic
  split_ifs
  · rw [abs_neg, abs_of_nonneg hpos]
  · exact abs_of_nonneg hpos

/-- The denominator of a dyadic number is a power of two. -/
theorem den_dyadic (negative : Bool) (m : Nat) (e : Int) :
    ∃ t, (dyadic negative m e).den = 2 ^ t := by
  obtain ⟨j, n, hn⟩ : ∃ (j : Nat) (n : Int), dyadic negative m e = n / ((2 ^ j : Nat) : ℚ) := by
    refine ⟨(-e).toNat, if negative then -(m * 2 ^ e.toNat) else m * 2 ^ e.toNat, ?_⟩
    have hsplit : (2 : ℚ) ^ e = 2 ^ e.toNat / ((2 ^ (-e).toNat : Nat) : ℚ) := by
      have hexp : e = e.toNat - ((-e).toNat : Int) := by omega
      conv_lhs => rw [hexp, zpow_sub₀ (by norm_num), zpow_natCast, zpow_natCast]
      push_cast
      rfl
    unfold dyadic
    rw [hsplit]
    split_ifs <;> push_cast <;> ring
  have hdvd : (dyadic negative m e).den ∣ 2 ^ j := by
    have hint := Rat.den_dvd n ((2 ^ j : Nat) : Int)
    rw [hn]
    exact_mod_cast hint
  obtain ⟨t, -, ht⟩ := (Nat.dvd_prime_pow Nat.prime_two).mp hdvd
  exact ⟨t, ht⟩

/-- **A number of double precision is converted as it is.** -/
theorem quotient_exact {negative : Bool} {m : Nat} {e : Int} (hm : m < 2 ^ 53) (he : -1074 ≤ e)
    (hbig : e ≤ 971) :
    ∃ s m' e', quotient (dyadic negative m e).num (dyadic negative m e).den = .finite s m' e' ∧
      dyadic s m' e' = dyadic negative m e := by
  obtain ⟨t, ht⟩ := den_dyadic negative m e
  have habs := abs_dyadic negative m e
  generalize dyadic negative m e = q at ht habs ⊢
  have hlength : bitLength (2 ^ t) = t + 1 := by
    have hone := bitLength_mul_two_pow one_ne_zero t
    rw [one_mul] at hone
    rw [hone, Nat.add_comm]
    rfl
  have hvalue : ((2 * (q.num.natAbs * 2 ^ 65) : Nat) : ℚ) * 2 ^ (-((64 + (t + 1) : Nat) : Int) - 1) =
      m * 2 ^ e := by
    have hq : |q| = q.num.natAbs / 2 ^ t := by
      conv_lhs => rw [← Rat.num_div_den q, ht, abs_div]
      push_cast
      rw [abs_of_pos (show (0 : ℚ) < 2 ^ t by positivity), Nat.cast_natAbs, Int.cast_abs]
    have hexp : (2 : ℚ) ^ (-((64 + (t + 1) : Nat) : Int) - 1) = 1 / (2 ^ 66 * 2 ^ t) := by
      have hsum : -((64 + (t + 1) : Nat) : Int) - 1 = -((66 + t : Nat) : Int) := by omega
      rw [hsum, zpow_neg, zpow_natCast, pow_add, one_div]
    rw [← habs, hq, hexp]
    push_cast
    field_simp
    ring
  obtain ⟨m', e', hround, hexact⟩ := round_exact hm he hbig (decide (q.num < 0))
  refine ⟨decide (q.num < 0), m', e', ?_, ?_⟩
  · unfold quotient
    dsimp only
    have hsplit : q.num.natAbs * 2 ^ (64 + (t + 1)) = q.num.natAbs * 2 ^ 65 * 2 ^ t := by ring
    rw [ht, hlength, hsplit, Nat.mul_mod_left, if_pos rfl, Nat.add_zero,
      Nat.mul_div_cancel _ (Nat.two_pow_pos t), round_congr hvalue, hround]
  · unfold dyadic
    rw [hexact, ← habs]
    by_cases hneg : q.num < 0
    · rw [if_pos (decide_eq_true hneg), abs_of_neg (Rat.num_neg.mp hneg), neg_neg]
    · rw [if_neg (by simpa using hneg), abs_of_nonneg (Rat.num_nonneg.mp (not_lt.mp hneg))]

end Binary32
