import MissionSim.Python
import MissionSim.Rounding
import Mathlib.Data.List.Induction
import Mathlib.Tactic.Positivity
import Mathlib.Tactic.Ring

/-!
# Fields of the `struct` module

Integers of any number of octets, unsigned or in two's complement, and double-precision
numbers: what is read of a field that was written is what was written, and what is written of
a field that was read is the field.

A double-precision value is its own pattern, so nothing is rounded between the two, and a
number that a field holds is written to it exactly, however it is given.  A signalling NaN is
not a value here.
-/

namespace Python

open Octets Binary32

/-! ### Integers -/

/-- The lowest `k` octets of a number, big-endian. -/
def octetsOf (k n : Nat) : Bytes :=
  (List.range k).map fun i => UInt8.ofNat (n / 2 ^ (8 * (k - 1 - i)))

/-- Read an unsigned field. -/
def unpackUnsigned (bs : Bytes) : Nat := bs.foldl (fun n octet => n * 2 ^ 8 + octet.toNat) 0

/-- Read a field in two's complement. -/
def unpackSigned (bs : Bytes) : Int :=
  let n := unpackUnsigned bs
  if n < 2 ^ (8 * bs.length - 1) then n else n - 2 ^ (8 * bs.length)

theorem octetsOf_length (k n : Nat) : (octetsOf k n).length = k := by simp [octetsOf]

theorem octetsOf_succ (k n : Nat) :
    octetsOf (k + 1) n = octetsOf k (n / 2 ^ 8) ++ [UInt8.ofNat n] := by
  unfold octetsOf
  rw [List.range_succ, List.map_append, List.map_singleton]
  congr 1
  · refine List.map_congr_left fun i hi => ?_
    have hlt := List.mem_range.mp hi
    have hexp : 8 * (k + 1 - 1 - i) = 8 + 8 * (k - 1 - i) := by omega
    rw [hexp, pow_add, Nat.div_div_eq_div_mul]
  · simp

theorem unpackUnsigned_concat (bs : Bytes) (octet : UInt8) :
    unpackUnsigned (bs ++ [octet]) = unpackUnsigned bs * 2 ^ 8 + octet.toNat := by
  unfold unpackUnsigned
  rw [List.foldl_append]
  rfl

theorem unpackUnsigned_lt (bs : Bytes) : unpackUnsigned bs < 2 ^ (8 * bs.length) := by
  induction bs using List.reverseRecOn with
  | nil => decide
  | append_singleton bs octet ih =>
      have hoctet := octet.toNat_lt
      have hpow : 2 ^ (8 * (bs.length + 1)) = 2 ^ (8 * bs.length) * 2 ^ 8 := by ring
      rw [unpackUnsigned_concat, List.length_append, List.length_singleton, hpow]
      omega

theorem unpackUnsigned_octetsOf {k n : Nat} (h : n < 2 ^ (8 * k)) :
    unpackUnsigned (octetsOf k n) = n := by
  induction k generalizing n with
  | zero =>
      obtain rfl : n = 0 := by simpa using h
      rfl
  | succ k ih =>
      have hpow : 2 ^ (8 * (k + 1)) = 2 ^ (8 * k) * 2 ^ 8 := by ring
      have hdiv : n / 2 ^ 8 < 2 ^ (8 * k) := by omega
      rw [octetsOf_succ, unpackUnsigned_concat, ih hdiv, toNat_ofNat]
      omega

theorem octetsOf_unpackUnsigned (bs : Bytes) : octetsOf bs.length (unpackUnsigned bs) = bs := by
  induction bs using List.reverseRecOn with
  | nil => rfl
  | append_singleton bs octet ih =>
      have hoctet := octet.toNat_lt
      have hdiv : (unpackUnsigned bs * 2 ^ 8 + octet.toNat) / 2 ^ 8 = unpackUnsigned bs := by omega
      have hlow : UInt8.ofNat (unpackUnsigned bs * 2 ^ 8 + octet.toNat) = octet :=
        ofNat_eq_of_mod (by omega)
      rw [unpackUnsigned_concat, List.length_append, List.length_singleton, octetsOf_succ, hdiv, ih,
        hlow]

theorem packUnsigned_eq {k n : Nat} (h : n < 2 ^ (8 * k)) :
    packUnsigned k n = .ok (octetsOf k n) := by
  have hrange : (0 : Int) ≤ n ∧ (n : Int) < 2 ^ (8 * k) := ⟨by omega, by exact_mod_cast h⟩
  rw [packUnsigned, if_pos hrange]
  rfl

theorem packUnsigned_unpackUnsigned (bs : Bytes) :
    packUnsigned bs.length (unpackUnsigned bs) = .ok bs := by
  rw [packUnsigned_eq (unpackUnsigned_lt bs), octetsOf_unpackUnsigned]

/-- What a signed field of `k` octets can hold. -/
def FitsSigned (k : Nat) (n : Int) : Prop := -2 ^ (8 * k - 1) ≤ n ∧ n < 2 ^ (8 * k - 1)

instance (k : Nat) (n : Int) : Decidable (FitsSigned k n) := inferInstanceAs (Decidable (_ ∧ _))

/-- The two halves of the range of a field. -/
theorem two_pow_half {k : Nat} (hk : 0 < k) : 2 ^ (8 * k) = 2 * 2 ^ (8 * k - 1) := by
  rw [← pow_succ']
  congr 1
  omega

theorem unpackSigned_octetsOf {k m : Nat} (h : m < 2 ^ (8 * k)) :
    unpackSigned (octetsOf k m) = if m < 2 ^ (8 * k - 1) then (m : Int) else m - 2 ^ (8 * k) := by
  unfold unpackSigned
  rw [unpackUnsigned_octetsOf h, octetsOf_length]

theorem packSigned_octetsOf {k m : Nat} {n : Int} (h : FitsSigned k n) (hm : m < 2 ^ (8 * k))
    (hresidue : n % 2 ^ (8 * k) = m) : packSigned k n = .ok (octetsOf k m) := by
  unfold FitsSigned at h
  rw [packSigned, if_pos h, hresidue, packUnsigned_eq hm]

/-- A number that fits a signed field comes back from it. -/
theorem packSigned_eq {k : Nat} {n : Int} (hk : 0 < k) (h : FitsSigned k n) :
    ∃ bs, packSigned k n = .ok bs ∧ bs.length = k ∧ unpackSigned bs = n := by
  have hfull : (2 : Int) ^ (8 * k) = 2 * 2 ^ (8 * k - 1) := by exact_mod_cast two_pow_half hk
  obtain ⟨hlow, hhigh⟩ := h
  by_cases hn : 0 ≤ n
  · obtain ⟨m, rfl⟩ := Int.eq_ofNat_of_zero_le hn
    have hhalf : m < 2 ^ (8 * k - 1) := by exact_mod_cast hhigh
    have hlt : m < 2 ^ (8 * k) := by
      have := two_pow_half hk
      omega
    refine ⟨octetsOf k m, packSigned_octetsOf ⟨hlow, hhigh⟩ hlt ?_, octetsOf_length k m, ?_⟩
    · exact Int.emod_eq_of_lt hn (by exact_mod_cast hlt)
    · rw [unpackSigned_octetsOf hlt, if_pos hhalf]
  · obtain ⟨m, hm⟩ := Int.eq_ofNat_of_zero_le (show 0 ≤ n + 2 ^ (8 * k) by omega)
    have hlt : m < 2 ^ (8 * k) := by
      have hint : (m : Int) < 2 ^ (8 * k) := by omega
      exact_mod_cast hint
    have hhalf : ¬ m < 2 ^ (8 * k - 1) := by
      have hint : ¬ (m : Int) < 2 ^ (8 * k - 1) := by omega
      exact_mod_cast hint
    refine ⟨octetsOf k m, packSigned_octetsOf ⟨hlow, hhigh⟩ hlt ?_, octetsOf_length k m, ?_⟩
    · rw [← Int.add_emod_right, hm]
      exact Int.emod_eq_of_lt (Int.natCast_nonneg m) (by exact_mod_cast hlt)
    · rw [unpackSigned_octetsOf hlt, if_neg hhalf]
      omega

/-- A signed field that is read can be written, as it was. -/
theorem packSigned_unpackSigned {bs : Bytes} (h : 0 < bs.length) :
    FitsSigned bs.length (unpackSigned bs) ∧ packSigned bs.length (unpackSigned bs) = .ok bs := by
  have hlt := unpackUnsigned_lt bs
  have hfull := two_pow_half h
  have hfull' : (2 : Int) ^ (8 * bs.length) = 2 * 2 ^ (8 * bs.length - 1) := by
    exact_mod_cast hfull
  have hlt' : (unpackUnsigned bs : Int) < 2 ^ (8 * bs.length) := by exact_mod_cast hlt
  have hvalue : unpackSigned bs = if unpackUnsigned bs < 2 ^ (8 * bs.length - 1) then
      (unpackUnsigned bs : Int) else unpackUnsigned bs - 2 ^ (8 * bs.length) := rfl
  have hfits : FitsSigned bs.length (unpackSigned bs) := by
    rw [hvalue]
    unfold FitsSigned
    split_ifs with hhalf
    · have hhalf' : (unpackUnsigned bs : Int) < 2 ^ (8 * bs.length - 1) := by exact_mod_cast hhalf
      omega
    · have hhalf' : ¬ (unpackUnsigned bs : Int) < 2 ^ (8 * bs.length - 1) := by
        exact_mod_cast hhalf
      omega
  refine ⟨hfits, ?_⟩
  rw [packSigned_octetsOf hfits hlt ?_, octetsOf_unpackUnsigned]
  rw [hvalue]
  split_ifs
  · exact Int.emod_eq_of_lt (Int.natCast_nonneg _) hlt'
  · rw [Int.sub_emod_right]
    exact Int.emod_eq_of_lt (Int.natCast_nonneg _) hlt'

end Python

namespace Binary32

/-! ### Double precision -/

/-- The sign bit of a double-precision pattern. -/
def doubleSign (negative : Bool) : Nat := if negative then 2 ^ 63 else 0

/-- The value of a sixty-four-bit pattern. -/
def FloatValue.ofDoubleBits (bits : Nat) : FloatValue :=
  let negative := decide (bits / 2 ^ 63 % 2 = 1)
  let biased : Nat := bits / 2 ^ 52 % 2 ^ 11
  let fraction : Nat := bits % 2 ^ 52
  if biased = 2047 then
    if fraction = 0 then .infinite negative else .nan negative (fraction % 2 ^ 51)
  else if biased = 0 then .finite negative fraction (-1074)
  else .finite negative (fraction + 2 ^ 52) (biased - 1075)

/-- The sixty-four-bit pattern of a value, `none` when it is none of double precision. -/
def FloatValue.toDoubleBits : FloatValue → Option Nat
  | .nan negative payload =>
      some (doubleSign negative + (2047 * 2 ^ 52 + (2 ^ 51 + payload % 2 ^ 51)))
  | .infinite negative => some (doubleSign negative + 2047 * 2 ^ 52)
  | .finite negative m e =>
      let place := lastPlace 53 (-1074) m e
      let magnitude := (place + 1074).toNat * 2 ^ 52 + roundAt place m e
      if magnitude < 2047 * 2 ^ 52 then some (doubleSign negative + magnitude) else none

/-- A double-precision NaN pattern whose quiet bit is clear. -/
def SignallingDouble (bits : Nat) : Prop :=
  bits / 2 ^ 52 % 2 ^ 11 = 2047 ∧ bits % 2 ^ 52 ≠ 0 ∧ bits % 2 ^ 52 < 2 ^ 51

instance (bits : Nat) : Decidable (SignallingDouble bits) :=
  inferInstanceAs (Decidable (_ ∧ _ ∧ _))

theorem doubleBits_eq_fields {bits : Nat} (h : bits < 2 ^ 64) :
    bits = doubleSign (decide (bits / 2 ^ 63 % 2 = 1)) +
      (bits / 2 ^ 52 % 2 ^ 11 * 2 ^ 52 + bits % 2 ^ 52) := by
  have hsign : doubleSign (decide (bits / 2 ^ 63 % 2 = 1)) = bits / 2 ^ 63 * 2 ^ 63 := by
    unfold doubleSign
    split
    · rename_i hb
      have hone := of_decide_eq_true hb
      omega
    · rename_i hb
      have hne := of_decide_eq_false (Bool.eq_false_iff.mpr hb)
      omega
  omega

/-- The last place of a double-precision value is its own. -/
theorem lastPlace_double {m : Nat} {e : Int} (hm : m < 2 ^ 53)
    (h : e = -1074 ∨ 2 ^ 52 ≤ m ∧ -1074 ≤ e) : lastPlace 53 (-1074) m e = e := by
  have hle := bitLength_le_iff.mpr hm
  unfold lastPlace
  rcases h with rfl | ⟨hlo, he⟩
  · omega
  · have hge : ¬ bitLength m ≤ 52 := fun h => absurd (bitLength_le_iff.mp h) (by omega)
    omega

open FloatValue

/-- **The pattern of a double-precision value is the one it was read from.** -/
theorem toDoubleBits_ofDoubleBits {bits : Nat} (h : bits < 2 ^ 64)
    (hquiet : ¬ SignallingDouble bits) :
    (ofDoubleBits bits).toDoubleBits = some bits := by
  have hfields := doubleBits_eq_fields h
  unfold ofDoubleBits
  by_cases hspecial : bits / 2 ^ 52 % 2 ^ 11 = 2047
  · by_cases hzero : bits % 2 ^ 52 = 0
    · rw [if_pos hspecial, if_pos hzero]
      exact congrArg some (by omega)
    · have hhigh : ¬ bits % 2 ^ 52 < 2 ^ 51 := fun hlt => hquiet ⟨hspecial, hzero, hlt⟩
      rw [if_pos hspecial, if_neg hzero]
      exact congrArg some (by omega)
  · rw [if_neg hspecial]
    by_cases hsub : bits / 2 ^ 52 % 2 ^ 11 = 0
    · have hplace : lastPlace 53 (-1074) (bits % 2 ^ 52) (-1074) = -1074 :=
        lastPlace_double (by omega) (.inl rfl)
      have hbias : ((-1074 : Int) + 1074).toNat = 0 := rfl
      rw [if_pos hsub]
      simp only [toDoubleBits, hplace, roundAt_self, hbias, Nat.zero_mul, Nat.zero_add]
      rw [if_pos (by omega)]
      refine congrArg some ?_
      omega
    · have hplace : lastPlace 53 (-1074) (bits % 2 ^ 52 + 2 ^ 52)
          ((bits / 2 ^ 52 % 2 ^ 11 : Nat) - 1075) = (bits / 2 ^ 52 % 2 ^ 11 : Nat) - 1075 :=
        lastPlace_double (by omega) (.inr ⟨by omega, by omega⟩)
      rw [if_neg hsub]
      simp only [toDoubleBits, hplace, roundAt_self]
      rw [if_pos (by omega)]
      exact congrArg some (by omega)

theorem toDoubleBits_congr {m m' : Nat} {e e' : Int} (h : (m : ℚ) * 2 ^ e = m' * 2 ^ e')
    (negative : Bool) : (finite negative m e).toDoubleBits =
      (finite negative m' e').toDoubleBits := by
  obtain ⟨hplace, hround⟩ := rounding_congr h 53 (-1074)
  unfold toDoubleBits
  dsimp only
  rw [hplace, hround]

/-- A pattern of single precision that is a number. -/
theorem ofBits_finite {bits : Nat} {negative : Bool} {m : Nat} {e : Int}
    (h : ofBits bits = .finite negative m e) :
    ¬ SignallingNaN bits ∧ m < 2 ^ 53 ∧ -1074 ≤ e ∧ e ≤ 971 := by
  unfold ofBits at h
  unfold SignallingNaN
  dsimp only at h
  split_ifs at h with hspecial hzero hsub
  · injection h with _ hm he
    omega
  · injection h with _ hm he
    omega

/-- A pattern of double precision that is a number. -/
theorem ofDoubleBits_finite {bits : Nat} {negative : Bool} {m : Nat} {e : Int}
    (h : ofDoubleBits bits = .finite negative m e) :
    ¬ SignallingDouble bits ∧ m < 2 ^ 53 ∧ -1074 ≤ e ∧ e ≤ 971 := by
  unfold ofDoubleBits at h
  unfold SignallingDouble
  dsimp only at h
  split_ifs at h with hspecial hzero hsub
  · injection h with _ hm he
    omega
  · injection h with _ hm he
    omega

/-- A number that is its own opposite is zero. -/
theorem eq_zero_of_neg {m : Nat} {e : Int} (h : (m : ℚ) * 2 ^ e = -(m * 2 ^ e)) : m = 0 := by
  have hzero : (m : ℚ) * 2 ^ e = 0 := by linarith
  have hpow : (2 : ℚ) ^ e ≠ 0 := zpow_ne_zero _ (by norm_num)
  exact_mod_cast (mul_eq_zero.mp hzero).resolve_right hpow

/-- Equal numbers have equal magnitudes, and signs unless they are zero. -/
theorem dyadic_eq {s s' : Bool} {m m' : Nat} {e e' : Int} (h : dyadic s m e = dyadic s' m' e') :
    (m : ℚ) * 2 ^ e = m' * 2 ^ e' ∧ (s = s' ∨ m = 0) := by
  have hmagnitude : (m : ℚ) * 2 ^ e = m' * 2 ^ e' := by
    rw [← abs_dyadic s, ← abs_dyadic s', h]
  refine ⟨hmagnitude, ?_⟩
  cases s <;> cases s'
  · exact .inl rfl
  · have hneg : (m : ℚ) * 2 ^ e = -(m' * 2 ^ e') := h
    rw [← hmagnitude] at hneg
    exact .inr (eq_zero_of_neg hneg)
  · have hneg : -((m : ℚ) * 2 ^ e) = m' * 2 ^ e' := h
    rw [← hmagnitude] at hneg
    exact .inr (eq_zero_of_neg hneg.symm)
  · exact .inl rfl

/-- A zero is written alike at every exponent. -/
theorem zero_mul_zpow (e e' : Int) : ((0 : Nat) : ℚ) * 2 ^ e = (0 : Nat) * 2 ^ e' := by
  rw [Nat.cast_zero, zero_mul, zero_mul]

theorem toBits_zero (negative : Bool) (e : Int) :
    (finite negative 0 e).toBits = some (signBit negative) := by
  rw [toBits_congr (zero_mul_zpow e (-149)) negative, toBits_subnormal negative (by decide)]
  rfl

theorem toDoubleBits_zero (negative : Bool) (e : Int) :
    (finite negative 0 e).toDoubleBits = some (doubleSign negative) := by
  rw [toDoubleBits_congr (zero_mul_zpow e (-1074)) negative]
  cases negative <;> rfl

end Binary32

namespace Python

open Octets Binary32

/-- Pack a double-precision field. -/
def packDouble (x : FloatValue) : Except PyError Bytes :=
  match x.toDoubleBits with
  | some bits => .ok (octetsOf 8 bits)
  | none => .error .overflowError

/-- Read a double-precision field. -/
def unpackDouble (bs : Bytes) : FloatValue := FloatValue.ofDoubleBits (unpackUnsigned bs)

/-- A double-precision field that is read can be written, as it was. -/
theorem packDouble_unpackDouble {bs : Bytes} (h : bs.length = 8)
    (hquiet : ¬ SignallingDouble (unpackUnsigned bs)) : packDouble (unpackDouble bs) = .ok bs := by
  have hlt : unpackUnsigned bs < 2 ^ 64 := by
    have hall := unpackUnsigned_lt bs
    rwa [h] at hall
  have hback := octetsOf_unpackUnsigned bs
  rw [h] at hback
  rw [packDouble, unpackDouble, toDoubleBits_ofDoubleBits hlt hquiet]
  exact congrArg Except.ok hback

/-- A single-precision field that is read can be written, as it was. -/
theorem packFloat_read {bs : Bytes} (h : bs.length = 4)
    (hquiet : ¬ SignallingNaN (unpackU32 bs)) : packFloat (unpackFloat bs) = .ok bs := by
  rw [packFloat, unpackFloat, toBits_ofBits (unpackU32_lt bs), quiet_eq_self_iff.mpr hquiet]
  exact congrArg Except.ok (packU32_unpackU32 h)

theorem packFloat_congr {x y : FloatValue} (h : x.toBits = y.toBits) :
    packFloat x = packFloat y := by
  unfold packFloat
  rw [h]

theorem packDouble_congr {x y : FloatValue} (h : x.toDoubleBits = y.toDoubleBits) :
    packDouble x = packDouble y := by
  unfold packDouble
  rw [h]

/-- A number that single precision holds is written as it is. -/
theorem packFloat_exact {bs : Bytes} {s s' : Bool} {m m' : Nat} {e e' : Int}
    (hlength : bs.length = 4) (hread : unpackFloat bs = .finite s m e)
    (h : dyadic s' m' e' = dyadic s m e) :
    ∃ bs', packFloat (.finite s' m' e') = .ok bs' ∧ bs'.length = 4 ∧
      ∃ s₂ m₂ e₂, unpackFloat bs' = .finite s₂ m₂ e₂ ∧ dyadic s₂ m₂ e₂ = dyadic s m e := by
  obtain ⟨hmagnitude, hsign⟩ := dyadic_eq h
  have hback := packFloat_read hlength (ofBits_finite hread).1
  rw [hread] at hback
  by_cases hsame : s' = s
  · refine ⟨bs, ?_, hlength, s, m, e, hread, rfl⟩
    rw [← hback, hsame]
    exact packFloat_congr (toBits_congr hmagnitude s)
  · obtain rfl := hsign.resolve_left hsame
    refine ⟨packU32 (signBit s'), ?_, rfl, s', 0, -149, ?_, ?_⟩
    · rw [packFloat, toBits_zero]
    · cases s' <;> decide
    · rw [← h]
      cases s' <;> simp [dyadic]

/-- A number that double precision holds is written as it is. -/
theorem packDouble_exact {bs : Bytes} {s s' : Bool} {m m' : Nat} {e e' : Int}
    (hlength : bs.length = 8) (hread : unpackDouble bs = .finite s m e)
    (h : dyadic s' m' e' = dyadic s m e) :
    ∃ bs', packDouble (.finite s' m' e') = .ok bs' ∧ bs'.length = 8 ∧
      ∃ s₂ m₂ e₂, unpackDouble bs' = .finite s₂ m₂ e₂ ∧ dyadic s₂ m₂ e₂ = dyadic s m e := by
  obtain ⟨hmagnitude, hsign⟩ := dyadic_eq h
  have hback := packDouble_unpackDouble hlength (ofDoubleBits_finite hread).1
  rw [hread] at hback
  by_cases hsame : s' = s
  · refine ⟨bs, ?_, hlength, s, m, e, hread, rfl⟩
    rw [← hback, hsame]
    exact packDouble_congr (toDoubleBits_congr hmagnitude s)
  · obtain rfl := hsign.resolve_left hsame
    refine ⟨octetsOf 8 (doubleSign s'), ?_, rfl, s', 0, -1074, ?_, ?_⟩
    · rw [packDouble, toDoubleBits_zero]
    · cases s' <;> decide
    · rw [← h]
      cases s' <;> simp [dyadic]

end Python
