import Mathlib.Data.Nat.Log
import Mathlib.Data.Rat.Defs
import Mathlib.Algebra.Ring.Nat
import Mathlib.Data.Int.Basic
import Mathlib.Tactic.Common

/-!
# Floating-point values and their single-precision form

A floating-point value is an exact dyadic number, an infinity or a NaN with the
payload its bits carry.  `FloatValue.ofBits` widens a thirty-two-bit pattern,
which is exact; `FloatValue.toBits` narrows to the nearest pattern, ties to
even, and reports overflow.

The two are inverse on every pattern but the signalling NaNs, which come back
with the quiet bit set (`toBits_ofBits`).
-/

namespace Binary32

/-- A floating-point value.  The payload of a NaN is the fifty-one bits below its
quiet bit, the finite value `mantissa * 2 ^ exponent` up to its sign. -/
inductive FloatValue where
  | finite (negative : Bool) (mantissa : Nat) (exponent : Int)
  | infinite (negative : Bool)
  | nan (negative : Bool) (payload : Nat)
  deriving DecidableEq, Repr

/-- The number of binary digits of `n`. -/
def bitLength (n : Nat) : Nat := if n = 0 then 0 else Nat.log2 n + 1

/-- `m / 2 ^ k` to the nearest integer, ties to even. -/
def halfEven (m k : Nat) : Nat :=
  let quotient := m / 2 ^ k
  let rest := m % 2 ^ k * 2
  if 2 ^ k < rest ∨ rest = 2 ^ k ∧ quotient % 2 = 1 then quotient + 1 else quotient

/-- The exponent of the last place a format of `precision` digits keeps; a zero has the
lowest. -/
def lastPlace (precision : Nat) (lowest : Int) (m : Nat) (e : Int) : Int :=
  if m = 0 then lowest else max lowest (bitLength m + e - precision)

/-- The digits of `m * 2 ^ e` down to the place `place`. -/
def roundAt (place : Int) (m : Nat) (e : Int) : Nat :=
  if place ≤ e then m * 2 ^ (e - place).toNat else halfEven m (place - e).toNat

/-- The sign bit of a single-precision pattern. -/
def signBit (negative : Bool) : Nat := if negative then 2 ^ 31 else 0

/-- The value of a thirty-two-bit pattern. -/
def FloatValue.ofBits (bits : Nat) : FloatValue :=
  let negative := decide (bits / 2 ^ 31 % 2 = 1)
  let biased : Nat := bits / 2 ^ 23 % 2 ^ 8
  let fraction : Nat := bits % 2 ^ 23
  if biased = 255 then
    if fraction = 0 then .infinite negative else .nan negative (fraction % 2 ^ 22 * 2 ^ 29)
  else if biased = 0 then
    .finite negative fraction (-149)
  else
    .finite negative (fraction + 2 ^ 23) (biased - 150)

/-- The nearest thirty-two-bit pattern, `none` when the value overflows. -/
def FloatValue.toBits : FloatValue → Option Nat
  | .nan negative payload =>
      some (signBit negative + (255 * 2 ^ 23 + (2 ^ 22 + payload / 2 ^ 29 % 2 ^ 22)))
  | .infinite negative => some (signBit negative + 255 * 2 ^ 23)
  | .finite negative m e =>
      let place := lastPlace 24 (-149) m e
      let magnitude := (place + 149).toNat * 2 ^ 23 + roundAt place m e
      if magnitude < 255 * 2 ^ 23 then some (signBit negative + magnitude) else none

/-- The integer part of a finite value. -/
def truncate (negative : Bool) (m : Nat) (e : Int) : Int :=
  let magnitude : Nat := if 0 ≤ e then m * 2 ^ e.toNat else m / 2 ^ (-e).toNat
  if negative then -magnitude else magnitude

/-- The double-precision value of an integer, `none` when it overflows. -/
def FloatValue.ofInt (n : Int) : Option FloatValue :=
  let place := lastPlace 53 (-1074) n.natAbs 0
  let rounded := roundAt place n.natAbs 0
  if bitLength rounded + place ≤ 1024 then
    some (.finite (decide (n < 0)) rounded place)
  else
    none

/-- The exact value of a finite number. -/
def dyadic (negative : Bool) (m : Nat) (e : Int) : Rat :=
  if negative then -(m * 2 ^ e) else m * 2 ^ e

/-- The order of floating-point values; a NaN is not comparable. -/
def FloatValue.lt : FloatValue → FloatValue → Bool
  | .nan _ _, _ => false
  | _, .nan _ _ => false
  | .infinite negative, .infinite negative' => negative && !negative'
  | .infinite negative, .finite _ _ _ => negative
  | .finite _ _ _, .infinite negative' => !negative'
  | .finite n m e, .finite n' m' e' => decide (dyadic n m e < dyadic n' m' e')

/-- `x <= y`. -/
def FloatValue.le (x y : FloatValue) : Bool :=
  match x, y with
  | .nan _ _, _ => false
  | _, .nan _ _ => false
  | _, _ => !y.lt x

/-- A dyadic number rounded to double precision. -/
def FloatValue.round (negative : Bool) (m : Nat) (e : Int) : FloatValue :=
  let place := lastPlace 53 (-1074) m e
  let rounded := roundAt place m e
  if bitLength rounded + place ≤ 1024 then .finite negative rounded place else .infinite negative

/-- The multiple of `2 ^ low` a finite value is, for `low` no greater than its exponent. -/
def scaled (low : Int) (negative : Bool) (m : Nat) (e : Int) : Int :=
  let magnitude : Nat := m * 2 ^ (e - low).toNat
  if negative then -magnitude else magnitude

/-- `x + y` in double precision. -/
def FloatValue.add : FloatValue → FloatValue → FloatValue
  | .nan negative payload, _ => .nan negative payload
  | _, .nan negative payload => .nan negative payload
  | .infinite negative, .infinite negative' =>
      if negative = negative' then .infinite negative else .nan true 0
  | .infinite negative, .finite _ _ _ => .infinite negative
  | .finite _ _ _, .infinite negative => .infinite negative
  | .finite n m e, .finite n' m' e' =>
      let low := min e e'
      let sum := scaled low n m e + scaled low n' m' e'
      if sum = 0 then .finite (n && n') 0 low
      else FloatValue.round (decide (sum < 0)) sum.natAbs low

/-- `-x`. -/
def FloatValue.neg : FloatValue → FloatValue
  | .finite negative m e => .finite (!negative) m e
  | .infinite negative => .infinite (!negative)
  | .nan negative payload => .nan (!negative) payload

/-- `x - y` in double precision. -/
def FloatValue.sub (x y : FloatValue) : FloatValue := x.add y.neg

/-- `x * y` in double precision. -/
def FloatValue.mul : FloatValue → FloatValue → FloatValue
  | .nan negative payload, _ => .nan negative payload
  | _, .nan negative payload => .nan negative payload
  | .infinite negative, .infinite negative' => .infinite (negative ^^ negative')
  | .infinite negative, .finite n m _ => if m = 0 then .nan true 0 else .infinite (negative ^^ n)
  | .finite n m _, .infinite negative => if m = 0 then .nan true 0 else .infinite (n ^^ negative)
  | .finite n m e, .finite n' m' e' => FloatValue.round (n ^^ n') (m * m') (e + e')

/-- `n / d` in double precision, for a positive `d`: a digit below the last place tells an
inexact quotient from a tie. -/
def quotient (n : Int) (d : Nat) : FloatValue :=
  let shift := 64 + bitLength d
  let sticky := if n.natAbs * 2 ^ shift % d = 0 then 0 else 1
  FloatValue.round (decide (n < 0)) (2 * (n.natAbs * 2 ^ shift / d) + sticky) (-shift - 1)

/-- `abs(x)`. -/
def FloatValue.abs : FloatValue → FloatValue
  | .finite _ m e => .finite false m e
  | .infinite _ => .infinite false
  | .nan _ payload => .nan false payload

/-- A finite value to the nearest integer, ties to even. -/
def nearest (negative : Bool) (m : Nat) (e : Int) : Int :=
  let magnitude := roundAt 0 m e
  if negative then -magnitude else magnitude

/-- A NaN pattern whose quiet bit is clear. -/
def SignallingNaN (bits : Nat) : Prop :=
  bits / 2 ^ 23 % 2 ^ 8 = 255 ∧ bits % 2 ^ 23 ≠ 0 ∧ bits % 2 ^ 23 < 2 ^ 22

instance (bits : Nat) : Decidable (SignallingNaN bits) :=
  inferInstanceAs (Decidable (_ ∧ _ ∧ _))

/-- The pattern a widened and narrowed value has: signalling NaNs turn quiet. -/
def quiet (bits : Nat) : Nat := if SignallingNaN bits then bits + 2 ^ 22 else bits

/-! ### Widening and narrowing -/

theorem bitLength_le_iff {m k : Nat} : bitLength m ≤ k ↔ m < 2 ^ k := by
  unfold bitLength
  split
  · rename_i h
    subst h
    simp [Nat.two_pow_pos]
  · rename_i h
    rw [Nat.add_one_le_iff, Nat.log2_lt h]

theorem lastPlace_subnormal {m : Nat} (h : m < 2 ^ 23) :
    lastPlace 24 (-149) m (-149) = -149 := by
  have hlen := bitLength_le_iff.mpr h
  unfold lastPlace
  omega

theorem lastPlace_normal {m : Nat} {e : Int} (hlo : 2 ^ 23 ≤ m) (hhi : m < 2 ^ 24)
    (he : -149 ≤ e) : lastPlace 24 (-149) m e = e := by
  have hle := bitLength_le_iff.mpr hhi
  have hge : ¬ bitLength m ≤ 23 := fun h => absurd (bitLength_le_iff.mp h) (by omega)
  unfold lastPlace
  omega

theorem roundAt_self (m : Nat) (e : Int) : roundAt e m e = m := by
  simp [roundAt]

variable {bits : Nat}

/-- A pattern is its sign, its biased exponent and its fraction. -/
theorem bits_eq_fields (h : bits < 2 ^ 32) :
    bits = signBit (decide (bits / 2 ^ 31 % 2 = 1)) +
      (bits / 2 ^ 23 % 2 ^ 8 * 2 ^ 23 + bits % 2 ^ 23) := by
  have hsign : signBit (decide (bits / 2 ^ 31 % 2 = 1)) = bits / 2 ^ 31 * 2 ^ 31 := by
    unfold signBit
    split
    · rename_i hb
      have hone := of_decide_eq_true hb
      omega
    · rename_i hb
      have hne := of_decide_eq_false (Bool.eq_false_iff.mpr hb)
      omega
  omega

open FloatValue

theorem toBits_subnormal (negative : Bool) {m : Nat} (h : m < 2 ^ 23) :
    (finite negative m (-149)).toBits = some (signBit negative + m) := by
  have hbias : ((-149 : Int) + 149).toNat * 2 ^ 23 + m = m := by simp
  have hbound : m < 255 * 2 ^ 23 := by omega
  simp only [toBits, lastPlace_subnormal h, roundAt_self, hbias, if_pos hbound]

theorem toBits_normal (negative : Bool) {biased fraction : Nat} (hpos : biased ≠ 0)
    (hexp : biased < 255) (h : fraction < 2 ^ 23) :
    (finite negative (fraction + 2 ^ 23) ((biased : Int) - 150)).toBits =
      some (signBit negative + (biased * 2 ^ 23 + fraction)) := by
  have hplace : lastPlace 24 (-149) (fraction + 2 ^ 23) ((biased : Int) - 150) =
      (biased : Int) - 150 :=
    lastPlace_normal (Nat.le_add_left _ _) (by omega) (by omega)
  have hbias : ((biased : Int) - 150 + 149).toNat = biased - 1 := by omega
  have hmagnitude : (biased - 1) * 2 ^ 23 + (fraction + 2 ^ 23) = biased * 2 ^ 23 + fraction := by
    omega
  have hbound : biased * 2 ^ 23 + fraction < 255 * 2 ^ 23 := by omega
  simp only [toBits, hplace, roundAt_self, hbias, hmagnitude, if_pos hbound]

/-- **Narrowing undoes widening**, up to the quiet bit. -/
theorem toBits_ofBits (h : bits < 2 ^ 32) :
    (ofBits bits).toBits = some (quiet bits) := by
  have hfields := bits_eq_fields h
  have hfrac : bits % 2 ^ 23 < 2 ^ 23 := Nat.mod_lt _ (by decide)
  unfold ofBits quiet
  by_cases hspecial : bits / 2 ^ 23 % 2 ^ 8 = 255
  · by_cases hzero : bits % 2 ^ 23 = 0
    · have hloud : ¬ SignallingNaN bits := fun hs => hs.2.1 hzero
      rw [if_pos hspecial, if_pos hzero, if_neg hloud]
      simp only [toBits]
      exact congrArg some (by omega)
    · rw [if_pos hspecial, if_neg hzero]
      refine congrArg some ?_
      split
      · rename_i hs
        have hlow := hs.2.2
        omega
      · rename_i hs
        have hhigh : ¬ bits % 2 ^ 23 < 2 ^ 22 := fun hlt => hs ⟨hspecial, hzero, hlt⟩
        omega
  · have hloud : ¬ SignallingNaN bits := fun hs => hspecial hs.1
    rw [if_neg hspecial, if_neg hloud]
    by_cases hsub : bits / 2 ^ 23 % 2 ^ 8 = 0
    · rw [if_pos hsub, toBits_subnormal _ hfrac]
      exact congrArg some (by omega)
    · rw [if_neg hsub, toBits_normal _ hsub (by omega) hfrac]
      exact congrArg some hfields.symm

theorem quiet_lt (h : bits < 2 ^ 32) : quiet bits < 2 ^ 32 := by
  unfold quiet
  split
  · rename_i hs
    have hlow := hs.2.2
    omega
  · exact h

theorem quiet_eq_self_iff : quiet bits = bits ↔ ¬ SignallingNaN bits := by
  unfold quiet
  split
  · rename_i hs
    simp [hs]
  · rename_i hs
    simp [hs]

/-- A pattern that a value is narrowed to comes back as it is. -/
theorem toBits_ofBits_toBits {x : FloatValue} (h : x.toBits = some bits) :
    bits < 2 ^ 32 ∧ (ofBits bits).toBits = some bits := by
  have hquiet : bits < 2 ^ 32 ∧ ¬ SignallingNaN bits := by
    unfold SignallingNaN
    cases x with
    | nan negative payload =>
        have hbits := Option.some.inj h
        cases negative <;> simp only [signBit, if_true, Bool.false_eq_true, if_false] at hbits <;>
          omega
    | infinite negative =>
        have hbits := Option.some.inj h
        cases negative <;> simp only [signBit, if_true, Bool.false_eq_true, if_false] at hbits <;>
          omega
    | finite negative m e =>
        simp only [toBits] at h
        split_ifs at h with hbound
        have hbits := Option.some.inj h
        cases negative <;> simp only [signBit, if_true, Bool.false_eq_true, if_false] at hbits <;>
          omega
  exact ⟨hquiet.1, (toBits_ofBits hquiet.1).trans (congrArg some (quiet_eq_self_iff.mpr hquiet.2))⟩

end Binary32
