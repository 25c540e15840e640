import MissionSim.Octets
import MissionSim.ShiftRegisters
import Mathlib.Algebra.Field.ZMod
import Mathlib.Data.ZMod.Basic
import Mathlib.Tactic.FinCases

/-!
# The pseudo-randomiser

A register of eight bits puts out its top bit and is fed back from four of its bits.  Two thousand
and forty-eight octets of this are kept as a table, which is doubled for a longer frame.  Frame data
is combined with the table bit by bit, on both sides of the link.

The sequence the randomiser is named after is the solution, from all ones, of the recurrence with
the characteristic polynomial `x^8 + x^7 + x^5 + x^3 + 1`.  The register solves another recurrence
(`scramble_register`), and differs from it in the second octet (`scramble_iff`).
-/

namespace Ccsds

open Octets List

/-! ### The register -/

/-- The bit that is fed back. -/
def feedbackBit (register : Nat) : Nat :=
  ((register >>> 7) ^^^ (register >>> 5) ^^^ (register >>> 3) ^^^ register) &&& 1

def shiftRegister (register : Nat) : Nat := ((register <<< 1) ||| feedbackBit register) &&& 0xFF

/-- The top bit. -/
def outputBit (register : Nat) : Nat := (register >>> 7) &&& 1

/-- Some rounds of the inner loop of `_generate_sequence`, on the register and `byte_val`. -/
def shiftOut : Nat → Nat × Nat → Nat × Nat
  | 0, s => s
  | n + 1, (register, byteVal) =>
      shiftOut n (shiftRegister register, (byteVal <<< 1) ||| outputBit register)

/-- Octets put out from a register on. -/
def sequenceFrom (register : Nat) : Nat → Bytes
  | 0 => []
  | n + 1 =>
      UInt8.ofNat (shiftOut 8 (register, 0)).2 ::
        sequenceFrom (shiftOut 8 (register, 0)).1 n

/-- `_generate_sequence(length)`. -/
def generateSequence (length : Nat := 255) : Bytes := sequenceFrom 0xFF length

/-- `CCSDS_SEQUENCE`. -/
def ccsdsSequence : Bytes := generateSequence 2048

/-- `while len(seq) < n: seq = seq + seq`. -/
def extend (seq : Bytes) (n : Nat) : Bytes :=
  if 0 < seq.length ∧ seq.length < n then extend (seq ++ seq) n else seq
termination_by n - seq.length
decreasing_by
  rw [List.length_append]
  omega

/-- `scramble(data)`. -/
def scramble (data : Bytes) : Bytes :=
  List.zipWith (· ^^^ ·) data ((extend ccsdsSequence data.length).take data.length)

/-- `descramble(data)`. -/
def descramble (data : Bytes) : Bytes := scramble data

/-! ### The table -/

theorem sequenceFrom_length (register n : Nat) : (sequenceFrom register n).length = n := by
  induction n generalizing register with
  | zero => rfl
  | succ n ih => exact congrArg Nat.succ (ih _)

theorem ccsdsSequence_length : ccsdsSequence.length = 2048 := sequenceFrom_length _ _

theorem extend_spec {seq : Bytes} (hseq : 0 < seq.length) (n : Nat) :
    n ≤ (extend seq n).length ∧
      ∀ k < (extend seq n).length, (extend seq n)[k]? = seq[k % seq.length]? := by
  induction seq using extend.induct n with
  | case1 seq hshort ih =>
      rw [extend, if_pos hshort]
      have hdouble := ih (by rw [length_append]; omega)
      refine ⟨hdouble.1, fun k hk => ?_⟩
      rw [hdouble.2 k hk, length_append, ← Nat.two_mul]
      -- a place of the doubled table is one of the table
      have hmod : k % (2 * seq.length) % seq.length = k % seq.length :=
        Nat.mod_mod_of_dvd k (Dvd.intro_left 2 rfl)
      have hlt : k % (2 * seq.length) < 2 * seq.length := Nat.mod_lt _ (by omega)
      rw [← hmod]
      by_cases hfirst : k % (2 * seq.length) < seq.length
      · rw [getElem?_append_left hfirst, Nat.mod_eq_of_lt hfirst]
      · have hsecond : k % (2 * seq.length) % seq.length = k % (2 * seq.length) - seq.length := by
          rw [Nat.mod_eq_sub_mod (Nat.not_lt.mp hfirst), Nat.mod_eq_of_lt (by omega)]
        rw [getElem?_append_right (Nat.not_lt.mp hfirst), hsecond]
  | case2 seq hlong =>
      rw [extend, if_neg hlong]
      refine ⟨by omega, fun k hk => ?_⟩
      rw [Nat.mod_eq_of_lt hk]

/-- The table serves frames of any length. -/
theorem extend_ccsdsSequence (n : Nat) :
    n ≤ (extend ccsdsSequence n).length ∧
      ∀ k < n, (extend ccsdsSequence n)[k]? = ccsdsSequence[k % 2048]? := by
  have hspec := extend_spec (by rw [ccsdsSequence_length]; omega : 0 < ccsdsSequence.length) n
  rw [ccsdsSequence_length] at hspec
  exact ⟨hspec.1, fun k hk => hspec.2 k (lt_of_lt_of_le hk hspec.1)⟩

@[simp] theorem scramble_length (data : Bytes) : (scramble data).length = data.length := by
  have hlong := (extend_ccsdsSequence data.length).1
  unfold scramble
  rw [length_zipWith, length_take]
  omega

/-- **What the scrambler does to an octet.** -/
theorem scramble_getElem? {data : Bytes} {k : Nat} (h : k < data.length) :
    (scramble data)[k]? = some (data[k] ^^^ ccsdsSequence.getD (k % 2048) 0) := by
  have hmod : k % 2048 < ccsdsSequence.length := by
    rw [ccsdsSequence_length]
    omega
  have htable := (extend_ccsdsSequence data.length).2 k h
  rw [getElem?_eq_getElem hmod] at htable
  unfold scramble
  rw [getElem?_zipWith, getElem?_eq_getElem h, getElem?_take_of_lt h, htable,
    getD_eq_getElem _ _ hmod]

/-- **The scrambler is its own inverse.** -/
theorem scramble_scramble (data : Bytes) : scramble (scramble data) = data := by
  refine ext_getElem? fun k => ?_
  by_cases h : k < data.length
  · have hscrambled := scramble_getElem? h
    have hk : k < (scramble data).length := by rwa [scramble_length]
    rw [getElem?_eq_getElem hk] at hscrambled
    rw [scramble_getElem? hk, Option.some.inj hscrambled, UInt8.xor_assoc, UInt8.xor_self,
      UInt8.xor_zero, getElem?_eq_getElem h]
  · rw [getElem?_eq_none (by simpa using h), getElem?_eq_none (by omega)]

/-! ### The bits of the table -/

/-- Bits behind a number, the first one foremost. -/
def joinBits (bits : List Nat) (n : Nat) : Nat := bits.foldl (fun acc bit => (acc <<< 1) ||| bit) n

/-- The octet of a sequence of bits at a place. -/
def sequenceByte (s : Nat → ZMod 2) (k : Nat) : UInt8 :=
  UInt8.ofNat (joinBits ((List.range 8).map fun i => (s (8 * k + i)).val) 0)

section Registers

variable (shift : Nat → Nat)

/-- The octet that a register put out after some shifts begins. -/
def registerByte (n register : Nat) : UInt8 :=
  UInt8.ofNat (joinBits ((List.range 8).map fun i => outputBit (shift^[n + i] register)) 0)

/-- The bits of a register, the one that comes out next first. -/
def cells (register : Nat) : Fin 8 → ZMod 2 := fun i => if register.testBit (7 - i) then 1 else 0

/-- The recurrence of order eight with the given coefficients. -/
abbrev recurrence (coeffs : Fin 8 → ZMod 2) : LinearRecurrence (ZMod 2) where
  order := 8
  coeffs := coeffs

/-- The solution that starts with ones. -/
noncomputable abbrev fromOnes (coeffs : Fin 8 → ZMod 2) : Nat → ZMod 2 :=
  (recurrence coeffs).mkSol fun _ => 1

variable {shift} {coeffs : Fin 8 → ZMod 2}
  (hshift : ∀ r < 256, shift r < 256 ∧ cells (shift r) = (recurrence coeffs).tupleSucc (cells r))

include hshift in
theorem cells_iterate (n : Nat) :
    shift^[n] 0xFF < 256 ∧
      cells (shift^[n] 0xFF) = (recurrence coeffs).tupleSucc^[n] fun _ => 1 := by
  have hseed : cells 0xFF = fun _ => 1 := by decide
  induction n with
  | zero => exact ⟨(by decide : 0xFF < 256), hseed⟩
  | succ n ih =>
      rw [Function.iterate_succ_apply', Function.iterate_succ_apply']
      have hnext := hshift _ ih.1
      exact ⟨hnext.1, ih.2 ▸ hnext.2⟩

theorem outputBit_eq {register : Nat} (h : register < 256) :
    outputBit register = (cells register 0).val := by
  revert register
  decide +kernel

include hshift in
/-- **A register puts out the solution of its recurrence.** -/
theorem outputBit_iterate (n : Nat) :
    outputBit (shift^[n] 0xFF) = (fromOnes coeffs n).val := by
  have hcells := cells_iterate hshift n
  rw [outputBit_eq hcells.1, hcells.2, LinearRecurrence.tupleSucc_iterate]
  rfl

include hshift in
theorem registerByte_eq (k : Nat) :
    registerByte shift (8 * k) 0xFF = sequenceByte (fromOnes coeffs) k := by
  unfold registerByte sequenceByte
  simp only [outputBit_iterate hshift]

end Registers

theorem shiftOut_eq (n register byteVal : Nat) :
    shiftOut n (register, byteVal) = (shiftRegister^[n] register,
      joinBits ((range n).map fun i => outputBit (shiftRegister^[i] register)) byteVal) := by
  induction n generalizing register byteVal with
  | zero => rfl
  | succ n ih =>
      rw [shiftOut, ih, range_succ_eq_map, map_cons, map_map]
      rfl

/-- **The table**, octet by octet. -/
theorem sequenceFrom_getElem? (register : Nat) {n k : Nat} (h : k < n) :
    (sequenceFrom register n)[k]? = some (registerByte shiftRegister (8 * k) register) := by
  induction n generalizing register k with
  | zero => exact absurd h (Nat.not_lt_zero k)
  | succ n ih =>
      rw [sequenceFrom, shiftOut_eq]
      cases k with
      | zero =>
          rw [getElem?_cons_zero]
          unfold registerByte
          simp only [Nat.mul_zero, Nat.zero_add]
      | succ k =>
          rw [getElem?_cons_succ, ih _ (by omega)]
          unfold registerByte
          have hlater : ∀ i, shiftRegister^[8 * (k + 1) + i] register =
              shiftRegister^[8 * k + i] (shiftRegister^[8] register) := fun i => by
            rw [← Function.iterate_add_apply, Nat.mul_succ, Nat.add_right_comm]
          simp only [hlater]

/-! ### The sequence and the table -/

/-- The coefficients of `x^8 + x^7 + x^5 + x^3 + 1`, from the lowest. -/
def randomiserCoeffs : Fin 8 → ZMod 2 := ![1, 0, 0, 1, 0, 1, 0, 1]

/-- The coefficients of the bits the register is fed back from. -/
def registerCoeffs : Fin 8 → ZMod 2 := ![1, 0, 1, 0, 1, 0, 0, 1]

theorem shiftRegister_cells : ∀ r < 256, shiftRegister r < 256 ∧
    cells (shiftRegister r) = (recurrence registerCoeffs).tupleSucc (cells r) := by
  decide +kernel

/-- **What the table holds**: the solution of the recurrence of the register. -/
theorem ccsdsSequence_getElem? {k : Nat} (h : k < 2048) :
    ccsdsSequence[k]? = some (sequenceByte (fromOnes registerCoeffs) k) := by
  unfold ccsdsSequence generateSequence
  rw [sequenceFrom_getElem? _ h, registerByte_eq shiftRegister_cells]

/-- **What the scrambler applies**, to frame data of any length: bits of the solution of the
register's recurrence, from the start again after every 2048 octets. -/
theorem scramble_register {data : Bytes} {k : Nat} (h : k < data.length) :
    (scramble data)[k]? =
      some (data[k] ^^^ sequenceByte (fromOnes registerCoeffs) (k % 2048)) := by
  have hmod : k % 2048 < 2048 := Nat.mod_lt k (by decide)
  rw [scramble_getElem? h, getD_eq_getElem?_getD, ccsdsSequence_getElem? hmod,
    Option.getD_some]

/-- A frame of one octet. -/
theorem scramble_register_single :
    (scramble [0x2A])[0]? = some (0x2A ^^^ sequenceByte (fromOnes registerCoeffs) 0) :=
  scramble_register (by decide)

/-- The register fed back from the bits that the polynomial names. -/
def randomiserRegister (register : Nat) : Nat :=
  ((register <<< 1) |||
    (((register >>> 7) ^^^ (register >>> 4) ^^^ (register >>> 2) ^^^ register) &&& 1)) &&& 0xFF

theorem randomiserRegister_cells : ∀ r < 256, randomiserRegister r < 256 ∧
    cells (randomiserRegister r) = (recurrence randomiserCoeffs).tupleSucc (cells r) := by
  decide +kernel

/-- The pseudo-random sequence. -/
noncomputable def randomiser : Nat → ZMod 2 := fromOnes randomiserCoeffs

/-- Data combined with the sequence. -/
noncomputable def randomised (data : Bytes) : Bytes :=
  data.mapIdx fun k byte => byte ^^^ sequenceByte randomiser k

theorem randomised_getElem? {data : Bytes} {k : Nat} (h : k < data.length) :
    (randomised data)[k]? = some (data[k] ^^^ sequenceByte randomiser k) := by
  unfold randomised
  rw [getElem?_mapIdx, getElem?_eq_getElem h, Option.map_some]

/-- The first octets agree and the second do not. -/
theorem second_octets :
    sequenceByte randomiser 0 = 0xFF ∧ sequenceByte randomiser 1 = 0x48 ∧
      ccsdsSequence.getD 0 0 = 0xFF ∧ ccsdsSequence.getD 1 0 = 0x5A := by
  unfold randomiser
  rw [← registerByte_eq randomiserRegister_cells, ← registerByte_eq randomiserRegister_cells]
  decide

/-- **The scrambler applies the sequence to a single octet at most.**  It is its own inverse at every
length. -/
theorem scramble_iff (data : Bytes) :
    (scramble data = randomised data ∧ scramble (scramble data) = data) ↔ data.length ≤ 1 := by
  obtain ⟨hfirst, hsecond, htable, htable'⟩ := second_octets
  constructor
  · rintro ⟨heq, -⟩
    by_contra hlong
    have hk : 1 < data.length := Nat.lt_of_not_le hlong
    have hoctet := congrArg (·[1]?) heq
    simp only [scramble_getElem? hk, randomised_getElem? hk] at hoctet
    rw [hsecond, show 1 % 2048 = 1 from rfl, htable'] at hoctet
    have hcancel := congrArg (data[1] ^^^ ·) (Option.some.inj hoctet)
    simp only [← UInt8.xor_assoc, UInt8.xor_self, UInt8.zero_xor] at hcancel
    exact absurd hcancel (by decide)
  · intro hshort
    refine ⟨List.ext_getElem? fun k => ?_, scramble_scramble data⟩
    by_cases hk : k < data.length
    · obtain rfl : k = 0 := by omega
      rw [scramble_getElem? hk, randomised_getElem? hk, hfirst, Nat.zero_mod, htable]
    · rw [List.getElem?_eq_none (by simpa using hk), List.getElem?_eq_none (by
        unfold randomised
        simpa using hk)]

/-- Two octets of zeros are not scrambled into the beginning of the sequence. -/
theorem two_zeros_not_randomised :
    ¬ (scramble [0, 0] = randomised [0, 0] ∧ scramble (scramble [0, 0]) = [0, 0]) := by
  rintro ⟨heq, -⟩
  have hoctet := congrArg (·[1]?) heq
  simp only [scramble_getElem? (show 1 < [(0 : UInt8), 0].length by decide),
    randomised_getElem? (show 1 < [(0 : UInt8), 0].length by decide), second_octets.2.1] at hoctet
  exact absurd hoctet (by decide)

end Ccsds
