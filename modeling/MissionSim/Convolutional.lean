import MissionSim.Octets
import MissionSim.Trellis

/-!
# The rate-1/2 convolutional code

The downlink codes its bits with the constraint length 7, rate 1/2 convolutional
code.  Every input bit is shifted into a seven-bit register and gives two output
bits, the parities of two taps.  Six zero bits flush the register, and the output
is filled up to whole octets.

The ground decodes with a Viterbi decoder over the 64 states of the register's
lower bits.  Both tables are the code of `Trellis`, so without channel errors the
decoder gives back the data.
-/

namespace Ccsds

open Octets List

/-! ### Bits and octets -/

/-- Bits of an octet, most significant first. -/
def octetBits (byte : UInt8) : List Bool :=
  [7, 6, 5, 4, 3, 2, 1, 0].map fun pos => byte.toNat.testBit pos

def bitsOf (data : Bytes) : List Bool := data.flatMap octetBits

/-- The first eight bits as an octet; missing bits are zero. -/
def packOctet (bits : List Bool) : UInt8 :=
  UInt8.ofNat ((List.range 8).foldl
    (fun value j => value <<< 1 ||| (bits.getD j false).toNat) 0)

/-- Bits packed into octets, the last one filled with zeros. -/
def packBits (bits : List Bool) : Bytes := (blocksOf 8 bits).map packOctet

theorem bitsOf_cons (byte : UInt8) (data : Bytes) :
    bitsOf (byte :: data) = octetBits byte ++ bitsOf data := rfl

@[simp] theorem bitsOf_append (a b : Bytes) : bitsOf (a ++ b) = bitsOf a ++ bitsOf b :=
  flatMap_append

@[simp] theorem bitsOf_length (data : Bytes) : (bitsOf data).length = 8 * data.length := by
  induction data with
  | nil => rfl
  | cons byte data ih =>
      rw [bitsOf, flatMap_cons, length_append, length_cons]
      have : (octetBits byte).length = 8 := rfl
      have : (data.flatMap octetBits).length = 8 * data.length := ih
      omega

@[simp] theorem packBits_length (bits : List Bool) :
    (packBits bits).length = (bits.length + 7) / 8 := by
  simp [packBits]

theorem packOctet_octetBits (byte : UInt8) : packOctet (octetBits byte) = byte := by
  have hall : ∀ n < 256, packOctet (octetBits (UInt8.ofNat n)) = UInt8.ofNat n := by
    decide +kernel
  exact forall_octet (P := fun b => packOctet (octetBits b) = b) hall byte

/-- An octet holds the bits packed into it, then zeros. -/
theorem octetBits_packOctet (bits : List Bool) :
    octetBits (packOctet bits) = (bits ++ replicate 8 false).take 8 := by
  have hall : ∀ a b c d e f g h : Bool,
      octetBits (packOctet [a, b, c, d, e, f, g, h]) = [a, b, c, d, e, f, g, h] := by
    decide
  have hpadded : packOctet bits = packOctet ((bits ++ replicate 8 false).take 8) := by
    unfold packOctet
    congr 1
    refine foldl_ext _ _ _ fun value j hj => ?_
    have hj8 := mem_range.mp hj
    have hbit : ((bits ++ replicate 8 false).take 8).getD j false = bits.getD j false := by
      simp only [getD_eq_getElem?_getD, getElem?_take, hj8, if_true]
      by_cases hin : j < bits.length
      · rw [getElem?_append_left hin]
      · rw [getElem?_append_right (by omega), getElem?_replicate,
          getElem?_eq_none (by omega)]
        split <;> rfl
    rw [hbit]
  have hlen : ((bits ++ replicate 8 false).take 8).length = 8 := by simp
  rw [hpadded]
  generalize (bits ++ replicate 8 false).take 8 = octet at hlen
  match octet, hlen with
  | [a, b, c, d, e, f, g, h], _ => exact hall a b c d e f g h

/-- The first octet is packed on its own. -/
theorem packBits_append {octet : List Bool} (h : octet.length = 8) (rest : List Bool) :
    packBits (octet ++ rest) = packOctet octet :: packBits rest := by
  rw [packBits, blocksOf_append (by decide) h, map_cons, packBits]

/-- Packing the bits of octets gives them back. -/
theorem packBits_bitsOf (data : Bytes) : packBits (bitsOf data) = data := by
  induction data with
  | nil => rfl
  | cons byte data ih =>
      change packBits (octetBits byte ++ bitsOf data) = byte :: data
      rw [packBits_append rfl, packOctet_octetBits, ih]

theorem bitsOf_drop (raw : Bytes) (n : Nat) : bitsOf (raw.drop n) = (bitsOf raw).drop (8 * n) := by
  induction raw generalizing n with
  | nil => simp [bitsOf]
  | cons byte raw ih =>
      cases n with
      | zero => rfl
      | succ n =>
          have hskip : 8 * (n + 1) = (octetBits byte).length + 8 * n := by
            rw [show (octetBits byte).length = 8 from rfl]
            omega
          rw [drop_succ_cons, ih, bitsOf_cons, hskip, ← drop_drop, drop_left]

theorem bitsOf_take (raw : Bytes) (n : Nat) : bitsOf (raw.take n) = (bitsOf raw).take (8 * n) := by
  by_cases hn : n ≤ raw.length
  · have hwhole := bitsOf_append (raw.take n) (raw.drop n)
    rw [take_append_drop] at hwhole
    rw [hwhole, take_left']
    rw [bitsOf_length, length_take_of_le hn]
  · rw [take_of_length_le (by omega), take_of_length_le]
    rw [bitsOf_length]
    omega

theorem bitsOf_injective {a b : Bytes} (h : bitsOf a = bitsOf b) : a = b := by
  rw [← packBits_bitsOf a, h, packBits_bitsOf]

/-- The bits of packed octets are the bits packed and the fill. -/
theorem bitsOf_packBits {pad : Nat} (hpad : pad < 8) (bits : List Bool)
    (h : 8 ∣ bits.length + pad) :
    bitsOf (packBits bits) = bits ++ replicate pad false := by
  induction bits using block_induction (show 0 < 8 by decide) with
  | nil =>
      have : pad = 0 := by
        rw [length_nil] at h
        omega
      subst this
      rfl
  | short bits hne hshort =>
      have hpos := length_pos_iff.mpr hne
      rw [packBits, blocksOf_short hne hshort.le]
      change octetBits (packOctet bits) ++ [] = _
      rw [append_nil, octetBits_packOctet, take_append,
        take_of_length_le hshort.le, take_replicate]
      congr 2
      omega
  | full octet rest hlen ih =>
      rw [packBits_append hlen]
      change octetBits (packOctet octet) ++ bitsOf (packBits rest) = _
      rw [octetBits_packOctet, take_append_of_le_length hlen.ge,
        take_of_length_le hlen.le, ih, append_assoc]
      rw [length_append] at h
      omega

/-! ### The encoder -/

def g1 : Nat := 0x79

def g2 : Nat := 0x5B

/-- Bits in the register. -/
def constraintLength : Nat := 7

/-- The loop of `parity`: every round clears the lowest set bit. -/
def parityLoop : Nat → Nat → Bool
  | 0, _ => false
  | fuel + 1, value => if value = 0 then false else !parityLoop fuel (value &&& (value - 1))

/-- Parity of the set bits of a number. -/
def parity (value : Nat) : Bool := parityLoop value value

/-- Shift a bit into the seven-bit register. -/
def shiftIn (register : Nat) (bit : Bool) : Nat := (register <<< 1 ||| bit.toNat) &&& 0x7F

/-- Two output bits for each input bit. -/
def encodeBits : Nat → List Bool → List Bool
  | _, [] => []
  | register, bit :: bits =>
      let next := shiftIn register bit
      parity (next &&& g1) :: parity (next &&& g2) :: encodeBits next bits

/-- Encode, flushing the register with zero bits at the end. -/
def convEncode (data : Bytes) : Bytes :=
  packBits (encodeBits 0 (bitsOf data ++ List.replicate (constraintLength - 1) false))

theorem encodeBits_length (register : Nat) (bits : List Bool) :
    (encodeBits register bits).length = 2 * bits.length := by
  induction bits generalizing register with
  | nil => rfl
  | cons bit bits ih =>
      rw [encodeBits, length_cons, length_cons, ih, length_cons]
      omega

/-- Two octets for each octet, and two more for the flush. -/
theorem convEncode_length (data : Bytes) :
    (convEncode data).length = data.length * 2 + 2 := by
  simp only [convEncode, packBits_length, encodeBits_length, length_append, bitsOf_length,
    length_replicate, constraintLength]
  omega

/-! ### The Viterbi decoder -/

def numStates : Nat := 1 <<< (constraintLength - 1)

/-- The decoder's tables of next states and expected outputs. -/
def viterbiCode : Trellis.Code (Bool × Bool) where
  numStates := numStates
  next state bit := (state <<< 1 ||| bit.toNat) &&& (numStates - 1)
  out state bit := (parity (shiftIn state bit &&& g1), parity (shiftIn state bit &&& g2))

/-- Hamming distance between a received and an expected pair. -/
def branchMetric (received expected : Bool × Bool) : Nat :=
  (received.1 ^^ expected.1).toNat + (received.2 ^^ expected.2).toNat

/-- Group bits into pairs. -/
def symbolsOf : List Bool → List (Bool × Bool)
  | a :: b :: bits => (a, b) :: symbolsOf bits
  | _ => []

/-- Decode an encoded octet string.  A known original length strips the flush bits. -/
def viterbiDecode (encoded : Bytes) (originalLength : Option Nat) : Bytes :=
  let symbols := symbolsOf (bitsOf encoded)
  if symbols.isEmpty then []
  else
    let decoded := Trellis.decode branchMetric viterbiCode symbols
    packBits <| match originalLength with
      | some n => decoded.take (n * 8)
      | none =>
          if constraintLength - 1 < decoded.length then
            decoded.take (decoded.length - (constraintLength - 1))
          else decoded

/-- In every state the two inputs give outputs apart. -/
theorem viterbiCode_separates : viterbiCode.Separates branchMetric where
  self x := by simp [branchMetric]
  apart := by decide
  closed := by decide

/-- The decoder's state is the lower six bits of the register. -/
theorem shiftIn_state (register : Nat) (bit : Bool) :
    shiftIn (register % numStates) bit = shiftIn register bit ∧
      viterbiCode.next (register % numStates) bit = shiftIn register bit % numStates := by
  have h7 : ∀ n, n &&& 0x7F = n % 2 ^ 7 := mask_eq_mod 7 rfl
  have h6 : ∀ n, n &&& (2 ^ 6 - 1) = n % 2 ^ 6 := mask_eq_mod 6 rfl
  have hbit : bit.toNat < 2 ^ 1 := Bool.toNat_lt bit
  have hstates : numStates = 2 ^ 6 := rfl
  simp only [shiftIn, viterbiCode, h7, h6, shiftLeft_or_eq_add 1 _ hbit, hstates]
  omega

/-- The encoder walks the decoder's trellis. -/
theorem symbolsOf_encodeBits (register : Nat) (bits rest : List Bool) :
    symbolsOf (encodeBits register bits ++ rest) =
      viterbiCode.outputs (register % numStates) bits ++ symbolsOf rest := by
  induction bits generalizing register with
  | nil => rfl
  | cons bit bits ih =>
      obtain ⟨hout, hnext⟩ := shiftIn_state register bit
      rw [Trellis.Code.outputs, hnext, cons_append, ← ih (shiftIn register bit)]
      simp only [encodeBits, cons_append, symbolsOf, viterbiCode, hout]

/-- The flush leads to state zero from everywhere. -/
theorem final_flush {s : Nat} (hs : s < numStates) (bits : List Bool) :
    viterbiCode.final s (bits ++ replicate (constraintLength - 1) false) = 0 := by
  have hzero : ∀ t < numStates,
      viterbiCode.final t (replicate (constraintLength - 1) false) = 0 := by
    decide
  induction bits generalizing s with
  | nil => exact hzero s hs
  | cons bit bits ih => exact ih (viterbiCode_separates.closed s hs bit)

/-- **Without channel errors the decoder gives back the data.** -/
theorem viterbiDecode_convEncode (data : Bytes) :
    viterbiDecode (convEncode data) (some data.length) = data := by
  generalize hpath : bitsOf data ++ replicate (constraintLength - 1) false = path
  have hlen : path.length = 8 * data.length + 6 := by
    rw [← hpath, length_append, bitsOf_length, length_replicate]
    rfl
  have hflushed : viterbiCode.final 0 path = 0 := hpath ▸ final_flush (by decide) _
  have hbits : bitsOf (convEncode data) = encodeBits 0 path ++ replicate 4 false := by
    rw [convEncode, hpath]
    refine bitsOf_packBits (by decide) _ ?_
    rw [encodeBits_length, hlen]
    omega
  -- the fill reads as two more zero bits
  have hsymbols : symbolsOf (bitsOf (convEncode data)) =
      viterbiCode.outputs 0 (path ++ [false, false]) := by
    rw [hbits, symbolsOf_encodeBits, Trellis.Code.outputs_append]
    congr 1
    rw [hflushed]
    decide
  have hdecode : Trellis.decode branchMetric viterbiCode
      (viterbiCode.outputs 0 (path ++ [false, false])) = path ++ [false, false] := by
    refine Trellis.decode_outputs viterbiCode_separates (by decide) ?_
    rw [Trellis.Code.final_append, hflushed]
    decide
  have hne : (viterbiCode.outputs 0 (path ++ [false, false])).isEmpty = false := by
    cases path <;> rfl
  have htake : (path ++ [false, false]).take (data.length * 8) = bitsOf data := by
    rw [← hpath, append_assoc, take_left' (by rw [bitsOf_length, Nat.mul_comm])]
  unfold viterbiDecode
  simp only [hsymbols, hne, hdecode, htake, Bool.false_eq_true, if_false]
  exact packBits_bitsOf data

/-! ### Maximum likelihood -/

/-- Number of places in which bits differ. -/
def hammingDistance (a b : List Bool) : Nat := (List.zipWith xor a b).count true

/-- The decoder's `decoded_bits`, before the flush bits are stripped. -/
def decodedBits (received : List Bool) : List Bool :=
  Trellis.decode branchMetric viterbiCode (symbolsOf received)

theorem viterbiCode_closed : viterbiCode.Closed := viterbiCode_separates.closed

theorem symbolsOf_length (bits : List Bool) : (symbolsOf bits).length = bits.length / 2 := by
  induction bits using symbolsOf.induct with
  | case1 a b bits ih =>
      rw [symbolsOf, length_cons, ih, length_cons, length_cons]
      omega
  | case2 bits hshort =>
      cases bits with
      | nil => rfl
      | cons a rest =>
          cases rest with
          | nil => simp [symbolsOf]
          | cons b rest => exact absurd rfl (hshort a b rest)

theorem symbolsOf_codeword (bits : List Bool) :
    symbolsOf (encodeBits 0 bits) = viterbiCode.outputs 0 bits := by
  have hwalk := symbolsOf_encodeBits 0 bits []
  have hnone : symbolsOf [] = [] := by simp [symbolsOf]
  rwa [append_nil, hnone, append_nil] at hwalk

/-- The distance of pairs is the distance of their bits. -/
theorem distance_symbolsOf (received : List Bool) {codeword : List Bool}
    (h : codeword.length = 2 * (received.length / 2)) :
    Trellis.distance branchMetric (symbolsOf received) (symbolsOf codeword) =
      hammingDistance received codeword := by
  induction received using symbolsOf.induct generalizing codeword with
  | case1 a b received ih =>
      cases codeword with
      | nil =>
          rw [length_nil, length_cons, length_cons] at h
          omega
      | cons x rest =>
          cases rest with
          | nil =>
              rw [length_singleton, length_cons, length_cons] at h
              omega
          | cons y rest =>
              have hrest : rest.length = 2 * (received.length / 2) := by
                rw [length_cons, length_cons, length_cons, length_cons] at h
                omega
              have htail := ih hrest
              have hpair : branchMetric (a, b) (x, y) =
                  ([a ^^ x, b ^^ y] : List Bool).count true := by
                cases a <;> cases b <;> cases x <;> cases y <;> rfl
              unfold hammingDistance Trellis.distance at *
              rw [symbolsOf, symbolsOf, zipWith_cons_cons, sum_cons, htail,
                zipWith_cons_cons, zipWith_cons_cons, hpair]
              exact count_append.symm
  | case2 received hshort =>
      have hnone : symbolsOf received = [] := by
        rw [symbolsOf]
        exact hshort
      have hempty : codeword = [] := by
        have hlength := symbolsOf_length received
        rw [hnone, length_nil] at hlength
        rw [← hlength, Nat.mul_zero] at h
        exact eq_nil_of_length_eq_zero h
      unfold hammingDistance Trellis.distance
      rw [hnone, hempty, zipWith_nil_left, zipWith_nil_right]
      rfl

theorem decodedBits_length (received : List Bool) :
    (decodedBits received).length = received.length / 2 := by
  have hoptimal := Trellis.decode_optimal branchMetric viterbiCode_closed (by decide)
    (symbolsOf received)
  exact hoptimal.1.trans (symbolsOf_length received)

/-- Nothing is stripped where the original is said to be as long as what was encoded. -/
theorem viterbiDecode_whole (encoded : Bytes) :
    viterbiDecode encoded (some encoded.length) = packBits (decodedBits (bitsOf encoded)) := by
  have hlength := decodedBits_length (bitsOf encoded)
  rw [bitsOf_length] at hlength
  unfold viterbiDecode
  dsimp only
  split
  · rename_i hempty
    have hnone : symbolsOf (bitsOf encoded) = [] := isEmpty_iff.mp hempty
    rw [decodedBits, hnone]
    decide
  · have htake : (decodedBits (bitsOf encoded)).take (encoded.length * 8) =
        decodedBits (bitsOf encoded) := take_of_length_le (by omega)
    exact congrArg packBits htake

/-- **The Viterbi decoder is a maximum likelihood decoder.**  No information bits have a codeword
nearer to what was received, and what was received without errors gives back the data. -/
theorem viterbi_maximumLikelihood :
    (∀ received : List Bool,
      (decodedBits received).length = received.length / 2 ∧
        ∀ bits : List Bool, bits.length = received.length / 2 →
          hammingDistance received (encodeBits 0 (decodedBits received)) ≤
            hammingDistance received (encodeBits 0 bits)) ∧
    (∀ encoded : Bytes,
      viterbiDecode encoded (some encoded.length) = packBits (decodedBits (bitsOf encoded))) ∧
    ∀ data : Bytes, viterbiDecode (convEncode data) (some data.length) = data := by
  refine ⟨fun received => ⟨decodedBits_length received, fun bits hbits => ?_⟩,
    viterbiDecode_whole, viterbiDecode_convEncode⟩
  have hoptimal := (Trellis.decode_optimal branchMetric viterbiCode_closed (by decide)
    (symbolsOf received)).2 bits (hbits.trans (symbolsOf_length received).symm)
  have hword (bits : List Bool) (h : bits.length = received.length / 2) :
      Trellis.distance branchMetric (symbolsOf received) (viterbiCode.outputs 0 bits) =
        hammingDistance received (encodeBits 0 bits) := by
    rw [← symbolsOf_codeword]
    exact distance_symbolsOf received (by rw [encodeBits_length, h])
  rw [hword bits hbits] at hoptimal
  exact hword (decodedBits received) (decodedBits_length received) ▸ hoptimal

end Ccsds
