import MissionSim.BitErrors
import MissionSim.PacketBuilders

/-!
# Errors on the way to the parser

The CRC of a packet against burst errors.  The parser finds the CRC through the length field
of the packet.  As long as the length is received as sent, the whole packet has gone
through one division register, trailer included, and a burst of at most sixteen bits
cannot leave it empty.
-/

namespace Ecss

open Octets Python CyclicCode List
open Ccsds (octetBits bitsOf corrupt corrupt_length bitsOf_corrupt corrupt_slice)

/-! ### The CRC as a division register -/

/-- The generator of the CRC below its leading power. -/
def crcTaps : BitVec 16 := 0x1021#16

/-- One bit of the code's register, which keeps what it shifts out until the octet is over. -/
theorem crc16Bit_register (n : Nat) :
    BitVec.ofNat 16 (crc16Bit n) = feed crcTaps (BitVec.ofNat 16 n) false := by
  have hshift : BitVec.ofNat 16 (n <<< 1) = BitVec.ofNat 16 n <<< 1 :=
    BitVec.eq_of_toNat_eq (by simp [Nat.shiftLeft_eq])
  have hmask : n &&& 0x8000 = (n.testBit 15).toNat * 2 ^ 15 := Nat.and_two_pow n 15
  have hmsb : (BitVec.ofNat 16 n).msb = n.testBit 15 := by
    rw [BitVec.msb_eq_getLsbD_last, BitVec.getLsbD_ofNat]
    rfl
  rw [crc16Bit, feed, hmask, hmsb, Bool.xor_false]
  cases n.testBit 15 with
  | true =>
      rw [if_pos (by decide), if_pos rfl, BitVec.ofNat_xor, hshift]
      rfl
  | false =>
      rw [if_neg (by decide), if_neg (by decide), hshift]

theorem crc16Bits_register (k n : Nat) :
    BitVec.ofNat 16 (crc16Bit^[k] n) =
      register crcTaps (BitVec.ofNat 16 n) (replicate k false) := by
  induction k generalizing n with
  | zero => rfl
  | succ k ih =>
      rw [Function.iterate_succ_apply, ih, crc16Bit_register]
      rfl

/-- Eight bits added to the register at once are as good as eight bits fed. -/
theorem register_octet (c : BitVec 16) (byte : UInt8) :
    register crcTaps (c ^^^ BitVec.ofNat 16 (byte.toNat <<< 8)) (replicate 8 false) =
      register crcTaps c (octetBits byte) := by
  have hoctet : register crcTaps (BitVec.ofNat 16 (byte.toNat <<< 8)) (replicate 8 false) =
      register crcTaps 0#16 (octetBits byte) := by
    have hall : ∀ n < 256, register crcTaps (BitVec.ofNat 16 ((UInt8.ofNat n).toNat <<< 8))
        (replicate 8 false) = register crcTaps 0#16 (octetBits (UInt8.ofNat n)) := by
      decide +kernel
    exact forall_octet (P := fun b => register crcTaps (BitVec.ofNat 16 (b.toNat <<< 8))
      (replicate 8 false) = register crcTaps 0#16 (octetBits b)) hall byte
  have hzeros : addBits (replicate 8 false) (replicate 8 false) =
      replicate 8 false := rfl
  have hadded : addBits (replicate 8 false) (octetBits byte) = octetBits byte := by
    simp [addBits, octetBits, replicate]
  have hleft := register_addBits crcTaps c (BitVec.ofNat 16 (byte.toNat <<< 8))
    (rfl : (replicate 8 false).length = (replicate 8 false).length)
  have hright := register_addBits crcTaps c 0#16
    (show (replicate 8 false).length = (octetBits byte).length from rfl)
  rw [hzeros] at hleft
  rw [hadded, BitVec.xor_zero] at hright
  rw [hleft, hright, hoctet]

theorem crc16Byte_register (n : Nat) (byte : UInt8) :
    BitVec.ofNat 16 (crc16Byte n byte) =
      register crcTaps (BitVec.ofNat 16 n) (octetBits byte) := by
  have hmask : ∀ m : Nat, BitVec.ofNat 16 (m &&& 0xFFFF) = BitVec.ofNat 16 m := by
    intro m
    rw [mask_eq_mod 16 (by decide)]
    exact BitVec.eq_of_toNat_eq (by simp)
  rw [crc16Byte, hmask, crc16Bits_register, BitVec.ofNat_xor, register_octet]

/-- **The CRC of octets is the remainder of their bits.** -/
theorem crc16Ccitt_register (data : Bytes) :
    BitVec.ofNat 16 (crc16Ccitt data) = register crcTaps 0xFFFF#16 (bitsOf data) := by
  have hstep : ∀ (data : Bytes) (n : Nat), BitVec.ofNat 16 (data.foldl crc16Byte n) =
      register crcTaps (BitVec.ofNat 16 n) (bitsOf data) := by
    intro data
    induction data with
    | nil => intro n; rfl
    | cons byte data ih =>
        intro n
        rw [foldl_cons, ih, crc16Byte_register, Ccsds.bitsOf_cons, register_append]
  exact hstep data 0xFFFF

/-! ### Received trailers -/

/-- The bits of a sixteen-bit field are those of the number it holds. -/
theorem bitsOf_word {word : Bytes} (h : word.length = 2) :
    bitsOf word = remainderBits (BitVec.ofNat 16 (unpackU16 word)) := by
  match word, h with
  | [a, b], _ =>
      have hbit : ∀ i < 16, (BitVec.ofNat 16 (unpackU16 [a, b])).getMsbD i =
          if i < 8 then a.toNat.testBit (7 - i) else b.toNat.testBit (15 - i) := by
        intro i hi
        have hword : unpackU16 [a, b] = 2 ^ 8 * a.toNat + b.toNat := by
          rw [unpackU16]
          omega
        rw [BitVec.getMsbD_eq_getLsbD, BitVec.getLsbD_ofNat, hword,
          Nat.testBit_two_pow_mul_add _ b.toNat_lt]
        by_cases hhigh : i < 8
        · have hpos : ¬ 16 - 1 - i < 8 := by omega
          have hshift : 16 - 1 - i - 8 = 7 - i := by omega
          simp [hi, hhigh, hpos, hshift]
          omega
        · have hpos : 16 - 1 - i < 8 := by omega
          simp [hi, hhigh, hpos]
          omega
      have hlist : remainderBits (BitVec.ofNat 16 (unpackU16 [a, b])) =
          (range 16).map fun i =>
            if i < 8 then a.toNat.testBit (7 - i) else b.toNat.testBit (15 - i) :=
        map_congr_left fun i hi => hbit i (mem_range.mp hi)
      rw [hlist]
      rfl

/-- The trailer is the CRC exactly when the register is empty behind it. -/
theorem crc_matches_iff (body : Bytes) {trailer : Bytes} (h : trailer.length = 2) :
    unpackU16 trailer = crc16Ccitt body ↔
      register crcTaps 0xFFFF#16 (bitsOf (body ++ trailer)) = 0#16 := by
  have hlength : (bitsOf trailer).length = 16 := by rw [Ccsds.bitsOf_length, h]
  rw [Ccsds.bitsOf_append, register_append, ← crc16Ccitt_register,
    register_eq_zero_iff (by decide) _ hlength, bitsOf_word h]
  constructor
  · intro hsame
    rw [hsame]
  · intro hbits
    have hword := congrArg BitVec.toNat (remainderBits_injective hbits)
    rwa [BitVec.toNat_ofNat, BitVec.toNat_ofNat, Nat.mod_eq_of_lt (unpackU16_lt trailer),
      Nat.mod_eq_of_lt (crc16Ccitt_lt body)] at hword

/-! ### Whole packets -/

/-- A packet of the length it announces, with room for a CRC. -/
structure WholePacket (raw : Bytes) : Prop where
  room : 8 ≤ raw.length
  announced : 6 + unpackU16 (slice raw 4 6) + 1 = raw.length

/-- **The CRC check of the parser**: a whole packet is parsed, and its CRC found valid exactly
when its bits leave the register empty. -/
theorem decommutatePacket_whole {raw : Bytes} (h : WholePacket raw) :
    ∃ p, decommutatePacket raw = some p ∧
      (p.crcValid = true ↔ register crcTaps 0xFFFF#16 (bitsOf raw) = 0#16) := by
  have hroom := h.room
  have hlength : (PrimaryHeader.unpack (raw.take 6)).dataLength = unpackU16 (slice raw 4 6) := rfl
  have htotal : 6 + (PrimaryHeader.unpack (raw.take 6)).dataLength + 1 = raw.length := by
    exact h.announced
  have htrailer : (raw.drop (raw.length - 2)).length = 2 := by
    rw [length_drop]
    omega
  have hcrc := crc_matches_iff (raw.take (raw.length - 2)) htrailer
  rw [take_append_drop] at hcrc
  unfold decommutatePacket
  simp only [htotal]
  rw [if_neg (by omega), if_neg (by omega)]
  refine ⟨_, rfl, ?_⟩
  rw [← hcrc]
  simp [slice]

/-! ### What the builders produce -/

theorem packUnsigned_two_eq_ok {n : Nat} {octets : Bytes} (h : packUnsigned 2 n = .ok octets) :
    n < 2 ^ 16 ∧ octets = packU16 n := by
  by_cases hn : n < 2 ^ 16
  · rw [packUnsigned_two hn] at h
    cases h
    exact ⟨hn, rfl⟩
  · have hrange : ¬ (0 ≤ (n : Int) ∧ (n : Int) < 2 ^ (8 * 2)) := by omega
    rw [packUnsigned, if_neg hrange] at h
    cases h

/-- A packet that is finished announces its own length and ends with its CRC. -/
theorem finish_whole {primary : PrimaryHeader} {payload raw : Bytes}
    (hlength : primary.dataLength = payload.length + 1) (h : finish primary payload = .ok raw) :
    WholePacket raw ∧ register crcTaps 0xFFFF#16 (bitsOf raw) = 0#16 := by
  obtain ⟨header, hheader, hrest⟩ := Python.bind_eq_ok.mp h
  obtain ⟨word0, hword0, hheader⟩ := Python.bind_eq_ok.mp hheader
  obtain ⟨word1, hword1, hheader⟩ := Python.bind_eq_ok.mp hheader
  obtain ⟨word2, hword2, hpure⟩ := Python.bind_eq_ok.mp hheader
  obtain ⟨-, rfl⟩ := packUnsigned_two_eq_ok hword0
  obtain ⟨-, rfl⟩ := packUnsigned_two_eq_ok hword1
  obtain ⟨hfits, rfl⟩ := packUnsigned_two_eq_ok hword2
  cases hpure
  obtain ⟨crc, hcrc, hpure⟩ := Python.bind_eq_ok.mp hrest
  obtain ⟨hcrcLt, rfl⟩ := packUnsigned_two_eq_ok hcrc
  cases hpure
  constructor
  · have hfield : slice (packU16 primary.packetId ++ packU16 primary.seqCtrl ++
        packU16 primary.dataLength ++ payload ++
        packU16 (crc16Ccitt (packU16 primary.packetId ++ packU16 primary.seqCtrl ++
          packU16 primary.dataLength ++ payload))) 4 6 = packU16 primary.dataLength := rfl
    constructor
    · simp only [length_append, packU16_length]
      omega
    · rw [hfield, unpackU16_packU16, Nat.mod_eq_of_lt hfits, hlength]
      simp only [length_append, packU16_length]
      omega
  · refine (crc_matches_iff _ (packU16_length _)).mp ?_
    rw [unpackU16_packU16, Nat.mod_eq_of_lt hcrcLt]

/-- So do the packets of the two functions of the packet layer. -/
theorem build_whole {f : PacketFields} {raw : Bytes}
    (h : buildTmPacket f = .ok raw ∨ buildTcPacket f = .ok raw) :
    WholePacket raw ∧ register crcTaps 0xFFFF#16 (bitsOf raw) = 0#16 := by
  cases h with
  | inl htm =>
      obtain ⟨secHdr, _, hfinish⟩ := Python.bind_eq_ok.mp htm
      exact finish_whole rfl hfinish
  | inr htc =>
      obtain ⟨secHdr, _, hfinish⟩ := Python.bind_eq_ok.mp htc
      exact finish_whole rfl hfinish

/-- A burst outside the length field leaves the packet whole. -/
theorem corrupt_whole {raw : Bytes} (hwhole : WholePacket raw) (burst : Burst 16)
    (hpattern : burst.pattern.length = 8 * raw.length)
    (hmiss : burst.before + burst.window.length ≤ 32 ∨ 48 ≤ burst.before) :
    WholePacket (corrupt raw burst.pattern) := by
  have hclear := burst.pattern_clear (i := 8 * 4) (j := 8 * 6) hmiss
  have hfield := corrupt_slice hpattern hclear
  refine ⟨?_, ?_⟩
  · rw [corrupt_length hpattern]
    exact hwhole.room
  · rw [hfield, corrupt_length hpattern]
    exact hwhole.announced

/-- **The CRC detects bursts.**  A packet hit by a burst of at most sixteen bits outside its
length field is parsed with an invalid CRC. -/
theorem decommutatePacket_burst (f : PacketFields) (raw : Bytes)
    (hbuilt : buildTmPacket f = .ok raw ∨ buildTcPacket f = .ok raw) (burst : Burst 16)
    (hpattern : burst.pattern.length = 8 * raw.length)
    (hmiss : burst.before + burst.window.length ≤ 32 ∨ 48 ≤ burst.before) :
    ∃ p, decommutatePacket (corrupt raw burst.pattern) = some p ∧ p.crcValid = false := by
  obtain ⟨hwhole, hempty⟩ := build_whole hbuilt
  obtain ⟨p, hparsed, hvalid⟩ := decommutatePacket_whole (corrupt_whole hwhole burst hpattern hmiss)
  refine ⟨p, hparsed, ?_⟩
  have hadded := register_addBits crcTaps 0xFFFF#16 0#16
    (show (bitsOf raw).length = burst.pattern.length by rw [Ccsds.bitsOf_length, hpattern])
  rw [BitVec.xor_zero, hempty, BitVec.zero_xor] at hadded
  have hburst := register_burst_ne_zero (show crcTaps.getLsbD 0 = true by decide) burst
  rw [bitsOf_corrupt hpattern, hadded] at hvalid
  cases hcrc : p.crcValid with
  | false => rfl
  | true => exact absurd (hvalid.mp hcrc) hburst

/-- The first and the last bit of the CRC of the ping turned over. -/
theorem decommutatePacket_burst_ping :
    ∃ p, decommutatePacket (corrupt
        [0x18, 0x01, 0xC0, 0x05, 0x00, 0x04, 0x20, 0x11, 0x01, 0x7C, 0xE0]
        (List.replicate 72 false ++ ([true] ++ List.replicate 14 false ++ [true]) ++ [])) = some p ∧
      p.crcValid = false :=
  decommutatePacket_burst PacketBuilder.ping _ (Or.inr (by decide +kernel))
    ⟨72, [true] ++ List.replicate 14 false ++ [true], 0, by decide, by decide⟩ (by decide)
    (Or.inr (by decide))

end Ecss
