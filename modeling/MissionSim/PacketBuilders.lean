import MissionSim.EcssPacket
import MissionSim.TmBuilder

/-!
# Building space packets

Three builders write packets for the one parser: two functions of the packet layer, for
telemetry and for telecommands, and the telemetry builder of the spacecraft.  Each packs
the headers on its own.

Whatever is in range is read back as it was built, with a valid CRC, but for the PUS
version.  The parser reads it from the low half of the first octet of the secondary
header.  Only `buildTmPacket` writes it there; the telecommand builder has it in the
high half, and the builder of the spacecraft nowhere.
-/

namespace Ecss

open Octets Python Effects TmBuilder PrimaryHeader List

/-! ### Headers -/

/-- `bytes(numbers)`. -/
def packOctets (numbers : List Nat) : Except PyError Bytes :=
  numbers.mapM fun n => if n < 2 ^ 8 then .ok (UInt8.ofNat n) else .error .valueError

def PrimaryHeader.packetId (h : PrimaryHeader) : Nat :=
  h.version <<< 13 ||| h.packetType <<< 12 ||| h.secHdrFlag <<< 11 ||| (h.apid &&& 0x7FF)

def PrimaryHeader.seqCtrl (h : PrimaryHeader) : Nat :=
  h.sequenceFlags <<< 14 ||| (h.sequenceCount &&& 0x3FFF)

def PrimaryHeader.pack (h : PrimaryHeader) : Except PyError Bytes := do
  let word0 ← packUnsigned 2 h.packetId
  let word1 ← packUnsigned 2 h.seqCtrl
  let word2 ← packUnsigned 2 h.dataLength
  pure (word0 ++ word1 ++ word2)

/-- The seven-octet telemetry form. -/
def SecondaryHeader.pack (h : SecondaryHeader) : Except PyError Bytes := do
  let sparePus := 0x10 ||| (h.pusVersion &&& 0x0F)
  let front ← packOctets [sparePus, h.service, h.subtype]
  let time ← packUnsigned 4 h.cucTime
  pure (front ++ time)

/-- Every field of the header is within its width. -/
structure PrimaryHeader.Fits (h : PrimaryHeader) : Prop where
  version : h.version < 2 ^ 3
  packetType : h.packetType < 2
  secHdrFlag : h.secHdrFlag < 2
  apid : h.apid < 2 ^ 11
  sequenceFlags : h.sequenceFlags < 2 ^ 2
  sequenceCount : h.sequenceCount < 2 ^ 14
  dataLength : h.dataLength < 2 ^ 16

/-- The octets of a header whose fields fit. -/
def PrimaryHeader.octets (h : PrimaryHeader) : Bytes :=
  packU16 h.packetId ++ packU16 h.seqCtrl ++ packU16 h.dataLength

@[simp] theorem PrimaryHeader.octets_length (h : PrimaryHeader) : h.octets.length = 6 := rfl

section Header

variable {h : PrimaryHeader}

/-- The packet identification as a number. -/
theorem PrimaryHeader.packetId_eq (hfits : h.Fits) :
    h.packetId = h.version * 2 ^ 13 + h.packetType * 2 ^ 12 + h.secHdrFlag * 2 ^ 11 + h.apid := by
  have hapid : h.apid &&& 0x7FF = h.apid := by
    rw [mask_eq_mod 11 (by decide), Nat.mod_eq_of_lt hfits.apid]
  have hflag := hfits.secHdrFlag
  have htype := hfits.packetType
  have hlow : h.secHdrFlag <<< 11 ||| h.apid = h.secHdrFlag * 2 ^ 11 + h.apid :=
    shiftLeft_or_eq_add 11 _ hfits.apid
  have hmiddle : h.packetType <<< 12 ||| (h.secHdrFlag * 2 ^ 11 + h.apid) =
      h.packetType * 2 ^ 12 + (h.secHdrFlag * 2 ^ 11 + h.apid) :=
    shiftLeft_or_eq_add 12 _ (by have := hfits.apid; omega)
  have hhigh : h.version <<< 13 ||| (h.packetType * 2 ^ 12 + (h.secHdrFlag * 2 ^ 11 + h.apid)) =
      h.version * 2 ^ 13 + (h.packetType * 2 ^ 12 + (h.secHdrFlag * 2 ^ 11 + h.apid)) :=
    shiftLeft_or_eq_add 13 _ (by have := hfits.apid; omega)
  rw [packetId, hapid, Nat.or_assoc, Nat.or_assoc, hlow, hmiddle, hhigh]
  omega

theorem PrimaryHeader.seqCtrl_eq (hfits : h.Fits) :
    h.seqCtrl = h.sequenceFlags * 2 ^ 14 + h.sequenceCount := by
  have hcount : h.sequenceCount &&& 0x3FFF = h.sequenceCount := by
    rw [mask_eq_mod 14 (by decide), Nat.mod_eq_of_lt hfits.sequenceCount]
  rw [seqCtrl, hcount, shiftLeft_or_eq_add 14 _ hfits.sequenceCount]

theorem PrimaryHeader.pack_eq_ok (hfits : h.Fits) : h.pack = .ok h.octets := by
  have hid : h.packetId < 2 ^ 16 := by
    rw [packetId_eq hfits]
    have := hfits.version
    have := hfits.packetType
    have := hfits.secHdrFlag
    have := hfits.apid
    omega
  have hseq : h.seqCtrl < 2 ^ 16 := by
    rw [seqCtrl_eq hfits]
    have := hfits.sequenceFlags
    have := hfits.sequenceCount
    omega
  rw [pack, packUnsigned_two hid, packUnsigned_two hseq, packUnsigned_two hfits.dataLength]
  rfl

/-- **A header reads back as it was packed.** -/
theorem PrimaryHeader.unpack_octets (hfits : h.Fits) (rest : Bytes) :
    unpack (h.octets ++ rest) = h := by
  obtain ⟨hversion, htype, hflag, hapid, hflags, hcount, hlength⟩ := hfits
  have hid := packetId_eq ⟨hversion, htype, hflag, hapid, hflags, hcount, hlength⟩
  have hseq := seqCtrl_eq ⟨hversion, htype, hflag, hapid, hflags, hcount, hlength⟩
  have hword0 : unpackU16 (h.octets ++ rest) = h.packetId := by
    rw [octets, append_assoc, append_assoc, unpackU16_packU16_append, hid]
    omega
  have hword1 : unpackU16 ((h.octets ++ rest).drop 2) = h.seqCtrl := by
    rw [octets, append_assoc, append_assoc, drop_packU16, drop_zero,
      unpackU16_packU16_append, hseq]
    omega
  have hword2 : unpackU16 ((h.octets ++ rest).drop 4) = h.dataLength := by
    rw [octets, append_assoc, append_assoc, drop_packU16, drop_packU16, drop_zero,
      unpackU16_packU16_append]
    omega
  rw [unpack, hword0, hword1, hword2]
  simp only [shiftRight_eq_div, mask_eq_mod 3 (show 0x07 + 1 = 2 ^ 3 by decide),
    mask_eq_mod 1 (show 0x01 + 1 = 2 ^ 1 by decide),
    mask_eq_mod 11 (show 0x7FF + 1 = 2 ^ 11 by decide),
    mask_eq_mod 2 (show 0x03 + 1 = 2 ^ 2 by decide),
    mask_eq_mod 14 (show 0x3FFF + 1 = 2 ^ 14 by decide)]
  obtain ⟨version, packetType, secHdrFlag, apid, sequenceFlags, sequenceCount, dataLength⟩ := h
  simp only at *
  rw [hid, hseq, mk.injEq]
  refine ⟨?_, ?_, ?_, ?_, ?_, ?_, rfl⟩ <;> omega

end Header

/-! ### The packet as a whole -/

/-- A packet: the header, what it announces, and the CRC over both. -/
def assemble (primary : PrimaryHeader) (payload : Bytes) : Bytes :=
  let packet := primary.octets ++ payload
  packet ++ packU16 (crc16Ccitt packet)

section Assemble

variable {primary : PrimaryHeader} {payload : Bytes}

@[simp] theorem assemble_length : (assemble primary payload).length = 8 + payload.length := by
  simp only [assemble, length_append, octets_length, packU16_length]
  omega

/-- **An assembled packet is parsed as a whole**, with a valid CRC. -/
theorem decommutatePacket_assemble (hfits : primary.Fits)
    (hlength : primary.dataLength = payload.length + 1) :
    ∃ parts, splitDataField primary (assemble primary payload) (8 + payload.length) = parts ∧
      decommutatePacket (assemble primary payload) =
        some { primary := primary, secondary := parts.1, dataField := parts.2,
               crc := crc16Ccitt (primary.octets ++ payload), crcValid := true,
               raw := assemble primary payload } := by
  have hheader : (assemble primary payload).take 6 = primary.octets := by
    rw [assemble, append_assoc, take_left' primary.octets_length]
  have hunpack : unpack primary.octets = primary := by
    simpa using unpack_octets hfits []
  have htotal : 6 + primary.dataLength + 1 = 8 + payload.length := by omega
  have hbody : (primary.octets ++ payload).length = 8 + payload.length - 2 := by
    rw [length_append, octets_length]
    omega
  have hpacket : (assemble primary payload).take (8 + payload.length - 2) =
      primary.octets ++ payload := by
    rw [assemble, take_left' hbody]
  have hwhole : (assemble primary payload).take (8 + payload.length) =
      assemble primary payload := take_of_length_le (by rw [assemble_length])
  have hcrc : unpackU16 (slice (assemble primary payload) (8 + payload.length - 2)
      (8 + payload.length)) = crc16Ccitt (primary.octets ++ payload) := by
    have hlt := crc16Ccitt_lt (primary.octets ++ payload)
    rw [slice, hwhole, assemble, drop_left' hbody, unpackU16_packU16,
      Nat.mod_eq_of_lt hlt]
  refine ⟨_, rfl, ?_⟩
  simp only [decommutatePacket, hheader, hunpack, htotal, hpacket, hwhole, hcrc, assemble_length]
  simp

/-- What stands between a header in front and the CRC. -/
theorem slice_assemble (primary : PrimaryHeader) {front data : Bytes} (hpayload : payload = front ++ data) :
    slice (assemble primary payload) 6 (6 + front.length) = front ∧
      slice (assemble primary payload) (6 + front.length) (8 + payload.length - 2) = data := by
  subst hpayload
  have hbody : (primary.octets ++ (front ++ data)).length = 8 + (front ++ data).length - 2 := by
    rw [length_append, octets_length]
    omega
  have hfront : (primary.octets ++ front).length = 6 + front.length := by
    rw [length_append, octets_length]
  constructor
  · rw [slice, assemble, ← append_assoc, append_assoc, take_left' hfront,
      drop_left' primary.octets_length]
  · rw [slice, assemble, take_left' hbody, ← append_assoc, drop_left' hfront]

/-- The three octets every secondary header starts with. -/
theorem unpack_front (first : Nat) {service subtype : Nat} (hservice : service < 2 ^ 8)
    (hsubtype : subtype < 2 ^ 8) (rest : Bytes) :
    unpackU8 (packU8 first ++ packU8 service ++ packU8 subtype ++ rest) &&& 0x0F = first % 2 ^ 4 ∧
      unpackU8 ((packU8 first ++ packU8 service ++ packU8 subtype ++ rest).drop 1) = service ∧
      unpackU8 ((packU8 first ++ packU8 service ++ packU8 subtype ++ rest).drop 2) = subtype := by
  rw [append_assoc, append_assoc, drop_packU8, drop_packU8, drop_zero, drop_packU8,
    drop_zero, unpackU8_packU8_append, unpackU8_packU8_append, unpackU8_packU8_append,
    mask_eq_mod 4 (by decide)]
  exact ⟨by omega, by omega, by omega⟩

/-- A telecommand: three octets in front of the data. -/
theorem splitDataField_tc {first service subtype : Nat} {data : Bytes}
    (hflag : primary.secHdrFlag = 1) (htype : primary.packetType = packetTypeTC)
    (hpayload : payload = packU8 first ++ packU8 service ++ packU8 subtype ++ data)
    (hservice : service < 2 ^ 8) (hsubtype : subtype < 2 ^ 8) :
    splitDataField primary (assemble primary payload) (8 + payload.length) =
      (some { pusVersion := first % 2 ^ 4, service := service, subtype := subtype, cucTime := 0 },
        data) := by
  obtain ⟨hfront, hdata⟩ := slice_assemble primary hpayload
  have hlong : 6 + 3 ≤ (assemble primary payload).length := by
    rw [assemble_length, hpayload]
    simp only [length_append, packU8_length]
    omega
  obtain ⟨hversion, hs, ht⟩ := unpack_front first hservice hsubtype []
  rw [append_nil] at hversion hs ht
  simp only [length_append, packU8_length] at hfront hdata
  rw [splitDataField, hflag, htype, if_pos (by decide), if_pos rfl, if_pos hlong, hfront, hdata]
  simp only [hversion, hs, ht]

/-- Telemetry: seven octets in front of the data, the last four the time. -/
theorem splitDataField_tm {first service subtype cuc : Nat} {data : Bytes}
    (hflag : primary.secHdrFlag = 1) (htype : primary.packetType = packetTypeTM)
    (hpayload : payload =
      packU8 first ++ packU8 service ++ packU8 subtype ++ packU32 cuc ++ data)
    (hservice : service < 2 ^ 8) (hsubtype : subtype < 2 ^ 8) (hcuc : cuc < 2 ^ 32) :
    splitDataField primary (assemble primary payload) (8 + payload.length) =
      (some { pusVersion := first % 2 ^ 4, service := service, subtype := subtype,
              cucTime := cuc }, data) := by
  obtain ⟨hfront, hdata⟩ := slice_assemble primary hpayload
  have hlong : 6 + 7 < (assemble primary payload).length := by
    rw [assemble_length, hpayload]
    simp only [length_append, packU8_length, packU32_length]
    omega
  obtain ⟨hversion, hs, ht⟩ := unpack_front first hservice hsubtype (packU32 cuc)
  have htime : unpackU32
      ((packU8 first ++ packU8 service ++ packU8 subtype ++ packU32 cuc).drop 3) = cuc := by
    have hcut : (packU8 first ++ packU8 service ++ packU8 subtype).length = 3 := rfl
    have := unpackU32_packU32_append cuc []
    rwa [append_nil, Nat.mod_eq_of_lt hcuc] at this
  simp only [length_append, packU8_length, packU32_length] at hfront hdata
  rw [splitDataField, hflag, htype, if_pos (by decide), if_neg (by decide), if_pos hlong, hfront,
    hdata, SecondaryHeader.unpack, hversion, hs, ht, htime]

end Assemble

/-! ### The builders -/

/-- What a packet is built from. -/
structure PacketFields where
  apid : Nat
  service : Nat
  subtype : Nat
  data : Bytes := []
  seqCount : Nat := 0
  cucTime : Nat := 0
  deriving DecidableEq, Repr

/-- Put the header in front of a payload and the CRC behind. -/
def finish (primary : PrimaryHeader) (payload : Bytes) : Except PyError Bytes := do
  let header ← primary.pack
  let packet := header ++ payload
  let crc ← packUnsigned 2 (crc16Ccitt packet)
  pure (packet ++ crc)

def buildTmPacket (f : PacketFields) : Except PyError Bytes := do
  let secHdr ← SecondaryHeader.pack
    { service := f.service, subtype := f.subtype, cucTime := f.cucTime }
  let payload := secHdr ++ f.data
  finish
    { packetType := packetTypeTM, secHdrFlag := 1, apid := f.apid
      sequenceCount := f.seqCount &&& 0x3FFF, dataLength := payload.length + 1 } payload

def buildTcPacket (f : PacketFields) : Except PyError Bytes := do
  let secHdr ← packOctets [0x20, f.service, f.subtype]
  let payload := secHdr ++ f.data
  finish
    { packetType := packetTypeTC, secHdrFlag := 1, apid := f.apid
      sequenceCount := f.seqCount &&& 0x3FFF, dataLength := payload.length + 1 } payload

/-- What the caller of the spacecraft's builder receives. -/
def packedOctets : EStateM.Result PyError Builder TmPacket → Except PyError Bytes
  | .ok pkt _ => .ok pkt.octets
  | .error error _ => .error error

/-- The builder of the spacecraft, whose last packet had the given sequence count. -/
def tmBuilderPack (f : PacketFields) : Except PyError Bytes :=
  packedOctets
    (packTm f.service f.subtype f.data f.cucTime { apid := f.apid, seqCount := f.seqCount })

/-- Who builds a packet. -/
inductive PacketBuilder where
  | buildTmPacket
  | buildTcPacket
  | tmBuilder
  deriving DecidableEq, Repr

namespace PacketBuilder

def build : PacketBuilder → PacketFields → Except PyError Bytes
  | buildTmPacket => Ecss.buildTmPacket
  | buildTcPacket => Ecss.buildTcPacket
  | tmBuilder => tmBuilderPack

def packetType : PacketBuilder → Nat
  | buildTmPacket | tmBuilder => packetTypeTM
  | buildTcPacket => packetTypeTC

/-- The count the packet carries: the builder of the spacecraft counts on its own. -/
def sequenceCount (b : PacketBuilder) (f : PacketFields) : Nat :=
  match b with
  | buildTmPacket | buildTcPacket => f.seqCount % 2 ^ 14
  | tmBuilder => (f.seqCount + 1) % 2 ^ 14

/-- The first octet of the secondary header. -/
def sparePus : PacketBuilder → Nat
  | buildTmPacket => 0x12
  | buildTcPacket => 0x20
  | tmBuilder => 0x10

/-- The header and the data, in octets. -/
def payload (b : PacketBuilder) (f : PacketFields) : Bytes :=
  let front := packU8 b.sparePus ++ packU8 f.service ++ packU8 f.subtype
  match b with
  | buildTmPacket | tmBuilder => front ++ packU32 f.cucTime ++ f.data
  | buildTcPacket => front ++ f.data

def primary (b : PacketBuilder) (f : PacketFields) : PrimaryHeader :=
  { packetType := b.packetType, secHdrFlag := 1, apid := f.apid
    sequenceCount := b.sequenceCount f, dataLength := (b.payload f).length + 1 }

/-- The fields are in range, and the data fits the packet length. -/
structure InRange (b : PacketBuilder) (f : PacketFields) : Prop where
  apid : f.apid < 2048
  service : f.service < 256
  subtype : f.subtype < 256
  cucTime : f.cucTime < 2 ^ 32
  length : (b.payload f).length + 1 < 2 ^ 16

instance (b : PacketBuilder) (f : PacketFields) : Decidable (b.InRange f) :=
  decidable_of_iff
    (f.apid < 2048 ∧ f.service < 256 ∧ f.subtype < 256 ∧ f.cucTime < 2 ^ 32 ∧
      (b.payload f).length + 1 < 2 ^ 16)
    ⟨fun ⟨h₁, h₂, h₃, h₄, h₅⟩ => ⟨h₁, h₂, h₃, h₄, h₅⟩,
      fun h => ⟨h.apid, h.service, h.subtype, h.cucTime, h.length⟩⟩

section InRange

variable {b : PacketBuilder} {f : PacketFields}

theorem sequenceCount_lt (b : PacketBuilder) (f : PacketFields) :
    b.sequenceCount f < 2 ^ 14 := by
  cases b <;> exact Nat.mod_lt _ (by decide)

theorem primary_fits (h : b.InRange f) : (b.primary f).Fits where
  version := Nat.zero_lt_succ 7
  packetType := by
    have htype : b.packetType < 2 := by cases b <;> decide
    exact htype
  secHdrFlag := Nat.one_lt_two
  apid := h.apid
  sequenceFlags := Nat.lt_succ_self 3
  sequenceCount := sequenceCount_lt b f
  dataLength := h.length

theorem packOctets_eq_ok {first service subtype : Nat} (hfirst : first < 2 ^ 8)
    (hservice : service < 2 ^ 8) (hsubtype : subtype < 2 ^ 8) :
    packOctets [first, service, subtype] =
      .ok (packU8 first ++ packU8 service ++ packU8 subtype) := by
  simp only [packOctets, mapM_cons, if_pos hfirst, if_pos hservice, if_pos hsubtype]
  rfl

theorem SecondaryHeader.pack_eq_ok {h : SecondaryHeader} (hservice : h.service < 2 ^ 8)
    (hsubtype : h.subtype < 2 ^ 8) (htime : h.cucTime < 2 ^ 32) :
    h.pack = .ok (packU8 (0x10 ||| (h.pusVersion &&& 0x0F)) ++ packU8 h.service ++
      packU8 h.subtype ++ packU32 h.cucTime) := by
  have hsparePus : 0x10 ||| (h.pusVersion &&& 0x0F) < 2 ^ 8 := by
    have hversion : h.pusVersion &&& 0x0F < 2 ^ 8 :=
      lt_of_le_of_lt Nat.and_le_right (by decide)
    exact Nat.or_lt_two_pow (by decide) hversion
  have hfront := packOctets_eq_ok hsparePus hservice hsubtype
  exact Python.bind_eq_ok.mpr ⟨_, hfront,
    Python.bind_eq_ok.mpr ⟨_, packUnsigned_four htime, rfl⟩⟩

theorem finish_eq_ok {primary : PrimaryHeader} (hfits : primary.Fits) (payload : Bytes) :
    finish primary payload = .ok (assemble primary payload) := by
  have hcrc := packUnsigned_two (crc16Ccitt_lt (primary.octets ++ payload))
  refine Python.bind_eq_ok.mpr ⟨_, pack_eq_ok hfits, ?_⟩
  exact Python.bind_eq_ok.mpr ⟨_, hcrc, rfl⟩

/-- The packet of the spacecraft's builder, as the packet layer assembles it. -/
theorem octets_eq_assemble (apid count service subtype cuc : Nat) (data : Bytes)
    (hcount : count < 2 ^ 14) :
    TmPacket.octets { apid, sequenceCount := count, service, subtype, cuc, data } =
      assemble { packetType := packetTypeTM, secHdrFlag := 1, apid, sequenceCount := count,
                 dataLength := data.length + 8 }
        (packU8 0x10 ++ packU8 service ++ packU8 subtype ++ packU32 cuc ++ data) := by
  have hmask : count &&& 0x3FFF = count := by
    rw [mask_eq_mod 14 (by decide), Nat.mod_eq_of_lt hcount]
  simp only [TmPacket.octets, assemble, octets, packetId,
    seqCtrl, packetTypeTM, Nat.zero_shiftLeft, Nat.zero_or, hmask,
    append_assoc]

/-- **Every builder assembles its header and its payload.** -/
theorem build_eq_ok (h : b.InRange f) :
    b.build f = .ok (assemble (b.primary f) (b.payload f)) := by
  have hservice := h.service
  have hsubtype := h.subtype
  have hfinish := finish_eq_ok (primary_fits h) (b.payload f)
  have hmask : f.seqCount &&& 0x3FFF = f.seqCount % 2 ^ 14 := mask_eq_mod 14 (by decide) _
  cases b with
  | buildTmPacket =>
      have hsecondary := SecondaryHeader.pack_eq_ok
        (h := { service := f.service, subtype := f.subtype, cucTime := f.cucTime })
        hservice hsubtype h.cucTime
      have hsparePus : 0x10 ||| (2 &&& 0x0F) = 0x12 := by decide
      rw [hsparePus] at hsecondary
      refine Python.bind_eq_ok.mpr ⟨_, hsecondary, ?_⟩
      rw [hmask]
      exact hfinish
  | buildTcPacket =>
      have hfront := packOctets_eq_ok (show 0x20 < 2 ^ 8 by decide) hservice hsubtype
      refine Python.bind_eq_ok.mpr ⟨_, hfront, ?_⟩
      rw [hmask]
      exact hfinish
  | tmBuilder =>
      have hlength := h.length
      simp only [payload, length_append, packU8_length, packU32_length] at hlength
      have hshort : f.data.length + 8 < 2 ^ 16 := by omega
      have hpacked := packTm_eq_ok f.service f.subtype h.cucTime hshort
        { apid := f.apid, seqCount := f.seqCount }
      have hcount : (f.seqCount + 1) &&& 0x3FFF = (f.seqCount + 1) % 2 ^ 14 :=
        mask_eq_mod 14 (by decide) _
      have hprimary : tmBuilder.primary f =
          { packetType := packetTypeTM, secHdrFlag := 1, apid := f.apid,
            sequenceCount := (f.seqCount + 1) % 2 ^ 14, dataLength := f.data.length + 8 } := by
        simp only [primary, payload, packetType, sequenceCount, length_append, packU8_length,
          packU32_length, mk.injEq, true_and]
        omega
      have hoctets := octets_eq_assemble f.apid ((f.seqCount + 1) % 2 ^ 14) f.service f.subtype
        f.cucTime f.data (Nat.mod_lt _ (by decide))
      simp only [Builder.next, hcount] at hpacked
      rw [build, tmBuilderPack, hpacked, hprimary, packedOctets, hoctets]
      rfl

/-- **What the parser makes of a packet in range.**  Everything is as it was built; the PUS
version is the low half of the first octet of the secondary header. -/
theorem decommutatePacket_built (h : b.InRange f) :
    ∃ raw, b.build f = .ok raw ∧
      decommutatePacket raw =
        some { primary := b.primary f
               secondary := some { pusVersion := b.sparePus % 2 ^ 4, service := f.service,
                                   subtype := f.subtype,
                                   cucTime := if b = buildTcPacket then 0 else f.cucTime }
               dataField := f.data
               crc := crc16Ccitt ((b.primary f).octets ++ b.payload f)
               crcValid := true
               raw := raw } := by
  have hservice := h.service
  have hsubtype := h.subtype
  have hsplit : splitDataField (b.primary f) (assemble (b.primary f) (b.payload f))
      (8 + (b.payload f).length) =
      (some { pusVersion := b.sparePus % 2 ^ 4, service := f.service, subtype := f.subtype,
              cucTime := if b = buildTcPacket then 0 else f.cucTime }, f.data) := by
    cases b with
    | buildTmPacket | tmBuilder => exact splitDataField_tm rfl rfl rfl hservice hsubtype h.cucTime
    | buildTcPacket => exact splitDataField_tc rfl rfl rfl hservice hsubtype
  obtain ⟨parts, hparts, hparsed⟩ := decommutatePacket_assemble (primary_fits h) rfl
  refine ⟨_, build_eq_ok h, ?_⟩
  rw [hparsed, ← hparts, hsplit]

end InRange

/-! ### The round trip -/

/-- The PUS version of the mission's packets. -/
def missionPusVersion : Nat := 2

/-- A parsed packet is as it was built. -/
structure SameFields (b : PacketBuilder) (f : PacketFields) (p : DecommutatedPacket)
    (s : SecondaryHeader) : Prop where
  secondary : p.secondary = some s
  packetType : p.primary.packetType = b.packetType
  apid : p.primary.apid = f.apid
  sequenceCount : p.primary.sequenceCount = b.sequenceCount f
  service : s.service = f.service
  subtype : s.subtype = f.subtype
  cucTime : b.packetType = packetTypeTM → s.cucTime = f.cucTime
  dataField : p.dataField = f.data
  crcValid : p.crcValid = true

/-- A packet is built, and parsed as it was built, in the PUS version of the mission. -/
def RoundTrips (b : PacketBuilder) (f : PacketFields) : Prop :=
  ∃ raw p s, b.build f = .ok raw ∧ decommutatePacket raw = some p ∧ SameFields b f p s ∧
    s.pusVersion = missionPusVersion

section RoundTrip

variable {b : PacketBuilder} {f : PacketFields}

/-- Everything but the PUS version is read back, from each builder. -/
theorem sameFields_built (h : b.InRange f) :
    ∃ raw p s, b.build f = .ok raw ∧ decommutatePacket raw = some p ∧ SameFields b f p s ∧
      s.pusVersion = b.sparePus % 2 ^ 4 := by
  obtain ⟨raw, hbuild, hparsed⟩ := decommutatePacket_built h
  let secondary : SecondaryHeader :=
    { pusVersion := b.sparePus % 2 ^ 4, service := f.service, subtype := f.subtype
      cucTime := if b = buildTcPacket then 0 else f.cucTime }
  refine ⟨raw, _, secondary, hbuild, hparsed, ?_, rfl⟩
  refine ⟨rfl, rfl, rfl, rfl, rfl, rfl, ?_, rfl, rfl⟩
  intro htm
  have hnotTc : b ≠ buildTcPacket := by
    intro htc
    subst htc
    cases htm
  exact if_neg hnotTc

end RoundTrip

/-- **The round trip.**  Of the three builders, `buildTmPacket` alone writes the PUS version
where the parser reads it. -/
theorem roundTrips_iff (b : PacketBuilder) (f : PacketFields) (h : b.InRange f) :
    b.RoundTrips f ↔ b = buildTmPacket := by
  obtain ⟨raw, p, s, hbuild, hparsed, hsame, hversion⟩ := sameFields_built h
  constructor
  · intro hround
    obtain ⟨raw', p', s', hbuild', hparsed', hsame', hmission⟩ := hround
    rw [hbuild] at hbuild'
    cases hbuild'
    rw [hparsed] at hparsed'
    cases hparsed'
    have hs : some s = some s' := hsame.secondary.symm.trans hsame'.secondary
    cases hs
    rw [hversion] at hmission
    cases b with
    | buildTmPacket => rfl
    | buildTcPacket | tmBuilder => cases hmission
  · intro hb
    subst hb
    exact ⟨raw, p, s, hbuild, hparsed, hsame, hversion⟩

/-- A ping, as each of the builders packs it. -/
def ping : PacketFields := { apid := 1, service := 17, subtype := 1, seqCount := 5 }

theorem roundTrips_ping : buildTmPacket.RoundTrips ping :=
  (roundTrips_iff buildTmPacket ping (by decide)).mpr rfl

/-- The version 2 of a telecommand is read back as 0. -/
theorem ping_version_lost :
    ¬ ∀ (b : PacketBuilder) (f : PacketFields), b.InRange f → b.RoundTrips f := by
  intro hall
  have hrange : buildTcPacket.InRange ping := by decide
  obtain ⟨raw, hbuild, hparsed⟩ := decommutatePacket_built hrange
  obtain ⟨raw', p, s, hbuild', hparsed', hsame, hversion⟩ := hall buildTcPacket ping hrange
  rw [hbuild] at hbuild'
  cases hbuild'
  rw [hparsed] at hparsed'
  cases hparsed'
  cases hsame.secondary
  cases hversion

end PacketBuilder

end Ecss
