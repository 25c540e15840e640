import MissionSim.Octets

/-!
# ECSS/CCSDS space packets

The packet layer shared by spacecraft and ground: the six-octet CCSDS primary
header, the PUS secondary header (three octets on a telecommand, seven on
telemetry), the CRC-16/CCITT-FALSE trailer and the parser of received octets.

`decommutatePacket` only records whether the trailer matches, in `crcValid`;
acting on it is left to the caller.
-/

namespace Ecss

open Octets

/-- Value of the packet-type bit of a telemetry packet. -/
def packetTypeTM : Nat := 0

/-- Value of the packet-type bit of a telecommand packet. -/
def packetTypeTC : Nat := 1

/-- CCSDS space packet primary header. -/
structure PrimaryHeader where
  version : Nat := 0
  packetType : Nat := 0
  secHdrFlag : Nat := 1
  apid : Nat := 1
  sequenceFlags : Nat := 3
  sequenceCount : Nat := 0
  dataLength : Nat := 0
  deriving DecidableEq, Repr

/-- Decode the six octets at the front of a packet. -/
def PrimaryHeader.unpack (data : Bytes) : PrimaryHeader :=
  let word0 := unpackU16 data
  let word1 := unpackU16 (data.drop 2)
  { version := (word0 >>> 13) &&& 0x07
    packetType := (word0 >>> 12) &&& 0x01
    secHdrFlag := (word0 >>> 11) &&& 0x01
    apid := word0 &&& 0x7FF
    sequenceFlags := (word1 >>> 14) &&& 0x03
    sequenceCount := word1 &&& 0x3FFF
    dataLength := unpackU16 (data.drop 4) }

/-- PUS secondary header. -/
structure SecondaryHeader where
  pusVersion : Nat := 2
  service : Nat := 0
  subtype : Nat := 0
  cucTime : Nat := 0
  deriving DecidableEq, Repr

/-- Decode the seven-octet telemetry form. -/
def SecondaryHeader.unpack (data : Bytes) : SecondaryHeader :=
  { pusVersion := unpackU8 data &&& 0x0F
    service := unpackU8 (data.drop 1)
    subtype := unpackU8 (data.drop 2)
    cucTime := unpackU32 (data.drop 3) }

/-- A parsed packet. -/
structure DecommutatedPacket where
  primary : PrimaryHeader
  secondary : Option SecondaryHeader := none
  dataField : Bytes := []
  crc : Nat := 0
  crcValid : Bool := true
  raw : Bytes := []
  deriving DecidableEq, Repr

/-- One bit of the CRC register. -/
def crc16Bit (crc : Nat) : Nat :=
  if crc &&& 0x8000 ≠ 0 then (crc <<< 1) ^^^ 0x1021 else crc <<< 1

/-- One octet of the CRC register: eight bits, then the sixteen-bit mask. -/
def crc16Byte (crc : Nat) (byte : UInt8) : Nat :=
  crc16Bit^[8] (crc ^^^ byte.toNat <<< 8) &&& 0xFFFF

/-- CRC-16/CCITT-FALSE: polynomial 0x1021, initial value 0xFFFF. -/
def crc16Ccitt (data : Bytes) : Nat :=
  data.foldl crc16Byte 0xFFFF

/-- The secondary header and data field of a telecommand or telemetry packet
whose total length is `totalLen`. -/
def splitDataField (primary : PrimaryHeader) (raw : Bytes) (totalLen : Nat) :
    Option SecondaryHeader × Bytes :=
  if primary.secHdrFlag ≠ 0 then
    if primary.packetType = packetTypeTC then
      if 6 + 3 ≤ raw.length then
        let secData := slice raw 6 9
        (some { pusVersion := unpackU8 secData &&& 0x0F
                service := unpackU8 (secData.drop 1)
                subtype := unpackU8 (secData.drop 2)
                cucTime := 0 },
          slice raw 9 (totalLen - 2))
      else (none, slice raw 6 (totalLen - 2))
    else if 6 + 7 < raw.length then
      (some (SecondaryHeader.unpack (slice raw 6 13)), slice raw 13 (totalLen - 2))
    else (none, slice raw 6 (totalLen - 2))
  else (none, slice raw 6 (totalLen - 2))

/-- Parse raw octets; `none` when they are too short for the declared length. -/
def decommutatePacket (raw : Bytes) : Option DecommutatedPacket :=
  if raw.length < 8 then none
  else
    let primary := PrimaryHeader.unpack (raw.take 6)
    let totalLen := 6 + primary.dataLength + 1
    if raw.length < totalLen then none
    else
      let crcReceived := unpackU16 (slice raw (totalLen - 2) totalLen)
      let crcComputed := crc16Ccitt (raw.take (totalLen - 2))
      let parts := splitDataField primary raw totalLen
      some { primary := primary
             secondary := parts.1
             dataField := parts.2
             crc := crcReceived
             crcValid := crcReceived == crcComputed
             raw := raw.take totalLen }

/-- The CRC register always fits sixteen bits after an octet. -/
theorem crc16Byte_lt (crc : Nat) (byte : UInt8) : crc16Byte crc byte < 2 ^ 16 := by
  unfold crc16Byte
  rw [mask_eq_mod 16 (by decide)]
  exact Nat.mod_lt _ (by decide)

theorem crc16Ccitt_lt (data : Bytes) : crc16Ccitt data < 2 ^ 16 := by
  have hstep : ∀ (data : Bytes) (crc : Nat), crc < 2 ^ 16 →
      data.foldl crc16Byte crc < 2 ^ 16 := by
    intro data
    induction data with
    | nil => intro crc h; exact h
    | cons byte rest ih => intro crc _; exact ih _ (crc16Byte_lt crc byte)
  exact hstep data _ (by decide)

end Ecss
