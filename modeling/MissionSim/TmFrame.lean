import MissionSim.EcssPacket

/-!
# TM transfer frames

The CCSDS TM Transfer Frame layer: the six-octet frame header, the builder that
packs space packets into fixed-length frames and the parser that takes them out
again.  The First Header Pointer of a frame is the offset of the first packet
that starts in it.

Builder and parser handle the data zone octet by octet and look at an octet only
through its value, so both are written over any `Octet` carrier.  At `UInt8` they
are the flight and ground code; at a carrier that remembers where an octet came
from, the same run shows which packet every received octet belonged to.
-/

namespace Ccsds

open Octets Ecss

/-- A carrier of octets with a fill element of value `0xFE`. -/
class Octet (α : Type) where
  byte : α → UInt8
  idle : α
  byte_idle : byte idle = 0xFE

instance : Octet UInt8 where
  byte := id
  idle := 0xFE
  byte_idle := rfl

@[simp] theorem byte_uint8 (b : UInt8) : Octet.byte b = b := rfl

/-- Values of the octets of a string. -/
def bytesOf {α : Type} [Octet α] (data : List α) : Bytes := data.map Octet.byte

def tfHeaderLength : Nat := 6

def fecfLength : Nat := 2

/-- No packet starts in this frame. -/
def firstHeaderPointerIdle : Nat := 0x7FE

/-- Only idle data. -/
def firstHeaderPointerNoPacket : Nat := 0x7FF

/-- TM Transfer Frame primary header. -/
structure TMFrameHeader where
  version : Nat := 0
  scid : Nat := 1
  vcid : Nat := 0
  ocfFlag : Nat := 0
  mcFrameCount : Nat := 0
  vcFrameCount : Nat := 0
  secHdrFlag : Nat := 0
  synchFlag : Nat := 0
  packetOrder : Nat := 0
  segmentLengthId : Nat := 3
  firstHeaderPointer : Nat := 0
  deriving DecidableEq, Repr

/-- Encode the six-octet primary header. -/
def TMFrameHeader.pack (h : TMFrameHeader) : Bytes :=
  let word0 := (h.version &&& 0x3) <<< 14 ||| (h.scid &&& 0x3FF) <<< 4 |||
    (h.vcid &&& 0x7) <<< 1 ||| (h.ocfFlag &&& 0x1)
  let word2 := (h.secHdrFlag &&& 0x1) <<< 15 ||| (h.synchFlag &&& 0x1) <<< 14 |||
    (h.packetOrder &&& 0x1) <<< 13 ||| (h.segmentLengthId &&& 0x3) <<< 11 |||
    (h.firstHeaderPointer &&& 0x7FF)
  packU16 word0 ++ packU8 (h.mcFrameCount &&& 0xFF) ++
    packU8 (h.vcFrameCount &&& 0xFF) ++ packU16 word2

/-- Decode a six-octet primary header. -/
def TMFrameHeader.unpack (data : Bytes) : TMFrameHeader :=
  let word0 := unpackU16 data
  let word2 := unpackU16 (data.drop 4)
  { version := (word0 >>> 14) &&& 0x3
    scid := (word0 >>> 4) &&& 0x3FF
    vcid := (word0 >>> 1) &&& 0x7
    ocfFlag := word0 &&& 0x1
    mcFrameCount := unpackU8 (data.drop 2)
    vcFrameCount := unpackU8 (data.drop 3)
    secHdrFlag := (word2 >>> 15) &&& 0x1
    synchFlag := (word2 >>> 14) &&& 0x1
    packetOrder := (word2 >>> 13) &&& 0x1
    segmentLengthId := (word2 >>> 11) &&& 0x3
    firstHeaderPointer := word2 &&& 0x7FF }

/-- A complete frame, without its sync marker. -/
structure TMFrame (α : Type) where
  header : TMFrameHeader
  data : List α
  fecf : Option Nat := none
  deriving DecidableEq, Repr

def TMFrame.isIdle {α : Type} (frame : TMFrame α) : Bool :=
  frame.header.firstHeaderPointer == firstHeaderPointerNoPacket

/-- The octets of a frame on the link: header, data field, error control. -/
def TMFrame.wire {α : Type} [Octet α] (frame : TMFrame α) : Bytes :=
  frame.header.pack ++ bytesOf frame.data ++
    match frame.fecf with
    | some fecf => packU16 fecf
    | none => []

/-- Length and error-control setting of a link.  A frame has to have room for at
least one data octet. -/
structure FrameFormat where
  frameLength : Nat
  fecfPresent : Bool
  room : tfHeaderLength + (if fecfPresent then fecfLength else 0) < frameLength

def FrameFormat.fecfSize (fmt : FrameFormat) : Nat :=
  if fmt.fecfPresent then fecfLength else 0

/-- Octets of packet data in one frame. -/
def FrameFormat.dataZoneLength (fmt : FrameFormat) : Nat :=
  fmt.frameLength - tfHeaderLength - fmt.fecfSize

/-- The format builder and parser use when constructed without arguments. -/
def FrameFormat.standard : FrameFormat := ⟨1115, true, by decide⟩

theorem FrameFormat.dataZoneLength_pos (fmt : FrameFormat) : 0 < fmt.dataZoneLength := by
  have h := fmt.room
  simp only [dataZoneLength, fecfSize]
  omega

/-- Builder state: frame counters, and per virtual channel the octets not yet
framed with the offsets at which packets start in them. -/
structure TMFrameBuilder (α : Type) where
  scid : Nat := 1
  format : FrameFormat := FrameFormat.standard
  mcCount : Nat := 0
  vcCounts : Nat → Nat := fun _ => 0
  vcBuffers : Nat → List α := fun _ => []
  pktOffsets : Nat → List Nat := fun _ => []

section Builder

variable {α : Type} [Octet α]

/-- Assemble a single frame, advancing both frame counters. -/
def TMFrameBuilder.buildFrame (b : TMFrameBuilder α) (vcid : Nat)
    (dataZone : List α) (fhp : Nat) : TMFrame α × TMFrameBuilder α :=
  let header : TMFrameHeader :=
    { scid := b.scid, vcid := vcid, mcFrameCount := b.mcCount
      vcFrameCount := b.vcCounts vcid, firstHeaderPointer := fhp }
  let raw := header.pack ++ bytesOf dataZone
  let fecf := if b.format.fecfPresent then some (crc16Ccitt raw) else none
  ({ header := header, data := dataZone, fecf := fecf },
   { b with
      mcCount := (b.mcCount + 1) &&& 0xFF
      vcCounts := Function.update b.vcCounts vcid ((b.vcCounts vcid + 1) &&& 0xFF) })

/-- First Header Pointer of the chunk `[chunkStart, chunkEnd)`: the offset of the
first recorded packet start inside it. -/
def chunkHeaderPointer (offsets : List Nat) (chunkStart chunkEnd : Nat) : Nat :=
  match offsets.find? (fun off => decide (chunkStart ≤ off ∧ off < chunkEnd)) with
  | some off => off - chunkStart
  | none => firstHeaderPointerIdle

/-- Delete one data zone from the front of a channel buffer, and the packet starts
inside it. -/
def TMFrameBuilder.popZone (b : TMFrameBuilder α) (vcid chunkEnd : Nat) : TMFrameBuilder α :=
  { b with
    vcBuffers := Function.update b.vcBuffers vcid
      ((b.vcBuffers vcid).drop b.format.dataZoneLength)
    pktOffsets := Function.update b.pktOffsets vcid
      ((b.pktOffsets vcid).dropWhile (fun off => decide (off < chunkEnd))) }

/-- The loop of `drainFrames`.  `consumed` octets of the original buffer are
already framed; recorded offsets still count from its start. -/
def TMFrameBuilder.drainLoop : Nat → TMFrameBuilder α → Nat → Nat →
    List (TMFrame α) × TMFrameBuilder α × Nat
  | 0, b, _, consumed => ([], b, consumed)
  | fuel + 1, b, vcid, consumed =>
      let zone := b.format.dataZoneLength
      if zone ≤ (b.vcBuffers vcid).length then
        let chunk := (b.vcBuffers vcid).take zone
        let chunkEnd := consumed + zone
        let fhp := chunkHeaderPointer (b.pktOffsets vcid) consumed chunkEnd
        let built := (b.popZone vcid chunkEnd).buildFrame vcid chunk fhp
        let rest := built.2.drainLoop fuel vcid chunkEnd
        (built.1 :: rest.1, rest.2)
      else ([], b, consumed)

/-- Extract as many complete frames as possible from the channel buffer.  Every
round of the loop removes a whole data zone, so the buffer length bounds it. -/
def TMFrameBuilder.drainFrames (b : TMFrameBuilder α) (vcid : Nat) :
    List (TMFrame α) × TMFrameBuilder α :=
  let drained := b.drainLoop (b.vcBuffers vcid).length vcid 0
  (drained.1,
   { drained.2.1 with
      pktOffsets := Function.update drained.2.1.pktOffsets vcid
        ((drained.2.1.pktOffsets vcid).map (fun off => off - drained.2.2)) })

/-- Add a packet and return the frames it completes. -/
def TMFrameBuilder.addPacket (b : TMFrameBuilder α) (packet : List α) (vcid : Nat) :
    List (TMFrame α) × TMFrameBuilder α :=
  let buf := b.vcBuffers vcid
  let recorded : TMFrameBuilder α :=
    { b with
      pktOffsets := Function.update b.pktOffsets vcid (b.pktOffsets vcid ++ [buf.length])
      vcBuffers := Function.update b.vcBuffers vcid (buf ++ packet) }
  recorded.drainFrames vcid

/-- Forget the octets and packet starts of a channel. -/
def TMFrameBuilder.clearChannel (b : TMFrameBuilder α) (vcid : Nat) : TMFrameBuilder α :=
  { b with
    vcBuffers := Function.update b.vcBuffers vcid []
    pktOffsets := Function.update b.pktOffsets vcid [] }

/-- Flush the remaining octets as one padded frame.  Packet starts are recorded
relative to the buffer, so they index the flushed octets directly. -/
def TMFrameBuilder.flush (b : TMFrameBuilder α) (vcid : Nat) :
    List (TMFrame α) × TMFrameBuilder α :=
  if (b.vcBuffers vcid).isEmpty then ([], b.clearChannel vcid)
  else
    let drained := b.drainFrames vcid
    let remaining := drained.2.vcBuffers vcid
    if remaining.isEmpty then (drained.1, drained.2.clearChannel vcid)
    else
      let fhp := chunkHeaderPointer (drained.2.pktOffsets vcid) 0 remaining.length
      let padLen := b.format.dataZoneLength - remaining.length
      let built := (drained.2.clearChannel vcid).buildFrame vcid
        (remaining ++ List.replicate padLen Octet.idle) fhp
      (drained.1 ++ [built.1], built.2)

/-- An idle fill frame: fill octets in the whole data zone. -/
def TMFrameBuilder.buildIdleFrame (b : TMFrameBuilder α) (vcid : Nat) :
    TMFrame α × TMFrameBuilder α :=
  b.buildFrame vcid (List.replicate b.format.dataZoneLength Octet.idle)
    firstHeaderPointerNoPacket

end Builder

/-- Parser state: the octets of a packet still being reassembled. -/
structure TMFrameParser (α : Type) where
  format : FrameFormat := FrameFormat.standard
  reassemblyBuffer : List α := []
  goodFrames : Nat := 0
  badFrames : Nat := 0

/-- Parse raw frame octets and check the frame error control field. -/
def TMFrameParser.parseFrame {α : Type} (p : TMFrameParser α) (frameBytes : Bytes) :
    Option (TMFrame UInt8) × TMFrameParser α :=
  if frameBytes.length < tfHeaderLength then
    (none, { p with badFrames := p.badFrames + 1 })
  else
    let header := TMFrameHeader.unpack (frameBytes.take tfHeaderLength)
    if p.format.fecfPresent then
      let bodyLen := frameBytes.length - fecfLength
      let fecfReceived := unpackU16 (frameBytes.drop bodyLen)
      if fecfReceived ≠ crc16Ccitt (frameBytes.take bodyLen) then
        (none, { p with badFrames := p.badFrames + 1 })
      else
        (some { header := header
                data := slice frameBytes tfHeaderLength bodyLen
                fecf := some fecfReceived },
         { p with goodFrames := p.goodFrames + 1 })
    else
      (some { header := header, data := frameBytes.drop tfHeaderLength, fecf := none },
       { p with goodFrames := p.goodFrames + 1 })

section Parser

variable {α : Type} [Octet α]

/-- Total packet length announced by the length field of a primary header. -/
def announcedLength (buf : List α) : Nat :=
  6 + unpackU16 (slice (bytesOf buf) 4 6) + 1

/-- Drop fill octets at the front. -/
def skipIdle (buf : List α) : List α :=
  buf.dropWhile (fun x => Octet.byte x == 0xFE)

/-- The loop of `extractFromBuffer`; every round removes at least one octet. -/
def extractLoop : Nat → List α → List (List α) × List α
  | 0, buf => ([], buf)
  | fuel + 1, buf =>
      if 7 ≤ buf.length then
        let total := announcedLength buf
        if 4096 < total then extractLoop fuel (buf.drop 1)
        else if buf.length < total then ([], buf)
        else
          let rest := extractLoop fuel (skipIdle (buf.drop total))
          (buf.take total :: rest.1, rest.2)
      else ([], buf)

/-- Extract complete packets from the reassembly buffer. -/
def TMFrameParser.extractFromBuffer (p : TMFrameParser α) :
    List (List α) × TMFrameParser α :=
  if p.format.dataZoneLength * 5 < p.reassemblyBuffer.length then
    ([], { p with reassemblyBuffer := [] })
  else
    let r := extractLoop p.reassemblyBuffer.length p.reassemblyBuffer
    (r.1, { p with reassemblyBuffer := r.2 })

/-- Extract packets from a parsed frame, resynchronising on its First Header
Pointer.  With pointer zero the source distinguishes three kinds of orphaned
partial packet and clears the buffer for each. -/
def TMFrameParser.extractPackets (p : TMFrameParser α) (frame : TMFrame α) :
    List (List α) × TMFrameParser α :=
  let fhp := frame.header.firstHeaderPointer
  if frame.isIdle then ([], p)
  else if fhp = firstHeaderPointerIdle then
    { p with reassemblyBuffer := p.reassemblyBuffer ++ frame.data }.extractFromBuffer
  else if fhp = 0 then
    { p with reassemblyBuffer := frame.data }.extractFromBuffer
  else
    let pre := { p with
      reassemblyBuffer := p.reassemblyBuffer ++ frame.data.take fhp }.extractFromBuffer
    let post := { pre.2 with reassemblyBuffer := frame.data.drop fhp }.extractFromBuffer
    (pre.1 ++ post.1, post.2)

/-- Packets extracted from a sequence of parsed frames. -/
def TMFrameParser.extractAll (p : TMFrameParser α) :
    List (TMFrame α) → List (List α) × TMFrameParser α
  | [] => ([], p)
  | frame :: frames =>
      let head := p.extractPackets frame
      let tail := head.2.extractAll frames
      (head.1 ++ tail.1, tail.2)

end Parser

/-- Receive frames off the link: `parseFrame`, then `extractPackets` on each frame
that passes its check. -/
def TMFrameParser.receive (p : TMFrameParser UInt8) : List Bytes → List Bytes
  | [] => []
  | raw :: rest =>
      match p.parseFrame raw with
      | (some frame, q) =>
          let out := q.extractPackets frame
          out.1 ++ out.2.receive rest
      | (none, q) => q.receive rest

end Ccsds
