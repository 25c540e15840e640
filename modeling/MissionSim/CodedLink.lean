import MissionSim.Convolutional
import MissionSim.FrameSync
import MissionSim.TmLink

/-!
# The coded downlink

The spacecraft codes a frame with Reed-Solomon in blocks of 223 octets, then with the
convolutional code, and puts the sync marker in front.  The ground synchronises on
markers a coded frame apart, decodes in the opposite order and parses the frame.

Both ends work out the coded length from the same configuration, each in its own
way.  The spacecraft codes a short last block as it is, with 32 octets of parity; the
ground counts 255 octets for every block.  The two agree exactly when no block is
short.
-/

namespace Ccsds

open Octets List

/-! ### Configuration -/

structure CCSDSConfig where
  tmFrameLength : Nat := 1115
  scid : Nat := 1
  vcRealtime : Nat := 0
  vcPlayback : Nat := 1
  vcIdle : Nat := 7
  fecfPresent : Bool := true
  rsEnabled : Bool := true
  convolutionalEnabled : Bool := true
  deriving DecidableEq, Repr

/-- Refuse with a message unless the condition holds. -/
def requireField (condition : Bool) (message : String) : Except String Unit :=
  if condition then .ok () else .error message

def CCSDSConfig.validate (c : CCSDSConfig) : Except String Unit := do
  requireField (64 ≤ c.tmFrameLength && c.tmFrameLength ≤ 65535)
    "ccsds.tm_frame_length must be 64..65535"
  requireField (c.scid ≤ 1023) "ccsds.scid must be 0..1023"
  requireField (c.vcRealtime ≤ 7) "ccsds.vc_realtime must be 0..7"
  requireField (c.vcPlayback ≤ 7) "ccsds.vc_playback must be 0..7"
  requireField (c.vcIdle ≤ 7) "ccsds.vc_idle must be 0..7"

theorem validate_frameLength {c : CCSDSConfig} (h : c.validate = .ok ()) :
    64 ≤ c.tmFrameLength ∧ c.tmFrameLength ≤ 65535 := by
  by_contra hbad
  have hcond : (64 ≤ c.tmFrameLength && c.tmFrameLength ≤ 65535 : Bool) = false := by
    simpa using hbad
  rw [CCSDSConfig.validate, requireField, hcond] at h
  exact absurd h (by simp [bind, Except.bind])

/-- A configuration that passed its validation. -/
structure AcceptedConfig where
  config : CCSDSConfig
  accepted : config.validate = .ok ()

theorem AcceptedConfig.room (c : AcceptedConfig) :
    tfHeaderLength + (if c.config.fecfPresent then fecfLength else 0) <
      c.config.tmFrameLength := by
  have := (validate_frameLength c.accepted).1
  simp only [tfHeaderLength, fecfLength]
  split <;> omega

/-- The frame format both ends are built with. -/
def AcceptedConfig.format (c : AcceptedConfig) : FrameFormat :=
  ⟨c.config.tmFrameLength, c.config.fecfPresent, c.room⟩

/-! ### Reed-Solomon -/

/-- Data octets in a full block. -/
def rsDataLength : Nat := 223

def rsParityLength : Nat := 32

/-- Octets of a full code block. -/
def rsBlockLength : Nat := 255

/-- The third-party codec; a block that cannot be decoded gives `none`. -/
structure RSCodec where
  encode : Bytes → Bytes
  decode : Bytes → Option Bytes

/-- What the codec promises for blocks that fit. -/
structure RSCodec.Laws (rs : RSCodec) : Prop where
  parity : ∀ data, data ≠ [] → data.length ≤ rsDataLength →
    (rs.encode data).length = data.length + rsParityLength
  clean : ∀ data, data ≠ [] → data.length ≤ rsDataLength →
    rs.decode (rs.encode data) = some data

/-- Encode one block; more than 223 octets raise an error. -/
def rsEncode (rs : RSCodec) (data : Bytes) : Option Bytes :=
  if rsDataLength < data.length then none else some (rs.encode data)

/-- Decode one block; too short a codeword is refused. -/
def rsDecode (rs : RSCodec) (codeword : Bytes) : Option Bytes :=
  if codeword.length < rsParityLength + 1 then none else rs.decode codeword

def rsEncodeBlocks (rs : RSCodec) : List Bytes → Option Bytes
  | [] => some []
  | block :: blocks => do
      let coded ← rsEncode rs block
      let rest ← rsEncodeBlocks rs blocks
      return coded ++ rest

/-- Blocks too short for the code pass through. -/
def rsDecodeBlocks (rs : RSCodec) : List Bytes → Option Bytes
  | [] => some []
  | block :: blocks => do
      let decoded ← if block.length < 33 then some block else rsDecode rs block
      let rest ← rsDecodeBlocks rs blocks
      return decoded ++ rest

variable {rs : RSCodec}

/-- **Block by block.**  Encoding adds the parity of each block, and decoding in blocks
of 255 gives the data back, a short last block included. -/
theorem rsEncodeBlocks_decode (laws : rs.Laws) (data : Bytes) :
    ∃ coded, rsEncodeBlocks rs (blocksOf rsDataLength data) = some coded ∧
      coded.length = data.length + (blocksOf rsDataLength data).length * rsParityLength ∧
      rsDecodeBlocks rs (blocksOf rsBlockLength coded) = some data := by
  have hone : ∀ block : Bytes, block ≠ [] → block.length ≤ rsDataLength →
      rsEncode rs block = some (rs.encode block) ∧
        ¬ (rs.encode block).length < 33 ∧ rsDecode rs (rs.encode block) = some block := by
    intro block hne hle
    have hpos := length_pos_iff.mpr hne
    have hlen := laws.parity block hne hle
    simp only [rsParityLength] at hlen
    refine ⟨if_neg (Nat.not_lt.mpr hle), by omega, ?_⟩
    rw [rsDecode, if_neg (by simp only [rsParityLength]; omega), laws.clean block hne hle]
  induction data using block_induction (show 0 < rsDataLength by decide) with
  | nil => exact ⟨[], rfl, rfl, rfl⟩
  | short block hne hshort =>
      obtain ⟨hencode, hlong, hdecode⟩ := hone block hne hshort.le
      have hlen := laws.parity block hne hshort.le
      have hcoded : blocksOf rsBlockLength (rs.encode block) = [rs.encode block] := by
        refine blocksOf_short (fun hnil => ?_) ?_
        · rw [hnil] at hlong
          exact hlong (by decide)
        · simp only [rsDataLength, rsBlockLength, rsParityLength] at *
          omega
      refine ⟨rs.encode block, ?_, ?_, ?_⟩
      · simp [blocksOf_short hne hshort.le, rsEncodeBlocks, hencode]
      · simp [blocksOf_short hne hshort.le, hlen]
      · simp [hcoded, rsDecodeBlocks, hlong, hdecode]
  | full block rest hfull ih =>
      have hne : block ≠ [] := by
        rintro rfl
        cases hfull
      obtain ⟨hencode, hlong, hdecode⟩ := hone block hne hfull.le
      have hlen := laws.parity block hne hfull.le
      obtain ⟨coded, hrest, hrestLen, hrestDecode⟩ := ih
      have hblock : (rs.encode block).length = rsBlockLength := by
        rw [hlen, hfull]
        rfl
      refine ⟨rs.encode block ++ coded, ?_, ?_, ?_⟩
      · simp [blocksOf_append (show 0 < rsDataLength by decide) hfull, rsEncodeBlocks, hencode,
          hrest]
      · rw [blocksOf_append (by decide) hfull, length_append, length_append,
          length_cons, hlen, hrestLen]
        simp only [rsParityLength]
        omega
      · simp [blocksOf_append (show 0 < rsBlockLength by decide) hblock, rsDecodeBlocks, hlong,
          hdecode, hrestDecode]

/-! ### The spacecraft's transmitter -/

/-- Serialise a frame, code it and attach the marker. -/
def encodeFrame (rs : RSCodec) (c : CCSDSConfig) (frame : TMFrame UInt8) : Option Bytes :=
  let coded := if c.rsEnabled then rsEncodeBlocks rs (blocksOf rsDataLength frame.wire)
    else some frame.wire
  coded.map fun bytes => attachAsm (if c.convolutionalEnabled then convEncode bytes else bytes)

/-- The octets of a sequence of frames on the channel. -/
def transmit (rs : RSCodec) (c : CCSDSConfig) : List (TMFrame UInt8) → Option Bytes
  | [] => some []
  | frame :: frames => do
      let head ← encodeFrame rs c frame
      let rest ← transmit rs c frames
      return head ++ rest

/-! ### The ground station's receiver -/

/-- The distance of markers the receiver expects, less the marker. -/
def codedFrameLength (c : CCSDSConfig) : Nat :=
  let codedLen := if c.rsEnabled then (c.tmFrameLength + 222) / 223 * 255 else c.tmFrameLength
  if c.convolutionalEnabled then codedLen * 2 + 2 else codedLen

/-- Octets of a frame, with parity, out of the Viterbi decoder. -/
def originalLength (c : CCSDSConfig) : Nat :=
  if c.rsEnabled then c.tmFrameLength + (c.tmFrameLength + 222) / 223 * 32
  else c.tmFrameLength

structure GroundStationRX where
  config : CCSDSConfig
  frameSync : FrameSynchronizer
  frameParser : TMFrameParser UInt8
  goodFrames : Nat := 0
  badFrames : Nat := 0
  packetsRecovered : Nat := 0
  rsFailures : Nat := 0
  fecfFailures : Nat := 0

def GroundStationRX.create (c : AcceptedConfig) : GroundStationRX :=
  { config := c.config
    frameSync := { frameLength := codedFrameLength c.config }
    frameParser := { format := c.format } }

/-- A good frame and the packets it completes. -/
structure Recovered where
  frame : TMFrame UInt8
  packets : List Bytes

/-- Undo the coding of a synchronised frame. -/
def decodeRaw (rs : RSCodec) (c : CCSDSConfig) (rawFrame : Bytes) : Option Bytes :=
  let frameData := if c.convolutionalEnabled then
    viterbiDecode rawFrame (some (originalLength c)) else rawFrame
  if c.rsEnabled then rsDecodeBlocks rs (blocksOf rsBlockLength frameData) else some frameData

/-- Decode, parse and extract packets. -/
def GroundStationRX.processFrame (rs : RSCodec) (rx : GroundStationRX) (rawFrame : Bytes) :
    List Recovered × GroundStationRX :=
  match decodeRaw rs rx.config rawFrame with
  | none => ([], { rx with badFrames := rx.badFrames + 1, rsFailures := rx.rsFailures + 1 })
  | some frameData =>
      match rx.frameParser.parseFrame frameData with
      | (none, frameParser) =>
          ([], { rx with
            frameParser := frameParser
            badFrames := rx.badFrames + 1
            fecfFailures := rx.fecfFailures + 1 })
      | (some parsed, frameParser) =>
          let good := { rx with goodFrames := rx.goodFrames + 1 }
          if parsed.isIdle then ([⟨parsed, []⟩], { good with frameParser := frameParser })
          else
            let extracted := frameParser.extractPackets parsed
            ([⟨parsed, extracted.1⟩],
              { good with
                frameParser := extracted.2
                packetsRecovered := rx.packetsRecovered + extracted.1.length })

def GroundStationRX.processAll (rs : RSCodec) (rx : GroundStationRX) :
    List Bytes → List Recovered × GroundStationRX
  | [] => ([], rx)
  | raw :: raws =>
      let head := rx.processFrame rs raw
      let rest := head.2.processAll rs raws
      (head.1 ++ rest.1, rest.2)

/-- Octets recovered by the demodulator go through the synchroniser, and each frame it
gives is processed. -/
def GroundStationRX.receiveBytes (rs : RSCodec) (rx : GroundStationRX) (recovered : Bytes) :
    List Recovered × GroundStationRX :=
  let synced := rx.frameSync.feed recovered
  { rx with frameSync := synced.2 }.processAll rs synced.1

/-! ### Frames of the link -/

/-- A frame as the builder makes it: sealed, and its data zone full. -/
structure TMFrame.FitsLink (fmt : FrameFormat) (frame : TMFrame UInt8) : Prop where
  sealed : ∃ vcid, frame.SealedFor fmt vcid
  filled : frame.data.length = fmt.dataZoneLength

theorem buildFrame_fits (b : TMFrameBuilder UInt8) (vcid fhp : Nat) {zone : Bytes}
    (h : zone.length = b.format.dataZoneLength) :
    (b.buildFrame vcid zone fhp).1.FitsLink b.format :=
  ⟨⟨vcid, buildFrame_sealed b vcid zone fhp⟩, h⟩

theorem buildIdleFrame_fits (b : TMFrameBuilder UInt8) (vcid : Nat) :
    (b.buildIdleFrame vcid).1.FitsLink b.format :=
  buildFrame_fits b vcid firstHeaderPointerNoPacket (length_replicate ..)

variable {frame : TMFrame UInt8}

theorem TMFrame.FitsLink.wire_length {fmt : FrameFormat} (h : frame.FitsLink fmt) :
    frame.wire.length = fmt.frameLength := by
  obtain ⟨⟨vcid, _, hfecf⟩, hfilled⟩ := h
  have hroom := fmt.room
  unfold TMFrame.wire
  simp only [length_append, pack_length, bytesOf_uint8, id_eq, hfilled, hfecf,
    FrameFormat.dataZoneLength, FrameFormat.fecfSize, tfHeaderLength, fecfLength] at *
  split <;> simp_all <;> omega

/-- A frame that fits the link parses to a frame with the same octets. -/
theorem parseFrame_fits {p : TMFrameParser UInt8} (h : frame.FitsLink p.format) :
    ∃ got, p.parseFrame frame.wire = (some got, { p with goodFrames := p.goodFrames + 1 }) ∧
      got.wire = frame.wire := by
  obtain ⟨⟨vcid, hsealed⟩, _⟩ := h
  refine ⟨_, parseFrame_sealed hsealed, ?_⟩
  simp [TMFrame.wire, pack_unpack (pack_length frame.header)]

/-! ### Coding and decoding a frame -/

/-- Octets of a coded frame as the spacecraft sends it, without the marker. -/
def sentLength (c : CCSDSConfig) : Nat :=
  if c.convolutionalEnabled then originalLength c * 2 + 2 else originalLength c

/-- **One frame.**  Coding never fails, and decoding the coded frame gives its octets
back. -/
theorem encodeFrame_decodeRaw (laws : rs.Laws) {c : AcceptedConfig} (h : frame.FitsLink c.format) :
    ∃ coded, encodeFrame rs c.config frame = some (attachAsm coded) ∧
      coded.length = sentLength c.config ∧ decodeRaw rs c.config coded = some frame.wire := by
  have hwire : frame.wire.length = c.config.tmFrameLength := h.wire_length
  obtain ⟨blocks, hblocks, hlen, hdecode⟩ :
      ∃ blocks, (if c.config.rsEnabled then rsEncodeBlocks rs (blocksOf rsDataLength frame.wire)
          else some frame.wire) = some blocks ∧ blocks.length = originalLength c.config ∧
        (if c.config.rsEnabled then rsDecodeBlocks rs (blocksOf rsBlockLength blocks)
          else some blocks) = some frame.wire := by
    obtain ⟨coded, hcoded, hcodedLen, hcodedDecode⟩ := rsEncodeBlocks_decode laws frame.wire
    by_cases hrs : c.config.rsEnabled
    · refine ⟨coded, by rw [if_pos hrs, hcoded], ?_, by rw [if_pos hrs, hcodedDecode]⟩
      rw [hcodedLen, blocksOf_length, hwire, originalLength, if_pos hrs]
      rfl
    · exact ⟨frame.wire, by rw [if_neg hrs], by rw [originalLength, if_neg hrs, hwire],
        by rw [if_neg hrs]⟩
  by_cases hconv : c.config.convolutionalEnabled
  · refine ⟨convEncode blocks, ?_, ?_, ?_⟩
    · simp [encodeFrame, hblocks, hconv]
    · rw [convEncode_length, sentLength, if_pos hconv, hlen]
    · simp only [decodeRaw, hconv, if_true, ← hlen, viterbiDecode_convEncode]
      exact hdecode
  · refine ⟨blocks, ?_, ?_, ?_⟩
    · simp [encodeFrame, hblocks, hconv]
    · rw [sentLength, if_neg hconv, hlen]
    · simpa only [decodeRaw, hconv, if_false, Bool.false_eq_true] using hdecode

/-- The two ends count the same length exactly when Reed-Solomon has no short block. -/
theorem sentLength_eq_iff (c : AcceptedConfig) :
    sentLength c.config = codedFrameLength c.config ↔
      (c.config.rsEnabled = true → rsDataLength ∣ c.config.tmFrameLength) := by
  unfold sentLength codedFrameLength originalLength rsDataLength
  by_cases hrs : c.config.rsEnabled <;> by_cases hconv : c.config.convolutionalEnabled <;>
    simp only [hrs, hconv, if_true, if_false, Bool.false_eq_true, forall_const, false_imp_iff] <;>
    omega

/-! ### Whole runs -/

/-- **One frame received.**  A coded frame of this configuration is recovered, whatever
the receiver did before. -/
theorem processFrame_coded {rx : GroundStationRX} {coded : Bytes}
    (hfits : frame.FitsLink rx.frameParser.format)
    (hdecode : decodeRaw rs rx.config coded = some frame.wire) :
    ∃ got, (rx.processFrame rs coded).1 = [got] ∧ got.frame.wire = frame.wire ∧
      (rx.processFrame rs coded).2.config = rx.config ∧
      (rx.processFrame rs coded).2.frameParser.format = rx.frameParser.format := by
  obtain ⟨parsed, hparse, hwire⟩ := parseFrame_fits hfits
  simp only [GroundStationRX.processFrame, hdecode, hparse]
  split
  · exact ⟨_, rfl, hwire, rfl, rfl⟩
  · exact ⟨_, rfl, hwire, rfl, extractPackets_format _ _⟩

/-- A sequence of coded frames is recovered. -/
theorem processAll_coded {c : CCSDSConfig} {fmt : FrameFormat} {rx : GroundStationRX}
    (hconfig : rx.config = c) (hformat : rx.frameParser.format = fmt) {raws : List Bytes}
    {frames : List (TMFrame UInt8)} (hframes : ∀ frame ∈ frames, frame.FitsLink fmt)
    (hraws : List.Forall₂ (fun raw frame => decodeRaw rs c raw = some frame.wire) raws frames) :
    (rx.processAll rs raws).1.map (fun r => r.frame.wire) = frames.map TMFrame.wire := by
  induction hraws generalizing rx with
  | nil => rfl
  | @cons raw frame raws frames hdecode hrest ih =>
      subst hconfig hformat
      obtain ⟨got, hout, hwire, hconfig, hformat⟩ :=
        processFrame_coded (hframes frame mem_cons_self) hdecode
      have htail := ih hconfig hformat fun f hf => hframes f (mem_cons_of_mem _ hf)
      simp only [GroundStationRX.processAll, hout, singleton_append, map_cons, hwire,
        htail]

/-- Processing does not depend on the synchroniser. -/
theorem processFrame_sync (rs : RSCodec) (rx : GroundStationRX) (s : FrameSynchronizer)
    (raw : Bytes) :
    { rx with frameSync := s }.processFrame rs raw =
      ((rx.processFrame rs raw).1, { (rx.processFrame rs raw).2 with frameSync := s }) := by
  simp only [GroundStationRX.processFrame]
  split
  · rfl
  · split
    · rfl
    · split <;> rfl

theorem processAll_sync (rs : RSCodec) (rx : GroundStationRX) (s : FrameSynchronizer)
    (raws : List Bytes) :
    { rx with frameSync := s }.processAll rs raws =
      ((rx.processAll rs raws).1, { (rx.processAll rs raws).2 with frameSync := s }) := by
  induction raws generalizing rx with
  | nil => rfl
  | cons raw raws ih => simp only [GroundStationRX.processAll, processFrame_sync, ih]

theorem processAll_append (rs : RSCodec) (rx : GroundStationRX) (raws more : List Bytes) :
    (rx.processAll rs (raws ++ more)).1 =
      (rx.processAll rs raws).1 ++ ((rx.processAll rs raws).2.processAll rs more).1 := by
  induction raws generalizing rx with
  | nil => rfl
  | cons raw raws ih => simp only [cons_append, GroundStationRX.processAll, ih,
      append_assoc]

/-- **Synchronise, then process.**  What a receiver recovers chunk by chunk is what it
recovers from all synchronised frames together. -/
theorem receiveAll_eq_processAll (rs : RSCodec) (rx : GroundStationRX) (chunks : List Bytes) :
    Streaming.feedAll (GroundStationRX.receiveBytes rs) rx chunks =
      (rx.processAll rs (Streaming.feedAll FrameSynchronizer.feed rx.frameSync chunks)).1 := by
  induction chunks generalizing rx with
  | nil => rfl
  | cons chunk chunks ih =>
      rw [Streaming.feedAll, Streaming.feedAll, processAll_append, ih]
      simp only [GroundStationRX.receiveBytes, processAll_sync]

/-! ### Agreement of the chains -/

/-- The two ends agree: a coded frame is as long as the receiver counts, and on a channel
without noise the receiver recovers the frames, however the demodulator cuts the
stream into pieces of up to nine coded frames. -/
structure ChainsAgree (rs : RSCodec) (c : AcceptedConfig) : Prop where
  codedLength : ∀ frame : TMFrame UInt8, frame.FitsLink c.format →
    ∃ coded, encodeFrame rs c.config frame = some (attachAsm coded) ∧
      coded.length = codedFrameLength c.config
  recovers : ∀ frames : List (TMFrame UInt8), (∀ frame ∈ frames, frame.FitsLink c.format) →
    ∃ stream, transmit rs c.config frames = some stream ∧
      ∀ chunks : List Bytes, chunks.flatten = stream →
        (∀ chunk ∈ chunks, chunk.length ≤ (codedFrameLength c.config + asmLength) * 9) →
        (Streaming.feedAll (GroundStationRX.receiveBytes rs) (GroundStationRX.create c)
          chunks).map (fun r => r.frame.wire) = frames.map TMFrame.wire

/-- The channel carries the coded frames, each behind its marker. -/
theorem transmit_markedFrames (laws : rs.Laws) {c : AcceptedConfig} {frames : List (TMFrame UInt8)}
    (hframes : ∀ frame ∈ frames, frame.FitsLink c.format) :
    ∃ raws, transmit rs c.config frames = some (markedFrames raws) ∧
      (∀ raw ∈ raws, raw.length = sentLength c.config) ∧
      List.Forall₂ (fun raw frame => decodeRaw rs c.config raw = some frame.wire)
        raws frames := by
  induction frames with
  | nil => exact ⟨[], rfl, by simp, .nil⟩
  | cons frame frames ih =>
      obtain ⟨coded, hcoded, hlen, hdecode⟩ :=
        encodeFrame_decodeRaw laws (hframes frame mem_cons_self)
      obtain ⟨raws, hraws, hlens, hdecodes⟩ :=
        ih fun f hf => hframes f (mem_cons_of_mem _ hf)
      refine ⟨coded :: raws, ?_, ?_, .cons hdecode hdecodes⟩
      · simp [transmit, hcoded, hraws, markedFrames]
      · intro raw hraw
        rcases mem_cons.mp hraw with rfl | hmem
        · exact hlen
        · exact hlens raw hmem

/-- **When the chains agree.**  Transmitter and receiver agree on the coded frame, and
the receiver recovers what was sent, exactly when Reed-Solomon is off or the frame
is a whole number of its blocks. -/
theorem chainsAgree_iff {rs : RSCodec} (laws : rs.Laws) (c : AcceptedConfig) :
    ChainsAgree rs c ↔
      (c.config.rsEnabled = true → rsDataLength ∣ c.config.tmFrameLength) := by
  rw [← sentLength_eq_iff]
  constructor
  · intro hagree
    -- any frame shows the length, an idle one for instance
    have hidle := buildIdleFrame_fits { scid := c.config.scid, format := c.format } 7
    obtain ⟨coded, hcoded, hlen, _⟩ := encodeFrame_decodeRaw laws hidle
    obtain ⟨coded', hcoded', hlen'⟩ := hagree.codedLength _ hidle
    rw [hcoded] at hcoded'
    have hsame : coded = coded' := List.append_cancel_left (Option.some.inj hcoded')
    rw [← hlen, hsame, hlen']
  · intro hlength
    refine ⟨fun frame hfits => ?_, fun frames hframes => ?_⟩
    · obtain ⟨coded, hcoded, hlen, _⟩ := encodeFrame_decodeRaw laws hfits
      exact ⟨coded, hcoded, hlen.trans hlength⟩
    · obtain ⟨raws, hsent, hlens, hdecodes⟩ := transmit_markedFrames laws hframes
      refine ⟨markedFrames raws, hsent, fun chunks hchunks hshort => ?_⟩
      have hstart : InStep false (GroundStationRX.create c).frameSync chunks.flatten raws := by
        have hfree : MarkerFree 3 false [] := fun i hi => absurd hi (by simp)
        rw [hchunks]
        exact InStep.fresh (s := (GroundStationRX.create c).frameSync) rfl rfl (by simp) hfree
          fun raw hraw => (hlens raw hraw).trans hlength
      have hsynced := hstart.feedAll_eq false (hstart.throughout_noTrim hshort)
      rw [receiveAll_eq_processAll, hsynced]
      exact processAll_coded rfl rfl hframes hdecodes

/-! ### The codec at work -/

/-- Double in the field of 256 elements, modulo `x^8 + x^4 + x^3 + x^2 + 1`. -/
def gfDouble (a : UInt8) : UInt8 :=
  if 0x80 ≤ a then (a <<< 1) ^^^ 0x1D else a <<< 1

def gfMul (a b : UInt8) : UInt8 :=
  (octetBits b).foldl (fun acc bit => if bit then gfDouble acc ^^^ a else gfDouble acc) 0

/-- Lower coefficients of the generator polynomial, whose roots are the first 32
powers of two. -/
def rsGenerator : Bytes :=
  ((List.range rsParityLength).foldl
    (fun (poly, root) _ =>
      (List.zipWith (fun high low => high ^^^ gfMul root low) (poly ++ [0]) (0 :: poly),
        gfDouble root))
    (([1] : Bytes), (1 : UInt8))).1.tail

/-- Remainder of the shifted data modulo the generator. -/
def rsParity (data : Bytes) : Bytes :=
  data.foldl (fun register byte =>
      let coefficient := byte ^^^ register.headD 0
      List.zipWith (fun shifted g => shifted ^^^ gfMul g coefficient)
        (register.drop 1 ++ [0]) rsGenerator)
    (List.replicate rsParityLength 0)

/-- The systematic code, decoding codewords received without errors only. -/
def reedSolomon : RSCodec where
  encode data := data ++ rsParity data
  decode codeword :=
    let data := codeword.take (codeword.length - rsParityLength)
    if data ++ rsParity data = codeword then some data else none

theorem rsParity_length (data : Bytes) : (rsParity data).length = rsParityLength := by
  have hgenerator : rsGenerator.length = rsParityLength := by decide
  have hfold : ∀ register : Bytes, register.length = rsParityLength →
      (data.foldl (fun register byte =>
        let coefficient := byte ^^^ register.headD 0
        zipWith (fun shifted g => shifted ^^^ gfMul g coefficient)
          (register.drop 1 ++ [0]) rsGenerator) register).length = rsParityLength := by
    induction data with
    | nil => exact fun register h => h
    | cons byte data ih =>
        intro register h
        refine ih _ ?_
        simp [hgenerator, h, rsParityLength]
  exact hfold _ (length_replicate ..)

theorem reedSolomon_laws : reedSolomon.Laws where
  parity data _ _ := by simp [reedSolomon, rsParity_length]
  clean data _ _ := by simp [reedSolomon, rsParity_length]

/-- The default configuration, five whole blocks a frame. -/
def standardConfig : AcceptedConfig := ⟨{}, rfl⟩

theorem chainsAgree_standard : ChainsAgree reedSolomon standardConfig :=
  (chainsAgree_iff reedSolomon_laws standardConfig).mpr fun _ => by decide

/-- Frames of 64 octets, less than one block. -/
def shortBlockConfig : AcceptedConfig :=
  ⟨{ tmFrameLength := 64, convolutionalEnabled := false }, rfl⟩

/-- An idle frame of 64 octets goes out as 96 octets behind its marker, the receiver
waits for 255 and recovers nothing. -/
theorem short_block_not_received :
    let idle := (({ scid := 1, format := shortBlockConfig.format } :
      TMFrameBuilder UInt8).buildIdleFrame 7).1
    (encodeFrame reedSolomon shortBlockConfig.config idle).map List.length =
        some (asmLength + 96) ∧
      codedFrameLength shortBlockConfig.config = 255 ∧
      (encodeFrame reedSolomon shortBlockConfig.config idle).map (fun stream =>
        (Streaming.feedAll (GroundStationRX.receiveBytes reedSolomon)
          (GroundStationRX.create shortBlockConfig) [stream]).length) = some 0 ∧
      ¬ ChainsAgree reedSolomon shortBlockConfig := by
  intro idle
  have hsent : (encodeFrame reedSolomon shortBlockConfig.config idle).map List.length =
      some (asmLength + 96) := by decide +kernel
  refine ⟨hsent, rfl, by decide +kernel, fun hagree => ?_⟩
  have hfits := buildIdleFrame_fits { scid := 1, format := shortBlockConfig.format } 7
  obtain ⟨coded, hcoded, hlen⟩ := hagree.codedLength idle hfits
  rw [hcoded, Option.map_some, attachAsm, List.length_append, hlen] at hsent
  exact absurd hsent (by decide)

end Ccsds
