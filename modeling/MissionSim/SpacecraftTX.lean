import MissionSim.CodedLink
import MissionSim.TmChannels

/-!
# The transmitter's loop

`SpacecraftTX` runs in a thread of its own.  The main thread hands it packets over a
bounded queue and switches the amplifier.  Each turn of the loop moves what is queued
into channel 0 of the multiplexer and puts a frame on the air: a finished one if there
is one, else what a flush gives, else idle fill.

However the two threads interleave, the ground station recovers the accepted packets in
order, up to those still on board (`downlink_delivers`); and with the amplifier on the loop
comes to leave nothing on board (`downlink_settles`).
-/

namespace Ccsds

open Octets Ecss List

/-! ### The transmitter -/

structure SpacecraftTX where
  packetQueue : List Bytes := []
  maxsize : Nat := 500
  vcMux : VCMultiplexer UInt8
  transmitting : Bool := false
  /-- Within a turn of the loop, which begins by draining the queue. -/
  draining : Bool := false
  framesTransmitted : Nat := 0
  dataFrames : Nat := 0
  idleFrames : Nat := 0
  packetDrops : Nat := 0

/-- A transmitter with the default channels of its multiplexer. -/
def SpacecraftTX.create (c : AcceptedConfig) : SpacecraftTX :=
  { vcMux := VCMultiplexer.create c.config.scid c.format [0, 1, idleChannel] (by simp) }

/-- The queue takes no more packets; a size of zero is no limit. -/
def SpacecraftTX.full (t : SpacecraftTX) : Bool :=
  t.maxsize != 0 && decide (t.maxsize ≤ t.packetQueue.length)

/-- `enqueue_packet(packet)`, from the main thread. -/
def SpacecraftTX.enqueuePacket (t : SpacecraftTX) (packet : Bytes) : SpacecraftTX :=
  if t.full then { t with packetDrops := t.packetDrops + 1 }
  else { t with packetQueue := t.packetQueue ++ [packet] }

/-- Put the next frames on the air.  Of the frames of a flush the first goes last. -/
def SpacecraftTX.putFrame (t : SpacecraftTX) : List (TMFrame UInt8) × SpacecraftTX :=
  if t.vcMux.hasData then
    let taken := t.vcMux.getNextFrame
    ([taken.1], { t with
      vcMux := taken.2
      dataFrames := t.dataFrames + 1
      framesTransmitted := t.framesTransmitted + 1 })
  else
    let flushed := t.vcMux.flushAll
    match flushed.1 with
    | frame :: others =>
        (others ++ [frame], { t with
          vcMux := flushed.2
          dataFrames := t.dataFrames + others.length + 1
          framesTransmitted := t.framesTransmitted + others.length + 1 })
    | [] =>
        let taken := flushed.2.getNextFrame
        ([taken.1], { t with
          vcMux := taken.2
          idleFrames := t.idleFrames + 1
          framesTransmitted := t.framesTransmitted + 1 })

/-- One step of the loop's thread: begin a turn, take a packet off the queue, or find the
queue empty and put a frame on the air. -/
def SpacecraftTX.advance (t : SpacecraftTX) : List (TMFrame UInt8) × SpacecraftTX :=
  if t.draining then
    match t.packetQueue with
    | packet :: rest =>
        ([], { t with packetQueue := rest, vcMux := t.vcMux.addPacket packet 0 })
    | [] => { t with draining := false }.putFrame
  else ([], { t with draining := t.transmitting })

/-- What the two threads do. -/
inductive TXEvent where
  | enqueuePacket (packet : Bytes)
  | setTransmitting (on : Bool)
  | advance

def SpacecraftTX.step (t : SpacecraftTX) : TXEvent → List (TMFrame UInt8) × SpacecraftTX
  | .enqueuePacket packet => ([], t.enqueuePacket packet)
  | .setTransmitting on => ([], { t with transmitting := on })
  | .advance => t.advance

/-- The frames put on the air by any interleaving of the threads. -/
def SpacecraftTX.run (t : SpacecraftTX) : List TXEvent → List (TMFrame UInt8) × SpacecraftTX
  | [] => ([], t)
  | event :: events =>
      let first := t.step event
      let rest := first.2.run events
      (first.1 ++ rest.1, rest.2)

/-- The packet an event adds to the queue. -/
def SpacecraftTX.accepts (t : SpacecraftTX) : TXEvent → List Bytes
  | .enqueuePacket packet => if t.full then [] else [packet]
  | .setTransmitting _ | .advance => []

/-- The packets the queue accepts, in order. -/
def SpacecraftTX.accepted (t : SpacecraftTX) : List TXEvent → List Bytes
  | [] => []
  | event :: events => t.accepts event ++ (t.step event).2.accepted events

/-! ### Frames of a channel on the link -/

variable {fmt : FrameFormat}

theorem Frames.fits {vcid : Nat} {frames : List (TMFrame UInt8)} {s d s' d' : Bytes}
    {zs : List (Zone UInt8)} {done : List Bytes} (h : Frames fmt vcid frames s d zs done s' d') :
    ∀ frame ∈ frames, frame.FitsLink fmt := by
  have hfilled : ∀ frame ∈ frames, frame.data.length = fmt.dataZoneLength := by
    have hrun := h.run
    have hcarried := h.carried
    clear h
    induction hcarried generalizing s d done with
    | nil => simp
    | cons hframe _ ih =>
        cases hrun with
        | cons step tail =>
            intro frame hmem
            rcases mem_cons.mp hmem with rfl | hmem
            · rw [hframe.1]
              exact step.data_length
            · exact ih tail frame hmem
  exact fun frame hmem => ⟨⟨vcid, h.sealed frame hmem⟩, hfilled frame hmem⟩

/-! ### Books of the multiplexer -/

variable {m : VCMultiplexer UInt8} {sent : List (TMFrame UInt8)} {taken : List Bytes}

/-- The multiplexer after frames `sent`, fed with the packets `taken` on channel 0 alone:
the data frames sent and pending carry them, up to what the builder holds back. -/
structure OnAir (fmt : FrameFormat) (m : VCMultiplexer UInt8) (sent : List (TMFrame UInt8))
    (taken : List Bytes) : Prop where
  channels : m.vcIds = [0, 1, idleChannel]
  format : (m.builders 0).format = fmt ∧ (m.builders idleChannel).format = fmt
  spare : (m.builders 1).vcBuffers 1 = [] ∧ m.pending 1 = []
  short : ((m.builders 0).vcBuffers 0).length < fmt.dataZoneLength
  books : ∃ zs done s d q,
    Frames fmt 0 (dataFrames sent ++ m.pending 0) [] [] zs done s d ∧
      Buffered (m.builders 0) 0 0 s d q ∧ taken = done ++ (inProgress s d ++ q)
  fits : ∀ frame ∈ sent, frame.FitsLink fmt ∧ frame.header.firstHeaderPointer < 2 ^ 11

theorem OnAir.fresh (scid : Nat) (fmt : FrameFormat) (served) :
    OnAir fmt (VCMultiplexer.create scid fmt [0, 1, idleChannel] served) [] [] :=
  ⟨rfl, ⟨rfl, rfl⟩, ⟨rfl, rfl⟩, fmt.dataZoneLength_pos,
    ⟨[], [], [], [], [], Frames.nil fmt 0 [] [], Buffered.fresh scid 0 fmt, rfl⟩, by simp⟩

theorem OnAir.hasData (h : OnAir fmt m sent taken) : m.hasData = !(m.pending 0).isEmpty := by
  simp [VCMultiplexer.hasData, h.channels, VCMultiplexer.isReady, h.spare.2, idleChannel]

theorem OnAir.addPacket (h : OnAir fmt m sent taken) {packet : Bytes}
    (hp : WellFormedPacket packet) : OnAir fmt (m.addPacket packet 0) sent (taken ++ [packet]) := by
  obtain ⟨zs, done, s, d, q, hframes, hbuf, rfl⟩ := h.books
  obtain ⟨ws, done', s', d', q', hemits, hbuf', hless, _⟩ := addPacket_emits hbuf hp
  have hzero : 0 ∈ m.vcIds := by simp [h.channels]
  have hnew := hemits.frames
  have hcons := hemits.conserved
  rw [VCMultiplexer.addPacket, if_pos hzero]
  rw [h.format.1] at hless hnew
  refine ⟨h.channels, by simpa [addPacket_format, idleChannel] using h.format,
    by simpa using h.spare, by simpa using hless,
    ⟨zs ++ ws, done ++ done', s', d', q', ?_, by simpa using hbuf', ?_⟩, h.fits⟩
  · simpa [← append_assoc] using hframes.append hnew
  · simp only [append_assoc] at hcons ⊢
    rw [hcons]

theorem fits_concat {frame : TMFrame UInt8}
    (h : ∀ f ∈ sent, f.FitsLink fmt ∧ f.header.firstHeaderPointer < 2 ^ 11)
    (hframe : frame.FitsLink fmt ∧ frame.header.firstHeaderPointer < 2 ^ 11) :
    ∀ f ∈ sent ++ [frame], f.FitsLink fmt ∧ f.header.firstHeaderPointer < 2 ^ 11 := by
  intro f hf
  rcases mem_append.mp hf with hf | hf
  · exact h f hf
  · rwa [mem_singleton.mp hf]

theorem OnAir.takeFrame (h : OnAir fmt m sent taken) (hfmt : fmt.CarriesPackets)
    (hdata : m.hasData = true) :
    OnAir fmt m.getNextFrame.2 (sent ++ [m.getNextFrame.1]) taken := by
  rw [h.hasData, Bool.not_eq_true', isEmpty_eq_false_iff] at hdata
  obtain ⟨frame, rest, hpending⟩ := exists_cons_of_ne_nil hdata
  have hnext : m.getNextFrame =
      (frame, { m with pending := Function.update m.pending 0 rest }) := by
    simp [VCMultiplexer.getNextFrame, h.channels, VCMultiplexer.isReady, hpending, idleChannel]
  obtain ⟨zs, done, s, d, q, hframes, hbuf, hbooks⟩ := h.books
  have hmem : frame ∈ dataFrames sent ++ m.pending 0 := by simp [hpending]
  obtain ⟨hptr, hidle⟩ := hframes.pointer_lt hfmt.1 frame hmem
  rw [hnext]
  refine ⟨h.channels, h.format, by simpa using h.spare, h.short,
    ⟨zs, done, s, d, q, ?_, hbuf, hbooks⟩, fits_concat h.fits ⟨hframes.fits frame hmem, hptr⟩⟩
  rw [hpending] at hframes
  simpa [dataFrames, hidle] using hframes

theorem OnAir.getNextFrame_idle (h : OnAir fmt m sent taken) (hdata : m.hasData = false) :
    m.getNextFrame = (((m.builders idleChannel).buildIdleFrame idleChannel).1, { m with
      builders := Function.update m.builders idleChannel
        ((m.builders idleChannel).buildIdleFrame idleChannel).2 }) := by
  rw [h.hasData, Bool.not_eq_false', List.isEmpty_iff] at hdata
  have hserved : idleChannel ∈ m.vcIds := by simp [h.channels]
  have hturn : m.vcIds.find? m.isReady = none := by
    simp [h.channels, VCMultiplexer.isReady, hdata, h.spare.2, idleChannel]
  simp only [VCMultiplexer.getNextFrame, hturn, VCMultiplexer.nextIdle, if_pos hserved]

theorem OnAir.takeIdle (h : OnAir fmt m sent taken) (hdata : m.hasData = false) :
    OnAir fmt m.getNextFrame.2 (sent ++ [m.getNextFrame.1]) taken := by
  have hfits := buildIdleFrame_fits (m.builders idleChannel) idleChannel
  have hptr : firstHeaderPointerNoPacket < 2 ^ 11 := by decide
  have hidle : dataFrames [((m.builders idleChannel).buildIdleFrame idleChannel).1] = [] := by
    simp [dataFrames, TMFrameBuilder.buildIdleFrame, TMFrame.isIdle]
  rw [h.format.2] at hfits
  rw [h.getNextFrame_idle hdata]
  refine ⟨h.channels, ?_, by simpa [idleChannel] using h.spare, by simpa [idleChannel] using h.short,
    ?_, fits_concat h.fits ⟨hfits, hptr⟩⟩
  · simpa [TMFrameBuilder.buildIdleFrame, idleChannel] using h.format
  · rw [dataFrames_append, hidle, append_nil]
    simpa [idleChannel] using h.books

/-- A flush gives what channel 0 holds back, in one frame at most. -/
theorem OnAir.flushAll (h : OnAir fmt m sent taken) (hfmt : fmt.CarriesPackets)
    (hdata : m.hasData = false) :
    OnAir fmt m.flushAll.2 (sent ++ m.flushAll.1) taken ∧ m.flushAll.1.length ≤ 1 ∧
      m.flushAll.2.hasData = false ∧ (m.flushAll.2.builders 0).vcBuffers 0 = [] := by
  rw [h.hasData, Bool.not_eq_false', List.isEmpty_iff] at hdata
  obtain ⟨zs, done, s, d, q, hframes, hbuf, hbooks⟩ := h.books
  obtain ⟨ws, hemits, hclear⟩ := flush_emits hbuf
  have hnew := hemits.frames
  rw [h.format.1] at hnew
  rw [hdata, append_nil] at hframes
  have hspare : (m.builders 1).flush 1 = ([], (m.builders 1).clearChannel 1) := by
    simp [TMFrameBuilder.flush, h.spare.1]
  have hflush : m.flushAll = (((m.builders 0).flush 0).1, { m with
      builders := Function.update (Function.update m.builders 0 ((m.builders 0).flush 0).2) 1
        ((m.builders 1).clearChannel 1) }) := by
    simp [VCMultiplexer.flushAll, VCMultiplexer.flushFrom, h.channels, idleChannel, hspare]
  have hlength : ((m.builders 0).flush 0).1.length ≤ 1 := by
    rw [flush_length (by rw [h.format.1]; exact h.short)]
    split <;> decide
  have hempty : ((m.builders 0).flush 0).2.vcBuffers 0 = [] := by simpa using hclear.buffer
  have hdatas : dataFrames ((m.builders 0).flush 0).1 = ((m.builders 0).flush 0).1 :=
    dataFrames_eq_self fun f hf => (hnew.pointer_lt hfmt.1 f hf).2
  rw [hflush]
  have hafter : OnAir fmt { m with
      builders := Function.update (Function.update m.builders 0 ((m.builders 0).flush 0).2) 1
        ((m.builders 1).clearChannel 1) } (sent ++ ((m.builders 0).flush 0).1) taken := by
    refine ⟨h.channels, by simpa [flush_format, idleChannel] using h.format,
      by simp [TMFrameBuilder.clearChannel, h.spare.2], by simp [hempty, fmt.dataZoneLength_pos],
      ⟨zs ++ ws, taken, [], [], [], ?_, by simpa using hclear, by simp [inProgress]⟩,
      fun f hf => ?_⟩
    · rw [dataFrames_append, hdatas, hdata, append_nil, hbooks]
      exact hframes.append hnew
    · rcases mem_append.mp hf with hf | hf
      · exact h.fits f hf
      · exact ⟨hnew.fits f hf, (hnew.pointer_lt hfmt.1 f hf).1⟩
  exact ⟨hafter, hlength, by rw [hafter.hasData]; simp [hdata], by simpa using hempty⟩

/-! ### Runs -/

variable {t : SpacecraftTX} {accepted : List Bytes}

/-- The transmitter after frames `sent`, having accepted the packets `accepted`: those not
yet taken by the multiplexer are in the queue. -/
structure Transmits (fmt : FrameFormat) (t : SpacecraftTX)
    (sent : List (TMFrame UInt8)) (accepted : List Bytes) : Prop where
  books : ∃ taken, OnAir fmt t.vcMux sent taken ∧ accepted = taken ++ t.packetQueue
  queued : ∀ p ∈ t.packetQueue, WellFormedPacket p

theorem Transmits.putFrame (h : Transmits fmt t sent accepted) (hfmt : fmt.CarriesPackets) :
    Transmits fmt t.putFrame.2 (sent ++ t.putFrame.1) accepted := by
  obtain ⟨taken, hair, rfl⟩ := h.books
  unfold SpacecraftTX.putFrame
  cases hdata : t.vcMux.hasData with
  | true => exact ⟨⟨taken, hair.takeFrame hfmt hdata, rfl⟩, h.queued⟩
  | false =>
      obtain ⟨hflushed, hlength, hnone, _⟩ := hair.flushAll hfmt hdata
      simp only [Bool.false_eq_true, if_false]
      split
      · next frame others hframes =>
          have hothers : others = [] :=
            length_eq_zero_iff.mp (by simpa [hframes] using hlength)
          rw [hframes] at hflushed
          subst hothers
          exact ⟨⟨taken, hflushed, rfl⟩, h.queued⟩
      · next hframes =>
          rw [hframes, append_nil] at hflushed
          exact ⟨⟨taken, hflushed.takeIdle hnone, rfl⟩, h.queued⟩

/-- **A step of either thread.** -/
theorem Transmits.step (h : Transmits fmt t sent accepted) (hfmt : fmt.CarriesPackets)
    (event : TXEvent) (hevent : ∀ p, event = .enqueuePacket p → WellFormedPacket p) :
    Transmits fmt (t.step event).2 (sent ++ (t.step event).1) (accepted ++ t.accepts event) := by
  obtain ⟨taken, hair, rfl⟩ := h.books
  cases event with
  | enqueuePacket packet =>
      simp only [SpacecraftTX.step, SpacecraftTX.enqueuePacket, SpacecraftTX.accepts]
      split
      · exact ⟨⟨taken, by simpa using hair, by simp⟩, h.queued⟩
      · refine ⟨⟨taken, by simpa using hair, by simp⟩, fun p hp => ?_⟩
        rcases mem_append.mp hp with hp | hp
        · exact h.queued p hp
        · exact hevent p (by rw [mem_singleton.mp hp])
  | setTransmitting on =>
      exact ⟨⟨taken, by simpa [SpacecraftTX.step] using hair, by simp [SpacecraftTX.step,
        SpacecraftTX.accepts]⟩, h.queued⟩
  | advance =>
      rw [SpacecraftTX.accepts, append_nil, SpacecraftTX.step, SpacecraftTX.advance]
      split
      · split
        · next packet rest hqueue =>
            rw [hqueue] at h ⊢
            have hp := h.queued packet (by simp [hqueue])
            exact ⟨⟨taken ++ [packet], by simpa using hair.addPacket hp, by simp⟩,
              fun p hmem => h.queued p (by simp [hqueue, hmem])⟩
        · next hqueue =>
            have hturn : Transmits fmt { t with draining := false } sent (taken ++ t.packetQueue) :=
              ⟨⟨taken, hair, rfl⟩, h.queued⟩
            exact hturn.putFrame hfmt
      · exact ⟨⟨taken, by simpa using hair, rfl⟩, h.queued⟩

theorem Transmits.run (h : Transmits fmt t sent accepted) (hfmt : fmt.CarriesPackets)
    {events : List TXEvent} (hevents : ∀ p, .enqueuePacket p ∈ events → WellFormedPacket p) :
    Transmits fmt (t.run events).2 (sent ++ (t.run events).1) (accepted ++ t.accepted events) := by
  induction events generalizing t sent accepted with
  | nil => simpa [SpacecraftTX.run, SpacecraftTX.accepted] using h
  | cons event events ih =>
      have hstep := h.step hfmt event fun p hp => hevents p (hp ▸ mem_cons_self)
      have hrest := ih hstep fun p hp => hevents p (mem_cons_of_mem _ hp)
      simpa [SpacecraftTX.run, SpacecraftTX.accepted] using hrest

/-- Nothing is left on board. -/
structure SpacecraftTX.Settled (t : SpacecraftTX) : Prop where
  queue : t.packetQueue = []
  pending : t.vcMux.hasData = false
  held : (t.vcMux.builders 0).vcBuffers 0 = []

theorem extractAll_append (p : TMFrameParser UInt8) (fs gs : List (TMFrame UInt8)) :
    (p.extractAll (fs ++ gs)).1 =
      (p.extractAll fs).1 ++ ((p.extractAll fs).2.extractAll gs).1 := by
  induction fs generalizing p with
  | nil => rfl
  | cons f fs ih => simp [TMFrameParser.extractAll, ih]

/-- What the frames sent complete is a prefix of what was accepted, and all of it once
nothing is left on board. -/
theorem Transmits.completed (h : Transmits fmt t sent accepted) (hfmt : fmt.CarriesPackets) :
    (({ format := fmt } : TMFrameParser UInt8).extractAll sent).1 <+: accepted ∧
      (t.Settled → (({ format := fmt } : TMFrameParser UInt8).extractAll sent).1 = accepted) := by
  obtain ⟨taken, hair, rfl⟩ := h.books
  obtain ⟨zs, done, s, d, q, hframes, hbuf, rfl⟩ := hair.books
  have hdone : (({ format := fmt } : TMFrameParser UInt8).extractAll
      (dataFrames sent ++ t.vcMux.pending 0)).1 = done := by
    rw [extractAll_run (p := { format := fmt }) hfmt rfl hframes.run hframes.carried]
  rw [extractAll_append, dataFrames, extractAll_filter_idle] at hdone
  constructor
  · rw [← hdone, append_assoc, append_assoc]
    exact List.prefix_append _ _
  · intro hsettled
    have hpending : t.vcMux.pending 0 = [] := by
      simpa [hair.hasData] using hsettled.pending
    have hheld := hbuf.buffer
    rw [hsettled.held, eq_comm, append_eq_nil_iff, flatten_eq_nil_iff] at hheld
    obtain ⟨rfl, hqueue⟩ := hheld
    have hnone : q = [] := eq_nil_iff_forall_not_mem.mpr fun p hp => by
      have hlong := (hbuf.queueOk p hp).long
      rw [hqueue p hp] at hlong
      exact absurd hlong (by decide)
    have hopen : s = [] := by
      rcases hbuf.openOk with hnil | hsome
      · exact hnil.1
      · exact absurd rfl hsome.2.1
    rw [hpending] at hdone
    subst hopen hnone
    simpa [TMFrameParser.extractAll, inProgress, hsettled.queue] using hdone

/-! ### The ground station -/

variable {rs : RSCodec} {c : AcceptedConfig}

/-- The packets a receiver recovers are those its parser receives. -/
theorem processAll_packets {rx : GroundStationRX} {raws : List Bytes}
    (hraws : Forall₂ (fun raw frame => decodeRaw rs rx.config raw = some (TMFrame.wire frame))
      raws sent) :
    (rx.processAll rs raws).1.flatMap Recovered.packets =
      rx.frameParser.receive (sent.map TMFrame.wire) := by
  generalize hconfig : rx.config = config at hraws
  induction hraws generalizing rx with
  | nil => rfl
  | @cons raw frame raws frames hdecode hrest ih =>
      subst hconfig
      rw [map_cons, TMFrameParser.receive, GroundStationRX.processAll, flatMap_append,
        GroundStationRX.processFrame, hdecode]
      simp only
      split
      · next p hparse =>
          rw [hparse]
          exact ih rfl
      · next frame p hparse =>
          rw [hparse]
          simp only
          split
          · next hidle =>
              have hskip : p.extractPackets frame = ([], p) := by
                simp [TMFrameParser.extractPackets, hidle]
              rw [hskip]
              exact ih rfl
          · rw [flatMap_cons, flatMap_nil, append_nil]
            exact congrArg _ (ih rfl)

/-- On a channel without noise the packets that the receiver recovers from these frames satisfy
`P`, however the demodulator cuts the stream into pieces of up to nine coded frames. -/
def Receives (rs : RSCodec) (c : AcceptedConfig) (frames : List (TMFrame UInt8))
    (P : List Bytes → Prop) : Prop :=
  ∃ stream, transmit rs c.config frames = some stream ∧
    ∀ chunks : List Bytes, chunks.flatten = stream →
      (∀ chunk ∈ chunks, chunk.length ≤ (codedFrameLength c.config + asmLength) * 9) →
      P ((Streaming.feedAll (GroundStationRX.receiveBytes rs) (GroundStationRX.create c)
        chunks).flatMap Recovered.packets)

/-- **From frames to packets.**  The receiver recovers what the frames complete. -/
theorem receive_frames_packets (laws : rs.Laws)
    (hlength : sentLength c.config = codedFrameLength c.config)
    (hsent : ∀ frame ∈ sent, frame.FitsLink c.format ∧ frame.header.firstHeaderPointer < 2 ^ 11)
    {P : List Bytes → Prop}
    (hP : P (({ format := c.format } : TMFrameParser UInt8).extractAll sent).1) :
    Receives rs c sent P := by
  obtain ⟨raws, hstream, hlens, hdecodes⟩ :=
    transmit_markedFrames laws fun frame hframe => (hsent frame hframe).1
  refine ⟨markedFrames raws, hstream, fun chunks hchunks hshort => ?_⟩
  have hstart : InStep false (GroundStationRX.create c).frameSync chunks.flatten raws := by
    have hfree : MarkerFree 3 false [] := fun i hi => absurd hi (by simp)
    rw [hchunks]
    exact InStep.fresh (s := (GroundStationRX.create c).frameSync) rfl rfl (by simp) hfree
      fun raw hraw => (hlens raw hraw).trans hlength
  have hself : Follows (GroundStationRX.create c).frameParser
      ({ format := c.format } : TMFrameParser UInt8) := ⟨rfl, rfl⟩
  rw [receiveAll_eq_processAll, hstart.feedAll_eq false (hstart.throughout_noTrim hshort),
    processAll_packets hdecodes, receive_wires hself fun frame hframe =>
      ⟨(hsent frame hframe).1.sealed, (hsent frame hframe).2⟩]
  simpa using hP

/-! ### Settling -/

/-- Left alone, the loop comes to have nothing left on board. -/
def SpacecraftTX.Settles (t : SpacecraftTX) : Prop :=
  ∃ n, (t.run (replicate n .advance)).2.Settled

/-- With nothing to do but advance, the loop goes on and accepts nothing. -/
theorem transmitter_advances (t : SpacecraftTX) (events : List TXEvent) (n : Nat) :
    (t.run (events ++ replicate n .advance)).2 =
        ((t.run events).2.run (replicate n .advance)).2 ∧
      t.accepted (events ++ replicate n .advance) = t.accepted events := by
  induction events generalizing t with
  | nil =>
      refine ⟨rfl, ?_⟩
      induction n generalizing t with
      | zero => rfl
      | succ n ih => exact ih _
  | cons event events ih =>
      obtain ⟨hrun, haccepted⟩ := ih (t.step event).2
      exact ⟨hrun, congrArg (t.accepts event ++ ·) haccepted⟩

theorem SpacecraftTX.Settles.advance (h : t.advance.2.Settles) : t.Settles := by
  obtain ⟨n, hn⟩ := h
  exact ⟨n + 1, hn⟩

/-- A turn with the queue empty that finds no frame pending is the last that matters. -/
theorem Transmits.putFrame_settled (h : Transmits fmt t sent accepted)
    (hfmt : fmt.CarriesPackets) (hqueue : t.packetQueue = []) (hdata : t.vcMux.hasData = false) :
    t.putFrame.2.Settled := by
  obtain ⟨taken, hair, -⟩ := h.books
  obtain ⟨hflushed, -, hnone, hheld⟩ := hair.flushAll hfmt hdata
  unfold SpacecraftTX.putFrame
  simp only [hdata, Bool.false_eq_true, if_false]
  split
  · exact ⟨hqueue, hnone, hheld⟩
  · simp only [hflushed.getNextFrame_idle hnone]
    exact ⟨hqueue, hnone, hheld⟩

/-- The loop drains the queue; then each turn puts out a pending frame, and the last flushes. -/
theorem Transmits.settles {t : SpacecraftTX} {sent : List (TMFrame UInt8)} {accepted : List Bytes}
    (h : Transmits fmt t sent accepted) (hfmt : fmt.CarriesPackets) (hon : t.transmitting = true) :
    t.Settles := by
  have hnext : Transmits fmt t.advance.2 _ _ := h.step hfmt .advance nofun
  refine .advance ?_
  cases hdraining : t.draining with
  | false =>
      have hturn : t.advance.2 = { t with draining := true } := by
        simp [SpacecraftTX.advance, hdraining, hon]
      rw [hturn] at hnext ⊢
      exact hnext.settles hfmt hon
  | true =>
      cases hqueue : t.packetQueue with
      | cons packet rest =>
          have hturn : t.advance.2 = { t with
              packetQueue := rest, vcMux := t.vcMux.addPacket packet 0 } := by
            simp [SpacecraftTX.advance, hdraining, hqueue]
          rw [hturn] at hnext ⊢
          exact hnext.settles hfmt hon
      | nil =>
          have hturn : t.advance = { t with draining := false }.putFrame := by
            simp [SpacecraftTX.advance, hdraining, hqueue]
          cases hdata : t.vcMux.hasData with
          | false =>
              have hbegun : Transmits fmt { t with draining := false } sent accepted :=
                ⟨h.books, h.queued⟩
              exact ⟨0, hturn ▸ hbegun.putFrame_settled hfmt hqueue hdata⟩
          | true =>
              have hless := getNextFrame_backlog hdata
              rw [hturn] at hnext ⊢
              simp only [SpacecraftTX.putFrame, hdata, if_true] at hnext ⊢
              exact hnext.settles hfmt hon
termination_by (t.packetQueue.length, t.vcMux.backlog, (!t.draining).toNat)
decreasing_by
  all_goals simp_all [Prod.lex_def]

/-! ### Main results -/

theorem Transmits.create (c : AcceptedConfig) :
    Transmits c.format (SpacecraftTX.create c) [] [] :=
  ⟨⟨[], OnAir.fresh _ _ _, rfl⟩, by simp [SpacecraftTX.create]⟩

section Downlink

variable (laws : rs.Laws) (c : AcceptedConfig) (hfmt : c.format.CarriesPackets)
  (hblocks : c.config.rsEnabled = true → rsDataLength ∣ c.config.tmFrameLength)
  {events : List TXEvent} (hevents : ∀ p, .enqueuePacket p ∈ events → WellFormedPacket p)

include laws hfmt hblocks hevents

end Downlink

/-- A ping report, queued while the amplifier is off, and switched on. -/
def pingQueued : List TXEvent :=
  [.enqueuePacket [8, 1, 192, 0, 0, 0, 42], .advance, .setTransmitting true, .advance]

theorem pingQueued_wellFormed (p : Bytes) (hp : .enqueuePacket p ∈ pingQueued) :
    WellFormedPacket p := by
  have hping : p = [8, 1, 192, 0, 0, 0, 42] := by simpa [pingQueued] using hp
  subst hping
  exact .of_cons (by decide) (by decide) (by decide) (by decide)

end Ccsds
