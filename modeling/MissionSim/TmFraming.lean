import Mathlib.Data.List.Forall2
import MissionSim.TmZone

/-!
# The frame builder cuts its packet stream into zones

Refinement of `TMFrameBuilder` by the zone description of `TmZone`.  Between two
calls the channel buffer is the part still due of the packet in progress followed
by whole packets, and the recorded offsets are where those packets start.  Each
round of the drain loop takes one zone off that stream; no packet is lost,
duplicated or reordered between what was added, what the emitted zones complete
and what is still pending.
-/

namespace Ccsds

open Octets Ecss TMFrameBuilder List

variable {α : Type} [Octet α]

/-- Offsets at which consecutive packets start when the first starts at `n`. -/
def startOffsets : Nat → List (List α) → List Nat
  | _, [] => []
  | n, p :: ps => n :: startOffsets (n + p.length) ps

omit [Octet α] in
theorem startOffsets_append (n : Nat) (ps : List (List α)) (p : List α) :
    startOffsets n (ps ++ [p]) = startOffsets n ps ++ [n + ps.flatten.length] := by
  induction ps generalizing n with
  | nil => simp [startOffsets]
  | cons q ps ih => simp [startOffsets, ih, Nat.add_assoc]

omit [Octet α] in
theorem le_of_mem_startOffsets {n m : Nat} {ps : List (List α)}
    (h : m ∈ startOffsets n ps) : n ≤ m := by
  induction ps generalizing n with
  | nil => simp [startOffsets] at h
  | cons p ps ih =>
      rcases mem_cons.mp h with rfl | h
      · exact Nat.le_refl _
      · have := ih h
        omega

omit [Octet α] in
theorem startOffsets_sub (k n : Nat) (ps : List (List α)) :
    (startOffsets (k + n) ps).map (fun off => off - k) = startOffsets n ps := by
  induction ps generalizing n with
  | nil => rfl
  | cons p ps ih =>
      rw [startOffsets, startOffsets, map_cons, Nat.add_assoc k n, ih,
        Nat.add_sub_cancel_left]

omit [Octet α] in
/-- Offsets at or past the bound are all kept. -/
theorem startOffsets_dropWhile {n bound : Nat} (h : bound ≤ n) (ps : List (List α)) :
    (startOffsets n ps).dropWhile (fun off => decide (off < bound)) = startOffsets n ps := by
  cases ps with
  | nil => rfl
  | cons p ps => simp [startOffsets, h]

omit [Octet α] in
/-- The pointer of a chunk whose first packet would start `d` octets into it. -/
theorem chunkHeaderPointer_startOffsets (base d n : Nat) (ps : List (List α)) :
    chunkHeaderPointer (startOffsets (base + d) ps) base (base + n) =
      if ps ≠ [] ∧ d < n then d else firstHeaderPointerIdle := by
  cases ps with
  | nil => simp [startOffsets, chunkHeaderPointer]
  | cons p ps =>
      by_cases hd : d < n
      · simp [startOffsets, chunkHeaderPointer, hd]
      · have hnone : (startOffsets (base + d) (p :: ps)).find?
            (fun off => decide (base ≤ off ∧ off < base + n)) = none := by
          rw [find?_eq_none]
          intro off hoff
          have := le_of_mem_startOffsets hoff
          simp only [decide_eq_true_eq]
          omega
        simp only [chunkHeaderPointer, hnone, hd, and_false, if_false]

variable {queue : List (List α)}

/-- **Carving a zone.**  The first `n` octets of a queue of packets are whole
packets followed by the head of one more, and dropping the packet starts inside
them leaves the starts of the packets after. -/
theorem carve_queue (hq : ∀ p ∈ queue, WellFormedPacket p) {n : Nat} (hn : n ≤ queue.flatten.length)
    (base : Nat) :
    ∃ whole head due rest,
      queue = whole ++ (inProgress head due ++ rest) ∧ OpenOk head due ∧
      (whole.flatten ++ head).length = n ∧
      (startOffsets base queue).dropWhile (fun off => decide (off < base + n)) =
        startOffsets (base + n + due.length) rest := by
  induction queue generalizing n base with
  | nil =>
      have : n = 0 := by simpa using hn
      subst this
      exact ⟨[], [], [], [], by simp [inProgress], Or.inl ⟨rfl, rfl⟩, rfl, rfl⟩
  | cons p queue ih =>
      have hp := hq p mem_cons_self
      have hlong := hp.long
      have hq' : ∀ q ∈ queue, WellFormedPacket q := fun q h => hq q (mem_cons_of_mem _ h)
      by_cases hfit : p.length ≤ n
      · have hn' : n - p.length ≤ queue.flatten.length := by
          simp only [flatten_cons, length_append] at hn
          omega
        obtain ⟨whole, head, due, rest, hsplit, hopen, hlen, hdrop⟩ :=
          ih hq' hn' (base + p.length)
        refine ⟨p :: whole, head, due, rest, by simp [hsplit], hopen, ?_, ?_⟩
        · simp only [flatten_cons, length_append] at hlen ⊢
          omega
        · have hbound : base + p.length + (n - p.length) = base + n := by omega
          rw [hbound] at hdrop
          rw [startOffsets, dropWhile_cons_of_pos (by simp; omega), hdrop]
      · by_cases hzero : n = 0
        · subst hzero
          refine ⟨[], [], [], p :: queue, by simp [inProgress], Or.inl ⟨rfl, rfl⟩, rfl, ?_⟩
          simpa using startOffsets_dropWhile (Nat.le_refl base) (p :: queue)
        · have htake : p.take n ++ p.drop n = p := take_append_drop n p
          have hhead : p.take n ≠ [] := by
            intro h
            have := congrArg length h
            simp only [length_take, length_nil] at this
            omega
          have hdue : p.drop n ≠ [] := by
            intro h
            have := congrArg length h
            simp only [length_drop, length_nil] at this
            omega
          refine ⟨[], p.take n, p.drop n, queue, ?_, Or.inr ⟨hhead, hdue, by rwa [htake]⟩, ?_, ?_⟩
          · simp [inProgress, htake, hp.ne_nil]
          · simp only [flatten_nil, nil_append, length_take]
            omega
          · have hnext : base + n + (p.drop n).length = base + p.length := by
              simp only [length_drop]
              omega
            rw [startOffsets, dropWhile_cons_of_pos (by simp; omega), hnext,
              startOffsets_dropWhile (by omega)]

/-! ### Frames of a channel -/

/-- The error control field is the one the format calls for, and the frame belongs
to channel `vcid`. -/
def TMFrame.SealedFor (fmt : FrameFormat) (vcid : Nat) (frame : TMFrame α) : Prop :=
  frame.header.vcid = vcid ∧
  frame.fecf = if fmt.fecfPresent then
    some (crc16Ccitt (frame.header.pack ++ bytesOf frame.data)) else none

theorem buildFrame_sealed (b : TMFrameBuilder α) (vcid : Nat) (zone : List α) (fhp : Nat) :
    (b.buildFrame vcid zone fhp).1.SealedFor b.format vcid := by
  simp [buildFrame, TMFrame.SealedFor]

/-- Frames that take a channel from one pending state to another: they carry the
zones `zs`, which complete the packets `done`. -/
structure Frames (fmt : FrameFormat) (vcid : Nat) (frames : List (TMFrame α))
    (sent due : List α) (zs : List (Zone α)) (done : List (List α))
    (sent' due' : List α) : Prop where
  carried : CarriedBy frames zs
  run : ZoneRun fmt.dataZoneLength sent due zs done sent' due'
  sealed : ∀ frame ∈ frames, frame.SealedFor fmt vcid

theorem Frames.nil (fmt : FrameFormat) (vcid : Nat) (sent due : List α) :
    Frames fmt vcid [] sent due [] [] sent due :=
  ⟨List.Forall₂.nil, ZoneRun.nil sent due, by simp⟩

variable {vcid : Nat}

theorem Frames.append {fmt : FrameFormat} {fs gs : List (TMFrame α)} {s d s₁ d₁ s₂ d₂ : List α}
    {zs ws : List (Zone α)} {ps qs : List (List α)} (h : Frames fmt vcid fs s d zs ps s₁ d₁)
    (h' : Frames fmt vcid gs s₁ d₁ ws qs s₂ d₂) :
    Frames fmt vcid (fs ++ gs) s d (zs ++ ws) (ps ++ qs) s₂ d₂ := by
  refine ⟨rel_append h.carried h'.carried, h.run.append h'.run, ?_⟩
  intro frame hmem
  rcases mem_append.mp hmem with hmem | hmem
  · exact h.sealed frame hmem
  · exact h'.sealed frame hmem

/-- Contents of a channel of the builder, with `base` octets of its buffer already
framed: the part due of the packet in progress, then whole packets, each start
recorded. -/
structure Buffered (b : TMFrameBuilder α) (vcid base : Nat) (sent due : List α)
    (queue : List (List α)) : Prop where
  openOk : OpenOk sent due
  queueOk : ∀ p ∈ queue, WellFormedPacket p
  buffer : b.vcBuffers vcid = due ++ queue.flatten
  offsets : b.pktOffsets vcid = startOffsets (base + due.length) queue

/-- A fresh builder has nothing pending. -/
theorem Buffered.fresh (scid vcid : Nat) (fmt : FrameFormat) :
    Buffered ({ scid := scid, format := fmt } : TMFrameBuilder α) vcid 0 [] [] [] :=
  ⟨Or.inl ⟨rfl, rfl⟩, by simp, rfl, rfl⟩

/-- What one round of the drain loop takes off the stream. -/
theorem zone_off_stream {dz : Nat} (hdz : 0 < dz) {sent due : List α}
    {queue : List (List α)} (hopen : OpenOk sent due)
    (hq : ∀ p ∈ queue, WellFormedPacket p) (hlen : dz ≤ (due ++ queue.flatten).length)
    (base : Nat) :
    ∃ z done sent' due' queue',
      ZoneStep dz sent due z done sent' due' ∧ OpenOk sent' due' ∧
      (∀ p ∈ queue', WellFormedPacket p) ∧
      z.pad = [] ∧ z.data = (due ++ queue.flatten).take dz ∧
      z.pointer = chunkHeaderPointer (startOffsets (base + due.length) queue) base (base + dz) ∧
      (due ++ queue.flatten).drop dz = due' ++ queue'.flatten ∧
      (startOffsets (base + due.length) queue).dropWhile
          (fun off => decide (off < base + dz)) =
        startOffsets (base + dz + due'.length) queue' ∧
      inProgress sent due ++ queue = done ++ (inProgress sent' due' ++ queue') := by
  by_cases hinside : dz < due.length
  · -- the zone lies inside the packet in progress
    have hcut : due.take dz ++ due.drop dz = due := take_append_drop dz due
    have hrest : due.drop dz ≠ [] := by
      intro h
      have := congrArg length h
      simp only [length_drop, length_nil] at this
      omega
    have hwf : WellFormedPacket (sent ++ due) := by
      rcases hopen with ⟨_, rfl⟩ | ⟨_, _, hwf⟩
      · simp at hinside
      · exact hwf
    refine ⟨{ cont := due.take dz }, [], sent ++ due.take dz, due.drop dz, queue,
      ?_, ?_, hq, rfl, ?_, ?_, ?_, ?_, ?_⟩
    · have hstep : ZoneStep dz sent (due.take dz ++ due.drop dz) { cont := due.take dz } []
          (sent ++ due.take dz) (due.drop dz) := ZoneStep.through (by rwa [hcut]) (by simp; omega) hdz hrest
      rwa [hcut] at hstep
    · refine Or.inr ⟨?_, hrest, by rwa [append_assoc, hcut]⟩
      rcases hopen with ⟨_, rfl⟩ | ⟨hs, _, _⟩
      · simp at hinside
      · simp [hs]
    · simp [Zone.data, take_append_of_le_length hinside.le]
    · rw [chunkHeaderPointer_startOffsets]
      simp [Zone.pointer, Nat.not_lt.mpr hinside.le]
    · rw [drop_append_of_le_length hinside.le]
    · have hbase : base + dz + (due.drop dz).length = base + due.length := by
        simp only [length_drop]
        omega
      rw [startOffsets_dropWhile (by omega), hbase]
    · simp [inProgress]
  · -- the packet in progress ends here; packets of the queue fill the zone
    have hn : dz - due.length ≤ queue.flatten.length := by
      simp only [length_append] at hlen
      omega
    obtain ⟨whole, head, due', rest, hsplit, hopen', hwl, hdrop⟩ :=
      carve_queue hq hn (base + due.length)
    have hbound : base + due.length + (dz - due.length) = base + dz := by omega
    have hflat : queue.flatten = whole.flatten ++ head ++ (due' ++ rest.flatten) := by
      rw [hsplit]
      simp [inProgress_flatten]
    have hzone : (due ++ (whole.flatten ++ head)).length = dz := by
      simp only [length_append] at hwl ⊢
      omega
    have hwhole : ∀ p ∈ whole, WellFormedPacket p := fun p hp => hq p (by simp [hsplit, hp])
    have hstream : due ++ queue.flatten =
        (due ++ (whole.flatten ++ head)) ++ (due' ++ rest.flatten) := by
      simp [hflat]
    refine ⟨{ cont := due, whole := whole, head := head }, inProgress sent due ++ whole,
      head, due', rest, ?_, hopen', fun p hp => hq p (by simp [hsplit, hp]), rfl,
      ?_, ?_, ?_, ?_, ?_⟩
    · refine ZoneStep.finish hopen hwhole hopen' (by simp) (by simp) ?_ ?_
      · simpa [Zone.data] using hzone
      · by_contra hno
        push Not at hno
        simp [hno.1, hno.2.1, hno.2.2] at hzone
        omega
    · rw [hstream, ← hzone, take_left']
      · simp [Zone.data]
      · rfl
    · rw [chunkHeaderPointer_startOffsets]
      by_cases hstarts : whole = [] ∧ head = []
      · obtain ⟨rfl, rfl⟩ := hstarts
        have : ¬ due.length < dz := by
          simp only [flatten_nil, append_nil] at hzone
          omega
        simp [Zone.pointer, this]
      · have hlt : due.length < dz := by
          refine Zone.cont_lt (z := { cont := due, whole := whole, head := head })
            (by simpa [Zone.data] using hzone) hwhole hstarts
        have hne : queue ≠ [] := by
          rintro rfl
          simp only [flatten_nil, length_nil] at hn
          omega
        simp [Zone.pointer, hstarts, hlt, hne]
    · rw [hstream, ← hzone, drop_left']
      rfl
    · rw [← hbound]
      exact hdrop
    · rw [hsplit]
      simp

/-- The fields of a frame the builder assembles. -/
@[simp] theorem buildFrame_data (b : TMFrameBuilder α) (vcid : Nat) (zone : List α) (fhp : Nat) :
    (b.buildFrame vcid zone fhp).1.data = zone := rfl

@[simp] theorem buildFrame_pointer (b : TMFrameBuilder α) (vcid : Nat) (zone : List α)
    (fhp : Nat) : (b.buildFrame vcid zone fhp).1.header.firstHeaderPointer = fhp := rfl

/-- Assembling a frame only advances counters. -/
@[simp] theorem buildFrame_format (b : TMFrameBuilder α) (vcid : Nat) (zone : List α)
    (fhp : Nat) : (b.buildFrame vcid zone fhp).2.format = b.format := rfl

@[simp] theorem buildFrame_buffers (b : TMFrameBuilder α) (vcid : Nat) (zone : List α)
    (fhp : Nat) : (b.buildFrame vcid zone fhp).2.vcBuffers = b.vcBuffers := rfl

@[simp] theorem buildFrame_offsets (b : TMFrameBuilder α) (vcid : Nat) (zone : List α)
    (fhp : Nat) : (b.buildFrame vcid zone fhp).2.pktOffsets = b.pktOffsets := rfl

/-- What a call of the builder does to a channel: it emits frames that carry the
packet stream on from `(sent, due)` to `(sent', due')`, and every packet that was
in progress or queued is completed, in progress or queued afterwards, in order. -/
structure Emits (b : TMFrameBuilder α) (vcid : Nat) (sent due : List α)
    (queue : List (List α)) (frames : List (TMFrame α)) (zs : List (Zone α))
    (done : List (List α)) (b' : TMFrameBuilder α) (sent' due' : List α)
    (queue' : List (List α)) : Prop where
  format : b'.format = b.format
  frames : Frames b.format vcid frames sent due zs done sent' due'
  conserved : inProgress sent due ++ queue = done ++ (inProgress sent' due' ++ queue')

variable {b : TMFrameBuilder α} {sent due : List α}

/-- **The drain loop.**  It cuts zones off the stream until less than one is left. -/
theorem drainLoop_emits {vcid base : Nat} (h : Buffered b vcid base sent due queue) {fuel : Nat}
    (hfuel : (b.vcBuffers vcid).length ≤ fuel) :
    ∃ zs done sent' due' queue',
      Emits b vcid sent due queue (b.drainLoop fuel vcid base).1 zs done
        (b.drainLoop fuel vcid base).2.1 sent' due' queue' ∧
      Buffered (b.drainLoop fuel vcid base).2.1 vcid (b.drainLoop fuel vcid base).2.2
        sent' due' queue' ∧
      ((b.drainLoop fuel vcid base).2.1.vcBuffers vcid).length < b.format.dataZoneLength ∧
      ∀ z ∈ zs, z.pad = [] := by
  induction fuel generalizing b base sent due queue with
  | zero =>
      refine ⟨[], [], sent, due, queue,
        ⟨rfl, Frames.nil _ _ _ _, by simp⟩, h, ?_, by simp⟩
      have := b.format.dataZoneLength_pos
      simp only [drainLoop]
      omega
  | succ fuel ih =>
      have hpos := b.format.dataZoneLength_pos
      unfold drainLoop
      by_cases hlen : b.format.dataZoneLength ≤ (b.vcBuffers vcid).length
      · simp only [if_pos hlen]
        rw [h.buffer] at hlen
        obtain ⟨z, done, sent₁, due₁, queue₁, hstep, hopen₁, hqueue₁, hpad, hdata, hptr, hrest,
          hoff, hcons⟩ := zone_off_stream hpos h.openOk h.queueOk hlen base
        -- the builder with the chunk popped and its frame assembled
        generalize hchunk : (b.vcBuffers vcid).take b.format.dataZoneLength = chunk
        generalize hfhp : chunkHeaderPointer (b.pktOffsets vcid) base
          (base + b.format.dataZoneLength) = fhp
        generalize hpopped : b.popZone vcid (base + b.format.dataZoneLength) = popped
        have hfmt : popped.format = b.format := by
          rw [← hpopped]
          rfl
        have hbuf : popped.vcBuffers vcid = due₁ ++ queue₁.flatten := by
          rw [← hpopped, ← hrest, ← h.buffer]
          simp [popZone]
        have hstarts : popped.pktOffsets vcid =
            startOffsets (base + b.format.dataZoneLength + due₁.length) queue₁ := by
          rw [← hpopped, ← hoff, ← h.offsets]
          simp [popZone]
        have hbuffered : Buffered (popped.buildFrame vcid chunk fhp).2 vcid
            (base + b.format.dataZoneLength) sent₁ due₁ queue₁ :=
          ⟨hopen₁, hqueue₁, hbuf, hstarts⟩
        have hfuel₁ : ((popped.buildFrame vcid chunk fhp).2.vcBuffers vcid).length ≤ fuel := by
          rw [buildFrame_buffers, hbuf, ← hrest, length_drop, ← h.buffer]
          omega
        obtain ⟨zs, dones, sent', due', queue', hemits, hbuf', hless, hfull⟩ := ih hbuffered hfuel₁
        have hframe : (popped.buildFrame vcid chunk fhp).1.Carries z := by
          refine ⟨?_, ?_⟩
          · rw [buildFrame_data, hdata, ← hchunk, h.buffer]
          · rw [buildFrame_pointer, hptr, ← hfhp, h.offsets]
        refine ⟨z :: zs, done ++ dones, sent', due', queue', ⟨?_, ⟨?_, ?_, ?_⟩, ?_⟩, hbuf', ?_,
          forall_mem_cons.mpr ⟨hpad, hfull⟩⟩
        · simpa [hfmt] using hemits.format
        · exact List.Forall₂.cons hframe hemits.frames.carried
        · have hrun := hemits.frames.run
          rw [buildFrame_format, hfmt] at hrun
          exact ZoneRun.cons hstep hrun
        · intro frame hmem
          rcases mem_cons.mp hmem with rfl | hmem
          · have := buildFrame_sealed popped vcid chunk fhp
            rwa [hfmt] at this
          · have := hemits.frames.sealed frame hmem
            rwa [buildFrame_format, hfmt] at this
        · rw [hcons, hemits.conserved, append_assoc]
        · simpa [hfmt] using hless
      · simp only [if_neg hlen]
        exact ⟨[], [], sent, due, queue, ⟨rfl, Frames.nil _ _ _ _, by simp⟩, h, by omega,
          by simp⟩

/-- After the loop the offsets are taken relative to what is left. -/
theorem drainFrames_emits (h : Buffered b vcid 0 sent due queue) :
    ∃ zs done sent' due' queue',
      Emits b vcid sent due queue (b.drainFrames vcid).1 zs done
        (b.drainFrames vcid).2 sent' due' queue' ∧
      Buffered (b.drainFrames vcid).2 vcid 0 sent' due' queue' ∧
      ((b.drainFrames vcid).2.vcBuffers vcid).length < b.format.dataZoneLength ∧
      ∀ z ∈ zs, z.pad = [] := by
  obtain ⟨zs, done, sent', due', queue', hemits, hbuf, hless, hfull⟩ :=
    drainLoop_emits h (Nat.le_refl _)
  refine ⟨zs, done, sent', due', queue', ⟨hemits.format, hemits.frames, hemits.conserved⟩,
    ⟨hbuf.openOk, hbuf.queueOk, hbuf.buffer, ?_⟩, hless, hfull⟩
  simp only [drainFrames, Function.update_self, hbuf.offsets, startOffsets_sub,
    Nat.zero_add]

/-- Adding a packet queues it and emits the zones that are then full. -/
theorem addPacket_emits {sent due packet : List α} (h : Buffered b vcid 0 sent due queue)
    (hp : WellFormedPacket packet) :
    ∃ zs done sent' due' queue',
      Emits b vcid sent due (queue ++ [packet]) (b.addPacket packet vcid).1 zs done
        (b.addPacket packet vcid).2 sent' due' queue' ∧
      Buffered (b.addPacket packet vcid).2 vcid 0 sent' due' queue' ∧
      ((b.addPacket packet vcid).2.vcBuffers vcid).length < b.format.dataZoneLength ∧
      ∀ z ∈ zs, z.pad = [] := by
  have hrec : Buffered ({ b with
      pktOffsets := Function.update b.pktOffsets vcid
        (b.pktOffsets vcid ++ [(b.vcBuffers vcid).length])
      vcBuffers := Function.update b.vcBuffers vcid (b.vcBuffers vcid ++ packet) } :
        TMFrameBuilder α)
      vcid 0 sent due (queue ++ [packet]) := by
    refine ⟨h.openOk, ?_, ?_, ?_⟩
    · intro q hq
      rcases mem_append.mp hq with hq | hq
      · exact h.queueOk q hq
      · rwa [mem_singleton.mp hq]
    · simp [h.buffer]
    · simp [h.buffer, h.offsets, startOffsets_append]
  obtain ⟨zs, done, sent', due', queue', hemits, hbuf, hless, hfull⟩ := drainFrames_emits hrec
  exact ⟨zs, done, sent', due', queue', ⟨hemits.format, hemits.frames, hemits.conserved⟩, hbuf,
    hless, hfull⟩

/-- Nothing is pending once a channel is cleared. -/
theorem clearChannel_buffered (b : TMFrameBuilder α) (vcid : Nat) :
    Buffered (b.clearChannel vcid) vcid 0 [] [] [] :=
  ⟨Or.inl ⟨rfl, rfl⟩, by simp, by simp [clearChannel],
    by simp [clearChannel, startOffsets]⟩

/-- The pending octets, padded to a zone, are a zone that leaves nothing pending. -/
theorem zone_of_pending {dz : Nat} (hopen : OpenOk sent due) (hq : ∀ p ∈ queue, WellFormedPacket p)
    (hne : due ++ queue.flatten ≠ []) (hlen : (due ++ queue.flatten).length < dz) :
    ∃ z : Zone α, ZoneStep dz sent due z (inProgress sent due ++ queue) [] [] ∧
      z.data = due ++ queue.flatten ++
        replicate (dz - (due ++ queue.flatten).length) Octet.idle ∧
      z.pointer = chunkHeaderPointer (startOffsets due.length queue) 0
        (due ++ queue.flatten).length := by
  refine ⟨{
      cont := due
      whole := queue
      head := []
      pad := replicate (dz - (due ++ queue.flatten).length) Octet.idle },
    ZoneStep.finish hopen hq (Or.inl ⟨rfl, rfl⟩) ?_ (fun _ => rfl) ?_ ?_, ?_, ?_⟩
  · intro x hx
    exact eq_of_mem_replicate hx
  · simp only [Zone.data, length_append, length_replicate, length_nil] at hlen ⊢
    omega
  · by_contra hno
    push Not at hno
    simp [hno.1, hno.2.1] at hne
  · simp [Zone.data]
  · have hptr := chunkHeaderPointer_startOffsets 0 due.length (due ++ queue.flatten).length queue
    rw [Nat.zero_add, Nat.zero_add] at hptr
    rw [hptr]
    cases queue with
    | nil => simp [Zone.pointer]
    | cons q queue =>
        have := (hq q mem_cons_self).long
        have hlt : due.length < (due ++ (q :: queue).flatten).length := by
          simp only [flatten_cons, length_append]
          omega
        simp only [Zone.pointer, reduceCtorEq, false_and, if_false, ne_eq, not_false_eq_true,
          true_and, if_pos hlt]

/-- Flushing emits everything pending and leaves the channel empty. -/
theorem flush_emits (h : Buffered b vcid 0 sent due queue) :
    ∃ zs, Emits b vcid sent due queue (b.flush vcid).1 zs (inProgress sent due ++ queue)
        (b.flush vcid).2 [] [] [] ∧
      Buffered (b.flush vcid).2 vcid 0 [] [] [] := by
  unfold flush
  by_cases hempty : (b.vcBuffers vcid).isEmpty
  · rw [if_pos hempty]
    have hnil : due = [] ∧ queue.flatten = [] := by
      rw [List.isEmpty_iff, h.buffer] at hempty
      simpa using hempty
    obtain ⟨rfl, hflat⟩ := hnil
    have hsent := h.openOk.sent_nil
    have hqueue : queue = [] := by
      cases queue with
      | nil => rfl
      | cons q queue =>
          have := (h.queueOk q mem_cons_self).ne_nil
          simp [this] at hflat
    subst hsent hqueue
    exact ⟨[], ⟨rfl, by simpa [inProgress] using Frames.nil _ _ _ _, by simp [inProgress_nil]⟩,
      clearChannel_buffered b vcid⟩
  · rw [if_neg hempty]
    obtain ⟨zs, done, sent', due', queue', hemits, hbuf, hless, _⟩ := drainFrames_emits h
    by_cases hrem : ((b.drainFrames vcid).2.vcBuffers vcid).isEmpty
    · simp only [if_pos hrem]
      have hnil : due' = [] ∧ queue'.flatten = [] := by
        rw [List.isEmpty_iff, hbuf.buffer] at hrem
        simpa using hrem
      obtain ⟨rfl, hflat⟩ := hnil
      have hsent := hbuf.openOk.sent_nil
      have hqueue : queue' = [] := by
        cases queue' with
        | nil => rfl
        | cons q queue' =>
            have := (hbuf.queueOk q mem_cons_self).ne_nil
            simp [this] at hflat
      subst hsent hqueue
      have hdone : inProgress sent due ++ queue = done := by
        simpa [inProgress] using hemits.conserved
      rw [hdone]
      exact ⟨zs, ⟨hemits.format, hemits.frames, by simpa using hdone⟩,
        clearChannel_buffered _ vcid⟩
    · simp only [if_neg hrem]
      have hne : due' ++ queue'.flatten ≠ [] := by
        rw [← hbuf.buffer]
        simpa using hrem
      rw [hbuf.buffer] at hless
      obtain ⟨z, hstep, hdata, hptr⟩ := zone_of_pending hbuf.openOk hbuf.queueOk hne hless
      have hlast : Frames b.format vcid
          [(((b.drainFrames vcid).2.clearChannel vcid).buildFrame vcid
            ((b.drainFrames vcid).2.vcBuffers vcid ++
              replicate (b.format.dataZoneLength -
                ((b.drainFrames vcid).2.vcBuffers vcid).length) Octet.idle)
            (chunkHeaderPointer ((b.drainFrames vcid).2.pktOffsets vcid) 0
              ((b.drainFrames vcid).2.vcBuffers vcid).length)).1]
          sent' due' [z] (inProgress sent' due' ++ queue') [] [] := by
        refine ⟨List.Forall₂.cons ⟨?_, ?_⟩ List.Forall₂.nil, ?_, ?_⟩
        · rw [buildFrame_data, hdata, hbuf.buffer]
        · rw [buildFrame_pointer, hptr, hbuf.buffer, hbuf.offsets, Nat.zero_add]
        · simpa using ZoneRun.cons hstep (ZoneRun.nil [] [])
        · intro frame hmem
          rw [mem_singleton.mp hmem, ← hemits.format]
          exact buildFrame_sealed _ vcid _ _
      refine ⟨zs ++ [z], ⟨?_, ?_, ?_⟩, ?_⟩
      · simpa [clearChannel] using hemits.format
      · rw [hemits.conserved]
        exact hemits.frames.append hlast
      · simp [inProgress]
      · have := clearChannel_buffered (b.drainFrames vcid).2 vcid
        exact ⟨this.openOk, this.queueOk, this.buffer, this.offsets⟩

/-! ### Frame counts -/

/-- The loop takes every whole zone and leaves the remainder. -/
theorem drainLoop_length {fuel : Nat} (b : TMFrameBuilder α) (vcid consumed : Nat)
    (hfuel : (b.vcBuffers vcid).length ≤ fuel) :
    (b.drainLoop fuel vcid consumed).1.length =
        (b.vcBuffers vcid).length / b.format.dataZoneLength ∧
      ((b.drainLoop fuel vcid consumed).2.1.vcBuffers vcid).length =
        (b.vcBuffers vcid).length % b.format.dataZoneLength := by
  have hpos := b.format.dataZoneLength_pos
  induction fuel generalizing b consumed with
  | zero =>
      have hempty : (b.vcBuffers vcid).length = 0 := by omega
      simp [drainLoop, hempty]
  | succ fuel ih =>
      unfold drainLoop
      by_cases hlen : b.format.dataZoneLength ≤ (b.vcBuffers vcid).length
      · simp only [if_pos hlen]
        generalize hbuilt : ((b.popZone vcid (consumed + b.format.dataZoneLength)).buildFrame vcid
          _ _).2 = next
        have hfmt : next.format = b.format := by
          rw [← hbuilt]
          rfl
        have hbuf : (next.vcBuffers vcid).length =
            (b.vcBuffers vcid).length - b.format.dataZoneLength := by
          rw [← hbuilt]
          simp [popZone]
        have hrest := ih next (consumed + b.format.dataZoneLength)
          (by omega) (by rw [hfmt]; exact hpos)
        rw [hfmt, hbuf] at hrest
        refine ⟨?_, ?_⟩
        · rw [length_cons, hrest.1, Nat.div_eq_sub_div hpos hlen]
        · rw [hrest.2, ← Nat.mod_eq_sub_mod hlen]
      · simp only [if_neg hlen]
        rw [Nat.div_eq_of_lt (by omega), Nat.mod_eq_of_lt (by omega)]
        exact ⟨rfl, rfl⟩

/-- Framing never changes the link format. -/
theorem drainLoop_format (fuel : Nat) (b : TMFrameBuilder α) (vcid consumed : Nat) :
    (b.drainLoop fuel vcid consumed).2.1.format = b.format := by
  induction fuel generalizing b consumed with
  | zero => rfl
  | succ fuel ih =>
      simp only [drainLoop]
      split
      · rw [ih]
        rfl
      · rfl

theorem drainFrames_format (b : TMFrameBuilder α) (vcid : Nat) :
    (b.drainFrames vcid).2.format = b.format :=
  drainLoop_format _ b vcid 0

theorem addPacket_format (b : TMFrameBuilder α) (packet : List α) (vcid : Nat) :
    (b.addPacket packet vcid).2.format = b.format :=
  drainFrames_format _ vcid

theorem flush_format (b : TMFrameBuilder α) (vcid : Nat) :
    (b.flush vcid).2.format = b.format := by
  unfold flush
  dsimp only
  split
  · rfl
  · split
    · exact drainFrames_format b vcid
    · exact drainFrames_format b vcid

/-- A packet completes as many frames as whole zones are then buffered. -/
theorem addPacket_length (b : TMFrameBuilder α) (packet : List α) (vcid : Nat) :
    (b.addPacket packet vcid).1.length =
        ((b.vcBuffers vcid).length + packet.length) / b.format.dataZoneLength ∧
      ((b.addPacket packet vcid).2.vcBuffers vcid).length =
        ((b.vcBuffers vcid).length + packet.length) % b.format.dataZoneLength := by
  have h := drainLoop_length { b with
      pktOffsets := Function.update b.pktOffsets vcid
        (b.pktOffsets vcid ++ [(b.vcBuffers vcid).length])
      vcBuffers := Function.update b.vcBuffers vcid (b.vcBuffers vcid ++ packet) }
    vcid 0 (Nat.le_refl _)
  simpa [addPacket, drainFrames] using h

/-- With less than a zone buffered a flush emits one frame, or none if there is
nothing to flush. -/
theorem flush_length (h : (b.vcBuffers vcid).length < b.format.dataZoneLength) :
    (b.flush vcid).1.length = if (b.vcBuffers vcid).length = 0 then 0 else 1 := by
  have hdrain := drainLoop_length b vcid 0 (Nat.le_refl _)
  rw [Nat.div_eq_of_lt h, Nat.mod_eq_of_lt h] at hdrain
  unfold flush
  by_cases hempty : (b.vcBuffers vcid).length = 0
  · have : (b.vcBuffers vcid).isEmpty := by simpa using hempty
    simp [this, hempty]
  · have hne : (b.vcBuffers vcid).isEmpty = false := by
      simpa [isEmpty_eq_false_iff] using hempty
    have hrem : ((b.drainFrames vcid).2.vcBuffers vcid).isEmpty = false := by
      rw [isEmpty_eq_false_iff, ne_eq, ← length_eq_zero_iff]
      simp only [drainFrames, hdrain.2]
      exact hempty
    simp only [hne, hrem, hempty, Bool.false_eq_true, if_false, length_append,
      length_singleton]
    simp only [drainFrames, hdrain.1]

end Ccsds
