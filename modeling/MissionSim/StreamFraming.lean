import MissionSim.Octets
import MissionSim.Python
import MissionSim.Streaming

/-!
# Length-prefixed packets on a byte stream

Between the parts of the ground segment packets travel over byte streams, each behind a
two-octet big-endian length.  A stream arrives in chunks cut anywhere.  The
incremental deframer takes the complete packets off the front of its buffer and
keeps the rest; a length of zero is no frame, and it drops one octet to
resynchronise.

Where the chunks are cut never matters.  The packets come out as they went in
exactly when none of them is empty: the writer lets an empty packet pass, and the
reader takes its length for garbage.
-/

namespace Transport

open Octets Python Streaming

def frameHeaderSize : Nat := 2

def maxPacketSize : Nat := 65535

/-- Wrap a packet with its length. -/
def framePacket (packet : Bytes) : Except PyError Bytes :=
  let length := packet.length
  if maxPacketSize < length then .error .valueError else .ok (packU16 length ++ packet)

/-- Take the complete packets off the front of a buffer: the packets, and the buffer
as it is left. -/
def deframeSync (buffer : Bytes) : List Bytes × Bytes :=
  if frameHeaderSize ≤ buffer.length then
    let length := unpackU16 buffer
    if length = 0 ∨ maxPacketSize < length then
      -- no frame: skip one octet and try to resynchronise
      deframeSync (buffer.drop 1)
    else
      let total := frameHeaderSize + length
      if buffer.length < total then ([], buffer)
      else
        let later := deframeSync (buffer.drop total)
        (slice buffer frameHeaderSize total :: later.1, later.2)
  else ([], buffer)
termination_by buffer.length
decreasing_by all_goals simp only [List.length_drop, frameHeaderSize] at *; omega

/-- A connection: the octets received so far that are in no packet yet, and the next
chunk. -/
def receive (buffer chunk : Bytes) : List Bytes × Bytes := deframeSync (buffer ++ chunk)

/-! ### One turn of the loop -/

/-- What one turn of the loop takes off the front: nothing when it leaves the loop, one
octet or one packet otherwise. -/
def nextFrame (buffer : Bytes) : Option (List Bytes × Bytes) :=
  let length := unpackU16 buffer
  let total := frameHeaderSize + length
  if buffer.length < frameHeaderSize then none
  else if length = 0 then some ([], buffer.drop 1)
  else if buffer.length < total then none
  else some ([slice buffer frameHeaderSize total], buffer.drop total)

theorem length_not_above (buffer : Bytes) : ¬ maxPacketSize < unpackU16 buffer := by
  have := unpackU16_lt buffer
  unfold maxPacketSize
  omega

theorem deframeSync_of_none {buffer : Bytes} (h : nextFrame buffer = none) :
    deframeSync buffer = ([], buffer) := by
  have := length_not_above buffer
  rw [deframeSync]
  grind [nextFrame]

theorem deframeSync_of_some {buffer rest : Bytes} {out : List Bytes}
    (h : nextFrame buffer = some (out, rest)) :
    deframeSync buffer = (out ++ (deframeSync rest).1, (deframeSync rest).2) := by
  have := length_not_above buffer
  rw [deframeSync]
  grind [nextFrame]

theorem nextFrame_shorter {buffer rest : Bytes} {out : List Bytes}
    (h : nextFrame buffer = some (out, rest)) : rest.length < buffer.length := by
  grind [nextFrame, frameHeaderSize]

theorem nextFrame_looksAhead : LooksAhead nextFrame := by
  intro buffer out rest more h
  have hheader : 2 ≤ buffer.length := by grind [nextFrame, frameHeaderSize]
  have hlength := unpackU16_append more hheader
  grind [nextFrame, frameHeaderSize, slice_append]

/-- The loop takes off the front whatever its turns find. -/
theorem deframeSync_drains (buffer : Bytes) :
    Drains nextFrame buffer (deframeSync buffer).1 (deframeSync buffer).2 := by
  induction hn : buffer.length using Nat.strongRecOn generalizing buffer with
  | _ n ih =>
      cases hnext : nextFrame buffer with
      | none =>
          rw [deframeSync_of_none hnext]
          exact Drains.stop hnext
      | some found =>
          obtain ⟨out, rest⟩ := found
          have hshorter := nextFrame_shorter hnext
          rw [deframeSync_of_some hnext]
          exact Drains.more hnext (ih rest.length (by omega) rest rfl)

/-! ### Chunks -/

/-- Feeding a stream in chunks returns the packets of the whole stream. -/
theorem receive_all (chunks : List Bytes) :
    feedAll receive [] chunks = (deframeSync chunks.flatten).1 :=
  feedAll_drains nextFrame_looksAhead
    (fun buffer chunk => deframeSync_drains (buffer ++ chunk)) rfl
    (deframeSync_drains chunks.flatten)

/-! ### Frames -/

theorem framePacket_eq_ok {packet frame : Bytes} :
    framePacket packet = .ok frame ↔
      packet.length ≤ maxPacketSize ∧ frame = packU16 packet.length ++ packet := by
  unfold framePacket
  grind

/-- A frame of a packet that is not empty is taken off whole. -/
theorem nextFrame_frame {packet frame : Bytes} (hframe : framePacket packet = .ok frame)
    (hpacket : packet ≠ []) (rest : Bytes) :
    nextFrame (frame ++ rest) = some ([packet], rest) := by
  obtain ⟨hfits, rfl⟩ := framePacket_eq_ok.mp hframe
  have hlength : unpackU16 (packU16 packet.length ++ (packet ++ rest)) = packet.length := by
    rw [unpackU16_packU16_append]
    unfold maxPacketSize at hfits
    omega
  have hslice : slice (packU16 packet.length ++ (packet ++ rest)) 2 (2 + packet.length) =
      packet := by
    rw [slice, List.drop_take]
    simp [drop_packU16]
  have hdrop : (packU16 packet.length ++ (packet ++ rest)).drop (2 + packet.length) = rest := by
    rw [Nat.add_comm, drop_packU16]
    simp
  rw [List.append_assoc, nextFrame, hlength]
  simp only [frameHeaderSize, hslice, hdrop, List.length_append, packU16_length]
  grind

/-- The frames of packets none of which is empty are taken off one by one. -/
theorem frames_drain {packets frames : List Bytes} (hframes : packets.mapM framePacket = .ok frames)
    (hne : ∀ packet ∈ packets, packet ≠ []) :
    Drains nextFrame frames.flatten packets [] := by
  induction packets generalizing frames with
  | nil =>
      cases hframes
      exact Drains.stop rfl
  | cons packet packets ih =>
      rw [List.mapM_cons] at hframes
      obtain ⟨frame, hframe, hrest⟩ := bind_eq_ok.mp hframes
      obtain ⟨later, hlater, hpure⟩ := bind_eq_ok.mp hrest
      cases hpure
      have htail := ih hlater fun p hp => hne p (List.mem_cons_of_mem _ hp)
      have hhead := nextFrame_frame hframe (hne packet List.mem_cons_self) later.flatten
      exact Drains.more hhead htail

/-- No packet that is delivered is empty. -/
theorem drains_nonempty {buffer left : Bytes} {packets : List Bytes}
    (h : Drains nextFrame buffer packets left) : ∀ packet ∈ packets, packet ≠ [] := by
  induction h with
  | stop _ => intro packet hmem; cases hmem
  | @more buffer rest left out outs hnext _ ih =>
      intro packet hmem
      obtain hmem | hmem := List.mem_append.mp hmem
      · have hlen : packet.length = unpackU16 buffer ∧ unpackU16 buffer ≠ 0 := by
          grind [nextFrame, slice, frameHeaderSize]
        intro hnil
        rw [hnil] at hlen
        exact hlen.2 hlen.1.symm
      · exact ih packet hmem

/-- **Stream framing is lossless wherever the stream is cut**, for packets none of
which is empty, and for no others. -/
theorem receive_frames (packets frames chunks : List Bytes)
    (hframes : packets.mapM framePacket = .ok frames)
    (hchunks : chunks.flatten = frames.flatten) :
    feedAll receive [] chunks = packets ↔ ∀ packet ∈ packets, packet ≠ [] := by
  rw [receive_all, hchunks]
  constructor
  · intro hsame
    have hnonempty := drains_nonempty (deframeSync_drains frames.flatten)
    rwa [hsame] at hnonempty
  · intro hne
    exact ((deframeSync_drains frames.flatten).unique (frames_drain hframes hne)).1

theorem receive_frames_cut :
    feedAll receive [] [[0], [2, 7], [8, 0, 1], [9]] = [[7, 8], [9]] ↔
      ∀ packet ∈ [[7, 8], [(9 : UInt8)]], packet ≠ [] :=
  receive_frames [[7, 8], [9]] [[0, 2, 7, 8], [0, 1, 9]] _ rfl rfl

/-- An empty packet in front of one of 256 octets: its length is skipped by one octet,
and what follows is read out of step. -/
theorem receive_empty_packet :
    ¬ ∀ packets frames chunks : List Bytes, packets.mapM framePacket = .ok frames →
      chunks.flatten = frames.flatten → feedAll receive [] chunks = packets := by
  intro hall
  have hframes : [[], List.replicate 256 0xFF].mapM framePacket =
      .ok [[0, 0], [1, 0] ++ List.replicate 256 0xFF] := by
    have hsecond : framePacket (List.replicate 256 0xFF) =
        .ok ([1, 0] ++ List.replicate 256 0xFF) :=
      framePacket_eq_ok.mpr (by
        rw [List.length_replicate]
        exact ⟨by decide, rfl⟩)
    rw [List.mapM_cons, List.mapM_cons, hsecond]
    rfl
  have hreceived := hall _ _ [[0, 0], [1, 0] ++ List.replicate 256 0xFF] hframes rfl
  rw [receive_all] at hreceived
  have hfirst : nextFrame ([0, 0, 1, 0] ++ List.replicate 256 0xFF) =
      some ([], [0, 1, 0] ++ List.replicate 256 0xFF) := by decide +kernel
  have hsecond : nextFrame ([0, 1, 0] ++ List.replicate 256 0xFF) =
      some ([[0]], List.replicate 256 0xFF) := by decide +kernel
  have hthird : nextFrame (List.replicate 256 0xFF) = none := by decide +kernel
  have hdrains := Drains.more hfirst (Drains.more hsecond (Drains.stop hthird))
  have hdelivered := ((deframeSync_drains _).unique hdrains).1
  have hcut : ∀ body : Bytes, [[0, 0], [1, 0] ++ body].flatten = [0, 0, 1, 0] ++ body := by
    intro body
    simp
  rw [hcut, hdelivered] at hreceived
  cases hreceived

end Transport
