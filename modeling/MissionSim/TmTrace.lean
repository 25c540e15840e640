import MissionSim.TmLink

/-!
# Octets with a memory

Two packets may have the same octets, so what a parser gives back cannot be told
apart by value.  `Traced` octets carry, besides their value, the packet they
belong to and their place in it; fill has no origin.  Builder and parser never
look at an origin, so a traced session is the byte session with the provenance of
every octet written on it.
-/

namespace Ccsds

open Octets Ecss TMFrameBuilder List

/-- An octet and where it came from: packet number and offset in that packet. -/
structure Traced where
  octet : UInt8
  origin : Option (Nat × Nat)
  deriving DecidableEq, Repr

instance : Octet Traced where
  byte := Traced.octet
  idle := ⟨0xFE, none⟩
  byte_idle := rfl

/-- Octets of packet number `k` from offset `j` on. -/
def traceFrom (k j : Nat) : Bytes → List Traced
  | [] => []
  | b :: bs => ⟨b, some (k, j)⟩ :: traceFrom k (j + 1) bs

/-- Packet number `k`, each octet marked with its place in it. -/
def trace (k : Nat) (packet : Bytes) : List Traced := traceFrom k 0 packet

/-- Packets numbered from `k` on. -/
def tracePackets (k : Nat) : List Bytes → List (List Traced)
  | [] => []
  | p :: ps => trace k p :: tracePackets (k + 1) ps

/-- A session whose packets are numbered from `k` on. -/
def traceOps (k : Nat) : List (FrameOp UInt8) → List (FrameOp Traced)
  | [] => []
  | .add packet :: ops => .add (trace k packet) :: traceOps (k + 1) ops
  | .flush :: ops => .flush :: traceOps k ops

theorem bytesOf_traceFrom (k j : Nat) (packet : Bytes) :
    bytesOf (traceFrom k j packet) = packet := by
  induction packet generalizing j with
  | nil => rfl
  | cons b bs ih => exact congrArg (b :: ·) (ih (j + 1))

@[simp] theorem bytesOf_trace (k : Nat) (packet : Bytes) : bytesOf (trace k packet) = packet :=
  bytesOf_traceFrom k 0 packet

@[simp] theorem packetsAdded_traceOps (k : Nat) (ops : List (FrameOp UInt8)) :
    packetsAdded (traceOps k ops) = tracePackets k (packetsAdded ops) := by
  induction ops generalizing k with
  | nil => rfl
  | cons op ops ih => cases op <;> simp [traceOps, packetsAdded, tracePackets, ih]

theorem traceOps_append_flush (k : Nat) (ops : List (FrameOp UInt8)) :
    traceOps k (ops ++ [.flush]) = traceOps k ops ++ [.flush] := by
  induction ops generalizing k with
  | nil => rfl
  | cons op ops ih => cases op <;> simp [traceOps, ih]

/-- Being well formed is a matter of the octet values. -/
theorem wellFormedPacket_trace {k : Nat} {packet : Bytes} (h : WellFormedPacket packet) :
    WellFormedPacket (trace k packet) := by
  have hlen : (trace k packet).length = packet.length := by
    rw [← bytesOf_length, bytesOf_trace]
  refine ⟨hlen ▸ h.long, hlen ▸ h.short, ?_, ?_⟩
  · rw [bytesOf_trace, hlen]
    simpa using h.lengthField
  · intro x hx
    have hhead : Octet.byte x ∈ packet.head? := by
      rw [← bytesOf_trace k packet, bytesOf, head?_map]
      exact Option.mem_map_of_mem _ hx
    exact h.notIdle _ hhead

theorem wellFormedPacket_tracePackets {k : Nat} {packets : List Bytes}
    (h : ∀ p ∈ packets, WellFormedPacket p) :
    ∀ p ∈ tracePackets k packets, WellFormedPacket p := by
  induction packets generalizing k with
  | nil => simp [tracePackets]
  | cons q packets ih =>
      intro p hp
      rcases mem_cons.mp hp with rfl | hp
      · exact wellFormedPacket_trace (h q mem_cons_self)
      · exact ih (fun p hp => h p (mem_cons_of_mem _ hp)) p hp

/-! ### Origins tell octets apart -/

/-- Octets of packet `k` from offset `j` on say so. -/
theorem origin_of_mem_traceFrom {k j : Nat} {packet : Bytes} {x : Traced}
    (h : x ∈ traceFrom k j packet) : ∃ i, j ≤ i ∧ x.origin = some (k, i) := by
  induction packet generalizing j with
  | nil => simp [traceFrom] at h
  | cons b bs ih =>
      rcases mem_cons.mp h with rfl | h
      · exact ⟨j, Nat.le_refl j, rfl⟩
      · obtain ⟨i, hi, horigin⟩ := ih h
        exact ⟨i, by omega, horigin⟩

theorem nodup_traceFrom (k j : Nat) (packet : Bytes) : (traceFrom k j packet).Nodup := by
  induction packet generalizing j with
  | nil => exact nodup_nil
  | cons b bs ih =>
      refine nodup_cons.mpr ⟨fun h => ?_, ih (j + 1)⟩
      obtain ⟨i, hi, horigin⟩ := origin_of_mem_traceFrom h
      simp only [Option.some.injEq, Prod.mk.injEq, true_and] at horigin
      omega

/-- Octets of packets numbered from `k` on carry numbers from `k` on. -/
theorem origin_of_mem_tracePackets {k : Nat} {packets : List Bytes} {x : Traced}
    (h : x ∈ (tracePackets k packets).flatten) : ∃ n i, k ≤ n ∧ x.origin = some (n, i) := by
  induction packets generalizing k with
  | nil => simp [tracePackets] at h
  | cons p packets ih =>
      rcases mem_append.mp h with h | h
      · obtain ⟨i, _, horigin⟩ := origin_of_mem_traceFrom h
        exact ⟨k, i, Nat.le_refl k, horigin⟩
      · obtain ⟨n, i, hn, horigin⟩ := ih h
        exact ⟨n, i, by omega, horigin⟩

/-- No octet of a numbered packet sequence occurs twice. -/
theorem nodup_tracePackets (k : Nat) (packets : List Bytes) :
    (tracePackets k packets).flatten.Nodup := by
  induction packets generalizing k with
  | nil => exact nodup_nil
  | cons p packets ih =>
      refine nodup_append.mpr ⟨nodup_traceFrom k 0 p, ih (k + 1), ?_⟩
      rintro x hx y hy rfl
      obtain ⟨i, _, hx⟩ := origin_of_mem_traceFrom hx
      obtain ⟨n, j, hn, hy⟩ := origin_of_mem_tracePackets hy
      rw [hx] at hy
      simp only [Option.some.injEq, Prod.mk.injEq] at hy
      omega

/-- Fill belongs to no packet. -/
theorem idle_notMem_tracePackets (k : Nat) (packets : List Bytes) :
    (Octet.idle : Traced) ∉ (tracePackets k packets).flatten := by
  intro h
  obtain ⟨n, i, _, horigin⟩ := origin_of_mem_tracePackets h
  simp [Octet.idle] at horigin

/-! ### The byte image of the builder -/

section Image

variable {α : Type} [Octet α]

/-- The octets of a frame without their memory. -/
def TMFrame.image (frame : TMFrame α) : TMFrame UInt8 :=
  { header := frame.header, data := bytesOf frame.data, fecf := frame.fecf }

/-- The byte builder a builder amounts to. -/
def TMFrameBuilder.image (b : TMFrameBuilder α) : TMFrameBuilder UInt8 :=
  { scid := b.scid
    format := b.format
    mcCount := b.mcCount
    vcCounts := b.vcCounts
    vcBuffers := fun vcid => bytesOf (b.vcBuffers vcid)
    pktOffsets := b.pktOffsets }

/-- The byte call a call amounts to. -/
def FrameOp.image : FrameOp α → FrameOp UInt8
  | .add packet => .add (bytesOf packet)
  | .flush => .flush

theorem wire_image (frame : TMFrame α) : frame.image.wire = frame.wire := by
  simp [TMFrame.wire, TMFrame.image]

theorem bytesOf_update (buffers : Nat → List α) (vcid : Nat) (data : List α) :
    (fun v => bytesOf (Function.update buffers vcid data v)) =
      Function.update (fun v => bytesOf (buffers v)) vcid (bytesOf data) := by
  funext v
  by_cases h : v = vcid
  · subst h
    simp
  · simp [Function.update_of_ne h]

variable (b : TMFrameBuilder α)

theorem buildFrame_image (vcid : Nat) (zone : List α) (fhp : Nat) :
    b.image.buildFrame vcid (bytesOf zone) fhp =
      ((b.buildFrame vcid zone fhp).1.image, (b.buildFrame vcid zone fhp).2.image) := by
  simp [buildFrame, TMFrame.image, image]

theorem popZone_image (vcid chunkEnd : Nat) :
    b.image.popZone vcid chunkEnd = (b.popZone vcid chunkEnd).image := by
  have hdrop : (bytesOf (b.vcBuffers vcid)).drop b.format.dataZoneLength =
      bytesOf ((b.vcBuffers vcid).drop b.format.dataZoneLength) := by
    simp [bytesOf, map_drop]
  simp only [popZone, image, bytesOf_update, hdrop]

theorem drainLoop_image (fuel : Nat) (b : TMFrameBuilder α) (vcid consumed : Nat) :
    b.image.drainLoop fuel vcid consumed =
      ((b.drainLoop fuel vcid consumed).1.map TMFrame.image,
        (b.drainLoop fuel vcid consumed).2.1.image,
        (b.drainLoop fuel vcid consumed).2.2) := by
  induction fuel generalizing b consumed with
  | zero => rfl
  | succ fuel ih =>
      have hbuf : b.image.vcBuffers vcid = bytesOf (b.vcBuffers vcid) := rfl
      have hfmt : b.image.format = b.format := rfl
      have hoff : b.image.pktOffsets = b.pktOffsets := rfl
      have htake : (bytesOf (b.vcBuffers vcid)).take b.format.dataZoneLength =
          bytesOf ((b.vcBuffers vcid).take b.format.dataZoneLength) := by
        simp [bytesOf, map_take]
      simp only [drainLoop, hbuf, hfmt, hoff, bytesOf_length]
      split
      · simp only [htake, popZone_image, buildFrame_image, ih, map_cons]
      · rfl

theorem drainFrames_image (vcid : Nat) :
    b.image.drainFrames vcid =
      ((b.drainFrames vcid).1.map TMFrame.image, (b.drainFrames vcid).2.image) := by
  have hbuf : b.image.vcBuffers vcid = bytesOf (b.vcBuffers vcid) := rfl
  simp only [drainFrames, hbuf, bytesOf_length, drainLoop_image]
  rfl

theorem addPacket_image (packet : List α) (vcid : Nat) :
    b.image.addPacket (bytesOf packet) vcid =
      ((b.addPacket packet vcid).1.map TMFrame.image, (b.addPacket packet vcid).2.image) := by
  simp only [addPacket]
  rw [← drainFrames_image]
  congr 1
  simp only [image, bytesOf_update, bytesOf_append, bytesOf_length]

theorem clearChannel_image (vcid : Nat) :
    b.image.clearChannel vcid = (b.clearChannel vcid).image := by
  simp only [clearChannel, image, bytesOf_update]
  rfl

theorem bytesOf_isEmpty (data : List α) : (bytesOf data).isEmpty = data.isEmpty := by
  simp [bytesOf]

theorem flush_image (vcid : Nat) :
    b.image.flush vcid = ((b.flush vcid).1.map TMFrame.image, (b.flush vcid).2.image) := by
  have hbuf : ∀ c : TMFrameBuilder α, c.image.vcBuffers vcid = bytesOf (c.vcBuffers vcid) :=
    fun _ => rfl
  have hoff : ∀ c : TMFrameBuilder α, c.image.pktOffsets = c.pktOffsets := fun _ => rfl
  have hfmt : b.image.format = b.format := rfl
  have hpad : ∀ n, replicate n (Octet.idle : UInt8) =
      bytesOf (replicate n (Octet.idle : α)) := fun n => by
    simp [bytesOf, Octet.byte_idle, Octet.idle]
  unfold flush
  simp only [hbuf, drainFrames_image, bytesOf_isEmpty, clearChannel_image, hoff, hfmt,
    bytesOf_length]
  split
  · rfl
  · split
    · rfl
    · rw [hpad, ← bytesOf_append, buildFrame_image]
      simp

/-- **The byte session is the image of the traced one.** -/
theorem run_image (vcid : Nat) (ops : List (FrameOp α)) :
    b.image.run vcid (ops.map FrameOp.image) =
      ((b.run vcid ops).1.map TMFrame.image, (b.run vcid ops).2.image) := by
  induction ops generalizing b with
  | nil => rfl
  | cons op ops ih =>
      have hop : b.image.perform vcid op.image =
          ((b.perform vcid op).1.map TMFrame.image, (b.perform vcid op).2.image) := by
        cases op with
        | add packet => exact addPacket_image b packet vcid
        | flush => exact flush_image b vcid
      simp only [map_cons, run, hop, ih, map_append]

end Image

theorem image_traceOps (k : Nat) (ops : List (FrameOp UInt8)) :
    (traceOps k ops).map FrameOp.image = ops := by
  induction ops generalizing k with
  | nil => rfl
  | cons op ops ih => cases op <;> simp [traceOps, FrameOp.image, ih]

/-- A fresh byte builder puts on the link what the traced one does. -/
theorem wires_traceOps (scid vcid : Nat) (fmt : FrameFormat) (ops : List (FrameOp UInt8)) :
    (({ scid := scid, format := fmt } : TMFrameBuilder UInt8).run vcid ops).1.map TMFrame.wire =
      (({ scid := scid, format := fmt } : TMFrameBuilder Traced).run vcid
        (traceOps 0 ops)).1.map TMFrame.wire := by
  have hfresh : ({ scid := scid, format := fmt } : TMFrameBuilder UInt8) =
      ({ scid := scid, format := fmt } : TMFrameBuilder Traced).image := rfl
  have hrun := run_image ({ scid := scid, format := fmt } : TMFrameBuilder Traced) vcid
    (traceOps 0 ops)
  rw [image_traceOps, ← hfresh] at hrun
  rw [hrun, map_map]
  exact map_congr_left fun frame _ => wire_image frame

end Ccsds
