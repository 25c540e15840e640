import MissionSim.TmWeave

/-!
# The virtual channel multiplexer

`VCMultiplexer` keeps a frame builder and a queue of finished frames for each of
its channels and hands frames out by priority, the channels listed first coming
first; channel 7 is idle fill.  A session adds packets and takes frames in any
order, then takes what is pending and flushes all channels.

`emissionOrder` is the same session told in octet counts alone: which channel
each data frame comes from, computed from packet lengths.
-/

namespace Ccsds

open Octets Ecss List

/-- The channel of idle fill. -/
def idleChannel : Nat := 7

/-- Multiplexer state.  There is always a channel to take a builder from. -/
structure VCMultiplexer (α : Type) where
  vcIds : List Nat
  served : vcIds ≠ []
  builders : Nat → TMFrameBuilder α
  pending : Nat → List (TMFrame α) := fun _ => []

section Model

variable {α : Type} [Octet α]

/-- A multiplexer with one fresh builder for each channel. -/
def VCMultiplexer.create (scid : Nat) (fmt : FrameFormat) (vcIds : List Nat)
    (served : vcIds ≠ []) : VCMultiplexer α :=
  { vcIds := vcIds
    served := served
    builders := fun _ => { scid := scid, format := fmt } }

/-- Enqueue a packet into a virtual channel; an unknown channel drops it. -/
def VCMultiplexer.addPacket (m : VCMultiplexer α) (packet : List α) (vcid : Nat) :
    VCMultiplexer α :=
  if vcid ∈ m.vcIds then
    let added := (m.builders vcid).addPacket packet vcid
    { m with
      builders := Function.update m.builders vcid added.2
      pending := Function.update m.pending vcid (m.pending vcid ++ added.1) }
  else m

/-- A channel other than idle fill with a frame to send. -/
def VCMultiplexer.isReady (m : VCMultiplexer α) (vcid : Nat) : Bool :=
  vcid != idleChannel && !(m.pending vcid).isEmpty

/-- An idle frame, from the builder of the idle channel when there is one. -/
def VCMultiplexer.nextIdle (m : VCMultiplexer α) : TMFrame α × VCMultiplexer α :=
  let vcid := if idleChannel ∈ m.vcIds then idleChannel else m.vcIds.head m.served
  let built := (m.builders vcid).buildIdleFrame idleChannel
  (built.1, { m with builders := Function.update m.builders vcid built.2 })

/-- The next frame to transmit, by channel priority; an idle frame if there is none. -/
def VCMultiplexer.getNextFrame (m : VCMultiplexer α) : TMFrame α × VCMultiplexer α :=
  match m.vcIds.find? m.isReady with
  | some vcid =>
      match m.pending vcid with
      | frame :: rest => (frame, { m with pending := Function.update m.pending vcid rest })
      | [] => m.nextIdle
  | none => m.nextIdle

/-- Whether any channel but idle fill has frames pending. -/
def VCMultiplexer.hasData (m : VCMultiplexer α) : Bool := m.vcIds.any m.isReady

/-- Flush the listed channels, idle fill excepted. -/
def VCMultiplexer.flushFrom (m : VCMultiplexer α) :
    List Nat → List (TMFrame α) × VCMultiplexer α
  | [] => ([], m)
  | vcid :: vcids =>
      if vcid = idleChannel then m.flushFrom vcids
      else
        let flushed := (m.builders vcid).flush vcid
        let rest := { m with
          builders := Function.update m.builders vcid flushed.2 }.flushFrom vcids
        (flushed.1 ++ rest.1, rest.2)

/-- Flush all channel buffers and return the remaining frames. -/
def VCMultiplexer.flushAll (m : VCMultiplexer α) : List (TMFrame α) × VCMultiplexer α :=
  m.flushFrom m.vcIds

/-- One call on the multiplexer. -/
inductive MuxOp (α : Type) where
  | add (packet : List α) (vcid : Nat)
  | next

/-- Frames taken by a session of calls. -/
def VCMultiplexer.run (m : VCMultiplexer α) : List (MuxOp α) →
    List (TMFrame α) × VCMultiplexer α
  | [] => ([], m)
  | .add packet vcid :: ops => (m.addPacket packet vcid).run ops
  | .next :: ops =>
      let taken := m.getNextFrame
      let rest := taken.2.run ops
      (taken.1 :: rest.1, rest.2)

/-- Frames pending on the channels, an upper bound on the frames `drain` takes. -/
def VCMultiplexer.backlog (m : VCMultiplexer α) : Nat :=
  (m.vcIds.map fun vcid => (m.pending vcid).length).sum

/-- Take frames while there is data. -/
def VCMultiplexer.drain : Nat → VCMultiplexer α → List (TMFrame α) × VCMultiplexer α
  | 0, m => ([], m)
  | fuel + 1, m =>
      if m.hasData then
        let taken := m.getNextFrame
        let rest := drain fuel taken.2
        (taken.1 :: rest.1, rest.2)
      else ([], m)

/-- A whole session: the calls, then all pending frames, then the final flush. -/
def VCMultiplexer.session (m : VCMultiplexer α) (ops : List (MuxOp α)) : List (TMFrame α) :=
  let called := m.run ops
  let drained := called.2.drain called.2.backlog
  called.1 ++ drained.1 ++ drained.2.flushAll.1

end Model

/-- Packets a session adds on a channel, in order. -/
def packetsOn {α : Type} (vcid : Nat) : List (MuxOp α) → List (List α)
  | [] => []
  | .add packet v :: ops =>
      if v = vcid then packet :: packetsOn vcid ops else packetsOn vcid ops
  | .next :: ops => packetsOn vcid ops

/-! ### The session in octet counts -/

/-- For each channel, the full frames ready and the octets held back. -/
structure Tally where
  ready : Nat → Nat := fun _ => 0
  held : Nat → Nat := fun _ => 0

/-- Add `len` octets to a channel. -/
def Tally.add (dz : Nat) (vcIds : List Nat) (t : Tally) (len vcid : Nat) : Tally :=
  if vcid ∈ vcIds then
    { ready := Function.update t.ready vcid (t.ready vcid + (t.held vcid + len) / dz)
      held := Function.update t.held vcid ((t.held vcid + len) % dz) }
  else t

/-- The channel whose turn it is. -/
def Tally.turn (vcIds : List Nat) (t : Tally) : Option Nat :=
  vcIds.find? fun vcid => vcid != idleChannel && t.ready vcid != 0

/-- Take a frame of a channel. -/
def Tally.take (t : Tally) (vcid : Nat) : Tally :=
  { t with ready := Function.update t.ready vcid (t.ready vcid - 1) }

/-- Channels of the data frames taken by a session of calls. -/
def Tally.run {α : Type} (dz : Nat) (vcIds : List Nat) (t : Tally) :
    List (MuxOp α) → List Nat × Tally
  | [] => ([], t)
  | .add packet vcid :: ops => (t.add dz vcIds packet.length vcid).run dz vcIds ops
  | .next :: ops =>
      match t.turn vcIds with
      | some vcid =>
          let rest := (t.take vcid).run dz vcIds ops
          (vcid :: rest.1, rest.2)
      | none => t.run dz vcIds ops

def Tally.backlog (vcIds : List Nat) (t : Tally) : Nat := (vcIds.map t.ready).sum

/-- Channels of the frames taken until none is ready. -/
def Tally.drain (vcIds : List Nat) : Nat → Tally → List Nat × Tally
  | 0, t => ([], t)
  | fuel + 1, t =>
      match t.turn vcIds with
      | some vcid =>
          let rest := Tally.drain vcIds fuel (t.take vcid)
          (vcid :: rest.1, rest.2)
      | none => ([], t)

/-- Channels of the frames of the final flush. -/
def Tally.flush (t : Tally) : List Nat → List Nat
  | [] => []
  | vcid :: vcids =>
      if vcid = idleChannel then t.flush vcids
      else if t.held vcid = 0 then t.flush vcids
      else vcid :: { t with held := Function.update t.held vcid 0 }.flush vcids

/-- Channels of the data frames of a whole session, in the order sent. -/
def emissionOrder {α : Type} (dz : Nat) (vcIds : List Nat) (ops : List (MuxOp α)) : List Nat :=
  let called := Tally.run dz vcIds {} ops
  let drained := Tally.drain vcIds (called.2.backlog vcIds) called.2
  called.1 ++ drained.1 ++ drained.2.flush vcIds

/-! ### Traced sessions -/

/-- A session whose packets are numbered from `k` on, across channels. -/
def traceMux (k : Nat) : List (MuxOp UInt8) → List (MuxOp Traced)
  | [] => []
  | .add packet vcid :: ops => .add (trace k packet) vcid :: traceMux (k + 1) ops
  | .next :: ops => .next :: traceMux k ops

@[simp] theorem trace_length (k : Nat) (packet : Bytes) : (trace k packet).length = packet.length := by
  rw [← bytesOf_length, bytesOf_trace]

variable {ops : List (MuxOp UInt8)}

theorem origin_of_mem_packetsOn {k v : Nat} {x : Traced}
    (h : x ∈ (packetsOn v (traceMux k ops)).flatten) : ∃ n i, k ≤ n ∧ x.origin = some (n, i) := by
  induction ops generalizing k with
  | nil => simp [traceMux, packetsOn] at h
  | cons op ops ih =>
      cases op with
      | next => exact ih h
      | add packet u =>
          rw [traceMux, packetsOn] at h
          split at h
          · rcases mem_append.mp h with h | h
            · obtain ⟨i, _, horigin⟩ := origin_of_mem_traceFrom h
              exact ⟨k, i, Nat.le_refl k, horigin⟩
            · obtain ⟨n, i, hn, horigin⟩ := ih h
              exact ⟨n, i, by omega, horigin⟩
          · obtain ⟨n, i, hn, horigin⟩ := ih h
            exact ⟨n, i, by omega, horigin⟩

/-- Octets numbered from `k + 1` on are none of packet `k`. -/
theorem notMem_trace_of_mem_packetsOn {k v : Nat} {packet : Bytes} {x : Traced}
    (h : x ∈ (packetsOn v (traceMux (k + 1) ops)).flatten) : x ∉ trace k packet := by
  intro hx
  obtain ⟨n, i, hn, horigin⟩ := origin_of_mem_packetsOn h
  obtain ⟨j, _, horigin'⟩ := origin_of_mem_traceFrom hx
  rw [horigin] at horigin'
  simp only [Option.some.injEq, Prod.mk.injEq] at horigin'
  omega

theorem packetsOn_apart {k v w : Nat} (hvw : v ≠ w) (ops : List (MuxOp UInt8)) :
    ∀ x ∈ (packetsOn v (traceMux k ops)).flatten,
      x ∉ (packetsOn w (traceMux k ops)).flatten := by
  induction ops generalizing k with
  | nil => simp [traceMux, packetsOn]
  | cons op ops ih =>
      cases op with
      | next => exact ih
      | add packet u =>
          intro x
          simp only [traceMux, packetsOn]
          by_cases hv : u = v
          · have hw : u ≠ w := fun h => hvw (hv ▸ h)
            rw [if_pos hv, if_neg hw, flatten_cons, mem_append]
            rintro (hx | hx) hx'
            · exact notMem_trace_of_mem_packetsOn hx' hx
            · exact ih x hx hx'
          · by_cases hw : u = w
            · rw [if_neg hv, if_pos hw, flatten_cons, mem_append]
              rintro hx (hx' | hx')
              · exact notMem_trace_of_mem_packetsOn hx hx'
              · exact ih x hx hx'
            · rw [if_neg hv, if_neg hw]
              exact ih x

theorem packetsOn_nodup {k : Nat} (v : Nat) (ops : List (MuxOp UInt8)) :
    (packetsOn v (traceMux k ops)).flatten.Nodup := by
  induction ops generalizing k with
  | nil => exact nodup_nil
  | cons op ops ih =>
      cases op with
      | next => exact ih
      | add packet u =>
          simp only [traceMux, packetsOn]
          split
          · refine nodup_append.mpr ⟨nodup_traceFrom k 0 packet, ih, ?_⟩
            rintro x hx y hy rfl
            exact notMem_trace_of_mem_packetsOn hy hx
          · exact ih

theorem idle_notMem_packetsOn (k v : Nat) (ops : List (MuxOp UInt8)) :
    (Octet.idle : Traced) ∉ (packetsOn v (traceMux k ops)).flatten := by
  intro h
  obtain ⟨n, i, _, horigin⟩ := origin_of_mem_packetsOn h
  simp [Octet.idle] at horigin

theorem wellFormedPacket_packetsOn {k v : Nat} (h : ∀ p ∈ packetsOn v ops, WellFormedPacket p) :
    ∀ p ∈ packetsOn v (traceMux k ops), WellFormedPacket p := by
  induction ops generalizing k with
  | nil => simp [traceMux, packetsOn]
  | cons op ops ih =>
      cases op with
      | next => exact ih h
      | add packet u =>
          simp only [traceMux, packetsOn] at h ⊢
          split
          · rename_i hu
            rw [if_pos hu] at h
            intro p hp
            rcases mem_cons.mp hp with rfl | hp
            · exact wellFormedPacket_trace (h packet mem_cons_self)
            · exact ih (fun p hp => h p (mem_cons_of_mem _ hp)) p hp
          · rename_i hu
            rw [if_neg hu] at h
            exact ih h

/-- Tracing keeps the packet lengths. -/
theorem packetsOn_length (k v : Nat) (ops : List (MuxOp UInt8)) :
    (packetsOn v (traceMux k ops)).map length = (packetsOn v ops).map length := by
  induction ops generalizing k with
  | nil => rfl
  | cons op ops ih =>
      cases op with
      | next => exact ih k
      | add packet u =>
          simp only [traceMux, packetsOn]
          split <;> simp [ih]

theorem tally_run_trace (dz : Nat) (vcIds : List Nat) (t : Tally) (k : Nat)
    (ops : List (MuxOp UInt8)) : t.run dz vcIds (traceMux k ops) = t.run dz vcIds ops := by
  induction ops generalizing t k with
  | nil => rfl
  | cons op ops ih =>
      cases op with
      | next => simp only [traceMux, Tally.run, ih]
      | add packet u => simp only [traceMux, Tally.run, trace_length, ih]

/-- The emission order depends on packet lengths only. -/
theorem emissionOrder_trace (dz : Nat) (vcIds : List Nat) (k : Nat)
    (ops : List (MuxOp UInt8)) :
    emissionOrder dz vcIds (traceMux k ops) = emissionOrder dz vcIds ops := by
  simp only [emissionOrder, tally_run_trace]

/-! ### The byte image of the multiplexer -/

section Image

variable {α : Type} [Octet α]

def VCMultiplexer.image (m : VCMultiplexer α) : VCMultiplexer UInt8 :=
  { vcIds := m.vcIds
    served := m.served
    builders := fun vcid => (m.builders vcid).image
    pending := fun vcid => (m.pending vcid).map TMFrame.image }

def MuxOp.image : MuxOp α → MuxOp UInt8
  | .add packet vcid => .add (bytesOf packet) vcid
  | .next => .next

omit [Octet α] in
theorem update_map {β γ : Type} (f : β → γ) (g : Nat → β) (v : Nat) (x : β) :
    (fun w => f (Function.update g v x w)) = Function.update (fun w => f (g w)) v (f x) := by
  funext w
  by_cases h : w = v
  · subst h
    simp
  · simp [Function.update_of_ne h]

variable (m : VCMultiplexer α)

open VCMultiplexer

theorem mux_addPacket_image (packet : List α) (vcid : Nat) :
    m.image.addPacket (bytesOf packet) vcid = (m.addPacket packet vcid).image := by
  have hvc : m.image.vcIds = m.vcIds := rfl
  have hb : m.image.builders vcid = (m.builders vcid).image := rfl
  simp only [addPacket, hvc, hb, addPacket_image]
  split
  · simp only [image, update_map TMFrameBuilder.image,
      update_map (map TMFrame.image), map_append]
  · rfl

theorem isReady_image : m.image.isReady = m.isReady := by
  funext vcid
  simp [isReady, image]

theorem nextIdle_image : m.image.nextIdle = (m.nextIdle.1.image, m.nextIdle.2.image) := by
  have hpad : ∀ n, replicate n (Octet.idle : UInt8) =
      bytesOf (replicate n (Octet.idle : α)) := fun n => by
    simp [bytesOf, Octet.byte_idle, Octet.idle]
  have hbuilt : ∀ v, (m.image.builders v).buildIdleFrame idleChannel =
      (((m.builders v).buildIdleFrame idleChannel).1.image,
        ((m.builders v).buildIdleFrame idleChannel).2.image) := fun v => by
    rw [TMFrameBuilder.buildIdleFrame, hpad]
    exact buildFrame_image (m.builders v) idleChannel _ _
  simp only [nextIdle, hbuilt]
  simp only [image, update_map TMFrameBuilder.image]
  rfl

theorem getNextFrame_image :
    m.image.getNextFrame = (m.getNextFrame.1.image, m.getNextFrame.2.image) := by
  have hturn : m.image.vcIds.find? m.image.isReady = m.vcIds.find? m.isReady := by
    rw [isReady_image]
    rfl
  have hpending : ∀ v, m.image.pending v = (m.pending v).map TMFrame.image := fun _ => rfl
  unfold getNextFrame
  rw [hturn]
  cases m.vcIds.find? m.isReady with
  | none => exact nextIdle_image m
  | some vcid =>
      simp only [hpending]
      cases m.pending vcid with
      | nil => exact nextIdle_image m
      | cons frame rest =>
          simp only [map_cons, image, update_map (map TMFrame.image)]

theorem mux_run_image (ops : List (MuxOp α)) :
    m.image.run (ops.map MuxOp.image) =
      ((m.run ops).1.map TMFrame.image, (m.run ops).2.image) := by
  induction ops generalizing m with
  | nil => rfl
  | cons op ops ih =>
      cases op with
      | add packet vcid => simp only [map_cons, MuxOp.image, run,
          mux_addPacket_image, ih]
      | next => simp only [map_cons, MuxOp.image, run, getNextFrame_image, ih]

theorem drain_image (fuel : Nat) (m : VCMultiplexer α) :
    m.image.drain fuel = ((m.drain fuel).1.map TMFrame.image, (m.drain fuel).2.image) := by
  have hdata : ∀ m : VCMultiplexer α, m.image.hasData = m.hasData := fun m => by
    simp only [hasData, isReady_image]
    rfl
  induction fuel generalizing m with
  | zero => rfl
  | succ fuel ih =>
      simp only [drain, hdata, getNextFrame_image, ih]
      split <;> rfl

theorem flushFrom_image (vcids : List Nat) :
    m.image.flushFrom vcids =
      ((m.flushFrom vcids).1.map TMFrame.image, (m.flushFrom vcids).2.image) := by
  induction vcids generalizing m with
  | nil => rfl
  | cons vcid vcids ih =>
      have hb : m.image.builders vcid = (m.builders vcid).image := rfl
      simp only [flushFrom, hb, flush_image]
      split
      · exact ih m
      · have hnext : ({ m.image with
            builders := Function.update m.image.builders vcid
              ((m.builders vcid).flush vcid).2.image } : VCMultiplexer UInt8) =
            ({ m with
              builders := Function.update m.builders vcid
                ((m.builders vcid).flush vcid).2 } : VCMultiplexer α).image := by
          simp only [image, update_map TMFrameBuilder.image]
        rw [hnext, ih]
        simp

theorem session_image (ops : List (MuxOp α)) :
    m.image.session (ops.map MuxOp.image) = (m.session ops).map TMFrame.image := by
  have hbacklog : ∀ m : VCMultiplexer α, m.image.backlog = m.backlog := fun m => by
    simp [backlog, image]
  have hvc : ∀ m : VCMultiplexer α, m.image.vcIds = m.vcIds := fun _ => rfl
  simp only [session, flushAll, mux_run_image, hbacklog, drain_image,
    hvc, flushFrom_image, map_append]

end Image

theorem image_traceMux (k : Nat) (ops : List (MuxOp UInt8)) :
    (traceMux k ops).map MuxOp.image = ops := by
  induction ops generalizing k with
  | nil => rfl
  | cons op ops ih => cases op <;> simp [traceMux, MuxOp.image, ih]

/-- A byte session puts on the link what the traced one does. -/
theorem session_wires (scid : Nat) (fmt : FrameFormat) (vcIds : List Nat) (served : vcIds ≠ [])
    (ops : List (MuxOp UInt8)) :
    ((VCMultiplexer.create scid fmt vcIds served : VCMultiplexer UInt8).session ops).map
        TMFrame.wire =
      ((VCMultiplexer.create scid fmt vcIds served : VCMultiplexer Traced).session
        (traceMux 0 ops)).map TMFrame.wire := by
  have hfresh : (VCMultiplexer.create scid fmt vcIds served : VCMultiplexer UInt8) =
      (VCMultiplexer.create scid fmt vcIds served : VCMultiplexer Traced).image := rfl
  have hsession := session_image (VCMultiplexer.create scid fmt vcIds served :
    VCMultiplexer Traced) (traceMux 0 ops)
  rw [image_traceMux, ← hfresh] at hsession
  rw [hsession, map_map]
  exact map_congr_left fun frame _ => wire_image frame

end Ccsds
