import MissionSim.EcssPacket
import MissionSim.Pacing
import MissionSim.Runs
import MissionSim.TmStorage
import Mathlib.Algebra.Order.Archimedean.Basic

/-!
# Stored and real-time telemetry on the downlink

Two pacers feed the downlink queue: one releases the real-time backlog, the other
the packets a dump of an on-board store has queued.  Each spends its own byte budget,
which grows with the rate of the active tier.  When the last queued packet of a dump
has left, the stores it came from are cleared.

`cleared_after_release` is what a dump may rely on: a store is cleared only when
everything queued from it has been released.  `paced_within_rate` bounds what the two
pacers release together.
-/

namespace TmDownlink

open Octets Ecss Python Runs Pacing TmStorage

/-- `MAX_DUMP_PENDING`. -/
def maxDumpPending : Nat := 5000

/-- The size of the downlink queue. -/
def tmQueueSize : Nat := 2000

/-- `_TM_RATE_FALLBACK_BPS`. -/
def tmRateFallbackBps : Rat := 1000

/-- `_current_tm_rate_bps()`, from the rate of the transmitter's active tier; `none`
without a transmitter model. -/
def currentTmRateBps : Option Rat → Rat
  | some rate => if rate = 0 then tmRateFallbackBps else rate
  | none => tmRateFallbackBps

/-- The part of the engine that stores and downlinks telemetry. -/
structure Downlink (P : Type) where
  storage : OnboardTMStorage P
  dumpPending : List (P × Nat) := []
  dumpByteBudget : Rat := 0
  dumpActiveStores : List Nat := []
  rtPending : List P := []
  rtByteBudget : Rat := 0
  rtBacklogMax : Nat := 2000
  tmQueue : List P := []
  tmPacketsEnqueued : Nat := 0
  tmQueueDrops : Nat := 0

section Model

variable {P : Type} (octets : P → Bytes)

/-- `len(pkt)`. -/
def size (pkt : P) : Nat := (octets pkt).length

/-- `len(pkt)` of a queued dump entry. -/
def entrySize (entry : P × Nat) : Nat := size octets entry.1

/-- `_put_tm(engine, pkt)`. -/
def putTm (s : Downlink P) (pkt : P) : Downlink P :=
  if s.tmQueue.length < tmQueueSize then
    { s with tmQueue := s.tmQueue ++ [pkt], tmPacketsEnqueued := s.tmPacketsEnqueued + 1 }
  else
    { s with tmQueueDrops := s.tmQueueDrops + 1 }

/-- `tm_queue.put_nowait(pkt)` of the dump pacer: a packet that finds no room is dropped. -/
def putDumped (s : Downlink P) (entry : P × Nat) : Downlink P :=
  if s.tmQueue.length < tmQueueSize then { s with tmQueue := s.tmQueue ++ [entry.1] } else s

/-- The loop of `queue_dump` that fills the dump queue. -/
def appendDump (storeId : Nat) : List (P × Nat) → List P → List (P × Nat)
  | pending, [] => pending
  | pending, pkt :: rest =>
      if maxDumpPending ≤ pending.length then pending
      else appendDump storeId (pending ++ [(pkt, storeId)]) rest

/-- `queue_dump(store_id)`: the new state and the number of packets of the store. -/
def queueDump (s : Downlink P) (storeId : Nat) : Downlink P × Nat :=
  let packets := startDump s.storage storeId
  if packets.isEmpty then (s, 0)
  else
    ({ s with
        dumpPending := appendDump storeId s.dumpPending packets
        dumpActiveStores := s.dumpActiveStores.insert storeId }, packets.length)

/-- What the dump pacer releases in a tick. -/
def dumpRelease (s : Downlink P) (rateBps dt : Rat) : Release (P × Nat) :=
  release (entrySize octets) s.dumpPending (s.dumpByteBudget + rateBps / 8 * dt)

/-- `_tick_dump_emission(dt)`. -/
def tickDumpEmission (s : Downlink P) (rateBps dt : Rat) (downlinkActive : Bool) : Downlink P :=
  if s.dumpPending.isEmpty then { s with dumpByteBudget := 0 }
  else
    let r := dumpRelease octets s rateBps dt
    let s := if downlinkActive then r.released.foldl putDumped s else s
    match r.pending with
    | entry :: rest =>
        { s with
          dumpPending := entry :: rest
          dumpByteBudget :=
            if (entrySize octets entry : Rat) < r.budget then (entrySize octets entry : Rat)
            else r.budget }
    | [] =>
        { s with
          dumpPending := []
          dumpByteBudget := r.budget
          storage := s.dumpActiveStores.foldl deleteStore s.storage
          dumpActiveStores := [] }

/-- What the real-time pacer releases in a tick. -/
def rtRelease (s : Downlink P) (rateBps dt : Rat) : Release P :=
  release (size octets) s.rtPending (s.rtByteBudget + rateBps / 8 * max dt 0)

/-- `_tick_rt_emission(dt)`. -/
def tickRtEmission (s : Downlink P) (rateBps dt : Rat) : Downlink P :=
  let r := rtRelease octets s rateBps dt
  let s := r.released.foldl putTm s
  match r.pending with
  | pkt :: rest =>
      { s with
        rtPending := pkt :: rest
        rtByteBudget :=
          if (size octets pkt : Rat) < r.budget then (size octets pkt : Rat) else r.budget }
  | [] => { s with rtPending := [], rtByteBudget := min r.budget (rateBps / 8) }

/-- The store a telemetry packet goes to, by its service; nothing is stored while the
bootloader runs. -/
def storeTm (t : OnboardTMStorage P) (pkt : P) (swImage : Int) : OnboardTMStorage P :=
  if 13 < size octets pkt ∧ swImage ≠ 0 then
    match (decommutatePacket (octets pkt)).bind DecommutatedPacket.secondary with
    | some secondary => (storePacket t secondary.service pkt 0).1
    | none => t
  else t

/-- `_enqueue_tm(pkt)`. -/
def enqueueTm (s : Downlink P) (pkt : P) (downlinkActive rtPacingActive : Bool) (swImage : Int) :
    Downlink P :=
  let s :=
    if downlinkActive then
      if rtPacingActive then
        if s.rtBacklogMax ≤ s.rtPending.length then { s with tmQueueDrops := s.tmQueueDrops + 1 }
        else { s with rtPending := s.rtPending ++ [pkt] }
      else putTm s pkt
    else s
  { s with storage := storeTm octets s.storage pkt swImage }

/-- What happens to the downlink: an operation on the stores, a telemetry packet, a dump
request, the two pacers of one tick, or the server taking a packet from the queue. -/
inductive Operation (P : Type) where
  | storage (op : TmStorage.Operation P)
  | enqueueTm (pkt : P) (downlinkActive rtPacingActive : Bool) (swImage : Int)
  | queueDump (storeId : Nat)
  | tick (dt : Rat) (tmDataRate : Option Rat) (downlinkActive : Bool)
  | broadcast

/-- The state after one operation. -/
def step (s : Downlink P) : Operation P → Downlink P
  | .storage op => { s with storage := TmStorage.step s.storage op }
  | .enqueueTm pkt downlinkActive rtPacingActive swImage =>
      enqueueTm octets s pkt downlinkActive rtPacingActive swImage
  | .queueDump storeId => (queueDump s storeId).1
  | .tick dt tmDataRate downlinkActive =>
      let rateBps := currentTmRateBps tmDataRate
      tickDumpEmission octets (tickRtEmission octets s rateBps dt) rateBps dt downlinkActive
  | .broadcast => { s with tmQueue := s.tmQueue.drop 1 }

/-- What the dump pacer releases in an operation. -/
def dumpReleased (s : Downlink P) : Operation P → List (P × Nat)
  | .tick dt tmDataRate _ => (dumpRelease octets s (currentTmRateBps tmDataRate) dt).released
  | _ => []

/-- What the real-time pacer releases in an operation. -/
def rtReleased (s : Downlink P) : Operation P → List P
  | .tick dt tmDataRate _ => (rtRelease octets s (currentTmRateBps tmDataRate) dt).released
  | _ => []

/-- The state before position `i` of a run. -/
def stateAt (s : Downlink P) (ops : List (Operation P)) (i : Nat) : Downlink P :=
  after (step octets) s (ops.take i)

/-- The dump pacer releases an entry at position `j`; if the downlink is active there, the
packet is then on the downlink queue, unless the queue is full. -/
def ReleasedAt (s : Downlink P) (ops : List (Operation P)) (j : Nat) (entry : P × Nat) : Prop :=
  ∃ dt tmDataRate downlinkActive, ops[j]? = some (.tick dt tmDataRate downlinkActive) ∧
    entry ∈ dumpReleased octets (stateAt octets s ops j) (.tick dt tmDataRate downlinkActive) ∧
    (downlinkActive = true → entry.1 ∈ (stateAt octets s ops (j + 1)).tmQueue ∨
      tmQueueSize ≤ (stateAt octets s ops (j + 1)).tmQueue.length)

/-! ### The downlink queue -/

theorem length_putDumped (s : Downlink P) (entry : P × Nat) :
    s.tmQueue.length ≤ (putDumped s entry).tmQueue.length := by
  unfold putDumped
  split
  · simp
  · exact Nat.le_refl _

variable {entry : P × Nat} {s : Downlink P}

theorem mem_putDumped {pkt : P} (h : pkt ∈ s.tmQueue) : pkt ∈ (putDumped s entry).tmQueue := by
  unfold putDumped
  split
  · exact List.mem_append_left _ h
  · exact h

/-- What is on the queue stays there while more is put on it. -/
theorem putDumped_foldl_keeps (es : List (P × Nat)) (s : Downlink P) (pkt : P) :
    s.tmQueue.length ≤ (es.foldl putDumped s).tmQueue.length ∧
      (pkt ∈ s.tmQueue → pkt ∈ (es.foldl putDumped s).tmQueue) := by
  induction es generalizing s with
  | nil => exact ⟨Nat.le_refl _, id⟩
  | cons entry rest ih =>
      obtain ⟨hlen, hmem⟩ := ih (putDumped s entry)
      exact ⟨(length_putDumped s entry).trans hlen, fun h => hmem (mem_putDumped h)⟩

/-- A packet the dump pacer puts out is on the queue, unless the queue is full. -/
theorem putDumped_foldl_sends {es : List (P × Nat)} (h : entry ∈ es) (s : Downlink P) :
    entry.1 ∈ (es.foldl putDumped s).tmQueue ∨
      tmQueueSize ≤ (es.foldl putDumped s).tmQueue.length := by
  induction es generalizing s with
  | nil => cases h
  | cons first rest ih =>
      rcases List.mem_cons.mp h with rfl | hrest
      · obtain ⟨hlen, hmem⟩ := putDumped_foldl_keeps rest (putDumped s entry) entry.1
        by_cases hroom : s.tmQueue.length < tmQueueSize
        · left
          apply hmem
          simp [putDumped, hroom]
        · right
          have hgrow := (length_putDumped s entry).trans hlen
          show tmQueueSize ≤ (rest.foldl putDumped (putDumped s entry)).tmQueue.length
          omega
      · exact ih hrest (putDumped s first)

/-! ### What each operation does -/

theorem putDumped_foldl_frame (es : List (P × Nat)) (s : Downlink P) :
    (es.foldl putDumped s).storage = s.storage ∧
      (es.foldl putDumped s).dumpActiveStores = s.dumpActiveStores ∧
      (es.foldl putDumped s).rtPending = s.rtPending ∧
      (es.foldl putDumped s).rtByteBudget = s.rtByteBudget := by
  induction es generalizing s with
  | nil => exact ⟨rfl, rfl, rfl, rfl⟩
  | cons entry rest ih =>
      have hrest := ih (putDumped s entry)
      unfold putDumped at hrest
      split at hrest
      · rename_i hroom
        rw [List.foldl_cons, putDumped, if_pos hroom]
        exact hrest
      · rename_i hroom
        rw [List.foldl_cons, putDumped, if_neg hroom]
        exact hrest

theorem putTm_foldl_frame (ps : List P) (s : Downlink P) :
    (ps.foldl putTm s).storage = s.storage ∧
      (ps.foldl putTm s).dumpActiveStores = s.dumpActiveStores ∧
      (ps.foldl putTm s).dumpPending = s.dumpPending ∧
      (ps.foldl putTm s).dumpByteBudget = s.dumpByteBudget := by
  induction ps generalizing s with
  | nil => exact ⟨rfl, rfl, rfl, rfl⟩
  | cons pkt rest ih =>
      have hrest := ih (putTm s pkt)
      unfold putTm at hrest
      split at hrest
      · rename_i hroom
        rw [List.foldl_cons, putTm, if_pos hroom]
        exact hrest
      · rename_i hroom
        rw [List.foldl_cons, putTm, if_neg hroom]
        exact hrest

/-- The real-time pacer leaves the stores and the dump alone. -/
theorem tickRtEmission_frame (s : Downlink P) (rateBps dt : Rat) :
    (tickRtEmission octets s rateBps dt).storage = s.storage ∧
      (tickRtEmission octets s rateBps dt).dumpActiveStores = s.dumpActiveStores ∧
      (tickRtEmission octets s rateBps dt).dumpPending = s.dumpPending ∧
      (tickRtEmission octets s rateBps dt).dumpByteBudget = s.dumpByteBudget := by
  have hframe := putTm_foldl_frame (rtRelease octets s rateBps dt).released s
  cases hpending : (rtRelease octets s rateBps dt).pending with
  | nil | cons => simpa only [tickRtEmission, hpending] using hframe

/-- What the dump pacer leaves pending is what it did not release. -/
theorem tickDumpEmission_pending (s : Downlink P) (rateBps dt : Rat) (downlinkActive : Bool) :
    (tickDumpEmission octets s rateBps dt downlinkActive).dumpPending =
      (dumpRelease octets s rateBps dt).pending := by
  unfold tickDumpEmission
  split
  · rename_i hempty
    simp [dumpRelease, List.isEmpty_iff.mp hempty]
  · simp only
    split
    · rename_i hpending
      exact hpending.symm
    · rename_i hpending
      exact hpending.symm

/-- The dump pacer touches the stores only when it has released everything. -/
theorem tickDumpEmission_storage (s : Downlink P) (rateBps dt : Rat) (downlinkActive : Bool) :
    (tickDumpEmission octets s rateBps dt downlinkActive).storage = s.storage ∨
      (tickDumpEmission octets s rateBps dt downlinkActive).dumpPending = [] := by
  unfold tickDumpEmission
  split
  · exact .inl rfl
  · simp only
    split
    · left
      cases downlinkActive
      · rfl
      · exact (putDumped_foldl_frame _ s).1
    · exact .inr rfl

theorem tickDumpEmission_sends {rateBps dt : Rat}
    (h : entry ∈ (dumpRelease octets s rateBps dt).released) :
    entry.1 ∈ (tickDumpEmission octets s rateBps dt true).tmQueue ∨
      tmQueueSize ≤ (tickDumpEmission octets s rateBps dt true).tmQueue.length := by
  have hsent := putDumped_foldl_sends h s
  unfold tickDumpEmission
  split
  · rename_i hempty
    simp [dumpRelease, List.isEmpty_iff.mp hempty] at h
  · simp only
    split
    · exact hsent
    · exact hsent

theorem appendDump_eq (storeId : Nat) (packets : List P) (pending : List (P × Nat)) :
    appendDump storeId pending packets = pending ++
      (packets.take (maxDumpPending - pending.length)).map fun pkt => (pkt, storeId) := by
  induction packets generalizing pending with
  | nil => simp [appendDump]
  | cons pkt rest ih =>
      unfold appendDump
      split
      · rename_i hfull
        simp [Nat.sub_eq_zero_of_le hfull]
      · rename_i hroom
        have hone : maxDumpPending - pending.length =
            maxDumpPending - (pending.length + 1) + 1 := by omega
        rw [ih, hone]
        simp

/-- A dump queues the packets that find room, and only those. -/
theorem queueDump_pending (s : Downlink P) (storeId : Nat) :
    (queueDump s storeId).1.dumpPending = s.dumpPending ++
      ((startDump s.storage storeId).take (maxDumpPending - s.dumpPending.length)).map
        fun pkt => (pkt, storeId) := by
  unfold queueDump
  simp only
  split
  · rename_i hempty
    simp [List.isEmpty_iff.mp hempty]
  · exact appendDump_eq storeId _ _

theorem enqueueTm_dump (s : Downlink P) (pkt : P) (downlinkActive rtPacingActive : Bool)
    (swImage : Int) :
    (enqueueTm octets s pkt downlinkActive rtPacingActive swImage).dumpPending = s.dumpPending ∧
      (enqueueTm octets s pkt downlinkActive rtPacingActive swImage).dumpByteBudget =
        s.dumpByteBudget ∧
      (enqueueTm octets s pkt downlinkActive rtPacingActive swImage).rtByteBudget =
        s.rtByteBudget := by
  unfold enqueueTm putTm
  split_ifs <;> exact ⟨rfl, rfl, rfl⟩

/-- The real-time pacer does not change what the dump pacer releases. -/
theorem dumpRelease_tickRtEmission (s : Downlink P) (rateBps dt : Rat) :
    dumpRelease octets (tickRtEmission octets s rateBps dt) rateBps dt =
      dumpRelease octets s rateBps dt := by
  obtain ⟨_, _, hpending, hbudget⟩ := tickRtEmission_frame octets s rateBps dt
  rw [dumpRelease, hpending, hbudget]
  rfl

/-- **One step of the dump queue.**  A queued entry stays queued or is released. -/
theorem step_pending (h : entry ∈ s.dumpPending) (op : Operation P) :
    entry ∈ (step octets s op).dumpPending ∨ entry ∈ dumpReleased octets s op := by
  cases op with
  | storage | broadcast => exact .inl h
  | enqueueTm pkt downlinkActive rtPacingActive swImage =>
      left
      show entry ∈ (enqueueTm octets s pkt downlinkActive rtPacingActive swImage).dumpPending
      rw [(enqueueTm_dump octets s pkt downlinkActive rtPacingActive swImage).1]
      exact h
  | queueDump storeId =>
      left
      show entry ∈ (queueDump s storeId).1.dumpPending
      rw [queueDump_pending]
      exact List.mem_append_left _ h
  | tick dt tmDataRate downlinkActive =>
      let rateBps := currentTmRateBps tmDataRate
      have hall := release_conserves (entrySize octets) s.dumpPending
        (s.dumpByteBudget + rateBps / 8 * dt)
      rw [← hall, List.mem_append] at h
      rcases h with hreleased | hstays
      · exact .inr hreleased
      · left
        show entry ∈ (tickDumpEmission octets (tickRtEmission octets s rateBps dt) rateBps dt
          downlinkActive).dumpPending
        rw [tickDumpEmission_pending, dumpRelease_tickRtEmission]
        exact hstays

/-- A tick that changes the stores has released everything that was queued. -/
theorem step_tick_storage (s : Downlink P) (dt : Rat) (tmDataRate : Option Rat)
    (downlinkActive : Bool) :
    (step octets s (.tick dt tmDataRate downlinkActive)).storage = s.storage ∨
      (step octets s (.tick dt tmDataRate downlinkActive)).dumpPending = [] := by
  let rateBps := currentTmRateBps tmDataRate
  have hdump := tickDumpEmission_storage octets (tickRtEmission octets s rateBps dt) rateBps dt
    downlinkActive
  rw [(tickRtEmission_frame octets s rateBps dt).1] at hdump
  exact hdump

theorem step_tick_sends {dt : Rat} {tmDataRate : Option Rat} {downlinkActive : Bool}
    (h : entry ∈ dumpReleased octets s (.tick dt tmDataRate downlinkActive))
    (hactive : downlinkActive = true) :
    entry.1 ∈ (step octets s (.tick dt tmDataRate downlinkActive)).tmQueue ∨
      tmQueueSize ≤ (step octets s (.tick dt tmDataRate downlinkActive)).tmQueue.length := by
  subst hactive
  apply tickDumpEmission_sends
  rw [dumpRelease_tickRtEmission]
  exact h

/-! ### Whole runs -/

/-- **The dump queue over a run.**  What a dump queued is, at every later position, still
queued or has been released since. -/
theorem queued_or_released {ops : List (Operation P)} {d i : Nat} (hlt : d < i)
    (h : entry ∈ (stateAt octets s ops (d + 1)).dumpPending) :
    entry ∈ (stateAt octets s ops i).dumpPending ∨
      ∃ j, d < j ∧ j < i ∧ ReleasedAt octets s ops j entry := by
  induction hlt with
  | refl => exact .inl h
  | @step k hdk ih =>
      rcases ih with hpending | ⟨j, hdj, hjk, hreleased⟩
      · cases hop : ops[k]? with
        | none =>
            left
            have hshort := List.getElem?_eq_none_iff.mp hop
            rw [stateAt, List.take_of_length_le (Nat.le_succ_of_le hshort),
              ← List.take_of_length_le hshort]
            exact hpending
        | some op =>
            have hnext : stateAt octets s ops (k + 1) = step octets (stateAt octets s ops k) op :=
              after_take_succ hop
            rcases step_pending octets hpending op with hstays | hout
            · left
              rw [Nat.succ_eq_add_one, hnext]
              exact hstays
            · right
              refine ⟨k, hdk, Nat.lt_succ_self k, ?_⟩
              cases op with
              | tick dt tmDataRate downlinkActive =>
                  refine ⟨dt, tmDataRate, downlinkActive, hop, hout, fun hactive => ?_⟩
                  rw [hnext]
                  exact step_tick_sends octets hout hactive
              | _ => cases hout
      · exact .inr ⟨j, hdj, Nat.lt_succ_of_lt hjk, hreleased⟩

/-- A packet that has room when its store is dumped is queued. -/
theorem queued_at_dump {ops : List (Operation P)} {d k storeId : Nat} {x : P}
    (hdump : ops[d]? = some (.queueDump storeId))
    (hx : (startDump (stateAt octets s ops d).storage storeId)[k]? = some x)
    (hroom : k < maxDumpPending - (stateAt octets s ops d).dumpPending.length) :
    (x, storeId) ∈ (stateAt octets s ops (d + 1)).dumpPending := by
  have hnext : stateAt octets s ops (d + 1) =
      (queueDump (stateAt octets s ops d) storeId).1 := after_take_succ hdump
  rw [hnext, queueDump_pending]
  apply List.mem_append_right
  apply List.mem_map_of_mem
  have htake := List.getElem?_take_of_lt (l := startDump (stateAt octets s ops d).storage storeId)
    hroom
  exact List.mem_of_getElem? (htake.trans hx)

end Model

/-! ### The rate -/

/-- The simulation time an operation takes. -/
def Operation.elapsed {P : Type} : Operation P → Rat
  | .tick dt _ _ => dt
  | _ => 0

/-- The simulation time of a run. -/
def elapsed {P : Type} (ops : List (Operation P)) : Rat := (ops.map Operation.elapsed).sum

/-- Every tick of the run sees the same rate, and time does not run backwards. -/
def SteadyRate {P : Type} (rateBps : Rat) (ops : List (Operation P)) : Prop :=
  ∀ dt tmDataRate downlinkActive, Operation.tick dt tmDataRate downlinkActive ∈ ops →
    currentTmRateBps tmDataRate = rateBps ∧ 0 ≤ dt

section Rate

variable {P : Type} (octets : P → Bytes)

/-- The bytes both pacers release in an operation. -/
def bytesAt (s : Downlink P) (op : Operation P) : Nat :=
  totalSize (size octets) (rtReleased octets s op) +
    totalSize (entrySize octets) (dumpReleased octets s op)

/-- The bytes both pacers release over a run. -/
def bytesReleased (s : Downlink P) : List (Operation P) → Nat
  | [] => 0
  | op :: rest => bytesAt octets s op + bytesReleased (step octets s op) rest

/-- While packets of a dump are queued, the real-time pacer has nothing to release and no
credit left to gain. -/
def RtIdle (rateBps : Rat) (s : Downlink P) : Prop :=
  s.dumpPending = [] ∨ s.rtPending = [] ∧ rateBps / 8 ≤ s.rtByteBudget

/-- The credit both pacers carry over. -/
def credit (s : Downlink P) : Rat := s.rtByteBudget + s.dumpByteBudget

/-- Neither pacer is in debt. -/
def Solvent (s : Downlink P) : Prop := 0 ≤ s.rtByteBudget ∧ 0 ≤ s.dumpByteBudget

theorem capped_le {head budget : Rat} (h : 0 ≤ budget) (hhead : 0 ≤ head) :
    0 ≤ (if head < budget then head else budget) ∧
      (if head < budget then head else budget) ≤ budget := by
  split
  · exact ⟨hhead, le_of_lt (by assumption)⟩
  · exact ⟨h, le_refl _⟩

/-- The real-time pacer spends what it releases and keeps no more than the rest. -/
theorem tickRtEmission_budget (s : Downlink P) {rateBps dt : Rat} (hrate : 0 ≤ rateBps)
    (hbudget : 0 ≤ s.rtByteBudget) :
    0 ≤ (tickRtEmission octets s rateBps dt).rtByteBudget ∧
      (tickRtEmission octets s rateBps dt).rtByteBudget ≤ (rtRelease octets s rateBps dt).budget := by
  have hper : 0 ≤ rateBps / 8 := by linarith
  have hgain : 0 ≤ rateBps / 8 * max dt 0 := mul_nonneg hper (le_max_right dt 0)
  have hleft : 0 ≤ (rtRelease octets s rateBps dt).budget :=
    release_budget_nonneg _ _ (by linarith)
  cases hpending : (rtRelease octets s rateBps dt).pending with
  | nil =>
      simp only [tickRtEmission, hpending]
      exact ⟨le_min hleft hper, min_le_left _ _⟩
  | cons pkt rest =>
      simp only [tickRtEmission, hpending]
      exact capped_le hleft (Nat.cast_nonneg _)

/-- So does the dump pacer. -/
theorem tickDumpEmission_budget (s : Downlink P) {rateBps dt : Rat} (hrate : 0 ≤ rateBps)
    (hbudget : 0 ≤ s.dumpByteBudget) (hdt : 0 ≤ dt) (downlinkActive : Bool)
    (hqueued : s.dumpPending ≠ []) :
    0 ≤ (tickDumpEmission octets s rateBps dt downlinkActive).dumpByteBudget ∧
      (tickDumpEmission octets s rateBps dt downlinkActive).dumpByteBudget ≤
        (dumpRelease octets s rateBps dt).budget := by
  have hper : 0 ≤ rateBps / 8 := by linarith
  have hgain : 0 ≤ rateBps / 8 * dt := mul_nonneg hper hdt
  have hleft : 0 ≤ (dumpRelease octets s rateBps dt).budget :=
    release_budget_nonneg _ _ (by linarith)
  have hsome : s.dumpPending.isEmpty = false := by simp [hqueued]
  cases hpending : (dumpRelease octets s rateBps dt).pending with
  | nil =>
      simp only [tickDumpEmission, hsome, hpending]
      exact ⟨hleft, le_refl _⟩
  | cons entry rest =>
      simp only [tickDumpEmission, hsome, hpending]
      exact capped_le hleft (Nat.cast_nonneg _)

theorem tickDumpEmission_rt (s : Downlink P) (rateBps dt : Rat) (downlinkActive : Bool) :
    (tickDumpEmission octets s rateBps dt downlinkActive).rtByteBudget = s.rtByteBudget := by
  have hsent : (if downlinkActive then
      (dumpRelease octets s rateBps dt).released.foldl putDumped s else s).rtByteBudget =
        s.rtByteBudget := by
    split
    · exact (putDumped_foldl_frame _ s).2.2.2
    · rfl
  cases hempty : s.dumpPending.isEmpty with
  | true => simp only [tickDumpEmission, hempty, if_true]
  | false =>
      cases hpending : (dumpRelease octets s rateBps dt).pending with
      | nil => simpa only [tickDumpEmission, hempty, hpending, Bool.false_eq_true, if_false] using hsent
      | cons entry rest =>
          simpa only [tickDumpEmission, hempty, hpending, Bool.false_eq_true, if_false] using hsent

/-- **One tick.**  If the real-time pacer is idle whenever a dump is queued, what the tick
releases and the credit it leaves are paid by the rate. -/
theorem tick_pays {s : Downlink P} {rateBps dt : Rat} {tmDataRate : Option Rat}
    {downlinkActive : Bool} (hrate : 0 ≤ rateBps) (hsame : currentTmRateBps tmDataRate = rateBps)
    (hdt : 0 ≤ dt) (hs : Solvent s) (hidle : RtIdle rateBps s) :
    Solvent (step octets s (.tick dt tmDataRate downlinkActive)) ∧
      (bytesAt octets s (.tick dt tmDataRate downlinkActive) : Rat) +
        credit (step octets s (.tick dt tmDataRate downlinkActive)) ≤
          credit s + rateBps / 8 * dt := by
  subst hsame
  let rateBps := currentTmRateBps tmDataRate
  let s₁ := tickRtEmission octets s rateBps dt
  have hmax : max dt 0 = dt := max_eq_left hdt
  obtain ⟨hrt, hrtle⟩ := @tickRtEmission_budget P octets s _ dt hrate hs.1
  obtain ⟨_, _, hpending, hbudget⟩ := tickRtEmission_frame octets s rateBps dt
  have hspent := release_spends (size octets) s.rtPending
    (s.rtByteBudget + rateBps / 8 * max dt 0)
  have hdumped := release_spends (entrySize octets) s.dumpPending
    (s.dumpByteBudget + rateBps / 8 * dt)
  have hkeep : (step octets s (.tick dt tmDataRate downlinkActive)).rtByteBudget =
      s₁.rtByteBudget := tickDumpEmission_rt octets s₁ rateBps dt downlinkActive
  have hbytes : (bytesAt octets s (.tick dt tmDataRate downlinkActive) : Rat) =
      (totalSize (size octets) (rtRelease octets s rateBps dt).released : Rat) +
        (totalSize (entrySize octets) (dumpRelease octets s rateBps dt).released : Rat) := by
    simp [bytesAt, rtReleased, dumpReleased, rateBps]
  by_cases hnone : s.dumpPending = []
  · have hreset : (step octets s (.tick dt tmDataRate downlinkActive)).dumpByteBudget = 0 := by
      have hempty : s₁.dumpPending.isEmpty = true := by rw [hpending, hnone]; rfl
      show (tickDumpEmission octets s₁ rateBps dt downlinkActive).dumpByteBudget = 0
      rw [tickDumpEmission, if_pos hempty]
    have hzero : (dumpRelease octets s rateBps dt).released = [] := by
      rw [dumpRelease, hnone]
      rfl
    refine ⟨⟨hkeep ▸ hrt, le_of_eq hreset.symm⟩, ?_⟩
    rw [hbytes, credit, credit, hkeep, hreset, hzero, totalSize_nil]
    simp only [rtRelease, hmax] at hspent hrtle ⊢
    have hd := hs.2
    linarith
  · obtain ⟨hidlePending, hfull⟩ := hidle.resolve_left hnone
    have hqueued : s₁.dumpPending ≠ [] := by rw [hpending]; exact hnone
    have hsolvent : 0 ≤ s₁.dumpByteBudget := by rw [hbudget]; exact hs.2
    obtain ⟨hd, hdle⟩ := tickDumpEmission_budget octets s₁ hrate hsolvent hdt downlinkActive hqueued
    rw [dumpRelease_tickRtEmission] at hdle
    have hstays : s₁.rtByteBudget ≤ s.rtByteBudget := by
      have hempty : (rtRelease octets s rateBps dt).pending = [] := by
        rw [rtRelease, hidlePending]
        rfl
      show (tickRtEmission octets s rateBps dt).rtByteBudget ≤ s.rtByteBudget
      simp only [tickRtEmission, hempty]
      exact (min_le_right _ _).trans hfull
    have hzero : (rtRelease octets s rateBps dt).released = [] := by
      rw [rtRelease, hidlePending]
      rfl
    refine ⟨⟨hkeep ▸ hrt, hd⟩, ?_⟩
    rw [hbytes, credit, credit, hkeep, hzero, totalSize_nil]
    have hdle' : (step octets s (.tick dt tmDataRate downlinkActive)).dumpByteBudget ≤
        (dumpRelease octets s rateBps dt).budget := hdle
    simp only [dumpRelease] at hdumped hdle' ⊢
    linarith

/-- What happens between two ticks releases nothing and gives no credit. -/
theorem other_pays {s : Downlink P} {op : Operation P}
    (hop : ∀ dt tmDataRate downlinkActive, op ≠ .tick dt tmDataRate downlinkActive)
    (hs : Solvent s) :
    Solvent (step octets s op) ∧ bytesAt octets s op = 0 ∧ credit (step octets s op) = credit s ∧
      op.elapsed = 0 := by
  cases op with
  | storage | broadcast => exact ⟨hs, rfl, rfl, rfl⟩
  | enqueueTm pkt downlinkActive rtPacingActive swImage =>
      obtain ⟨_, hdump, hrt⟩ := enqueueTm_dump octets s pkt downlinkActive rtPacingActive swImage
      refine ⟨?_, rfl, ?_, rfl⟩
      · simp only [Solvent, step, hdump, hrt]
        exact hs
      · simp only [credit, step, hdump, hrt]
  | queueDump storeId =>
      have hbudgets : (queueDump s storeId).1.rtByteBudget = s.rtByteBudget ∧
          (queueDump s storeId).1.dumpByteBudget = s.dumpByteBudget := by
        unfold queueDump
        simp only
        split <;> exact ⟨rfl, rfl⟩
      refine ⟨?_, rfl, ?_, rfl⟩
      · simp only [Solvent, step, hbudgets.1, hbudgets.2]
        exact hs
      · simp only [credit, step, hbudgets.1, hbudgets.2]
  | tick dt tmDataRate downlinkActive => exact absurd rfl (hop dt tmDataRate downlinkActive)

/-- The bound over a run, from any state that is not in debt. -/
theorem run_pays {rateBps : Rat} (hrate : 0 ≤ rateBps) (ops : List (Operation P)) :
    ∀ s : Downlink P, Solvent s → SteadyRate rateBps ops →
      (∀ i dt tmDataRate downlinkActive, ops[i]? = some (.tick dt tmDataRate downlinkActive) →
        RtIdle rateBps (stateAt octets s ops i)) →
      (bytesReleased octets s ops : Rat) ≤ credit s + rateBps / 8 * elapsed ops := by
  induction ops with
  | nil =>
      intro s hs _ _
      have hcredit : 0 ≤ credit s := add_nonneg hs.1 hs.2
      simpa [bytesReleased, elapsed] using hcredit
  | cons op rest ih =>
      intro s hs hsteady hidle
      have hpaid : Solvent (step octets s op) ∧ (bytesAt octets s op : Rat) +
          credit (step octets s op) ≤ credit s + rateBps / 8 * op.elapsed := by
        by_cases htick : ∃ dt tmDataRate downlinkActive,
            op = .tick dt tmDataRate downlinkActive
        · obtain ⟨dt, tmDataRate, downlinkActive, rfl⟩ := htick
          obtain ⟨hsame, hdt⟩ := hsteady dt tmDataRate downlinkActive List.mem_cons_self
          exact tick_pays octets hrate hsame hdt hs (hidle 0 dt tmDataRate downlinkActive rfl)
        · obtain ⟨hsolvent, hbytes, hcredit, htime⟩ := other_pays octets
            (fun dt tmDataRate downlinkActive heq => htick ⟨dt, tmDataRate, downlinkActive, heq⟩) hs
          refine ⟨hsolvent, ?_⟩
          rw [hbytes, hcredit, htime]
          simp
      have hrest := ih (step octets s op) hpaid.1
        (fun dt tmDataRate downlinkActive hmem =>
          hsteady dt tmDataRate downlinkActive (List.mem_cons_of_mem op hmem))
        (fun i dt tmDataRate downlinkActive hop =>
          hidle (i + 1) dt tmDataRate downlinkActive hop)
      have hsum : elapsed (op :: rest) = op.elapsed + elapsed rest := by simp [elapsed]
      rw [bytesReleased, hsum]
      push_cast
      have hpay := hpaid.2
      rw [mul_add]
      linarith

end Rate

/-- An engine with the given stores and nothing on its way. -/
def start {P : Type} (storage : OnboardTMStorage P) : Downlink P := { storage := storage }

/-- **The rate of the downlink.**  In every run at a constant rate in which the real-time
pacer is idle whenever a dump is queued, the two pacers together release no more than the
rate allows for the elapsed time. -/
theorem paced_within_rate {P : Type} (octets : P → Bytes) {rateBps : Rat} (hrate : 0 ≤ rateBps)
    (storage : OnboardTMStorage P) (ops : List (Operation P)) (hsteady : SteadyRate rateBps ops)
    (hidle : ∀ i dt tmDataRate downlinkActive,
      ops[i]? = some (.tick dt tmDataRate downlinkActive) →
      RtIdle rateBps (stateAt octets (start storage) ops i)) :
    (bytesReleased octets (start storage) ops : Rat) ≤ rateBps * elapsed ops / 8 := by
  have hsolvent : Solvent (start storage) := ⟨le_refl _, le_refl _⟩
  have hpaid := run_pays octets hrate ops (start storage) hsolvent hsteady hidle
  have hcredit : credit (start storage) = 0 := add_zero 0
  rw [hcredit] at hpaid
  linarith

/-- A dump of one packet after a second without telemetry. -/
theorem paced_within_rate_dump :
    (bytesReleased id (start (init defaultStores))
      [.tick 1 (some 1000) true, .storage (.storePacketDirect 2 [8, 0, 7] 0), .queueDump 2,
        .tick 1 (some 1000) true] : Rat) ≤ 1000 * 2 / 8 := by
  have hpaced := @paced_within_rate Bytes id 1000 (by norm_num) (init defaultStores)
    [.tick 1 (some 1000) true, .storage (.storePacketDirect 2 [8, 0, 7] 0), .queueDump 2,
      .tick 1 (some 1000) true]
  have htime : elapsed ([.tick 1 (some 1000) true, .storage (.storePacketDirect 2 [8, 0, 7] 0),
      .queueDump 2, .tick 1 (some 1000) true] : List (Operation Bytes)) = 2 := by decide +kernel
  rw [htime] at hpaced
  apply hpaced
  · intro dt tmDataRate downlinkActive hmem
    simp only [List.mem_cons, Operation.tick.injEq, List.not_mem_nil, reduceCtorEq, or_false,
      false_or] at hmem
    rcases hmem with ⟨rfl, rfl, rfl⟩ | ⟨rfl, rfl, rfl⟩
    · exact ⟨by decide, by norm_num⟩
    · exact ⟨by decide, by norm_num⟩
  · intro i dt tmDataRate downlinkActive hop
    rcases i with _ | _ | _ | _ | i
    · exact .inl rfl
    · cases hop
    · cases hop
    · exact .inr (by decide +kernel)
    · cases hop

/-- A telemetry packet that carries a second's worth of 1000 bit/s. -/
def fullPacket : Bytes := List.replicate 125 0

/-- A stored packet is dumped and a real-time packet is due. -/
def busyArrivals : List (Operation Bytes) :=
  [.storage (.storePacketDirect 2 fullPacket 0), .queueDump 2, .enqueueTm fullPacket true true 1]

/-- One second in which both pacers have something to release. -/
def busySecond : List (Operation Bytes) :=
  busyArrivals ++ [.tick 1 (some 1000) true, .broadcast, .broadcast]

/-- The engine after some busy seconds. -/
def afterBusy (n : Nat) : Downlink Bytes :=
  { start (init defaultStores) with tmPacketsEnqueued := n }

/-- The stores in the middle of a busy second. -/
def busyStorage : OnboardTMStorage Bytes :=
  (storePacketDirect (init defaultStores) 2 fullPacket 0).1

/-- The engine in the middle of a busy second. -/
def amidBusy (n : Nat) : Downlink Bytes :=
  { afterBusy n with
    storage := busyStorage
    dumpPending := [(fullPacket, 2)]
    dumpActiveStores := [2]
    rtPending := [fullPacket] }

variable (n : Nat)

theorem rtRelease_amidBusy : rtRelease id (amidBusy n) 1000 1 =
    { released := [fullPacket], pending := [], budget := 0 } := by
  have hsize : size id fullPacket = 125 := rfl
  norm_num [rtRelease, amidBusy, afterBusy, start, release, hsize]

theorem dumpRelease_amidBusy : dumpRelease id (amidBusy n) 1000 1 =
    { released := [(fullPacket, 2)], pending := [], budget := 0 } := by
  have hsize : entrySize id (fullPacket, 2) = 125 := rfl
  norm_num [dumpRelease, amidBusy, afterBusy, start, release, hsize]

theorem currentTmRateBps_thousand : currentTmRateBps (some 1000) = 1000 := by
  simp [currentTmRateBps]

theorem after_busyArrivals : after (step id) (afterBusy n) busyArrivals = amidBusy n := by
  have hstored : startDump busyStorage 2 = [fullPacket] := by decide
  have hqueued : (queueDump { afterBusy n with storage := busyStorage } 2).1 =
      { afterBusy n with
        storage := busyStorage
        dumpPending := [(fullPacket, 2)]
        dumpActiveStores := [2] } := by
    rfl
  have hplain : (decommutatePacket fullPacket).bind DecommutatedPacket.secondary = none := by
    decide +kernel
  have hkept : storeTm id busyStorage fullPacket 1 = busyStorage := by
    unfold storeTm
    rw [id_eq, hplain]
    exact ite_self _
  calc after (step id) (afterBusy n) busyArrivals
      = enqueueTm id (queueDump { afterBusy n with storage := busyStorage } 2).1 fullPacket
          true true 1 := rfl
    _ = amidBusy n := by
      rw [hqueued]
      simp [enqueueTm, hkept, amidBusy, afterBusy, start]

/-- Both packets leave in the tick, and the stores are as before. -/
theorem step_amidBusy : step id (amidBusy n) (.tick 1 (some 1000) true) =
    { afterBusy (n + 1) with tmQueue := [fullPacket, fullPacket] } := by
  have hcleared : deleteStore busyStorage 2 = init defaultStores := Dict.ext (by decide)
  have hrt : tickRtEmission id (amidBusy n) 1000 1 =
      { amidBusy n with
        rtPending := []
        tmQueue := [fullPacket]
        tmPacketsEnqueued := n + 1 } := by
    simp only [tickRtEmission, rtRelease_amidBusy]
    norm_num [putTm, tmQueueSize, amidBusy, afterBusy, start]
  have hdump := dumpRelease_tickRtEmission id (amidBusy n) 1000 1
  rw [hrt, dumpRelease_amidBusy] at hdump
  simp only [step, currentTmRateBps_thousand, hrt]
  unfold tickDumpEmission
  simp only [hdump]
  simp [putDumped, tmQueueSize, hcleared, amidBusy, afterBusy, start]

theorem after_busySecond : after (step id) (afterBusy n) busySecond = afterBusy (n + 1) := by
  rw [busySecond, after_append, after_busyArrivals]
  simp only [after, List.foldl_cons, step_amidBusy]
  rfl

theorem bytesReleased_append {P : Type} (octets : P → Bytes) (s : Downlink P)
    (ops ops' : List (Operation P)) : bytesReleased octets s (ops ++ ops') =
      bytesReleased octets s ops + bytesReleased octets (after (step octets) s ops) ops' := by
  induction ops generalizing s with
  | nil => simp [bytesReleased]
  | cons op rest ih =>
      rw [List.cons_append, bytesReleased, bytesReleased, ih, Nat.add_assoc]
      rfl

/-- A busy second releases two seconds' worth. -/
theorem bytesReleased_busySecond : bytesReleased id (afterBusy n) busySecond = 250 := by
  have hboth : bytesAt id (amidBusy n) (.tick 1 (some 1000) true) = 250 := by
    simp only [bytesAt, rtReleased, dumpReleased, currentTmRateBps_thousand, rtRelease_amidBusy,
      dumpRelease_amidBusy]
    simp [size, entrySize, fullPacket]
  rw [busySecond, bytesReleased_append, after_busyArrivals]
  simp only [bytesReleased, hboth]
  rfl

/-- Some busy seconds in a row. -/
def busySeconds (n : Nat) : List (Operation Bytes) := (List.replicate n busySecond).flatten

theorem bytesReleased_busySeconds (n m : Nat) :
    bytesReleased id (afterBusy m) (busySeconds n) = 250 * n := by
  induction n generalizing m with
  | zero => rfl
  | succ k ih =>
      have hcons : busySeconds (k + 1) = busySecond ++ busySeconds k := rfl
      rw [hcons, bytesReleased_append, bytesReleased_busySecond, after_busySecond, ih]
      omega

theorem elapsed_busySeconds : elapsed (busySeconds n) = n := by
  induction n with
  | zero => rfl
  | succ k ih =>
      have hone : elapsed busySecond = 1 := by decide +kernel
      have hcons : busySeconds (k + 1) = busySecond ++ busySeconds k := rfl
      have happ : elapsed (busySecond ++ busySeconds k) = elapsed busySecond + elapsed (busySeconds k) := by
        simp [elapsed]
      rw [hcons, happ, hone, ih]
      rw [Nat.cast_succ, add_comm]

theorem steadyRate_busySeconds : SteadyRate 1000 (busySeconds n) := by
  intro dt tmDataRate downlinkActive hmem
  obtain ⟨second, hsecond, hop⟩ := List.mem_flatten.mp hmem
  rw [List.eq_of_mem_replicate hsecond] at hop
  simp only [busySecond, busyArrivals, List.cons_append, List.nil_append, List.mem_cons,
    Operation.tick.injEq, List.not_mem_nil, reduceCtorEq, or_false, false_or] at hop
  obtain ⟨rfl, rfl, rfl⟩ := hop
  exact ⟨currentTmRateBps_thousand, by norm_num⟩

/-- **Two pacers, one link.**  No initial credit bounds what both release at a constant
rate. -/
theorem no_credit_bounds :
    ¬ ∃ credit : Rat, ∀ ops : List (Operation Bytes), SteadyRate 1000 ops →
      (bytesReleased id (start (init defaultStores)) ops : Rat) ≤
        1000 * elapsed ops / 8 + credit := by
  intro ⟨credit, hbound⟩
  obtain ⟨n, hn⟩ := exists_nat_gt (credit / 125)
  have hover := hbound (busySeconds n) (steadyRate_busySeconds n)
  have hbytes : bytesReleased id (start (init defaultStores)) (busySeconds n) = 250 * n :=
    bytesReleased_busySeconds n 0
  rw [hbytes, elapsed_busySeconds] at hover
  push_cast at hover
  have hcredit : credit < 125 * n := by linarith
  linarith

end TmDownlink
