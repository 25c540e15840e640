import Mathlib.Algebra.Order.BigOperators.Group.List
import Mathlib.Algebra.Order.Ring.Nat
import MissionSim.TmMultiplex

/-!
# What a multiplexed session delivers

The frames of a session, idle fill apart, are channels woven together: the frames
of one channel are the frames its builder emitted, in order.  `Accounts` keeps the
books during a session: for each channel, the frames sent and pending carry its
packets in order, and the tally of the abstract session agrees with the queue and
the buffer.
-/

namespace Ccsds

open Octets Ecss VCMultiplexer List Function

variable {α : Type} [Octet α]

omit [Octet α] in
/-- The frames of a sequence that are not idle fill. -/
def dataFrames (frames : List (TMFrame α)) : List (TMFrame α) :=
  frames.filter fun frame => !frame.isIdle

omit [Octet α] in
@[simp] theorem dataFrames_append (fs gs : List (TMFrame α)) :
    dataFrames (fs ++ gs) = dataFrames fs ++ dataFrames gs :=
  filter_append fs gs

omit [Octet α] in
@[simp] theorem lane_append (vcid : Nat) (fs gs : List (TMFrame α)) :
    lane vcid (fs ++ gs) = lane vcid fs ++ lane vcid gs :=
  filter_append fs gs

omit [Octet α] in
theorem dataFrames_eq_self {fs : List (TMFrame α)} (h : ∀ f ∈ fs, f.isIdle = false) :
    dataFrames fs = fs :=
  filter_eq_self.mpr fun f hf => by simp [h f hf]

variable {vcid : Nat}

omit [Octet α] in
theorem lane_eq_self {fs : List (TMFrame α)} (h : ∀ f ∈ fs, f.header.vcid = vcid) :
    lane vcid fs = fs :=
  filter_eq_self.mpr fun f hf => by simp [h f hf]

omit [Octet α] in
theorem lane_eq_nil {fs : List (TMFrame α)} (h : ∀ f ∈ fs, f.header.vcid ≠ vcid) :
    lane vcid fs = [] :=
  filter_eq_nil_iff.mpr fun f hf => by simpa using h f hf

/-- A channel not yet flushed: the frames sent and pending carry the packets
`added`, up to what the builder holds back, which is less than a zone. -/
structure LaneOpen (fmt : FrameFormat) (b : TMFrameBuilder α) (vcid : Nat)
    (frames : List (TMFrame α)) (added : List (List α)) : Prop where
  books : ∃ zs done s d q,
    Frames fmt vcid frames [] [] zs done s d ∧ (∀ z ∈ zs, z.pad = []) ∧
      Buffered b vcid 0 s d q ∧ added = done ++ (inProgress s d ++ q)
  short : (b.vcBuffers vcid).length < fmt.dataZoneLength

/-- A channel after the final flush: its frames carry all of its packets. -/
structure LaneDone (fmt : FrameFormat) (b : TMFrameBuilder α) (vcid : Nat)
    (frames : List (TMFrame α)) (added : List (List α)) : Prop where
  books : ∃ zs, Frames fmt vcid frames [] [] zs added [] [] ∧ ∀ z ∈ zs.dropLast, z.pad = []
  empty : b.vcBuffers vcid = []

variable {fmt : FrameFormat} {frames : List (TMFrame α)}

theorem Frames.vcid_eq {s d s' d' : List α} {zs : List (Zone α)} {done : List (List α)}
    (h : Frames fmt vcid frames s d zs done s' d') : ∀ f ∈ frames, f.header.vcid = vcid :=
  fun f hf => (h.sealed f hf).1

/-- Adding a packet appends the frames it completes. -/
theorem LaneOpen.addPacket {b : TMFrameBuilder α} {added : List (List α)}
    (h : LaneOpen fmt b vcid frames added) (hfmt : b.format = fmt) {packet : List α}
    (hp : WellFormedPacket packet) :
    LaneOpen fmt (b.addPacket packet vcid).2 vcid (frames ++ (b.addPacket packet vcid).1)
      (added ++ [packet]) := by
  obtain ⟨zs, done, s, d, q, hframes, hfull, hbuf, rfl⟩ := h.books
  obtain ⟨ws, done', s', d', q', hemits, hbuf', hless, hfull'⟩ := addPacket_emits hbuf hp
  rw [hfmt] at hless
  refine ⟨⟨zs ++ ws, done ++ done', s', d', q', ?_, ?_, hbuf', ?_⟩, hless⟩
  · have hnew := hemits.frames
    rw [hfmt] at hnew
    exact hframes.append hnew
  · intro z hz
    exact (mem_append.mp hz).elim (hfull z) (hfull' z)
  · have hcons := hemits.conserved
    simp only [append_assoc] at hcons ⊢
    rw [hcons]

/-- The final flush of a channel emits what is held back. -/
theorem LaneOpen.flush {b : TMFrameBuilder α} {added : List (List α)}
    (h : LaneOpen fmt b vcid frames added) (hfmt : b.format = fmt) :
    LaneDone fmt (b.flush vcid).2 vcid (frames ++ (b.flush vcid).1) added := by
  obtain ⟨zs, done, s, d, q, hframes, hfull, hbuf, rfl⟩ := h.books
  obtain ⟨ws, hemits, hclear⟩ := flush_emits hbuf
  have hlen := flush_length (hfmt ▸ h.short)
  rw [hemits.frames.carried.length_eq] at hlen
  have hnew := hemits.frames
  rw [hfmt] at hnew
  refine ⟨⟨zs ++ ws, hframes.append hnew, ?_⟩, by simpa using hclear.buffer⟩
  match ws, hlen with
  | [], _ => simpa using fun z hz => hfull z ((dropLast_sublist zs).subset hz)
  | [w], _ => simpa using hfull
  | _ :: _ :: _, hlen => split at hlen <;> simp at hlen

/-- Flushing a flushed channel emits nothing. -/
theorem LaneDone.flush {b : TMFrameBuilder α} {added : List (List α)}
    (h : LaneDone fmt b vcid frames added) :
    (b.flush vcid).1 = [] ∧ LaneDone fmt (b.flush vcid).2 vcid frames added := by
  have hempty : (b.vcBuffers vcid).isEmpty := by simp [h.empty]
  have hflush : b.flush vcid = ([], b.clearChannel vcid) := by
    simp [TMFrameBuilder.flush, hempty]
  rw [hflush]
  exact ⟨rfl, h.books, by simp [TMFrameBuilder.clearChannel]⟩

/-! ### The books of a session -/

/-- The multiplexer in format `fmt` after frames `sent`, with packets `added`, and
the tally of the abstract session. -/
structure Accounts (fmt : FrameFormat) (m : VCMultiplexer α) (t : Tally)
    (sent : List (TMFrame α)) (added : Nat → List (List α)) : Prop where
  format : ∀ v, (m.builders v).format = fmt
  lanes : ∀ v ∈ m.vcIds, v ≠ idleChannel →
    LaneOpen fmt (m.builders v) v (lane v (dataFrames sent) ++ m.pending v) (added v)
  served : ∀ f ∈ dataFrames sent, f.header.vcid ∈ m.vcIds ∧ f.header.vcid ≠ idleChannel
  ready : ∀ v, t.ready v = (m.pending v).length
  held : ∀ v, t.held v = ((m.builders v).vcBuffers v).length

theorem Accounts.fresh (scid : Nat) (fmt : FrameFormat) (vcIds : List Nat)
    (served : vcIds ≠ []) :
    Accounts fmt (create scid fmt vcIds served : VCMultiplexer α) {} []
      (fun _ => []) := by
  refine ⟨fun _ => rfl, fun v _ _ => ⟨⟨[], [], [], [], [], Frames.nil fmt v [] [], by simp,
    Buffered.fresh scid v fmt, rfl⟩, fmt.dataZoneLength_pos⟩, by simp [dataFrames],
    fun _ => rfl, fun _ => rfl⟩

variable {added : Nat → List (List α)} {m : VCMultiplexer α} {sent : List (TMFrame α)} {t : Tally}

theorem Accounts.addPacket (h : Accounts fmt m t sent added) {packet : List α}
    (hp : WellFormedPacket packet) (vcid : Nat) :
    Accounts fmt (m.addPacket packet vcid)
      (t.add fmt.dataZoneLength m.vcIds packet.length vcid) sent
      (update added vcid (added vcid ++ [packet])) := by
  unfold VCMultiplexer.addPacket Tally.add
  by_cases hserved : vcid ∈ m.vcIds
  · simp only [if_pos hserved]
    have hlength := addPacket_length (m.builders vcid) packet vcid
    rw [h.format vcid] at hlength
    refine ⟨fun v => ?_, fun v hv hidle => ?_, h.served, fun v => ?_, fun v => ?_⟩
    · by_cases hv : v = vcid
      · subst hv
        simpa [addPacket_format] using h.format v
      · simpa [hv] using h.format v
    · by_cases hv' : v = vcid
      · subst hv'
        have := (h.lanes v hv hidle).addPacket (h.format v) hp
        simpa using this
      · simpa [hv'] using h.lanes v hv hidle
    · by_cases hv : v = vcid
      · subst hv
        simp [h.ready, h.held, hlength.1]
      · simpa [hv] using h.ready v
    · by_cases hv : v = vcid
      · subst hv
        simp [h.held, hlength.2]
      · simpa [hv] using h.held v
  · simp only [if_neg hserved]
    refine ⟨h.format, fun v hv hidle => ?_, h.served, h.ready, h.held⟩
    have hne : v ≠ vcid := fun heq => hserved (heq ▸ hv)
    simpa [hne] using h.lanes v hv hidle

/-- Books and tally agree on whose turn it is. -/
theorem Accounts.turn_eq (h : Accounts fmt m t sent added) :
    t.turn m.vcIds = m.vcIds.find? m.isReady := by
  unfold Tally.turn
  congr 1
  funext v
  rw [isReady, h.ready]
  cases m.pending v <;> simp

/-- Taking a frame while one is ready: the next frame of the channel whose turn it is. -/
theorem Accounts.take (hfmt : fmt.CarriesPackets) (h : Accounts fmt m t sent added)
    (hturn : t.turn m.vcIds = some vcid) :
    Accounts fmt m.getNextFrame.2 (t.take vcid) (sent ++ [m.getNextFrame.1]) added ∧
      dataFrames [m.getNextFrame.1] = [m.getNextFrame.1] ∧
      m.getNextFrame.1.header.vcid = vcid ∧ m.getNextFrame.2.vcIds = m.vcIds := by
  rw [h.turn_eq] at hturn
  have hready := find?_some hturn
  have hserved := mem_of_find?_eq_some hturn
  simp only [isReady, Bool.and_eq_true, bne_iff_ne, Bool.not_eq_true',
    isEmpty_eq_false_iff] at hready
  obtain ⟨hidle, hne⟩ := hready
  obtain ⟨frame, rest, hpending⟩ := exists_cons_of_ne_nil hne
  have hnext : m.getNextFrame =
      (frame, { m with pending := update m.pending vcid rest }) := by
    simp only [getNextFrame, hturn, hpending]
  obtain ⟨zs, done, s, d, q, hframes, _⟩ := (h.lanes vcid hserved hidle).books
  have hmem : frame ∈ lane vcid (dataFrames sent) ++ m.pending vcid := by simp [hpending]
  have hvcid := hframes.vcid_eq frame hmem
  have hdata : dataFrames [frame] = [frame] := dataFrames_eq_self fun f hf => by
    rw [mem_singleton.mp hf]
    exact (hframes.pointer_lt hfmt.1 frame hmem).2
  rw [hnext]
  refine ⟨⟨h.format, fun v hv hv' => ?_, ?_, fun v => ?_, h.held⟩, hdata, hvcid, rfl⟩
  · have hlane := h.lanes v hv hv'
    rw [dataFrames_append, lane_append, hdata]
    by_cases heq : v = vcid
    · subst heq
      rw [hpending] at hlane
      simpa [lane, hvcid] using hlane
    · have hother : lane v [frame] = [] := lane_eq_nil fun f hf => by
        rw [mem_singleton.mp hf, hvcid]
        exact Ne.symm heq
      simpa [hother, heq] using hlane
  · intro f hf
    rw [dataFrames_append, hdata] at hf
    rcases mem_append.mp hf with hf | hf
    · exact h.served f hf
    · rw [mem_singleton.mp hf, hvcid]
      exact ⟨hserved, hidle⟩
  · by_cases heq : v = vcid
    · subst heq
      simp [Tally.take, h.ready, hpending]
    · simpa [Tally.take, heq] using h.ready v

/-- Taking a frame while none is ready: idle fill. -/
theorem Accounts.takeIdle (h : Accounts fmt m t sent added) (hturn : t.turn m.vcIds = none) :
    Accounts fmt m.getNextFrame.2 t (sent ++ [m.getNextFrame.1]) added ∧
      dataFrames [m.getNextFrame.1] = [] ∧ m.getNextFrame.2.vcIds = m.vcIds ∧
      m.getNextFrame.1.SealedFor fmt idleChannel ∧
      m.getNextFrame.1.header.firstHeaderPointer < 2 ^ 11 := by
  rw [h.turn_eq] at hturn
  have hnext : m.getNextFrame = m.nextIdle := by
    simp only [getNextFrame, hturn]
  rw [hnext]
  have hdata : dataFrames [m.nextIdle.1] = [] := by
    simp [dataFrames, nextIdle, TMFrameBuilder.buildIdleFrame, TMFrame.isIdle]
  -- only the counters of one builder change
  have hbuilders : ∀ v, (m.nextIdle.2.builders v).format = (m.builders v).format ∧
      (m.nextIdle.2.builders v).vcBuffers = (m.builders v).vcBuffers ∧
      (m.nextIdle.2.builders v).pktOffsets = (m.builders v).pktOffsets := by
    intro v
    simp only [nextIdle]
    generalize (if idleChannel ∈ m.vcIds then idleChannel else m.vcIds.head m.served) = u
    by_cases hv : v = u
    · subst hv
      simp [TMFrameBuilder.buildIdleFrame]
    · simp [hv]
  refine ⟨⟨fun v => (hbuilders v).1.trans (h.format v), fun v hv hidle => ?_, ?_, h.ready,
    fun v => ?_⟩, hdata, rfl, ?_, ?_⟩
  · obtain ⟨⟨zs, done, s, d, q, hframes, hfull, hbuf, hadded⟩, hshort⟩ := h.lanes v hv hidle
    rw [dataFrames_append, hdata, append_nil]
    refine ⟨⟨zs, done, s, d, q, hframes, hfull, ⟨hbuf.openOk, hbuf.queueOk, ?_, ?_⟩, hadded⟩, ?_⟩
    · rw [(hbuilders v).2.1]
      exact hbuf.buffer
    · rw [(hbuilders v).2.2]
      exact hbuf.offsets
    · rw [(hbuilders v).2.1]
      exact hshort
  · rw [dataFrames_append, hdata, append_nil]
    exact h.served
  · rw [(hbuilders v).2.1]
    exact h.held v
  · have hsealed : m.nextIdle.1.SealedFor (m.builders (if idleChannel ∈ m.vcIds then
        idleChannel else m.vcIds.head m.served)).format idleChannel :=
      buildFrame_sealed _ idleChannel _ _
    rwa [h.format] at hsealed
  · have hptr : firstHeaderPointerNoPacket < 2 ^ 11 := by decide
    exact hptr

/-! ### Runs -/

/-- What goes on the link passes the parser's check. -/
def Sendable (fmt : FrameFormat) (frames : List (TMFrame α)) : Prop :=
  ∀ frame ∈ frames, (∃ vcid, frame.SealedFor fmt vcid) ∧
    frame.header.firstHeaderPointer < 2 ^ 11

/-- A stretch of a session: from one state of the books to another, emitting
`frames`, whose data frames come from the channels `order`. -/
structure Stretch (fmt : FrameFormat) (m : VCMultiplexer α) (sent : List (TMFrame α))
    (frames : List (TMFrame α)) (order : List Nat) (m' : VCMultiplexer α) (t' : Tally)
    (added' : Nat → List (List α)) : Prop where
  books : Accounts fmt m' t' (sent ++ frames) added'
  order : (dataFrames frames).map (fun f => f.header.vcid) = order
  vcIds : m'.vcIds = m.vcIds
  sendable : Sendable fmt frames

/-- Taking one frame. -/
theorem Accounts.next (hfmt : fmt.CarriesPackets) (h : Accounts fmt m t sent added) :
    Stretch fmt m sent [m.getNextFrame.1] (t.turn m.vcIds).toList m.getNextFrame.2
      (match t.turn m.vcIds with
        | some vcid => t.take vcid
        | none => t) added := by
  cases hturn : t.turn m.vcIds with
  | none =>
      obtain ⟨hbooks, hdata, hvc, hsealed, hptr⟩ := h.takeIdle hturn
      refine ⟨hbooks, by simp [hdata], hvc, fun f hf => ?_⟩
      rw [mem_singleton.mp hf]
      exact ⟨⟨_, hsealed⟩, hptr⟩
  | some vcid =>
      obtain ⟨hbooks, hdata, hvcid, hvc⟩ := h.take hfmt hturn
      refine ⟨hbooks, by simp [hdata, hvcid], hvc, fun f hf => ?_⟩
      have hf' : f ∈ lane f.header.vcid (dataFrames (sent ++ [m.getNextFrame.1])) := by
        rw [mem_singleton.mp hf]
        simp [lane, hdata]
      have hserved := hbooks.served f (by
        rw [mem_singleton.mp hf]
        simp [hdata])
      obtain ⟨zs, done, s, d, q, hframes, _⟩ := (hbooks.lanes _ hserved.1 hserved.2).books
      have hmem := mem_append_left (m.getNextFrame.2.pending f.header.vcid) hf'
      exact ⟨⟨_, hframes.sealed f hmem⟩, (hframes.pointer_lt hfmt.1 f hmem).1⟩

theorem Stretch.nil (h : Accounts fmt m t sent added) : Stretch fmt m sent [] [] m t added :=
  ⟨by simpa using h, rfl, rfl, by simp [Sendable]⟩

theorem Stretch.append {m m₁ m₂ : VCMultiplexer α} {sent fs gs : List (TMFrame α)}
    {o₁ o₂ : List Nat} {t₁ t₂ : Tally} {added₁ added₂ : Nat → List (List α)}
    (h : Stretch fmt m sent fs o₁ m₁ t₁ added₁)
    (h' : Stretch fmt m₁ (sent ++ fs) gs o₂ m₂ t₂ added₂) :
    Stretch fmt m sent (fs ++ gs) (o₁ ++ o₂) m₂ t₂ added₂ := by
  refine ⟨?_, ?_, h'.vcIds.trans h.vcIds, ?_⟩
  · rw [← append_assoc]
    exact h'.books
  · rw [dataFrames_append, map_append, h.order, h'.order]
  · intro f hf
    exact (mem_append.mp hf).elim (h.sendable f) (h'.sendable f)

/-- **The calls of a session.** -/
theorem Accounts.run (hfmt : fmt.CarriesPackets) (h : Accounts fmt m t sent added)
    {ops : List (MuxOp α)} (hops : ∀ v, ∀ p ∈ packetsOn v ops, WellFormedPacket p) :
    Stretch fmt m sent (m.run ops).1 (t.run fmt.dataZoneLength m.vcIds ops).1 (m.run ops).2
      (t.run fmt.dataZoneLength m.vcIds ops).2 (fun v => added v ++ packetsOn v ops) := by
  induction ops generalizing m t sent added with
  | nil => simpa [run, Tally.run, packetsOn] using Stretch.nil h
  | cons op ops ih =>
      cases op with
      | add packet vcid =>
          have hp : WellFormedPacket packet := hops vcid packet (by simp [packetsOn])
          have hrest : ∀ v, ∀ p ∈ packetsOn v ops, WellFormedPacket p := fun v p hmem =>
            hops v p (by
              rw [packetsOn]
              split
              · exact mem_cons_of_mem _ hmem
              · exact hmem)
          have hvc : (m.addPacket packet vcid).vcIds = m.vcIds := by
            unfold VCMultiplexer.addPacket
            split <;> rfl
          have hnext := ih (h.addPacket hp vcid) hrest
          rw [hvc] at hnext
          have hadded : (fun v => update added vcid (added vcid ++ [packet]) v ++
              packetsOn v ops) = fun v => added v ++ packetsOn v (.add packet vcid :: ops) := by
            funext v
            by_cases hv : v = vcid
            · subst hv
              simp [packetsOn]
            · simp [packetsOn, hv, Ne.symm hv]
          rw [hadded] at hnext
          exact ⟨hnext.books, hnext.order, hnext.vcIds.trans hvc, hnext.sendable⟩
      | next =>
          have hfirst := h.next hfmt
          have hrest := ih hfirst.books hops
          rw [hfirst.vcIds] at hrest
          have hall := hfirst.append hrest
          simp only [run, Tally.run, packetsOn]
          cases hturn : t.turn m.vcIds <;> simpa [hturn] using hall

/-- Taking a pending frame shortens the backlog. -/
theorem getNextFrame_backlog (h : m.hasData = true) : m.getNextFrame.2.backlog < m.backlog := by
  obtain ⟨v, hv, hready⟩ := any_eq_true.mp h
  cases hturn : m.vcIds.find? m.isReady with
  | none => exact absurd hready (find?_eq_none.mp hturn v hv)
  | some vcid =>
      have hready := find?_some hturn
      have hserved := mem_of_find?_eq_some hturn
      simp only [isReady, Bool.and_eq_true, Bool.not_eq_true',
        isEmpty_eq_false_iff] at hready
      obtain ⟨frame, rest, hpending⟩ := exists_cons_of_ne_nil hready.2
      simp only [getNextFrame, hturn, hpending]
      refine sum_lt_sum _ _ (fun w _ => ?_) ⟨vcid, hserved, by simp [hpending]⟩
      by_cases hw : w = vcid
      · subst hw
        simp [hpending]
      · simp [hw]

/-- Draining leaves nothing pending. -/
theorem drain_hasData {fuel : Nat} (h : m.backlog ≤ fuel) : (m.drain fuel).2.hasData = false := by
  induction fuel generalizing m with
  | zero =>
      by_contra hdata
      rw [Bool.not_eq_false] at hdata
      have hless := getNextFrame_backlog (m := m) hdata
      omega
  | succ fuel ih =>
      unfold drain
      by_cases hdata : m.hasData = true
      · have := getNextFrame_backlog hdata
        simp only [if_pos hdata]
        exact ih (by omega)
      · simp [hdata]

/-- **Draining.** -/
theorem Accounts.drain (hfmt : fmt.CarriesPackets) (fuel : Nat) (h : Accounts fmt m t sent added) :
    Stretch fmt m sent (m.drain fuel).1 (Tally.drain m.vcIds fuel t).1 (m.drain fuel).2
      (Tally.drain m.vcIds fuel t).2 added := by
  induction fuel generalizing m t sent with
  | zero => exact Stretch.nil h
  | succ fuel ih =>
      have hdata : m.hasData = (t.turn m.vcIds).isSome := by
        rw [h.turn_eq, hasData, Bool.eq_iff_iff, any_eq_true,
          find?_isSome]
      have hfirst := h.next hfmt
      unfold drain Tally.drain
      cases hturn : t.turn m.vcIds with
      | none =>
          rw [hturn] at hdata
          simpa [hdata] using Stretch.nil h
      | some vcid =>
          rw [hturn] at hdata hfirst
          have hrest := ih hfirst.books
          rw [hfirst.vcIds] at hrest
          simpa [hdata] using hfirst.append hrest

/-! ### The final flush -/

/-- The books during the final flush: nothing is pending, and a channel is either
still to be flushed or done. -/
structure Flushing (fmt : FrameFormat) (m : VCMultiplexer α) (t : Tally)
    (sent : List (TMFrame α)) (added : Nat → List (List α)) : Prop where
  format : ∀ v, (m.builders v).format = fmt
  lanes : ∀ v ∈ m.vcIds, v ≠ idleChannel →
    LaneOpen fmt (m.builders v) v (lane v (dataFrames sent)) (added v) ∨
      LaneDone fmt (m.builders v) v (lane v (dataFrames sent)) (added v)
  served : ∀ f ∈ dataFrames sent, f.header.vcid ∈ m.vcIds ∧ f.header.vcid ≠ idleChannel
  held : ∀ v, t.held v = ((m.builders v).vcBuffers v).length

/-- Once nothing is pending the final flush may begin. -/
theorem Accounts.flushing (h : Accounts fmt m t sent added) (hdata : m.hasData = false) :
    Flushing fmt m t sent added := by
  refine ⟨h.format, fun v hv hidle => Or.inl ?_, h.served, h.held⟩
  have hlane := h.lanes v hv hidle
  have hpending : m.pending v = [] := by
    have := any_eq_false.mp hdata v hv
    simpa [isReady, hidle] using this
  rwa [hpending, append_nil] at hlane

/-- Flushing one channel: it is done, the others are as they were, and a frame goes
out if octets were held back. -/
theorem Flushing.flush (hfmt : fmt.CarriesPackets) (h : Flushing fmt m t sent added)
    (hserved : vcid ∈ m.vcIds) (hidle : vcid ≠ idleChannel) :
    let flushed := (m.builders vcid).flush vcid
    Flushing fmt { m with builders := update m.builders vcid flushed.2 }
        { t with held := update t.held vcid 0 } (sent ++ flushed.1) added ∧
      LaneDone fmt flushed.2 vcid (lane vcid (dataFrames (sent ++ flushed.1))) (added vcid) ∧
      (∀ f ∈ flushed.1, f.header.vcid = vcid) ∧
      (dataFrames flushed.1).map (fun f => f.header.vcid) =
        (if t.held vcid = 0 then [] else [vcid]) ∧ Sendable fmt flushed.1 := by
  intro flushed
  have hdone : LaneDone fmt flushed.2 vcid (lane vcid (dataFrames sent) ++ flushed.1)
        (added vcid) ∧ flushed.1.length = if t.held vcid = 0 then 0 else 1 := by
    rcases h.lanes vcid hserved hidle with hopen | hdone
    · have hlen := flush_length (by
        rw [h.format]
        exact hopen.short)
      rw [← h.held] at hlen
      exact ⟨hopen.flush (h.format vcid), hlen⟩
    · obtain ⟨hnone, hstill⟩ := hdone.flush
      have hzero : t.held vcid = 0 := by simp [h.held, hdone.empty]
      have hnil : flushed.1 = [] := hnone
      exact ⟨by simpa [hnil] using hstill, by simp [hnil, hzero]⟩
  obtain ⟨hlane, hlen⟩ := hdone
  obtain ⟨zs, hframes, _⟩ := hlane.books
  have hvcid : ∀ f ∈ flushed.1, f.header.vcid = vcid := fun f hf =>
    hframes.vcid_eq f (mem_append_right _ hf)
  have hdata : dataFrames flushed.1 = flushed.1 := dataFrames_eq_self fun f hf =>
    (hframes.pointer_lt hfmt.1 f (mem_append_right _ hf)).2
  have hwhole : lane vcid (dataFrames (sent ++ flushed.1)) =
      lane vcid (dataFrames sent) ++ flushed.1 := by
    rw [dataFrames_append, lane_append, hdata, lane_eq_self hvcid]
  refine ⟨⟨fun v => ?_, fun v hv hv' => ?_, fun f hf => ?_, fun v => ?_⟩, ?_, hvcid, ?_, ?_⟩
  · by_cases heq : v = vcid
    · subst heq
      simpa [flushed, flush_format] using h.format v
    · simpa [heq] using h.format v
  · by_cases heq : v = vcid
    · subst heq
      rw [hwhole]
      exact Or.inr (by simpa using hlane)
    · have hother : lane v flushed.1 = [] := lane_eq_nil fun f hf => by
        rw [hvcid f hf]
        exact Ne.symm heq
      rw [dataFrames_append, lane_append, hdata, hother, append_nil]
      simpa [heq] using h.lanes v hv hv'
  · rw [dataFrames_append, hdata] at hf
    rcases mem_append.mp hf with hf | hf
    · exact h.served f hf
    · rw [hvcid f hf]
      exact ⟨hserved, hidle⟩
  · by_cases heq : v = vcid
    · subst heq
      simp [hlane.empty]
    · simpa [heq] using h.held v
  · rw [hwhole]
    exact hlane
  · rw [hdata]
    by_cases hzero : t.held vcid = 0
    · rw [if_pos hzero] at hlen ⊢
      rw [length_eq_zero_iff.mp hlen, map_nil]
    · rw [if_neg hzero] at hlen ⊢
      obtain ⟨f, hf⟩ := length_eq_one_iff.mp hlen
      have := hvcid f (by simp [hf])
      simp [hf, this]
  · intro f hf
    have hmem := mem_append_right (lane vcid (dataFrames sent)) hf
    exact ⟨⟨vcid, hframes.sealed f hmem⟩, (hframes.pointer_lt hfmt.1 f hmem).1⟩

/-- **The final flush.**  Every listed channel is done, and stays so. -/
theorem Flushing.flushFrom (hfmt : fmt.CarriesPackets) {vcids : List Nat}
    (h : Flushing fmt m t sent added) (hvcids : ∀ v ∈ vcids, v ∈ m.vcIds) :
    (∀ v, v ≠ idleChannel →
        v ∈ vcids ∨ LaneDone fmt (m.builders v) v (lane v (dataFrames sent)) (added v) →
        LaneDone fmt ((m.flushFrom vcids).2.builders v) v
          (lane v (dataFrames (sent ++ (m.flushFrom vcids).1))) (added v)) ∧
      (∀ f ∈ dataFrames (sent ++ (m.flushFrom vcids).1),
        f.header.vcid ∈ m.vcIds ∧ f.header.vcid ≠ idleChannel) ∧
      (dataFrames (m.flushFrom vcids).1).map (fun f => f.header.vcid) = t.flush vcids ∧
      Sendable fmt (m.flushFrom vcids).1 := by
  induction vcids generalizing m t sent with
  | nil =>
      refine ⟨fun v _ hv => ?_, ?_, rfl, by simp [flushFrom, Sendable]⟩
      · simpa [flushFrom] using hv
      · simpa [flushFrom] using h.served
  | cons vcid vcids ih =>
      have hrest : ∀ v ∈ vcids, v ∈ m.vcIds := fun v hv => hvcids v (mem_cons_of_mem _ hv)
      unfold flushFrom Tally.flush
      by_cases hidle : vcid = idleChannel
      · simp only [if_pos hidle]
        obtain ⟨hdone, hothers⟩ := ih h hrest
        refine ⟨fun v hv hv' => hdone v hv (hv'.imp_left fun hmem => ?_), hothers⟩
        exact (mem_cons.mp hmem).resolve_left fun heq => hv (heq.trans hidle)
      · simp only [if_neg hidle]
        obtain ⟨hbooks, hlane, hvcid, horder, hsend⟩ :=
          h.flush hfmt (hvcids vcid mem_cons_self) hidle
        generalize hflushed : (m.builders vcid).flush vcid = flushed at *
        obtain ⟨hdone, hserved, horders, hsends⟩ := ih hbooks hrest
        rw [append_assoc] at hserved
        refine ⟨fun v hv hv' => ?_, hserved, ?_, ?_⟩
        · have hv'' : v ∈ vcids ∨ LaneDone fmt (update m.builders vcid flushed.2 v) v
              (lane v (dataFrames (sent ++ flushed.1))) (added v) := by
            by_cases heq : v = vcid
            · subst heq
              rw [update_self]
              exact Or.inr hlane
            · refine hv'.imp (fun hmem => (mem_cons.mp hmem).resolve_left heq) ?_
              have hother : lane v (dataFrames flushed.1) = [] := lane_eq_nil fun f hf => by
                rw [hvcid f (mem_filter.mp hf).1]
                exact Ne.symm heq
              rw [dataFrames_append, lane_append, hother, append_nil,
                update_of_ne heq]
              exact id
          have := hdone v hv hv''
          rwa [append_assoc] at this
        · rw [dataFrames_append, map_append, horder, horders]
          by_cases hzero : t.held vcid = 0
          · have hsame : update t.held vcid 0 = t.held := by
              rw [← hzero]
              exact update_eq_self vcid t.held
            simp [hzero, hsame]
          · simp [hzero]
        · intro f hf
          exact (mem_append.mp hf).elim (hsend f) (hsends f)

/-! ### Whole sessions -/

/-- The packets a session adds on the channels that are sent. -/
def carriedOn (vcIds : List Nat) (ops : List (MuxOp α)) (v : Nat) : List (List α) :=
  if v ∈ vcIds ∧ v ≠ idleChannel then packetsOn v ops else []

/-- **A session weaves its channels.**  Its data frames are the channels' frames in
the order the octet counts foretell. -/
theorem session_lanes (scid : Nat) (hfmt : fmt.CarriesPackets) (vcIds : List Nat)
    (served : vcIds ≠ []) {ops : List (MuxOp α)}
    (hops : ∀ v, ∀ p ∈ packetsOn v ops, WellFormedPacket p) :
    let frames := (create scid fmt vcIds served : VCMultiplexer α).session ops
    Lanes fmt (carriedOn vcIds ops) (fun _ => 0) (fun _ => []) (fun _ => [])
        (dataFrames frames) (carriedOn vcIds ops) ∧
      (dataFrames frames).map (fun f => f.header.vcid) =
        emissionOrder fmt.dataZoneLength vcIds ops ∧ Sendable fmt frames := by
  intro frames
  have hcalled := (Accounts.fresh (α := α) scid fmt vcIds served).run hfmt hops
  generalize hm : (create scid fmt vcIds served : VCMultiplexer α).run ops = called
    at hcalled
  have hvc : called.2.vcIds = vcIds := hcalled.vcIds
  have hdrained := hcalled.books.drain hfmt called.2.backlog
  have hcalledOrder := hcalled.order
  have hcreate : (create scid fmt vcIds served : VCMultiplexer α).vcIds = vcIds :=
    rfl
  rw [hvc] at hdrained
  rw [hcreate] at hdrained hcalledOrder
  have hbacklog : called.2.backlog =
      (Tally.run fmt.dataZoneLength vcIds {} ops).2.backlog vcIds := by
    rw [backlog, Tally.backlog, hvc]
    exact congrArg sum (map_congr_left fun v _ => (hcalled.books.ready v).symm)
  have hflushing := hdrained.books.flushing (drain_hasData (Nat.le_refl _))
  have hdvc := hdrained.vcIds.trans hvc
  obtain ⟨hdone, hserved, horder, hsend⟩ := hflushing.flushFrom hfmt (fun v hv => hv)
  rw [hdvc] at hdone hserved horder hsend
  have hframes : frames = called.1 ++ (called.2.drain called.2.backlog).1 ++
      ((called.2.drain called.2.backlog).2.flushFrom vcIds).1 := by
    simp only [frames, session, flushAll, hm, hdvc]
  simp only [nil_append] at hdone hserved
  rw [← hframes] at hdone hserved
  refine ⟨⟨fun v => ?_⟩, ?_, ?_⟩
  · by_cases hv : v ∈ vcIds ∧ v ≠ idleChannel
    · obtain ⟨zs, hlane, hpad⟩ := (hdone v hv.2 (Or.inl hv.1)).books
      rw [carriedOn, if_pos hv]
      exact ⟨[], [], zs, ZoneRun.nil [] [], rfl, hlane, hpad, rfl⟩
    · have hnone : lane v (dataFrames frames) = [] := lane_eq_nil fun f hf heq =>
        hv (heq ▸ hserved f hf)
      rw [carriedOn, if_neg hv, hnone]
      exact ⟨[], [], [], ZoneRun.nil [] [], rfl, Frames.nil fmt v [] [], by simp, rfl⟩
  · rw [hframes, dataFrames_append, dataFrames_append, map_append, map_append, horder,
      hdrained.order, hcalledOrder, emissionOrder, ← hbacklog]
  · intro f hf
    rw [hframes] at hf
    rcases mem_append.mp hf with hf | hf
    · rcases mem_append.mp hf with hf | hf
      · exact hcalled.sendable f hf
      · exact hdrained.sendable f hf
    · exact hsend f hf

/-- In `out`, the packets added on each channel are all there, each once and in the
order they were added on it. -/
def RecoversAll (out : List (List Traced)) (ops : List (MuxOp Traced)) : Prop :=
  ∀ v, out.filter (fun q => decide (q ∈ packetsOn v ops)) = packetsOn v ops

/-- **Channels through one parser.**  Everything added to a multiplexer is recovered
by a single parser exactly when every packet was added on a channel that is sent
and the emission order leaves a channel between packets only. -/
theorem mux_recovers_iff (scid : Nat) {fmt : FrameFormat} (hfmt : fmt.CarriesPackets)
    (vcIds : List Nat) (served : vcIds ≠ []) (ops : List (MuxOp UInt8))
    (hops : ∀ v, ∀ p ∈ packetsOn v ops, WellFormedPacket p) :
    let wires := ((VCMultiplexer.create scid fmt vcIds served : VCMultiplexer UInt8).session
      ops).map TMFrame.wire
    let out := (({ format := fmt } : TMFrameParser Traced).extractAll
      ((VCMultiplexer.create scid fmt vcIds served : VCMultiplexer Traced).session
        (traceMux 0 ops))).1
    ({ format := fmt } : TMFrameParser UInt8).receive wires = out.map bytesOf ∧
      (RecoversAll out (traceMux 0 ops) ↔
        (∀ v, packetsOn v ops ≠ [] → v ∈ vcIds ∧ v ≠ idleChannel) ∧
          CleanSwitches fmt.dataZoneLength (fun v => (packetsOn v ops).map List.length)
            (fun _ => 0) (emissionOrder fmt.dataZoneLength vcIds ops)) := by
  intro wires out
  have hwf : ∀ v, ∀ p ∈ packetsOn v (traceMux 0 ops), WellFormedPacket p := fun v =>
    wellFormedPacket_packetsOn (hops v)
  obtain ⟨hlanes, horder, hsend⟩ := session_lanes scid hfmt vcIds served hwf
  generalize hframes : (VCMultiplexer.create scid fmt vcIds served :
    VCMultiplexer Traced).session (traceMux 0 ops) = frames at hlanes horder hsend
  have hout : out = (({ format := fmt } : TMFrameParser Traced).extractAll
      (dataFrames frames)).1 := by
    rw [dataFrames, extractAll_filter_idle, ← hframes]
  refine ⟨?_, ?_⟩
  · have hself : Follows ({ format := fmt } : TMFrameParser UInt8)
        ({ format := fmt } : TMFrameParser Traced) := ⟨rfl, rfl⟩
    have hwires : wires = frames.map TMFrame.wire := by
      rw [← hframes]
      exact session_wires scid fmt vcIds served ops
    rw [hwires, receive_wires hself hsend, ← hframes]
  · have hpart : ∀ v, ∀ q ∈ carriedOn vcIds (traceMux 0 ops) v,
        q ∈ packetsOn v (traceMux 0 ops) := by
      intro v q hq
      unfold carriedOn at hq
      split at hq
      · exact hq
      · simp at hq
    by_cases hall : ∀ v, packetsOn v ops ≠ [] → v ∈ vcIds ∧ v ≠ idleChannel
    · have hcarried : carriedOn vcIds (traceMux 0 ops) = fun v => packetsOn v (traceMux 0 ops) := by
        funext v
        unfold carriedOn
        split
        · rfl
        · rename_i hv
          have hnone : packetsOn v ops = [] := by
            by_contra hne
            exact hv (hall v hne)
          have hlength := packetsOn_length 0 v ops
          rw [hnone, List.map_nil, List.map_eq_nil_iff] at hlength
          exact hlength.symm
      rw [hcarried] at hlanes
      have hiff := hlanes.recovered_iff hfmt (fun v w hvw => packetsOn_apart hvw ops)
        (fun v => idle_notMem_packetsOn 0 v ops) (fun v => packetsOn_nodup v ops)
        (fun v q hq => (hwf v q hq).ne_nil) (p := { format := fmt }) rfl rfl
      simp only [horder, emissionOrder_trace, packetsOn_length] at hiff
      rw [RecoversAll, hout, hiff, and_iff_right hall]
    · refine iff_of_false (fun hrec => ?_) fun h => hall h.1
      push Not at hall
      obtain ⟨v, hne, hv⟩ := hall
      obtain ⟨q, hq⟩ : ∃ q, q ∈ packetsOn v (traceMux 0 ops) := by
        refine List.exists_mem_of_ne_nil _ fun hnil => hne ?_
        have hlength := packetsOn_length 0 v ops
        rwa [hnil, List.map_nil, eq_comm, List.map_eq_nil_iff] at hlength
      obtain ⟨x, hx⟩ := List.exists_mem_of_ne_nil q (hwf v q hq).ne_nil
      have hqout : q ∈ out := (List.mem_filter.mp (hrec v ▸ hq)).1
      have hsub := extractAll_sublist ({ format := fmt } : TMFrameParser Traced)
        (dataFrames frames)
      rw [← hout, List.nil_append] at hsub
      obtain ⟨data, hdata, hxdata⟩ := List.mem_flatten.mp
        (hsub.subset (List.mem_flatten.mpr ⟨q, hqout, hx⟩))
      obtain ⟨f, hf, rfl⟩ := List.mem_map.mp hdata
      have hxq : x ∈ (packetsOn v (traceMux 0 ops)).flatten :=
        List.mem_flatten.mpr ⟨q, hq, hx⟩
      rcases (hlanes.mem_frame hfmt hf).2.2.2 x hxdata with rfl | hxf
      · exact idle_notMem_packetsOn 0 v ops hxq
      · obtain ⟨q', hq', hxq'⟩ := List.mem_flatten.mp hxf
        have hvf : v ≠ f.header.vcid := by
          rintro rfl
          unfold carriedOn at hq'
          split at hq'
          · rename_i hserved
            exact hserved.2 (hv hserved.1)
          · simp at hq'
        exact packetsOn_apart hvf ops x hxq
          (List.mem_flatten.mpr ⟨q', hpart _ q' hq', hxq'⟩)

/-- Two packets on two channels of the standard link, a frame taken in between. -/
theorem mux_recovers_two :
    let ops : List (MuxOp UInt8) :=
      [.add [8, 1, 192, 0, 0, 0, 42] 0, .next, .add [8, 1, 192, 1, 0, 1, 42, 43] 1]
    let wires := ((VCMultiplexer.create 1 FrameFormat.standard [0, 1, 7] (by decide) :
      VCMultiplexer UInt8).session ops).map TMFrame.wire
    let out := (({ format := FrameFormat.standard } : TMFrameParser Traced).extractAll
      ((VCMultiplexer.create 1 FrameFormat.standard [0, 1, 7] (by decide) :
        VCMultiplexer Traced).session (traceMux 0 ops))).1
    ({ format := FrameFormat.standard } : TMFrameParser UInt8).receive wires =
        out.map bytesOf ∧
      (RecoversAll out (traceMux 0 ops) ↔
        (∀ v, packetsOn v ops ≠ [] → v ∈ [0, 1, 7] ∧ v ≠ idleChannel) ∧
          CleanSwitches FrameFormat.standard.dataZoneLength
            (fun v => (packetsOn v ops).map List.length) (fun _ => 0)
            (emissionOrder FrameFormat.standard.dataZoneLength [0, 1, 7] ops)) :=
  mux_recovers_iff 1 FrameFormat.standard_carriesPackets [0, 1, 7] (by decide)
    [.add [8, 1, 192, 0, 0, 0, 42] 0, .next, .add [8, 1, 192, 1, 0, 1, 42, 43] 1] (by
      intro v p hp
      have hp' : p = [8, 1, 192, 0, 0, 0, 42] ∨ p = [8, 1, 192, 1, 0, 1, 42, 43] := by
        simp only [packetsOn] at hp
        split at hp <;> split at hp <;> simp_all
      rcases hp' with rfl | rfl
      · exact .of_cons (by decide) (by decide) (by decide) (by decide)
      · exact .of_cons (by decide) (by decide) (by decide) (by decide))

/-- A packet of 70 octets of value `b`, more than one zone of a 64-octet frame. -/
def spanningPacket (b : UInt8) : Bytes := [8, 1, 192, 0, 0, 63] ++ List.replicate 64 b

/-- One packet on each of two channels, both spanning two frames: the frames
alternate, the parser joins the head of one packet to the tail of the other, and
neither comes out. -/
theorem alternating_channels_lose_packets :
    (WellFormedPacket (spanningPacket 1) ∧ WellFormedPacket (spanningPacket 2)) ∧
    ∀ packet ∈ ({ format := ⟨64, true, by decide⟩ } : TMFrameParser UInt8).receive
        (((VCMultiplexer.create 1 ⟨64, true, by decide⟩ [0, 1, 7] (by decide) :
          VCMultiplexer UInt8).session
            [.add (spanningPacket 1) 0, .add (spanningPacket 2) 1]).map TMFrame.wire),
      packet ≠ spanningPacket 1 ∧ packet ≠ spanningPacket 2 := by
  have hwf : ∀ b, WellFormedPacket (spanningPacket b) := fun b =>
    ⟨by simp [spanningPacket], by simp [spanningPacket], by simp [spanningPacket, slice,
      unpackU16, bytesOf], by simp [spanningPacket]⟩
  refine ⟨⟨hwf 1, hwf 2⟩, ?_⟩
  decide +kernel

end Ccsds
