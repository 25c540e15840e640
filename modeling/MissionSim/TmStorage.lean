import MissionSim.Python
import Mathlib.Data.List.DropRight
import Mathlib.Data.Rat.Defs

/-!
# On-board telemetry stores

The packet stores of service 15.  A circular store overwrites its oldest packet
when it is full, a linear one refuses the new packet; both remember that it
happened in their overflow flag until they are next deleted.

`Offered` is the history of one store: the packets that reached it while it was
enabled since its last deletion, read off the operations alone.  `Store.Holds`
says that the record is what that history leaves, and `run_holds` that it is so
after every sequence of operations.
-/

namespace TmStorage

open Python List

/-- One entry of the store definitions. -/
structure StoreInfo where
  name : Option String := none
  capacity : Option Nat := none
  circular : Option Bool := none
  deriving DecidableEq, Repr

/-- One store, with its packets from oldest to newest. -/
structure Store (P : Type) where
  packets : List P
  capacity : Nat
  enabled : Bool
  name : String
  overflow : Bool
  circular : Bool
  oldestTs : Rat
  newestTs : Rat
  wrapCount : Nat
  deriving DecidableEq

/-- The stores by their number. -/
abbrev OnboardTMStorage (P : Type) := Dict Nat (Store P)

/-- Store numbers by service type; the science store takes everything else. -/
def serviceToStore (serviceType : Nat) : Nat :=
  if serviceType = 3 then 1 else if serviceType = 5 then 2 else 3

/-- Stores that are circular unless their definition says otherwise. -/
def circularStores : List Nat := [1]

theorem defaultStores_nodup :
    (([(1, { name := some "HK_Store", capacity := some 18000, circular := some true }),
       (2, { name := some "Event_Store", capacity := some 2000, circular := some false }),
       (3, { name := some "Science_Store", capacity := some 10000, circular := some false }),
       (4, { name := some "Alarm_Store", capacity := some 500, circular := some false })] :
      List (Nat × StoreInfo)).map Prod.fst).Nodup := by decide

/-- `DEFAULT_STORES`. -/
def defaultStores : Dict Nat StoreInfo := ⟨_, defaultStores_nodup⟩

variable {P : Type}

/-- An empty, enabled store as its definition asks for it. -/
def initStore (storeId : Nat) (info : StoreInfo) : Store P where
  packets := []
  capacity := info.capacity.getD 5000
  enabled := true
  name := info.name.getD ("Store_" ++ toString storeId)
  overflow := false
  circular := info.circular.getD (circularStores.contains storeId)
  oldestTs := 0
  newestTs := 0
  wrapCount := 0

/-- `OnboardTMStorage(store_defs)`. -/
def init (defs : Dict Nat StoreInfo) : OnboardTMStorage P := defs.mapItems initStore

/-- Append a packet and keep the time stamps of a packet that carries one. -/
def Store.append (s : Store P) (pkt : P) (timestamp : Rat) : Store P :=
  let packets := s.packets ++ [pkt]
  if 0 < timestamp then
    { s with
      packets := packets
      oldestTs := if packets.length = 1 then timestamp else s.oldestTs
      newestTs := timestamp }
  else
    { s with packets := packets }

/-- Store a packet in one store; whether it was stored. -/
def Store.put (s : Store P) (pkt : P) (timestamp : Rat) : Store P × Bool :=
  if s.enabled then
    if s.capacity ≤ s.packets.length then
      if s.circular then
        ({ s with packets := s.packets.drop 1, overflow := true,
                  wrapCount := s.wrapCount + 1 }.append pkt timestamp, true)
      else
        ({ s with overflow := true }, false)
    else
      (s.append pkt timestamp, true)
  else
    (s, false)

/-- `delete_store` of one store: the wrap count stays. -/
def Store.clear (s : Store P) : Store P :=
  { s with packets := [], overflow := false, oldestTs := 0, newestTs := 0 }

/-- `store_packet_direct(store_id, pkt, timestamp)`. -/
def storePacketDirect (t : OnboardTMStorage P) (storeId : Nat) (pkt : P) (timestamp : Rat) :
    OnboardTMStorage P × Bool :=
  match t.get? storeId with
  | some s => (t.set storeId (s.put pkt timestamp).1, (s.put pkt timestamp).2)
  | none => (t, false)

/-- `store_packet(service_type, pkt, timestamp)`. -/
def storePacket (t : OnboardTMStorage P) (serviceType : Nat) (pkt : P) (timestamp : Rat) :
    OnboardTMStorage P × Bool :=
  storePacketDirect t (serviceToStore serviceType) pkt timestamp

/-- `store_alarm(pkt, timestamp)`. -/
def storeAlarm (t : OnboardTMStorage P) (pkt : P) (timestamp : Rat) : OnboardTMStorage P × Bool :=
  storePacketDirect t 4 pkt timestamp

/-- Change one store, if it exists. -/
def update (t : OnboardTMStorage P) (storeId : Nat) (f : Store P → Store P) : OnboardTMStorage P :=
  match t.get? storeId with
  | some s => t.set storeId (f s)
  | none => t

/-- `start_dump(store_id)`. -/
def startDump (t : OnboardTMStorage P) (storeId : Nat) : List P :=
  match t.get? storeId with
  | some s => s.packets
  | none => []

def enableStore (t : OnboardTMStorage P) (storeId : Nat) : OnboardTMStorage P :=
  update t storeId fun s => { s with enabled := true }

def disableStore (t : OnboardTMStorage P) (storeId : Nat) : OnboardTMStorage P :=
  update t storeId fun s => { s with enabled := false }

def deleteStore (t : OnboardTMStorage P) (storeId : Nat) : OnboardTMStorage P :=
  update t storeId Store.clear

/-- `is_overflow(store_id)`. -/
def isOverflow (t : OnboardTMStorage P) (storeId : Nat) : Bool :=
  match t.get? storeId with
  | some s => s.overflow
  | none => false

/-! ### Runs -/

/-- An operation on the stores. -/
inductive Operation (P : Type) where
  | storePacket (serviceType : Nat) (pkt : P) (timestamp : Rat)
  | storePacketDirect (storeId : Nat) (pkt : P) (timestamp : Rat)
  | storeAlarm (pkt : P) (timestamp : Rat)
  | enableStore (storeId : Nat)
  | disableStore (storeId : Nat)
  | deleteStore (storeId : Nat)
  | startDump (storeId : Nat)
  | isOverflow (storeId : Nat)
  deriving DecidableEq

/-- The stores after one operation; reading leaves them alone. -/
def step (t : OnboardTMStorage P) : Operation P → OnboardTMStorage P
  | .storePacket serviceType pkt timestamp => (storePacket t serviceType pkt timestamp).1
  | .storePacketDirect storeId pkt timestamp => (storePacketDirect t storeId pkt timestamp).1
  | .storeAlarm pkt timestamp => (storeAlarm t pkt timestamp).1
  | .enableStore storeId => enableStore t storeId
  | .disableStore storeId => disableStore t storeId
  | .deleteStore storeId => deleteStore t storeId
  | .startDump _ => t
  | .isOverflow _ => t

/-- The stores after a sequence of operations. -/
def run (t : OnboardTMStorage P) (ops : List (Operation P)) : OnboardTMStorage P :=
  ops.foldl step t

/-- What an operation does to one store. -/
inductive Effect (P : Type) where
  | offer (pkt : P) (timestamp : Rat)
  | enable
  | disable
  | delete
  | none

/-- What an operation means for the store with a given number. -/
def Operation.effectOn (storeId : Nat) : Operation P → Effect P
  | .storePacket serviceType pkt timestamp =>
      if serviceToStore serviceType = storeId then .offer pkt timestamp else .none
  | .storePacketDirect target pkt timestamp =>
      if target = storeId then .offer pkt timestamp else .none
  | .storeAlarm pkt timestamp => if 4 = storeId then .offer pkt timestamp else .none
  | .enableStore target => if target = storeId then .enable else .none
  | .disableStore target => if target = storeId then .disable else .none
  | .deleteStore target => if target = storeId then .delete else .none
  | .startDump _ => .none
  | .isOverflow _ => .none

/-- The history of one store. -/
structure Offered (P : Type) where
  /-- Whether the last enable or disable left it enabled. -/
  enabled : Bool := true
  /-- The packets that reached it while it was enabled, since its last deletion. -/
  packets : List P := []

/-- One operation's contribution to the history. -/
def Offered.next (h : Offered P) : Effect P → Offered P
  | .offer pkt _ => if h.enabled then { h with packets := h.packets ++ [pkt] } else h
  | .enable => { h with enabled := true }
  | .disable => { h with enabled := false }
  | .delete => { h with packets := [] }
  | .none => h

/-- The history of a store over a sequence of operations. -/
def offered (storeId : Nat) (ops : List (Operation P)) : Offered P :=
  ops.foldl (fun h op => h.next (op.effectOn storeId)) {}

/-- One effect on the store's record. -/
def Store.apply (s : Store P) : Effect P → Store P
  | .offer pkt timestamp => (s.put pkt timestamp).1
  | .enable => { s with enabled := true }
  | .disable => { s with enabled := false }
  | .delete => s.clear
  | .none => s

/-- The record is what the history leaves in a store of its kind and size. -/
structure Store.Holds (s : Store P) (h : Offered P) : Prop where
  enabled : s.enabled = h.enabled
  packets : s.packets =
    if s.circular then h.packets.rtake s.capacity else h.packets.take s.capacity
  overflow : s.overflow = true ↔ s.packets.length < h.packets.length

/-! ### One step -/

theorem get?_update (t : OnboardTMStorage P) (storeId target : Nat) (f : Store P → Store P) :
    (update t target f).get? storeId =
      (t.get? storeId).map fun s => if target = storeId then f s else s := by
  unfold update
  by_cases heq : target = storeId
  · subst heq
    cases hget : t.get? target with
    | none => simp [hget]
    | some s => simp
  · cases hget : t.get? target with
    | none => simp [heq]
    | some s => simp [heq, Dict.get?_set_ne t (Ne.symm heq)]

theorem get?_storePacketDirect (t : OnboardTMStorage P) (storeId target : Nat) (pkt : P)
    (timestamp : Rat) : (storePacketDirect t target pkt timestamp).1.get? storeId =
      (t.get? storeId).map fun s => if target = storeId then (s.put pkt timestamp).1 else s := by
  have hupdate : (storePacketDirect t target pkt timestamp).1 =
      update t target fun s => (s.put pkt timestamp).1 := by
    unfold storePacketDirect update
    cases t.get? target <;> rfl
  rw [hupdate, get?_update]

/-- An operation acts on each store by its effect on that store. -/
theorem get?_step (t : OnboardTMStorage P) (storeId : Nat) (op : Operation P) :
    (step t op).get? storeId = (t.get? storeId).map fun s => s.apply (op.effectOn storeId) := by
  have hsame : (t.get? storeId).map (fun s => s) = t.get? storeId := by simp
  cases op with
  | storePacket serviceType pkt timestamp =>
      simp only [step, storePacket, get?_storePacketDirect, Operation.effectOn]
      split <;> rfl
  | storePacketDirect target pkt timestamp =>
      simp only [step, get?_storePacketDirect, Operation.effectOn]
      split <;> rfl
  | storeAlarm pkt timestamp =>
      simp only [step, storeAlarm, get?_storePacketDirect, Operation.effectOn]
      split <;> rfl
  | enableStore target =>
      simp only [step, enableStore, get?_update, Operation.effectOn]
      split <;> rfl
  | disableStore target =>
      simp only [step, disableStore, get?_update, Operation.effectOn]
      split <;> rfl
  | deleteStore target =>
      simp only [step, deleteStore, get?_update, Operation.effectOn]
      split <;> rfl
  | startDump | isOverflow => exact hsame.symm

theorem apply_capacity (s : Store P) (e : Effect P) : (s.apply e).capacity = s.capacity := by
  cases e with
  | offer pkt timestamp =>
      simp only [Store.apply, Store.put, Store.append]
      split_ifs <;> rfl
  | enable | disable | delete | none => rfl

theorem apply_circular (s : Store P) (e : Effect P) : (s.apply e).circular = s.circular := by
  cases e with
  | offer pkt timestamp =>
      simp only [Store.apply, Store.put, Store.append]
      split_ifs <;> rfl
  | enable | disable | delete | none => rfl

theorem append_packets (s : Store P) (pkt : P) (timestamp : Rat) :
    (s.append pkt timestamp).packets = s.packets ++ [pkt] := by
  unfold Store.append
  split <;> rfl

theorem append_overflow (s : Store P) (pkt : P) (timestamp : Rat) :
    (s.append pkt timestamp).overflow = s.overflow := by
  unfold Store.append
  split <;> rfl

theorem append_enabled (s : Store P) (pkt : P) (timestamp : Rat) :
    (s.append pkt timestamp).enabled = s.enabled := by
  unfold Store.append
  split <;> rfl

/-- A disabled store is left alone. -/
theorem put_disabled {s : Store P} (h : s.enabled = false) (pkt : P) (timestamp : Rat) :
    s.put pkt timestamp = (s, false) := by
  simp [Store.put, h]

/-- Taking one more from the end of a list that is long enough drops the oldest. -/
theorem rtake_append_one {n : Nat} (hpos : 0 < n) {xs : List P} (h : n ≤ xs.length) (x : P) :
    (xs ++ [x]).rtake n = (xs.rtake n).drop 1 ++ [x] := by
  rw [rtake.eq_def, rtake.eq_def, drop_drop, length_append,
    length_singleton]
  have hidx : xs.length + 1 - n = xs.length - n + 1 := by omega
  rw [hidx, drop_append_of_le_length (by omega)]

theorem rtake_of_length_le {n : Nat} {xs : List P} (h : xs.length ≤ n) : xs.rtake n = xs := by
  rw [rtake.eq_def, Nat.sub_eq_zero_of_le h, drop_zero]

theorem rtake_length (n : Nat) (xs : List P) : (xs.rtake n).length = min n xs.length := by
  rw [rtake.eq_def, length_drop]
  omega

/-- A full store holds as many packets as it has room for. -/
theorem Store.Holds.length {s : Store P} {h : Offered P} (hs : s.Holds h) :
    s.packets.length = min s.capacity h.packets.length := by
  rw [hs.packets]
  split
  · exact rtake_length _ _
  · exact length_take

/-- **One offer.**  What the history leaves after a packet is what the store leaves of it. -/
theorem Store.Holds.offer {s : Store P} {h : Offered P} (hs : s.Holds h) (hpos : 0 < s.capacity)
    (pkt : P) (timestamp : Rat) :
    (s.put pkt timestamp).1.Holds (h.next (.offer pkt timestamp)) := by
  have hlen := hs.length
  by_cases hon : s.enabled = true
  · have hnext : h.next (.offer pkt timestamp) = { h with packets := h.packets ++ [pkt] } := by
      rw [Offered.next, if_pos (hs.enabled ▸ hon)]
    rw [hnext, Store.put, if_pos hon]
    by_cases hfull : s.capacity ≤ s.packets.length
    · have hlong : s.capacity ≤ h.packets.length := by omega
      rw [if_pos hfull]
      by_cases hring : s.circular = true
      · rw [if_pos hring]
        refine ⟨?_, ?_, ?_⟩
        · rw [append_enabled]
          exact hs.enabled
        · have hold := hs.packets
          rw [if_pos hring] at hold
          rw [append_packets]
          simp only [Store.append]
          split_ifs <;> rw [rtake_append_one hpos hlong, ← hold]
        · rw [append_overflow, append_packets]
          simp only [length_append, length_drop, length_singleton]
          exact ⟨fun _ => by omega, fun _ => trivial⟩
      · have hold := hs.packets
        rw [if_neg hring] at hold
        rw [if_neg hring]
        refine ⟨hs.enabled, ?_, ?_⟩
        · rw [if_neg hring, take_append_of_le_length hlong]
          exact hold
        · dsimp only
          rw [length_append, length_singleton]
          exact ⟨fun _ => by omega, fun _ => rfl⟩
    · have hshort : h.packets.length < s.capacity := by omega
      have hall : s.packets = h.packets := by
        have hold := hs.packets
        split at hold
        · rw [hold, rtake_of_length_le (Nat.le_of_lt hshort)]
        · rw [hold, take_of_length_le (Nat.le_of_lt hshort)]
      have hcalm : s.overflow = false := by
        rw [← Bool.not_eq_true, hs.overflow, hall]
        exact Nat.lt_irrefl _
      have hroom : (h.packets ++ [pkt]).length ≤ s.capacity := by
        rw [length_append, length_singleton]
        omega
      rw [if_neg hfull]
      refine ⟨?_, ?_, ?_⟩
      · rw [append_enabled]
        exact hs.enabled
      · rw [append_packets, hall]
        simp only [Store.append]
        split_ifs <;>
          first
            | exact (rtake_of_length_le hroom).symm
            | exact (take_of_length_le hroom).symm
      · rw [append_overflow, append_packets, hall, hcalm]
        simp
  · have hoff : s.enabled = false := Bool.eq_false_iff.mpr hon
    have hnext : h.next (.offer pkt timestamp) = h := by
      rw [Offered.next, if_neg (hs.enabled ▸ hon)]
    rw [put_disabled hoff, hnext]
    exact hs

/-- **The step lemma.**  Every effect takes the record along with its history. -/
theorem Store.Holds.apply {s : Store P} {h : Offered P} (hs : s.Holds h) (hpos : 0 < s.capacity)
    (e : Effect P) : (s.apply e).Holds (h.next e) := by
  cases e with
  | offer pkt timestamp => exact hs.offer hpos pkt timestamp
  | enable | disable => exact ⟨rfl, hs.packets, hs.overflow⟩
  | delete =>
      refine ⟨hs.enabled, ?_, ?_⟩
      · simp [Store.apply, Store.clear, Offered.next, rtake.eq_def]
      · simp [Store.apply, Store.clear, Offered.next]
  | none => exact hs

/-- The packet is the oldest of a circular store that has no room left. -/
def Store.Overwritable (s : Store P) (x : P) : Prop :=
  s.circular = true ∧ s.capacity ≤ s.packets.length ∧ s.packets.head? = some x

/-- **How a packet leaves a store.**  By the deletion of the store, or by being
overwritten. -/
theorem apply_removes {s : Store P} {e : Effect P} {x : P} (hin : x ∈ s.packets)
    (hout : x ∉ (s.apply e).packets) :
    e = .delete ∨ (∃ pkt timestamp, e = .offer pkt timestamp) ∧ s.Overwritable x := by
  cases e with
  | offer pkt timestamp =>
      right
      refine ⟨⟨pkt, timestamp, rfl⟩, ?_⟩
      simp only [Store.apply, Store.put] at hout
      split_ifs at hout with hon hfull hring
      · refine ⟨hring, hfull, ?_⟩
        rw [append_packets, mem_append, not_or] at hout
        cases hpackets : s.packets with
        | nil => rw [hpackets] at hin; cases hin
        | cons y rest =>
            rw [hpackets] at hin hout
            rcases mem_cons.mp hin with rfl | hrest
            · rfl
            · exact absurd hrest hout.1
      · exact absurd hin hout
      · rw [append_packets, mem_append, not_or] at hout
        exact absurd hin hout.1
      · exact absurd hin hout
  | enable | disable | none => exact absurd hin hout
  | delete => exact .inl rfl

theorem effectOn_delete {storeId : Nat} {op : Operation P} (h : op.effectOn storeId = .delete) :
    op = .deleteStore storeId := by
  cases op with
  | deleteStore target =>
      simp only [Operation.effectOn] at h
      split at h
      · rename_i heq
        rw [heq]
      · cases h
  | startDump | isOverflow => cases h
  | _ =>
      simp only [Operation.effectOn] at h
      split at h <;> cases h

/-- The same over the operations on the stores. -/
theorem step_removes {t : OnboardTMStorage P} {storeId : Nat} {op : Operation P} {x : P}
    (hin : x ∈ startDump t storeId) (hout : x ∉ startDump (step t op) storeId) :
    op = .deleteStore storeId ∨ ∃ s, t.get? storeId = some s ∧ s.Overwritable x := by
  have hget := get?_step t storeId op
  unfold startDump at hin hout
  cases hs : t.get? storeId with
  | none => simp [hs] at hin
  | some s =>
      rw [hs] at hin hget
      rw [hget, Option.map_some] at hout
      rcases apply_removes hin hout with hdelete | ⟨_, hover⟩
      · exact .inl (effectOn_delete hdelete)
      · exact .inr ⟨s, rfl, hover⟩

/-! ### Whole runs -/

theorem initStore_holds (storeId : Nat) (info : StoreInfo) :
    (initStore storeId info : Store P).Holds {} := by
  refine ⟨rfl, ?_, ?_⟩
  · simp [initStore, rtake.eq_def]
  · simp [initStore]

/-- The record of a store after a run, from its record before. -/
theorem get?_run (storeId : Nat) (ops : List (Operation P)) :
    ∀ t : OnboardTMStorage P, (run t ops).get? storeId =
      (t.get? storeId).map fun s => ops.foldl (fun s op => s.apply (op.effectOn storeId)) s := by
  induction ops with
  | nil => intro t; simp [run]
  | cons op rest ih =>
      intro t
      have hstep := get?_step t storeId op
      have hrest := ih (step t op)
      rw [hstep, Option.map_map] at hrest
      exact hrest

theorem holds_foldl (storeId : Nat) (ops : List (Operation P)) :
    ∀ {s : Store P} {h : Offered P}, s.Holds h → 0 < s.capacity →
      (ops.foldl (fun s op => s.apply (op.effectOn storeId)) s).Holds
        (ops.foldl (fun h op => h.next (op.effectOn storeId)) h) := by
  induction ops with
  | nil => intro s h hs _; exact hs
  | cons op rest ih =>
      intro s h hs hpos
      refine ih (hs.apply hpos (op.effectOn storeId)) ?_
      rw [apply_capacity]
      exact hpos

theorem foldl_static (storeId : Nat) (ops : List (Operation P)) (s : Store P) :
    (ops.foldl (fun s op => s.apply (op.effectOn storeId)) s).capacity = s.capacity ∧
      (ops.foldl (fun s op => s.apply (op.effectOn storeId)) s).circular = s.circular := by
  induction ops generalizing s with
  | nil => exact ⟨rfl, rfl⟩
  | cons op rest ih =>
      have hrest := ih (s.apply (op.effectOn storeId))
      rw [apply_capacity, apply_circular] at hrest
      exact hrest

/-- **The stores over whole runs.**  After every sequence of operations a circular store
holds the last packets that reached it enabled since its deletion, a linear one the first,
as many as its capacity; its overflow flag says that it holds fewer than reached it; and
while it is disabled a packet offered to it changes nothing. -/
theorem run_contents (defs : Dict Nat StoreInfo) (ops : List (Operation P)) {storeId : Nat}
    {info : StoreInfo} (hdef : defs.get? storeId = some info)
    (hcap : 1 ≤ (initStore storeId info : Store P).capacity) :
    startDump (run (init defs) ops) storeId =
        (if (initStore storeId info : Store P).circular then
          (offered storeId ops).packets.rtake (initStore storeId info : Store P).capacity
        else (offered storeId ops).packets.take (initStore storeId info : Store P).capacity) ∧
      (isOverflow (run (init defs) ops) storeId = true ↔
        (startDump (run (init defs) ops) storeId).length < (offered storeId ops).packets.length) ∧
      ((offered storeId ops).enabled = false → ∀ pkt timestamp,
        storePacketDirect (run (init defs) ops) storeId pkt timestamp =
          (run (init defs) ops, false)) := by
  have hinit : (init defs : OnboardTMStorage P).get? storeId = some (initStore storeId info) := by
    rw [init, Dict.get?_mapItems, hdef]
    rfl
  have hget := get?_run storeId ops (init defs : OnboardTMStorage P)
  rw [hinit, Option.map_some] at hget
  have hholds := holds_foldl storeId ops (initStore_holds (P := P) storeId info) hcap
  obtain ⟨hcapacity, hcircular⟩ := foldl_static storeId ops (initStore storeId info : Store P)
  have hpackets := hholds.packets
  rw [hcapacity, hcircular] at hpackets
  refine ⟨?_, ?_, ?_⟩
  · rw [startDump, hget]
    exact hpackets
  · rw [startDump, isOverflow, hget]
    exact hholds.overflow
  · intro hoff pkt timestamp
    have hdisabled := put_disabled (hholds.enabled.trans hoff) pkt timestamp
    rw [storePacketDirect, hget]
    simp only [hdisabled]
    rw [Dict.set_get? hget]

/-- The default event store after two packets. -/
theorem run_contents_event_store :
    startDump (run (init defaultStores) [.storePacket 5 'a' 1, .storePacket 5 'b' 2]) 2 =
      ['a', 'b'] :=
  (@run_contents Char defaultStores [.storePacket 5 'a' 1, .storePacket 5 'b' 2] 2 _ rfl
    (by decide)).1

end TmStorage
