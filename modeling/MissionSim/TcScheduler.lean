import MissionSim.EcssPacket
import MissionSim.Python
import MissionSim.Runs

/-!
# Time-tagged telecommand scheduler

The schedule of service 11: commands by their number, in the order of insertion,
each with the packet to execute and the time to execute it at.  A tick hands out
the packets that are due and forgets them.

`releasedAt` is what one operation of a run hands out.  `releasedAt_iff` says
exactly which: an insertion is released by the first enabled tick at or after its
time, unless it was deleted before.  Within one tick the order is the order of
insertion, whatever the execution times (`released_ordered_iff`).
-/

namespace TcScheduler

open Octets Ecss Python Runs List

/-- How many octets of the embedded command's data are kept for the report. -/
def detailDataBytes : Nat := 8

/-- What the schedule report tells of an embedded command. -/
structure Identity where
  apid : Nat := 0
  service : Nat := 0
  subtype : Nat := 0
  dataLen : Nat := 0
  data : Bytes := []
  deriving DecidableEq, Repr

/-- `_decommutate_identity(tc_packet)`; all zero when the packet does not parse. -/
def decommutateIdentity (tcPacket : Bytes) : Identity :=
  match decommutatePacket tcPacket with
  | none => {}
  | some parsed =>
      { apid := parsed.primary.apid
        service := (parsed.secondary.map SecondaryHeader.service).getD 0
        subtype := (parsed.secondary.map SecondaryHeader.subtype).getD 0
        dataLen := parsed.dataField.length
        data := parsed.dataField.take detailDataBytes }

/-- One scheduled command. -/
structure ScheduledCommand where
  id : Nat
  execTime : Nat
  packet : Bytes
  identity : Identity
  deriving DecidableEq, Repr

/-- The scheduler's state. -/
structure Scheduler where
  commands : Dict Nat ScheduledCommand := .empty
  nextId : Nat := 1
  enabled : Bool := true

/-- The command an insertion adds. -/
def newCommand (id execTime : Nat) (tcPacket : Bytes) : ScheduledCommand where
  id := id
  execTime := execTime
  packet := tcPacket
  identity := decommutateIdentity tcPacket

/-- `insert(execution_time_cuc, tc_packet)`: the new state and the command's number. -/
def Scheduler.insert (s : Scheduler) (execTime : Nat) (tcPacket : Bytes) : Scheduler × Nat :=
  ({ s with
      nextId := s.nextId + 1
      commands := s.commands.set s.nextId (newCommand s.nextId execTime tcPacket) },
    s.nextId)

/-- `delete(cmd_id)`: whether there was such a command. -/
def Scheduler.delete (s : Scheduler) (cmdId : Nat) : Scheduler × Bool :=
  if s.commands.contains cmdId then ({ s with commands := s.commands.erase cmdId }, true)
  else (s, false)

/-- `list_commands()`: in the order of their times, those of one time in the order of
insertion. -/
def Scheduler.listCommands (s : Scheduler) : List ScheduledCommand :=
  s.commands.values.mergeSort fun a b => a.execTime ≤ b.execTime

def Scheduler.deleteAll (s : Scheduler) : Scheduler := { s with commands := .empty }

def Scheduler.enableSchedule (s : Scheduler) : Scheduler := { s with enabled := true }

def Scheduler.disableSchedule (s : Scheduler) : Scheduler := { s with enabled := false }

/-- The commands due at a time, in the order of insertion. -/
def Scheduler.due (s : Scheduler) (currentCuc : Nat) : List ScheduledCommand :=
  s.commands.values.filter fun c => c.execTime ≤ currentCuc

/-- Delete the given numbers one after another. -/
def eraseAll (d : Dict Nat ScheduledCommand) (ids : List Nat) : Dict Nat ScheduledCommand :=
  ids.foldl (fun d id => d.erase id) d

/-- `tick(current_cuc)`: the new state and the commands whose packets it returns. -/
def Scheduler.tick (s : Scheduler) (currentCuc : Nat) : Scheduler × List ScheduledCommand :=
  if s.enabled then
    let due := s.commands.items.filter fun item => item.2.execTime ≤ currentCuc
    ({ s with commands := eraseAll s.commands (due.map Prod.fst) }, due.map Prod.snd)
  else (s, [])

/-! ### Runs -/

/-- An operation on the scheduler. -/
inductive Operation where
  | insert (execTime : Nat) (tcPacket : Bytes)
  | delete (cmdId : Nat)
  | deleteAll
  | enableSchedule
  | disableSchedule
  | tick (currentCuc : Nat)
  deriving DecidableEq, Repr

/-- The state after an operation, and the commands it releases. -/
def step (s : Scheduler) : Operation → Scheduler × List ScheduledCommand
  | .insert execTime tcPacket => ((s.insert execTime tcPacket).1, [])
  | .delete cmdId => ((s.delete cmdId).1, [])
  | .deleteAll => (s.deleteAll, [])
  | .enableSchedule => (s.enableSchedule, [])
  | .disableSchedule => (s.disableSchedule, [])
  | .tick currentCuc => s.tick currentCuc

/-- The state before the operation at position `i`. -/
def stateAt (ops : List Operation) (i : Nat) : Scheduler :=
  after (fun s op => (step s op).1) {} (ops.take i)

/-- What the operation at position `i` releases. -/
def releasedAt (ops : List Operation) (i : Nat) : List ScheduledCommand :=
  match ops[i]? with
  | some op => (step (stateAt ops i) op).2
  | none => []

/-- Everything a run releases, in order. -/
def released (ops : List Operation) : List ScheduledCommand :=
  (List.range ops.length).flatMap (releasedAt ops)

/-- Whether the schedule is enabled before position `i`: the last enable or disable says
so, and it starts enabled. -/
def EnabledAt (ops : List Operation) (i : Nat) : Bool :=
  (ops.take i).foldl (fun enabled op =>
    match op with
    | .enableSchedule => true
    | .disableSchedule => false
    | _ => enabled) true

/-- The number given to an insertion at position `j`: insertions are counted from one. -/
def idAt (ops : List Operation) (j : Nat) : Nat :=
  (ops.take j).countP (fun op => match op with | .insert _ _ => true | _ => false) + 1

/-- An enabled tick at position `i`, at or after `execTime`. -/
def DueTick (ops : List Operation) (execTime i : Nat) : Prop :=
  ∃ now, ops[i]? = some (.tick now) ∧ execTime ≤ now ∧ EnabledAt ops i = true

/-- The operation at position `i` deletes the command with number `id`. -/
def Deletes (ops : List Operation) (id i : Nat) : Prop :=
  ops[i]? = some (.delete id) ∨ ops[i]? = some .deleteAll

/-- The insertion at position `j` is still to be released before position `i`: it was
neither deleted nor due since. -/
structure Waiting (ops : List Operation) (j execTime : Nat) (tcPacket : Bytes) (i : Nat) :
    Prop where
  inserted : ops[j]? = some (.insert execTime tcPacket)
  earlier : j < i
  kept : ∀ k, j < k → k < i → ¬ Deletes ops (idAt ops j) k ∧ ¬ DueTick ops execTime k

/-! ### Positions -/

variable {ops : List Operation} {tcPacket : Bytes}

theorem waiting_succ_iff {j execTime i : Nat} :
    Waiting ops j execTime tcPacket (i + 1) ↔
      (Waiting ops j execTime tcPacket i ∧ ¬ Deletes ops (idAt ops j) i ∧
        ¬ DueTick ops execTime i) ∨
      (j = i ∧ ops[i]? = some (.insert execTime tcPacket)) := by
  constructor
  · intro h
    rcases Nat.lt_or_eq_of_le (Nat.le_of_lt_succ h.earlier) with hlt | heq
    · refine .inl ⟨⟨h.inserted, hlt, fun k hjk hki => ?_⟩, h.kept i hlt (Nat.lt_succ_self i)⟩
      exact h.kept k hjk (Nat.lt_succ_of_lt hki)
    · exact .inr ⟨heq, heq ▸ h.inserted⟩
  · rintro (⟨h, hkept⟩ | ⟨rfl, hinsert⟩)
    · refine ⟨h.inserted, Nat.lt_succ_of_lt h.earlier, fun k hjk hki => ?_⟩
      rcases Nat.lt_or_eq_of_le (Nat.le_of_lt_succ hki) with hlt | heq
      · exact h.kept k hjk hlt
      · exact heq ▸ hkept
    · exact ⟨hinsert, Nat.lt_succ_self _, fun k hjk hki => absurd hjk (by omega)⟩

variable {op : Operation} {i : Nat}

theorem take_succ_of_getElem? (h : ops[i]? = some op) : ops.take (i + 1) = ops.take i ++ [op] := by
  rw [take_add_one, h]
  rfl

/-- Each insertion takes the next number. -/
theorem idAt_succ (h : ops[i]? = some op) :
    idAt ops (i + 1) =
      idAt ops i + (match op with | .insert _ _ => 1 | _ => 0) := by
  unfold idAt
  rw [take_succ_of_getElem? h, countP_append]
  cases op <;> simp

theorem idAt_mono {i j : Nat} (h : i ≤ j) : idAt ops i ≤ idAt ops j := by
  exact Nat.succ_le_succ (List.Sublist.countP_le (take_sublist_take_left h))

theorem idAt_lt {i j execTime : Nat} (hinsert : ops[i]? = some (.insert execTime tcPacket))
    (h : i < j) : idAt ops i < idAt ops j := by
  have hnext : idAt ops (i + 1) = idAt ops i + 1 := idAt_succ hinsert
  have hmono : idAt ops (i + 1) ≤ idAt ops j := idAt_mono h
  omega

theorem idAt_injective {i j execTime execTime' : Nat} {tcPacket tcPacket' : Bytes}
    (hi : ops[i]? = some (.insert execTime tcPacket))
    (hj : ops[j]? = some (.insert execTime' tcPacket')) (h : idAt ops i = idAt ops j) :
    i = j := by
  rcases Nat.lt_trichotomy i j with hlt | heq | hgt
  · exact absurd h (Nat.ne_of_lt (idAt_lt hi hlt))
  · exact heq
  · exact absurd h.symm (Nat.ne_of_lt (idAt_lt hj hgt))

theorem enabledAt_succ (h : ops[i]? = some op) :
    EnabledAt ops (i + 1) =
      (match op with
      | .enableSchedule => true
      | .disableSchedule => false
      | _ => EnabledAt ops i) := by
  unfold EnabledAt
  rw [take_succ_of_getElem? h, foldl_append]
  cases op <;> rfl

/-! ### The schedule and its history -/

theorem get?_eraseAll (d : Dict Nat ScheduledCommand) (ids : List Nat) (id : Nat) :
    (eraseAll d ids).get? id = if id ∈ ids then none else d.get? id := by
  unfold eraseAll
  induction ids generalizing d with
  | nil => simp
  | cons first rest ih =>
      rw [foldl_cons, ih, Dict.get?_erase]
      by_cases hrest : id ∈ rest
      · simp [hrest]
      · simp [hrest]

theorem keys_eraseAll_sublist (d : Dict Nat ScheduledCommand) (ids : List Nat) :
    (eraseAll d ids).keys.Sublist d.keys := by
  induction ids generalizing d with
  | nil => exact List.Sublist.refl _
  | cons first rest ih => exact (ih (d.erase first)).trans (Dict.keys_erase_sublist d first)

/-- **The invariant.**  Before position `i` the schedule is enabled as the history says,
numbers go up in the order of insertion, and it holds exactly the waiting insertions. -/
structure Faithful (ops : List Operation) (i : Nat) (s : Scheduler) : Prop where
  enabled : s.enabled = EnabledAt ops i
  nextId : s.nextId = idAt ops i
  sorted : s.commands.keys.Pairwise (· < ·)
  fresh : ∀ id ∈ s.commands.keys, id < s.nextId
  pending : ∀ id c, s.commands.get? id = some c ↔
    ∃ j execTime tcPacket, Waiting ops j execTime tcPacket i ∧ id = idAt ops j ∧
      c = newCommand id execTime tcPacket

theorem faithful_init : Faithful ops 0 {} where
  enabled := rfl
  nextId := rfl
  sorted := List.Pairwise.nil
  fresh := fun _ h => nomatch h
  pending := by
    intro id c
    constructor
    · intro h
      cases h
    · intro ⟨j, _, _, hwaiting, _⟩
      exact absurd hwaiting.earlier (Nat.not_lt_zero j)

/-- Operations that release and delete nothing leave the same insertions waiting. -/
theorem waiting_succ_of_quiet (hquiet : ∀ id, ¬ Deletes ops id i)
    (hdue : ∀ execTime, ¬ DueTick ops execTime i)
    (hno : ∀ execTime tcPacket, ops[i]? ≠ some (.insert execTime tcPacket)) {j execTime : Nat} :
    Waiting ops j execTime tcPacket (i + 1) ↔ Waiting ops j execTime tcPacket i := by
  rw [waiting_succ_iff]
  constructor
  · rintro (⟨h, -⟩ | ⟨-, h⟩)
    · exact h
    · exact absurd h (hno execTime tcPacket)
  · intro h
    exact .inl ⟨h, hquiet _, hdue execTime⟩

theorem not_deletes (hop : ops[i]? = some op) (hall : op ≠ .deleteAll) {id : Nat}
    (hone : op ≠ .delete id) : ¬ Deletes ops id i := by
  rintro (h | h)
  · exact hone (Option.some.inj (hop.symm.trans h))
  · exact hall (Option.some.inj (hop.symm.trans h))

theorem not_dueTick (hop : ops[i]? = some op) (hno : ∀ now, op ≠ .tick now) (execTime : Nat) :
    ¬ DueTick ops execTime i := by
  intro ⟨now, h, _⟩
  exact hno now (Option.some.inj (hop.symm.trans h))

theorem not_insert {i : Nat} {op : Operation} (hop : ops[i]? = some op)
    (hno : ∀ execTime tcPacket, op ≠ .insert execTime tcPacket) (execTime : Nat)
    (tcPacket : Bytes) : ops[i]? ≠ some (.insert execTime tcPacket) :=
  fun h => hno execTime tcPacket (Option.some.inj (hop.symm.trans h))

variable {s : Scheduler}

/-- The history part of a step that neither inserts, deletes nor releases. -/
theorem Faithful.quiet (h : Faithful ops i s) (hop : ops[i]? = some op) {enabled : Bool}
    (henabled : enabled = EnabledAt ops (i + 1)) (hdelete : ∀ id, ¬ Deletes ops id i)
    (hdue : ∀ execTime, ¬ DueTick ops execTime i)
    (hno : ∀ execTime tcPacket, op ≠ .insert execTime tcPacket) :
    Faithful ops (i + 1) { s with enabled := enabled } where
  enabled := henabled
  nextId := by
    rw [idAt_succ hop, h.nextId]
    cases op with
    | insert execTime tcPacket => exact absurd rfl (hno execTime tcPacket)
    | _ => rfl
  sorted := h.sorted
  fresh := h.fresh
  pending := by
    intro id c
    rw [h.pending]
    simp only [waiting_succ_of_quiet hdelete hdue (not_insert hop hno)]

/-- After a step that takes the commands with the numbers `gone`, and whose history does
the same, the rest is as before. -/
theorem Faithful.remove {i : Nat} {s : Scheduler} (h : Faithful ops i s) {op : Operation}
    (hop : ops[i]? = some op) (gone : Nat → Prop) {commands : Dict Nat ScheduledCommand}
    (hkeys : commands.keys.Sublist s.commands.keys)
    (hget : ∀ id c, commands.get? id = some c ↔ s.commands.get? id = some c ∧ ¬ gone id)
    (hgone : ∀ j execTime tcPacket, Waiting ops j execTime tcPacket i →
      (gone (idAt ops j) ↔ Deletes ops (idAt ops j) i ∨ DueTick ops execTime i))
    (hno : ∀ execTime tcPacket, op ≠ .insert execTime tcPacket)
    (henabled : s.enabled = EnabledAt ops (i + 1)) :
    Faithful ops (i + 1) { s with commands := commands } where
  enabled := henabled
  nextId := by
    rw [idAt_succ hop]
    cases op with
    | insert execTime tcPacket => exact absurd rfl (hno execTime tcPacket)
    | _ => exact h.nextId
  sorted := h.sorted.sublist hkeys
  fresh := fun id hid => h.fresh id (hkeys.subset hid)
  pending := by
    intro id c
    rw [hget, h.pending]
    constructor
    · rintro ⟨⟨j, execTime, tcPacket, hwaiting, rfl, hc⟩, hstays⟩
      have hkept := fun hgo => hstays ((hgone j execTime tcPacket hwaiting).mpr hgo)
      refine ⟨j, execTime, tcPacket, waiting_succ_iff.mpr (.inl ⟨hwaiting, ?_, ?_⟩), rfl, hc⟩
      · exact fun hdelete => hkept (.inl hdelete)
      · exact fun hdue => hkept (.inr hdue)
    · rintro ⟨j, execTime, tcPacket, hwaiting, rfl, hc⟩
      rcases waiting_succ_iff.mp hwaiting with ⟨hbefore, hdelete, hdue⟩ | ⟨-, hinsert⟩
      · refine ⟨⟨j, execTime, tcPacket, hbefore, rfl, hc⟩, fun hgo => ?_⟩
        rcases (hgone j execTime tcPacket hbefore).mp hgo with hd | hd
        · exact hdelete hd
        · exact hdue hd
      · exact absurd hinsert (not_insert hop hno execTime tcPacket)

/-- An insertion adds itself to what is waiting. -/
theorem Faithful.insert (h : Faithful ops i s) {execTime : Nat}
    (hop : ops[i]? = some (.insert execTime tcPacket)) :
    Faithful ops (i + 1) (s.insert execTime tcPacket).1 := by
  have hnew : s.nextId ∉ s.commands.keys := fun hmem => Nat.lt_irrefl _ (h.fresh _ hmem)
  have hkeys : (s.insert execTime tcPacket).1.commands.keys = s.commands.keys ++ [s.nextId] :=
    Dict.keys_set_of_not_mem hnew _
  have hdelete : ∀ id, ¬ Deletes ops id i :=
    fun id => not_deletes hop (by simp) (by simp)
  have hdue : ∀ t, ¬ DueTick ops t i := not_dueTick hop (by simp)
  refine ⟨?_, ?_, ?_, ?_, ?_⟩
  · rw [enabledAt_succ hop]
    exact h.enabled
  · rw [idAt_succ hop, ← h.nextId]
    rfl
  · rw [hkeys]
    refine pairwise_append.mpr ⟨h.sorted, pairwise_singleton _ _, ?_⟩
    intro id hid other hother
    rw [mem_singleton.mp hother]
    exact h.fresh id hid
  · intro id hid
    rw [hkeys] at hid
    rcases mem_append.mp hid with hold | hlast
    · exact Nat.lt_succ_of_lt (h.fresh id hold)
    · rw [mem_singleton.mp hlast]
      exact Nat.lt_succ_self _
  · intro id c
    show (s.commands.set s.nextId (newCommand s.nextId execTime tcPacket)).get? id = some c ↔ _
    by_cases hid : id = s.nextId
    · subst hid
      rw [Dict.get?_set_same]
      constructor
      · intro hc
        refine ⟨i, execTime, tcPacket, waiting_succ_iff.mpr (.inr ⟨rfl, hop⟩), h.nextId, ?_⟩
        exact (Option.some.inj hc).symm
      · rintro ⟨j, t, p, hwaiting, hj, rfl⟩
        have hji : j = i :=
          idAt_injective hwaiting.inserted hop (hj.symm.trans h.nextId)
        subst hji
        cases hop.symm.trans hwaiting.inserted
        rfl
    · rw [Dict.get?_set_ne _ hid, h.pending]
      constructor
      · rintro ⟨j, t, p, hwaiting, hj, hc⟩
        exact ⟨j, t, p, waiting_succ_iff.mpr (.inl ⟨hwaiting, hdelete _, hdue t⟩), hj, hc⟩
      · rintro ⟨j, t, p, hwaiting, hj, hc⟩
        rcases waiting_succ_iff.mp hwaiting with ⟨hbefore, -, -⟩ | ⟨hji, -⟩
        · exact ⟨j, t, p, hbefore, hj, hc⟩
        · exact absurd (hj.trans (hji ▸ h.nextId.symm)) hid

theorem mem_due_iff {now id : Nat} :
    id ∈ (s.commands.items.filter fun item => item.2.execTime ≤ now).map Prod.fst ↔
      ∃ c, s.commands.get? id = some c ∧ c.execTime ≤ now := by
  rw [mem_map]
  constructor
  · rintro ⟨⟨key, c⟩, hmem, rfl⟩
    obtain ⟨hitem, htime⟩ := mem_filter.mp hmem
    exact ⟨c, Dict.get?_eq_some_iff.mpr hitem, of_decide_eq_true htime⟩
  · rintro ⟨c, hget, htime⟩
    exact ⟨(id, c), mem_filter.mpr ⟨Dict.get?_eq_some_iff.mp hget, decide_eq_true htime⟩, rfl⟩

/-- **The step lemma.**  Every operation keeps the schedule faithful to its history. -/
theorem Faithful.step {s : Scheduler} (h : Faithful ops i s) (hop : ops[i]? = some op) :
    Faithful ops (i + 1) (TcScheduler.step s op).1 := by
  have henabled := enabledAt_succ hop
  cases op with
  | insert execTime tcPacket => exact h.insert hop
  | delete cmdId =>
      have hkeep : s.enabled = EnabledAt ops (i + 1) := henabled ▸ h.enabled
      have hgone : ∀ j execTime tcPacket, Waiting ops j execTime tcPacket i →
          (idAt ops j = cmdId ↔ Deletes ops (idAt ops j) i ∨ DueTick ops execTime i) := by
        intro j execTime tcPacket _
        have hdue : ¬ DueTick ops execTime i := not_dueTick hop (by simp) execTime
        have hdelete : Deletes ops (idAt ops j) i ↔ cmdId = idAt ops j := by
          simp [Deletes, hop]
        rw [hdelete, or_iff_left hdue, eq_comm]
      have herase := h.remove hop (fun id => id = cmdId)
        (Dict.keys_erase_sublist s.commands cmdId)
        (fun id c => by rw [Dict.get?_erase]; by_cases hid : id = cmdId <;> simp [hid])
        hgone (by simp) hkeep
      show Faithful ops (i + 1) (s.delete cmdId).1
      unfold Scheduler.delete
      split
      · exact herase
      · rename_i hmissing
        have hnone := Dict.contains_eq_false_iff.mp (Bool.eq_false_iff.mpr hmissing)
        refine h.remove hop (fun id => id = cmdId) (List.Sublist.refl _) ?_ hgone
          (by simp) hkeep
        intro id c
        constructor
        · intro hget
          refine ⟨hget, fun hid => ?_⟩
          rw [hid, hnone] at hget
          cases hget
        · exact And.left
  | deleteAll =>
      refine h.remove hop (fun _ => True) (nil_sublist _) ?_ ?_ (by simp)
        (henabled ▸ h.enabled)
      · simp
      · intro j execTime tcPacket _
        simp [Deletes, hop]
  | enableSchedule | disableSchedule =>
      exact h.quiet hop henabled.symm (fun id => not_deletes hop (by simp) (by simp))
        (not_dueTick hop (by simp)) (by simp)
  | tick now =>
      have hkeep : s.enabled = EnabledAt ops (i + 1) := henabled ▸ h.enabled
      show Faithful ops (i + 1) (s.tick now).1
      unfold Scheduler.tick
      by_cases hon : s.enabled = true
      · rw [if_pos hon]
        refine h.remove hop (fun id => ∃ c, s.commands.get? id = some c ∧ c.execTime ≤ now)
          (keys_eraseAll_sublist s.commands _) ?_ ?_ (by simp) hkeep
        · intro id c
          rw [get?_eraseAll]
          split
          · rename_i hdue
            simp [mem_due_iff.mp hdue]
          · rename_i hdue
            exact ⟨fun hget => ⟨hget, fun hex => hdue (mem_due_iff.mpr hex)⟩, And.left⟩
        · intro j execTime tcPacket hwaiting
          have hget := (h.pending (idAt ops j) _).mpr
            ⟨j, execTime, tcPacket, hwaiting, rfl, rfl⟩
          simp only [hget, Option.some.injEq, exists_eq_left', newCommand, Deletes, DueTick, hop,
            reduceCtorEq, or_self, false_or, Operation.tick.injEq]
          rw [← h.enabled]
          simp [hon]
      · rw [if_neg hon]
        refine h.remove hop (fun _ => False) (List.Sublist.refl _) (by simp) ?_ (by simp)
          hkeep
        simp [Deletes, DueTick, hop, ← h.enabled, hon]

theorem faithful_stateAt (ops : List Operation) (hi : i ≤ ops.length) :
    Faithful ops i (stateAt ops i) := by
  induction i with
  | zero => exact faithful_init
  | succ k ih =>
      have hop : ops[k]? = some ops[k] := List.getElem?_eq_getElem (by omega)
      have hstep := (ih (by omega)).step hop
      rw [stateAt, after_take_succ hop]
      exact hstep

/-! ### What a run releases -/

theorem Faithful.mem_due_iff (h : Faithful ops i s) {now : Nat} {c : ScheduledCommand} :
    c ∈ (s.commands.items.filter fun item => item.2.execTime ≤ now).map Prod.snd ↔
      c.execTime ≤ now ∧ ∃ j execTime tcPacket, Waiting ops j execTime tcPacket i ∧
        c = newCommand (idAt ops j) execTime tcPacket := by
  rw [mem_map]
  constructor
  · rintro ⟨⟨id, c⟩, hmem, rfl⟩
    obtain ⟨hitem, htime⟩ := mem_filter.mp hmem
    obtain ⟨j, t, p, hwaiting, hid, hc⟩ := (h.pending id c).mp (Dict.get?_eq_some_iff.mpr hitem)
    exact ⟨of_decide_eq_true htime, j, t, p, hwaiting, hid ▸ hc⟩
  · rintro ⟨htime, j, t, p, hwaiting, rfl⟩
    have hget := (h.pending (idAt ops j) _).mpr ⟨j, t, p, hwaiting, rfl, rfl⟩
    refine ⟨(idAt ops j, newCommand (idAt ops j) t p), mem_filter.mpr ⟨?_, ?_⟩, rfl⟩
    · exact Dict.get?_eq_some_iff.mp hget
    · exact decide_eq_true htime

/-- **What one operation releases.**  Exactly the insertions that wait for it and fall due
in it. -/
theorem mem_releasedAt_iff {c : ScheduledCommand} :
    c ∈ releasedAt ops i ↔ ∃ j execTime tcPacket, Waiting ops j execTime tcPacket i ∧
      DueTick ops execTime i ∧ c = newCommand (idAt ops j) execTime tcPacket := by
  cases hop : ops[i]? with
  | none => simp [releasedAt, DueTick, hop]
  | some op =>
      have hlt : i < ops.length := (List.getElem?_eq_some_iff.mp hop).1
      have hfaithful := faithful_stateAt ops (Nat.le_of_lt hlt)
      cases op with
      | tick now =>
          have hdue : ∀ t, DueTick ops t i ↔ t ≤ now ∧ (stateAt ops i).enabled = true := by
            simp [DueTick, hop, hfaithful.enabled]
          simp only [releasedAt, hop, step, Scheduler.tick]
          split
          · rename_i hon
            rw [hfaithful.mem_due_iff]
            constructor
            · rintro ⟨htime, j, t, p, hwaiting, rfl⟩
              exact ⟨j, t, p, hwaiting, (hdue t).mpr ⟨htime, hon⟩, rfl⟩
            · rintro ⟨j, t, p, hwaiting, htick, rfl⟩
              exact ⟨((hdue t).mp htick).1, j, t, p, hwaiting, rfl⟩
          · rename_i hoff
            constructor
            · intro hmem
              cases hmem
            · rintro ⟨j, t, p, _, htick, _⟩
              exact absurd ((hdue t).mp htick).2 hoff
      | _ =>
          have hnever : ∀ t, ¬ DueTick ops t i := not_dueTick hop (by simp)
          simp [releasedAt, hop, step, hnever]

/-- One tick releases in the order of insertion. -/
theorem releasedAt_sorted (i : Nat) :
    (releasedAt ops i).Pairwise fun c c' => c.id < c'.id := by
  cases hop : ops[i]? with
  | none => simp [releasedAt, hop]
  | some op =>
      have hlt : i < ops.length := (List.getElem?_eq_some_iff.mp hop).1
      have hfaithful := faithful_stateAt ops (Nat.le_of_lt hlt)
      cases op with
      | tick now =>
          simp only [releasedAt, hop, step, Scheduler.tick]
          split
          · rw [pairwise_map]
            have hitems := pairwise_map.mp hfaithful.sorted
            refine (hitems.sublist filter_sublist).imp_of_mem ?_
            intro item item' hmem hmem' hlt
            have hid : ∀ item ∈ (stateAt ops i).commands.items, item.2.id = item.1 := by
              rintro ⟨id, c⟩ hitem
              obtain ⟨j, t, p, -, -, hc⟩ :=
                (hfaithful.pending id c).mp (Dict.get?_eq_some_iff.mpr hitem)
              rw [hc]
              rfl
            rw [hid item (mem_of_mem_filter hmem), hid item' (mem_of_mem_filter hmem')]
            exact hlt
          · exact List.Pairwise.nil
      | _ => simp [releasedAt, hop, step]

/-- A command is not released twice. -/
theorem releasedAt_id_ne {i i' : Nat} (h : i < i') {c c' : ScheduledCommand}
    (hc : c ∈ releasedAt ops i) (hc' : c' ∈ releasedAt ops i') : c.id ≠ c'.id := by
  intro heq
  obtain ⟨j, t, p, hwaiting, hdue, rfl⟩ := mem_releasedAt_iff.mp hc
  obtain ⟨j', t', p', hwaiting', hdue', rfl⟩ := mem_releasedAt_iff.mp hc'
  have hj : j = j' := idAt_injective hwaiting.inserted hwaiting'.inserted heq
  subst hj
  cases hwaiting.inserted.symm.trans hwaiting'.inserted
  exact (hwaiting'.kept i hwaiting.earlier h).2 hdue

/-- **Exactly once and never early.**  In every run of the scheduler no command is released
twice; what a tick releases was inserted before it, is due, and the schedule is enabled; and
an insertion that is not deleted is released by the first enabled tick at or after its
time. -/
theorem released_once_in_time (ops : List Operation) :
    ((released ops).map ScheduledCommand.id).Nodup ∧
      (∀ i c, c ∈ releasedAt ops i →
        (∃ now, ops[i]? = some (.tick now) ∧ c.execTime ≤ now) ∧ EnabledAt ops i = true ∧
          ∃ j, j < i ∧ ops[j]? = some (.insert c.execTime c.packet) ∧ c.id = idAt ops j) ∧
      (∀ j execTime tcPacket i, ops[j]? = some (.insert execTime tcPacket) → j < i →
        (∀ k, j < k → k < i → ¬ Deletes ops (idAt ops j) k) → DueTick ops execTime i →
        (∀ k, j < k → k < i → ¬ DueTick ops execTime k) →
        newCommand (idAt ops j) execTime tcPacket ∈ releasedAt ops i) := by
  refine ⟨?_, ?_, ?_⟩
  · rw [List.Nodup, List.pairwise_map, released, List.pairwise_flatMap]
    constructor
    · intro i _
      exact (releasedAt_sorted i).imp Nat.ne_of_lt
    · refine List.pairwise_lt_range.imp ?_
      intro i i' hlt c hc c' hc'
      exact releasedAt_id_ne hlt hc hc'
  · intro i c hc
    obtain ⟨j, t, p, hwaiting, ⟨now, hop, htime, hon⟩, rfl⟩ := mem_releasedAt_iff.mp hc
    exact ⟨⟨now, hop, htime⟩, hon, j, hwaiting.earlier, hwaiting.inserted, rfl⟩
  · intro j t p i hinsert hlt hkept hdue hfirst
    refine mem_releasedAt_iff.mpr ⟨j, t, p, ⟨hinsert, hlt, fun k hjk hki => ?_⟩, hdue, rfl⟩
    exact ⟨hkept k hjk hki, hfirst k hjk hki⟩

/-! ### Order -/

/-- The insertion at `j` of a command for `execTime` falls due in the tick at `i`: the first
tick after it whose time has come. -/
structure FallsDue (ops : List Operation) (j execTime i : Nat) : Prop where
  inserted : ∃ tcPacket, ops[j]? = some (.insert execTime tcPacket)
  earlier : j < i
  due : ∃ now, ops[i]? = some (.tick now) ∧ execTime ≤ now
  first : ∀ k, j < k → k < i → ∀ now, ops[k]? = some (.tick now) → now < execTime

/-- The run only inserts and ticks. -/
def InsertsAndTicks (ops : List Operation) : Prop :=
  ∀ op ∈ ops, (∃ execTime tcPacket, op = .insert execTime tcPacket) ∨ ∃ now, op = .tick now

theorem enabledAt_of_insertsAndTicks (h : InsertsAndTicks ops) (i : Nat) :
    EnabledAt ops i = true := by
  unfold EnabledAt
  have hops : ∀ op ∈ ops.take i, (∃ t p, op = .insert t p) ∨ ∃ now, op = .tick now :=
    fun op hop => h op (mem_of_mem_take hop)
  revert hops
  induction ops.take i with
  | nil => intro _; rfl
  | cons op rest ih =>
      intro hops
      have hrest := ih fun op hop => hops op (mem_cons_of_mem _ hop)
      rcases hops op mem_cons_self with ⟨t, p, rfl⟩ | ⟨now, rfl⟩
      · exact hrest
      · exact hrest

/-- Without deletions the insertions released by a tick are those that fall due in it. -/
theorem mem_releasedAt_iff_fallsDue (h : InsertsAndTicks ops) {c : ScheduledCommand} :
    c ∈ releasedAt ops i ↔ ∃ j execTime tcPacket, FallsDue ops j execTime i ∧
      ops[j]? = some (.insert execTime tcPacket) ∧
      c = newCommand (idAt ops j) execTime tcPacket := by
  have hon := enabledAt_of_insertsAndTicks h
  have hkept : ∀ id k, ¬ Deletes ops id k := by
    rintro id k (hdelete | hdelete)
    · rcases h _ (mem_of_getElem? hdelete) with ⟨t, p, heq⟩ | ⟨now, heq⟩ <;> cases heq
    · rcases h _ (mem_of_getElem? hdelete) with ⟨t, p, heq⟩ | ⟨now, heq⟩ <;> cases heq
  rw [mem_releasedAt_iff]
  constructor
  · rintro ⟨j, t, p, hwaiting, ⟨now, hop, htime, -⟩, rfl⟩
    refine ⟨j, t, p, ⟨⟨p, hwaiting.inserted⟩, hwaiting.earlier, ⟨now, hop, htime⟩, ?_⟩,
      hwaiting.inserted, rfl⟩
    intro k hjk hki now' hop'
    by_contra hlate
    exact (hwaiting.kept k hjk hki).2 ⟨now', hop', Nat.not_lt.mp hlate, hon k⟩
  · rintro ⟨j, t, p, hdue, hinsert, rfl⟩
    obtain ⟨now, hop, htime⟩ := hdue.due
    refine ⟨j, t, p, ⟨hinsert, hdue.earlier, fun k hjk hki => ⟨hkept _ k, ?_⟩⟩,
      ⟨now, hop, htime, hon i⟩, rfl⟩
    rintro ⟨now', hop', htime', -⟩
    exact absurd htime' (Nat.not_le.mpr (hdue.first k hjk hki now' hop'))

/-- **When the release order follows the execution times.**  It does exactly when no command
is overtaken: of two commands the one that falls due in an earlier tick, or in the same tick
but was inserted first, is for a time no later. -/
theorem released_ordered_iff (h : InsertsAndTicks ops) :
    (released ops).Pairwise (fun c c' => c.execTime ≤ c'.execTime) ↔
      ∀ j t i j' t' i', FallsDue ops j t i → FallsDue ops j' t' i' →
        (i < i' ∨ i = i' ∧ j < j') → t ≤ t' := by
  rw [released, List.pairwise_flatMap]
  constructor
  · rintro ⟨hwithin, hacross⟩ j t i j' t' i' hdue hdue' horder
    obtain ⟨p, hinsert⟩ := hdue.inserted
    obtain ⟨p', hinsert'⟩ := hdue'.inserted
    have hc := (mem_releasedAt_iff_fallsDue h).mpr ⟨j, t, p, hdue, hinsert, rfl⟩
    have hc' := (mem_releasedAt_iff_fallsDue h).mpr ⟨j', t', p', hdue', hinsert', rfl⟩
    have hrange : ∀ {j t i}, FallsDue ops j t i → i < ops.length := by
      intro j t i hd
      obtain ⟨now, hop, _⟩ := hd.due
      exact (List.getElem?_eq_some_iff.mp hop).1
    rcases horder with hlt | ⟨rfl, hlt⟩
    · have hpair := List.pairwise_iff_getElem.mp hacross i i'
        (by simpa using hrange hdue) (by simpa using hrange hdue') hlt
      simp only [List.getElem_range] at hpair
      exact hpair _ hc _ hc'
    · have hboth := (releasedAt_sorted i).and (hwithin i (List.mem_range.mpr (hrange hdue)))
      have hforward := List.Pairwise.forall_of_forall_of_flip
        (R := fun c c' : ScheduledCommand => c.id < c'.id → c.execTime ≤ c'.execTime)
        (fun c _ hid => absurd hid (Nat.lt_irrefl c.id)) (hboth.imp fun hR _ => hR.2)
        (hboth.imp fun hR hgt => absurd hR.1 (Nat.lt_asymm hgt))
      exact hforward hc hc' (idAt_lt hinsert hlt)
  · intro hall
    constructor
    · intro i _
      refine (releasedAt_sorted i).imp_of_mem fun {c c'} hc hc' hid => ?_
      obtain ⟨j, t, p, hdue, hinsert, rfl⟩ := (mem_releasedAt_iff_fallsDue h).mp hc
      obtain ⟨j', t', p', hdue', hinsert', rfl⟩ := (mem_releasedAt_iff_fallsDue h).mp hc'
      refine hall j t i j' t' i hdue hdue' (.inr ⟨rfl, ?_⟩)
      by_contra hge
      exact absurd hid (Nat.not_lt.mpr (idAt_mono (Nat.not_lt.mp hge)))
    · refine List.pairwise_lt_range.imp fun {i i'} hlt c hc c' hc' => ?_
      obtain ⟨j, t, p, hdue, hinsert, rfl⟩ := (mem_releasedAt_iff_fallsDue h).mp hc
      obtain ⟨j', t', p', hdue', hinsert', rfl⟩ := (mem_releasedAt_iff_fallsDue h).mp hc'
      exact hall j t i j' t' i' hdue hdue' (.inl hlt)

/-- Two commands inserted in the order of their times, due in one tick. -/
theorem released_ordered_two :
    ((released [.insert 10 [], .insert 20 [], .tick 30]).Pairwise
      (fun c c' => c.execTime ≤ c'.execTime)) ↔
      ∀ j t i j' t' i', FallsDue [.insert 10 [], .insert 20 [], .tick 30] j t i →
        FallsDue [.insert 10 [], .insert 20 [], .tick 30] j' t' i' →
        (i < i' ∨ i = i' ∧ j < j') → t ≤ t' := by
  refine released_ordered_iff ?_
  unfold InsertsAndTicks
  simp

/-- The later command was inserted first and goes first. -/
theorem released_against_time :
    InsertsAndTicks [.insert 20 [], .insert 10 [], .tick 30] ∧
      ¬ (released [.insert 20 [], .insert 10 [], .tick 30]).Pairwise
        (fun c c' => c.execTime ≤ c'.execTime) := by
  refine ⟨?_, by decide⟩
  unfold InsertsAndTicks
  simp

end TcScheduler
