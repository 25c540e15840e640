import MissionSim.Services
import MissionSim.Runs

/-!
# Large-data transfers

A transfer counts its blocks by the segment that was served last, so that a segment requested again
sets the count back.  It does not look at the number of the segment, and it stays active until the
ground ends it.
-/

namespace Spacecraft

open Octets Ecss Binary32 Python Effects TmBuilder Runs

variable {M : Type} (sub : Subsystems M)

/-! ### Telecommands -/

/-- A telecommand of service 13. -/
structure S13Command where
  subtype : Nat
  data : Bytes

namespace S13Command

variable (cmd : S13Command)

def transferId : Nat := unpackU16 cmd.data

def segment : Nat := unpackU16 (cmd.data.drop 2)

def Creates : Prop := cmd.subtype = 1 ∧ 4 ≤ cmd.data.length

def Requests : Prop := cmd.subtype = 3 ∧ 4 ≤ cmd.data.length

def EndsTransfer : Prop := cmd.subtype = 5 ∧ 2 ≤ cmd.data.length

instance : Decidable cmd.Creates := inferInstanceAs (Decidable (_ ∧ _))

instance : Decidable cmd.Requests := inferInstanceAs (Decidable (_ ∧ _))

instance : Decidable cmd.EndsTransfer := inferInstanceAs (Decidable (_ ∧ _))

end S13Command

/-- The engine after a telecommand of service 13, also one that raises. -/
def transferStep (e : Engine M) (cmd : S13Command) : Engine M :=
  finalState (handleS13 sub cmd.subtype cmd.data) e

/-- The transfers. -/
abbrev Engine.transfers (e : Engine M) : Dict Nat Transfer := e.dispatcher.s13Transfers

/-- The number of the next transfer. -/
abbrev Engine.nextTransfer (e : Engine M) : Nat := e.dispatcher.s13TransferCounter

/-- An engine that has no transfers yet. -/
def Engine.withoutTransfers (e : Engine M) : Engine M :=
  { e with dispatcher := { e.dispatcher with s13Transfers := .empty } }

/-! ### One telecommand -/

/-- The transfer that a telecommand creates. -/
def created (e : Engine M) (cmd : S13Command) : Transfer :=
  let sizeMb := if cmd.segment = 0 then configuredImageSizeMb sub e.models else cmd.segment
  { transferId := e.nextTransfer, sceneId := cmd.transferId, sizeMb := sizeMb,
    totalBlocks := (sizeMb * 1024 * 1024 + 1023) / 1024 }

/-- A segment of an active transfer is served. -/
def Transfer.serve (segment : Nat) (t : Transfer) : Transfer :=
  if t.status = .active then { t with blocksSent := segment + 1 } else t

/-- What a handler answers with leaves the transfers alone. -/
theorem report_transfers (service subtype : Nat) (data : Bytes) :
    Keeps (Unchanged (Engine.dispatcher (M := M))) (report service subtype data) :=
  keeps_map (keeps_zoom fun _ _ => rfl)

theorem updateDispatcher_bind {α : Type} (f : Dispatcher → Dispatcher) (x : Unit → Program M α)
    (e : Engine M) :
    (updateDispatcher f >>= x) e = x () { e with dispatcher := f e.dispatcher } := rfl

theorem finalState_updateDispatcher {α : Type} (f : Dispatcher → Dispatcher)
    (x : Unit → Program M α) (e : Engine M) :
    finalState (updateDispatcher f >>= x) e =
      finalState (x ()) { e with dispatcher := f e.dispatcher } := rfl

variable {cmd : S13Command} {e : Engine M}

/-- A telecommand that creates a transfer. -/
theorem transferStep_creates (h : cmd.Creates) :
    (transferStep sub e cmd).transfers = e.transfers.set e.nextTransfer (created sub e cmd) ∧
      (transferStep sub e cmd).nextTransfer = e.nextTransfer + 1 := by
  obtain ⟨hsubtype, hlength⟩ := h
  have hsteps : transferStep sub e cmd = finalState (updateDispatcher (fun d => { d with
      s13TransferCounter := e.nextTransfer + 1
      s13Transfers := d.s13Transfers.set e.nextTransfer (created sub e cmd) }) >>= fun _ => do
        let id ← fromExcept (packUnsigned 2 e.nextTransfer)
        report 13 2 id) e := by
    unfold transferStep handleS13
    rw [if_pos ⟨hsubtype, hlength⟩, finalState_get_bind]
    rfl
  have hanswer : ∀ e' : Engine M, (finalState (do
      let id ← fromExcept (packUnsigned 2 e.nextTransfer)
      report 13 2 id) e').dispatcher = e'.dispatcher :=
    (keeps_bind (keeps_fromExcept _) fun id => report_transfers 13 2 id).final
  unfold Engine.transfers Engine.nextTransfer
  rw [hsteps, finalState_updateDispatcher, hanswer]
  exact ⟨rfl, rfl⟩

/-- A telecommand that requests a segment. -/
theorem transferStep_requests (h : cmd.Requests) :
    (transferStep sub e cmd).transfers =
        (match e.transfers.get? cmd.transferId with
        | none => e.transfers
        | some t => if t.status = .active then
            e.transfers.set cmd.transferId { t with blocksSent := cmd.segment + 1 }
          else e.transfers) ∧
      (transferStep sub e cmd).nextTransfer = e.nextTransfer := by
  obtain ⟨hsubtype, hlength⟩ := h
  have hother : ¬ (cmd.subtype = 1 ∧ 4 ≤ cmd.data.length) := fun h => by omega
  unfold transferStep handleS13
  rw [if_neg hother, if_pos ⟨hsubtype, hlength⟩, finalState_get_bind]
  unfold Engine.transfers Engine.nextTransfer S13Command.transferId S13Command.segment
  cases hfound : e.dispatcher.s13Transfers.get? (unpackU16 cmd.data) with
  | none =>
      dsimp only
      rw [hfound, (report_transfers 13 4 _).final e]
      exact ⟨rfl, rfl⟩
  | some t =>
      dsimp only
      rw [hfound]
      dsimp only
      by_cases hactive : t.status = .active
      · rw [if_neg (not_not.mpr hactive), if_pos hactive, updateTransfers,
          finalState_updateDispatcher, (report_transfers 13 4 _).final]
        exact ⟨rfl, rfl⟩
      · rw [if_pos hactive, if_neg hactive]
        exact ⟨rfl, rfl⟩

/-- A telecommand that ends a transfer. -/
theorem transferStep_ends (h : cmd.EndsTransfer) :
    (transferStep sub e cmd).transfers = e.transfers.erase cmd.transferId ∧
      (transferStep sub e cmd).nextTransfer = e.nextTransfer := by
  obtain ⟨hsubtype, hlength⟩ := h
  have hcreates : ¬ (cmd.subtype = 1 ∧ 4 ≤ cmd.data.length) := fun h => by omega
  have hrequests : ¬ (cmd.subtype = 3 ∧ 4 ≤ cmd.data.length) := fun h => by omega
  unfold transferStep handleS13
  rw [if_neg hcreates, if_neg hrequests, if_pos ⟨hsubtype, hlength⟩, updateTransfers,
    finalState_updateDispatcher]
  exact ⟨rfl, rfl⟩

/-- A report of two numbers leaves the transfers alone. -/
theorem numbersReport_transfers (sent total : Except PyError Bytes) (id code : Bytes) :
    Keeps (Unchanged (Engine.dispatcher (M := M))) (do
      let sent ← fromExcept sent
      let total ← fromExcept total
      report 13 10 (id ++ sent ++ total ++ code)) :=
  keeps_bind (keeps_fromExcept _) fun _ => keeps_bind (keeps_fromExcept _) fun _ =>
    report_transfers 13 10 _

/-- The other telecommands change nothing. -/
theorem transferStep_other (hcreates : ¬ cmd.Creates) (hrequests : ¬ cmd.Requests)
    (hends : ¬ cmd.EndsTransfer) : (transferStep sub e cmd).dispatcher = e.dispatcher := by
  unfold S13Command.Creates at hcreates
  unfold S13Command.Requests at hrequests
  unfold S13Command.EndsTransfer at hends
  apply Keeps.final (R := Unchanged Engine.dispatcher)
  unfold handleS13
  rw [if_neg hcreates, if_neg hrequests, if_neg hends]
  apply keeps_ite
  · intro _
    apply keeps_bind keeps_get
    intro e'
    cases e'.dispatcher.s13Transfers.get? (unpackU16 cmd.data) with
    | none => exact keeps_pure _
    | some t =>
        exact numbersReport_transfers _ _ _ _
  · intro _
    exact keeps_pure _

/-- A request serves its transfer and leaves the others. -/
theorem get?_of_requests (h : cmd.Requests) (id : Nat) :
    (transferStep sub e cmd).transfers.get? id =
      if id = cmd.transferId then (e.transfers.get? id).map (Transfer.serve cmd.segment)
      else e.transfers.get? id := by
  rw [(transferStep_requests sub h).1]
  by_cases hid : id = cmd.transferId
  · subst hid
    rw [if_pos rfl]
    cases hfound : e.transfers.get? cmd.transferId with
    | none =>
        rw [hfound]
        rfl
    | some t =>
        dsimp only
        unfold Transfer.serve
        rw [Option.map_some]
        by_cases hactive : t.status = .active
        · rw [if_pos hactive, if_pos hactive, Dict.get?_set_same]
        · rw [if_neg hactive, if_neg hactive, hfound]
  · rw [if_neg hid]
    cases e.transfers.get? cmd.transferId with
    | none => rfl
    | some t =>
        dsimp only
        split_ifs
        · exact Dict.get?_set_ne _ hid _
        · rfl

/-- **The table after a telecommand.** -/
theorem get?_transferStep (e : Engine M) (cmd : S13Command) (id : Nat) :
    (transferStep sub e cmd).transfers.get? id =
      if cmd.Creates ∧ id = e.nextTransfer then some (created sub e cmd)
      else if cmd.Requests ∧ id = cmd.transferId then
        (e.transfers.get? id).map (Transfer.serve cmd.segment)
      else if cmd.EndsTransfer ∧ id = cmd.transferId then none
      else e.transfers.get? id := by
  by_cases hcreates : cmd.Creates
  · have hrequests : ¬ cmd.Requests := fun h => by
      have hboth := hcreates.1.symm.trans h.1
      omega
    have hends : ¬ cmd.EndsTransfer := fun h => by
      have hboth := hcreates.1.symm.trans h.1
      omega
    rw [(transferStep_creates sub hcreates).1]
    by_cases hid : id = e.nextTransfer
    · subst hid
      rw [Dict.get?_set_same, if_pos ⟨hcreates, rfl⟩]
    · rw [Dict.get?_set_ne _ hid, if_neg (fun h => hid h.2), if_neg (fun h => hrequests h.1),
        if_neg (fun h => hends h.1)]
  · rw [if_neg fun h => hcreates h.1]
    by_cases hrequests : cmd.Requests
    · have hends : ¬ cmd.EndsTransfer := fun h => by
        have hboth := hrequests.1.symm.trans h.1
        omega
      rw [get?_of_requests sub hrequests]
      by_cases hid : id = cmd.transferId
      · rw [if_pos hid, if_pos ⟨hrequests, hid⟩]
      · rw [if_neg hid, if_neg fun h => hid h.2, if_neg fun h => hends h.1]
    · rw [if_neg fun h => hrequests h.1]
      by_cases hends : cmd.EndsTransfer
      · rw [(transferStep_ends sub hends).1, Dict.get?_erase]
        by_cases hid : id = cmd.transferId
        · rw [if_pos hid, if_pos ⟨hends, hid⟩]
        · rw [if_neg hid, if_neg fun h => hid h.2]
      · rw [if_neg fun h => hends h.1, Engine.transfers,
          transferStep_other sub hcreates hrequests hends]

theorem nextTransfer_transferStep (e : Engine M) (cmd : S13Command) :
    (transferStep sub e cmd).nextTransfer =
      if cmd.Creates then e.nextTransfer + 1 else e.nextTransfer := by
  split_ifs with hcreates
  · exact (transferStep_creates sub hcreates).2
  · by_cases hrequests : cmd.Requests
    · exact (transferStep_requests sub hrequests).2
    · by_cases hends : cmd.EndsTransfer
      · exact (transferStep_ends sub hends).2
      · rw [Engine.nextTransfer, transferStep_other sub hcreates hrequests hends]

/-! ### The property -/

section Runs

variable (e : Engine M) (cmds : List S13Command)

/-- The engine at a position of a run. -/
def engineAt (i : Nat) : Engine M := after (transferStep sub) e.withoutTransfers (cmds.take i)

/-- A transfer at a position of a run. -/
def transferAt (i id : Nat) : Option Transfer := (engineAt sub e cmds i).transfers.get? id

/-- The telecommand at a position has a segment of an active transfer served. -/
def ServedAt (id segment i : Nat) : Prop :=
  ∃ cmd, cmds[i]? = some cmd ∧ cmd.Requests ∧ cmd.transferId = id ∧ cmd.segment = segment ∧
    ∃ t, transferAt sub e cmds i id = some t ∧ t.status = .active

/-- **Bookkeeping in bounds**: no more blocks than there are, none taken back, a segment that there
is not refused, and completion when all have been sent. -/
structure TransfersInBounds : Prop where
  bounded : ∀ i id t, transferAt sub e cmds i id = some t → t.blocksSent ≤ t.totalBlocks
  forward : ∀ i id t t', transferAt sub e cmds i id = some t →
    transferAt sub e cmds (i + 1) id = some t' → t.blocksSent ≤ t'.blocksSent
  refused : ∀ i cmd t, cmds[i]? = some cmd → cmd.Requests →
    transferAt sub e cmds i cmd.transferId = some t → t.totalBlocks ≤ cmd.segment →
    transferAt sub e cmds (i + 1) cmd.transferId = some t
  completes : ∀ i id t, transferAt sub e cmds i id = some t →
    (t.status = .complete ↔ ∀ segment < t.totalBlocks, ∃ j < i, ServedAt sub e cmds id segment j)

/-- So many blocks have been sent as the segment served last has it. -/
def FollowsLast (i id blocksSent : Nat) : Prop :=
  (∀ j < i, ∀ segment, ¬ ServedAt sub e cmds id segment j) ∧ blocksSent = 0 ∨
  ∃ j < i, ∃ segment, ServedAt sub e cmds id segment j ∧
    (∀ k, j < k → k < i → ∀ segment', ¬ ServedAt sub e cmds id segment' k) ∧
    blocksSent = segment + 1

/-- **What the bookkeeping does**: it follows the segment served last, changes by nothing else, and
keeps a transfer active until the ground ends it. -/
structure TransfersFollow : Prop where
  last : ∀ i id t, transferAt sub e cmds i id = some t → FollowsLast sub e cmds i id t.blocksSent
  bounded : ∀ i id t, transferAt sub e cmds i id = some t →
    (∀ j < i, ∀ segment, ServedAt sub e cmds id segment j → segment < t.totalBlocks) →
    t.blocksSent ≤ t.totalBlocks
  kept : ∀ i id t t', transferAt sub e cmds i id = some t →
    transferAt sub e cmds (i + 1) id = some t' →
    t' = { t with blocksSent := t'.blocksSent } ∧
      ((∀ segment, ¬ ServedAt sub e cmds id segment i) → t' = t)
  served : ∀ i id segment, ServedAt sub e cmds id segment i → ∃ cmd e', cmds[i]? = some cmd ∧
    handleS13 sub cmd.subtype cmd.data (engineAt sub e cmds i) =
      (report 13 4 (packU16 id ++ packU16 segment ++ segmentBlock segment)) e'
  unknown : ∀ i cmd, cmds[i]? = some cmd → cmd.Requests →
    transferAt sub e cmds i cmd.transferId = none →
    handleS13 sub cmd.subtype cmd.data (engineAt sub e cmds i) =
      (report 13 4 (packU16 cmd.transferId)) (engineAt sub e cmds i) ∧
    ∀ id, transferAt sub e cmds (i + 1) id = transferAt sub e cmds i id
  active : ∀ i id t, transferAt sub e cmds i id = some t → t.status = .active
  ended : ∀ i j cmd, cmds[i]? = some cmd → cmd.EndsTransfer →
    (transferAt sub e cmds i cmd.transferId).isSome → i < j →
    transferAt sub e cmds j cmd.transferId = none

end Runs

/-! ### What every run keeps -/

/-- The transfers are active, with numbers that have been given. -/
def Numbered (e : Engine M) : Prop :=
  ∀ id t, e.transfers.get? id = some t → id < e.nextTransfer ∧ t.status = .active

theorem serve_of_active {t : Transfer} (h : t.status = .active) (segment : Nat) :
    t.serve segment = { t with blocksSent := segment + 1 } := if_pos h

theorem Numbered.step {e : Engine M} (h : Numbered e) (cmd : S13Command) :
    Numbered (transferStep sub e cmd) := by
  intro id t ht
  rw [get?_transferStep] at ht
  rw [nextTransfer_transferStep]
  split_ifs at ht with hcreates hrequests hends
  · cases ht
    rw [if_pos hcreates.1, hcreates.2]
    exact ⟨Nat.lt_succ_self _, rfl⟩
  · obtain ⟨t', ht', rfl⟩ := Option.map_eq_some_iff.mp ht
    obtain ⟨hlt, hactive⟩ := h id t' ht'
    rw [serve_of_active hactive]
    refine ⟨?_, hactive⟩
    split_ifs
    · exact Nat.lt_succ_of_lt hlt
    · exact hlt
  · obtain ⟨hlt, hactive⟩ := h id t ht
    refine ⟨?_, hactive⟩
    split_ifs
    · exact Nat.lt_succ_of_lt hlt
    · exact hlt

variable {sub} {e : Engine M} {cmds : List S13Command}

theorem numbered_at (i : Nat) : Numbered (engineAt sub e cmds i) := by
  apply invariant
  · exact fun e cmd h => h.step sub cmd
  · intro id t ht
    cases ht

theorem engineAt_succ {i : Nat} (h : cmds[i]? = some cmd) :
    engineAt sub e cmds (i + 1) = transferStep sub (engineAt sub e cmds i) cmd :=
  after_take_succ h

theorem engineAt_past {i : Nat} (h : cmds[i]? = none) :
    engineAt sub e cmds (i + 1) = engineAt sub e cmds i := by
  have hlong := List.getElem?_eq_none_iff.mp h
  unfold engineAt
  rw [List.take_of_length_le hlong, List.take_of_length_le (Nat.le_succ_of_le hlong)]

/-- Numbers are given in order. -/
theorem nextTransfer_mono {i j : Nat} (hij : i ≤ j) :
    (engineAt sub e cmds i).nextTransfer ≤ (engineAt sub e cmds j).nextTransfer := by
  refine holds_between (P := fun e' : Engine M =>
    (engineAt sub e cmds i).nextTransfer ≤ e'.nextTransfer) hij (le_refl _) ?_
  intro k cmd _ _ _ hle
  rw [nextTransfer_transferStep]
  split_ifs
  · exact Nat.le_succ_of_le hle
  · exact hle

/-- What was served has a number that has been given. -/
theorem ServedAt.lt {i id segment : Nat} (h : ServedAt sub e cmds id segment i) :
    id < (engineAt sub e cmds i).nextTransfer := by
  obtain ⟨-, -, -, -, -, t, ht, -⟩ := h
  exact (numbered_at i id t ht).1

theorem servedAt_iff {i id segment : Nat} (hcmd : cmds[i]? = some cmd) :
    ServedAt sub e cmds id segment i ↔ cmd.Requests ∧ cmd.transferId = id ∧
      cmd.segment = segment ∧ (transferAt sub e cmds i id).isSome := by
  constructor
  · rintro ⟨cmd', hcmd', hrequests, hid, hsegment, t, ht, -⟩
    obtain rfl := Option.some.inj (hcmd.symm.trans hcmd')
    exact ⟨hrequests, hid, hsegment, Option.isSome_iff_exists.mpr ⟨t, ht⟩⟩
  · rintro ⟨hrequests, hid, hsegment, hsome⟩
    obtain ⟨t, ht⟩ := Option.isSome_iff_exists.mp hsome
    exact ⟨cmd, hcmd, hrequests, hid, hsegment, t, ht, (numbered_at i id t ht).2⟩

/-- **The transfers after a telecommand**: one is new, or the telecommand serves a segment of it, or
it was there before. -/
theorem transferAt_succ {i id : Nat} {t : Transfer}
    (h : transferAt sub e cmds (i + 1) id = some t) :
    id = (engineAt sub e cmds i).nextTransfer ∧ t.blocksSent = 0 ∨
    (∃ segment t', ServedAt sub e cmds id segment i ∧ transferAt sub e cmds i id = some t' ∧
      t = { t' with blocksSent := segment + 1 }) ∨
    (∀ segment, ¬ ServedAt sub e cmds id segment i) ∧ transferAt sub e cmds i id = some t := by
  cases hcmd : cmds[i]? with
  | none =>
      unfold transferAt at h
      rw [engineAt_past hcmd] at h
      refine .inr (.inr ⟨?_, h⟩)
      rintro segment ⟨cmd, hcmd', -⟩
      rw [hcmd] at hcmd'
      cases hcmd'
  | some cmd =>
      unfold transferAt at h
      rw [engineAt_succ hcmd, get?_transferStep] at h
      split_ifs at h with hcreates hrequests hends
      · cases h
        exact .inl ⟨hcreates.2, rfl⟩
      · obtain ⟨t', ht', rfl⟩ := Option.map_eq_some_iff.mp h
        refine .inr (.inl ⟨cmd.segment, t', ?_, ht', ?_⟩)
        · exact (servedAt_iff hcmd).mpr ⟨hrequests.1, hrequests.2.symm, rfl,
            Option.isSome_iff_exists.mpr ⟨t', ht'⟩⟩
        · exact serve_of_active (numbered_at i id t' ht').2 cmd.segment
      · refine .inr (.inr ⟨?_, h⟩)
        intro segment hserved
        obtain ⟨hserves, hid, -⟩ := (servedAt_iff hcmd).mp hserved
        exact hrequests ⟨hserves, hid.symm⟩

/-- The count follows the segment served last. -/
theorem followsLast_at {i id : Nat} {t : Transfer} (h : transferAt sub e cmds i id = some t) :
    FollowsLast sub e cmds i id t.blocksSent := by
  induction i generalizing t with
  | zero => cases h
  | succ i ih =>
      rcases transferAt_succ h with ⟨hid, hzero⟩ | ⟨segment, t', hserved, ht', rfl⟩ |
        ⟨hnot, ht⟩
      · refine .inl ⟨?_, hzero⟩
        intro j hj segment hserved
        have hlt := hserved.lt.trans_le (nextTransfer_mono (Nat.le_of_lt_succ hj))
        exact absurd hid hlt.ne
      · refine .inr ⟨i, Nat.lt_succ_self i, segment, hserved, ?_, rfl⟩
        omega
      · rcases ih ht with ⟨hnever, hzero⟩ | ⟨j, hj, segment, hserved, hlast, hsent⟩
        · refine .inl ⟨?_, hzero⟩
          intro j hj segment
          rcases Nat.lt_succ_iff_lt_or_eq.mp hj with hlt | rfl
          · exact hnever j hlt segment
          · exact hnot segment
        · refine .inr ⟨j, Nat.lt_succ_of_lt hj, segment, hserved, ?_, hsent⟩
          intro k hjk hk
          rcases Nat.lt_succ_iff_lt_or_eq.mp hk with hlt | rfl
          · exact hlast k hjk hlt
          · exact hnot

/-- What is told of a transfer does not change but by a segment of it. -/
theorem transferAt_kept {i id : Nat} {t t' : Transfer} (h : transferAt sub e cmds i id = some t)
    (h' : transferAt sub e cmds (i + 1) id = some t') :
    t' = { t with blocksSent := t'.blocksSent } ∧
      ((∀ segment, ¬ ServedAt sub e cmds id segment i) → t' = t) := by
  rcases transferAt_succ h' with ⟨hid, -⟩ | ⟨segment, t'', hserved, ht'', rfl⟩ | ⟨-, ht⟩
  · exact absurd hid (numbered_at i id t h).1.ne
  · obtain rfl := Option.some.inj (h.symm.trans ht'')
    exact ⟨rfl, fun hnot => absurd hserved (hnot segment)⟩
  · obtain rfl := Option.some.inj (h.symm.trans ht)
    exact ⟨rfl, fun _ => rfl⟩

/-- What the ground ends is gone for good. -/
theorem ended_at {i j : Nat} (hcmd : cmds[i]? = some cmd) (hends : cmd.EndsTransfer)
    (hsome : (transferAt sub e cmds i cmd.transferId).isSome) (hij : i < j) :
    transferAt sub e cmds j cmd.transferId = none := by
  obtain ⟨t, ht⟩ := Option.isSome_iff_exists.mp hsome
  have hgiven := (numbered_at i cmd.transferId t ht).1
  have hgone : transferAt sub e cmds j cmd.transferId = none ∧
      cmd.transferId < (engineAt sub e cmds j).nextTransfer := by
    refine holds_between (P := fun e' : Engine M => e'.transfers.get? cmd.transferId = none ∧
      cmd.transferId < e'.nextTransfer) hij ?_ ?_
    · rw [after_take_succ hcmd, (transferStep_ends sub hends).1, (transferStep_ends sub hends).2,
        Dict.get?_erase, if_pos rfl]
      exact ⟨rfl, hgiven⟩
    · intro k cmd' _ _ hcmd' ⟨hnone, hlt⟩
      rw [get?_transferStep, nextTransfer_transferStep, if_neg fun h => hlt.ne h.2, hnone]
      refine ⟨?_, ?_⟩
      · split_ifs
        · rfl
        · rfl
        · rfl
      · split_ifs
        · exact Nat.lt_succ_of_lt hlt
        · exact hlt
  exact hgone.1

/-- What is answered to a request for a segment. -/
theorem handleS13_requests (h : cmd.Requests) (e : Engine M) :
    (∀ t, e.transfers.get? cmd.transferId = some t → t.status = .active →
      ∃ e', handleS13 sub cmd.subtype cmd.data e =
        (report 13 4 (packU16 cmd.transferId ++ packU16 cmd.segment ++
          segmentBlock cmd.segment)) e') ∧
      (e.transfers.get? cmd.transferId = none →
        handleS13 sub cmd.subtype cmd.data e = (report 13 4 (packU16 cmd.transferId)) e) := by
  obtain ⟨hsubtype, hlength⟩ := h
  have hother : ¬ (cmd.subtype = 1 ∧ 4 ≤ cmd.data.length) := fun h => by omega
  unfold handleS13 Engine.transfers S13Command.transferId S13Command.segment
  rw [if_neg hother, if_pos ⟨hsubtype, hlength⟩]
  constructor
  · intro t ht hactive
    refine ⟨{ e with dispatcher := { e.dispatcher with
      s13Transfers := e.dispatcher.s13Transfers.set (unpackU16 cmd.data)
        { t with blocksSent := unpackU16 (cmd.data.drop 2) + 1 } } }, ?_⟩
    simp only [get_bind, ht, hactive, ne_eq, not_true_eq_false, if_false, updateTransfers,
      updateDispatcher_bind]
  · intro hnone
    simp only [get_bind, hnone]

/-- **The bookkeeping of transfers** in every run. -/
theorem transfersFollow (sub : Subsystems M) (e : Engine M) (cmds : List S13Command) :
    TransfersFollow sub e cmds := by
  constructor
  · exact fun i id t ht => followsLast_at ht
  · intro i id t ht hinside
    rcases followsLast_at ht with ⟨-, hzero⟩ | ⟨j, hj, segment, hserved, -, hsent⟩
    · rw [hzero]
      exact Nat.zero_le _
    · rw [hsent]
      exact hinside j hj segment hserved
  · exact fun i id t t' ht ht' => transferAt_kept ht ht'
  · rintro i id segment ⟨cmd, hcmd, hrequests, rfl, rfl, t, ht, hactive⟩
    obtain ⟨e', he'⟩ := (handleS13_requests hrequests _).1 t ht hactive
    exact ⟨cmd, e', hcmd, he'⟩
  · intro i cmd hcmd hrequests hnone
    refine ⟨(handleS13_requests hrequests _).2 hnone, ?_⟩
    intro id
    unfold transferAt at hnone ⊢
    rw [engineAt_succ hcmd, (transferStep_requests sub hrequests).1, hnone]
  · exact fun i id t ht => (numbered_at i id t ht).2
  · exact fun i j cmd hcmd hends hsome hij => ended_at hcmd hends hsome hij

/-! ### Examples -/

/-- A transfer of one megabyte is created. -/
def createOne : S13Command := ⟨1, [0, 0, 0, 1]⟩

/-- A segment of the first transfer is requested. -/
def requestOf (segment : Nat) : S13Command := ⟨3, packU16 1 ++ packU16 segment⟩

theorem requestOf_requests (segment : Nat) : (requestOf segment).Requests := ⟨rfl, Nat.le_refl 4⟩

theorem requestOf_segment {segment : Nat} (h : segment < 2 ^ 16) :
    (requestOf segment).segment = segment := by
  unfold requestOf S13Command.segment
  rw [show (packU16 1 ++ packU16 segment).drop 2 = packU16 segment from rfl, unpackU16_packU16]
  exact Nat.mod_eq_of_lt h

theorem requestOf_transferId (segment : Nat) : (requestOf segment).transferId = 1 := by
  rfl

/-- A transfer of one megabyte, and requests for segments of it. -/
def download (segments : List Nat) : List S13Command := createOne :: segments.map requestOf

/-- The transfer of one megabyte. -/
def firstTransfer : Transfer :=
  { transferId := 1, sceneId := 0, sizeMb := 1, totalBlocks := 1024 }

/-- What a run on the plain engine has of the transfer. -/
abbrev firstAt (segments : List Nat) (i : Nat) : Option Transfer :=
  transferAt (plainSubsystems []) plainEngine (download segments) i 1

theorem firstAt_one (segments : List Nat) : firstAt segments 1 = some firstTransfer := by
  have hcreates : createOne.Creates := ⟨rfl, Nat.le_refl 4⟩
  unfold firstAt transferAt
  rw [engineAt_succ (show (download segments)[0]? = some createOne from rfl), get?_transferStep,
    if_pos ⟨hcreates, rfl⟩]
  have hsegment : createOne.segment = 1 := by decide
  have hscene : createOne.transferId = 0 := by decide
  have hnext : (engineAt (plainSubsystems []) plainEngine (download segments) 0).nextTransfer = 1 :=
    rfl
  unfold created firstTransfer
  rw [hsegment, hscene, hnext, if_neg one_ne_zero]

theorem firstAt_next (segments : List Nat) {k segment : Nat} {t : Transfer}
    (hsegment : segments[k]? = some segment) (hlt : segment < 2 ^ 16)
    (h : firstAt segments (k + 1) = some t) :
    firstAt segments (k + 2) = some { t with blocksSent := segment + 1 } := by
  have hcmd : (download segments)[k + 1]? = some (requestOf segment) := by
    unfold download
    rw [List.getElem?_cons_succ, List.getElem?_map, hsegment, Option.map_some]
  have hrequests := requestOf_requests segment
  have hcreates : ¬ (requestOf segment).Creates := fun h => by
    have hboth := h.1.symm.trans hrequests.1
    omega
  have hactive := (numbered_at _ 1 t h).2
  unfold firstAt transferAt at h ⊢
  rw [engineAt_succ hcmd, get?_transferStep, if_neg fun h => hcreates h.1,
    if_pos ⟨hrequests, (requestOf_transferId segment).symm⟩, h, Option.map_some,
    requestOf_segment hlt, serve_of_active hactive]

theorem firstAt_total {segments : List Nat} (hsegments : ∀ segment ∈ segments, segment < 2 ^ 16)
    {k : Nat} (hk : k ≤ segments.length) :
    ∃ t, firstAt segments (k + 1) = some t ∧ t.totalBlocks = 1024 := by
  induction k with
  | zero => exact ⟨firstTransfer, firstAt_one segments, rfl⟩
  | succ k ih =>
      obtain ⟨t, ht, htotal⟩ := ih (Nat.le_of_succ_le hk)
      have hsegment := List.getElem?_eq_getElem hk
      exact ⟨_, firstAt_next segments hsegment (hsegments _ (List.mem_of_getElem? hsegment)) ht, htotal⟩

/-- The count goes back with an earlier segment, it passes the number of blocks, and a transfer is
still active when all its segments have been sent. -/
theorem download_out_of_bounds :
    ¬ TransfersInBounds (plainSubsystems []) plainEngine (download [10, 2]) ∧
    ¬ TransfersInBounds (plainSubsystems []) plainEngine (download [65535]) ∧
    ¬ TransfersInBounds (plainSubsystems []) plainEngine (download (List.range 1024)) := by
  refine ⟨fun h => ?_, fun h => ?_, fun h => ?_⟩
  · have hten := firstAt_next [10, 2] (k := 0) rfl (by decide) (firstAt_one _)
    have htwo := firstAt_next [10, 2] (k := 1) rfl (by decide) hten
    exact absurd (h.forward 2 1 _ _ hten htwo) (by decide)
  · have hlast := firstAt_next [65535] (k := 0) rfl (by decide) (firstAt_one _)
    exact absurd (h.bounded 2 1 _ hlast) (by decide)
  · have hsmall : ∀ segment ∈ List.range 1024, segment < 2 ^ 16 := by
      intro segment hmem
      have hlt := List.mem_range.mp hmem
      omega
    have hlength : (List.range 1024).length = 1024 := List.length_range
    obtain ⟨t, ht, htotal⟩ := firstAt_total hsmall (k := 1024) hlength.ge
    have hactive := (numbered_at _ 1 t ht).2
    have hcomplete := (h.completes 1025 1 t ht).mpr ?_
    · rw [hactive] at hcomplete
      cases hcomplete
    · intro segment hsegment
      rw [htotal] at hsegment
      have hcmd : (download (List.range 1024))[segment + 1]? = some (requestOf segment) := by
        unfold download
        rw [List.getElem?_cons_succ, List.getElem?_map, List.getElem?_range hsegment,
          Option.map_some]
      obtain ⟨t', ht', -⟩ := firstAt_total hsmall (k := segment) (by omega)
      refine ⟨segment + 1, by omega, (servedAt_iff hcmd).mpr ⟨requestOf_requests segment,
        requestOf_transferId segment, requestOf_segment (by omega), ?_⟩⟩
      exact Option.isSome_iff_exists.mpr ⟨t', ht'⟩

end Spacecraft
