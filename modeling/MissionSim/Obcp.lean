import MissionSim.EcssPacket
import MissionSim.Python
import MissionSim.Runs
import MissionSim.TcAcceptance

/-!
# On-board control procedures

The procedure store of service 18 and its interpreter.  A procedure is a list of
telecommands, each with a delay; a tick gathers the steps of all running procedures
that have fallen due, forgets the executions it has come to the end of, and only then
executes the gathered steps.  A step may be a telecommand of service 18 itself.

Every execution carries a number of its own, which the software does not have; the
log tells with it which execution an event is about.

`consistent_run` is the invariant of the two tables over every sequence of commands,
ticks and restored snapshots.
-/

namespace Obcp

open Octets Ecss Binary32 Python Runs TcAcceptance

/-- `MAX_PROCEDURES`. -/
def maxProcedures : Nat := 16

/-- `MAX_STEPS`. -/
def maxSteps : Nat := 32

/-- A step: a telecommand packet and the delay before it. -/
structure Step where
  delayS : FloatValue
  tc : Bytes
  deriving DecidableEq

structure Procedure where
  name : String
  steps : List Step
  deriving DecidableEq

/-- A running procedure. -/
structure Execution where
  stepIndex : Nat
  waitRemaining : FloatValue
  param : Nat
  /-- Which execution of the procedure it is. -/
  number : Nat
  deriving DecidableEq

/-- What the manager reports and does, in order. -/
inductive Notice where
  | started (procId : Int) (name : String) (nSteps : Nat) (param : Int) (number : Nat)
  | dispatched (procId : Int) (stepIdx number : Nat)
  | stepFailed (procId : Int) (name : String) (stepIdx : Nat) (reason : String) (number : Nat)
  | aborted (procId : Int) (name reason : String) (number : Nat)
  | completed (procId : Int) (name : String) (number : Nat)
  /-- The procedure is deleted or replaced; executions with a smaller number are over. -/
  | replaced (procId : Int) (next : Nat)
  deriving DecidableEq

/-- An event as it is emitted. -/
structure Event where
  eventId : Nat
  severity : Nat
  description : String
  deriving DecidableEq

/-- "OBCP 7 'name'". -/
def label (procId : Int) (name : String) : String :=
  "OBCP " ++ toString procId ++ " '" ++ name ++ "'"

/-- The event of a notice; dispatching and replacing are not events. -/
def Notice.event : Notice → Option Event
  | .started procId name nSteps param _ =>
      some { eventId := 0x0700, severity := 1,
             description := label procId name ++ " started (" ++ toString nSteps ++
               " steps, param=" ++ toString param ++ ")" }
  | .dispatched .. => none
  | .stepFailed procId name stepIdx reason _ =>
      some { eventId := 0x0703, severity := 2,
             description := label procId name ++ " step " ++ toString stepIdx ++ " failed: " ++
               reason }
  | .aborted procId name reason _ =>
      some { eventId := 0x0702, severity := 2,
             description := label procId name ++ " aborted: " ++ reason }
  | .completed procId name _ =>
      some { eventId := 0x0701, severity := 1,
             description := label procId name ++ " completed" }
  | .replaced .. => none

/-- The store of procedures, the running ones, the next execution number and the log. -/
structure Manager where
  procedures : Dict Int Procedure := .empty
  running : Dict Int Execution := .empty
  next : Nat := 0
  log : List Notice := []

/-- The name of a procedure in an event. -/
def Manager.nameOf (m : Manager) (procId : Int) : String :=
  ((m.procedures.get? procId).map Procedure.name).getD "?"

def Manager.emit (m : Manager) (notice : Notice) : Manager :=
  { m with log := m.log ++ [notice] }

/-! ### Commands -/

/-- `_abort(proc_id, reason)`, for an execution that is running. -/
def Manager.abort (m : Manager) (procId : Int) (run : Execution) (reason : String) : Manager :=
  { m with running := m.running.erase procId }.emit
    (.aborted procId (m.nameOf procId) reason run.number)

/-- Abort the procedure if it is running. -/
def Manager.abortIfRunning (m : Manager) (procId : Int) (reason : String) : Manager :=
  match m.running.get? procId with
  | some run => m.abort procId run reason
  | none => m

/-- `load(proc_id, name, steps)`. -/
def Manager.load (m : Manager) (procId : Int) (name : String) (steps : List Step) :
    Manager × Bool :=
  if steps.isEmpty ∨ maxSteps < steps.length then (m, false)
  else if m.procedures.contains procId = false ∧ maxProcedures ≤ m.procedures.size then (m, false)
  else
    let m := m.abortIfRunning procId "replaced by new load"
    ({ m with procedures := m.procedures.set procId { name := name, steps := steps } }.emit
      (.replaced procId m.next), true)

/-- `delete(proc_id)`. -/
def Manager.delete (m : Manager) (procId : Int) : Manager × Bool :=
  let m := m.abortIfRunning procId "deleted while running"
  if m.procedures.contains procId then
    ({ m with procedures := m.procedures.erase procId }.emit (.replaced procId m.next), true)
  else (m, false)

/-- `start(proc_id, param)`. -/
def Manager.start (m : Manager) (procId param : Int) : Manager × Bool :=
  match m.procedures.get? procId with
  | none => (m, false)
  | some proc =>
      match proc.steps with
      | [] => (m, false)
      | first :: _ =>
          if m.running.contains procId then (m, false)
          else
            ({ m with
                running := m.running.set procId
                  { stepIndex := 0, waitRemaining := first.delayS, param := (param % 256).toNat,
                    number := m.next }
                next := m.next + 1 }.emit
              (.started procId proc.name proc.steps.length param m.next), true)

/-- `stop(proc_id)`; zero aborts all. -/
def Manager.stop (m : Manager) (procId : Int) : Manager × Bool :=
  let reason := "stopped by TC(18,4)"
  if procId = 0 then
    (m.running.keys.foldl (fun m pid => m.abortIfRunning pid reason) m, !m.running.keys.isEmpty)
  else (m.abortIfRunning procId reason, m.running.contains procId)

/-! ### The uplink form of a procedure -/

/-- A UTF-8 sequence that has begun: how many octets are missing, the range the next one
must be in, and the value so far. -/
structure Partial where
  missing : Nat
  lower : Nat
  upper : Nat
  value : Nat

/-- The replacement character. -/
def replacement : Char := Char.ofNat 0xFFFD

/-- The first octet of a sequence. -/
def beginUtf8 (b : Nat) : List Char × Option Partial :=
  if b < 0x80 then ([Char.ofNat b], none)
  else if 0xC2 ≤ b ∧ b ≤ 0xDF then ([], some ⟨1, 0x80, 0xBF, b - 0xC0⟩)
  else if b = 0xE0 then ([], some ⟨2, 0xA0, 0xBF, 0⟩)
  else if b = 0xED then ([], some ⟨2, 0x80, 0x9F, 0xD⟩)
  else if 0xE1 ≤ b ∧ b ≤ 0xEF then ([], some ⟨2, 0x80, 0xBF, b - 0xE0⟩)
  else if b = 0xF0 then ([], some ⟨3, 0x90, 0xBF, 0⟩)
  else if 0xF1 ≤ b ∧ b ≤ 0xF3 then ([], some ⟨3, 0x80, 0xBF, b - 0xF0⟩)
  else if b = 0xF4 then ([], some ⟨3, 0x80, 0x8F, 4⟩)
  else ([replacement], none)

/-- One octet; one that does not continue the sequence ends it and is read again. -/
def nextUtf8 (state : Option Partial) (b : Nat) : List Char × Option Partial :=
  match state with
  | none => beginUtf8 b
  | some p =>
      if p.lower ≤ b ∧ b ≤ p.upper then
        let value := p.value * 64 + (b - 0x80)
        if p.missing = 1 then ([Char.ofNat value], none)
        else ([], some ⟨p.missing - 1, 0x80, 0xBF, value⟩)
      else
        let again := beginUtf8 b
        (replacement :: again.1, again.2)

/-- `data.decode('utf-8', errors='replace')`. -/
def decodeUtf8 (data : Bytes) : String :=
  let decoded := data.foldl (fun (r : List Char × Option Partial) b =>
    let next := nextUtf8 r.2 b.toNat
    (r.1 ++ next.1, next.2)) ([], none)
  String.ofList (decoded.1 ++ if decoded.2.isSome then [replacement] else [])

/-- The step loop of `parse_load_blob`. -/
def parseSteps (data : Bytes) : Nat → Nat → Except String (List Step)
  | 0, _ => .ok []
  | n + 1, off =>
      if data.length < off + 6 then .error "load blob truncated in step header"
      else
        let delayS := unpackFloat (slice data off (off + 4))
        let tcLen := unpackU16 (slice data (off + 4) (off + 6))
        let off := off + 6
        if data.length < off + tcLen then .error "load blob truncated in step TC"
        else
          (parseSteps data n (off + tcLen)).map fun rest =>
            { delayS := delayS, tc := slice data off (off + tcLen) } :: rest

/-- `parse_load_blob(data)`; the error is the text of its `ValueError`. -/
def parseLoadBlob (data : Bytes) : Except String (Nat × String × List Step) :=
  if data.length < 4 then .error "load blob too short"
  else
    let procId := unpackU16 (slice data 0 2)
    let nameLen := unpackU8 (data.drop 2)
    let off := 3 + nameLen
    if data.length < off + 1 then .error "load blob truncated in name"
    else
      let name := decodeUtf8 (slice data 3 off)
      let nSteps := unpackU8 (data.drop off)
      match parseSteps data nSteps (off + 1) with
      | .error e => .error e
      | .ok steps =>
          if steps.isEmpty then .error "load blob has no steps" else .ok (procId, name, steps)

/-- A command to the manager: its methods, and the uplinked form of `load`. -/
inductive Command where
  | load (procId : Int) (name : String) (steps : List Step)
  | loadBlob (data : Bytes)
  | delete (procId : Int)
  | start (procId param : Int)
  | stop (procId : Int)

/-- The error report of `_handle_s18`. -/
structure Refusal where
  errorCode : Nat
  message : String
  deriving DecidableEq

/-- A command as service 18 handles it. -/
def Manager.apply (m : Manager) : Command → Manager × Option Refusal
  | .load procId name steps =>
      let r := m.load procId name steps
      (r.1, if r.2 then none else
        some ⟨0x0007, "OBCP load rejected (store full or bad steps)"⟩)
  | .loadBlob data =>
      match parseLoadBlob data with
      | .error e => (m, some ⟨0x0003, "OBCP load parse error: " ++ e⟩)
      | .ok (procId, name, steps) =>
          let r := m.load procId name steps
          (r.1, if r.2 then none else
            some ⟨0x0007, "OBCP load rejected (store full or bad steps)"⟩)
  | .delete procId =>
      let r := m.delete procId
      (r.1, if r.2 then none else some ⟨0x0007, "OBCP " ++ toString procId ++ " not loaded"⟩)
  | .start procId param =>
      let r := m.start procId param
      (r.1, if r.2 then none else some ⟨0x0007, "OBCP " ++ toString procId ++
        " start refused (not loaded or already running)"⟩)
  | .stop procId =>
      let r := m.stop procId
      (r.1, if r.2 then none else some ⟨0x0007, "OBCP " ++ toString procId ++ " not running"⟩)

/-! ### A tick -/

/-- A step that has fallen due. -/
structure Due where
  procId : Int
  stepIdx : Nat
  tc : Bytes
  number : Nat
  deriving DecidableEq

/-- Where an execution is when its due steps are consumed. -/
inductive Stop where
  | waiting (stepIndex : Nat) (waitRemaining : FloatValue)
  | completed
  | indexError (stepIndex : Nat) (waitRemaining : FloatValue)
  deriving DecidableEq

/-- `wait <= 0.0`. -/
def elapsed (wait : FloatValue) : Bool := wait.le (.finite false 0 0)

/-- Consume the steps that are due, from the steps that are left. -/
def consume : List Step → Nat → FloatValue → List (Nat × Bytes) × Stop
  | [], idx, wait => ([], if elapsed wait then .indexError idx wait else .waiting idx wait)
  | step :: rest, idx, wait =>
      if elapsed wait then
        match rest with
        | [] => ([(idx, step.tc)], .completed)
        | following :: _ =>
            let r := consume rest (idx + 1) (wait.add following.delayS)
            ((idx, step.tc) :: r.1, r.2)
      else ([], .waiting idx wait)

/-- What the first half of a tick gathers: the due steps, the executions that are at their
end, and whether it came to an exception. -/
structure Gathered where
  manager : Manager
  due : List Due := []
  completed : List (Int × Nat) := []
  raised : Bool := false

/-- Gather the due steps of the procedures with the given numbers. -/
def gather (dt : FloatValue) : List Int → Manager → Gathered
  | [], m => { manager := m }
  | pid :: pids, m =>
      match m.running.get? pid, m.procedures.get? pid with
      | none, _ => gather dt pids m
      | some _, none => gather dt pids { m with running := m.running.erase pid }
      | some run, some proc =>
          let consumed := consume (proc.steps.drop run.stepIndex) run.stepIndex
            (run.waitRemaining.sub dt)
          let due := consumed.1.map fun step => Due.mk pid step.1 step.2 run.number
          match consumed.2 with
          | .waiting idx wait =>
              let run := { run with stepIndex := idx, waitRemaining := wait }
              let g := gather dt pids { m with running := m.running.set pid run }
              { g with due := due ++ g.due }
          | .completed =>
              let g := gather dt pids { m with running := m.running.erase pid }
              { g with due := due ++ g.due, completed := (pid, run.number) :: g.completed }
          | .indexError idx wait =>
              let run := { run with stepIndex := idx, waitRemaining := wait }
              { manager := { m with running := m.running.set pid run }, raised := true }

/-- Why a step is not dispatched. -/
def refusedReason (tc : Bytes) : Option String :=
  match decommutatePacket tc with
  | none => some "malformed step TC"
  | some pkt =>
      match pkt.secondary with
      | none => some "malformed step TC"
      | some secondary =>
          match checkTcAcceptance secondary.service secondary.subtype pkt.dataField with
          | none => none
          | some err => some ("step TC S" ++ toString secondary.service ++ "." ++
              toString secondary.subtype ++ " rejected at acceptance (error 0x" ++ hexUpper 4 err ++ ")")

/-- What dispatching a step does: the commands to the manager it leads to, and the text of
the exception it ends with. -/
structure Outcome where
  commands : List Command := []
  error : Option String := none

/-- `_fail_step(proc_id, step_idx, reason)`. -/
def Manager.failStep (m : Manager) (d : Due) (reason : String) : Manager :=
  (m.emit (.stepFailed d.procId (m.nameOf d.procId) d.stepIdx reason d.number)).abortIfRunning
    d.procId ("step " ++ toString d.stepIdx ++ " failed")

def Manager.applyAll (m : Manager) (commands : List Command) : Manager :=
  commands.foldl (fun m c => (m.apply c).1) m

/-- `_execute_step(proc_id, step_idx, tc)`. -/
def Manager.executeStep (m : Manager) (outcome : Outcome) (d : Due) : Manager :=
  match refusedReason d.tc with
  | some reason => m.failStep d reason
  | none =>
      let m := (m.emit (.dispatched d.procId d.stepIdx d.number)).applyAll outcome.commands
      match outcome.error with
      | some e => m.failStep d ("dispatch error: " ++ e)
      | none => m

/-- Execute due steps; `outcomes` tells what each of them, by its position, leads to. -/
def Manager.executeDue (outcomes : Nat → Outcome) : List Due → Nat → Manager → Manager
  | [], _, m => m
  | d :: rest, k, m => executeDue outcomes rest (k + 1) (m.executeStep (outcomes k) d)

/-- The completion events. -/
def Manager.complete (m : Manager) (completed : List (Int × Nat)) : Manager :=
  completed.foldl (fun m c => m.emit (.completed c.1 (m.nameOf c.1) c.2)) m

/-- `tick(dt_sim)`; an exception while gathering ends it. -/
def Manager.tick (m : Manager) (dt : FloatValue) (outcomes : Nat → Outcome) : Manager :=
  let g := gather dt m.running.keys m
  if g.raised then g.manager
  else (g.manager.executeDue outcomes g.due 0).complete g.completed

/-! ### Snapshots -/

/-- What `get_state` captures. -/
structure Snapshot where
  procedures : Dict Int Procedure
  running : Dict Int Execution

def Manager.getState (m : Manager) : Snapshot :=
  { procedures := m.procedures, running := m.running }

/-- The running entries of a snapshot whose procedure it holds, as new executions. -/
def Snapshot.restored (snap : Snapshot) (number : Nat) : Dict Int Execution :=
  (⟨snap.running.items.filter fun item => snap.procedures.contains item.1,
    Dict.nodup_filter _ snap.running.nodup⟩ : Dict Int Execution).mapItems
      fun _ run => { run with number := number }

/-- `set_state(state)`. -/
def Manager.setState (m : Manager) (snap : Snapshot) : Manager :=
  { m with
    procedures := snap.procedures
    running := snap.restored m.next
    next := m.next + 1 }

/-! ### Runs -/

/-- An operation on the manager. -/
inductive Operation where
  | command (c : Command)
  | tick (dt : FloatValue) (outcomes : Nat → Outcome)
  | getState
  /-- Restore the snapshot of the given number. -/
  | setState (which : Nat)

/-- The manager and the snapshots taken so far. -/
structure Session where
  manager : Manager := {}
  saved : List Snapshot := []

def Session.step (s : Session) : Operation → Session
  | .command c => { s with manager := (s.manager.apply c).1 }
  | .tick dt outcomes => { s with manager := s.manager.tick dt outcomes }
  | .getState => { s with saved := s.saved ++ [s.manager.getState] }
  | .setState which =>
      match s.saved[which]? with
      | some snap => { s with manager := s.manager.setState snap }
      | none => s

/-! ### The invariant of the tables -/

/-- What holds between the store and the running procedures. -/
structure Tables (procedures : Dict Int Procedure) (running : Dict Int Execution) : Prop where
  /-- A running execution is of a loaded procedure, at one of its steps. -/
  loaded : ∀ pid run, running.get? pid = some run →
    ∃ proc, procedures.get? pid = some proc ∧ run.stepIndex < proc.steps.length
  /-- A stored procedure has steps, and not too many. -/
  steps : ∀ pid proc, procedures.get? pid = some proc →
    1 ≤ proc.steps.length ∧ proc.steps.length ≤ maxSteps
  bounded : procedures.size ≤ maxProcedures

def Manager.Consistent (m : Manager) : Prop := Tables m.procedures m.running

open Manager

@[simp] theorem emit_running (m : Manager) (notice : Notice) :
    (m.emit notice).running = m.running := rfl

@[simp] theorem emit_procedures (m : Manager) (notice : Notice) :
    (m.emit notice).procedures = m.procedures := rfl

@[simp] theorem emit_next (m : Manager) (notice : Notice) : (m.emit notice).next = m.next := rfl

@[simp] theorem abortIfRunning_procedures (m : Manager) (procId : Int) (reason : String) :
    (m.abortIfRunning procId reason).procedures = m.procedures := by
  unfold abortIfRunning
  split <;> rfl

@[simp] theorem abortIfRunning_next (m : Manager) (procId : Int) (reason : String) :
    (m.abortIfRunning procId reason).next = m.next := by
  unfold abortIfRunning
  split <;> rfl

/-- Aborting takes the procedure out of the running ones. -/
theorem get?_abortIfRunning (m : Manager) (procId other : Int) (reason : String) :
    (m.abortIfRunning procId reason).running.get? other =
      if other = procId then none else m.running.get? other := by
  unfold abortIfRunning
  split
  · exact Dict.get?_erase m.running procId other
  · rename_i hnone
    split
    · rename_i heq
      rw [heq, hnone]
    · rfl

variable {procedures : Dict Int Procedure}

/-- Fewer running procedures are still consistent. -/
theorem Tables.fewer {running running' : Dict Int Execution} (h : Tables procedures running)
    (hsub : ∀ pid run, running'.get? pid = some run → running.get? pid = some run) :
    Tables procedures running' where
  loaded := fun pid run hrun => h.loaded pid run (hsub pid run hrun)
  steps := h.steps
  bounded := h.bounded

variable {running : Dict Int Execution}

theorem Tables.erase (h : Tables procedures running) (procId : Int) :
    Tables procedures (running.erase procId) :=
  h.fewer fun pid run hrun => by
    rw [Dict.get?_erase] at hrun
    split at hrun
    · cases hrun
    · exact hrun

/-- Running one more procedure, or running it from another step. -/
theorem Tables.run (h : Tables procedures running) {procId : Int} {proc : Procedure}
    {run : Execution} (hproc : procedures.get? procId = some proc)
    (hstep : run.stepIndex < proc.steps.length) : Tables procedures (running.set procId run) where
  loaded := by
    intro pid run' hrun
    by_cases heq : pid = procId
    · subst heq
      rw [Dict.get?_set_same] at hrun
      cases hrun
      exact ⟨proc, hproc, hstep⟩
    · rw [Dict.get?_set_ne running heq] at hrun
      exact h.loaded pid run' hrun
  steps := h.steps
  bounded := h.bounded

variable {m : Manager}

theorem abortIfRunning_consistent (h : m.Consistent) (procId : Int) (reason : String) :
    (m.abortIfRunning procId reason).Consistent := by
  unfold Manager.Consistent
  rw [abortIfRunning_procedures]
  refine Tables.fewer h fun pid run hrun => ?_
  rw [get?_abortIfRunning] at hrun
  split at hrun
  · cases hrun
  · exact hrun

theorem load_consistent (h : m.Consistent) (procId : Int) (name : String) (steps : List Step) :
    (m.load procId name steps).1.Consistent := by
  unfold load
  split
  · exact h
  · rename_i hlength
    split
    · exact h
    · rename_i hroom
      have hsteps : 1 ≤ steps.length ∧ steps.length ≤ maxSteps := by
        rw [not_or] at hlength
        have hsome := List.length_pos_iff.mpr fun hnil => hlength.1 (List.isEmpty_iff.mpr hnil)
        exact ⟨hsome, Nat.not_lt.mp hlength.2⟩
      refine ⟨?_, ?_, ?_⟩
      · intro pid run hrun
        have hwas : (m.abortIfRunning procId "replaced by new load").running.get? pid = some run :=
          hrun
        rw [get?_abortIfRunning] at hwas
        split at hwas
        · cases hwas
        · rename_i hne
          obtain ⟨proc, hproc, hstep⟩ := h.loaded pid run hwas
          refine ⟨proc, ?_, hstep⟩
          simp only [emit_procedures, abortIfRunning_procedures]
          rw [Dict.get?_set_ne m.procedures hne]
          exact hproc
      · intro pid proc hproc
        simp only [emit_procedures, abortIfRunning_procedures] at hproc
        by_cases heq : pid = procId
        · subst heq
          rw [Dict.get?_set_same] at hproc
          cases hproc
          exact hsteps
        · rw [Dict.get?_set_ne m.procedures heq] at hproc
          exact h.steps pid proc hproc
      · simp only [emit_procedures, abortIfRunning_procedures]
        rw [Dict.size_set]
        split
        · exact h.bounded
        · rename_i hnew
          by_contra hover
          exact hroom ⟨Bool.eq_false_iff.mpr hnew, by omega⟩

theorem delete_consistent (h : m.Consistent) (procId : Int) : (m.delete procId).1.Consistent := by
  have habort := abortIfRunning_consistent h procId "deleted while running"
  unfold delete
  simp only
  split
  · refine ⟨?_, ?_, ?_⟩
    · intro pid run hrun
      obtain ⟨proc, hproc, hstep⟩ := habort.loaded pid run hrun
      refine ⟨proc, ?_, hstep⟩
      simp only [emit_running, get?_abortIfRunning] at hrun
      simp only [emit_procedures, Dict.get?_erase]
      split at hrun
      · cases hrun
      · rename_i hne
        rw [if_neg hne]
        exact hproc
    · intro pid proc hproc
      simp only [emit_procedures, Dict.get?_erase] at hproc
      split at hproc
      · cases hproc
      · exact habort.steps pid proc hproc
    · exact (Dict.size_erase_le _ procId).trans habort.bounded
  · exact habort

theorem start_consistent (h : m.Consistent) (procId param : Int) :
    (m.start procId param).1.Consistent := by
  unfold start
  split
  · exact h
  · rename_i proc hproc
    split
    · exact h
    · split
      · exact h
      · exact Tables.run h hproc (h.steps procId proc hproc).1

theorem abortAll_consistent (reason : String) (pids : List Int) (h : m.Consistent) :
    (pids.foldl (fun m pid => m.abortIfRunning pid reason) m).Consistent := by
  induction pids generalizing m with
  | nil => exact h
  | cons pid rest ih => exact ih (abortIfRunning_consistent h pid reason)

/-- **Every command keeps the tables consistent.** -/
theorem apply_consistent (h : m.Consistent) (c : Command) : (m.apply c).1.Consistent := by
  cases c with
  | load procId name steps => exact load_consistent h procId name steps
  | loadBlob data =>
      simp only [apply]
      cases parseLoadBlob data with
      | error e => exact h
      | ok parsed =>
          obtain ⟨procId, name, steps⟩ := parsed
          exact load_consistent h procId name steps
  | delete procId => exact delete_consistent h procId
  | start procId param => exact start_consistent h procId param
  | stop procId =>
      simp only [apply, stop]
      split
      · exact abortAll_consistent _ _ h
      · exact abortIfRunning_consistent h procId _

/-! ### A tick -/

/-- Consuming from a step of the procedure ends at a step of it, or at its end. -/
theorem consume_stop (rest : List Step) (hrest : rest ≠ []) (idx : Nat) (wait : FloatValue) :
    match (consume rest idx wait).2 with
    | .waiting idx' _ => idx ≤ idx' ∧ idx' < idx + rest.length
    | .completed => True
    | .indexError _ _ => False := by
  induction rest generalizing idx wait with
  | nil => exact absurd rfl hrest
  | cons step rest ih =>
      cases rest with
      | nil =>
          unfold consume
          cases elapsed wait with
          | true => trivial
          | false => simp
      | cons following rest' =>
          have hnext := ih (List.cons_ne_nil _ _) (idx + 1) (wait.add following.delayS)
          unfold consume
          cases elapsed wait with
          | false => simp
          | true =>
              simp only [if_true]
              split
              · rename_i idx' wait' hstop
                rw [hstop] at hnext
                simp only [List.length_cons] at hnext ⊢
                omega
              · trivial
              · rename_i idx' wait' hstop
                rw [hstop] at hnext
                exact hnext

/-- What consuming the steps of a running execution can end in. -/
theorem Tables.consume (h : Tables procedures running) {pid : Int} {run : Execution}
    {proc : Procedure} (hrun : running.get? pid = some run)
    (hproc : procedures.get? pid = some proc) (wait : FloatValue) :
    (∃ idx wait', (consume (proc.steps.drop run.stepIndex) run.stepIndex wait).2 =
        .waiting idx wait' ∧ idx < proc.steps.length) ∨
      (consume (proc.steps.drop run.stepIndex) run.stepIndex wait).2 = .completed := by
  obtain ⟨proc', hproc', hstep⟩ := h.loaded pid run hrun
  rw [hproc] at hproc'
  cases hproc'
  have hrest : proc.steps.drop run.stepIndex ≠ [] := by
    intro hnil
    have hlen := congrArg List.length hnil
    rw [List.length_drop, List.length_nil] at hlen
    omega
  have hstop := consume_stop _ hrest run.stepIndex wait
  split at hstop
  · rename_i idx wait' heq
    rw [List.length_drop] at hstop
    exact .inl ⟨idx, wait', heq, by omega⟩
  · rename_i heq
    exact .inr heq
  · cases hstop

/-- Gathering raises nothing and keeps the tables consistent. -/
theorem gather_consistent (dt : FloatValue) (pids : List Int) (h : m.Consistent) :
    (gather dt pids m).manager.Consistent ∧ (gather dt pids m).raised = false := by
  induction pids generalizing m with
  | nil => exact ⟨h, rfl⟩
  | cons pid pids ih =>
      unfold gather
      split
      · exact ih h
      · exact ih (Tables.erase h pid)
      · rename_i run proc hrun hproc
        simp only
        rcases Tables.consume h hrun hproc (run.waitRemaining.sub dt) with
          ⟨idx, wait, hstop, hidx⟩ | hstop
        · rw [hstop]
          exact ih (Tables.run h hproc hidx)
        · rw [hstop]
          exact ih (Tables.erase h pid)

theorem applyAll_consistent (commands : List Command) (h : m.Consistent) :
    (m.applyAll commands).Consistent := by
  induction commands generalizing m with
  | nil => exact h
  | cons c rest ih => exact ih (apply_consistent h c)

theorem failStep_consistent (h : m.Consistent) (d : Due) (reason : String) :
    (m.failStep d reason).Consistent :=
  abortIfRunning_consistent (show (m.emit _).Consistent from h) _ _

theorem executeStep_consistent (h : m.Consistent) (outcome : Outcome) (d : Due) :
    (m.executeStep outcome d).Consistent := by
  unfold executeStep
  split
  · exact failStep_consistent h d _
  · have hdone := applyAll_consistent outcome.commands
      (show (m.emit (.dispatched d.procId d.stepIdx d.number)).Consistent from h)
    split
    · exact failStep_consistent hdone d _
    · exact hdone

theorem executeDue_consistent (outcomes : Nat → Outcome) (due : List Due) (k : Nat)
    (h : m.Consistent) : (m.executeDue outcomes due k).Consistent := by
  induction due generalizing k m with
  | nil => exact h
  | cons d rest ih => exact ih (k + 1) (executeStep_consistent h (outcomes k) d)

theorem complete_consistent (completed : List (Int × Nat)) (h : m.Consistent) :
    (m.complete completed).Consistent := by
  induction completed generalizing m with
  | nil => exact h
  | cons c rest ih => exact ih (show (m.emit _).Consistent from h)

/-- **A tick keeps the tables consistent**, whatever its steps do. -/
theorem tick_consistent (h : m.Consistent) (dt : FloatValue) (outcomes : Nat → Outcome) :
    (m.tick dt outcomes).Consistent := by
  obtain ⟨hgather, hquiet⟩ := gather_consistent dt m.running.keys h
  unfold tick
  simp only [hquiet, Bool.false_eq_true, if_false]
  exact complete_consistent _ (executeDue_consistent outcomes _ 0 hgather)

/-! ### Whole runs -/

theorem get?_restored {snap : Snapshot} {number : Nat} {pid : Int} {run : Execution}
    (h : (snap.restored number).get? pid = some run) :
    ∃ old, snap.running.get? pid = some old ∧ run = { old with number := number } := by
  rw [Snapshot.restored, Dict.get?_mapItems] at h
  obtain ⟨old, hold, rfl⟩ := Option.map_eq_some_iff.mp h
  rw [Dict.get?_eq_some_iff] at hold
  exact ⟨old, Dict.get?_eq_some_iff.mpr (List.mem_of_mem_filter hold), rfl⟩

theorem setState_consistent (m : Manager) {snap : Snapshot}
    (h : Tables snap.procedures snap.running) : (m.setState snap).Consistent where
  loaded := by
    intro pid run hrun
    obtain ⟨old, hold, rfl⟩ := get?_restored hrun
    exact h.loaded pid old hold
  steps := h.steps
  bounded := h.bounded

/-- The manager is consistent, and so was it whenever a snapshot was taken. -/
structure Session.Sound (s : Session) : Prop where
  manager : s.manager.Consistent
  saved : ∀ snap ∈ s.saved, Tables snap.procedures snap.running

theorem Session.Sound.step {s : Session} (h : s.Sound) (op : Operation) : (s.step op).Sound := by
  cases op with
  | command c => exact ⟨apply_consistent h.manager c, h.saved⟩
  | tick dt outcomes => exact ⟨tick_consistent h.manager dt outcomes, h.saved⟩
  | getState =>
      refine ⟨h.manager, fun snap hmem => ?_⟩
      rcases List.mem_append.mp hmem with hold | hnew
      · exact h.saved snap hold
      · obtain rfl := List.mem_singleton.mp hnew
        exact h.manager
  | setState which =>
      unfold Session.step
      simp only
      split
      · rename_i snap hget
        exact ⟨setState_consistent s.manager (h.saved snap (List.mem_of_getElem? hget)), h.saved⟩
      · exact h

/-- **The store over whole runs.**  After every sequence of commands, ticks with any
outcomes of their steps, snapshots and restored snapshots, every running execution is at a
step of a loaded procedure, every procedure has between one and the most steps, and there
are at most as many procedures as the store holds. -/
theorem consistent_run (ops : List Operation) :
    Tables (after Session.step {} ops).manager.procedures
      (after Session.step {} ops).manager.running := by
  have hempty : ({} : Session).Sound := by
    refine ⟨⟨?_, ?_, Nat.zero_le _⟩, ?_⟩
    · intro pid run hrun
      cases hrun
    · intro pid proc hproc
      cases hproc
    · intro snap hsnap
      cases hsnap
  have hrun := @invariant Session Operation Session.step {} Session.Sound
    (fun _ op h => h.step op) hempty ops
  exact hrun.manager

end Obcp
