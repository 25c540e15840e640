import MissionSim.Fdir

/-!
# The executor of recovery procedures

A recovery procedure is a list of steps, each due some time after its start.  Starting a procedure
makes an execution with a copy of the steps; a tick runs the steps that are due, in their order,
and moves an execution that has ended out of the table of active ones.

The callback of a step may raise, and fails the step then.  Whether it does is given by the
environment, for every step of every execution.

Executions are numbered by their starts and the steps run are recorded, which the executor itself
does not do: its own name for an execution is made of the procedure and the second of its start.
-/

namespace FdirProcedures

open Python

/-- A step of a procedure. -/
structure ProcedureStep where
  command : String := ""
  delayS : Rat := 0
  executed : Bool := false
  deriving DecidableEq

/-- How an execution stands. -/
inductive ExecutionState where
  | running
  | complete
  | failed
  deriving DecidableEq, Repr

structure ProcedureExecution where
  execId : String
  procId : String
  steps : List ProcedureStep
  startTime : Rat
  state : ExecutionState := .running
  currentStep : Nat := 0
  completedSteps : Nat := 0
  /-- The number of the start that made it. -/
  start : Nat
  deriving DecidableEq

/-- An event handed to the event callback. -/
inductive ProcedureEvent where
  | started (procedureId executionId : String) (timestamp : Rat)
  | completed (procedureId executionId : String) (timestamp : Rat)
  | failed (procedureId executionId : String) (timestamp : Rat)
  deriving DecidableEq

/-- `event_id`. -/
def ProcedureEvent.eventId : ProcedureEvent → Nat
  | .started .. => 0x0F07
  | .completed .. => 0x0F08
  | .failed .. => 0x0F09

/-- A step that was run. -/
structure StepRun where
  start : Nat
  index : Nat
  failed : Bool
  deriving DecidableEq, Repr

/-- The commands with a callback, and whether the callback raises at a step of an execution. -/
structure Callbacks where
  commands : List String
  raises : Nat → Nat → Bool

structure ProcedureExecutor where
  /-- The configurations by procedure: their steps, if they are not empty. -/
  procedures : Dict String (Option (List ProcedureStep))
  active : Dict String ProcedureExecution := .empty
  lastFinished : Option ProcedureExecution := none
  events : List ProcedureEvent := []
  /-- The starts so far. -/
  starts : Nat := 0
  /-- The steps run so far. -/
  ran : List StepRun := []

/-! ### Starting -/

/-- `f"{proc_id}_{int(current_time)}"`. -/
def execIdOf (procId : String) (now : Rat) : String :=
  procId ++ "_" ++ toString (Fdir.intOf now)

/-- `start_procedure(proc_id, current_time)`. -/
def ProcedureExecutor.startProcedure (e : ProcedureExecutor) (procId : String) (now : Rat) :
    ProcedureExecutor × Option String :=
  match e.procedures.get? procId with
  | none | some none => (e, none)
  | some (some steps) =>
      let execId := execIdOf procId now
      ({ e with
          active := e.active.set execId
            { execId := execId, procId := procId, steps := steps, startTime := now
              start := e.starts }
          events := e.events ++ [.started procId execId now]
          starts := e.starts + 1 }, some execId)

/-! ### Ticks -/

namespace ProcedureExecution

/-- The step is still to be run, and its time has come. -/
def Due (p : ProcedureExecution) (now : Rat) (step : ProcedureStep) : Prop :=
  step.executed = false ∧ step.delayS ≤ now - p.startTime

instance (p : ProcedureExecution) (now : Rat) : DecidablePred (p.Due now) := fun _ =>
  inferInstanceAs (Decidable (_ ∧ _))

/-- The callback of the step raises; a command without a callback does nothing. -/
def Fails (p : ProcedureExecution) (cb : Callbacks) (index : Nat) (step : ProcedureStep) : Bool :=
  cb.commands.contains step.command && cb.raises p.start index

/-- The steps run in a tick: those due, in their order, whatever becomes of them. -/
def stepRuns (p : ProcedureExecution) (cb : Callbacks) (now : Rat) : List StepRun :=
  (p.steps.zipIdx.filter fun item => p.Due now item.1).map fun item =>
    { start := p.start, index := item.2, failed := p.Fails cb item.2 item.1 }

/-- The steps after a tick. -/
def stepsAfter (p : ProcedureExecution) (now : Rat) : List ProcedureStep :=
  p.steps.map fun step => if p.Due now step then { step with executed := true } else step

/-- A running execution after a tick. -/
def advance (p : ProcedureExecution) (cb : Callbacks) (now : Rat) : ProcedureExecution :=
  let steps := p.stepsAfter now
  let completedSteps := steps.countP ProcedureStep.executed
  { p with
    steps := steps
    completedSteps := completedSteps
    currentStep := if steps.isEmpty then 0 else min (completedSteps + 1) steps.length
    state :=
      if (p.stepRuns cb now).any StepRun.failed then .failed
      else if steps.all ProcedureStep.executed then .complete
      else .running }

/-- An active execution after a tick: one that ended before stays as it is. -/
def tick (p : ProcedureExecution) (cb : Callbacks) (now : Rat) : ProcedureExecution :=
  if p.state = .running then p.advance cb now else p

/-- The steps of an active execution that a tick runs. -/
def ranIn (p : ProcedureExecution) (cb : Callbacks) (now : Rat) : List StepRun :=
  if p.state = .running then p.stepRuns cb now else []

/-- The tick takes the execution out of the table: it had ended, or it is complete now. -/
def Leaves (p : ProcedureExecution) (cb : Callbacks) (now : Rat) : Prop :=
  p.state ≠ .running ∨ (p.advance cb now).state = .complete

instance (p : ProcedureExecution) (cb : Callbacks) (now : Rat) : Decidable (p.Leaves cb now) :=
  inferInstanceAs (Decidable (_ ∨ _))

/-- The events of a tick. -/
def eventsIn (p : ProcedureExecution) (cb : Callbacks) (now : Rat) : List ProcedureEvent :=
  ((p.ranIn cb now).filter StepRun.failed).map (fun _ => .failed p.procId p.execId now) ++
    if p.state = .running ∧ (p.advance cb now).state = .complete then
      [.completed p.procId p.execId now]
    else []

end ProcedureExecution

namespace ProcedureExecutor

/-- `tick_procedures(current_time)`: of the executions that had ended before, the last one is
remembered. -/
def tickProcedures (e : ProcedureExecutor) (cb : Callbacks) (now : Rat) : ProcedureExecutor :=
  let leaving := e.active.items.filter fun item => item.2.Leaves cb now
  { e with
    active := leaving.foldl (fun active item => active.erase item.1)
      (e.active.mapItems fun _ p => p.tick cb now)
    lastFinished :=
      (e.active.values.filter fun p => p.state ≠ .running).getLast?.or e.lastFinished
    events := e.events ++ e.active.values.flatMap fun p => p.eventsIn cb now
    ran := e.ran ++ e.active.values.flatMap fun p => p.ranIn cb now }

/-- The execution that the executor knows by its name. -/
def execution (e : ProcedureExecutor) (execId : String) : Option ProcedureExecution :=
  (e.active.get? execId).or (e.lastFinished.filter fun p => p.execId = execId)

/-- `execution_state(exec_id)`. -/
def executionState (e : ProcedureExecutor) (execId : String) : Option ExecutionState :=
  (e.execution execId).map ProcedureExecution.state

end ProcedureExecutor

/-- The operations of the executor. -/
inductive Operation where
  | startProcedure (procId : String) (now : Rat)
  | tickProcedures (now : Rat)
  deriving DecidableEq

def step (cb : Callbacks) (e : ProcedureExecutor) : Operation → ProcedureExecutor
  | .startProcedure procId now => (e.startProcedure procId now).1
  | .tickProcedures now => e.tickProcedures cb now

/-! ### The table after an operation -/

/-- **The table after a tick**: the executions that do not leave it, each after its tick. -/
theorem get?_tickProcedures {e : ProcedureExecutor} {cb : Callbacks} {now : Rat} {execId : String}
    {q : ProcedureExecution} :
    (e.tickProcedures cb now).active.get? execId = some q ↔
      ∃ p, e.active.get? execId = some p ∧ ¬ p.Leaves cb now ∧ p.tick cb now = q := by
  have hleaving : execId ∈ (e.active.items.filter fun item => item.2.Leaves cb now).map Prod.fst ↔
      ∃ p, e.active.get? execId = some p ∧ p.Leaves cb now := by
    rw [List.mem_map]
    constructor
    · rintro ⟨⟨_, p⟩, hmem, rfl⟩
      obtain ⟨hitem, hleaves⟩ := List.mem_filter.mp hmem
      exact ⟨p, Dict.get?_eq_some_iff.mpr hitem, of_decide_eq_true hleaves⟩
    · rintro ⟨p, hp, hleaves⟩
      exact ⟨(execId, p), List.mem_filter.mpr
        ⟨Dict.get?_eq_some_iff.mp hp, decide_eq_true hleaves⟩, rfl⟩
  unfold ProcedureExecutor.tickProcedures
  dsimp only
  rw [← List.foldl_map, Dict.get?_erase_all]
  by_cases hmem : execId ∈ (e.active.items.filter fun item => item.2.Leaves cb now).map Prod.fst
  · rw [if_pos hmem]
    obtain ⟨p, hp, hleaves⟩ := hleaving.mp hmem
    refine ⟨(fun h => nomatch h), fun ⟨p', hp', hstays, _⟩ => ?_⟩
    obtain rfl := Option.some.inj (hp.symm.trans hp')
    exact absurd hleaves hstays
  · rw [if_neg hmem, Dict.get?_mapItems, Option.map_eq_some_iff]
    constructor
    · rintro ⟨p, hp, hq⟩
      exact ⟨p, hp, fun hleaves => hmem (hleaving.mpr ⟨p, hp, hleaves⟩), hq⟩
    · rintro ⟨p, hp, -, hq⟩
      exact ⟨p, hp, hq⟩

/-- The execution remembered after a tick was remembered before, or was active and had ended. -/
theorem lastFinished_tickProcedures {e : ProcedureExecutor} {cb : Callbacks} {now : Rat}
    {p : ProcedureExecution} (h : (e.tickProcedures cb now).lastFinished = some p) :
    e.lastFinished = some p ∨ ∃ execId, e.active.get? execId = some p ∧ p.state ≠ .running := by
  rcases Option.or_eq_some_iff.mp h with hnow | ⟨-, hbefore⟩
  · have hmem := List.mem_of_getLast? hnow
    obtain ⟨hvalue, hended⟩ := List.mem_filter.mp hmem
    obtain ⟨⟨execId, _⟩, hitem, rfl⟩ := List.mem_map.mp hvalue
    exact .inr ⟨execId, Dict.get?_eq_some_iff.mpr hitem, of_decide_eq_true hended⟩
  · exact .inl hbefore

@[simp] theorem tick_start (p : ProcedureExecution) (cb : Callbacks) (now : Rat) :
    (p.tick cb now).start = p.start := by
  unfold ProcedureExecution.tick
  split <;> rfl

/-- What is run in a tick belongs to an active, running execution. -/
theorem mem_ranIn {p : ProcedureExecution} {cb : Callbacks} {now : Rat} {r : StepRun}
    (h : r ∈ p.ranIn cb now) : p.state = .running ∧ r.start = p.start ∧
      (r.failed = true → (p.tick cb now).state = .failed) := by
  unfold ProcedureExecution.ranIn at h
  split at h
  · rename_i hrunning
    refine ⟨hrunning, ?_, fun hfailed => ?_⟩
    · obtain ⟨item, -, rfl⟩ := List.mem_map.mp h
      rfl
    · unfold ProcedureExecution.tick
      rw [if_pos hrunning]
      exact if_pos (List.any_eq_true.mpr ⟨r, h, hfailed⟩)
  · cases h

end FdirProcedures
