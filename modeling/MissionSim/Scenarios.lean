import MissionSim.Effects
import MissionSim.Functions

/-!
# Training scenarios

The failure manager keeps the failures that are active, by an identifier made of the
subsystem, the failure and the unit it is in.  The scenario engine runs one scenario at a time:
starting it sets up its initial conditions, ticks fire its events, and it ends when it is
stopped or its time is over.

What a failure does to the subsystem models, its magnitude, onset and flicker, is left out, and
so are the operator's responses and the debrief.  Values that are converted by `float` are
given by what the conversion makes of them.
-/

namespace Training

open Binary32 Python Effects
open Spacecraft (floatOf)

/-! ### The failure manager -/

/-- Who injected a failure.  This is not part of the software. -/
inductive Origin where
  | operator
  | scenario (run : Nat)
  deriving DecidableEq, Repr

/-- A failure as it is asked for.  The values of `extraParams` are given as text. -/
structure FailureSpec where
  subsystem : String
  failure : String
  magnitude : Except PyError FloatValue := .ok (floatOf 1)
  onset : String := "step"
  durationS : Except PyError FloatValue := .ok (floatOf 0)
  extraParams : Dict String String := .empty

structure ActiveFailure where
  failureId : String
  subsystem : String
  failure : String
  targetMagnitude : FloatValue
  onset : String
  durationS : FloatValue
  extraParams : Dict String String
  elapsedS : FloatValue := floatOf 0
  active : Bool := true
  origin : Origin

/-- The identifier of a failure. -/
def FailureSpec.failureId (f : FailureSpec) : String :=
  let extra := f.extraParams
  let circuit := (extra.get? "circuit").getD "0"
  let wheel := (extra.get? "wheel").getD circuit
  let unit := (extra.get? "array").getD wheel
  f.subsystem ++ "." ++ f.failure ++ "." ++ unit

/-- `_failures`. -/
abbrev Failures := Dict String ActiveFailure

/-- `inject(subsystem, failure, magnitude, onset, duration_s, **extra)`. -/
def Failures.inject (failures : Failures) (origin : Origin) (f : FailureSpec)
    (magnitude durationS : FloatValue) : Failures :=
  Dict.set failures f.failureId
    { failureId := f.failureId, subsystem := f.subsystem, failure := f.failure
      targetMagnitude := magnitude, onset := f.onset
      durationS := if truthy durationS then durationS else floatOf 0
      extraParams := f.extraParams, origin := origin }

/-- `clear(failure_id)`. -/
def Failures.clear (failures : Failures) (failureId : String) : Failures :=
  Dict.erase failures failureId

/-- A failure after `dt_sim` more seconds, `none` when it is over. -/
def ActiveFailure.advance (f : ActiveFailure) (dtSim : FloatValue) : Option ActiveFailure :=
  if !f.active then none
  else if (floatOf 0).lt f.durationS && f.durationS.le (f.elapsedS.add dtSim) then none
  else some { f with elapsedS := f.elapsedS.add dtSim }

/-- `tick(dt_sim)`. -/
def Failures.tick (failures : Failures) (dtSim : FloatValue) : Failures :=
  let expired := failures.items.filter fun item => (item.2.advance dtSim).isNone
  let advanced := failures.mapItems fun _ f => (f.advance dtSim).getD f
  (expired.map Prod.fst).foldl Dict.erase advanced

/-! ### The scenario engine -/

/-- What an event of a scenario does.  An empty identifier clears every failure; `aside` is an
action that has nothing to do with failures, parameters or numbers. -/
inductive Action where
  | inject (f : FailureSpec)
  | clear (failureId : String)
  | setParameter (paramId : Nat) (value : Value)
  | setSpeed (value : Except PyError FloatValue)
  | aside

/-- An event.  Its condition is given by what `_eval_condition` makes of it. -/
structure ScenarioEvent where
  timeOffsetS : Option FloatValue := none
  condition : Option (Dict Nat Value → Bool) := none
  action : Action
  fired : Bool := false

/-- A scenario.  `others` says how the initial conditions other than the failures end. -/
structure ScenarioDefinition where
  name : String
  durationS : FloatValue := floatOf 1800
  events : List ScenarioEvent := []
  others : Except PyError Unit := .ok ()
  failures : List FailureSpec := []

/-- The scenario engine with the failure manager and the parameters.  `run` counts the starts
and is not part of the software. -/
structure ScenarioEngine where
  scenarios : Dict String ScenarioDefinition
  active : Option ScenarioDefinition := none
  elapsed : FloatValue := floatOf 0
  injectedFids : List String := []
  failures : Failures := .empty
  params : Dict Nat Value := .empty
  run : Nat := 0

abbrev Program (α : Type) := EStateM PyError ScenarioEngine α

/-- Inject a failure on behalf of someone. -/
def injectAs (origin : Origin) (f : FailureSpec) : Program String := do
  let magnitude ← fromExcept f.magnitude
  let durationS ← fromExcept f.durationS
  modify fun s => { s with failures := s.failures.inject origin f magnitude durationS }
  pure f.failureId

/-- Inject a failure of the active scenario, and keep track of it. -/
def injectTracked (f : FailureSpec) : Program Unit := do
  let s ← get
  let fid ← injectAs (.scenario s.run) f
  modify fun s => { s with injectedFids := s.injectedFids ++ [fid] }

/-- `_apply_initial_conditions(defn)`. -/
def applyInitialConditions (defn : ScenarioDefinition) : Program Unit := do
  fromExcept defn.others
  defn.failures.forM fun f => injectTracked { f with extraParams := .empty }

/-- The scenario with the fired flags reset. -/
def ScenarioDefinition.rearmed (defn : ScenarioDefinition) : ScenarioDefinition :=
  { defn with events := defn.events.map fun ev => { ev with fired := false } }

/-- `start(name)`. -/
def start (name : String) : Program Bool := do
  let s ← get
  match s.scenarios.get? name with
  | none => pure false
  | some defn => do
      set { s with
        active := some defn.rearmed
        elapsed := floatOf 0
        injectedFids := []
        run := s.run + 1 }
      applyInitialConditions defn
      pure true

/-- `_finish(reason)`, and `stop()`. -/
def finish : Program Bool := do
  let s ← get
  match s.active with
  | none => pure false
  | some _ => do
      set { s with
        failures := s.injectedFids.foldl Failures.clear s.failures
        injectedFids := []
        active := none }
      pure true

/-- `_fire_event(ev)`, after the event is marked. -/
def perform : Action → Program Unit
  | .inject f => injectTracked f
  | .clear failureId => modify fun s => { s with
      failures := if failureId = "" then .empty else s.failures.clear failureId }
  | .setParameter paramId value => modify fun s => { s with params := s.params.set paramId value }
  | .setSpeed value => do
      let _ ← fromExcept value
      pure ()
  | .aside => pure ()

/-- The event is to be fired. -/
def ScenarioEvent.isDue (ev : ScenarioEvent) (elapsed : FloatValue) (params : Dict Nat Value) :
    Bool :=
  !ev.fired &&
    (ev.timeOffsetS.any (fun offset => offset.le elapsed) ||
      ev.condition.any fun holds => holds params)

/-- Mark the event at a position as fired. -/
def markFired (position : Nat) : Program Unit :=
  modify fun s => { s with active := s.active.map fun defn =>
    { defn with events := defn.events.modify position fun ev => { ev with fired := true } } }

/-- The loop over the events, from a position on. -/
def checkEvents : Nat → List ScenarioEvent → Program Unit
  | _, [] => pure ()
  | position, ev :: rest => do
      let s ← get
      if ev.isDue s.elapsed s.params then do
        markFired position
        perform ev.action
      checkEvents (position + 1) rest

/-- `tick(dt_sim, shared_params)`. -/
def tick (dtSim : FloatValue) : Program Unit := do
  let s ← get
  match s.active with
  | none => pure ()
  | some defn => do
      set { s with elapsed := s.elapsed.add dtSim }
      checkEvents 0 defn.events
      if defn.durationS.le (s.elapsed.add dtSim) then do
        let _ ← finish

end Training
