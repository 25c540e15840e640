import MissionSim.FdirRules
import MissionSim.HkEmission

/-!
# Saving and restoring a run

The engine as a tick changes it: the fault rules, the cascades and recoveries, the spacecraft mode
and the housekeeping are spelled out, with every attribute that `save` takes and every one it
leaves behind.  The code around them (the orbit, the phases, the subsystem models, the services, the
way telemetry leaves) is a parameter: programs on a plant, of which the snapshot holds everything.

Telecommands wait in a queue until the tick takes them, and so do the events that the models raise.
An exception ends a tick and is recorded; the loop goes on.

The log is not part of the software.  It tells the actions of fault rules, the cascades that
are applied, the events and the housekeeping reports, in their order.
-/

namespace Checkpoints

open Octets Binary32 Python Effects
open Obcp (Event)
open Spacecraft (Gate floatOf)

/-! ### The state -/

/-- Which structures are reported, and how often. -/
structure HkTable where
  enabled : Dict Nat Bool := .empty
  intervals : Dict Nat FloatValue := .empty
  timers : Dict Nat FloatValue := .empty

/-- What the code around asks of the housekeeping. -/
inductive HkRequest where
  /-- `set_hk_enabled(sid, enabled)`. -/
  | enable (sid : Nat) (enabled : Bool)
  /-- `set_hk_interval(sid, interval_s)`. -/
  | interval (sid : Nat) (intervalS : FloatValue)
  /-- A change of phase leaves these structures enabled and no other. -/
  | restrict (sids : List Nat)

def HkRequest.apply (t : HkTable) : HkRequest → HkTable
  | .enable sid enabled => { t with enabled := t.enabled.set sid enabled }
  | .interval sid intervalS => { t with intervals := t.intervals.set sid intervalS }
  | .restrict sids => { t with enabled := t.enabled.mapItems fun sid _ => sids.contains sid }

/-- What can be seen of a run. -/
inductive Notice where
  /-- The action of a fault rule is called. -/
  | action (name : String)
  /-- The implementation of a cascade is called. -/
  | cascade (c : Fdir.PendingCascade)
  /-- `_emit_event` is called. -/
  | event (ev : Event)
  /-- A housekeeping report is due. -/
  | report (sid : Nat)
  deriving DecidableEq

/-- The part of the engine that the code around works on. -/
structure Outside (P : Type) where
  plant : P
  tcQueue : List Bytes := []
  modelEvents : List Event := []
  log : List Notice := []

/-- That part, and what is asked of the housekeeping. -/
structure Scope (P : Type) where
  outside : Outside P
  requests : List HkRequest := []

/-- The code around. -/
abbrev Code (P α : Type) := EStateM PyError (Scope P) α

/-- The engine.  `firstEpsMode` is not part of the software: it is the mode in which the power
subsystem was first found. -/
structure Sim (P : Type) where
  outside : Outside P
  hk : HkTable := {}
  fdirTriggered : Dict String Bool := .empty
  fdirPersist : Dict String Rat := .empty
  fdirSafeActive : Bool := false
  fdirEmergencyActive : Bool := false
  simElapsedFdir : Rat := 0
  activeFaults : Dict String Rat := .empty
  recoveryStates : Dict String Fdir.RecoveryState := .empty
  pendingCascades : List Fdir.PendingCascade := []
  faultPersist : Dict String Rat := .empty
  scMode : Int := 0
  prevScSafe : Bool := true
  prevEpsMode : Option Int := none
  firstEpsMode : Option Int := none

abbrev Prog (P α : Type) := EStateM PyError (Sim P) α

/-- The configuration and the code around.  `S` is what a snapshot holds of the plant. -/
structure Surroundings (P S : Type) where
  rules : FdirRules.Config
  faults : Fdir.Config
  fdirEnabled : Bool := true
  dtMaxS : Rat := 1
  maxSubsteps : Nat := 600
  /-- `self.params.get(id)`. -/
  params : P → Nat → Value
  spacecraftPhase : P → Int
  /-- `int(eps._state.eps_mode or 0)`, of a power subsystem that there is. -/
  epsMode : P → Option Int
  /-- A substep as far as service 12: the orbit, the phases, the models, the telecommands. -/
  advance : Rat → Rat → Bool → Code P Unit
  /-- `_emit_event(ev)`. -/
  emitEvent : Event → Code P Unit
  /-- `_fdir_callbacks`. -/
  fdirCallbacks : String → Option (Code P Unit)
  /-- `_cascade_callbacks`. -/
  cascadeCallbacks : String → Option (Code P Unit)
  /-- Load shedding, at the time of the fault handling. -/
  shedLoads : Rat → Code P Unit
  startProcedure : String → Rat → Code P Unit
  tickProcedures : Rat → Code P Unit
  /-- `_publish_fdir_parameters()`, given the latches, the faults and the recoveries. -/
  publishFdirParameters : Bool → Bool → Dict String Rat → Dict String Fdir.RecoveryState →
    Code P Unit
  /-- The events of the subsystems, of the models and of contacts and eclipses. -/
  subsystemEvents : Code P Unit
  /-- `int(self.params.get(0x0311, 1))`. -/
  swImage : P → Except PyError Int
  hkGate : Int → P → Nat → Gate
  /-- Build and enqueue the report of a structure. -/
  reportHk : Nat → Code P Unit
  /-- The end of a substep: the pacing of telemetry, the failures and the clock. -/
  finish : Rat → Rat → Bool → Code P Unit
  /-- The texts of the events. -/
  ruleText : FdirRules.Rule → Value → String
  faultText : Fdir.Event → String
  save : P → S
  load : S → P → P
  /-- Every component restores what it saves. -/
  load_save : ∀ p p', load (save p) p' = p

variable {P S : Type}

/-! ### Notes, events and the code around -/

def note (notice : Notice) : Prog P Unit := modify fun s => { s with
  outside := { s.outside with log := s.outside.log ++ [notice] } }

/-- What the code around leaves, with its requests met. -/
def Sim.withScope (scope : Scope P) (s : Sim P) : Sim P :=
  { s with
    outside := scope.outside
    hk := scope.requests.foldl HkRequest.apply s.hk }

/-- Run code around. -/
def onOutside {α : Type} (x : Code P α) : Prog P α :=
  zoom (fun s => { outside := s.outside }) Sim.withScope x

variable (sur : Surroundings P S)

/-- `_emit_event(ev)`. -/
def emit (ev : Event) : Prog P Unit := do
  note (.event ev)
  onOutside (sur.emitEvent ev)

/-- Emit events, one after another. -/
def emitAll (evs : List Event) : Prog P Unit := evs.forM (emit sur)

/-! ### Fault rules -/

/-- The fault rules' part of the engine. -/
def Sim.ruleState (s : Sim P) : FdirRules.State where
  fdirTriggered := s.fdirTriggered
  fdirPersist := s.fdirPersist
  safeActive := s.fdirSafeActive
  emergencyActive := s.fdirEmergencyActive

def Sim.withRuleState (s : Sim P) (r : FdirRules.State) : Sim P :=
  { s with
    fdirTriggered := r.fdirTriggered
    fdirPersist := r.fdirPersist
    fdirSafeActive := r.safeActive
    fdirEmergencyActive := r.emergencyActive }

/-- What a rule reads. -/
def ruleInput (p : P) : FdirRules.Substep where
  dt := 0
  params := sur.params p
  dt_nonneg := le_refl 0

/-- The event of a rule that fires. -/
def ruleEvent (rule : FdirRules.Rule) (pid : Nat) (raw : Value) : Event where
  eventId := 0x8000 ||| (pid &&& 0x0FFF)
  severity := (rule.level + 1).toNat
  description := sur.ruleText rule raw

/-- The action and the event of a rule that fires; an exception of the action is logged. -/
def fireRule (rule : FdirRules.Rule) : Prog P Unit := do
  match sur.fdirCallbacks rule.action with
  | some code => do
      note (.action rule.action)
      tryCatch (onOutside code) fun _ => pure ()
  | none => pure ()
  let s ← get
  match sur.rules.paramIds rule.parameter with
  | some pid => emit sur (ruleEvent sur rule pid (sur.params s.outside.plant pid))
  | none => pure ()

/-- One rule of `_tick_fdir`. -/
def tickFdirRule (rule : FdirRules.Rule) : Prog P Unit := do
  let s ← get
  match ← fromExcept (FdirRules.condition sur.rules (ruleInput sur s.outside.plant) rule) with
  | none => pure ()
  | some met => do
      let judged := (FdirRules.judge rule 0 none met s.ruleState).1
      set (s.withRuleState judged)
      if judged.log.any FdirRules.Evaluation.fired then fireRule sur rule else pure ()

/-- `_tick_fdir()`. -/
def tickFdir : Prog P Unit := do
  sur.rules.rules.forM (tickFdirRule sur)
  modify fun s => { s with
    fdirSafeActive := FdirRules.latched sur.rules 2 s.ruleState
    fdirEmergencyActive := FdirRules.latched sur.rules 3 s.ruleState }

/-! ### Faults, cascades and recoveries -/

/-- The fault handling's part of the engine. -/
def Sim.faultState (s : Sim P) : Fdir.State where
  simElapsed := s.simElapsedFdir
  activeFaults := s.activeFaults
  recoveryStates := s.recoveryStates
  pendingCascades := s.pendingCascades
  faultPersist := s.faultPersist

def Sim.withFaultState (s : Sim P) (f : Fdir.State) : Sim P :=
  { s with
    activeFaults := f.activeFaults
    recoveryStates := f.recoveryStates
    pendingCascades := f.pendingCascades
    faultPersist := f.faultPersist }

/-- What a fault's rule reads. -/
def faultInput (dt : Rat) (p : P) : Fdir.TickInput where
  dt := dt
  spacecraftPhase := sur.spacecraftPhase p
  params := fun _ => sur.params p

/-- What happens outside when the fault handling has this event: a procedure is started, and the
event is emitted. -/
def perform (now : Rat) (ev : Fdir.Event) : Prog P Unit := do
  match ev with
  | .procedureStarted procId _ => onOutside (sur.startProcedure procId now)
  | _ => pure ()
  emit sur
    { eventId := ev.eventId, severity := ev.severity.getD 1, description := sur.faultText ev }

/-- One rule of `_tick_fault_detection`. -/
def tickFaultRule (dt now : Rat) (rule : Fdir.FaultPropagationRule) : Prog P Unit := do
  let s ← get
  let faults ← fromExcept
    (Fdir.tickRule sur.faults (faultInput sur dt s.outside.plant) now rule s.faultState)
  set (s.withFaultState faults)
  faults.events.forM (perform sur now)

/-- A cascade that is due; an exception of its implementation is logged. -/
def applyCascade (c : Fdir.PendingCascade) : Prog P Unit :=
  match sur.cascadeCallbacks c.key with
  | none => pure ()
  | some code => do
      note (.cascade c)
      let applied ← tryCatch (do
          onOutside code
          pure true) fun _ => pure false
      if applied then
        let ev := Fdir.Event.cascadeApplied c.faultId c.targetSubsystem c.action
        emit sur { eventId := ev.eventId, severity := ev.severity.getD 1,
                   description := sur.faultText ev }
      else pure ()

/-- `_tick_pending_cascades(now)`. -/
def tickPendingCascades (now : Rat) : Prog P Unit := do
  let s ← get
  set { s with pendingCascades := s.pendingCascades.filter fun c => now < c.due }
  (s.pendingCascades.filter fun c => c.due ≤ now).forM (applyCascade sur)

/-- `_tick_recovery(now)`. -/
def tickRecovery (now : Rat) : Prog P Unit := do
  let s ← get
  let faults := Fdir.tickRecovery sur.faults now s.faultState
  set (s.withFaultState faults)
  faults.events.forM (perform sur now)

/-- The faults are handled from the nominal phase on; before it none is held. -/
def tickFaults (dt now : Rat) : Prog P Unit := do
  let s ← get
  if Fdir.scPhaseNominal ≤ sur.spacecraftPhase s.outside.plant then do
    sur.faults.rules.forM (tickFaultRule sur dt now)
    tickPendingCascades sur now
    tickRecovery sur now
  else if s.activeFaults.items.isEmpty ∧ s.pendingCascades.isEmpty then pure ()
  else set { s with activeFaults := .empty, pendingCascades := [], faultPersist := .empty }

/-- `_tick_fdir_advanced(dt)`. -/
def tickFdirAdvanced (dt : Rat) : Prog P Unit := do
  modify fun s => { s with simElapsedFdir := s.simElapsedFdir + dt }
  let s ← get
  onOutside (sur.shedLoads s.simElapsedFdir)
  tickFaults sur dt s.simElapsedFdir
  onOutside (sur.tickProcedures s.simElapsedFdir)
  let s ← get
  onOutside (sur.publishFdirParameters s.fdirSafeActive s.fdirEmergencyActive s.activeFaults
    s.recoveryStates)

/-! ### Modes -/

/-- `_update_sc_mode()`. -/
def updateScMode : Prog P Unit := do
  let s ← get
  if s.fdirEmergencyActive then set { s with scMode := 3 }
  else if s.fdirSafeActive ∨ sur.spacecraftPhase s.outside.plant < Fdir.scPhaseNominal then
    set { s with scMode := 0 }
  else do
    let payloadMode ← fromExcept (match sur.params s.outside.plant 0x0600 with
      | .none => .ok 0
      | raw => raw.toInt)
    set { s with scMode := if payloadMode = 2 then 2 else 1 }

/-- The event of safe mode, entered or left. -/
def safeModeEvent (safe : Bool) : Event :=
  if safe then
    { eventId := 0x0F0A, severity := 3, description := "Spacecraft entered SAFE mode" }
  else { eventId := 0x0F0B, severity := 1, description := "Spacecraft exited SAFE mode" }

/-- The event of a contingency mode of the power subsystem. -/
def epsModeEvent (mode : Int) : Event where
  eventId := 0x0111
  severity := 2
  description := "EPS entered contingency mode " ++ toString mode

/-- The first part of `_check_safe_mode_events()`. -/
def checkScSafe : Prog P Unit := do
  let s ← get
  let safe := decide (s.scMode = 0)
  if safe ≠ s.prevScSafe then do
    set { s with prevScSafe := safe }
    emit sur (safeModeEvent safe)
  else pure ()

/-- The other part. -/
def checkEpsMode : Prog P Unit := do
  let s ← get
  match sur.epsMode s.outside.plant with
  | none => pure ()
  | some mode => do
      set { s with firstEpsMode := s.firstEpsMode.or (some mode) }
      match s.prevEpsMode with
      | none => pure ()
      | some latched =>
          if mode ≠ latched ∧ mode ≠ 0 then emit sur (epsModeEvent mode) else pure ()
      modify fun s => { s with prevEpsMode := some mode }

/-- `_check_safe_mode_events()`. -/
def checkSafeModeEvents : Prog P Unit := do
  checkScSafe sur
  checkEpsMode sur

/-! ### Housekeeping -/

/-- `_hk_timers.get(sid, 0.0)`. -/
def HkTable.timer (t : HkTable) (sid : Nat) : FloatValue := (t.timers.get? sid).getD (floatOf 0)

def setTimer (sid : Nat) (timer : FloatValue) : Prog P Unit := modify fun s => { s with
  hk := { s.hk with timers := s.hk.timers.set sid timer } }

/-- One round of the loop of `_emit_hk_packets`. -/
def emitHkSid (swImage : Int) (dtSim : FloatValue) (sid : Nat) (interval : FloatValue) :
    Prog P Unit := do
  let s ← get
  if (s.hk.enabled.get? sid).getD true then
    let gate := sur.hkGate swImage s.outside.plant sid
    if gate = .halted then pure ()
    else do
      let advanced := gate.advance interval dtSim (s.hk.timer sid)
      setTimer sid advanced.1
      if advanced.2 then do
        note (.report sid)
        onOutside (sur.reportHk sid)
      else pure ()
  else pure ()

/-- `_emit_hk_packets(dt_sim)`. -/
def emitHkPackets (dtSim : FloatValue) : Prog P Unit := do
  let s ← get
  let swImage ← fromExcept (sur.swImage s.outside.plant)
  s.hk.intervals.items.forM fun item => emitHkSid sur swImage dtSim item.1 item.2

/-! ### Ticks -/

/-- `_tick_substep(dt, dt_outer, last)`. -/
def tickSubstep (dt dtOuter : Rat) (last : Bool) : Prog P Unit := do
  onOutside (sur.advance dt dtOuter last)
  if sur.fdirEnabled then do
    tickFdir sur
    tickFdirAdvanced sur dt
  else pure ()
  updateScMode sur
  checkSafeModeEvents sur
  onOutside sur.subsystemEvents
  if last then emitHkPackets sur (quotient dtOuter.num dtOuter.den) else pure ()
  onOutside (sur.finish dt dtOuter last)

/-- `_tick_once(dt_sim)`. -/
def tickOnce (dtSim : Rat) : Prog P Unit :=
  let steps := FdirRules.substepCount sur.dtMaxS sur.maxSubsteps dtSim
  let dt := FdirRules.substepLength sur.dtMaxS sur.maxSubsteps dtSim
  (List.range steps).forM fun i => tickSubstep sur dt dtSim (i + 1 == steps)

/-- The capacity of `tc_queue`. -/
def tcQueueSize : Nat := 500

inductive Op where
  /-- A telecommand arrives. -/
  | telecommand (pkt : Bytes)
  /-- One round of the loop. -/
  | tick (dtSim : Rat)

/-- `tc_queue.put_nowait(pkt)`; a telecommand that finds no room is dropped. -/
def Outside.putTc (o : Outside P) (pkt : Bytes) : Outside P :=
  if o.tcQueue.length < tcQueueSize then { o with tcQueue := o.tcQueue ++ [pkt] } else o

def Op.perform : Op → Prog P Unit
  | .telecommand pkt => modify fun s => { s with outside := s.outside.putTc pkt }
  | .tick dtSim => tryCatch (tickOnce sur dtSim) fun _ => pure ()

/-- The state after an operation. -/
def step (s : Sim P) (op : Op) : Sim P := finalState (op.perform sur) s

/-! ### Snapshots -/

/-- What is saved. -/
structure Snapshot (S : Type) where
  plant : S
  scMode : Int
  fdirTriggered : Dict String Bool
  hkTimers : Dict Nat FloatValue
  hkEnabled : Dict Nat Bool
  simElapsedFdir : Rat
  fdirSafeActive : Bool
  fdirEmergencyActive : Bool
  activeFaults : Dict String Rat
  recoveryStates : Dict String Fdir.RecoveryState

/-- `BreakpointManager.save()`. -/
def save (s : Sim P) : Snapshot S where
  plant := sur.save s.outside.plant
  scMode := s.scMode
  fdirTriggered := s.fdirTriggered
  hkTimers := s.hk.timers
  hkEnabled := s.hk.enabled
  simElapsedFdir := s.simElapsedFdir
  fdirSafeActive := s.fdirSafeActive
  fdirEmergencyActive := s.fdirEmergencyActive
  activeFaults := s.activeFaults
  recoveryStates := s.recoveryStates

/-- `BreakpointManager.load(state)`.  The structures are enabled and disabled one by one. -/
def load (snapshot : Snapshot S) (s : Sim P) : Sim P :=
  { s with
    outside := { s.outside with plant := sur.load snapshot.plant s.outside.plant }
    scMode := snapshot.scMode
    fdirTriggered := snapshot.fdirTriggered
    hk := { s.hk with
      timers := snapshot.hkTimers
      enabled := snapshot.hkEnabled.items.foldl
        (fun enabled item => enabled.set item.1 item.2) s.hk.enabled }
    simElapsedFdir := snapshot.simElapsedFdir
    fdirSafeActive := snapshot.fdirSafeActive
    fdirEmergencyActive := snapshot.fdirEmergencyActive
    activeFaults := snapshot.activeFaults
    recoveryStates := snapshot.recoveryStates }

/-- A freshly constructed engine: its plant, and the configured housekeeping. -/
def construct (plant : P) (enabled : Dict Nat Bool) (intervals : Dict Nat FloatValue) : Sim P where
  outside := { plant := plant }
  hk := { enabled := enabled, intervals := intervals }

end Checkpoints
