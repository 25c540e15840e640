import MissionSim.Breakpoints
import MissionSim.HkEmission
import MissionSim.Scenarios

/-!
# Commands of the instructor

A command is a JSON object with a type.  `validate_instructor_cmd` looks at it when it
arrives; `_handle_instructor_cmd` carries it out in the tick.

What the commands do to the subsystem models is a parameter, as are the text of a JSON value
and the saving and loading of breakpoints, which can raise only inside a `try`.  The answer a
waiting caller gets is left out.
-/

namespace Instructor

open Binary32 Python Effects Spacecraft
open Breakpoints (Item)
open Obcp (Event)

/-! ### Commands -/

/-- `INSTRUCTOR_CMD_TYPES`. -/
inductive CmdType where
  | setSpeed
  | freeze
  | resume
  | inject
  | clearFailure
  | failureInject
  | failureClear
  | failureClearAll
  | overridePasses
  | setPhase
  | pauseScenario
  | startSeparation
  | saveBreakpoint
  | loadBreakpoint
  | startScenario
  | stopScenario
  deriving DecidableEq, Repr

def CmdType.name : CmdType → String
  | .setSpeed => "set_speed"
  | .freeze => "freeze"
  | .resume => "resume"
  | .inject => "inject"
  | .clearFailure => "clear_failure"
  | .failureInject => "failure_inject"
  | .failureClear => "failure_clear"
  | .failureClearAll => "failure_clear_all"
  | .overridePasses => "override_passes"
  | .setPhase => "set_phase"
  | .pauseScenario => "pause_scenario"
  | .startSeparation => "start_separation"
  | .saveBreakpoint => "save_breakpoint"
  | .loadBreakpoint => "load_breakpoint"
  | .startScenario => "start_scenario"
  | .stopScenario => "stop_scenario"

def CmdType.all : List CmdType :=
  [.setSpeed, .freeze, .resume, .inject, .clearFailure, .failureInject, .failureClear,
   .failureClearAll, .overridePasses, .setPhase, .pauseScenario, .startSeparation,
   .saveBreakpoint, .loadBreakpoint, .startScenario, .stopScenario]

/-- An object, as it is decoded. -/
abbrev Cmd := Dict String Item

/-- What arrives. -/
inductive Payload where
  | object (cmd : Cmd)
  | other (x : Item)

/-- The type of a command, if it is one of those accepted. -/
def cmdType? (cmd : Cmd) : Option CmdType :=
  match cmd.get? "type" with
  | some (.text t) => CmdType.all.find? fun type => type.name = t
  | _ => none

/-- `cmd.get(key, default)`. -/
def getD (cmd : Cmd) (key : String) (default : Item) : Item := (cmd.get? key).getD default

/-! ### Validation -/

/-- Why a command is rejected. -/
inductive Rejection where
  | notAnObject
  | unknownType
  | notANumber (field : String)
  | notFinite (field : String)
  | below (field : String)
  | above (field : String)
  deriving DecidableEq, Repr

/-- A field that must be a number, and its bounds. -/
structure NumericField where
  field : String
  lo : Option FloatValue := none
  hi : Option FloatValue := none

/-- `_INSTRUCTOR_NUMERIC_FIELDS`. -/
def numericFields : CmdType → List NumericField
  | .setSpeed => [{ field := "value", lo := some (floatOf 0) }]
  | .setPhase => [{ field := "phase", lo := some (floatOf 0), hi := some (floatOf 6) }]
  | .failureInject => [{ field := "magnitude" },
      { field := "duration_s", lo := some (floatOf 0) },
      { field := "onset_duration_s", lo := some (floatOf 0) }]
  | _ => []

def isFinite : FloatValue → Bool
  | .finite _ _ _ => true
  | _ => false

/-- A number against the bounds of its field. -/
def NumericField.check (f : NumericField) (x : FloatValue) : Option Rejection :=
  if !isFinite x then some (.notFinite f.field)
  else if f.lo.any fun lo => x.lt lo then some (.below f.field)
  else if f.hi.any fun hi => hi.lt x then some (.above f.field)
  else none

/-- One round of the loop over the fields.  An integer too large for `float` raises. -/
def checkField (cmd : Cmd) (f : NumericField) : Except PyError (Option Rejection) :=
  match cmd.get? f.field with
  | none | some .null => .ok none
  | some (.bool _) | some (.list _) | some (.dict _) => .ok (some (.notANumber f.field))
  | some value =>
      match value.toFloat with
      | .ok x => .ok (f.check x)
      | .error .typeError | .error .valueError => .ok (some (.notANumber f.field))
      | .error error => .error error

/-- The first field that is rejected. -/
def checkFields (cmd : Cmd) : List NumericField → Except PyError (Option Rejection)
  | [] => .ok none
  | f :: rest => do
      match ← checkField cmd f with
      | some rejection => pure (some rejection)
      | none => checkFields cmd rest

/-- `validate_instructor_cmd(cmd)`: `none` when the command is accepted. -/
def validateInstructorCmd : Payload → Except PyError (Option Rejection)
  | .other _ => .ok (some .notAnObject)
  | .object cmd =>
      match cmdType? cmd with
      | none => .ok (some .unknownType)
      | some type => checkFields cmd (numericFields type)

/-! ### The engine -/

/-- What the commands reach of the engine. -/
structure Console (M : Type) where
  keeper : Housekeeper M
  training : Training.ScenarioEngine
  speed : FloatValue
  speedMax : FloatValue
  pauseSavedSpeed : Option FloatValue := none
  propSpeedClamped : Bool := false
  sepTimer : FloatValue := floatOf 0
  sepTimerDuration : FloatValue := floatOf 1800
  bootloaderApid : Nat := 2
  applicationApid : Nat := 1
  hkDefaultEnabledSids : List Nat := [1, 11]
  breakpoints : Dict String Item := .empty
  instrCmdRejects : Nat := 0

/-- A program on it. -/
abbrev Prog (M α : Type) := EStateM PyError (Console M) α

/-- What is taken as it is: the commands to the subsystem models, the text of a value, and the
breakpoints. -/
structure Instruments (M : Type) extends Subsystems M where
  /-- The models' part of `_enter_bootloader_mode`. -/
  enterBootloader : M → M
  /-- The on-board computer is set to the application. -/
  forceApplication : M → M
  /-- The models' part of `_exit_bootloader_mode`. -/
  exitBootloader : M → M
  /-- The models' part of `configure_separation_state`. -/
  configureSeparation : M → M
  /-- The highest speed while a burn is firing, `none` when none is. -/
  burn : M → Option FloatValue
  injectFailure : String → Item → FloatValue → Cmd → EStateM PyError M Unit
  clearFailure : String → Item → Cmd → EStateM PyError M Unit
  /-- `str(value)`. -/
  str : Item → String
  /-- The body of `_handle_save_breakpoint`. -/
  saveBreakpoint : Item → Prog M Unit
  /-- `BreakpointManager(self).load(state)`. -/
  loadBreakpoint : Item → Prog M Bool

variable {M : Type} (ins : Instruments M) (depth : Nat)

/-- Run a program of the engine. -/
def onKeeper {α : Type} (x : Program M α) : Prog M α :=
  zoom (fun c => c.keeper.engine)
    (fun e c => { c with keeper := { c.keeper with engine := e } }) x

/-- `_emit_event(ev)`. -/
def emit (ev : Event) : Prog M Unit := onKeeper (emitEvent ins.toSubsystems depth ev)

/-- The value can be hashed. -/
def hashable : Item → Bool
  | .list _ | .dict _ => false
  | _ => true

/-- The entries but those of the given keys. -/
def others (cmd : Cmd) (keys : List String) : Cmd := keys.foldl Dict.erase cmd

/-! ### Speed -/

/-- `f"{x:.0f}"`. -/
def fixedZero : FloatValue → String
  | .finite negative m e => (if negative then "-" else "") ++ toString (roundAt 0 m e)
  | .infinite negative => if negative then "-inf" else "inf"
  | .nan _ _ => "nan"

/-- The event of a speed clamped during a burn. -/
def speedClamped (maxSpeed : FloatValue) : Event where
  eventId := 0x0811
  severity := 1
  description := "PROP_SPEED_CLAMPED: time acceleration clamped to " ++ fixedZero maxSpeed ++
    "x during burn"

/-- `_tick_prop_speed_clamp(prop)`. -/
def tickPropSpeedClamp : Prog M Unit := do
  let c ← get
  match ins.burn c.keeper.engine.models with
  | none => set { c with propSpeedClamped := false }
  | some maxSpeed =>
      if maxSpeed.lt c.speed then
        if c.propSpeedClamped then set { c with speed := maxSpeed }
        else do
          set { c with speed := maxSpeed, propSpeedClamped := true }
          emit ins depth (speedClamped maxSpeed)
      else pure ()

/-- `max(0.0, min(requested, self._speed_max))`. -/
def clampSpeed (requested speedMax : FloatValue) : FloatValue :=
  let bounded := if speedMax.lt requested then speedMax else requested
  if (floatOf 0).lt bounded then bounded else floatOf 0

/-- `set_speed`. -/
def setSpeed (cmd : Cmd) : Prog M Unit :=
  match (getD cmd "value" (.float (floatOf 1))).toFloat with
  | .error .typeError | .error .valueError =>
      modify fun c => { c with instrCmdRejects := c.instrCmdRejects + 1 }
  | .error error => throw error
  | .ok requested => do
      modify fun c => { c with speed := clampSpeed requested c.speedMax }
      let c ← get
      if ins.present c.keeper.engine.models "prop" then tickPropSpeedClamp ins depth else pure ()

/-! ### Failures -/

/-- `_handle_failure_inject(cmd)`. -/
def handleFailureInject (cmd : Cmd) : Prog M Unit := do
  let magnitude ← fromExcept (getD cmd "magnitude" (.float (floatOf 1))).toFloat
  match getD cmd "subsystem" (.text "") with
  | .list _ | .dict _ => throw .typeError
  | .text model => do
      let c ← get
      if ins.present c.keeper.engine.models model then
        onKeeper (onModels (ins.injectFailure model (getD cmd "failure" (.text "")) magnitude
          (others cmd ["type", "subsystem", "failure", "magnitude"])))
      else pure ()
  | _ => pure ()

/-- `_handle_failure_clear(cmd)`. -/
def handleFailureClear (cmd : Cmd) : Prog M Unit :=
  match getD cmd "subsystem" (.text "") with
  | .list _ | .dict _ => throw .typeError
  | .text model => do
      let c ← get
      if ins.present c.keeper.engine.models model then
        onKeeper (onModels (ins.clearFailure model (getD cmd "failure" (.text ""))
          (others cmd ["type", "subsystem", "failure"])))
      else pure ()
  | _ => pure ()

/-- `x or y`. -/
def orElse (x y : Item) : Item := if x.truthy then x else y

/-- The keys of `failure_inject` that are parameters of its own. -/
def injectKeys : List String :=
  ["type", "subsystem", "failure", "mode", "magnitude", "onset", "duration_s", "onset_duration_s"]

/-- The failure that a command asks for. -/
def failureSpec (cmd : Cmd) : Training.FailureSpec where
  subsystem := ins.str (getD cmd "subsystem" (.text ""))
  failure := ins.str (orElse (getD cmd "failure" .null) (getD cmd "mode" (.text "")))
  onset := ins.str (getD cmd "onset" (.text "step"))
  extraParams := (others cmd injectKeys).mapItems fun _ x => ins.str x

/-- The duration that a command asks for. -/
def durationS (cmd : Cmd) : Except PyError FloatValue :=
  if (getD cmd "duration_s" .null).truthy then (getD cmd "duration_s" .null).toFloat
  else .ok (floatOf 0)

/-- `failure_inject`.  A key `self` collides with the method's own. -/
def failureInject (cmd : Cmd) : Prog M Unit := do
  let magnitude ← fromExcept (getD cmd "magnitude" (.float (floatOf 1))).toFloat
  let duration ← fromExcept (durationS cmd)
  let _ ← fromExcept (getD cmd "onset_duration_s" (.float (floatOf 90))).toFloat
  if cmd.contains "self" then throw .typeError
  else modify fun c => { c with training := { c.training with
    failures := c.training.failures.inject .operator (failureSpec ins cmd) magnitude duration } }

/-- `_failure_manager.clear_all()`. -/
def clearAllFailures : Prog M Unit :=
  modify fun c => { c with training := { c.training with failures := .empty } }

/-- `failure_clear`.  Taking a key from an empty dictionary does not hash it. -/
def failureClear (cmd : Cmd) : Prog M Unit :=
  let failureId := getD cmd "failure_id" .null
  if failureId.truthy then do
    let c ← get
    match failureId with
    | .list _ | .dict _ => if c.training.failures.size = 0 then pure () else throw .typeError
    | .text s => set { c with training := { c.training with
        failures := c.training.failures.clear s } }
    | _ => pure ()
  else clearAllFailures

/-! ### Phases -/

/-- The stores are cleared and disabled. -/
def tearDownStores {P : Type} (t : TmStorage.OnboardTMStorage P) : TmStorage.OnboardTMStorage P :=
  t.keys.foldl (fun t storeId => TmStorage.disableStore (TmStorage.deleteStore t storeId) storeId) t

def enableStores {P : Type} (t : TmStorage.OnboardTMStorage P) : TmStorage.OnboardTMStorage P :=
  t.keys.foldl TmStorage.enableStore t

/-- The engine with other enablements, another APID and other stores. -/
def reconfigure (e : Engine M) (enabled : Nat → Bool) (apid : Nat)
    (stores : TmStorage.OnboardTMStorage TmBuilder.TmPacket →
      TmStorage.OnboardTMStorage TmBuilder.TmPacket) : Engine M :=
  { e with
    hkEnabled := e.hkEnabled.mapItems fun sid _ => enabled sid
    tmBuilder := { e.tmBuilder with apid := apid }
    downlink := { e.downlink with storage := stores e.downlink.storage } }

/-- `_enter_bootloader_mode()`. -/
def enterBootloaderMode (c : Console M) : Console M :=
  let e := reconfigure c.keeper.engine (fun sid => sid == bootloaderBeaconSid) c.bootloaderApid
    tearDownStores
  { c with
    sepTimer := floatOf 0
    keeper := { c.keeper with engine := { e with
      spacecraftPhase := 3
      models := ins.enterBootloader e.models
      params := (e.params.set 0x0129 (.int 3)).set 0x0311 (.int 0) } } }

/-- `_exit_bootloader_mode()`. -/
def exitBootloaderMode (c : Console M) : Console M :=
  let e := reconfigure c.keeper.engine (fun sid => c.hkDefaultEnabledSids.contains sid)
    c.applicationApid enableStores
  { c with keeper := { c.keeper with engine := { e with models := ins.exitBootloader e.models } } }

/-- `_apply_default_hk_enable()`. -/
def applyDefaultHkEnable (c : Console M) : Console M :=
  { c with keeper := { c.keeper with engine := { c.keeper.engine with
    hkEnabled := c.keeper.engine.hkEnabled.mapItems fun sid _ =>
      c.hkDefaultEnabledSids.contains sid } } }

/-- The engine with a phase. -/
def withPhase (c : Console M) (phase : Int) : Console M :=
  { c with keeper := { c.keeper with engine := { c.keeper.engine with spacecraftPhase := phase } } }

/-- The engine after a change of phase. -/
def changePhase (c : Console M) (phase : Int) : Console M :=
  if phase ≤ 3 then
    let entered := withPhase (enterBootloaderMode ins c) phase
    if phase = 1 then { entered with sepTimer := c.sepTimerDuration } else entered
  else
    let application := withPhase c phase
    let forced := { application with keeper := { application.keeper with
      engine := { application.keeper.engine with
        models := ins.forceApplication application.keeper.engine.models } } }
    if c.keeper.engine.spacecraftPhase ≤ 3 then exitBootloaderMode ins forced
    else applyDefaultHkEnable forced

/-- The event of a change of phase. -/
def phaseChange (old new : Int) : Event where
  eventId := 0x0052
  severity := 2
  description := "Phase change: " ++ toString old ++ " -> " ++ toString new

/-- `set_phase`. -/
def setPhase (cmd : Cmd) : Prog M Unit := do
  let phase ← fromExcept (getD cmd "phase" (.int 6)).toInt
  if 0 ≤ phase ∧ phase ≤ 6 then do
    let c ← get
    set (changePhase ins c phase)
    emit ins depth (phaseChange c.keeper.engine.spacecraftPhase phase)
  else pure ()

/-- `configure_separation_state()`. -/
def configureSeparationState (c : Console M) : Console M :=
  let e := reconfigure c.keeper.engine (fun sid => sid == bootloaderBeaconSid) c.bootloaderApid
    tearDownStores
  { c with
    sepTimer := c.sepTimerDuration
    keeper := { c.keeper with engine := { e with
      spacecraftPhase := 1
      models := ins.configureSeparation e.models } } }

/-- The event of a separation. -/
def separationInitiated : Event where
  eventId := 0x0053
  severity := 2
  description := "Separation initiated — 30 min timer started"

/-- `start_separation`. -/
def startSeparation : Prog M Unit := do
  modify (configureSeparationState ins)
  emit ins depth separationInitiated

/-! ### Passes, scenarios and breakpoints -/

/-- `override_passes`. -/
def overridePasses (cmd : Cmd) : Prog M Unit := do
  let c ← get
  let explicit := ["enabled", "on", "value", "state"].findSome? cmd.get?
  let on := match explicit with
    | some x => x.truthy
    | none => !c.keeper.engine.overridePasses
  set { c with keeper := { c.keeper with engine := { c.keeper.engine with
    overridePasses := on
    params := c.keeper.engine.params.set overrideParam (.int on.toNat) } } }

/-- `pause_scenario`. -/
def pauseScenario : Prog M Unit :=
  modify fun c => { c with
    pauseSavedSpeed :=
      if c.training.active.isSome then c.pauseSavedSpeed.or (some c.speed) else c.pauseSavedSpeed
    speed := floatOf 0 }

/-- Run a program of the scenario engine; an exception is logged. -/
def onTraining {α : Type} (x : Training.Program α) : Prog M Unit :=
  tryCatch (zoom Console.training (fun t c => { c with training := t }) x >>= fun _ => pure ())
    fun _ => pure ()

/-- `_handle_start_scenario(cmd)`.  A name that is no text names no scenario, or raises inside the
`try`. -/
def handleStartScenario (cmd : Cmd) : Prog M Unit :=
  match orElse (orElse (getD cmd "name" .null) (getD cmd "scenario" .null)) (.text "") with
  | .text name => onTraining (Training.start name)
  | _ => pure ()

/-- `_handle_load_breakpoint(cmd)`. -/
def handleLoadBreakpoint (cmd : Cmd) : Prog M Unit := do
  let c ← get
  let name := orElse (getD cmd "name" .null) (.text "")
  let state ← match getD cmd "state" .null, name with
    | .null, .list _ | .null, .dict _ => throw .typeError
    | .null, .text s => pure (c.breakpoints.get? s)
    | .null, _ => pure none
    | state, _ => pure (some state)
  match state with
  | none => pure ()
  | some state => tryCatch (do
      let ok ← ins.loadBreakpoint state
      if ok then do
        -- a fresh burst of housekeeping
        modify fun c => { c with keeper := { c.keeper with
          hkTimers := c.keeper.engine.hkIntervals.items.foldl
            (fun timers item => timers.set item.1 (item.2.add (quotient 1 1000)))
            c.keeper.hkTimers } }
        tryCatch (emit ins depth
          { eventId := 0x0054, severity := 2, description := "Breakpoint loaded: " ++ ins.str name })
          fun _ => pure ()
      else pure ()) fun _ => pure ()

/-! ### The handler -/

/-- `_handle_instructor_cmd(cmd)`. -/
def handleInstructorCmd (cmd : Cmd) : Prog M Unit :=
  match cmdType? cmd with
  | none => pure ()
  | some .setSpeed => setSpeed ins depth cmd
  | some .freeze => modify fun c => { c with speed := floatOf 0 }
  | some .resume => modify fun c => { c with
      speed := if truthy c.speed then c.speed else floatOf 1 }
  | some .inject => handleFailureInject ins cmd
  | some .clearFailure => handleFailureClear ins cmd
  | some .failureInject => failureInject ins cmd
  | some .overridePasses => overridePasses cmd
  | some .failureClear => failureClear cmd
  | some .setPhase => setPhase ins depth cmd
  | some .pauseScenario => pauseScenario
  | some .startSeparation => startSeparation ins depth
  | some .failureClearAll => clearAllFailures
  | some .saveBreakpoint =>
      tryCatch (ins.saveBreakpoint (orElse (getD cmd "name" .null) (.text ""))) fun _ => pure ()
  | some .loadBreakpoint => handleLoadBreakpoint ins depth cmd
  | some .startScenario => handleStartScenario cmd
  | some .stopScenario => onTraining Training.finish

/-- Models that take every failure, and no snapshots. -/
def plainInstruments : Instruments PlainModels where
  toSubsystems := plainSubsystems []
  enterBootloader := id
  forceApplication := id
  exitBootloader := id
  configureSeparation := id
  burn := fun _ => none
  injectFailure := fun _ _ _ _ => pure ()
  clearFailure := fun _ _ _ => pure ()
  str := fun x => match x with
    | .text s => s
    | _ => ""
  saveBreakpoint := fun _ => pure ()
  loadBreakpoint := fun _ => pure true

/-- The console of the plain engine. -/
def plainConsole : Console PlainModels where
  keeper := { engine := plainEngine }
  training := { scenarios := .empty }
  speed := floatOf 1
  speedMax := floatOf 1000

end Instructor
