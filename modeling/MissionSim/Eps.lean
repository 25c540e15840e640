import MissionSim.Effects
import MissionSim.Objects
import Mathlib.Data.Nat.Bitwise
import Mathlib.Logic.Function.Basic

/-!
# The electrical power subsystem

Nine power lines, seven of them switchable.  A tick trips the lines whose current is over their
threshold, then sheds a line or restores one by the bus voltage, then takes lines off where the mode
has changed to safe or emergency.  Commands switch lines too, each in its own way.

The generation, the battery and the published parameters are left out; a tick takes from outside
what the loads of a line draw, the bus voltage after the power balance and the angle of a tracking
drive.  So are events, device switches, and the texts and the values of replies.
-/

namespace Eps

open Binary32 Python Effects

/-! ### Power lines -/

/-- The power lines, in the order of their indices. -/
inductive PowerLine where
  | obc | ttcRx | ttcTx | payload | fpaCooler | htrBat | htrObc | aocsWheels | prop
  deriving DecidableEq, Repr

namespace PowerLine

/-- `POWER_LINE_DEFS`. -/
def all : List PowerLine :=
  [.obc, .ttcRx, .ttcTx, .payload, .fpaCooler, .htrBat, .htrObc, .aocsWheels, .prop]

def index : PowerLine → Nat
  | obc => 0 | ttcRx => 1 | ttcTx => 2 | payload => 3 | fpaCooler => 4
  | htrBat => 5 | htrObc => 6 | aocsWheels => 7 | prop => 8

def name : PowerLine → String
  | obc => "obc" | ttcRx => "ttc_rx" | ttcTx => "ttc_tx" | payload => "payload"
  | fpaCooler => "fpa_cooler" | htrBat => "htr_bat" | htrObc => "htr_obc"
  | aocsWheels => "aocs_wheels" | prop => "prop"

/-- `POWER_LINE_SWITCHABLE`. -/
def switchable : PowerLine → Bool
  | obc | ttcRx => false
  | _ => true

/-- `POWER_LINE_DEFAULTS`. -/
def defaultOn (l : PowerLine) : Bool := !l.switchable

/-- The line of an index, if `0 <= index < len(POWER_LINE_NAMES)`. -/
def ofIndex (i : Int) : Option PowerLine := if 0 ≤ i then all[i.toNat]? else none

/-- The line of a name. -/
def ofName (text : String) : Option PowerLine := all.find? fun l => l.name = text

theorem index_injective {l l' : PowerLine} (h : l.index = l'.index) : l = l' := by
  have hl : all[l.index]? = some l := by cases l <;> rfl
  have hl' : all[l'.index]? = some l' := by cases l' <;> rfl
  rw [h] at hl
  exact Option.some.inj (hl.symm.trans hl')

end PowerLine

/-- `LOAD_SHED_ORDER`. -/
def loadShedOrder : List PowerLine := [.payload, .fpaCooler, .ttcTx, .aocsWheels, .prop]

/-- `OC_THRESHOLDS`. -/
def ocThreshold : PowerLine → FloatValue
  | .obc => literal 2
  | .ttcRx => literal 3 10
  | .ttcTx => literal 1
  | .payload => literal 5 2
  | .fpaCooler => literal 1
  | .htrBat => literal 1 2
  | .htrObc => literal 3 10
  | .aocsWheels => literal 8 10
  | .prop => literal 8 10

/-- What the model reads of the configuration.  An entry of the shed order that names no line is
`none`. -/
structure EpsConfig where
  powerLines : PowerLine → Bool := PowerLine.defaultOn
  shedOrder : List (Option PowerLine) := loadShedOrder.map some
  shedVoltage : FloatValue := literal 53 2
  shedHysteresisV : FloatValue := literal 1 2
  shedAutoRestore : Bool := false
  ocThresholds : PowerLine → FloatValue := ocThreshold
  wingDeployTimeS : FloatValue := literal 30

/-! ### State -/

/-- What is modelled of `EPSState`. -/
structure EpsState where
  busVoltage : FloatValue := literal 141 5
  payloadMode : Int := 0
  fpaCoolerOn : Bool := false
  transponderTx : Bool := true
  saAEnabled : Bool := true
  saBEnabled : Bool := true
  powerLines : PowerLine → Bool := PowerLine.defaultOn
  ocTripFlags : Nat := 0
  ocInject : Dict PowerLine FloatValue := Dict.empty
  wingPyDeployed : Bool := false
  wingMyDeployed : Bool := false
  wingPyDeploying : Bool := false
  wingMyDeploying : Bool := false
  wingDeployTimer : FloatValue := literal 0
  wingDeployTarget : String := ""
  loadShedStage : Int := 0
  shedLines : List PowerLine := []
  chargeRateOverrideA : FloatValue := literal 0
  solarArrayDriveAngle : FloatValue := literal 0
  batteryHeaterOn : Bool := true
  batteryHeaterSetpointC : FloatValue := literal 10
  epsMode : Int := 0
  prevMode : Int := 0

/-- A program on the model. -/
abbrev EpsProgram (α : Type) := EStateM PyError EpsState α

/-- `configure(config)` of a new model. -/
def configure (c : EpsConfig) : EpsState := { powerLines := c.powerLines }

/-- `power_lines[line] = on`. -/
def EpsState.setLine (l : PowerLine) (on : Bool) (s : EpsState) : EpsState :=
  { s with powerLines := Function.update s.powerLines l on }

/-- A line is tripped. -/
def EpsState.Tripped (s : EpsState) (l : PowerLine) : Prop := s.ocTripFlags.testBit l.index = true

instance (s : EpsState) (l : PowerLine) : Decidable (s.Tripped l) :=
  inferInstanceAs (Decidable (_ = _))

/-- `oc_trip_flags &= ~(1 << index)`. -/
def EpsState.clearTrip (l : PowerLine) (s : EpsState) : EpsState :=
  { s with ocTripFlags := Nat.ldiff s.ocTripFlags (1 <<< l.index) }

/-- What goes off with a line. -/
def EpsState.unload (l : PowerLine) (s : EpsState) : EpsState :=
  match l with
  | .payload => { s with payloadMode := 0 }
  | .fpaCooler => { s with fpaCoolerOn := false }
  | .ttcTx => { s with transponderTx := false }
  | _ => s

/-- What comes back with a line. -/
def EpsState.reload (l : PowerLine) (s : EpsState) : EpsState :=
  if l = .ttcTx then { s with transponderTx := true } else s

/-! ### Ticks -/

/-- What a tick takes from outside: its length, what the loads of a line draw while it is on, the
bus voltage after the power balance, and the angle of the drive while it tracks the sun. -/
structure PowerFound where
  dt : FloatValue
  draw : PowerLine → FloatValue
  busVoltage : FloatValue
  driveAngle : Option FloatValue := none

/-- The wings deploy. -/
def EpsState.deployWings (dt : FloatValue) (s : EpsState) : EpsState :=
  if s.wingPyDeploying || s.wingMyDeploying then
    let timer := s.wingDeployTimer.sub dt
    if timer.le (literal 0) then
      { s with
        wingDeployTimer := literal 0
        wingPyDeployed := s.wingPyDeployed || s.wingPyDeploying
        wingPyDeploying := false
        wingMyDeployed := s.wingMyDeployed || s.wingMyDeploying
        wingMyDeploying := false }
    else { s with wingDeployTimer := timer }
  else s

/-- The power of a line, with the injected factor. -/
def EpsState.linePower (found : PowerFound) (s : EpsState) (l : PowerLine) : FloatValue :=
  let power := if l.switchable && !s.powerLines l then literal 0 else found.draw l
  (s.ocInject.get? l).elim power power.mul

variable (c : EpsConfig)

/-- The current of a line is over its threshold. -/
def EpsState.overcurrent (found : PowerFound) (s : EpsState) (l : PowerLine) : Bool :=
  l.switchable &&
    (c.ocThresholds l).lt ((s.linePower found l).div (maxFloat s.busVoltage (literal 20)))

/-- A line trips. -/
def EpsState.trip (s : EpsState) (l : PowerLine) : EpsState :=
  EpsState.unload l
    { s.setLine l false with ocTripFlags := s.ocTripFlags ||| (1 <<< l.index) }

/-- The lines that trip in a tick. -/
def EpsState.trips (found : PowerFound) (s : EpsState) : List PowerLine :=
  PowerLine.all.filter (s.overcurrent c found)

/-- The overcurrent check of a tick. -/
def EpsState.tripOver (found : PowerFound) (s : EpsState) : EpsState :=
  (s.trips c found).foldl EpsState.trip s

/-- The first line of the shed order that is on. -/
def EpsState.nextShed (s : EpsState) : Option PowerLine :=
  (c.shedOrder.filterMap id).find? s.powerLines

/-- The line that the shedder takes off: below the shed voltage, the next. -/
def EpsState.shedding (s : EpsState) : Option PowerLine :=
  if s.busVoltage.lt c.shedVoltage then s.nextShed c else none

/-- The entry that the auto-restore takes from the list: well above the shed voltage, the last. -/
def EpsState.restoring (s : EpsState) : Option PowerLine :=
  if s.busVoltage.lt c.shedVoltage then none
  else if c.shedAutoRestore && (c.shedVoltage.add c.shedHysteresisV).lt s.busVoltage then
    s.shedLines.getLast?
  else none

/-- A line is shed. -/
def EpsState.shed (l : PowerLine) (s : EpsState) : EpsState :=
  EpsState.unload l { s.setLine l false with shedLines := s.shedLines ++ [l] }

/-- An entry is taken from the list, and its line is on again. -/
def EpsState.restore (l : PowerLine) (s : EpsState) : EpsState :=
  let s := { s with shedLines := s.shedLines.dropLast }
  if s.powerLines l then s else (s.setLine l true).reload l

/-- The load shedding of a tick. -/
def EpsState.shedOrRestore (s : EpsState) : EpsState :=
  match s.shedding c with
  | some l => s.shed l
  | none =>
      match s.restoring c with
      | some l => s.restore l
      | none => s

/-- The stage that a tick reports. -/
def EpsState.countStage (s : EpsState) : EpsState :=
  { s with
    loadShedStage :=
      if s.busVoltage.lt c.shedVoltage then
        min 3 (c.shedOrder.countP fun l => !(l.elim false s.powerLines))
      else 0 }

/-- How many loads a change of the mode takes off. -/
def EpsState.safingDepth (s : EpsState) : Nat := if 2 ≤ s.epsMode then c.shedOrder.length else 2

/-- The mode has changed to safe or emergency. -/
def EpsState.Safing (s : EpsState) : Prop := s.epsMode ≠ s.prevMode ∧ 1 ≤ s.epsMode

instance (s : EpsState) : Decidable s.Safing := inferInstanceAs (Decidable (_ ∧ _))

/-- The lines that a change of the mode takes off. -/
def EpsState.safed (s : EpsState) : List PowerLine :=
  if s.Safing then (c.shedOrder.take (s.safingDepth c)).filterMap id else []

/-- A change of the mode. -/
def EpsState.safe (s : EpsState) : EpsState :=
  let s' := (s.safed c).foldl (fun s l => s.setLine l false) s
  { s' with
    loadShedStage := if s.Safing then max s.loadShedStage (s.safingDepth c) else s.loadShedStage
    prevMode := s.epsMode }

/-- The power balance of a tick. -/
def EpsState.balance (found : PowerFound) (s : EpsState) : EpsState :=
  { s with busVoltage := found.busVoltage }

/-- What a tick does before it looks at the lines. -/
def EpsState.drive (found : PowerFound) (s : EpsState) : EpsState :=
  { s.deployWings found.dt with
    solarArrayDriveAngle := found.driveAngle.getD s.solarArrayDriveAngle }

/-- `tick(dt, orbit_state, shared_params)`. -/
def tick (found : PowerFound) (s : EpsState) : EpsState :=
  ((((s.drive found).tripOver c found).balance found).shedOrRestore c).countStage c |>.safe c

/-! ### Commands -/

/-- What a command answers. -/
inductive Reply where
  | done
  | refused (errorCode : Option Nat := none)
  deriving DecidableEq, Repr

/-- The command is reported as failed. -/
def Reply.Refuses (r : Reply) : Prop := r ≠ .done

section Commands

variable {V : Type} [Object V]

/-- Write to the state. -/
def write (f : EpsState → EpsState) : EpsProgram Reply := do
  modify f
  pure .done

/-- `mode in (0, 1, 2)`, for the payload and for the subsystem. -/
def setModeOf (cmd : Arguments V) (put : Int → EpsState → EpsState) : EpsProgram Reply := do
  let mode ← fromExcept (cmd.int "mode" 0)
  if mode ∈ [0, 1, 2] then write (put mode) else pure .refused

/-- `set_fpa_cooler`. -/
def setFpaCooler (cmd : Arguments V) : EpsProgram Reply :=
  let on := cmd.bool "on" false
  write fun s => { s with fpaCoolerOn := on }.setLine .fpaCooler on

/-- `enable_array` and `disable_array`. -/
def setArray (cmd : Arguments V) (enabled : Bool) : EpsProgram Reply :=
  let arr := (cmd.get? "array").elim (some "A") Object.asText
  write fun s =>
    if arr = some "A" then { s with saAEnabled := enabled }
    else if arr = some "B" then { s with saBEnabled := enabled }
    else s

/-- The line of `line_index`, where it is an index. -/
def indexedLine (cmd : Arguments V) : Option PowerLine :=
  ((cmd.get? "line_index").bind Object.asInt).bind PowerLine.ofIndex

/-- The line of `line_index`, or of `line_name`. -/
def namedLine (cmd : Arguments V) : Option PowerLine :=
  (indexedLine cmd).or (((cmd.get? "line_name").bind Object.asText).bind PowerLine.ofName)

/-- `_set_power_line(cmd, on)`. -/
def setPowerLine (cmd : Arguments V) (on : Bool) : EpsProgram Reply :=
  match namedLine cmd with
  | none => pure (.refused (some 0x0005))
  | some l =>
      if l.switchable then
        write fun s => if on then (s.setLine l true).reload l else (s.setLine l false).unload l
      else pure (.refused (some 0x0006))

/-- `_reset_oc_flag(cmd)`. -/
def resetOcFlag (cmd : Arguments V) : EpsProgram Reply :=
  match indexedLine cmd with
  | none => pure .refused
  | some l => do
      let s ← get
      if s.Tripped l then
        write fun s => if l.switchable then (s.clearTrip l).setLine l true else s.clearTrip l
      else pure .refused

/-- `reset_trip`. -/
def resetTrip (cmd : Arguments V) : EpsProgram Reply :=
  match indexedLine cmd with
  | none => pure .refused
  | some l => write fun s => (s.clearTrip l).setLine l true

/-- The line of `load_id`.  What is neither an integer nor out of range is no index of a list. -/
def loadLine (cmd : Arguments V) : Except PyError (Option PowerLine) :=
  match cmd.get? "load_id" with
  | none => .ok (PowerLine.ofIndex 0)
  | some v =>
      match Object.asInt v with
      | some n => .ok (PowerLine.ofIndex n)
      | none =>
          match Object.asFloat v with
          | some x =>
              if x.lt (literal 0) || (literal 9).le x then .ok none else .error .typeError
          | none => .error .typeError

/-- `_switch_load(load_id, state)`. -/
def switchLoad (cmd : Arguments V) : EpsProgram Reply := do
  let on := cmd.bool "state" false
  let load ← fromExcept (loadLine cmd)
  match load with
  | none => pure (.refused (some 0x0005))
  | some l =>
      if l.switchable then write (EpsState.setLine l on) else pure (.refused (some 0x0006))

/-- `set_charge_rate`. -/
def setChargeRate (cmd : Arguments V) : EpsProgram Reply := do
  let rate ← fromExcept (cmd.float "rate_a" (literal 0))
  write fun s => { s with chargeRateOverrideA := rate }

/-- `set_solar_array_drive`. -/
def setSolarArrayDrive (cmd : Arguments V) : EpsProgram Reply := do
  let angle ← fromExcept (cmd.float "angle_deg" (literal 0))
  write fun s => { s with
    solarArrayDriveAngle := maxFloat (literal 90).neg (minFloat (literal 90) angle) }

/-- What `_emergency_load_shed(stage)` writes to the lines: of its order the first go off, and the
others on. -/
def emergencyLines (stage : Int) : List (PowerLine × Bool) :=
  loadShedOrder.zipIdx.map fun entry => (entry.1, !decide ((entry.2 : Int) + 1 ≤ stage))

/-- `_emergency_load_shed(stage)`. -/
def emergencyLoadShed (cmd : Arguments V) : EpsProgram Reply := do
  let stage ← fromExcept (cmd.int "stage" 1)
  if stage < 0 ∨ 3 < stage then pure .refused
  else write fun s =>
    { (emergencyLines stage).foldl (fun s entry => s.setLine entry.1 entry.2) s with
      loadShedStage := stage }

/-- `bus_isolate`. -/
def busIsolate (cmd : Arguments V) : EpsProgram Reply := do
  let _ ← fromExcept (cmd.int "bus_id" 0)
  pure .done

/-- `set_battery_heater`. -/
def setBatteryHeater (cmd : Arguments V) : EpsProgram Reply := do
  let on := cmd.bool "on" true
  let setpoint ← fromExcept (cmd.float "setpoint_c" (literal 10))
  write fun s => { s with batteryHeaterOn := on, batteryHeaterSetpointC := setpoint }

/-- A deployment of the +Y wing starts. -/
def EpsState.startPy (s : EpsState) : EpsState := { s with wingPyDeploying := true }

/-- A deployment of the -Y wing starts. -/
def EpsState.startMy (s : EpsState) : EpsState := { s with wingMyDeploying := true }

/-- `_deploy_wing(cmd)`. -/
def deployWing (cmd : Arguments V) : EpsProgram Reply := do
  let wing ← fromExcept ((cmd.get? "wing").elim (.ok "") Object.lower)
  let s ← get
  let timed (s : EpsState) : EpsState := { s with wingDeployTimer := c.wingDeployTimeS }
  let pyIdle := !s.wingPyDeployed && !s.wingPyDeploying
  let myIdle := !s.wingMyDeployed && !s.wingMyDeploying
  if wing = "py" ∨ wing = "+y" then
    if pyIdle then write fun s => { timed s.startPy with wingDeployTarget := "py" } else pure .refused
  else if wing = "my" ∨ wing = "-y" then
    if myIdle then write fun s => { timed s.startMy with wingDeployTarget := "my" } else pure .refused
  else if wing = "both" then
    if pyIdle || myIdle then
      write fun s =>
        let s := if pyIdle then s.startPy else s
        let s := if myIdle then s.startMy else s
        timed s
    else pure .refused
  else pure .refused

/-- The commands of `handle_command`. -/
inductive EpsCommand where
  | setPayloadMode | setFpaCooler | setTransponderTx | disableArray | enableArray
  | powerLineOn | powerLineOff | resetOcFlag | switchLoad | setChargeRate | setSolarArrayDrive
  | emergencyLoadShed | busIsolate | setBatteryHeater | resetTrip | getPowerBudget | setEpsMode
  | deployWing | getWingStatus
  deriving DecidableEq, Repr

/-- The names of the commands. -/
def commandNames : List (String × EpsCommand) :=
  [("set_payload_mode", .setPayloadMode), ("set_fpa_cooler", .setFpaCooler),
    ("set_transponder_tx", .setTransponderTx), ("disable_array", .disableArray),
    ("enable_array", .enableArray), ("power_line_on", .powerLineOn),
    ("power_line_off", .powerLineOff), ("reset_oc_flag", .resetOcFlag),
    ("switch_load", .switchLoad), ("set_charge_rate", .setChargeRate),
    ("set_solar_array_drive", .setSolarArrayDrive), ("emergency_load_shed", .emergencyLoadShed),
    ("bus_isolate", .busIsolate), ("set_battery_heater", .setBatteryHeater),
    ("reset_trip", .resetTrip), ("get_power_budget", .getPowerBudget),
    ("set_eps_mode", .setEpsMode), ("deploy_wing", .deployWing),
    ("get_wing_status", .getWingStatus)]

/-- The command of a dictionary, if it names one. -/
def commandOf (cmd : Arguments V) : Option EpsCommand :=
  cmd.command.bind fun name => commandNames.lookup name

/-- A command with its arguments. -/
def perform (cmd : Arguments V) : EpsCommand → EpsProgram Reply
  | .setPayloadMode => setModeOf cmd fun mode s => { s with payloadMode := mode }
  | .setFpaCooler => setFpaCooler cmd
  | .setTransponderTx => write fun s => { s with transponderTx := cmd.bool "on" true }
  | .disableArray => setArray cmd false
  | .enableArray => setArray cmd true
  | .powerLineOn => setPowerLine cmd true
  | .powerLineOff => setPowerLine cmd false
  | .resetOcFlag => resetOcFlag cmd
  | .switchLoad => switchLoad cmd
  | .setChargeRate => setChargeRate cmd
  | .setSolarArrayDrive => setSolarArrayDrive cmd
  | .emergencyLoadShed => emergencyLoadShed cmd
  | .busIsolate => busIsolate cmd
  | .setBatteryHeater => setBatteryHeater cmd
  | .resetTrip => resetTrip cmd
  | .getPowerBudget => pure .done
  | .setEpsMode => setModeOf cmd fun mode s => { s with epsMode := mode }
  | .deployWing => deployWing c cmd
  | .getWingStatus => pure .done

/-- `handle_command(cmd)`. -/
def handleCommand (cmd : Arguments V) : EpsProgram Reply :=
  match commandOf cmd with
  | some name => perform c cmd name
  | none => pure .refused

/-! ### Failures and runs -/

/-- The failures of the model.  `other` is one that changes nothing of what is modelled. -/
inductive EpsFailure (V : Type) where
  | overcurrent (lineIndex : Option V)
  | other

/-- The line of a failure; without an index, the payload. -/
def failedLine (lineIndex : Option V) : Option PowerLine :=
  (lineIndex.elim (some 3) Object.asInt).bind PowerLine.ofIndex

/-- `inject_failure(failure, magnitude)`. -/
def injectFailure (magnitude : FloatValue) (s : EpsState) : EpsFailure V → EpsState
  | .overcurrent lineIndex =>
      (failedLine lineIndex).elim s fun l => { s with ocInject := s.ocInject.set l magnitude }
  | .other => s

/-- `clear_failure(failure)`. -/
def clearFailure (s : EpsState) : EpsFailure V → EpsState
  | .overcurrent lineIndex =>
      (failedLine lineIndex).elim s fun l => { s with ocInject := s.ocInject.erase l }
  | .other => s

/-- What happens to the model. -/
inductive EpsEvent (V : Type) where
  | command (cmd : Arguments V)
  | inject (failure : EpsFailure V) (magnitude : FloatValue)
  | clear (failure : EpsFailure V)
  | tick (found : PowerFound)

/-- The state after an event, also one that raises. -/
def step (s : EpsState) : EpsEvent V → EpsState
  | .command cmd => finalState (handleCommand c cmd) s
  | .inject failure magnitude => injectFailure magnitude s failure
  | .clear failure => clearFailure s failure
  | .tick found => tick c found s

end Commands

end Eps
