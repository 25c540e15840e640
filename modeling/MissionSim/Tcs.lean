import MissionSim.Effects
import MissionSim.Objects
import Mathlib.Logic.Function.Basic

/-!
# The thermal control subsystem

Three heater circuits: battery, on-board computer and thruster.  A tick sets each from its power
line, its flags and its thermostat, adds its power to its node, and then enforces the duty limits.

The attributes of the circuits are found by name, and the name comes from the command: a circuit
that does not exist gets attributes of its own.

The panels, the detector, the conduction between the nodes and their time constants are left out; a
tick takes from outside what they make of the temperature of a node.  So are drifting sensors,
events, published parameters, and the texts and the values of replies.
-/

namespace Tcs

open Binary32 Python Effects

/-! ### Attributes -/

/-- The heater circuits. -/
inductive Circuit where
  | battery | obc | thruster
  deriving DecidableEq, Repr

namespace Circuit

/-- `circuits`, in the order of their indices. -/
def all : List Circuit := [.battery, .obc, .thruster]

def name : Circuit → String
  | battery => "battery" | obc => "obc" | thruster => "thruster"

/-- The circuit of a name. -/
def ofName (text : String) : Option Circuit := all.find? fun c => c.name = text

/-- The circuit of an index, if `0 <= index < len(circuits)`. -/
def ofIndex (i : Int) : Option Circuit := if 0 ≤ i then all[i.toNat]? else none

end Circuit

/-- An attribute of a circuit.  A truth value counts as 0 or 1. -/
inductive Attribute where
  | flag (b : Bool)
  | number (x : FloatValue)
  deriving DecidableEq

/-- `bool(attribute)`. -/
def Attribute.truthy : Attribute → Bool
  | .flag b => b
  | .number x => Python.truthy x

/-- The number an attribute is compared as. -/
def Attribute.toNumber : Attribute → FloatValue
  | .flag b => if b then literal 1 else literal 0
  | .number x => x

/-- `f"htr_{circuit}{suffix}"`. -/
def attr (circuit suffix : String) : String := "htr_" ++ circuit ++ suffix

/-- `f"htr_duty_{circuit}"`. -/
def dutyAttr (circuit : String) : String := "htr_duty_" ++ circuit

/-- The attributes of a circuit at power-up. -/
def initialAttributes (circuit : String) (manual : Bool) (on off : FloatValue)
    (d : Dict String Attribute) : Dict String Attribute :=
  (((((((((d.set (attr circuit "") (.flag false)).set (attr circuit "_failed") (.flag false)).set
    (attr circuit "_manual") (.flag manual)).set (attr circuit "_stuck_on") (.flag false)).set
    (attr circuit "_open_circuit") (.flag false)).set (dutyAttr circuit) (.number (literal 0))).set
    (attr circuit "_setpoint_on_c") (.number on)).set
    (attr circuit "_setpoint_off_c") (.number off)).set
    (attr circuit "_duty_limit_pct") (.number (literal 100)))

/-- The attributes at power-up. -/
def defaultAttributes : Dict String Attribute :=
  initialAttributes "thruster" true (literal 190) (literal 230)
    (initialAttributes "obc" false (literal 5) (literal 10)
      (initialAttributes "battery" false (literal 5) (literal 10) Dict.empty))

/-- What the model reads of the configuration. -/
structure TcsConfig where
  heaterPower : Circuit → FloatValue
  fpaSetpointMin : FloatValue
  fpaSetpointMax : FloatValue
  fpaSetpointDefault : FloatValue

/-- What is modelled of `TCSState`, and of the attributes of the model beside it.  `thermostat` is
`_THERMOSTAT`, its entries off and on; a target is missing while it is the default. -/
structure TcsState (V : Type) where
  attributes : Dict String Attribute := defaultAttributes
  temp : Circuit → FloatValue := fun _ => literal 15
  onAccum : Circuit → FloatValue := fun _ => literal 0
  totalPowerW : FloatValue := literal 0
  coolerFpa : Bool := false
  coolerFpaActive : Bool := false
  coolerFailed : Bool := false
  obcInternalHeatW : FloatValue := literal 0
  decontaminationActive : Bool := false
  decontamStartTime : FloatValue := literal 0
  decontamFpaTargetC : Option V := none
  fpaCoolerTarget : FloatValue := (literal 5).neg
  thermostat : Dict String (FloatValue × FloatValue) :=
    ((Dict.empty.set "battery" (literal 5, literal 1)).set "obc" (literal 10, literal 5)).set
      "thruster" (literal 230, literal 190)

variable {V : Type}

/-- A program on the model. -/
abbrev TcsProgram (V α : Type) := EStateM PyError (TcsState V) α

/-- `bool(getattr(s, f"htr_{circuit}{suffix}", False))`. -/
def TcsState.flag (s : TcsState V) (circuit suffix : String) : Bool :=
  (s.attributes.get? (attr circuit suffix)).elim false Attribute.truthy

/-- `getattr(s, name, default)`, as a number. -/
def TcsState.number (s : TcsState V) (name : String) (default : FloatValue) : FloatValue :=
  (s.attributes.get? name).elim default Attribute.toNumber

/-- `setattr(s, name, value)`. -/
def TcsState.setAttr (name : String) (value : Attribute) (s : TcsState V) : TcsState V :=
  { s with attributes := s.attributes.set name value }

/-- `setattr(s, f"htr_{circuit}", on)`. -/
def TcsState.setHeater (c : Circuit) (on : Bool) (s : TcsState V) : TcsState V :=
  s.setAttr (attr c.name "") (.flag on)

/-- `s.htr_{circuit}`. -/
def TcsState.heater (s : TcsState V) (c : Circuit) : Bool := s.flag c.name ""

/-- The duty of a circuit that was measured last. -/
def TcsState.duty (s : TcsState V) (c : Circuit) : FloatValue :=
  s.number (dutyAttr c.name) (literal 0)

/-- The commanded duty limit of a circuit. -/
def TcsState.dutyLimit (s : TcsState V) (c : Circuit) : FloatValue :=
  s.number (attr c.name "_duty_limit_pct") (literal 100)

/-! ### Ticks -/

/-- What a tick takes from outside: its length, the power lines, what conduction makes of the
temperatures, and the temperature that a node has afterwards with the power of its heater. -/
structure ThermalFound where
  dt : FloatValue
  line : Circuit → Bool
  fpaLine : Bool := true
  coupled : (Circuit → FloatValue) → Circuit → FloatValue
  settled : Circuit → FloatValue → FloatValue → FloatValue

variable (k : TcsConfig) (found : ThermalFound)

/-- `_thermostat_control(circuit, temp)`. -/
def TcsState.thermostatControl (c : Circuit) (s : TcsState V) : TcsState V :=
  if s.flag c.name "_stuck_on" then s.setHeater c true
  else if s.flag c.name "_manual" then s
  else if s.flag c.name "_failed" then s.setHeater c false
  else
    let band := (s.thermostat.get? c.name).getD (literal 0, literal 0)
    let lo := s.number (attr c.name "_setpoint_on_c") band.2
    let hi := s.number (attr c.name "_setpoint_off_c") band.1
    if (s.temp c).le lo then s.setHeater c true
    else if hi.le (s.temp c) then s.setHeater c false
    else s

/-- A heater that is stuck on. -/
def TcsState.stick (c : Circuit) (s : TcsState V) : TcsState V :=
  if s.flag c.name "_stuck_on" then s.setHeater c true else s

/-- The control of the battery heater. -/
def TcsState.controlBattery (s : TcsState V) : TcsState V :=
  (if found.line .battery then s.thermostatControl .battery
    else s.setHeater .battery false).stick .battery

/-- The control of the heater of the on-board computer. -/
def TcsState.controlObc (s : TcsState V) : TcsState V :=
  if s.flag "obc" "_manual" then s.setHeater .obc (s.heater .obc && found.line .obc)
  else s.setHeater .obc (found.line .obc)

/-- The control of the thruster heater. -/
def TcsState.controlThruster (s : TcsState V) : TcsState V :=
  (if !found.line .thruster then s.setHeater .thruster false
    else if !s.flag "thruster" "_manual" then s.thermostatControl .thruster
    else s).stick .thruster

/-- The control of a heater. -/
def TcsState.control : Circuit → TcsState V → TcsState V
  | .battery => TcsState.controlBattery found
  | .obc => TcsState.controlObc found
  | .thruster => TcsState.controlThruster found

/-- A heater gives heat: it is on, and its circuit is not open. -/
def TcsState.gives (c : Circuit) (s : TcsState V) : Bool :=
  s.heater c && !s.flag c.name "_open_circuit"

/-- The power of a heater is added to its node. -/
def TcsState.warm (c : Circuit) (s : TcsState V) : TcsState V :=
  let power := if s.gives c then k.heaterPower c else literal 0
  { s with temp := Function.update s.temp c (found.settled c (s.temp c) power) }

/-- Conduction between the nodes. -/
def TcsState.couple (s : TcsState V) : TcsState V := { s with temp := found.coupled s.temp }

/-- The cooler of the detector. -/
def TcsState.cool (s : TcsState V) : TcsState V :=
  { s with coolerFpaActive := s.coolerFpa && found.fpaLine && !s.coolerFailed }

/-- A circuit whose duty has reached its limit goes off. -/
def TcsState.limitDuty (s : TcsState V) (c : Circuit) : TcsState V :=
  if (s.dutyLimit c).lt (literal 100) && (s.dutyLimit c).le (s.duty c) then s.setHeater c false
  else s

/-- The time that a heater was on decays, and gives its duty. -/
def TcsState.trackDuty (s : TcsState V) (c : Circuit) : TcsState V :=
  let window := literal 600
  let accum := if s.heater c then (s.onAccum c).add found.dt else s.onAccum c
  let accum := accum.mul ((literal 1).sub (found.dt.div window))
  { s with onAccum := Function.update s.onAccum c accum }.setAttr (dutyAttr c.name)
    (.number (minFloat (literal 100) ((accum.div window).mul (literal 100))))

/-- The power of the heaters that are on. -/
def TcsState.sumPower (s : TcsState V) : TcsState V :=
  { s with totalPowerW :=
      (Circuit.all.filter s.heater).foldl (fun sum c => sum.add (k.heaterPower c)) (literal 0) }

/-- The battery heater is set. -/
def TcsState.atBattery (s : TcsState V) : TcsState V := (s.couple found).control found .battery

/-- The heater of the on-board computer is set. -/
def TcsState.atObc (s : TcsState V) : TcsState V :=
  ((s.atBattery found).warm k found .battery).control found .obc

/-- The thruster heater is set. -/
def TcsState.atThruster (s : TcsState V) : TcsState V :=
  (((s.atObc k found).warm k found .obc).cool found).control found .thruster

/-- The state of a tick in which the power of a heater is added. -/
def TcsState.heating (s : TcsState V) : Circuit → TcsState V
  | .battery => s.atBattery found
  | .obc => s.atObc k found
  | .thruster => s.atThruster k found

/-- The heaters are set, and their power is added. -/
def TcsState.heated (s : TcsState V) : TcsState V := (s.atThruster k found).warm k found .thruster

/-- `tick(dt, orbit_state, shared_params)`. -/
def tick (s : TcsState V) : TcsState V :=
  (Circuit.all.foldl (TcsState.trackDuty found)
    (Circuit.all.foldl TcsState.limitDuty (s.heated k found))).sumPower k

/-! ### Commands -/

/-- What a command answers. -/
inductive Reply where
  | done
  | refused (errorCode : Option Nat := none)
  deriving DecidableEq, Repr

/-- The command is reported as failed. -/
def Reply.Refuses (r : Reply) : Prop := r ≠ .done

variable [Object V]

/-- Write to the state. -/
def write (f : TcsState V → TcsState V) : TcsProgram V Reply := do
  modify f
  pure .done

/-- The name that `circuit` is formatted to. -/
def circuitText (circuit : Option V) : String := circuit.elim "battery" Object.str

/-- `line_param` is found, and the engine has its line off.  `lines` is missing without an
engine. -/
def lineDark (lines : Option (Circuit → Bool)) (circuit : Option V) : Bool :=
  match lines, (circuit.elim (some "battery") Object.asText).bind Circuit.ofName with
  | some line, some c => !line c
  | _, _ => false

/-- `heater`. -/
def setHeaterCommand (lines : Option (Circuit → Bool)) (cmd : Arguments V) : TcsProgram V Reply := do
  let circuit := cmd.get? "circuit"
  let name := circuitText circuit
  let on := cmd.bool "on" true
  let s ← get
  if s.flag name "_stuck_on" then pure .refused
  else if s.flag name "_failed" && on then pure .refused
  else if on && !(circuit.elim true Object.hashable) then throw .typeError
  else if on && lineDark lines circuit then pure (.refused (some 0x0004))
  else write fun s =>
    (s.setAttr (attr name "") (.flag on)).setAttr (attr name "_manual") (.flag true)

/-- The circuit of an index or of a name. -/
def circuitArg (cmd : Arguments V) : Option Circuit :=
  match cmd.get? "circuit" with
  | none => Circuit.ofIndex 0
  | some v => ((Object.asInt v).bind Circuit.ofIndex).or ((Object.asText v).bind Circuit.ofName)

/-- An argument that is there, and not `None`. -/
def presentArg (cmd : Arguments V) (key : String) : Option V :=
  (cmd.get? key).filter fun v => !Object.isNone v

/-- `set_setpoint`. -/
def setSetpoint (cmd : Arguments V) : TcsProgram V Reply :=
  match circuitArg cmd with
  | none => pure .refused
  | some c =>
      match presentArg cmd "on_temp", presentArg cmd "off_temp" with
      | some onTemp, some offTemp => do
          let off ← fromExcept (Object.toFloat offTemp)
          let on ← fromExcept (Object.toFloat onTemp)
          write fun s =>
            ({ s with thermostat := s.thermostat.set c.name (off, on) }.setAttr
              (attr c.name "_setpoint_on_c") (.number on)).setAttr
              (attr c.name "_setpoint_off_c") (.number off)
      | _, _ => pure .refused

/-- `auto_mode`. -/
def autoMode (cmd : Arguments V) : TcsProgram V Reply :=
  match circuitArg cmd with
  | none => pure .refused
  | some c => write (TcsState.setAttr (attr c.name "_manual") (.flag false))

/-- `fpa_cooler`. -/
def setFpaCooler (cmd : Arguments V) : TcsProgram V Reply := do
  let on := cmd.bool "on" true
  let s ← get
  if s.coolerFailed && on then pure .refused
  else write fun s => { s with coolerFpa := on }

/-- `set_fpa_setpoint`. -/
def setFpaSetpoint (cmd : Arguments V) : TcsProgram V Reply := do
  let setpoint ← fromExcept (cmd.float "setpoint_c" k.fpaSetpointDefault)
  if k.fpaSetpointMin.le setpoint && setpoint.le k.fpaSetpointMax then
    write fun s => { s with fpaCoolerTarget := setpoint }
  else pure (.refused (some 0x0003))

/-- The name of a circuit that an index or any object gives. -/
def limitedCircuit (cmd : Arguments V) : String :=
  match cmd.get? "circuit" with
  | none => "battery"
  | some v =>
      match (Object.asInt v).bind Circuit.ofIndex with
      | some c => c.name
      | none => Object.str v

/-- `set_heater_duty_limit`. -/
def setHeaterDutyLimit (cmd : Arguments V) : TcsProgram V Reply := do
  let name := limitedCircuit cmd
  let duty ← fromExcept (cmd.float "duty_limit_pct" (literal 100))
  let limit := maxFloat (literal 0) (minFloat (literal 100) duty)
  write (TcsState.setAttr (attr name "_duty_limit_pct") (.number limit))

/-- `decontamination_start`. -/
def decontaminationStart (cmd : Arguments V) : TcsProgram V Reply :=
  write fun s => { s with
    decontaminationActive := true
    decontamStartTime := literal 0
    decontamFpaTargetC := cmd.get? "target_temp_c" }

/-- The commands of `handle_command`. -/
inductive TcsCommand where
  | heater | setSetpoint | autoMode | fpaCooler | setFpaSetpoint | setHeaterDutyLimit
  | decontaminationStart | decontaminationStop | getThermalMap
  deriving DecidableEq, Repr

/-- The names of the commands. -/
def commandNames : List (String × TcsCommand) :=
  [("heater", .heater), ("set_setpoint", .setSetpoint), ("auto_mode", .autoMode),
    ("fpa_cooler", .fpaCooler), ("set_fpa_setpoint", .setFpaSetpoint),
    ("set_heater_duty_limit", .setHeaterDutyLimit),
    ("decontamination_start", .decontaminationStart),
    ("decontamination_stop", .decontaminationStop), ("get_thermal_map", .getThermalMap)]

/-- The command of a dictionary, if it names one. -/
def commandOf (cmd : Arguments V) : Option TcsCommand :=
  cmd.command.bind fun name => commandNames.lookup name

/-- A command with its arguments. -/
def perform (lines : Option (Circuit → Bool)) (cmd : Arguments V) : TcsCommand → TcsProgram V Reply
  | .heater => setHeaterCommand lines cmd
  | .setSetpoint => setSetpoint cmd
  | .autoMode => autoMode cmd
  | .fpaCooler => setFpaCooler cmd
  | .setFpaSetpoint => setFpaSetpoint k cmd
  | .setHeaterDutyLimit => setHeaterDutyLimit cmd
  | .decontaminationStart => decontaminationStart cmd
  | .decontaminationStop => write fun s => { s with decontaminationActive := false }
  | .getThermalMap => pure .done

/-- `handle_command(cmd)`, with the power lines that the engine shows, if there is one. -/
def handleCommand (lines : Option (Circuit → Bool)) (cmd : Arguments V) : TcsProgram V Reply :=
  match commandOf cmd with
  | some name => perform k lines cmd name
  | none => pure .refused

/-! ### Failures and runs -/

/-- The failures of the model; `magnitude` is whether it is not zero.  `other` is one that changes
nothing of what is modelled. -/
inductive TcsFailure (V : Type) where
  | heaterFailure (circuit : Option V) (magnitude : Bool)
  | coolerFailure (magnitude : Bool)
  | obcThermal (heatW : Option V)
  | heaterStuckOn (circuit : Option V)
  | heaterOpenCircuit (circuit : Option V)
  | tempAnomaly (zone : Circuit) (offsetC : FloatValue)
  | other

/-- `inject_failure(failure)`. -/
def injectFailure : TcsFailure V → TcsProgram V Unit
  | .heaterFailure circuit magnitude => do
      modify (TcsState.setAttr (attr (circuitText circuit) "_failed") (.flag magnitude))
      when magnitude (modify (TcsState.setAttr (attr (circuitText circuit) "") (.flag false)))
  | .coolerFailure magnitude =>
      modify fun s => { s with
        coolerFailed := magnitude, coolerFpa := if magnitude then false else s.coolerFpa }
  | .obcThermal heatW =>
      store (heatW.elim (.ok (literal 30)) Object.toFloat) fun x s =>
        { s with obcInternalHeatW := x }
  | .heaterStuckOn circuit =>
      modify fun s => (s.setAttr (attr (circuitText circuit) "_stuck_on") (.flag true)).setAttr
        (attr (circuitText circuit) "") (.flag true)
  | .heaterOpenCircuit circuit =>
      modify (TcsState.setAttr (attr (circuitText circuit) "_open_circuit") (.flag true))
  | .tempAnomaly zone offsetC =>
      modify fun s => { s with temp := Function.update s.temp zone ((s.temp zone).add offsetC) }
  | .other => pure ()

/-- `clear_failure(failure)`. -/
def clearFailure : TcsFailure V → TcsProgram V Unit
  | .heaterFailure circuit _ =>
      modify (TcsState.setAttr (attr (circuitText circuit) "_failed") (.flag false))
  | .coolerFailure _ => modify fun s => { s with coolerFailed := false }
  | .obcThermal _ => modify fun s => { s with obcInternalHeatW := literal 0 }
  | .heaterStuckOn circuit =>
      modify (TcsState.setAttr (attr (circuitText circuit) "_stuck_on") (.flag false))
  | .heaterOpenCircuit circuit =>
      modify (TcsState.setAttr (attr (circuitText circuit) "_open_circuit") (.flag false))
  | .tempAnomaly _ _ => pure ()
  | .other => pure ()

/-- What happens to the model. -/
inductive TcsEvent (V : Type) where
  | command (lines : Option (Circuit → Bool)) (cmd : Arguments V)
  | inject (failure : TcsFailure V)
  | clear (failure : TcsFailure V)
  | tick (found : ThermalFound)

/-- The state after an event, also one that raises. -/
def step (s : TcsState V) : TcsEvent V → TcsState V
  | .command lines cmd => finalState (handleCommand k lines cmd) s
  | .inject failure => finalState (injectFailure failure) s
  | .clear failure => finalState (clearFailure failure) s
  | .tick found => tick k found s

end Tcs
