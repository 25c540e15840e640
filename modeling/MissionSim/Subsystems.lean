import MissionSim.MemoryMap

/-!
# The subsystem models and their commands

What the telecommand path uses of the subsystem models.  The models themselves, with their
physics, are a parameter `M`; a command is a name with arguments, and a model answers it with
a reply or raises.

The on-board computer's model is part of every configuration; the others may be missing.
-/

namespace Spacecraft

open Binary32 Python Memory

/-- An argument of a command. -/
inductive Argument where
  | int (n : Int)
  | float (x : FloatValue)
  | floats (xs : List FloatValue)
  | bool (b : Bool)
  | text (s : String)
  deriving DecidableEq, Repr

/-- A command as it is handed to a model: `{"command": name, ...}`. -/
structure Command where
  name : String
  args : List (String × Argument) := []
  deriving DecidableEq, Repr

/-- What `handle_command` answers.  `values` are its numbers, `table` the entries of its
nested dictionary and `data` its octets, for the commands that return such. -/
structure Reply where
  success : Option Bool := none
  message : Option String := none
  errorCode : Option Int := none
  values : List (String × Value) := []
  table : List (String × Value) := []
  data : Octets.Bytes := []

/-- `not result.get("success", True)`. -/
def Reply.refuses (r : Reply) : Bool := r.success == some false

/-- `result.get("success")`. -/
def Reply.succeeds (r : Reply) : Bool := r.success == some true

/-- What the on-board computer counts of the telecommands, and the code of the last
refusal. -/
structure TcCounters where
  tcRxCount : Nat := 0
  tcAccCount : Nat := 0
  tcRejCount : Nat := 0
  lastTcErrorCode : Nat := 0
  deriving DecidableEq, Repr

/-- The subsystem models held in `M`. -/
structure Subsystems (M : Type) extends LiveModels M where
  /-- `engine.subsystems.get(name)` is a model. -/
  present : M → String → Bool
  /-- `handle_command(cmd)`, given the parameters and the time a model reads of the engine. -/
  handleCommand : Dict Nat Value → Rat → String → Command → EStateM PyError M Reply
  setDeviceState : String → Nat → Bool → EStateM PyError M Bool
  getDeviceState : M → String → Nat → Bool
  /-- `_state.mode`. -/
  mode : M → String → Option Int
  /-- `eps._state.power_lines`. -/
  powerLines : M → Option (Dict String Bool)
  setPowerLine : M → String → Bool → M
  /-- `obdh._state.sw_image`. -/
  swImage : M → Int
  /-- `obdh._state.active_bus` and the status of the two buses. -/
  activeBus : M → Int
  busAStatus : M → Int
  busBStatus : M → Int
  /-- `obdh._state.obc_time_cuc`. -/
  obcTimeCuc : M → Int
  tcCounters : M → TcCounters
  setTcCounters : M → TcCounters → M
  /-- The command code of the transmitter's default tier. -/
  defaultRate : M → Int
  /-- Put the AOCS into SAFE_BOOT. -/
  forceSafeBoot : M → M
  /-- `payload._state.image_size_mb`. -/
  imageSizeMb : M → Option Value
  tcCounters_set : ∀ m counters, tcCounters (setTcCounters m counters) = counters
  /-- The error code of a reply is a literal of the source. -/
  errorCode_range : ∀ params time model c m reply m',
    handleCommand params time model c m = .ok reply m' →
    ∀ code, reply.errorCode = some code → 0 ≤ code ∧ code < 2 ^ 16

variable {M : Type} (sub : Subsystems M)

/-- Change the counters. -/
def Subsystems.count (m : M) (f : TcCounters → TcCounters) : M :=
  sub.setTcCounters m (f (sub.tcCounters m))

/-- `record_tc_received()`. -/
def Subsystems.recordTcReceived (m : M) : M :=
  sub.count m fun c => { c with tcRxCount := c.tcRxCount + 1 }

/-- `record_tc_accepted()`. -/
def Subsystems.recordTcAccepted (m : M) : M :=
  sub.count m fun c => { c with tcAccCount := c.tcAccCount + 1 }

/-- `record_tc_rejected()`. -/
def Subsystems.recordTcRejected (m : M) : M :=
  sub.count m fun c => { c with tcRejCount := c.tcRejCount + 1 }

/-- `record_tc_failure_code(error_code)`. -/
def Subsystems.recordTcFailureCode (m : M) (errorCode : Int) : M :=
  sub.count m fun c => { c with lastTcErrorCode := (errorCode % 2 ^ 16).toNat }

/-- `BUS_FAILED`. -/
def busFailed : Int := 2

/-- `_obc_bus_failed()`: the active CAN bus has failed. -/
def Subsystems.obcBusFailed (m : M) : Bool :=
  if sub.activeBus m = 0 then sub.busAStatus m == busFailed else sub.busBStatus m == busFailed

/-- Models that hold plain attributes and accept every command. -/
structure PlainModels where
  attributes : Dict (String × String) Value := .empty
  powerLines : Option (Dict String Bool) := none
  counters : TcCounters := {}
  swImage : Int := 1
  deriving Inhabited

/-- The answer of a model that accepts every command. -/
def accepted : EStateM PyError PlainModels Reply := pure { success := some true }

theorem accepted_codes {m m' : PlainModels} {reply : Reply} (h : accepted m = .ok reply m')
    (code : Int) (hcode : reply.errorCode = some code) : 0 ≤ code ∧ code < 2 ^ 16 := by
  obtain ⟨rfl, -⟩ := EStateM.Result.ok.inj h
  cases hcode

/-- The subsystems of the given names. -/
def plainSubsystems (names : List String) : Subsystems PlainModels where
  hasState := fun _ model => names.contains model
  getattr := fun m model attr => m.attributes.get? (model, attr)
  setattr := fun m model attr value => { m with attributes := m.attributes.set (model, attr) value }
  hasTorqueGain := fun _ => false
  hasState_setattr := fun _ _ _ _ _ => rfl
  getattr_setattr := fun m model attr value _ => Dict.get?_set_same m.attributes (model, attr) value
  getattr_setattr_ne := fun m _ _ value _ _ hne => Dict.get?_set_ne m.attributes hne value
  present := fun _ model => names.contains model
  handleCommand := fun _ _ _ _ => accepted
  setDeviceState := fun _ _ _ => pure true
  getDeviceState := fun _ _ _ => true
  mode := fun _ _ => some 1
  powerLines := PlainModels.powerLines
  setPowerLine := fun m line on =>
    { m with powerLines := m.powerLines.map fun lines => lines.set line on }
  swImage := PlainModels.swImage
  activeBus := fun _ => 0
  busAStatus := fun _ => 0
  busBStatus := fun _ => 0
  obcTimeCuc := fun _ => 0
  tcCounters := PlainModels.counters
  setTcCounters := fun m counters => { m with counters := counters }
  defaultRate := fun _ => 1
  forceSafeBoot := id
  imageSizeMb := fun _ => none
  tcCounters_set := fun _ _ => rfl
  errorCode_range := fun _ _ _ _ _ _ _ h code hcode => accepted_codes h code hcode

end Spacecraft
