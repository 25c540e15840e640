import MissionSim.Functions
import MissionSim.MemoryService
import MissionSim.Obcp
import MissionSim.TcScheduler
import MissionSim.TmBuilder
import MissionSim.TmDownlink

/-!
# The engine's state and its telemetry

The state a telecommand reads and changes: the subsystem models, the parameters, the tables
of the dispatcher, the memory, the schedule, the procedures, and the way telemetry leaves.

The log is not part of the software.  It tells what was handed to `_enqueue_tm`, which
commands were given to the models and on whose behalf, and what a service handler raised.
-/

namespace Spacecraft

open Octets Binary32 Python Effects Memory TmBuilder TmDownlink TcScheduler

/-- A housekeeping structure created from ground. -/
structure HkDefinition where
  sid : Nat
  intervalS : FloatValue
  paramIds : List Nat
  deriving DecidableEq, Repr

/-- A monitoring definition of service 12. -/
structure MonitorDefinition where
  monId : Nat
  paramId : Nat
  checkType : Nat
  lowLimit : FloatValue
  highLimit : FloatValue
  enabled : Bool := true
  lastValue : Option Value := none
  severity : String := "WARNING"
  name : String
  description : String
  deriving DecidableEq, Repr

/-- A limit found exceeded by service 12: the value that was checked, which for a delta check is
the change, and the definition it belongs to. -/
structure Violation where
  paramId : Nat
  monId : Nat
  value : Value
  rawValue : Value
  lowLimit : FloatValue
  highLimit : FloatValue
  checkType : Nat
  severity : Nat
  name : String
  description : String
  deriving DecidableEq, Repr

/-- An event-action rule of service 19. -/
structure EventAction where
  eventType : Nat
  triggerKind : Nat
  actionFuncId : Nat
  actionData : Bytes := []
  deriving DecidableEq, Repr

inductive TransferStatus where
  | active
  | paused
  | complete
  deriving DecidableEq, Repr

/-- A transfer of service 13. -/
structure Transfer where
  transferId : Nat
  sceneId : Nat
  sizeMb : Nat
  totalBlocks : Nat
  blocksSent : Nat := 0
  status : TransferStatus := .active
  deriving DecidableEq, Repr

/-- `generate_s1_exec_fail` was called. -/
structure ExecFail where
  errorCode : Int
  reason : String
  deriving DecidableEq, Repr

/-- The outcome of the dispatch that is under way, and the sequence count of its
telecommand. -/
structure Accumulators where
  errReason : String := ""
  errCode : Int := 0
  execFail : Option ExecFail := none
  requestId : Nat := 0
  deriving DecidableEq, Repr

/-- `ServiceDispatcher`. -/
structure Dispatcher where
  outcome : Accumulators := {}
  s3CustomSids : Dict Nat HkDefinition := .empty
  s5EnabledTypes : List Nat := List.range 256
  s12Definitions : Dict Nat MonitorDefinition := .empty
  s12Enabled : Bool := true
  s19Definitions : Dict Nat EventAction := .empty
  s19EnabledIds : List Nat := []
  s13Transfers : Dict Nat Transfer := .empty
  s13TransferCounter : Nat := 1

/-- What happens, in order. -/
inductive Notice where
  /-- A packet is handed to `_enqueue_tm`. -/
  | tm (pkt : TmPacket)
  /-- A model's `handle_command` is called, by a rule of service 19 or for the telecommand. -/
  | command (byRule : Bool) (model : String) (command : Command)
  /-- `dispatch` is called. -/
  | dispatched (service subtype : Nat)
  /-- A handler ended with an exception, which is logged. -/
  | raised (e : PyError)
  /-- The report of a transition of service 12 is handed to `_enqueue_tm`. -/
  | transition (monId : Nat) (entered : Bool)
  deriving DecidableEq

/-- The part of `SimulationEngine` that handles telecommands. -/
structure Engine (M : Type) where
  models : M
  params : Dict Nat Value := .empty
  simTime : Rat := 0
  spacecraftPhase : Int := 6
  inContact : Bool := false
  overridePasses : Bool := false
  autoTxHoldS : FloatValue := .finite false 0 0
  autoTxRemaining : FloatValue := .finite false 0 0
  tmBuilder : Builder
  downlink : Downlink TmPacket
  rtPacingActive : Bool := true
  hkStructures : Dict Nat (List HkParameter) := .empty
  hkIntervals : Dict Nat FloatValue := .empty
  hkEnabled : Dict Nat Bool := .empty
  memory : MemoryImage
  tcScheduler : Scheduler := {}
  obcpManager : Obcp.Manager := {}
  dispatcher : Dispatcher := {}
  s12ViolationActive : List Nat := []
  s12ViolationRecords : Dict Nat Violation := .empty
  /-- A rule of service 19 is being executed. -/
  byRule : Bool := false
  log : List Notice := []

/-- An engine without memory, stores and schedule. -/
def plainEngine : Engine PlainModels where
  models := {}
  tmBuilder := { apid := 1 }
  downlink := { storage := .empty }
  memory :=
    { map := { regions := [], limits := {}, disjoint := List.Pairwise.nil
               fits := fun _ h => absurd h List.not_mem_nil }
      pages := .empty }

/-- A program on the engine. -/
abbrev Program (M α : Type) := EStateM PyError (Engine M) α

variable {M : Type}

/-- Note what happens. -/
def note (notice : Notice) : Program M Unit := modify fun e => { e with log := e.log ++ [notice] }

/-- Build a packet. -/
def building {α : Type} (x : EStateM PyError Builder α) : Program M α :=
  zoom Engine.tmBuilder (fun b e => { e with tmBuilder := b }) x

/-- Work on the models. -/
def onModels {α : Type} (x : EStateM PyError M α) : Program M α :=
  zoom Engine.models (fun m e => { e with models := m }) x

/-- Change the dispatcher. -/
def updateDispatcher (f : Dispatcher → Dispatcher) : Program M Unit :=
  modify fun e => { e with dispatcher := f e.dispatcher }

/-- `downlink_active`. -/
def Engine.downlinkActive (e : Engine M) : Bool :=
  let ttcLinkOk := match e.params.get? 0x0501 with
    | none | some .none => true
    | some status => status.truthy
  (e.inContact && ttcLinkOk) || e.overridePasses

/-- `int(self.params.get(0x0311, 1))`. -/
def Engine.swImageParam (e : Engine M) : Except PyError Int :=
  ((e.params.get? 0x0311).getD (.int 1)).toInt

/-- `_enqueue_tm(pkt)`.  The packet is queued for the downlink before the software image is
looked up, which decides whether it is stored as well. -/
def enqueueTm (pkt : TmPacket) : Program M Unit := do
  note (.tm pkt)
  modify fun e => { e with
    downlink := TmDownlink.enqueueTm TmPacket.octets e.downlink pkt e.downlinkActive e.rtPacingActive 0 }
  let e ← get
  let swImage ← fromExcept e.swImageParam
  set { e with downlink := { e.downlink with
    storage := storeTm TmPacket.octets e.downlink.storage pkt swImage } }

/-- Enqueue packets, one after another. -/
def enqueueAll (pkts : List TmPacket) : Program M Unit := pkts.forM enqueueTm

/-- `queue_dump(store_id)`. -/
def queueDump (storeId : Nat) : Program M Nat := do
  let e ← get
  let queued := TmDownlink.queueDump e.downlink storeId
  set { e with downlink := queued.1 }
  pure queued.2

/-- `_arm_auto_tx_hold()`. -/
def armAutoTxHold (sub : Subsystems M) : Program M Unit :=
  modify fun e => { e with
    models := if (sub.powerLines e.models).isSome then sub.setPowerLine e.models "ttc_tx" true
      else e.models
    autoTxRemaining := e.autoTxHoldS }

end Spacecraft
