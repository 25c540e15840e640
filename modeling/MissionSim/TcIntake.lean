import MissionSim.Services

/-!
# The telecommand path

What the engine does with a telecommand: it drops a packet without a secondary header,
counts every other, asks the gates in turn, and either refuses the telecommand with S1.2 or
reports S1.1 and S1.3, dispatches it and reports how that ended.

The gates only read the state; `refusal` is what they say together.
-/

namespace Spacecraft

open Octets Ecss Binary32 Python Effects Memory TmBuilder TcAcceptance
open Obcp (Event)

variable {M : Type} (sub : Subsystems M)

/-! ### The power gate -/

/-- The power line of a function's unit. -/
def funcIdOwner (funcId : Nat) : Option String :=
  if funcId < 16 then some "aocs_wheels"
  else if funcId < 26 then none
  else if funcId < 40 then some "payload"
  else if funcId < 50 then none
  else if funcId < 63 then none
  else if funcId < 79 then some "ttc_tx"
  else none

/-- The subsystem whose mode a function depends on. -/
def funcIdSubsys (funcId : Nat) : Option String :=
  if funcId < 16 then some "aocs"
  else if funcId < 26 then none
  else if funcId < 40 then some "payload"
  else none

/-- `_EQUIPMENT_MGMT_FUNC_IDS`. -/
def equipmentMgmtFuncIds : List Nat := [0, 2, 3, 4, 5, 6, 7, 9, 26]

/-- `power_lines.get(line, default)`; without lines it is the default. -/
def Subsystems.lineOn (m : M) (line : String) (default : Bool) : Bool :=
  ((sub.powerLines m).bind fun lines => lines.get? line).getD default

/-- `_param_source_powered(param_id)`. -/
def paramSourcePowered (m : M) (paramId : Nat) : Bool :=
  if 0x0100 ≤ paramId ∧ paramId ≤ 0x012F then true
  else if 0x0200 ≤ paramId ∧ paramId ≤ 0x02FF then
    sub.lineOn m "aocs_wheels" false && decide (0 < (sub.mode m "aocs").getD 0)
  else if 0x0300 ≤ paramId ∧ paramId ≤ 0x033F then sub.swImage m == 1
  else if 0x0400 ≤ paramId ∧ paramId ≤ 0x04FF then true
  else if 0x0500 ≤ paramId ∧ paramId ≤ 0x05FF then sub.lineOn m "ttc_tx" false
  else if 0x0600 ≤ paramId ∧ paramId ≤ 0x06FF then
    sub.lineOn m "payload" false && decide (0 < (sub.mode m "payload").getD 0)
  else true

/-- The gate of one function: its power line first, then the mode of its subsystem. -/
def functionPowerState (m : M) (funcId : Nat) : Option String :=
  let label := "S8 func_id " ++ toString funcId
  let owner := if funcId ∈ equipmentMgmtFuncIds then none else funcIdSubsys funcId
  match (funcIdOwner funcId).filter fun line => !sub.lineOn m line true with
  | some line => some (label ++ ": power line '" ++ line ++ "' is OFF")
  | none =>
      match owner with
      | none => none
      | some name =>
          match sub.mode m name with
          | none => none
          | some mode =>
              if mode ≤ 0 then some (label ++ ": " ++ name ++ " subsystem in MODE_OFF") else none

/-- `check_power_state(service, subtype, data)`: the reason of a refusal. -/
def checkPowerState (m : M) (service subtype : Nat) (data : Bytes) : Option String :=
  if (sub.powerLines m).isNone then none
  else if service = 3 ∧ subtype = 27 ∧ 2 ≤ data.length then none
  else if service = 8 ∧ subtype = 1 ∧ 1 ≤ data.length then functionPowerState sub m (unpackU8 data)
  else if service = 20 ∧ (subtype = 1 ∨ subtype = 3) ∧ 2 ≤ data.length then
    if paramSourcePowered sub m (unpackU16 data) then none
    else some ("S20." ++ toString subtype ++ " param 0x" ++ hexUpper 4 (unpackU16 data) ++
      ": source subsystem unpowered or in MODE_OFF")
  else none

/-! ### The other gates -/

/-- `_tc_identity(service, subtype, data)`. -/
def tcIdentity (service subtype : Nat) (data : Bytes) : String :=
  let ident := "S" ++ toString service ++ "." ++ toString subtype
  if service = 8 ∧ subtype = 1 ∧ 1 ≤ data.length then ident ++ " func " ++ toString (unpackU8 data)
  else ident

/-- `_acceptance_failure_reason(service, subtype, data, error_code)`. -/
def acceptanceFailureReason (service subtype : Nat) (data : Bytes) (errorCode : Nat) : String :=
  let name := "S" ++ toString service ++ "." ++ toString subtype
  if errorCode = errUnknownService then
    "Service " ++ toString service ++ " is not implemented by this on-board software"
  else if errorCode = errUnknownSubtype then name ++ " is not an implemented subtype"
  else if errorCode = errInvalidLength then
    name ++ ": application data field is too short (" ++ toString data.length ++ " octets)"
  else name ++ " refused at acceptance"

/-- The functions the bootloader offers. -/
def bootloaderFuncIds : List Nat := [19, 20, 52, 53, 54, 55, 56, 57, 61, 66, 67, 69]

/-- Whether a telecommand is in the bootloader's subset. -/
def bootloaderAllows (service subtype : Nat) (data : Bytes) : Bool :=
  if service = 17 ∧ subtype = 1 then true
  else if service = 9 ∧ subtype = 1 then true
  else if service = 3 ∧ subtype ∈ [1, 3, 5, 6, 9, 27] then true
  else if service = 20 ∧ subtype ∈ [1, 3] then true
  else if service = 8 ∧ subtype = 1 ∧ 1 ≤ data.length then
    decide (unpackU8 data ∈ bootloaderFuncIds)
  else false

/-- `in_bootloader`. -/
def Engine.inBootloader (e : Engine M) : Bool := decide (e.spacecraftPhase ≤ 3)

/-- A function of the on-board computer itself, which needs no bus. -/
def isObdhFunc (funcId : Nat) : Bool := decide (50 ≤ funcId ∧ funcId ≤ 62) || funcId == 80

/-- What the gates say: the error code and reason of a refusal. -/
def refusal (e : Engine M) (service subtype : Nat) (data : Bytes) : Option (Nat × String) :=
  if e.inBootloader ∧ bootloaderAllows service subtype data = false then
    some (0x0006, tcIdentity service subtype data ++ " is not in the bootloader command subset " ++
      "(phase " ++ toString e.spacecraftPhase ++ "); boot the application (S8.1 func 55) first")
  else if service = 8 ∧ subtype = 1 ∧ 1 ≤ data.length ∧ sub.obcBusFailed e.models ∧
      isObdhFunc (unpackU8 data) = false then
    some (0x0004, "S8.1 func " ++ toString (unpackU8 data) ++ ": target subsystem is " ++
      "unreachable — the OBC's active CAN bus has failed (recover with func 54 OBC_SELECT_BUS)")
  else
    match checkTcAcceptance service subtype data with
    | some errorCode => some (errorCode, acceptanceFailureReason service subtype data errorCode)
    | none =>
        if e.inBootloader then none
        else (checkPowerState sub e.models service subtype data).map fun reason => (0x0004, reason)

/-! ### Refusing and executing -/

/-- `EV_COMMAND_REJECTED`. -/
def evCommandRejected : Nat := 0x030B

/-- `format_command_rejection(identity, stage, error_code, reason)`. -/
def formatCommandRejection (identity stage : String) (errorCode : Int) (reason : String) : String :=
  let text := identity ++ " rejected at " ++ stage ++ ", err 0x" ++ hexUpper 4 errorCode.toNat
  if reason = "" then text else text ++ ": " ++ reason

/-- `_emit_command_rejected(service, subtype, data, error_code, reason, stage)`. -/
def emitCommandRejected (depth : Nat) (tc : SecondaryHeader) (data : Bytes) (errorCode : Int)
    (reason stage : String) : Program M Unit := do
  onModels (modify fun m => sub.recordTcFailureCode m errorCode)
  tryEmitEvent sub depth
    { eventId := evCommandRejected, severity := 2,
      description := formatCommandRejection (tcIdentity tc.service tc.subtype data) stage errorCode
        reason }

/-- `_reject_tc(pkt, error_code, reason)`. -/
def rejectTc (depth : Nat) (pkt : DecommutatedPacket) (tc : SecondaryHeader) (errorCode : Nat)
    (reason : String) : Program M Unit := do
  let rej ← building (buildVerificationFailure pkt.primary.apid pkt.primary.sequenceCount errorCode
    reason)
  enqueueTm rej
  onModels (modify sub.recordTcRejected)
  emitCommandRejected sub depth tc pkt.dataField errorCode reason "acceptance"

/-- What follows a dispatch: the reports of its outcome. -/
def reportOutcome (depth : Nat) (pkt : DecommutatedPacket) (tc : SecondaryHeader)
    (result : DispatchResult) : Program M Unit :=
  match result.failureKind with
  | .execution => do
      let errorCode := if result.errorCode = 0 then 0x0001 else result.errorCode
      let fail ← building (buildExecutionFailure pkt.primary.apid pkt.primary.sequenceCount
        errorCode result.reason)
      enqueueTm fail
      emitCommandRejected sub depth tc pkt.dataField errorCode result.reason "execution"
  | .execStart =>
      emitCommandRejected sub depth tc pkt.dataField result.errorCode result.reason "execution"
  | .none => do
      let comp ← building (buildVerificationCompletion pkt.primary.apid pkt.primary.sequenceCount)
      enqueueTm comp

/-- An accepted telecommand: S1.1, S1.3, the dispatch and its reports. -/
def executeTc (depth : Nat) (pkt : DecommutatedPacket) (tc : SecondaryHeader) : Program M Unit := do
  let acc ← building (buildVerificationAcceptance pkt.primary.apid pkt.primary.sequenceCount)
  enqueueTm acc
  onModels (modify sub.recordTcAccepted)
  armAutoTxHold sub
  let reports ← generateS1Reports pkt.primary.sequenceCount
  enqueueAll reports
  let result ← dispatch sub depth tc.service tc.subtype pkt.dataField pkt.primary
  enqueueAll result.packets
  reportOutcome sub depth pkt tc result

/-- A telecommand with a secondary header. -/
def admitTc (depth : Nat) (pkt : DecommutatedPacket) (tc : SecondaryHeader) : Program M Unit := do
  onModels (modify sub.recordTcReceived)
  let e ← get
  match refusal sub e tc.service tc.subtype pkt.dataField with
  | some (errorCode, reason) => rejectTc sub depth pkt tc errorCode reason
  | none => executeTc sub depth pkt tc

/-- `_dispatch_tc(raw)`. -/
def dispatchTc (depth : Nat) (raw : Bytes) : Program M Unit :=
  match decommutatePacket raw with
  | none => pure ()
  | some pkt =>
      match pkt.secondary with
      | none => pure ()
      | some tc => admitTc sub depth pkt tc

end Spacecraft
