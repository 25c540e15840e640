import MissionSim.Dispatcher
import Mathlib.Data.List.Sort

/-!
# The service handlers

One handler for each service, and `dispatch`, which runs the handler of a telecommand and
says how it ended.  A handler that raises is logged; what counts then is only whether a
refusal was recorded before.
-/

namespace Spacecraft

open Octets Ecss Binary32 Python Effects Memory TmBuilder TcScheduler

variable {M : Type} (sub : Subsystems M)

/-! ### Service 2 -/

/-- The identifiers of each subsystem's devices. -/
def deviceRanges : List (Nat × Nat × String) :=
  [(0x0100, 0x010F, "eps"), (0x0200, 0x021F, "aocs"), (0x0300, 0x030F, "tcs"),
   (0x0400, 0x040F, "ttc"), (0x0500, 0x050F, "obdh"), (0x0600, 0x060F, "payload")]

/-- The subsystem a device belongs to. -/
def deviceModel (deviceId : Nat) : Option String :=
  (deviceRanges.find? fun range => range.1 ≤ deviceId ∧ deviceId ≤ range.2.1).map fun range =>
    range.2.2

/-- `_set_device_state(device_id, on_off)`. -/
def setDeviceState (deviceId : Nat) (onOff : Bool) : Program M Bool := do
  let e ← get
  match (deviceModel deviceId).filter (sub.present e.models) with
  | none => pure false
  | some model => do
      let ok ← onModels (sub.setDeviceState model deviceId onOff)
      if ok ∧ deviceId = 0x0601 then do
        let _ ← cmd sub "tcs" { name := "fpa_cooler", args := [("on", .bool onOff)] }
        pure ok
      else pure ok

/-- `_get_device_state(device_id)`. -/
def getDeviceState (m : M) (deviceId : Nat) : Bool :=
  match (deviceModel deviceId).filter (sub.present m) with
  | none => false
  | some model => sub.getDeviceState m model deviceId

/-- The status report of a device. -/
def reportDevice (deviceId : Nat) : Program M (List TmPacket) := do
  let e ← get
  report 2 6 (packU16 deviceId ++ packU8 (getDeviceState sub e.models deviceId).toNat)

/-- `_handle_s2(subtype, data)`. -/
def handleS2 (subtype : Nat) (data : Bytes) : Program M (List TmPacket) :=
  if subtype = 1 ∧ 3 ≤ data.length then do
    let _ ← setDeviceState sub (unpackU16 data) (unpackU8 (data.drop 2) != 0)
    pure []
  else if subtype = 5 ∧ 3 ≤ data.length then do
    let success ← setDeviceState sub (unpackU16 data) (unpackU8 (data.drop 2) != 0)
    if success then reportDevice sub (unpackU16 data) else pure []
  else if subtype = 6 ∧ 2 ≤ data.length then reportDevice sub (unpackU16 data)
  else pure []

/-! ### Service 3 -/

/-- `BOOTLOADER_BEACON_SID`. -/
def bootloaderBeaconSid : Nat := 11

/-- `_is_bootloader_beacon_sid(sid)`. -/
def isBootloaderBeaconSid (m : M) (sid : Nat) : Bool :=
  sid == bootloaderBeaconSid && sub.swImage m == 0

/-- `set_hk_enabled(sid, enabled)`. -/
def setHkEnabled (sid : Nat) (enabled : Bool) : Program M Unit :=
  modify fun e => { e with hkEnabled := e.hkEnabled.set sid enabled }

/-- `set_hk_interval(sid, interval_s)`. -/
def setHkInterval (sid : Nat) (intervalS : FloatValue) : Program M Unit :=
  modify fun e => { e with hkIntervals := e.hkIntervals.set sid intervalS }

/-- `max(1.0, x)`. -/
def atLeastOne (x : FloatValue) : FloatValue := if (floatOf 1).lt x then x else floatOf 1

/-- Sixteen-bit numbers, as many as are asked for and there. -/
def words : Nat → Bytes → List Nat
  | n + 1, a :: b :: rest => unpackU16 [a, b] :: words n rest
  | _, _ => []

/-- The structure a creation request asks for. -/
def hkDefinition (data : Bytes) : HkDefinition where
  sid := unpackU16 data
  intervalS := atLeastOne (if 6 ≤ data.length then floatAt 2 data else floatOf 4)
  paramIds := words (unpackU8 (data.drop 6)) (data.drop 7)

/-- `_handle_s3(subtype, data)`. -/
def handleS3 (subtype : Nat) (data : Bytes) : Program M (List TmPacket) :=
  if subtype = 1 ∧ 4 ≤ data.length then do
    updateDispatcher fun d =>
      { d with s3CustomSids := d.s3CustomSids.set (unpackU16 data) (hkDefinition data) }
    setHkEnabled (unpackU16 data) true
    pure []
  else if subtype = 2 ∧ 2 ≤ data.length then do
    updateDispatcher fun d => { d with s3CustomSids := d.s3CustomSids.erase (unpackU16 data) }
    setHkEnabled (unpackU16 data) false
    pure []
  else if subtype = 27 ∧ 2 ≤ data.length then do
    let e ← get
    let pkt ← building (buildHkPacket (unpackU16 data) e.params
      (e.hkStructures.get? (unpackU16 data)) (sub.obcTimeCuc e.models))
    pure pkt.toList
  else if (subtype = 3 ∨ subtype = 5) ∧ 2 ≤ data.length then do
    setHkEnabled (unpackU16 data) true
    pure []
  else if (subtype = 4 ∨ subtype = 6) ∧ 2 ≤ data.length then do
    let e ← get
    if isBootloaderBeaconSid sub e.models (unpackU16 data) then
      generateS1ExecFail 0x0005 ("HK SID " ++ toString (unpackU16 data) ++ " (beacon) is " ++
        "mandatory while the OBC is in the bootloader - disabling it would silence the spacecraft")
    else do
      setHkEnabled (unpackU16 data) false
      pure []
  else if subtype = 31 ∧ 6 ≤ data.length then do
    setHkInterval (unpackU16 data) (atLeastOne (floatAt 2 data))
    pure []
  else if subtype = 5 ∧ 6 ≤ data.length then do
    setHkInterval (unpackU16 data) (atLeastOne (floatAt 2 data))
    pure []
  else pure []

/-! ### Service 5 -/

/-- `_handle_s5(subtype, data)`. -/
def handleS5 (subtype : Nat) (data : Bytes) : Program M (List TmPacket) := do
  updateDispatcher fun d => { d with
    s5EnabledTypes :=
      if subtype = 5 ∧ 1 ≤ data.length then d.s5EnabledTypes.insert (unpackU8 data)
      else if subtype = 6 ∧ 1 ≤ data.length then
        d.s5EnabledTypes.filter fun eventType => eventType ≠ unpackU8 data
      else if subtype = 7 then [1, 2, 3, 4].foldl (fun types t => types.insert t) d.s5EnabledTypes
      else if subtype = 8 then []
      else d.s5EnabledTypes }
  pure []

/-! ### Service 6 -/

/-- A response of the memory handler as packets. -/
def respond : Response → Program M (List TmPacket)
  | .execFail errorCode reason => generateS1ExecFail errorCode reason
  | .progress requestId step => generateS1Progress requestId step
  | .report service subtype data => report service subtype data

/-- The packets of the responses, in order. -/
def respondAll : List Response → Program M (List TmPacket)
  | [] => pure []
  | response :: rest => do
      let pkts ← respond response
      let more ← respondAll rest
      pure (pkts ++ more)

/-- `_handle_s6(subtype, data)` on the engine. -/
def handleMemory (subtype : Nat) (data : Bytes) : Program M (List TmPacket) := do
  let responses ← tryCatch
    (zoom (fun e => (e.memory, e.models)) (fun t e => { e with memory := t.1, models := t.2 })
      (handleS6 sub.toLiveModels subtype data))
    fun error => do
      -- a report that is too long has taken its sequence count
      building (if error = .structError then modify Builder.next else pure ())
      throw error
  respondAll responses

/-! ### Service 9 -/

/-- `_handle_s9(subtype, data)`. -/
def handleS9 (subtype : Nat) (data : Bytes) : Program M (List TmPacket) :=
  if subtype = 1 ∧ 4 ≤ data.length then do
    let _ ← cmd sub "obdh" { name := "set_time", args := [("cuc", .int (unpackU32 data))] }
    pure []
  else if subtype = 2 then do
    let e ← get
    (fun pkt => [pkt]) <$> building (buildTimeReport (sub.obcTimeCuc e.models))
  else pure []

/-! ### Service 11 -/

/-- Change the schedule. -/
def updateScheduler (f : Scheduler → Scheduler) : Program M Unit :=
  modify fun e => { e with tcScheduler := f e.tcScheduler }

/-- One record of the schedule report. -/
def scheduleRecord (c : ScheduledCommand) : Bytes :=
  let detail := c.identity.data.take 255
  packU16 c.id ++ packU32 c.execTime ++ packU16 c.identity.apid ++ packU8 c.identity.service ++
    packU8 c.identity.subtype ++ packU8 (min c.identity.dataLen 255) ++ packU8 detail.length ++
    detail

/-- `_handle_s11(subtype, data)`. -/
def handleS11 (subtype : Nat) (data : Bytes) : Program M (List TmPacket) :=
  if subtype = 4 ∧ 4 ≤ data.length then do
    let e ← get
    let inserted := e.tcScheduler.insert (unpackU32 data) (data.drop 4)
    set { e with tcScheduler := inserted.1 }
    let id ← fromExcept (packUnsigned 2 inserted.2)
    report 11 5 id
  else if subtype = 7 ∧ 2 ≤ data.length then do
    updateScheduler fun s => (s.delete (unpackU16 data)).1
    pure []
  else if subtype = 9 then do
    updateScheduler Scheduler.disableSchedule
    pure []
  else if subtype = 11 then do
    updateScheduler Scheduler.deleteAll
    pure []
  else if subtype = 13 then do
    updateScheduler Scheduler.enableSchedule
    pure []
  else if subtype = 17 then do
    let e ← get
    let commands := e.tcScheduler.listCommands
    let count ← fromExcept (packUnsigned 2 commands.length)
    report 11 18 (count ++ packU8 e.tcScheduler.enabled.toNat ++ packU16 e.tcScheduler.nextId ++
      commands.flatMap scheduleRecord)
  else pure []

/-! ### Service 12 -/

/-- The definition an addition asks for, in either wire form. -/
def monitorDefinition (data : Bytes) : MonitorDefinition :=
  let monId := unpackU16 data
  let position := if 13 ≤ data.length then 2 else 0
  { monId := monId
    paramId := unpackU16 (data.drop position)
    checkType := unpackU8 (data.drop (position + 2))
    lowLimit := floatAt (position + 3) data
    highLimit := floatAt (position + 7) data
    name := "ground_mon_0x" ++ hexUpper 4 monId
    description := "Added from ground via TC(12,6)" }

/-- One record of the report of the definitions. -/
def monitorRecord (item : Nat × MonitorDefinition) : Except PyError Bytes := do
  let low ← packFloat item.2.lowLimit
  let high ← packFloat item.2.highLimit
  pure (packU16 item.1 ++ packU16 item.2.paramId ++ packU8 item.2.checkType ++
    packU8 item.2.enabled.toNat ++ low ++ high)

/-- Change the definitions. -/
def updateMonitors (f : Dict Nat MonitorDefinition → Dict Nat MonitorDefinition) :
    Program M Unit :=
  updateDispatcher fun d => { d with s12Definitions := f d.s12Definitions }

/-- `_handle_s12(subtype, data)`. -/
def handleS12 (subtype : Nat) (data : Bytes) : Program M (List TmPacket) :=
  if subtype = 1 then do
    updateDispatcher fun d => { d with s12Enabled := true }
    pure []
  else if subtype = 2 then do
    updateDispatcher fun d => { d with s12Enabled := false }
    pure []
  else if (subtype = 3 ∨ subtype = 4) ∧ 2 ≤ data.length then do
    let e ← get
    match e.dispatcher.s12Definitions.get? (unpackU16 data) with
    | none => generateS1ExecFail 0x0007 ("S12 monitoring definition 0x" ++
        hexUpper 4 (unpackU16 data) ++ " is not defined")
    | some defn => do
        updateMonitors fun d => d.set (unpackU16 data)
          { defn with
            enabled := decide (subtype = 3)
            lastValue := if subtype = 4 then none else defn.lastValue }
        pure []
  else if subtype = 6 ∧ 11 ≤ data.length then do
    updateMonitors fun d => d.set (unpackU16 data) (monitorDefinition data)
    pure []
  else if subtype = 7 ∧ 2 ≤ data.length then do
    updateMonitors fun d => d.erase (unpackU16 data)
    pure []
  else if subtype = 12 then do
    let e ← get
    let count ← fromExcept (packUnsigned 2 e.dispatcher.s12Definitions.size)
    let records ← fromExcept (e.dispatcher.s12Definitions.items.mapM monitorRecord)
    report 12 13 (count ++ records.flatten)
  else pure []

/-! ### Service 13 -/

/-- `DEFAULT_IMAGE_SIZE_MB`. -/
def defaultImageSizeMb : Nat := 4

/-- `_default_image_size_mb()`. -/
def configuredImageSizeMb (m : M) : Nat :=
  match sub.imageSizeMb m with
  | some (.int n) => if 0 < n then max 1 n.toNat else defaultImageSizeMb
  | some (.float x) =>
      if (floatOf 0).lt x then
        match roundInt x with
        | .ok n => max 1 n.toNat
        | .error _ => defaultImageSizeMb
      else defaultImageSizeMb
  | _ => defaultImageSizeMb

/-- The block of a segment. -/
def segmentBlock (segment : Nat) : Bytes :=
  (List.range 1024).map fun i => UInt8.ofNat ((segment + i) % 256)

def TransferStatus.code : TransferStatus → Nat
  | .active => 1
  | .paused => 2
  | .complete => 3

/-- Change the transfers. -/
def updateTransfers (f : Dict Nat Transfer → Dict Nat Transfer) : Program M Unit :=
  updateDispatcher fun d => { d with s13Transfers := f d.s13Transfers }

/-- `_handle_s13(subtype, data)`. -/
def handleS13 (subtype : Nat) (data : Bytes) : Program M (List TmPacket) :=
  if subtype = 1 ∧ 4 ≤ data.length then do
    let e ← get
    let asked := unpackU16 (data.drop 2)
    let sizeMb := if asked = 0 then configuredImageSizeMb sub e.models else asked
    let transferId := e.dispatcher.s13TransferCounter
    updateDispatcher fun d => { d with
      s13TransferCounter := transferId + 1
      s13Transfers := d.s13Transfers.set transferId
        { transferId := transferId, sceneId := unpackU16 data, sizeMb := sizeMb,
          totalBlocks := (sizeMb * 1024 * 1024 + 1023) / 1024 } }
    let id ← fromExcept (packUnsigned 2 transferId)
    report 13 2 id
  else if subtype = 3 ∧ 4 ≤ data.length then do
    let e ← get
    let transferId := unpackU16 data
    let segment := unpackU16 (data.drop 2)
    match e.dispatcher.s13Transfers.get? transferId with
    | none => report 13 4 (packU16 transferId)
    | some transfer =>
        if transfer.status ≠ .active then pure []
        else do
          updateTransfers fun d => d.set transferId { transfer with blocksSent := segment + 1 }
          report 13 4 (packU16 transferId ++ packU16 segment ++ segmentBlock segment)
  else if subtype = 5 ∧ 2 ≤ data.length then do
    updateTransfers fun d => d.erase (unpackU16 data)
    pure []
  else if subtype = 9 ∧ 2 ≤ data.length then do
    let e ← get
    match e.dispatcher.s13Transfers.get? (unpackU16 data) with
    | none => pure []
    | some transfer => do
        let sent ← fromExcept (packUnsigned 4 transfer.blocksSent)
        let total ← fromExcept (packUnsigned 4 transfer.totalBlocks)
        report 13 10 (packU16 (unpackU16 data) ++ sent ++ total ++ packU8 transfer.status.code)
  else pure []

/-! ### Service 15 -/

/-- Change the stores. -/
def updateStorage (f : TmStorage.OnboardTMStorage TmPacket → TmStorage.OnboardTMStorage TmPacket) :
    Program M Unit :=
  modify fun e => { e with downlink := { e.downlink with storage := f e.downlink.storage } }

/-- `round(x, 1)` in tenths. -/
def tenthsOf : FloatValue → Int
  | .finite negative m e => nearest negative (m * 10) e
  | _ => 0

/-- The field `fill_pct_x10` of a store: the fill in per cent is rounded to tenths, scaled
and rounded again. -/
def fillField (count capacity : Nat) : Except PyError Nat :=
  let fillPct := if 0 < capacity then
      quotient (tenthsOf ((quotient count capacity).mul (floatOf 100))) 10
    else floatOf 0
  (fun n => min n.toNat 0xFFFF) <$> roundInt (fillPct.mul (floatOf 10))

/-- `name[:32].encode('ascii', 'replace')`. -/
def encodeName (name : String) : Bytes :=
  (name.toList.take 32).map fun c => if c.toNat < 128 then UInt8.ofNat c.toNat else 63

/-- One record of the status report. -/
def storeRecord (item : Nat × TmStorage.Store TmPacket) : Except PyError Bytes := do
  let s := item.2
  let fill ← fillField s.packets.length s.capacity
  let name := encodeName s.name
  pure (packU8 item.1 ++ packU16 s.packets.length ++ packU16 s.capacity ++ packU8 s.enabled.toNat ++
    packU16 fill ++ packU8 (s.overflow.toNat ||| s.circular.toNat <<< 1) ++ packU16 s.wrapCount ++
    packU8 name.length ++ name)

/-- `_handle_s15(subtype, data)`. -/
def handleS15 (subtype : Nat) (data : Bytes) : Program M (List TmPacket) :=
  if subtype = 1 ∧ 1 ≤ data.length then do
    updateStorage fun t => TmStorage.enableStore t (unpackU8 data)
    pure []
  else if subtype = 2 ∧ 1 ≤ data.length then do
    updateStorage fun t => TmStorage.disableStore t (unpackU8 data)
    pure []
  else if subtype = 9 ∧ 1 ≤ data.length then do
    let count ← queueDump (unpackU8 data)
    if 0 < count then generateS1Progress 0 count else pure []
  else if subtype = 11 ∧ 1 ≤ data.length then do
    updateStorage fun t => TmStorage.deleteStore t (unpackU8 data)
    pure []
  else if subtype = 13 then do
    let e ← get
    let stores := e.downlink.storage.items.mergeSort fun a b => a.1 ≤ b.1
    let count ← fromExcept (packUnsigned 1 stores.length)
    let records ← fromExcept (stores.mapM storeRecord)
    report 15 14 (count ++ records.flatten)
  else pure []

/-! ### Service 17 -/

/-- `_handle_s17(subtype, data)`. -/
def handleS17 (subtype : Nat) : Program M (List TmPacket) :=
  if subtype = 1 then do
    let e ← get
    (fun pkt => [pkt]) <$> building (buildConnectionTestReport (sub.obcTimeCuc e.models))
  else pure []

/-! ### Service 18 -/

/-- A command to the procedure manager, with the events it emits; emitting them cannot end
it. -/
def applyObcp (depth : Nat) (command : Obcp.Command) : Program M (List TmPacket) := do
  let e ← get
  let applied := e.obcpManager.apply command
  set { e with obcpManager := applied.1 }
  let notices := applied.1.log.drop e.obcpManager.log.length
  (notices.filterMap Obcp.Notice.event).forM (tryEmitEvent sub depth)
  match applied.2 with
  | some refusal => do
      makeErrorResponse refusal.errorCode refusal.message
      pure []
  | none => pure []

/-- One record of the procedure report. -/
def procedureRecord (m : Obcp.Manager) (item : Int × Obcp.Procedure) : Except PyError Bytes := do
  let run := m.running.get? item.1
  let id ← packUnsigned 2 item.1
  let status ← packUnsigned 1 (if run.isSome then 1 else 0)
  let step ← packUnsigned 1 ((run.map Obcp.Execution.stepIndex).getD 0 : Nat)
  let steps ← packUnsigned 1 item.2.steps.length
  pure (id ++ status ++ step ++ steps)

/-- `_handle_s18(subtype, data)`. -/
def handleS18 (depth : Nat) (subtype : Nat) (data : Bytes) : Program M (List TmPacket) :=
  if subtype = 1 ∧ 4 ≤ data.length then applyObcp sub depth (.loadBlob data)
  else if subtype = 2 ∧ 2 ≤ data.length then applyObcp sub depth (.delete (unpackU16 data))
  else if subtype = 3 ∧ 2 ≤ data.length then
    applyObcp sub depth (.start (unpackU16 data) (unpackU8 (data.drop 2)))
  else if subtype = 4 ∧ 2 ≤ data.length then applyObcp sub depth (.stop (unpackU16 data))
  else if subtype = 6 then do
    let e ← get
    let procedures := e.obcpManager.procedures.items.mergeSort fun a b => a.1 ≤ b.1
    let count ← fromExcept (packUnsigned 1 procedures.length)
    let records ← fromExcept (procedures.mapM (procedureRecord e.obcpManager))
    report 18 7 (count ++ records.flatten)
  else pure []

/-! ### Service 19 -/

/-- Install a rule and enable it. -/
def addRule (eaId : Nat) (rule : EventAction) : Program M Unit :=
  updateDispatcher fun d => { d with
    s19Definitions := d.s19Definitions.set eaId rule
    s19EnabledIds := d.s19EnabledIds.insert eaId }

/-- One record of the report of the rules. -/
def ruleRecord (enabled : List Nat) (item : Nat × EventAction) : Bytes :=
  packU16 item.1 ++ packU8 item.2.triggerKind ++ packU16 item.2.eventType ++
    packU8 item.2.actionFuncId ++ packU8 (enabled.contains item.1).toNat

/-- `_handle_s19(subtype, data)`. -/
def handleS19 (subtype : Nat) (data : Bytes) : Program M (List TmPacket) :=
  if subtype = 1 ∧ 6 ≤ data.length then
    let triggerKind := unpackU8 (data.drop 2)
    if triggerKind ≠ triggerKindEvent ∧ triggerKind ≠ triggerKindParam then
      generateS1ExecFail 0x0003 ("S19 trigger kind " ++ toString triggerKind ++
        " is not 0 (event) or 1 (parameter)")
    else do
      addRule (unpackU16 data)
        { eventType := unpackU16 (data.drop 3), triggerKind := triggerKind,
          actionFuncId := unpackU8 (data.drop 5) }
      pure []
  else if subtype = 1 ∧ 4 ≤ data.length then do
    addRule (unpackU16 data)
      { eventType := unpackU8 (data.drop 2), triggerKind := triggerKindEvent,
        actionFuncId := unpackU8 (data.drop 3) }
    pure []
  else if subtype = 2 ∧ 2 ≤ data.length then do
    updateDispatcher fun d => { d with
      s19Definitions := d.s19Definitions.erase (unpackU16 data)
      s19EnabledIds := d.s19EnabledIds.filter fun id => id ≠ unpackU16 data }
    pure []
  else if subtype = 4 ∧ 2 ≤ data.length then do
    updateDispatcher fun d =>
      if d.s19Definitions.contains (unpackU16 data) then
        { d with s19EnabledIds := d.s19EnabledIds.insert (unpackU16 data) }
      else d
    pure []
  else if subtype = 5 ∧ 2 ≤ data.length then do
    updateDispatcher fun d =>
      { d with s19EnabledIds := d.s19EnabledIds.filter fun id => id ≠ unpackU16 data }
    pure []
  else if subtype = 8 then do
    let e ← get
    let count ← fromExcept (packUnsigned 2 e.dispatcher.s19Definitions.size)
    report 19 128 (count ++
      e.dispatcher.s19Definitions.items.flatMap (ruleRecord e.dispatcher.s19EnabledIds))
  else pure []

/-! ### Service 20 -/

/-- The parameter of the pass override. -/
def overrideParam : Nat := 0x05FF

/-- `_handle_s20(subtype, data)`. -/
def handleS20 (subtype : Nat) (data : Bytes) : Program M (List TmPacket) :=
  if subtype = 1 ∧ 6 ≤ data.length then do
    modify fun e => { e with
      params := e.params.set (unpackU16 data) (.float (floatAt 2 data))
      overridePasses :=
        if unpackU16 data = overrideParam then truthy (floatAt 2 data) else e.overridePasses }
    pure []
  else if subtype = 3 ∧ 2 ≤ data.length then do
    let e ← get
    let value ← fromExcept ((e.params.get? (unpackU16 data)).getD zero).toFloat
    (fun pkt => [pkt]) <$>
      building (buildParamValueReport (unpackU16 data) value (sub.obcTimeCuc e.models))
  else pure []

/-! ### Dispatch -/

/-- The handler of a service. -/
def handle (depth service subtype : Nat) (data : Bytes) : Program M (List TmPacket) :=
  match service with
  | 2 => handleS2 sub subtype data
  | 3 => handleS3 sub subtype data
  | 5 => handleS5 subtype data
  | 6 => handleMemory sub subtype data
  | 8 => handleS8 sub (emitEvent sub depth) subtype data
  | 9 => handleS9 sub subtype data
  | 11 => handleS11 subtype data
  | 12 => handleS12 subtype data
  | 13 => handleS13 sub subtype data
  | 15 => handleS15 subtype data
  | 17 => handleS17 sub subtype
  | 18 => handleS18 sub depth subtype data
  | 19 => handleS19 subtype data
  | 20 => handleS20 sub subtype data
  | _ => pure []

/-- `DispatchResult.failure_kind`. -/
inductive FailureKind where
  | none
  | execution
  | execStart
  deriving DecidableEq, Repr

/-- `DispatchResult`. -/
structure DispatchResult where
  packets : List TmPacket
  errorCode : Int := 0
  reason : String := ""
  failureKind : FailureKind := .none

/-- What a dispatch returns, from its packets and the outcome accumulated. -/
def DispatchResult.of (packets : List TmPacket) (outcome : Accumulators) : DispatchResult :=
  if outcome.errReason ≠ "" then
    { packets := packets, errorCode := outcome.errCode, reason := outcome.errReason,
      failureKind := .execution }
  else
    match outcome.execFail with
    | some fail =>
        { packets := packets, errorCode := fail.errorCode, reason := fail.reason,
          failureKind := .execStart }
    | none => { packets := packets }

/-- `_dispatch_inner(service, subtype, data, primary_header)`. -/
def dispatchInner (depth service subtype : Nat) (data : Bytes) : Program M DispatchResult := do
  let packets ← tryCatch (handle sub depth service subtype data) fun error => do
    note (.raised error)
    pure []
  let e ← get
  pure (DispatchResult.of packets e.dispatcher.outcome)

/-- `dispatch(service, subtype, data, primary_header)`. -/
def dispatch (depth service subtype : Nat) (data : Bytes) (primary : PrimaryHeader) :
    Program M DispatchResult := do
  note (.dispatched service subtype)
  restoring Engine.frame Engine.setFrame do
    updateOutcome fun _ => { requestId := primary.sequenceCount }
    dispatchInner sub depth service subtype data

end Spacecraft
