import MissionSim.Engine

/-!
# Commands to the models, events and event-actions

How the dispatcher gives commands to the models and records what they refuse, and how an
event comes to run a function: emitting it triggers the enabled rules of service 19 on it,
each of which runs a function of service 8, which may emit an event in turn.

The nesting of events is bounded by the depth of Python's stack; beyond it a
`RecursionError` is raised.
-/

namespace Spacecraft

open Octets Binary32 Python Effects Memory TmBuilder
open Obcp (Event)

variable {M : Type} (sub : Subsystems M)

/-! ### Outcomes and reports -/

/-- Change the outcome of the dispatch under way. -/
def updateOutcome (f : Accumulators → Accumulators) : Program M Unit :=
  updateDispatcher fun d => { d with outcome := f d.outcome }

/-- `_make_error_response(result)`. -/
def makeErrorResponse (errorCode : Int) (message : String) : Program M Unit :=
  updateOutcome fun o => { o with errReason := message, errCode := errorCode }

/-- Answer with one packet. -/
def report (service subtype : Nat) (data : Bytes) (cuc : Int := 0) : Program M (List TmPacket) :=
  (fun pkt => [pkt]) <$> building (packTm service subtype data cuc)

/-- `generate_s1_progress(request_id, step)`. -/
def generateS1Progress (requestId step : Nat) : Program M (List TmPacket) := do
  let field ← fromExcept (packUnsigned 1 step)
  report 1 5 (packU16 requestId ++ field)

/-- `generate_s1_exec_fail(self._request_id, error_code, reason)`. -/
def generateS1ExecFail (errorCode : Nat) (reason : String) : Program M (List TmPacket) := do
  updateOutcome fun o => { o with execFail := some { errorCode := errorCode, reason := reason } }
  let e ← get
  report 1 4 (packU16 e.dispatcher.outcome.requestId ++ packU16 errorCode ++
    encodeFailureReason reason)

/-- `generate_s1_reports(request_id, service, subtype)`. -/
def generateS1Reports (requestId : Nat) : Program M (List TmPacket) :=
  report 1 3 (packU16 requestId)

/-! ### Commands -/

/-- `_cmd(subsystem, cmd)`. -/
def cmd (model : String) (command : Command) : Program M Reply := do
  let e ← get
  if sub.present e.models model then do
    note (.command e.byRule model command)
    let reply ← onModels (sub.handleCommand e.params e.simTime model command)
    if reply.refuses then do
      makeErrorResponse (reply.errorCode.getD 0x0001) (reply.message.getD "Unknown error")
      pure reply
    else pure reply
  else pure {}

/-- Whether a guarded command is given, after the reply before it. -/
def Guard.holds (last : Reply) (outcome : Accumulators) : Guard → Bool
  | .always => true
  | .succeeded => last.succeeds
  | .noRefusal => outcome.errReason == ""

/-- Give commands, one after another. -/
def runCalls : List Call → Reply → Program M Unit
  | [], _ => pure ()
  | call :: rest, last => do
      let e ← get
      if call.guard.holds last e.dispatcher.outcome then do
        let reply ← cmd sub call.model call.command
        runCalls rest reply
      else runCalls rest last

/-- `f"{x:.1f}"`. -/
def fixedOne : FloatValue → String
  | .finite negative m e =>
      let tenths := roundAt 0 (m * 10) e
      (if negative then "-" else "") ++ toString (tenths / 10) ++ "." ++ toString (tenths % 10)
  | .infinite negative => if negative then "-inf" else "inf"
  | .nan _ _ => "nan"

/-- The branch GPS time sync of `_route_obdh_cmd`: a large jump of the clock sends the AOCS
to SAFE_BOOT. -/
def gpsTimeSync (emit : Event → Program M Unit) : Program M (List TmPacket) := do
  let reply ← cmd sub "obdh" { name := "gps_time_sync" }
  if reply.succeeds then do
    let jump ← fromExcept (reply.value "time_jump_s" zero).toFloat
    let e ← get
    if (floatOf 5).lt jump.abs ∧ sub.present e.models "aocs" ∧ sub.hasState e.models "aocs" then do
      set { e with models := sub.forceSafeBoot e.models }
      emit { eventId := 0x020F, severity := 3,
             description := "AOCS forced to SAFE_BOOT: GPS time sync jump " ++ fixedOne jump ++ "s" }
      pure []
    else pure []
  else pure []

/-- What a router does. -/
def perform (emit : Event → Program M Unit) : Action → Program M (List TmPacket)
  | .calls calls => do
      runCalls sub calls {}
      pure []
  | .refuse errorCode message => do
      makeErrorResponse errorCode message
      pure []
  | .execFail message => generateS1ExecFail errBadArgument message
  | .query call answer => do
      let reply ← cmd sub call.model call.command
      match ← fromExcept (answer reply) with
      | some (subtype, data) => report 8 subtype data
      | none => pure []
  | .gpsTimeSync => gpsTimeSync sub emit

/-- `_handle_s8(subtype, data)`. -/
def handleS8 (emit : Event → Program M Unit) (subtype : Nat) (data : Bytes) :
    Program M (List TmPacket) :=
  match data with
  | [] => pure []
  | funcId :: args =>
      if subtype ≠ 1 then pure []
      else
        match route funcId.toNat with
        | none => pure []
        | some r => do
            let e ← get
            if r.model.all (sub.present e.models) then
              perform sub emit (functionAction (sub.defaultRate e.models) funcId.toNat args r)
            else pure []

/-! ### Event-actions -/

/-- `TRIGGER_KIND_EVENT`. -/
def triggerKindEvent : Nat := 0

/-- `TRIGGER_KIND_PARAM`. -/
def triggerKindParam : Nat := 1

/-- `_OBC_CRITICAL_FUNCS`. -/
def obcCriticalFuncs : List Nat := [52, 53, 55, 56]

/-- The outcome under way, and whether a rule is being executed. -/
def Engine.frame (e : Engine M) : Accumulators × Bool := (e.dispatcher.outcome, e.byRule)

def Engine.setFrame (frame : Accumulators × Bool) (e : Engine M) : Engine M :=
  { e with dispatcher := { e.dispatcher with outcome := frame.1 }, byRule := frame.2 }

/-- `_s19_dispatch(ea_id, func_id, action_data)`. -/
def s19Dispatch (emit : Event → Program M Unit) (rule : EventAction) : Program M Unit := do
  let e ← get
  if rule.actionFuncId ∈ obcCriticalFuncs ∧ sub.swImage e.models = 0 then pure ()
  else
    restoring Engine.frame Engine.setFrame do
      modify (Engine.setFrame ({ requestId := e.dispatcher.outcome.requestId }, true))
      if rule.actionFuncId < 256 then do
        let _ ← handleS8 sub emit 1 (UInt8.ofNat rule.actionFuncId :: rule.actionData)
        pure ()
      else throw .valueError

/-- `trigger_event_action(trigger_id, kind)`. -/
def triggerEventAction (emit : Event → Program M Unit) (triggerId kind : Nat) :
    Program M Unit := do
  let e ← get
  e.dispatcher.s19Definitions.items.forM fun item => do
    let e ← get
    if item.1 ∈ e.dispatcher.s19EnabledIds ∧ item.2.triggerKind = kind ∧
        item.2.eventType = triggerId then
      s19Dispatch sub emit item.2
    else pure ()

/-- The alarm store's copy of an event. -/
def storeAlarm (pkt : TmPacket) (severity : Nat) : Program M Unit := do
  let e ← get
  if 2 ≤ severity then do
    let swImage ← fromExcept e.swImageParam
    if swImage ≠ 0 then
      set { e with downlink := { e.downlink with
        storage := (TmStorage.storeAlarm e.downlink.storage pkt e.simTime).1 } }
    else pure ()
  else pure ()

/-- What an event triggers: a limit violation is an event with the parameter in its
identifier. -/
def eventTrigger (eventId : Nat) : Nat × Nat :=
  if eventId &&& 0xF000 = 0x9000 then (eventId &&& 0x0FFF, triggerKindParam)
  else (eventId, triggerKindEvent)

/-- `_emit_event(ev)`. -/
def emitEvent : Nat → Event → Program M Unit
  | 0, _ => throw .recursionError
  | depth + 1, ev => do
      let e ← get
      let pkt ← building (buildEventPacket ev.eventId ev.severity ev.description
        (sub.obcTimeCuc e.models))
      enqueueTm pkt
      storeAlarm pkt ev.severity
      triggerEventAction sub (emitEvent depth) (eventTrigger ev.eventId).1
        (eventTrigger ev.eventId).2

/-- Emit an event; an exception is logged and forgotten. -/
def tryEmitEvent (depth : Nat) (ev : Event) : Program M Unit :=
  tryCatch (emitEvent sub depth ev) fun _ => pure ()

end Spacecraft
