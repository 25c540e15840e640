import MissionSim.CommandFrame
import MissionSim.TcIntake

/-!
# On-board monitoring

Service 12 at work.  Every sub-step evaluates the definitions: an absolute check is about the
value of the parameter, a delta check about its change since the evaluation before.  What is
found exceeded is compared with what was exceeded before, and the transitions are reported.

The definitions are changed from ground, by `handleS12`.
-/

namespace Spacecraft

open Octets Binary32 Python Effects TmBuilder
open Obcp (Event)

variable {M : Type} (sub : Subsystems M)

/-! ### Evaluating the definitions -/

/-- A number as it is compared, which is exact. -/
def exactNumber : Value → Except PyError FloatValue
  | .int n => .ok (.finite (decide (n < 0)) n.natAbs 0)
  | .float x => .ok x
  | .none | .other => .error .typeError

/-- `value - last_value`. -/
def minus : Value → Value → Except PyError Value
  | .int a, .int b => .ok (.int (a - b))
  | a, b => do
      let x ← a.toFloat
      let y ← b.toFloat
      pure (.float (x.sub y))

/-- `S12_CHECK_DELTA`. -/
def s12CheckDelta : Nat := 1

/-- `severity_map.get(severity, 2)`. -/
def severityLevel (severity : String) : Nat :=
  if severity = "INFO" then 1
  else if severity = "WARNING" then 2
  else if severity = "ALARM" then 3
  else if severity = "HIGH" then 4
  else 2

/-- The violation of a definition by what is checked of a value. -/
def violationOf (monId : Nat) (defn : MonitorDefinition) (rawValue checked : Value) :
    Except PyError (Option Violation) := do
  let x ← exactNumber checked
  if x.lt defn.lowLimit ∨ defn.highLimit.lt x then
    pure (some
      { paramId := defn.paramId, monId := monId, value := checked, rawValue := rawValue,
        lowLimit := defn.lowLimit, highLimit := defn.highLimit, checkType := defn.checkType,
        severity := severityLevel defn.severity, name := defn.name,
        description := defn.description })
  else pure none

/-- A delta check against a baseline; without one there is nothing to violate. -/
def deltaAgainst (baseline : Option Value) (monId : Nat) (defn : MonitorDefinition)
    (value : Value) : Except PyError (Option Violation) :=
  match baseline with
  | none => .ok none
  | some last => do
      let change ← minus value last
      violationOf monId defn value change

/-- What is found of a value. -/
def judgeValue (monId : Nat) (defn : MonitorDefinition) (value : Value) :
    Except PyError (Option Violation) :=
  if defn.checkType = s12CheckDelta then deltaAgainst defn.lastValue monId defn value
  else violationOf monId defn value value

/-- What a sub-step reads of a definition's parameter: nothing, nothing that is powered, or
its value. -/
def sampleOf (params : Dict Nat Value) (powered : Nat → Bool) (defn : MonitorDefinition) :
    Option (Option Value) :=
  if defn.enabled then
    match params.get? defn.paramId with
    | none | some .none => none
    | some value => some (if powered defn.paramId then some value else none)
  else none

/-- The evaluation of one definition: its new last value, and what is found. -/
def checkDefinition (params : Dict Nat Value) (powered : Nat → Bool) (monId : Nat)
    (defn : MonitorDefinition) : MonitorDefinition × Except PyError (Option Violation) :=
  match sampleOf params powered defn with
  | none => (defn, .ok none)
  | some none => ({ defn with lastValue := none }, .ok none)
  | some (some value) => ({ defn with lastValue := some value }, judgeValue monId defn value)

/-- The evaluation of the definitions in turn; an exception ends it. -/
def checkItems (params : Dict Nat Value) (powered : Nat → Bool) :
    List (Nat × MonitorDefinition) →
      List (Nat × MonitorDefinition) × Except PyError (List Violation)
  | [] => ([], .ok [])
  | item :: rest =>
      match checkDefinition params powered item.1 item.2 with
      | (defn, .error e) => ((item.1, defn) :: rest, .error e)
      | (defn, .ok found) =>
          let checked := checkItems params powered rest
          ((item.1, defn) :: checked.1, checked.2.map fun more => found.toList ++ more)

theorem checkItems_keys (params : Dict Nat Value) (powered : Nat → Bool)
    (items : List (Nat × MonitorDefinition)) :
    (checkItems params powered items).1.map Prod.fst = items.map Prod.fst := by
  induction items with
  | nil => rfl
  | cons item rest ih =>
      unfold checkItems
      split
      · rfl
      · exact congrArg (item.1 :: ·) ih

theorem checkItems_nodup (params : Dict Nat Value) (powered : Nat → Bool)
    (d : Dict Nat MonitorDefinition) :
    ((checkItems params powered d.items).1.map Prod.fst).Nodup :=
  (checkItems_keys params powered d.items).symm ▸ d.nodup

/-- The definitions after an evaluation. -/
def checkedDefinitions (params : Dict Nat Value) (powered : Nat → Bool)
    (d : Dict Nat MonitorDefinition) : Dict Nat MonitorDefinition :=
  ⟨(checkItems params powered d.items).1, checkItems_nodup params powered d⟩

/-- What the evaluation in the present state finds. -/
def findings (e : Engine M) : Except PyError (List Violation) :=
  if e.dispatcher.s12Enabled then
    (checkItems e.params (paramSourcePowered sub e.models) e.dispatcher.s12Definitions.items).2
  else .ok []

/-- `check_monitoring()`. -/
def checkMonitoring : Program M (List Violation) := do
  let e ← get
  if e.dispatcher.s12Enabled then do
    updateDispatcher fun d => { d with
      s12Definitions :=
        checkedDefinitions e.params (paramSourcePowered sub e.models) d.s12Definitions }
    fromExcept (findings sub e)
  else pure []

/-! ### Reporting the transitions -/

/-- `build_s12_transition_report(violation, entered)`. -/
def buildS12TransitionReport (v : Violation) (entered : Bool) :
    EStateM PyError Builder TmPacket := do
  let value ← fromExcept ((if v.value.truthy then v.value else zero).toFloat >>= packFloat)
  let low ← fromExcept (packFloat v.lowLimit)
  let high ← fromExcept (packFloat v.highLimit)
  packTm 12 (if entered then 9 else 10)
    (packU16 v.paramId ++ value ++ packU16 v.monId ++ packU8 v.checkType ++ packU8 v.severity ++
      low ++ high)

/-- `_emit_s12_transition(violation, entered)`: a report that cannot be built is left out. -/
def emitS12Transition (v : Violation) (entered : Bool) : Program M Unit := do
  let pkt ← tryCatch (some <$> building (buildS12TransitionReport v entered)) fun _ => pure none
  match pkt with
  | none => pure ()
  | some pkt => do
      note (.transition v.monId entered)
      enqueueTm pkt

/-- `_TTC_SIGNAL_PARAMS`. -/
def ttcSignalParams : List Nat := [0x0502, 0x0503, 0x0519, 0x050C]

/-- `f"{x:.2f}"`. -/
def fixedTwo : FloatValue → String
  | .finite negative m e =>
      let hundredths := roundAt 0 (m * 100) e
      let digits := toString (hundredths % 100)
      (if negative then "-" else "") ++ toString (hundredths / 100) ++ "." ++
        (if digits.length < 2 then "0" ++ digits else digits)
  | .infinite negative => if negative then "-inf" else "inf"
  | .nan _ _ => "nan"

/-- A limit that is found exceeded: reported unless it is so already, or an override makes
nothing of it. -/
def enterViolation (depth : Nat) (v : Violation) : Program M Unit := do
  let e ← get
  if v.monId ∈ e.s12ViolationActive then pure ()
  else if e.overridePasses ∧ v.paramId ∈ ttcSignalParams then pure ()
  else do
    emitS12Transition v true
    let value ← fromExcept v.value.toFloat
    emitEvent sub depth
      { eventId := 0x9000 ||| (v.paramId &&& 0x0FFF), severity := v.severity,
        description := v.name ++ ": " ++ v.description ++ " | value=" ++ fixedTwo value ++
          " limits=[" ++ fixedTwo v.lowLimit ++ ", " ++ fixedTwo v.highLimit ++ "]" }

/-- The report of a limit that is no longer found exceeded, from the record of it. -/
def reportCleared : Option Violation → Program M Unit
  | some record => emitS12Transition record false
  | none => pure ()

/-- A limit that is no longer found exceeded. -/
def clearViolation (depth : Nat) (monId : Nat) : Program M Unit := do
  let e ← get
  set { e with s12ViolationRecords := e.s12ViolationRecords.erase monId }
  reportCleared (e.s12ViolationRecords.get? monId)
  emitEvent sub depth
    { eventId := 0xA000 ||| (monId &&& 0x0FFF), severity := 1,
      description := "S12 mon " ++ toString monId ++ ": parameter returned to nominal" }

/-- The monitors of violations. -/
def monitorsOf (violations : List Violation) : List Nat := violations.map Violation.monId

/-- The records with those of the violations. -/
def recorded (records : Dict Nat Violation) (violations : List Violation) : Dict Nat Violation :=
  violations.foldl (fun d v => d.set v.monId v) records

/-- `_tick_s12_monitoring()`.  The cleared monitors are gone through in the order of a set,
which is not specified; each is reported by itself. -/
def tickS12Monitoring (depth : Nat) : Program M Unit := do
  let violations ← checkMonitoring sub
  modify fun e => { e with s12ViolationRecords := recorded e.s12ViolationRecords violations }
  violations.forM (enterViolation sub depth)
  let e ← get
  (e.s12ViolationActive.filter fun monId => monId ∉ monitorsOf violations).forM
    (clearViolation sub depth)
  modify fun e => { e with s12ViolationActive := monitorsOf violations }

/-! ### Runs -/

/-- What happens to the monitoring: a request of service 12, a change of the parameters, of
the models or of the override, and a sub-step. -/
inductive MonitoringOp (M : Type) where
  | request (subtype : Nat) (data : Bytes)
  | situation (params : Dict Nat Value) (models : M) (overridePasses : Bool)
  | tick

/-- One operation. -/
def monitor (depth : Nat) (e : Engine M) : MonitoringOp M → Engine M
  | .request subtype data => finalState (handleS12 subtype data) e
  | .situation params models overridePasses =>
      { e with params := params, models := models, overridePasses := overridePasses }
  | .tick => finalState (tickS12Monitoring sub depth) e

end Spacecraft
