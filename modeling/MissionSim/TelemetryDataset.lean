import MissionSim.Python
import Mathlib.Data.List.Sort
import Mathlib.Data.Rat.Floor
import Mathlib.Tactic.NormNum

/-!
# The decoded telemetry of a report

A report is made from dumps, decoded once.  What is timed is on the axis of the on-board time: the
times of housekeeping packets, parameter samples, events, transitions of monitored limits and
verification reports.  All views are taken over a period of that time.
-/

namespace Reporting

open Python Binary32

/-! ### Decoded packets -/

/-- A decoded event. -/
structure Event where
  t : ℚ
  timeEstimated : Bool := false
  eventId : Nat
  severity : Nat
  auxText : String := ""
  /-- The parameter, for an event that stands for a transition. -/
  s12ParamId : Option Nat := none
deriving DecidableEq, Repr

/-- What only the long form of a transition reports. -/
structure MonitorFields where
  monId : Nat
  checkType : Nat
  severity : Nat
  lowLimit : FloatValue
  highLimit : FloatValue
deriving DecidableEq, Repr

/-- A transition of a monitored limit, out of limits or back. -/
structure Transition where
  t : ℚ
  timeEstimated : Bool := false
  paramId : Nat
  value : FloatValue
  entered : Bool
  /-- Absent in the historical short form. -/
  monitor : Option MonitorFields := none
deriving DecidableEq, Repr

/-- A verification report of a command. -/
structure Verification where
  t : ℚ
  timeEstimated : Bool := false
  subtype : Nat
  requestId : Nat
  tcApid : Nat
  tcSeq : Nat
  errorCode : Nat := 0
  reason : String := ""
deriving DecidableEq, Repr

/-- What the reports read of the dumps. -/
structure TelemetryDataset where
  /-- The samples of each parameter. -/
  series : Dict Nat (List (ℚ × ℚ)) := Dict.empty
  /-- The times of the housekeeping packets of each structure. -/
  hkTimes : Dict Nat (List ℚ) := Dict.empty
  events : List Event := []
  s12Transitions : List Transition := []
  verifications : List Verification := []

/-- A window of on-board time. -/
structure Period where
  startCuc : ℚ
  endCuc : ℚ
  kind : String := ""
  label : String := ""
deriving DecidableEq, Repr

/-- `period.start_cuc <= t <= period.end_cuc`. -/
def Period.contains (p : Period) (t : ℚ) : Bool := p.startCuc ≤ t && t ≤ p.endCuc

/-! ### Catalogues -/

/-- The parts of the ground catalogues that are read here. -/
structure Catalogs where
  /-- The name in the definition of a parameter, where it has one. -/
  paramsById : Dict Nat (Option String) := Dict.empty
  paramsByName : Dict String Nat := Dict.empty
  tleLine2 : String := ""
  t0Epoch : Option String := none

/-- `param_name(pid)`. -/
def Catalogs.paramName (c : Catalogs) (pid : Nat) : String :=
  ((c.paramsById.get? pid).join).getD ("0x" ++ hexUpper 4 pid)

/-! ### What is taken from outside -/

structure Host where
  /-- `isoformat()` of whole seconds since the epoch, if a `datetime` can hold them. -/
  isoformat : Int → Option String
  /-- `_iso_to_cuc(s)`. -/
  isoToCuc : String → ℚ
  /-- The eighth field of line 2 of the elements, a decimal number. -/
  motionField : String → Option ℚ
  /-- `float(s)`, or nothing on a `ValueError`. -/
  float : String → Option ℚ
  /-- `round(x, n)`. -/
  round : Nat → ℚ → ℚ
  /-- `passes_in(dataset, catalogs)`: acquisition, loss and station. -/
  passesIn : TelemetryDataset → Catalogs → List (ℚ × ℚ × String)

/-- `int(x)`. -/
def whole (x : ℚ) : Int := if 0 ≤ x then ⌊x⌋ else ⌈x⌉

/-- `cuc_to_utc_str(cuc)`. -/
def Host.utc (host : Host) (cuc : ℚ) : String := (host.isoformat (whole cuc)).getD "--"

/-- `s[a:b]`. -/
def slice (a b : Nat) (s : String) : String := String.ofList ((s.toList.take b).drop a)

/-- The mean motion of line 2 (rev/day), or the columns in which it stands. -/
def Host.meanMotion (host : Host) (line2 : String) : Option ℚ :=
  let motion := host.motionField line2
  if (motion = none ∨ motion = some 0) ∧ 63 ≤ line2.length then host.float (slice 52 63 line2)
  else motion

/-- `orbit_period_s(catalogs)`. -/
def Host.orbitPeriodS (host : Host) (catalogs : Catalogs) : ℚ :=
  match host.meanMotion catalogs.tleLine2 with
  | some motion => if motion = 0 then 5670 else 86400 / motion
  | none => 5670

/-- Only a negative mean motion gives a period that is not positive. -/
theorem Host.orbitPeriodS_pos_iff (host : Host) (catalogs : Catalogs) :
    0 < host.orbitPeriodS catalogs ↔
      ∀ motion, host.meanMotion catalogs.tleLine2 = some motion → 0 ≤ motion := by
  unfold orbitPeriodS
  cases host.meanMotion catalogs.tleLine2 with
  | none => simp
  | some motion =>
      by_cases hzero : motion = 0
      · simp [hzero]
      · simp only [if_neg hzero, Option.some.injEq, forall_eq']
        rw [div_pos_iff_of_pos_left (by norm_num)]
        exact ⟨le_of_lt, fun h => lt_of_le_of_ne h (Ne.symm hzero)⟩

/-! ### Views -/

/-- `series_for(pid, start, end)`. -/
def TelemetryDataset.seriesFor (ds : TelemetryDataset) (pid : Nat) (start stop : ℚ) :
    List (ℚ × ℚ) :=
  ((ds.series.get? pid).getD []).filter fun pt => start ≤ pt.1 && pt.1 ≤ stop

/-- `events_in(start, end, severity_min)`. -/
def TelemetryDataset.eventsIn (ds : TelemetryDataset) (start stop : ℚ) (severityMin : Nat) :
    List Event :=
  ds.events.filter fun e => !(e.t < start) && !(stop < e.t) && !(e.severity < severityMin)

/-! ### Commands -/

/-- A row of the command history. -/
structure CommandRow where
  requestId : Nat
  apid : Nat
  seq : Nat
  t : ℚ
  timeEstimated : Bool
  accept : String := "--"
  execute : String := "--"
  errorCode : Nat := 0
  reason : String := ""
  subtypes : List Nat := []
deriving DecidableEq, Repr

/-- The outcome that the subtypes of the reports tell. -/
def CommandRow.outcome (row : CommandRow) : String :=
  if 2 ∈ row.subtypes then "REJECTED"
  else if 4 ∈ row.subtypes ∨ 8 ∈ row.subtypes then "FAILED"
  else if 7 ∈ row.subtypes then "COMPLETED"
  else if 1 ∈ row.subtypes then "ACCEPTED"
  else "NO_VERIFICATION"

/-- One report added to the row of its request. -/
def CommandRow.add (row : CommandRow) (v : Verification) : CommandRow :=
  { row with
    t := min row.t v.t
    subtypes := row.subtypes ++ [v.subtype]
    accept := if v.subtype = 1 then "OK" else if v.subtype = 2 then "FAIL" else row.accept
    execute :=
      if v.subtype = 7 then "OK"
      else if v.subtype = 3 ∨ v.subtype = 5 then
        if row.execute = "" then "RUNNING" else row.execute
      else if v.subtype = 4 ∨ v.subtype = 8 then "FAIL"
      else row.execute
    errorCode := if v.errorCode = 0 then row.errorCode else v.errorCode
    reason := if v.reason = "" then row.reason else v.reason }

/-- `by_req` after one report. -/
def byRequest (rows : Dict Nat CommandRow) (v : Verification) : Dict Nat CommandRow :=
  let row := (rows.get? v.requestId).getD
    { requestId := v.requestId, apid := v.tcApid, seq := v.tcSeq, t := v.t,
      timeEstimated := v.timeEstimated }
  rows.set v.requestId (row.add v)

/-- `commands_view(dataset, period)`. -/
def commandsView (ds : TelemetryDataset) (period : Period) : List CommandRow :=
  let rows := (ds.verifications.filter fun v => period.contains v.t).foldl byRequest Dict.empty
  rows.values.insertionSort fun a b => a.t ≤ b.t

end Reporting
