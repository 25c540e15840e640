import MissionSim.ConstraintCheckers

/-!
# The activity scheduler

The scheduler validates its schedule against the passes, and runs the constraint checkers on it one
by one.
-/

namespace Planner

open Python
open scoped Timelines

variable {K : Type} [Field K] [LinearOrder K]

/-- `ActivityScheduler`. -/
structure ActivityScheduler (K : Type) where
  schedule : List (Activity K)
  dataParams : DataParams K

/-- The kinds of issues of a pass plan. -/
inductive IssueType
  | conflict
  | timeOverlap
  | preCondition
  | passBoundary
  | powerConstraint
  | dataConstraint
deriving DecidableEq, Repr

/-- An issue of `validate_pass_plan`. -/
structure Issue where
  activityId : Option Nat
  type : IssueType
  message : String
deriving DecidableEq, Repr

/-- What evaluates pre-conditions, besides the host. -/
structure CondHost (K : Type) where
  /-- The groups of `^\s*([\w.]+)\s*([><=!]+)\s*([\d.eE+-]+)\s*$`. -/
  condRe : String → Option (String × String × String)
  /-- `float(s)`. -/
  float : String → Option K

namespace ActivityScheduler

variable (host : Host K) (cond : CondHost K) (s : ActivityScheduler K)

/-- `check_conflicts(activity)`. -/
def checkConflicts (activity : Activity K) : List String :=
  s.schedule.filterMap fun existing =>
    if existing.live ∧ activity.startTime ≠ "" ∧ existing.startTime ≠ "" ∧
        (existing.name ∈ activity.conflictsWith ∨ activity.name ∈ existing.conflictsWith) then
      some ("Conflicts with " ++ existing.name ++ " (id=" ++ toString existing.id ++ ")")
    else none

/-- The overlap of an activity from one moment to another with an existing one. -/
def overlapWith (activity : Activity K) (start stop : Moment K) (existing : Activity K) :
    Option String :=
  if existing.live ∧ existing.id ≠ activity.id then
    (host.moment existing.startTime).bind fun exStart =>
      if start.time < (exStart.after existing.durationS).time ∧ exStart.time < stop.time then
        some ("Time overlap with '" ++ existing.name ++ "' (id=" ++ toString existing.id ++ ", " ++
          existing.startTime ++ " +" ++ host.str existing.durationS ++ "s)")
      else none
  else none

/-- `check_time_overlap(activity)`. -/
def checkTimeOverlap (activity : Activity K) : List String :=
  match host.moment activity.startTime with
  | none => []
  | some start =>
    s.schedule.filterMap (overlapWith host activity start (start.after activity.durationS))

/-- Whether a comparison of a pre-condition holds, if its operator is known. -/
def satisfied (op : String) (actual threshold : K) : Option Bool :=
  if op = ">" then some (threshold < actual)
  else if op = ">=" then some (threshold ≤ actual)
  else if op = "<" then some (actual < threshold)
  else if op = "<=" then some (actual ≤ threshold)
  else if op = "==" ∨ op = "=" then some (|actual - threshold| < 1 / 1000000)
  else if op = "!=" ∨ op = "<>" then some (1 / 1000000 ≤ |actual - threshold|)
  else none

/-- What is unmet of one pre-condition. -/
def unmet (telemetry : Dict String K) (text : String) : Option String :=
  match cond.condRe text with
  | none => some ("Unparseable pre-condition: " ++ text)
  | some (paramName, op, thresholdS) =>
    match cond.float thresholdS with
    | none => some ("Invalid threshold in: " ++ text)
    | some threshold =>
      match telemetry.get? paramName with
      | none => some ("Telemetry '" ++ paramName ++ "' not available for: " ++ text)
      | some actual =>
        match satisfied op actual threshold with
        | none => some ("Unknown operator '" ++ op ++ "' in: " ++ text)
        | some true => none
        | some false =>
          some ("Pre-condition NOT met: " ++ text ++ " (actual " ++ paramName ++ "=" ++
            host.fixed 2 actual ++ ")")

/-- `check_pre_conditions(activity, telemetry)`. -/
def checkPreConditions (activity : Activity K) (telemetry : Option (Dict String K)) :
    List String :=
  match telemetry with
  | none => []
  | some telemetry => activity.preConditions.filterMap (unmet host cond telemetry)

/-- The pass boundary that an activity goes past. -/
def passBoundary (contacts : List (DataBudget.Contact K)) (activity : Activity K) :
    Option String :=
  activity.passId.bind fun passId =>
    if 1 ≤ passId then
      contacts[passId.toNat - 1]?.bind fun contact =>
        (host.moment contact.los).bind fun los =>
          (host.moment activity.startTime).bind fun actStart =>
            let actEnd := actStart.after activity.durationS
            if los.time < actEnd.time then
              some ("Activity extends past LOS (" ++ host.iso actEnd ++ " > " ++ host.iso los ++
                ") for pass " ++ toString passId)
            else none
    else none

/-- What `validate_pass_plan` is given. -/
structure PassInputs (K : Type) where
  contacts : List (DataBudget.Contact K)
  /-- The warnings of a power budget. -/
  powerWarnings : List String := []
  /-- The warnings of a data budget. -/
  dataWarnings : List String := []
  telemetry : Option (Dict String K) := none

/-- The issues of one activity. -/
def activityIssues (inputs : PassInputs K) (activity : Activity K) : List Issue :=
  if activity.live then
    (s.checkConflicts activity).map (fun c => ⟨some activity.id, .conflict, c⟩) ++
      (s.checkTimeOverlap host activity).map (fun o => ⟨some activity.id, .timeOverlap, o⟩) ++
      (checkPreConditions host cond activity inputs.telemetry).map
        (fun p => ⟨some activity.id, .preCondition, p⟩) ++
      ((passBoundary host inputs.contacts activity).map
        fun b => (⟨some activity.id, .passBoundary, b⟩ : Issue)).toList
  else []

/-- `validate_pass_plan(contacts, power_budget, data_budget, telemetry)`. -/
def validatePassPlan (inputs : PassInputs K) : List Issue :=
  s.schedule.flatMap (s.activityIssues host cond inputs) ++
    inputs.powerWarnings.map (fun w => ⟨none, .powerConstraint, w⟩) ++
    inputs.dataWarnings.map (fun w => ⟨none, .dataConstraint, w⟩)

/-! ### Constraints -/

/-- `imaging_activities`. -/
def imagingActivities : List (Activity K) := s.schedule.filter fun a => host.names "imaging" a.name

/-- `check_aocs_constraints()`: slew and momentum. -/
def checkAocsConstraints : List ConstraintViolation × List ConstraintViolation :=
  let checker : AOCSConstraintChecker K := .default
  (checker.checkSlewConstraints host (s.imagingActivities host),
    checker.checkMomentumBudget host s.schedule)

/-- `check_thermal_constraints()`: duty cycle and cooldown. -/
def checkThermalConstraints : List ConstraintViolation × List ConstraintViolation :=
  let checker : ThermalConstraintChecker K := .default
  (checker.checkPayloadDutyCycle host s.schedule, checker.checkCooldownPeriods host s.schedule)

/-- `check_data_volume_constraints(current_onboard_mb)`. -/
def checkDataVolumeConstraints (currentOnboardMb : K) : Option (List ConstraintViolation) :=
  (DataVolumeConstraintChecker.fromParams s.dataParams).checkStorageCapacity host s.schedule
    currentOnboardMb

/-- `validate_constraints(contacts, ground_track, battery_soc_percent)`. -/
def validateConstraints (groundTrack : List (TrackPoint K)) (batterySocPercent : K) :
    Option (ValidationResult K) :=
  validatePlan host s.schedule
    { groundTrack := groundTrack
      batterySocPercent := batterySocPercent
      dataParams := s.dataParams }

end ActivityScheduler

end Planner
