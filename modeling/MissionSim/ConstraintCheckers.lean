import MissionSim.PlanData
import MissionSim.Neighbours

/-!
# The constraint checkers

Each checker walks the schedule, or pairs of it, and reports violations.  `validate_plan` puts the
reports of all of them together.

Numbers are of an ordered field, so that arithmetic is exact.
-/

namespace Planner

open Python Neighbours
open scoped Timelines

variable {K : Type} [Field K] [LinearOrder K]

/-! ### Violations -/

inductive Severity
  | error
  | warning
deriving DecidableEq, Repr

/-- `ConstraintViolation`. -/
structure ConstraintViolation where
  checkerName : String
  severity : Severity
  activityId : Nat
  activityName : String
  message : String
  suggestedFix : String
deriving DecidableEq, Repr

variable (host : Host K)

/-! ### Power -/

/-- `PowerConstraintChecker`; the bus capacity is not read by a check of the plan. -/
structure PowerConstraintChecker (K : Type) where
  batteryCapacityWh : K
  minSocPercent : K
  solarArrayMaxW : K

/-- `PowerConstraintChecker()`. -/
def PowerConstraintChecker.default : PowerConstraintChecker K where
  batteryCapacityWh := 1120
  minSocPercent := 20
  solarArrayMaxW := 280

/-- An entry of `soc_timeline`. -/
structure SocEntry (K : Type) where
  activityId : Nat
  activityName : String
  startTime : String
  socBefore : K
  socAfter : K

/-- What the check of the plan carries. -/
structure PowerCheck (K : Type) where
  socWh : K
  socTimeline : List (SocEntry K)
  violations : List ConstraintViolation

namespace PowerConstraintChecker

variable (c : PowerConstraintChecker K)

/-- The violation of an activity that leaves too little. -/
def socViolation (a : Activity K) (socPercent : K) : ConstraintViolation where
  checkerName := "PowerConstraintChecker"
  severity := .error
  activityId := a.id
  activityName := a.name
  message := "Activity would result in SoC of " ++ host.fixed 1 socPercent ++
    "% (below minimum " ++ host.str c.minSocPercent ++ "%)"
  suggestedFix := "Delay activity or reduce power consumption; need " ++
    host.fixed 1 (socPercent - c.minSocPercent) ++ "% more charge"

/-- One activity of `check_plan_power`. -/
def planStep (groundTrack : List (TrackPoint K)) (s : PowerCheck K) (a : Activity K) :
    PowerCheck K :=
  if a.live then
    if a.durationS ≤ 0 ∨ a.powerW ≤ 0 then s
    else
      match host.moment a.startTime with
      | none => s
      | some start =>
        let eclipseFraction :=
          estimateEclipseFraction host groundTrack start (start.after a.durationS)
        let hours := a.durationS / 3600
        let eclipseHours := hours * eclipseFraction
        let sunlightHours := hours * (1 - eclipseFraction)
        let drainWh := 95 * eclipseHours + 95 * sunlightHours
        let activityDrainWh := a.powerW * hours
        let chargeWh := c.solarArrayMaxW * (85 / 100) * sunlightHours
        let netWh := s.socWh + chargeWh - drainWh - activityDrainWh
        let socWh := max 0 (min c.batteryCapacityWh netWh)
        let socPercent := socWh / c.batteryCapacityWh * 100
        let socBefore := (socWh + drainWh + activityDrainWh - chargeWh) / c.batteryCapacityWh * 100
        { socWh := socWh
          socTimeline := s.socTimeline ++
            [{ activityId := a.id
               activityName := a.name
               startTime := a.startTime
               socBefore := host.round 1 socBefore
               socAfter := host.round 1 socPercent }]
          violations := s.violations ++
            if socPercent < c.minSocPercent then [c.socViolation host a socPercent] else [] }
  else s

/-- `check_plan_power(schedule, initial_soc, ground_track)`. -/
def checkPlanPower (schedule : List (Activity K)) (initialSoc : K)
    (groundTrack : List (TrackPoint K)) : PowerCheck K :=
  (sortedActs schedule).foldl (c.planStep host groundTrack)
    { socWh := c.batteryCapacityWh * initialSoc / 100, socTimeline := [], violations := [] }

end PowerConstraintChecker

/-! ### Attitude -/

/-- `AOCSConstraintChecker`. -/
structure AOCSConstraintChecker (K : Type) where
  maxSlewRateDegPerS : K
  minSettlingTimeS : K
  momentumCapacity : K

/-- `AOCSConstraintChecker()`. -/
def AOCSConstraintChecker.default : AOCSConstraintChecker K where
  maxSlewRateDegPerS := 1
  minSettlingTimeS := 30
  momentumCapacity := 100

/-- What a slew takes, and what it has. -/
structure Slew (K : Type) where
  slewTimeS : K
  requiredGapS : K
  actualGapS : K

/-- `all(values)`. -/
def allTruthy (values : List (Option K)) : Bool := values.all fun v => v.any fun x => x ≠ 0

/-- The seconds between the end of an activity and the start of another. -/
def actualGap (curr next : Activity K) : Option K :=
  (host.moment curr.startTime).bind fun currStart =>
    (host.moment next.startTime).map fun nextStart =>
      nextStart.time - (currStart.after curr.durationS).time

/-- `_angular_distance(lat1, lon1, lat2, lon2)`. -/
def angularDistance (lat1 lon1 lat2 lon2 : K) : K :=
  let dlat := lat2 - lat1
  let dlon := lon2 - lon1
  let latRad := host.radians ((lat1 + lat2) / 2)
  let dlonScaled := dlon * host.cos latRad
  host.sqrt (dlat ^ 2 + dlonScaled ^ 2)

namespace AOCSConstraintChecker

variable (c : AOCSConstraintChecker K)

/-- The slew from one target to the next, if both activities have one and both times can be read. -/
def slewOf (curr next : Activity K) : Option (Slew K) :=
  curr.captureLat.bind fun currLat => curr.captureLon.bind fun currLon =>
    next.captureLat.bind fun nextLat => next.captureLon.bind fun nextLon =>
      (actualGap host curr next).map fun actualGapS =>
        let slewTimeS :=
          angularDistance host currLat currLon nextLat nextLon / c.maxSlewRateDegPerS
        { slewTimeS := slewTimeS
          requiredGapS := slewTimeS + c.minSettlingTimeS
          actualGapS := actualGapS }

/-- The slew that there is not the time for. -/
def shortSlew (curr next : Activity K) : Option (Slew K) :=
  (c.slewOf host curr next).filter fun s => s.actualGapS < s.requiredGapS

/-- The slew that is reported of two activities that follow each other. -/
def reportedSlew (curr next : Activity K) : Option (Slew K) :=
  if allTruthy [curr.captureLat, curr.captureLon, next.captureLat, next.captureLon] then
    c.shortSlew host curr next
  else none

/-- The violation of a slew that there is not the time for. -/
def slewViolation (next : Activity K) (s : Slew K) : ConstraintViolation where
  checkerName := "AOCSConstraintChecker"
  severity := .error
  activityId := next.id
  activityName := next.name
  message := "Insufficient slew time between activities: need " ++ host.fixed 0 s.requiredGapS ++
    "s (" ++ host.fixed 0 s.slewTimeS ++ "s slew + " ++ host.str c.minSettlingTimeS ++
    "s settle), have " ++ host.fixed 0 s.actualGapS ++ "s"
  suggestedFix := "Delay next activity by " ++ host.fixed 0 (s.requiredGapS - s.actualGapS) ++ "s"

/-- The pairs of activities whose slews are reported. -/
def slewPairs (activities : List (Activity K)) : List (Activity K × Activity K) :=
  (consecutive (sortedActs activities)).filter fun p => (c.reportedSlew host p.1 p.2).isSome

/-- `check_slew_constraints(activities)`. -/
def checkSlewConstraints (activities : List (Activity K)) : List ConstraintViolation :=
  (c.slewPairs host activities).filterMap fun p =>
    (c.reportedSlew host p.1 p.2).map (c.slewViolation host p.2)

/-- `momentum_per_imaging_pass`. -/
def momentumPerImagingPass : K := 15 / 100

/-- The violation of an imaging pass with too much momentum. -/
def momentumViolation (a : Activity K) (accumulated : K) : ConstraintViolation where
  checkerName := "AOCSConstraintChecker"
  severity := .warning
  activityId := a.id
  activityName := a.name
  message := "Momentum accumulation (" ++ host.fixed 2 accumulated ++
    " h*km^2/s) exceeds 80% of capacity (" ++ host.fixed 2 (8 / 10 * c.momentumCapacity) ++ ")"
  suggestedFix := "Schedule momentum_desaturation activity after this pass or before next imaging"

/-- One activity of `check_momentum_budget`. -/
def momentumStep (s : K × List ConstraintViolation) (a : Activity K) :
    K × List ConstraintViolation :=
  if host.names "imaging" a.name then
    let accumulated := s.1 + momentumPerImagingPass
    (accumulated, s.2 ++
      if 8 / 10 * c.momentumCapacity < accumulated then [c.momentumViolation host a accumulated]
      else [])
  else if host.names "desaturate" a.name || host.names "desat" a.name then (0, s.2)
  else s

/-- `check_momentum_budget(activities)`. -/
def checkMomentumBudget (activities : List (Activity K)) : List ConstraintViolation :=
  ((sortedActs activities).foldl (c.momentumStep host) (0, [])).2

end AOCSConstraintChecker

/-! ### Temperature -/

/-- `ThermalConstraintChecker`. -/
structure ThermalConstraintChecker (K : Type) where
  maxImagingMinutesPerOrbit : K
  orbitPeriodMinutes : K
  fpaCooldownPeriodS : K

/-- `ThermalConstraintChecker()`. -/
def ThermalConstraintChecker.default : ThermalConstraintChecker K where
  maxImagingMinutesPerOrbit := 30
  orbitPeriodMinutes := 91
  fpaCooldownPeriodS := 300

namespace ThermalConstraintChecker

variable (c : ThermalConstraintChecker K)

/-- The orbit of an imaging activity, if its start can be read. -/
def orbitOf (a : Activity K) : Option Int :=
  if host.names "imaging" a.name then
    (host.moment a.startTime).map fun start => host.trunc (start.time / (c.orbitPeriodMinutes * 60))
  else none

/-- An activity goes to its orbit. -/
def addToOrbit (orbits : Dict Int (List (Activity K))) (a : Activity K) :
    Dict Int (List (Activity K)) :=
  match c.orbitOf host a with
  | none => orbits
  | some orbitNum => orbits.set orbitNum ((orbits.get? orbitNum).getD [] ++ [a])

/-- `orbits`. -/
def orbits (activities : List (Activity K)) : Dict Int (List (Activity K)) :=
  activities.foldl (c.addToOrbit host) Dict.empty

/-- The violation of an orbit, by its first activity and the minutes of all. -/
def dutyViolation (orbitNum : Int) (activityId : Nat) (totalImagingMin : K) :
    ConstraintViolation where
  checkerName := "ThermalConstraintChecker"
  severity := .warning
  activityId := activityId
  activityName := "imaging_pass (multiple)"
  message := "Imaging duty cycle in orbit " ++ toString orbitNum ++ " (" ++
    host.fixed 1 totalImagingMin ++ " min) exceeds limit (" ++
    host.fixed 1 c.maxImagingMinutesPerOrbit ++ " min)"
  suggestedFix := "Spread imaging activities across multiple orbits"

/-- `total_imaging_min`. -/
def imagingMinutes (activities : List (Activity K)) : K :=
  (activities.map Activity.durationS).sum / 60

/-- The check of one orbit. -/
def checkOrbit (orbit : Int × List (Activity K)) : Option ConstraintViolation :=
  if c.maxImagingMinutesPerOrbit < imagingMinutes orbit.2 then
    orbit.2.head?.map fun first => c.dutyViolation host orbit.1 first.id (imagingMinutes orbit.2)
  else none

/-- `check_payload_duty_cycle(activities)`. -/
def checkPayloadDutyCycle (activities : List (Activity K)) : List ConstraintViolation :=
  (c.orbits host activities).items.filterMap (c.checkOrbit host)

/-- The gap that is too short between two imaging activities. -/
def shortCooldown (curr next : Activity K) : Option K :=
  (actualGap host curr next).filter fun gapS => gapS < c.fpaCooldownPeriodS

/-- The gap that is reported of two activities that follow each other. -/
def reportedCooldown (curr next : Activity K) : Option K :=
  if host.names "imaging" curr.name && host.names "imaging" next.name then
    c.shortCooldown host curr next
  else none

/-- The violation of a gap that is too short. -/
def cooldownViolation (next : Activity K) (gapS : K) : ConstraintViolation where
  checkerName := "ThermalConstraintChecker"
  severity := .warning
  activityId := next.id
  activityName := next.name
  message := "Insufficient cooldown between imaging activities: need " ++
    host.fixed 0 c.fpaCooldownPeriodS ++ "s, have " ++ host.fixed 0 gapS ++ "s"
  suggestedFix := "Delay next imaging by " ++ host.fixed 0 (c.fpaCooldownPeriodS - gapS) ++ "s"

/-- The pairs of activities whose gaps are reported. -/
def cooldownPairs (activities : List (Activity K)) : List (Activity K × Activity K) :=
  (consecutive (sortedActs activities)).filter fun p => (c.reportedCooldown host p.1 p.2).isSome

/-- `check_cooldown_periods(activities)`. -/
def checkCooldownPeriods (activities : List (Activity K)) : List ConstraintViolation :=
  (c.cooldownPairs host activities).filterMap fun p =>
    (c.reportedCooldown host p.1 p.2).map (c.cooldownViolation host p.2)

end ThermalConstraintChecker

/-! ### Data volume -/

/-- What a checker reads of the resolved parameters of the budget. -/
structure DataParams (K : Type) where
  storageCapacityMb : Option K := none
  storageMarginPercent : Option K := none
  downlinkRateBps : Option K := none
  protocolOverhead : Option K := none
  routineRateBps : Option K := none
  defaultMinDumpElevationDeg : Option K := none

/-- `DataVolumeConstraintChecker`. -/
structure DataVolumeConstraintChecker (K : Type) where
  storageCapacityMb : K
  storageMarginPercent : K
  dumpRateBps : K
  routineRateBps : K
  protocolOverhead : K
  minDumpElevationDeg : K

namespace DataVolumeConstraintChecker

/-- `from_params(params)`. -/
def fromParams (params : DataParams K) : DataVolumeConstraintChecker K :=
  let downlinkRateBps := params.downlinkRateBps.getD 128000
  { storageCapacityMb := params.storageCapacityMb.getD 20000
    storageMarginPercent := params.storageMarginPercent.getD 10
    dumpRateBps := downlinkRateBps
    routineRateBps := params.routineRateBps.getD downlinkRateBps
    protocolOverhead := params.protocolOverhead.getD (20 / 100)
    minDumpElevationDeg := params.defaultMinDumpElevationDeg.getD 10 }

variable (c : DataVolumeConstraintChecker K)

/-- `min_margin_mb`. -/
def minMarginMb : K := c.storageCapacityMb * c.storageMarginPercent / 100

/-- `dump_rate_for_pass(max_elevation_deg)`. -/
def dumpRateForPass (maxElevationDeg : Option K) : K :=
  match maxElevationDeg with
  | none => c.dumpRateBps
  | some elevation => if c.minDumpElevationDeg ≤ elevation then c.dumpRateBps else c.routineRateBps

/-- The violation of a store that is too small. -/
def capacityViolation (a : Activity K) (onboardMb : K) : ConstraintViolation where
  checkerName := "DataVolumeConstraintChecker"
  severity := .error
  activityId := a.id
  activityName := a.name
  message := "Data generation (" ++ host.fixed 1 a.dataVolumeMb ++
    " MB) would result in total onboard storage of " ++ host.fixed 1 onboardMb ++
    " MB, exceeding capacity (" ++ host.fixed 1 c.storageCapacityMb ++ " MB)"
  suggestedFix := "Schedule data_dump before this activity to free " ++
    host.fixed 1 (onboardMb - c.storageCapacityMb) ++ " MB"

/-- The violation of a margin that is too small. -/
def marginViolation (a : Activity K) (onboardMb : K) : ConstraintViolation where
  checkerName := "DataVolumeConstraintChecker"
  severity := .warning
  activityId := a.id
  activityName := a.name
  message := "Storage utilization is " ++
    host.fixed 1 (onboardMb / c.storageCapacityMb * 100) ++ "%, below desired margin of " ++
    host.str c.storageMarginPercent ++ "%"
  suggestedFix := "Schedule a data dump to reduce onboard data volume"

/-- What a dump takes off the store. -/
def downlinkMb (a : Activity K) : K :=
  c.dumpRateForPass (a.maxElevationDeg <|> a.passMaxElevationDeg) * (1 - c.protocolOverhead) *
    a.durationS / (8 * 1024 * 1024)

/-- One activity of `check_storage_capacity`; nothing when a store without capacity is divided
by. -/
def storageStep (s : K × List ConstraintViolation) (a : Activity K) :
    Option (K × List ConstraintViolation) :=
  if a.live then
    let onboardMb := s.1 + a.dataVolumeMb
    let excess :=
      if c.storageCapacityMb < onboardMb then [c.capacityViolation host a onboardMb] else []
    let tight := c.storageCapacityMb - onboardMb < c.minMarginMb ∧ 0 < a.dataVolumeMb
    if tight ∧ c.storageCapacityMb = 0 then none
    else
      let margin := if tight then [c.marginViolation host a onboardMb] else []
      let left :=
        if host.names "dump" a.name || host.names "downlink" a.name then
          max 0 (onboardMb - c.downlinkMb a)
        else onboardMb
      some (left, s.2 ++ excess ++ margin)
  else some s

/-- `check_storage_capacity(activities, current_onboard_mb)`. -/
def checkStorageCapacity (activities : List (Activity K)) (currentOnboardMb : K) :
    Option (List ConstraintViolation) :=
  ((sortedActs activities).foldlM (c.storageStep host) (currentOnboardMb, [])).map Prod.snd

end DataVolumeConstraintChecker

/-! ### Conflicts -/

namespace ConflictResolutionChecker

/-- `ACTIVITY_PRIORITIES.get(name, 50)`. -/
def priority (name : String) : Nat :=
  ([("imaging_pass", 100), ("data_dump", 80), ("software_upload", 85), ("calibration", 40),
    ("momentum_desaturation", 50), ("housekeeping_collection", 10)].lookup name).getD 50

/-- `antenna_users`. -/
def antennaUsers : List String :=
  ["data_dump", "downlink", "software_upload", "housekeeping_collection"]

/-- `_have_exclusive_resources(name1, name2)`; whatever draws much power may overlap. -/
def haveExclusiveResources (name1 name2 : String) : Bool :=
  let usesAntenna1 := antennaUsers.any fun x => host.names x name1
  let usesAntenna2 := antennaUsers.any fun x => host.names x name2
  (usesAntenna1 && usesAntenna2) || (host.names "imaging" name1 && usesAntenna2) ||
    (host.names "imaging" name2 && usesAntenna1)

/-- The conflict of two activities, in the order of the schedule. -/
def conflict (act1 act2 : Activity K) : Option ConstraintViolation :=
  if act1.live && act2.live then
    (host.moment act1.startTime).bind fun start1 =>
      (host.moment act2.startTime).bind fun start2 =>
        let end1 := start1.after act1.durationS
        let end2 := start2.after act2.durationS
        if start1.time < end2.time ∧ start2.time < end1.time ∧
            haveExclusiveResources host act1.name act2.name then
          let (loser, winner) :=
            if priority act2.name ≤ priority act1.name then (act2, act1) else (act1, act2)
          some
            { checkerName := "ConflictResolutionChecker"
              severity := .error
              activityId := loser.id
              activityName := loser.name
              message := "Time overlap with '" ++ winner.name ++ "' (" ++ host.iso start1 ++ " to " ++
                host.iso end1 ++ "); both require exclusive antenna/transmitter"
              suggestedFix := "Delay '" ++ loser.name ++ "' by at least " ++
                host.fixed 0 (end2.time - start2.time) ++ "s" }
        else none
  else none

/-- `check_resource_conflicts(activities)`. -/
def checkResourceConflicts : List (Activity K) → List ConstraintViolation
  | [] => []
  | act1 :: rest => rest.filterMap (conflict host act1) ++ checkResourceConflicts rest

end ConflictResolutionChecker

/-! ### The plan -/

/-- `ValidationResult`. -/
structure ValidationResult (K : Type) where
  violations : List ConstraintViolation
  isValid : Bool
  finalSoc : K
  socTimeline : List (SocEntry K)

/-- What `validate_plan` is given. -/
structure PlanInputs (K : Type) where
  groundTrack : List (TrackPoint K)
  batterySocPercent : K
  dataParams : DataParams K

/-- `validate_plan(activities, …)`; nothing when a store without capacity is divided by. -/
def validatePlan (activities : List (Activity K)) (inputs : PlanInputs K) :
    Option (ValidationResult K) :=
  let powerChecker : PowerConstraintChecker K := .default
  let power := powerChecker.checkPlanPower host activities inputs.batterySocPercent
    inputs.groundTrack
  let aocs : AOCSConstraintChecker K := .default
  let thermal : ThermalConstraintChecker K := .default
  let data := DataVolumeConstraintChecker.fromParams inputs.dataParams
  (data.checkStorageCapacity host activities 0).map fun storage =>
    let violations := power.violations ++ aocs.checkSlewConstraints host activities ++
      aocs.checkMomentumBudget host activities ++ thermal.checkPayloadDutyCycle host activities ++
      thermal.checkCooldownPeriods host activities ++ storage ++
      ConflictResolutionChecker.checkResourceConflicts host activities
    { violations := violations
      isValid := violations.all fun v => v.severity ≠ .error
      finalSoc := host.round 1 (power.socWh / powerChecker.batteryCapacityWh * 100)
      socTimeline := power.socTimeline }

end Planner
