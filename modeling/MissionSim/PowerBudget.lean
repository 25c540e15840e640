import MissionSim.PlanData

/-!
# The power budget of a plan

The planner walks the contacts in turn.  Between two passes the bus draws its base load and the
array charges; over a pass the activities draw as well.  The state of charge is predicted at both
ends of every pass.

Numbers are of an ordered field, so that arithmetic is exact.
-/

namespace Planner

open Python
open scoped Timelines

variable {K : Type} [Field K] [LinearOrder K]

/-- `ECLIPSE_BASE_POWER_W`, and `SUNLIGHT_BASE_POWER_W` too. -/
def basePowerW : K := 32

/-- `SOLAR_ARRAY_MAX_W`. -/
def solarArrayMaxW : K := 64

/-- `MIN_SOC_PERCENT`. -/
def minSocPercent : K := 25

/-- What the power budget reads of a `BudgetTracker`. -/
structure PowerTracker (K : Type) where
  contacts : List (DataBudget.Contact K)
  schedule : List (Activity K)
  groundTrack : List (TrackPoint K)
  initialSoc : K
  batteryWh : K

/-- An entry of `pass_predictions`. -/
structure Prediction (K : Type) where
  passId : Nat
  gsName : String
  aos : String
  los : String
  socAtAos : K
  socAtLos : K

/-- What the walk over the contacts carries. -/
structure Walk (K : Type) where
  socWh : K
  totalCharge : K
  totalDrain : K
  prevTime : Option (Moment K)
  predictions : List (Prediction K)
  warnings : List String

/-- The result of `compute_power_budget()`. -/
structure PowerBudget (K : Type) where
  initialSoc : K
  passPredictions : List (Prediction K)
  finalSoc : K
  warnings : List String
  totalChargeWh : K
  totalDrainWh : K

/-- The seconds during which an activity with a start runs within an interval. -/
def overlapS (start stop : K) (interval : K × K) : K :=
  let from_ := max interval.1 start
  let to_ := min interval.2 stop
  if from_ < to_ then to_ - from_ else 0

variable (host : Host K)

/-- The energy that an activity draws within an interval, in Wh. -/
def activityEnergy (interval : K × K) (a : Activity K) : K :=
  if a.live ∧ a.powerW ≠ 0 then
    match host.moment a.startTime with
    | none => 0
    | some start =>
      a.powerW * (overlapS start.time (start.after a.durationS).time interval / 3600)
  else 0

namespace PowerTracker

variable (t : PowerTracker K)

/-- `_activity_power_during(start, end)`. -/
def activityPowerDuring (start stop : Moment K) : K :=
  (t.schedule.map (activityEnergy host (start.time, stop.time))).sum

/-- `best_beta` and `best_diff` after one more point. -/
def nearer (at_ : K) (best : K × Option K) (p : TrackPoint K) : K × Option K :=
  match host.moment p.utc with
  | none => best
  | some point =>
    let diff := |point.time - at_|
    if best.2.all (diff < ·) then (p.solarBetaDeg.getD 30, some diff) else best

/-- `_get_beta_angle(at_time)`. -/
def getBetaAngle (at_ : K) : K :=
  match t.groundTrack.filterMap TrackPoint.solarBetaDeg with
  | [] => 30
  | beta :: _ => (t.groundTrack.foldl (nearer host at_) (beta, none)).1

/-- `_energy_balance(duration_s, eclipse_fraction, start, end)`: what is drained and what charged. -/
def energyBalance (durationS eclipseFraction : K) (start stop : Moment K) : K × K :=
  let hours := durationS / 3600
  let eclipseHours := hours * eclipseFraction
  let sunlightHours := hours * (1 - eclipseFraction)
  let betaDeg := t.getBetaAngle host (start.time + (stop.time - start.time) / 2)
  let chargeW := solarArrayMaxW * host.cos (host.radians (min |betaDeg| 89))
  (basePowerW * eclipseHours + basePowerW * sunlightHours, chargeW * sunlightHours)

/-- The balance of the stretch between two moments, taken to last for a duration. -/
def balance (durationS : K) (start stop : Moment K) : K × K :=
  t.energyBalance host durationS (estimateEclipseFraction host t.groundTrack start stop) start stop

/-- A level in percent, within its range. -/
def percent (socWh : K) : K := max 0 (min 100 (socWh / t.batteryWh * 100))

/-! ### The walk -/

/-- The walk before the first contact. -/
def start : Walk K where
  socWh := t.batteryWh * (t.initialSoc / 100)
  totalCharge := 0
  totalDrain := 0
  prevTime := t.contacts.head?.bind fun c => host.moment c.aos
  predictions := []
  warnings := []

/-- What is drained and charged goes into the walk. -/
def spend (drained charged : K) (w : Walk K) : Walk K :=
  { w with
    socWh := w.socWh + charged - drained
    totalCharge := w.totalCharge + charged
    totalDrain := w.totalDrain + drained }

/-- The interval before a pass. -/
def gap (w : Walk K) (aos : Moment K) : Walk K :=
  match w.prevTime with
  | none => w
  | some prev =>
    if prev.time < aos.time then
      let (drained, charged) := t.balance host (aos.time - prev.time) prev aos
      spend drained charged w
    else w

/-- The level after a pass stays within the battery. -/
def settle (w : Walk K) : Walk K := { w with socWh := max 0 (min t.batteryWh w.socWh) }

/-- The interval of a pass. -/
def pass (durationS : K) (aos los : Moment K) (w : Walk K) : Walk K :=
  if 0 < durationS then
    let (drained, charged) := t.balance host durationS aos los
    spend (drained + t.activityPowerDuring host aos los) charged w
  else w

/-- The warning about a level at one end of a pass. -/
def lowSoc (idx : Nat) (gsName place : String) (soc : K) : List String :=
  if soc < minSocPercent then
    ["Pass " ++ toString (idx + 1) ++ " (" ++ gsName ++ "): SoC at " ++ place ++ " = " ++
      host.fixed 1 soc ++ "% (below 25.0% threshold)"]
  else []

/-- What is reported of a pass, from the walks at its two ends. -/
def report (c : DataBudget.Contact K) (idx : Nat) (los : Moment K) (atAos atLos : Walk K) :
    Walk K :=
  let socAtAos := t.percent atAos.socWh
  let socAtLos := t.percent atLos.socWh
  { atLos with
    prevTime := some los
    predictions := atLos.predictions ++
      [{ passId := idx + 1
         gsName := c.gsName
         aos := c.aos
         los := c.los
         socAtAos := host.round 1 socAtAos
         socAtLos := host.round 1 socAtLos }]
    warnings := atLos.warnings ++ lowSoc host idx c.gsName "AOS" socAtAos ++
      lowSoc host idx c.gsName "LOS" socAtLos }

/-- One contact of the walk. -/
def step (w : Walk K) (contact : DataBudget.Contact K × Nat) : Walk K :=
  match host.moment contact.1.aos, host.moment contact.1.los with
  | some aos, some los =>
    let atAos := t.gap host w aos
    let atLos := t.settle (t.pass host contact.1.durationS aos los atAos)
    t.report host contact.1 contact.2 los atAos atLos
  | _, _ => w

/-- The walk over the first contacts of the list. -/
def walk (contacts : List (DataBudget.Contact K × Nat)) : Walk K :=
  contacts.foldl (t.step host) (t.start host)

/-! ### The budget -/

/-- `soc_at_activity` after one more prediction. -/
def socFrom (at_ : K) (soc : K) (pred : Prediction K) : K :=
  let soc := if (host.moment pred.los).any fun los => los.time ≤ at_ then pred.socAtLos else soc
  if (host.moment pred.aos).any fun aos => aos.time ≤ at_ then pred.socAtAos else soc

/-- `soc_at_activity`. -/
def socAtActivity (a : Activity K) (predictions : List (Prediction K)) : K :=
  match host.moment a.startTime with
  | none => t.initialSoc
  | some start => predictions.foldl (socFrom host start.time) t.initialSoc

/-- `_check_activity_power(activity, pass_predictions)`. -/
def checkActivityPower (predictions : List (Prediction K)) (a : Activity K) : List String :=
  if a.powerW ≤ 0 ∨ a.durationS ≤ 0 then []
  else
    let energyWh := a.powerW * (a.durationS / 3600)
    let socImpact := energyWh / t.batteryWh * 100
    let soc := t.socAtActivity host a predictions
    if soc - minSocPercent < socImpact then
      ["Activity '" ++ a.name ++ "' consumes " ++ host.fixed 1 energyWh ++ " Wh (" ++
        host.fixed 1 socImpact ++ "% SoC) — predicted SoC at execution is " ++
        host.fixed 1 soc ++ "%, may breach 25.0% floor"]
    else []

/-- `compute_power_budget()`; nothing when a battery without capacity is divided by. -/
def computePowerBudget : Option (PowerBudget K) :=
  if t.contacts = [] then
    some
      { initialSoc := t.initialSoc
        passPredictions := []
        finalSoc := t.initialSoc
        warnings := ["No contact windows available for budget computation"]
        totalChargeWh := 0
        totalDrainWh := 0 }
  else if t.batteryWh = 0 then none
  else
    let w := t.walk host t.contacts.zipIdx
    some
      { initialSoc := t.initialSoc
        passPredictions := w.predictions
        finalSoc := host.round 1 (t.percent w.socWh)
        warnings := w.warnings ++ t.schedule.flatMap (t.checkActivityPower host w.predictions)
        totalChargeWh := host.round 1 w.totalCharge
        totalDrainWh := host.round 1 w.totalDrain }

end PowerTracker

end Planner
