import MissionSim.Python
import MissionSim.Timelines
import Mathlib.Data.List.Sort
import Mathlib.Data.List.Dedup
import Mathlib.Data.List.Infix

/-!
# The data budget of a plan

The planner integrates the onboard data store over its schedule.  Every activity produces its data
evenly over its duration, housekeeping accrues throughout, and a dump that meets a contact draws
from the store at the rate of the pass.  The horizon is cut at every boundary of an activity, a dump
or a contact.

Numbers are of an ordered field, so that arithmetic is exact; cosines, arcs and the texts of times
are taken from outside.  Left out are the rounding of the results and all that is derived from them:
percentages, daily figures, warnings, and the view by rate tiers.
-/

namespace DataBudget

open Python Timelines

variable {K : Type} [Field K] [LinearOrder K]

/-! ### Data -/

/-- What is read of an activity; a number that is missing is zero. -/
structure Activity (K : Type) where
  stateName : String := ""
  name : String := ""
  startTime : String := ""
  durationS : K
  dataVolumeMb : K

/-- What is read of a contact. -/
structure Contact (K : Type) where
  gsName : String := ""
  aos : String := ""
  los : String := ""
  durationS : K
  maxElevationDeg : K

/-- What is taken from outside. -/
structure Host (K : Type) where
  /-- `parse_iso(s)`, as seconds. -/
  parseIso : String → Option K
  /-- `str.lower`. -/
  lower : String → String
  cos : K → K
  acos : K → K
  radians : K → K
  degrees : K → K

/-- What the budget reads of a `BudgetTracker`. -/
structure BudgetTracker (K : Type) where
  contacts : List (Contact K)
  schedule : List (Activity K)
  storageMb : K
  overhead : K
  hkMbPerHour : K
  initialOnboardMb : K
  stationRates : Dict String K := Dict.empty
  minDumpEl : Dict String K := Dict.empty
  stationSetupS : Dict String K := Dict.empty
  dumpRateBps : K
  routineRateBps : K
  defaultMinDumpEl : K
  maskDeg : K
  altitudeKm : K

/-! ### Passes -/

/-- `EARTH_RADIUS_KM`. -/
def earthRadiusKm : K := 6378137 / 1000

/-- `MB`. -/
def mb : K := 1024 * 1024

variable (host : Host K)

/-- A ratio within the domain of the arc cosine. -/
def unitClamp (x : K) : K := max (-1) (min 1 x)

/-- `_central_angle_deg(elevation_deg, altitude_km)`. -/
def centralAngleDeg (elevationDeg altitudeKm : K) : K :=
  let r := earthRadiusKm + max altitudeKm 1
  let eps := host.radians (max (-90) (min 90 elevationDeg))
  host.degrees (host.acos (unitClamp (earthRadiusKm / r * host.cos eps)) - eps)

/-- `_half_angle(eps)`, for the cosine at closest approach. -/
def halfAngle (altitudeKm cosMin eps : K) : K :=
  let ratio := host.cos (host.radians (centralAngleDeg host eps altitudeKm)) / cosMin
  host.degrees (host.acos (unitClamp ratio))

/-- `fraction_above_elevation(max_elevation_deg, gate_deg, mask_deg, altitude_km)`. -/
def fractionAboveElevation (maxElevationDeg gateDeg maskDeg altitudeKm : K) : K :=
  if gateDeg ≤ maskDeg then 1
  else if maxElevationDeg ≤ gateDeg then 0
  else
    let cosMin := host.cos (host.radians (centralAngleDeg host maxElevationDeg altitudeKm))
    if cosMin ≤ 0 then 0
    else
      let spanMask := halfAngle host altitudeKm cosMin maskDeg
      if spanMask ≤ 1 / 1000000000 then 0
      else max 0 (min 1 (halfAngle host altitudeKm cosMin gateDeg / spanMask))

namespace BudgetTracker

variable (t : BudgetTracker K)

/-- `_dump_rate_for(gs_name)`. -/
def dumpRateFor (gsName : String) : K := (t.stationRates.get? gsName).getD t.dumpRateBps

/-- `_dump_gate_deg(gs_name)`. -/
def dumpGateDeg (gsName : String) : K := (t.minDumpEl.get? gsName).getD t.defaultMinDumpEl

/-- `_usable_seconds(contact)`. -/
def usableSeconds (c : Contact K) : K :=
  max 0 (c.durationS - (t.stationSetupS.get? c.gsName).getD 0)

/-- `f_high` of `_pass_profile(contact)`. -/
def highFraction (c : Contact K) : K :=
  fractionAboveElevation host c.maxElevationDeg (t.dumpGateDeg c.gsName) t.maskDeg t.altitudeKm

/-- `mean_bps` of `_pass_profile(contact)`. -/
def meanRateBps (c : Contact K) : K :=
  t.highFraction host c * t.dumpRateFor c.gsName + (1 - t.highFraction host c) * t.routineRateBps

/-- `_pass_capacity_mb(contact)`. -/
def passCapacityMb (c : Contact K) : K :=
  t.meanRateBps host c * (1 - t.overhead) * t.usableSeconds c / (8 * mb)

/-! ### The timeline -/

/-- The activities that are neither cancelled nor failed. -/
def active : List (Activity K) :=
  t.schedule.filter fun a => !(a.stateName = "CANCELLED" || a.stateName = "FAILED")

/-- `planned_gen_mb`. -/
def plannedGenMb : K := (t.active.map Activity.dataVolumeMb).sum

/-- The interval of an activity from its start, and its rate. -/
def genInterval (a : Activity K) : Option ((K × K) × K) :=
  (host.parseIso a.startTime).bind fun t0 =>
    if a.durationS ≤ 0 ∨ a.dataVolumeMb ≤ 0 then none
    else some ((t0, t0 + a.durationS), a.dataVolumeMb / a.durationS)

/-- `gen_intervals`. -/
def genIntervals : List ((K × K) × K) := t.active.filterMap (genInterval host)

/-- `"dump" in name or "downlink" in name`. -/
def isDump (a : Activity K) : Bool :=
  let name := (host.lower a.name).toList
  decide ("dump".toList <:+: name) || decide ("downlink".toList <:+: name)

/-- The interval of a dump. -/
def dumpInterval (a : Activity K) : Option (K × K) :=
  if isDump host a then
    (host.parseIso a.startTime).bind fun t0 =>
      if a.durationS ≤ 0 then none else some (t0, t0 + a.durationS)
  else none

/-- `dump_intervals`. -/
def dumpIntervals : List (K × K) := t.active.filterMap (dumpInterval host)

end BudgetTracker

/-- A pass: its interval, its index, and its rate in MB/s. -/
structure Pass (K : Type) where
  interval : K × K
  idx : Nat
  rate : K

namespace BudgetTracker

variable (t : BudgetTracker K)

/-- The pass of a contact at an index. -/
def passInterval (c : Contact K) (idx : Nat) : Option (Pass K) :=
  (host.parseIso c.aos).bind fun aos => (host.parseIso c.los).bind fun los =>
    if los ≤ aos then none
    else some { interval := (aos, los), idx := idx, rate := t.passCapacityMb host c / (los - aos) }

/-- `pass_intervals`. -/
def passIntervals : List (Pass K) :=
  t.contacts.zipIdx.filterMap fun entry => t.passInterval host entry.1 entry.2

/-- The ends of an interval. -/
def ends (interval : K × K) : List K := [interval.1, interval.2]

/-- `boundaries`. -/
def boundaries : List K :=
  ((t.genIntervals host).map Prod.fst ++ t.dumpIntervals host ++
    (t.passIntervals host).map Pass.interval).flatMap ends

/-- `sorted(boundaries)`. -/
def times : List K := (t.boundaries host).dedup.insertionSort (· ≤ ·)

/-! ### Integration -/

/-- The first pass that a gap lies within, while a dump runs. -/
def passOver (gap : K × K) : Option (Pass K) :=
  if (t.dumpIntervals host).any fun d => decide (Within d gap) then
    (t.passIntervals host).find? fun p => decide (Within p.interval gap)
  else none

/-- `gen_rate`. -/
def genRate (gap : K × K) : K := rateOver (t.genIntervals host) gap + t.hkMbPerHour / 3600

/-- `dl_rate`. -/
def dlRate (gap : K × K) : K := ((t.passOver host gap).map Pass.rate).getD 0

end BudgetTracker

/-- What the integration carries. -/
structure Fill (K : Type) where
  onboardMb : K
  peakMb : K
  peakTime : Option K
  overflowMb : K
  firstOverflow : Option K
  downlinkedMb : K
  hkMb : K
  /-- `per_pass_dumped`; an index that is not there has dumped nothing. -/
  perPassDumped : Nat → K

namespace BudgetTracker

variable (t : BudgetTracker K)

/-- The integration at the start of the horizon. -/
def start : Fill K where
  onboardMb := t.initialOnboardMb
  peakMb := t.initialOnboardMb
  peakTime := (t.times host).head?
  overflowMb := 0
  firstOverflow := none
  downlinkedMb := 0
  hkMb := 0
  perPassDumped := fun _ => 0

/-- What flows in over a gap is stored, up to the capacity. -/
def store (gap : K × K) (f : Fill K) : Fill K :=
  let dt := length gap
  let filled := f.onboardMb + t.genRate host gap * dt
  let f := { f with hkMb := f.hkMb + t.hkMbPerHour / 3600 * dt }
  if t.storageMb < filled then
    { f with
      onboardMb := t.storageMb
      overflowMb := f.overflowMb + (filled - t.storageMb)
      firstOverflow := some (f.firstOverflow.getD gap.1) }
  else { f with onboardMb := filled }

/-- What is onboard is dumped, up to what the pass can take over a gap. -/
def dump (gap : K × K) (f : Fill K) : Fill K :=
  let dumped := min f.onboardMb (t.dlRate host gap * length gap)
  { f with
    onboardMb := f.onboardMb - dumped
    downlinkedMb := f.downlinkedMb + dumped
    perPassDumped :=
      match t.passOver host gap with
      | some p =>
          if 0 < dumped then
            Function.update f.perPassDumped p.idx (f.perPassDumped p.idx + dumped)
          else f.perPassDumped
      | none => f.perPassDumped }

/-- A peak is noted. -/
def notePeak (gap : K × K) (f : Fill K) : Fill K :=
  if f.peakMb < f.onboardMb then { f with peakMb := f.onboardMb, peakTime := some gap.2 } else f

/-- A gap of the integration. -/
def advance (f : Fill K) (gap : K × K) : Fill K :=
  if length gap ≤ 0 then f else notePeak gap (t.dump host gap (t.store host gap f))

/-- The integration at the boundary of a number. -/
def fillAt (n : Nat) : Fill K := ((gaps (t.times host)).take n).foldl (t.advance host) (t.start host)

/-- A pass as it is reported. -/
structure PassDownlink (K : Type) where
  capacityMb : K
  plannedDumpMb : K

/-- The results before they are rounded. -/
structure DataReport (K : Type) where
  plannedGenMb : K
  fill : Fill K
  passDownlink : List (PassDownlink K)

/-- `compute_data_budget()`. -/
def computeDataBudget : DataReport K :=
  let fill := (gaps (t.times host)).foldl (t.advance host) (t.start host)
  { plannedGenMb := t.plannedGenMb
    fill := fill
    passDownlink := t.contacts.zipIdx.map fun entry =>
      { capacityMb := t.passCapacityMb host entry.1
        plannedDumpMb := fill.perPassDumped entry.2 } }

end BudgetTracker

end DataBudget
