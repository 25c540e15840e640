import MissionSim.PlanData
import MissionSim.TargetRegions

/-!
# The imaging planner

The planner walks the ground track and opens an opportunity for a target when the access point can be
reached and is lit, extends it while both hold, and closes it when one ceases.  A closed opportunity
gets its capture window, centred on the closest approach.  Opportunities too soon after a capture of
the same target are dropped.

Numbers are rational, so that arithmetic is exact; what is transcendental is taken from outside, as
are the texts of times and numbers.
-/

namespace Planner

open Python Arcs

/-- What is taken from outside in addition. -/
structure ImagingHost extends toPlan : Host ℚ where
  sin : ℚ → ℚ
  asin : ℚ → ℚ
  atan2 : ℚ → ℚ → ℚ
  pi : ℚ
  /-- `when.hour`, `when.minute` and `when.second`, in the zone of the text. -/
  clock : Moment ℚ → ℚ × ℚ × ℚ

/-! ### Solar geometry -/

variable (host : ImagingHost)

/-- `x % m`. -/
def pmod (x m : ℚ) : ℚ := residue m x

/-- (lat_deg, lon_deg) of the subsolar point. -/
def subsolarPoint (t : Moment ℚ) : ℚ × ℚ :=
  let jd := t.time / 86400 + 24405875 / 10
  let n := jd - 2451545
  let l0 := pmod (280460 / 1000 + 9856474 / 10000000 * n) 360
  let g := host.radians (pmod (357528 / 1000 + 9856003 / 10000000 * n) 360)
  let lam := host.radians (l0 + 1915 / 1000 * host.sin g + 20 / 1000 * host.sin (2 * g))
  let eps := host.radians (23439 / 1000 - 4 / 10000000 * n)
  let decl := host.asin (host.sin eps * host.sin lam)
  let ra := host.atan2 (host.cos eps * host.sin lam) (host.cos lam)
  let eqTimeMin := (host.radians l0 - ra) * 720 / host.pi
  let utcHours := (host.clock t).1 + (host.clock t).2.1 / 60 + (host.clock t).2.2 / 3600
  let subLon := (12 - utcHours - eqTimeMin / 60) * 15
  (host.degrees decl, pmod (pmod (subLon + 180) 360 + 360) 360 - 180)

/-- Solar elevation at a ground point, in degrees. -/
def solarElevationDeg (latDeg lonDeg : ℚ) (t : Moment ℚ) : ℚ :=
  let s := subsolarPoint host t
  let phi := host.radians latDeg
  let sPhi := host.radians s.1
  let dlon := host.radians (lonDeg - s.2)
  let cosZenith := host.sin phi * host.sin sPhi + host.cos phi * host.cos sPhi * host.cos dlon
  90 - host.degrees (host.acos (max (-1) (min 1 cosZenith)))

/-- Great-circle distance between two points, in km. -/
def greatCircleKm (lat1 lon1 lat2 lon2 : ℚ) : ℚ :=
  let p1 := host.radians lat1
  let p2 := host.radians lat2
  let dp := p2 - p1
  let dl := host.radians (wrapLon (lon2 - lon1))
  let a := host.sin (dp / 2) ^ 2 + host.cos p1 * host.cos p2 * host.sin (dl / 2) ^ 2
  2 * 6371 * host.asin (min 1 (host.sqrt a))

/-! ### Data -/

/-- A point of the ground track. -/
structure TrackSample where
  utc : String := ""
  lat : ℚ := 0
  lon : ℚ := 0
  inEclipse : Bool := false
  altKm : Option ℚ := none
deriving DecidableEq, Repr

/-- An opportunity, as `_make_opp` builds it; the last three are filled in by `_finalise`. -/
structure Opportunity where
  targetId : String
  targetName : String
  priority : String
  startUtc : String
  endUtc : String
  closestApproachUtc : String
  subSatLat : ℚ
  subSatLon : ℚ
  accessLat : ℚ
  accessLon : ℚ
  crossTrackKm : ℚ
  offNadirDeg : ℚ
  maxOffNadirDeg : ℚ
  solarElevationDeg : ℚ
  minSolarElevationDeg : Option ℚ
  revisitDays : Option ℚ
  altKm : ℚ
  centerLat : ℚ
  centerLon : ℚ
  swathKm : ℚ
  feasible : Bool
  rejectReason : Option String
  durationS : Option ℚ := none
  captureUtc : Option String := none
  captureExceedsWindow : Bool := false
deriving DecidableEq, Repr

/-- The parts of an `ImagingPlanner` that planning reads. -/
structure ImagingPlanner where
  targets : List ImagingTarget
  altitudeKm : ℚ := 450
  swathKm : ℚ
  maxOffNadirDeg : ℚ
  captureDurationS : ℚ := 120
  enforceSolarElevation : Bool := true
  enforceRevisit : Bool := true
  defaultMinSolarElevationDeg : ℚ := 10
  /-- The last capture of each target that is committed to the plan. -/
  lastScheduled : Dict String ℚ := Dict.empty

namespace ImagingPlanner

/-! ### Revisits -/

/-- What `note_scheduled` is given: a moment, or a text. -/
inductive When
  | at (time : ℚ)
  | text (s : String)
deriving DecidableEq, Repr

def When.time? : When → Option ℚ
  | .at time => some time
  | .text s => host.parseIso s

/-- `note_scheduled(target_id, when)`, on `_last_scheduled`. -/
def noteScheduled (last : Dict String ℚ) (c : String × When) : Dict String ℚ :=
  match c.2.time? host with
  | none => last
  | some t =>
      match last.get? c.1 with
      | none => last.set c.1 t
      | some prev => if prev < t then last.set c.1 t else last

/-- `_parse_iso(opp.get("capture_utc") or opp.get("start_utc", ""))`. -/
def captureTime (opp : Opportunity) : Option ℚ :=
  match opp.captureUtc with
  | some s => host.parseIso (if s = "" then opp.startUtc else s)
  | none => host.parseIso opp.startUtc

/-- `opp.get("revisit_days") or 0`. -/
def revisitOf (opp : Opportunity) : ℚ := opp.revisitDays.getD 0

/-- An opportunity that is too soon after a capture. -/
def rejected (opp : Opportunity) (gap : ℚ) : Opportunity :=
  { opp with
    feasible := false
    rejectReason := some ("revisit: only " ++ host.fixed 1 (gap / 3600) ++
      " h since the previous " ++ opp.targetId ++ " capture (" ++ host.str (revisitOf opp) ++
      " day interval required)") }

/-- `_apply_revisit(opportunities)`, from the captures that are committed: kept and dropped. -/
def applyRevisit : Dict String ℚ → List Opportunity → List Opportunity × List Opportunity
  | _, [] => ([], [])
  | last, opp :: rest =>
      match captureTime host opp with
      | none => ((applyRevisit last rest).map (opp :: ·) id)
      | some t =>
          if revisitOf opp = 0 then (applyRevisit last rest).map (opp :: ·) id
          else
            match last.get? opp.targetId with
            | none => (applyRevisit (last.set opp.targetId t) rest).map (opp :: ·) id
            | some prev =>
                if t - prev < revisitOf opp * 86400 then
                  (applyRevisit last rest).map id (rejected host opp (t - prev) :: ·)
                else (applyRevisit (last.set opp.targetId t) rest).map (opp :: ·) id

/-! ### Opportunities -/

variable (p : ImagingPlanner)

/-- `_max_off_nadir_for(target)`. -/
def maxOffNadirFor (target : ImagingTarget) : ℚ := target.maxOffNadirDeg.getD p.maxOffNadirDeg

/-- `_off_nadir_deg(cross_track_km, alt_km)`. -/
def offNadirDeg (crossTrackKm altKm : ℚ) : ℚ :=
  if altKm ≤ 0 then 90 else host.degrees (host.atan2 crossTrackKm altKm)

/-- What the loop works out of a sample for a target. -/
structure View where
  access : ℚ × ℚ
  crossKm : ℚ
  offNadir : ℚ
  sunEl : ℚ
  minSun : ℚ
  altKm : ℚ

def view (point : TrackSample) (target : ImagingTarget) : View :=
  let access := target.accessPoint point.lat point.lon
  let crossKm := greatCircleKm host point.lat point.lon access.1 access.2
  let altKm := point.altKm.getD p.altitudeKm
  { access := access
    crossKm := crossKm
    offNadir := offNadirDeg host crossKm altKm
    sunEl :=
      match host.moment point.utc with
      | some t => Planner.solarElevationDeg host access.1 access.2 t
      | none => -90
    minSun := target.minSolarElevationDeg.getD p.defaultMinSolarElevationDeg
    altKm := altKm }

def reachable (point : TrackSample) (target : ImagingTarget) : Bool :=
  (p.view host point target).offNadir ≤ p.maxOffNadirFor target

def lit (point : TrackSample) (target : ImagingTarget) : Bool :=
  let v := p.view host point target
  if p.enforceSolarElevation then !point.inEclipse && v.minSun ≤ v.sunEl else !point.inEclipse

def darkReason (point : TrackSample) (target : ImagingTarget) : String :=
  let v := p.view host point target
  if p.enforceSolarElevation then
    if point.inEclipse then "eclipse"
    else "solar elevation " ++ host.fixed 1 v.sunEl ++ " deg < required " ++
      host.fixed 1 v.minSun ++ " deg"
  else "eclipse"

/-- `_make_opp(…)`. -/
def makeOpp (point : TrackSample) (target : ImagingTarget) (feasible : Bool)
    (rejectReason : Option String) : Opportunity :=
  let v := p.view host point target
  { targetId := target.id
    targetName := target.name
    priority := target.priority
    startUtc := point.utc
    endUtc := point.utc
    closestApproachUtc := point.utc
    subSatLat := host.round 4 point.lat
    subSatLon := host.round 4 point.lon
    accessLat := host.round 4 v.access.1
    accessLon := host.round 4 v.access.2
    crossTrackKm := host.round 1 v.crossKm
    offNadirDeg := host.round 2 v.offNadir
    maxOffNadirDeg := p.maxOffNadirFor target
    solarElevationDeg := host.round 1 v.sunEl
    minSolarElevationDeg := target.minSolarElevationDeg
    revisitDays := target.revisitDays
    altKm := v.altKm
    centerLat := target.centerLat
    centerLon := target.centerLon
    swathKm := host.round 1 p.swathKm
    feasible := feasible
    rejectReason := rejectReason }

/-- One more sample of an opportunity; where it is closer than the closest so far, that is noted. -/
def extend (point : TrackSample) (target : ImagingTarget) (opp : Opportunity) : Opportunity :=
  let v := p.view host point target
  if v.crossKm < opp.crossTrackKm then
    { opp with
      endUtc := point.utc
      crossTrackKm := host.round 1 v.crossKm
      offNadirDeg := host.round 2 v.offNadir
      closestApproachUtc := point.utc
      accessLat := host.round 4 v.access.1
      accessLon := host.round 4 v.access.2
      subSatLat := host.round 4 point.lat
      subSatLon := host.round 4 point.lon
      solarElevationDeg := host.round 1 v.sunEl }
  else { opp with endUtc := point.utc }

/-- Where the capture starts: centred on the closest approach, and not before the access. -/
def captureStart (start : Option (Moment ℚ)) (closest : Moment ℚ) : Moment ℚ :=
  let centred := closest.after (-(p.captureDurationS / 2))
  match start with
  | some s => if centred.time < s.time then s else centred
  | none => centred

/-- `_finalise(opp)`. -/
def finalise (opp : Opportunity) : Opportunity :=
  let start := host.moment opp.startUtc
  let stop := host.moment opp.endUtc
  let span := start.bind fun s => stop.map fun e => e.time - s.time
  let durationS := match span with
    | some d => host.round 1 d
    | none => 0
  match host.moment opp.closestApproachUtc <|> start with
  | some closest =>
      { opp with
        durationS := some durationS
        captureUtc := some (host.iso (p.captureStart start closest))
        captureExceedsWindow := match span with
          | some d => opp.captureExceedsWindow || d < p.captureDurationS
          | none => opp.captureExceedsWindow }
  | none => { opp with durationS := some durationS, captureUtc := some opp.startUtc }

/-- What `compute_opportunities` carries: the open opportunity of each target, and those closed. -/
structure Search where
  active : Dict String (Option Opportunity)
  opportunities : List Opportunity := []
  rejected : List Opportunity := []

/-- `_close(target_id)`. -/
def close (s : Search) (targetId : String) : Search :=
  match (s.active.get? targetId).join with
  | none => s
  | some opp =>
      let done := p.finalise host opp
      let s := { s with active := s.active.set targetId none }
      if done.feasible then { s with opportunities := s.opportunities ++ [done] }
      else { s with rejected := s.rejected ++ [done] }

variable (includeInfeasible : Bool)

/-- One target at one sample. -/
def visit (point : TrackSample) (s : Search) (target : ImagingTarget) : Search :=
  if p.reachable host point target then
    if p.lit host point target then
      match (s.active.get? target.id).join with
      | none =>
          { s with active := s.active.set target.id (some (p.makeOpp host point target true none)) }
      | some opp =>
          { s with active := s.active.set target.id (some (p.extend host point target opp)) }
    else if (s.active.get? target.id).join.isSome then p.close host s target.id
    else if includeInfeasible then
      { s with
        rejected := s.rejected ++
          [p.makeOpp host point target false (some (p.darkReason host point target))] }
    else s
  else if (s.active.get? target.id).join.isSome then p.close host s target.id
  else s

/-- `opportunities.sort(key=lambda o: o.get("start_utc", ""))`. -/
def sortByStart (opps : List Opportunity) : List Opportunity :=
  opps.insertionSort fun a b => a.startUtc ≤ b.startUtc

/-- The walk over the track, with what is open at the end closed. -/
def search (groundTrack : List TrackSample) : Search :=
  let start : Search :=
    { active := p.targets.foldl (fun d t => d.set t.id none) Dict.empty }
  let walked := groundTrack.foldl
    (fun s point => p.targets.foldl (p.visit host includeInfeasible point) s) start
  walked.active.keys.foldl (p.close host) walked

/-- `compute_opportunities(ground_track, include_infeasible=…)`. -/
def computeOpportunities (groundTrack : List TrackSample) : List Opportunity :=
  if p.targets = [] ∨ groundTrack = [] then []
  else
    let found := p.search host includeInfeasible groundTrack
    let opportunities := sortByStart found.opportunities
    let dropped := sortByStart found.rejected
    let split :=
      if p.enforceRevisit then
        ((applyRevisit host p.lastScheduled opportunities).1,
          dropped ++ (applyRevisit host p.lastScheduled opportunities).2)
      else (opportunities, dropped)
    if includeInfeasible then sortByStart (split.1 ++ split.2) else split.1

end ImagingPlanner

end Planner
