import MissionSim.DataBudget
import Mathlib.Data.String.Basic

/-!
# The data of a plan

A schedule holds activities, each with a state; the ground track holds points of the orbit.  The
planner's checks and budgets read these next to the contact windows.

A time is a text.  What is parsed of it is an instant in seconds, together with the text itself, in
whose zone the instant is written out again.
-/

namespace Planner

open Python
open scoped Timelines

variable {K : Type}

/-- `ActivityState`. -/
inductive ActivityState
  | planned
  | validated
  | uploaded
  | executing
  | completed
  | failed
  | cancelled
deriving DecidableEq, Repr

/-- `state.name`. -/
def ActivityState.name : ActivityState → String
  | planned => "PLANNED"
  | validated => "VALIDATED"
  | uploaded => "UPLOADED"
  | executing => "EXECUTING"
  | completed => "COMPLETED"
  | failed => "FAILED"
  | cancelled => "CANCELLED"

/-- An activity, as `add_activity` builds it.  Its `state` and `state_name` are written together. -/
structure Activity (K : Type) where
  id : Nat
  name : String
  startTime : String
  durationS : K
  powerW : K
  dataVolumeMb : K
  state : ActivityState := .planned
  conflictsWith : List String := []
  preConditions : List String := []
  passId : Option Int := none
  captureLat : Option K := none
  captureLon : Option K := none
  maxElevationDeg : Option K := none
  passMaxElevationDeg : Option K := none

/-- `state not in (CANCELLED, FAILED)`. -/
def Activity.live (a : Activity K) : Bool :=
  !(a.state = .cancelled || a.state = .failed)

/-- `state_name` says the same as `state`. -/
theorem Activity.live_eq (a : Activity K) :
    a.live = !(a.state.name = "CANCELLED" || a.state.name = "FAILED") := by
  unfold live
  cases a.state <;> decide

/-- A point of the ground track. -/
structure TrackPoint (K : Type) where
  utc : String := ""
  inEclipse : Bool := false
  solarBetaDeg : Option K := none

/-- A `datetime`: an instant, and a text whose zone it is in. -/
structure Moment (K : Type) where
  time : K
  zone : String

/-- `m + timedelta(seconds=s)`. -/
def Moment.after [Add K] (m : Moment K) (s : K) : Moment K := { m with time := m.time + s }

/-- What is taken from outside. -/
structure Host (K : Type) extends DataBudget.Host K where
  /-- `isoformat()` of an instant, in the zone of a text. -/
  isoformat : String → K → String
  /-- `round(x, n)`. -/
  round : Nat → K → K
  /-- `f"{x:.nf}"`. -/
  fixed : Nat → K → String
  /-- `str(x)` of a number. -/
  str : K → String
  /-- `int(x)`. -/
  trunc : K → Int
  sqrt : K → K

/-- `parse_iso(s)`. -/
def Host.moment (host : Host K) (s : String) : Option (Moment K) :=
  (host.parseIso s).map fun time => { time := time, zone := s }

/-- `m.isoformat()`. -/
def Host.iso (host : Host K) (m : Moment K) : String := host.isoformat m.zone m.time

/-- `needle in name.lower()`. -/
def Host.names (host : Host K) (needle : String) (name : String) : Bool :=
  decide (needle.toList <:+: (host.lower name).toList)

/-- `sorted(activities, key=lambda a: a.get("start_time", ""))`. -/
def sortedActs (activities : List (Activity K)) : List (Activity K) :=
  activities.insertionSort fun a b => a.startTime ≤ b.startTime

/-- `_estimate_eclipse_fraction(start, end, ground_track)`. -/
def estimateEclipseFraction [Field K] (host : Host K) (groundTrack : List (TrackPoint K))
    (start stop : Moment K) : K :=
  let within := groundTrack.filter fun p => host.iso start ≤ p.utc ∧ p.utc ≤ host.iso stop
  if within = [] then 35 / 100
  else ((within.filter TrackPoint.inEclipse).length : K) / (within.length : K)

end Planner
