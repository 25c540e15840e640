import MissionSim.ActivityScheduler
import MissionSim.PowerAccounting

/-!
# Which slews are reported

The scheduler checks the slews between its imaging activities.  The validation of a plan checks
those between all its activities, so that another activity in between hides a slew, and one with a
target adds some.  A coordinate that is zero counts as missing.
-/

namespace Planner

open Python Neighbours
open scoped Timelines

variable {K : Type} [Field K] [LinearOrder K]

omit [Field K] [LinearOrder K] in
/-- Sorting leaves out what is left out before. -/
theorem sortedActs_filter (p : Activity K → Bool) (activities : List (Activity K)) :
    sortedActs (activities.filter p) = (sortedActs activities).filter p := by
  exact insertionSort_filter p activities

namespace ActivityScheduler

variable (host : Host K) (s : ActivityScheduler K)

/-- The imaging activities in order of start, each with the next. -/
def imagingPairs : List (Activity K × Activity K) := consecutive (sortedActs (s.imagingActivities host))

/-- Both activities of a pair are live. -/
def bothLive (q : Activity K × Activity K) : Bool := q.1.live && q.2.live

/-- There is not the time for the slew between two targets. -/
def shortSlew (q : Activity K × Activity K) : Bool :=
  ((AOCSConstraintChecker.default : AOCSConstraintChecker K).shortSlew host q.1 q.2).isSome

/-- There is not the time for the cooldown between two activities. -/
def shortCooldown (q : Activity K × Activity K) : Bool :=
  ((ThermalConstraintChecker.default : ThermalConstraintChecker K).shortCooldown host q.1 q.2).isSome

/-- The slews that a check of some activities reports. -/
def reportedSlews (activities : List (Activity K)) : List (Activity K × Activity K) :=
  (AOCSConstraintChecker.default : AOCSConstraintChecker K).slewPairs host activities

/-- The cooldowns that a check of the schedule reports. -/
def reportedCooldowns : List (Activity K × Activity K) :=
  (ThermalConstraintChecker.default : ThermalConstraintChecker K).cooldownPairs host s.schedule

/-- **The checks agree and miss no pair.** -/
structure Agrees : Prop where
  violations : (AOCSConstraintChecker.default : AOCSConstraintChecker K).checkSlewConstraints host
    s.schedule = (s.checkAocsConstraints host).1
  pairs : reportedSlews host s.schedule = reportedSlews host (s.imagingActivities host)
  slews : ∀ q ∈ s.imagingPairs host, bothLive q →
    (q ∈ reportedSlews host s.schedule ↔ shortSlew host q)
  cooldowns : (s.reportedCooldowns host).filter bothLive =
    (s.imagingPairs host).filter fun q => bothLive q && shortCooldown host q

/-- The slew between two activities is reported where they follow each other. -/
def reportsSlew (q : Activity K × Activity K) : Bool :=
  ((AOCSConstraintChecker.default : AOCSConstraintChecker K).reportedSlew host q.1 q.2).isSome

/-- The activity is an imaging activity. -/
def isImaging (a : Activity K) : Bool := host.names "imaging" a.name

/-- The slews that are too short are between imaging activities, without another activity between
the two and without a zero among the coordinates; the same for cooldowns. -/
structure Undisturbed : Prop where
  imaging : Within (isImaging host) (reportsSlew host) (sortedActs s.schedule)
  slews : Adjacent (isImaging host) (reportsSlew host) (sortedActs s.schedule)
  nonzero : ∀ q ∈ s.imagingPairs host, bothLive q → shortSlew host q →
    allTruthy [q.1.captureLat, q.1.captureLon, q.2.captureLat, q.2.captureLon]
  cooldowns : Adjacent (isImaging host) (fun q => bothLive q && shortCooldown host q)
    (sortedActs s.schedule)

variable {host s}

omit [Field K] [LinearOrder K] in
theorem imagingPairs_eq :
    s.imagingPairs host = consecutive ((sortedActs s.schedule).filter (isImaging host)) := by
  unfold imagingPairs imagingActivities
  rw [sortedActs_filter]
  rfl

theorem pairs_iff :
    reportedSlews host s.schedule = reportedSlews host (s.imagingActivities host) ↔
      Within (isImaging host) (reportsSlew host) (sortedActs s.schedule) ∧
        Adjacent (isImaging host) (reportsSlew host) (sortedActs s.schedule) := by
  rw [← filter_consecutive_eq_iff, ← imagingPairs_eq]
  rfl

/-- A slew is reported where it is too short and no coordinate is missing or zero. -/
theorem reportsSlew_iff (q : Activity K × Activity K) :
    reportsSlew host q ↔
      allTruthy [q.1.captureLat, q.1.captureLon, q.2.captureLat, q.2.captureLon] ∧
        shortSlew host q := by
  unfold reportsSlew shortSlew AOCSConstraintChecker.reportedSlew
  split <;> simp_all

theorem slews_iff
    (hpairs : reportedSlews host s.schedule = reportedSlews host (s.imagingActivities host)) :
    (∀ q ∈ s.imagingPairs host, bothLive q →
      (q ∈ reportedSlews host s.schedule ↔ shortSlew host q)) ↔
    ∀ q ∈ s.imagingPairs host, bothLive q → shortSlew host q →
      allTruthy [q.1.captureLat, q.1.captureLon, q.2.captureLat, q.2.captureLon] := by
  rw [hpairs]
  refine forall_congr' fun q => forall_congr' fun hq => forall_congr' fun _ => ?_
  have hmem : q ∈ reportedSlews host (s.imagingActivities host) ↔ reportsSlew host q :=
    ⟨fun h => (List.mem_filter.mp h).2, fun h => List.mem_filter.mpr ⟨hq, h⟩⟩
  rw [hmem, reportsSlew_iff]
  constructor
  · intro h hshort
    exact (h.mpr hshort).1
  · intro h
    exact ⟨And.right, fun hshort => ⟨h hshort, hshort⟩⟩

theorem cooldowns_iff :
    (s.reportedCooldowns host).filter bothLive =
        ((s.imagingPairs host).filter fun q => bothLive q && shortCooldown host q) ↔
      Adjacent (isImaging host) (fun q => bothLive q && shortCooldown host q)
        (sortedActs s.schedule) := by
  have hreported : ∀ q : Activity K × Activity K,
      (((ThermalConstraintChecker.default : ThermalConstraintChecker K).reportedCooldown host
        q.1 q.2).isSome && bothLive q) =
      (isImaging host q.1 && isImaging host q.2 && (bothLive q && shortCooldown host q)) := by
    intro q
    unfold ThermalConstraintChecker.reportedCooldown shortCooldown isImaging
    split <;> simp_all [Bool.and_comm]
  have hleft : (s.reportedCooldowns host).filter bothLive =
      (consecutive (sortedActs s.schedule)).filter fun q =>
        isImaging host q.1 && isImaging host q.2 && (bothLive q && shortCooldown host q) := by
    unfold reportedCooldowns ThermalConstraintChecker.cooldownPairs
    rw [List.filter_filter]
    refine List.filter_congr fun q _ => ?_
    rw [← hreported q, Bool.and_comm]
  have hright : ((s.imagingPairs host).filter fun q => bothLive q && shortCooldown host q) =
      (consecutive ((sortedActs s.schedule).filter (isImaging host))).filter fun q =>
        isImaging host q.1 && isImaging host q.2 && (bothLive q && shortCooldown host q) := by
    rw [imagingPairs_eq]
    refine List.filter_congr fun q hq => ?_
    obtain ⟨hfirst, hsecond⟩ := mem_of_mem_consecutive hq
    rw [(List.mem_filter.mp hfirst).2, (List.mem_filter.mp hsecond).2]
    rfl
  rw [hleft, hright, filter_consecutive_eq_iff]
  constructor
  · rintro ⟨_, hadjacent⟩ a rest hsuffix ha b hb hf
    refine hadjacent a rest hsuffix ha b hb ?_
    dsimp only
    rw [ha, List.find?_some hb]
    exact hf
  · intro hadjacent
    refine ⟨fun q _ hf => ?_, fun a rest hsuffix ha b hb hf => ?_⟩
    · simp only [Bool.and_eq_true] at hf
      exact hf.1
    · rw [Bool.and_eq_true] at hf
      exact hadjacent a rest hsuffix ha b hb hf.2

/-- **The checks agree and miss no pair just where nothing disturbs the pairs that are too close.** -/
theorem agrees_iff : s.Agrees host ↔ s.Undisturbed host := by
  constructor
  · intro h
    obtain ⟨hwithin, hadjacent⟩ := pairs_iff.mp h.pairs
    exact ⟨hwithin, hadjacent, (slews_iff h.pairs).mp h.slews, cooldowns_iff.mp h.cooldowns⟩
  · intro h
    have hpairs := pairs_iff.mpr ⟨h.imaging, h.slews⟩
    refine ⟨?_, hpairs, (slews_iff hpairs).mpr h.nonzero, cooldowns_iff.mpr h.cooldowns⟩
    exact congrArg (List.filterMap _) hpairs

end ActivityScheduler

/-! ### Schedules -/

/-- An imaging pass of nearly five minutes. -/
def firstTarget : Activity ℚ :=
  { capture with durationS := 290, captureLat := some 10, captureLon := some 30 }

/-- One that begins ten seconds after the other has ended, ten degrees away. -/
def secondTarget : Activity ℚ :=
  { capture with
    id := 2, startTime := "2026-01-01T00:10:00Z", captureLat := some 20, captureLon := some 30 }

def collection : Activity ℚ where
  id := 3
  name := "housekeeping_collection"
  startTime := "2026-01-01T00:07:00Z"
  durationS := 60
  powerW := 5
  dataVolumeMb := 1

/-- A collection between the two hides the slew and the cooldown from the validation, a target on the
equator hides the slew from both checks, and a calibration with a target is checked by one. -/
theorem not_agrees :
    ¬ (⟨[firstTarget, secondTarget, collection], {}⟩ : ActivityScheduler ℚ).Agrees powerHost ∧
    ¬ (⟨[{ firstTarget with captureLat := some 0 }, { secondTarget with captureLat := some 10 }],
      {}⟩ : ActivityScheduler ℚ).Agrees powerHost ∧
    ¬ (⟨[firstTarget, { secondTarget with name := "calibration" }], {}⟩ :
      ActivityScheduler ℚ).Agrees powerHost := by
  refine ⟨?_, ?_, ?_⟩
  · intro h
    have hcooldowns := congrArg List.length h.cooldowns
    revert hcooldowns
    decide +kernel
  · intro h
    have hslew := h.slews ({ firstTarget with captureLat := some 0 },
      { secondTarget with captureLat := some 10 }) List.mem_cons_self (by decide +kernel)
    have hmem := hslew.mpr (by decide +kernel)
    have hempty := List.length_pos_of_mem hmem
    revert hempty
    decide +kernel
  · intro h
    have hpairs := congrArg List.length h.pairs
    revert hpairs
    decide +kernel

end Planner
