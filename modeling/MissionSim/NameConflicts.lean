import MissionSim.ActivityScheduler
import MissionSim.PowerAccounting

/-!
# Conflicts by name

`check_conflicts` reads the start and the duration of both activities and compares neither: what it
reports is a conflict of names between two activities that have start times.  An activity of the
schedule is also compared with itself.

The reports are therefore conflicts in time where names in conflict come with an overlap, and no
activity lists its own name (`checkConflicts_exact_iff`).
-/

namespace Planner

open Python

namespace ActivityScheduler

variable {K : Type}

/-! ### Reports -/

/-- One of two activities lists the other in `conflicts_with`. -/
def Lists (a b : Activity K) : Prop := b.name ∈ a.conflictsWith ∨ a.name ∈ b.conflictsWith

/-- What `check_conflicts(activity)` says of one existing activity. -/
def conflictWith (activity existing : Activity K) : Option String :=
  if existing.live ∧ activity.startTime ≠ "" ∧ existing.startTime ≠ "" ∧
      (existing.name ∈ activity.conflictsWith ∨ activity.name ∈ existing.conflictsWith) then
    some ("Conflicts with " ++ existing.name ++ " (id=" ++ toString existing.id ++ ")")
  else none

variable {a b : Activity K}

theorem lists_comm : Lists a b ↔ Lists b a := Or.comm

theorem checkConflicts_eq (s : ActivityScheduler K) (activity : Activity K) :
    s.checkConflicts activity = s.schedule.filterMap (conflictWith activity) := rfl

/-- `check_conflicts(activity)` reports a conflict with an existing activity: it says something, and
says it of this one. -/
def Reports (s : ActivityScheduler K) (activity existing : Activity K) : Prop :=
  ∃ message ∈ s.checkConflicts activity, conflictWith activity existing = some message

theorem conflictWith_isSome_iff (hb : b.live) :
    (∃ message, conflictWith a b = some message) ↔
      a.startTime ≠ "" ∧ b.startTime ≠ "" ∧ Lists a b := by
  unfold conflictWith
  split
  next h => exact ⟨fun _ => h.2, fun _ => ⟨_, rfl⟩⟩
  next h =>
    constructor
    · rintro ⟨message, hsome⟩
      cases hsome
    · intro hparts
      exact absurd ⟨hb, hparts⟩ h

variable {s : ActivityScheduler K}

/-- Of an activity of the schedule, all that is reported is that the names conflict. -/
theorem reports_iff (hmem : b ∈ s.schedule) (hb : b.live) :
    s.Reports a b ↔ a.startTime ≠ "" ∧ b.startTime ≠ "" ∧ Lists a b := by
  rw [← conflictWith_isSome_iff hb, Reports, checkConflicts_eq]
  constructor
  · rintro ⟨message, -, hmessage⟩
    exact ⟨message, hmessage⟩
  · rintro ⟨message, hmessage⟩
    exact ⟨message, List.mem_filterMap.mpr ⟨b, hmem, hmessage⟩, hmessage⟩

theorem reports_comm (hma : a ∈ s.schedule) (hmb : b ∈ s.schedule) (ha : a.live) (hb : b.live) :
    s.Reports a b ↔ s.Reports b a := by
  rw [reports_iff hmb hb, reports_iff hma ha, lists_comm, and_left_comm]

/-- An activity is reported to itself where it lists its own name. -/
theorem reports_self_iff {a : Activity K} (hmem : a ∈ s.schedule) (ha : a.live) :
    s.Reports a a ↔ a.startTime ≠ "" ∧ a.name ∈ a.conflictsWith := by
  rw [reports_iff hmem ha, Lists, or_self, ← and_assoc, and_self]

/-- `validate_schedule(contacts)`; the contacts are not read. -/
def validateSchedule (s : ActivityScheduler K) : List Issue :=
  s.schedule.flatMap fun activity =>
    if activity.live then
      (s.checkConflicts activity).map fun c => ⟨some activity.id, .conflict, c⟩
    else []

/-- `validate_schedule` lists what is reported to each live activity. -/
theorem mem_validateSchedule_iff {issue : Issue} :
    issue ∈ s.validateSchedule ↔
      ∃ a ∈ s.schedule, a.live ∧ ∃ b ∈ s.schedule, ∃ message,
        conflictWith a b = some message ∧ issue = ⟨some a.id, .conflict, message⟩ := by
  unfold validateSchedule
  rw [List.mem_flatMap]
  constructor
  · rintro ⟨a, ha, hissue⟩
    by_cases hlive : a.live
    · rw [if_pos hlive, checkConflicts_eq] at hissue
      obtain ⟨message, hmessage, rfl⟩ := List.mem_map.mp hissue
      obtain ⟨b, hb, hconflict⟩ := List.mem_filterMap.mp hmessage
      exact ⟨a, ha, hlive, b, hb, message, hconflict, rfl⟩
    · rw [if_neg hlive] at hissue
      cases hissue
  · rintro ⟨a, ha, hlive, b, hb, message, hconflict, rfl⟩
    refine ⟨a, ha, ?_⟩
    rw [if_pos hlive, checkConflicts_eq]
    exact List.mem_map.mpr ⟨message, List.mem_filterMap.mpr ⟨b, hb, hconflict⟩, rfl⟩

/-! ### Time -/

variable [Field K] [LinearOrder K]

/-- Each of two activities starts before the other ends. -/
def OverlapInTime (host : Host K) (a b : Activity K) : Prop :=
  ∃ start exStart, host.moment a.startTime = some start ∧ host.moment b.startTime = some exStart ∧
    start.time < (exStart.after b.durationS).time ∧ exStart.time < (start.after a.durationS).time

/-- Name conflicts are time conflicts, in a schedule and with an activity that is to be added. -/
structure ConflictsExact (host : Host K) (s : ActivityScheduler K) (added : Activity K) : Prop where
  /-- Of any two live activities of the schedule, each is reported to the other exactly where their
  names conflict and they overlap. -/
  pairs : s.schedule.Pairwise fun a b => a.live → b.live →
    (s.Reports a b ↔ Lists a b ∧ OverlapInTime host a b) ∧
      (s.Reports b a ↔ Lists b a ∧ OverlapInTime host b a)
  symm : s.schedule.Pairwise fun a b => a.live → b.live → (s.Reports a b ↔ s.Reports b a)
  irrefl : ∀ a ∈ s.schedule, a.live → ¬ s.Reports a a
  /-- The check before the activity is added. -/
  before : ∀ b ∈ s.schedule, b.live →
    (s.Reports added b ↔ Lists added b ∧ OverlapInTime host added b)

/-- Two activities with start times, one of which lists the other, overlap. -/
def OverlapIfListed (host : Host K) (a b : Activity K) : Prop :=
  a.startTime ≠ "" → b.startTime ≠ "" → Lists a b → OverlapInTime host a b

/-- Where names conflict, times overlap, and no activity lists its own name. -/
structure NamedInTime (host : Host K) (s : ActivityScheduler K) (added : Activity K) : Prop where
  pairs : s.schedule.Pairwise fun a b => a.live → b.live → OverlapIfListed host a b
  own : ∀ a ∈ s.schedule, a.live → a.startTime ≠ "" → a.name ∉ a.conflictsWith
  before : ∀ b ∈ s.schedule, b.live → OverlapIfListed host added b

variable {host : Host K} {s : ActivityScheduler K} {a b : Activity K}

theorem overlapInTime_comm : OverlapInTime host a b ↔ OverlapInTime host b a := by
  constructor
  · rintro ⟨start, exStart, ha, hb, hfirst, hsecond⟩
    exact ⟨exStart, start, hb, ha, hsecond, hfirst⟩
  · rintro ⟨start, exStart, ha, hb, hfirst, hsecond⟩
    exact ⟨exStart, start, hb, ha, hsecond, hfirst⟩

/-- Activities that overlap have start times. -/
theorem startTime_ne_of_overlap (hempty : host.parseIso "" = none) (h : OverlapInTime host a b) :
    a.startTime ≠ "" ∧ b.startTime ≠ "" := by
  obtain ⟨start, exStart, ha, hb, -, -⟩ := h
  have hnone : host.moment "" = none := by rw [Host.moment, hempty]; rfl
  constructor
  · intro heq
    rw [heq, hnone] at ha
    cases ha
  · intro heq
    rw [heq, hnone] at hb
    cases hb

/-- The reports of a pair are conflicts in time exactly where the names of the pair come with an
overlap. -/
theorem reports_exact_iff (hempty : host.parseIso "" = none) (hmem : b ∈ s.schedule)
    (hb : b.live) :
    (s.Reports a b ↔ Lists a b ∧ OverlapInTime host a b) ↔ OverlapIfListed host a b := by
  rw [reports_iff hmem hb]
  constructor
  · intro h ha hb hlists
    exact (h.mp ⟨ha, hb, hlists⟩).2
  · intro h
    constructor
    · rintro ⟨ha, hb, hlists⟩
      exact ⟨hlists, h ha hb hlists⟩
    · rintro ⟨hlists, hoverlap⟩
      have hstarts := startTime_ne_of_overlap hempty hoverlap
      exact ⟨hstarts.1, hstarts.2, hlists⟩

theorem overlapIfListed_comm : OverlapIfListed host a b ↔ OverlapIfListed host b a := by
  unfold OverlapIfListed
  rw [lists_comm, overlapInTime_comm]
  exact ⟨fun h ha hb => h hb ha, fun h ha hb => h hb ha⟩

/-- **Name conflicts are time conflicts if and only if** live activities whose names conflict
overlap, as far as they have start times, and none lists its own name. -/
theorem checkConflicts_exact_iff (host : Host K) (s : ActivityScheduler K) (added : Activity K)
    (hempty : host.parseIso "" = none) :
    s.ConflictsExact host added ↔ s.NamedInTime host added := by
  constructor
  · intro h
    exact {
      pairs := by
        apply h.pairs.imp_of_mem
        intro a b _ hmb hpair ha hb
        exact (reports_exact_iff hempty hmb hb).mp (hpair ha hb).1
      own := by
        intro a hma ha hstart hown
        exact h.irrefl a hma ha ((reports_self_iff hma ha).mpr ⟨hstart, hown⟩)
      before := by
        intro b hmb hb
        exact (reports_exact_iff hempty hmb hb).mp (h.before b hmb hb) }
  · intro h
    exact {
      pairs := by
        apply h.pairs.imp_of_mem
        intro a b hma hmb hpair ha hb
        exact ⟨(reports_exact_iff hempty hmb hb).mpr (hpair ha hb),
          (reports_exact_iff hempty hma ha).mpr (overlapIfListed_comm.mp (hpair ha hb))⟩
      symm := by
        apply h.pairs.imp_of_mem
        intro a b hma hmb _ ha hb
        exact reports_comm hma hmb ha hb
      irrefl := by
        intro a hma ha hreport
        obtain ⟨hstart, hown⟩ := (reports_self_iff hma ha).mp hreport
        exact h.own a hma ha hstart hown
      before := by
        intro b hmb hb
        exact (reports_exact_iff hempty hmb hb).mpr (h.before b hmb hb) }

/-- An imaging activity, and a downlink that is not to be done at the same time. -/
def imaging (id : Nat) (start : String) : Activity ℚ where
  id := id
  name := "imaging"
  startTime := start
  durationS := 300
  powerW := 75
  dataVolumeMb := 800
  conflictsWith := ["downlink"]

def downlink (id : Nat) (start : String) : Activity ℚ where
  id := id
  name := "downlink"
  startTime := start
  durationS := 600
  powerW := 60
  dataVolumeMb := 0

/-- The two at one time. -/
def overlappingSchedule : ActivityScheduler ℚ where
  schedule := [imaging 1 "2026-01-01T00:05:00Z", downlink 2 "2026-01-01T00:05:00Z"]
  dataParams := {}

theorem checkConflicts_exact_example :
    overlappingSchedule.ConflictsExact powerHost (downlink 3 "2026-01-01T00:07:00Z") := by
  refine (checkConflicts_exact_iff powerHost _ _ rfl).mpr ?_
  exact {
    pairs := by
      refine List.pairwise_pair.mpr fun _ _ _ _ _ => ?_
      exact ⟨_, _, rfl, rfl, by decide +kernel, by decide +kernel⟩
    own := by
      intro a ha _ _
      rcases List.mem_pair.mp ha with rfl | rfl
      · decide
      · decide
    before := by
      intro b hb _ _ _ hlists
      rcases List.mem_pair.mp hb with rfl | rfl
      · exact ⟨_, _, rfl, rfl, by decide +kernel, by decide +kernel⟩
      · exact absurd hlists (by unfold Lists; decide) }

/-- The downlink is an hour after the imaging, and the two are in conflict. -/
theorem checkConflicts_not_exact :
    ¬ ConflictsExact powerHost
      { schedule := [imaging 1 "2026-01-01T00:00:00Z", downlink 2 "2026-01-01T01:00:00Z"]
        dataParams := {} }
      (downlink 3 "2026-01-01T01:00:00Z") := by
  intro h
  have hreports : Reports
      { schedule := [imaging 1 "2026-01-01T00:00:00Z", downlink 2 "2026-01-01T01:00:00Z"]
        dataParams := {} }
      (imaging 1 "2026-01-01T00:00:00Z") (downlink 2 "2026-01-01T01:00:00Z") := by
    exact ⟨"Conflicts with downlink (id=2)", by decide +kernel, by decide +kernel⟩
  obtain ⟨-, start, exStart, hstart, hexStart, -, hlt⟩ :=
    ((List.pairwise_pair.mp h.pairs) rfl rfl).1.mp hreports
  obtain rfl := Option.some.inj hstart
  obtain rfl := Option.some.inj hexStart
  exact absurd hlt (by decide +kernel)

end ActivityScheduler

end Planner
