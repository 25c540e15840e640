import MissionSim.CancelledActivities
import MissionSim.ChargeTimelines
import MissionSim.NameConflicts

/-!
# The order of a plan

The schedule is kept in the order of the start times as texts, and the checks of power and storage
sort by these texts again.  So a plan is processed in the order of time exactly if no two start times
are spelled in an order that is not theirs (`plan_chronological_iff`).
-/

namespace Planner

open Python List
open scoped Timelines

variable {K : Type} [Field K] [LinearOrder K]

/-! ### Texts of times -/

/-- The instants of two texts, where both can be read, do not decrease. -/
def NotAfter (host : Host K) (s t : String) : Prop :=
  ∀ first second, host.parseIso s = some first → host.parseIso t = some second → first ≤ second

/-- The instants of the texts do not decrease. -/
def InOrder (host : Host K) (starts : List String) : Prop := starts.Pairwise (NotAfter host)

/-- Of any two of the texts, the lesser one is not a later instant. -/
def SpelledInOrder (host : Host K) (starts : List String) : Prop :=
  ∀ s ∈ starts, ∀ t ∈ starts, s < t → NotAfter host s t

variable {host : Host K}

omit [Field K] in
theorem SpelledInOrder.mono {starts others : List String} (h : SpelledInOrder host starts)
    (hsub : others ⊆ starts) : SpelledInOrder host others :=
  fun s hs t ht hlt => h s (hsub hs) t (hsub ht) hlt

omit [Field K] in
/-- Sorted as texts, the instants are in order exactly if the texts are spelled in order. -/
theorem inOrder_iff {starts : List String} (hsorted : starts.Pairwise (· ≤ ·)) :
    InOrder host starts ↔ SpelledInOrder host starts := by
  constructor
  · intro h
    induction starts with
    | nil =>
        intro s hs
        cases hs
    | cons u rest ih =>
        obtain ⟨hfirst, hrest⟩ := pairwise_cons.mp hsorted
        obtain ⟨hu, hin⟩ := pairwise_cons.mp h
        intro s hs t ht hlt
        rcases mem_cons.mp hs with rfl | hs'
        · rcases mem_cons.mp ht with rfl | ht'
          · exact absurd hlt (lt_irrefl _)
          · exact hu t ht'
        · rcases mem_cons.mp ht with rfl | ht'
          · exact absurd hlt (hfirst s hs').not_gt
          · exact ih hrest hin s hs' t ht' hlt
  · intro h
    apply hsorted.imp_of_mem
    intro s t hs ht hle first second hfirst hsecond
    rcases hle.lt_or_eq with hlt | rfl
    · exact h s hs t ht hlt first second hfirst hsecond
    · exact (Option.some.inj (hfirst.symm.trans hsecond)).le

/-! ### The schedule -/

/-- The starts of activities in their order. -/
def starts (activities : List (Activity K)) : List String := activities.map Activity.startTime

omit [Field K] [LinearOrder K] in
theorem starts_sortedActs_sorted (activities : List (Activity K)) :
    (starts (sortedActs activities)).Pairwise (· ≤ ·) :=
  pairwise_map.mpr (pairwise_insertionSort _ activities)

omit [Field K] [LinearOrder K] in
theorem sortedActs_perm (activities : List (Activity K)) :
    (sortedActs activities).Perm activities := perm_insertionSort _ activities

namespace ActivityScheduler

/-- `add_activity`, for the activity that it builds.  The warnings it attaches are those of
`check_conflicts` and `check_time_overlap`, and nothing here reads them. -/
def addActivity (s : ActivityScheduler K) (activity : Activity K) : ActivityScheduler K :=
  { s with schedule := sortedActs (s.schedule ++ [activity]) }

/-- `get_schedule()`. -/
def getSchedule (s : ActivityScheduler K) : List (Activity K) := s.schedule

/-- A scheduler to which activities are added one after another. -/
def scheduled (dataParams : DataParams K) (activities : List (Activity K)) :
    ActivityScheduler K :=
  activities.foldl addActivity { schedule := [], dataParams := dataParams }

omit [Field K] [LinearOrder K] in
theorem addAll_perm (activities : List (Activity K)) (s : ActivityScheduler K) :
    (activities.foldl addActivity s).schedule.Perm (s.schedule ++ activities) := by
  induction activities generalizing s with
  | nil => rw [append_nil]; rfl
  | cons a rest ih =>
      have hstep := (sortedActs_perm (s.schedule ++ [a])).append_right rest
      rw [append_assoc] at hstep
      exact (ih (s.addActivity a)).trans hstep

omit [Field K] [LinearOrder K] in
theorem addAll_sorted (activities : List (Activity K)) {s : ActivityScheduler K}
    (h : (starts s.schedule).Pairwise (· ≤ ·)) :
    (starts (activities.foldl addActivity s).schedule).Pairwise (· ≤ ·) := by
  induction activities generalizing s with
  | nil => exact h
  | cons a rest ih => exact ih (starts_sortedActs_sorted (s.schedule ++ [a]))

omit [Field K] [LinearOrder K] in
/-- The schedule holds what was added, and is sorted by the texts of the starts. -/
theorem getSchedule_scheduled (dataParams : DataParams K) (activities : List (Activity K)) :
    (scheduled dataParams activities).getSchedule.Perm activities ∧
      (starts (scheduled dataParams activities).getSchedule).Pairwise (· ≤ ·) :=
  ⟨addAll_perm activities _, addAll_sorted activities List.Pairwise.nil⟩

end ActivityScheduler

/-! ### The checks -/

theorem PowerConstraintChecker.planStep_starts (c : PowerConstraintChecker K)
    (groundTrack : List (TrackPoint K)) (s : PowerCheck K) (a : Activity K) :
    (c.planStep host groundTrack s a).socTimeline.map SocEntry.startTime =
      s.socTimeline.map SocEntry.startTime ++ starts ([a].filter (counted host)) := by
  cases hcounted : counted host a with
  | false =>
      rw [planStep_not_counted host c groundTrack hcounted]
      simp [starts, hcounted]
  | true =>
      have hparts := hcounted
      unfold counted at hparts
      rw [Bool.and_eq_true, Bool.and_eq_true, Option.isSome_iff_exists] at hparts
      obtain ⟨⟨hlive, huse⟩, start, hstart⟩ := hparts
      have hskip : ¬ (a.durationS ≤ 0 ∨ a.powerW ≤ 0) := by simpa using huse
      simp [planStep, hlive, hskip, hstart, hcounted, starts]

/-- The timeline of the power check has an entry for each activity that is counted. -/
theorem PowerConstraintChecker.checkPlanPower_starts (c : PowerConstraintChecker K)
    (activities : List (Activity K)) (initialSoc : K) (groundTrack : List (TrackPoint K)) :
    (c.checkPlanPower host activities initialSoc groundTrack).socTimeline.map SocEntry.startTime =
      starts (countedActs host activities) := by
  have hrun : ∀ (acts : List (Activity K)) (s : PowerCheck K),
      (acts.foldl (c.planStep host groundTrack) s).socTimeline.map SocEntry.startTime =
        s.socTimeline.map SocEntry.startTime ++ starts (acts.filter (counted host)) := by
    intro acts
    induction acts with
    | nil =>
        intro s
        exact (append_nil _).symm
    | cons a rest ih =>
        intro s
        rw [foldl_cons, ih, planStep_starts, append_assoc]
        unfold starts
        rw [← map_append, ← filter_append, singleton_append]
  exact hrun (sortedActs activities) _

/-- The activities that the storage check adds up, in its order. -/
def storedActs (activities : List (Activity K)) : List (Activity K) :=
  (sortedActs activities).filter Activity.live

theorem DataVolumeConstraintChecker.checkStorageCapacity_eq (c : DataVolumeConstraintChecker K)
    (activities : List (Activity K)) (currentOnboardMb : K) :
    c.checkStorageCapacity host activities currentOnboardMb =
      ((storedActs activities).foldlM (c.storageStep host) (currentOnboardMb, [])).map
        Prod.snd := by
  rw [← checkStorageCapacity_live, checkStorageCapacity, sortedActs_filter]
  rfl

/-! ### Order -/

/-- The schedule and both checks have the activities in the order of time. -/
structure PlanChronological (host : Host K) (activities : List (Activity K)) : Prop where
  schedule : ∀ dataParams,
    InOrder host (starts (ActivityScheduler.scheduled dataParams activities).getSchedule)
  power : ∀ (c : PowerConstraintChecker K) (initialSoc : K) (groundTrack : List (TrackPoint K)),
    InOrder host
      ((c.checkPlanPower host activities initialSoc groundTrack).socTimeline.map SocEntry.startTime)
  /-- What the storage check adds up (`checkStorageCapacity_eq`). -/
  storage : InOrder host (starts (storedActs activities))

/-- **A plan is in the order of time if and only if** no two of its start times are spelled in
another order than theirs. -/
theorem plan_chronological_iff (host : Host K) (activities : List (Activity K)) :
    PlanChronological host activities ↔ SpelledInOrder host (starts activities) := by
  have hsorted := starts_sortedActs_sorted activities
  have hmem : starts (sortedActs activities) ⊆ starts activities :=
    ((sortedActs_perm activities).map _).subset
  -- what is left out of a sorted list leaves it sorted
  have hpart : ∀ p : Activity K → Bool, SpelledInOrder host (starts activities) →
      InOrder host (starts ((sortedActs activities).filter p)) := by
    intro p h
    have hsub : (starts ((sortedActs activities).filter p)).Sublist
        (starts (sortedActs activities)) := List.filter_sublist.map _
    exact (inOrder_iff (hsorted.sublist hsub)).mpr (h.mono fun _ ht => hmem (hsub.subset ht))
  constructor
  · intro h
    obtain ⟨hperm, hsched⟩ := ActivityScheduler.getSchedule_scheduled {} activities
    have hspelled := (inOrder_iff hsched).mp (h.schedule {})
    exact hspelled.mono (hperm.symm.map _).subset
  · intro h
    exact {
      schedule := by
        intro dataParams
        obtain ⟨hperm, hsched⟩ := ActivityScheduler.getSchedule_scheduled dataParams activities
        exact (inOrder_iff hsched).mpr (h.mono (hperm.map _).subset)
      power := by
        intro c initialSoc groundTrack
        rw [PowerConstraintChecker.checkPlanPower_starts]
        exact hpart (PowerConstraintChecker.counted host) h
      storage := hpart Activity.live h }

/-- Reads two times of March, in two zones. -/
def zonesHost : Host ℚ :=
  { powerHost with
    parseIso := fun s => match s with
      | "2026-03-11T12:00:00+02:00" => some 1773223200
      | "2026-03-11T11:00:00Z" => some 1773226800
      | _ => none }

/-- Noon two hours east of Greenwich comes before eleven in Greenwich. -/
theorem plan_not_chronological :
    ¬ PlanChronological zonesHost
      [{ capture with startTime := "2026-03-11T12:00:00+02:00" },
        { capture with id := 2, startTime := "2026-03-11T11:00:00Z" }] := by
  intro h
  have hschedule : starts (ActivityScheduler.scheduled {}
      [{ capture with startTime := "2026-03-11T12:00:00+02:00" },
        { capture with id := 2, startTime := "2026-03-11T11:00:00Z" }]).getSchedule =
      ["2026-03-11T11:00:00Z", "2026-03-11T12:00:00+02:00"] := by
    decide +kernel
  have horder := h.schedule {}
  rw [hschedule] at horder
  have hle := List.pairwise_pair.mp horder 1773226800 1773223200 rfl rfl
  exact absurd hle (by decide +kernel)

end Planner
