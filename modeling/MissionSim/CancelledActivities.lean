import MissionSim.SlewAgreement
import MissionSim.DataWarnings
import Mathlib.Data.List.Flatten

/-!
# Cancelled activities in a plan

Most checks pass over the activities that are cancelled or failed.  The checks of slews, momentum,
duty cycle and cooldown do not, nor does the one of an activity's own energy.
-/

namespace Planner

open Python Neighbours Activity ConflictResolutionChecker PowerTracker List
open scoped Timelines

variable {K : Type} [Field K] [LinearOrder K]

/-- A plan with all that it is checked against. -/
structure Plan (K : Type) where
  schedule : List (Activity K)
  groundTrack : List (TrackPoint K)
  initialSoc : K
  batteryWh : K
  dataParams : DataParams K
  /-- The contacts and the parameters of the data budget. -/
  budget : DataTracker K

namespace Plan

variable (p : Plan K)

/-- The scheduler of a plan. -/
def scheduler : ActivityScheduler K := { schedule := p.schedule, dataParams := p.dataParams }

/-- The power budget of a plan. -/
def powerTracker : PowerTracker K where
  contacts := p.budget.contacts
  schedule := sortedActs p.schedule
  groundTrack := p.groundTrack
  initialSoc := p.initialSoc
  batteryWh := p.batteryWh

/-- The data budget of a plan. -/
def dataTracker : DataTracker K :=
  { p.budget with schedule := (sortedActs p.schedule).map Activity.data }

/-- The plan without the activities that are cancelled or failed. -/
def onlyLive : Plan K := { p with schedule := p.schedule.filter Activity.live }

end Plan

/-! ### Checks that pass over what is not live -/

theorem checkPlanPower_live (host : Host K) (c : PowerConstraintChecker K)
    (schedule : List (Activity K)) (initialSoc : K) (groundTrack : List (TrackPoint K)) :
    c.checkPlanPower host (schedule.filter live) initialSoc groundTrack =
      c.checkPlanPower host schedule initialSoc groundTrack := by
  unfold PowerConstraintChecker.checkPlanPower
  rw [sortedActs_filter, foldl_filter]
  refine congrArg (fun f => foldl f _ _) (funext fun s => funext fun a => ?_)
  unfold PowerConstraintChecker.planStep
  cases a.live <;> rfl

theorem checkStorageCapacity_live (host : Host K) (c : DataVolumeConstraintChecker K)
    (activities : List (Activity K)) (onboardMb : K) :
    c.checkStorageCapacity host (activities.filter live) onboardMb =
      c.checkStorageCapacity host activities onboardMb := by
  have hstep : (fun s a => if a.live then c.storageStep host s a else pure s) =
      c.storageStep host := by
    funext s a
    unfold DataVolumeConstraintChecker.storageStep
    cases a.live <;> rfl
  unfold DataVolumeConstraintChecker.checkStorageCapacity
  rw [sortedActs_filter, foldlM_filter, hstep]

theorem checkResourceConflicts_live (host : Host K) (activities : List (Activity K)) :
    checkResourceConflicts host (activities.filter live) =
      checkResourceConflicts host activities := by
  induction activities with
  | nil => rfl
  | cons a rest ih =>
      rw [checkResourceConflicts, ← ih]
      by_cases hlive : a.live
      · rw [filter_cons_of_pos hlive, checkResourceConflicts,
          filterMap_filter]
        refine congrArg (· ++ _) (filterMap_congr fun b _ => ?_)
        unfold conflict
        cases b.live <;> simp
      · have hnone : rest.filterMap (conflict host a) = [] :=
          filterMap_eq_nil_iff.mpr fun b _ => by
            unfold conflict
            rw [Bool.eq_false_iff.mpr hlive]
            rfl
        rw [filter_cons_of_neg hlive, hnone, nil_append]

theorem validatePassPlan_live (host : Host K) (cond : CondHost K) (p : Plan K)
    (inputs : ActivityScheduler.PassInputs K) :
    p.onlyLive.scheduler.validatePassPlan host cond inputs =
      p.scheduler.validatePassPlan host cond inputs := by
  have hconflicts : ∀ a, p.onlyLive.scheduler.checkConflicts a = p.scheduler.checkConflicts a := by
    intro a
    show (p.schedule.filter live).filterMap _ = p.schedule.filterMap _
    rw [filterMap_filter]
    refine filterMap_congr fun b _ => ?_
    cases b.live <;> simp
  have hoverlaps : ∀ a,
      p.onlyLive.scheduler.checkTimeOverlap host a = p.scheduler.checkTimeOverlap host a := by
    intro a
    unfold ActivityScheduler.checkTimeOverlap
    cases host.moment a.startTime with
    | none => rfl
    | some start =>
        show (p.schedule.filter live).filterMap _ = p.schedule.filterMap _
        rw [filterMap_filter]
        refine filterMap_congr fun b _ => ?_
        unfold ActivityScheduler.overlapWith
        cases b.live <;> simp
  have hissues : p.onlyLive.scheduler.activityIssues host cond inputs =
      p.scheduler.activityIssues host cond inputs := by
    funext a
    unfold ActivityScheduler.activityIssues
    rw [hconflicts, hoverlaps]
  have hall : ∀ l : List (Activity K),
      (l.filter live).flatMap (p.scheduler.activityIssues host cond inputs) =
        l.flatMap (p.scheduler.activityIssues host cond inputs) := by
    intro l
    induction l with
    | nil => rfl
    | cons a rest ih =>
        by_cases hlive : a.live
        · rw [filter_cons_of_pos hlive, flatMap_cons, flatMap_cons, ih]
        · have hnone : p.scheduler.activityIssues host cond inputs a = [] := if_neg hlive
          rw [filter_cons_of_neg hlive, flatMap_cons, hnone, ih, nil_append]
  unfold ActivityScheduler.validatePassPlan
  rw [hissues]
  exact congrArg (· ++ _ ++ _) (hall p.schedule)

theorem computeDataBudget_live (host : Host K) (p : Plan K) :
    p.onlyLive.dataTracker.computeDataBudget host = p.dataTracker.computeDataBudget host := by
  rw [← p.dataTracker.computeDataBudget_onlyActive host]
  have hlive : (live : Activity K → Bool) = (fun b : DataBudget.Activity K =>
      !(b.stateName = "CANCELLED" || b.stateName = "FAILED")) ∘ data :=
    funext live_eq
  have hschedule : (sortedActs p.onlyLive.schedule).map data =
      p.dataTracker.active := by
    show (sortedActs (p.schedule.filter live)).map data =
      ((sortedActs p.schedule).map data).filter _
    rw [sortedActs_filter, filter_map, ← hlive]
  unfold Plan.dataTracker DataTracker.onlyActive DataBudget.BudgetTracker.onlyActive
  rw [hschedule]
  rfl

/-! ### Energy -/

omit [Field K] [LinearOrder K] in
/-- What is left out says nothing just if the lists are the same. -/
theorem flatMap_filter_eq_iff {α β : Type} (q : α → Bool) (f : α → List β) (l : List α) :
    (l.filter q).flatMap f = l.flatMap f ↔ ∀ a ∈ l, ¬ q a → f a = [] := by
  induction l with
  | nil => simp
  | cons a rest ih =>
      rw [forall_mem_cons, ← ih]
      by_cases hq : q a
      · rw [filter_cons_of_pos hq, flatMap_cons, flatMap_cons]
        exact ⟨fun h => ⟨fun hn => absurd hq hn, append_cancel_left h⟩,
          fun h => congrArg (f a ++ ·) h.2⟩
      · have hsub : ((rest.filter q).flatMap f).Sublist (rest.flatMap f) :=
          filter_sublist.flatMap f
        rw [filter_cons_of_neg hq, flatMap_cons]
        constructor
        · intro h
          have hlength := congrArg length h
          rw [length_append] at hlength
          have hle := hsub.length_le
          have hnil : f a = [] := eq_nil_of_length_eq_zero (by omega)
          exact ⟨fun _ => hnil, by rwa [hnil, nil_append] at h⟩
        · rintro ⟨hnil, heq⟩
          rw [hnil hq, heq, nil_append]

variable (host : Host K) (p : Plan K)

theorem walk_live (contacts : List (DataBudget.Contact K × Nat)) :
    p.onlyLive.powerTracker.walk host contacts = p.powerTracker.walk host contacts := by
  have hdraws : p.onlyLive.powerTracker.activityPowerDuring host =
      p.powerTracker.activityPowerDuring host := by
    have hall : ∀ (interval : K × K) (l : List (Activity K)),
        ((l.filter live).map (activityEnergy host interval)).sum =
          (l.map (activityEnergy host interval)).sum := by
      intro interval l
      induction l with
      | nil => rfl
      | cons a rest ih =>
          by_cases hlive : a.live
          · rw [filter_cons_of_pos hlive, map_cons, map_cons, sum_cons,
              sum_cons, ih]
          · have hnone : activityEnergy host interval a = 0 := if_neg fun h => hlive h.1
            rw [filter_cons_of_neg hlive, map_cons, sum_cons, hnone, ih, zero_add]
    funext start stop
    show ((sortedActs (p.schedule.filter live)).map _).sum = _
    rw [sortedActs_filter]
    exact hall _ _
  have hstep : p.onlyLive.powerTracker.step host = p.powerTracker.step host := by
    funext w c
    unfold step PowerTracker.pass
    rw [hdraws]
    rfl
  unfold walk
  rw [hstep]
  rfl

/-- The activity has the energy that it draws. -/
def Affords (a : Activity K) : Prop :=
  a.powerW ≤ 0 ∨ a.durationS ≤ 0 ∨
    a.powerW * (a.durationS / 3600) / p.batteryWh * 100 ≤
      p.powerTracker.socAtActivity host a
        (p.powerTracker.walk host p.budget.contacts.zipIdx).predictions - minSocPercent

theorem checkActivityPower_eq_nil_iff (a : Activity K) :
    p.powerTracker.checkActivityPower host
      (p.powerTracker.walk host p.budget.contacts.zipIdx).predictions a = [] ↔ Affords host p a := by
  unfold checkActivityPower Affords
  split
  · next h => simp only [true_iff]; tauto
  · next h =>
      rw [not_or] at h
      simp only [h.1, h.2, false_or]
      split
      · next hlt =>
          simp only [cons_ne_nil, false_iff]
          exact not_le.mpr hlt
      · next hle =>
          simp only [true_iff]
          exact not_lt.mp hle

theorem computePowerBudget_live_iff :
    p.onlyLive.powerTracker.computePowerBudget host = p.powerTracker.computePowerBudget host ↔
      (p.budget.contacts ≠ [] → p.batteryWh ≠ 0 →
        ∀ a ∈ p.schedule, ¬ a.live → Affords host p a) := by
  by_cases hcontacts : p.budget.contacts = []
  · have hnone : ∀ q : Plan K, q.budget = p.budget → q.initialSoc = p.initialSoc →
        q.powerTracker.computePowerBudget host = p.powerTracker.computePowerBudget host := by
      intro q hbudget hsoc
      unfold computePowerBudget
      rw [if_pos (show q.powerTracker.contacts = [] by rw [← hcontacts, ← hbudget]; rfl),
        if_pos (show p.powerTracker.contacts = [] from hcontacts)]
      show some (PowerBudget.mk q.initialSoc _ q.initialSoc _ _ _) = _
      rw [hsoc]
      rfl
    exact iff_of_true (hnone _ rfl rfl) fun h => absurd hcontacts h
  by_cases hbattery : p.batteryWh = 0
  · refine iff_of_true ?_ fun _ h => absurd hbattery h
    unfold computePowerBudget
    rw [if_neg (show p.onlyLive.powerTracker.contacts ≠ [] from hcontacts),
      if_neg (show p.powerTracker.contacts ≠ [] from hcontacts),
      if_pos (show p.onlyLive.powerTracker.batteryWh = 0 from hbattery),
      if_pos (show p.powerTracker.batteryWh = 0 from hbattery)]
  · have hwarnings : p.onlyLive.powerTracker.computePowerBudget host =
          p.powerTracker.computePowerBudget host ↔
        ((sortedActs p.schedule).filter live).flatMap
            (p.powerTracker.checkActivityPower host
              (p.powerTracker.walk host p.budget.contacts.zipIdx).predictions) =
          (sortedActs p.schedule).flatMap (p.powerTracker.checkActivityPower host
            (p.powerTracker.walk host p.budget.contacts.zipIdx).predictions) := by
      unfold computePowerBudget
      rw [if_neg (show p.onlyLive.powerTracker.contacts ≠ [] from hcontacts),
        if_neg (show p.powerTracker.contacts ≠ [] from hcontacts),
        if_neg (show ¬ p.onlyLive.powerTracker.batteryWh = 0 from hbattery),
        if_neg (show ¬ p.powerTracker.batteryWh = 0 from hbattery), walk_live,
        show p.onlyLive.powerTracker.schedule = (sortedActs p.schedule).filter live from
          sortedActs_filter _ _]
      constructor
      · intro h
        have heq := congrArg PowerBudget.warnings (Option.some.inj h)
        exact append_cancel_left heq
      · intro h
        refine congrArg some ?_
        have heq := congrArg ((p.powerTracker.walk host p.powerTracker.contacts.zipIdx).warnings ++ ·) h
        exact congrArg (fun w => PowerBudget.mk p.initialSoc _ _ w _ _) heq
    rw [hwarnings, flatMap_filter_eq_iff]
    unfold sortedActs
    simp only [mem_insertionSort, checkActivityPower_eq_nil_iff]
    exact ⟨fun h _ _ => h, fun h => h hcontacts hbattery⟩

end Planner
