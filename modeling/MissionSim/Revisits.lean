import MissionSim.ImagingPlanner
import MissionSim.PowerAccounting
import MissionSim.Spacing

/-!
# Revisits

The planner keeps the latest committed capture of each target, and drops an opportunity that comes
less than the target's revisit interval after the last capture, committed or kept.  For one target
this keeps a distance from the latest of its committed captures (`applyRevisit_times`).

An opportunity before the latest committed capture is dropped however far it is from all captures:
its distance to that capture is negative.
-/

namespace Planner

namespace ImagingPlanner

open Python Spacing

variable (host : ImagingHost)

/-- The times of a target's opportunities. -/
def times (target : String) (opps : List Opportunity) : List ℚ :=
  opps.filterMap fun opp => if opp.targetId = target then captureTime host opp else none

/-- The times of a target's committed captures. -/
def committed (target : String) (commits : List (String × When)) : List ℚ :=
  commits.filterMap fun c => if c.1 = target then c.2.time? host else none

/-- `_last_scheduled` after some captures are committed. -/
def lastScheduledOf (commits : List (String × When)) : Dict String ℚ :=
  commits.foldl (noteScheduled host) Dict.empty

/-- The filter is exact for a target: what is kept keeps the interval from each other and from the
committed captures, and what is dropped is closer than that to one of these. -/
def RevisitExact (target : String) (days : ℚ) (commits : List (String × When))
    (opps : List Opportunity) : Prop :=
  let split := applyRevisit host (lastScheduledOf host commits) opps
  Exact (days * 86400) (committed host target commits) (times host target split.1)
    (times host target split.2)

variable {host} {target : String}

/-! ### Committed captures -/

theorem noteScheduled_get?_ne (last : Dict String ℚ) {c : String × When} (h : c.1 ≠ target) :
    (noteScheduled host last c).get? target = last.get? target := by
  have hset : ∀ t, (last.set c.1 t).get? target = last.get? target :=
    fun t => Dict.get?_set_ne last (Ne.symm h) t
  unfold noteScheduled
  cases c.2.time? host with
  | none => rfl
  | some t =>
      cases last.get? c.1 with
      | none => exact hset t
      | some prev =>
          dsimp only
          split
          · exact hset t
          · rfl

/-- A capture that is committed leaves the latest one. -/
theorem noteScheduled_latest {last : Dict String ℚ} {given : List ℚ}
    (h : Latest given (last.get? target)) (c : String × When) :
    Latest (given ++ committed host target [c]) ((noteScheduled host last c).get? target) := by
  by_cases heq : c.1 = target
  · subst heq
    cases ht : c.2.time? host with
    | none => simpa [committed, noteScheduled, ht] using h
    | some t =>
        have hcommitted : committed host c.1 [c] = [t] := by simp [committed, ht]
        rw [hcommitted]
        cases hget : last.get? c.1 with
        | none =>
            have hempty : given = [] := by rwa [hget] at h
            simp [noteScheduled, ht, hget, hempty, Latest]
        | some prev =>
            obtain ⟨hmem, hle⟩ : prev ∈ given ∧ ∀ c ∈ given, c ≤ prev := by rwa [hget] at h
            by_cases hlt : prev < t
            · have hnote : (noteScheduled host last c).get? c.1 = some t := by
                simp [noteScheduled, ht, hget, hlt]
              rw [hnote]
              refine ⟨by simp, ?_⟩
              intro d hd
              rcases List.mem_append.mp hd with hd | hd
              · exact (hle d hd).trans hlt.le
              · exact (List.mem_singleton.mp hd).le
            · have hnote : (noteScheduled host last c).get? c.1 = some prev := by
                simp [noteScheduled, ht, hget, hlt]
              rw [hnote]
              refine ⟨List.mem_append_left _ hmem, ?_⟩
              intro d hd
              rcases List.mem_append.mp hd with hd | hd
              · exact hle d hd
              · exact (List.mem_singleton.mp hd).le.trans (not_lt.mp hlt)
  · have hcommitted : committed host target [c] = [] := by simp [committed, heq]
    rw [hcommitted, List.append_nil, noteScheduled_get?_ne last heq]
    exact h

theorem lastScheduled_latest {last : Dict String ℚ} {given : List ℚ}
    (h : Latest given (last.get? target)) (commits : List (String × When)) :
    Latest (given ++ committed host target commits)
      ((commits.foldl (noteScheduled host) last).get? target) := by
  induction commits generalizing last given with
  | nil => simpa [committed] using h
  | cons c rest ih =>
      have hsplit : committed host target (c :: rest) =
          committed host target [c] ++ committed host target rest := by
        rw [← List.singleton_append, committed, List.filterMap_append]
        rfl
      rw [hsplit, ← List.append_assoc]
      exact ih (noteScheduled_latest h c)

/-- What `_last_scheduled` holds for a target is its latest committed capture. -/
theorem lastScheduledOf_latest (commits : List (String × When)) :
    Latest (committed host target commits) ((lastScheduledOf host commits).get? target) := by
  have hstart : Latest ([] : List ℚ) ((Dict.empty : Dict String ℚ).get? target) := rfl
  exact lastScheduled_latest hstart commits

/-! ### The filter -/

theorem times_cons_some {opp : Opportunity} {t : ℚ} (hid : opp.targetId = target)
    (ht : captureTime host opp = some t) (rest : List Opportunity) :
    times host target (opp :: rest) = t :: times host target rest := by
  simp [times, hid, ht]

theorem times_cons_none {opp : Opportunity}
    (h : opp.targetId ≠ target ∨ captureTime host opp = none) (rest : List Opportunity) :
    times host target (opp :: rest) = times host target rest := by
  rcases h with h | h
  · simp [times, h]
  · simp [times, h]

/-- What the filter does with one opportunity: nothing; or it is dropped; or it is kept, and is the
last capture of its target. -/
theorem applyRevisit_cases (last : Dict String ℚ) (opp : Opportunity) :
    ((captureTime host opp = none ∨ revisitOf opp = 0) ∧
      ∀ rest, applyRevisit host last (opp :: rest) =
        (applyRevisit host last rest).map (opp :: ·) id) ∨
    (∃ t prev, captureTime host opp = some t ∧ revisitOf opp ≠ 0 ∧
      last.get? opp.targetId = some prev ∧ t - prev < revisitOf opp * 86400 ∧
      ∀ rest, applyRevisit host last (opp :: rest) =
        (applyRevisit host last rest).map id (rejected host opp (t - prev) :: ·)) ∨
    (∃ t, captureTime host opp = some t ∧
      (∀ prev, last.get? opp.targetId = some prev → ¬ t - prev < revisitOf opp * 86400) ∧
      ∀ rest, applyRevisit host last (opp :: rest) =
        (applyRevisit host (last.set opp.targetId t) rest).map (opp :: ·) id) := by
  cases ht : captureTime host opp with
  | none =>
      left
      refine ⟨Or.inl rfl, ?_⟩
      intro rest
      simp only [applyRevisit, ht]
  | some t =>
      by_cases hzero : revisitOf opp = 0
      · left
        refine ⟨Or.inr hzero, ?_⟩
        intro rest
        simp only [applyRevisit, ht, if_pos hzero]
      · right
        cases hget : last.get? opp.targetId with
        | none =>
            right
            refine ⟨t, rfl, by simp, ?_⟩
            intro rest
            simp only [applyRevisit, ht, if_neg hzero, hget]
        | some prev =>
            by_cases hlt : t - prev < revisitOf opp * 86400
            · left
              refine ⟨t, prev, rfl, hzero, rfl, hlt, ?_⟩
              intro rest
              simp only [applyRevisit, ht, if_neg hzero, hget, if_pos hlt]
            · right
              refine ⟨t, rfl, fun prev' hprev => Option.some.inj hprev ▸ hlt, ?_⟩
              intro rest
              simp only [applyRevisit, ht, if_neg hzero, hget, if_neg hlt]

/-- For one target the filter keeps its distance from the last capture. -/
theorem applyRevisit_times {days : ℚ} (hdays : days ≠ 0) {opps : List Opportunity}
    (h : ∀ opp ∈ opps, opp.targetId = target → revisitOf opp = days) (last : Dict String ℚ) :
    (times host target (applyRevisit host last opps).1,
        times host target (applyRevisit host last opps).2) =
      greedy (days * 86400) (last.get? target) (times host target opps) := by
  induction opps generalizing last with
  | nil => rfl
  | cons opp rest ih =>
      have hrest := fun o ho => h o (List.mem_cons_of_mem opp ho)
      by_cases hid : opp.targetId = target
      · have hopp := h opp List.mem_cons_self hid
        rcases @applyRevisit_cases host last opp with
          ⟨hnone, hstep⟩ | ⟨t, prev, ht, -, hprev, hlt, hstep⟩ | ⟨t, ht, hfar, hstep⟩
        · have hunread : captureTime host opp = none :=
            hnone.resolve_right fun hzero => hdays (hopp ▸ hzero)
          rw [hstep rest, times_cons_none (Or.inr hunread), ← ih hrest last]
          exact Prod.ext (times_cons_none (Or.inr hunread) _) rfl
        · rw [hid] at hprev
          rw [hopp] at hlt
          rw [hstep rest, times_cons_some hid ht, hprev, greedy_drop hlt, ← hprev,
            ← ih hrest last]
          exact Prod.ext rfl (@times_cons_some host target (rejected host opp (t - prev)) t hid ht _)
        · rw [hid, hopp] at hfar
          have hget : (last.set opp.targetId t).get? target = some t :=
            hid ▸ Dict.get?_set_same last opp.targetId t
          rw [hstep rest, times_cons_some hid ht, greedy_keep hfar, ← hget,
            ← ih hrest (last.set opp.targetId t)]
          exact Prod.ext (times_cons_some hid ht _) rfl
      · rw [times_cons_none (Or.inl hid)]
        rcases @applyRevisit_cases host last opp with
          ⟨-, hstep⟩ | ⟨t, prev, -, -, -, -, hstep⟩ | ⟨t, -, -, hstep⟩
        · rw [hstep rest, ← ih hrest last]
          exact Prod.ext (times_cons_none (Or.inl hid) _) rfl
        · rw [hstep rest, ← ih hrest last]
          exact Prod.ext rfl
            (@times_cons_none host target (rejected host opp (t - prev)) (Or.inl hid) _)
        · have hget : (last.set opp.targetId t).get? target = last.get? target :=
            Dict.get?_set_ne last (Ne.symm hid) t
          rw [hstep rest, ← hget, ← ih hrest (last.set opp.targetId t)]
          exact Prod.ext (times_cons_none (Or.inl hid) _) rfl

/-- Without an interval nothing of the target is dropped. -/
theorem applyRevisit_dropped_eq_nil {opps : List Opportunity}
    (h : ∀ opp ∈ opps, opp.targetId = target → revisitOf opp = 0) (last : Dict String ℚ) :
    times host target (applyRevisit host last opps).2 = [] := by
  induction opps generalizing last with
  | nil => rfl
  | cons opp rest ih =>
      have hrest := fun o ho => h o (List.mem_cons_of_mem opp ho)
      rcases @applyRevisit_cases host last opp with
        ⟨-, hstep⟩ | ⟨t, prev, -, hdays, -, -, hstep⟩ | ⟨t, -, -, hstep⟩
      · rw [hstep rest]
        exact ih hrest last
      · have hid : opp.targetId ≠ target := fun hid => hdays (h opp List.mem_cons_self hid)
        rw [hstep rest]
        exact (@times_cons_none host target (rejected host opp (t - prev)) (Or.inl hid) _).trans
          (ih hrest last)
      · rw [hstep rest]
        exact ih hrest (last.set opp.targetId t)

/-! ### Exactness -/

/-- **The filter is exact for a target if and only if** its interval is zero, or every one of its
opportunities that comes less than the interval after its latest committed capture is closer than
the interval to some committed capture. -/
theorem applyRevisit_exact_iff (host : ImagingHost) (target : String) (days : ℚ)
    (commits : List (String × When)) (opps : List Opportunity)
    (hdays : ∀ opp ∈ opps, opp.targetId = target → revisitOf opp = days)
    (hsorted : (times host target opps).Pairwise (· ≤ ·)) :
    RevisitExact host target days commits opps ↔
      days = 0 ∨
        NoneSkipped (days * 86400) (committed host target commits) (times host target opps) := by
  have hlast := @lastScheduledOf_latest host target commits
  by_cases hzero : days = 0
  · subst hzero
    have hnone := @applyRevisit_dropped_eq_nil host target opps hdays (lastScheduledOf host commits)
    constructor
    · intro _
      exact Or.inl rfl
    · intro _
      rw [RevisitExact, zero_mul]
      exact {
        apart := List.pairwise_of_forall fun _ _ => abs_nonneg _
        far := fun _ _ _ _ => abs_nonneg _
        close := by
          intro t ht
          rw [hnone] at ht
          exact absurd ht List.not_mem_nil }
  · have htimes := @applyRevisit_times host target days hzero opps hdays (lastScheduledOf host commits)
    have hexact := @greedy_exact_iff ℚ _ _ (days * 86400) _ _ _ _ hsorted hlast
    rw [← htimes] at hexact
    exact hexact.trans (or_iff_right hzero).symm

/-- Reads three times of March. -/
def marchHost : ImagingHost :=
  { powerHost with
    parseIso := fun s => match s with
      | "2026-03-10T10:00:00+00:00" => some 1773136800
      | "2026-03-12T10:00:00+00:00" => some 1773309600
      | "2026-03-20T10:00:00+00:00" => some 1774000800
      | _ => none
    sin := id
    asin := id
    atan2 := fun y x => y / x
    pi := 355 / 113
    clock := fun _ => (10, 0, 0) }

/-- An opportunity of a target that is to be left alone for three days. -/
def opportunityAt (utc : String) : Opportunity where
  targetId := "iqaluit"
  targetName := "Iqaluit"
  priority := "high"
  startUtc := utc
  endUtc := utc
  closestApproachUtc := utc
  subSatLat := 64
  subSatLon := -68
  accessLat := 637 / 10
  accessLon := -685 / 10
  crossTrackKm := 41
  offNadirDeg := 52 / 10
  maxOffNadirDeg := 30
  solarElevationDeg := 21
  minSolarElevationDeg := none
  revisitDays := some 3
  altKm := 450
  centerLat := 637 / 10
  centerLon := -685 / 10
  swathKm := 60
  feasible := true
  rejectReason := none
  durationS := some 0
  captureUtc := some utc
  captureExceedsWindow := true

/-- Two days after a capture is too soon, and ten days after it is not. -/
theorem applyRevisit_exact_example :
    RevisitExact marchHost "iqaluit" 3 [("iqaluit", .text "2026-03-10T10:00:00+00:00")]
      [opportunityAt "2026-03-12T10:00:00+00:00", opportunityAt "2026-03-20T10:00:00+00:00"] := by
  refine (applyRevisit_exact_iff marchHost "iqaluit" 3 _ _ ?_ (by decide +kernel)).mpr (Or.inr ?_)
  · intro opp hopp _
    rcases List.mem_pair.mp hopp with rfl | rfl
    · rfl
    · rfl
  · intro t ht last hlatest hlt
    have hcommitted : committed marchHost "iqaluit"
        [("iqaluit", .text "2026-03-10T10:00:00+00:00")] = [1773136800] := by
      decide +kernel
    have htimes : times marchHost "iqaluit" [opportunityAt "2026-03-12T10:00:00+00:00",
        opportunityAt "2026-03-20T10:00:00+00:00"] = [1773309600, 1774000800] := by
      decide +kernel
    rw [hcommitted] at hlatest ⊢
    rw [htimes] at ht
    obtain rfl := List.mem_singleton.mp hlatest.1
    refine ⟨1773136800, List.mem_singleton_self _, ?_⟩
    rcases List.mem_pair.mp ht with rfl | rfl
    · decide +kernel
    · exact absurd hlt (by decide +kernel)

/-- A capture is committed for the 20th: the opportunity on the 10th is dropped. -/
theorem applyRevisit_not_exact :
    ¬ RevisitExact marchHost "iqaluit" 3 [("iqaluit", .text "2026-03-20T10:00:00+00:00")]
      [opportunityAt "2026-03-10T10:00:00+00:00"] := by
  intro h
  have hdropped : (1773136800 : ℚ) ∈ times marchHost "iqaluit"
      (applyRevisit marchHost
        (lastScheduledOf marchHost [("iqaluit", .text "2026-03-20T10:00:00+00:00")])
        [opportunityAt "2026-03-10T10:00:00+00:00"]).2 := by
    decide +kernel
  have hkept : times marchHost "iqaluit"
      (applyRevisit marchHost
        (lastScheduledOf marchHost [("iqaluit", .text "2026-03-20T10:00:00+00:00")])
        [opportunityAt "2026-03-10T10:00:00+00:00"]).1 = [] := by
    decide +kernel
  have hcommitted : committed marchHost "iqaluit"
      [("iqaluit", .text "2026-03-20T10:00:00+00:00")] = [1774000800] := by
    decide +kernel
  obtain ⟨k, hk, hclose⟩ := h.close _ hdropped
  rw [hkept, hcommitted] at hk
  rcases hk with hk | hk
  · exact absurd hk List.not_mem_nil
  · obtain rfl := List.mem_singleton.mp hk
    exact absurd hclose (by decide +kernel)

end ImagingPlanner

end Planner
