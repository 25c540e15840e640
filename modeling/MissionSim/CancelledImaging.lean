import MissionSim.CancelledActivities
import MissionSim.DataConservation

/-!
# Cancelled imaging in a plan

A cancelled activity may stand between two others or beside one in the checks of slews and
cooldowns, and it counts for momentum and duty cycle.  Where it does none of this, and has the energy
that it would draw, the plan is judged as without it.
-/

namespace Planner

open Python Neighbours AOCSConstraintChecker ThermalConstraintChecker Activity List
open scoped Timelines

variable {K : Type} [Field K] [LinearOrder K] (host : Host K)

/-! ### Momentum -/

/-- The imaging activities since the last desaturation, after one more activity. -/
def imagingSince (n : Nat) (a : Activity K) : Nat :=
  if host.names "imaging" a.name then n + 1
  else if host.names "desaturate" a.name || host.names "desat" a.name then 0
  else n

variable (c : AOCSConstraintChecker K)

/-- So many imaging activities leave too much momentum. -/
def TooMuchMomentum (n : Nat) : Prop :=
  8 / 10 * c.momentumCapacity < (n : K) * AOCSConstraintChecker.momentumPerImagingPass

instance (n : Nat) : Decidable (TooMuchMomentum c n) := inferInstanceAs (Decidable (_ < _))

/-- The activities that are reported, with the imaging activities since the last desaturation. -/
def momentumReports : Nat → List (Activity K) → List (Activity K × Nat)
  | _, [] => []
  | n, a :: rest =>
      (if ActivityScheduler.isImaging host a ∧ TooMuchMomentum c (n + 1) then [(a, n + 1)] else []) ++
        momentumReports (imagingSince host n a) rest

/-- The reports are the same with and without the activities that are not live: none of these is
reported, and a live one has as many imaging activities behind it, or in both cases few enough. -/
def SameMomentum : Nat → Nat → List (Activity K) → Prop
  | _, _, [] => True
  | n, n', a :: rest =>
      (ActivityScheduler.isImaging host a →
        if a.live then n = n' ∨ (¬ TooMuchMomentum c (n + 1) ∧ ¬ TooMuchMomentum c (n' + 1))
        else ¬ TooMuchMomentum c (n + 1)) ∧
      SameMomentum (imagingSince host n a) (if a.live then imagingSince host n' a else n') rest

/-- The violation of an activity with so many imaging activities behind it. -/
def momentumText (r : Activity K × Nat) : ConstraintViolation :=
  c.momentumViolation host r.1
    ((r.2 : K) * AOCSConstraintChecker.momentumPerImagingPass)

instance decidableSameMomentum :
    (n n' : Nat) → (activities : List (Activity K)) → Decidable (SameMomentum host c n n' activities)
  | _, _, [] => .isTrue trivial
  | n, n', a :: rest =>
      have := decidableSameMomentum (imagingSince host n a)
        (if a.live then imagingSince host n' a else n') rest
      inferInstanceAs (Decidable (_ ∧ _))

variable {host c}

theorem momentumStep_eq (n : Nat) (reported : List ConstraintViolation) (a : Activity K) :
    c.momentumStep host
        ((n : K) * momentumPerImagingPass, reported) a =
      ((imagingSince host n a : K) * momentumPerImagingPass,
        reported ++ (if ActivityScheduler.isImaging host a ∧ TooMuchMomentum c (n + 1) then
          [(a, n + 1)] else []).map (momentumText host c)) := by
  unfold momentumStep imagingSince ActivityScheduler.isImaging
  by_cases himaging : host.names "imaging" a.name
  · have hnext : (n : K) * momentumPerImagingPass +
        momentumPerImagingPass =
        ((n + 1 : Nat) : K) * momentumPerImagingPass := by
      push_cast
      ring
    simp only [himaging, if_true, true_and, hnext]
    by_cases hover : TooMuchMomentum c (n + 1)
    · rw [if_pos hover]
      exact congrArg (fun v => (_, reported ++ v)) (if_pos hover)
    · rw [if_neg hover]
      exact congrArg (fun v => (_, reported ++ v)) (if_neg hover)
  · have hnone : ¬ (host.names "imaging" a.name ∧ TooMuchMomentum c (n + 1)) :=
      fun h => himaging h.1
    rw [if_neg himaging, if_neg himaging, if_neg hnone, map_nil, append_nil]
    split
    · rw [Nat.cast_zero, zero_mul]
    · rfl

/-- **What the momentum check reports.** -/
theorem checkMomentumBudget_eq (activities : List (Activity K)) :
    c.checkMomentumBudget host activities =
      (momentumReports host c 0 (sortedActs activities)).map (momentumText host c) := by
  have hall : ∀ (l : List (Activity K)) (n : Nat) (reported : List ConstraintViolation),
      (l.foldl (c.momentumStep host)
        ((n : K) * momentumPerImagingPass, reported)).2 =
      reported ++ (momentumReports host c n l).map (momentumText host c) := by
    intro l
    induction l with
    | nil => exact fun n reported => (append_nil reported).symm
    | cons a rest ih =>
        intro n reported
        rw [foldl_cons, momentumStep_eq, ih, momentumReports, map_append,
          append_assoc]
  have hsum := hall (sortedActs activities) 0 []
  rw [Nat.cast_zero, zero_mul] at hsum
  exact hsum

theorem momentumReports_mem {n : Nat} {l : List (Activity K)} {r : Activity K × Nat}
    (h : r ∈ momentumReports host c n l) : r.1 ∈ l := by
  induction l generalizing n with
  | nil => cases h
  | cons a rest ih =>
      rcases mem_append.mp h with hhead | htail
      · split at hhead
        · obtain rfl := mem_singleton.mp hhead
          exact mem_cons_self
        · cases hhead
      · exact mem_cons_of_mem _ (ih htail)

theorem momentumReports_of_same {n n' : Nat} {l : List (Activity K)}
    (h : SameMomentum host c n n' l) :
    momentumReports host c n' (l.filter live) = momentumReports host c n l := by
  induction l generalizing n n' with
  | nil => rfl
  | cons a rest ih =>
      obtain ⟨ha, hrest⟩ := h
      have htail := ih hrest
      by_cases hlive : a.live
      · rw [if_pos hlive] at ha htail
        rw [filter_cons_of_pos hlive, momentumReports, momentumReports, htail]
        refine congrArg (· ++ _) ?_
        by_cases himaging : ActivityScheduler.isImaging host a
        · rcases ha himaging with rfl | ⟨hn, hn'⟩
          · rfl
          · rw [if_neg fun h => hn' h.2, if_neg fun h => hn h.2]
        · rw [if_neg fun h => himaging h.1, if_neg fun h => himaging h.1]
      · rw [if_neg hlive] at ha htail
        rw [filter_cons_of_neg hlive, momentumReports, htail,
          if_neg fun h => ha h.1 h.2, nil_append]

/-- Where no activity is listed twice, the reports are the same in no other case. -/
theorem same_of_momentumReports {n n' : Nat} {l : List (Activity K)} (hnodup : l.Nodup)
    (h : momentumReports host c n' (l.filter live) = momentumReports host c n l) :
    SameMomentum host c n n' l := by
  induction l generalizing n n' with
  | nil => trivial
  | cons a rest ih =>
      obtain ⟨hnot, hnodup⟩ := nodup_cons.mp hnodup
      rw [SameMomentum]
      by_cases hlive : a.live
      · rw [if_pos hlive, if_pos hlive]
        rw [filter_cons_of_pos hlive, momentumReports, momentumReports] at h
        have hlater : ∀ {m k : Nat} {l : List (Activity K)}, (∀ b ∈ l, b ∈ rest) →
            (a, m) ∉ momentumReports host c k l := fun hl hmem =>
          hnot (hl _ (momentumReports_mem hmem))
        have hlive' : ∀ b ∈ rest.filter live, b ∈ rest :=
          fun b hb => (mem_filter.mp hb).1
        by_cases himaging : ActivityScheduler.isImaging host a
        · simp only [himaging, true_and] at h
          by_cases hn' : TooMuchMomentum c (n' + 1) <;> by_cases hn : TooMuchMomentum c (n + 1)
          · rw [if_pos hn', if_pos hn] at h
            obtain ⟨heq, htail⟩ := cons.inj h
            have hcount := (Prod.mk.inj heq).2
            exact ⟨fun _ => Or.inl (by omega), ih hnodup htail⟩
          · rw [if_pos hn', if_neg hn, nil_append] at h
            have hmem : (a, n' + 1) ∈ momentumReports host c (imagingSince host n a) rest :=
              h ▸ mem_cons_self
            exact absurd hmem (hlater fun _ => id)
          · rw [if_neg hn', if_pos hn, nil_append] at h
            have hmem : (a, n + 1) ∈ momentumReports host c (imagingSince host n' a)
                (rest.filter live) := h ▸ mem_cons_self
            exact absurd hmem (hlater hlive')
          · rw [if_neg hn', if_neg hn] at h
            exact ⟨fun _ => Or.inr ⟨hn, hn'⟩, ih hnodup h⟩
        · rw [if_neg fun h => himaging h.1, if_neg fun h => himaging h.1] at h
          exact ⟨fun h => absurd h himaging, ih hnodup h⟩
      · rw [if_neg hlive, if_neg hlive]
        rw [filter_cons_of_neg hlive, momentumReports] at h
        by_cases hreported : ActivityScheduler.isImaging host a ∧ TooMuchMomentum c (n + 1)
        · rw [if_pos hreported] at h
          have hmem : (a, n + 1) ∈ momentumReports host c n' (rest.filter live) :=
            h ▸ mem_cons_self
          exact absurd (mem_filter.mp (momentumReports_mem hmem)).2 hlive
        · rw [if_neg hreported, nil_append] at h
          exact ⟨fun himaging hn => hreported ⟨himaging, hn⟩, ih hnodup h⟩

/-! ### Duty cycle -/

variable (host) (c : ThermalConstraintChecker K)

/-- The imaging activities of an orbit. -/
def orbitGroup (activities : List (Activity K)) (orbitNum : Int) : List (Activity K) :=
  activities.filter fun a => c.orbitOf host a = some orbitNum

/-- The imaging activities take more than an orbit allows. -/
def TooMuchImaging (activities : List (Activity K)) : Prop :=
  c.maxImagingMinutesPerOrbit < ThermalConstraintChecker.imagingMinutes activities

instance (activities : List (Activity K)) : Decidable (TooMuchImaging c activities) :=
  inferInstanceAs (Decidable (_ < _))

/-- The first of the imaging activities of an orbit that take too much, and what they take. -/
def dutyReport (activities : List (Activity K)) : Option (Activity K × K) :=
  if TooMuchImaging c activities then
    activities.head?.map fun first => (first, ThermalConstraintChecker.imagingMinutes activities)
  else none

/-- The orbits that are reported. -/
def dutyReports (activities : List (Activity K)) : List (Int × Activity K × K) :=
  (c.orbits host activities).keys.filterMap fun n =>
    (dutyReport c (orbitGroup host c activities n)).map (n, ·)

/-- No orbit is reported, or the first activity in it is live and those that are not take no time. -/
def SameDuty (activities : List (Activity K)) : Prop :=
  ∀ n, let all := orbitGroup host c activities n
    let live := all.filter Activity.live
    (¬ TooMuchImaging c all ∧ ¬ TooMuchImaging c live) ∨
      (TooMuchImaging c all ∧ live.head? = all.head? ∧
        ThermalConstraintChecker.imagingMinutes live = ThermalConstraintChecker.imagingMinutes all)

variable {host c}

omit [LinearOrder K] in
theorem orbits_concat (activities : List (Activity K)) (a : Activity K) :
    c.orbits host (activities ++ [a]) = c.addToOrbit host (c.orbits host activities) a := by
  unfold orbits
  rw [foldl_append]
  rfl

omit [LinearOrder K] in
theorem orbitGroup_concat (activities : List (Activity K)) (a : Activity K) (n : Int) :
    orbitGroup host c (activities ++ [a]) n = orbitGroup host c activities n ++
      if c.orbitOf host a = some n then [a] else [] := by
  unfold orbitGroup
  by_cases horbit : c.orbitOf host a = some n <;> simp [horbit]

omit [LinearOrder K] in
/-- **An orbit holds the imaging activities of the orbit.** -/
theorem get?_orbits (activities : List (Activity K)) (n : Int) :
    (c.orbits host activities).get? n =
      if orbitGroup host c activities n = [] then none
      else some (orbitGroup host c activities n) := by
  induction activities using reverseRecOn with
  | nil => rfl
  | append_singleton activities a ih =>
      rw [orbits_concat, orbitGroup_concat]
      unfold addToOrbit
      cases horbit : c.orbitOf host a with
      | none => simpa using ih
      | some m =>
          by_cases hnm : n = m
          · subst hnm
            rw [Dict.get?_set_same, if_pos rfl, ih]
            by_cases hnil : orbitGroup host c activities n = []
            · simp [hnil]
            · simp [hnil]
          · have hne : some m ≠ some n := fun h => hnm (Option.some.inj h).symm
            rw [Dict.get?_set_ne _ hnm, ih, if_neg hne, append_nil]

omit [LinearOrder K] in
theorem mem_keys_orbits (activities : List (Activity K)) (n : Int) :
    n ∈ (c.orbits host activities).keys ↔ orbitGroup host c activities n ≠ [] := by
  rw [Dict.mem_keys_iff, get?_orbits]
  split
  · next h => simp [h]
  · next h => simp [h]

theorem keys_set {ν : Type} (d : Dict Int ν) (n : Int) (value : ν) :
    (d.set n value).keys = if n ∈ d.keys then d.keys else d.keys ++ [n] := by
  split
  · next h => exact Dict.assign_keys_of_mem value h
  · next h => exact Dict.keys_set_of_not_mem h value

variable {activities : List (Activity K)}

omit [LinearOrder K] in
/-- The orbits that begin with a live activity come in the same order without the others. -/
theorem keys_orbits_live (q : Int → Bool)
    (h : ∀ n, q n → ∀ first, (orbitGroup host c activities n).head? = some first → first.live) :
    (c.orbits host (activities.filter live)).keys.filter q =
      (c.orbits host activities).keys.filter q := by
  induction activities using reverseRecOn with
  | nil => rfl
  | append_singleton activities a ih =>
      have hfirst : ∀ n, q n → ∀ first,
          (orbitGroup host c activities n).head? = some first → first.live := by
        intro n hq first hhead
        refine h n hq first ?_
        rw [orbitGroup_concat, head?_append, hhead]
        rfl
      have hkeys := ih hfirst
      have hmem : ∀ m, q m →
          (m ∈ (c.orbits host (activities.filter live)).keys ↔
            m ∈ (c.orbits host activities).keys) := by
        intro m hq
        have hfilter := congrArg (m ∈ ·) hkeys
        simpa [hq] using hfilter
      have hnew : ∀ m, c.orbitOf host a = some m → q m → ¬ a.live →
          m ∈ (c.orbits host activities).keys := by
        intro m horbit hq hlive
        rw [mem_keys_orbits]
        intro hnil
        refine hlive (h m hq a ?_)
        rw [orbitGroup_concat, hnil, if_pos horbit]
        rfl
      rw [filter_append, orbits_concat]
      unfold addToOrbit
      by_cases hlive : a.live
      · rw [filter_cons_of_pos hlive, filter_nil, orbits_concat]
        unfold addToOrbit
        cases c.orbitOf host a with
        | none => exact hkeys
        | some m =>
            rw [keys_set, keys_set]
            by_cases hq : q m
            · by_cases hin : m ∈ (c.orbits host activities).keys
              · rw [if_pos hin, if_pos ((hmem m hq).mpr hin), hkeys]
              · rw [if_neg hin, if_neg fun hm => hin ((hmem m hq).mp hm), filter_append,
                  filter_append, hkeys]
            · split <;> split <;> simp [hq, hkeys]
      · rw [filter_cons_of_neg hlive, filter_nil, append_nil]
        cases horbit : c.orbitOf host a with
        | none => exact hkeys
        | some m =>
            rw [keys_set]
            by_cases hq : q m
            · rw [if_pos (hnew m horbit hq hlive), hkeys]
            · split <;> simp [hq, hkeys]

/-- The violation of an orbit that is reported. -/
def dutyText (host : Host K) (c : ThermalConstraintChecker K) (r : Int × Activity K × K) :
    ConstraintViolation :=
  c.dutyViolation host r.1 r.2.1.id r.2.2

/-- **What the check of the duty cycle reports.** -/
theorem checkPayloadDutyCycle_eq (activities : List (Activity K)) :
    c.checkPayloadDutyCycle host activities =
      (dutyReports host c activities).map (dutyText host c) := by
  unfold checkPayloadDutyCycle dutyReports Dict.keys
  rw [map_filterMap, filterMap_map]
  refine filterMap_congr fun orbit horbit => ?_
  have hgroup : (c.orbits host activities).get? orbit.1 =
      if orbitGroup host c activities orbit.1 = [] then none
      else some (orbitGroup host c activities orbit.1) := get?_orbits activities orbit.1
  rw [Dict.get?_eq_some_iff.mpr horbit] at hgroup
  split at hgroup
  · cases hgroup
  · have heq : orbit.2 = orbitGroup host c activities orbit.1 := Option.some.inj hgroup
    show c.checkOrbit host orbit =
      ((dutyReport c (orbitGroup host c activities orbit.1)).map (orbit.1, ·)).map (dutyText host c)
    rw [← heq]
    unfold checkOrbit dutyReport
    by_cases hover : TooMuchImaging c orbit.2
    · rw [if_pos hover, if_pos (show c.maxImagingMinutesPerOrbit < _ from hover), Option.map_map,
        Option.map_map]
      rfl
    · rw [if_neg hover, if_neg (show ¬ c.maxImagingMinutesPerOrbit < _ from hover)]
      rfl

theorem mem_dutyReports {n : Int} {r : Activity K × K} :
    (n, r) ∈ dutyReports host c activities ↔
      dutyReport c (orbitGroup host c activities n) = some r := by
  unfold dutyReports
  rw [mem_filterMap]
  constructor
  · rintro ⟨m, _, hm⟩
    obtain ⟨r', hr', heq⟩ := Option.map_eq_some_iff.mp hm
    obtain ⟨rfl, rfl⟩ := Prod.mk.inj heq
    exact hr'
  · intro hreport
    refine ⟨n, (mem_keys_orbits activities n).mpr fun hnil => ?_, by rw [hreport]; rfl⟩
    rw [hnil] at hreport
    unfold dutyReport at hreport
    split at hreport <;> cases hreport

/-- The orbit has the same report without the activities that are not live. -/
theorem dutyReport_live_iff (hlimit : 0 ≤ c.maxImagingMinutesPerOrbit) (all : List (Activity K)) :
    dutyReport c (all.filter live) = dutyReport c all ↔
      (¬ TooMuchImaging c all ∧ ¬ TooMuchImaging c (all.filter live)) ∨
        (TooMuchImaging c all ∧ (all.filter live).head? = all.head? ∧
          imagingMinutes (all.filter live) =
            imagingMinutes all) := by
  have hhead : ∀ l : List (Activity K), TooMuchImaging c l → ∃ first, l.head? = some first := by
    intro l hl
    cases l with
    | nil =>
        refine absurd hl (not_lt.mpr ?_)
        show ((0 : K) / 60) ≤ _
        rw [zero_div]
        exact hlimit
    | cons a rest => exact ⟨a, rfl⟩
  unfold dutyReport
  by_cases hall : TooMuchImaging c all <;>
    by_cases hlive : TooMuchImaging c (all.filter live)
  · obtain ⟨first, hfirst⟩ := hhead all hall
    obtain ⟨first', hfirst'⟩ := hhead _ hlive
    rw [if_pos hall, if_pos hlive, hfirst, hfirst']
    simp [hall]
  · obtain ⟨first, hfirst⟩ := hhead all hall
    rw [if_pos hall, if_neg hlive, hfirst]
    refine iff_of_false (fun h => ?_) ?_
    · cases h
    · rintro (⟨hn, _⟩ | ⟨_, _, hminutes⟩)
      · exact hn hall
      · exact hlive (lt_of_lt_of_eq hall hminutes.symm)
  · obtain ⟨first, hfirst⟩ := hhead _ hlive
    rw [if_neg hall, if_pos hlive, hfirst]
    refine iff_of_false (fun h => ?_) ?_
    · cases h
    · rintro (⟨_, hn⟩ | ⟨ha, _⟩)
      · exact hn hlive
      · exact hall ha
  · rw [if_neg hall, if_neg hlive]
    exact iff_of_true rfl (Or.inl ⟨hall, hlive⟩)

/-- **The reports of the duty cycle are the same without the activities that are not live just if
every orbit has the same.** -/
theorem dutyReports_live_iff (hlimit : 0 ≤ c.maxImagingMinutesPerOrbit)
    (activities : List (Activity K)) :
    dutyReports host c (activities.filter live) = dutyReports host c activities ↔
      SameDuty host c activities := by
  have hgroup : ∀ n, orbitGroup host c (activities.filter live) n =
      (orbitGroup host c activities n).filter live := by
    intro n
    unfold orbitGroup
    rw [filter_filter, filter_filter]
    exact filter_congr fun a _ => Bool.and_comm _ _
  have hsame : SameDuty host c activities ↔
      ∀ n, dutyReport c (orbitGroup host c (activities.filter live) n) =
        dutyReport c (orbitGroup host c activities n) := by
    refine forall_congr' fun n => ?_
    rw [hgroup, dutyReport_live_iff hlimit]
  rw [hsame]
  constructor
  · intro heq n
    refine Option.ext fun r => ?_
    rw [← mem_dutyReports, ← mem_dutyReports, heq]
  · intro hreports
    have hfirst : ∀ n, (dutyReport c (orbitGroup host c activities n)).isSome → ∀ first,
        (orbitGroup host c activities n).head? = some first → first.live := by
      intro n hn first hfirst
      have hn' := hreports n
      rw [hgroup, dutyReport_live_iff hlimit] at hn'
      rcases hn' with ⟨hnot, _⟩ | ⟨_, hhead, _⟩
      · have hnone : dutyReport c (orbitGroup host c activities n) = none := if_neg hnot
        rw [hnone] at hn
        cases hn
      · exact (mem_filter.mp (mem_of_mem_head? (hhead.trans hfirst))).2
    have hreported : ∀ keys : List Int,
        (keys.filterMap fun n => (dutyReport c (orbitGroup host c activities n)).map (n, ·)) =
        (keys.filter fun n => (dutyReport c (orbitGroup host c activities n)).isSome).filterMap
          fun n => (dutyReport c (orbitGroup host c activities n)).map (n, ·) := by
      intro keys
      rw [filterMap_filter]
      refine filterMap_congr fun n _ => ?_
      cases dutyReport c (orbitGroup host c activities n) <;> rfl
    unfold dutyReports
    simp only [hreports]
    rw [hreported, keys_orbits_live _ hfirst, ← hreported]

/-! ### The plan -/

/-- None of the activities that are not live is in a pair that is reported, or between its two. -/
def Bystanders (f : Activity K × Activity K → Bool) (activities : List (Activity K)) : Prop :=
  Within Activity.live f activities ∧ Adjacent Activity.live f activities

omit [Field K] [LinearOrder K] in
theorem bystanders_iff {f : Activity K × Activity K → Bool} :
    (consecutive (sortedActs (activities.filter live))).filter f =
        (consecutive (sortedActs activities)).filter f ↔
      Bystanders f (sortedActs activities) := by
  rw [sortedActs_filter, eq_comm]
  exact filter_consecutive_eq_iff

/-- The cooldown between two activities is reported where they follow each other. -/
def reportsCooldown (host : Host K) (q : Activity K × Activity K) : Bool :=
  ((ThermalConstraintChecker.default : ThermalConstraintChecker K).reportedCooldown host
    q.1 q.2).isSome

/-- A plan is validated as without the activities that are not live if the checks that do not pass
over them report the same. -/
theorem validatePlan_live (activities : List (Activity K)) (inputs : PlanInputs K)
    (hslew : (default : AOCSConstraintChecker K).checkSlewConstraints host
        (activities.filter live) =
      (default : AOCSConstraintChecker K).checkSlewConstraints host activities)
    (hmomentum : (default : AOCSConstraintChecker K).checkMomentumBudget host
        (activities.filter live) =
      (default : AOCSConstraintChecker K).checkMomentumBudget host activities)
    (hduty : (default : ThermalConstraintChecker K).checkPayloadDutyCycle
        host (activities.filter live) =
      (default : ThermalConstraintChecker K).checkPayloadDutyCycle host
        activities)
    (hcooldown : (default : ThermalConstraintChecker K).checkCooldownPeriods
        host (activities.filter live) =
      (default : ThermalConstraintChecker K).checkCooldownPeriods host
        activities) :
    validatePlan host (activities.filter live) inputs =
      validatePlan host activities inputs := by
  unfold validatePlan
  dsimp only
  rw [checkStorageCapacity_live, checkPlanPower_live, checkResourceConflicts_live, hslew, hmomentum,
    hduty, hcooldown]

namespace Plan

variable (host : Host K) (cond : CondHost K) (p : Plan K)

/-- **The plan is judged as without the activities that are cancelled or failed**, and the same
activities are reported, with the same amounts. -/
structure Unchanged : Prop where
  validation : ∀ soc, p.onlyLive.scheduler.validateConstraints host p.groundTrack soc =
    p.scheduler.validateConstraints host p.groundTrack soc
  passPlan : ∀ inputs, p.onlyLive.scheduler.validatePassPlan host cond inputs =
    p.scheduler.validatePassPlan host cond inputs
  aocs : p.onlyLive.scheduler.checkAocsConstraints host = p.scheduler.checkAocsConstraints host
  thermal : p.onlyLive.scheduler.checkThermalConstraints host =
    p.scheduler.checkThermalConstraints host
  dataVolume : ∀ onboardMb, p.onlyLive.scheduler.checkDataVolumeConstraints host onboardMb =
    p.scheduler.checkDataVolumeConstraints host onboardMb
  powerBudget : p.onlyLive.powerTracker.computePowerBudget host =
    p.powerTracker.computePowerBudget host
  dataBudget : p.onlyLive.dataTracker.computeDataBudget host = p.dataTracker.computeDataBudget host
  slews : ActivityScheduler.reportedSlews host p.onlyLive.schedule =
    ActivityScheduler.reportedSlews host p.schedule
  imagingSlews : ActivityScheduler.reportedSlews host (p.onlyLive.scheduler.imagingActivities host) =
    ActivityScheduler.reportedSlews host (p.scheduler.imagingActivities host)
  cooldowns : p.onlyLive.scheduler.reportedCooldowns host = p.scheduler.reportedCooldowns host
  momentum : momentumReports host .default 0 (sortedActs p.onlyLive.schedule) =
    momentumReports host .default 0 (sortedActs p.schedule)
  duty : dutyReports host .default p.onlyLive.schedule = dutyReports host .default p.schedule

/-- The activities that are not live are bystanders of every pair, add nothing to momentum and duty
cycle, and have the energy that they would draw. -/
structure Inert : Prop where
  slews : Bystanders (ActivityScheduler.reportsSlew host) (sortedActs p.schedule)
  imagingSlews : Bystanders (ActivityScheduler.reportsSlew host)
    (sortedActs (p.scheduler.imagingActivities host))
  cooldowns : Bystanders (reportsCooldown host) (sortedActs p.schedule)
  momentum : SameMomentum host .default 0 0 (sortedActs p.schedule)
  duty : SameDuty host .default p.schedule
  energy : p.budget.contacts ≠ [] → p.batteryWh ≠ 0 →
    ∀ a ∈ p.schedule, ¬ a.live → Affords host p a

variable {host cond p}

omit [Field K] [LinearOrder K] in
theorem imagingActivities_live :
    p.onlyLive.scheduler.imagingActivities host =
      (p.scheduler.imagingActivities host).filter live := by
  show (p.schedule.filter live).filter _ = (p.schedule.filter _).filter live
  rw [filter_filter, filter_filter]
  exact filter_congr fun a _ => Bool.and_comm _ _

theorem duty_iff [IsStrictOrderedRing K] :
    dutyReports host .default p.onlyLive.schedule = dutyReports host .default p.schedule ↔
      SameDuty host .default p.schedule := by
  have hlimit : (0 : K) ≤
      (default : ThermalConstraintChecker K).maxImagingMinutesPerOrbit :=
    Nat.ofNat_nonneg 30
  exact dutyReports_live_iff hlimit p.schedule

theorem Inert.checks [IsStrictOrderedRing K] (h : p.Inert host) :
    (default : AOCSConstraintChecker K).checkSlewConstraints host
        p.onlyLive.schedule =
      (default : AOCSConstraintChecker K).checkSlewConstraints host
        p.schedule ∧
    p.onlyLive.scheduler.checkAocsConstraints host = p.scheduler.checkAocsConstraints host ∧
    p.onlyLive.scheduler.checkThermalConstraints host =
      p.scheduler.checkThermalConstraints host := by
  have hslews := bystanders_iff.mpr h.slews
  have himaging := bystanders_iff.mpr h.imagingSlews
  rw [← imagingActivities_live] at himaging
  have hcooldowns := bystanders_iff.mpr h.cooldowns
  have hmomentum := momentumReports_of_same h.momentum
  rw [← sortedActs_filter] at hmomentum
  refine ⟨congrArg (filterMap _) hslews, Prod.ext (congrArg (filterMap _) himaging) ?_,
    Prod.ext ?_ (congrArg (filterMap _) hcooldowns)⟩
  · show checkMomentumBudget host _ (p.schedule.filter live) =
      checkMomentumBudget host _ p.schedule
    rw [checkMomentumBudget_eq, checkMomentumBudget_eq, hmomentum]
  · show checkPayloadDutyCycle host _ (p.schedule.filter live) =
      checkPayloadDutyCycle host _ p.schedule
    rw [checkPayloadDutyCycle_eq, checkPayloadDutyCycle_eq]
    exact congrArg (map _) (duty_iff.mpr h.duty)

/-- **Activities that are inert change nothing.** -/
theorem Inert.unchanged [IsStrictOrderedRing K] (h : p.Inert host) : p.Unchanged host cond := by
  obtain ⟨hslew, haocs, hthermal⟩ := h.checks
  have hmomentum := momentumReports_of_same h.momentum
  rw [← sortedActs_filter] at hmomentum
  have himaging := bystanders_iff.mpr h.imagingSlews
  rw [← imagingActivities_live] at himaging
  refine
    { validation := fun soc => ?_
      passPlan := fun inputs => validatePassPlan_live host cond p inputs
      aocs := haocs
      thermal := hthermal
      dataVolume := fun onboardMb => checkStorageCapacity_live host _ p.schedule onboardMb
      powerBudget := (computePowerBudget_live_iff host p).mpr h.energy
      dataBudget := computeDataBudget_live host p
      slews := bystanders_iff.mpr h.slews
      imagingSlews := himaging
      cooldowns := bystanders_iff.mpr h.cooldowns
      momentum := hmomentum
      duty := duty_iff.mpr h.duty }
  obtain ⟨_, hbudget⟩ := Prod.ext_iff.mp haocs
  obtain ⟨hcycle, hcooldown⟩ := Prod.ext_iff.mp hthermal
  exact validatePlan_live p.schedule _ hslew hbudget hcycle hcooldown

/-- Activities that change nothing are inert, where each has its own id. -/
theorem Unchanged.inert [IsStrictOrderedRing K] (h : p.Unchanged host cond)
    (hids : (p.schedule.map Activity.id).Nodup) : p.Inert host := by
  have hnodup : (sortedActs p.schedule).Nodup :=
    (perm_insertionSort _ p.schedule).nodup_iff.mpr hids.of_map
  have himaging := h.imagingSlews
  rw [imagingActivities_live] at himaging
  have hmomentum := h.momentum
  rw [show sortedActs p.onlyLive.schedule = (sortedActs p.schedule).filter live from
    sortedActs_filter _ _] at hmomentum
  exact
    { slews := bystanders_iff.mp h.slews
      imagingSlews := bystanders_iff.mp himaging
      cooldowns := bystanders_iff.mp h.cooldowns
      momentum := same_of_momentumReports hnodup hmomentum
      duty := duty_iff.mp h.duty
      energy := (computePowerBudget_live_iff host p).mp h.powerBudget }

/-- **A plan is judged as without the activities that are cancelled or failed where these are inert,
and, where each activity has its own id, nowhere else.** -/
theorem inert_unchanged [IsStrictOrderedRing K] :
    (p.Inert host → p.Unchanged host cond) ∧
      ((p.schedule.map Activity.id).Nodup → p.Unchanged host cond → p.Inert host) :=
  ⟨Inert.unchanged, fun hids h => h.inert hids⟩

end Plan

/-! ### Plans -/

def noConditions : CondHost ℚ where
  condRe _ := none
  float _ := none

/-- A plan of some activities over two passes. -/
def planOf (schedule : List (Activity ℚ)) : Plan ℚ where
  schedule := schedule
  groundTrack := []
  initialSoc := 80
  batteryWh := 120
  dataParams := {}
  budget :=
    { DataBudget.BudgetTracker.plan with contacts := powerPlan.contacts, storageMarginPercent := 10 }

/-- A collection that was cancelled, after an imaging pass. -/
def quietPlan : Plan ℚ := planOf [firstTarget, { collection with state := .cancelled }]

theorem inert_quietPlan : quietPlan.Inert powerHost where
  slews := bystanders_iff.mp
    ((List.isEmpty_iff.mp (by decide +kernel)).trans (List.isEmpty_iff.mp (by decide +kernel)).symm)
  imagingSlews := bystanders_iff.mp
    ((List.isEmpty_iff.mp (by decide +kernel)).trans (List.isEmpty_iff.mp (by decide +kernel)).symm)
  cooldowns := bystanders_iff.mp
    ((List.isEmpty_iff.mp (by decide +kernel)).trans (List.isEmpty_iff.mp (by decide +kernel)).symm)
  momentum := by decide +kernel
  duty := by
    intro n
    have hgroup : orbitGroup powerHost .default quietPlan.schedule n =
        if n = 323667 then [firstTarget] else [] := by
      have hfirst : (default : ThermalConstraintChecker ℚ).orbitOf powerHost
          firstTarget = some 323667 := by decide +kernel
      have hsecond : (default : ThermalConstraintChecker ℚ).orbitOf powerHost
          { collection with state := .cancelled } = none := by decide +kernel
      show [firstTarget, { collection with state := .cancelled }].filter _ = _
      by_cases hn : n = 323667 <;> simp [hfirst, hsecond, hn, eq_comm]
    refine Or.inl ?_
    rw [hgroup]
    split
    · exact ⟨by decide +kernel, by decide +kernel⟩
    · exact ⟨by decide +kernel, by decide +kernel⟩
  energy := by
    intro _ _ a ha hlive
    rcases mem_pair.mp ha with rfl | rfl
    · exact absurd rfl hlive
    · unfold Affords
      decide +kernel

theorem unchanged_quietPlan : quietPlan.Unchanged powerHost noConditions :=
  Plan.inert_unchanged.1 inert_quietPlan

/-- A cancelled pass is still too close to another, and a cancelled calibration still lacks the
energy that it would draw. -/
theorem not_unchanged :
    ¬ (planOf [firstTarget, { secondTarget with state := .cancelled }]).Unchanged powerHost
        noConditions ∧
      ¬ (planOf [{ collection with powerW := 5000, durationS := 3600, state := .cancelled }]).Unchanged
        powerHost noConditions := by
  refine ⟨fun h => ?_, fun h => ?_⟩
  · have hvalid := congrArg (Option.map ValidationResult.isValid) (h.validation 80)
    revert hvalid
    decide +kernel
  · have hwarnings := congrArg (Option.map PowerBudget.warnings) h.powerBudget
    revert hwarnings
    decide +kernel

end Planner
