import MissionSim.ConstraintCheckers
import MissionSim.PowerAccounting
import Mathlib.Tactic.FieldSimp
import Mathlib.Tactic.Positivity

/-!
# The charge over a plan

The power check walks the activities in order and notes the charge before and after each.  The charge
before is worked out backwards from the charge after, which is held between empty and full.  So the
timeline is continuous exactly if the battery is never filled up nor emptied
(`checkPlanPower_sound_iff`).
-/

namespace Planner

open Python
open scoped Timelines

local instance atLeastTwo_85 : Nat.AtLeastTwo 85 := ⟨by decide⟩

local instance atLeastTwo_95 : Nat.AtLeastTwo 95 := ⟨by decide⟩

variable {K : Type} [Field K] [LinearOrder K]

/-- Numbers are not rounded. -/
def Host.unrounded (host : Host K) : Host K := { host with round := fun _ x => x }

/-! ### Timelines -/

/-- Every entry begins with what the one before it ended with, the first with a given value. -/
def Continuous : K → List (SocEntry K) → Prop
  | _, [] => True
  | soc, e :: rest => e.socBefore = soc ∧ Continuous e.socAfter rest

/-- A battery that takes one net gain after another is never filled up nor emptied. -/
def StaysWithin (capacity : K) : K → List K → Prop
  | _, [] => True
  | level, net :: rest =>
      InBattery capacity (level + net) ∧ StaysWithin capacity (level + net) rest

instance decidableStaysWithin (capacity : K) :
    (level : K) → (nets : List K) → Decidable (StaysWithin capacity level nets)
  | _, [] => .isTrue trivial
  | level, net :: rest =>
      have := decidableStaysWithin capacity (level + net) rest
      inferInstanceAs (Decidable (_ ∧ _))

/-- A level is held between empty and full without a loss exactly if it lies there. -/
theorem charge_eq_iff {capacity level net : K} (hcapacity : 0 ≤ capacity) :
    charge capacity level net = level + net ↔ InBattery capacity (level + net) := by
  constructor
  · intro h
    have hwithin := inBattery_clamp hcapacity (level + net)
    unfold charge at h
    rwa [h] at hwithin
  · rintro ⟨h0, hcap⟩
    unfold charge
    rw [min_eq_right hcap, max_eq_right h0]

namespace PowerConstraintChecker

variable (host : Host K) (c : PowerConstraintChecker K) (groundTrack : List (TrackPoint K))

/-! ### One activity -/

/-- The check of the plan counts an activity that is live, takes time and power, and has a start that
can be read. -/
def counted (a : Activity K) : Bool :=
  a.live && !(a.durationS ≤ 0 || a.powerW ≤ 0) && (host.moment a.startTime).isSome

/-- What an activity draws more than is charged during it is taken from the battery. -/
def netWh (a : Activity K) : K :=
  match host.moment a.startTime with
  | none => 0
  | some start =>
      let eclipseFraction :=
        estimateEclipseFraction host groundTrack start (start.after a.durationS)
      let hours := a.durationS / 3600
      c.solarArrayMaxW * (85 / 100) * (hours * (1 - eclipseFraction)) -
        (95 * (hours * eclipseFraction) + 95 * (hours * (1 - eclipseFraction))) - a.powerW * hours

/-- The entry of an activity that begins at a level. -/
def entry (level : K) (a : Activity K) : SocEntry K where
  activityId := a.id
  activityName := a.name
  startTime := a.startTime
  socBefore := (charge c.batteryCapacityWh level (netWh host c groundTrack a) -
    netWh host c groundTrack a) / c.batteryCapacityWh * 100
  socAfter := charge c.batteryCapacityWh level (netWh host c groundTrack a) /
    c.batteryCapacityWh * 100

theorem planStep_counted [IsStrictOrderedRing K] {a : Activity K} (h : counted host a = true)
    (s : PowerCheck K) :
    c.planStep host.unrounded groundTrack s a =
      { socWh := charge c.batteryCapacityWh s.socWh (netWh host c groundTrack a)
        socTimeline := s.socTimeline ++ [entry host c groundTrack s.socWh a]
        violations := s.violations ++
          if (entry host c groundTrack s.socWh a).socAfter < c.minSocPercent then
            [c.socViolation host a (entry host c groundTrack s.socWh a).socAfter] else [] } := by
  unfold counted at h
  rw [Bool.and_eq_true, Bool.and_eq_true, Option.isSome_iff_exists] at h
  obtain ⟨⟨hlive, huse⟩, start, hstart⟩ := h
  have hskip : ¬ (a.durationS ≤ 0 ∨ a.powerW ≤ 0) := by simpa using huse
  have hmoment : host.unrounded.moment a.startTime = some start := hstart
  have hnet : ∀ level gain drain draw : K,
      level + gain - drain - draw = level + (gain - drain - draw) := by
    intro level gain drain draw
    ring
  have hbefore : ∀ level gain drain draw : K,
      level + drain + draw - gain = level - (gain - drain - draw) := by
    intro level gain drain draw
    ring
  unfold planStep entry netWh charge
  rw [if_pos hlive, if_neg hskip, hmoment, hstart]
  simp only [hnet, hbefore]
  rfl

theorem planStep_not_counted {a : Activity K} (h : counted host a = false) (s : PowerCheck K) :
    c.planStep host groundTrack s a = s := by
  unfold planStep
  by_cases hlive : a.live = true
  · rw [if_pos hlive]
    by_cases hskip : a.durationS ≤ 0 ∨ a.powerW ≤ 0
    · rw [if_pos hskip]
    · rw [if_neg hskip]
      cases hstart : host.moment a.startTime with
      | none => rfl
      | some start =>
          have hcounted : counted host a = true := by
            unfold counted
            rw [hlive, hstart]
            simpa using hskip
          rw [h] at hcounted
          cases hcounted
  · rw [if_neg hlive]

/-! ### The whole plan -/

/-- The activities that the check counts, in its order. -/
def countedActs (schedule : List (Activity K)) : List (Activity K) :=
  (sortedActs schedule).filter (counted host)

/-- The timeline of activities that begin at a level. -/
def timeline : K → List (Activity K) → List (SocEntry K)
  | _, [] => []
  | level, a :: rest =>
      entry host c groundTrack level a ::
        timeline (charge c.batteryCapacityWh level (netWh host c groundTrack a)) rest

/-- The violations of activities with their entries. -/
def reports (entries : List (Activity K × SocEntry K)) : List ConstraintViolation :=
  (entries.filter fun x => x.2.socAfter < c.minSocPercent).map fun x =>
    c.socViolation host x.1 x.2.socAfter

variable [IsStrictOrderedRing K]

/-- What the walk over the activities adds. -/
theorem foldl_planStep (acts : List (Activity K)) (s : PowerCheck K) :
    (acts.foldl (c.planStep host.unrounded groundTrack) s).socTimeline =
        s.socTimeline ++ timeline host c groundTrack s.socWh (acts.filter (counted host)) ∧
      (acts.foldl (c.planStep host.unrounded groundTrack) s).violations =
        s.violations ++ reports host c ((acts.filter (counted host)).zip
          (timeline host c groundTrack s.socWh (acts.filter (counted host)))) := by
  induction acts generalizing s with
  | nil => simp [timeline, reports]
  | cons a rest ih =>
      rw [List.foldl_cons]
      cases hcounted : counted host a with
      | false =>
          rw [planStep_not_counted host.unrounded c groundTrack hcounted,
            List.filter_cons_of_neg (by simp [hcounted])]
          exact ih s
      | true =>
          rw [planStep_counted host c groundTrack hcounted, List.filter_cons_of_pos hcounted]
          obtain ⟨htimeline, hviolations⟩ := ih
            { socWh := charge c.batteryCapacityWh s.socWh (netWh host c groundTrack a)
              socTimeline := s.socTimeline ++ [entry host c groundTrack s.socWh a]
              violations := s.violations ++
                if (entry host c groundTrack s.socWh a).socAfter < c.minSocPercent then
                  [c.socViolation host a (entry host c groundTrack s.socWh a).socAfter] else [] }
          rw [htimeline, hviolations]
          constructor
          · rw [List.append_assoc]
            rfl
          · rw [List.append_assoc]
            unfold reports
            rw [timeline, List.zip_cons_cons, List.filter_cons]
            split_ifs with hlow hlow' hlow'
            · rfl
            · exact absurd (decide_eq_true hlow) hlow'
            · exact absurd (of_decide_eq_true hlow') hlow
            · rfl

/-! ### Soundness -/

/-- The timeline of a plan, before rounding: it is continuous from the initial charge on, all its
values lie between 0 and 100, and the violations are those of the entries that end below the
minimum. -/
structure SoundTimeline (schedule : List (Activity K)) (initialSoc : K) : Prop where
  continuous : Continuous initialSoc
    (c.checkPlanPower host.unrounded schedule initialSoc groundTrack).socTimeline
  bounded : ∀ e ∈ (c.checkPlanPower host.unrounded schedule initialSoc groundTrack).socTimeline,
    InBattery 100 e.socBefore ∧ InBattery 100 e.socAfter
  entries :
    (c.checkPlanPower host.unrounded schedule initialSoc groundTrack).socTimeline.map
        SocEntry.activityId =
      (countedActs host schedule).map Activity.id
  reported :
    (c.checkPlanPower host.unrounded schedule initialSoc groundTrack).violations =
      reports host c ((countedActs host schedule).zip
        (c.checkPlanPower host.unrounded schedule initialSoc groundTrack).socTimeline)

omit [IsStrictOrderedRing K] in
theorem timeline_ids (level : K) (acts : List (Activity K)) :
    (timeline host c groundTrack level acts).map SocEntry.activityId = acts.map Activity.id := by
  induction acts generalizing level with
  | nil => rfl
  | cons a rest ih => exact congrArg (a.id :: ·) (ih _)

theorem checkPlanPower_eq (schedule : List (Activity K)) (initialSoc : K) :
    (c.checkPlanPower host.unrounded schedule initialSoc groundTrack).socTimeline =
        timeline host c groundTrack (c.batteryCapacityWh * initialSoc / 100)
          (countedActs host schedule) ∧
      (c.checkPlanPower host.unrounded schedule initialSoc groundTrack).violations =
        reports host c ((countedActs host schedule).zip
          (timeline host c groundTrack (c.batteryCapacityWh * initialSoc / 100)
            (countedActs host schedule))) :=
  foldl_planStep host c groundTrack (sortedActs schedule)
    { socWh := c.batteryCapacityWh * initialSoc / 100, socTimeline := [], violations := [] }

variable {c}

/-- The charge before an activity is the level it begins at exactly if the level it ends at is held
without a loss. -/
theorem socBefore_eq_iff (hcapacity : 0 < c.batteryCapacityWh) (level : K) (a : Activity K) :
    (entry host c groundTrack level a).socBefore = level / c.batteryCapacityWh * 100 ↔
      InBattery c.batteryCapacityWh (level + netWh host c groundTrack a) := by
  have hhundred : (100 : K) ≠ 0 := by norm_num
  rw [← charge_eq_iff hcapacity.le]
  unfold entry
  rw [mul_left_inj' hhundred, div_left_inj' hcapacity.ne']
  exact sub_eq_iff_eq_add

theorem continuous_timeline_iff (hcapacity : 0 < c.batteryCapacityWh) (level : K)
    (acts : List (Activity K)) :
    Continuous (level / c.batteryCapacityWh * 100) (timeline host c groundTrack level acts) ↔
      StaysWithin c.batteryCapacityWh level (acts.map (netWh host c groundTrack)) := by
  induction acts generalizing level with
  | nil => exact Iff.rfl
  | cons a rest ih =>
      rw [timeline, Continuous, List.map_cons, StaysWithin, socBefore_eq_iff host groundTrack hcapacity]
      apply and_congr_right
      intro hwithin
      have hlevel := (charge_eq_iff hcapacity.le).mpr hwithin
      rw [← hlevel]
      exact ih _

/-- A level of the battery as a percentage. -/
theorem inBattery_percent (hcapacity : 0 < c.batteryCapacityWh) {level : K}
    (h : InBattery c.batteryCapacityWh level) :
    InBattery 100 (level / c.batteryCapacityWh * 100) := by
  have h0 : 0 ≤ level / c.batteryCapacityWh := div_nonneg h.1 hcapacity.le
  have h1 : level / c.batteryCapacityWh ≤ 1 := (div_le_one hcapacity).mpr h.2
  constructor
  · positivity
  · linarith

/-- Without a loss all values lie between 0 and 100. -/
theorem bounded_timeline (hcapacity : 0 < c.batteryCapacityWh) {level : K}
    (hlevel : InBattery c.batteryCapacityWh level) {acts : List (Activity K)}
    (h : StaysWithin c.batteryCapacityWh level (acts.map (netWh host c groundTrack))) :
    ∀ e ∈ timeline host c groundTrack level acts,
      InBattery 100 e.socBefore ∧ InBattery 100 e.socAfter := by
  induction acts generalizing level with
  | nil =>
      intro e he
      cases he
  | cons a rest ih =>
      obtain ⟨hwithin, hrest⟩ := h
      have hcharge := (charge_eq_iff hcapacity.le).mpr hwithin
      intro e he
      rcases List.mem_cons.mp he with rfl | he
      · rw [(socBefore_eq_iff host groundTrack hcapacity level a).mpr hwithin]
        refine ⟨inBattery_percent hcapacity hlevel, inBattery_percent hcapacity ?_⟩
        exact inBattery_clamp hcapacity.le _
      · rw [hcharge] at he
        exact ih hwithin hrest e he

variable (c)

/-- **The timeline of a plan is sound if and only if** the battery is never filled up nor emptied:
the initial charge and the net gains up to each activity add up to a level within its capacity. -/
theorem checkPlanPower_sound_iff (hcapacity : 0 < c.batteryCapacityWh)
    (schedule : List (Activity K)) {initialSoc : K} (hempty : 0 ≤ initialSoc)
    (hfull : initialSoc ≤ 100) :
    SoundTimeline host c groundTrack schedule initialSoc ↔
      StaysWithin c.batteryCapacityWh (c.batteryCapacityWh * initialSoc / 100)
        ((countedActs host schedule).map (netWh host c groundTrack)) := by
  obtain ⟨htimeline, hviolations⟩ := checkPlanPower_eq host c groundTrack schedule initialSoc
  have hinitial : c.batteryCapacityWh * initialSoc / 100 / c.batteryCapacityWh * 100 =
      initialSoc := by
    field_simp
  have hiff := continuous_timeline_iff host groundTrack hcapacity
    (c.batteryCapacityWh * initialSoc / 100) (countedActs host schedule)
  rw [hinitial] at hiff
  constructor
  · intro h
    have hcontinuous := h.continuous
    rw [htimeline] at hcontinuous
    exact hiff.mp hcontinuous
  · intro h
    have hlevel : InBattery c.batteryCapacityWh (c.batteryCapacityWh * initialSoc / 100) := by
      constructor
      · positivity
      · rw [div_le_iff₀ (by norm_num)]
        exact mul_le_mul_of_nonneg_left hfull hcapacity.le
    exact {
      continuous := by
        rw [htimeline]
        exact hiff.mpr h
      bounded := by
        rw [htimeline]
        exact bounded_timeline host groundTrack hcapacity hlevel h
      entries := by
        rw [htimeline]
        exact timeline_ids host c groundTrack _ _
      reported := by rw [hviolations, htimeline] }

end PowerConstraintChecker

/-! ### A plan -/

/-- An activity that draws more than is charged, from a battery that holds enough. -/
theorem checkPlanPower_sound_example :
    PowerConstraintChecker.SoundTimeline powerHost .default [] [capture] 80 :=
  (PowerConstraintChecker.checkPlanPower_sound_iff powerHost .default [] (by decide +kernel) [capture]
    (by decide +kernel) (by decide +kernel)).mpr (by decide +kernel)

/-- One that draws less, from a full battery: the charge before is noted as less than full. -/
theorem checkPlanPower_not_continuous :
    ¬ PowerConstraintChecker.SoundTimeline powerHost .default []
      [{ capture with powerW := 10 }] 100 := by
  intro h
  have hfirst : ∀ e ∈ (PowerConstraintChecker.default.checkPlanPower powerHost.unrounded
      [{ capture with powerW := 10 }] 100 []).socTimeline, e.socBefore ≠ 100 := by decide +kernel
  have hcontinuous := h.continuous
  cases htimeline : (PowerConstraintChecker.default.checkPlanPower powerHost.unrounded
      [{ capture with powerW := 10 }] 100 []).socTimeline with
  | nil =>
      have hids := h.entries
      rw [htimeline] at hids
      revert hids
      decide +kernel
  | cons e rest =>
      rw [htimeline] at hcontinuous hfirst
      exact hfirst e List.mem_cons_self hcontinuous.1

end Planner
