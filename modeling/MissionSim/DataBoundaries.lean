import MissionSim.DataConservation
import MissionSim.Flows
import Mathlib.Data.List.Find

/-!
# Boundaries that change no rate

An activity or a contact that changes no rate still cuts the horizon at its ends.  Over a gap what is
produced is stored first, and only then is anything dumped, so a gap in which the store overflows
during a dump loses more than its parts would.  Where no gap does, the cut makes no difference.

The horizon ends with its last boundary, and housekeeping with it; and the peak is noted after the
dump.  So the horizon must stay where there is housekeeping, and an overflow during a dump need not
show in the peak.
-/

namespace DataBudget

open Python Timelines

variable {K : Type} [Field K] [LinearOrder K] (host : Host K) (t : BudgetTracker K)

namespace BudgetTracker

/-- `plan_closes`. -/
def planCloses : Bool :=
  let epsMb : K := 1 / 1000000000
  let fill := (t.computeDataBudget host).fill
  decide (fill.overflowMb ≤ epsMb) && decide (fill.onboardMb - t.initialOnboardMb ≤ epsMb)

/-! ### Rates at a time -/

/-- What is produced and dumped at a time. -/
def rates : Flow K where
  inRate x :=
    ((t.genIntervals host).map fun i => if Contains i.1 x then i.2 else 0).sum + t.hkMbPerHour / 3600
  outRate x :=
    if (t.dumpIntervals host).any fun d => decide (Contains d x) then
      (((t.passIntervals host).find? fun p => decide (Contains p.interval x)).map Pass.rate).getD 0
    else 0
  limit := t.storageMb

variable {host t} in
/-- Over a gap the rates are those at any time in it. -/
theorem rates_of_gap {gap : K × K} (hgap : gap ∈ gaps (t.times host)) {x : K}
    (hx : gap.1 ≤ x ∧ x < gap.2) :
    t.genRate host gap = (t.rates host).inRate x ∧ t.dlRate host gap = (t.rates host).outRate x := by
  have hwithin {interval : K × K}
      (hmem : interval ∈ (t.genIntervals host).map Prod.fst ++ t.dumpIntervals host ++
        (t.passIntervals host).map Pass.interval) :
      Within interval gap ↔ Contains interval x :=
    within_iff_contains (pairwise_lt_times host t) (ends_mem_times host t hmem) hgap hx
  have hgen : t.genRate host gap = (t.rates host).inRate x := by
    refine congrArg (fun l : List K => l.sum + t.hkMbPerHour / 3600)
      (List.map_congr_left fun i hi => ?_)
    exact if_congr (hwithin (List.mem_append_left _ (List.mem_append_left _
      (List.mem_map_of_mem hi)))) rfl rfl
  have hdumps : ((t.dumpIntervals host).any fun d => decide (Within d gap)) =
      (t.dumpIntervals host).any fun d => decide (Contains d x) := by
    rw [Bool.eq_iff_iff, List.any_eq_true, List.any_eq_true]
    refine exists_congr fun d => and_congr_right fun hd => ?_
    rw [decide_eq_true_iff, decide_eq_true_iff]
    exact hwithin (List.mem_append_left _ (List.mem_append_right _ hd))
  have hpass : ((t.passIntervals host).find? fun p => decide (Within p.interval gap)) =
      (t.passIntervals host).find? fun p => decide (Contains p.interval x) :=
    List.find?_congr fun p hp =>
      decide_eq_decide.mpr (hwithin (List.mem_append_right _ (List.mem_map_of_mem hp)))
  refine ⟨hgen, ?_⟩
  unfold dlRate passOver rates
  dsimp only
  rw [hdumps, hpass]
  split <;> rfl

variable {host t} in
theorem rates_hold : (t.rates host).Holds (t.times host) := by
  intro gap hgap x hfrom hto
  have hlt := lt_of_mem_gaps (pairwise_lt_times host t) hgap
  obtain ⟨hin, hout⟩ := rates_of_gap hgap ⟨hfrom, hto⟩
  obtain ⟨hin', hout'⟩ := rates_of_gap hgap ⟨le_refl gap.1, hlt⟩
  exact ⟨hin.symm.trans hin', hout.symm.trans hout'⟩

/-! ### The integration as a run -/

end BudgetTracker

/-- The store of the integration with its peak. -/
def Fill.toGauge (f : Fill K) : Gauge K := { f.toStore with peak := f.peakMb }

namespace BudgetTracker

variable [IsStrictOrderedRing K] {host t}

theorem toGauge_advance {gap : K × K} (hgap : gap ∈ gaps (t.times host)) (f : Fill K) :
    (t.advance host f gap).toGauge = (t.rates host).pass gap.1 (length gap) f.toGauge := by
  have hlt := lt_of_mem_gaps (pairwise_lt_times host t) hgap
  have hlength : 0 < length gap := sub_pos.mpr hlt
  obtain ⟨hin, hout⟩ := rates_of_gap hgap ⟨le_refl gap.1, hlt⟩
  have hstore := toStore_advance host t hlength f
  have hpeak : (t.advance host f gap).peakMb = max f.peakMb (t.advance host f gap).onboardMb := by
    unfold advance
    rw [if_neg (not_le.mpr hlength)]
    have hkept : (t.dump host gap (t.store host gap f)).peakMb = f.peakMb := by
      unfold store
      dsimp only
      split <;> rfl
    unfold notePeak
    split
    · rename_i hmore
      exact (max_eq_right (hkept ▸ hmore.le)).symm
    · rename_i hless
      rw [hkept]
      exact (max_eq_left (hkept ▸ not_lt.mp hless)).symm
  unfold Fill.toGauge
  rw [hpeak, show (t.advance host f gap).onboardMb = (t.advance host f gap).toStore.level from rfl,
    hstore, hin, hout]
  rfl

theorem toGauge_foldl {gs : List (K × K)} (h : ∀ gap ∈ gs, gap ∈ gaps (t.times host))
    (f : Fill K) :
    (gs.foldl (t.advance host) f).toGauge =
      gs.foldl (fun s gap => (t.rates host).pass gap.1 (length gap) s) f.toGauge := by
  induction gs generalizing f with
  | nil => rfl
  | cons gap rest ih =>
      rw [List.foldl_cons, List.foldl_cons, ih fun g hg => h g (List.mem_cons_of_mem _ hg),
        toGauge_advance (h gap List.mem_cons_self)]

/-- **The integration is a run between the boundaries.** -/
theorem toGauge_fill :
    (t.computeDataBudget host).fill.toGauge =
      (t.rates host).run (t.times host) (t.start host).toGauge :=
  toGauge_foldl (fun _ hgap => hgap) _

/-! ### Quiet plans -/

variable (host t) in
/-- The store holds what is there at first, no rate is negative, and the store does not overflow in a
gap in which a pass is dumped to. -/
structure Quiet : Prop where
  initial : 0 ≤ t.initialOnboardMb
  storage : t.initialOnboardMb ≤ t.storageMb
  calm : ∀ n gap, (gaps (t.times host))[n]? = some gap →
    0 ≤ t.genRate host gap ∧ 0 ≤ t.dlRate host gap ∧
      (t.dlRate host gap = 0 ∨
        (t.fillAt host n).onboardMb + t.genRate host gap * length gap ≤ t.storageMb)

omit [IsStrictOrderedRing K] in
theorem start_sound (h : Quiet host t) : (t.rates host).Sound (t.start host).toGauge :=
  ⟨h.initial, h.storage, le_refl t.initialOnboardMb⟩

theorem quiet_run (h : Quiet host t) :
    (t.rates host).Quiet (t.times host) (t.start host).toGauge := by
  intro n gap hgap
  have hmem : gap ∈ gaps (t.times host) := List.mem_of_getElem? hgap
  have hlt := lt_of_mem_gaps (pairwise_lt_times host t) hmem
  obtain ⟨hin, hout⟩ := rates_of_gap hmem ⟨le_refl gap.1, hlt⟩
  rw [← toGauge_foldl (fun g hg => List.mem_of_mem_take hg)]
  have hcalm := h.calm n gap hgap
  rw [hin, hout] at hcalm
  exact hcalm

/-! ### More of a plan -/

/-- Activities and contacts were added. -/
structure Adds (t t' : BudgetTracker K) : Prop where
  schedule : t.schedule.Sublist t'.schedule
  contacts : t.contacts.Sublist t'.contacts
  parameters : t' = { t with schedule := t'.schedule, contacts := t'.contacts }

variable (host t) in
/-- There is no housekeeping, or the horizon stays. -/
def SameHorizon (t' : BudgetTracker K) : Prop :=
  t.hkMbPerHour = 0 ∨
    ∀ x ∈ t'.times host, (∃ a ∈ t.times host, a ≤ x) ∧ ∃ b ∈ t.times host, x ≤ b

variable {t' : BudgetTracker K}

omit [IsStrictOrderedRing K] in
/-- When a pass is does not depend on the plan. -/
theorem passInterval_interval {c : Contact K} {i : Nat} {p : Pass K}
    (h : t.passInterval host c i = some p) (j : Nat) :
    ∃ p', t'.passInterval host c j = some p' ∧ p'.interval = p.interval := by
  unfold passInterval at h ⊢
  obtain ⟨aos, haos, h⟩ := Option.bind_eq_some_iff.mp h
  obtain ⟨los, hlos, h⟩ := Option.bind_eq_some_iff.mp h
  rw [haos, hlos]
  dsimp only [Option.bind_some]
  by_cases hback : los ≤ aos
  · rw [if_pos hback] at h
    cases h
  · rw [if_neg hback] at h ⊢
    cases h
    exact ⟨_, rfl, rfl⟩

omit [IsStrictOrderedRing K] in
theorem times_sublist (h : Adds t t') : (t.times host).Sublist (t'.times host) := by
  have hactive : t.active.Sublist t'.active := h.schedule.filter _
  have hboundaries : ∀ x ∈ t.boundaries host, x ∈ t'.boundaries host := by
    intro x hx
    obtain ⟨interval, hinterval, hends⟩ := List.mem_flatMap.mp hx
    refine List.mem_flatMap.mpr ⟨interval, ?_, hends⟩
    rcases List.mem_append.mp hinterval with hleft | hpass
    · rcases List.mem_append.mp hleft with hgen | hdump
      · have hgens : (t.genIntervals host).Sublist (t'.genIntervals host) := hactive.filterMap _
        exact List.mem_append_left _ (List.mem_append_left _ ((hgens.map _).subset hgen))
      · have hdumps : (t.dumpIntervals host).Sublist (t'.dumpIntervals host) :=
          hactive.filterMap _
        exact List.mem_append_left _ (List.mem_append_right _ (hdumps.subset hdump))
    · obtain ⟨p, hp, rfl⟩ := List.mem_map.mp hpass
      obtain ⟨c, hc, hinterval⟩ := passInterval_of_mem hp
      obtain ⟨j, hj⟩ := List.getElem?_of_mem (h.contacts.subset (List.mem_of_getElem? hc))
      obtain ⟨p', hp', hsame⟩ : ∃ p', t'.passInterval host c j = some p' ∧ p'.interval = p.interval :=
        passInterval_interval hinterval j
      have hmem : p' ∈ t'.passIntervals host :=
        List.mem_filterMap.mpr ⟨(c, j), List.mem_zipIdx_iff_getElem?.mpr hj, hp'⟩
      exact List.mem_append_right _ (hsame ▸ List.mem_map_of_mem hmem)
  have hsubset : t.times host ⊆ t'.times host := fun x hx =>
    (mem_times host t').mpr (hboundaries x ((mem_times host t).mp hx))
  have hsorted := pairwise_lt_times host t
  have hnodup : (t.times host).Nodup := hsorted.imp ne_of_lt
  exact List.sublist_of_subperm_of_pairwise (List.subperm_of_subset hnodup hsubset) hsorted
    (pairwise_lt_times host t')

omit [IsStrictOrderedRing K] in
/-- Beside the plan nothing is produced and no pass is. -/
theorem rates_outside {x : K} (hout : (∀ z ∈ t.times host, x < z) ∨ ∀ z ∈ t.times host, z ≤ x) :
    (t.rates host).inRate x = t.hkMbPerHour / 3600 ∧ (t.rates host).outRate x = 0 := by
  have hnone {interval : K × K}
      (hmem : interval ∈ (t.genIntervals host).map Prod.fst ++ t.dumpIntervals host ++
        (t.passIntervals host).map Pass.interval) : ¬ Contains interval x := by
    obtain ⟨hfrom, hto⟩ := ends_mem_times host t hmem
    rintro ⟨hafter, hbefore⟩
    rcases hout with hfirst | hlast
    · exact absurd hafter (not_le.mpr (hfirst _ hfrom))
    · exact absurd hbefore (not_lt.mpr (hlast _ hto))
  constructor
  · have hzero : ((t.genIntervals host).map fun i => if Contains i.1 x then i.2 else 0).sum = 0 := by
      refine List.sum_eq_zero fun y hy => ?_
      obtain ⟨i, hi, rfl⟩ := List.mem_map.mp hy
      exact if_neg (hnone (List.mem_append_left _ (List.mem_append_left _
        (List.mem_map_of_mem hi))))
    show _ + _ = _
    rw [hzero, zero_add]
  · have hdumps : ((t.dumpIntervals host).any fun d => decide (Contains d x)) = false := by
      rw [List.any_eq_false]
      intro d hd
      rw [decide_eq_true_iff]
      exact hnone (List.mem_append_left _ (List.mem_append_right _ hd))
    unfold rates
    dsimp only
    rw [hdumps]
    rfl

omit [IsStrictOrderedRing K] in
theorem idle_outside (h : SameHorizon host t t') :
    (t.rates host).IdleOutside (t.times host) (t'.times host) := by
  intro x hout hbefore hafter
  obtain ⟨hin, hzero⟩ := rates_outside hout
  rcases h with hnone | hsame
  · rw [hnone, zero_div] at hin
    exact ⟨hin, hzero⟩
  · obtain ⟨y, hy, hyx⟩ := hbefore
    obtain ⟨w, hw, hxw⟩ := hafter
    obtain ⟨a, ha, hay⟩ := (hsame y hy).1
    obtain ⟨b, hb, hwb⟩ := (hsame w hw).2
    rcases hout with hfirst | hlast
    · exact absurd (hay.trans hyx) (not_le.mpr (hfirst a ha))
    · exact absurd (hxw.trans_le hwb) (not_lt.mpr (hlast b hb))

/-- **Boundaries that change no rate change no result.** -/
theorem gauge_adds (hadds : Adds t t') (hrates : t'.rates host = t.rates host)
    (hhorizon : SameHorizon host t t') (h : Quiet host t) :
    (t'.computeDataBudget host).fill.toGauge = (t.computeDataBudget host).fill.toGauge := by
  have hstart : (t'.start host).toGauge = (t.start host).toGauge := by
    rw [hadds.parameters]
    rfl
  rw [toGauge_fill, toGauge_fill, hstart, hrates]
  exact Flow.run_refine (times_sublist hadds) (pairwise_lt_times host t') (start_sound h)
    (quiet_run h) rates_hold (idle_outside hhorizon)

variable (host t) in
/-- The results that boundaries are not to change. -/
structure SameResults (t' : BudgetTracker K) : Prop where
  overflow : (t'.computeDataBudget host).fill.overflowMb = (t.computeDataBudget host).fill.overflowMb
  peak : (t'.computeDataBudget host).fill.peakMb = (t.computeDataBudget host).fill.peakMb
  onboard : (t'.computeDataBudget host).fill.onboardMb = (t.computeDataBudget host).fill.onboardMb
  downlinked :
    (t'.computeDataBudget host).fill.downlinkedMb = (t.computeDataBudget host).fill.downlinkedMb
  closes : t'.planCloses host = t.planCloses host

variable (host t) in
/-- An overflow shows in the peak. -/
def PeakShows : Prop :=
  0 < (t.computeDataBudget host).fill.overflowMb →
    t.storageMb ≤ (t.computeDataBudget host).fill.peakMb

omit [IsStrictOrderedRing K] in
theorem sameResults_of_gauge (hadds : Adds t t')
    (h : (t'.computeDataBudget host).fill.toGauge = (t.computeDataBudget host).fill.toGauge) :
    SameResults host t t' := by
  have hoverflow : (t'.computeDataBudget host).fill.overflowMb = _ :=
    congrArg (fun g : Gauge K => g.spilled) h
  have honboard : (t'.computeDataBudget host).fill.onboardMb = _ :=
    congrArg (fun g : Gauge K => g.level) h
  refine ⟨hoverflow, congrArg Gauge.peak h, honboard, congrArg (fun g : Gauge K => g.drawn) h, ?_⟩
  have hinitial : t'.initialOnboardMb = t.initialOnboardMb := by rw [hadds.parameters]
  unfold planCloses
  dsimp only
  rw [hoverflow, honboard, hinitial]
  rfl

theorem peak_shows (h : Quiet host t) : PeakShows host t := by
  intro hoverflow
  have hfull := Flow.run_full (pairwise_lt_times host t) (start_sound h) (quiet_run h) (Or.inl rfl)
  rw [← toGauge_fill] at hfull
  rcases hfull with hnone | hpeak
  · exact absurd hoverflow (show ¬ 0 < _ from hnone ▸ lt_irrefl _)
  · exact hpeak

/-- **A quiet plan does not depend on boundaries that change no rate.** -/
theorem boundaries_irrelevant (hadds : Adds t t')
    (hrates : ∀ x, (t'.rates host).inRate x = (t.rates host).inRate x ∧
      (t'.rates host).outRate x = (t.rates host).outRate x)
    (hhorizon : SameHorizon host t t') (h : Quiet host t) :
    SameResults host t t' ∧ PeakShows host t ∧ PeakShows host t' := by
  have hstorage : t'.storageMb = t.storageMb := by rw [hadds.parameters]
  have hsame : t'.rates host = t.rates host := by
    have hin : (t'.rates host).inRate = (t.rates host).inRate := funext fun x => (hrates x).1
    have hout : (t'.rates host).outRate = (t.rates host).outRate := funext fun x => (hrates x).2
    show Timelines.Flow.mk (t'.rates host).inRate (t'.rates host).outRate t'.storageMb =
      Timelines.Flow.mk (t.rates host).inRate (t.rates host).outRate t.storageMb
    rw [hin, hout, hstorage]
  have hresults := sameResults_of_gauge hadds (gauge_adds hadds hsame hhorizon h)
  have hpeak := peak_shows h
  refine ⟨hresults, hpeak, fun hoverflow => ?_⟩
  rw [hstorage, hresults.peak]
  exact hpeak (hresults.overflow ▸ hoverflow)

/-- A plan with another dump. -/
def plusDump (t : BudgetTracker ℚ) (startTime : String) (durationS : ℚ) : BudgetTracker ℚ :=
  { t with
    schedule := t.schedule ++ [{ dataDump with startTime := startTime, durationS := durationS }] }

theorem adds_plusDump (t : BudgetTracker ℚ) (startTime : String) (durationS : ℚ) :
    Adds t (plusDump t startTime durationS) where
  schedule := List.sublist_append_left _ _
  contacts := List.Sublist.refl _
  parameters := rfl

/-- A dump that meets no pass but those that are dumped to. -/
theorem rates_plusDump {t : BudgetTracker ℚ} (added : ℚ × ℚ) {startTime : String} {durationS : ℚ}
    (hgen : (plusDump t startTime durationS).genIntervals planHost = t.genIntervals planHost)
    (hdump : (plusDump t startTime durationS).dumpIntervals planHost =
      t.dumpIntervals planHost ++ [added])
    (hmeets : ∀ x, Contains added x →
      ((t.dumpIntervals planHost).any fun d => decide (Contains d x)) = true ∨
        ((t.passIntervals planHost).find? fun p => decide (Contains p.interval x)) = none)
    (x : ℚ) :
    ((plusDump t startTime durationS).rates planHost).inRate x = (t.rates planHost).inRate x ∧
      ((plusDump t startTime durationS).rates planHost).outRate x =
        (t.rates planHost).outRate x := by
  have hpass : (plusDump t startTime durationS).passIntervals planHost =
      t.passIntervals planHost := rfl
  unfold rates
  dsimp only
  rw [hgen, hdump, hpass, List.any_append]
  refine ⟨rfl, ?_⟩
  by_cases hin : Contains added x
  · rcases hmeets x hin with hdumped | hnone
    · rw [hdumped]
      rfl
    · rw [hnone]
      split <;> split <;> rfl
  · have hadded : (([added] : List (ℚ × ℚ)).any fun d => decide (Contains d x)) = false := by
      rw [List.any_cons, decide_eq_false hin]
      rfl
    rw [hadded, Bool.or_false]

/-- A dump within the dump of the plan. -/
theorem rates_plusDump_within {t : BudgetTracker ℚ}
    (hgen : (plusDump t "2026-01-01T00:01:30Z" 10).genIntervals planHost = t.genIntervals planHost)
    (hdump : (plusDump t "2026-01-01T00:01:30Z" 10).dumpIntervals planHost =
      t.dumpIntervals planHost ++ [(1767225690, 1767225700)])
    (hdumps : t.dumpIntervals planHost = [(1767225660, 1767225760)]) (x : ℚ) :
    ((plusDump t "2026-01-01T00:01:30Z" 10).rates planHost).inRate x = (t.rates planHost).inRate x ∧
      ((plusDump t "2026-01-01T00:01:30Z" 10).rates planHost).outRate x =
        (t.rates planHost).outRate x := by
  refine rates_plusDump (1767225690, 1767225700) hgen hdump (fun x hx => ?_) x
  have hin : Contains ((1767225660 : ℚ), (1767225760 : ℚ)) x :=
    ⟨le_trans (by norm_num) hx.1, lt_trans hx.2 (by norm_num)⟩
  rw [hdumps, List.any_cons, decide_eq_true hin]
  exact Or.inl rfl

/-- The plan with more storage than it fills. -/
def roomyPlan : BudgetTracker ℚ := { plan with storageMb := 1000 }

theorem quiet_roomyPlan : Quiet planHost roomyPlan where
  initial := by decide +kernel
  storage := by decide +kernel
  calm := by
    intro n gap hgap
    have hcalm : ∀ n ∈ List.range 5, ∀ gap ∈ (gaps (roomyPlan.times planHost))[n]?.toList,
        0 ≤ roomyPlan.genRate planHost gap ∧ 0 ≤ roomyPlan.dlRate planHost gap ∧
          (roomyPlan.dlRate planHost gap = 0 ∨ (roomyPlan.fillAt planHost n).onboardMb +
            roomyPlan.genRate planHost gap * length gap ≤ roomyPlan.storageMb) := by
      decide +kernel
    have hlength : (gaps (roomyPlan.times planHost)).length = 5 := by decide +kernel
    have hn : n < 5 := hlength ▸ (List.getElem?_eq_some_iff.mp hgap).1
    exact hcalm n (List.mem_range.mpr hn) gap (Option.mem_toList.mpr hgap)

theorem boundaries_irrelevant_roomy :
    SameResults planHost roomyPlan (plusDump roomyPlan "2026-01-01T00:01:30Z" 10) ∧
      PeakShows planHost roomyPlan ∧
        PeakShows planHost (plusDump roomyPlan "2026-01-01T00:01:30Z" 10) :=
  boundaries_irrelevant (adds_plusDump _ _ _)
    (rates_plusDump_within (by decide +kernel) (by decide +kernel) (by decide +kernel))
    (Or.inr (by decide +kernel)) quiet_roomyPlan

/-- A dump that is cut by another loses less, one past the last boundary extends the housekeeping,
and an overflow during a dump does not show in the peak. -/
theorem boundaries_matter :
    (Adds plan (plusDump plan "2026-01-01T00:01:30Z" 10) ∧
      (∀ x, ((plusDump plan "2026-01-01T00:01:30Z" 10).rates planHost).inRate x =
          (plan.rates planHost).inRate x ∧
        ((plusDump plan "2026-01-01T00:01:30Z" 10).rates planHost).outRate x =
          (plan.rates planHost).outRate x) ∧
      ¬ SameResults planHost plan (plusDump plan "2026-01-01T00:01:30Z" 10)) ∧
    (Adds plan (plusDump plan "2026-01-01T00:03:00Z" 100) ∧
      (∀ x, ((plusDump plan "2026-01-01T00:03:00Z" 100).rates planHost).inRate x =
          (plan.rates planHost).inRate x ∧
        ((plusDump plan "2026-01-01T00:03:00Z" 100).rates planHost).outRate x =
          (plan.rates planHost).outRate x) ∧
      ¬ SameResults planHost plan (plusDump plan "2026-01-01T00:03:00Z" 100)) ∧
    ¬ PeakShows planHost { plan with
      schedule := [{ imaging with startTime := "2026-01-01T00:01:20Z" },
        { dataDump with startTime := "2026-01-01T00:01:20Z" }] } := by
  refine ⟨⟨adds_plusDump _ _ _, rates_plusDump_within ?_ ?_ ?_, ?_⟩,
    ⟨adds_plusDump _ _ _, rates_plusDump (1767225780, 1767225880) ?_ ?_ ?_, ?_⟩, ?_⟩
  · decide +kernel
  · decide +kernel
  · decide +kernel
  · intro h
    have hoverflow := h.overflow
    revert hoverflow
    decide +kernel
  · decide +kernel
  · decide +kernel
  · intro x hx
    have hpasses : (plan.passIntervals planHost).map Pass.interval =
        [(1767225680, 1767225780)] := by decide +kernel
    refine Or.inr (List.find?_eq_none.mpr fun p hp => ?_)
    have hinterval : p.interval = (1767225680, 1767225780) := by
      have hmem := List.mem_map_of_mem (f := Pass.interval) hp
      rw [hpasses] at hmem
      exact List.mem_singleton.mp hmem
    rw [hinterval, decide_eq_true_iff]
    intro hin
    exact absurd hx.1 (not_le.mpr hin.2)
  · intro h
    have honboard := h.onboard
    revert honboard
    decide +kernel
  · intro h
    have hpeak := h (by decide +kernel)
    revert hpeak
    decide +kernel

end BudgetTracker

end DataBudget
