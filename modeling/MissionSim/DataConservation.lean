import MissionSim.DataBudget

/-!
# The data budget conserves data

What was onboard at first, is produced and accrues as housekeeping is in the end onboard, downlinked
or lost; the store is never below zero or over its capacity; and no pass dumps more than it can
take.

All of it rests on the cut at the boundaries: every activity and every pass is a union of gaps, so
the rates add up to volumes and to capacities.  It needs volumes and an initial fill that are not
negative, and an overhead of at most one; without them each part fails.
-/

namespace DataBudget

open Python Timelines List

variable {K : Type} [Field K] [LinearOrder K] (host : Host K) (t : BudgetTracker K)

namespace BudgetTracker

/-! ### The boundaries -/

omit [Field K] in
theorem pairwise_lt_sorted (l : List K) : (l.dedup.insertionSort (· ≤ ·)).Pairwise (· < ·) := by
  have hle := pairwise_insertionSort (· ≤ ·) l.dedup
  have hnodup : (l.dedup.insertionSort (· ≤ ·)).Nodup :=
    (perm_insertionSort (· ≤ ·) l.dedup).nodup_iff.mpr (nodup_dedup l)
  exact hle.imp₂ (fun _ _ => lt_of_le_of_ne) hnodup

theorem pairwise_lt_times : (t.times host).Pairwise (· < ·) := pairwise_lt_sorted _

theorem mem_times {x : K} : x ∈ t.times host ↔ x ∈ t.boundaries host := by
  unfold times
  rw [mem_insertionSort, mem_dedup]

/-- The ends of what was put on the timeline are among its times. -/
theorem ends_mem_times {interval : K × K}
    (h : interval ∈ (t.genIntervals host).map Prod.fst ++ t.dumpIntervals host ++
      (t.passIntervals host).map Pass.interval) :
    interval.1 ∈ t.times host ∧ interval.2 ∈ t.times host := by
  have hmem (x : K) (hx : x ∈ ends interval) : x ∈ t.times host :=
    (mem_times host t).mpr (mem_flatMap.mpr ⟨interval, h, hx⟩)
  exact ⟨hmem _ mem_cons_self, hmem _ (mem_cons_of_mem _ mem_cons_self)⟩

end BudgetTracker

/-! ### Gaps as steps of a store -/

/-- The store of the integration. -/
def Fill.toStore (f : Fill K) : Store K := ⟨f.onboardMb, f.overflowMb, f.downlinkedMb⟩

namespace BudgetTracker

omit [Field K] in
theorem toStore_notePeak (gap : K × K) (f : Fill K) : (notePeak gap f).toStore = f.toStore := by
  unfold notePeak
  split <;> rfl

theorem toStore_dump (gap : K × K) (f : Fill K) :
    (t.dump host gap f).toStore =
      ⟨f.onboardMb - min f.onboardMb (t.dlRate host gap * length gap), f.overflowMb,
        f.downlinkedMb + min f.onboardMb (t.dlRate host gap * length gap)⟩ := rfl

theorem toStore_store (gap : K × K) (f : Fill K) :
    (t.store host gap f).toStore =
      let filled := f.onboardMb + t.genRate host gap * length gap
      ⟨min filled t.storageMb, f.overflowMb + (filled - min filled t.storageMb),
        f.downlinkedMb⟩ := by
  unfold store
  dsimp only
  by_cases hfull : t.storageMb < f.onboardMb + t.genRate host gap * length gap
  · rw [if_pos hfull, min_eq_right hfull.le]
    rfl
  · rw [if_neg hfull, min_eq_left (not_lt.mp hfull), sub_self, add_zero]
    rfl

variable {gap : K × K}

/-- **A gap is a step of the store.** -/
theorem toStore_advance (hgap : 0 < length gap) (f : Fill K) :
    (t.advance host f gap).toStore =
      f.toStore.step t.storageMb (t.genRate host gap * length gap)
        (t.dlRate host gap * length gap) := by
  have hstore := toStore_store host t gap f
  have hlevel : (t.store host gap f).onboardMb = _ := congrArg Store.level hstore
  have hspilled : (t.store host gap f).overflowMb = _ := congrArg Store.spilled hstore
  have hdrawn : (t.store host gap f).downlinkedMb = _ := congrArg Store.drawn hstore
  unfold advance
  rw [if_neg (not_le.mpr hgap), toStore_notePeak, toStore_dump, hlevel, hspilled, hdrawn]
  rfl

theorem hkMb_advance (hgap : 0 < length gap) (f : Fill K) :
    (t.advance host f gap).hkMb = f.hkMb + t.hkMbPerHour / 3600 * length gap := by
  have hnote (f : Fill K) : (notePeak gap f).hkMb = f.hkMb := by
    unfold notePeak
    split <;> rfl
  unfold advance
  rw [if_neg (not_le.mpr hgap), hnote]
  unfold store
  dsimp only
  split <;> rfl

/-! ### The balance -/

/-- Gaps that are not empty. -/
def Cut (gs : List (K × K)) : Prop := ∀ gap ∈ gs, 0 < length gap

/-- What was ever in the store, and housekeeping, after gaps. -/
theorem total_run (gs : List (K × K)) (h : Cut gs) (f : Fill K) :
    (gs.foldl (t.advance host) f).toStore.total =
      f.toStore.total + (gs.map fun gap => rateOver (t.genIntervals host) gap * length gap).sum +
        ((gs.foldl (t.advance host) f).hkMb - f.hkMb) := by
  induction gs generalizing f with
  | nil => simp
  | cons gap rest ih =>
      have hgap := h gap mem_cons_self
      have hrest : Cut rest := fun g hg => h g (mem_cons_of_mem _ hg)
      rw [foldl_cons, ih hrest, toStore_advance host t hgap, Store.total_step,
        hkMb_advance host t hgap, map_cons, sum_cons]
      unfold genRate
      ring

/-! ### What is assumed, and what is promised -/

/-- **The activities can be placed, the rates are not negative, and what is onboard fits.** -/
structure Placed : Prop where
  duration : ∀ a ∈ t.schedule, 0 < a.durationS
  parses : ∀ a ∈ t.schedule, ∃ t0, host.parseIso a.startTime = some t0
  hkRate : 0 ≤ t.hkMbPerHour
  dumpRate : 0 ≤ t.dumpRateBps
  routineRate : 0 ≤ t.routineRateBps
  stationRate : ∀ gsName rate, t.stationRates.get? gsName = some rate → 0 ≤ rate
  storage : t.initialOnboardMb ≤ t.storageMb

/-- **No volume is negative, nor what is onboard, and the overhead leaves no less than nothing.** -/
structure Sound : Prop extends Placed host t where
  volume : ∀ a ∈ t.active, 0 ≤ a.dataVolumeMb
  initial : 0 ≤ t.initialOnboardMb
  overhead : t.overhead ≤ 1

/-- **The budget conserves data within its limits.** -/
structure Conserves : Prop where
  balance : t.initialOnboardMb + (t.computeDataBudget host).plannedGenMb +
      (t.computeDataBudget host).fill.hkMb =
    (t.computeDataBudget host).fill.onboardMb + (t.computeDataBudget host).fill.downlinkedMb +
      (t.computeDataBudget host).fill.overflowMb
  within : ∀ n, 0 ≤ (t.fillAt host n).onboardMb ∧ (t.fillAt host n).onboardMb ≤ t.storageMb
  passes : ∀ p ∈ (t.computeDataBudget host).passDownlink, p.plannedDumpMb ≤ p.capacityMb

variable [IsStrictOrderedRing K] {host t}

theorem cut_times : Cut (gaps (t.times host)) := fun _ hgap =>
  sub_pos.mpr (lt_of_mem_gaps (pairwise_lt_times host t) hgap)

/-! ### Generation -/

omit [LinearOrder K] [IsStrictOrderedRing K] in
theorem sum_filterMap {α β : Type} (f : α → Option β) (g : β → K) (l : List α) :
    ((l.filterMap f).map g).sum = (l.map fun a => (f a).elim 0 g).sum := by
  induction l with
  | nil => rfl
  | cons a rest ih =>
      rw [filterMap_cons, map_cons, sum_cons, ← ih]
      cases f a with
      | none => exact (zero_add _).symm
      | some b => rfl

omit [IsStrictOrderedRing K] in
/-- What an activity produces over its interval is its volume. -/
theorem genInterval_volume (h : Sound host t) {a : Activity K} (ha : a ∈ t.active) :
    (genInterval host a).elim 0 (fun i => i.2 * length i.1) = a.dataVolumeMb := by
  have hmem := mem_of_mem_filter ha
  obtain ⟨t0, ht0⟩ := h.parses a hmem
  have hduration := h.duration a hmem
  unfold genInterval
  rw [ht0]
  dsimp only [Option.bind_some]
  by_cases hempty : a.durationS ≤ 0 ∨ a.dataVolumeMb ≤ 0
  · rw [if_pos hempty]
    rcases hempty with hshort | hnone
    · exact absurd hshort (not_le.mpr hduration)
    · exact (h.volume a ha).antisymm hnone
  · rw [if_neg hempty]
    show a.dataVolumeMb / a.durationS * (t0 + a.durationS - t0) = a.dataVolumeMb
    rw [add_sub_cancel_left, div_mul_cancel₀ _ hduration.ne']

/-- The interval of an activity runs forward, and its rate is not negative. -/
theorem genInterval_le {a : Activity K} {i : (K × K) × K} (h : genInterval host a = some i) :
    i.1.1 ≤ i.1.2 ∧ 0 ≤ i.2 := by
  obtain ⟨t0, -, hi⟩ := Option.bind_eq_some_iff.mp h
  by_cases hempty : a.durationS ≤ 0 ∨ a.dataVolumeMb ≤ 0
  · rw [if_pos hempty] at hi
    cases hi
  · rw [if_neg hempty] at hi
    cases hi
    obtain ⟨hduration, hvolume⟩ := not_or.mp hempty
    have hpos := (not_le.mp hduration).le
    exact ⟨le_add_of_nonneg_right hpos, div_nonneg (not_le.mp hvolume).le hpos⟩

theorem sum_generation (h : Sound host t) :
    ((gaps (t.times host)).map fun gap => rateOver (t.genIntervals host) gap * length gap).sum =
      t.plannedGenMb := by
  have hmem : ∀ i ∈ t.genIntervals host,
      i.1.1 ∈ t.times host ∧ i.1.2 ∈ t.times host ∧ i.1.1 ≤ i.1.2 := by
    intro i hi
    have hends := ends_mem_times host t (mem_append_left _ (mem_append_left _
      (mem_map_of_mem hi)))
    obtain ⟨a, -, hinterval⟩ := mem_filterMap.mp hi
    exact ⟨hends.1, hends.2, (genInterval_le hinterval).1⟩
  rw [sum_rate (pairwise_lt_times host t) hmem]
  unfold genIntervals plannedGenMb
  rw [sum_filterMap]
  exact congrArg sum (map_congr_left fun a ha => genInterval_volume h ha)

/-- **What was there, is produced and accrues is there, downlinked or lost.** -/
theorem balance (h : Sound host t) :
    t.initialOnboardMb + (t.computeDataBudget host).plannedGenMb +
        (t.computeDataBudget host).fill.hkMb =
      (t.computeDataBudget host).fill.onboardMb + (t.computeDataBudget host).fill.downlinkedMb +
        (t.computeDataBudget host).fill.overflowMb := by
  have htotal := total_run host t (gaps (t.times host)) cut_times (t.start host)
  rw [sum_generation h] at htotal
  have hstart : (t.start host).toStore.total = t.initialOnboardMb := by
    show t.initialOnboardMb + 0 + 0 = _
    ring
  rw [hstart, show (t.start host).hkMb = 0 from rfl, sub_zero] at htotal
  exact htotal.symm

/-! ### Rates -/

variable (host) in
theorem fractionAboveElevation_mem (maxElevationDeg gateDeg maskDeg altitudeKm : K) :
    0 ≤ fractionAboveElevation host maxElevationDeg gateDeg maskDeg altitudeKm ∧
      fractionAboveElevation host maxElevationDeg gateDeg maskDeg altitudeKm ≤ 1 := by
  unfold fractionAboveElevation
  dsimp only
  split_ifs
  · exact ⟨zero_le_one, le_rfl⟩
  · exact ⟨le_rfl, zero_le_one⟩
  · exact ⟨le_rfl, zero_le_one⟩
  · exact ⟨le_rfl, zero_le_one⟩
  · exact ⟨le_max_left _ _, max_le zero_le_one (min_le_left _ _)⟩

theorem meanRateBps_nonneg (h : Sound host t) (c : Contact K) : 0 ≤ t.meanRateBps host c := by
  obtain ⟨hzero, hone⟩ := fractionAboveElevation_mem host c.maxElevationDeg (t.dumpGateDeg c.gsName)
    t.maskDeg t.altitudeKm
  have hdump : 0 ≤ t.dumpRateFor c.gsName := by
    unfold dumpRateFor
    cases hrate : t.stationRates.get? c.gsName with
    | none => exact h.dumpRate
    | some rate => exact h.stationRate _ rate hrate
  exact add_nonneg (mul_nonneg hzero hdump) (mul_nonneg (sub_nonneg.mpr hone) h.routineRate)

/-- A pass can take something, or nothing. -/
theorem passCapacityMb_nonneg (h : Sound host t) (c : Contact K) :
    0 ≤ t.passCapacityMb host c := by
  have hkept : 0 ≤ 1 - t.overhead := sub_nonneg.mpr h.overhead
  have hseconds : 0 ≤ t.usableSeconds c := le_max_left _ _
  have hmb : (0 : K) ≤ 8 * mb := by
    unfold mb
    positivity
  exact div_nonneg (mul_nonneg (mul_nonneg (meanRateBps_nonneg h c) hkept) hseconds) hmb

variable {p : Pass K}

omit [IsStrictOrderedRing K] in
/-- The pass of a contact spreads its capacity over its interval. -/
theorem passInterval_some {c : Contact K} {idx : Nat} (h : t.passInterval host c idx = some p) :
    p.idx = idx ∧ p.interval.1 < p.interval.2 ∧
      p.rate = t.passCapacityMb host c / length p.interval := by
  obtain ⟨aos, -, h⟩ := Option.bind_eq_some_iff.mp h
  obtain ⟨los, -, h⟩ := Option.bind_eq_some_iff.mp h
  by_cases hback : los ≤ aos
  · rw [if_pos hback] at h
    cases h
  · rw [if_neg hback] at h
    cases h
    exact ⟨rfl, not_le.mp hback, rfl⟩

omit [IsStrictOrderedRing K] in
/-- A pass on the timeline is that of the contact at its index. -/
theorem passInterval_of_mem (h : p ∈ t.passIntervals host) :
    ∃ c, t.contacts[p.idx]? = some c ∧ t.passInterval host c p.idx = some p := by
  obtain ⟨⟨c, idx⟩, hentry, hp⟩ := mem_filterMap.mp h
  obtain ⟨hidx, -⟩ := passInterval_some hp
  have hcontact : t.contacts[idx]? = some c := mem_zipIdx_iff_getElem?.mp hentry
  exact ⟨c, hidx ▸ hcontact, hidx ▸ hp⟩

omit [IsStrictOrderedRing K] in
/-- The pass over a gap is on the timeline, and has the gap within it. -/
theorem passOver_some (h : t.passOver host gap = some p) :
    p ∈ t.passIntervals host ∧ Within p.interval gap := by
  unfold passOver at h
  split at h
  · have hwithin := find?_some h
    exact ⟨mem_of_find?_eq_some h, of_decide_eq_true hwithin⟩
  · cases h

theorem passRate_nonneg (h : Sound host t) (hp : p ∈ t.passIntervals host) : 0 ≤ p.rate := by
  obtain ⟨c, -, hpass⟩ := passInterval_of_mem hp
  obtain ⟨-, hforward, hrate⟩ := passInterval_some hpass
  rw [hrate]
  exact div_nonneg (passCapacityMb_nonneg h c) (sub_pos.mpr hforward).le

theorem dlRate_nonneg (h : Sound host t) (gap : K × K) : 0 ≤ t.dlRate host gap := by
  unfold dlRate
  cases hp : t.passOver host gap with
  | none => exact le_rfl
  | some p => exact passRate_nonneg h (passOver_some hp).1

theorem genRate_nonneg (h : Sound host t) (gap : K × K) : 0 ≤ t.genRate host gap := by
  have hhk : 0 ≤ t.hkMbPerHour / 3600 := div_nonneg h.hkRate (by norm_num)
  refine add_nonneg (sum_nonneg fun x hx => ?_) hhk
  obtain ⟨i, hi, rfl⟩ := mem_map.mp hx
  obtain ⟨a, -, hinterval⟩ := mem_filterMap.mp hi
  split
  · exact (genInterval_le hinterval).2
  · exact le_rfl

/-! ### The level -/

/-- **The store stays within its limits over gaps.** -/
theorem within_run (h : Sound host t) (gs : List (K × K)) (hcut : Cut gs) (f : Fill K)
    (hf : 0 ≤ f.onboardMb ∧ f.onboardMb ≤ t.storageMb) :
    0 ≤ (gs.foldl (t.advance host) f).onboardMb ∧
      (gs.foldl (t.advance host) f).onboardMb ≤ t.storageMb := by
  induction gs generalizing f with
  | nil => exact hf
  | cons gap rest ih =>
      have hgap := hcut gap mem_cons_self
      have hin := mul_nonneg (genRate_nonneg h gap) hgap.le
      have hout := mul_nonneg (dlRate_nonneg h gap) hgap.le
      have hstep := Store.step_within (s := f.toStore) hin hout hf
      rw [← toStore_advance host t hgap f] at hstep
      exact ih (fun g hg => hcut g (mem_cons_of_mem _ hg)) _ hstep

theorem within (h : Sound host t) (n : Nat) :
    0 ≤ (t.fillAt host n).onboardMb ∧ (t.fillAt host n).onboardMb ≤ t.storageMb :=
  within_run h _ (fun _ hgap => cut_times _ (mem_of_mem_take hgap)) _ ⟨h.initial, h.storage⟩

/-! ### The passes -/

variable (host t) in
/-- A gap is dumped in the pass of an index. -/
def Serves (idx : Nat) (gap : K × K) : Prop := (t.passOver host gap).map Pass.idx = some idx

instance (idx : Nat) : DecidablePred (Serves host t idx) :=
  fun _ => inferInstanceAs (Decidable (_ = _))

omit [IsStrictOrderedRing K] in
theorem perPassDumped_advance (hgap : 0 < length gap) (f : Fill K) :
    (t.advance host f gap).perPassDumped = (t.dump host gap (t.store host gap f)).perPassDumped := by
  unfold advance
  rw [if_neg (not_le.mpr hgap)]
  unfold notePeak
  split <;> rfl

omit [IsStrictOrderedRing K] in
theorem perPassDumped_store (gap : K × K) (f : Fill K) :
    (t.store host gap f).perPassDumped = f.perPassDumped := by
  unfold store
  dsimp only
  split <;> rfl

omit [IsStrictOrderedRing K] in
theorem perPassDumped_dump_none (hp : t.passOver host gap = none) (f : Fill K) :
    (t.dump host gap f).perPassDumped = f.perPassDumped := by
  unfold dump
  rw [hp]

omit [IsStrictOrderedRing K] in
theorem perPassDumped_dump_some (hp : t.passOver host gap = some p) (f : Fill K) :
    (t.dump host gap f).perPassDumped =
      if 0 < min f.onboardMb (p.rate * length gap) then
        Function.update f.perPassDumped p.idx
          (f.perPassDumped p.idx + min f.onboardMb (p.rate * length gap))
      else f.perPassDumped := by
  unfold dump dlRate
  rw [hp]
  rfl

/-- A gap adds to a pass no more than the pass takes over it. -/
theorem perPassDumped_le (h : Sound host t) (rate : K) {idx : Nat}
    (hrate : ∀ gap p, t.passOver host gap = some p → p.idx = idx → p.rate = rate)
    (hgap : 0 < length gap) (f : Fill K) :
    (t.advance host f gap).perPassDumped idx ≤
      f.perPassDumped idx + rate * lengthIf (Serves host t idx) gap := by
  rw [perPassDumped_advance hgap]
  cases hp : t.passOver host gap with
  | none =>
      have hnot : ¬ Serves host t idx gap := by
        intro hserves
        unfold Serves at hserves
        rw [hp] at hserves
        cases hserves
      rw [perPassDumped_dump_none hp, perPassDumped_store, lengthIf, if_neg hnot, mul_zero, add_zero]
  | some p =>
      have hserves : Serves host t idx gap ↔ p.idx = idx := by
        unfold Serves
        rw [hp, Option.map_some, Option.some.injEq]
      have hpos : 0 ≤ p.rate * length gap :=
        mul_nonneg (passRate_nonneg h (passOver_some hp).1) hgap.le
      rw [perPassDumped_dump_some hp, perPassDumped_store, lengthIf]
      by_cases hidx : p.idx = idx
      · rw [if_pos (hserves.mpr hidx), ← hrate gap p hp hidx]
        split
        · rw [hidx, Function.update_self]
          exact add_le_add le_rfl (min_le_right _ _)
        · exact le_add_of_nonneg_right hpos
      · rw [if_neg fun hserved => hidx (hserves.mp hserved), mul_zero, add_zero]
        split
        · rw [Function.update_of_ne (Ne.symm hidx)]
        · exact le_rfl

/-- **Over gaps a pass dumps no more than it takes over those that it serves.** -/
theorem perPassDumped_run (h : Sound host t) (rate : K) {idx : Nat}
    (hrate : ∀ gap p, t.passOver host gap = some p → p.idx = idx → p.rate = rate)
    (gs : List (K × K)) (hcut : Cut gs) (f : Fill K) :
    (gs.foldl (t.advance host) f).perPassDumped idx ≤
      f.perPassDumped idx + rate * (gs.map (lengthIf (Serves host t idx))).sum := by
  induction gs generalizing f with
  | nil => simp
  | cons gap rest ih =>
      have hgap := perPassDumped_le h rate hrate (hcut gap mem_cons_self) f
      have hrest := ih (fun g hg => hcut g (mem_cons_of_mem _ hg)) (t.advance host f gap)
      rw [foldl_cons, map_cons, sum_cons]
      linarith

/-- **No contact dumps more than its capacity.** -/
theorem perPassDumped_le_capacity (h : Sound host t) {c : Contact K} {idx : Nat}
    (hc : t.contacts[idx]? = some c) :
    (t.computeDataBudget host).fill.perPassDumped idx ≤ t.passCapacityMb host c := by
  -- a pass of the index is that of the contact
  have hpass {gap : K × K} {p : Pass K} (hp : t.passOver host gap = some p) (hidx : p.idx = idx) :
      t.passInterval host c idx = some p := by
    obtain ⟨c', hc', hp'⟩ := passInterval_of_mem (passOver_some hp).1
    rw [hidx, hc] at hc'
    cases hc'
    exact hidx ▸ hp'
  cases hp : t.passInterval host c idx with
  | none =>
      have hrun := perPassDumped_run h 0
        (fun gap p hover hidx => by
          have hsome := hpass hover hidx
          rw [hp] at hsome
          cases hsome)
        (gaps (t.times host)) cut_times (t.start host)
      rw [zero_mul, add_zero] at hrun
      exact hrun.trans (passCapacityMb_nonneg h c)
  | some p =>
      obtain ⟨-, hforward, hrate⟩ := passInterval_some hp
      have honly {gap : K × K} {q : Pass K} (hover : t.passOver host gap = some q)
          (hidx : q.idx = idx) : q = p :=
        Option.some.inj ((hpass hover hidx).symm.trans hp)
      have hrun := perPassDumped_run h p.rate
        (fun gap q hover hidx => congrArg Pass.rate (honly hover hidx)) (gaps (t.times host)) cut_times
        (t.start host)
      have hentry : p ∈ t.passIntervals host :=
        mem_filterMap.mpr ⟨(c, idx), mem_zipIdx_iff_getElem?.mpr hc, hp⟩
      have hends := ends_mem_times host t (mem_append_right _ (mem_map_of_mem hentry))
      have hserved (gap : K × K) (hserves : Serves host t idx gap) : Within p.interval gap := by
        obtain ⟨q, hover, hidx⟩ := Option.map_eq_some_iff.mp hserves
        exact honly hover hidx ▸ (passOver_some hover).2
      have hspan := sum_lengthIf_le (pairwise_lt_times host t) hends.1 hends.2 hforward.le hserved
      have hlength : length p.interval ≠ 0 := (sub_pos.mpr hforward).ne'
      calc (t.computeDataBudget host).fill.perPassDumped idx
          ≤ 0 + p.rate * ((gaps (t.times host)).map (lengthIf (Serves host t idx))).sum := hrun
        _ ≤ 0 + p.rate * length p.interval :=
            add_le_add le_rfl (mul_le_mul_of_nonneg_left hspan (passRate_nonneg h hentry))
        _ = t.passCapacityMb host c := by rw [zero_add, hrate, div_mul_cancel₀ _ hlength]

theorem passes (h : Sound host t) :
    ∀ p ∈ (t.computeDataBudget host).passDownlink, p.plannedDumpMb ≤ p.capacityMb := by
  intro p hp
  obtain ⟨⟨c, idx⟩, hentry, rfl⟩ := mem_map.mp hp
  exact perPassDumped_le_capacity h (mem_zipIdx_iff_getElem?.mp hentry)

/-- **A sound budget conserves data within its limits.** -/
theorem conserves (h : Sound host t) : Conserves host t := ⟨balance h, within h, passes h⟩

/-! ### A plan -/

/-- The times of a plan on the first of January 2026; no pass of it needs its geometry. -/
def planHost : Host ℚ where
  parseIso s := match s with
    | "2026-01-01T00:00:00Z" => some 1767225600
    | "2026-01-01T00:01:00Z" => some 1767225660
    | "2026-01-01T00:01:20Z" => some 1767225680
    | "2026-01-01T00:01:30Z" => some 1767225690
    | "2026-01-01T00:03:00Z" => some 1767225780
    | _ => none
  lower := id
  cos _ := 1
  acos _ := 0
  radians := id
  degrees := id

def imaging : Activity ℚ where
  name := "imaging_pass"
  startTime := "2026-01-01T00:00:00Z"
  durationS := 100
  dataVolumeMb := 100

def dataDump : Activity ℚ where
  name := "data_dump"
  startTime := "2026-01-01T00:01:00Z"
  durationS := 100
  dataVolumeMb := 0

/-- A store of 50 MB that overflows while it is dumped. -/
def plan : BudgetTracker ℚ where
  contacts := [⟨"Iqaluit", "2026-01-01T00:01:20Z", "2026-01-01T00:03:00Z", 100, 30⟩]
  schedule := [imaging, dataDump]
  storageMb := 50
  overhead := 1 / 5
  hkMbPerHour := 18 / 5
  initialOnboardMb := 10
  dumpRateBps := 128000
  routineRateBps := 16000
  defaultMinDumpEl := 5
  maskDeg := 5
  altitudeKm := 450

theorem placed_plan : Placed planHost plan where
  duration := by decide +kernel
  parses := by
    intro a ha
    rcases mem_pair.mp ha with rfl | rfl
    · exact ⟨1767225600, rfl⟩
    · exact ⟨1767225660, rfl⟩
  hkRate := by decide +kernel
  dumpRate := by decide +kernel
  routineRate := by decide +kernel
  stationRate := by
    intro gsName rate hrate
    cases hrate
  storage := by decide +kernel

theorem conserves_plan : Conserves planHost plan :=
  conserves
    { placed_plan with
      volume := by decide +kernel
      initial := by decide +kernel
      overhead := by decide +kernel }

/-- A negative volume counts as planned and is never produced; a negative fill starts below zero;
an overhead over one makes capacities negative, and a dump puts data onboard. -/
theorem placed_not_conserves :
    (Placed planHost { plan with schedule := [{ imaging with dataVolumeMb := -1 }] } ∧
      ¬ Conserves planHost { plan with schedule := [{ imaging with dataVolumeMb := -1 }] }) ∧
    (Placed planHost { plan with initialOnboardMb := -1 } ∧
      ¬ Conserves planHost { plan with initialOnboardMb := -1 }) ∧
    Placed planHost { plan with overhead := 2 } ∧
      ¬ Conserves planHost { plan with overhead := 2 } := by
  refine ⟨⟨?_, ?_⟩, ⟨?_, ?_⟩, ?_, ?_⟩
  · refine { placed_plan with duration := ?_, parses := ?_ }
    · decide +kernel
    · intro a ha
      obtain rfl := List.mem_singleton.mp ha
      exact ⟨1767225600, rfl⟩
  · intro h
    have hbalance := h.balance
    revert hbalance
    decide +kernel
  · exact { placed_plan with storage := by decide +kernel }
  · intro h
    have hwithin := h.within 0
    revert hwithin
    decide +kernel
  · exact { placed_plan with }
  · intro h
    have hpasses := h.passes
    revert hpasses
    decide +kernel

end BudgetTracker

end DataBudget
