import MissionSim.PowerBudget
import MissionSim.Stretches

/-!
# What the power budget accounts for

The walk takes the base load over every gap and every pass, and the activities over the passes.
Where the passes keep apart, gaps and passes hold every instant from the first AOS to the last LOS
once; where they overlap, some instant is taken twice.  An activity is taken for what it draws within
the passes alone.
-/

namespace Planner

open Python Timelines

variable {K : Type} [Field K] [LinearOrder K]

/-! ### A battery -/

/-- The level of a battery after a net gain, filled at most and emptied at most. -/
def charge (capacity level net : K) : K := max 0 (min capacity (level + net))

/-- A level that a battery can have. -/
def InBattery (capacity level : K) : Prop := 0 ≤ level ∧ level ≤ capacity

instance (capacity level : K) : Decidable (InBattery capacity level) :=
  inferInstanceAs (Decidable (_ ∧ _))

/-- A battery that takes the net gain of a gap and of the pass after it in turn spills nothing and
runs dry over no gap. -/
def Fits (capacity : K) : K → List (K × K) → Prop
  | _, [] => True
  | level, (gap, pass) :: rest =>
      InBattery capacity (level + gap) ∧ Fits capacity (charge capacity (level + gap) pass) rest

instance decidableFits (capacity : K) :
    (level : K) → (nets : List (K × K)) → Decidable (Fits capacity level nets)
  | _, [] => .isTrue trivial
  | level, (gap, pass) :: rest =>
      have := decidableFits capacity (charge capacity (level + gap) pass) rest
      inferInstanceAs (Decidable (_ ∧ _))

theorem inBattery_clamp {capacity : K} (h : 0 ≤ capacity) (level : K) :
    InBattery capacity (max 0 (min capacity level)) :=
  ⟨le_max_left _ _, max_le h (min_le_left _ _)⟩

variable (host : Host K)

/-! ### Windows -/

/-- The moments of a contact. -/
structure Window (K : Type) where
  aos : Moment K
  los : Moment K

/-- The interval of a window. -/
def Window.interval (w : Window K) : K × K := (w.aos.time, w.los.time)

/-- The window of a contact, if both its times can be read. -/
def windowOf (c : DataBudget.Contact K) : Option (Window K) :=
  (host.moment c.aos).bind fun aos => (host.moment c.los).map fun los => { aos := aos, los := los }

/-- A contact is a window, and its duration the length of it. -/
structure Times (c : DataBudget.Contact K) (w : Window K) : Prop where
  aos : host.moment c.aos = some w.aos
  los : host.moment c.los = some w.los
  lt : w.aos.time < w.los.time
  duration : c.durationS = w.los.time - w.aos.time

namespace PowerTracker

variable (t : PowerTracker K)

/-- The windows of the contacts. -/
def windows : List (Window K) := t.contacts.filterMap (windowOf host)

/-- The intervals of the windows. -/
def intervals : List (K × K) := (t.windows host).map Window.interval

/-- From the first AOS to the last LOS. -/
def span : K × K :=
  match t.intervals host with
  | [] => (0, 0)
  | w :: rest => (w.1, latest w.1 (w :: rest))

/-- The contacts are what `contact_windows` computes, in order of AOS. -/
structure Windows : Prop where
  times : ∀ c ∈ t.contacts, ∃ w, Times host c w
  sorted : ((t.intervals host).map Prod.fst).Pairwise (· ≤ ·)

/-! ### What is to hold -/

/-- **Every instant and every activity is accounted for once.** -/
structure Accounts : Prop where
  computes : (t.computePowerBudget host).isSome
  instants : ∀ x, Contains (t.span host) x →
    (stretches (t.span host).1 (t.intervals host)).countP (fun s => Contains s x) = 1
  activities : ∀ a ∈ t.schedule, a.live → a.powerW ≠ 0 →
    ∀ start, host.moment a.startTime = some start →
      ∀ x, Contains (start.time, start.time + a.durationS) x → Contains (t.span host) x →
        (t.intervals host).countP (fun s => Contains s x) = 1
  total : (t.walk host t.contacts.zipIdx).totalDrain =
    basePowerW * (length (t.span host) / 3600) +
      (t.schedule.map (activityEnergy host (t.span host))).sum
  carried : ∀ done c rest, t.contacts.zipIdx = done ++ c :: rest →
    (∀ aos, host.moment c.1.aos = some aos →
      InBattery t.batteryWh (t.gap host (t.walk host done) aos).socWh) ∧
    InBattery t.batteryWh (t.walk host (done ++ [c])).socWh

/-- What the battery gains over the gap before a pass. -/
def gapNet (prev aos : Moment K) : K :=
  if prev.time < aos.time then
    (t.balance host (aos.time - prev.time) prev aos).2 -
      (t.balance host (aos.time - prev.time) prev aos).1
  else 0

/-- What the battery gains over a pass. -/
def passNet (w : Window K) : K :=
  (t.balance host (w.los.time - w.aos.time) w.aos w.los).2 -
    ((t.balance host (w.los.time - w.aos.time) w.aos w.los).1 +
      t.activityPowerDuring host w.aos w.los)

/-- What the battery gains over every gap and the pass after it. -/
def nets : Moment K → List (Window K) → List (K × K)
  | _, [] => []
  | prev, w :: rest => (t.gapNet host prev w.aos, t.passNet host w) :: nets w.los rest

/-- The passes keep apart, no activity draws between them, and a battery that starts at the initial
level neither spills nor runs dry between them.  Nothing is gained before the first pass, so that the
initial level is one that the battery can have. -/
structure Accountable : Prop where
  apart : Apart (t.intervals host)
  idle : ∀ a ∈ t.schedule, a.live → a.powerW ≠ 0 →
    ∀ start, host.moment a.startTime = some start →
      ∀ gap ∈ gapsBefore (t.span host).1 (t.intervals host),
        overlap start.time (start.time + a.durationS) gap = 0
  battery : ∀ first rest, t.windows host = first :: rest →
    0 < t.batteryWh ∧
      Fits t.batteryWh (t.batteryWh * (t.initialSoc / 100)) (t.nets host first.aos (first :: rest))

/-! ### The walk -/

variable {host t}

/-- The base load over an interval. -/
def baseEnergy (interval : K × K) : K := basePowerW * (length interval / 3600)

theorem balance_drained (durationS : K) (start stop : Moment K) :
    (t.balance host durationS start stop).1 = basePowerW * (durationS / 3600) := by
  unfold balance energyBalance
  ring

variable {prev : Moment K} {w : Walk K}

theorem gap_socWh (hprev : w.prevTime = some prev) (aos : Moment K) :
    (t.gap host w aos).socWh = w.socWh + t.gapNet host prev aos := by
  unfold gap gapNet
  rw [hprev]
  by_cases hlt : prev.time < aos.time
  · simp only [if_pos hlt, spend]
    ring
  · simp only [if_neg hlt, add_zero]

theorem gap_totalDrain (hprev : w.prevTime = some prev) (aos : Moment K) :
    (t.gap host w aos).totalDrain =
      w.totalDrain + ((gapTo prev.time aos.time).map baseEnergy).sum := by
  unfold gap gapTo
  rw [hprev]
  by_cases hlt : prev.time < aos.time
  · simp only [if_pos hlt, spend, balance_drained, List.map_cons, List.map_nil, List.sum_cons,
      List.sum_nil, add_zero]
    rfl
  · simp only [if_neg hlt, List.map_nil, List.sum_nil, add_zero]

/-- **One contact of the walk.** -/
theorem step_times [IsStrictOrderedRing K] {c : DataBudget.Contact K} {v : Window K}
    (hc : Times host c v) (n : Nat) (hprev : w.prevTime = some prev) :
    (t.step host w (c, n)).prevTime = some v.los ∧
      (t.step host w (c, n)).socWh =
        charge t.batteryWh (w.socWh + t.gapNet host prev v.aos) (t.passNet host v) ∧
      (t.step host w (c, n)).totalDrain =
        w.totalDrain + ((gapTo prev.time v.aos.time).map baseEnergy).sum +
          (baseEnergy v.interval + t.activityPowerDuring host v.aos v.los) := by
  have hpos : 0 < v.los.time - v.aos.time := sub_pos.mpr hc.lt
  have hstep : t.step host w (c, n) = t.report host c n v.los (t.gap host w v.aos)
      (t.settle (t.pass host c.durationS v.aos v.los (t.gap host w v.aos))) := by
    unfold step
    rw [hc.aos, hc.los]
  rw [hstep]
  refine ⟨rfl, ?_, ?_⟩
  · simp only [report, settle, pass, if_pos hpos, spend, gap_socWh hprev, charge, passNet,
      hc.duration]
    congr 2
    ring
  · simp only [report, settle, pass, if_pos hpos, spend, gap_totalDrain hprev, balance_drained,
      hc.duration]
    rfl

theorem windows_times (h : t.Windows host) :
    List.Forall₂ (Times host) t.contacts (t.windows host) := by
  have hall : ∀ cs : List (DataBudget.Contact K), (∀ c ∈ cs, ∃ w, Times host c w) →
      List.Forall₂ (Times host) cs (cs.filterMap (windowOf host)) := by
    intro cs
    induction cs with
    | nil => exact fun _ => List.Forall₂.nil
    | cons c cs ih =>
        intro hcs
        obtain ⟨w, hw⟩ := hcs c List.mem_cons_self
        have hof : windowOf host c = some w := by
          unfold windowOf
          rw [hw.aos, hw.los]
          rfl
        rw [List.filterMap_cons_some hof]
        exact List.Forall₂.cons hw (ih fun c hc => hcs c (List.mem_cons_of_mem _ hc))
  exact hall t.contacts h.times

/-- **What is drained.**  The walk takes the base load over every gap and pass, and the activities
over the passes. -/
theorem foldl_totalDrain [IsStrictOrderedRing K] {cs : List (DataBudget.Contact K)}
    {ws : List (Window K)} (h : List.Forall₂ (Times host) cs ws) (n : Nat)
    (hprev : w.prevTime = some prev) :
    ((cs.zipIdx n).foldl (t.step host) w).totalDrain =
      w.totalDrain + ((stretches prev.time (ws.map Window.interval)).map baseEnergy).sum +
        (ws.map fun v => t.activityPowerDuring host v.aos v.los).sum := by
  induction h generalizing n w prev with
  | nil => simp [stretches]
  | @cons c v cs ws hc _ ih =>
      obtain ⟨hlos, _, hdrain⟩ := step_times hc n hprev
      rw [List.zipIdx_cons, List.foldl_cons, ih (n + 1) hlos, hdrain, List.map_cons, List.map_cons,
        stretches, List.map_append, List.map_cons, List.sum_append, List.sum_cons, List.sum_cons]
      simp only [Window.interval]
      ring

/-- **What the battery carries.**  The levels of the walk are levels of a battery just if those of
one that is never full or empty over a gap are. -/
theorem carried_iff_fits [IsStrictOrderedRing K] (hcapacity : 0 ≤ t.batteryWh)
    {cs : List (DataBudget.Contact K)} {ws : List (Window K)} (h : List.Forall₂ (Times host) cs ws)
    (n : Nat) (hprev : w.prevTime = some prev) :
    (∀ done c rest, cs.zipIdx n = done ++ c :: rest →
      (∀ aos, host.moment c.1.aos = some aos →
        InBattery t.batteryWh (t.gap host (done.foldl (t.step host) w) aos).socWh) ∧
      InBattery t.batteryWh ((done ++ [c]).foldl (t.step host) w).socWh) ↔
    Fits t.batteryWh w.socWh (t.nets host prev ws) := by
  induction h generalizing n w prev with
  | nil => simp [nets, Fits]
  | @cons c v cs ws hc _ ih =>
      obtain ⟨hlos, hsoc, _⟩ := step_times hc n hprev
      have htail := ih (n + 1) hlos
      rw [hsoc] at htail
      rw [nets, Fits, ← htail, List.zipIdx_cons]
      constructor
      · intro hall
        refine ⟨?_, ?_⟩
        · have hfirst := (hall [] (c, n) _ rfl).1 v.aos hc.aos
          rwa [List.foldl_nil, gap_socWh hprev] at hfirst
        · intro done d rest hsplit
          exact hall ((c, n) :: done) d rest (congrArg ((c, n) :: ·) hsplit)
      · rintro ⟨hfirst, hrest⟩ done d rest hsplit
        rcases List.cons_eq_append_iff.mp hsplit with ⟨rfl, hd⟩ | ⟨done', rfl, htl⟩
        · obtain ⟨rfl, _⟩ := List.cons.inj hd
          refine ⟨fun aos haos => ?_, ?_⟩
          · obtain rfl : v.aos = aos := Option.some.inj (hc.aos.symm.trans haos)
            rw [List.foldl_nil, gap_socWh hprev]
            exact hfirst
          · show InBattery t.batteryWh (t.step host w (c, n)).socWh
            rw [hsoc]
            exact inBattery_clamp hcapacity _
        · exact hrest done' d rest htl

/-! ### The account -/

theorem proper_intervals (h : t.Windows host) : Proper (t.intervals host) := by
  intro i hi
  obtain ⟨v, hv, rfl⟩ := List.mem_map.mp hi
  obtain ⟨c, _, hc⟩ := List.mem_filterMap.mp hv
  obtain ⟨n, hn, rfl⟩ := List.getElem_of_mem hv
  have htimes := (windows_times h).get ((windows_times h).length_eq ▸ hn) hn
  exact htimes.lt

/-- What the walk begins with, where there is a window. -/
theorem begins (h : t.Windows host) {first : Window K} {rest : List (Window K)}
    (hwindows : t.windows host = first :: rest) :
    (t.start host).prevTime = some first.aos ∧
      t.span host = (first.aos.time, latest first.aos.time (t.intervals host)) ∧
        Follow first.aos.time (t.intervals host) := by
  have hintervals : t.intervals host = first.interval :: rest.map Window.interval := by
    unfold intervals
    rw [hwindows, List.map_cons]
  have htimes := windows_times h
  rw [hwindows] at htimes
  obtain ⟨c, cs, hc, _, hcontacts⟩ := List.forall₂_cons_right_iff.mp htimes
  refine ⟨?_, ?_, ?_⟩
  · unfold start
    rw [hcontacts]
    exact hc.aos
  · unfold span
    rw [hintervals]
    rfl
  · have hsorted := h.sorted
    rw [hintervals] at hsorted ⊢
    refine List.pairwise_cons.mpr ⟨fun x hx => ?_, hsorted⟩
    rcases List.mem_cons.mp hx with rfl | hx
    · exact le_rfl
    · exact List.rel_of_pairwise_cons hsorted hx

theorem overlapS_eq [IsStrictOrderedRing K] (start stop : K) (interval : K × K) :
    overlapS start stop interval = overlap start stop interval := by
  unfold overlapS overlap
  rw [min_comm, max_comm interval.1]
  by_cases h : max start interval.1 < min stop interval.2
  · rw [max_eq_right (sub_nonneg.mpr h.le)]
    exact if_pos h
  · rw [max_eq_left (sub_nonpos.mpr (not_lt.mp h))]
    exact if_neg h

theorem additive_activityEnergy [IsStrictOrderedRing K] (a : Activity K) :
    Additive fun i => activityEnergy host i a := by
  intro x y z hxy hyz
  dsimp only [activityEnergy]
  split
  · cases host.moment a.startTime with
    | none => exact add_zero 0
    | some start =>
        simp only [overlapS_eq]
        rw [← additive_overlap _ _ x y z hxy hyz]
        ring
  · exact add_zero 0

theorem additive_activityPower [IsStrictOrderedRing K] (schedule : List (Activity K)) :
    Additive fun i => (schedule.map (activityEnergy host i)).sum := by
  intro x y z hxy hyz
  rw [← List.sum_map_add]
  exact congrArg List.sum (List.map_congr_left fun a _ => additive_activityEnergy a x y z hxy hyz)

theorem additive_baseEnergy [IsStrictOrderedRing K] : Additive (baseEnergy : K × K → K) := by
  intro x y z hxy hyz
  unfold baseEnergy
  rw [← additive_length x y z hxy hyz]
  ring

/-- An activity that does not run in the gaps draws nothing there. -/
theorem gaps_energy [IsStrictOrderedRing K] {from_ : K}
    (hidle : ∀ a ∈ t.schedule, a.live → a.powerW ≠ 0 →
      ∀ start, host.moment a.startTime = some start →
        ∀ gap ∈ gapsBefore from_ (t.intervals host),
          overlap start.time (start.time + a.durationS) gap = 0) :
    ((gapsBefore from_ (t.intervals host)).map
      fun i => (t.schedule.map (activityEnergy host i)).sum).sum = 0 := by
  refine List.sum_eq_zero fun x hx => ?_
  obtain ⟨gap, hgap, rfl⟩ := List.mem_map.mp hx
  refine List.sum_eq_zero fun y hy => ?_
  obtain ⟨a, ha, rfl⟩ := List.mem_map.mp hy
  unfold activityEnergy
  split
  · next hdraws =>
      cases hstart : host.moment a.startTime with
      | none => rfl
      | some start =>
          show a.powerW * (overlapS start.time (start.time + a.durationS) gap / 3600) = 0
          rw [overlapS_eq, hidle a ha hdraws.1 hdraws.2 start hstart gap hgap, zero_div, mul_zero]
  · rfl

/-- **The total.**  What is drained is the base load and the activities of the whole span. -/
theorem totalDrain_span [IsStrictOrderedRing K] (h : t.Windows host) (ha : t.Accountable host)
    {first : Window K} {rest : List (Window K)} (hwindows : t.windows host = first :: rest) :
    (t.walk host t.contacts.zipIdx).totalDrain =
      basePowerW * (length (t.span host) / 3600) +
        (t.schedule.map (activityEnergy host (t.span host))).sum := by
  obtain ⟨hprev, hspan, hfollow⟩ := begins h hwindows
  have hproper := proper_intervals h
  have hpasses : ((t.windows host).map fun v => t.activityPowerDuring host v.aos v.los).sum =
      ((t.intervals host).map fun i => (t.schedule.map (activityEnergy host i)).sum).sum := by
    unfold intervals
    rw [List.map_map]
    rfl
  have hsplit := sum_stretches_split
    (fun i => (t.schedule.map (activityEnergy host i)).sum) first.aos.time (t.intervals host)
  have hidle := ha.idle
  rw [hspan] at hidle
  rw [gaps_energy hidle, zero_add,
    sum_stretches (additive_activityPower t.schedule) ha.apart hproper hfollow] at hsplit
  calc (t.walk host t.contacts.zipIdx).totalDrain
      = 0 + ((stretches first.aos.time (t.intervals host)).map baseEnergy).sum +
          ((t.windows host).map fun v => t.activityPowerDuring host v.aos v.los).sum :=
        foldl_totalDrain (windows_times h) 0 hprev
    _ = _ := by
        rw [zero_add, sum_stretches additive_baseEnergy ha.apart hproper hfollow, hpasses,
          ← hsplit, hspan]
        rfl

/-- The instants of an activity are in the passes just if none is in a gap. -/
theorem counted_iff_idle [IsStrictOrderedRing K] (h : t.Windows host)
    {first : Window K} {rest : List (Window K)} (hwindows : t.windows host = first :: rest)
    (hapart : Apart (t.intervals host)) (a b : K) :
    (∀ x, Contains (a, b) x → Contains (t.span host) x →
      (t.intervals host).countP (fun s => Contains s x) = 1) ↔
    ∀ gap ∈ gapsBefore (t.span host).1 (t.intervals host), overlap a b gap = 0 := by
  obtain ⟨_, hspan, hfollow⟩ := begins h hwindows
  rw [hspan]
  have hcount := fun x => countP_stretches_of_apart (x := x) hapart (proper_intervals h) hfollow
  simp only [countP_stretches] at hcount
  constructor
  · intro hall gap hgap
    refine overlap_eq_zero_iff.mpr fun x hx => ?_
    have hin : 0 < (gapsBefore first.aos.time (t.intervals host)).countP fun s => Contains s x :=
      List.countP_pos_iff.mpr ⟨gap, hgap, decide_eq_true hx.2⟩
    have hx' := hcount x
    by_cases hwithin : Contains (first.aos.time, latest first.aos.time (t.intervals host)) x
    · have hone := hall x hx.1 hwithin
      rw [if_pos hwithin] at hx'
      omega
    · rw [if_neg hwithin] at hx'
      omega
  · intro hall x hx hwithin
    have hnone : ((gapsBefore first.aos.time (t.intervals host)).countP fun s => Contains s x) = 0 :=
      List.countP_eq_zero.mpr fun gap hgap hc =>
        overlap_eq_zero_iff.mp (hall gap hgap) x ⟨hx, of_decide_eq_true hc⟩
    have hx' := hcount x
    rw [if_pos hwithin] at hx'
    omega

/-- A plan without contacts accounts for nothing. -/
theorem accounts_nil [IsStrictOrderedRing K] (hnil : t.contacts = []) :
    t.Accounts host ∧ t.Accountable host := by
  have hwindows : t.windows host = [] := by
    unfold windows
    rw [hnil]
    rfl
  have hintervals : t.intervals host = [] := congrArg (List.map Window.interval) hwindows
  have hspan : t.span host = (0, 0) := by
    unfold span
    rw [hintervals]
  refine ⟨⟨?_, ?_, ?_, ?_, ?_⟩, ⟨?_, ?_, ?_⟩⟩
  · unfold computePowerBudget
    rw [if_pos hnil]
    rfl
  · intro x hx
    rw [hspan] at hx
    exact absurd (hx.1.trans_lt hx.2) (lt_irrefl _)
  · intro a _ _ _ start _ x _ hx
    rw [hspan] at hx
    exact absurd (hx.1.trans_lt hx.2) (lt_irrefl _)
  · rw [hspan, (additive_activityPower t.schedule).self, hnil]
    show (0 : K) = basePowerW * (length (0, 0) / 3600) + 0
    unfold length
    ring
  · intro done c rest hsplit
    rw [hnil] at hsplit
    cases done <;> cases hsplit
  · rw [hintervals]
    exact List.Pairwise.nil
  · intro a _ _ _ start _ gap hgap
    rw [hintervals] at hgap
    cases hgap
  · intro first rest hfirst
    rw [hwindows] at hfirst
    cases hfirst

theorem computes_iff (hcontacts : t.contacts ≠ []) :
    (t.computePowerBudget host).isSome ↔ t.batteryWh ≠ 0 := by
  unfold computePowerBudget
  rw [if_neg hcontacts]
  by_cases hzero : t.batteryWh = 0
  · simp [hzero]
  · simp [hzero]

/-- **The power budget accounts for everything once just where passes keep apart, activities draw
within them alone and the battery fits.** -/
theorem accounts_iff [IsStrictOrderedRing K] (h : t.Windows host) :
    t.Accounts host ↔ t.Accountable host := by
  by_cases hnil : t.contacts = []
  · obtain ⟨haccounts, haccountable⟩ : t.Accounts host ∧ t.Accountable host := accounts_nil hnil
    exact ⟨fun _ => haccountable, fun _ => haccounts⟩
  have hforall := windows_times h
  obtain ⟨c, cs, hcons⟩ := List.exists_cons_of_ne_nil hnil
  obtain ⟨first, rest, _, _, hwindows⟩ := List.forall₂_cons_left_iff.mp (hcons ▸ hforall)
  obtain ⟨hprev, hspan, hfollow⟩ := begins h hwindows
  have hproper := proper_intervals h
  constructor
  · intro ha
    have hapart : Apart (t.intervals host) :=
      apart_of_countP hproper hfollow fun x hx => by
        have hinstant := ha.instants x
        rw [hspan] at hinstant
        exact hinstant hx
    refine ⟨hapart, ?_, ?_⟩
    · intro a hmem hlive hpower start hstart
      exact (counted_iff_idle h hwindows hapart _ _).mp
        (ha.activities a hmem hlive hpower start hstart)
    · intro first' rest' hfirst
      obtain ⟨rfl, rfl⟩ := List.cons.inj (hwindows.symm.trans hfirst)
      have hlevel := (ha.carried [] (c, 0) (cs.zipIdx 1) (by rw [hcons, List.zipIdx_cons]; rfl)).2
      have hcapacity : 0 ≤ t.batteryWh := hlevel.1.trans hlevel.2
      refine ⟨lt_of_le_of_ne hcapacity ((computes_iff hnil).mp ha.computes).symm, ?_⟩
      rw [← hwindows]
      exact (carried_iff_fits hcapacity hforall 0 hprev).mp ha.carried
  · intro ha
    obtain ⟨hcapacity, hfits⟩ := ha.battery first rest hwindows
    rw [← hwindows] at hfits
    refine ⟨(computes_iff hnil).mpr hcapacity.ne', ?_, ?_, totalDrain_span h ha hwindows, ?_⟩
    · intro x hx
      rw [hspan] at hx ⊢
      rw [countP_stretches_of_apart ha.apart hproper hfollow, if_pos hx]
    · intro a hmem hlive hpower start hstart
      exact (counted_iff_idle h hwindows ha.apart _ _).mpr (ha.idle a hmem hlive hpower start hstart)
    · exact (carried_iff_fits hcapacity.le hforall 0 hprev).mpr hfits

end PowerTracker

/-! ### A plan -/

/-- The times of a plan on the first of January 2026, without a ground track. -/
def powerHost : Host ℚ where
  parseIso s := match s with
    | "2026-01-01T00:00:00Z" => some 1767225600
    | "2026-01-01T00:05:00Z" => some 1767225900
    | "2026-01-01T00:07:00Z" => some 1767226020
    | "2026-01-01T00:10:00Z" => some 1767226200
    | "2026-01-01T00:20:00Z" => some 1767226800
    | "2026-01-01T01:00:00Z" => some 1767229200
    | "2026-01-01T01:10:00Z" => some 1767229800
    | _ => none
  lower := id
  cos _ := 8660254037844387 / 10000000000000000
  acos _ := 0
  radians x := x * 314159265358979 / 18000000000000000
  degrees x := x * 18000000000000000 / 314159265358979
  isoformat _ t := toString t.num
  round _ x := x
  fixed _ x := toString x.num
  str x := toString x.num
  trunc x := x.num / x.den
  sqrt x := Nat.sqrt x.num.toNat

/-- A contact of ten minutes. -/
def tenMinutes (aos los : String) : DataBudget.Contact ℚ := ⟨"Iqaluit", aos, los, 600, 30⟩

def capture : Activity ℚ where
  id := 1
  name := "imaging_pass"
  startTime := "2026-01-01T00:05:00Z"
  durationS := 120
  powerW := 75
  dataVolumeMb := 160

/-- Two passes, and an activity over the first. -/
def powerPlan : PowerTracker ℚ where
  contacts := [tenMinutes "2026-01-01T00:00:00Z" "2026-01-01T00:10:00Z",
    tenMinutes "2026-01-01T01:00:00Z" "2026-01-01T01:10:00Z"]
  schedule := [capture]
  groundTrack := []
  initialSoc := 80
  batteryWh := 120

theorem windows_powerPlan : powerPlan.Windows powerHost where
  times := by
    intro c hc
    rcases List.mem_pair.mp hc with rfl | rfl
    · exact ⟨⟨⟨1767225600, _⟩, ⟨1767226200, _⟩⟩, rfl, rfl, by decide +kernel, by decide +kernel⟩
    · exact ⟨⟨⟨1767229200, _⟩, ⟨1767229800, _⟩⟩, rfl, rfl, by decide +kernel, by decide +kernel⟩
  sorted := by decide +kernel

theorem accountable_powerPlan : powerPlan.Accountable powerHost where
  apart := by unfold Apart; decide +kernel
  idle := by
    intro a ha _ _ start hstart gap hgap
    obtain rfl := List.mem_singleton.mp ha
    obtain rfl : (⟨1767225900, _⟩ : Moment ℚ) = start := Option.some.inj hstart
    have hgaps : ∀ gap ∈ gapsBefore (powerPlan.span powerHost).1 (powerPlan.intervals powerHost),
        overlap 1767225900 (1767225900 + 120) gap = 0 := by
      decide +kernel
    exact hgaps gap hgap
  battery := by
    intro first rest hfirst
    obtain ⟨rfl, rfl⟩ := List.cons.inj hfirst
    exact ⟨by decide +kernel, by decide +kernel⟩

theorem accounts_powerPlan : powerPlan.Accounts powerHost :=
  (PowerTracker.accounts_iff windows_powerPlan).mpr accountable_powerPlan

/-- A second station sees the spacecraft before the first has lost it. -/
def overlappingPlan : PowerTracker ℚ :=
  { powerPlan with
    contacts := [tenMinutes "2026-01-01T00:00:00Z" "2026-01-01T00:10:00Z",
      ⟨"Troll", "2026-01-01T00:05:00Z", "2026-01-01T00:20:00Z", 900, 30⟩] }

/-- The activity runs between the passes. -/
def betweenPlan : PowerTracker ℚ :=
  { powerPlan with schedule := [{ capture with startTime := "2026-01-01T00:20:00Z" }] }

/-- An instant of two passes is taken twice, an activity between passes is not taken, and a full
battery is charged further. -/
theorem not_accounts :
    (overlappingPlan.Windows powerHost ∧ ¬ overlappingPlan.Accounts powerHost) ∧
    (betweenPlan.Windows powerHost ∧ ¬ betweenPlan.Accounts powerHost) ∧
    ({ powerPlan with initialSoc := 100 } : PowerTracker ℚ).Windows powerHost ∧
      ¬ ({ powerPlan with initialSoc := 100 } : PowerTracker ℚ).Accounts powerHost := by
  refine ⟨⟨⟨?_, by decide +kernel⟩, ?_⟩, ⟨⟨windows_powerPlan.times, by decide +kernel⟩, ?_⟩,
    ⟨windows_powerPlan.times, windows_powerPlan.sorted⟩, ?_⟩
  · intro c hc
    rcases List.mem_pair.mp hc with rfl | rfl
    · exact ⟨⟨⟨1767225600, _⟩, ⟨1767226200, _⟩⟩, rfl, rfl, by decide +kernel, by decide +kernel⟩
    · exact ⟨⟨⟨1767225900, _⟩, ⟨1767226800, _⟩⟩, rfl, rfl, by decide +kernel, by decide +kernel⟩
  · intro h
    have hinstant := h.instants 1767226000
    revert hinstant
    decide +kernel
  · intro h
    have hcapture := h.activities { capture with startTime := "2026-01-01T00:20:00Z" }
      List.mem_cons_self rfl (by decide +kernel) ⟨1767226800, _⟩ rfl 1767226800
    revert hcapture
    decide +kernel
  · intro h
    have hlevel := (h.carried [(tenMinutes "2026-01-01T00:00:00Z" "2026-01-01T00:10:00Z", 0)]
      (tenMinutes "2026-01-01T01:00:00Z" "2026-01-01T01:10:00Z", 1) [] rfl).1 ⟨1767229200, _⟩ rfl
    revert hlevel
    decide +kernel

end Planner
