import MissionSim.Slots
import MissionSim.TelemetryDataset

/-!
# Pairing alarms with their clears

The transitions of a period are walked in order: an entry of sufficient severity is kept under the
key of its monitor, and a clear takes what is kept under its key.  The key is the identifier of the
monitor, or that of the parameter in the short form.

There is one place for each key.  So no alarm is lost exactly if every entry is followed, among the
transitions of its key, by a clear of the same monitor (`alarmPairs_loses_none_iff`): a second entry
takes the place of the first, and a key that two monitors share pairs one with the other.
-/

namespace Reporting

open Python Slots List

/-! ### The pairing -/

namespace Transition

/-- `tr.get("mon_id", tr["param_id"])`. -/
def key (tr : Transition) : Nat :=
  match tr.monitor with
  | some m => m.monId
  | none => tr.paramId

/-- `tr.get("severity", 2)`. -/
def severity (tr : Transition) : Nat :=
  match tr.monitor with
  | some m => m.severity
  | none => 2

/-- The monitor a transition is of: that of the long form, or else the one of the parameter. -/
def source (tr : Transition) : Nat ⊕ Nat :=
  match tr.monitor with
  | some m => .inl m.monId
  | none => .inr tr.paramId

/-- One monitor has one key. -/
theorem key_eq_of_source_eq {a b : Transition} (h : a.source = b.source) : a.key = b.key := by
  unfold source at h
  unfold key
  cases ha : a.monitor with
  | some m =>
      cases hb : b.monitor with
      | some m' =>
          rw [ha, hb] at h
          exact Sum.inl.inj h
      | none =>
          rw [ha, hb] at h
          cases h
  | none =>
      cases hb : b.monitor with
      | some m =>
          rw [ha, hb] at h
          cases h
      | none =>
          rw [ha, hb] at h
          exact Sum.inr.inj h

/-- An entry whose severity reaches the minimum. -/
def Reaches (severityMin : Nat) (tr : Transition) : Prop :=
  tr.entered = true ∧ severityMin ≤ tr.severity

instance (severityMin : Nat) (tr : Transition) : Decidable (tr.Reaches severityMin) :=
  inferInstanceAs (Decidable (_ ∧ _))

end Transition

/-- `open_by_key` and `paired`, an entry with its clear. -/
structure Pairing where
  openByKey : Dict Nat Transition := Dict.empty
  paired : List (Transition × Transition) := []

/-- One transition in `alarm_pairs`. -/
def pairStep (severityMin : Nat) (s : Pairing) (tr : Transition) : Pairing :=
  if tr.entered then
    if tr.severity < severityMin then s
    else { s with openByKey := s.openByKey.set tr.key tr }
  else
    match s.openByKey.get? tr.key with
    | some entry =>
        { openByKey := s.openByKey.erase tr.key, paired := s.paired ++ [(entry, tr)] }
    | none => s

/-- The transitions of a period. -/
def transitionsIn (ds : TelemetryDataset) (period : Period) : List Transition :=
  ds.s12Transitions.filter fun tr => period.contains tr.t

def pairAll (severityMin : Nat) (trans : List Transition) : Pairing :=
  trans.foldl (pairStep severityMin) {}

/-- A row of `alarm_pairs`; the last two are of a paired one. -/
structure AlarmRow where
  paramId : Nat
  paramName : String
  monitor : Option MonitorFields
  value : Binary32.FloatValue
  enteredUtc : String
  timeEstimated : Bool
  clearedUtc : Option String := none
  durationS : Option ℚ := none
deriving DecidableEq

def unpairedRow (host : Host) (catalogs : Catalogs) (entry : Transition) : AlarmRow where
  paramId := entry.paramId
  paramName := catalogs.paramName entry.paramId
  monitor := entry.monitor
  value := entry.value
  enteredUtc := host.utc entry.t
  timeEstimated := entry.timeEstimated

def pairedRow (host : Host) (catalogs : Catalogs) (p : Transition × Transition) : AlarmRow :=
  { unpairedRow host catalogs p.1 with
    timeEstimated := p.1.timeEstimated || p.2.timeEstimated
    clearedUtc := some (host.utc p.2.t)
    durationS := some (host.round 1 (p.2.t - p.1.t)) }

structure AlarmPairs where
  paired : List AlarmRow
  unpaired : List AlarmRow
  total : Nat

/-- Pair S12 limit entries with their clears; call out the unpaired. -/
def alarmPairs (host : Host) (ds : TelemetryDataset) (period : Period) (catalogs : Catalogs)
    (severityMin : Nat) : AlarmPairs :=
  let trans := transitionsIn ds period
  let s := pairAll severityMin trans
  { paired := s.paired.map (pairedRow host catalogs)
    unpaired := s.openByKey.values.map (unpairedRow host catalogs)
    total := trans.length }

/-! ### One slot for each key -/

/-- What a transition does to the slot of its key. -/
def roleOf (severityMin : Nat) (tr : Transition) : Role :=
  if tr.entered then if tr.severity < severityMin then .nothing else .opens else .closes

theorem roleOf_opens {severityMin : Nat} {tr : Transition} :
    roleOf severityMin tr = .opens ↔ tr.Reaches severityMin := by
  unfold roleOf Transition.Reaches
  split_ifs with h hlow
  · simp [h, hlow]
  · simp [h, not_lt.mp hlow]
  · simp [h]

theorem roleOf_closes {severityMin : Nat} {tr : Transition} :
    roleOf severityMin tr = .closes ↔ tr.entered = false := by
  unfold roleOf
  split_ifs with h hlow
  · simp [h]
  · simp [h]
  · simp [h]

/-- The loop of the source as a run over slots. -/
theorem pairAll_eq (severityMin : Nat) (trans : List Transition) :
    pairAll severityMin trans =
      { openByKey := (run (roleOf severityMin) Transition.key trans).slots
        paired := (run (roleOf severityMin) Transition.key trans).paired } := by
  induction trans using reverseRecOn with
  | nil => rfl
  | append_singleton trans tr ih =>
      have hstep : pairAll severityMin (trans ++ [tr]) =
          pairStep severityMin (pairAll severityMin trans) tr := foldl_concat ..
      rw [hstep, ih, run_concat]
      unfold pairStep
      cases hrole : roleOf severityMin tr with
      | opens =>
          have h := roleOf_opens.mp hrole
          rw [step_opens hrole, if_pos h.1, if_neg (not_lt.mpr h.2)]
      | closes =>
          have h := roleOf_closes.mp hrole
          rw [if_neg (by simp [h])]
          cases hget : (run (roleOf severityMin) Transition.key trans).slots.get? tr.key with
          | some e => rw [step_closes hrole hget]
          | none => rw [step_closes_none hrole hget]
      | nothing =>
          unfold roleOf at hrole
          split_ifs at hrole with h hlow
          rw [step_nothing (by simp [roleOf, h, hlow]), if_pos h, if_pos hlow]

/-! ### What must not be lost -/

/-- A transition and its position in the period, which tells equal ones apart. -/
abbrev Numbered := Transition × Nat

/-- The entry came before, and no transition before this one closed it. -/
def OpenAt (paired : List (Numbered × Numbered)) (e x : Numbered) : Prop :=
  e.2 < x.2 ∧ ∀ y, (e, y) ∈ paired → x.2 ≤ y.2

/-- The clear may close the entry: it is open, and of the same monitor. -/
structure MayClose (severityMin : Nat) (trans : List Numbered) (paired : List (Numbered × Numbered))
    (e x : Numbered) : Prop where
  entry_mem : e ∈ trans
  reaches : e.1.Reaches severityMin
  clear_mem : x ∈ trans
  clears : x.1.entered = false
  same : e.1.source = x.1.source
  isOpen : OpenAt paired e x

/-- Every entry that reaches the minimum is paired or unpaired, exactly once; a clear closes at most
one entry; and it closes the latest open entry of the same monitor. -/
structure LosesNone (severityMin : Nat) (trans : List Numbered) (paired : List (Numbered × Numbered))
    (unpaired : List Numbered) : Prop where
  once : (paired.map Prod.fst ++ unpaired).Perm
    (trans.filter fun x => x.1.Reaches severityMin)
  closes_one : (paired.map Prod.snd).Nodup
  closes_latest : ∀ e x, (e, x) ∈ paired ↔
    MayClose severityMin trans paired e x ∧
      ∀ e', MayClose severityMin trans paired e' x → e'.2 ≤ e.2

/-- Of the transitions with the key of an entry that reaches the minimum, the next one that counts is
a clear of the same monitor. -/
def NextClears (severityMin : Nat) (trans : List Transition) : Prop :=
  ∀ pre e mid x post, trans = pre ++ e :: (mid ++ x :: post) → e.Reaches severityMin →
    (∀ y ∈ mid, y.key = e.key → y.entered = true ∧ ¬ y.Reaches severityMin) → x.key = e.key →
    (x.Reaches severityMin ∨ x.entered = false) → x.entered = false ∧ x.source = e.source

/-! ### When none is lost -/

/-- The pairing with positions. -/
def numberedRun (severityMin : Nat) (zs : List Numbered) : State Nat Numbered :=
  run (fun x => roleOf severityMin x.1) (fun x => x.1.key) zs

theorem numberedRun_map (severityMin : Nat) (zs : List Numbered) :
    run (roleOf severityMin) Transition.key (zs.map Prod.fst) =
      (numberedRun severityMin zs).map Prod.fst :=
  run_map (f := Prod.fst) (fun _ => rfl) (fun _ => rfl) zs

variable {severityMin : Nat} {zs pre post : List Numbered} {e x : Numbered}

theorem pairwise_zipIdx (trans : List Transition) :
    trans.zipIdx.Pairwise fun a b => a.2 < b.2 := by
  have h : (trans.zipIdx.map Prod.snd).Pairwise (· < ·) := by
    rw [zipIdx_map_snd]
    exact pairwise_lt_range' ..
  exact pairwise_map.mp h

/-- What has a lower position comes before. -/
theorem mem_pre_iff (h : (pre ++ x :: post).Pairwise fun a b => a.2 < b.2) :
    e ∈ pre ↔ e ∈ pre ++ x :: post ∧ e.2 < x.2 := by
  have hparts := pairwise_append.mp h
  constructor
  · intro hmem
    exact ⟨mem_append_left _ hmem, hparts.2.2 e hmem x mem_cons_self⟩
  · rintro ⟨hmem, hlt⟩
    rcases mem_append.mp hmem with hpre | hpost
    · exact hpre
    · rcases mem_cons.mp hpost with rfl | hpost
      · exact absurd hlt (lt_irrefl e.2)
      · have hgt := (pairwise_cons.mp hparts.2.1).1 e hpost
        exact absurd hlt (not_lt.mpr hgt.le)

/-- An entry is open when a transition comes if it came before and is not paired by then. -/
theorem openAt_iff (h : (pre ++ x :: post).Pairwise fun a b => a.2 < b.2)
    (hmem : e ∈ pre ++ x :: post) :
    OpenAt (numberedRun severityMin (pre ++ x :: post)).paired e x ↔
      e ∈ pre ∧ ∀ y, (e, y) ∉ (numberedRun severityMin pre).paired := by
  constructor
  · intro hopen
    refine ⟨(mem_pre_iff h).mpr ⟨hmem, hopen.1⟩, fun y hy => ?_⟩
    have hypre : y ∈ pre := by
      obtain ⟨a, b, hcut, _⟩ := mem_paired_run.mp hy
      rw [hcut]
      exact mem_append_right a mem_cons_self
    have hle := hopen.2 y (mem_paired_append.1 hy)
    exact absurd ((mem_pre_iff h).mp hypre).2 (not_lt.mpr hle)
  · rintro ⟨hpre, hnone⟩
    refine ⟨((mem_pre_iff h).mp hpre).2, fun y hy => ?_⟩
    rcases mem_paired_append.2 hy with hold | hlater
    · exact absurd hold (hnone y)
    · by_contra hlt
      have hmem' : y ∈ pre ++ x :: post := mem_append_right pre hlater
      have hypre : y ∈ pre := (mem_pre_iff h).mpr ⟨hmem', not_le.mp hlt⟩
      have hdisjoint := (pairwise_append.mp h).2.2 y hypre y hlater
      exact absurd hdisjoint (lt_irrefl y.2)

/-- The entry whose slot a transition meets, with nothing of its key that counts in between. -/
theorem cut_of_get? {k : Nat} (h : (numberedRun severityMin pre).slots.get? k = some e) :
    ∃ a mid, pre = a ++ e :: mid ∧ e.1.Reaches severityMin ∧ e.1.key = k ∧
      ∀ y ∈ mid.map Prod.fst, y.key = e.1.key → y.entered = true ∧ ¬ y.Reaches severityMin := by
  obtain ⟨a, mid, hcut, hopens, hkey, hmid⟩ := get?_run_iff.mp h
  refine ⟨a, mid, hcut, roleOf_opens.mp hopens, hkey, fun y hy hykey => ?_⟩
  obtain ⟨z, hz, rfl⟩ := mem_map.mp hy
  have hnothing := hmid z hz (hykey.trans hkey)
  constructor
  · by_contra hclear
    have hcloses : roleOf severityMin z.1 = .closes :=
      roleOf_closes.mpr (Bool.eq_false_of_not_eq_true hclear)
    rw [hnothing] at hcloses
    cases hcloses
  · intro hreaches
    have hopens' := roleOf_opens.mpr hreaches
    rw [hnothing] at hopens'
    cases hopens'

/-- A counting transition that meets an entry in its slot is a clear of the same monitor. -/
theorem NextClears.meets (h : NextClears severityMin ((pre ++ x :: post).map Prod.fst))
    (hget : (numberedRun severityMin pre).slots.get? x.1.key = some e)
    (hcounts : x.1.Reaches severityMin ∨ x.1.entered = false) :
    x.1.entered = false ∧ x.1.source = e.1.source := by
  obtain ⟨a, mid, rfl, hreaches, hkey, hmid⟩ := cut_of_get? hget
  exact h (a.map Prod.fst) e.1 (mid.map Prod.fst) x.1 (post.map Prod.fst) (by simp) hreaches hmid
    hkey.symm hcounts

theorem NextClears.fresh (h : NextClears severityMin (zs.map Prod.fst)) :
    Fresh (fun x : Numbered => roleOf severityMin x.1) (fun x => x.1.key) zs := by
  rintro pre x post rfl hopens
  have hreaches := roleOf_opens.mp hopens
  cases hget : (numberedRun severityMin pre).slots.get? x.1.key with
  | none => exact hget
  | some e =>
      have hclear := (h.meets hget (Or.inl hreaches)).1
      rw [hreaches.1] at hclear
      cases hclear

theorem opened_eq_filter (zs : List Numbered) :
    opened (fun x : Numbered => roleOf severityMin x.1) zs =
      zs.filter fun x => x.1.Reaches severityMin := by
  apply filter_congr
  intro x _
  exact decide_eq_decide.mpr roleOf_opens

/-- **No alarm is lost if the next transition of the key of every entry is a clear of its monitor.** -/
theorem NextClears.losesNone (h : NextClears severityMin (zs.map Prod.fst))
    (horder : zs.Pairwise fun a b => a.2 < b.2) :
    LosesNone severityMin zs (numberedRun severityMin zs).paired
      (numberedRun severityMin zs).slots.values := by
  have hnodup : zs.Nodup := horder.imp fun hlt heq => absurd (heq ▸ hlt) (lt_irrefl _)
  have hfresh := h.fresh
  exact {
    once := by
      have hperm := perm_opened hfresh
      rwa [opened_eq_filter] at hperm
    closes_one := (hnodup.filter _).sublist (map_snd_paired_sublist zs)
    closes_latest := by
      intro e x
      constructor
      · intro hpaired
        obtain ⟨pre, post, rfl, hcloses, hget⟩ := mem_paired_run.mp hpaired
        have hclear := roleOf_closes.mp hcloses
        obtain ⟨a, mid, hcut, hreaches, hkey, -⟩ := cut_of_get? hget
        have hepre : e ∈ pre := hcut ▸ mem_append_right a mem_cons_self
        have hprefresh : Fresh _ _ pre := hfresh.prefix
        have hprenodup := (nodup_append.mp hnodup).1
        refine ⟨{
          entry_mem := mem_append_left _ hepre
          reaches := hreaches
          clear_mem := mem_append_right pre mem_cons_self
          clears := hclear
          same := (h.meets hget (Or.inr hclear)).2.symm
          isOpen := (openAt_iff horder (mem_append_left _ hepre)).mpr
            ⟨hepre, not_paired_of_get? hprefresh hprenodup hget⟩ }, fun e' he' => ?_⟩
        have hopen := (openAt_iff horder he'.entry_mem).mp he'.isOpen
        have hget' := get?_of_not_paired hprefresh hopen.1 (roleOf_opens.mpr he'.reaches) hopen.2
        rw [Transition.key_eq_of_source_eq he'.same] at hget'
        have heq : e = e' := Option.some.inj (hget.symm.trans hget')
        exact heq ▸ le_rfl
      · rintro ⟨hmay, _⟩
        obtain ⟨pre, post, rfl⟩ := append_of_mem hmay.clear_mem
        have hopen := (openAt_iff horder hmay.entry_mem).mp hmay.isOpen
        have hprefresh : Fresh _ _ pre := hfresh.prefix
        have hget := get?_of_not_paired hprefresh hopen.1 (roleOf_opens.mpr hmay.reaches) hopen.2
        rw [Transition.key_eq_of_source_eq hmay.same] at hget
        exact mem_paired_run.mpr ⟨pre, post, rfl, roleOf_closes.mpr hmay.clears, hget⟩ }

/-- A second entry is lost, and a clear of another monitor closes what it should not. -/
theorem LosesNone.nextClears
    (h : LosesNone severityMin zs (numberedRun severityMin zs).paired
      (numberedRun severityMin zs).slots.values) : NextClears severityMin (zs.map Prod.fst) := by
  have hfresh : Fresh (fun x : Numbered => roleOf severityMin x.1) (fun x => x.1.key) zs := by
    apply fresh_of_perm
    rw [opened_eq_filter]
    exact h.once
  intro pre e mid x post hcut hreaches hmid hkey hcounts
  obtain ⟨pre, _, rfl, rfl, hfrom⟩ := map_eq_append_iff.mp hcut
  obtain ⟨e, _, rfl, rfl, hafter⟩ := map_eq_cons_iff.mp hfrom
  obtain ⟨mid, _, rfl, rfl, hrest⟩ := map_eq_append_iff.mp hafter
  obtain ⟨x, post, rfl, rfl, rfl⟩ := map_eq_cons_iff.mp hrest
  have hget : (numberedRun severityMin (pre ++ e :: mid)).slots.get? x.1.key = some e := by
    apply get?_run_iff.mpr
    refine ⟨pre, mid, rfl, roleOf_opens.mpr hreaches, hkey.symm, fun y hy hykey => ?_⟩
    have hskip := hmid y.1 (mem_map_of_mem hy) (hykey.trans hkey)
    have hlow : y.1.severity < severityMin := not_le.mp fun hle => hskip.2 ⟨hskip.1, hle⟩
    simp [roleOf, hskip.1, hlow]
  have hsplit : pre ++ e :: (mid ++ x :: post) = (pre ++ e :: mid) ++ x :: post := by simp
  rcases hcounts with hopens | hclear
  · have hnone := hfresh (pre ++ e :: mid) x post hsplit (roleOf_opens.mpr hopens)
    exact absurd (hget.symm.trans hnone) (Option.some_ne_none e)
  · have hpaired : (e, x) ∈ (numberedRun severityMin (pre ++ e :: (mid ++ x :: post))).paired :=
      mem_paired_run.mpr ⟨pre ++ e :: mid, post, hsplit, roleOf_closes.mpr hclear, hget⟩
    exact ⟨hclear, ((h.closes_latest e x).mp hpaired).1.same.symm⟩

/-- **No alarm of a period is lost if and only if** every entry that reaches the minimum is followed,
among the transitions with its key that count, by a clear of the same monitor.  The rows are those of
the transitions with their positions. -/
theorem alarmPairs_loses_none_iff (host : Host) (ds : TelemetryDataset) (period : Period)
    (catalogs : Catalogs) (severityMin : Nat) :
    let zs := (transitionsIn ds period).zipIdx
    let s := numberedRun severityMin zs
    ((alarmPairs host ds period catalogs severityMin).paired =
        s.paired.map (fun p => pairedRow host catalogs (p.1.1, p.2.1)) ∧
      (alarmPairs host ds period catalogs severityMin).unpaired =
        s.slots.values.map (fun e => unpairedRow host catalogs e.1)) ∧
      (LosesNone severityMin zs s.paired s.slots.values ↔
        NextClears severityMin (transitionsIn ds period)) := by
  intro zs s
  have hnames : zs.map Prod.fst = transitionsIn ds period := List.zipIdx_map_fst ..
  have hpairs := pairAll_eq severityMin (transitionsIn ds period)
  rw [← hnames, numberedRun_map] at hpairs
  refine ⟨⟨?_, ?_⟩, ⟨fun h => ?_, fun h => ?_⟩⟩
  · show (pairAll severityMin (transitionsIn ds period)).paired.map (pairedRow host catalogs) = _
    rw [← hnames, hpairs]
    exact List.map_map
  · show (pairAll severityMin (transitionsIn ds period)).openByKey.values.map
      (unpairedRow host catalogs) = _
    rw [← hnames, hpairs]
    show ((s.slots.items.map fun item => (item.1, item.2.1)).map Prod.snd).map _ =
      (s.slots.items.map Prod.snd).map _
    rw [List.map_map, List.map_map, List.map_map]
    rfl
  · rw [← hnames]
    exact h.nextClears
  · rw [← hnames] at h
    exact h.losesNone (pairwise_zipIdx _)

/-- Two entries of one parameter, as after a lost clear, and then a clear. -/
def repeatedEntry : TelemetryDataset where
  s12Transitions := [
    { t := 1, paramId := 257, value := .finite false 0 0, entered := true },
    { t := 2, paramId := 257, value := .finite false 0 0, entered := true },
    { t := 3, paramId := 257, value := .finite false 0 0, entered := false }]

/-- The first of two entries is in neither list. -/
theorem alarmPairs_loses_repeated :
    ¬ LosesNone 1 (transitionsIn repeatedEntry { startCuc := 0, endCuc := 10 }).zipIdx
      (numberedRun 1 (transitionsIn repeatedEntry { startCuc := 0, endCuc := 10 }).zipIdx).paired
      (numberedRun 1
        (transitionsIn repeatedEntry { startCuc := 0, endCuc := 10 }).zipIdx).slots.values := by
  intro h
  have hlength := h.once.length_eq
  revert hlength
  decide +kernel

end Reporting
