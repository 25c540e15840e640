import MissionSim.Checkpoints
import MissionSim.Lockstep

/-!
# What a snapshot leaves behind

A snapshot leaves behind how long the conditions of rules have held, the cascades that are not yet
due, the modes last seen, the intervals of housekeeping and whatever waits in the queues.  Two
engines that agree in all the rest are twins when they read the same of what is left behind; twins
stay twins, step by step, and show the same.

One difference may be there at first: that the one engine has seen a mode of the power subsystem and
the other has not.  It shows when the mode is first found to be another.
-/

namespace Checkpoints

open Octets Binary32 Python Effects FdirRules List
open Obcp (Event)
open Spacecraft (Gate floatOf)

/-! ### Times -/

/-- How long a condition has held. -/
def heldFor (timers : Dict String Rat) (key : String) : Rat := (timers.get? key).getD 0

/-- The same times are read. -/
def SameTimes (timers timers' : Dict String Rat) : Prop :=
  ∀ key, heldFor timers' key = heldFor timers key

theorem SameTimes.refl (timers : Dict String Rat) : SameTimes timers timers := fun _ => rfl

theorem heldFor_set (timers : Dict String Rat) (key other : String) (value : Rat) :
    heldFor (timers.set key value) other = if other = key then value else heldFor timers other := by
  unfold heldFor
  by_cases heq : other = key
  · rw [heq, if_pos rfl, Dict.get?_set_same]
    rfl
  · rw [if_neg heq, Dict.get?_set_ne timers heq]

theorem SameTimes.set {timers timers' : Dict String Rat} (h : SameTimes timers timers')
    (key : String) (value : Rat) : SameTimes (timers.set key value) (timers'.set key value) := by
  intro other
  rw [heldFor_set, heldFor_set, h other]

theorem SameTimes.erase {timers timers' : Dict String Rat} (h : SameTimes timers timers')
    (key : String) : SameTimes (timers.erase key) (timers'.erase key) := by
  intro other
  have hother : (timers'.get? other).getD 0 = (timers.get? other).getD 0 := h other
  unfold heldFor
  rw [Dict.get?_erase, Dict.get?_erase]
  by_cases heq : other = key
  · rw [if_pos heq, if_pos heq]
  · rw [if_neg heq, if_neg heq, hother]

/-! ### The rules read times only -/

variable {timers : Dict String Rat}

/-- A fault rule is judged the same by the same times. -/
theorem judge_sameTimes (rule : FdirRules.Rule) (met : Bool) (r : FdirRules.State)
    (h : SameTimes r.fdirPersist timers) :
    ∃ timers', (judge rule 0 none met { r with fdirPersist := timers }).1 =
        { (judge rule 0 none met r).1 with fdirPersist := timers' } ∧
      SameTimes (judge rule 0 none met r).1.fdirPersist timers' := by
  have hread : (timers.get? rule.key).getD 0 = (r.fdirPersist.get? rule.key).getD 0 := h rule.key
  obtain ⟨timers', hpersist, hsame⟩ : ∃ timers',
      persist rule met timers = ((persist rule met r.fdirPersist).1, timers') ∧
        SameTimes (persist rule met r.fdirPersist).2 timers' := by
    unfold persist
    by_cases hp : 0 < rule.persistS
    · rw [if_pos hp, if_pos hp, hread]
      exact ⟨_, rfl, h.set _ _⟩
    · rw [if_neg hp, if_neg hp]
      exact ⟨timers, rfl, h⟩
  refine ⟨timers', ?_⟩
  unfold judge
  have htriggered : FdirRules.State.triggered { r with fdirPersist := timers } rule =
      r.triggered rule := rfl
  simp only [hpersist, htriggered]
  by_cases hfired : ((persist rule met r.fdirPersist).1 && !r.triggered rule) = true
  · rw [if_pos hfired, if_pos hfired]
    exact ⟨rfl, hsame⟩
  · rw [if_neg hfired, if_neg hfired]
    by_cases hgone : (!(persist rule met r.fdirPersist).1 && r.triggered rule) = true
    · rw [if_pos hgone, if_pos hgone]
      exact ⟨rfl, hsame⟩
    · rw [if_neg hgone, if_neg hgone]
      exact ⟨rfl, hsame⟩

/-- The state of the fault handling with other times. -/
def withTimes (timers : Dict String Rat) (f : Fdir.State) : Fdir.State :=
  { f with faultPersist := timers }

variable (cfg : Fdir.Config)

theorem startRecovery_withTimes (rule : Fdir.FaultPropagationRule) (now : Rat) (f : Fdir.State)
    (timers : Dict String Rat) :
    Fdir.startRecovery cfg rule now (withTimes timers f) =
      withTimes timers (Fdir.startRecovery cfg rule now f) := by
  unfold Fdir.startRecovery
  split_ifs <;> rfl

theorem completeRecovery_withTimes (faultId : String) (f : Fdir.State)
    (timers : Dict String Rat) : Fdir.completeRecovery faultId (withTimes timers f) =
      withTimes timers (Fdir.completeRecovery faultId f) := by
  unfold Fdir.completeRecovery
  have hsame : (withTimes timers f).recoveryStates = f.recoveryStates := rfl
  rw [hsame]
  cases f.recoveryStates.get? faultId with
  | none => rfl
  | some rs =>
      by_cases hcomplete : rs.state = .complete
      · simp only [if_pos hcomplete]
      · simp only [if_neg hcomplete]
        rfl

theorem raiseFault_withTimes (rule : Fdir.FaultPropagationRule) (now : Rat) (value : FloatValue)
    (f : Fdir.State) (timers : Dict String Rat) :
    Fdir.raiseFault cfg rule now value (withTimes timers f) =
      withTimes timers (Fdir.raiseFault cfg rule now value f) := by
  unfold Fdir.raiseFault
  by_cases hnone : rule.recovery = ""
  · simp only [if_pos hnone]
    rfl
  · simp only [if_neg hnone]
    rw [← startRecovery_withTimes]
    rfl

theorem dropFault_withTimes (faultId : String) (f : Fdir.State) (timers : Dict String Rat) :
    Fdir.dropFault faultId (withTimes timers f) = withTimes timers (Fdir.dropFault faultId f) := by
  unfold Fdir.dropFault
  rw [← completeRecovery_withTimes]
  rfl

/-- The times are not written by what follows the filter. -/
theorem raiseFault_times (rule : Fdir.FaultPropagationRule) (now : Rat) (value : FloatValue)
    (f : Fdir.State) : (Fdir.raiseFault cfg rule now value f).faultPersist = f.faultPersist :=
  (congrArg Fdir.State.faultPersist
    (raiseFault_withTimes cfg rule now value f f.faultPersist)).trans rfl

theorem dropFault_times (faultId : String) (f : Fdir.State) :
    (Fdir.dropFault faultId f).faultPersist = f.faultPersist :=
  (congrArg Fdir.State.faultPersist (dropFault_withTimes faultId f f.faultPersist)).trans rfl

/-- A fault is judged the same by the same times. -/
theorem judgeFault_sameTimes (rule : Fdir.FaultPropagationRule) (now dt : Rat) (value : FloatValue)
    (present : Bool) (f : Fdir.State) (h : SameTimes f.faultPersist timers) :
    ∃ timers', Fdir.judge cfg rule now dt value present (withTimes timers f) =
        withTimes timers' (Fdir.judge cfg rule now dt value present f) ∧
      SameTimes (Fdir.judge cfg rule now dt value present f).faultPersist timers' := by
  have hread : (timers.get? rule.faultId).getD 0 = (f.faultPersist.get? rule.faultId).getD 0 :=
    h rule.faultId
  obtain ⟨timers', hpersist, hsame⟩ : ∃ timers',
      Fdir.persist rule dt present (withTimes timers f) =
        ((Fdir.persist rule dt present f).1, timers') ∧
        SameTimes (Fdir.persist rule dt present f).2 timers' := by
    unfold Fdir.persist withTimes
    by_cases hp : 0 < rule.persistS
    · rw [if_pos hp, if_pos hp, hread]
      exact ⟨_, rfl, h.set _ _⟩
    · rw [if_neg hp, if_neg hp]
      exact ⟨timers, rfl, h⟩
  refine ⟨timers', ?_⟩
  unfold Fdir.judge
  simp only [hpersist]
  generalize Fdir.persist rule dt present f = filtered at hsame
  have hwith : ({ withTimes timers f with faultPersist := timers' } : Fdir.State) =
      withTimes timers' { f with faultPersist := filtered.2 } := rfl
  have halready : (withTimes timers f).activeFaults = f.activeFaults := rfl
  rw [hwith, halready]
  split_ifs
  · exact ⟨raiseFault_withTimes cfg rule now value _ timers', by rw [raiseFault_times]; exact hsame⟩
  · exact ⟨dropFault_withTimes rule.faultId _ timers', by rw [dropFault_times]; exact hsame⟩
  · exact ⟨rfl, hsame⟩

/-- A fault's rule does the same with the same times. -/
theorem tickRule_sameTimes (input : Fdir.TickInput) (now : Rat) (rule : Fdir.FaultPropagationRule)
    (f : Fdir.State) (h : SameTimes f.faultPersist timers) :
    (∃ error, Fdir.tickRule cfg input now rule f = .error error ∧
        Fdir.tickRule cfg input now rule (withTimes timers f) = .error error) ∨
      ∃ f' timers', Fdir.tickRule cfg input now rule f = .ok f' ∧
        Fdir.tickRule cfg input now rule (withTimes timers f) = .ok (withTimes timers' f') ∧
        SameTimes f'.faultPersist timers' := by
  unfold Fdir.tickRule
  cases Fdir.faultPreconditionMet cfg input rule with
  | error error => exact Or.inl ⟨error, rfl, rfl⟩
  | ok met =>
      cases met with
      | false => exact Or.inr ⟨_, _, rfl, rfl, h.erase rule.faultId⟩
      | true =>
          cases Fdir.primaryValue cfg input rule with
          | error error => exact Or.inl ⟨error, rfl, rfl⟩
          | ok read =>
              cases read with
              | none => exact Or.inr ⟨f, timers, rfl, rfl, h⟩
              | some value =>
                  simp only
                  cases rule.evaluate value with
                  | error error => exact Or.inl ⟨error, rfl, rfl⟩
                  | ok present =>
                      obtain ⟨timers', hjudge, hsame⟩ :=
                        judgeFault_sameTimes cfg rule now input.dt value present f h
                      refine Or.inr ⟨_, timers', rfl, ?_, hsame⟩
                      exact congrArg Except.ok hjudge

/-! ### Twins -/

variable {P S : Type}

/-- The engine with other times, and another latch of the power subsystem. -/
def Sim.twin (ruleTimes faultTimes : Dict String Rat) (epsMode : Option Int) (s : Sim P) : Sim P :=
  { s with fdirPersist := ruleTimes, faultPersist := faultTimes, prevEpsMode := epsMode }

/-- The latch is the same; or it is empty in the twin, and no mode has been found yet. -/
def EpsAlike (latched : Option Int) (s : Sim P) (epsMode : Option Int) : Prop :=
  epsMode = s.prevEpsMode ∨ epsMode = none ∧ s.prevEpsMode = latched ∧ s.firstEpsMode = none

/-- The engines read the same. -/
def Twins (latched : Option Int) (s t : Sim P) : Prop :=
  ∃ ruleTimes faultTimes epsMode, t = s.twin ruleTimes faultTimes epsMode ∧
    SameTimes s.fdirPersist ruleTimes ∧ SameTimes s.faultPersist faultTimes ∧
    EpsAlike latched s epsMode

/-- The power subsystem was first found in another mode than the latched one, and in none that goes
unreported. -/
def ModeChanged (latched : Option Int) (s : Sim P) : Prop :=
  ∃ mode found, latched = some mode ∧ s.firstEpsMode = some found ∧ found ≠ mode ∧ found ≠ 0

/-- What every step does: a changed mode stays found, and no structure leaves the table. -/
def Onward (latched : Option Int) (s s' : Sim P) : Prop :=
  (ModeChanged latched s → ModeChanged latched s') ∧ s.hk.enabled.keys <+: s'.hk.enabled.keys

instance (latched : Option Int) : Std.Refl (Onward (P := P) latched) :=
  ⟨fun _ => ⟨id, List.prefix_refl _⟩⟩

instance (latched : Option Int) : IsTrans (Sim P) (Onward latched) :=
  ⟨fun _ _ _ h h' => ⟨h'.1 ∘ h.1, h.2.trans h'.2⟩⟩

/-- A step that leaves the table and what was found alone. -/
theorem onward_of_eq {latched : Option Int} {s s' : Sim P}
    (hfound : s'.firstEpsMode = s.firstEpsMode)
    (henabled : s.hk.enabled.keys <+: s'.hk.enabled.keys) : Onward latched s s' := by
  refine ⟨fun hchanged => ?_, henabled⟩
  obtain ⟨mode, found, hlatched, hfirst, hne, hnonzero⟩ := hchanged
  exact ⟨mode, found, hlatched, hfound.trans hfirst, hne, hnonzero⟩

/-- Twins take the program in lockstep, and the program goes onward. -/
structure Steady (latched : Option Int) {α : Type} (x : Prog P α) : Prop where
  lockstep : ∀ s t, Twins latched s t → Lockstep (Twins latched) (ModeChanged latched) x x s t
  onward : Keeps (Onward latched) x

variable {latched : Option Int} {α β : Type}

theorem Steady.carries {x : Prog P α} (h : Steady latched x) :
    Keeps (Carries (ModeChanged latched)) x := h.onward.mono fun _ _ h => h.1

theorem steady_pure (a : α) : Steady latched (pure a : Prog P α) :=
  ⟨fun _ _ h => lockstep_pure a h, keeps_pure a⟩

theorem steady_fromExcept (x : Except PyError α) :
    Steady latched (fromExcept x : Prog P α) :=
  ⟨fun _ _ h => lockstep_fromExcept x h, keeps_fromExcept x⟩

theorem steady_bind {x : Prog P β} {f : β → Prog P α} (hx : Steady latched x)
    (hf : ∀ b, Steady latched (f b)) : Steady latched (x >>= f) := by
  refine ⟨fun s t h => ?_, keeps_bind hx.onward fun b => (hf b).onward⟩
  exact lockstep_bind (hx.lockstep s t h) (fun b s' t' h' => (hf b).lockstep s' t' h')
    fun b => (hf b).carries

theorem steady_ite {c : Prop} [Decidable c] {x y : Prog P α} (hx : Steady latched x)
    (hy : Steady latched y) : Steady latched (if c then x else y) :=
  ⟨fun s t h => lockstep_ite (fun _ => hx.lockstep s t h) fun _ => hy.lockstep s t h,
    keeps_ite (fun _ => hx.onward) fun _ => hy.onward⟩

theorem steady_tryCatch {x : Prog P α} {handle : PyError → Prog P α} (hx : Steady latched x)
    (hhandle : ∀ e, Steady latched (handle e)) : Steady latched (tryCatch x handle) :=
  ⟨fun s t h => lockstep_tryCatch (hx.lockstep s t h)
      (fun e s' t' h' => (hhandle e).lockstep s' t' h') fun e => (hhandle e).carries,
    keeps_tryCatch hx.onward fun e => (hhandle e).onward⟩

theorem steady_forM {γ : Type} {body : γ → Prog P PUnit} (xs : List γ)
    (h : ∀ a, Steady latched (body a)) : Steady latched (xs.forM body) :=
  ⟨fun _ _ hst => lockstep_forM xs (fun a s' t' h' => (h a).lockstep s' t' h')
      (fun a => (h a).carries) hst,
    keeps_forM xs fun a _ => (h a).onward⟩

/-- What reads only what twins share goes on the same way in both. -/
theorem steady_get {f : Sim P → Prog P α}
    (hsame : ∀ s ruleTimes faultTimes epsMode,
      f (s.twin ruleTimes faultTimes epsMode) = f s)
    (h : ∀ s, Steady latched (f s)) : Steady latched (get >>= f) := by
  refine ⟨fun s t hst => ?_, keeps_bind keeps_get fun s => (h s).onward⟩
  obtain ⟨ruleTimes, faultTimes, epsMode, heq, hsame'⟩ := hst
  refine lockstep_get ?_
  rw [heq, hsame]
  exact (h s).lockstep _ _ ⟨ruleTimes, faultTimes, epsMode, rfl, hsame'⟩

/-- A change of what twins share. -/
structure Shared (g : Sim P → Sim P) : Prop where
  twin : ∀ s ruleTimes faultTimes epsMode, g (s.twin ruleTimes faultTimes epsMode) =
    (g s).twin ruleTimes faultTimes epsMode
  fdirPersist : ∀ s, (g s).fdirPersist = s.fdirPersist
  faultPersist : ∀ s, (g s).faultPersist = s.faultPersist
  prevEpsMode : ∀ s, (g s).prevEpsMode = s.prevEpsMode
  firstEpsMode : ∀ s, (g s).firstEpsMode = s.firstEpsMode

theorem Shared.twins {g : Sim P → Sim P} (hg : Shared g) {s t : Sim P} (h : Twins latched s t) :
    Twins latched (g s) (g t) := by
  obtain ⟨ruleTimes, faultTimes, epsMode, heq, hrules, hfaults, heps⟩ := h
  refine ⟨ruleTimes, faultTimes, epsMode, ?_, ?_, ?_, ?_⟩
  · rw [heq, hg.twin]
  · rw [hg.fdirPersist]
    exact hrules
  · rw [hg.faultPersist]
    exact hfaults
  · unfold EpsAlike
    rw [hg.prevEpsMode, hg.firstEpsMode]
    exact heps

theorem steady_modify {g : Sim P → Sim P} (hg : Shared g)
    (henabled : ∀ s, s.hk.enabled.keys <+: (g s).hk.enabled.keys) :
    Steady latched (modify g : Prog P PUnit) :=
  ⟨fun _ _ h => lockstep_modify (hg.twins h),
    keeps_modify fun s => onward_of_eq (hg.firstEpsMode s) (henabled s)⟩

/-- The engine is set to what twins make alike, and the rest reads what they share. -/
theorem steady_update {g : Sim P → Sim P} {k : Sim P → Prog P α}
    (hg : ∀ s t, Twins latched s t → Twins latched (g s) (g t))
    (honward : ∀ s, Onward latched s (g s))
    (hk : ∀ s t, Twins latched s t → k t = k s) (h : ∀ s, Steady latched (k s)) :
    Steady latched (do
      let s ← get
      set (g s)
      k s : Prog P α) := by
  constructor
  · intro s t hst
    refine lockstep_get (lockstep_bind (lockstep_set (hg s t hst)) (fun _ s' t' h' => ?_)
      fun _ => (h s).carries)
    rw [hk s t hst]
    exact (h s).lockstep s' t' h'
  · intro s
    exact wp_mono ((h s).onward (g s)) (fun _ _ => trans_of (Onward latched) (honward s))
      fun _ _ => trans_of (Onward latched) (honward s)

/-! ### Steady programs -/

theorem note_steady (notice : Notice) : Steady latched (note notice : Prog P Unit) :=
  steady_modify ⟨fun _ _ _ _ => rfl, fun _ => rfl, fun _ => rfl, fun _ => rfl, fun _ => rfl⟩
    fun _ => prefix_refl _

theorem keys_set_leading {ν : Type} (d : Dict Nat ν) (key : Nat) (value : ν) :
    d.keys <+: (d.set key value).keys := by
  by_cases hmem : key ∈ d.keys
  · have hkeys : (d.set key value).keys = d.keys := Dict.assign_keys_of_mem value hmem
    exact hkeys ▸ prefix_refl d.keys
  · rw [Dict.keys_set_of_not_mem hmem]
    exact prefix_append _ _

/-- No request takes a structure out of the table. -/
theorem request_keys (t : HkTable) (r : HkRequest) : t.enabled.keys <+: (r.apply t).enabled.keys := by
  cases r with
  | enable sid enabled => exact keys_set_leading t.enabled sid enabled
  | interval sid intervalS => exact prefix_refl _
  | restrict sids =>
      have hkeys : (t.enabled.mapItems fun sid _ => sids.contains sid).keys = t.enabled.keys := by
        unfold Dict.keys Dict.mapItems
        rw [map_map]
        rfl
      exact hkeys ▸ prefix_refl t.enabled.keys

theorem requests_keys (requests : List HkRequest) (t : HkTable) :
    t.enabled.keys <+: (requests.foldl HkRequest.apply t).enabled.keys := by
  induction requests generalizing t with
  | nil => exact prefix_refl _
  | cons r rest ih => exact (request_keys t r).trans (ih (r.apply t))

theorem onOutside_steady (x : Code P α) : Steady latched (onOutside x) := by
  constructor
  · intro s t h
    obtain ⟨ruleTimes, faultTimes, epsMode, heq, hsame⟩ := h
    rw [heq]
    exact lockstep_zoom x rfl fun scope => ⟨ruleTimes, faultTimes, epsMode, rfl, hsame⟩
  · exact keeps_zoom fun s scope => onward_of_eq rfl (requests_keys scope.requests s.hk)

variable (sur : Surroundings P S)

theorem emit_steady (ev : Event) : Steady latched (emit sur ev) :=
  steady_bind (note_steady _) fun _ => onOutside_steady _

theorem fireRule_steady (rule : FdirRules.Rule) : Steady latched (fireRule sur rule) := by
  unfold fireRule
  cases sur.fdirCallbacks rule.action with
  | none =>
      refine steady_get (fun _ _ _ _ => rfl) fun s => ?_
      cases sur.rules.paramIds rule.parameter with
      | none => exact steady_pure _
      | some pid => exact emit_steady sur _
  | some code =>
      refine steady_bind (note_steady _) fun _ => steady_bind ?_ fun _ => ?_
      · exact steady_tryCatch (onOutside_steady code) fun _ => steady_pure _
      · refine steady_get (fun _ _ _ _ => rfl) fun s => ?_
        cases sur.rules.paramIds rule.parameter with
        | none => exact steady_pure _
        | some pid => exact emit_steady sur _

theorem tickFdirRule_steady (rule : FdirRules.Rule) : Steady latched (tickFdirRule sur rule) := by
  have hjudged : ∀ met, Steady latched (do
      let s ← get
      set (s.withRuleState (judge rule 0 none met s.ruleState).1)
      if (judge rule 0 none met s.ruleState).1.log.any FdirRules.Evaluation.fired then
        fireRule sur rule
      else pure () : Prog P Unit) := by
    intro met
    refine steady_update (fun s t h => ?_) (fun s => onward_of_eq rfl (prefix_refl _))
      (fun s t h => ?_) fun s => steady_ite (fireRule_steady sur rule) (steady_pure _)
    · obtain ⟨ruleTimes, faultTimes, epsMode, heq, hrules, hfaults, heps⟩ := h
      obtain ⟨ruleTimes', hjudge, hsame⟩ := judge_sameTimes rule met s.ruleState hrules
      rw [heq]
      refine ⟨ruleTimes', faultTimes, epsMode, ?_, hsame, hfaults, heps⟩
      exact congrArg (fun r => (s.twin ruleTimes faultTimes epsMode).withRuleState r) hjudge
    · obtain ⟨ruleTimes, faultTimes, epsMode, heq, hrules, _⟩ := h
      obtain ⟨ruleTimes', hjudge, _⟩ := judge_sameTimes rule met s.ruleState hrules
      have hlog := congrArg FdirRules.State.log hjudge
      rw [heq]
      exact congrArg (fun log : List FdirRules.Evaluation =>
        if log.any FdirRules.Evaluation.fired then fireRule sur rule else pure ()) hlog
  constructor
  · intro s t h
    have houtside : t.outside = s.outside := by
      obtain ⟨_, _, _, heq, _⟩ := h
      rw [heq]
      rfl
    refine lockstep_get ?_
    rw [houtside]
    cases condition sur.rules (ruleInput sur s.outside.plant) rule with
    | error error => exact lockstep_throw error h
    | ok condition =>
        cases condition with
        | none => exact lockstep_pure _ h
        | some met => exact (hjudged met).lockstep s t h
  · intro s
    unfold tickFdirRule
    rw [wp_bind, wp_get]
    cases condition sur.rules (ruleInput sur s.outside.plant) rule with
    | error error => exact refl_of (Onward latched) s
    | ok condition =>
        cases condition with
        | none => exact refl_of (Onward latched) s
        | some met => exact (hjudged met).onward s

theorem tickFdir_steady : Steady latched (tickFdir sur) := by
  refine steady_bind (steady_forM _ (tickFdirRule_steady sur)) fun _ => ?_
  exact steady_modify ⟨fun _ _ _ _ => rfl, fun _ => rfl, fun _ => rfl, fun _ => rfl, fun _ => rfl⟩
    fun _ => prefix_refl _

theorem perform_steady (now : Rat) (ev : Fdir.Event) : Steady latched (perform sur now ev) := by
  cases ev with
  | procedureStarted procId execId =>
      exact steady_bind (onOutside_steady _) fun _ => emit_steady sur _
  | _ => exact emit_steady sur _

theorem tickFaultRule_steady (dt now : Rat) (rule : Fdir.FaultPropagationRule) :
    Steady latched (tickFaultRule sur dt now rule) := by
  constructor
  · intro s t h
    obtain ⟨ruleTimes, faultTimes, epsMode, heq, hrules, hfaults, heps⟩ := h
    refine lockstep_get ?_
    rw [heq]
    have hstate : (s.twin ruleTimes faultTimes epsMode).faultState =
        withTimes faultTimes s.faultState := rfl
    have hplant : (s.twin ruleTimes faultTimes epsMode).outside = s.outside := rfl
    rw [hstate, hplant]
    rcases tickRule_sameTimes sur.faults (faultInput sur dt s.outside.plant) now rule s.faultState
        hfaults with ⟨error, hrun, hrun'⟩ | ⟨f, faultTimes', hrun, hrun', hsame⟩
    · rw [hrun, hrun']
      exact lockstep_throw error ⟨ruleTimes, faultTimes, epsMode, rfl, hrules, hfaults, heps⟩
    · rw [hrun, hrun']
      have hperform : Steady latched (f.events.forM (perform sur now)) :=
        steady_forM f.events (perform_steady sur now)
      have hset : Twins latched (s.withFaultState f)
          ((s.twin ruleTimes faultTimes epsMode).withFaultState (withTimes faultTimes' f)) :=
        ⟨ruleTimes, faultTimes', epsMode, rfl, hrules, hsame, heps⟩
      exact hperform.lockstep _ _ hset
  · intro s
    unfold tickFaultRule
    rw [wp_bind, wp_get]
    cases Fdir.tickRule sur.faults (faultInput sur dt s.outside.plant) now rule s.faultState with
    | error error => exact refl_of (Onward latched) s
    | ok f =>
        have hperform : Steady latched (f.events.forM (perform sur now)) :=
        steady_forM f.events (perform_steady sur now)
        have hset : Onward latched s (s.withFaultState f) :=
          onward_of_eq rfl (prefix_refl _)
        exact wp_mono (hperform.onward (s.withFaultState f))
          (fun _ _ => trans_of (Onward latched) hset) fun _ _ => trans_of (Onward latched) hset

theorem applyCascade_steady (c : Fdir.PendingCascade) : Steady latched (applyCascade sur c) := by
  unfold applyCascade
  cases sur.cascadeCallbacks c.key with
  | none => exact steady_pure _
  | some code =>
      refine steady_bind (note_steady _) fun _ => steady_bind ?_ fun applied => ?_
      · exact steady_tryCatch (steady_bind (onOutside_steady code) fun _ => steady_pure _)
          fun _ => steady_pure _
      · exact steady_ite (emit_steady sur _) (steady_pure _)

theorem tickPendingCascades_steady (now : Rat) : Steady latched (tickPendingCascades sur now) := by
  refine steady_update (fun s t h => ?_) (fun s => onward_of_eq rfl (prefix_refl _))
    (fun s t h => ?_) fun s => steady_forM _ (applyCascade_steady sur)
  · obtain ⟨ruleTimes, faultTimes, epsMode, heq, hsame⟩ := h
    rw [heq]
    exact ⟨ruleTimes, faultTimes, epsMode, rfl, hsame⟩
  · obtain ⟨_, _, _, heq, _⟩ := h
    rw [heq]
    rfl

theorem tickRecovery_steady (now : Rat) : Steady latched (tickRecovery sur now) := by
  refine steady_update (fun s t h => ?_) (fun s => onward_of_eq rfl (prefix_refl _))
    (fun s t h => ?_) fun s => steady_forM _ (perform_steady sur now)
  · obtain ⟨ruleTimes, faultTimes, epsMode, heq, hrules, hfaults, heps⟩ := h
    rw [heq]
    exact ⟨ruleTimes, faultTimes, epsMode, rfl, hrules, hfaults, heps⟩
  · obtain ⟨_, _, _, heq, _⟩ := h
    rw [heq]
    rfl

theorem tickFaults_steady (dt now : Rat) : Steady latched (tickFaults sur dt now) := by
  have hhandled : Steady latched (do
      sur.faults.rules.forM (tickFaultRule sur dt now)
      tickPendingCascades sur now
      tickRecovery sur now : Prog P Unit) :=
    steady_bind (steady_forM _ (tickFaultRule_steady sur dt now)) fun _ =>
      steady_bind (tickPendingCascades_steady sur now) fun _ => tickRecovery_steady sur now
  constructor
  · intro s t h
    have hst := h
    obtain ⟨ruleTimes, faultTimes, epsMode, heq, hrules, _, heps⟩ := h
    refine lockstep_get ?_
    rw [heq] at hst ⊢
    refine lockstep_ite (fun _ => hhandled.lockstep _ _ hst) fun _ => ?_
    refine lockstep_ite (fun _ => lockstep_pure _ hst) fun _ => ?_
    exact lockstep_set ⟨ruleTimes, .empty, epsMode, rfl, hrules, SameTimes.refl _, heps⟩
  · intro s
    unfold tickFaults
    rw [wp_bind, wp_get, wp_ite]
    refine ⟨fun _ => hhandled.onward s, fun _ => (wp_ite _ _).mpr ⟨fun _ => ?_, fun _ => ?_⟩⟩
    · exact refl_of (Onward latched) s
    · exact onward_of_eq rfl (prefix_refl _)

theorem tickFdirAdvanced_steady (dt : Rat) : Steady latched (tickFdirAdvanced sur dt) := by
  have hclock : Steady latched (modify fun s : Sim P =>
      { s with simElapsedFdir := s.simElapsedFdir + dt } : Prog P Unit) :=
    steady_modify ⟨fun _ _ _ _ => rfl, fun _ => rfl, fun _ => rfl, fun _ => rfl, fun _ => rfl⟩
      fun _ => prefix_refl _
  refine steady_bind hclock fun _ => steady_get (fun _ _ _ _ => rfl) fun s => ?_
  refine steady_bind (onOutside_steady _) fun _ => ?_
  refine steady_bind (tickFaults_steady sur dt _) fun _ => ?_
  refine steady_bind (onOutside_steady _) fun _ => ?_
  exact steady_get (fun _ _ _ _ => rfl) fun s => onOutside_steady _

/-- Every branch writes the mode, which twins share. -/
theorem updateScMode_steady : Steady latched (updateScMode sur) := by
  constructor
  · intro s t h
    have hst := h
    obtain ⟨ruleTimes, faultTimes, epsMode, heq, hsame⟩ := h
    subst heq
    have hmode : ∀ mode, Twins latched { s with scMode := mode }
        { s.twin ruleTimes faultTimes epsMode with scMode := mode } :=
      fun _ => ⟨ruleTimes, faultTimes, epsMode, rfl, hsame⟩
    refine lockstep_get (lockstep_ite (fun _ => lockstep_set (hmode 3)) fun _ => ?_)
    refine lockstep_ite (fun _ => lockstep_set (hmode 0)) fun _ => ?_
    exact lockstep_computed (fun payloadMode => lockstep_set (hmode _)) hst
  · intro s
    have hmode : ∀ mode, Onward latched s { s with scMode := mode } :=
      fun _ => onward_of_eq rfl (prefix_refl _)
    unfold updateScMode
    rw [wp_bind, wp_get, wp_ite]
    refine ⟨fun _ => hmode 3, fun _ => (wp_ite _ _).mpr ⟨fun _ => hmode 0, fun _ => ?_⟩⟩
    rw [wp_bind, wp_fromExcept]
    exact ⟨fun _ _ => hmode _, fun _ _ => refl_of (Onward latched) s⟩

theorem checkScSafe_steady : Steady latched (checkScSafe sur) := by
  have hemit (safe : Bool) : Steady latched (emit sur (safeModeEvent safe)) :=
    emit_steady sur (safeModeEvent safe)
  constructor
  · intro s t h
    have hst := h
    obtain ⟨ruleTimes, faultTimes, epsMode, heq, hsame⟩ := h
    subst heq
    refine lockstep_get (lockstep_ite (fun _ => ?_) fun _ => lockstep_pure _ hst)
    exact (hemit _).lockstep _ _ ⟨ruleTimes, faultTimes, epsMode, rfl, hsame⟩
  · intro s
    have hset : Onward latched s { s with prevScSafe := decide (s.scMode = 0) } :=
      onward_of_eq rfl (prefix_refl _)
    unfold checkScSafe
    rw [wp_bind, wp_get, wp_ite]
    refine ⟨fun _ => ?_, fun _ => refl_of (Onward latched) s⟩
    exact wp_mono ((hemit _).onward _) (fun _ _ => trans_of (Onward latched) hset)
      fun _ _ => trans_of (Onward latched) hset

/-- Once a mode is latched in both, it is the same. -/
theorem latchEpsMode_steady (mode : Int) : Steady latched (modify fun s : Sim P =>
    { s with prevEpsMode := some mode } : Prog P Unit) := by
  constructor
  · intro s t h
    obtain ⟨ruleTimes, faultTimes, epsMode, heq, hrules, hfaults, _⟩ := h
    subst heq
    exact lockstep_modify
      ⟨ruleTimes, faultTimes, some mode, rfl, hrules, hfaults, Or.inl rfl⟩
  · exact keeps_modify fun s => onward_of_eq rfl (prefix_refl _)

/-- The event of a mode other than the one last seen, and the new latch. -/
def reportEpsMode (prev : Option Int) (mode : Int) : Prog P Unit := do
  match prev with
  | none => pure ()
  | some latched => if mode ≠ latched ∧ mode ≠ 0 then emit sur (epsModeEvent mode) else pure ()
  modify fun s => { s with prevEpsMode := some mode }

theorem reportEpsMode_steady (prev : Option Int) (mode : Int) :
    Steady latched (reportEpsMode sur prev mode) := by
  cases prev with
  | none => exact latchEpsMode_steady mode
  | some seen =>
      exact steady_ite (steady_bind (emit_steady sur _) fun _ => latchEpsMode_steady mode)
        (latchEpsMode_steady mode)

/-- The mode that is found is noted. -/
def Sim.found (mode : Int) (s : Sim P) : Sim P :=
  { s with firstEpsMode := s.firstEpsMode.or (some mode) }

theorem found_onward (mode : Int) (s : Sim P) : Onward latched s (s.found mode) := by
  refine ⟨fun hchanged => ?_, prefix_refl _⟩
  obtain ⟨seen, first, hlatched, hfirst, hne, hnonzero⟩ := hchanged
  refine ⟨seen, first, hlatched, ?_, hne, hnonzero⟩
  unfold Sim.found
  rw [hfirst]
  rfl

/-- What twins do when the mode of the power subsystem is checked. -/
theorem checkEpsMode_steady : Steady latched (checkEpsMode sur) := by
  constructor
  · intro s t h
    have hst := h
    obtain ⟨ruleTimes, faultTimes, epsMode, heq, hrules, hfaults, heps⟩ := h
    subst heq
    refine lockstep_get ?_
    show Lockstep _ _ (match sur.epsMode s.outside.plant with
      | none => pure ()
      | some mode => set (s.found mode) >>= fun _ => reportEpsMode sur s.prevEpsMode mode)
      (match sur.epsMode s.outside.plant with
      | none => pure ()
      | some mode => set ((s.twin ruleTimes faultTimes epsMode).found mode) >>= fun _ =>
          reportEpsMode sur epsMode mode) s _
    cases sur.epsMode s.outside.plant with
    | none => exact lockstep_pure _ hst
    | some mode =>
        have hagree : ∀ prev, epsMode = prev → s.prevEpsMode = prev → Lockstep (Twins latched)
            (ModeChanged latched) (set (s.found mode) >>= fun _ => reportEpsMode sur prev mode)
            (set ((s.twin ruleTimes faultTimes epsMode).found mode) >>= fun _ =>
              reportEpsMode sur prev mode) s (s.twin ruleTimes faultTimes epsMode) := by
          intro prev htwin hprev
          exact (reportEpsMode_steady sur prev mode).lockstep _ _
            ⟨ruleTimes, faultTimes, epsMode, rfl, hrules, hfaults, Or.inl (htwin.trans hprev.symm)⟩
        rcases heps with hsame | ⟨hempty, hlatched, hfirst⟩
        · subst hsame
          exact hagree s.prevEpsMode rfl rfl
        · subst hempty
          cases hprev : s.prevEpsMode with
          | none => exact hagree none rfl hprev
          | some seen =>
              by_cases hreport : mode ≠ seen ∧ mode ≠ 0
              · -- the mode has changed while the twin had none to compare it with
                refine Or.inl ((reportEpsMode_steady sur (some seen) mode).carries.final
                  (s.found mode) ⟨seen, mode, hlatched.symm.trans hprev, ?_, hreport⟩)
                unfold Sim.found
                rw [hfirst]
                rfl
              · unfold reportEpsMode
                simp only [if_neg hreport]
                exact lockstep_modify
                  ⟨ruleTimes, faultTimes, some mode, rfl, hrules, hfaults, Or.inl rfl⟩
  · intro s
    unfold checkEpsMode
    rw [wp_bind, wp_get]
    cases sur.epsMode s.outside.plant with
    | none => exact refl_of (Onward latched) s
    | some mode =>
        exact wp_mono ((reportEpsMode_steady sur s.prevEpsMode mode).onward (s.found mode))
          (fun _ _ => trans_of (Onward latched) (found_onward mode s))
          fun _ _ => trans_of (Onward latched) (found_onward mode s)

theorem emitHkSid_steady (swImage : Int) (dtSim : FloatValue) (sid : Nat) (interval : FloatValue) :
    Steady latched (emitHkSid sur swImage dtSim sid interval) := by
  have htimer : ∀ timer, Steady latched (setTimer sid timer : Prog P Unit) := fun timer =>
    steady_modify ⟨fun _ _ _ _ => rfl, fun _ => rfl, fun _ => rfl, fun _ => rfl, fun _ => rfl⟩
      fun _ => prefix_refl _
  refine steady_get (fun _ _ _ _ => rfl) fun s => steady_ite ?_ (steady_pure _)
  refine steady_ite (steady_pure _) (steady_bind (htimer _) fun _ => steady_ite ?_ (steady_pure _))
  exact steady_bind (note_steady _) fun _ => onOutside_steady _

theorem emitHkPackets_steady (dtSim : FloatValue) : Steady latched (emitHkPackets sur dtSim) := by
  refine steady_get (fun _ _ _ _ => rfl) fun s => steady_bind (steady_fromExcept _) fun swImage => ?_
  exact steady_forM _ fun item => emitHkSid_steady sur swImage dtSim item.1 item.2

theorem tickSubstep_steady (dt dtOuter : Rat) (last : Bool) :
    Steady latched (tickSubstep sur dt dtOuter last) := by
  have hfinish : Steady latched (onOutside (sur.finish dt dtOuter last)) :=
    onOutside_steady (sur.finish dt dtOuter last)
  have hend : Steady latched (do
      updateScMode sur
      checkSafeModeEvents sur
      onOutside sur.subsystemEvents
      if last then do
        emitHkPackets sur (quotient dtOuter.num dtOuter.den)
        onOutside (sur.finish dt dtOuter last)
      else onOutside (sur.finish dt dtOuter last) : Prog P Unit) := by
    refine steady_bind (updateScMode_steady sur) fun _ => ?_
    refine steady_bind (steady_bind (checkScSafe_steady sur) fun _ => checkEpsMode_steady sur)
      fun _ => ?_
    refine steady_bind (onOutside_steady _) fun _ => steady_ite ?_ hfinish
    exact steady_bind (emitHkPackets_steady sur _) fun _ => hfinish
  refine steady_bind (onOutside_steady _) fun _ => steady_ite ?_ hend
  exact steady_bind (tickFdir_steady sur) fun _ =>
    steady_bind (tickFdirAdvanced_steady sur dt) fun _ => hend

theorem tickOnce_steady (dtSim : Rat) : Steady latched (tickOnce sur dtSim) :=
  steady_forM _ fun _ => tickSubstep_steady sur _ dtSim _

theorem perform_op_steady (op : Op) : Steady latched (op.perform sur) := by
  cases op with
  | telecommand pkt =>
      exact steady_modify
        ⟨fun _ _ _ _ => rfl, fun _ => rfl, fun _ => rfl, fun _ => rfl, fun _ => rfl⟩
        fun _ => prefix_refl _
  | tick dtSim => exact steady_tryCatch (tickOnce_steady sur dtSim) fun _ => steady_pure _

/-! ### Runs -/

/-- The state after operations. -/
abbrev run (ops : List Op) (s : Sim P) : Sim P := Runs.after (step sur) s ops

/-- The engine with an empty log, before any mode is found. -/
def Sim.cleared (s : Sim P) : Sim P :=
  { s with outside := { s.outside with log := [] }, firstEpsMode := none }

/-- What operations show: the log, and which structures are enabled in the end. -/
def observed (s : Sim P) (ops : List Op) : List Notice × Dict Nat Bool :=
  ((run sur ops s.cleared).outside.log, (run sur ops s.cleared).hk.enabled)

theorem step_onward (op : Op) (s : Sim P) : Onward latched s (step sur s op) :=
  (perform_op_steady sur op).onward.final s

theorem step_twins (op : Op) {s t : Sim P} (h : Twins latched s t) :
    ModeChanged latched (step sur s op) ∨ Twins latched (step sur s op) (step sur t op) :=
  ((perform_op_steady sur op).lockstep s t h).final

theorem run_onward (ops : List Op) (s : Sim P) : Onward latched s (run sur ops s) :=
  Runs.invariant
    (fun s' op h => trans_of (Onward latched) h (step_onward sur op s')) (refl_of _ s) ops

/-- Twins stay twins, unless the mode is found changed. -/
theorem run_twins (ops : List Op) {s t : Sim P} (h : Twins latched s t) :
    ModeChanged latched (run sur ops s) ∨ Twins latched (run sur ops s) (run sur ops t) := by
  induction ops generalizing s t with
  | nil => exact Or.inr h
  | cons op rest ih =>
      rcases step_twins sur op h with hchanged | htwins
      · exact Or.inl ((run_onward sur rest _).1 hchanged)
      · exact ih htwins

/-! ### What is restored -/

/-- Nothing of what is left behind matters. -/
structure Carried (intervals : Dict Nat FloatValue) (s : Sim P) : Prop where
  ruleTimes : ∀ key, heldFor s.fdirPersist key = 0
  faultTimes : ∀ faultId, heldFor s.faultPersist faultId = 0
  cascades : s.pendingCascades = []
  safe : s.prevScSafe = true
  intervals : s.hk.intervals = intervals
  telecommands : s.outside.tcQueue = []
  modelEvents : s.outside.modelEvents = []

/-- An assignment passes the items of other keys. -/
theorem assign_append {ν : Type} {key : Nat} {before : List (Nat × ν)} (value : ν)
    (rest : List (Nat × ν)) (h : key ∉ before.map Prod.fst) :
    Dict.assign key value (before ++ rest) = before ++ Dict.assign key value rest := by
  induction before with
  | nil => rfl
  | cons item before ih =>
      have hne : item.1 ≠ key := by
        intro heq
        apply h
        rw [← heq]
        exact mem_cons_self
      rw [cons_append, Dict.assign, if_neg hne, ih fun hmem => h (mem_cons_of_mem _ hmem)]
      rfl

/-- Items assigned one by one to a table whose keys are the first of theirs. -/
theorem assign_all {ν : Type} (items before : List (Nat × ν)) (d : Dict Nat ν)
    (hnodup : ((before ++ items).map Prod.fst).Nodup)
    (hleading : ∃ rest, d.items = before ++ rest ∧ rest.map Prod.fst <+: items.map Prod.fst) :
    (items.foldl (fun d item => d.set item.1 item.2) d).items = before ++ items := by
  induction items generalizing before d with
  | nil =>
      obtain ⟨rest, hitems, hkeys⟩ := hleading
      have hrest : rest = [] := by
        simpa using prefix_nil.mp hkeys
      rw [foldl_nil, hitems, hrest]
  | cons item items ih =>
      obtain ⟨rest, hitems, hkeys⟩ := hleading
      have hsplit : before ++ item :: items = (before ++ [item]) ++ items := by simp
      have habsent : item.1 ∉ before.map Prod.fst := by
        rw [map_append, nodup_append] at hnodup
        intro hmem
        exact hnodup.2.2 _ hmem _ mem_cons_self rfl
      rw [foldl_cons, hsplit]
      rw [hsplit] at hnodup
      apply ih (before ++ [item]) (d.set item.1 item.2) hnodup
      have hassigned : (d.set item.1 item.2).items =
          before ++ Dict.assign item.1 item.2 rest := by
        rw [← assign_append item.2 rest habsent, ← hitems]
        rfl
      cases rest with
      | nil => exact ⟨[], by rw [hassigned, append_nil]; rfl, nil_prefix⟩
      | cons first rest =>
          have hparts := cons_prefix_cons.mp hkeys
          have hfirst : first.1 = item.1 := hparts.1
          refine ⟨rest, ?_, hparts.2⟩
          rw [hassigned, Dict.assign, if_pos hfirst, append_assoc]
          rfl

/-- The enabled structures are restored, as no structure ever leaves the table. -/
theorem enabled_restored {enabled saved : Dict Nat Bool} (h : enabled.keys <+: saved.keys) :
    saved.items.foldl (fun d item => d.set item.1 item.2) enabled = saved :=
  Dict.ext (assign_all saved.items [] enabled saved.nodup ⟨enabled.items, rfl, h⟩)

/-- The engine that is restored from a snapshot. -/
abbrev restored (plant : P) (enabled : Dict Nat Bool) (intervals : Dict Nat FloatValue)
    (s : Sim P) : Sim P :=
  load sur (save sur s) (construct plant enabled intervals)

/-- An engine of which everything that matters is carried has the restored one as its twin. -/
theorem restored_twins (plant : P) {enabled : Dict Nat Bool} {intervals : Dict Nat FloatValue}
    {s : Sim P} (henabled : enabled.keys <+: s.hk.enabled.keys) (h : Carried intervals s) :
    Twins s.prevEpsMode s.cleared (restored sur plant enabled intervals s).cleared := by
  refine ⟨.empty, .empty, none, ?_, fun key => (h.ruleTimes key).symm,
    fun faultId => (h.faultTimes faultId).symm, Or.inr ⟨rfl, rfl, rfl⟩⟩
  obtain ⟨⟨plant', tcQueue, modelEvents, log⟩, ⟨table, times, timers⟩, triggered, persist, safe,
    emergency, elapsed, faults, recoveries, cascades, faultPersist, mode, prevScSafe, prevEps,
    firstEps⟩ := s
  obtain ⟨_, _, hcascades, hsafe, hintervals, htelecommands, hevents⟩ := h
  have htable : table.items.foldl (fun d item => d.set item.1 item.2) enabled = table :=
    enabled_restored henabled
  subst hcascades hsafe hintervals htelecommands hevents
  unfold restored load save construct Sim.cleared Sim.twin
  simp only [sur.load_save, htable]

/-- A spacecraft in its nominal phase, with no rules and no housekeeping. -/
def quiet : Surroundings Unit Unit where
  rules := { rules := [], paramIds := fun _ => none }
  faults := { rules := [], distinct := List.nodup_nil, paramIds := fun _ => none }
  params := fun _ _ => .none
  spacecraftPhase := fun _ => 6
  epsMode := fun _ => some 1
  advance := fun _ _ _ => pure ()
  emitEvent := fun _ => pure ()
  fdirCallbacks := fun _ => none
  cascadeCallbacks := fun _ => none
  shedLoads := fun _ => pure ()
  startProcedure := fun _ _ => pure ()
  tickProcedures := fun _ => pure ()
  publishFdirParameters := fun _ _ _ _ => pure ()
  subsystemEvents := pure ()
  swImage := fun _ => .ok 1
  hkGate := fun _ _ _ => .halted
  reportHk := fun _ => pure ()
  finish := fun _ _ _ => pure ()
  ruleText := fun _ _ => ""
  faultText := fun _ => ""
  save := id
  load := fun saved _ => saved
  load_save := fun _ _ => rfl

end Checkpoints
