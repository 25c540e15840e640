import MissionSim.Scenarios

/-!
# Failures and the scenario they belong to

The scenario engine keeps a list of the failures it injected, to clear them when the scenario
ends.  The list is all it knows: a start empties it, whatever the scenario before it has left
behind, and what is on it is cleared at the end, whoever injected it last.

The measure of what the operator's failures should be is a failure manager that sees the
operator's commands and the passing of time, and no scenario.  As long as no start finds
failures of an earlier scenario and the operator and the scenarios keep to failures of their
own, this is what is left when a scenario is over.
-/

namespace Training

open Binary32 Python Effects Dict
open Spacecraft (floatOf)

/-! ### The failure manager -/

/-- The numbers a failure comes with, if they convert. -/
def FailureSpec.values? (f : FailureSpec) : Option (FloatValue × FloatValue) :=
  match f.magnitude, f.durationS with
  | .ok magnitude, .ok durationS => some (magnitude, durationS)
  | _, _ => none

/-- What is left of a failure after a tick. -/
theorem get?_tick (failures : Failures) (dtSim : FloatValue) (failureId : String) :
    (failures.tick dtSim).get? failureId =
      (failures.get? failureId).bind fun f => f.advance dtSim :=
  get?_sweep (fun f : ActiveFailure => f.advance dtSim) failures failureId

/-- Time leaves a failure to whom it belongs. -/
theorem ActiveFailure.advance_origin {f f' : ActiveFailure} {dtSim : FloatValue}
    (h : f.advance dtSim = some f') : f'.origin = f.origin := by
  unfold advance at h
  split at h
  · cases h
  · split at h
    · cases h
    · cases h
      rfl

/-! ### Runs -/

/-- A step of a run. -/
inductive Step where
  | start (name : String)
  | stop
  | tick (dtSim : FloatValue)
  /-- The failure manager's own tick. -/
  | failureTick (dtSim : FloatValue)
  /-- The operator injects a failure, or clears one or all. -/
  | inject (f : FailureSpec)
  | clear (failureId : String)
  | clearAll
  /-- The parameters change. -/
  | other (params : Dict Nat Value)

def Step.run (s : ScenarioEngine) : Step → ScenarioEngine
  | .start name => finalState (Training.start name) s
  | .stop => finalState finish s
  | .tick dtSim => finalState (Training.tick dtSim) s
  | .failureTick dtSim => { s with failures := s.failures.tick dtSim }
  | .inject f => finalState (injectAs .operator f) s
  | .clear failureId => { s with failures := s.failures.clear failureId }
  | .clearAll => { s with failures := .empty }
  | .other params => { s with params := params }

/-- The failures of an operator whom no scenario disturbs. -/
def Step.alone (failures : Failures) : Step → Failures
  | .failureTick dtSim => failures.tick dtSim
  | .inject f =>
      match f.values? with
      | some (magnitude, durationS) => failures.inject .operator f magnitude durationS
      | none => failures
  | .clear failureId => failures.clear failureId
  | .clearAll => .empty
  | _ => failures

/-- The state after a run whose steps all satisfy `P`, and the operator's failures. -/
inductive Run (P : ScenarioEngine → Step → Prop) : Failures → ScenarioEngine → Prop
  | boot (scenarios : Dict String ScenarioDefinition) (params : Dict Nat Value) :
      Run P .empty { scenarios := scenarios, params := params }
  | step {undisturbed : Failures} {s : ScenarioEngine} (before : Run P undisturbed s)
      (step : Step) (h : P s step) : Run P (step.alone undisturbed) (step.run s)

/-- No failure outlives its scenario, and the operator's failures are what they should be. -/
structure Kept (undisturbed : Failures) (s : ScenarioEngine) : Prop where
  idle : s.active = none → ∀ failureId f, s.failures.get? failureId = some f →
    f.origin = .operator
  current : ∀ failureId f run, s.failures.get? failureId = some f → f.origin = .scenario run →
    run = s.run
  operator : ∀ failureId,
    undisturbed.get? failureId = (s.failures.get? failureId).filter fun f => f.origin = .operator

/-! ### The condition -/

/-- The failures of a scenario's initial conditions, up to one that does not convert. -/
def ScenarioDefinition.opening (defn : ScenarioDefinition) : List FailureSpec :=
  match defn.others with
  | .ok _ => (defn.failures.map fun f => { f with extraParams := .empty }).takeWhile fun f =>
      f.values?.isSome
  | .error _ => []

/-- The action raises. -/
def Action.raises : Action → Bool
  | .inject f => f.values?.isNone
  | .setSpeed (.error _) => true
  | _ => false

/-- The parameters after an action. -/
def Action.sets (params : Dict Nat Value) : Action → Dict Nat Value
  | .setParameter paramId value => params.set paramId value
  | _ => params

/-- The actions of the events that are fired, up to one that raises. -/
def firing : List ScenarioEvent → FloatValue → Dict Nat Value → List Action
  | [], _, _ => []
  | ev :: rest, elapsed, params =>
      if ev.isDue elapsed params then
        ev.action :: if ev.action.raises then [] else firing rest elapsed (ev.action.sets params)
      else firing rest elapsed params

/-- The identifier is not one of the operator's failures. -/
def Free (failures : Failures) (failureId : String) : Prop :=
  ∀ f, failures.get? failureId = some f → f.origin ≠ .operator

/-- The action leaves the operator's failures alone. -/
def Action.Spares (failures : Failures) : Action → Prop
  | .inject f => f.values?.isSome → Free failures f.failureId
  | .clear failureId => if failureId = "" then ∀ other, Free failures other else Free failures failureId
  | _ => True

/-- What the steps of a run have to keep to. -/
def Disciplined (s : ScenarioEngine) : Step → Prop
  | .start name => ∀ defn, s.scenarios.get? name = some defn →
      (∀ failureId f, s.failures.get? failureId = some f → f.origin = .operator) ∧
      ∀ f ∈ defn.opening, Free s.failures f.failureId
  | .tick dtSim => ∀ defn, s.active = some defn →
      ∀ action ∈ firing defn.events (s.elapsed.add dtSim) s.params, action.Spares s.failures
  | .inject f => f.values?.isSome → f.failureId ∉ s.injectedFids
  | _ => True

/-! ### The invariant -/

/-- Every failure of a scenario is on the list of the active one, and none of the operator's
is. -/
structure Owned (undisturbed : Failures) (s : ScenarioEngine) : Prop where
  operator : ∀ failureId,
    undisturbed.get? failureId = (s.failures.get? failureId).filter fun f => f.origin = .operator
  scenario : ∀ failureId f run, s.failures.get? failureId = some f → f.origin = .scenario run →
    s.active.isSome ∧ run = s.run ∧ failureId ∈ s.injectedFids
  apart : ∀ failureId ∈ s.injectedFids, undisturbed.get? failureId = none
  idle : s.active = none → s.injectedFids = []

variable {undisturbed : Failures} {s : ScenarioEngine}

theorem Owned.toKept (h : Owned undisturbed s) : Kept undisturbed s := by
  refine ⟨fun hidle failureId f hget => ?_, fun failureId f run hget horigin => ?_, h.operator⟩
  · cases horigin : f.origin with
    | operator => rfl
    | scenario run =>
        have hactive := (h.scenario failureId f run hget horigin).1
        rw [hidle] at hactive
        cases hactive
  · exact (h.scenario failureId f run hget horigin).2.1

/-- An identifier is free exactly if the operator has no failure there. -/
theorem Owned.free_iff (h : Owned undisturbed s) (failureId : String) :
    Free s.failures failureId ↔ undisturbed.get? failureId = none := by
  rw [h.operator, Option.filter_eq_none_iff]
  simp only [Free, decide_eq_true_eq]

/-! ### Injecting -/

/-- What `injectAs` does: it raises if a number does not convert. -/
theorem injectAs_spec (origin : Origin) (f : FailureSpec) (s : ScenarioEngine) :
    wp (injectAs origin f)
      (fun failureId s' => failureId = f.failureId ∧ ∃ magnitude durationS,
        f.values? = some (magnitude, durationS) ∧
        s' = { s with failures := s.failures.inject origin f magnitude durationS })
      (fun _ s' => f.values? = none ∧ s' = s) s := by
  unfold injectAs
  simp only [wp_bind, wp_fromExcept, wp_modify, wp_pure, true_and]
  refine ⟨fun magnitude hmagnitude => ⟨fun durationS hduration => ?_,
    fun error herror => ⟨?_, trivial⟩⟩, fun error herror => ⟨?_, trivial⟩⟩
  · refine ⟨magnitude, durationS, ?_, rfl⟩
    rw [FailureSpec.values?, hmagnitude, hduration]
  · rw [FailureSpec.values?, herror, hmagnitude]
  · rw [FailureSpec.values?, herror]

/-- A failure of the active scenario is injected, where the operator has none. -/
theorem injectTracked_owned (h : Owned undisturbed s) (hactive : s.active.isSome) {f : FailureSpec}
    (hfree : f.values?.isSome → undisturbed.get? f.failureId = none) :
    wp (injectTracked f)
      (fun _ s' => f.values?.isSome ∧ Owned undisturbed s' ∧ s'.active = s.active ∧
        s'.elapsed = s.elapsed ∧ s'.params = s.params)
      (fun _ s' => f.values? = none ∧ s' = s) s := by
  unfold injectTracked
  rw [wp_bind, wp_get, wp_bind]
  refine wp_mono (injectAs_spec _ f s) (fun failureId s' hs => ?_) fun _ _ hs => hs
  obtain ⟨rfl, magnitude, durationS, hvalues, rfl⟩ := hs
  have hsome : f.values?.isSome := by
    rw [hvalues]
    rfl
  refine ⟨hsome, ⟨fun other => ?_, fun other g run hget horigin => ?_, fun other hother => ?_,
    fun hidle => ?_⟩, rfl, rfl, rfl⟩
  · show undisturbed.get? other = (get? (set _ _ _) other).filter _
    by_cases heq : other = f.failureId
    · rw [heq, get?_set_same, hfree hsome]
      rfl
    · rw [get?_set_ne _ heq, h.operator]
  · by_cases heq : other = f.failureId
    · have hsame : get? (set _ _ _) other = some g := hget
      rw [heq, get?_set_same] at hsame
      cases hsame
      have hrun : Origin.scenario s.run = .scenario run := horigin
      refine ⟨hactive, (Origin.scenario.inj hrun).symm, ?_⟩
      rw [heq]
      exact List.mem_append_right _ (List.mem_singleton_self _)
    · have hsame : get? (set _ _ _) other = some g := hget
      rw [get?_set_ne _ heq] at hsame
      obtain ⟨hsome', hrun, hmem⟩ := h.scenario other g run hsame horigin
      exact ⟨hsome', hrun, List.mem_append_left _ hmem⟩
  · rcases List.mem_append.mp hother with hold | hnew
    · exact h.apart other hold
    · rw [List.mem_singleton.mp hnew]
      exact hfree hsome
  · have hnone : s.active = none := hidle
    rw [hnone] at hactive
    cases hactive

/-! ### The steps -/

/-- The initial failures, by induction. -/
theorem openings_owned {fs : List FailureSpec} (h : Owned undisturbed s) (hactive : s.active.isSome)
    (hfree : ∀ f ∈ fs.takeWhile fun f => f.values?.isSome, undisturbed.get? f.failureId = none) :
    wp (fs.forM injectTracked) (fun _ s' => Owned undisturbed s')
      (fun _ s' => Owned undisturbed s') s := by
  induction fs generalizing s with
  | nil => exact h
  | cons f rest ih =>
      have htake (hsome : f.values?.isSome = true) :
          (f :: rest).takeWhile (fun f => f.values?.isSome) =
            f :: rest.takeWhile fun f => f.values?.isSome :=
        List.takeWhile_cons_of_pos hsome
      refine (wp_bind _ _).mpr ?_
      refine wp_mono (injectTracked_owned h hactive fun hsome => ?_) (fun _ s' hs => ?_)
        fun _ s' hs => ?_
      · refine hfree f ?_
        rw [htake hsome]
        exact List.mem_cons_self
      · obtain ⟨hsome, howned, hsame, -, -⟩ := hs
        refine ih howned (hsame ▸ hactive) fun g hg => hfree g ?_
        rw [htake hsome]
        exact List.mem_cons_of_mem _ hg
      · rw [hs.2]
        exact h

theorem start_owned (h : Owned undisturbed s) {name : String} (hok : Disciplined s (.start name)) :
    Owned undisturbed (finalState (start name) s) := by
  refine wp_state.mp ?_
  unfold start
  rw [wp_bind, wp_get]
  cases hdefn : s.scenarios.get? name with
  | none => exact h
  | some defn =>
      obtain ⟨hleft, hfree⟩ := hok defn hdefn
      have hstarted : Owned undisturbed { s with
          active := some defn.rearmed, elapsed := floatOf 0, injectedFids := [], run := s.run + 1 } := by
        refine ⟨h.operator, fun failureId f run hget horigin => ?_, fun _ hmem => ?_, fun hidle => ?_⟩
        · rw [hleft failureId f hget] at horigin
          cases horigin
        · cases hmem
        · cases hidle
      simp only [wp_bind, wp_set, applyInitialConditions, wp_fromExcept]
      refine ⟨fun _ hothers => ?_, fun _ _ => hstarted⟩
      have hloop : ∀ xs : List FailureSpec,
          (xs.forM fun f => injectTracked { f with extraParams := .empty }) =
            (xs.map fun f => { f with extraParams := .empty }).forM injectTracked := by
        intro xs
        induction xs with
        | nil => rfl
        | cons f rest ih => exact congrArg (fun later => injectTracked _ >>= fun _ => later) ih
      rw [hloop]
      refine openings_owned hstarted rfl fun f hf => (h.free_iff f.failureId).mp (hfree f ?_)
      rw [ScenarioDefinition.opening, hothers]
      exact hf

/-- Where the operator has no failure, failures may go. -/
theorem Owned.restrict {undisturbed : Failures} {s : ScenarioEngine} (h : Owned undisturbed s)
    {failures : Failures} (hgone : ∀ failureId,
      failures.get? failureId = s.failures.get? failureId ∨
        failures.get? failureId = none ∧ undisturbed.get? failureId = none) :
    Owned undisturbed { s with failures := failures } := by
  refine ⟨fun failureId => ?_, fun failureId f run hget horigin => ?_, h.apart, h.idle⟩
  · rcases hgone failureId with hsame | ⟨hnone, hfree⟩
    · exact (h.operator failureId).trans (by rw [hsame])
    · rw [hfree]
      rw [hnone]
      rfl
  · have hget' : failures.get? failureId = some f := hget
    rcases hgone failureId with hsame | ⟨hnone, -⟩
    · exact h.scenario failureId f run (hsame ▸ hget') horigin
    · rw [hnone] at hget'
      cases hget'

/-- At the end everything on the list is cleared. -/
theorem finish_owned (h : Owned undisturbed s) : Owned undisturbed (finalState finish s) := by
  refine wp_state.mp ?_
  unfold finish
  rw [wp_bind, wp_get]
  cases hactive : s.active with
  | none => exact h
  | some defn =>
      have hcleared : ∀ failureId, (s.injectedFids.foldl Failures.clear s.failures).get? failureId =
          if failureId ∈ s.injectedFids then none else s.failures.get? failureId :=
        get?_erase_all _ _
      have hleft : Owned undisturbed
          { s with failures := s.injectedFids.foldl Failures.clear s.failures } := by
        refine h.restrict fun failureId => ?_
        rw [hcleared]
        by_cases hmem : failureId ∈ s.injectedFids
        · exact .inr ⟨if_pos hmem, h.apart failureId hmem⟩
        · exact .inl (if_neg hmem)
      refine ⟨hleft.operator, fun failureId f run hget horigin => ?_, fun _ hmem => ?_, fun _ => rfl⟩
      · obtain ⟨-, -, hmem⟩ := hleft.scenario failureId f run hget horigin
        have hmem' : failureId ∈ s.injectedFids := hmem
        have hget' : (s.injectedFids.foldl Failures.clear s.failures).get? failureId = some f := hget
        rw [hcleared, if_pos hmem'] at hget'
        cases hget'
      · cases hmem

/-- The operator has no failure where the action works. -/
def Action.Apart (undisturbed : Failures) : Action → Prop
  | .inject f => f.values?.isSome → undisturbed.get? f.failureId = none
  | .clear failureId =>
      if failureId = "" then ∀ other, undisturbed.get? other = none
      else undisturbed.get? failureId = none
  | _ => True

theorem Owned.spares_iff (h : Owned undisturbed s) (action : Action) :
    action.Spares s.failures ↔ action.Apart undisturbed := by
  cases action with
  | clear failureId =>
      simp only [Action.Spares, Action.Apart]
      by_cases hall : failureId = ""
      · rw [if_pos hall, if_pos hall]
        exact forall_congr' h.free_iff
      · rw [if_neg hall, if_neg hall]
        exact h.free_iff failureId
  | inject f => exact imp_congr_right fun _ => h.free_iff f.failureId
  | setParameter | setSpeed | aside => exact Iff.rfl

/-- An action of the active scenario. -/
theorem perform_owned (h : Owned undisturbed s) (hactive : s.active.isSome) {action : Action}
    (hapart : action.Apart undisturbed) :
    wp (perform action)
      (fun _ s' => action.raises = false ∧ Owned undisturbed s' ∧ s'.active = s.active ∧
        s'.elapsed = s.elapsed ∧ s'.params = action.sets s.params)
      (fun _ s' => Owned undisturbed s') s := by
  cases action with
  | inject f =>
      refine wp_mono (injectTracked_owned h hactive hapart) (fun _ s' hs => ?_) fun _ s' hs => ?_
      · obtain ⟨hsome, howned, hsame⟩ := hs
        refine ⟨?_, howned, hsame⟩
        rw [Action.raises, Option.isNone_eq_false_iff]
        exact hsome
      · rw [hs.2]
        exact h
  | clear failureId =>
      refine ⟨rfl, h.restrict fun other => ?_, rfl, rfl, rfl⟩
      simp only [Action.Apart] at hapart
      by_cases hall : failureId = ""
      · rw [if_pos hall] at hapart ⊢
        exact .inr ⟨rfl, hapart other⟩
      · rw [if_neg hall] at hapart ⊢
        rw [Failures.clear, get?_erase]
        by_cases heq : other = failureId
        · exact .inr ⟨if_pos heq, heq ▸ hapart⟩
        · exact .inl (if_neg heq)
  | setParameter paramId value =>
      exact ⟨rfl, ⟨h.operator, h.scenario, h.apart, h.idle⟩, rfl, rfl, rfl⟩
  | setSpeed value =>
      unfold perform
      rw [wp_bind, wp_fromExcept]
      refine ⟨fun speed hspeed => ?_, fun _ _ => h⟩
      rw [hspeed]
      exact ⟨rfl, h, rfl, rfl, rfl⟩
  | aside => exact ⟨rfl, h, rfl, rfl, rfl⟩

/-- A mark changes nothing that matters here. -/
theorem Owned.mark (h : Owned undisturbed s) (hactive : s.active.isSome)
    (f : ScenarioDefinition → ScenarioDefinition) :
    Owned undisturbed { s with active := s.active.map f } := by
  obtain ⟨defn, hdefn⟩ := Option.isSome_iff_exists.mp hactive
  have hmapped : s.active.map f = some (f defn) := by
    rw [hdefn]
    rfl
  rw [hmapped]
  refine ⟨h.operator, fun failureId g run hget horigin => ?_, h.apart, fun hidle => ?_⟩
  · exact ⟨rfl, (h.scenario failureId g run hget horigin).2⟩
  · cases hidle

/-- The events, by induction: what is fired is the list `firing`. -/
theorem checkEvents_owned {events : List ScenarioEvent} (h : Owned undisturbed s)
    (hactive : s.active.isSome) (position : Nat)
    (hapart : ∀ action ∈ firing events s.elapsed s.params, action.Apart undisturbed) :
    wp (checkEvents position events) (fun _ s' => Owned undisturbed s')
      (fun _ s' => Owned undisturbed s') s := by
  induction events generalizing s position with
  | nil => exact h
  | cons ev rest ih =>
      unfold checkEvents
      rw [wp_bind, wp_get]
      by_cases hdue : ev.isDue s.elapsed s.params = true
      · rw [if_pos hdue, wp_bind, markFired, wp_modify, wp_bind]
        rw [firing, if_pos hdue] at hapart
        have hmarked : (s.active.map fun defn : ScenarioDefinition => { defn with
            events := defn.events.modify position fun ev => { ev with fired := true } }).isSome := by
          rw [Option.isSome_map]
          exact hactive
        refine wp_mono (perform_owned (h.mark hactive _) hmarked
          (hapart ev.action List.mem_cons_self)) (fun _ s' hs => ?_) fun _ s' hs => hs
        obtain ⟨hquiet, howned, hsame, helapsed, hparams⟩ := hs
        refine ih howned (hsame ▸ hmarked) (position + 1) fun action haction => ?_
        rw [helapsed, hparams] at haction
        refine hapart action (List.mem_cons_of_mem _ ?_)
        rw [if_neg (Bool.eq_false_iff.mp hquiet)]
        exact haction
      · rw [if_neg hdue]
        rw [firing, if_neg hdue] at hapart
        exact ih h hactive (position + 1) hapart

theorem tick_owned (h : Owned undisturbed s) {dtSim : FloatValue}
    (hok : Disciplined s (.tick dtSim)) : Owned undisturbed (finalState (tick dtSim) s) := by
  refine wp_state.mp ?_
  unfold tick
  rw [wp_bind, wp_get]
  cases hdefn : s.active with
  | none => exact h
  | some defn =>
      have hclock : Owned undisturbed
          { s with active := some defn, elapsed := s.elapsed.add dtSim } := by
        rw [← hdefn]
        exact ⟨h.operator, h.scenario, h.apart, h.idle⟩
      simp only [wp_bind, wp_set]
      refine wp_mono (checkEvents_owned hclock rfl 0 fun action haction => ?_)
        (fun _ s' hs => ?_) fun _ s' hs => hs
      · exact (h.spares_iff action).mp (hok defn hdefn action haction)
      · by_cases hover : defn.durationS.le (s.elapsed.add dtSim) = true
        · rw [if_pos hover, wp_bind]
          exact wp_state.mpr (finish_owned hs)
        · rw [if_neg hover]
          exact hs

/-- The operator's own steps do the same to both. -/
theorem inject_owned (h : Owned undisturbed s) {f : FailureSpec} (hok : Disciplined s (.inject f)) :
    Owned (Step.alone undisturbed (.inject f)) (finalState (injectAs .operator f) s) := by
  refine wp_state.mp (wp_mono (injectAs_spec _ f s) (fun _ s' hs => ?_) fun _ s' hs => ?_)
  · obtain ⟨-, magnitude, durationS, hvalues, rfl⟩ := hs
    have hoff : f.failureId ∉ s.injectedFids := by
      refine hok ?_
      rw [hvalues]
      rfl
    simp only [Step.alone, hvalues]
    refine ⟨fun other => ?_, fun other g run hget horigin => ?_, fun other hother => ?_, h.idle⟩
    · show get? (set _ _ _) other = (get? (set _ _ _) other).filter _
      by_cases heq : other = f.failureId
      · rw [heq, get?_set_same, get?_set_same]
        rfl
      · rw [get?_set_ne _ heq, get?_set_ne _ heq, h.operator]
    · have hsame : get? (set _ _ _) other = some g := hget
      by_cases heq : other = f.failureId
      · rw [heq, get?_set_same] at hsame
        cases hsame
        cases horigin
      · rw [get?_set_ne _ heq] at hsame
        exact h.scenario other g run hsame horigin
    · have hne : other ≠ f.failureId := fun heq => hoff (heq ▸ hother)
      show get? (set _ _ _) other = none
      rw [get?_set_ne _ hne]
      exact h.apart other hother
  · rw [Step.alone, hs.1, hs.2]
    exact h

theorem clear_owned (h : Owned undisturbed s) (failureId : String) :
    Owned (undisturbed.clear failureId) { s with failures := s.failures.clear failureId } := by
  refine ⟨fun other => ?_, fun other f run hget horigin => ?_, fun other hother => ?_, h.idle⟩
  · show get? (erase _ _) other = (get? (erase _ _) other).filter _
    rw [get?_erase, get?_erase, h.operator]
    by_cases heq : other = failureId
    · rw [if_pos heq, if_pos heq]
      rfl
    · rw [if_neg heq, if_neg heq]
  · have hget' : get? (erase _ _) other = some f := hget
    rw [get?_erase] at hget'
    split at hget'
    · cases hget'
    · exact h.scenario other f run hget' horigin
  · show get? (erase _ _) other = none
    rw [get?_erase, h.apart other hother, ite_self]

theorem failureTick_owned (h : Owned undisturbed s) (dtSim : FloatValue) :
    Owned (undisturbed.tick dtSim) { s with failures := s.failures.tick dtSim } := by
  refine ⟨fun other => ?_, fun other f run hget horigin => ?_, fun other hother => ?_, h.idle⟩
  · rw [get?_tick, get?_tick, h.operator]
    cases hget : s.failures.get? other with
    | none => rfl
    | some f =>
        rw [Option.bind_some]
        cases hadvance : f.advance dtSim with
        | none =>
            cases horigin : f.origin with
            | operator => simp [Option.filter, horigin, hadvance]
            | scenario run => simp [Option.filter, horigin]
        | some f' =>
            have hsame := f.advance_origin hadvance
            cases horigin : f.origin with
            | operator => simp [Option.filter, horigin, hadvance, hsame]
            | scenario run => simp [Option.filter, horigin, hsame]
  · have hget' : (s.failures.tick dtSim).get? other = some f := hget
    rw [get?_tick] at hget'
    obtain ⟨g, hg, hadvance⟩ := Option.bind_eq_some_iff.mp hget'
    exact h.scenario other g run hg ((g.advance_origin hadvance).symm.trans horigin)
  · rw [get?_tick, h.apart other hother]
    rfl

/-- **One step** that keeps to the condition. -/
theorem Owned.step (h : Owned undisturbed s) {step : Step} (hok : Disciplined s step) :
    Owned (step.alone undisturbed) (step.run s) := by
  cases step with
  | start name => exact start_owned h hok
  | stop => exact finish_owned h
  | tick dtSim => exact tick_owned h hok
  | failureTick dtSim => exact failureTick_owned h dtSim
  | inject f => exact inject_owned h hok
  | clear failureId => exact clear_owned h failureId
  | clearAll =>
      refine ⟨fun _ => rfl, fun _ _ _ hget _ => ?_, fun _ _ => rfl, h.idle⟩
      cases hget
  | other params => exact ⟨h.operator, h.scenario, h.apart, h.idle⟩

theorem Run.owned (h : Run Disciplined undisturbed s) : Owned undisturbed s := by
  induction h with
  | boot scenarios params =>
      refine ⟨fun _ => rfl, fun _ _ _ hget _ => ?_, fun _ hmem => ?_, fun _ => rfl⟩
      · cases hget
      · cases hmem
  | step before step hok ih => exact ih.step hok

/-- A failure of the battery, that stays until it is cleared. -/
def batteryFailure : FailureSpec := { subsystem := "eps", failure := "bat_cell" }

/-- A scenario that starts with it. -/
def batteryScenario : ScenarioDefinition := { name := "battery", failures := [batteryFailure] }

/-- A scenario in which nothing happens. -/
def quietScenario : ScenarioDefinition := { name := "quiet" }

/-- The engine with these scenarios. -/
def trainingBoot : ScenarioEngine where
  scenarios := (Dict.empty.set "battery" batteryScenario).set "quiet" quietScenario

theorem trainingBoot_run (P : ScenarioEngine → Step → Prop) : Run P .empty trainingBoot :=
  Run.boot _ _

end Training
