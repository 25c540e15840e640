import Mathlib.Data.List.Basic
import Mathlib.Tactic.Common

/-!
# The procedure runner

A run is one coroutine: it loops over the steps and gives way wherever it waits.  Requests of
the operator are coroutines without a wait; they act between two parts of the run.  The point
the run is at is part of the state, so that a request can come at each wait, and only there.

What a step meets on its way (a telemetry value, the answer to a telecommand, an exception) is
chosen from outside.  The texts and times of the log are left out.
-/

namespace ProcedureRunner

/-- `ProcedureState`. -/
inductive ProcedureState where
  | idle | loaded | running | paused | completed | aborted | failed
  deriving DecidableEq, Repr

/-- `StepResult`. -/
inductive StepResult where
  | pending | running | passed | failed | skipped | timeout
  deriving DecidableEq, Repr

/-- How the runner executes a step; `other` is a step it does not know. -/
inductive Kind where
  | wait
  | goNogo
  | tlmCheck
  | command (verify : Bool)
  | other
  deriving DecidableEq, Repr

/-- Where the run is. -/
inductive Point where
  /-- The task is created, and has not begun. -/
  | created
  /-- At the top of the loop. -/
  | head (idx : Nat)
  /-- In `_pause_event.wait()`; the event may have been set since. -/
  | pauseWait (idx : Nat) (woken : Bool)
  | afterPause (idx : Nat)
  /-- In `_step_event.wait()`. -/
  | stepWait (idx : Nat) (woken : Bool)
  /-- Before the step is executed. -/
  | execute (idx : Nat)
  /-- In the wait of a timed step. -/
  | sleeping (idx : Nat)
  /-- In the sending of a telecommand. -/
  | sending (idx : Nat)
  /-- At the top of the polling loop of a condition. -/
  | checking (idx : Nat)
  /-- In the wait between two polls. -/
  | polling (idx : Nat)
  /-- The step is executed. -/
  | executed (idx : Nat) (success : Bool)
  /-- Behind the loop. -/
  | leaving
  /-- The coroutine has returned. -/
  | returned
  deriving DecidableEq, Repr

/-- Whether the run waits, so that a request can act. -/
def Point.waits : Point → Bool
  | .created | .pauseWait _ _ | .stepWait _ _ | .sleeping _ | .sending _ | .polling _ | .returned =>
      true
  | _ => false

/-- What the run depends on and requests change. -/
structure Runner where
  state : ProcedureState
  currentStep : Option Nat
  results : List StepResult
  stepByStep : Bool
  pauseEvent : Bool
  stepEvent : Bool
  /-- The task is cancelled; it is told when it goes on. -/
  cancelled : Bool
  point : Point
  /-- The steps whose telecommands were handed over, oldest first. -/
  sent : List Nat
  deriving DecidableEq, Repr

/-! ### Loading and starting -/

/-- `load(steps, step_by_step)`, unless a procedure is active. -/
def load (r : Runner) (steps : List Kind) (stepByStep : Bool) : Option Runner :=
  if r.state = .running ∨ r.state = .paused then none
  else some
    { r with
      state := .loaded
      currentStep := none
      stepByStep := stepByStep
      results := steps.map fun _ => .pending }

/-- `start()`. -/
def start (r : Runner) : Option Runner :=
  if r.state = .loaded then some
    { r with
      state := .running
      pauseEvent := true
      stepEvent := true
      cancelled := false
      point := .created
      sent := [] }
  else none

/-! ### Requests -/

/-- A wait for the pause event ends. -/
def Point.wakePause : Point → Point
  | .pauseWait idx _ => .pauseWait idx true
  | p => p

/-- A wait for the step event ends. -/
def Point.wakeStep : Point → Point
  | .stepWait idx _ => .stepWait idx true
  | p => p

/-- `_pause_event.set()`. -/
def Runner.setPause (r : Runner) : Runner :=
  { r with pauseEvent := true, point := r.point.wakePause }

/-- `_step_event.set()`. -/
def Runner.setStep (r : Runner) : Runner :=
  { r with stepEvent := true, point := r.point.wakeStep }

/-- `pause()`. -/
def pause (r : Runner) : Runner :=
  if r.state = .running then { r with state := .paused, pauseEvent := false } else r

/-- `resume()`. -/
def resume (r : Runner) : Runner :=
  if r.state = .paused then
    let r' := ({ r with state := .running } : Runner).setPause
    if r'.stepByStep then r'.setStep else r'
  else r

/-- A procedure is active. -/
def Runner.active (r : Runner) : Prop := r.state = .running ∨ r.state = .paused

instance (r : Runner) : Decidable r.active := inferInstanceAs (Decidable (_ ∨ _))

/-- `abort()`. -/
def abort (r : Runner) : Runner :=
  if r.active then
    let r' := ({ r with state := .aborted } : Runner).setPause.setStep
    { r' with cancelled := r'.cancelled || r'.point ≠ .returned }
  else r

/-- A paused procedure goes on. -/
def Runner.unpause (r : Runner) : Runner :=
  if r.state = .paused then ({ r with state := .running } : Runner).setPause else r

/-- `step_advance()`. -/
def stepAdvance (r : Runner) : Runner :=
  if r.active then r.unpause.setStep else r

/-- Record the result of a step. -/
def Runner.record (r : Runner) (idx : Nat) (result : StepResult) : Runner :=
  { r with results := r.results.set idx result }

/-- The mark of a skip. -/
def Runner.markSkipped (r : Runner) : Runner :=
  match r.currentStep with
  | some k => r.record k .skipped
  | none => r

/-- `skip_step()`. -/
def skipStep (r : Runner) : Runner :=
  if r.active then r.markSkipped.unpause.setStep else r

/-- The requests of the operator. -/
inductive Request where
  | pause | resume | abort | stepAdvance | skipStep
  deriving DecidableEq, Repr

/-- What a request does. -/
def Request.apply : Request → Runner → Runner
  | .pause => ProcedureRunner.pause
  | .resume => ProcedureRunner.resume
  | .abort => ProcedureRunner.abort
  | .stepAdvance => ProcedureRunner.stepAdvance
  | .skipStep => ProcedureRunner.skipStep

/-! ### The run -/

/-- What a step meets. -/
inductive Event where
  /-- The telecommand is sent; the condition is met. -/
  | good
  /-- The telecommand is refused; the condition is not met yet. -/
  | bad
  /-- The time of the condition is over. -/
  | expired
  /-- An exception. -/
  | raised
  deriving DecidableEq, Repr

/-- `except Exception`. -/
def Runner.fail (r : Runner) : Runner := { r with state := .failed, point := .returned }

/-- Go on at another point. -/
def Runner.goto (r : Runner) (p : Point) : Runner := { r with point := p }

/-- `_execute_step(idx, step)` up to its first wait. -/
def executeStep (event : Event) (idx : Nat) (kind : Kind) (r : Runner) : Runner :=
  if event = .raised then r.fail
  else
    match kind with
    | .wait => r.goto (.sleeping idx)
    | .goNogo => r.goto (.executed idx true)
    | .tlmCheck => r.goto (.checking idx)
    | .command _ => { r with point := .sending idx, sent := r.sent ++ [idx] }
    | .other => r.goto (.executed idx false)

/-- After the sending of a telecommand: a step that verifies polls its condition. -/
def afterSending (event : Event) (idx : Nat) (kind : Kind) (r : Runner) : Runner :=
  if event = .good then
    if kind = .command true then r.goto (.checking idx) else r.goto (.executed idx true)
  else r.goto (.executed idx false)

/-- One round of `_wait_for_condition`. -/
def checkCondition (event : Event) (idx : Nat) (r : Runner) : Runner :=
  match event with
  | .expired =>
      (r.record (r.currentStep.getD (r.results.length - 1)) .timeout).goto (.executed idx false)
  | _ =>
      if r.state = .aborted then r.goto (.executed idx false)
      else
        match event with
        | .good => r.goto (.executed idx true)
        | .raised => r.fail
        | _ => r.goto (.polling idx)

/-- What becomes of an executed step. -/
def afterStep (idx : Nat) (success : Bool) (r : Runner) : Runner :=
  if r.state = .aborted then r.goto .leaving
  else if success then (r.record idx .passed).goto (.head (idx + 1))
  else if r.results[idx]? = some .skipped then r.goto (.head (idx + 1))
  else { r.record idx .failed with state := .failed, point := .returned }

/-- The head of the loop. -/
def loopHead (steps : List Kind) (idx : Nat) (r : Runner) : Runner :=
  if steps.length ≤ idx then r.goto .leaving
  else if r.state = .aborted ∨ r.state = .failed then r.goto .leaving
  else if r.pauseEvent then r.goto (.afterPause idx)
  else r.goto (.pauseWait idx false)

/-- Behind the wait for the pause event: in the step-by-step mode the run pauses by itself. -/
def awaitAdvance (idx : Nat) (r : Runner) : Runner :=
  if r.state = .aborted then r.goto .leaving
  else if r.stepByStep ∧ 0 < idx then
    { r with
      stepEvent := false
      state := .paused
      pauseEvent := false
      point := .stepWait idx false }
  else r.goto (.execute idx)

/-- Behind the wait for the step event. -/
def afterAdvance (idx : Nat) (r : Runner) : Runner :=
  if r.state = .aborted then r.goto .leaving
  else { r with state := .running, point := .execute idx }

/-- The step at an index is taken up. -/
def takeStep (steps : List Kind) (event : Event) (idx : Nat) (r : Runner) : Runner :=
  let r' : Runner := { r with currentStep := some idx }
  if r'.results[idx]? = some .skipped then r'.goto (.head (idx + 1))
  else executeStep event idx (steps.getD idx .other) (r'.record idx .running)

/-- Behind the loop. -/
def leaveLoop (r : Runner) : Runner :=
  if r.state = .running then { r with state := .completed, point := .returned }
  else r.goto .returned

/-- The run goes on from a wait, unless the task is cancelled: then it ends where it is. -/
def Runner.resumed (r : Runner) (next : Option Runner) : Option Runner :=
  if r.cancelled then some (r.goto .returned) else next

/-- One part of `_run_loop()`; none while it has to wait. -/
def advance (steps : List Kind) (event : Event) (r : Runner) : Option Runner :=
  match r.point with
  | .created => r.resumed (some (r.goto (.head 0)))
  | .head idx => some (loopHead steps idx r)
  | .pauseWait idx woken => r.resumed (if woken then some (r.goto (.afterPause idx)) else none)
  | .afterPause idx => some (awaitAdvance idx r)
  | .stepWait idx woken => r.resumed (if woken then some (afterAdvance idx r) else none)
  | .execute idx => some (takeStep steps event idx r)
  | .sleeping idx => r.resumed (some (r.goto (.executed idx true)))
  | .sending idx => r.resumed (some (afterSending event idx (steps.getD idx .other) r))
  | .checking idx => some (checkCondition event idx r)
  | .polling idx => r.resumed (some (r.goto (.checking idx)))
  | .executed idx success => some (afterStep idx success r)
  | .leaving => some (leaveLoop r)
  | .returned => none

/-- What can happen. -/
inductive Action where
  | request (q : Request)
  | advance (event : Event)
  deriving DecidableEq, Repr

/-- What an action does, where it can happen. -/
def step (steps : List Kind) (a : Action) (r : Runner) : Option Runner :=
  match a with
  | .request q => if r.point.waits then some (q.apply r) else none
  | .advance event => ProcedureRunner.advance steps event r

/-- A run of a procedure. -/
def run (steps : List Kind) : List Action → Runner → Option Runner
  | [], r => some r
  | a :: rest, r => step steps a r >>= run steps rest

/-- A runner whose run of a procedure is just started. -/
def started (steps : List Kind) (stepByStep : Bool) : Runner where
  state := .running
  currentStep := none
  results := steps.map fun _ => .pending
  stepByStep := stepByStep
  pauseEvent := true
  stepEvent := true
  cancelled := false
  point := .created
  sent := []

/-- Loading and starting give that runner, whatever was before. -/
theorem start_load {r loaded : Runner} {steps : List Kind} {stepByStep : Bool}
    (h : load r steps stepByStep = some loaded) :
    start loaded = some (started steps stepByStep) := by
  unfold load at h
  split_ifs at h
  cases h
  rfl

/-! ### What a request changes -/

/-- The next step to be taken up. -/
def Point.next : Point → Option Nat
  | .created => some 0
  | .head idx | .pauseWait idx _ | .afterPause idx | .stepWait idx _ | .execute idx => some idx
  | .sleeping idx | .sending idx | .checking idx | .polling idx | .executed idx _ => some (idx + 1)
  | .leaving | .returned => none

/-- The step under way. -/
def Point.executing : Point → Option Nat
  | .sleeping idx | .sending idx | .checking idx | .polling idx | .executed idx _ => some idx
  | _ => none

variable (p : Point)

@[simp] theorem wakePause_next : p.wakePause.next = p.next := by cases p <;> rfl

@[simp] theorem wakeStep_next : p.wakeStep.next = p.next := by cases p <;> rfl

@[simp] theorem wakePause_executing : p.wakePause.executing = p.executing := by
  cases p <;> rfl

@[simp] theorem wakeStep_executing : p.wakeStep.executing = p.executing := by
  cases p <;> rfl

@[simp] theorem wakePause_waits : p.wakePause.waits = p.waits := by cases p <;> rfl

@[simp] theorem wakeStep_waits : p.wakeStep.waits = p.waits := by cases p <;> rfl

@[simp] theorem wakePause_returned : p.wakePause = .returned ↔ p = .returned := by
  cases p <;> simp [Point.wakePause]

@[simp] theorem wakeStep_returned : p.wakeStep = .returned ↔ p = .returned := by
  cases p <;> simp [Point.wakeStep]

/-- A request leaves the run where it is, awake or not. -/
structure SamePlace (r r' : Runner) : Prop where
  next : r'.point.next = r.point.next
  executing : r'.point.executing = r.point.executing
  waits : r'.point.waits = r.point.waits
  returned : r'.point = .returned ↔ r.point = .returned
  currentStep : r'.currentStep = r.currentStep
  sent : r'.sent = r.sent

theorem SamePlace.refl (r : Runner) : SamePlace r r := ⟨rfl, rfl, rfl, Iff.rfl, rfl, rfl⟩

theorem SamePlace.trans {r r' r'' : Runner} (h : SamePlace r r') (h' : SamePlace r' r'') :
    SamePlace r r'' where
  next := h'.next.trans h.next
  executing := h'.executing.trans h.executing
  waits := h'.waits.trans h.waits
  returned := h'.returned.trans h.returned
  currentStep := h'.currentStep.trans h.currentStep
  sent := h'.sent.trans h.sent

theorem samePlace_setPause (r : Runner) : SamePlace r r.setPause where
  next := wakePause_next r.point
  executing := wakePause_executing r.point
  waits := wakePause_waits r.point
  returned := wakePause_returned r.point
  currentStep := rfl
  sent := rfl

theorem samePlace_setStep (r : Runner) : SamePlace r r.setStep where
  next := wakeStep_next r.point
  executing := wakeStep_executing r.point
  waits := wakeStep_waits r.point
  returned := wakeStep_returned r.point
  currentStep := rfl
  sent := rfl

theorem samePlace_state (r : Runner) (state : ProcedureState) (pauseEvent : Bool) :
    SamePlace r { r with state := state, pauseEvent := pauseEvent } :=
  ⟨rfl, rfl, rfl, Iff.rfl, rfl, rfl⟩

theorem samePlace_unpause (r : Runner) : SamePlace r r.unpause := by
  unfold Runner.unpause
  split_ifs
  · exact (samePlace_state r .running r.pauseEvent).trans (samePlace_setPause _)
  · exact .refl r

theorem samePlace_markSkipped (r : Runner) : SamePlace r r.markSkipped := by
  unfold Runner.markSkipped
  split
  · exact ⟨rfl, rfl, rfl, Iff.rfl, rfl, rfl⟩
  · exact .refl r

theorem samePlace_apply (q : Request) (r : Runner) : SamePlace r (q.apply r) := by
  cases q with
  | pause =>
      show SamePlace r (pause r)
      unfold pause
      split_ifs
      · exact samePlace_state r .paused false
      · exact .refl r
  | resume =>
      show SamePlace r (resume r)
      unfold resume
      split_ifs
      · dsimp only
        have hset := (samePlace_state r .running r.pauseEvent).trans (samePlace_setPause _)
        split_ifs
        · exact hset.trans (samePlace_setStep _)
        · exact hset
      · exact .refl r
  | abort =>
      show SamePlace r (abort r)
      unfold abort
      split_ifs
      · have hset := ((samePlace_state r .aborted r.pauseEvent).trans
          (samePlace_setPause _)).trans (samePlace_setStep _)
        exact hset.trans ⟨rfl, rfl, rfl, Iff.rfl, rfl, rfl⟩
      · exact .refl r
  | stepAdvance =>
      show SamePlace r (stepAdvance r)
      unfold stepAdvance
      split_ifs
      · exact (samePlace_unpause r).trans (samePlace_setStep _)
      · exact .refl r
  | skipStep =>
      show SamePlace r (skipStep r)
      unfold skipStep
      split_ifs
      · exact ((samePlace_markSkipped r).trans (samePlace_unpause _)).trans (samePlace_setStep _)
      · exact .refl r

@[simp] theorem unpause_results (r : Runner) : r.unpause.results = r.results := by
  unfold Runner.unpause
  split_ifs <;> rfl

/-- What a request other than a skip does to the results: nothing. -/
theorem apply_results {q : Request} (h : q ≠ .skipStep) (r : Runner) :
    (q.apply r).results = r.results := by
  cases q with
  | pause => simp only [Request.apply, pause]; split_ifs <;> rfl
  | resume => simp only [Request.apply, resume]; split_ifs <;> rfl
  | abort => simp only [Request.apply, abort]; split_ifs <;> rfl
  | stepAdvance =>
      simp only [Request.apply, stepAdvance]
      split_ifs
      · exact unpause_results r
      · rfl
  | skipStep => exact absurd rfl h

variable {r : Runner}

/-- What a skip does to the results. -/
theorem skipStep_results (h : r.active) : (skipStep r).results = r.markSkipped.results := by
  unfold skipStep
  rw [if_pos h]
  exact unpause_results r.markSkipped

theorem unpause_active (h : r.active) : r.unpause.state = .running := by
  unfold Runner.unpause
  split_ifs with hpaused
  · rfl
  · exact h.resolve_right hpaused

theorem markSkipped_state (r : Runner) :
    r.markSkipped.state = r.state ∧ r.markSkipped.cancelled = r.cancelled := by
  unfold Runner.markSkipped
  split <;> exact ⟨rfl, rfl⟩

theorem unpause_cancelled (r : Runner) : r.unpause.cancelled = r.cancelled := by
  unfold Runner.unpause
  split_ifs <;> rfl

/-- A request acts on an active procedure only.  It leaves it active, or aborts it; only then
the task is cancelled. -/
theorem apply_state (q : Request) (r : Runner) :
    q.apply r = r ∨ r.active ∧
      ((q.apply r).state = .aborted ∨ (q.apply r).active ∧ (q.apply r).cancelled = r.cancelled) := by
  cases q with
  | pause =>
      show pause r = r ∨ _ ∧ ((pause r).state = _ ∨ (pause r).active ∧ (pause r).cancelled = _)
      unfold pause
      split_ifs with h
      · exact .inr ⟨.inl h, .inr ⟨.inr rfl, rfl⟩⟩
      · exact .inl rfl
  | resume =>
      show resume r = r ∨
        _ ∧ ((resume r).state = _ ∨ (resume r).active ∧ (resume r).cancelled = _)
      unfold resume
      split_ifs with h
      · dsimp only
        split_ifs <;> exact .inr ⟨.inr h, .inr ⟨.inl rfl, rfl⟩⟩
      · exact .inl rfl
  | abort =>
      show abort r = r ∨ _ ∧ ((abort r).state = _ ∨ _)
      unfold abort
      split_ifs with h
      · exact .inr ⟨h, .inl rfl⟩
      · exact .inl rfl
  | stepAdvance =>
      show stepAdvance r = r ∨
        _ ∧ (_ ∨ (stepAdvance r).active ∧ (stepAdvance r).cancelled = r.cancelled)
      unfold stepAdvance
      split_ifs with h
      · exact .inr ⟨h, .inr ⟨.inl (unpause_active h), unpause_cancelled r⟩⟩
      · exact .inl rfl
  | skipStep =>
      show skipStep r = r ∨ _ ∧ (_ ∨ (skipStep r).active ∧ (skipStep r).cancelled = r.cancelled)
      unfold skipStep
      obtain ⟨hstate, hcancelled⟩ := markSkipped_state r
      split_ifs with h
      · have hactive : r.markSkipped.active := by
          unfold Runner.active
          rw [hstate]
          exact h
        exact .inr ⟨h, .inr ⟨.inl (unpause_active hactive),
          (unpause_cancelled r.markSkipped).trans hcancelled⟩⟩
      · exact .inl rfl

/-! ### Runs -/

variable {steps : List Kind}

/-- Every action of a run is of a kind. -/
def Along (steps : List Kind) (P : Action → Runner → Prop) : List Action → Runner → Prop
  | [], _ => True
  | a :: rest, r => P a r ∧ ∀ r', step steps a r = some r' → Along steps P rest r'

variable {r r' : Runner} {P : Action → Runner → Prop}

theorem along_cons {a : Action} {rest : List Action} (ha : P a r) (hstep : step steps a r = some r')
    (hrest : Along steps P rest r') : Along steps P (a :: rest) r := by
  refine ⟨ha, fun next hnext => ?_⟩
  obtain rfl := Option.some.inj (hstep.symm.trans hnext)
  exact hrest

theorem run_append (first more : List Action) (r : Runner) :
    run steps (first ++ more) r = run steps first r >>= run steps more := by
  induction first generalizing r with
  | nil => rfl
  | cons a rest ih =>
      show step steps a r >>= run steps (rest ++ more) = (step steps a r >>= _) >>= _
      rw [bind_assoc]
      exact congrArg _ (funext ih)

theorem along_append {first more : List Action} (h : Along steps P (first ++ more) r)
    (hr : run steps first r = some r') : Along steps P first r ∧ Along steps P more r' := by
  induction first generalizing r with
  | nil => exact ⟨trivial, Option.some.inj hr ▸ h⟩
  | cons a rest ih =>
      obtain ⟨next, hnext, hrest⟩ := Option.bind_eq_some_iff.mp hr
      obtain ⟨-, hmore⟩ := ih (h.2 next hnext) hrest
      refine ⟨⟨h.1, fun other hother => ?_⟩, hmore⟩
      obtain rfl := Option.some.inj (hnext.symm.trans hother)
      exact (ih (h.2 next hnext) hrest).1

/-- What each action of a kind preserves holds at the end of a run of them. -/
theorem run_preserves {I : Runner → Prop}
    (hstep : ∀ a r r', P a r → I r → step steps a r = some r' → I r') {actions : List Action}
    (hr : I r) (halong : Along steps P actions r) (h : run steps actions r = some r') : I r' := by
  induction actions generalizing r with
  | nil => exact Option.some.inj h ▸ hr
  | cons a rest ih =>
      obtain ⟨next, hnext, hrest⟩ := Option.bind_eq_some_iff.mp h
      exact ih (hstep a r next halong.1 hr hnext) (halong.2 next hnext) hrest

/-- The indices of a run are in order: the steps to come are not skipped yet, and the current
step is before them, or under way. -/
structure Ordered (r : Runner) : Prop where
  fresh : ∀ n, r.point.next = some n → ∀ j, n ≤ j → r.results[j]? ≠ some .skipped
  current : ∀ n k, r.point.next = some n → r.currentStep = some k → k < n
  executing : ∀ idx, r.point.executing = some idx → r.currentStep = some idx

theorem ordered_started (steps : List Kind) (stepByStep : Bool) :
    Ordered (started steps stepByStep) where
  fresh := by
    rintro n - j - h
    obtain ⟨k, -, hk⟩ := List.mem_map.mp (List.mem_of_getElem? h)
    cases hk
  current := nofun
  executing := nofun

theorem ordered_apply (q : Request) (h : Ordered r) : Ordered (q.apply r) := by
  have hplace := samePlace_apply q r
  refine ⟨fun n hn j hj => ?_, fun n k hn hk => ?_, fun idx hidx => ?_⟩
  · rw [hplace.next] at hn
    have hfresh := h.fresh n hn j hj
    by_cases hskip : q = .skipStep
    · subst hskip
      by_cases hactive : r.active
      · show (skipStep r).results[j]? ≠ _
        rw [skipStep_results hactive]
        unfold Runner.markSkipped
        split
        · rename_i k hk
          have hlt := h.current n k hn hk
          show (r.results.set k .skipped)[j]? ≠ _
          rw [List.getElem?_set_ne (by omega)]
          exact hfresh
        · exact hfresh
      · show (skipStep r).results[j]? ≠ _
        unfold skipStep
        rw [if_neg hactive]
        exact hfresh
    · rw [apply_results hskip]
      exact hfresh
  · rw [hplace.next] at hn
    rw [hplace.currentStep] at hk
    exact h.current n k hn hk
  · rw [hplace.executing] at hidx
    rw [hplace.currentStep]
    exact h.executing idx hidx

/-- Going on without a new result keeps the order. -/
theorem Ordered.move (h : Ordered r) (hresults : r'.results = r.results)
    (hcurrent : r'.currentStep = r.currentStep)
    (hnext : r'.point.next = none ∨ r'.point.next = r.point.next)
    (hexecuting : r'.point.executing = none ∨ r'.point.executing = r.point.executing) :
    Ordered r' := by
  refine ⟨fun n hn => ?_, fun n k hn hk => ?_, fun idx hidx => ?_⟩
  · rw [hresults]
    rcases hnext with hnone | hsame
    · rw [hnone] at hn
      cases hn
    · exact h.fresh n (hsame ▸ hn)
  · rw [hcurrent] at hk
    rcases hnext with hnone | hsame
    · rw [hnone] at hn
      cases hn
    · exact h.current n k (hsame ▸ hn) hk
  · rw [hcurrent]
    rcases hexecuting with hnone | hsame
    · rw [hnone] at hidx
      cases hidx
    · exact h.executing idx (hsame ▸ hidx)

/-- A result of a step before the next one keeps the order. -/
theorem Ordered.record (h : Ordered r) {k : Nat} (result : StepResult)
    (hk : ∀ n, r.point.next = some n → k < n) : Ordered (r.record k result) := by
  refine ⟨fun n hn j hj => ?_, h.current, h.executing⟩
  have hlt := hk n hn
  show (r.results.set k result)[j]? ≠ _
  rw [List.getElem?_set_ne (by omega)]
  exact h.fresh n hn j hj

/-- The step that is taken up is not skipped. -/
theorem takeStep_eq (h : Ordered r) {idx : Nat} (hpoint : r.point = .execute idx) (event : Event) :
    takeStep steps event idx r = executeStep event idx (steps.getD idx .other)
      ({ r with currentStep := some idx, results := r.results.set idx .running }) := by
  have hfresh := h.fresh idx (by rw [hpoint]; rfl) idx (Nat.le_refl idx)
  exact if_neg hfresh

/-- Where the execution of a step is after its beginning. -/
theorem executeStep_cases (event : Event) (idx : Nat) (kind : Kind) (r : Runner) :
    executeStep event idx kind r = r.fail ∨
      ∃ p sent, (p.executing = some idx ∧ p.next = some (idx + 1)) ∧ p ≠ .returned ∧
        executeStep event idx kind r = { r with point := p, sent := sent } := by
  unfold executeStep
  split_ifs
  · exact .inl rfl
  · right
    cases kind with
    | wait => exact ⟨.sleeping idx, r.sent, ⟨rfl, rfl⟩, nofun, rfl⟩
    | goNogo => exact ⟨.executed idx true, r.sent, ⟨rfl, rfl⟩, nofun, rfl⟩
    | tlmCheck => exact ⟨.checking idx, r.sent, ⟨rfl, rfl⟩, nofun, rfl⟩
    | command verify => exact ⟨.sending idx, r.sent ++ [idx], ⟨rfl, rfl⟩, nofun, rfl⟩
    | other => exact ⟨.executed idx false, r.sent, ⟨rfl, rfl⟩, nofun, rfl⟩

theorem ordered_takeStep (h : Ordered r) {idx : Nat} (hpoint : r.point = .execute idx)
    (event : Event) : Ordered (takeStep steps event idx r) := by
  rw [takeStep_eq h hpoint]
  rcases executeStep_cases event idx (steps.getD idx .other)
    { r with currentStep := some idx, results := r.results.set idx .running } with
    hfail | ⟨p, sent, ⟨hexecuting, hnext⟩, -, hplace⟩
  · rw [hfail]
    exact ⟨nofun, nofun, nofun⟩
  · rw [hplace]
    refine ⟨fun n hn j hj => ?_, fun n k hn hk => ?_, fun i hi => ?_⟩
    · obtain rfl := Option.some.inj (hnext.symm.trans hn)
      rw [List.getElem?_set_ne (by omega)]
      exact h.fresh idx (by rw [hpoint]; rfl) j (by omega)
    · obtain rfl := Option.some.inj (hnext.symm.trans hn)
      cases hk
      omega
    · obtain rfl := Option.some.inj (hexecuting.symm.trans hi)
      rfl

/-! ### The parts of a run -/

/-- Where a run may go on with all else as it is. -/
structure Goes (steps : List Kind) (r : Runner) (p : Point) : Prop where
  source : r.point ≠ .returned
  next : p.next = none ∨ p.next = r.point.next
  executing : p.executing = none ∨ p.executing = r.point.executing
  returned : p ≠ .returned
  head : ∀ idx, p = .head idx → (idx = 0 ∧ r.point = .created) ∨
    ∃ k, idx = k + 1 ∧ r.point = .executed k false ∧ r.results[k]? = some .skipped
  leaving : p = .leaving →
    (∃ idx, r.point = .head idx ∧ steps.length ≤ idx) ∨ r.state = .aborted ∨ r.state = .failed
  failed : ∀ k, p = .executed k false →
    (r.point = .sending k ∧ r.cancelled = false) ∨ (r.point = .checking k ∧ r.state = .aborted)

/-- What one part of a run does. -/
inductive Part (steps : List Kind) (event : Event) (r : Runner) : Runner → Prop where
  /-- The task is told that it is cancelled. -/
  | told : r.cancelled = true → Part steps event r (r.goto .returned)
  | went {p : Point} : Goes steps r p → Part steps event r (r.goto p)
  /-- The step-by-step mode pauses before a step. -/
  | paused {idx : Nat} : r.point = .afterPause idx → r.state ≠ .aborted →
      Part steps event r
        { r with
          stepEvent := false
          state := .paused
          pauseEvent := false
          point := .stepWait idx false }
  | advanced {idx : Nat} {woken : Bool} : r.point = .stepWait idx woken → r.cancelled = false →
      Part steps event r { r with state := .running, point := .execute idx }
  | took {idx : Nat} : r.point = .execute idx → Part steps event r (takeStep steps event idx r)
  /-- The polling of a condition raises an exception. -/
  | raised {idx : Nat} : r.point = .checking idx → Part steps event r r.fail
  | expired {idx : Nat} : r.point = .checking idx → event = .expired →
      Part steps event r ((r.record (r.currentStep.getD (r.results.length - 1)) .timeout).goto
        (.executed idx false))
  | passed {idx : Nat} : r.point = .executed idx true → r.state ≠ .aborted →
      Part steps event r ((r.record idx .passed).goto (.head (idx + 1)))
  | failed {idx : Nat} : r.point = .executed idx false → r.results[idx]? ≠ some .skipped →
      Part steps event r { r.record idx .failed with state := .failed, point := .returned }
  | completed : r.point = .leaving → r.state = .running →
      Part steps event r { r with state := .completed, point := .returned }
  | ended : r.point = .leaving → r.state ≠ .running → Part steps event r (r.goto .returned)

theorem Part.resumed {event : Event} {next : Option Runner}
    (hnext : r.cancelled = false → ∀ r', next = some r' → Part steps event r r')
    (hr : r.resumed next = some r') : Part steps event r r' := by
  unfold Runner.resumed at hr
  split_ifs at hr with hcancelled
  · cases hr
    exact .told hcancelled
  · exact hnext (Bool.eq_false_iff.mpr hcancelled) r' hr

/-- Whatever the point of a run is, it goes on by one of the parts. -/
theorem part_of_advance {event : Event} (hr : advance steps event r = some r') :
    Part steps event r r' := by
  obtain ⟨state, currentStep, results, stepByStep, pauseEvent, stepEvent, cancelled, point, sent⟩ :=
    r
  cases point with
  | created =>
      refine .resumed ?_ hr
      rintro - _ ⟨⟩
      exact .went ⟨nofun, .inr rfl, .inl rfl, nofun,
        fun idx h => .inl ⟨(Point.head.inj h).symm, rfl⟩, nofun, nofun⟩
  | head idx =>
      cases hr
      unfold loopHead
      split_ifs with hend hended
      · exact .went ⟨nofun, .inl rfl, .inl rfl, nofun, nofun, fun _ => .inl ⟨idx, rfl, hend⟩, nofun⟩
      · exact .went ⟨nofun, .inl rfl, .inl rfl, nofun, nofun, fun _ => .inr hended, nofun⟩
      · exact .went ⟨nofun, .inr rfl, .inl rfl, nofun, nofun, nofun, nofun⟩
      · exact .went ⟨nofun, .inr rfl, .inl rfl, nofun, nofun, nofun, nofun⟩
  | pauseWait idx woken =>
      refine .resumed (fun _ r' hr' => ?_) hr
      split_ifs at hr'
      cases hr'
      exact .went ⟨nofun, .inr rfl, .inl rfl, nofun, nofun, nofun, nofun⟩
  | afterPause idx =>
      cases hr
      unfold awaitAdvance
      split_ifs with haborted
      · exact .went ⟨nofun, .inl rfl, .inl rfl, nofun, nofun, fun _ => .inr (.inl haborted), nofun⟩
      · exact .paused rfl haborted
      · exact .went ⟨nofun, .inr rfl, .inl rfl, nofun, nofun, nofun, nofun⟩
  | stepWait idx woken =>
      refine .resumed (fun hcancelled r' hr' => ?_) hr
      split_ifs at hr'
      cases hr'
      unfold afterAdvance
      split_ifs with haborted
      · exact .went ⟨nofun, .inl rfl, .inl rfl, nofun, nofun, fun _ => .inr (.inl haborted), nofun⟩
      · exact .advanced rfl hcancelled
  | execute idx =>
      cases hr
      exact .took rfl
  | sleeping | polling =>
      refine .resumed ?_ hr
      rintro - _ ⟨⟩
      exact .went ⟨nofun, .inr rfl, .inr rfl, nofun, nofun, nofun, nofun⟩
  | sending idx =>
      refine .resumed ?_ hr
      rintro hcancelled _ ⟨⟩
      unfold afterSending
      split_ifs
      · exact .went ⟨nofun, .inr rfl, .inr rfl, nofun, nofun, nofun, nofun⟩
      · exact .went ⟨nofun, .inr rfl, .inr rfl, nofun, nofun, nofun, nofun⟩
      · refine .went ⟨nofun, .inr rfl, .inr rfl, nofun, nofun, nofun, ?_⟩
        rintro k ⟨⟩
        exact .inl ⟨rfl, hcancelled⟩
  | checking idx =>
      cases hr
      unfold checkCondition
      split
      · exact .expired rfl rfl
      · split_ifs with haborted
        · refine .went ⟨nofun, .inr rfl, .inr rfl, nofun, nofun, nofun, ?_⟩
          rintro k ⟨⟩
          exact .inr ⟨rfl, haborted⟩
        · split
          · exact .went ⟨nofun, .inr rfl, .inr rfl, nofun, nofun, nofun, nofun⟩
          · exact .raised rfl
          · exact .went ⟨nofun, .inr rfl, .inr rfl, nofun, nofun, nofun, nofun⟩
  | executed idx success =>
      cases hr
      unfold afterStep
      split_ifs with haborted hsuccess hskipped
      · exact .went ⟨nofun, .inl rfl, .inl rfl, nofun, nofun, fun _ => .inr (.inl haborted), nofun⟩
      · exact .passed (by rw [hsuccess]) haborted
      · obtain rfl := Bool.eq_false_iff.mpr hsuccess
        exact .went ⟨nofun, .inr rfl, .inl rfl, nofun,
          fun i h => .inr ⟨idx, (Point.head.inj h).symm, rfl, hskipped⟩, nofun, nofun⟩
      · obtain rfl := Bool.eq_false_iff.mpr hsuccess
        exact .failed rfl hskipped
  | leaving =>
      cases hr
      unfold leaveLoop
      split_ifs with hrunning
      · exact .completed rfl hrunning
      · exact .ended rfl hrunning
  | returned => cases hr

/-- Each part of a run keeps the order. -/
theorem ordered_advance {event : Event} (h : Ordered r) (hr : advance steps event r = some r') :
    Ordered r' := by
  have hbefore : ∀ {idx}, r.point.next = some (idx + 1) → ∀ n, r.point.next = some n → idx < n := by
    intro idx hidx n hn
    obtain rfl := Option.some.inj (hidx.symm.trans hn)
    exact Nat.lt_succ_self idx
  cases part_of_advance hr with
  | told | raised | failed | completed | ended => exact ⟨nofun, nofun, nofun⟩
  | went hgoes => exact h.move rfl rfl hgoes.next hgoes.executing
  | paused hpoint => exact h.move rfl rfl (.inr (by rw [hpoint]; rfl)) (.inl rfl)
  | advanced hpoint => exact h.move rfl rfl (.inr (by rw [hpoint]; rfl)) (.inl rfl)
  | took hpoint => exact ordered_takeStep h hpoint event
  | expired hpoint =>
      rw [h.executing _ (by rw [hpoint]; rfl)]
      exact (h.record .timeout (hbefore (by rw [hpoint]; rfl))).move rfl rfl
        (.inr (by show _ = r.point.next; rw [hpoint]; rfl))
        (.inr (by show _ = r.point.executing; rw [hpoint]; rfl))
  | passed hpoint =>
      exact (h.record .passed (hbefore (by rw [hpoint]; rfl))).move rfl rfl
        (.inr (by show _ = r.point.next; rw [hpoint]; rfl)) (.inl rfl)

theorem ordered_step {a : Action} (h : Ordered r) (hr : step steps a r = some r') : Ordered r' := by
  cases a with
  | advance event => exact ordered_advance h hr
  | request q =>
      unfold step at hr
      split_ifs at hr
      exact Option.some.inj hr ▸ ordered_apply q h

/-! ### How a run ends -/

/-- `COMPLETED`, `ABORTED` or `FAILED`. -/
def ProcedureState.Terminal (s : ProcedureState) : Prop :=
  s = .completed ∨ s = .aborted ∨ s = .failed

instance (s : ProcedureState) : Decidable s.Terminal := inferInstanceAs (Decidable (_ ∨ _ ∨ _))

/-- The action does not, while the run is paused, begin an empty procedure or end the last step
other than by its failure. -/
def EndsUnpaused (steps : List Kind) (a : Action) (r : Runner) : Prop :=
  r.state = .paused → match a, r.point with
    | .advance _, .created => steps ≠ []
    | .advance _, .executed idx success =>
        idx + 1 < steps.length ∨ success = false ∧ r.results[idx]? ≠ some .skipped
    | _, _ => True

/-- The state fits the point of the run. -/
structure Sound (steps : List Kind) (r : Runner) : Prop where
  ordered : Ordered r
  live : r.point ≠ .returned → r.active ∨ r.state = .aborted
  ended : r.point = .returned → r.state.Terminal
  told : r.cancelled = true → r.state.Terminal
  exhausted : ∀ idx, r.point = .head idx → steps.length ≤ idx → r.state ≠ .paused
  left : r.point = .leaving → r.state ≠ .paused

theorem sound_started (steps : List Kind) (stepByStep : Bool) :
    Sound steps (started steps stepByStep) where
  ordered := ordered_started steps stepByStep
  live _ := .inl (.inl rfl)
  ended := nofun
  told := nofun
  exhausted := nofun
  left := nofun

theorem terminal_not_active (h : r.state.Terminal) : ¬ r.active := by
  rintro (hrunning | hpaused) <;> rcases h with hs | hs | hs <;> simp_all

theorem sound_apply (q : Request) (h : Sound steps r) (hwaits : r.point.waits = true) :
    Sound steps (q.apply r) := by
  have hplace := samePlace_apply q r
  have hwaits' : (q.apply r).point.waits = true := hplace.waits.trans hwaits
  rcases apply_state q r with hsame | ⟨hactive, hstate⟩
  · rwa [hsame]
  · have hnot : ¬ r.point = .returned := fun hreturned =>
      terminal_not_active (h.ended hreturned) hactive
    refine ⟨ordered_apply q h.ordered, fun _ => ?_, fun hreturned => ?_, fun hcancelled => ?_,
      fun idx hhead => ?_, fun hleaving => ?_⟩
    · exact hstate.elim .inr fun hs => .inl hs.1
    · exact absurd (hplace.returned.mp hreturned) hnot
    · rcases hstate with haborted | ⟨-, hkept⟩
      · exact .inr (.inl haborted)
      · rw [hkept] at hcancelled
        exact absurd hactive (terminal_not_active (h.told hcancelled))
    · rw [hhead] at hwaits'
      cases hwaits'
    · rw [hleaving] at hwaits'
      cases hwaits'

/-- Going on with the state as it was. -/
theorem Sound.move (h : Sound steps r) (hordered : Ordered r') (hstate : r'.state = r.state)
    (hcancelled : r'.cancelled = r.cancelled) (hpoint : r.point ≠ .returned)
    (hreturned : r'.point ≠ .returned)
    (hexhausted : ∀ idx, r'.point = .head idx → steps.length ≤ idx → r.state ≠ .paused)
    (hleft : r'.point = .leaving → r.state ≠ .paused) : Sound steps r' where
  ordered := hordered
  live _ := by
    unfold Runner.active
    rw [hstate]
    exact h.live hpoint
  ended hr := absurd hr hreturned
  told hc := by
    rw [hcancelled] at hc
    rw [hstate]
    exact h.told hc
  exhausted idx hhead hlength := by
    rw [hstate]
    exact hexhausted idx hhead hlength
  left hleaving := by
    rw [hstate]
    exact hleft hleaving

/-- A run that has returned in a terminal state. -/
theorem Sound.end (hordered : Ordered r) (hreturned : r.point = .returned)
    (hstate : r.state.Terminal) : Sound steps r where
  ordered := hordered
  live h := absurd hreturned h
  ended _ := hstate
  told _ := hstate
  exhausted idx h := by rw [hreturned] at h; cases h
  left h := by rw [hreturned] at h; cases h

/-- A run that is not aborted is active, and its task is not cancelled. -/
theorem Sound.free {r : Runner} (h : Sound steps r) (hpoint : r.point ≠ .returned)
    (hstate : r.state ≠ .aborted) : r.cancelled = false ∧ r.active := by
  have hactive := (h.live hpoint).resolve_right hstate
  refine ⟨?_, hactive⟩
  by_contra hcancelled
  exact terminal_not_active (h.told (by simpa using hcancelled)) hactive

/-- Each part of a run keeps the state fit. -/
theorem sound_advance {event : Event} (h : Sound steps r)
    (hclean : EndsUnpaused steps (.advance event) r) (hr : advance steps event r = some r') :
    Sound steps r' := by
  have hordered := ordered_advance h.ordered hr
  cases part_of_advance hr with
  | told hcancelled => exact .end hordered rfl (h.told hcancelled)
  | went hgoes =>
      refine h.move hordered rfl rfl hgoes.source hgoes.returned (fun idx hhead hlength hpaused => ?_)
        (fun hleaving hpaused => ?_)
      · have hthis := hclean hpaused
        rcases hgoes.head idx hhead with ⟨rfl, hpoint⟩ | ⟨k, rfl, hpoint, hskipped⟩
        · rw [hpoint] at hthis
          exact hthis (List.eq_nil_of_length_eq_zero (Nat.le_zero.mp hlength))
        · rw [hpoint] at hthis
          rcases hthis with hlt | ⟨-, hnot⟩
          · omega
          · exact hnot hskipped
      · rcases hgoes.leaving hleaving with ⟨idx, hpoint, hlength⟩ | hs | hs
        · exact h.exhausted idx hpoint hlength hpaused
        · cases hpaused.symm.trans hs
        · cases hpaused.symm.trans hs
  | paused hpoint haborted =>
      have hfree := (h.free (by rw [hpoint]; nofun) haborted).1
      exact ⟨hordered, fun _ => .inl (.inr rfl), nofun,
        fun hc => absurd (hfree.symm.trans hc) nofun, nofun, nofun⟩
  | advanced hpoint hcancelled =>
      exact ⟨hordered, fun _ => .inl (.inl rfl), nofun,
        fun hc => absurd (hcancelled.symm.trans hc) nofun, nofun, nofun⟩
  | @took idx hpoint =>
      rw [takeStep_eq h.ordered hpoint] at hordered ⊢
      rcases executeStep_cases event idx (steps.getD idx .other)
        { r with currentStep := some idx, results := r.results.set idx .running } with
        hfail | ⟨p, sent, ⟨hexecuting, -⟩, hreturned, hplace⟩
      · rw [hfail]
        exact .end ⟨nofun, nofun, nofun⟩ rfl (.inr (.inr rfl))
      · rw [hplace] at hordered ⊢
        refine h.move hordered rfl rfl (by rw [hpoint]; nofun) hreturned ?_ ?_
        · rintro i rfl
          cases hexecuting
        · rintro rfl
          cases hexecuting
  | raised => exact .end hordered rfl (.inr (.inr rfl))
  | expired hpoint => exact h.move hordered rfl rfl (by rw [hpoint]; nofun) nofun nofun nofun
  | @passed idx hpoint =>
      refine h.move hordered rfl rfl (by rw [hpoint]; nofun) nofun
        (fun i hi hlength hpaused => ?_) nofun
      obtain rfl : idx + 1 = i := Point.head.inj hi
      have hthis := hclean hpaused
      rw [hpoint] at hthis
      rcases hthis with hlt | ⟨hfalse, -⟩
      · omega
      · cases hfalse
  | failed => exact .end hordered rfl (.inr (.inr rfl))
  | completed => exact .end hordered rfl (.inl rfl)
  | ended hpoint hrunning =>
      refine .end hordered rfl ?_
      rcases h.live (by rw [hpoint]; nofun) with (hs | hs) | hs
      · exact absurd hs hrunning
      · exact absurd hs (h.left hpoint)
      · exact .inr (.inl hs)

theorem sound_step {a : Action} (hclean : EndsUnpaused steps a r) (h : Sound steps r)
    (hr : step steps a r = some r') : Sound steps r' := by
  cases a with
  | advance event => exact sound_advance h hclean hr
  | request q =>
      unfold step at hr
      split_ifs at hr with hwaits
      exact Option.some.inj hr ▸ sound_apply q h hwaits

/-- **How a run ends.**  Whatever the operator requests, if no request leaves the run paused when
its last step ends or an empty procedure begins, the coroutine returns in a terminal state, and
another procedure can be loaded and started. -/
theorem run_ends_terminal (stepByStep : Bool) {actions : List Action} {r : Runner}
    (hclean : Along steps (EndsUnpaused steps) actions (started steps stepByStep))
    (h : run steps actions (started steps stepByStep) = some r) (hreturned : r.point = .returned) :
    r.state.Terminal ∧ ∀ (steps' : List Kind) (mode : Bool),
      ∃ loaded, load r steps' mode = some loaded ∧ start loaded = some (started steps' mode) := by
  have hsound := run_preserves (fun _ _ _ hc hi hr => sound_step hc hi hr)
    (sound_started steps stepByStep) hclean h
  have hterminal := hsound.ended hreturned
  refine ⟨hterminal, fun steps' mode => ?_⟩
  obtain ⟨loaded, hloaded⟩ : ∃ loaded, load r steps' mode = some loaded :=
    ⟨_, if_neg (terminal_not_active hterminal)⟩
  exact ⟨loaded, hloaded, start_load hloaded⟩

/-- A timed step, during which the run is paused and resumed. -/
theorem run_ends_terminal_resumed :
    ∃ r, run [.wait] [.advance .good, .advance .good, .advance .good, .advance .good,
        .request .pause, .request .resume, .advance .good, .advance .good, .advance .good,
        .advance .good] (started [.wait] false) = some r ∧ r.state.Terminal := by
  refine ⟨_, rfl, (@run_ends_terminal [.wait] false [.advance .good, .advance .good,
    .advance .good, .advance .good, .request .pause, .request .resume, .advance .good,
    .advance .good, .advance .good, .advance .good] _ ?_ rfl rfl).1⟩
  exact along_cons nofun rfl (along_cons nofun rfl (along_cons nofun rfl (along_cons nofun rfl
    (along_cons nofun rfl (along_cons (fun _ => trivial) rfl (along_cons nofun rfl
      (along_cons nofun rfl (along_cons nofun rfl (along_cons nofun rfl trivial)))))))))

/-- Paused in its last step, a run ends paused: nothing can be loaded, and nothing is left to
resume. -/
theorem run_ends_paused :
    ∃ r, run [.wait] [.advance .good, .advance .good, .advance .good, .advance .good,
        .request .pause, .advance .good, .advance .good, .advance .good, .advance .good]
        (started [.wait] false) = some r ∧ r.point = .returned ∧ r.state = .paused ∧
      load r [] false = none :=
  ⟨_, rfl, rfl, rfl, rfl⟩

end ProcedureRunner
