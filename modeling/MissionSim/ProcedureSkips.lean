import MissionSim.ProcedureRunner

/-!
# Skipping a step

A skip marks the entry of the current step, lets the run go on and wakes it.  What becomes of
the mark is settled later, by the loop: the end of the step under way may be written over it,
and between two steps the current step is the one before.

A run after a skip is compared with the run in which the procedure is advanced at that place
and the step passes.
-/

namespace ProcedureRunner

open List

variable {steps : List Kind}

/-- The step that is under way, or else the one to come; an ended procedure has none. -/
def Runner.subject (steps : List Kind) (r : Runner) : Option Nat :=
  if r.active then (r.point.executing <|> r.point.next).filter (· < steps.length) else none

/-- A skip comes while its step is executed, and the execution of a skipped step neither
succeeds nor runs out of time. -/
def SkipsClean (steps : List Kind) (a : Action) (r : Runner) : Prop :=
  match a with
  | .request .skipStep => ∀ k, r.subject steps = some k → r.point.executing = some k
  | .request _ => True
  | .advance event =>
      match r.point with
      | .executed k true => r.results[k]? = some .skipped → r.state = .aborted
      | .checking k => event = .expired → r.results[k]? ≠ some .skipped
      | _ => True

/-! ### What a part of a run changes -/

/-- A part of a run writes the result of a step. -/
def Writes (event : Event) (idx : Nat) (r : Runner) : Prop :=
  r.point = .execute idx ∨ (r.point = .checking idx ∧ event = .expired) ∨
    (r.point = .executed idx true ∧ r.state ≠ .aborted) ∨
    (r.point = .executed idx false ∧ r.results[idx]? ≠ some .skipped)

/-- What a part of a run may change. -/
structure Progress (event : Event) (r r' : Runner) : Prop where
  next : ∀ n', r'.point.next = some n' → ∃ n, r.point.next = some n ∧ n ≤ n'
  sent : r'.sent = r.sent ∨ ∃ idx, r.point = .execute idx ∧ r'.sent = r.sent ++ [idx]
  results : r'.results = r.results ∨
    ∃ idx x, Writes event idx r ∧ r'.results = r.results.set idx x

variable {r : Runner} {event : Event}

/-- Going on at another point only. -/
theorem progress_goto {p : Point} (hnext : p.next = none ∨ p.next = r.point.next)
    (state : ProcedureState) (stepEvent pauseEvent : Bool) :
    Progress event r
      { r with point := p, state := state, stepEvent := stepEvent, pauseEvent := pauseEvent } where
  next n' hn := by
    rcases hnext with hnone | hsame
    · exact nomatch hnone.symm.trans hn
    · exact ⟨n', hsame.symm.trans hn, Nat.le_refl n'⟩
  sent := .inl rfl
  results := .inl rfl

/-- Going on at another point with a result. -/
theorem progress_record {p : Point} {idx : Nat} (x : StepResult) (hwrites : Writes event idx r)
    (hnext : p.next = none ∨ p.next = r.point.next) (state : ProcedureState) :
    Progress event r { r.record idx x with point := p, state := state } where
  next := (progress_goto hnext state r.stepEvent r.pauseEvent : Progress event r _).next
  sent := .inl rfl
  results := .inr ⟨idx, x, hwrites, rfl⟩

theorem progress_takeStep {idx : Nat} (h : Ordered r) (hpoint : r.point = .execute idx) :
    Progress event r (takeStep steps event idx r) := by
  have hnext : r.point.next = some idx := by rw [hpoint]; rfl
  rw [takeStep_eq h hpoint]
  unfold executeStep
  split_ifs
  · exact ⟨nofun, .inl rfl, .inr ⟨idx, .running, .inl hpoint, rfl⟩⟩
  · have hlater : ∀ n', some (idx + 1) = some n' → ∃ n, r.point.next = some n ∧ n ≤ n' := by
      rintro n' ⟨⟩
      exact ⟨idx, hnext, Nat.le_succ idx⟩
    split
    · exact ⟨hlater, .inl rfl, .inr ⟨idx, .running, .inl hpoint, rfl⟩⟩
    · exact ⟨hlater, .inl rfl, .inr ⟨idx, .running, .inl hpoint, rfl⟩⟩
    · exact ⟨hlater, .inl rfl, .inr ⟨idx, .running, .inl hpoint, rfl⟩⟩
    · exact ⟨hlater, .inr ⟨idx, hpoint, rfl⟩, .inr ⟨idx, .running, .inl hpoint, rfl⟩⟩
    · exact ⟨hlater, .inl rfl, .inr ⟨idx, .running, .inl hpoint, rfl⟩⟩

/-- What each part of a run may change. -/
theorem progress_advance {r r' : Runner} (h : Ordered r) (hr : advance steps event r = some r') :
    Progress event r r' := by
  cases part_of_advance hr with
  | told | ended => exact progress_goto (.inl rfl) r.state r.stepEvent r.pauseEvent
  | went hgoes => exact progress_goto hgoes.next r.state r.stepEvent r.pauseEvent
  | paused hpoint => exact progress_goto (.inr (by rw [hpoint]; rfl)) .paused false false
  | advanced hpoint =>
      exact progress_goto (.inr (by rw [hpoint]; rfl)) .running r.stepEvent r.pauseEvent
  | took hpoint => exact progress_takeStep h hpoint
  | raised => exact progress_goto (.inl rfl) .failed r.stepEvent r.pauseEvent
  | expired hpoint hevent =>
      rw [h.executing _ (by rw [hpoint]; rfl)]
      exact progress_record .timeout (.inr (.inl ⟨hpoint, hevent⟩)) (.inr (by rw [hpoint]; rfl))
        r.state
  | passed hpoint haborted =>
      exact progress_record .passed (.inr (.inr (.inl ⟨hpoint, haborted⟩)))
        (.inr (by rw [hpoint]; rfl)) r.state
  | failed hpoint hskipped =>
      exact progress_record .failed (.inr (.inr (.inr ⟨hpoint, hskipped⟩))) (.inl rfl) .failed
  | completed => exact progress_goto (.inl rfl) .completed r.stepEvent r.pauseEvent

variable {k : Nat}

theorem markSkipped_results (h : r.currentStep = some k) :
    r.markSkipped.results = r.results.set k .skipped := by
  unfold Runner.markSkipped
  rw [h]
  rfl

/-- What a request does to the results: a skip marks the current step. -/
theorem apply_results_cases (q : Request) (r : Runner) :
    (q.apply r).results = r.results ∨
      ∃ k, r.currentStep = some k ∧ (q.apply r).results = r.results.set k .skipped := by
  by_cases hskip : q = .skipStep
  · subst hskip
    by_cases hactive : r.active
    · show (skipStep r).results = _ ∨ ∃ k, _ ∧ (skipStep r).results = _
      rw [skipStep_results hactive]
      unfold Runner.markSkipped
      split
      · rename_i k hk
        exact .inr ⟨k, hk, rfl⟩
      · exact .inl rfl
    · refine .inl ?_
      show (skipStep r).results = _
      unfold skipStep
      rw [if_neg hactive]
  · exact .inl (apply_results hskip r)

/-- There is one result for each step. -/
theorem results_length_step {a : Action} {r r' : Runner} (h : Ordered r)
    (hr : step steps a r = some r') : r'.results.length = r.results.length := by
  cases a with
  | request q =>
      unfold step at hr
      split_ifs at hr
      cases hr
      rcases apply_results_cases q r with hsame | ⟨k, -, hset⟩
      · rw [hsame]
      · rw [hset, length_set]
  | advance event =>
      rcases (progress_advance h hr).results with hsame | ⟨idx, x, -, hset⟩
      · rw [hsame]
      · rw [hset, length_set]

/-! ### Behind a skip -/

/-- Step `k` is skipped, and behind the run or under way; its telecommand was sent before. -/
structure Behind (k : Nat) (before : List Nat) (r : Runner) : Prop where
  ordered : Ordered r
  skipped : r.results[k]? = some .skipped
  next : ∀ n, r.point.next = some n → k < n
  sent : k ∈ r.sent → k ∈ before

theorem executing_next {p : Point} {idx : Nat} (h : p.executing = some idx) :
    p.next = some (idx + 1) := by
  cases p <;> cases h <;> rfl

/-- Clean actions leave a skipped step skipped and do not take it up again. -/
theorem behind_step {before : List Nat} {a : Action} {r r' : Runner} (hclean : SkipsClean steps a r)
    (h : Behind k before r) (hr : step steps a r = some r') : Behind k before r' := by
  have hordered := ordered_step h.ordered hr
  cases a with
  | request q =>
      unfold step at hr
      split_ifs at hr
      cases hr
      have hplace := samePlace_apply q r
      refine ⟨hordered, ?_, fun n hn => h.next n (hplace.next ▸ hn), fun hk =>
        h.sent (hplace.sent ▸ hk)⟩
      rcases apply_results_cases q r with hsame | ⟨i, -, hset⟩
      · rw [hsame]
        exact h.skipped
      · rw [hset]
        by_cases hik : i = k
        · subst hik
          exact getElem?_set_self (List.getElem?_eq_some_iff.mp h.skipped).1
        · rw [getElem?_set_ne hik]
          exact h.skipped
  | advance event =>
      have hprogress := progress_advance h.ordered hr
      refine ⟨hordered, ?_, fun n' hn' => ?_, fun hk => ?_⟩
      · rcases hprogress.results with hsame | ⟨idx, x, hwrites, hset⟩
        · rw [hsame]
          exact h.skipped
        · -- A result is written for a step other than `k`.
          have hne : idx ≠ k := by
            rintro rfl
            rcases hwrites with hpoint | ⟨hpoint, rfl⟩ | ⟨hpoint, hstate⟩ | ⟨-, hnot⟩
            · exact absurd (h.next idx (by rw [hpoint]; rfl)) (Nat.lt_irrefl idx)
            · unfold SkipsClean at hclean
              rw [hpoint] at hclean
              exact hclean rfl h.skipped
            · unfold SkipsClean at hclean
              rw [hpoint] at hclean
              exact hstate (hclean h.skipped)
            · exact hnot h.skipped
          rw [hset, getElem?_set_ne hne]
          exact h.skipped
      · obtain ⟨n, hn, hle⟩ := hprogress.next n' hn'
        exact Nat.lt_of_lt_of_le (h.next n hn) hle
      · rcases hprogress.sent with hsame | ⟨idx, hpoint, hsent⟩
        · exact h.sent (hsame ▸ hk)
        · have hlt := h.next idx (by rw [hpoint]; rfl)
          rw [hsent, mem_append, mem_singleton] at hk
          rcases hk with hk | rfl
          · exact h.sent hk
          · exact absurd hlt (Nat.lt_irrefl k)

/-! ### The run without the skip -/

/-- Two lists of results differ at `k` at most. -/
structure Elsewhere (k : Nat) (results results' : List StepResult) : Prop where
  length : results'.length = results.length
  same : ∀ j, j ≠ k → results'[j]? = results[j]?

theorem Elsewhere.set {results results' : List StepResult} (h : Elsewhere k results results')
    (i : Nat) (x : StepResult) : Elsewhere k (results.set i x) (results'.set i x) := by
  refine ⟨by rw [length_set, length_set, h.length], fun j hj => ?_⟩
  by_cases hij : i = j
  · rw [getElem?_set, getElem?_set, if_pos hij, if_pos hij, h.length]
  · rw [getElem?_set_ne hij, getElem?_set_ne hij]
    exact h.same j hj

theorem Elsewhere.set_right {results results' : List StepResult} (h : Elsewhere k results results')
    (x : StepResult) : Elsewhere k results (results'.set k x) :=
  ⟨by rw [length_set, h.length], fun j hj => by
    rw [getElem?_set_ne hj.symm]
    exact h.same j hj⟩

theorem Elsewhere.of_set (k : Nat) (results : List StepResult) (x : StepResult) :
    Elsewhere k (results.set k x) results :=
  ⟨by rw [length_set], fun j hj => by rw [getElem?_set_ne hj.symm]⟩

/-- The same runner with other results. -/
def Runner.withResults (r : Runner) (results : List StepResult) : Runner :=
  { r with results := results }

/-- A request other than a skip does not look at the results. -/
theorem apply_withResults {q : Request} (h : q ≠ .skipStep) (r : Runner)
    (results : List StepResult) :
    q.apply (r.withResults results) = (q.apply r).withResults results := by
  obtain ⟨state, currentStep, own, stepByStep, pauseEvent, stepEvent, cancelled, point, sent⟩ := r
  cases q with
  | pause | abort | stepAdvance => cases state <;> rfl
  | resume => cases state <;> cases stepByStep <;> rfl
  | skipStep => exact absurd rfl h

/-- A skip is an advance, but for the mark. -/
theorem skipStep_eq (h : r.active) :
    skipStep r = (stepAdvance r).withResults r.markSkipped.results := by
  obtain ⟨state, currentStep, own, stepByStep, pauseEvent, stepEvent, cancelled, point, sent⟩ := r
  unfold skipStep stepAdvance
  rw [if_pos h, if_pos h]
  cases currentStep <;> cases state <;> rfl

variable {results : List StepResult}

/-- Other results are marked alike. -/
theorem markSkipped_elsewhere (h : Elsewhere k r.results results) :
    Elsewhere k r.markSkipped.results (r.withResults results).markSkipped.results := by
  obtain ⟨state, currentStep, own, stepByStep, pauseEvent, stepEvent, cancelled, point, sent⟩ := r
  cases currentStep with
  | none => exact h
  | some i => exact h.set i .skipped

/-- A request does the same whatever the result of one step is. -/
theorem apply_elsewhere (q : Request) (h : Elsewhere k r.results results) :
    ∃ results', Elsewhere k (q.apply r).results results' ∧
      q.apply (r.withResults results) = (q.apply r).withResults results' := by
  by_cases hskip : q = .skipStep
  · subst hskip
    by_cases hactive : r.active
    · refine ⟨(r.withResults results).markSkipped.results, ?_, ?_⟩
      · show Elsewhere k (skipStep r).results _
        rw [skipStep_results hactive]
        exact markSkipped_elsewhere h
      · show skipStep _ = (skipStep r).withResults _
        rw [skipStep_eq (r := r.withResults results) hactive, skipStep_eq hactive,
          show stepAdvance (r.withResults results) = _ from
            apply_withResults (q := .stepAdvance) nofun r results]
        rfl
    · refine ⟨results, ?_, ?_⟩
      · show Elsewhere k (skipStep r).results _
        unfold skipStep
        rwa [if_neg hactive]
      · show skipStep _ = (skipStep r).withResults _
        unfold skipStep
        rw [if_neg hactive, if_neg (show ¬ (r.withResults results).active from hactive)]
  · exact ⟨results, by rwa [apply_results hskip], apply_withResults hskip r results⟩

theorem resumed_elsewhere {k : Nat} {r s : Runner} {results : List StepResult}
    {next next' : Option Runner} (h : Elsewhere k r.results results)
    (hnext : ∀ s, next = some s →
      ∃ results', Elsewhere k s.results results' ∧ next' = some (s.withResults results'))
    (hs : r.resumed next = some s) :
    ∃ results', Elsewhere k s.results results' ∧
      (r.withResults results).resumed next' = some (s.withResults results') := by
  unfold Runner.resumed at hs ⊢
  rw [show (r.withResults results).cancelled = r.cancelled from rfl]
  split_ifs at hs ⊢ with hcancelled
  · cases hs
    exact ⟨results, h, rfl⟩
  · exact hnext s hs

theorem takeStep_elsewhere {k idx : Nat} {event : Event} {r : Runner} {results : List StepResult}
    (h : Elsewhere k r.results results) (hidx : idx ≠ k) :
    ∃ results', Elsewhere k (takeStep steps event idx r).results results' ∧
      takeStep steps event idx (r.withResults results) =
        (takeStep steps event idx r).withResults results' := by
  have hsame : (r.withResults results).results[idx]? = r.results[idx]? := h.same idx hidx
  have hset := h.set idx .running
  unfold takeStep
  dsimp only
  split_ifs with hskipped hskipped' hskipped'
  · exact ⟨results, h, rfl⟩
  · exact absurd (hsame.trans hskipped) hskipped'
  · exact absurd (hsame.symm.trans hskipped') hskipped
  · unfold executeStep
    split_ifs
    · exact ⟨_, hset, rfl⟩
    · cases steps.getD idx .other <;> exact ⟨_, hset, rfl⟩

theorem afterStep_elsewhere {k idx : Nat} {success : Bool} {r : Runner}
    {results : List StepResult} (h : Elsewhere k r.results results)
    (hidx : idx = k → success = false → r.state = .aborted) :
    ∃ results', Elsewhere k (afterStep idx success r).results results' ∧
      afterStep idx success (r.withResults results) =
        (afterStep idx success r).withResults results' := by
  unfold afterStep
  rw [show (r.withResults results).state = r.state from rfl]
  by_cases haborted : r.state = .aborted
  · rw [if_pos haborted, if_pos haborted]
    exact ⟨results, h, rfl⟩
  · rw [if_neg haborted, if_neg haborted]
    cases success with
    | true => exact ⟨_, h.set idx .passed, rfl⟩
    | false =>
        have hne : idx ≠ k := fun heq => haborted (hidx heq rfl)
        rw [if_neg Bool.false_ne_true, if_neg Bool.false_ne_true,
          show (r.withResults results).results[idx]? = r.results[idx]? from h.same idx hne]
        split_ifs
        · exact ⟨results, h, rfl⟩
        · exact ⟨_, h.set idx .failed, rfl⟩

theorem checkCondition_elsewhere {k idx : Nat} {event : Event} {r : Runner}
    {results : List StepResult} (h : Elsewhere k r.results results) :
    ∃ results', Elsewhere k (checkCondition event idx r).results results' ∧
      checkCondition event idx (r.withResults results) =
        (checkCondition event idx r).withResults results' := by
  unfold checkCondition
  rw [show (r.withResults results).state = r.state from rfl,
    show (r.withResults results).currentStep = r.currentStep from rfl,
    show (r.withResults results).results.length = r.results.length from h.length]
  split
  · exact ⟨_, h.set _ .timeout, rfl⟩
  · split_ifs
    · exact ⟨results, h, rfl⟩
    · split <;> exact ⟨results, h, rfl⟩

/-- A part of a run does the same whatever the result of step `k` is, unless it takes up or fails
that step. -/
theorem advance_elsewhere {r s : Runner} (h : Elsewhere k r.results results)
    (hexecute : ∀ idx, r.point = .execute idx → idx ≠ k)
    (hexecuted : r.point = .executed k false → r.state = .aborted)
    (hs : advance steps event r = some s) :
    ∃ results', Elsewhere k s.results results' ∧
      advance steps event (r.withResults results) = some (s.withResults results') := by
  unfold advance at hs ⊢
  rw [show (r.withResults results).point = r.point from rfl]
  cases hpoint : r.point with
  | created | sleeping | polling =>
      rw [hpoint] at hs
      refine resumed_elsewhere h ?_ hs
      rintro _ ⟨⟩
      exact ⟨results, h, rfl⟩
  | head idx =>
      rw [hpoint] at hs
      cases hs
      refine ⟨results, ?_, ?_⟩
      · unfold loopHead
        split_ifs <;> exact h
      · dsimp only
        unfold loopHead
        rw [show (r.withResults results).state = r.state from rfl,
          show (r.withResults results).pauseEvent = r.pauseEvent from rfl]
        split_ifs <;> rfl
  | pauseWait idx woken =>
      rw [hpoint] at hs
      refine resumed_elsewhere h (fun s hs => ?_) hs
      cases woken with
      | true => exact Option.some.inj hs ▸ ⟨results, h, rfl⟩
      | false => cases hs
  | afterPause idx =>
      rw [hpoint] at hs
      cases hs
      refine ⟨results, ?_, ?_⟩
      · unfold awaitAdvance
        split_ifs <;> exact h
      · dsimp only
        unfold awaitAdvance
        rw [show (r.withResults results).state = r.state from rfl,
          show (r.withResults results).stepByStep = r.stepByStep from rfl]
        split_ifs <;> rfl
  | stepWait idx woken =>
      rw [hpoint] at hs
      refine resumed_elsewhere h (fun s hs => ?_) hs
      cases woken with
      | false => cases hs
      | true =>
          cases hs
          refine ⟨results, ?_, ?_⟩
          · unfold afterAdvance
            split_ifs <;> exact h
          · show some (afterAdvance idx _) = some ((afterAdvance idx r).withResults results)
            unfold afterAdvance
            rw [show (r.withResults results).state = r.state from rfl]
            split_ifs <;> rfl
  | execute idx =>
      rw [hpoint] at hs
      cases hs
      obtain ⟨results', helse, htake⟩ :=
        @takeStep_elsewhere steps k idx event r results h (hexecute idx hpoint)
      exact ⟨results', helse, congrArg some htake⟩
  | sending idx =>
      rw [hpoint] at hs
      refine resumed_elsewhere h ?_ hs
      rintro _ ⟨⟩
      refine ⟨results, ?_, ?_⟩ <;> unfold afterSending <;> split_ifs <;> first | exact h | rfl
  | checking idx =>
      rw [hpoint] at hs
      cases hs
      obtain ⟨results', helse, hcheck⟩ := @checkCondition_elsewhere k idx event r results h
      exact ⟨results', helse, congrArg some hcheck⟩
  | executed idx success =>
      rw [hpoint] at hs
      cases hs
      obtain ⟨results', helse, hafter⟩ := @afterStep_elsewhere k idx success r results h
        (by rintro rfl rfl; exact hexecuted hpoint)
      exact ⟨results', helse, congrArg some hafter⟩
  | leaving =>
      rw [hpoint] at hs
      cases hs
      refine ⟨results, ?_, ?_⟩
      · unfold leaveLoop
        split_ifs <;> exact h
      · unfold leaveLoop
        rw [show (r.withResults results).state = r.state from rfl]
        split_ifs <;> rfl
  | returned =>
      rw [hpoint] at hs
      cases hs

/-- Where step `k` can be found to have failed. -/
theorem failing_advance {r s : Runner} (hnext : ∀ n, r.point.next = some n → k < n)
    (hs : advance steps event r = some s) (hfailed : s.point = .executed k false) :
    (r.point = .sending k ∧ r.cancelled = false ∧ s = r.goto (.executed k false)) ∨
      (r.point = .checking k ∧ (event = .expired ∨ s.state = .aborted)) := by
  have hexecuting : s.point.executing = some k := by rw [hfailed]; rfl
  cases part_of_advance hs with
  | told | paused | advanced => cases hfailed
  | went hgoes =>
      obtain rfl : _ = Point.executed k false := hfailed
      rcases hgoes.failed k rfl with ⟨hsending, hcancelled⟩ | ⟨hchecking, haborted⟩
      · exact .inl ⟨hsending, hcancelled, rfl⟩
      · exact .inr ⟨hchecking, .inr haborted⟩
  | @took idx hpoint =>
      have hlt := hnext idx (by rw [hpoint]; rfl)
      exfalso
      unfold takeStep at hexecuting
      dsimp only at hexecuting
      split_ifs at hexecuting
      · cases hexecuting
      · rcases executeStep_cases event idx (steps.getD idx .other)
          (({ r with currentStep := some idx } : Runner).record idx .running) with
          hfail | ⟨p, sent, ⟨hidx, -⟩, -, hplace⟩
        · rw [hfail] at hexecuting
          cases hexecuting
        · rw [hplace] at hexecuting
          have heq : idx = k := Option.some.inj (hidx.symm.trans hexecuting)
          omega
  | raised => cases hfailed
  | expired hpoint hevent =>
      cases hexecuting
      exact .inr ⟨hpoint, .inl hevent⟩
  | passed => cases hfailed
  | failed => cases hfailed
  | completed => cases hfailed
  | ended => cases hfailed

/-- A telecommand that is accepted, and verified at once, passes its step. -/
theorem run_sending {k : Nat} {r : Runner} (hpoint : r.point = .sending k)
    (hcancelled : r.cancelled = false) (hstate : r.state ≠ .aborted) :
    ∃ actions, run steps actions r = some (r.goto (.executed k true)) := by
  have hsent : step steps (.advance .good) r =
      some (afterSending .good k (steps.getD k .other) r) := by
    unfold step advance
    dsimp only
    rw [hpoint]
    unfold Runner.resumed
    rw [hcancelled]
    rfl
  unfold afterSending at hsent
  rw [if_pos rfl] at hsent
  split_ifs at hsent with hverify
  · refine ⟨[.advance .good, .advance .good], ?_⟩
    show step steps _ r >>= _ = _
    rw [hsent]
    show some (checkCondition .good k (r.goto (.checking k))) >>= run steps [] = _
    unfold checkCondition
    rw [if_neg (show (r.goto (.checking k)).state ≠ .aborted from hstate)]
    rfl
  · refine ⟨[.advance .good], ?_⟩
    show step steps _ r >>= _ = _
    rw [hsent]
    rfl

/-- `r'` is the run without the skip: it is at the same place, or step `k` has just passed there
and failed here; the results of the other steps are the same. -/
def Shadow (k : Nat) (r r' : Runner) : Prop :=
  ∃ results, Elsewhere k r.results results ∧
    ((r' = r.withResults results ∧ (r.point = .executed k false → r.state = .aborted)) ∨
      (r.point = .executed k false ∧ r.state ≠ .aborted ∧
        r' = (r.withResults results).goto (.executed k true)))

/-- What happens behind a skip happens in the run without it. -/
theorem shadow_step {before : List Nat} {a : Action} {r s r' : Runner}
    (hclean : SkipsClean steps a r) (hbehind : Behind k before r) (h : Shadow k r r')
    (hs : step steps a r = some s) :
    ∃ actions s', run steps actions r' = some s' ∧ Shadow k s s' := by
  obtain ⟨results, helse, ⟨rfl, hexecuted⟩ | ⟨hpoint, hstate, rfl⟩⟩ := h
  · cases a with
    | request q =>
        unfold step at hs
        dsimp only at hs
        split_ifs at hs with hwaits
        cases hs
        obtain ⟨results', helse', happly⟩ := apply_elsewhere q helse
        refine ⟨[.request q], (q.apply r).withResults results', ?_, results', helse',
          .inl ⟨rfl, fun hpoint => ?_⟩⟩
        · show (if r.point.waits then some (q.apply (r.withResults results)) else none) >>= _ = _
          rw [if_pos hwaits, happly]
          rfl
        · have hwaits' := (samePlace_apply q r).waits.trans hwaits
          rw [hpoint] at hwaits'
          cases hwaits'
    | advance event =>
        by_cases hfailed : s.point = .executed k false ∧ s.state ≠ .aborted
        · -- Here the telecommand of step `k` is refused; there it is accepted.
          obtain ⟨hpoint, hstate⟩ := hfailed
          rcases failing_advance hbehind.next hs hpoint with
            ⟨hsending, hcancelled, rfl⟩ | ⟨hchecking, rfl | haborted⟩
          · obtain ⟨actions, hactions⟩ :=
              @run_sending steps k (r.withResults results) hsending hcancelled hstate
            exact ⟨actions, _, hactions, results, helse, .inr ⟨rfl, hstate, rfl⟩⟩
          · unfold SkipsClean at hclean
            rw [hchecking] at hclean
            exact absurd hbehind.skipped (hclean rfl)
          · exact absurd haborted hstate
        · have hexecute : ∀ idx, r.point = .execute idx → idx ≠ k := by
            rintro idx hpoint rfl
            exact Nat.lt_irrefl idx (hbehind.next idx (by rw [hpoint]; rfl))
          obtain ⟨results', helse', hadvance⟩ := advance_elsewhere helse hexecute hexecuted hs
          refine ⟨[.advance event], s.withResults results', ?_, results', helse',
            .inl ⟨rfl, fun hpoint => ?_⟩⟩
          · show advance steps event (r.withResults results) >>= _ = _
            rw [hadvance]
            rfl
          · by_contra hstate
            exact hfailed ⟨hpoint, hstate⟩
  · cases a with
    | request q =>
        unfold step at hs
        rw [hpoint] at hs
        cases hs
    | advance event =>
        have hafter : s = r.goto (.head (k + 1)) := by
          unfold step advance at hs
          rw [hpoint] at hs
          dsimp only at hs
          unfold afterStep at hs
          rw [if_neg hstate, if_neg Bool.false_ne_true, if_pos hbehind.skipped] at hs
          exact (Option.some.inj hs).symm
        subst hafter
        refine ⟨[.advance event], (r.goto (.head (k + 1))).withResults (results.set k .passed), ?_,
          results.set k .passed, helse.set_right .passed, .inl ⟨rfl, nofun⟩⟩
        show some (afterStep k true ((r.withResults results).goto (.executed k true))) >>= _ = _
        unfold afterStep
        rw [if_neg (show ((r.withResults results).goto _).state ≠ .aborted from hstate)]
        rfl

/-- What happens behind a skip, in any number of actions, happens in the run without it. -/
theorem shadow_run {before : List Nat} {actions : List Action} {r s r' : Runner}
    (hclean : Along steps (SkipsClean steps) actions r) (hbehind : Behind k before r)
    (h : Shadow k r r') (hs : run steps actions r = some s) :
    ∃ actions' s', run steps actions' r' = some s' ∧ Shadow k s s' := by
  induction actions generalizing r r' with
  | nil =>
      cases hs
      exact ⟨[], r', rfl, h⟩
  | cons a rest ih =>
      obtain ⟨next, hnext, hrest⟩ := Option.bind_eq_some_iff.mp hs
      obtain ⟨first, next', hfirst, hshadow⟩ := shadow_step hclean.1 hbehind h hnext
      obtain ⟨more, s', hmore, hend⟩ :=
        ih (hclean.2 next hnext) (behind_step hclean.1 hbehind hnext) hshadow hrest
      refine ⟨first ++ more, s', ?_, hend⟩
      rw [run_append, hfirst]
      exact hmore

/-! ### What a skip skips -/

theorem subject_lt (h : r.subject steps = some k) : r.active ∧ k < steps.length := by
  unfold Runner.subject at h
  split_ifs at h with hactive
  exact ⟨hactive, by simpa using (Option.filter_eq_some_iff.mp h).2⟩

/-- Right behind a skip that comes while its step is executed. -/
theorem behind_skip (hordered : Ordered r) (hactive : r.active) (hlength : k < r.results.length)
    (hexecuting : r.point.executing = some k) : Behind k r.sent (skipStep r) := by
  have hplace : SamePlace r (skipStep r) := samePlace_apply .skipStep r
  refine ⟨ordered_apply .skipStep hordered, ?_, fun n hn => ?_, fun hk => hplace.sent ▸ hk⟩
  · rw [skipStep_results hactive, markSkipped_results (hordered.executing k hexecuting)]
    exact getElem?_set_self hlength
  · rw [hplace.next, executing_next hexecuting] at hn
    cases hn
    exact Nat.lt_succ_self k

/-- An advance in place of the skip. -/
theorem shadow_skip (hactive : r.active) (hwaits : r.point.waits = true)
    (hcurrent : r.currentStep = some k) : Shadow k (skipStep r) (stepAdvance r) := by
  refine ⟨r.results, ?_, .inl ⟨?_, fun hpoint => ?_⟩⟩
  · rw [skipStep_results hactive, markSkipped_results hcurrent]
    exact .of_set k r.results .skipped
  · have hresults : (stepAdvance r).results = r.results :=
      apply_results (q := .stepAdvance) nofun r
    rw [skipStep_eq hactive]
    rw [← hresults]
    rfl
  · have hwaits' : (skipStep r).point.waits = true :=
      (samePlace_apply .skipStep r).waits.trans hwaits
    rw [hpoint] at hwaits'
    cases hwaits'

end ProcedureRunner
