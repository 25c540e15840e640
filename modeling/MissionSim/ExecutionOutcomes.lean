import MissionSim.ProcedureFailures

/-!
# The outcomes of executions

An execution is named by its procedure and the second of its start, so that a second start in that
second takes the name.  The executor forgets an execution in the tick that completes it, and of
those that failed it remembers one, the last that a tick found ended.

All outcomes are known in every run in which no name is taken while it is known, no execution is
completed, and no two have failed.
-/

namespace FdirProcedures

open Python Runs ProcedureExecutor Option

/-! ### The property -/

/-- The operation ends the execution of that name in that state. -/
def Ends (cb : Callbacks) (execId : String) (state : ExecutionState) (e : ProcedureExecutor) :
    Operation → Prop
  | .startProcedure .. => False
  | .tickProcedures now => state ≠ .running ∧
      ∃ p, e.active.get? execId = some p ∧ p.state = .running ∧ (p.tick cb now).state = state

/-- The executor at a position of a run. -/
def executorAt (cb : Callbacks) (procedures : Dict String (Option (List ProcedureStep)))
    (ops : List Operation) (i : Nat) : ProcedureExecutor :=
  after (step cb) { procedures := procedures } (ops.take i)

variable (cb : Callbacks) (procedures : Dict String (Option (List ProcedureStep)))
  (ops : List Operation)

/-- **What a name is for**: a start makes a running execution and replaces none, and one that has
ended is reported with its outcome from then on. -/
structure OutcomesKnown : Prop where
  replacesNone : ∀ i procId now execId, ops[i]? = some (.startProcedure procId now) →
    ((executorAt cb procedures ops i).startProcedure procId now).2 = some execId →
    ∀ p, (executorAt cb procedures ops i).active.get? execId = some p → p.state ≠ .running
  live : ∀ i procId now execId, ops[i]? = some (.startProcedure procId now) →
    ((executorAt cb procedures ops i).startProcedure procId now).2 = some execId →
    (executorAt cb procedures ops (i + 1)).executionState execId = some .running
  known : ∀ i j execId state,
    HappensAt (step cb) { procedures := procedures } ops (Ends cb execId state) i → i < j →
    (executorAt cb procedures ops j).executionState execId = some state

variable {cb procedures ops}

/-- Every step of a running execution is executed or due now, and none that is due fails. -/
structure ProcedureExecution.Completes (p : ProcedureExecution) (cb : Callbacks) (now : Rat) :
    Prop where
  running : p.state = .running
  reached : ∀ step ∈ p.steps, step.executed = true ∨ p.Due now step
  unfailing : ∀ item ∈ p.steps.zipIdx, p.Due now item.1 → p.Fails cb item.2 item.1 = false

/-- **What loses an outcome**: a start under a name that is known, a tick that completes an
execution, and one that finds an ended execution while another one that ended is known. -/
inductive Loses (cb : Callbacks) (e : ProcedureExecutor) : Operation → Prop
  | start {procId now steps} (hproc : e.procedures.get? procId = some (some steps))
      (hknown : (e.execution (execIdOf procId now)).isSome) : Loses cb e (.startProcedure procId now)
  | complete {execId p now} (hp : e.active.get? execId = some p) (hcompletes : p.Completes cb now) :
      Loses cb e (.tickProcedures now)
  | crowded {execId execId' p q now} (hne : execId ≠ execId')
      (hp : e.active.get? execId = some p) (hended : p.state ≠ .running)
      (hq : e.execution execId' = some q) (hended' : q.state ≠ .running) :
      Loses cb e (.tickProcedures now)

/-! ### One execution -/

variable {p : ProcedureExecution} {now : Rat}

theorem tick_of_running (h : p.state = .running) : p.tick cb now = p.advance cb now := if_pos h

theorem completes_iff :
    p.Completes cb now ↔ p.state = .running ∧ (p.tick cb now).state = .complete := by
  have hfailed : ¬ (p.stepRuns cb now).any StepRun.failed = true ↔
      ∀ item ∈ p.steps.zipIdx, p.Due now item.1 → p.Fails cb item.2 item.1 = false := by
    simp [ProcedureExecution.stepRuns]
  have hall : (p.stepsAfter now).all ProcedureStep.executed = true ↔
      ∀ step ∈ p.steps, step.executed = true ∨ p.Due now step := by
    rw [ProcedureExecution.stepsAfter, List.all_map, List.all_eq_true]
    refine forall₂_congr fun step _ => ?_
    by_cases hdue : p.Due now step
    · simp [hdue]
    · simp [hdue]
  have hstate : (p.advance cb now).state = .complete ↔
      ¬ (p.stepRuns cb now).any StepRun.failed = true ∧
        (p.stepsAfter now).all ProcedureStep.executed = true := by
    unfold ProcedureExecution.advance
    dsimp only
    split_ifs with hany hdone
    · exact iff_of_false not_false fun h => h.1 hany
    · exact iff_of_true rfl ⟨hany, hdone⟩
    · exact iff_of_false not_false fun h => hdone h.2
  constructor
  · intro h
    rw [tick_of_running h.running]
    exact ⟨h.running, hstate.mpr ⟨hfailed.mpr h.unfailing, hall.mpr h.reached⟩⟩
  · intro h
    obtain ⟨hrunning, hcomplete⟩ := h
    rw [tick_of_running hrunning] at hcomplete
    obtain ⟨hnone, hdone⟩ := hstate.mp hcomplete
    exact ⟨hrunning, hall.mp hdone, hfailed.mp hnone⟩

/-- An active execution leaves with the tick that completes it, or with the first one that finds it
ended. -/
theorem leaves_iff : p.Leaves cb now ↔ p.state ≠ .running ∨ p.Completes cb now := by
  rw [completes_iff]
  by_cases hrunning : p.state = .running
  · rw [tick_of_running hrunning]
    simp [ProcedureExecution.Leaves, hrunning]
  · exact iff_of_true (.inl hrunning) (.inl hrunning)

/-! ### What every run keeps -/

/-- The table finds the executions by their names, and none that is known is complete; the one that
is remembered has ended. -/
structure Filed (e : ProcedureExecutor) : Prop where
  execId : ∀ execId p, e.active.get? execId = some p → p.execId = execId
  notComplete : ∀ p, e.Knows p → p.state ≠ .complete
  ended : ∀ p, e.lastFinished = some p → p.state ≠ .running

/-- A start changes the table under the new name only. -/
theorem startProcedure_eq (e : ProcedureExecutor) (procId : String) (now : Rat) :
    (∀ steps, e.procedures.get? procId ≠ some (some steps)) ∧
      e.startProcedure procId now = (e, none) ∨
    ∃ steps, e.procedures.get? procId = some (some steps) ∧
      ∃ p : ProcedureExecution, p.execId = execIdOf procId now ∧ p.state = .running ∧
        e.startProcedure procId now =
          ({ e with
              active := e.active.set (execIdOf procId now) p
              events := e.events ++ [.started procId (execIdOf procId now) now]
              starts := e.starts + 1 }, some (execIdOf procId now)) := by
  unfold startProcedure
  split
  · rename_i hnone
    refine .inl ⟨?_, rfl⟩
    intro steps hsome
    rw [hnone] at hsome
    cases hsome
  · rename_i hnone
    refine .inl ⟨?_, rfl⟩
    intro steps hsome
    rw [hnone] at hsome
    cases hsome
  · rename_i steps hsteps
    exact .inr ⟨steps, hsteps, _, rfl, rfl, rfl⟩

variable {e : ProcedureExecutor}

theorem Filed.startProcedure (h : Filed e) (procId : String) (now : Rat) :
    Filed (e.startProcedure procId now).1 := by
  rcases startProcedure_eq e procId now with ⟨-, heq⟩ | ⟨steps, -, p, hname, hrunning, heq⟩
  · rw [heq]
    exact h
  · rw [heq]
    have hactive : ∀ {execId q}, (e.active.set (execIdOf procId now) p).get? execId = some q →
        execId = execIdOf procId now ∧ q = p ∨ e.active.get? execId = some q := by
      intro execId q hq
      by_cases hsame : execId = execIdOf procId now
      · subst hsame
        rw [Dict.get?_set_same] at hq
        exact .inl ⟨rfl, (some.inj hq).symm⟩
      · rw [Dict.get?_set_ne _ hsame] at hq
        exact .inr hq
    constructor
    · intro execId q hq
      rcases hactive hq with ⟨rfl, rfl⟩ | hold
      · exact hname
      · exact h.execId execId q hold
    · rintro q (⟨execId, hq⟩ | hlast)
      · rcases hactive hq with ⟨-, rfl⟩ | hold
        · rw [hrunning]
          exact ExecutionState.noConfusion
        · exact h.notComplete q (.inl ⟨execId, hold⟩)
      · exact h.notComplete q (.inr hlast)
    · exact h.ended

theorem tick_execId (p : ProcedureExecution) (now : Rat) : (p.tick cb now).execId = p.execId := by
  unfold ProcedureExecution.tick
  split
  · rfl
  · rfl

theorem Filed.tickProcedures (h : Filed e) (now : Rat) : Filed (e.tickProcedures cb now) := by
  constructor
  · intro execId q hq
    obtain ⟨p, hp, -, rfl⟩ := get?_tickProcedures.mp hq
    rw [tick_execId]
    exact h.execId execId p hp
  · rintro q (⟨execId, hq⟩ | hlast)
    · obtain ⟨p, hp, hstays, rfl⟩ := get?_tickProcedures.mp hq
      intro hcomplete
      have hrunning : p.state = .running := by
        by_contra hended
        exact hstays (.inl hended)
      exact hstays (leaves_iff.mpr (.inr (completes_iff.mpr ⟨hrunning, hcomplete⟩)))
    · rcases lastFinished_tickProcedures hlast with hbefore | ⟨execId, hq, -⟩
      · exact h.notComplete q (.inr hbefore)
      · exact h.notComplete q (.inl ⟨execId, hq⟩)
  · intro q hlast
    rcases lastFinished_tickProcedures hlast with hbefore | ⟨execId, -, hended⟩
    · exact h.ended q hbefore
    · exact hended

theorem filed_at (i : Nat) : Filed (executorAt cb procedures ops i) := by
  apply invariant
  · intro e op h
    cases op with
    | startProcedure procId now => exact h.startProcedure procId now
    | tickProcedures now => exact h.tickProcedures now
  · constructor
    · intro execId p hp
      cases hp
    · rintro p (⟨execId, hp⟩ | hlast)
      · cases hp
      · cases hlast
    · intro p hlast
      cases hlast

/-! ### What is known after a tick -/

variable {execId : String}

/-- An execution that has ended is no longer active after a tick. -/
theorem ended_leaves (hp : e.execution execId = some p) (hended : p.state ≠ .running) :
    (e.tickProcedures cb now).active.get? execId = none := by
  apply eq_none_iff_forall_ne_some.mpr
  intro q hq
  obtain ⟨p', hp', hstays, -⟩ := get?_tickProcedures.mp hq
  have hsame : e.execution execId = some p' := or_eq_some_iff.mpr (.inl hp')
  obtain rfl := some.inj (hp.symm.trans hsame)
  exact hstays (.inl hended)

/-- What is not active is known under the name it was remembered by. -/
theorem execution_of_inactive (h : e.active.get? execId = none) :
    e.execution execId = some p ↔ e.lastFinished = some p ∧ p.execId = execId := by
  unfold execution
  rw [h, none_or, filter_eq_some_iff, decide_eq_true_iff]

/-- The executions that a tick finds ended are all one, if no outcome is lost. -/
theorem lastFinished_of_only (hp : e.active.get? execId = some p) (hended : p.state ≠ .running)
    (honly : ∀ execId' q, e.active.get? execId' = some q → q.state ≠ .running → execId' = execId) :
    (e.tickProcedures cb now).lastFinished = some p := by
  have hlast : (e.active.values.filter fun p => p.state ≠ .running).getLast? = some p := by
    have hmem : p ∈ e.active.values.filter fun p => p.state ≠ .running := by
      apply List.mem_filter.mpr
      refine ⟨List.mem_map.mpr ⟨(execId, p), Dict.get?_eq_some_iff.mp hp, rfl⟩, ?_⟩
      exact decide_eq_true hended
    cases hfound : (e.active.values.filter fun p => p.state ≠ .running).getLast? with
    | none =>
        rw [List.getLast?_eq_none_iff.mp hfound] at hmem
        cases hmem
    | some q =>
        obtain ⟨hvalue, hq⟩ := List.mem_filter.mp (List.mem_of_getLast? hfound)
        obtain ⟨⟨execId', _⟩, hitem, rfl⟩ := List.mem_map.mp hvalue
        have hactive := Dict.get?_eq_some_iff.mpr hitem
        obtain rfl := honly execId' _ hactive (of_decide_eq_true hq)
        exact congrArg some (some.inj (hactive.symm.trans hp))
  unfold ProcedureExecutor.tickProcedures
  rw [hlast]
  rfl

/-- **The step lemma.**  A known outcome stays known, unless the operation loses one. -/
theorem Filed.known_step (h : Filed e) {state : ExecutionState} (hended : state ≠ .running)
    {op : Operation} (hkept : ¬ Loses cb e op) (hknown : e.executionState execId = some state) :
    (step cb e op).executionState execId = some state := by
  obtain ⟨p, hp, rfl⟩ := map_eq_some_iff.mp hknown
  cases op with
  | startProcedure procId now =>
      rcases startProcedure_eq e procId now with ⟨-, heq⟩ | ⟨steps, hproc, q, -, -, heq⟩
      · rw [step, heq]
        exact hknown
      · have hother : execId ≠ execIdOf procId now := by
          rintro rfl
          exact hkept (.start hproc (isSome_iff_exists.mpr ⟨p, hp⟩))
        rw [step, heq, executionState, execution,
          Dict.get?_set_ne _ hother]
        exact hknown
  | tickProcedures now =>
      have hgone : (e.tickProcedures cb now).active.get? execId = none := ended_leaves hp hended
      have honly : ∀ execId' q, e.active.get? execId' = some q → q.state ≠ .running →
          execId' = execId := by
        intro execId' q hq hqended
        by_contra hne
        exact hkept (.crowded hne hq hqended hp hended)
      have hafter : (step cb e (.tickProcedures now)).execution execId = some p := by
        apply (execution_of_inactive hgone).mpr
        rcases or_eq_some_iff.mp hp with hactive | ⟨hinactive, hlast⟩
        · exact ⟨lastFinished_of_only hactive hended honly, h.execId execId p hactive⟩
        · obtain ⟨hlast, hname⟩ := filter_eq_some_iff.mp hlast
          refine ⟨?_, of_decide_eq_true hname⟩
          -- what else the tick found ended would have that name
          have hnone : (e.active.values.filter fun p => p.state ≠ .running) = [] := by
            apply List.filter_eq_nil_iff.mpr
            intro q hq hqended
            obtain ⟨⟨execId', _⟩, hitem, rfl⟩ := List.mem_map.mp hq
            have hactive := Dict.get?_eq_some_iff.mpr hitem
            obtain rfl := honly execId' _ hactive (of_decide_eq_true hqended)
            rw [hinactive] at hactive
            cases hactive
          unfold ProcedureExecutor.tickProcedures
          rw [hnone]
          exact hlast
      rw [executionState, hafter, map_some]

/-- An execution that a tick ends is reported with its outcome, unless the tick completes it. -/
theorem known_of_ends {state : ExecutionState} {op : Operation} (hkept : ¬ Loses cb e op)
    (hends : Ends cb execId state e op) : (step cb e op).executionState execId = some state := by
  cases op with
  | startProcedure procId now => exact hends.elim
  | tickProcedures now =>
      obtain ⟨-, p, hp, hrunning, rfl⟩ := hends
      have hstays : ¬ p.Leaves cb now := by
        intro hleaves
        rcases leaves_iff.mp hleaves with hended | hcompletes
        · exact hended hrunning
        · exact hkept (.complete hp hcompletes)
      have hactive := get?_tickProcedures.mpr ⟨p, hp, hstays, rfl⟩
      rw [step, executionState, execution, hactive,
        some_or, map_some]

/-- A start that succeeds makes a running execution of its name. -/
theorem live_of_start {procId execId : String} (h : (e.startProcedure procId now).2 = some execId) :
    (∃ steps, e.procedures.get? procId = some (some steps)) ∧ execId = execIdOf procId now ∧
      (step cb e (.startProcedure procId now)).executionState execId = some .running := by
  rcases startProcedure_eq e procId now with ⟨-, heq⟩ | ⟨steps, hproc, p, -, hrunning, heq⟩
  · rw [heq] at h
    cases h
  · rw [heq] at h
    cases h
    refine ⟨⟨steps, hproc⟩, rfl, ?_⟩
    rw [step, heq, executionState, execution,
      Dict.get?_set_same, some_or, map_some, hrunning]

/-! ### Where the outcomes come from -/

/-- The execution of that name was ended in that state before the position. -/
def EndedBefore (cb : Callbacks) (procedures : Dict String (Option (List ProcedureStep)))
    (ops : List Operation) (i : Nat) (execId : String) (state : ExecutionState) : Prop :=
  ∃ j < i, HappensAt (step cb) { procedures := procedures } ops (Ends cb execId state) j

/-- The ended executions in the tables of the executor were ended before. -/
structure Traced (cb : Callbacks) (procedures : Dict String (Option (List ProcedureStep)))
    (ops : List Operation) (i : Nat) : Prop where
  active : ∀ execId p, (executorAt cb procedures ops i).active.get? execId = some p →
    p.state ≠ .running → EndedBefore cb procedures ops i execId p.state
  lastFinished : ∀ p, (executorAt cb procedures ops i).lastFinished = some p →
    EndedBefore cb procedures ops i p.execId p.state

theorem EndedBefore.later {i j : Nat} {state : ExecutionState}
    (h : EndedBefore cb procedures ops i execId state) (hij : i ≤ j) :
    EndedBefore cb procedures ops j execId state := by
  obtain ⟨k, hk, hends⟩ := h
  exact ⟨k, hk.trans_le hij, hends⟩

theorem executorAt_succ {i : Nat} {op : Operation} (h : ops[i]? = some op) :
    executorAt cb procedures ops (i + 1) = step cb (executorAt cb procedures ops i) op :=
  after_take_succ h

theorem executorAt_past {i : Nat} (h : ops[i]? = none) :
    executorAt cb procedures ops (i + 1) = executorAt cb procedures ops i := by
  have hlong := List.getElem?_eq_none_iff.mp h
  unfold executorAt
  rw [List.take_of_length_le hlong, List.take_of_length_le (Nat.le_succ_of_le hlong)]

/-- An operation that ends no execution and remembers no other one leaves them traced. -/
theorem Traced.succ {i : Nat} (h : Traced cb procedures ops i)
    (hactive : ∀ execId p, (executorAt cb procedures ops (i + 1)).active.get? execId = some p →
      p.state ≠ .running → (executorAt cb procedures ops i).active.get? execId = some p)
    (hlast : (executorAt cb procedures ops (i + 1)).lastFinished =
      (executorAt cb procedures ops i).lastFinished) : Traced cb procedures ops (i + 1) := by
  constructor
  · intro execId p hp hended
    exact (h.active execId p (hactive execId p hp hended) hended).later (Nat.le_succ i)
  · intro p hp
    rw [hlast] at hp
    exact (h.lastFinished p hp).later (Nat.le_succ i)

/-- A start ends none. -/
theorem Traced.startProcedure {i : Nat} (h : Traced cb procedures ops i) {procId : String}
    (hop : ops[i]? = some (.startProcedure procId now)) : Traced cb procedures ops (i + 1) := by
  rcases startProcedure_eq (executorAt cb procedures ops i) procId now with
    ⟨-, heq⟩ | ⟨steps, -, q, -, hrunning, heq⟩
  · apply h.succ
    · rw [executorAt_succ hop, step, heq]
      exact fun execId p hp _ => hp
    · rw [executorAt_succ hop, step, heq]
  · apply h.succ
    · rw [executorAt_succ hop, step, heq]
      intro execId p hp hended
      by_cases hsame : execId = execIdOf procId now
      · subst hsame
        rw [Dict.get?_set_same] at hp
        cases hp
        exact absurd hrunning hended
      · rwa [Dict.get?_set_ne _ hsame] at hp
    · rw [executorAt_succ hop, step, heq]

/-- What a tick leaves ended in the table it has ended itself; what it remembers was there. -/
theorem Traced.tickProcedures {i : Nat} (h : Traced cb procedures ops i)
    (hop : ops[i]? = some (.tickProcedures now)) : Traced cb procedures ops (i + 1) := by
  constructor
  · rw [executorAt_succ hop]
    intro execId q hq hended
    obtain ⟨p, hp, hstays, rfl⟩ := get?_tickProcedures.mp hq
    have hrunning : p.state = .running := by
      by_contra hbefore
      exact hstays (.inl hbefore)
    exact ⟨i, Nat.lt_succ_self i, _, hop, hended, p, hp, hrunning, rfl⟩
  · rw [executorAt_succ hop]
    intro p hlast
    rcases lastFinished_tickProcedures hlast with hbefore | ⟨execId, hp, hended⟩
    · exact (h.lastFinished p hbefore).later (Nat.le_succ i)
    · rw [(filed_at i).execId execId p hp]
      exact (h.active execId p hp hended).later (Nat.le_succ i)

theorem traced_at (i : Nat) : Traced cb procedures ops i := by
  induction i with
  | zero =>
      constructor
      · intro execId p hp
        cases hp
      · intro p hlast
        cases hlast
  | succ i ih =>
      cases hop : ops[i]? with
      | none =>
          apply ih.succ
          · rw [executorAt_past hop]
            exact fun execId p hp _ => hp
          · rw [executorAt_past hop]
      | some op =>
          cases op with
          | startProcedure procId now => exact ih.startProcedure hop
          | tickProcedures now => exact ih.tickProcedures hop

/-- What is known to have ended was ended before. -/
theorem endedBefore_of_execution {i : Nat} {execId : String} {p : ProcedureExecution}
    (hp : (executorAt cb procedures ops i).execution execId = some p) (hended : p.state ≠ .running) :
    EndedBefore cb procedures ops i execId p.state := by
  rcases or_eq_some_iff.mp hp with hactive | ⟨-, hlast⟩
  · exact (traced_at i).active execId p hactive hended
  · obtain ⟨hremembered, hname⟩ := filter_eq_some_iff.mp hlast
    obtain rfl := of_decide_eq_true hname
    exact (traced_at i).lastFinished p hremembered

/-! ### Runs -/

/-- A run that loses no outcome has them all known. -/
theorem outcomesKnown_of_kept
    (h : ∀ i, ¬ HappensAt (step cb) { procedures := procedures } ops (Loses cb) i) :
    OutcomesKnown cb procedures ops := by
  constructor
  · intro i procId now execId hop hstart p hp _
    obtain ⟨⟨steps, hproc⟩, rfl, -⟩ := @live_of_start cb _ _ _ _ hstart
    have hknown : (executorAt cb procedures ops i).execution (execIdOf procId now) = some p :=
      or_eq_some_iff.mpr (.inl hp)
    exact h i ⟨_, hop, .start hproc (isSome_iff_exists.mpr ⟨p, hknown⟩)⟩
  · intro i procId now execId hop hstart
    rw [executorAt_succ hop]
    exact (live_of_start hstart).2.2
  · intro i j execId state hends hij
    obtain ⟨op, hop, hnow⟩ := hends
    have hended : state ≠ .running := by
      cases op with
      | startProcedure procId now => exact hnow.elim
      | tickProcedures now => exact hnow.1
    refine holds_between (P := fun e : ProcedureExecutor => e.executionState execId = some state)
      hij ?_ ?_
    · rw [after_take_succ hop]
      exact known_of_ends (fun hloses => h i ⟨op, hop, hloses⟩) hnow
    · intro k op _ _ hop hknown
      exact (filed_at k).known_step hended (fun hloses => h k ⟨op, hop, hloses⟩) hknown

/-- **Outcomes are known** in exactly the runs that lose none. -/
theorem outcomesKnown_iff (cb : Callbacks)
    (procedures : Dict String (Option (List ProcedureStep))) (ops : List Operation) :
    OutcomesKnown cb procedures ops ↔
      ∀ i, ¬ HappensAt (step cb) { procedures := procedures } ops (Loses cb) i := by
  refine ⟨fun h i => ?_, outcomesKnown_of_kept⟩
  rintro ⟨op, hop, hloses⟩
  have hreported : ∀ {execId state}, EndedBefore cb procedures ops (i + 1) execId state →
      (step cb (executorAt cb procedures ops i) op).executionState execId = some state := by
    rintro execId state ⟨j, hj, hends⟩
    rw [← executorAt_succ hop]
    exact h.known j (i + 1) execId state hends hj
  cases hloses with
  | @start procId now steps hproc hknown =>
      obtain ⟨p, hp⟩ := Option.isSome_iff_exists.mp hknown
      have hstart : ((executorAt cb procedures ops i).startProcedure procId now).2 =
          some (execIdOf procId now) := by
        unfold ProcedureExecutor.startProcedure
        rw [show (executorAt cb procedures ops i).procedures.get? procId = _ from hproc]
      by_cases hrunning : p.state = .running
      · rcases Option.or_eq_some_iff.mp hp with hactive | ⟨-, hlast⟩
        · exact h.replacesNone i procId now _ hop hstart p hactive hrunning
        · exact (filed_at i).ended p (Option.filter_eq_some_iff.mp hlast).1 hrunning
      · have hbefore := endedBefore_of_execution hp hrunning
        have hstate := hreported (hbefore.later (Nat.le_succ i))
        rw [(live_of_start hstart).2.2] at hstate
        exact hrunning (Option.some.inj hstate).symm
  | @complete execId p now hp hcompletes =>
      obtain ⟨hrunning, hcomplete⟩ := completes_iff.mp hcompletes
      have hstate := hreported ⟨i, Nat.lt_succ_self i, _, hop, ExecutionState.noConfusion, p, hp,
        hrunning, hcomplete⟩
      obtain ⟨q, hq, hqcomplete⟩ := Option.map_eq_some_iff.mp hstate
      have hfiled : Filed (executorAt cb procedures ops (i + 1)) := filed_at (i + 1)
      rw [executorAt_succ hop] at hfiled
      exact hfiled.notComplete q (knows_of_execution hq) hqcomplete
  | @crowded execId execId' p q now hne hp hended hq hended' =>
      have hknown : (executorAt cb procedures ops i).execution execId = some p :=
        Option.or_eq_some_iff.mpr (.inl hp)
      have hlast : ∀ {execId p}, (executorAt cb procedures ops i).execution execId = some p →
          p.state ≠ .running →
          ∃ p', ((executorAt cb procedures ops i).tickProcedures cb now).lastFinished = some p' ∧
            p'.execId = execId := by
        intro execId p hp hended
        have hbefore := endedBefore_of_execution hp hended
        have hstate := hreported (hbefore.later (Nat.le_succ i))
        obtain ⟨p', hp', -⟩ := Option.map_eq_some_iff.mp hstate
        exact ⟨p', (execution_of_inactive (ended_leaves hp hended)).mp hp'⟩
      obtain ⟨p', hp', hname⟩ := hlast hknown hended
      obtain ⟨q', hq', hname'⟩ := hlast hq hended'
      obtain rfl := Option.some.inj (hp'.symm.trans hq')
      exact hne (hname.symm.trans hname')

/-! ### Examples -/

/-- A procedure of one step. -/
def oneStep : Dict String (Option (List ProcedureStep)) := Dict.empty.set "p" (some [{}])

/-- The outcome of a procedure that is completed is not known. -/
theorem oneStep_forgotten :
    ¬ ∀ (cb : Callbacks) (procedures : Dict String (Option (List ProcedureStep)))
      (ops : List Operation), OutcomesKnown cb procedures ops := by
  intro hall
  let cb : Callbacks := ⟨[], fun _ _ => false⟩
  have hknown := hall cb oneStep [.startProcedure "p" 0, .tickProcedures 0]
  have hreported := hknown.known 1 2 "p_0" .complete
    ⟨_, rfl, ExecutionState.noConfusion, ?_⟩ (by decide)
  · revert hreported
    decide +kernel
  · decide +kernel

end FdirProcedures
