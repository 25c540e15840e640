import MissionSim.FdirProcedures
import MissionSim.Runs

/-!
# Procedures that fail

A failed step makes its execution a failed one, and no later tick runs a step of it.  But within
the tick the steps that are due are run on.

The main result says of which runs no step of an execution is run after one of it has failed.
-/

namespace FdirProcedures

open Python List

/-- A step of the execution has failed. -/
def ProcedureExecutor.Failed (e : ProcedureExecutor) (p : ProcedureExecution) : Prop :=
  ∃ r ∈ e.ran, r.start = p.start ∧ r.failed = true

/-- The executor knows the execution. -/
def ProcedureExecutor.Knows (e : ProcedureExecutor) (p : ProcedureExecution) : Prop :=
  (∃ execId, e.active.get? execId = some p) ∨ e.lastFinished = some p

/-- **What a failure should do**: no step of its execution is run after it, and the execution is
reported as failed. -/
structure StopsAtFailure (e : ProcedureExecutor) : Prop where
  stops : e.ran.Pairwise fun r r' => r.start = r'.start → r.failed = false
  reports : ∀ execId p, e.execution execId = some p → e.Failed p →
    e.executionState execId = some .failed

/-- In the tick a step that fails is due, and another one behind it. -/
def ProcedureExecution.RunsOn (p : ProcedureExecution) (cb : Callbacks) (now : Rat) : Prop :=
  p.state = .running ∧ ∃ (i j : Nat) (s s' : ProcedureStep), i < j ∧ p.steps[i]? = some s ∧
    p.steps[j]? = some s' ∧ p.Due now s ∧ p.Due now s' ∧ p.Fails cb i s = true

/-- The tick has an active execution run on after a failed step. -/
def RunsOn (cb : Callbacks) (e : ProcedureExecutor) : Operation → Prop
  | .startProcedure .. => False
  | .tickProcedures now => ∃ execId p, e.active.get? execId = some p ∧ p.RunsOn cb now

/-! ### One execution -/

theorem pairwise_zipIdx_iff {α : Type} {R : α × Nat → α × Nat → Prop} {xs : List α} :
    xs.zipIdx.Pairwise R ↔
      ∀ (i j : Nat) (x y : α), i < j → xs[i]? = some x → xs[j]? = some y → R (x, i) (y, j) := by
  rw [pairwise_iff_getElem]
  simp only [getElem_zipIdx, length_zipIdx, Nat.zero_add]
  constructor
  · intro h i j x y hij hx hy
    obtain ⟨hi, rfl⟩ := List.getElem?_eq_some_iff.mp hx
    obtain ⟨hj, rfl⟩ := List.getElem?_eq_some_iff.mp hy
    exact h i j hi hj hij
  · intro h i j hi hj hij
    exact h i j _ _ hij (List.getElem?_eq_getElem hi) (List.getElem?_eq_getElem hj)

variable {cb : Callbacks}

/-- **One execution in a tick**: only its last step fails, unless it runs on. -/
theorem pairwise_ranIn_iff {p : ProcedureExecution} {now : Rat} :
    (p.ranIn cb now).Pairwise (fun r r' => r.start = r'.start → r.failed = false) ↔
      ¬ p.RunsOn cb now := by
  unfold ProcedureExecution.ranIn ProcedureExecution.RunsOn
  by_cases hrunning : p.state = .running
  · rw [if_pos hrunning, ProcedureExecution.stepRuns, pairwise_map, pairwise_filter,
      pairwise_zipIdx_iff]
    constructor
    · rintro h ⟨-, i, j, s, s', hij, hs, hs', hdue, hdue', hfails⟩
      have hholds := h i j s s' hij hs hs' (decide_eq_true hdue) (decide_eq_true hdue') rfl
      rw [hfails] at hholds
      cases hholds
    · intro h i j s s' hij hs hs' hdue hdue' _
      by_contra hfails
      exact h ⟨hrunning, i, j, s, s', hij, hs, hs', of_decide_eq_true hdue,
        of_decide_eq_true hdue', Bool.eq_true_of_not_eq_false hfails⟩
  · rw [if_neg hrunning]
    exact ⟨fun _ h => hrunning h.1, fun _ => List.Pairwise.nil⟩

/-! ### What every run keeps -/

/-- What holds in every run: the executions known have numbers that were given, the active ones
different numbers, also from the one remembered, and one of which a step has failed is a failed
one. -/
structure Ordered (e : ProcedureExecutor) : Prop where
  given : ∀ p, e.Knows p → p.start < e.starts
  given_ran : ∀ r ∈ e.ran, r.start < e.starts
  distinct : ∀ execId execId' p p', e.active.get? execId = some p →
    e.active.get? execId' = some p' → p.start = p'.start → execId = execId'
  apart : ∀ q, e.lastFinished = some q → ∀ execId p, e.active.get? execId = some p →
    p.start ≠ q.start
  failed : ∀ p, e.Knows p → e.Failed p → p.state = .failed

variable {e : ProcedureExecutor}

/-- What the executor finds under a name it knows. -/
theorem knows_of_execution {execId : String} {p : ProcedureExecution}
    (h : e.execution execId = some p) : e.Knows p := by
  rcases Option.or_eq_some_iff.mp h with hactive | ⟨-, hlast⟩
  · exact .inl ⟨execId, hactive⟩
  · exact .inr (Option.filter_eq_some_iff.mp hlast).1

/-- An execution of which a step has failed is reported as failed. -/
theorem Ordered.reports (h : Ordered e) {execId : String} {p : ProcedureExecution}
    (hp : e.execution execId = some p) (hfailed : e.Failed p) :
    e.executionState execId = some .failed := by
  rw [ProcedureExecutor.executionState, hp, Option.map_some,
    h.failed p (knows_of_execution hp) hfailed]

theorem Ordered.start (h : Ordered e) (procId : String) (now : Rat) :
    Ordered (e.startProcedure procId now).1 := by
  unfold ProcedureExecutor.startProcedure
  split
  · exact h
  · exact h
  · rename_i steps _
    let p : ProcedureExecution :=
      { execId := execIdOf procId now, procId := procId, steps := steps, startTime := now,
        start := e.starts }
    have hactive : ∀ {execId q},
        (e.active.set (execIdOf procId now) p).get? execId = some q →
        (execId = execIdOf procId now ∧ q = p) ∨ e.active.get? execId = some q := by
      intro execId q hq
      by_cases hsame : execId = execIdOf procId now
      · subst hsame
        rw [Dict.get?_set_same] at hq
        exact .inl ⟨rfl, (Option.some.inj hq).symm⟩
      · rw [Dict.get?_set_ne _ hsame] at hq
        exact .inr hq
    have hknown : ∀ q, (∃ execId, (e.active.set (execIdOf procId now) p).get? execId = some q) ∨
        e.lastFinished = some q → q = p ∨ e.Knows q := by
      rintro q (⟨execId, hq⟩ | hlast)
      · exact (hactive hq).imp And.right fun hold => .inl ⟨execId, hold⟩
      · exact .inr (.inr hlast)
    have hfresh : ∀ q, e.Knows q → q.start ≠ e.starts := fun q hq =>
      Nat.ne_of_lt (h.given q hq)
    refine ⟨fun q hq => ?_, fun r hr => Nat.lt_succ_of_lt (h.given_ran r hr), ?_,
      fun q hlast execId q' hq' => ?_, fun q hq hf => ?_⟩
    · rcases hknown q hq with rfl | hold
      · exact Nat.lt_succ_self _
      · exact Nat.lt_succ_of_lt (h.given q hold)
    · intro execId execId' q q' hq hq' hstart
      rcases hactive hq with ⟨rfl, rfl⟩ | hold <;> rcases hactive hq' with ⟨rfl, rfl⟩ | hold'
      · rfl
      · exact absurd hstart.symm (hfresh q' (.inl ⟨execId', hold'⟩))
      · exact absurd hstart (hfresh q (.inl ⟨execId, hold⟩))
      · exact h.distinct execId execId' q q' hold hold' hstart
    · rcases hactive hq' with ⟨-, rfl⟩ | hold
      · exact (hfresh q (.inr hlast)).symm
      · exact h.apart q hlast execId q' hold
    · rcases hknown q hq with rfl | hold
      · obtain ⟨r, hr, hstart, -⟩ := hf
        exact absurd hstart (Nat.ne_of_lt (h.given_ran r hr))
      · exact h.failed q hold hf

/-- What a tick runs belongs to an active execution that was running. -/
theorem mem_flatMap_ranIn {now : Rat} {r : StepRun}
    (h : r ∈ e.active.values.flatMap fun p => p.ranIn cb now) :
    ∃ execId p, e.active.get? execId = some p ∧ r ∈ p.ranIn cb now := by
  obtain ⟨p, hp, hr⟩ := mem_flatMap.mp h
  obtain ⟨⟨execId, _⟩, hitem, rfl⟩ := mem_map.mp hp
  exact ⟨execId, _, Dict.get?_eq_some_iff.mpr hitem, hr⟩

/-- An execution known after a tick was active before it, or was remembered already. -/
theorem knows_tickProcedures {now : Rat} {q : ProcedureExecution}
    (h : (e.tickProcedures cb now).Knows q) :
    (∃ execId p, e.active.get? execId = some p ∧ p.tick cb now = q) ∨ e.lastFinished = some q := by
  rcases h with ⟨execId, hq⟩ | hlast
  · obtain ⟨p, hp, -, htick⟩ := get?_tickProcedures.mp hq
    exact .inl ⟨execId, p, hp, htick⟩
  · rcases lastFinished_tickProcedures hlast with hbefore | ⟨execId, hq, hended⟩
    · exact .inr hbefore
    · exact .inl ⟨execId, q, hq, if_neg hended⟩

theorem Ordered.tick (h : Ordered e) (cb : Callbacks) (now : Rat) :
    Ordered (e.tickProcedures cb now) := by
  have hran : ∀ r ∈ (e.tickProcedures cb now).ran, r ∈ e.ran ∨
      ∃ execId p, e.active.get? execId = some p ∧ r ∈ p.ranIn cb now := fun r hr =>
    (mem_append.mp hr).imp_right mem_flatMap_ranIn
  constructor
  · intro q hq
    rcases knows_tickProcedures hq with ⟨execId, p, hp, rfl⟩ | hlast
    · rw [tick_start]
      exact h.given p (.inl ⟨execId, hp⟩)
    · exact h.given q (.inr hlast)
  · intro r hr
    rcases hran r hr with hold | ⟨execId, p, hp, hnew⟩
    · exact h.given_ran r hold
    · rw [(mem_ranIn hnew).2.1]
      exact h.given p (.inl ⟨execId, hp⟩)
  · intro execId execId' q q' hq hq' hstart
    obtain ⟨p, hp, -, rfl⟩ := get?_tickProcedures.mp hq
    obtain ⟨p', hp', -, rfl⟩ := get?_tickProcedures.mp hq'
    rw [tick_start, tick_start] at hstart
    exact h.distinct execId execId' p p' hp hp' hstart
  · intro q hlast execId q' hq'
    obtain ⟨p, hp, hstays, rfl⟩ := get?_tickProcedures.mp hq'
    rw [tick_start]
    rcases lastFinished_tickProcedures hlast with hbefore | ⟨execId', hq, hended⟩
    · exact h.apart q hbefore execId p hp
    · -- it leaves the table, so the other one has another name
      intro hstart
      obtain rfl := h.distinct execId execId' p q hp hq hstart
      obtain rfl := Option.some.inj (hp.symm.trans hq)
      exact hstays (.inl hended)
  · rintro q hq ⟨r, hr, hstart, hfailed⟩
    rcases knows_tickProcedures hq with ⟨execId, p, hp, rfl⟩ | hlast
    · rw [tick_start] at hstart
      rcases hran r hr with hold | ⟨execId', p', hp', hnew⟩
      · have hstate := h.failed p (.inl ⟨execId, hp⟩) ⟨r, hold, hstart, hfailed⟩
        unfold ProcedureExecution.tick
        rw [if_neg (by rw [hstate]; exact ExecutionState.noConfusion)]
        exact hstate
      · obtain ⟨-, hstart', hstate⟩ := mem_ranIn hnew
        obtain rfl := h.distinct execId execId' p p' hp hp' (hstart.symm.trans hstart')
        obtain rfl := Option.some.inj (hp.symm.trans hp')
        exact hstate hfailed
    · rcases hran r hr with hold | ⟨execId', p', hp', hnew⟩
      · exact h.failed q (.inr hlast) ⟨r, hold, hstart, hfailed⟩
      · exact absurd ((mem_ranIn hnew).2.1.symm.trans hstart) (h.apart q hlast execId' p' hp')

theorem Ordered.step (h : Ordered e) (cb : Callbacks) (op : Operation) :
    Ordered (step cb e op) := by
  cases op with
  | startProcedure procId now => exact h.start procId now
  | tickProcedures now => exact h.tick cb now

/-! ### Runs -/

/-- **One operation**: failures still stop their executions, unless a tick has one run on. -/
theorem StopsAtFailure.step_iff (h : StopsAtFailure e) (hordered : Ordered e) (cb : Callbacks)
    (op : Operation) : StopsAtFailure (step cb e op) ↔ ¬ RunsOn cb e op := by
  have hafter := hordered.step cb op
  have hreports : ∀ execId p, (step cb e op).execution execId = some p →
      (step cb e op).Failed p → (step cb e op).executionState execId = some .failed :=
    fun execId p hp hfailed => hafter.reports hp hfailed
  cases op with
  | startProcedure procId now =>
      refine ⟨fun _ => id, fun _ => ⟨?_, hreports⟩⟩
      change ((e.startProcedure procId now).1.ran).Pairwise _
      unfold ProcedureExecutor.startProcedure
      split <;> exact h.stops
  | tickProcedures now =>
      -- the steps of different executions do not meet, nor those of this tick earlier failures
      have hcross : ∀ r ∈ e.ran, ∀ r' ∈ e.active.values.flatMap fun p => p.ranIn cb now,
          r.start = r'.start → r.failed = false := by
        intro r hr r' hr' hstart
        obtain ⟨execId, p, hp, hmem⟩ := mem_flatMap_ranIn hr'
        obtain ⟨hrunning, hstart', -⟩ := mem_ranIn hmem
        by_contra hfailed
        have hstate := hordered.failed p (.inl ⟨execId, hp⟩)
          ⟨r, hr, hstart.trans hstart', Bool.eq_true_of_not_eq_false hfailed⟩
        rw [hrunning] at hstate
        cases hstate
      have hapart : e.active.values.Pairwise fun p p' => ∀ r ∈ p.ranIn cb now,
          ∀ r' ∈ p'.ranIn cb now, r.start = r'.start → r.failed = false := by
        rw [Dict.values, pairwise_map]
        refine (pairwise_map.mp e.active.nodup).imp_of_mem ?_
        intro item item' hitem hitem' hkey r hr r' hr' hstart
        refine absurd ?_ hkey
        exact hordered.distinct item.1 item'.1 item.2 item'.2 (Dict.get?_eq_some_iff.mpr hitem)
          (Dict.get?_eq_some_iff.mpr hitem')
          ((mem_ranIn hr).2.1.symm.trans (hstart.trans (mem_ranIn hr').2.1))
      have hstops : ((e.tickProcedures cb now).ran).Pairwise
          (fun r r' => r.start = r'.start → r.failed = false) ↔
            ∀ p ∈ e.active.values, ¬ p.RunsOn cb now := by
        change (e.ran ++ _).Pairwise _ ↔ _
        rw [pairwise_append, pairwise_flatMap]
        simp only [pairwise_ranIn_iff]
        exact ⟨fun hall => hall.2.1.1, fun hall => ⟨h.stops, ⟨hall, hapart⟩, hcross⟩⟩
      have hvalues : (∀ p ∈ e.active.values, ¬ p.RunsOn cb now) ↔
          ¬ RunsOn cb e (.tickProcedures now) := by
        constructor
        · rintro hall ⟨execId, p, hp, hruns⟩
          exact hall p (mem_map_of_mem (Dict.get?_eq_some_iff.mp hp)) hruns
        · intro hnone p hp hruns
          obtain ⟨⟨execId, _⟩, hitem, rfl⟩ := mem_map.mp hp
          exact hnone ⟨execId, _, Dict.get?_eq_some_iff.mpr hitem, hruns⟩
      rw [← hvalues, ← hstops]
      exact ⟨StopsAtFailure.stops, fun hall => ⟨hall, hreports⟩⟩

/-- The executor with its procedures registered. -/
def registered (procedures : Dict String (Option (List ProcedureStep))) : ProcedureExecutor :=
  { procedures }

end FdirProcedures
