import MissionSim.Obcp
import MissionSim.Rounding
import Mathlib.Algebra.Order.Field.Rat
import Mathlib.Data.Rat.Defs
import Mathlib.Tactic.Linarith

/-!
# The tick lengths of a procedure

The interpreter of the control procedures with exact delays.  How long a tick is does not
matter: consuming the steps that are due after some time and then those that are due after
some more is consuming them after all of the time, because the time that a tick has too much
is carried into the delay of the next step.

`consume_reads` connects it with the interpreter in floating point: while no sum is rounded
the two consume the same steps.
-/

namespace Obcp.Exact

open Octets Binary32 Python List

/-! ### The interpreter -/

/-- A step with an exact delay. -/
structure Step where
  delayS : ℚ
  tc : Bytes

structure Procedure where
  name : String
  steps : List Step

/-- A running procedure. -/
structure Execution where
  stepIndex : Nat
  waitRemaining : ℚ
  param : Nat

/-- The procedures and those that run. -/
structure Store where
  procedures : Dict Int Procedure := .empty
  running : Dict Int Execution := .empty

/-- A step that has fallen due. -/
structure Due where
  procId : Int
  stepIdx : Nat
  tc : Bytes

/-- Where an execution is when its due steps are consumed. -/
inductive Stop where
  | waiting (stepIndex : Nat) (waitRemaining : ℚ)
  | completed
  | indexError (stepIndex : Nat) (waitRemaining : ℚ)

/-- Consume the steps that are due, from the steps that are left. -/
def consume : List Step → Nat → ℚ → List (Nat × Bytes) × Stop
  | [], idx, wait => ([], if wait ≤ 0 then .indexError idx wait else .waiting idx wait)
  | step :: rest, idx, wait =>
      if wait ≤ 0 then
        match rest with
        | [] => ([(idx, step.tc)], .completed)
        | following :: _ =>
            let r := consume rest (idx + 1) (wait + following.delayS)
            ((idx, step.tc) :: r.1, r.2)
      else ([], .waiting idx wait)

/-- What the first half of a tick gathers, and whether it comes to an exception. -/
structure Gathered where
  store : Store
  due : List Due := []
  raised : Bool := false

/-- Gather the due steps of the procedures with the given numbers. -/
def gather (dt : ℚ) : List Int → Store → Gathered
  | [], s => { store := s }
  | pid :: pids, s =>
      match s.running.get? pid, s.procedures.get? pid with
      | none, _ => gather dt pids s
      | some _, none => gather dt pids { s with running := s.running.erase pid }
      | some run, some proc =>
          let consumed := consume (proc.steps.drop run.stepIndex) run.stepIndex
            (run.waitRemaining - dt)
          let due := consumed.1.map fun step => Due.mk pid step.1 step.2
          match consumed.2 with
          | .waiting idx wait =>
              let run := { run with stepIndex := idx, waitRemaining := wait }
              let g := gather dt pids { s with running := s.running.set pid run }
              { g with due := due ++ g.due }
          | .completed =>
              let g := gather dt pids { s with running := s.running.erase pid }
              { g with due := due ++ g.due }
          | .indexError idx wait =>
              let run := { run with stepIndex := idx, waitRemaining := wait }
              { store := { s with running := s.running.set pid run }, raised := true }

/-- A tick: its length, and what dispatching its due steps does, each by its position: the
store it leaves, and whether it raises. -/
structure Tick where
  dt : ℚ
  dispatch : Nat → Due → Store → Store × Bool

/-- `_fail_step(proc_id, step_idx, reason)`. -/
def Store.failStep (s : Store) (d : Due) : Store := { s with running := s.running.erase d.procId }

/-- `_execute_step(proc_id, step_idx, tc)`, and the steps it dispatches. -/
def Tick.executeStep (t : Tick) (k : Nat) (d : Due) (s : Store) : Store × List Due :=
  match refusedReason d.tc with
  | some _ => (s.failStep d, [])
  | none =>
      let r := t.dispatch k d s
      (if r.2 then r.1.failStep d else r.1, [d])

def Tick.executeDue (t : Tick) : List Due → Nat → Store → Store × List Due
  | [], _, s => (s, [])
  | d :: rest, k, s =>
      let first := t.executeStep k d s
      let r := t.executeDue rest (k + 1) first.1
      (r.1, first.2 ++ r.2)

/-- `tick(dt_sim)`, and the steps it dispatches. -/
def Store.tick (s : Store) (t : Tick) : Store × List Due :=
  let g := gather t.dt s.running.keys s
  if g.raised then (g.store, []) else t.executeDue g.due 0 g.store

/-- A run of ticks, and the steps it dispatches. -/
def run : List Tick → Store → Store × List Due
  | [], s => (s, [])
  | t :: ticks, s =>
      let first := s.tick t
      let r := run ticks first.1
      (r.1, first.2 ++ r.2)

/-- The steps of one procedure. -/
def stepsOf (pid : Int) (due : List Due) : List (Nat × Bytes) :=
  (due.filter fun d => d.procId = pid).map fun d => (d.stepIdx, d.tc)

theorem stepsOf_append (pid : Int) (due due' : List Due) :
    stepsOf pid (due ++ due') = stepsOf pid due ++ stepsOf pid due' := by
  rw [stepsOf, filter_append, map_append]
  rfl

theorem stepsOf_own (pid : Int) (steps : List (Nat × Bytes)) :
    stepsOf pid (steps.map fun step => Due.mk pid step.1 step.2) = steps := by
  induction steps with
  | nil => rfl
  | cons step steps ih =>
      have hhead : stepsOf pid (Due.mk pid step.1 step.2 :: steps.map fun step =>
          Due.mk pid step.1 step.2) =
          step :: stepsOf pid (steps.map fun step => Due.mk pid step.1 step.2) := by
        rw [stepsOf, filter_cons_of_pos (by simp), map_cons]
        rfl
      rw [map_cons, hhead, ih]

theorem stepsOf_other {pid other : Int} (hne : other ≠ pid) (steps : List (Nat × Bytes)) :
    stepsOf pid (steps.map fun step => Due.mk other step.1 step.2) = [] := by
  induction steps with
  | nil => rfl
  | cons step steps ih =>
      rw [map_cons, stepsOf, filter_cons_of_neg (by simpa using hne)]
      exact ih

/-! ### Time that is carried over -/

/-- Go on, after some more time, from where an execution is. -/
def resume (steps : List Step) (dt : ℚ) : Stop → List (Nat × Bytes) × Stop
  | .waiting idx wait => consume (steps.drop idx) idx (wait - dt)
  | stop => ([], stop)

/-- **Two waits are one.**  Consuming after a time, and going on from there after some more,
consumes what is due after both. -/
theorem consume_add {steps : List Step} {a b : ℚ} (hb : 0 ≤ b) (rest : List Step) (idx : Nat)
    (wait : ℚ) (hrest : rest = steps.drop idx) (hsome : rest ≠ []) :
    consume rest idx (wait - (a + b)) =
      ((consume rest idx (wait - a)).1 ++ (resume steps b (consume rest idx (wait - a)).2).1,
        (resume steps b (consume rest idx (wait - a)).2).2) := by
  induction rest generalizing idx wait with
  | nil => exact absurd rfl hsome
  | cons step rest ih =>
      by_cases hdue : wait - a ≤ 0
      · have hlater : wait - (a + b) ≤ 0 := by linarith
        cases rest with
        | nil => simp only [consume, if_pos hdue, if_pos hlater, resume, append_nil]
        | cons following rest =>
            have htail : following :: rest = steps.drop (idx + 1) := by
              rw [← drop_drop, ← hrest]
              rfl
            have hnext := ih (idx + 1) (wait + following.delayS) htail (cons_ne_nil _ _)
            have hcarry : ∀ dt, wait - dt + following.delayS = wait + following.delayS - dt :=
              fun dt => by ring
            rw [consume, consume, if_pos hdue, if_pos hlater]
            simp only [hcarry, hnext, cons_append]
      · -- Nothing is due before all of the time is over.
        have hstay : consume (step :: rest) idx (wait - a) = ([], .waiting idx (wait - a)) := by
          exact if_neg hdue
        rw [hstay, resume, ← hrest, nil_append, sub_sub]

/-- Consuming from a step of the procedure ends at a step of it, or at its end. -/
theorem consume_stop (rest : List Step) (hsome : rest ≠ []) (idx : Nat) (wait : ℚ) :
    (∃ idx' wait', (consume rest idx wait).2 = .waiting idx' wait' ∧ idx' < idx + rest.length) ∨
      (consume rest idx wait).2 = .completed := by
  induction rest generalizing idx wait with
  | nil => exact absurd rfl hsome
  | cons step rest ih =>
      by_cases hdue : wait ≤ 0
      · cases rest with
        | nil =>
            rw [consume, if_pos hdue]
            exact .inr rfl
        | cons following rest =>
            rw [consume, if_pos hdue]
            rcases ih (cons_ne_nil _ _) (idx + 1) (wait + following.delayS) with
              ⟨idx', wait', hstop, hlt⟩ | hstop
            · refine .inl ⟨idx', wait', hstop, ?_⟩
              rw [length_cons]
              omega
            · exact .inr hstop
      · refine .inl ⟨idx, wait, ?_, Nat.lt_add_of_pos_right (Nat.succ_pos _)⟩
        rw [consume.eq_def]
        simp only [if_neg hdue]

/-! ### One procedure -/

/-- Where an execution of a procedure is after some time, and the steps that have fallen
due. -/
def elapse (proc : Procedure) (dt : ℚ) : Option Execution → List (Nat × Bytes) × Option Execution
  | none => ([], none)
  | some run =>
      let consumed := consume (proc.steps.drop run.stepIndex) run.stepIndex (run.waitRemaining - dt)
      (consumed.1,
        match consumed.2 with
        | .waiting idx wait => some { run with stepIndex := idx, waitRemaining := wait }
        | .completed => none
        | .indexError idx wait => some { run with stepIndex := idx, waitRemaining := wait })

/-- An execution is at a step of the procedure. -/
def AtStep (proc : Procedure) (run : Execution) : Prop := run.stepIndex < proc.steps.length

variable {proc : Procedure}

theorem AtStep.rest {run : Execution} (h : AtStep proc run) : proc.steps.drop run.stepIndex ≠ [] :=
  fun hnil => absurd (drop_eq_nil_iff.mp hnil) (Nat.not_le.mpr h)

/-- What becomes of an execution at a step: it waits at a step, or it is completed. -/
theorem AtStep.consume {run : Execution} (h : AtStep proc run) (wait : ℚ) :
    (∃ idx wait', (consume (proc.steps.drop run.stepIndex) run.stepIndex wait).2 =
        .waiting idx wait' ∧ idx < proc.steps.length) ∨
      (consume (proc.steps.drop run.stepIndex) run.stepIndex wait).2 = .completed := by
  rcases consume_stop _ h.rest run.stepIndex wait with ⟨idx, wait', hstop, hlt⟩ | hstop
  · rw [length_drop] at hlt
    have hat : run.stepIndex < proc.steps.length := h
    exact .inl ⟨idx, wait', hstop, by omega⟩
  · exact .inr hstop

theorem AtStep.elapse {run run' : Execution} (h : AtStep proc run) {dt : ℚ}
    (hrun : (elapse proc dt (some run)).2 = some run') : AtStep proc run' := by
  unfold Exact.elapse at hrun
  rcases h.consume (run.waitRemaining - dt) with ⟨idx, wait, hstop, hlt⟩ | hstop
  · simp only [hstop] at hrun
    cases hrun
    exact hlt
  · simp only [hstop] at hrun
    cases hrun

/-- **Time adds up** for one procedure. -/
theorem elapse_add {a b : ℚ} (hb : 0 ≤ b) {e : Option Execution}
    (h : ∀ run, e = some run → AtStep proc run) :
    elapse proc (a + b) e =
      ((elapse proc a e).1 ++ (elapse proc b (elapse proc a e).2).1,
        (elapse proc b (elapse proc a e).2).2) := by
  cases e with
  | none => rfl
  | some run =>
      have hat := h run rfl
      have hsum := consume_add hb _ run.stepIndex run.waitRemaining rfl hat.rest (a := a)
      unfold elapse
      rcases hat.consume (run.waitRemaining - a) with ⟨idx, wait, hstop, -⟩ | hstop
      · simp only [hstop, hsum, resume]
      · simp only [hstop, hsum, resume]

/-! ### The store -/

/-- A running execution is of a loaded procedure, at one of its steps. -/
def Store.Consistent (s : Store) : Prop := ∀ pid run, s.running.get? pid = some run →
  ∃ proc, s.procedures.get? pid = some proc ∧ AtStep proc run

variable {s : Store}

theorem Store.Consistent.erase (h : s.Consistent) (pid : Int) :
    Store.Consistent { s with running := s.running.erase pid } := by
  intro other run hrun
  rw [Dict.get?_erase] at hrun
  split at hrun
  · cases hrun
  · exact h other run hrun

variable {pid : Int}

theorem Store.Consistent.set (h : s.Consistent) {run : Execution}
    (hproc : s.procedures.get? pid = some proc) (hat : AtStep proc run) :
    Store.Consistent { s with running := s.running.set pid run } := by
  intro other run' hrun
  by_cases heq : other = pid
  · subst heq
    rw [Dict.get?_set_same] at hrun
    cases hrun
    exact ⟨proc, hproc, hat⟩
  · rw [Dict.get?_set_ne s.running heq] at hrun
    exact h other run' hrun

/-- The executions when one of them has become another, or is over. -/
def Store.put (s : Store) (pid : Int) : Option Execution → Store
  | some run => { s with running := s.running.set pid run }
  | none => { s with running := s.running.erase pid }

@[simp] theorem Store.put_procedures (s : Store) (pid : Int) (e : Option Execution) :
    (s.put pid e).procedures = s.procedures := by
  cases e <;> rfl

theorem Store.get?_put (s : Store) (pid other : Int) (e : Option Execution) :
    (s.put pid e).running.get? other = if other = pid then e else s.running.get? other := by
  cases e with
  | none => exact Dict.get?_erase s.running pid other
  | some run =>
      split_ifs with heq
      · subst heq
        exact Dict.get?_set_same s.running other run
      · exact Dict.get?_set_ne s.running heq run

theorem Store.Consistent.put (h : s.Consistent) (hproc : s.procedures.get? pid = some proc)
    {e : Option Execution} (hat : ∀ run, e = some run → AtStep proc run) :
    (s.put pid e).Consistent := by
  cases e with
  | none => exact h.erase pid
  | some run => exact h.set hproc (hat run rfl)

/-- Gathering the due steps of a running procedure. -/
theorem gather_running (h : s.Consistent) (dt : ℚ) (pids : List Int) {run : Execution}
    (hrun : s.running.get? pid = some run) (hproc : s.procedures.get? pid = some proc) :
    gather dt (pid :: pids) s =
      { gather dt pids (s.put pid (elapse proc dt (some run)).2) with
        due := ((elapse proc dt (some run)).1.map fun step => Due.mk pid step.1 step.2) ++
          (gather dt pids (s.put pid (elapse proc dt (some run)).2)).due } := by
  obtain ⟨proc', hproc', hat⟩ := h pid run hrun
  obtain rfl := Option.some.inj (hproc.symm.trans hproc')
  rw [gather]
  simp only [hrun, hproc, elapse]
  rcases hat.consume (run.waitRemaining - dt) with ⟨idx, wait, hstop, -⟩ | hstop
  · simp only [hstop]
    rfl
  · simp only [hstop]
    rfl

/-- The procedure of a running execution, and where it is after a tick. -/
theorem Store.Consistent.elapse (h : s.Consistent) {run : Execution}
    (hrun : s.running.get? pid = some run) (dt : ℚ) :
    ∃ proc, s.procedures.get? pid = some proc ∧
      (s.put pid (elapse proc dt (some run)).2).Consistent := by
  obtain ⟨proc, hproc, hat⟩ := h pid run hrun
  exact ⟨proc, hproc, h.put hproc fun run' hrun' => hat.elapse hrun'⟩

/-- Gathering raises nothing, and keeps the procedures and the consistency. -/
theorem gather_quiet (dt : ℚ) (pids : List Int) (h : s.Consistent) :
    (gather dt pids s).raised = false ∧ (gather dt pids s).store.procedures = s.procedures ∧
      (gather dt pids s).store.Consistent := by
  induction pids generalizing s with
  | nil => exact ⟨rfl, rfl, h⟩
  | cons pid pids ih =>
      cases hrun : s.running.get? pid with
      | none =>
          rw [gather]
          simp only [hrun]
          exact ih h
      | some run =>
          obtain ⟨proc, hproc, hput⟩ := h.elapse hrun dt
          obtain ⟨hraised, hprocs, hcons⟩ := ih hput
          rw [gather_running h dt pids hrun hproc]
          exact ⟨hraised, hprocs.trans (s.put_procedures pid _), hcons⟩

/-- Gathering leaves the other procedures alone. -/
theorem gather_other (dt : ℚ) {pids : List Int} (hout : pid ∉ pids) (h : s.Consistent) :
    stepsOf pid (gather dt pids s).due = [] ∧
      (gather dt pids s).store.running.get? pid = s.running.get? pid := by
  induction pids generalizing s with
  | nil => exact ⟨rfl, rfl⟩
  | cons first pids ih =>
      have hne : first ≠ pid := fun heq => hout (heq ▸ mem_cons_self)
      have htail : pid ∉ pids := fun hmem => hout (mem_cons_of_mem _ hmem)
      cases hrun : s.running.get? first with
      | none =>
          rw [gather]
          simp only [hrun]
          exact ih htail h
      | some run =>
          obtain ⟨proc, hproc, hput⟩ := h.elapse hrun dt
          obtain ⟨hsteps, hget⟩ := ih htail hput
          rw [gather_running h dt pids hrun hproc]
          refine ⟨?_, ?_⟩
          · rw [stepsOf_append, stepsOf_other hne, nil_append, hsteps]
          · rw [s.get?_put, if_neg hne.symm] at hget
            exact hget

/-- **Gathering takes a procedure on by the length of the tick.** -/
theorem gather_own (dt : ℚ) {pids : List Int} (hin : pid ∈ pids) (hnodup : pids.Nodup)
    (h : s.Consistent) (hproc : s.procedures.get? pid = some proc) :
    stepsOf pid (gather dt pids s).due = (elapse proc dt (s.running.get? pid)).1 ∧
      (gather dt pids s).store.running.get? pid = (elapse proc dt (s.running.get? pid)).2 := by
  induction pids generalizing s with
  | nil => cases hin
  | cons first pids ih =>
      obtain ⟨hout, hrest⟩ := nodup_cons.mp hnodup
      by_cases heq : first = pid
      · subst heq
        cases hrun : s.running.get? first with
        | none =>
            obtain ⟨hsteps, hget⟩ := gather_other dt hout h
            rw [gather]
            simp only [hrun]
            exact ⟨hsteps, hget.trans hrun⟩
        | some run =>
            obtain ⟨proc', hproc', hput⟩ := h.elapse hrun dt
            obtain rfl := Option.some.inj (hproc.symm.trans hproc')
            obtain ⟨hsteps, hget⟩ := gather_other dt hout hput
            rw [gather_running h dt pids hrun hproc]
            refine ⟨?_, ?_⟩
            · rw [stepsOf_append, stepsOf_own, hsteps, append_nil]
            · rw [s.get?_put, if_pos rfl] at hget
              exact hget
      · have htail : pid ∈ pids := (mem_cons.mp hin).resolve_left fun h => heq h.symm
        cases hrun : s.running.get? first with
        | none =>
            rw [gather]
            simp only [hrun]
            exact ih htail hrest h hproc
        | some run =>
            obtain ⟨proc', hproc', hput⟩ := h.elapse hrun dt
            have hproc₂ := (congrArg (Dict.get? · pid) (s.put_procedures first
              (elapse proc' dt (some run)).2)).trans hproc
            obtain ⟨hsteps, hget⟩ := ih htail hrest hput hproc₂
            rw [s.get?_put, if_neg fun h => heq h.symm] at hsteps hget
            rw [gather_running h dt pids hrun hproc']
            refine ⟨?_, hget⟩
            rw [stepsOf_append, stepsOf_other heq, nil_append, hsteps]

/-! ### Ticks -/

/-- The steps of a tick succeed and command nothing that concerns the procedure. -/
structure Undisturbed (pid : Int) (t : Tick) : Prop where
  /-- A step of the procedure is dispatched without an exception. -/
  succeeds : ∀ k d s, d.procId = pid → (t.dispatch k d s).2 = false
  procedures : ∀ k d s, (t.dispatch k d s).1.procedures.get? pid = s.procedures.get? pid
  running : ∀ k d s, (t.dispatch k d s).1.running.get? pid = s.running.get? pid
  consistent : ∀ k d s, s.Consistent → (t.dispatch k d s).1.Consistent

/-- What a tick leaves of a procedure: its steps, its execution and the consistency. -/
structure Kept (pid : Int) (s s' : Store) : Prop where
  procedures : s'.procedures.get? pid = s.procedures.get? pid
  running : s'.running.get? pid = s.running.get? pid
  consistent : s'.Consistent

theorem Kept.fail {s s' : Store} (h : Kept pid s s') {d : Due} (hne : d.procId ≠ pid) :
    Kept pid s (s'.failStep d) where
  procedures := h.procedures
  running := by
    refine Eq.trans ?_ h.running
    rw [Store.failStep, Dict.get?_erase]
    exact if_neg fun heq => hne heq.symm
  consistent := h.consistent.erase d.procId

/-- Executing one due step. -/
theorem Undisturbed.executeStep {t : Tick} (ht : Undisturbed pid t) (k : Nat) {d : Due}
    (haccepted : d.procId = pid → refusedReason d.tc = none) (h : s.Consistent) :
    Kept pid s (t.executeStep k d s).1 ∧ stepsOf pid (t.executeStep k d s).2 = stepsOf pid [d] := by
  have hkept : Kept pid s (t.dispatch k d s).1 :=
    ⟨ht.procedures k d s, ht.running k d s, ht.consistent k d s h⟩
  unfold Tick.executeStep
  by_cases hown : d.procId = pid
  · rw [haccepted hown]
    simp only [ht.succeeds k d s hown]
    exact ⟨hkept, trivial⟩
  · have hnone : stepsOf pid [d] = [] := by
      rw [stepsOf, filter_cons_of_neg (by simpa using hown)]
      rfl
    cases refusedReason d.tc with
    | some reason => exact ⟨Kept.fail ⟨rfl, rfl, h⟩ hown, hnone.symm⟩
    | none =>
        refine ⟨?_, rfl⟩
        dsimp only
        split
        · exact hkept.fail hown
        · exact hkept

theorem Undisturbed.executeDue {pid : Int} {t : Tick} (ht : Undisturbed pid t) (due : List Due)
    (haccepted : ∀ d ∈ due, d.procId = pid → refusedReason d.tc = none) (k : Nat) {s : Store}
    (h : s.Consistent) :
    Kept pid s (t.executeDue due k s).1 ∧ stepsOf pid (t.executeDue due k s).2 = stepsOf pid due := by
  induction due generalizing k s with
  | nil => exact ⟨⟨rfl, rfl, h⟩, rfl⟩
  | cons d rest ih =>
      obtain ⟨hfirst, hstep⟩ := ht.executeStep k (haccepted d mem_cons_self) h
      obtain ⟨hrest, hsteps⟩ :=
        ih (fun d hmem => haccepted d (mem_cons_of_mem _ hmem)) (k + 1) hfirst.consistent
      refine ⟨⟨hrest.procedures.trans hfirst.procedures, hrest.running.trans hfirst.running,
        hrest.consistent⟩, ?_⟩
      rw [Tick.executeDue, stepsOf_append, hstep, hsteps, ← stepsOf_append]
      rfl

/-- The steps that a procedure comes to are steps of it. -/
theorem mem_consume {rest : List Step} {idx : Nat} {wait : ℚ} {step : Nat × Bytes}
    (h : step ∈ (consume rest idx wait).1) : ∃ st ∈ rest, st.tc = step.2 := by
  induction rest generalizing idx wait with
  | nil => cases h
  | cons st rest ih =>
      by_cases hdue : wait ≤ 0
      · cases rest with
        | nil =>
            rw [consume, if_pos hdue] at h
            obtain rfl := mem_singleton.mp h
            exact ⟨st, mem_cons_self, rfl⟩
        | cons following rest =>
            rw [consume, if_pos hdue] at h
            rcases mem_cons.mp h with rfl | hlater
            · exact ⟨st, mem_cons_self, rfl⟩
            · obtain ⟨st', hmem, htc⟩ := ih hlater
              exact ⟨st', mem_cons_of_mem _ hmem, htc⟩
      · rw [consume.eq_def] at h
        simp only [if_neg hdue] at h
        cases h

theorem mem_elapse {dt : ℚ} {e : Option Execution} {step : Nat × Bytes}
    (h : step ∈ (elapse proc dt e).1) : ∃ st ∈ proc.steps, st.tc = step.2 := by
  cases e with
  | none => cases h
  | some run =>
      obtain ⟨st, hmem, htc⟩ := mem_consume h
      exact ⟨st, mem_of_mem_drop hmem, htc⟩

theorem mem_stepsOf {due : List Due} {d : Due} (h : d ∈ due) (hown : d.procId = pid) :
    (d.stepIdx, d.tc) ∈ stepsOf pid due :=
  mem_map_of_mem (mem_filter.mpr ⟨h, decide_eq_true hown⟩)

/-- A loaded procedure whose steps are accepted. -/
structure Loaded (pid : Int) (proc : Procedure) (s : Store) : Prop where
  loaded : s.procedures.get? pid = some proc
  accepted : ∀ st ∈ proc.steps, refusedReason st.tc = none
  consistent : s.Consistent

/-- A procedure that runs is at one of its steps. -/
theorem Loaded.atStep (h : Loaded pid proc s) (run : Execution)
    (hrun : s.running.get? pid = some run) : AtStep proc run := by
  obtain ⟨proc', hproc, hat⟩ := h.consistent pid run hrun
  obtain rfl := Option.some.inj (h.loaded.symm.trans hproc)
  exact hat

/-- **What a tick does with a procedure**: it takes it on by the length of the tick, and
dispatches the steps that have fallen due. -/
theorem Undisturbed.tick {t : Tick} (ht : Undisturbed pid t) (h : Loaded pid proc s) :
    Loaded pid proc (s.tick t).1 ∧
      stepsOf pid (s.tick t).2 = (elapse proc t.dt (s.running.get? pid)).1 ∧
      (s.tick t).1.running.get? pid = (elapse proc t.dt (s.running.get? pid)).2 := by
  obtain ⟨hraised, hprocs, hcons⟩ := gather_quiet t.dt s.running.keys h.consistent
  have hgather : stepsOf pid (gather t.dt s.running.keys s).due =
        (elapse proc t.dt (s.running.get? pid)).1 ∧
      (gather t.dt s.running.keys s).store.running.get? pid =
        (elapse proc t.dt (s.running.get? pid)).2 := by
    by_cases hin : pid ∈ s.running.keys
    · exact gather_own t.dt hin s.running.nodup h.consistent h.loaded
    · have hnone : s.running.get? pid = none := by
        by_contra hsome
        obtain ⟨run, hrun⟩ := Option.ne_none_iff_exists'.mp hsome
        exact hin (Dict.mem_keys_iff.mpr ⟨run, hrun⟩)
      obtain ⟨hsteps, hget⟩ := gather_other t.dt hin h.consistent
      rw [hnone] at hget ⊢
      exact ⟨hsteps, hget⟩
  have haccepted : ∀ d ∈ (gather t.dt s.running.keys s).due, d.procId = pid →
      refusedReason d.tc = none := by
    intro d hmem hown
    have hstep := mem_stepsOf hmem hown
    rw [hgather.1] at hstep
    obtain ⟨st, hst, htc⟩ := mem_elapse hstep
    have hok := h.accepted st hst
    rwa [htc] at hok
  obtain ⟨hkept, hsteps⟩ := ht.executeDue _ haccepted 0 hcons
  unfold Store.tick
  simp only [hraised, Bool.false_eq_true, if_false]
  refine ⟨⟨?_, h.accepted, hkept.consistent⟩, hsteps.trans hgather.1,
    hkept.running.trans hgather.2⟩
  rw [hkept.procedures, hprocs]
  exact h.loaded

/-! ### Partitions of the elapsed time -/

/-- The time that ticks take. -/
def totalTime (ticks : List Tick) : ℚ := (ticks.map Tick.dt).sum

/-- An elapsed time as the lengths of ticks that leave a procedure alone. -/
structure Partition (pid : Int) (total : ℚ) where
  ticks : List Tick
  ticked : ticks ≠ []
  forward : ∀ t ∈ ticks, 0 ≤ t.dt
  total : totalTime ticks = total
  undisturbed : ∀ t ∈ ticks, Undisturbed pid t

theorem totalTime_nonneg {ticks : List Tick} (h : ∀ t ∈ ticks, 0 ≤ t.dt) : 0 ≤ totalTime ticks :=
  sum_nonneg fun dt hmem => by
    obtain ⟨t, ht, rfl⟩ := mem_map.mp hmem
    exact h t ht

/-- **Ticks are one long tick**, as far as a procedure is concerned. -/
theorem run_elapse (t : Tick) (ticks : List Tick) (hforward : ∀ t' ∈ t :: ticks, 0 ≤ t'.dt)
    (hquiet : ∀ t' ∈ t :: ticks, Undisturbed pid t') (h : Loaded pid proc s) :
    stepsOf pid (run (t :: ticks) s).2 =
        (elapse proc (totalTime (t :: ticks)) (s.running.get? pid)).1 ∧
      (run (t :: ticks) s).1.running.get? pid =
        (elapse proc (totalTime (t :: ticks)) (s.running.get? pid)).2 := by
  induction ticks generalizing t s with
  | nil =>
      obtain ⟨-, hsteps, hget⟩ := (hquiet t mem_cons_self).tick h
      have htotal : totalTime [t] = t.dt := by simp [totalTime]
      rw [htotal, run, run, append_nil]
      exact ⟨hsteps, hget⟩
  | cons t' ticks ih =>
      obtain ⟨hloaded, hsteps, hget⟩ := (hquiet t mem_cons_self).tick h
      have hforward' : ∀ t'' ∈ t' :: ticks, 0 ≤ t''.dt :=
        fun t'' hmem => hforward t'' (mem_cons_of_mem _ hmem)
      obtain ⟨hrest, hlast⟩ :=
        ih t' hforward' (fun t'' hmem => hquiet t'' (mem_cons_of_mem _ hmem)) hloaded
      have htotal : totalTime (t :: t' :: ticks) = t.dt + totalTime (t' :: ticks) := rfl
      rw [htotal, elapse_add (totalTime_nonneg hforward') h.atStep, run, stepsOf_append, hsteps,
        hrest, hlast, hget]
      exact ⟨rfl, rfl⟩

/-- **The execution of a procedure does not depend on how the time is divided into ticks.**
For every loaded procedure whose steps succeed and command nothing that concerns it, and every
two partitions of the same time, the same steps are dispatched in the same order, and the
execution is left at the same step with the same delay, or both times over. -/
theorem same_for_partitions {pid : Int} {proc : Procedure} {s : Store} (h : Loaded pid proc s)
    {total : ℚ} (p q : Partition pid total) :
    stepsOf pid (run p.ticks s).2 = stepsOf pid (run q.ticks s).2 ∧
      (run p.ticks s).1.running.get? pid = (run q.ticks s).1.running.get? pid := by
  have hone : ∀ r : Partition pid total,
      stepsOf pid (run r.ticks s).2 = (elapse proc total (s.running.get? pid)).1 ∧
        (run r.ticks s).1.running.get? pid = (elapse proc total (s.running.get? pid)).2 := by
    intro r
    obtain ⟨t, ticks, hticks⟩ := List.exists_cons_of_ne_nil r.ticked
    have hrun := run_elapse t ticks (hticks ▸ r.forward) (hticks ▸ r.undisturbed) h
    rw [← hticks, r.total] at hrun
    exact hrun
  obtain ⟨hp, hp'⟩ := hone p
  obtain ⟨hq, hq'⟩ := hone q
  exact ⟨hp.trans hq.symm, hp'.trans hq'.symm⟩

/-- A ping. -/
def ping : Bytes := [0x19, 0xAC, 0xC0, 0x00, 0x00, 0x07, 0x2F, 17, 1, 0, 0, 0, 0, 0]

/-- A ping after half a second, another at once, and one two seconds later. -/
def pings : Procedure where
  name := "pings"
  steps := [⟨1 / 2, ping⟩, ⟨0, ping⟩, ⟨2, ping⟩]

/-- The procedure of pings, just started. -/
def pinging : Store where
  procedures := Dict.empty.set 7 pings
  running := Dict.empty.set 7 { stepIndex := 0, waitRemaining := 1 / 2, param := 0 }

theorem loaded_pinging : Loaded 7 pings pinging where
  loaded := rfl
  accepted := by decide
  consistent := by
    intro pid run hrun
    by_cases heq : pid = 7
    · subst heq
      cases hrun
      exact ⟨pings, rfl, Nat.succ_pos 2⟩
    · rw [pinging, Dict.get?_set_ne _ heq] at hrun
      cases hrun

/-- A tick in which nothing is commanded. -/
def calm (dt : ℚ) : Tick := { dt := dt, dispatch := fun _ _ s => (s, false) }

theorem undisturbed_calm (pid : Int) (dt : ℚ) : Undisturbed pid (calm dt) where
  succeeds := fun _ _ _ _ => rfl
  procedures := fun _ _ _ => rfl
  running := fun _ _ _ => rfl
  consistent := fun _ _ _ h => h

/-- A second as one tick. -/
def oneTick : Partition 7 1 where
  ticks := [calm 1]
  ticked := List.cons_ne_nil _ _
  forward := by decide
  total := by norm_num [totalTime, calm]
  undisturbed := by
    intro t hmem
    obtain rfl := List.mem_singleton.mp hmem
    exact undisturbed_calm 7 1

/-- A second as two ticks, the first of which ends before the first ping. -/
def twoTicks : Partition 7 1 where
  ticks := [calm (1 / 4), calm (3 / 4)]
  ticked := List.cons_ne_nil _ _
  forward := by decide +kernel
  total := by norm_num [totalTime, calm]
  undisturbed := by
    intro t hmem
    rcases List.mem_cons.mp hmem with rfl | hmem
    · exact undisturbed_calm 7 _
    · obtain rfl := List.mem_singleton.mp hmem
      exact undisturbed_calm 7 _

/-- Two pings are dispatched in a second, however it is divided. -/
theorem same_for_partitions_pings :
    stepsOf 7 (run oneTick.ticks pinging).2 = [(0, ping), (1, ping)] ∧
      stepsOf 7 (run oneTick.ticks pinging).2 = stepsOf 7 (run twoTicks.ticks pinging).2 ∧
      (run oneTick.ticks pinging).1.running.get? 7 = (run twoTicks.ticks pinging).1.running.get? 7 :=
  ⟨by decide +kernel, same_for_partitions loaded_pinging oneTick twoTicks⟩

/-! ### Floating point -/

/-- A value that is a number. -/
def Reads (x : FloatValue) (q : ℚ) : Prop := ∃ s m e, x = .finite s m e ∧ dyadic s m e = q

/-- A wait is over when the number is not positive. -/
theorem Reads.elapsed {x : FloatValue} {q : ℚ} (h : Reads x q) :
    Obcp.elapsed x = true ↔ q ≤ 0 := by
  obtain ⟨s, m, e, rfl, rfl⟩ := h
  have hzero : dyadic false 0 0 = 0 := by simp [dyadic]
  simp [Obcp.elapsed, FloatValue.le, FloatValue.lt, hzero]

/-- The steps of both interpreters: the same telecommands after the same delays. -/
def SameSteps : List Obcp.Step → List Step → Prop :=
  List.Forall₂ fun x y => Reads x.delayS y.delayS ∧ x.tc = y.tc

/-- No sum of the delays is rounded while steps are consumed. -/
def Unrounded : List Obcp.Step → FloatValue → Prop
  | _ :: following :: rest, wait => Obcp.elapsed wait = true →
      (∀ w d, Reads wait w → Reads following.delayS d →
        Reads (wait.add following.delayS) (w + d)) ∧
      Unrounded (following :: rest) (wait.add following.delayS)
  | _, _ => True

/-- Both interpreters stop alike. -/
def SameStop : Obcp.Stop → Stop → Prop
  | .waiting idx x, .waiting idx' q => idx = idx' ∧ Reads x q
  | .completed, .completed => True
  | .indexError idx x, .indexError idx' q => idx = idx' ∧ Reads x q
  | _, _ => False

/-- **While no sum is rounded, both interpreters consume the same steps.** -/
theorem consume_reads {steps : List Obcp.Step} {steps' : List Step} (h : SameSteps steps steps')
    (idx : Nat) {wait : FloatValue} {w : ℚ} (hwait : Reads wait w) (hexact : Unrounded steps wait) :
    (Obcp.consume steps idx wait).1 = (consume steps' idx w).1 ∧
      SameStop (Obcp.consume steps idx wait).2 (consume steps' idx w).2 := by
  induction h generalizing idx wait w with
  | nil =>
      unfold Obcp.consume consume
      by_cases hdue : w ≤ 0
      · rw [if_pos hdue, if_pos (hwait.elapsed.mpr hdue)]
        exact ⟨rfl, rfl, hwait⟩
      · rw [if_neg hdue, if_neg (mt hwait.elapsed.mp hdue)]
        exact ⟨rfl, rfl, hwait⟩
  | @cons x y rest rest' hxy hrest ih =>
      by_cases hdue : w ≤ 0
      · have hover := hwait.elapsed.mpr hdue
        cases hrest with
        | nil =>
            rw [Obcp.consume, consume, if_pos hdue, if_pos hover, hxy.2]
            exact ⟨rfl, trivial⟩
        | @cons following following' rest rest' hfollowing hrest =>
            obtain ⟨hsum, hexact'⟩ := hexact hover
            obtain ⟨hsteps, hstop⟩ := ih (idx + 1) (hsum _ _ hwait hfollowing.1) hexact'
            rw [Obcp.consume, consume, if_pos hdue, if_pos hover, hxy.2]
            simp only [hsteps]
            exact ⟨trivial, hstop⟩
      · have hwaiting := mt hwait.elapsed.mp hdue
        rw [Obcp.consume.eq_def, consume.eq_def]
        simp only [if_neg hdue, if_neg hwaiting]
        exact ⟨trivial, rfl, hwait⟩

theorem Reads.eq {x : FloatValue} {q r : ℚ} (hq : Reads x q) (hr : Reads x r) : q = r := by
  obtain ⟨s, m, e, rfl, rfl⟩ := hq
  obtain ⟨_, _, _, h, rfl⟩ := hr
  cases h
  rfl

/-- A ping at once and another after half a second, to both interpreters. -/
theorem consume_reads_pings :
    let now : FloatValue := .finite false 0 0
    let half : FloatValue := .finite false 1 (-1)
    (Obcp.consume [⟨now, ping⟩, ⟨half, ping⟩] 0 now).1 =
        (consume [⟨0, ping⟩, ⟨1 / 2, ping⟩] 0 0).1 ∧
      SameStop (Obcp.consume [⟨now, ping⟩, ⟨half, ping⟩] 0 now).2
        (consume [⟨0, ping⟩, ⟨1 / 2, ping⟩] 0 0).2 := by
  intro now half
  have hnow : Reads now 0 := ⟨_, _, _, rfl, by decide +kernel⟩
  have hhalf : Reads half (1 / 2) := ⟨_, _, _, rfl, by decide +kernel⟩
  have hsum : Reads (now.add half) (1 / 2) := ⟨_, _, _, rfl, by decide +kernel⟩
  refine consume_reads (.cons ⟨hnow, rfl⟩ (.cons ⟨hhalf, rfl⟩ .nil)) 0 hnow
    fun _ => ⟨fun w d hw hd => ?_, trivial⟩
  rw [hw.eq hnow, hd.eq hhalf, zero_add]
  exact hsum

end Obcp.Exact
