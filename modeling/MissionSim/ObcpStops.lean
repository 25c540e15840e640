import MissionSim.Obcp

/-!
# Procedures that stop

What the log of the manager says after an execution has ended: its step failed, it was
aborted, or its procedure was deleted or replaced.  A tick gathers the due steps before it
executes them and does not look again, so a step that ends an execution leaves the later
due steps of that execution, and its completion, in the gathered lists.

`stopped_run` is what holds in runs whose ticks gather no such step.
-/

namespace Obcp

open Octets Binary32 Python Runs Manager

/-- The notice says that the execution is over. -/
def Notice.Ends (notice : Notice) (procId : Int) (number : Nat) : Prop :=
  match notice with
  | .stepFailed pid _ _ _ e => pid = procId ∧ e = number
  | .aborted pid _ _ e => pid = procId ∧ e = number
  | .replaced pid next => pid = procId ∧ number < next
  | _ => False

/-- The notice says that the execution goes on: a step is dispatched, or it completes. -/
def Notice.Acts (notice : Notice) (procId : Int) (number : Nat) : Prop :=
  match notice with
  | .dispatched pid _ e => pid = procId ∧ e = number
  | .completed pid _ e => pid = procId ∧ e = number
  | _ => False

def Ended (log : List Notice) (procId : Int) (number : Nat) : Prop :=
  ∃ notice ∈ log, notice.Ends procId number

/-- **What has ended does not act**: no notice that an execution is over stands before one
that it goes on. -/
def Clean (log : List Notice) : Prop :=
  log.Pairwise fun earlier later =>
    ∀ procId number, earlier.Ends procId number → ¬ later.Acts procId number

/-! ### What falls due in a tick -/

/-- The steps of a procedure that fall due in a tick. -/
def Manager.dueOf (m : Manager) (dt : FloatValue) (procId : Int) : List Due :=
  match m.running.get? procId, m.procedures.get? procId with
  | some run, some proc =>
      (consume (proc.steps.drop run.stepIndex) run.stepIndex (run.waitRemaining.sub dt)).1.map
        fun step => Due.mk procId step.1 step.2 run.number
  | _, _ => []

def Manager.dueSteps (m : Manager) (dt : FloatValue) : List Due :=
  m.running.keys.flatMap (m.dueOf dt)

/-- The last step of the procedure falls due in a tick. -/
def Manager.finishes (m : Manager) (dt : FloatValue) (procId : Int) : Bool :=
  match m.running.get? procId, m.procedures.get? procId with
  | some run, some proc =>
      (consume (proc.steps.drop run.stepIndex) run.stepIndex (run.waitRemaining.sub dt)).2 =
        .completed
  | _, _ => false

/-- The command deletes or replaces the procedure if it is loaded. -/
def Command.Replaces (c : Command) (procId : Int) : Prop :=
  match c with
  | .load pid _ steps => pid = procId ∧ steps ≠ [] ∧ steps.length ≤ maxSteps
  | .loadBlob data =>
      ∃ pid name steps, parseLoadBlob data = .ok (pid, name, steps) ∧ (pid : Int) = procId ∧
        steps ≠ [] ∧ steps.length ≤ maxSteps
  | .delete pid => pid = procId
  | _ => False

/-- The command stops the procedure if it is running. -/
def Command.Stops (c : Command) (procId : Int) : Prop :=
  match c with
  | .stop pid => pid = 0 ∨ pid = procId
  | _ => False

/-- A due step that ends the execution of a procedure: a step of its own that fails, or one
with a command that deletes or replaces the procedure or stops an execution that has not
come to its end. -/
def Due.Halts (d : Due) (outcome : Outcome) (finishes : Int → Bool) (procId : Int) : Prop :=
  (d.procId = procId ∧ (refusedReason d.tc ≠ none ∨ outcome.error ≠ none)) ∨
  (refusedReason d.tc = none ∧
    ∃ c ∈ outcome.commands, c.Replaces procId ∨ (c.Stops procId ∧ finishes procId = false))

/-- No due step ends an execution that finishes in the tick, or one of which a later due
step can be dispatched. -/
def Undisturbed (outcomes : Nat → Outcome) (finishes : Int → Bool) : List Due → Nat → Prop
  | [], _ => True
  | d :: rest, k =>
      (∀ procId, d.Halts (outcomes k) finishes procId →
        finishes procId = false ∧
          ∀ later ∈ rest, later.procId = procId → refusedReason later.tc ≠ none) ∧
      Undisturbed outcomes finishes rest (k + 1)

/-- The condition on an operation: a tick is undisturbed. -/
def Session.Calm (s : Session) : Operation → Prop
  | .tick dt outcomes =>
      Undisturbed outcomes (s.manager.finishes dt) (s.manager.dueSteps dt) 0
  | _ => True

/-! ### The log -/

open List

variable {procId : Int} {number : Nat}

theorem ended_append {log log' : List Notice} :
    Ended (log ++ log') procId number ↔ Ended log procId number ∨ Ended log' procId number := by
  constructor
  · rintro ⟨notice, hmem, hends⟩
    rcases mem_append.mp hmem with h | h
    · exact .inl ⟨notice, h, hends⟩
    · exact .inr ⟨notice, h, hends⟩
  · rintro (⟨notice, hmem, hends⟩ | ⟨notice, hmem, hends⟩)
    · exact ⟨notice, mem_append_left _ hmem, hends⟩
    · exact ⟨notice, mem_append_right _ hmem, hends⟩

variable {m : Manager}

theorem ended_emit {notice : Notice} :
    Ended (m.emit notice).log procId number ↔
      Ended m.log procId number ∨ notice.Ends procId number := by
  unfold emit
  rw [ended_append]
  apply or_congr_right
  constructor
  · intro h
    obtain ⟨other, hmem, hends⟩ := h
    obtain rfl := mem_singleton.mp hmem
    exact hends
  · intro h
    exact ⟨notice, mem_singleton_self _, h⟩

theorem clean_emit {notice : Notice} :
    Clean (m.emit notice).log ↔
      Clean m.log ∧ ∀ procId number, notice.Acts procId number → ¬ Ended m.log procId number := by
  unfold Clean emit
  rw [pairwise_append]
  constructor
  · intro h
    obtain ⟨hclean, -, hlast⟩ := h
    refine ⟨hclean, fun procId number hacts hended => ?_⟩
    obtain ⟨earlier, hmem, hends⟩ := hended
    exact hlast earlier hmem notice (mem_singleton_self _) procId number hends hacts
  · intro h
    obtain ⟨hclean, hlast⟩ := h
    refine ⟨hclean, pairwise_singleton _ _, fun earlier hmem later hlater => ?_⟩
    obtain rfl := mem_singleton.mp hlater
    intro procId number hends hacts
    exact hlast procId number hacts ⟨earlier, hmem, hends⟩

/-! ### The invariant -/

/-- The log is clean, only executions that have begun are over, and none that is over is
running, the given procedure apart. -/
structure Manager.OrderlyBut (m : Manager) (except : Option Int) : Prop where
  clean : Clean m.log
  ended : ∀ procId number, Ended m.log procId number → number < m.next
  begun : ∀ procId run, m.running.get? procId = some run → run.number < m.next
  live : ∀ procId run, some procId ≠ except → m.running.get? procId = some run →
    ¬ Ended m.log procId run.number

def Manager.Orderly (m : Manager) : Prop := m.OrderlyBut none

theorem Manager.Orderly.but (h : m.Orderly) (procId : Int) : m.OrderlyBut (some procId) where
  clean := h.clean
  ended := h.ended
  begun := h.begun
  live := fun pid run _ hrun => h.live pid run nofun hrun

/-- A notice that ends an execution of the excepted procedure and says nothing else. -/
theorem Manager.OrderlyBut.emit_ending (h : m.OrderlyBut (some procId)) {notice : Notice}
    (hquiet : ∀ pid number, ¬ notice.Acts pid number)
    (hends : ∀ pid number, notice.Ends pid number → pid = procId ∧ number < m.next) :
    (m.emit notice).OrderlyBut (some procId) where
  clean := clean_emit.mpr ⟨h.clean, fun pid number hacts => absurd hacts (hquiet pid number)⟩
  ended := by
    intro pid number hended
    rcases ended_emit.mp hended with hold | hnew
    · exact h.ended pid number hold
    · exact (hends pid number hnew).2
  begun := h.begun
  live := by
    intro pid run hne hrun hended
    rcases ended_emit.mp hended with hold | hnew
    · exact h.live pid run hne hrun hold
    · exact hne (congrArg some (hends pid run.number hnew).1)

/-- The excepted procedure is not running. -/
theorem Manager.OrderlyBut.orderly (h : m.OrderlyBut (some procId))
    (hnone : m.running.get? procId = none) : m.Orderly where
  clean := h.clean
  ended := h.ended
  begun := h.begun
  live := by
    intro pid run _ hrun
    apply h.live pid run ?_ hrun
    intro heq
    rw [Option.some.inj heq, hnone] at hrun
    cases hrun

theorem abortIfRunning_orderly (h : m.OrderlyBut (some procId)) (reason : String) :
    (m.abortIfRunning procId reason).Orderly := by
  have hgone : (m.abortIfRunning procId reason).running.get? procId = none := by
    rw [get?_abortIfRunning, if_pos rfl]
  refine Manager.OrderlyBut.orderly ?_ hgone
  unfold abortIfRunning
  split
  · rename_i run hrun
    have hfewer : ({ m with running := m.running.erase procId } : Manager).OrderlyBut
        (some procId) := by
      refine ⟨h.clean, h.ended, fun pid other hother => ?_, fun pid other hne hother => ?_⟩
      · simp only [Dict.get?_erase] at hother
        split at hother
        · cases hother
        · exact h.begun pid other hother
      · simp only [Dict.get?_erase] at hother
        split at hother
        · cases hother
        · exact h.live pid other hne hother
    apply hfewer.emit_ending
    · intro pid number hacts
      exact hacts
    · intro pid number hends
      obtain ⟨rfl, rfl⟩ := hends
      exact ⟨rfl, h.begun procId run hrun⟩
  · exact h

/-- Deleting or replacing a procedure that is not running. -/
theorem replaced_orderly (h : m.Orderly) (hnone : m.running.get? procId = none)
    (procedures : Dict Int Procedure) :
    ({ m with procedures := procedures }.emit (.replaced procId m.next)).Orderly := by
  have hbut : ({ m with procedures := procedures } : Manager).OrderlyBut (some procId) :=
    ⟨h.clean, h.ended, h.begun, (h.but procId).live⟩
  have hemit : ({ m with procedures := procedures }.emit (.replaced procId m.next)).OrderlyBut
      (some procId) := by
    apply hbut.emit_ending
    · intro pid number hacts
      exact hacts
    · intro pid number hends
      exact ⟨hends.1.symm, hends.2⟩
  exact hemit.orderly hnone

/-! ### Commands -/

theorem gone_abortIfRunning (m : Manager) (procId : Int) (reason : String) :
    (m.abortIfRunning procId reason).running.get? procId = none := by
  rw [get?_abortIfRunning, if_pos rfl]

theorem load_orderly (h : m.Orderly) (procId : Int) (name : String) (steps : List Step) :
    (m.load procId name steps).1.Orderly := by
  unfold load
  split
  · exact h
  · split
    · exact h
    · exact replaced_orderly (abortIfRunning_orderly (h.but procId) _)
        (gone_abortIfRunning m procId _) _

theorem delete_orderly (h : m.Orderly) (procId : Int) : (m.delete procId).1.Orderly := by
  have habort := abortIfRunning_orderly (h.but procId) "deleted while running"
  unfold delete
  simp only
  split
  · exact replaced_orderly habort (gone_abortIfRunning m procId _) _
  · exact habort

/-- A new execution has a number that no notice speaks of. -/
theorem start_orderly (h : m.Orderly) (procId param : Int) : (m.start procId param).1.Orderly := by
  unfold start
  split
  · exact h
  · split
    · exact h
    · split
      · exact h
      · have hended : ∀ (name : String) (n : Nat) pid number,
            Ended (m.log ++ [.started procId name n param m.next]) pid number →
              Ended m.log pid number := by
          intro name n pid number hended
          rcases ended_append.mp hended with hold | hnew
          · exact hold
          · obtain ⟨notice, hmem, hends⟩ := hnew
            obtain rfl := mem_singleton.mp hmem
            cases hends
        refine ⟨?_, ?_, ?_, ?_⟩
        · exact clean_emit.mpr ⟨h.clean, fun pid number hacts => hacts.elim⟩
        · intro pid number hmem
          exact Nat.lt_succ_of_lt (h.ended pid number (hended _ _ pid number hmem))
        · intro pid run hrun
          by_cases heq : pid = procId
          · subst heq
            rw [emit_running, Dict.get?_set_same] at hrun
            cases hrun
            exact Nat.lt_succ_self _
          · rw [emit_running, Dict.get?_set_ne m.running heq] at hrun
            exact Nat.lt_succ_of_lt (h.begun pid run hrun)
        · intro pid run hne hrun hmem
          have hold := hended _ _ pid run.number hmem
          by_cases heq : pid = procId
          · subst heq
            rw [emit_running, Dict.get?_set_same] at hrun
            cases hrun
            exact Nat.lt_irrefl _ (h.ended pid m.next hold)
          · rw [emit_running, Dict.get?_set_ne m.running heq] at hrun
            exact h.live pid run hne hrun hold

theorem abortAll_orderly (reason : String) (pids : List Int) (h : m.Orderly) :
    (pids.foldl (fun m pid => m.abortIfRunning pid reason) m).Orderly := by
  induction pids generalizing m with
  | nil => exact h
  | cons pid rest ih => exact ih (abortIfRunning_orderly (h.but pid) reason)

/-- **Every command keeps the log orderly.** -/
theorem apply_orderly (h : m.Orderly) (c : Command) : (m.apply c).1.Orderly := by
  cases c with
  | load procId name steps => exact load_orderly h procId name steps
  | loadBlob data =>
      simp only [apply]
      cases parseLoadBlob data with
      | error e => exact h
      | ok parsed =>
          obtain ⟨procId, name, steps⟩ := parsed
          exact load_orderly h procId name steps
  | delete procId => exact delete_orderly h procId
  | start procId param => exact start_orderly h procId param
  | stop procId =>
      simp only [apply, stop]
      split
      · exact abortAll_orderly _ _ h
      · exact abortIfRunning_orderly (h.but procId) _

theorem applyAll_orderly (commands : List Command) (h : m.Orderly) :
    (m.applyAll commands).Orderly := by
  induction commands generalizing m with
  | nil => exact h
  | cons c rest ih => exact ih (apply_orderly h c)

/-! ### What a command can end -/

/-- The execution is not the running one. -/
def Manager.Gone (m : Manager) (procId : Int) (number : Nat) : Prop :=
  ∀ run, m.running.get? procId = some run → run.number ≠ number

/-- What an operation on the manager may do to an execution: it ends the execution only for
the given cause, and it does not run it again. -/
structure Bounded (m m' : Manager) (procId : Int) (number : Nat) (cause : Prop) : Prop where
  ended : Ended m'.log procId number → Ended m.log procId number ∨ cause
  gone : m.Gone procId number → m'.Gone procId number
  next : m.next ≤ m'.next

theorem Bounded.refl (m : Manager) (procId : Int) (number : Nat) (cause : Prop) :
    Bounded m m procId number cause := ⟨.inl, id, Nat.le_refl _⟩

theorem Bounded.trans {m m' m'' : Manager} {cause cause' : Prop}
    (h : Bounded m m' procId number cause) (h' : Bounded m' m'' procId number cause') :
    Bounded m m'' procId number (cause ∨ cause') where
  ended := by
    intro hended
    rcases h'.ended hended with hmid | hcause
    · rcases h.ended hmid with hold | hcause
      · exact .inl hold
      · exact .inr (.inl hcause)
    · exact .inr (.inr hcause)
  gone := fun hgone => h'.gone (h.gone hgone)
  next := h.next.trans h'.next

theorem Bounded.weaken {m m' : Manager} {cause cause' : Prop} (h : Bounded m m' procId number cause)
    (himp : cause → cause') : Bounded m m' procId number cause' :=
  ⟨fun hended => (h.ended hended).imp_right himp, h.gone, h.next⟩

theorem bounded_emit (m : Manager) (notice : Notice) (procId : Int) (number : Nat) :
    Bounded m (m.emit notice) procId number (notice.Ends procId number) :=
  ⟨ended_emit.mp, id, Nat.le_refl _⟩

/-- Aborting ends the execution that is running. -/
theorem bounded_abortIfRunning (m : Manager) (pid : Int) (reason : String) (procId : Int)
    (number : Nat) :
    Bounded m (m.abortIfRunning pid reason) procId number
      (pid = procId ∧ ¬ m.Gone procId number) where
  ended := by
    unfold abortIfRunning
    split
    · rename_i run hrun
      intro hended
      rcases ended_emit.mp hended with hold | hnew
      · exact .inl hold
      · obtain ⟨rfl, rfl⟩ := hnew
        exact .inr ⟨rfl, fun hgone => hgone run hrun rfl⟩
    · exact .inl
  gone := by
    intro hgone run hrun
    rw [get?_abortIfRunning] at hrun
    split at hrun
    · cases hrun
    · exact hgone run hrun
  next := Nat.le_of_eq (abortIfRunning_next m pid reason).symm

theorem bounded_replaced (m : Manager) (procedures : Dict Int Procedure) (pid : Int)
    (procId : Int) (number : Nat) :
    Bounded m ({ m with procedures := procedures }.emit (.replaced pid m.next)) procId number
      (pid = procId) := by
  have hemit := bounded_emit { m with procedures := procedures } (.replaced pid m.next) procId
    number
  exact ⟨fun hended => (hemit.ended hended).imp_right And.left, hemit.gone, hemit.next⟩

theorem bounded_load (m : Manager) (pid : Int) (name : String) (steps : List Step)
    (procId : Int) (number : Nat) :
    Bounded m (m.load pid name steps).1 procId number
      (pid = procId ∧ steps ≠ [] ∧ steps.length ≤ maxSteps) := by
  unfold load
  split
  · exact Bounded.refl _ _ _ _
  · rename_i hlength
    split
    · exact Bounded.refl _ _ _ _
    · rw [not_or, List.isEmpty_iff, Nat.not_lt] at hlength
      have habort := bounded_abortIfRunning m pid "replaced by new load" procId number
      apply (habort.trans (bounded_replaced _ _ pid procId number)).weaken
      intro hcause
      exact ⟨hcause.elim And.left id, hlength⟩

theorem bounded_delete (m : Manager) (pid : Int) (procId : Int) (number : Nat) :
    Bounded m (m.delete pid).1 procId number (pid = procId) := by
  have habort := bounded_abortIfRunning m pid "deleted while running" procId number
  unfold delete
  simp only
  split
  · apply (habort.trans (bounded_replaced _ _ pid procId number)).weaken
    intro hcause
    exact hcause.elim And.left id
  · exact habort.weaken And.left

theorem bounded_start (m : Manager) (pid param : Int) (procId : Int) (hold : number < m.next) :
    Bounded m (m.start pid param).1 procId number False := by
  unfold start
  split
  · exact Bounded.refl _ _ _ _
  · split
    · exact Bounded.refl _ _ _ _
    · split
      · exact Bounded.refl _ _ _ _
      · refine ⟨?_, ?_, Nat.le_succ _⟩
        · intro hended
          exact (ended_emit.mp hended).imp_right False.elim
        · intro hgone run hrun
          by_cases heq : procId = pid
          · subst heq
            rw [emit_running, Dict.get?_set_same] at hrun
            cases hrun
            exact Nat.ne_of_gt hold
          · rw [emit_running, Dict.get?_set_ne m.running heq] at hrun
            exact hgone run hrun

theorem bounded_abortAll (reason : String) (pids : List Int) (m : Manager) (procId : Int)
    (number : Nat) :
    Bounded m (pids.foldl (fun m pid => m.abortIfRunning pid reason) m) procId number
      (¬ m.Gone procId number) := by
  induction pids generalizing m with
  | nil => exact Bounded.refl _ _ _ _
  | cons pid rest ih =>
      have habort := bounded_abortIfRunning m pid reason procId number
      apply (habort.trans (ih (m.abortIfRunning pid reason))).weaken
      intro hcause
      rcases hcause with hnow | hlater
      · exact hnow.2
      · exact fun hgone => hlater (habort.gone hgone)

/-- **What a command can end**: deleting and loading end the executions of their procedure,
stopping ends the one that is running. -/
theorem bounded_apply (m : Manager) (c : Command) (procId : Int) (hold : number < m.next) :
    Bounded m (m.apply c).1 procId number
      (c.Replaces procId ∨ (c.Stops procId ∧ ¬ m.Gone procId number)) := by
  cases c with
  | load pid name steps => exact (bounded_load m pid name steps procId number).weaken .inl
  | loadBlob data =>
      simp only [apply]
      cases hparse : parseLoadBlob data with
      | error e => exact Bounded.refl _ _ _ _
      | ok parsed =>
          obtain ⟨pid, name, steps⟩ := parsed
          apply (bounded_load m pid name steps procId number).weaken
          intro hcause
          exact .inl ⟨pid, name, steps, hparse, hcause⟩
  | delete pid => exact (bounded_delete m pid procId number).weaken .inl
  | start pid param => exact (bounded_start m pid param procId hold).weaken False.elim
  | stop pid =>
      simp only [apply, stop]
      split
      · rename_i hzero
        apply (bounded_abortAll _ _ m procId number).weaken
        intro hcause
        exact .inr ⟨.inl hzero, hcause⟩
      · apply (bounded_abortIfRunning m pid _ procId number).weaken
        intro hcause
        exact .inr ⟨.inr hcause.1, hcause.2⟩

theorem bounded_applyAll (commands : List Command) (m : Manager) (procId : Int)
    (hold : number < m.next) :
    Bounded m (m.applyAll commands) procId number
      (∃ c ∈ commands, c.Replaces procId ∨ (c.Stops procId ∧ ¬ m.Gone procId number)) := by
  induction commands generalizing m with
  | nil => exact Bounded.refl _ _ _ _
  | cons c rest ih =>
      have hfirst := bounded_apply m c procId hold
      have hrest := ih (m.apply c).1 (Nat.lt_of_lt_of_le hold hfirst.next)
      apply (hfirst.trans hrest).weaken
      intro hcause
      rcases hcause with hnow | ⟨c', hmem, hlater⟩
      · exact ⟨c, mem_cons_self, hnow⟩
      · exact ⟨c', mem_cons_of_mem _ hmem,
          hlater.imp_right (And.imp_right fun hnot hgone => hnot (hfirst.gone hgone))⟩

/-! ### A step -/

theorem bounded_failStep (m : Manager) (d : Due) (reason : String) (procId : Int)
    (number : Nat) : Bounded m (m.failStep d reason) procId number (d.procId = procId) := by
  have hemit := bounded_emit m
    (.stepFailed d.procId (m.nameOf d.procId) d.stepIdx reason d.number) procId number
  apply (hemit.trans (bounded_abortIfRunning _ _ _ procId number)).weaken
  intro hcause
  exact hcause.elim And.left And.left

theorem failStep_orderly (h : m.Orderly) (d : Due) (hbegun : d.number < m.next) (reason : String) :
    (m.failStep d reason).Orderly := by
  apply abortIfRunning_orderly
  apply (h.but d.procId).emit_ending
  · intro pid number hacts
    exact hacts
  · intro pid number hends
    obtain ⟨rfl, rfl⟩ := hends
    exact ⟨rfl, hbegun⟩

/-- **What a due step can end**: the executions it halts. -/
theorem bounded_executeStep (m : Manager) (outcome : Outcome) (d : Due) {finishes : Int → Bool}
    (hold : number < m.next) (hgone : finishes procId = true → m.Gone procId number) :
    Bounded m (m.executeStep outcome d) procId number (d.Halts outcome finishes procId) := by
  unfold executeStep
  split
  · rename_i reason hrefused
    apply (bounded_failStep m d reason procId number).weaken
    intro hown
    exact .inl ⟨hown, .inl (by rw [hrefused]; nofun)⟩
  · rename_i hrefused
    have hemit := bounded_emit m (.dispatched d.procId d.stepIdx d.number) procId number
    have hcommands := hemit.trans (bounded_applyAll outcome.commands
      (m.emit (.dispatched d.procId d.stepIdx d.number)) procId hold)
    have hdispatched : Bounded m ((m.emit (.dispatched d.procId d.stepIdx d.number)).applyAll
        outcome.commands) procId number (d.Halts outcome finishes procId) := by
      apply hcommands.weaken
      intro hcause
      obtain ⟨c, hmem, hends⟩ := hcause.resolve_left id
      refine .inr ⟨hrefused, c, hmem, hends.imp_right (And.imp_right fun hnot => ?_)⟩
      exact Bool.eq_false_iff.mpr fun hfin => hnot (hgone hfin)
    split
    · rename_i e herror
      apply (hdispatched.trans (bounded_failStep _ d _ procId number)).weaken
      intro hcause
      rcases hcause with hhalts | hown
      · exact hhalts
      · exact .inl ⟨hown, .inr (by rw [herror]; nofun)⟩
    · exact hdispatched

/-- A step of an execution that is not over. -/
theorem executeStep_orderly (h : m.Orderly) (outcome : Outcome) (d : Due)
    (hbegun : d.number < m.next)
    (hlive : refusedReason d.tc = none → ¬ Ended m.log d.procId d.number) :
    (m.executeStep outcome d).Orderly := by
  unfold executeStep
  split
  · exact failStep_orderly h d hbegun _
  · rename_i hrefused
    have hemit : (m.emit (.dispatched d.procId d.stepIdx d.number)).Orderly := by
      refine ⟨clean_emit.mpr ⟨h.clean, ?_⟩, ?_, h.begun, ?_⟩
      · intro pid number hacts
        obtain ⟨rfl, rfl⟩ := hacts
        exact hlive hrefused
      · intro pid number hended
        exact h.ended pid number ((ended_emit.mp hended).resolve_right id)
      · intro pid run hne hrun hended
        exact h.live pid run hne hrun ((ended_emit.mp hended).resolve_right id)
    have hdone := applyAll_orderly outcome.commands hemit
    split
    · apply failStep_orderly hdone d
      have hnext := (bounded_applyAll outcome.commands
        (m.emit (.dispatched d.procId d.stepIdx d.number)) d.procId hbegun).next
      exact Nat.lt_of_lt_of_le hbegun hnext
    · exact hdone

/-! ### Gathering -/

theorem gather_log (dt : FloatValue) (pids : List Int) (m : Manager) :
    (gather dt pids m).manager.log = m.log ∧ (gather dt pids m).manager.next = m.next := by
  induction pids generalizing m with
  | nil => exact ⟨rfl, rfl⟩
  | cons pid pids ih =>
      unfold gather
      split
      · exact ih m
      · exact ih _
      · simp only
        split
        · exact ih _
        · exact ih _
        · exact ⟨rfl, rfl⟩

/-- Gathering starts no execution. -/
theorem gather_running (dt : FloatValue) (pids : List Int) {pid : Int} {run : Execution}
    (h : (gather dt pids m).manager.running.get? pid = some run) :
    ∃ old, m.running.get? pid = some old ∧ old.number = run.number := by
  induction pids generalizing m with
  | nil => exact ⟨run, h, rfl⟩
  | cons head pids ih =>
      have herase : ∀ old, (m.running.erase head).get? pid = some old →
          m.running.get? pid = some old := by
        intro old hold
        rw [Dict.get?_erase] at hold
        split at hold
        · cases hold
        · exact hold
      have hset : ∀ moved was, m.running.get? head = some was → moved.number = was.number →
          ∀ old, (m.running.set head moved).get? pid = some old →
            ∃ before, m.running.get? pid = some before ∧ before.number = old.number := by
        intro moved was hwas hnumber old hold
        by_cases heq : pid = head
        · subst heq
          rw [Dict.get?_set_same] at hold
          cases hold
          exact ⟨was, hwas, hnumber.symm⟩
        · rw [Dict.get?_set_ne m.running heq] at hold
          exact ⟨old, hold, rfl⟩
      unfold gather at h
      split at h
      · exact ih h
      · obtain ⟨old, hold, hnumber⟩ := ih h
        exact ⟨old, herase old hold, hnumber⟩
      · rename_i was proc hwas hproc
        simp only at h
        split at h
        · rename_i idx wait hstop
          obtain ⟨old, hold, hnumber⟩ := ih h
          obtain ⟨before, hbefore, hsame⟩ := hset
            { was with stepIndex := idx, waitRemaining := wait } was hwas rfl old hold
          exact ⟨before, hbefore, hsame.trans hnumber⟩
        · obtain ⟨old, hold, hnumber⟩ := ih h
          exact ⟨old, herase old hold, hnumber⟩
        · rename_i idx wait hstop
          exact hset { was with stepIndex := idx, waitRemaining := wait } was hwas rfl run h

/-- What is gathered is what falls due, and what has come to its end runs no longer. -/
structure Gathered.Of (g : Gathered) (m : Manager) (dt : FloatValue) (pids : List Int) :
    Prop where
  due : g.due = pids.flatMap (m.dueOf dt)
  completed : ∀ c ∈ g.completed, m.finishes dt c.1 = true ∧
    ∃ run, m.running.get? c.1 = some run ∧ run.number = c.2
  finished : ∀ pid ∈ pids, m.finishes dt pid = true → g.manager.running.get? pid = none

theorem gather_none {dt : FloatValue} {pids : List Int} {m : Manager} {pid : Int}
    (h : m.running.get? pid = none) : (gather dt pids m).manager.running.get? pid = none := by
  cases hrun : (gather dt pids m).manager.running.get? pid with
  | none => rfl
  | some run =>
      obtain ⟨old, hold, -⟩ := gather_running dt pids hrun
      rw [h] at hold
      cases hold

theorem gather_of (dt : FloatValue) (m₀ : Manager) (pids : List Int) (hnodup : pids.Nodup)
    (m : Manager) (hprocedures : m.procedures = m₀.procedures)
    (hrunning : ∀ pid ∈ pids, m.running.get? pid = m₀.running.get? pid)
    (hquiet : (gather dt pids m).raised = false) : (gather dt pids m).Of m₀ dt pids := by
  induction pids generalizing m with
  | nil => exact ⟨rfl, nofun, nofun⟩
  | cons head pids ih =>
      obtain ⟨hhead, hnodup⟩ := nodup_cons.mp hnodup
      have hwas := hrunning head mem_cons_self
      have hrest : ∀ pid ∈ pids, m.running.get? pid = m₀.running.get? pid :=
        fun pid hmem => hrunning pid (mem_cons_of_mem _ hmem)
      have hne : ∀ pid ∈ pids, pid ≠ head := fun pid hmem heq => hhead (heq ▸ hmem)
      have herase : ∀ pid ∈ pids, (m.running.erase head).get? pid = m₀.running.get? pid := by
        intro pid hmem
        rw [Dict.get?_erase, if_neg (hne pid hmem)]
        exact hrest pid hmem
      have hset : ∀ moved, ∀ pid ∈ pids,
          (m.running.set head moved).get? pid = m₀.running.get? pid := by
        intro moved pid hmem
        rw [Dict.get?_set_ne m.running (hne pid hmem)]
        exact hrest pid hmem
      unfold gather at hquiet ⊢
      split at hquiet
      · -- the procedure is not running any more
        rename_i hnone
        have hg := ih hnodup m hprocedures hrest hquiet
        rw [hwas] at hnone
        refine ⟨?_, hg.completed, ?_⟩
        · rw [hg.due]
          simp only [flatMap_cons, dueOf, hnone, nil_append]
        · intro pid hmem hfin
          rcases mem_cons.mp hmem with rfl | hmem
          · simp only [finishes, hnone] at hfin
            cases hfin
          · exact hg.finished pid hmem hfin
      · -- its procedure has been deleted
        rename_i run hsome hnone
        have hg := ih hnodup { m with running := m.running.erase head } hprocedures
          herase hquiet
        rw [hwas] at hsome
        rw [hprocedures] at hnone
        refine ⟨?_, hg.completed, ?_⟩
        · rw [hg.due]
          simp only [flatMap_cons, dueOf, hsome, hnone, nil_append]
        · intro pid hmem hfin
          rcases mem_cons.mp hmem with rfl | hmem
          · simp only [finishes, hsome, hnone] at hfin
            cases hfin
          · exact hg.finished pid hmem hfin
      · rename_i run proc hsome hproc
        simp only at hquiet ⊢
        rw [hwas] at hsome
        rw [hprocedures] at hproc
        have hdue : m₀.dueOf dt head =
            (consume (proc.steps.drop run.stepIndex) run.stepIndex
              (run.waitRemaining.sub dt)).1.map
                fun step => Due.mk head step.1 step.2 run.number := by
          simp only [dueOf, hsome, hproc]
        have hfinishes : m₀.finishes dt head = true ↔
            (consume (proc.steps.drop run.stepIndex) run.stepIndex
              (run.waitRemaining.sub dt)).2 = .completed := by
          simp only [finishes, hsome, hproc, decide_eq_true_eq]
        split at hquiet
        · rename_i idx wait hstop
          have hg := ih hnodup { m with running := m.running.set head _ } hprocedures
            (hset _) hquiet
          refine ⟨?_, hg.completed, ?_⟩
          · rw [flatMap_cons, hdue, ← hg.due]
          · intro pid hmem hfin
            rcases mem_cons.mp hmem with rfl | hmem
            · rw [hfinishes, hstop] at hfin
              cases hfin
            · exact hg.finished pid hmem hfin
        · rename_i hstop
          have hg := ih hnodup { m with running := m.running.erase head } hprocedures
            herase hquiet
          refine ⟨?_, ?_, ?_⟩
          · rw [flatMap_cons, hdue, ← hg.due]
          · intro c hmem
            rcases mem_cons.mp hmem with rfl | hmem
            · exact ⟨hfinishes.mpr hstop, run, hsome, rfl⟩
            · exact hg.completed c hmem
          · intro pid hmem hfin
            rcases mem_cons.mp hmem with rfl | hmem
            · apply gather_none
              rw [Dict.get?_erase, if_pos rfl]
            · exact hg.finished pid hmem hfin
        · cases hquiet

/-! ### A tick -/

/-- Between two due steps: the executions the tick speaks of have begun, one that finishes
in the tick is not running, and those that a step can still be dispatched of, or that are
still to complete, are not over. -/
structure InTick (finishes : Int → Bool) (due : List Due) (completed : List (Int × Nat))
    (m : Manager) : Prop where
  orderly : m.Orderly
  due : ∀ d ∈ due, d.number < m.next ∧ (finishes d.procId = true → m.Gone d.procId d.number) ∧
    (refusedReason d.tc = none → ¬ Ended m.log d.procId d.number)
  completed : ∀ c ∈ completed, finishes c.1 = true ∧ c.2 < m.next ∧ m.Gone c.1 c.2 ∧
    ¬ Ended m.log c.1 c.2

/-- One due step, if it halts nothing that is still to act. -/
theorem InTick.step {finishes : Int → Bool} {d : Due} {rest : List Due}
    {completed : List (Int × Nat)} {m : Manager} (h : InTick finishes (d :: rest) completed m)
    (outcome : Outcome)
    (hcalm : ∀ procId, d.Halts outcome finishes procId → finishes procId = false ∧
      ∀ later ∈ rest, later.procId = procId → refusedReason later.tc ≠ none) :
    InTick finishes rest completed (m.executeStep outcome d) where
  orderly :=
    have hd := h.due d mem_cons_self
    executeStep_orderly h.orderly outcome d hd.1 hd.2.2
  due := by
    intro later hmem
    obtain ⟨hbegun, hgone, hlive⟩ := h.due later (mem_cons_of_mem _ hmem)
    have hstep := bounded_executeStep m outcome d hbegun hgone
    refine ⟨Nat.lt_of_lt_of_le hbegun hstep.next, fun hfin => hstep.gone (hgone hfin), ?_⟩
    intro hdispatched hended
    rcases hstep.ended hended with hold | hhalts
    · exact hlive hdispatched hold
    · exact (hcalm later.procId hhalts).2 later hmem rfl hdispatched
  completed := by
    intro c hmem
    obtain ⟨hfin, hbegun, hgone, hlive⟩ := h.completed c hmem
    have hstep : Bounded m (m.executeStep outcome d) c.1 c.2 (d.Halts outcome finishes c.1) :=
      bounded_executeStep m outcome d hbegun fun _ => hgone
    refine ⟨hfin, Nat.lt_of_lt_of_le hbegun hstep.next, hstep.gone hgone, ?_⟩
    intro hended
    rcases hstep.ended hended with hold | hhalts
    · exact hlive hold
    · rw [(hcalm c.1 hhalts).1] at hfin
      cases hfin

theorem InTick.executeDue {outcomes : Nat → Outcome} {finishes : Int → Bool} {due : List Due}
    {k : Nat} {completed : List (Int × Nat)} (h : InTick finishes due completed m)
    (hcalm : Undisturbed outcomes finishes due k) :
    InTick finishes [] completed (m.executeDue outcomes due k) := by
  induction due generalizing k m with
  | nil => exact h
  | cons d rest ih => exact ih (h.step (outcomes k) hcalm.1) hcalm.2

/-- The completion of executions that are not over. -/
theorem complete_orderly (h : m.Orderly) (completed : List (Int × Nat))
    (hlive : ∀ c ∈ completed, ¬ Ended m.log c.1 c.2) : (m.complete completed).Orderly := by
  induction completed generalizing m with
  | nil => exact h
  | cons c rest ih =>
      have hsame : ∀ procId number,
          Ended (m.emit (.completed c.1 (m.nameOf c.1) c.2)).log procId number →
            Ended m.log procId number :=
        fun procId number hended => (ended_emit.mp hended).resolve_right id
      have hemit : (m.emit (.completed c.1 (m.nameOf c.1) c.2)).Orderly := by
        refine ⟨clean_emit.mpr ⟨h.clean, ?_⟩, ?_, h.begun, ?_⟩
        · intro procId number hacts
          obtain ⟨rfl, rfl⟩ := hacts
          exact hlive c mem_cons_self
        · intro procId number hended
          exact h.ended procId number (hsame procId number hended)
        · intro procId run hne hrun hended
          exact h.live procId run hne hrun (hsame procId run.number hended)
      exact ih hemit fun later hmem hended =>
        hlive later (mem_cons_of_mem _ hmem) (hsame later.1 later.2 hended)

/-- After gathering nothing has been reported yet. -/
theorem gather_orderly (h : m.Orderly) (dt : FloatValue) (pids : List Int) :
    (gather dt pids m).manager.Orderly := by
  obtain ⟨hlog, hnext⟩ := gather_log dt pids m
  refine ⟨?_, ?_, ?_, ?_⟩
  · rw [hlog]
    exact h.clean
  · intro procId number hended
    rw [hlog] at hended
    rw [hnext]
    exact h.ended procId number hended
  · intro procId run hrun
    obtain ⟨old, hold, hnumber⟩ := gather_running dt pids hrun
    rw [hnext, ← hnumber]
    exact h.begun procId old hold
  · intro procId run hne hrun
    obtain ⟨old, hold, hnumber⟩ := gather_running dt pids hrun
    rw [hlog, ← hnumber]
    exact h.live procId old hne hold

/-- A due step is of the execution that was running. -/
theorem mem_dueSteps {dt : FloatValue} {d : Due} (h : d ∈ m.dueSteps dt) :
    d.procId ∈ m.running.keys ∧
      ∃ run, m.running.get? d.procId = some run ∧ run.number = d.number := by
  obtain ⟨pid, hpid, hd⟩ := mem_flatMap.mp h
  unfold dueOf at hd
  split at hd
  · rename_i run proc hrun hproc
    obtain ⟨step, -, rfl⟩ := mem_map.mp hd
    exact ⟨hpid, run, hrun, rfl⟩
  · cases hd

/-- **A tick keeps the log orderly** when no due step halts an execution that the tick will
still dispatch a step of or complete. -/
theorem tick_orderly (h : m.Orderly) {dt : FloatValue} {outcomes : Nat → Outcome}
    (hcalm : Undisturbed outcomes (m.finishes dt) (m.dueSteps dt) 0) :
    (m.tick dt outcomes).Orderly := by
  have horderly := gather_orderly h dt m.running.keys
  unfold tick
  simp only
  split
  · exact horderly
  · rename_i hquiet
    have hof := gather_of dt m m.running.keys m.running.nodup m rfl (fun _ _ => rfl)
      (Bool.eq_false_iff.mpr hquiet)
    obtain ⟨hlog, hnext⟩ := gather_log dt m.running.keys m
    have hgone : ∀ pid number, pid ∈ m.running.keys → m.finishes dt pid = true →
        (gather dt m.running.keys m).manager.Gone pid number := by
      intro pid number hmem hfin run hrun
      rw [hof.finished pid hmem hfin] at hrun
      cases hrun
    have hstart : InTick (m.finishes dt) (gather dt m.running.keys m).due
        (gather dt m.running.keys m).completed (gather dt m.running.keys m).manager := by
      refine ⟨horderly, fun d hd => ?_, fun c hc => ?_⟩
      · rw [hof.due] at hd
        obtain ⟨hmem, run, hrun, hnumber⟩ := mem_dueSteps hd
        rw [hlog, hnext, ← hnumber]
        exact ⟨h.begun _ run hrun, hgone d.procId run.number hmem,
          fun _ => h.live _ run nofun hrun⟩
      · obtain ⟨hfin, run, hrun, hnumber⟩ := hof.completed c hc
        rw [hlog, hnext, ← hnumber]
        exact ⟨hfin, h.begun _ run hrun,
          hgone c.1 run.number (Dict.mem_keys_iff.mpr ⟨run, hrun⟩) hfin,
          h.live _ run nofun hrun⟩
    rw [hof.due] at hstart ⊢
    have hdone := hstart.executeDue hcalm
    exact complete_orderly hdone.orderly _ fun c hc => (hdone.completed c hc).2.2.2

/-! ### Whole runs -/

theorem setState_orderly (h : m.Orderly) (snap : Snapshot) : (m.setState snap).Orderly where
  clean := h.clean
  ended := fun procId number hended => Nat.lt_succ_of_lt (h.ended procId number hended)
  begun := by
    intro procId run hrun
    obtain ⟨old, -, rfl⟩ := get?_restored hrun
    exact Nat.lt_succ_self _
  live := by
    intro procId run _ hrun hended
    obtain ⟨old, -, rfl⟩ := get?_restored hrun
    exact Nat.lt_irrefl _ (h.ended procId m.next hended)

theorem Session.orderly_step {s : Session} (h : s.manager.Orderly) {op : Operation}
    (hcalm : s.Calm op) : (s.step op).manager.Orderly := by
  cases op with
  | command c => exact apply_orderly h c
  | tick dt outcomes => exact tick_orderly h hcalm
  | getState => exact h
  | setState which =>
      unfold Session.step
      simp only
      split
      · exact setState_orderly h _
      · exact h

/-- A step without delay. -/
def immediate (tc : Bytes) : Step := { delayS := .finite false 0 0, tc := tc }

/-- A connection test, TC(17,1). -/
def connectionTest : Bytes := [0x19, 0xAC, 0xC0, 0, 0, 5, 0x10, 17, 1, 0, 0, 0]

end Obcp
