import MissionSim.Fdir
import Mathlib.Algebra.Order.BigOperators.Group.List
import Mathlib.Data.List.Nodup

/-!
# The basic fault rules

The rules of `fdir.yaml`.  A rule watches one parameter; it fires when its condition is met
and, if it has a persistence, has been met for that long, and it is armed again when the
condition is gone.  The records of a rule are found under the text made of its parameter and
its action.

The rules are evaluated once in every sub-step of a tick.  The log of the evaluations is not
part of the software; it tells what the claims about persistence are about.
-/

namespace FdirRules

open Binary32 Python Fdir List

/-! ### Configuration and state -/

/-- `FDIRRuleConfig`. -/
structure Rule where
  parameter : String
  condition : String
  threshold : Option FloatValue := none
  level : Int := 1
  action : String
  persistS : Rat := 0
  deriving DecidableEq

/-- `rule_key`. -/
def Rule.key (rule : Rule) : String := rule.parameter ++ "_" ++ rule.action

/-- The rules, and how the name of a parameter is resolved. -/
structure Config where
  rules : List Rule
  /-- `_resolve_param_name`. -/
  paramIds : String → Option Nat

/-- One evaluation of a rule: the sub-step it is made in, whether the condition is met, and
whether the rule fires. -/
structure Evaluation where
  rule : Rule
  step : Nat
  met : Bool
  fired : Bool
  deriving DecidableEq

structure State where
  fdirTriggered : Dict String Bool := .empty
  fdirPersist : Dict String Rat := .empty
  safeActive : Bool := false
  emergencyActive : Bool := false
  log : List Evaluation := []

/-- A sub-step: its length, the parameters, and the rules whose event cannot be emitted. -/
structure Substep where
  dt : Rat
  params : Nat → Value
  fdirEnabled : Bool := true
  raises : Rule → Option PyError := fun _ => none
  dt_nonneg : 0 ≤ dt

/-! ### Evaluation -/

/-- `cond.startswith(c)` for the stripped condition. -/
def Rule.begins (rule : Rule) (c : Char) : Bool :=
  (rule.condition.toList.dropWhile Char.isWhitespace).head? == some c

/-- Whether the condition is met. -/
def Rule.conditionMet (rule : Rule) (value threshold : FloatValue) : Bool :=
  if rule.begins '<' then value.lt threshold
  else if rule.begins '>' then threshold.lt value
  else false

/-- The persistence filter: whether the rule may fire, and the new record. -/
def persist (rule : Rule) (met : Bool) (timers : Dict String Rat) : Bool × Dict String Rat :=
  if 0 < rule.persistS then
    let acc := if met then (timers.get? rule.key).getD 0 + 1 else 0
    (met && !decide (acc < rule.persistS), timers.set rule.key acc)
  else (met, timers)

/-- `_fdir_triggered.get(rule_key, False)`. -/
def State.triggered (s : State) (rule : Rule) : Bool := (s.fdirTriggered.get? rule.key).getD false

/-- A rule that fires: it is latched, its action is called and its event is emitted. -/
def fire (rule : Rule) (s : State) : State :=
  { s with
    fdirTriggered := s.fdirTriggered.set rule.key true
    emergencyActive := s.emergencyActive || rule.action == "spacecraft_emergency" }

/-- What a judged rule makes of the state, and what it raises. -/
def judge (rule : Rule) (step : Nat) (raises : Option PyError) (met : Bool) (s : State) :
    State × Option PyError :=
  let filtered := persist rule met s.fdirPersist
  let fired := filtered.1 && !s.triggered rule
  let s' := { s with
    fdirPersist := filtered.2
    log := s.log ++ [{ rule := rule, step := step, met := met, fired := fired }] }
  if fired then (fire rule s', raises)
  else if !filtered.1 && s.triggered rule then
    ({ s' with fdirTriggered := s'.fdirTriggered.set rule.key false }, none)
  else (s', none)

/-- The condition of a rule at a sub-step; a rule without a threshold, and one whose
parameter is not known, not produced or not a number, is not evaluated. -/
def condition (cfg : Config) (input : Substep) (rule : Rule) : Except PyError (Option Bool) :=
  match rule.threshold, cfg.paramIds rule.parameter with
  | some threshold, some pid =>
      match input.params pid with
      | .none => .ok none
      | raw => (floatOrNone raw).map fun value =>
          value.map fun x => rule.conditionMet x threshold
  | _, _ => .ok none

/-- The loop over the rules; an exception ends it. -/
def tickRules (cfg : Config) (input : Substep) (step : Nat) :
    List Rule → State → State × Option PyError
  | [], s => (s, none)
  | rule :: rest, s =>
      match condition cfg input rule with
      | .error e => (s, some e)
      | .ok none => tickRules cfg input step rest s
      | .ok (some met) =>
          match judge rule step (input.raises rule) met s with
          | (s', none) => tickRules cfg input step rest s'
          | (s', some e) => (s', some e)

/-- Whether a rule of at least this level is latched. -/
def latched (cfg : Config) (level : Int) (s : State) : Bool :=
  cfg.rules.any fun rule => s.triggered rule && decide (level ≤ rule.level)

/-- `_tick_fdir()` in the given sub-step. -/
def tickFdir (cfg : Config) (input : Substep) (step : Nat) (s : State) : State :=
  if input.fdirEnabled then
    match tickRules cfg input step cfg.rules s with
    | (s, none) => { s with safeActive := latched cfg 2 s, emergencyActive := latched cfg 3 s }
    | (s, some _) => s
  else s

/-- The state after sub-steps, the first of which has the given number. -/
def run (cfg : Config) : Nat → List Substep → State → State
  | _, [], s => s
  | step, input :: rest, s => run cfg (step + 1) rest (tickFdir cfg input step s)

/-! ### Ticks -/

/-- `n_sub`: how many sub-steps `_tick_once(dt_sim)` makes. -/
def substepCount (dtMaxS : Rat) (maxSubsteps : Nat) (dtSim : Rat) : Nat :=
  if 0 < dtMaxS ∧ dtMaxS < dtSim then min (dtSim / dtMaxS).ceil.toNat maxSubsteps else 1

/-- `dt_sub`. -/
def substepLength (dtMaxS : Rat) (maxSubsteps : Nat) (dtSim : Rat) : Rat :=
  dtSim / substepCount dtMaxS maxSubsteps dtSim

/-! ### What an evaluation leaves behind -/

/-- The sub-step in which the condition of a rule became true, by its own evaluations; none
when the last of them found it false. -/
def heldSince (rule : Rule) (log : List Evaluation) : Option Nat :=
  log.foldl (fun since e => if e.rule = rule then
    (if e.met then some (since.getD e.step) else none) else since) none

/-- How many evaluations of a rule in a row found its condition true. -/
def heldCount (rule : Rule) (log : List Evaluation) : Nat :=
  log.foldl (fun n e => if e.rule = rule then (if e.met then n + 1 else 0) else n) 0

section Evaluations

variable {rule : Rule} {log : List Evaluation} {e : Evaluation}

theorem heldSince_concat_of_ne (h : e.rule ≠ rule) :
    heldSince rule (log ++ [e]) = heldSince rule log := by
  simp [heldSince, foldl_append, h]

theorem heldCount_concat_of_ne (h : e.rule ≠ rule) :
    heldCount rule (log ++ [e]) = heldCount rule log := by
  simp [heldCount, foldl_append, h]

theorem heldSince_concat_met (h : e.rule = rule) (hmet : e.met = true) :
    heldSince rule (log ++ [e]) = some ((heldSince rule log).getD e.step) := by
  simp [heldSince, foldl_append, h, hmet]

theorem heldCount_concat_met (h : e.rule = rule) (hmet : e.met = true) :
    heldCount rule (log ++ [e]) = heldCount rule log + 1 := by
  simp [heldCount, foldl_append, h, hmet]

theorem heldSince_concat_unmet (h : e.rule = rule) (hmet : e.met = false) :
    heldSince rule (log ++ [e]) = none := by
  simp [heldSince, foldl_append, h, hmet]

theorem heldCount_concat_unmet (h : e.rule = rule) (hmet : e.met = false) :
    heldCount rule (log ++ [e]) = 0 := by
  simp [heldCount, foldl_append, h, hmet]

/-- There is at most one evaluation a sub-step since the condition became true. -/
def Counted (rule : Rule) (step : Nat) (log : List Evaluation) : Prop :=
  match heldSince rule log with
  | some since => since + heldCount rule log ≤ step
  | none => heldCount rule log = 0

theorem Counted.mono {step step' : Nat} (h : Counted rule step log) (hle : step ≤ step') :
    Counted rule step' log := by
  unfold Counted at h ⊢
  cases hsince : heldSince rule log with
  | none => simpa only [hsince] using h
  | some since =>
      simp only [hsince] at h ⊢
      exact h.trans hle

theorem Counted.concat_of_ne {step : Nat} (h : Counted rule step log) (hne : e.rule ≠ rule) :
    Counted rule step (log ++ [e]) := by
  unfold Counted at h ⊢
  rwa [heldSince_concat_of_ne hne, heldCount_concat_of_ne hne]

/-- The evaluation of a sub-step. -/
theorem Counted.concat_self {step : Nat} (h : Counted rule step log) (hrule : e.rule = rule)
    (hstep : e.step = step) : Counted rule (step + 1) (log ++ [e]) := by
  unfold Counted at h ⊢
  cases hmet : e.met with
  | false => rw [heldSince_concat_unmet hrule hmet, heldCount_concat_unmet hrule hmet]
  | true =>
      rw [heldSince_concat_met hrule hmet, heldCount_concat_met hrule hmet]
      cases hsince : heldSince rule log with
      | none =>
          simp only [hsince] at h
          simp [h, hstep]
      | some since =>
          simp only [hsince] at h
          simp only [Option.getD_some]
          omega

end Evaluations

/-! ### Timers and firings -/

section Filter

variable {rule : Rule} {met : Bool} {timers : Dict String Rat}

theorem persist_timer_self (h : 0 < rule.persistS) :
    (persist rule met timers).2.get? rule.key =
      some (if met then (timers.get? rule.key).getD 0 + 1 else 0) := by
  unfold persist
  rw [if_pos h]
  exact Dict.get?_set_same _ _ _

theorem persist_timer_ne {key : String} (h : 0 < rule.persistS → key ≠ rule.key) :
    (persist rule met timers).2.get? key = timers.get? key := by
  unfold persist
  by_cases hp : 0 < rule.persistS
  · rw [if_pos hp]
    exact Dict.get?_set_ne timers (h hp) _
  · rw [if_neg hp]

theorem met_of_persist (h : (persist rule met timers).1 = true) : met = true := by
  unfold persist at h
  by_cases hp : 0 < rule.persistS
  · rw [if_pos hp] at h
    exact (Bool.and_eq_true_iff.mp h).1
  · rwa [if_neg hp] at h

/-- What passes the filter has been counted as often as the persistence has seconds. -/
theorem reached_of_persist (hp : 0 < rule.persistS) (h : (persist rule met timers).1 = true) :
    rule.persistS ≤ (timers.get? rule.key).getD 0 + 1 := by
  have hmet := met_of_persist h
  unfold persist at h
  rw [if_pos hp, if_pos hmet] at h
  simpa [hmet] using h

end Filter

/-- The evaluation a judgement makes. -/
def evaluationOf (rule : Rule) (step : Nat) (met : Bool) (s : State) : Evaluation where
  rule := rule
  step := step
  met := met
  fired := (persist rule met s.fdirPersist).1 && !s.triggered rule

theorem judge_log (rule : Rule) (step : Nat) (raises : Option PyError) (met : Bool) (s : State) :
    (judge rule step raises met s).1.log = s.log ++ [evaluationOf rule step met s] := by
  unfold judge fire evaluationOf
  dsimp only
  split_ifs <;> rfl

theorem judge_persist (rule : Rule) (step : Nat) (raises : Option PyError) (met : Bool)
    (s : State) :
    (judge rule step raises met s).1.fdirPersist = (persist rule met s.fdirPersist).2 := by
  unfold judge fire
  dsimp only
  split_ifs <;> rfl

/-- The rules that persist have records of their own. -/
def Config.Distinct (cfg : Config) : Prop :=
  ((cfg.rules.filter fun rule => 0 < rule.persistS).map Rule.key).Nodup

/-- The timer of every rule that persists counts the evaluations of that rule alone. -/
def OwnTimers (cfg : Config) (s : State) : Prop :=
  ∀ rule ∈ cfg.rules, 0 < rule.persistS →
    (s.fdirPersist.get? rule.key).getD 0 = heldCount rule s.log

/-- Simulated time at the beginning of a sub-step. -/
def elapsed (inputs : List Substep) (step : Nat) : Rat := ((inputs.take step).map Substep.dt).sum

/-- A rule that fires has found its condition true at every evaluation since a sub-step
which began at least its persistence ago. -/
def FiresWhenHeld (inputs : List Substep) (log : List Evaluation) : Prop :=
  ∀ before e after, log = before ++ e :: after → e.fired = true →
    ∃ since, heldSince e.rule (before ++ [e]) = some since ∧
      e.rule.persistS ≤ elapsed inputs (e.step + 1) - elapsed inputs since

/-- As many sub-steps in a row as the seconds of a persistence last that long. -/
def LongEnough (cfg : Config) (inputs : List Substep) : Prop :=
  ∀ rule ∈ cfg.rules, 0 < rule.persistS → ∀ step, step + rule.persistS.ceil.toNat ≤ inputs.length →
    rule.persistS ≤ elapsed inputs (step + rule.persistS.ceil.toNat) - elapsed inputs step

section Runs

variable {cfg : Config} {inputs : List Substep}

theorem elapsed_mono {step step' : Nat} (h : step ≤ step') :
    elapsed inputs step ≤ elapsed inputs step' := by
  obtain ⟨d, rfl⟩ := Nat.exists_eq_add_of_le h
  unfold elapsed
  rw [take_add, map_append, sum_append]
  have hrest : 0 ≤ (((inputs.drop step).take d).map Substep.dt).sum := by
    refine sum_nonneg fun x hx => ?_
    obtain ⟨input, -, rfl⟩ := mem_map.mp hx
    exact input.dt_nonneg
  exact le_add_of_nonneg_right hrest

theorem Config.Distinct.eq_of_key (h : cfg.Distinct) {rule rule' : Rule} (hr : rule ∈ cfg.rules)
    (hr' : rule' ∈ cfg.rules) (hp : 0 < rule.persistS) (hp' : 0 < rule'.persistS)
    (hkey : rule.key = rule'.key) : rule = rule' := by
  have hmem : rule ∈ cfg.rules.filter fun rule => 0 < rule.persistS := by simp [hr, hp]
  have hmem' : rule' ∈ cfg.rules.filter fun rule => 0 < rule.persistS := by simp [hr', hp']
  exact inj_on_of_nodup_map h hmem hmem' hkey

variable {s : State} {rule : Rule}

/-- A judgement keeps the timers apart. -/
theorem OwnTimers.judge (hkeys : cfg.Distinct) (h : OwnTimers cfg s) (hrule : rule ∈ cfg.rules)
    (step : Nat) (raises : Option PyError) (met : Bool) :
    OwnTimers cfg (judge rule step raises met s).1 := by
  intro other hother hpersists
  rw [judge_log, judge_persist]
  by_cases heq : other = rule
  · subst heq
    have hself : (evaluationOf other step met s).rule = other := rfl
    have hmet : (evaluationOf other step met s).met = met := rfl
    rw [persist_timer_self hpersists, Option.getD_some, h other hother hpersists]
    cases hcase : met with
    | true =>
        rw [← hcase, heldCount_concat_met hself (hmet.trans hcase), hcase, if_pos rfl]
        push_cast
        rfl
    | false =>
        rw [← hcase, heldCount_concat_unmet hself (hmet.trans hcase), hcase,
          if_neg Bool.false_ne_true]
        rfl
  · rw [heldCount_concat_of_ne (Ne.symm heq), ← h other hother hpersists, persist_timer_ne]
    exact fun hp hkey => heq (hkeys.eq_of_key hother hrule hpersists hp hkey)

/-- What is known of the evaluations while the rules of a sub-step are evaluated; the rules
still to come have none in it. -/
structure Tracked (cfg : Config) (inputs : List Substep) (step : Nat) (rest : List Rule)
    (s : State) : Prop where
  sublist : rest.Sublist cfg.rules
  timers : OwnTimers cfg s
  begun : ∀ rule since, heldSince rule s.log = some since → since ≤ step
  pending : ∀ rule ∈ rest, 0 < rule.persistS → Counted rule step s.log
  counted : ∀ rule ∈ cfg.rules, 0 < rule.persistS → Counted rule (step + 1) s.log
  fires : FiresWhenHeld inputs s.log

variable {rest : List Rule} {step : Nat}

theorem Tracked.done (h : Tracked cfg inputs step rest s) : Tracked cfg inputs step [] s :=
  { h with sublist := nil_sublist _, pending := fun _ hmem => nomatch hmem }

theorem Tracked.skip (h : Tracked cfg inputs step (rule :: rest) s) :
    Tracked cfg inputs step rest s :=
  { h with
    sublist := (sublist_cons_self rule rest).trans h.sublist
    pending := fun other hmem => h.pending other (mem_cons_of_mem rule hmem) }

/-- A rule that persists comes only once. -/
theorem Tracked.ne_of_mem (hkeys : cfg.Distinct) {rule other : Rule}
    (h : Tracked cfg inputs step (rule :: rest) s) (hmem : other ∈ rest) (hp : 0 < other.persistS) :
    rule ≠ other := by
  rintro rfl
  have hnodup := List.Nodup.sublist ((h.sublist.filter _).map Rule.key) hkeys
  rw [filter_cons_of_pos (by simpa using hp), map_cons, nodup_cons] at hnodup
  refine hnodup.1 (mem_map_of_mem ?_)
  simp [hmem, hp]

theorem begun_concat {log : List Evaluation} {e : Evaluation}
    (h : ∀ rule since, heldSince rule log = some since → since ≤ step) (hstep : e.step = step)
    {since : Nat} (hsince : heldSince rule (log ++ [e]) = some since) : since ≤ step := by
  by_cases heq : e.rule = rule
  · cases hmet : e.met with
    | false =>
        rw [heldSince_concat_unmet heq hmet] at hsince
        cases hsince
    | true =>
        rw [heldSince_concat_met heq hmet] at hsince
        cases hsince
        cases hold : heldSince rule log with
        | none => exact hstep.le
        | some old => exact h rule old hold
  · rw [heldSince_concat_of_ne heq] at hsince
    exact h rule since hsince

/-- What fires in a sub-step has held long enough. -/
theorem Tracked.held_of_fired (hlong : LongEnough cfg inputs)
    (h : Tracked cfg inputs step (rule :: rest) s) (hstep : step < inputs.length) {met : Bool}
    (hfired : (evaluationOf rule step met s).fired = true) :
    ∃ since, heldSince rule (s.log ++ [evaluationOf rule step met s]) = some since ∧
      rule.persistS ≤ elapsed inputs (step + 1) - elapsed inputs since := by
  have hrule : rule ∈ cfg.rules := h.sublist.subset mem_cons_self
  have hself : (evaluationOf rule step met s).rule = rule := rfl
  obtain ⟨hfilter, -⟩ := Bool.and_eq_true_iff.mp hfired
  have hmet := met_of_persist hfilter
  have hsince := @heldSince_concat_met rule s.log _ hself hmet
  have hcount := @heldCount_concat_met rule s.log _ hself hmet
  generalize (heldSince rule s.log).getD (evaluationOf rule step met s).step = since at hsince
  refine ⟨since, hsince, ?_⟩
  by_cases hpersists : 0 < rule.persistS
  · have hcounted : Counted rule (step + 1) (s.log ++ [evaluationOf rule step met s]) :=
      (h.pending rule mem_cons_self hpersists).concat_self rfl rfl
    unfold Counted at hcounted
    simp only [hsince, hcount] at hcounted
    have hreached := reached_of_persist hpersists hfilter
    rw [h.timers rule hrule hpersists] at hreached
    have hceil : rule.persistS.ceil.toNat ≤ heldCount rule s.log + 1 := by
      have hint : rule.persistS.ceil ≤ (heldCount rule s.log + 1 : Int) :=
        Rat.ceil_le_iff.mpr (by exact_mod_cast hreached)
      omega
    have hwindow := hlong rule hrule hpersists (step + 1 - rule.persistS.ceil.toNat) (by omega)
    rw [Nat.sub_add_cancel (by omega)] at hwindow
    have hbefore : elapsed inputs since ≤ elapsed inputs (step + 1 - rule.persistS.ceil.toNat) :=
      elapsed_mono (by omega)
    exact hwindow.trans (sub_le_sub_left hbefore _)
  · have hlater : elapsed inputs since ≤ elapsed inputs (step + 1) :=
      elapsed_mono (Nat.le_succ_of_le (begun_concat h.begun rfl hsince))
    exact (not_lt.mp hpersists).trans (sub_nonneg.mpr hlater)

/-- One more evaluation in the log. -/
theorem FiresWhenHeld.concat {log : List Evaluation} {e : Evaluation}
    (h : FiresWhenHeld inputs log)
    (hlast : e.fired = true → ∃ since, heldSince e.rule (log ++ [e]) = some since ∧
      e.rule.persistS ≤ elapsed inputs (e.step + 1) - elapsed inputs since) :
    FiresWhenHeld inputs (log ++ [e]) := by
  intro before e' after hsplit hfired
  rcases eq_nil_or_concat after with rfl | ⟨after, last, rfl⟩
  · obtain ⟨rfl, hlist⟩ := append_inj' hsplit rfl
    obtain rfl := head_eq_of_cons_eq hlist
    exact hlast hfired
  · have hconcat : log ++ [e] = (before ++ e' :: after) ++ [last] := by simpa using hsplit
    obtain ⟨hlog, -⟩ := append_inj' hconcat rfl
    exact h before e' after hlog hfired

/-- **The step.**  A judgement keeps the timers of the rules apart, and fires nothing too
early. -/
theorem Tracked.judge (hkeys : cfg.Distinct) (hlong : LongEnough cfg inputs)
    (h : Tracked cfg inputs step (rule :: rest) s) (hstep : step < inputs.length)
    (raises : Option PyError) (met : Bool) :
    Tracked cfg inputs step rest (judge rule step raises met s).1 where
  sublist := h.skip.sublist
  timers := h.timers.judge hkeys (h.sublist.subset mem_cons_self) step raises met
  begun other since hsince := by
    rw [judge_log] at hsince
    exact begun_concat h.begun rfl hsince
  pending other hmem hp := by
    rw [judge_log]
    exact (h.skip.pending other hmem hp).concat_of_ne (h.ne_of_mem hkeys hmem hp)
  counted other hmem hp := by
    rw [judge_log]
    by_cases heq : rule = other
    · subst heq
      exact (h.pending rule mem_cons_self hp).concat_self rfl rfl
    · exact (h.counted other hmem hp).concat_of_ne heq
  fires := by
    rw [judge_log]
    exact h.fires.concat fun hfired => h.held_of_fired hlong hstep hfired

theorem tickRules_tracked (hkeys : cfg.Distinct) (hlong : LongEnough cfg inputs)
    (hstep : step < inputs.length) (input : Substep) (rest : List Rule) (s : State)
    (h : Tracked cfg inputs step rest s) :
    Tracked cfg inputs step [] (tickRules cfg input step rest s).1 := by
  induction rest generalizing s with
  | nil => exact h
  | cons rule rest ih =>
      unfold tickRules
      split
      · exact h.done
      · exact ih s h.skip
      · rename_i met _
        have hjudged := h.judge hkeys hlong hstep (input.raises rule) met
        split
        · rename_i hjudge
          rw [hjudge] at hjudged
          exact ih _ hjudged
        · rename_i hjudge
          rw [hjudge] at hjudged
          exact hjudged.done

end Runs

/-- The rules of one sub-step. -/
theorem tickFdir_tracked {cfg : Config} {inputs : List Substep} (hkeys : cfg.Distinct)
    (hlong : LongEnough cfg inputs) {step : Nat} (hstep : step < inputs.length) (input : Substep)
    (s : State) (h : Tracked cfg inputs step cfg.rules s) :
    Tracked cfg inputs (step + 1) cfg.rules (tickFdir cfg input step s) := by
  have hnext {s' : State} (h' : Tracked cfg inputs step [] s') :
      Tracked cfg inputs (step + 1) cfg.rules s' :=
    { sublist := List.Sublist.refl _
      timers := h'.timers
      begun := fun rule since hsince => Nat.le_succ_of_le (h'.begun rule since hsince)
      pending := h'.counted
      counted := fun rule hmem hp => (h'.counted rule hmem hp).mono (Nat.le_succ _)
      fires := h'.fires }
  have hrules := tickRules_tracked hkeys hlong hstep input cfg.rules s h
  unfold tickFdir
  split
  · split
    · rename_i hend
      rw [hend] at hrules
      exact hnext { hrules with }
    · rename_i hend
      rw [hend] at hrules
      exact hnext hrules
  · exact hnext h.done

/-- The rules of a run. -/
theorem run_tracked {cfg : Config} {inputs : List Substep} (hkeys : cfg.Distinct)
    (hlong : LongEnough cfg inputs) {before after : List Substep} (hsplit : inputs = before ++ after)
    (s : State) (h : Tracked cfg inputs before.length cfg.rules s) :
    Tracked cfg inputs inputs.length cfg.rules (run cfg before.length after s) := by
  induction after generalizing before s with
  | nil =>
      rw [append_nil] at hsplit
      rw [hsplit]
      rw [hsplit] at h
      exact h
  | cons input rest ih =>
      have hstep : before.length < inputs.length := by simp [hsplit]
      have hnext := tickFdir_tracked hkeys hlong hstep input s h
      have hlength : before.length + 1 = (before ++ [input]).length := by simp
      rw [hlength] at hnext
      unfold run
      rw [hlength]
      exact ih (by simp [hsplit]) _ hnext

/-- **Persistence.**  Where the rules that persist have records of their own, and as many
sub-steps in a row as a persistence has seconds last that long, a rule fires only when its
condition has held for its persistence, and no rule counts on another's timer. -/
theorem fires_when_held (cfg : Config) (inputs : List Substep) (hkeys : cfg.Distinct)
    (hlong : LongEnough cfg inputs) :
    FiresWhenHeld inputs (run cfg 0 inputs {}).log ∧ OwnTimers cfg (run cfg 0 inputs {}) := by
  have hstart : Tracked cfg inputs 0 cfg.rules {} :=
    { sublist := List.Sublist.refl _
      timers := fun _ _ _ => rfl
      begun := fun _ _ hsince => by cases hsince
      pending := fun _ _ _ => rfl
      counted := fun _ _ _ => rfl
      fires := fun before e after hsplit => by simp at hsplit }
  have hend := @run_tracked cfg inputs hkeys hlong [] inputs rfl {} hstart
  exact ⟨hend.fires, hend.timers⟩


/-! ### A persistence of three seconds -/

theorem substepLength_nonneg {dtMaxS dtSim : Rat} (maxSubsteps : Nat) (h : 0 ≤ dtSim) :
    0 ≤ substepLength dtMaxS maxSubsteps dtSim := div_nonneg h (Nat.cast_nonneg _)

/-- The sub-steps of a tick in which every parameter has the same value. -/
def substeps (dtMaxS : Rat) (maxSubsteps : Nat) (dtSim : Rat) (h : 0 ≤ dtSim) (value : Value) :
    List Substep :=
  List.replicate (substepCount dtMaxS maxSubsteps dtSim)
    { dt := substepLength dtMaxS maxSubsteps dtSim, params := fun _ => value,
      dt_nonneg := substepLength_nonneg maxSubsteps h }

/-- A rule on the pointing error. -/
def pointingRule (limit : Nat) : Rule where
  parameter := "aocs.att_error"
  condition := "> limit"
  threshold := some (.finite false limit 0)
  action := "safe_mode_aocs"
  persistS := 3

/-- The configuration with the given rules on the pointing error. -/
def pointingConfig (limits : List Nat) : Config where
  rules := limits.map pointingRule
  paramIds := fun _ => some 0x0217

/-- A tick of two and a half seconds. -/
theorem short_nonneg : (0 : Rat) ≤ 5 / 2 := by decide +kernel

/-- Where every second is a sub-step of its own, the rule fires in the third. -/
theorem fires_when_held_pointing :
    FiresWhenHeld (substeps 1 600 3 (by decide) (.int 9))
      (run (pointingConfig [5]) 0 (substeps 1 600 3 (by decide) (.int 9)) {}).log := by
  have hlength : (substeps 1 600 3 (by decide +kernel) (.int 9)).length = 3 := by decide +kernel
  refine (fires_when_held (pointingConfig [5]) (substeps 1 600 3 (by decide) (.int 9)) ?_ ?_).1
  · unfold Config.Distinct
    decide
  · intro rule hrule _ step hstep
    obtain rfl : rule = pointingRule 5 := List.mem_singleton.mp hrule
    have hceil : (pointingRule 5).persistS.ceil.toNat = 3 := by decide
    rw [hceil, hlength] at hstep
    obtain rfl : step = 0 := by omega
    decide +kernel

/-- A tick of two and a half seconds makes three sub-steps, and a rule fires in the last of
them although its persistence is three seconds.  Two rules with the same parameter and
action reset each other's timer. -/
theorem fires_too_early :
    ¬ FiresWhenHeld (substeps 1 600 (5 / 2) short_nonneg (.int 9))
        (run (pointingConfig [5]) 0 (substeps 1 600 (5 / 2) short_nonneg (.int 9)) {}).log ∧
      ¬ OwnTimers (pointingConfig [5, 8])
        (run (pointingConfig [5, 8]) 0 (substeps 1 600 1 zero_le_one (.int 6)) {}) := by
  constructor
  · intro h
    have hlog : (run (pointingConfig [5]) 0 (substeps 1 600 (5 / 2) short_nonneg (.int 9)) {}).log =
        [⟨pointingRule 5, 0, true, false⟩, ⟨pointingRule 5, 1, true, false⟩] ++
          ⟨pointingRule 5, 2, true, true⟩ :: [] := by decide +kernel
    obtain ⟨since, hsince, hheld⟩ := h _ _ _ hlog rfl
    have hfirst : some 0 = some since := by
      rw [← hsince]
      decide
    obtain rfl := Option.some.inj hfirst
    revert hheld
    decide +kernel
  · intro h
    have hown := h (pointingRule 5) List.mem_cons_self (by decide)
    revert hown
    decide +kernel

end FdirRules
