import MissionSim.Python
import MissionSim.Runs
import Mathlib.Algebra.Order.Field.Rat

/-!
# Fault detection, cascades and recovery

The advanced fault handling of the engine.  A rule watches one parameter; when its
condition has held long enough the fault becomes active, its cascades are scheduled
with their delays, and the recovery of its group starts at the initial level.  When
the condition goes away the fault is cleared, the cascades that have not fired are
dropped and the recovery is complete.  A recovery that does not clear its fault in
time escalates to the next level until its attempts are exhausted.

All of it is armed from the nominal phase on.  One rule concerns one fault, so a tick
is described fault by fault: `FaultView` is what the engine holds about a fault, and
`tick_view` says what a tick can make of it.
-/

namespace Fdir

open Binary32 Python List

/-- `SC_PHASE_NOMINAL`. -/
def scPhaseNominal : Int := 6

/-! ### Configuration -/

/-- The condition of a rule, as its text begins. -/
inductive Condition where
  | below
  | above
  | equals
  | bitset
  | other
  deriving DecidableEq, Repr

/-- One entry of a rule's `cascades`. -/
structure Cascade where
  targetSubsystem : String
  action : String
  delayS : Rat := 0
  deriving DecidableEq

/-- A rule's `requires`: the parameter it needs and the least value of it. -/
structure Requirement where
  param : String
  min : FloatValue := .finite false 1 0
  deriving DecidableEq

structure FaultPropagationRule where
  faultId : String
  primaryParam : String
  threshold : Option FloatValue := none
  cascades : List Cascade := []
  condition : Condition := .below
  flags : List Nat := []
  persistS : Rat := 0
  recovery : String := ""
  requires : Option Requirement := none

/-- One level of a recovery group. -/
structure RecoveryAction where
  action : String := ""
  procedure : String := ""
  deriving DecidableEq

/-- The levels of a recovery group by their keys; an entry may be empty. -/
abbrev RecoveryGroup := Dict String (Option RecoveryAction)

/-- The fault model as it is configured; a fault has one rule. -/
structure Config where
  rules : List FaultPropagationRule
  distinct : (rules.map FaultPropagationRule.faultId).Nodup
  /-- `_resolve_param_name`. -/
  paramIds : String → Option Nat
  maxAttempts : Int := 3
  initialLevel : Int := 1
  levelDelays : Dict Int Rat := .empty
  recoveryActions : Dict String RecoveryGroup := .empty
  /-- The procedures the executor knows. -/
  procedures : List String := []
  /-- The cascade actions that are implemented. -/
  cascadeCallbacks : List String := []

/-! ### State -/

/-- A scheduled cascade. -/
structure PendingCascade where
  faultId : String
  targetSubsystem : String
  action : String
  due : Rat
  deriving DecidableEq

/-- `RecoveryState.state`. -/
inductive RecoveryStatus where
  | idle
  | running
  | complete
  | failed
  deriving DecidableEq, Repr

structure RecoveryState where
  faultId : String
  responseTaken : String
  timestamp : Rat
  recoveryAttempts : Int := 0
  maxAttempts : Int := 3
  lastAttemptTime : Rat := 0
  state : RecoveryStatus := .idle
  level : Int := 0
  levelStarted : Rat := 0
  execId : String := ""
  procedure : String := ""
  group : String := ""
  deriving DecidableEq

/-- The events of the fault handling. -/
inductive Event where
  | faultDetected (faultId primaryParam : String) (value : FloatValue)
  | cascadeApplied (faultId targetSubsystem action : String)
  | procedureStarted (procId execId : String)
  | levelEscalation (level : Int) (faultId action : String)
  | recoveryStarted (level : Int) (procId faultId : String) (registered : Bool)
  | recoveryNotStarted (level : Int) (procId faultId : String)
  | levelFailed (level : Int) (faultId : String)
  | recoveryExhausted (level : Int) (faultId : String)
  | recoveryComplete (level : Int) (faultId : String)
  deriving DecidableEq

/-- `event_id`. -/
def Event.eventId : Event → Nat
  | .faultDetected .. => 0x0F00
  | .cascadeApplied .. => 0x0F00
  | .procedureStarted .. => 0x0F07
  | .levelEscalation .. => 0x0F04
  | .recoveryStarted .. => 0x0F01
  | .recoveryNotStarted .. => 0x0F03
  | .levelFailed .. => 0x0F03
  | .recoveryExhausted .. => 0x0F03
  | .recoveryComplete .. => 0x0F02

/-- `severity`; the event of a started procedure has none. -/
def Event.severity : Event → Option Nat
  | .faultDetected .. => some 3
  | .cascadeApplied .. => some 2
  | .procedureStarted .. => none
  | .levelEscalation .. => some 4
  | .recoveryStarted .. => some 3
  | .recoveryNotStarted .. => some 4
  | .levelFailed .. => some 3
  | .recoveryExhausted .. => some 4
  | .recoveryComplete .. => some 1

/-- The state of the fault handling, with the phase of the last tick. -/
structure State where
  simElapsed : Rat := 0
  spacecraftPhase : Int := 6
  activeFaults : Dict String Rat := .empty
  recoveryStates : Dict String RecoveryState := .empty
  pendingCascades : List PendingCascade := []
  faultPersist : Dict String Rat := .empty
  events : List Event := []

/-- What a tick finds: its length, the phase, the parameters as the rule of each fault
reads them when its turn comes, and the cascade actions that raise. -/
structure TickInput where
  dt : Rat
  spacecraftPhase : Int
  params : String → Nat → Value
  raises : String → Bool := fun _ => false

/-! ### Detection -/

/-- `float(raw)` where a wrong type or value means there is none. -/
def floatOrNone (raw : Value) : Except PyError (Option FloatValue) :=
  match raw.toFloat with
  | .ok x => .ok (some x)
  | .error .typeError => .ok none
  | .error .valueError => .ok none
  | .error e => .error e

/-- `abs(x - y) < 0.5`. -/
def near : FloatValue → FloatValue → Bool
  | .finite n m e, .finite n' m' e' => decide (|dyadic n m e - dyadic n' m' e'| < 1 / 2)
  | _, _ => false

/-- `FaultPropagationRule.evaluate(value)`. -/
def FaultPropagationRule.evaluate (rule : FaultPropagationRule) (value : FloatValue) :
    Except PyError Bool :=
  match rule.condition with
  | .bitset =>
      match (Value.float value).toInt with
      | .ok mask => .ok (rule.flags.any fun b => decide ((mask >>> b) % 2 = 1))
      | .error .typeError => .ok false
      | .error .valueError => .ok false
      | .error e => .error e
  | .below => .ok ((rule.threshold.map value.lt).getD false)
  | .above => .ok ((rule.threshold.map fun threshold => threshold.lt value).getD false)
  | .equals => .ok ((rule.threshold.map (near value)).getD false)
  | .other => .ok false

/-- `_fault_precondition_met(rule)`. -/
def faultPreconditionMet (cfg : Config) (input : TickInput) (rule : FaultPropagationRule) :
    Except PyError Bool :=
  match rule.requires with
  | none => .ok true
  | some requirement =>
      match cfg.paramIds requirement.param with
      | none => .ok true
      | some pid =>
          match input.params rule.faultId pid with
          | .none => .ok false
          | raw => (floatOrNone raw).map fun x =>
              (x.map requirement.min.le).getD false

/-- The value of the parameter a rule watches, if it can be judged. -/
def primaryValue (cfg : Config) (input : TickInput) (rule : FaultPropagationRule) :
    Except PyError (Option FloatValue) :=
  match cfg.paramIds rule.primaryParam with
  | none => .ok none
  | some pid =>
      match input.params rule.faultId pid with
      | .none => .ok none
      | raw => floatOrNone raw

def levelKey (level : Int) : String := "level_" ++ toString level

/-- The procedure a level names, by the stem of its file. -/
def procedureId (procRef : String) : String :=
  if ".yaml".toList.isSuffixOf procRef.toList then
    String.ofList (procRef.toList.take (procRef.toList.length - 5))
  else procRef

/-- `int(x)`. -/
def intOf (x : Rat) : Int := if x < 0 then x.ceil else x.floor

/-- A recovery group, empty when it is not configured. -/
def Config.group (cfg : Config) (name : String) : RecoveryGroup :=
  (cfg.recoveryActions.get? name).getD .empty

/-- `_enter_recovery_level(rs, level, now, escalated)`. -/
def enterRecoveryLevel (cfg : Config) (rs : RecoveryState) (level : Int) (now : Rat)
    (escalated : Bool) : RecoveryState × List Event :=
  match (cfg.group rs.group).get? (levelKey level) with
  | some (some actionCfg) =>
      let procId := procedureId actionCfg.procedure
      let registered := cfg.procedures.contains procId
      let execId := procId ++ "_" ++ toString (intOf now)
      ({ rs with
          level := level
          levelStarted := now
          state := if registered then .running else .failed
          recoveryAttempts := rs.recoveryAttempts + 1
          lastAttemptTime := now
          procedure := procId
          execId := if registered then execId else "" },
        (if registered then [Event.procedureStarted procId execId] else []) ++
          (if escalated then [.levelEscalation level rs.faultId actionCfg.action] else []) ++
          [.recoveryStarted level procId rs.faultId registered] ++
          (if registered then [] else [.recoveryNotStarted level procId rs.faultId]))
  | _ => (rs, [])

/-- The record a recovery starts from. -/
def createRecoveryState (cfg : Config) (rule : FaultPropagationRule) (now : Rat) :
    RecoveryState where
  faultId := rule.faultId
  responseTaken := rule.recovery
  timestamp := now
  maxAttempts := cfg.maxAttempts
  group := rule.recovery

/-- `_start_recovery(rule, now)`. -/
def startRecovery (cfg : Config) (rule : FaultPropagationRule) (now : Rat) (s : State) : State :=
  if (cfg.group rule.recovery).items.isEmpty then s
  else
    let started := enterRecoveryLevel cfg (createRecoveryState cfg rule now) cfg.initialLevel now
      false
    { s with
      recoveryStates := s.recoveryStates.set rule.faultId started.1
      events := s.events ++ started.2 }

/-- `_complete_recovery(fault_id, now)`. -/
def completeRecovery (faultId : String) (s : State) : State :=
  match s.recoveryStates.get? faultId with
  | none => s
  | some rs =>
      if rs.state = .complete then s
      else
        { s with
          recoveryStates := s.recoveryStates.set faultId { rs with state := .complete }
          events := s.events ++ [.recoveryComplete rs.level faultId] }

/-- `clear_fault(fault_id)`. -/
def clearFault (faultId : String) (s : State) : State :=
  { s with activeFaults := s.activeFaults.erase faultId }

/-- The persistence filter: whether the condition has held long enough, and the new
record of how long it has. -/
def persist (rule : FaultPropagationRule) (dt : Rat) (present : Bool) (s : State) :
    Bool × Dict String Rat :=
  if 0 < rule.persistS then
    let acc := if present then (s.faultPersist.get? rule.faultId).getD 0 + dt else 0
    (present && !decide (acc < rule.persistS), s.faultPersist.set rule.faultId acc)
  else (present, s.faultPersist)

/-- A fault is raised. -/
def raiseFault (cfg : Config) (rule : FaultPropagationRule) (now : Rat) (value : FloatValue)
    (s : State) : State :=
  let s := { s with
    activeFaults := s.activeFaults.set rule.faultId now
    events := s.events ++ [.faultDetected rule.faultId rule.primaryParam value]
    pendingCascades := s.pendingCascades ++ rule.cascades.map fun c =>
      { faultId := rule.faultId, targetSubsystem := c.targetSubsystem, action := c.action,
        due := now + c.delayS } }
  if rule.recovery = "" then s else startRecovery cfg rule now s

/-- A fault whose condition is gone. -/
def dropFault (faultId : String) (s : State) : State :=
  completeRecovery faultId { clearFault faultId s with
    pendingCascades := s.pendingCascades.filter fun c => c.faultId ≠ faultId }

/-- What a judged rule makes of the state. -/
def judge (cfg : Config) (rule : FaultPropagationRule) (now dt : Rat) (value : FloatValue)
    (present : Bool) (s : State) : State :=
  let filtered := persist rule dt present s
  let s := { s with faultPersist := filtered.2 }
  let already := s.activeFaults.contains rule.faultId
  if filtered.1 && !already then raiseFault cfg rule now value s
  else if !filtered.1 && already then dropFault rule.faultId s
  else s

/-- One rule of `_tick_fault_detection`. -/
def tickRule (cfg : Config) (input : TickInput) (now : Rat) (rule : FaultPropagationRule)
    (s : State) : Except PyError State :=
  match faultPreconditionMet cfg input rule with
  | .error e => .error e
  | .ok false =>
      .ok { clearFault rule.faultId s with faultPersist := s.faultPersist.erase rule.faultId }
  | .ok true =>
      match primaryValue cfg input rule with
      | .error e => .error e
      | .ok none => .ok s
      | .ok (some value) => (rule.evaluate value).map fun present =>
          judge cfg rule now input.dt value present s

/-- `_tick_fault_detection(dt, now)`; an exception ends it, and the tick. -/
def tickFaultDetection (cfg : Config) (input : TickInput) (now : Rat) :
    List FaultPropagationRule → State → State × Option PyError
  | [], s => (s, none)
  | rule :: rest, s =>
      match tickRule cfg input now rule s with
      | .ok s' => tickFaultDetection cfg input now rest s'
      | .error e => (s, some e)

/-! ### Cascades and recovery -/

/-- The key of a cascade's implementation. -/
def PendingCascade.key (c : PendingCascade) : String := c.targetSubsystem ++ ":" ++ c.action

/-- The cascades whose implementation is called. -/
def appliedCascades (cfg : Config) (now : Rat) (s : State) : List PendingCascade :=
  (s.pendingCascades.filter fun c => c.due ≤ now).filter fun c =>
    cfg.cascadeCallbacks.contains c.key

/-- `_tick_pending_cascades(now)`. -/
def tickPendingCascades (cfg : Config) (input : TickInput) (now : Rat) (s : State) : State :=
  { s with
    pendingCascades := s.pendingCascades.filter fun c => now < c.due
    events := s.events ++ ((appliedCascades cfg now s).filter fun c => !input.raises c.key).map
      fun c => .cascadeApplied c.faultId c.targetSubsystem c.action }

/-- One record of `_tick_recovery`. -/
def tickRecoveryState (cfg : Config) (now : Rat) (active : Bool) (faultId : String)
    (rs : RecoveryState) : RecoveryState × List Event :=
  if rs.state = .complete ∨ rs.state = .failed then (rs, [])
  else if !active then (rs, [])
  else
    let delay := (cfg.levelDelays.get? rs.level).getD 0
    if delay ≤ 0 ∨ now - rs.levelStarted < delay then (rs, [])
    else if (cfg.group rs.group).contains (levelKey (rs.level + 1)) ∧
        rs.recoveryAttempts < rs.maxAttempts then
      let entered := enterRecoveryLevel cfg rs (rs.level + 1) now true
      (entered.1, .levelFailed rs.level faultId :: entered.2)
    else
      ({ rs with state := .failed }, [.recoveryExhausted rs.level faultId])

/-- `_tick_recovery(now)`. -/
def tickRecovery (cfg : Config) (now : Rat) (s : State) : State :=
  let ticked := s.recoveryStates.mapItems fun faultId rs =>
    tickRecoveryState cfg now (s.activeFaults.contains faultId) faultId rs
  { s with
    recoveryStates := ticked.mapItems fun _ r => r.1
    events := s.events ++ ticked.values.flatMap Prod.snd }

/-- The clock of the fault handling. -/
def clock (input : TickInput) (s : State) : State :=
  { s with
    simElapsed := s.simElapsed + input.dt
    spacecraftPhase := input.spacecraftPhase }

/-- Detection as an armed tick runs it. -/
def detect (cfg : Config) (input : TickInput) (s : State) : State × Option PyError :=
  tickFaultDetection cfg input (s.simElapsed + input.dt) cfg.rules (clock input s)

/-- `_tick_fdir_advanced(dt)`. -/
def tick (cfg : Config) (s : State) (input : TickInput) : State :=
  let now := s.simElapsed + input.dt
  if scPhaseNominal ≤ input.spacecraftPhase then
    match detect cfg input s with
    | (s, none) => tickRecovery cfg now (tickPendingCascades cfg input now s)
    | (s, some _) => s
  else if s.activeFaults.items.isEmpty ∧ s.pendingCascades.isEmpty then clock input s
  else
    { clock input s with
      activeFaults := .empty, pendingCascades := [], faultPersist := .empty }

/-- The cascades a tick applies. -/
def appliedAt (cfg : Config) (s : State) (input : TickInput) : List PendingCascade :=
  if scPhaseNominal ≤ input.spacecraftPhase then
    match detect cfg input s with
    | (s', none) => appliedCascades cfg (s.simElapsed + input.dt) s'
    | (_, some _) => []
  else []

/-! ### Fault by fault -/

/-- What the engine holds about one fault. -/
structure FaultView where
  active : Bool
  pending : List PendingCascade
  recovery : Option RecoveryState

def State.view (s : State) (faultId : String) : FaultView where
  active := s.activeFaults.contains faultId
  pending := s.pendingCascades.filter fun c => c.faultId = faultId
  recovery := s.recoveryStates.get? faultId

/-- The record of a recovery that has just started, if the rule has one. -/
def startedRecovery (cfg : Config) (rule : FaultPropagationRule) (now : Rat)
    (before : Option RecoveryState) : Option RecoveryState :=
  if rule.recovery = "" ∨ (cfg.group rule.recovery).items.isEmpty then before
  else some (enterRecoveryLevel cfg (createRecoveryState cfg rule now) cfg.initialLevel now
    false).1

/-- What one evaluation of a rule can make of its fault. -/
inductive RuleEffect (cfg : Config) (input : TickInput) (now : Rat) (rule : FaultPropagationRule)
    (v v' : FaultView) : Prop
  /-- The precondition is not met: the fault goes, nothing else does. -/
  | unmet (hmet : faultPreconditionMet cfg input rule = .ok false) (hactive : v'.active = false)
      (hpending : v'.pending = v.pending) (hrecovery : v'.recovery = v.recovery)
  /-- Nothing is known, or the fault stays as it is. -/
  | unchanged (hsame : v' = v)
  /-- The fault is raised. -/
  | raised (hnew : v.active = false) (hactive : v'.active = true)
      (hpending : ∃ scheduled, v'.pending = v.pending ++ scheduled)
      (hrecovery : v'.recovery = startedRecovery cfg rule now v.recovery)
  /-- Its condition is gone. -/
  | gone (hactive : v'.active = false) (hpending : v'.pending = [])
      (hrecovery : v'.recovery = v.recovery.map fun rs => { rs with state := .complete })

theorem contains_set (d : Dict String Rat) (key other : String) (value : Rat) :
    (d.set key value).contains other = (decide (other = key) || d.contains other) := by
  unfold Dict.contains
  by_cases heq : other = key
  · simp [heq]
  · simp [heq, Dict.get?_set_ne d heq]

theorem contains_erase (d : Dict String Rat) (key other : String) :
    (d.erase key).contains other = (!decide (other = key) && d.contains other) := by
  unfold Dict.contains
  rw [Dict.get?_erase]
  by_cases heq : other = key <;> simp [heq]

open State

theorem clearFault_view (faultId other : String) (s : State) :
    (clearFault faultId s).view other =
      { s.view other with active := !decide (other = faultId) && (s.view other).active } := by
  simp [view, clearFault, contains_erase]

theorem completeRecovery_view (faultId other : String) (s : State) :
    (completeRecovery faultId s).view other =
      { s.view other with
        recovery := if other = faultId then
          (s.view other).recovery.map fun rs => { rs with state := .complete }
        else (s.view other).recovery } := by
  unfold completeRecovery
  by_cases heq : other = faultId
  · subst heq
    cases hget : s.recoveryStates.get? other with
    | none => simp [view, hget]
    | some rs =>
        by_cases hdone : rs.state = .complete
        · have hsame : ({ rs with state := .complete } : RecoveryState) = rs := by rw [← hdone]
          simp [view, hget, hdone, hsame]
        · simp [view, hget, hdone]
  · cases hget : s.recoveryStates.get? faultId with
    | none => simp [heq]
    | some rs =>
        by_cases hdone : rs.state = .complete
        · simp [hdone, heq]
        · simp [view, hdone, heq, Dict.get?_set_ne s.recoveryStates heq]

theorem dropFault_view (faultId other : String) (s : State) :
    (dropFault faultId s).view other =
      if other = faultId then
        { active := false, pending := [],
          recovery := (s.view other).recovery.map fun rs => { rs with state := .complete } }
      else s.view other := by
  unfold dropFault
  rw [completeRecovery_view]
  by_cases heq : other = faultId
  · simp [view, clearFault, contains_erase, heq]
  · have hkeep : (s.pendingCascades.filter fun c => !decide (c.faultId = faultId)).filter
        (fun c => decide (c.faultId = other)) =
          s.pendingCascades.filter fun c => decide (c.faultId = other) := by
      rw [filter_filter]
      refine filter_congr fun c _ => ?_
      by_cases hother : c.faultId = other
      · simp [hother, heq]
      · simp [hother]
    rw [if_neg heq, if_neg heq]
    simp only [view, clearFault, contains_erase, heq, decide_false, Bool.not_false,
      Bool.true_and, ne_eq, decide_not, hkeep]

variable (cfg : Config)

theorem startRecovery_view (rule : FaultPropagationRule) (now : Rat) (other : String) (s : State)
    (hnone : rule.recovery ≠ "") :
    (startRecovery cfg rule now s).view other =
      { s.view other with
        recovery := if other = rule.faultId then
          startedRecovery cfg rule now (s.view other).recovery
        else (s.view other).recovery } := by
  unfold startRecovery startedRecovery
  by_cases hempty : (cfg.group rule.recovery).items.isEmpty = true
  · simp [hempty]
  · by_cases heq : other = rule.faultId
    · simp [hempty, hnone, heq, view]
    · simp [hempty, heq, view, Dict.get?_set_ne s.recoveryStates heq]

/-- Raising a fault concerns that fault only. -/
theorem raiseFault_view (rule : FaultPropagationRule) (now : Rat) (value : FloatValue)
    (other : String) (s : State) :
    (raiseFault cfg rule now value s).view other =
      if other = rule.faultId then
        { active := true
          pending := (s.view other).pending ++ rule.cascades.map fun c =>
            { faultId := rule.faultId, targetSubsystem := c.targetSubsystem, action := c.action,
              due := now + c.delayS }
          recovery := startedRecovery cfg rule now (s.view other).recovery }
      else s.view other := by
  unfold raiseFault
  by_cases hnone : rule.recovery = ""
  · by_cases heq : other = rule.faultId
    · simp [hnone, startedRecovery, view, contains_set, heq, filter_map, Function.comp_def]
    · simp [hnone, view, contains_set, heq, Ne.symm heq, filter_map, Function.comp_def]
  · simp only [hnone, if_false]
    rw [startRecovery_view _ _ _ _ _ hnone]
    by_cases heq : other = rule.faultId
    · simp [view, contains_set, heq, filter_map, Function.comp_def]
    · simp [view, contains_set, heq, Ne.symm heq, filter_map, Function.comp_def]

/-- A judged rule raises its fault, drops it or leaves it. -/
theorem judge_cases (rule : FaultPropagationRule) (now dt : Rat) (value : FloatValue)
    (present : Bool) (s : State) :
    ∃ s₁ : State, (∀ faultId, s₁.view faultId = s.view faultId) ∧
      ((s.activeFaults.contains rule.faultId = false ∧
          judge cfg rule now dt value present s = raiseFault cfg rule now value s₁) ∨
        judge cfg rule now dt value present s = dropFault rule.faultId s₁ ∨
        judge cfg rule now dt value present s = s₁) := by
  refine ⟨{ s with faultPersist := (persist rule dt present s).2 }, fun _ => rfl, ?_⟩
  unfold judge
  simp only
  split_ifs with hraise hdrop
  · left
    have hnew := (Bool.and_eq_true_iff.mp hraise).2
    exact ⟨by simpa using hnew, rfl⟩
  · exact .inr (.inl rfl)
  · exact .inr (.inr rfl)

variable {rule : FaultPropagationRule}

/-- What the evaluation of a rule comes to: without its precondition the fault is cleared; nothing
is known of its parameter; or its condition is judged. -/
theorem tickRule_cases {cfg : Config} {input : TickInput} {now : Rat} {s s' : State}
    (h : tickRule cfg input now rule s = .ok s') :
    (faultPreconditionMet cfg input rule = .ok false ∧
      s' = { clearFault rule.faultId s with faultPersist := s.faultPersist.erase rule.faultId }) ∨
    s' = s ∨ ∃ value present, s' = judge cfg rule now input.dt value present s := by
  unfold tickRule at h
  split at h
  · cases h
  · rename_i hmet
    exact .inl ⟨hmet, (Except.ok.inj h).symm⟩
  · split at h
    · cases h
    · exact .inr (.inl (Except.ok.inj h).symm)
    · rename_i value _
      cases hpresent : rule.evaluate value with
      | error e => rw [hpresent] at h; cases h
      | ok present =>
          rw [hpresent] at h
          exact .inr (.inr ⟨value, present, (Except.ok.inj h).symm⟩)

/-- **One rule, one fault.**  The evaluation of a rule leaves every other fault alone. -/
theorem tickRule_other {cfg : Config} {input : TickInput} {now : Rat} {s s' : State}
    (h : tickRule cfg input now rule s = .ok s') {other : String} (hne : other ≠ rule.faultId) :
    s'.view other = s.view other := by
  rcases tickRule_cases h with ⟨-, rfl⟩ | rfl | ⟨value, present, rfl⟩
  · show (clearFault rule.faultId s).view other = s.view other
    simp [clearFault_view, hne]
  · rfl
  · obtain ⟨s₁, hview, hcases⟩ := judge_cases cfg rule now input.dt value present s
    rcases hcases with ⟨_, hraise⟩ | hdrop | hkeep
    · rw [hraise, raiseFault_view, if_neg hne, hview]
    · rw [hdrop, dropFault_view, if_neg hne, hview]
    · rw [hkeep, hview]

/-- What it makes of its own fault. -/
theorem tickRule_own {cfg : Config} {input : TickInput} {now : Rat} {s s' : State}
    (h : tickRule cfg input now rule s = .ok s') :
    RuleEffect cfg input now rule (s.view rule.faultId) (s'.view rule.faultId) := by
  rcases tickRule_cases h with ⟨hmet, rfl⟩ | rfl | ⟨value, present, rfl⟩
  · refine .unmet hmet ?_ rfl rfl
    show ((clearFault rule.faultId s).view rule.faultId).active = false
    simp [clearFault_view]
  · exact .unchanged rfl
  · obtain ⟨s₁, hview, hcases⟩ := judge_cases cfg rule now input.dt value present s
    rcases hcases with ⟨hnew, hraise⟩ | hdrop | hkeep
    · rw [hraise, raiseFault_view, if_pos rfl, hview]
      exact .raised hnew rfl ⟨_, rfl⟩ rfl
    · rw [hdrop, dropFault_view, if_pos rfl, hview]
      exact .gone rfl rfl rfl
    · rw [hkeep, hview]
      exact .unchanged rfl

/-- **Detection, fault by fault.**  A fault is as it was, or its rule was evaluated once. -/
theorem tickFaultDetection_view (input : TickInput) (now : Rat) (faultId : String) :
    ∀ (rules : List FaultPropagationRule),
      (rules.map FaultPropagationRule.faultId).Nodup → ∀ s : State,
      (tickFaultDetection cfg input now rules s).1.view faultId = s.view faultId ∨
        ∃ rule ∈ rules, rule.faultId = faultId ∧
          RuleEffect cfg input now rule (s.view faultId)
            ((tickFaultDetection cfg input now rules s).1.view faultId) := by
  intro rules
  induction rules with
  | nil => intro _ s; exact .inl rfl
  | cons rule rest ih =>
      intro hdistinct s
      obtain ⟨hfresh, hrest⟩ := nodup_cons.mp hdistinct
      unfold tickFaultDetection
      cases hrule : tickRule cfg input now rule s with
      | error e => exact .inl rfl
      | ok s' =>
          by_cases heq : faultId = rule.faultId
          · subst heq
            have hown := tickRule_own hrule
            rcases ih hrest s' with hsame | ⟨again, hmem, hid, _⟩
            · right
              refine ⟨rule, mem_cons_self, rfl, ?_⟩
              rw [hsame]
              exact hown
            · exact absurd (hid ▸ mem_map_of_mem hmem) hfresh
          · have hother := tickRule_other hrule heq
            rcases ih hrest s' with hsame | ⟨later, hmem, hid, heffect⟩
            · exact .inl (hsame.trans hother)
            · right
              refine ⟨later, mem_cons_of_mem rule hmem, hid, ?_⟩
              rw [← hother]
              exact heffect

/-- What detection can have made of a fault. -/
def Detected (cfg : Config) (input : TickInput) (now : Rat) (faultId : String)
    (v v' : FaultView) : Prop :=
  v' = v ∨ ∃ rule ∈ cfg.rules, rule.faultId = faultId ∧ RuleEffect cfg input now rule v v'

theorem detect_view (input : TickInput) (s : State) (faultId : String) :
    Detected cfg input (s.simElapsed + input.dt) faultId (s.view faultId)
      ((detect cfg input s).1.view faultId) :=
  tickFaultDetection_view cfg input (s.simElapsed + input.dt) faultId cfg.rules cfg.distinct
    (clock input s)

theorem completeRecovery_phase (faultId : String) (s : State) :
    (completeRecovery faultId s).spacecraftPhase = s.spacecraftPhase := by
  unfold completeRecovery
  split
  · rfl
  · split <;> rfl

theorem startRecovery_phase (rule : FaultPropagationRule) (now : Rat) (s : State) :
    (startRecovery cfg rule now s).spacecraftPhase = s.spacecraftPhase := by
  unfold startRecovery
  split <;> rfl

theorem judge_phase (rule : FaultPropagationRule) (now dt : Rat) (value : FloatValue)
    (present : Bool) (s : State) :
    (judge cfg rule now dt value present s).spacecraftPhase = s.spacecraftPhase := by
  unfold judge
  simp only
  split_ifs
  · unfold raiseFault
    split
    · rfl
    · exact startRecovery_phase cfg rule now _
  · exact completeRecovery_phase rule.faultId _
  · rfl

theorem tickRule_phase {cfg : Config} {input : TickInput} {now : Rat} {s s' : State}
    (h : tickRule cfg input now rule s = .ok s') : s'.spacecraftPhase = s.spacecraftPhase := by
  rcases tickRule_cases h with ⟨-, rfl⟩ | rfl | ⟨value, present, rfl⟩
  · rfl
  · rfl
  · exact judge_phase cfg rule now input.dt value present s

theorem tickFaultDetection_phase (input : TickInput) (now : Rat) (rules : List FaultPropagationRule)
    (s : State) :
    (tickFaultDetection cfg input now rules s).1.spacecraftPhase = s.spacecraftPhase := by
  induction rules generalizing s with
  | nil => rfl
  | cons rule rest ih =>
      unfold tickFaultDetection
      cases hrule : tickRule cfg input now rule s with
      | error e => rfl
      | ok s' => exact (ih s').trans (tickRule_phase hrule)

/-- The phase after a tick is the phase it found. -/
theorem tick_phase (s : State) (input : TickInput) :
    (tick cfg s input).spacecraftPhase = input.spacecraftPhase := by
  have hdetect : (detect cfg input s).1.spacecraftPhase = input.spacecraftPhase :=
    tickFaultDetection_phase cfg input _ cfg.rules (clock input s)
  unfold tick
  split
  · split
    · rename_i s' heq
      rw [heq] at hdetect
      exact hdetect
    · rename_i s' e heq
      rw [heq] at hdetect
      exact hdetect
  · split <;> rfl

theorem tickPendingCascades_view (input : TickInput) (now : Rat) (s : State) (faultId : String) :
    (tickPendingCascades cfg input now s).view faultId =
      { s.view faultId with pending := (s.view faultId).pending.filter fun c => now < c.due } := by
  simp only [view, tickPendingCascades, FaultView.mk.injEq, true_and, and_true]
  rw [filter_filter, filter_filter]
  exact filter_congr fun c _ => Bool.and_comm _ _

theorem tickRecovery_view (now : Rat) (s : State) (faultId : String) :
    (tickRecovery cfg now s).view faultId =
      { s.view faultId with
        recovery := (s.view faultId).recovery.map fun rs =>
          (tickRecoveryState cfg now (s.view faultId).active faultId rs).1 } := by
  simp [view, tickRecovery, Dict.get?_mapItems, Function.comp_def]

/-- **A tick, fault by fault.**  Out of the nominal phase the fault and its cascades go.  In
it the rules are evaluated; unless one raises, the cascades that are due leave and the
recovery advances. -/
theorem tick_view (s : State) (input : TickInput) (faultId : String) :
    (input.spacecraftPhase < scPhaseNominal ∧ (tick cfg s input).view faultId =
        { s.view faultId with active := false, pending := [] }) ∨
      (scPhaseNominal ≤ input.spacecraftPhase ∧
        ((tick cfg s input).view faultId = (detect cfg input s).1.view faultId ∨
          (tick cfg s input).view faultId =
            { active := ((detect cfg input s).1.view faultId).active
              pending := ((detect cfg input s).1.view faultId).pending.filter
                fun c => s.simElapsed + input.dt < c.due
              recovery := ((detect cfg input s).1.view faultId).recovery.map fun rs =>
                (tickRecoveryState cfg (s.simElapsed + input.dt)
                  ((detect cfg input s).1.view faultId).active faultId rs).1 })) := by
  by_cases harmed : scPhaseNominal ≤ input.spacecraftPhase
  · right
    refine ⟨harmed, ?_⟩
    unfold tick
    simp only [harmed, if_true]
    split
    · rename_i s' hdetect
      right
      rw [tickRecovery_view, tickPendingCascades_view, hdetect]
    · rename_i s' e hdetect
      left
      rw [hdetect]
  · left
    refine ⟨lt_of_not_ge harmed, ?_⟩
    unfold tick
    simp only [harmed, if_false]
    split
    · rename_i hnone
      have hfaults : s.activeFaults.items = [] := isEmpty_iff.mp hnone.1
      have hpending : s.pendingCascades = [] := isEmpty_iff.mp hnone.2
      simp [view, clock, Dict.contains, Dict.get?, hfaults, hpending]
    · simp [view, clock, Dict.contains]

end Fdir
