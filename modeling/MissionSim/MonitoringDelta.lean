import MissionSim.Monitoring

/-!
# The baselines of delta checks

A delta check compares a value with the one of the evaluation before.  `Baselines` tells, from
the operations of a run alone, which value that is: the one taken last while the definition
was enabled and its source powered, and none after anything that interrupts the evaluation.
-/

namespace Spacecraft

open Octets Binary32 Python Effects TmBuilder
open Obcp (Event)

variable {M : Type} {sub : Subsystems M}

-- unfolding the range check of a field would count down from its bound
attribute [local irreducible] packUnsigned

/-! ### What an operation does to the definitions -/

/-- Whether monitoring is enabled, and the definitions. -/
def Engine.monitoring (e : Engine M) : Bool × Dict Nat MonitorDefinition :=
  (e.dispatcher.s12Enabled, e.dispatcher.s12Definitions)

/-- The definition a request enables or disables. -/
def switched (subtype : Nat) (defn : MonitorDefinition) : MonitorDefinition :=
  { defn with
    enabled := decide (subtype = 3)
    lastValue := if subtype = 4 then none else defn.lastValue }

/-- The effect of a request. -/
def requested (subtype : Nat) (data : Bytes) (now : Bool × Dict Nat MonitorDefinition) :
    Bool × Dict Nat MonitorDefinition :=
  if subtype = 1 then (true, now.2)
  else if subtype = 2 then (false, now.2)
  else if (subtype = 3 ∨ subtype = 4) ∧ 2 ≤ data.length then
    match now.2.get? (unpackU16 data) with
    | none => now
    | some defn => (now.1, now.2.set (unpackU16 data) (switched subtype defn))
  else if subtype = 6 ∧ 11 ≤ data.length then
    (now.1, now.2.set (unpackU16 data) (monitorDefinition data))
  else if subtype = 7 ∧ 2 ≤ data.length then (now.1, now.2.erase (unpackU16 data))
  else now

/-- What the monitoring reads and writes. -/
def Engine.watched (e : Engine M) :
    (Bool × Dict Nat MonitorDefinition) × List Nat × Dict Nat Violation × List Notice :=
  (e.monitoring, e.s12ViolationActive, e.s12ViolationRecords, e.log)

theorem report_unwatched (service subtype : Nat) (data : Bytes) (cuc : Int) :
    Keeps (Unchanged (Engine.watched (M := M))) (report service subtype data cuc) :=
  keeps_map (keeps_zoom fun _ _ => rfl)

theorem generateS1ExecFail_unwatched (errorCode : Nat) (reason : String) :
    Keeps (Unchanged (Engine.watched (M := M))) (generateS1ExecFail errorCode reason) :=
  keeps_bind (keeps_modify fun _ => rfl) fun _ =>
    keeps_bind keeps_get fun _ => report_unwatched _ _ _ _

theorem monitorReport_unwatched : Keeps (Unchanged (Engine.watched (M := M))) (do
    let e ← get
    let count ← fromExcept (packUnsigned 2 e.dispatcher.s12Definitions.size)
    let records ← fromExcept (e.dispatcher.s12Definitions.items.mapM monitorRecord)
    report 12 13 (count ++ records.flatten)) :=
  keeps_bind keeps_get fun _ => keeps_bind (keeps_fromExcept _) fun _ =>
    keeps_bind (keeps_fromExcept _) fun _ => report_unwatched _ _ _ _

/-- A request changes the definitions and leaves the reports of transitions alone. -/
theorem handleS12_watched (subtype : Nat) (data : Bytes) :
    Keeps (fun e e' : Engine M => e'.watched = (requested subtype data e.monitoring, e.watched.2))
      (handleS12 subtype data) := by
  refine keeps_ite (fun h1 e => ?_) fun h1 => keeps_ite (fun h2 e => ?_) fun h2 =>
    keeps_ite (fun h34 e => ?_) fun h34 => keeps_ite (fun h6 e => ?_) fun h6 =>
    keeps_ite (fun h7 e => ?_) fun h7 => keeps_ite (fun h12 e => ?_) fun h12 e => ?_
  · rw [requested, if_pos h1]
    rfl
  · rw [requested, if_neg h1, if_pos h2]
    rfl
  · rw [wp_bind, wp_get]
    cases hdefn : e.monitoring.2.get? (unpackU16 data) with
    | none =>
        have hdefn' : e.dispatcher.s12Definitions.get? (unpackU16 data) = none := hdefn
        rw [hdefn']
        have hrequest : requested subtype data e.monitoring = e.monitoring := by
          rw [requested, if_neg h1, if_neg h2, if_pos h34, hdefn]
        rw [hrequest]
        exact generateS1ExecFail_unwatched 0x0007 _ e
    | some defn =>
        have hdefn' : e.dispatcher.s12Definitions.get? (unpackU16 data) = some defn := hdefn
        rw [hdefn', requested, if_neg h1, if_neg h2, if_pos h34, hdefn]
        rfl
  · rw [requested, if_neg h1, if_neg h2, if_neg h34, if_pos h6]
    rfl
  · rw [requested, if_neg h1, if_neg h2, if_neg h34, if_neg h6, if_pos h7]
    rfl
  · have hrequest : requested subtype data e.monitoring = e.monitoring := by
      rw [requested, if_neg h1, if_neg h2, if_neg h34, if_neg h6, if_neg h7]
    rw [hrequest]
    exact monitorReport_unwatched e
  · rw [requested, if_neg h1, if_neg h2, if_neg h34, if_neg h6, if_neg h7]
    rfl

theorem emitS12Transition_held (v : Violation) (entered : Bool) :
    Keeps (Unchanged (Engine.held (M := M))) (emitS12Transition v entered) := by
  refine keeps_bind (keeps_tryCatch (keeps_map (keeps_zoom fun _ _ => rfl)) fun _ =>
    keeps_pure _) fun pkt => ?_
  cases pkt with
  | none => exact keeps_pure _
  | some pkt => exact keeps_bind (keeps_modify fun _ => rfl) fun _ => enqueueTm_held pkt

theorem emitEvent_held (depth : Nat) (ev : Event) :
    Keeps (Unchanged (Engine.held (M := M))) (emitEvent sub depth ev) :=
  (emitEvent_autonomous depth ev).mono fun _ _ h => h.held

theorem enterViolation_held (depth : Nat) (v : Violation) :
    Keeps (Unchanged (Engine.held (M := M))) (enterViolation sub depth v) := by
  refine keeps_bind keeps_get fun e => ?_
  refine keeps_ite (fun _ => keeps_pure _) fun _ => ?_
  refine keeps_ite (fun _ => keeps_pure _) fun _ => ?_
  refine keeps_bind (emitS12Transition_held v true) fun _ => ?_
  exact keeps_bind (keeps_fromExcept _) fun _ => emitEvent_held depth _

/-- What leaves alone what commands leave alone leaves the definitions alone. -/
theorem monitoring_of_held {e e' : Engine M} (h : Unchanged Engine.held e e') :
    Unchanged Engine.monitoring e e' :=
  congrArg (fun t : Dict Nat Value × Int × Memory.MemoryImage × TcScheduler.Scheduler ×
    Obcp.Manager × Dispatcher × Bool × List Nat × Dict Nat Violation =>
      (t.2.2.2.2.2.1.s12Enabled, t.2.2.2.2.2.1.s12Definitions)) h

theorem reportCleared_held (record : Option Violation) :
    Keeps (Unchanged (Engine.held (M := M))) (reportCleared record) := by
  cases record with
  | none => exact keeps_pure _
  | some record => exact emitS12Transition_held record false

theorem clearViolation_monitoring (depth : Nat) (monId : Nat) :
    Keeps (Unchanged (Engine.monitoring (M := M))) (clearViolation sub depth monId) := by
  intro e
  have herased : Unchanged Engine.monitoring e
      { e with s12ViolationRecords := e.s12ViolationRecords.erase monId } := rfl
  unfold clearViolation
  rw [wp_bind, wp_get, wp_bind, wp_set]
  refine Keeps.after ?_ herased
  exact (keeps_bind (reportCleared_held _) fun _ => emitEvent_held depth _).mono
    fun _ _ => monitoring_of_held

/-- The definitions after an evaluation. -/
def evaluated (sub : Subsystems M) (e : Engine M) : Bool × Dict Nat MonitorDefinition :=
  if e.dispatcher.s12Enabled then
    (true, checkedDefinitions e.params (paramSourcePowered sub e.models)
      e.dispatcher.s12Definitions)
  else e.monitoring

theorem checkMonitoring_monitoring :
    Keeps (fun e e' => e'.monitoring = evaluated sub e) (checkMonitoring sub) := by
  intro e
  unfold checkMonitoring
  rw [wp_bind, wp_get]
  by_cases h : e.dispatcher.s12Enabled = true
  · have hon : evaluated sub e = (e.dispatcher.s12Enabled, checkedDefinitions e.params
        (paramSourcePowered sub e.models) e.dispatcher.s12Definitions) := by
      rw [evaluated, if_pos h, h]
    rw [if_pos h, wp_bind]
    show wp (fromExcept (findings sub e)) _ _ _
    rw [wp_fromExcept]
    exact ⟨fun _ _ => hon.symm, fun _ _ => hon.symm⟩
  · rw [if_neg h]
    show e.monitoring = evaluated sub e
    rw [evaluated, if_neg h]

/-- A sub-step evaluates the definitions and changes them in no other way. -/
theorem tickS12Monitoring_monitoring (depth : Nat) :
    Keeps (fun e e' => e'.monitoring = evaluated sub e) (tickS12Monitoring sub depth) := by
  intro e
  unfold tickS12Monitoring
  rw [wp_bind]
  refine wp_mono (checkMonitoring_monitoring e) (fun violations e' he' => ?_) fun _ _ h => h
  have hrest : Keeps (Unchanged Engine.monitoring) (do
      modify fun e : Engine M =>
        { e with s12ViolationRecords := recorded e.s12ViolationRecords violations }
      violations.forM (enterViolation sub depth)
      let e ← get
      (e.s12ViolationActive.filter fun monId => monId ∉ monitorsOf violations).forM
        (clearViolation sub depth)
      modify fun e => { e with s12ViolationActive := monitorsOf violations } : Program M Unit) := by
    refine keeps_bind (keeps_modify fun _ => rfl) fun _ => ?_
    refine keeps_bind (keeps_forM _ fun v _ => ?_) fun _ => ?_
    · exact (enterViolation_held depth v).mono fun _ _ => monitoring_of_held
    · refine keeps_bind keeps_get fun _ => ?_
      refine keeps_bind (keeps_forM _ fun monId _ => clearViolation_monitoring depth monId) fun _ => ?_
      exact keeps_modify fun _ => rfl
  exact wp_mono (hrest e') (fun _ _ h => h.trans he') fun _ _ h => h.trans he'


/-! ### Baselines -/

/-- The monitors an evaluation comes to. -/
def reached (params : Dict Nat Value) (powered : Nat → Bool) :
    List (Nat × MonitorDefinition) → List Nat
  | [] => []
  | item :: rest =>
      match (checkDefinition params powered item.1 item.2).2 with
      | .error _ => [item.1]
      | .ok _ => item.1 :: reached params powered rest

theorem lookup_checkItems (params : Dict Nat Value) (powered : Nat → Bool)
    {items : List (Nat × MonitorDefinition)} (monId : Nat) :
    (checkItems params powered items).1.lookup monId =
      (items.lookup monId).map fun defn =>
        if monId ∈ reached params powered items then
          (checkDefinition params powered monId defn).1
        else defn := by
  induction items with
  | nil => rfl
  | cons item rest ih =>
      obtain ⟨first, defn⟩ := item
      unfold checkItems reached
      cases hcheck : checkDefinition params powered first defn with
      | mk defn' result =>
          by_cases heq : monId = first
          · subst heq
            cases result <;> simp [hcheck]
          · have hkey : (monId == first) = false := by simpa using heq
            cases result with
            | error e =>
                simp only [List.lookup_cons, hkey, List.mem_singleton, heq, if_false]
                exact Option.map_id'.symm
            | ok found => simp only [List.lookup_cons, hkey, ih, List.mem_cons, heq, false_or]

/-- The value each monitor's delta check is to be compared with. -/
abbrev Baselines := Nat → Option Value

/-- Whether a request ends the evaluation of a monitor: it disables everything, or disables,
redefines or deletes this definition. -/
def interrupts (subtype : Nat) (data : Bytes) (monId : Nat) : Prop :=
  subtype = 2 ∨ monId = unpackU16 data ∧
    (subtype = 4 ∧ 2 ≤ data.length ∨ subtype = 6 ∧ 11 ≤ data.length ∨
      subtype = 7 ∧ 2 ≤ data.length)

instance (subtype : Nat) (data : Bytes) (monId : Nat) : Decidable (interrupts subtype data monId) :=
  inferInstanceAs (Decidable (_ ∨ _))

/-- The parameter's value, where there is one. -/
def present (params : Dict Nat Value) (paramId : Nat) : Option Value :=
  match params.get? paramId with
  | none | some .none => none
  | some value => some value

/-- The baseline an evaluation leaves. -/
def sampled (params : Dict Nat Value) (powered : Nat → Bool) (defn : MonitorDefinition)
    (baseline : Option Value) : Option Value :=
  if defn.enabled then
    if powered defn.paramId then (present params defn.paramId).or baseline else none
  else baseline

/-- The baselines after an operation. -/
def Baselines.next (sub : Subsystems M) (e : Engine M) (b : Baselines) :
    MonitoringOp M → Baselines
  | .request subtype data => fun monId =>
      if interrupts subtype data monId then none else b monId
  | .situation _ _ _ => b
  | .tick => fun monId =>
      let powered := paramSourcePowered sub e.models
      match e.dispatcher.s12Definitions.get? monId with
      | some defn =>
          if e.dispatcher.s12Enabled ∧
              monId ∈ reached e.params powered e.dispatcher.s12Definitions.items then
            sampled e.params powered defn (b monId)
          else b monId
      | none => b monId

/-- The engine and the baselines after an operation. -/
def track (sub : Subsystems M) (depth : Nat) (s : Engine M × Baselines) (op : MonitoringOp M) :
    Engine M × Baselines := (monitor sub depth s.1 op, s.2.next sub s.1 op)

/-- The baselines after a run. -/
def baselines (sub : Subsystems M) (depth : Nat) (e : Engine M) (ops : List (MonitoringOp M)) :
    Baselines := (Runs.after (track sub depth) (e, fun _ => none) ops).2

/-- Every delta definition holds the baseline that is due. -/
def Compared (s : Engine M × Baselines) : Prop :=
  ∀ monId defn, s.1.dispatcher.s12Definitions.get? monId = some defn →
    defn.checkType = s12CheckDelta → defn.lastValue = s.2 monId

/-- An operation that leaves no stale baseline: monitoring is not disabled as a whole while a
delta definition has a baseline, and no such definition is evaluated while its source is off
and its parameter has no value. -/
def BaselineSafe (sub : Subsystems M) (e : Engine M) : MonitoringOp M → Prop
  | .request subtype _ => subtype = 2 → ∀ item ∈ e.dispatcher.s12Definitions.items,
      item.2.checkType = s12CheckDelta → item.2.lastValue = none
  | .situation _ _ _ => True
  | .tick => ∀ item ∈ e.dispatcher.s12Definitions.items, item.2.checkType = s12CheckDelta →
      (e.dispatcher.s12Enabled ∧ item.1 ∈ reached e.params (paramSourcePowered sub e.models)
        e.dispatcher.s12Definitions.items) →
      item.2.enabled = true → paramSourcePowered sub e.models item.2.paramId = false →
        present e.params item.2.paramId = none → item.2.lastValue = none

instance (sub : Subsystems M) (e : Engine M) :
    (op : MonitoringOp M) → Decidable (BaselineSafe sub e op)
  | .request _ _ => inferInstanceAs (Decidable (_ → ∀ _ ∈ _, _ → _))
  | .situation _ _ _ => inferInstanceAs (Decidable True)
  | .tick => inferInstanceAs (Decidable (∀ _ ∈ _, _ → _))

/-- A definition after a request: without a baseline when the request interrupts it, and with
its own otherwise.  Only the disabling of everything keeps the baseline it interrupts. -/
theorem requested_get? {subtype : Nat} {data : Bytes} {now : Bool × Dict Nat MonitorDefinition}
    {monId : Nat} {defn : MonitorDefinition}
    (h : (requested subtype data now).2.get? monId = some defn) :
    (interrupts subtype data monId ∧
        (defn.lastValue = none ∨ subtype = 2 ∧ now.2.get? monId = some defn)) ∨
      ¬ interrupts subtype data monId ∧ ∃ old, now.2.get? monId = some old ∧
        old.checkType = defn.checkType ∧ defn.lastValue = old.lastValue := by
  unfold requested at h
  split_ifs at h with h1 h2 h34 h6 h7
  · refine .inr ⟨fun hstop => ?_, defn, h, rfl, rfl⟩
    unfold interrupts at hstop
    omega
  · exact .inl ⟨.inl h2, .inr ⟨h2, h⟩⟩
  · have hother (hne : monId ≠ unpackU16 data) : ¬ interrupts subtype data monId :=
      fun hstop => hstop.elim h2 fun hstop => hne hstop.1
    have hnoStop (h3 : subtype = 3) : ¬ interrupts subtype data monId := by
      unfold interrupts
      omega
    cases hget : now.2.get? (unpackU16 data) with
    | none =>
        rw [hget] at h
        have hne : monId ≠ unpackU16 data := by
          intro heq
          subst heq
          cases hget.symm.trans h
        exact .inr ⟨hother hne, defn, h, rfl, rfl⟩
    | some old =>
        rw [hget] at h
        by_cases heq : monId = unpackU16 data
        · rw [heq] at h
          obtain rfl := Option.some.inj ((Dict.get?_set_same ..).symm.trans h)
          by_cases h4 : subtype = 4
          · exact .inl ⟨.inr ⟨heq, .inl ⟨h4, h34.2⟩⟩, .inl (if_pos h4)⟩
          · exact .inr ⟨hnoStop (by omega), old, heq ▸ hget, rfl, if_neg h4⟩
        · exact .inr ⟨hother heq, defn, (Dict.get?_set_ne _ heq _).symm.trans h, rfl, rfl⟩
  · by_cases heq : monId = unpackU16 data
    · rw [heq] at h
      obtain rfl := Option.some.inj ((Dict.get?_set_same ..).symm.trans h)
      exact .inl ⟨.inr ⟨heq, .inr (.inl h6)⟩, .inl rfl⟩
    · refine .inr ⟨fun hstop => ?_, defn, (Dict.get?_set_ne _ heq _).symm.trans h, rfl, rfl⟩
      exact hstop.elim h2 fun hstop => heq hstop.1
  · have hget := Dict.get?_erase now.2 (unpackU16 data) monId
    rw [h] at hget
    split_ifs at hget with heq
    refine .inr ⟨fun hstop => ?_, defn, hget.symm, rfl, rfl⟩
    exact hstop.elim h2 fun hstop => heq hstop.1
  · refine .inr ⟨fun hstop => ?_, defn, h, rfl, rfl⟩
    unfold interrupts at hstop
    omega

theorem sampleOf_eq (params : Dict Nat Value) (powered : Nat → Bool) (defn : MonitorDefinition) :
    sampleOf params powered defn =
      if defn.enabled then
        (present params defn.paramId).map fun value =>
          if powered defn.paramId then some value else none
      else none := by
  unfold sampleOf present
  split
  · cases params.get? defn.paramId with
    | none => rfl
    | some value => cases value <;> rfl
  · rfl

/-- An evaluation leaves the baseline that is due, unless the source of the parameter is off
and the parameter has no value. -/
theorem checkDefinition_lastValue {params : Dict Nat Value} {powered : Nat → Bool} (monId : Nat)
    {defn : MonitorDefinition}
    (hsafe : defn.enabled = true → powered defn.paramId = false →
      present params defn.paramId = none → defn.lastValue = none) :
    (checkDefinition params powered monId defn).1.lastValue =
      sampled params powered defn defn.lastValue := by
  unfold checkDefinition sampled
  rw [sampleOf_eq]
  by_cases hon : defn.enabled = true
  · rw [if_pos hon, if_pos hon]
    cases hpresent : present params defn.paramId with
    | none =>
        cases hpowered : powered defn.paramId with
        | true => rfl
        | false => exact hsafe hon hpowered hpresent
    | some value => cases powered defn.paramId <;> rfl
  · rw [if_neg hon, if_neg hon]

theorem checkDefinition_checkType (params : Dict Nat Value) (powered : Nat → Bool) (monId : Nat)
    (defn : MonitorDefinition) :
    (checkDefinition params powered monId defn).1.checkType = defn.checkType := by
  unfold checkDefinition
  split <;> rfl

/-! ### The invariant -/

/-- A definition after a sub-step. -/
theorem evaluated_get? (sub : Subsystems M) (e : Engine M) (monId : Nat) :
    (evaluated sub e).2.get? monId =
      (e.dispatcher.s12Definitions.get? monId).map fun defn =>
        if e.dispatcher.s12Enabled ∧ monId ∈ reached e.params (paramSourcePowered sub e.models)
            e.dispatcher.s12Definitions.items then
          (checkDefinition e.params (paramSourcePowered sub e.models) monId defn).1
        else defn := by
  unfold evaluated
  by_cases hon : e.dispatcher.s12Enabled = true
  · simp only [hon, true_and]
    exact lookup_checkItems _ _ monId
  · simp only [hon, Bool.false_eq_true, false_and, if_false]
    exact Option.map_id'.symm

/-- One operation keeps every baseline the one that is due. -/
theorem compared_track {depth : Nat} {s : Engine M × Baselines} {op : MonitoringOp M}
    (h : Compared s) (hsafe : BaselineSafe sub s.1 op) : Compared (track sub depth s op) := by
  intro monId defn hdefn hdelta
  cases op with
  | request subtype data =>
      have hwatched : (monitor sub depth s.1 (.request subtype data)).watched =
          (requested subtype data s.1.monitoring, s.1.watched.2) :=
        Keeps.final (handleS12_watched subtype data) s.1
      have hnow : (requested subtype data s.1.monitoring).2.get? monId = some defn :=
        (congrArg (fun w => w.1.2.get? monId) hwatched).symm.trans hdefn
      show defn.lastValue = if interrupts subtype data monId then none else s.2 monId
      rcases requested_get? hnow with ⟨hstop, hnone | ⟨h2, hold⟩⟩ | ⟨hgo, old, hold, htype, hlast⟩
      · rw [if_pos hstop, hnone]
      · rw [if_pos hstop]
        exact hsafe h2 (monId, defn) (Dict.get?_eq_some_iff.mp hold) hdelta
      · rw [if_neg hgo, hlast]
        exact h monId old hold (htype.trans hdelta)
  | situation params models overridePasses => exact h monId defn hdefn hdelta
  | tick =>
      have hmonitoring : (monitor sub depth s.1 .tick).monitoring = evaluated sub s.1 :=
        Keeps.final (tickS12Monitoring_monitoring depth) s.1
      have hnow : (evaluated sub s.1).2.get? monId = some defn :=
        (congrArg (fun w => w.2.get? monId) hmonitoring).symm.trans hdefn
      obtain ⟨old, hold, hdefn'⟩ := Option.map_eq_some_iff.mp ((evaluated_get? ..).symm.trans hnow)
      show defn.lastValue = Baselines.next sub s.1 s.2 .tick monId
      simp only [Baselines.next, hold]
      by_cases hreached : s.1.dispatcher.s12Enabled ∧ monId ∈ reached s.1.params
          (paramSourcePowered sub s.1.models) s.1.dispatcher.s12Definitions.items
      · rw [if_pos hreached] at hdefn' ⊢
        subst hdefn'
        rw [checkDefinition_checkType] at hdelta
        have hmem := Dict.get?_eq_some_iff.mp hold
        rw [checkDefinition_lastValue monId (hsafe (monId, old) hmem hdelta hreached),
          h monId old hold hdelta]
      · rw [if_neg hreached] at hdefn' ⊢
        exact hdefn' ▸ h monId old hold (hdefn' ▸ hdelta)

theorem track_engine (depth : Nat) (s : Engine M × Baselines) (ops : List (MonitoringOp M)) :
    (Runs.after (track sub depth) s ops).1 = Runs.after (monitor sub depth) s.1 ops := by
  induction ops generalizing s with
  | nil => rfl
  | cons op rest ih => exact ih _

/-- What the next evaluation finds of any value of a delta definition: what is found against the
value taken at the last evaluation with the definition enabled and powered, if nothing has
interrupted the evaluation since. -/
def ComparesWithLast (sub : Subsystems M) (depth : Nat) (e : Engine M)
    (ops : List (MonitoringOp M)) : Prop :=
  ∀ monId defn value,
    (Runs.after (monitor sub depth) e ops).dispatcher.s12Definitions.get? monId = some defn →
      defn.checkType = s12CheckDelta →
        judgeValue monId defn value =
          deltaAgainst (baselines sub depth e ops monId) monId defn value

/-- The operations after an interruption leave no baseline until the definitions are
evaluated. -/
theorem baselines_interrupted {depth : Nat} {e : Engine M} {subtype : Nat} {data : Bytes}
    {monId : Nat} (hstop : interrupts subtype data monId) (before : List (MonitoringOp M))
    {rest : List (MonitoringOp M)} (hrest : .tick ∉ rest) :
    baselines sub depth e (before ++ .request subtype data :: rest) monId = none := by
  have hnone (s : Engine M × Baselines) (hs : s.2 monId = none) :
      (Runs.after (track sub depth) s rest).2 monId = none := by
    induction rest generalizing s with
    | nil => exact hs
    | cons op rest ih =>
        refine ih (fun h => hrest (List.mem_cons_of_mem _ h)) _ ?_
        cases op with
        | request subtype data =>
            show (if interrupts subtype data monId then none else s.2 monId) = none
            split
            · rfl
            · exact hs
        | situation params models overridePasses => exact hs
        | tick => exact absurd List.mem_cons_self hrest
  rw [baselines, Runs.after_append]
  exact hnone _ (if_pos hstop)

/-- **The baselines of delta checks.**  In a run that starts without baselines and leaves no
stale one, a delta check is about the value of the evaluation before, and after an
interruption the first evaluation finds nothing. -/
theorem delta_compares_with_last (depth : Nat) (e : Engine M) (ops : List (MonitoringOp M))
    (hfresh : ∀ monId defn, e.dispatcher.s12Definitions.get? monId = some defn →
      defn.checkType = s12CheckDelta → defn.lastValue = none)
    (hsafe : ∀ i op, ops[i]? = some op →
      BaselineSafe sub (Runs.after (monitor sub depth) e (ops.take i)) op) :
    ComparesWithLast sub depth e ops ∧
      ∀ before subtype data rest monId defn value,
        ops = before ++ .request subtype data :: rest → interrupts subtype data monId →
          .tick ∉ rest →
          (Runs.after (monitor sub depth) e ops).dispatcher.s12Definitions.get? monId = some defn →
            defn.checkType = s12CheckDelta → judgeValue monId defn value = .ok none := by
  have hcompared : Compared (Runs.after (track sub depth) (e, fun _ => none) ops) := by
    rw [← List.take_length (l := ops)]
    refine Runs.holds_between (P := Compared) (Nat.zero_le _) hfresh fun k op _ _ hop hbefore => ?_
    refine compared_track hbefore ?_
    rw [track_engine]
    exact hsafe k op hop
  have hcompares : ComparesWithLast sub depth e ops := by
    intro monId defn value hdefn hdelta
    rw [← track_engine depth (e, fun _ => none) ops] at hdefn
    rw [judgeValue, if_pos hdelta, hcompared monId defn hdefn hdelta, baselines]
  refine ⟨hcompares, fun before subtype data rest monId defn value hops hstop hrest hdefn hdelta => ?_⟩
  rw [hcompares monId defn value hdefn hdelta, hops, baselines_interrupted hstop before hrest]
  rfl

/-- A delta definition on parameter 0x0100, by TC(12,6). -/
def voltageDelta : Bytes := packU16 1 ++ packU16 0x0100 ++ packU8 1 ++
  [0, 0, 0, 0] ++ [0x3F, 0x80, 0, 0]

/-- A sub-step at a value of parameter 0x0100. -/
def sampleAt (value : Int) : List (MonitoringOp PlainModels) :=
  [.situation (Dict.empty.set 0x0100 (.int value)) {} false, .tick]

/-- A delta definition that is disabled between two values and enabled again. -/
def interruptedRun : List (MonitoringOp PlainModels) :=
  .request 6 voltageDelta :: (sampleAt 0 ++ [.request 4 (packU16 1)] ++ sampleAt 100 ++
    [.request 3 (packU16 1)])

theorem delta_compares_with_last_interrupted :
    ComparesWithLast (plainSubsystems []) 3 plainEngine interruptedRun := by
  refine (delta_compares_with_last 3 plainEngine interruptedRun ?_ ?_).1
  · intro monId defn hdefn
    exact absurd hdefn nofun
  · intro i op hop
    obtain ⟨hi, rfl⟩ := List.getElem?_eq_some_iff.mp hop
    have hsafe : ∀ i : Fin interruptedRun.length, BaselineSafe (plainSubsystems [])
        (Runs.after (monitor (plainSubsystems []) 3) plainEngine (interruptedRun.take i))
        (interruptedRun.get i) := by
      decide +kernel
    exact hsafe ⟨i, hi⟩

/-- Disabling the monitoring as a whole leaves the baseline: after it is enabled again, the
value is compared with the one from before. -/
theorem delta_compares_with_stale :
    ¬ ComparesWithLast (plainSubsystems []) 3 plainEngine
      (.request 6 voltageDelta :: (sampleAt 0 ++ [.request 2 []] ++ sampleAt 100 ++
        [.request 1 []])) := by
  intro h
  have hstale := h 1 { monitorDefinition voltageDelta with lastValue := some (.int 0) } (.int 100)
    (by decide +kernel) (by decide +kernel)
  have hdue : baselines (plainSubsystems []) 3 plainEngine
      (.request 6 voltageDelta :: (sampleAt 0 ++ [.request 2 []] ++ sampleAt 100 ++
        [.request 1 []])) 1 = none := by decide +kernel
  rw [hdue] at hstale
  exact absurd hstale (by decide +kernel)

end Spacecraft
