import MissionSim.EventReports
import MissionSim.Instructor

/-!
# Which commands of the instructor raise

The validation and the handler look at the same fields with different eyes.  A field that is
`null` passes the validation, and `float` or `int` raises on it; a phase that is a text passes
when `float` reads it, and `int` may not; the names of a failure, a subsystem or a breakpoint are not
validated at all, and a dictionary refuses those that cannot be hashed.  What is left to the
subsystem models and to the event that is emitted at the end may raise as well.
-/

namespace Instructor

open Binary32 Python Effects Spacecraft TmBuilder
open Breakpoints (Item)
open Obcp (Event)

/-! ### Programs that raise nothing -/

section Completes

variable {ε σ τ α β : Type}

/-- The program ends without an exception. -/
def Completes (x : EStateM ε σ α) (s : σ) : Prop := wp x (fun _ _ => True) (fun _ _ => False) s

variable {s : σ}

theorem completes_fromExcept {x : Except ε α} {f : α → EStateM ε σ β} :
    Completes (fromExcept x >>= f) s ↔ ∃ a, x = .ok a ∧ Completes (f a) s := by
  unfold Completes
  cases x with
  | ok | error => simp

theorem completes_get {f : σ → EStateM ε σ β} : Completes (get >>= f) s ↔ Completes (f s) s := by
  unfold Completes
  rw [wp_bind, wp_get]

theorem completes_set {f : PUnit → EStateM ε σ β} {s s' : σ} :
    Completes (set s' >>= f) s ↔ Completes (f ⟨⟩) s' := by
  unfold Completes
  rw [wp_bind, wp_set]

theorem completes_modify {g : σ → σ} {f : PUnit → EStateM ε σ β} :
    Completes (modify g >>= f) s ↔ Completes (f ⟨⟩) (g s) := by
  unfold Completes
  rw [wp_bind, wp_modify]

theorem completes_zoom {view : σ → τ} {put : τ → σ → σ} {x : EStateM ε τ α} :
    Completes (zoom view put x) s ↔ Completes x (view s) := by
  unfold Completes
  rw [wp_zoom]

theorem completes_throw {error : ε} : ¬ Completes (throw error : EStateM ε σ α) s := id

theorem completes_pure {a : α} : Completes (pure a : EStateM ε σ α) s := trivial

theorem completes_ite {c : Prop} [Decidable c] {x y : EStateM ε σ α} :
    Completes (if c then x else y) s ↔ (c → Completes x s) ∧ (¬ c → Completes y s) :=
  wp_ite x y

/-- What is caught does not raise. -/
theorem completes_caught {x : EStateM ε σ PUnit} : Completes (tryCatch x fun _ => pure ⟨⟩) s := by
  unfold Completes
  rw [wp_tryCatch]
  unfold wp
  cases x s with
  | ok | error => exact trivial

/-- What follows a program is run in the state the program ends in. -/
theorem completes_bind_final {x : EStateM ε σ PUnit} {f : PUnit → EStateM ε σ α} :
    Completes (x >>= f) s ↔ Completes x s ∧ Completes (f ⟨⟩) (finalState x s) := by
  unfold Completes
  rw [wp_bind]
  unfold wp finalState
  cases x s with
  | ok a s' => exact (iff_of_eq (true_and _)).symm
  | error error s' => exact (iff_of_eq (false_and _)).symm

end Completes

/-! ### Events -/

section Events

variable {M : Type} (sub : Subsystems M)

/-- A report is built, enqueued and stored. -/
def reportWith (build : Int → EStateM PyError Builder TmPacket) (severity : Nat) :
    Program M Unit := do
  let e ← get
  let pkt ← building (build (sub.obcTimeCuc e.models))
  enqueueTm pkt
  storeAlarm pkt severity

/-- `_emit_event(ev)` up to the rules the event triggers. -/
def reportEvent (ev : Event) : Program M Unit :=
  reportWith sub (buildEventPacket ev.eventId ev.severity ev.description) ev.severity

/-- The rules an event triggers. -/
def rulesOf (depth : Nat) (ev : Event) : Program M Unit :=
  triggerEventAction sub (emitEvent sub depth) (eventTrigger ev.eventId).1
    (eventTrigger ev.eventId).2

theorem emitEvent_eq (depth : Nat) (ev : Event) :
    emitEvent sub (depth + 1) ev = reportEvent sub ev >>= fun _ => rulesOf sub depth ev := by
  rw [emitEvent, reportEvent, reportWith]
  simp only [bind_assoc, rulesOf]

variable {e : Engine M}

theorem enqueueTm_completes {pkt : TmPacket} :
    Completes (enqueueTm pkt) e ↔ ∃ n, e.swImageParam = .ok n := by
  unfold enqueueTm note
  rw [completes_modify, completes_modify, completes_get, completes_fromExcept]
  constructor
  · intro h
    obtain ⟨n, hn, _⟩ := h
    exact ⟨n, hn⟩
  · intro h
    obtain ⟨n, hn⟩ := h
    exact ⟨n, hn, trivial⟩

theorem enqueueTm_params (pkt : TmPacket) (e : Engine M) :
    (finalState (enqueueTm pkt) e).params = e.params := by
  have hkept : wp (enqueueTm pkt) (fun _ e' => e'.params = e.params)
      (fun _ e' => e'.params = e.params) e := by
    unfold enqueueTm note
    simp only [wp_bind, wp_modify, wp_get, wp_fromExcept, wp_set, implies_true, and_self]
  exact wp_state.mp hkept

theorem storeAlarm_completes {pkt : TmPacket} {severity : Nat} (h : ∃ n, e.swImageParam = .ok n) :
    Completes (storeAlarm pkt severity) e := by
  obtain ⟨n, hn⟩ := h
  unfold storeAlarm
  rw [completes_get, completes_ite]
  constructor
  · intro _
    rw [completes_fromExcept]
    refine ⟨n, hn, ?_⟩
    rw [completes_ite]
    exact ⟨fun _ => trivial, fun _ => trivial⟩
  · intro _
    exact completes_pure

/-- An event raises nothing: its report fits, the software image is read as a number, and the
rules it triggers raise nothing. -/
def Emittable (depth : Nat) (ev : Event) (e : Engine M) : Prop :=
  (Sendable sub e ev ∧ ∃ n, e.swImageParam = .ok n) ∧
    Completes (rulesOf sub depth ev) (finalState (reportEvent sub ev) e)

variable {sub}

theorem reportWith_completes {build : Int → EStateM PyError Builder TmPacket} {severity : Nat} :
    Completes (reportWith sub build severity) e ↔
      (∃ pkt b', build (sub.obcTimeCuc e.models) e.tmBuilder = .ok pkt b') ∧
        ∃ n, e.swImageParam = .ok n := by
  unfold reportWith
  rw [completes_get]
  unfold Completes
  rw [wp_bind, building, wp_zoom]
  cases hrun : build (sub.obcTimeCuc e.models) e.tmBuilder with
  | error error b' =>
      rw [wp_of_error hrun]
      constructor
      · intro h
        exact h.elim
      · intro h
        obtain ⟨⟨_, _, hok⟩, _⟩ := h
        cases hok
  | ok pkt b' =>
      rw [wp_of_ok hrun]
      have hrest : Completes (enqueueTm pkt >>= fun _ => storeAlarm pkt severity)
          { e with tmBuilder := b' } ↔ ∃ n, e.swImageParam = .ok n := by
        rw [completes_bind_final, enqueueTm_completes]
        constructor
        · intro h
          exact h.1
        · intro h
          refine ⟨h, storeAlarm_completes ?_⟩
          unfold Engine.swImageParam
          rw [enqueueTm_params]
          exact h
      constructor
      · intro h
        exact ⟨⟨pkt, b', rfl⟩, hrest.mp h⟩
      · intro h
        exact hrest.mpr h.2

theorem buildEventPacket_ok_iff {ev : Event} {b : Builder} :
    (∃ pkt b', buildEventPacket ev.eventId ev.severity ev.description
      (sub.obcTimeCuc e.models) b = .ok pkt b') ↔ Sendable sub e ev := by
  constructor
  · intro h
    by_contra hunfit
    obtain ⟨pkt, b', hok⟩ := h
    obtain ⟨error, b'', herror⟩ := buildEventPacket_error hunfit b
    have hsame := hok.symm.trans herror
    cases hsame
  · intro h
    obtain ⟨pkt, b', hok, _⟩ := buildEventPacket_eq_ok h b
    exact ⟨pkt, b', hok⟩

theorem reportEvent_completes {ev : Event} :
    Completes (reportEvent sub ev) e ↔ Sendable sub e ev ∧ ∃ n, e.swImageParam = .ok n := by
  rw [reportEvent, reportWith_completes, buildEventPacket_ok_iff]

theorem emitEvent_completes {depth : Nat} {ev : Event} :
    Completes (emitEvent sub (depth + 1) ev) e ↔ Emittable sub depth ev e := by
  rw [emitEvent_eq, completes_bind_final, reportEvent_completes, Emittable]

end Events

/-! ### What the validation says -/

theorem checkFields_none {cmd : Cmd} {fields : List NumericField}
    (h : checkFields cmd fields = .ok none) : ∀ f ∈ fields, checkField cmd f = .ok none := by
  induction fields with
  | nil => exact fun f hf => nomatch hf
  | cons first rest ih =>
      obtain ⟨answer, hfirst, hrest⟩ := Python.bind_eq_ok.mp h
      cases answer with
      | some rejection => cases hrest
      | none =>
          intro f hf
          rcases List.mem_cons.mp hf with heq | hmem
          · rw [heq]
            exact hfirst
          · exact ih hrest f hmem

/-- A value that is a number, or a text that `float` reads as one. -/
structure Numeric (value : Item) (x : FloatValue) : Prop where
  kind : (∃ n, value = .int n) ∨ (∃ y, value = .float y) ∨ ∃ s, value = .text s
  reads : value.toFloat = .ok x
  finite : isFinite x = true

variable {f : NumericField}

/-- A value that is read as a number, and passes the check of a field. -/
theorem numeric_of_check {value : Item} {x : FloatValue}
    (hkind : (∃ n, value = .int n) ∨ (∃ y, value = .float y) ∨ ∃ s, value = .text s)
    (hreads : value.toFloat = .ok x) (hok : f.check x = none) :
    ∃ value' x, some value = some value' ∧ Numeric value' x := by
  refine ⟨value, x, rfl, hkind, hreads, ?_⟩
  unfold NumericField.check at hok
  by_contra hinfinite
  rw [if_pos (by simpa using hinfinite)] at hok
  cases hok

/-- A field that is accepted is missing, null or a number. -/
theorem checkField_none {cmd : Cmd} (h : checkField cmd f = .ok none) :
    cmd.get? f.field = none ∨ cmd.get? f.field = some .null ∨
      ∃ value x, cmd.get? f.field = some value ∧ Numeric value x := by
  unfold checkField at h
  cases hfield : cmd.get? f.field with
  | none => exact Or.inl rfl
  | some value =>
      rw [hfield] at h
      cases value with
      | null => exact Or.inr (Or.inl rfl)
      | bool | list | dict => cases h
      | int n =>
          dsimp only at h
          split at h
          · exact Or.inr (Or.inr (numeric_of_check (Or.inl ⟨n, rfl⟩) ‹_› (Except.ok.inj h)))
          all_goals cases h
      | float y =>
          dsimp only at h
          split at h
          · exact Or.inr (Or.inr (numeric_of_check (Or.inr (Or.inl ⟨y, rfl⟩)) ‹_› (Except.ok.inj h)))
          all_goals cases h
      | text s =>
          dsimp only at h
          split at h
          · exact Or.inr (Or.inr (numeric_of_check (Or.inr (Or.inr ⟨s, rfl⟩)) ‹_› (Except.ok.inj h)))
          all_goals cases h

theorem Numeric.ne_null {value : Item} {x : FloatValue} (h : Numeric value x) : value ≠ .null := by
  intro hnull
  rw [hnull] at h
  cases h.reads

/-- A number is read by `float`, unless the field is null. -/
theorem accepted_toFloat {cmd : Cmd} (h : checkField cmd f = .ok none) (default : FloatValue) :
    (∃ x, (getD cmd f.field (.float default)).toFloat = .ok x) ↔ cmd.get? f.field ≠ some .null := by
  unfold getD
  rcases checkField_none h with hfield | hfield | ⟨value, x, hfield, hnumber⟩
  · rw [hfield]
    exact ⟨fun _ => nofun, fun _ => ⟨default, rfl⟩⟩
  · rw [hfield]
    constructor
    · intro hreads
      obtain ⟨x, hx⟩ := hreads
      cases hx
    · intro hne
      exact absurd rfl hne
  · rw [hfield]
    constructor
    · intro _ hnull
      exact hnumber.ne_null (Option.some.inj hnull)
    · intro _
      exact ⟨x, hnumber.reads⟩

/-- Without the field, or with a null in it, nothing else than a type error is raised. -/
theorem accepted_error {cmd : Cmd} (h : checkField cmd f = .ok none) {default : FloatValue}
    {error : PyError} (herror : (getD cmd f.field (.float default)).toFloat = .error error) :
    error = .typeError := by
  unfold getD at herror
  rcases checkField_none h with hfield | hfield | ⟨value, x, hfield, hnumber⟩
  · rw [hfield] at herror
    cases herror
  · rw [hfield] at herror
    exact (Except.error.inj herror).symm
  · rw [hfield] at herror
    cases herror.symm.trans hnumber.reads

/-- The phase is read by `int`: it is not null, and a text is that of an integer. -/
def IntegerPhase (cmd : Cmd) : Prop :=
  cmd.get? "phase" ≠ some .null ∧
    ∀ s, cmd.get? "phase" = some (.text s) → (Procedures.intOfText 10 s.toList).isSome = true

theorem accepted_toInt {cmd : Cmd} (hf : f.field = "phase") (h : checkField cmd f = .ok none) :
    (∃ n, (getD cmd "phase" (.int 6)).toInt = .ok n) ↔ IntegerPhase cmd := by
  have hcases := checkField_none h
  rw [hf] at hcases
  unfold getD IntegerPhase
  rcases hcases with hfield | hfield | ⟨value, x, hfield, hnumber⟩
  · rw [hfield]
    exact ⟨fun _ => ⟨nofun, nofun⟩, fun _ => ⟨6, rfl⟩⟩
  · rw [hfield]
    constructor
    · intro hreads
      obtain ⟨n, hn⟩ := hreads
      cases hn
    · intro hphase
      exact absurd rfl hphase.1
  · rw [hfield]
    rcases hnumber.kind with ⟨n, rfl⟩ | ⟨y, rfl⟩ | ⟨s, rfl⟩
    · exact ⟨fun _ => ⟨nofun, nofun⟩, fun _ => ⟨n, rfl⟩⟩
    · have hy : y = x := Except.ok.inj hnumber.reads
      have hfinite := hnumber.finite
      rw [← hy] at hfinite
      cases y with
      | finite negative m e => exact ⟨fun _ => ⟨nofun, nofun⟩, fun _ => ⟨_, rfl⟩⟩
      | infinite | nan => cases hfinite
    · cases htext : Procedures.intOfText 10 s.toList with
      | some n =>
          refine ⟨fun _ => ⟨nofun, fun s' hs => ?_⟩, fun _ => ⟨n, ?_⟩⟩
          · cases hs
            rw [htext]
            rfl
          · simp only [Option.getD_some, Item.toInt, Item.scalar, Procedures.Scalar.toInt, htext]
      | none =>
          constructor
          · intro hreads
            obtain ⟨n, hn⟩ := hreads
            simp only [Option.getD_some, Item.toInt, Item.scalar, Procedures.Scalar.toInt,
              htext] at hn
            cases hn
          · intro hphase
            have hsome := hphase.2 s rfl
            rw [htext] at hsome
            cases hsome

/-! ### What the handler digests -/

section Digestible

variable {M : Type} (ins : Instruments M) (depth : Nat) (cmd : Cmd) (c : Console M)

/-- The event of a clamped speed, if there is one, raises nothing. -/
def SpeedDigestible : Prop :=
  ∀ requested maxSpeed, (getD cmd "value" (.float (floatOf 1))).toFloat = .ok requested →
    ins.present c.keeper.engine.models "prop" = true →
    ins.burn c.keeper.engine.models = some maxSpeed →
    maxSpeed.lt (clampSpeed requested c.speedMax) = true → c.propSpeedClamped = false →
    Emittable ins.toSubsystems depth (speedClamped maxSpeed) c.keeper.engine

/-- The subsystem can be looked up, and its model takes the failure. -/
def FailureDigestible (act : String → EStateM PyError M Unit) : Prop :=
  hashable (getD cmd "subsystem" (.text "")) = true ∧
    ∀ model, getD cmd "subsystem" (.text "") = .text model →
      ins.present c.keeper.engine.models model = true → Completes (act model) c.keeper.engine.models

/-- The phase is an integer, and the event of its change raises nothing. -/
def PhaseDigestible : Prop :=
  IntegerPhase cmd ∧ ∀ phase, (getD cmd "phase" (.int 6)).toInt = .ok phase →
    0 ≤ phase ∧ phase ≤ 6 →
    Emittable ins.toSubsystems depth (phaseChange c.keeper.engine.spacecraftPhase phase)
      (changePhase ins c phase).keeper.engine

/-- A command whose fields the handler can read, and that asks for nothing that raises. -/
def Digestible : Prop :=
  match cmdType? cmd with
  | some .setSpeed => SpeedDigestible ins depth cmd c
  | some .inject => ∃ magnitude, (getD cmd "magnitude" (.float (floatOf 1))).toFloat = .ok magnitude ∧
      FailureDigestible ins cmd c fun model =>
        ins.injectFailure model (getD cmd "failure" (.text "")) magnitude
          (others cmd ["type", "subsystem", "failure", "magnitude"])
  | some .clearFailure => FailureDigestible ins cmd c fun model =>
      ins.clearFailure model (getD cmd "failure" (.text ""))
        (others cmd ["type", "subsystem", "failure"])
  | some .failureInject => cmd.get? "magnitude" ≠ some .null ∧
      cmd.get? "onset_duration_s" ≠ some .null ∧ cmd.contains "self" = false
  | some .failureClear => hashable (getD cmd "failure_id" .null) = true ∨
      (getD cmd "failure_id" .null).truthy = false ∨ c.training.failures.size = 0
  | some .setPhase => PhaseDigestible ins depth cmd c
  | some .startSeparation => Emittable ins.toSubsystems depth separationInitiated
      (configureSeparationState ins c).keeper.engine
  | some .loadBreakpoint => getD cmd "state" .null = .null →
      hashable (orElse (getD cmd "name" .null) (.text "")) = true
  | _ => True

variable {ins depth cmd c}

theorem emit_completes {ev : Event} :
    Completes (emit ins (depth + 1) ev) c ↔
      Emittable ins.toSubsystems depth ev c.keeper.engine := by
  rw [emit, onKeeper, completes_zoom, emitEvent_completes]

theorem tickPropSpeedClamp_completes :
    Completes (tickPropSpeedClamp ins (depth + 1)) c ↔
      ∀ maxSpeed, ins.burn c.keeper.engine.models = some maxSpeed → maxSpeed.lt c.speed = true →
        c.propSpeedClamped = false →
        Emittable ins.toSubsystems depth (speedClamped maxSpeed) c.keeper.engine := by
  unfold tickPropSpeedClamp
  rw [completes_get]
  cases hburn : ins.burn c.keeper.engine.models with
  | none => exact ⟨fun _ => nofun, fun _ => trivial⟩
  | some maxSpeed =>
      simp only [completes_ite, Bool.not_eq_true, completes_set, emit_completes, Option.some.injEq]
      constructor
      · intro h maxSpeed' heq hlt hclamped
        rw [← heq] at hlt ⊢
        exact (h.1 hlt).2 hclamped
      · intro h
        exact ⟨fun hlt => ⟨fun _ => trivial, h maxSpeed rfl hlt⟩, fun _ => trivial⟩

theorem setSpeed_completes (h : checkField cmd { field := "value", lo := some (floatOf 0) } = .ok none) :
    Completes (setSpeed ins (depth + 1) cmd) c ↔ SpeedDigestible ins depth cmd c := by
  unfold setSpeed SpeedDigestible
  cases hvalue : (getD cmd "value" (.float (floatOf 1))).toFloat with
  | error error =>
      rw [accepted_error h hvalue]
      constructor
      · intro _ _ _ hok
        cases hok
      · intro _
        exact trivial
  | ok requested =>
      simp only [completes_modify, completes_get, completes_ite, tickPropSpeedClamp_completes]
      constructor
      · intro h requested' maxSpeed heq hprop hburn hlt
        rw [← Except.ok.inj heq] at hlt
        exact h.1 hprop maxSpeed hburn hlt
      · intro h
        exact ⟨fun hprop maxSpeed => h requested maxSpeed rfl hprop, fun _ => completes_pure⟩

theorem failure_completes {act : String → EStateM PyError M Unit} {subsystem : Item}
    (h : getD cmd "subsystem" (.text "") = subsystem) :
    Completes (match subsystem with
      | .list _ | .dict _ => throw .typeError
      | .text model => do
          let c ← get
          if ins.present c.keeper.engine.models model then onKeeper (onModels (act model))
          else pure ()
      | _ => pure ()) c ↔ FailureDigestible ins cmd c act := by
  unfold FailureDigestible
  rw [h]
  cases subsystem with
  | null | bool | int | float => exact ⟨fun _ => ⟨rfl, nofun⟩, fun _ => trivial⟩
  | list | dict => exact ⟨fun hraised => hraised.elim, fun hhash => nomatch hhash.1⟩
  | text model =>
      simp only [completes_get, completes_ite, onKeeper, onModels, completes_zoom]
      constructor
      · intro hrun
        refine ⟨rfl, ?_⟩
        intro model' heq hpresent
        cases heq
        exact hrun.1 hpresent
      · intro hdigests
        exact ⟨hdigests.2 model rfl, fun _ => completes_pure⟩

theorem handleFailureInject_completes :
    Completes (handleFailureInject ins cmd) c ↔
      ∃ magnitude, (getD cmd "magnitude" (.float (floatOf 1))).toFloat = .ok magnitude ∧
        FailureDigestible ins cmd c fun model =>
          ins.injectFailure model (getD cmd "failure" (.text "")) magnitude
            (others cmd ["type", "subsystem", "failure", "magnitude"]) := by
  unfold handleFailureInject
  rw [completes_fromExcept]
  refine exists_congr fun magnitude => and_congr_right fun _ => ?_
  exact failure_completes rfl

theorem handleFailureClear_completes :
    Completes (handleFailureClear ins cmd) c ↔ FailureDigestible ins cmd c fun model =>
      ins.clearFailure model (getD cmd "failure" (.text ""))
        (others cmd ["type", "subsystem", "failure"]) :=
  failure_completes rfl

/-- A number, or nothing, is what `float` reads as a duration. -/
theorem durationS_ok {f : NumericField} (hf : f.field = "duration_s")
    (h : checkField cmd f = .ok none) : ∃ x, durationS cmd = .ok x := by
  have hcases := checkField_none h
  rw [hf] at hcases
  unfold durationS getD
  rcases hcases with hfield | hfield | ⟨value, x, hfield, hnumber⟩
  · rw [hfield]
    exact ⟨_, rfl⟩
  · rw [hfield]
    exact ⟨_, rfl⟩
  · rw [hfield]
    by_cases htruthy : value.truthy = true
    · exact ⟨x, (if_pos htruthy).trans hnumber.reads⟩
    · exact ⟨_, if_neg htruthy⟩

theorem failureInject_completes (h : ∀ f ∈ numericFields .failureInject, checkField cmd f = .ok none) :
    Completes (failureInject ins cmd) c ↔ cmd.get? "magnitude" ≠ some .null ∧
      cmd.get? "onset_duration_s" ≠ some .null ∧ cmd.contains "self" = false := by
  have hmagnitude := h { field := "magnitude" } List.mem_cons_self
  have hduration := h { field := "duration_s", lo := some (floatOf 0) }
    (List.mem_cons_of_mem _ List.mem_cons_self)
  have honset := h { field := "onset_duration_s", lo := some (floatOf 0) }
    (List.mem_cons_of_mem _ (List.mem_cons_of_mem _ List.mem_cons_self))
  obtain ⟨duration, hduration⟩ := durationS_ok rfl hduration
  unfold failureInject
  rw [← accepted_toFloat hmagnitude (floatOf 1), ← accepted_toFloat honset (floatOf 90)]
  simp only [completes_fromExcept, completes_ite]
  constructor
  · intro hrun
    obtain ⟨magnitude, hm, _, _, onset, ho, hself⟩ := hrun
    refine ⟨⟨magnitude, hm⟩, ⟨onset, ho⟩, ?_⟩
    by_contra hcollides
    exact completes_throw (hself.1 (by simpa using hcollides))
  · intro hreads
    obtain ⟨⟨magnitude, hm⟩, ⟨onset, ho⟩, hself⟩ := hreads
    refine ⟨magnitude, hm, duration, hduration, onset, ho, ?_⟩
    exact ⟨fun hcollides => absurd (hself.symm.trans hcollides) Bool.false_ne_true, fun _ => trivial⟩

theorem failureClear_completes :
    Completes (failureClear cmd : Prog M Unit) c ↔ hashable (getD cmd "failure_id" .null) = true ∨
      (getD cmd "failure_id" .null).truthy = false ∨ c.training.failures.size = 0 := by
  unfold failureClear
  generalize getD cmd "failure_id" .null = failureId
  rw [completes_ite]
  have hcleared : Completes (clearAllFailures : Prog M Unit) c := trivial
  have hunhashable : ∀ x : Item, hashable x = false →
      ((x.truthy = true → Completes (get >>= fun c : Console M =>
          if c.training.failures.size = 0 then pure () else throw .typeError : Prog M Unit) c) ∧
        (¬ x.truthy = true → Completes (clearAllFailures : Prog M Unit) c) ↔
      hashable x = true ∨ x.truthy = false ∨ c.training.failures.size = 0) := by
    intro x hx
    rw [completes_get, completes_ite, hx]
    constructor
    · intro h
      by_cases htruthy : x.truthy = true
      · refine Or.inr (Or.inr ?_)
        by_contra hactive
        exact completes_throw ((h.1 htruthy).2 hactive)
      · exact Or.inr (Or.inl (by simpa using htruthy))
    · intro h
      refine ⟨fun htruthy => ⟨fun _ => completes_pure, fun hactive => ?_⟩, fun _ => hcleared⟩
      rcases h with hhash | hfalse | hempty
      · cases hhash
      · rw [htruthy] at hfalse
        cases hfalse
      · exact absurd hempty hactive
  cases failureId with
  | list items => exact hunhashable (.list items) rfl
  | dict items => exact hunhashable (.dict items) rfl
  | null | bool | int | float
  | text => exact ⟨fun _ => Or.inl rfl, fun _ => ⟨fun _ => trivial, fun _ => hcleared⟩⟩

theorem setPhase_completes {f : NumericField} (hf : f.field = "phase")
    (h : checkField cmd f = .ok none) :
    Completes (setPhase ins (depth + 1) cmd) c ↔ PhaseDigestible ins depth cmd c := by
  unfold setPhase PhaseDigestible
  rw [completes_fromExcept, ← accepted_toInt hf h]
  simp only [completes_ite, completes_get, completes_set, emit_completes]
  constructor
  · intro hrun
    obtain ⟨phase, hphase, hemits⟩ := hrun
    refine ⟨⟨phase, hphase⟩, ?_⟩
    intro phase' hphase' hrange
    rw [← Except.ok.inj (hphase.symm.trans hphase')] at hrange ⊢
    exact hemits.1 hrange
  · intro hdigests
    obtain ⟨⟨phase, hphase⟩, hemits⟩ := hdigests
    exact ⟨phase, hphase, hemits phase hphase, fun _ => completes_pure⟩

theorem startSeparation_completes :
    Completes (startSeparation ins (depth + 1)) c ↔
      Emittable ins.toSubsystems depth separationInitiated
        (configureSeparationState ins c).keeper.engine := by
  rw [startSeparation, completes_modify, emit_completes]

theorem onTraining_completes {α : Type} (x : Training.Program α) :
    Completes (onTraining x : Prog M Unit) c := completes_caught

theorem handleStartScenario_completes : Completes (handleStartScenario cmd : Prog M Unit) c := by
  unfold handleStartScenario
  split
  · exact onTraining_completes _
  · exact completes_pure

theorem overridePasses_completes : Completes (overridePasses cmd : Prog M Unit) c := by
  exact trivial

/-- The snapshot is named or given; what is done with it is caught. -/
theorem handleLoadBreakpoint_completes :
    Completes (handleLoadBreakpoint ins depth cmd) c ↔ (getD cmd "state" .null = .null →
      hashable (orElse (getD cmd "name" .null) (.text "")) = true) := by
  unfold handleLoadBreakpoint
  rw [completes_get]
  generalize getD cmd "state" .null = state
  generalize orElse (getD cmd "name" .null) (.text "") = name
  cases state with
  | null =>
      cases name with
      | list | dict =>
          refine ⟨fun hraised => hraised.elim, fun hhash => ?_⟩
          cases hhash rfl
      | null | bool | int | float => exact ⟨fun _ _ => rfl, fun _ => completes_pure⟩
      | text s =>
          refine ⟨fun _ _ => rfl, fun _ => ?_⟩
          simp only [pure_bind]
          cases c.breakpoints.get? s with
          | none => exact completes_pure
          | some state => exact completes_caught
  | bool | int | float | text | list | dict =>
      refine ⟨fun _ hnull => ?_, fun _ => completes_caught⟩
      cases hnull

end Digestible

/-- The command that sets a phase. -/
def phaseCommand (phase : Item) : Cmd :=
  (Dict.empty.set "type" (.text "set_phase")).set "phase" phase

theorem phaseCommand_type (phase : Item) : cmdType? (phaseCommand phase) = some .setPhase := rfl

theorem phaseCommand_accepted :
    validateInstructorCmd (.object (phaseCommand (.int 4))) = .ok none := by
  decide +kernel

theorem handleInstructorCmd_phaseCommand {M : Type} (ins : Instruments M) (depth : Nat)
    (phase : Item) : handleInstructorCmd ins depth (phaseCommand phase) =
      setPhase ins depth (phaseCommand phase) := by
  simp only [handleInstructorCmd, phaseCommand_type]

end Instructor
