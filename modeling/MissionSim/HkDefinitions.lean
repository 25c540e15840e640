import MissionSim.HkEmission

/-!
# Housekeeping definitions

Service 3 lets ground create, delete, enable and disable housekeeping definitions and change
their intervals.  A plan says what ground may expect of this: which definitions there are,
whether they are enabled, their intervals, and for how long each has been counting.  In a tick
the enabled ones count on as far as the platform lets them, and those that have reached their
interval are due.

On board the definitions are spread over four tables, and a creation reaches only one of
those the emission looks at.  So the engine follows the plan as long as nothing is created but
what the configuration has already, with the interval it has, and nothing that was deleted
comes back other than by a creation.
-/

namespace Spacecraft

open Octets Binary32 Python Effects TmBuilder

variable {M : Type} (sub : Subsystems M)

/-! ### The plan -/

/-- A definition as ground knows it. -/
structure HkOrder where
  enabled : Bool
  intervalS : FloatValue
  deriving DecidableEq, Repr

/-- The definitions, and the time each has been counting since its last report. -/
structure HkPlan where
  definitions : Nat → Option HkOrder
  elapsed : Nat → FloatValue

inductive S3Kind where
  | create
  | delete
  | enable
  | disable
  | interval
  deriving DecidableEq, Repr

def S3Kind.subtype : S3Kind → Nat
  | .create => 1
  | .delete => 2
  | .enable => 5
  | .disable => 6
  | .interval => 31

/-- The octets without which a command is ignored. -/
def S3Kind.octets : S3Kind → Nat
  | .create => 4
  | .interval => 6
  | _ => 2

/-- A telecommand of service 3. -/
structure S3Command where
  kind : S3Kind
  data : Bytes
  deriving DecidableEq, Repr

def S3Command.sid (c : S3Command) : Nat := unpackU16 c.data

def S3Command.Complete (c : S3Command) : Prop := c.kind.octets ≤ c.data.length

instance (c : S3Command) : Decidable c.Complete := inferInstanceAs (Decidable (_ ≤ _))

/-- What a command says of its definition. -/
def S3Command.order (c : S3Command) (refused : Bool) (order : Option HkOrder) : Option HkOrder :=
  match c.kind with
  | .create => some { enabled := true, intervalS := (hkDefinition c.data).intervalS }
  | .delete => none
  | .enable => order.map fun o => { o with enabled := true }
  | .disable => if refused then order else order.map fun o => { o with enabled := false }
  | .interval => order.map fun o => { o with intervalS := atLeastOne (floatAt 2 c.data) }

/-- The plan after a command. -/
def HkPlan.command (p : HkPlan) (c : S3Command) (refused : Bool) : HkPlan :=
  { p with definitions := fun sid =>
      if c.Complete ∧ sid = c.sid then c.order refused (p.definitions sid) else p.definitions sid }

/-- A definition counts if it is enabled. -/
def HkPlan.advance (p : HkPlan) (gate : Nat → Gate) (dtSim : FloatValue) (sid : Nat) :
    FloatValue × Bool :=
  match p.definitions sid with
  | some ⟨true, intervalS⟩ => (gate sid).advance intervalS dtSim (p.elapsed sid)
  | _ => (p.elapsed sid, false)

/-- The definition is reported in a tick. -/
def HkPlan.due (p : HkPlan) (gate : Nat → Gate) (dtSim : FloatValue) (sid : Nat) : Bool :=
  (p.advance gate dtSim sid).2

/-- The plan after a tick. -/
def HkPlan.tick (p : HkPlan) (gate : Nat → Gate) (dtSim : FloatValue) : HkPlan :=
  { p with elapsed := fun sid => (p.advance gate dtSim sid).1 }

/-- The plan after a change of the software image, which enables the definitions `sids`. -/
def HkPlan.configure (p : HkPlan) (sids : List Nat) : HkPlan :=
  { p with definitions := fun sid =>
      (p.definitions sid).map fun o => { o with enabled := sids.contains sid } }

/-! ### On board -/

/-- A structure of the configuration. -/
structure HkStructureDef where
  sid : Nat
  intervalS : FloatValue := floatOf 4
  parameters : List HkParameter

/-- Enter a structure of the configuration into the tables. -/
def loadHk (defaultEnabledSids : List Nat) (s : Housekeeper M) (hk : HkStructureDef) :
    Housekeeper M where
  engine := { s.engine with
    hkStructures := s.engine.hkStructures.set hk.sid hk.parameters
    hkIntervals := s.engine.hkIntervals.set hk.sid hk.intervalS
    hkEnabled := s.engine.hkEnabled.set hk.sid (defaultEnabledSids.contains hk.sid) }
  hkTimers := s.hkTimers.set hk.sid (floatOf 0)

def HkPlan.load (defaultEnabledSids : List Nat) (p : HkPlan) (hk : HkStructureDef) : HkPlan where
  definitions := fun sid =>
    if sid = hk.sid then
      some { enabled := defaultEnabledSids.contains hk.sid, intervalS := hk.intervalS }
    else p.definitions sid
  elapsed := fun sid => if sid = hk.sid then floatOf 0 else p.elapsed sid

/-- The engine with the structures of a configuration. -/
def bootHk (raw : List HkStructureDef) (defaultEnabledSids : List Nat) (e : Engine M) :
    Housekeeper M :=
  raw.foldl (loadHk defaultEnabledSids)
    { engine := { e with hkStructures := .empty, hkIntervals := .empty, hkEnabled := .empty } }

def bootPlan (raw : List HkStructureDef) (defaultEnabledSids : List Nat) : HkPlan :=
  raw.foldl (HkPlan.load defaultEnabledSids) { definitions := fun _ => none, elapsed := fun _ => floatOf 0 }

/-- What the platform does to each timer. -/
def Housekeeper.gates (s : Housekeeper M) (sid : Nat) : Gate :=
  match s.engine.swImageParam with
  | .ok swImage => hkGate sub swImage s.engine.models sid
  | .error _ => .halted

/-- A step of a run. -/
inductive HkStep (M : Type) where
  | command (c : S3Command)
  | tick (dtSim : FloatValue)
  /-- The software image changes, and the structures are enabled anew. -/
  | configure (sids : List Nat)
  /-- Whatever leaves the tables of housekeeping alone. -/
  | other (e : Engine M)

/-- The engine after a step. -/
def HkStep.run (s : Housekeeper M) : HkStep M → Housekeeper M
  | .command c => finalState (onEngine (handleS3 sub c.kind.subtype c.data)) s
  | .tick dtSim => finalState (emitHkPackets sub dtSim) s
  | .configure sids => { s with engine := { s.engine with
      hkEnabled := s.engine.hkEnabled.mapItems fun sid _ => sids.contains sid } }
  | .other e => { s with engine := { e with
      hkStructures := s.engine.hkStructures
      hkIntervals := s.engine.hkIntervals
      hkEnabled := s.engine.hkEnabled } }

/-- The plan after it. -/
def HkStep.plan (s : Housekeeper M) (p : HkPlan) : HkStep M → HkPlan
  | .command c => p.command c (isBootloaderBeaconSid sub s.engine.models c.sid)
  | .tick dtSim => p.tick (s.gates sub) dtSim
  | .configure sids => p.configure sids
  | .other _ => p

/-- The engine and the plan after a run whose steps all satisfy `P`. -/
inductive HkRun (P : HkPlan → Housekeeper M → HkStep M → Prop) : HkPlan → Housekeeper M → Prop
  | boot (raw : List HkStructureDef) (defaultEnabledSids : List Nat) (e : Engine M) :
      HkRun P (bootPlan raw defaultEnabledSids) (bootHk raw defaultEnabledSids e)
  | step {p : HkPlan} {s : Housekeeper M} (before : HkRun P p s) (step : HkStep M)
      (h : P p s step) : HkRun P (step.plan sub s p) (step.run sub s)

/-- The structures reported between two states. -/
def reportedSids (s s' : Housekeeper M) : List Nat :=
  (s'.engine.log.drop s.engine.log.length).filterMap fun notice =>
    match notice with
    | .tm pkt => hkSid? pkt
    | _ => none

/-- A tick reports what is due, every structure once, and nothing else. -/
def Live (p : HkPlan) (s : Housekeeper M) : Prop :=
  ∀ dtSim, (reportedSids s (finalState (emitHkPackets sub dtSim) s)).Nodup ∧
    ∀ sid, sid ∈ reportedSids s (finalState (emitHkPackets sub dtSim) s) ↔
      p.due (s.gates sub) dtSim sid = true

/-! ### The commands -/

/-- The tables the emission looks at. -/
def Engine.hkTables (e : Engine M) :
    Dict Nat (List HkParameter) × Dict Nat FloatValue × Dict Nat Bool :=
  (e.hkStructures, e.hkIntervals, e.hkEnabled)

/-- The enablement and the interval a command enters. -/
def S3Command.enters (c : S3Command) (refused : Bool) : Option Bool × Option FloatValue :=
  match c.kind with
  | .create => (some true, none)
  | .delete => (some false, none)
  | .enable => (some true, none)
  | .disable => (if refused then none else some false, none)
  | .interval => (none, some (atLeastOne (floatAt 2 c.data)))

/-- Enter a value, if there is one. -/
def enter {ν : Type} (d : Dict Nat ν) (sid : Nat) (value : Option ν) : Dict Nat ν :=
  match value with
  | some v => d.set sid v
  | none => d

variable {sub}

open Engine

theorem building_hkView {α : Type} (x : EStateM PyError Builder α) :
    Keeps (Unchanged hkView) (building x : Program M α) := keeps_zoom fun _ _ => rfl

theorem generateS1ExecFail_hkView (errorCode : Nat) (reason : String) :
    Keeps (Unchanged hkView)
      (generateS1ExecFail errorCode reason : Program M (List TmPacket)) := by
  refine keeps_bind (keeps_modify fun _ => rfl) fun _ => keeps_bind keeps_get fun e => ?_
  exact keeps_map (building_hkView _)

/-- A failure report leaves what is made of the view as it is. -/
theorem generateS1ExecFail_keeps {R : Engine M → Engine M → Prop}
    (h : ∀ e e', Unchanged hkView e e' → R e e') (errorCode : Nat) (reason : String) :
    Keeps R (generateS1ExecFail errorCode reason : Program M (List TmPacket)) :=
  (generateS1ExecFail_hkView errorCode reason).mono h

/-- An incomplete command does nothing. -/
theorem handleS3_incomplete {c : S3Command} (h : ¬ c.Complete) (e : Engine M) :
    finalState (handleS3 sub c.kind.subtype c.data) e = e := by
  obtain ⟨kind, data⟩ := c
  unfold handleS3
  cases kind <;>
    simp only [S3Command.Complete, S3Kind.octets, not_le] at h <;>
    simp only [S3Kind.subtype, Nat.reduceEqDiff, true_and, false_and, or_true, or_self,
      if_false, if_neg (Nat.not_le.mpr h)]
  · rfl
  · rfl
  · rw [if_neg (by omega)]
    rfl
  · rfl
  · rfl

/-- What a complete one enters into the tables. -/
theorem handleS3_hkTables {c : S3Command} (h : c.Complete) (e : Engine M) :
    (finalState (handleS3 sub c.kind.subtype c.data) e).hkTables =
      (e.hkStructures,
        enter e.hkIntervals c.sid (c.enters (isBootloaderBeaconSid sub e.models c.sid)).2,
        enter e.hkEnabled c.sid (c.enters (isBootloaderBeaconSid sub e.models c.sid)).1) := by
  obtain ⟨kind, data⟩ := c
  unfold handleS3
  cases kind <;>
    simp only [S3Command.Complete, S3Kind.octets] at h <;>
    simp only [S3Kind.subtype, Nat.reduceEqDiff, true_and, false_and, or_true, or_self,
      if_false, if_pos h]
  · rfl
  · rfl
  · rfl
  · refine wp_state (P := fun e' : Engine M => e'.hkTables = _).mp ?_
    rw [wp_bind, wp_get]
    by_cases hbeacon : isBootloaderBeaconSid sub e.models (unpackU16 data) = true
    · have henters : (S3Command.mk .disable data).enters true = (none, none) := rfl
      rw [if_pos hbeacon, S3Command.sid, hbeacon, henters]
      have hkept : ∀ errorCode reason, Keeps (fun e₁ e₂ : Engine M => e₂.hkTables = e₁.hkTables)
          (generateS1ExecFail errorCode reason) :=
        generateS1ExecFail_keeps fun _ _ hview => congrArg (fun v => v.2.2) hview
      exact hkept _ _ e
    · have henters : (S3Command.mk .disable data).enters false = (some false, none) := rfl
      rw [if_neg hbeacon, S3Command.sid, Bool.eq_false_iff.mpr hbeacon, henters]
      rfl
  · rfl

/-! ### The engine follows the plan -/

/-- Two intervals that are reached at the same times. -/
def SameInterval (x y : FloatValue) : Prop := ∀ t, x.le t = y.le t

/-- The tables hold what the plan says of a definition. -/
def Tabled (e : Engine M) (sid : Nat) : Option HkOrder → Prop
  | some order => (e.hkStructures.get? sid).isSome ∧ e.hkEnabled.get? sid = some order.enabled ∧
      ∃ interval, e.hkIntervals.get? sid = some interval ∧ SameInterval order.intervalS interval
  | none => (e.hkStructures.get? sid).isSome → e.hkEnabled.get? sid = some false

/-- The engine is as the plan says. -/
structure Agrees (p : HkPlan) (s : Housekeeper M) : Prop where
  tabled : ∀ sid, Tabled s.engine sid (p.definitions sid)
  elapsed : ∀ sid, (s.engine.hkStructures.get? sid).isSome → p.elapsed sid = s.timer sid

/-- What the steps of a run have to keep to. -/
def Honoured (sub : Subsystems M) (p : HkPlan) (s : Housekeeper M) : HkStep M → Prop
  | .command c => c.Complete →
      match c.kind with
      | .create => (s.engine.hkStructures.get? c.sid).isSome ∧
          ∃ interval, s.engine.hkIntervals.get? c.sid = some interval ∧
            SameInterval (hkDefinition c.data).intervalS interval
      | .enable => (s.engine.hkStructures.get? c.sid).isSome → (p.definitions c.sid).isSome
      | _ => True
  | .tick _ => Reportable sub s.engine
  | .configure sids => ∀ sid ∈ sids,
      (s.engine.hkStructures.get? sid).isSome → (p.definitions sid).isSome
  | .other _ => True

theorem Tabled.congr {e e' : Engine M} {sid : Nat} {order : Option HkOrder}
    (h : Tabled e sid order) (hstructures : e'.hkStructures.get? sid = e.hkStructures.get? sid)
    (hintervals : e'.hkIntervals.get? sid = e.hkIntervals.get? sid)
    (henabled : e'.hkEnabled.get? sid = e.hkEnabled.get? sid) : Tabled e' sid order := by
  cases order with
  | none =>
      intro hsome
      rw [henabled]
      exact h (hstructures ▸ hsome)
  | some order =>
      obtain ⟨hsome, hon, hinterval⟩ := h
      exact ⟨hstructures ▸ hsome, henabled.trans hon, hintervals ▸ hinterval⟩

variable {s : Housekeeper M} {p : HkPlan}

/-- A structure of the configuration is entered. -/
theorem Agrees.load (h : Agrees p s) (defaultEnabledSids : List Nat) (hk : HkStructureDef) :
    Agrees (p.load defaultEnabledSids hk) (loadHk defaultEnabledSids s hk) := by
  refine ⟨fun sid => ?_, fun sid hsome => ?_⟩
  · by_cases heq : sid = hk.sid
    · rw [heq]
      simp only [HkPlan.load, if_true, loadHk, Tabled, Dict.get?_set_same, Option.isSome_some,
        true_and]
      exact ⟨hk.intervalS, rfl, fun _ => rfl⟩
    · simp only [HkPlan.load, if_neg heq]
      exact (h.tabled sid).congr (Dict.get?_set_ne _ heq _) (Dict.get?_set_ne _ heq _)
        (Dict.get?_set_ne _ heq _)
  · simp only [loadHk]
    rw [timer_set]
    by_cases heq : sid = hk.sid
    · simp only [HkPlan.load, if_pos heq]
    · simp only [HkPlan.load, if_neg heq]
      refine h.elapsed sid ?_
      rwa [loadHk, Dict.get?_set_ne _ heq] at hsome

theorem agrees_boot (raw : List HkStructureDef) (defaultEnabledSids : List Nat) (e : Engine M) :
    Agrees (bootPlan raw defaultEnabledSids) (bootHk raw defaultEnabledSids e) := by
  unfold bootPlan bootHk
  have hempty : Agrees { definitions := fun _ => none, elapsed := fun _ => floatOf 0 }
      (Housekeeper.mk { e with hkStructures := .empty, hkIntervals := .empty, hkEnabled := .empty }
        .empty) := by
    refine ⟨fun sid hsome => ?_, fun sid hsome => ?_⟩
    · cases hsome
    · cases hsome
  generalize Housekeeper.mk _ _ = s at hempty ⊢
  generalize HkPlan.mk _ _ = p at hempty ⊢
  induction raw generalizing p s with
  | nil => exact hempty
  | cons hk rest ih => exact ih _ _ (hempty.load defaultEnabledSids hk)

theorem enter_same {ν : Type} (d : Dict Nat ν) (sid : Nat) (value : Option ν) :
    (enter d sid value).get? sid = value.or (d.get? sid) := by
  cases value with
  | none => rfl
  | some v => exact Dict.get?_set_same d sid v

theorem enter_ne {ν : Type} (d : Dict Nat ν) {sid other : Nat} (hne : other ≠ sid)
    (value : Option ν) : (enter d sid value).get? other = d.get? other := by
  cases value with
  | none => rfl
  | some v => exact Dict.get?_set_ne d hne v

theorem finalState_onEngine {α : Type} (x : Program M α) (s : Housekeeper M) :
    finalState (onEngine x) s = { s with engine := finalState x s.engine } := by
  refine wp_state (P := fun s' : Housekeeper M => s' = _).mp ?_
  rw [onEngine, wp_zoom]
  exact wp_state.mpr rfl

/-- What a command that is honoured enters for its definition is what the plan says. -/
theorem Tabled.command {e e' : Engine M} {c : S3Command} {refused : Bool}
    {order : Option HkOrder} (h : Tabled e c.sid order)
    (hcreate : c.kind = .create → (e.hkStructures.get? c.sid).isSome ∧
      ∃ interval, e.hkIntervals.get? c.sid = some interval ∧
        SameInterval (hkDefinition c.data).intervalS interval)
    (henable : c.kind = .enable → (e.hkStructures.get? c.sid).isSome → order.isSome)
    (hstructures : e'.hkStructures.get? c.sid = e.hkStructures.get? c.sid)
    (hintervals : e'.hkIntervals.get? c.sid =
      (c.enters refused).2.or (e.hkIntervals.get? c.sid))
    (henabled : e'.hkEnabled.get? c.sid = (c.enters refused).1.or (e.hkEnabled.get? c.sid)) :
    Tabled e' c.sid (c.order refused order) := by
  rw [S3Command.enters] at hintervals henabled
  rw [S3Command.order]
  cases hkind : c.kind with
  | create =>
      simp only [hkind, Option.none_or, Option.some_or] at hintervals henabled ⊢
      obtain ⟨hsome, hinterval⟩ := hcreate hkind
      exact ⟨hstructures ▸ hsome, henabled, hintervals ▸ hinterval⟩
  | delete =>
      simp only [hkind, Option.some_or] at henabled ⊢
      exact fun _ => henabled
  | enable =>
      simp only [hkind, Option.none_or, Option.some_or] at hintervals henabled ⊢
      cases order with
      | none =>
          intro hsome
          rw [hstructures] at hsome
          exact absurd (henable hkind hsome) Bool.false_ne_true
      | some o =>
          obtain ⟨hsome, -, hinterval⟩ := h
          exact ⟨hstructures ▸ hsome, henabled, hintervals ▸ hinterval⟩
  | disable =>
      cases refused with
      | true =>
          simp only [hkind, if_true, Option.none_or] at hintervals henabled ⊢
          exact h.congr hstructures hintervals henabled
      | false =>
          simp only [hkind, Bool.false_eq_true, if_false, Option.none_or, Option.some_or]
            at hintervals henabled ⊢
          cases order with
          | none => exact fun _ => henabled
          | some o =>
              obtain ⟨hsome, -, hinterval⟩ := h
              exact ⟨hstructures ▸ hsome, henabled, hintervals ▸ hinterval⟩
  | interval =>
      simp only [hkind, Option.none_or, Option.some_or] at hintervals henabled ⊢
      cases order with
      | none => exact fun hsome => henabled.trans (h (hstructures ▸ hsome))
      | some o =>
          obtain ⟨hsome, hon, -⟩ := h
          exact ⟨hstructures ▸ hsome, henabled.trans hon, _, hintervals, fun _ => rfl⟩

open HkStep

/-- A command that is honoured. -/
theorem Agrees.command (h : Agrees p s) {c : S3Command} (hok : Honoured sub p s (.command c)) :
    Agrees (plan sub s p (.command c)) (run sub s (.command c)) := by
  rw [plan, run, finalState_onEngine]
  by_cases hcomplete : c.Complete
  · have htables := @handleS3_hkTables _ sub _ hcomplete s.engine
    generalize finalState (handleS3 sub c.kind.subtype c.data) s.engine = e' at htables ⊢
    obtain ⟨hstructures, hintervals, henabled⟩ := by simpa [hkTables] using htables
    have hkept := hok hcomplete
    refine ⟨fun sid => ?_, fun sid hsome => ?_⟩
    · simp only [HkPlan.command]
      by_cases heq : sid = c.sid
      · rw [if_pos ⟨hcomplete, heq⟩, heq]
        refine (h.tabled c.sid).command ?_ ?_ (by rw [hstructures]) ?_ ?_
        · intro hkind
          rw [hkind] at hkept
          exact hkept
        · intro hkind
          rw [hkind] at hkept
          exact hkept
        · rw [hintervals, enter_same]
        · rw [henabled, enter_same]
      · rw [if_neg fun hboth => heq hboth.2]
        refine (h.tabled sid).congr (by rw [hstructures]) ?_ ?_
        · rw [hintervals, enter_ne _ heq]
        · rw [henabled, enter_ne _ heq]
    · rw [hstructures] at hsome
      exact h.elapsed sid hsome
  · rw [handleS3_incomplete hcomplete]
    have hsame : p.command c (isBootloaderBeaconSid sub s.engine.models c.sid) = p := by
      simp only [HkPlan.command, hcomplete, false_and, if_false]
    rw [hsame]
    exact h

theorem Gate.advance_congr {x y : FloatValue} (h : SameInterval x y) (gate : Gate)
    (dtSim timer : FloatValue) : gate.advance x dtSim timer = gate.advance y dtSim timer := by
  cases gate with
  | halted => rfl
  | restarted => rfl
  | running => rw [Gate.advance, Gate.advance, h]

/-- A structure without an interval is in no plan. -/
theorem Agrees.undefined (h : Agrees p s) {sid : Nat} (hkey : sid ∉ s.engine.hkIntervals.keys) :
    p.definitions sid = none := by
  have htabled := h.tabled sid
  cases horder : p.definitions sid with
  | none => rfl
  | some order =>
      rw [horder] at htabled
      obtain ⟨-, -, interval, hinterval, -⟩ := htabled
      exact absurd (Dict.mem_keys_iff.mpr ⟨interval, hinterval⟩) hkey

/-- A structure advances on board as in the plan. -/
theorem Agrees.advance {p : HkPlan} {s : Housekeeper M} (h : Agrees p s) {swImage : Int}
    (himage : s.engine.swImageParam = .ok swImage) (dtSim : FloatValue)
    {item : Nat × FloatValue} (hmem : item ∈ s.engine.hkIntervals.items)
    (hsome : (s.engine.hkStructures.get? item.1).isSome) :
    s.advance sub swImage dtSim item = p.advance (s.gates sub) dtSim item.1 := by
  have htabled := h.tabled item.1
  have hgate : s.gates sub item.1 = hkGate sub swImage s.engine.models item.1 := by
    rw [Housekeeper.gates, himage]
  rw [Housekeeper.advance, HkPlan.advance, h.elapsed item.1 hsome]
  cases horder : p.definitions item.1 with
  | none =>
      rw [horder] at htabled
      rw [htabled hsome, Option.getD_some, if_neg Bool.false_ne_true]
  | some order =>
      rw [horder] at htabled
      obtain ⟨enabled, intervalS⟩ := order
      obtain ⟨-, hon, interval, hinterval, hsame⟩ := htabled
      rw [Dict.get?_eq_some_iff.mpr hmem] at hinterval
      cases hinterval
      rw [hon, Option.getD_some]
      cases enabled with
      | false => rw [if_neg Bool.false_ne_true]
      | true =>
          rw [if_pos rfl, hgate]
          exact (Gate.advance_congr hsame _ dtSim (s.timer item.1)).symm

/-- A tick. -/
theorem Agrees.tick (h : Agrees p s) (dtSim : FloatValue) (hready : Reportable sub s.engine) :
    Agrees (plan sub s p (.tick dtSim)) (run sub s (.tick dtSim)) := by
  obtain ⟨swImage, himage⟩ := hready.image
  have hserved := emitHkPackets_served hready himage dtSim
  rw [plan, run]
  generalize finalState (emitHkPackets sub dtSim) s = s' at hserved ⊢
  obtain ⟨-, -, hstructures, hintervals, henabled⟩ := by
    simpa [hkView] using hserved.sends.1
  refine ⟨fun sid => ?_, fun sid hsome => ?_⟩
  · exact (h.tabled sid).congr (by rw [hstructures]) (by rw [hintervals]) (by rw [henabled])
  · rw [hstructures] at hsome
    show (p.advance (s.gates sub) dtSim sid).1 = s'.timer sid
    by_cases hkey : sid ∈ s.engine.hkIntervals.keys
    · obtain ⟨interval, hinterval⟩ := Dict.mem_keys_iff.mp hkey
      have hmem := Dict.get?_eq_some_iff.mp hinterval
      rw [hserved.advanced _ hmem, ← h.advance himage dtSim hmem hsome]
    · rw [hserved.others sid hkey, ← h.elapsed sid hsome, HkPlan.advance, h.undefined hkey]

/-- The enablement anew. -/
theorem Agrees.configure (h : Agrees p s) {sids : List Nat}
    (hok : Honoured sub p s (.configure sids)) :
    Agrees (plan sub s p (.configure sids)) (run sub s (.configure sids)) := by
  refine ⟨fun sid => ?_, h.elapsed⟩
  have htabled := h.tabled sid
  rw [plan, run]
  simp only [HkPlan.configure]
  cases horder : p.definitions sid with
  | none =>
      intro hsome
      rw [horder] at htabled
      have hout : sids.contains sid = false := by
        by_contra hin
        have hdefined := hok sid (by simpa using hin) hsome
        rw [horder] at hdefined
        cases hdefined
      rw [Dict.get?_mapItems, htabled hsome, Option.map_some, hout]
  | some order =>
      rw [horder] at htabled
      obtain ⟨hsome, hon, hinterval⟩ := htabled
      refine ⟨hsome, ?_, hinterval⟩
      rw [Dict.get?_mapItems, hon, Option.map_some]

theorem Agrees.other (h : Agrees p s) (e : Engine M) :
    Agrees (plan sub s p (.other e)) (run sub s (.other e)) :=
  ⟨fun sid => (h.tabled sid).congr rfl rfl rfl, h.elapsed⟩

/-- **The engine follows the plan**, by induction on the run. -/
theorem HkRun.agrees (h : HkRun sub (Honoured sub) p s) : Agrees p s := by
  induction h with
  | boot raw defaultEnabledSids e => exact agrees_boot raw defaultEnabledSids e
  | step before step hok ih =>
      cases step with
      | command c => exact ih.command hok
      | tick dtSim => exact ih.tick dtSim hok
      | configure sids => exact ih.configure hok
      | other e => exact ih.other e

/-- What was added to the log in a tick. -/
theorem reportedSids_of_sends {sids : List Nat} {s s' : Housekeeper M}
    (h : Sends sids s.engine s'.engine) : reportedSids s s' = sids := by
  obtain ⟨-, pkts, hlog, hsids⟩ := h
  rw [reportedSids, hlog, List.drop_left, List.filterMap_map, ← hsids]
  rfl

/-- **Housekeeping definitions are live** in every run that keeps to the condition: in the state
reached, whatever the length of the next tick, exactly the structures due by the plan are
reported. -/
theorem HkRun.live {p : HkPlan} {s : Housekeeper M} (h : HkRun sub (Honoured sub) p s)
    (hready : Reportable sub s.engine) : Live sub p s := by
  have hagrees := h.agrees
  obtain ⟨swImage, himage⟩ := hready.image
  intro dtSim
  rw [reportedSids_of_sends (emitHkPackets_served hready himage dtSim).sends]
  refine ⟨Dict.nodup_filter _ s.engine.hkIntervals.nodup, fun sid => ?_⟩
  constructor
  · intro hreported
    obtain ⟨item, hitem, rfl⟩ := List.mem_map.mp hreported
    obtain ⟨hmem, hfires⟩ := List.mem_filter.mp hitem
    obtain ⟨hdue, hsome⟩ := Bool.and_eq_true_iff.mp hfires
    rw [HkPlan.due, ← hagrees.advance himage dtSim hmem hsome]
    exact hdue
  · intro hdue
    by_cases hkey : sid ∈ s.engine.hkIntervals.keys
    · obtain ⟨interval, hinterval⟩ := Dict.mem_keys_iff.mp hkey
      have hmem := Dict.get?_eq_some_iff.mp hinterval
      have hsome : (s.engine.hkStructures.get? sid).isSome := by
        have htabled := hagrees.tabled sid
        cases horder : p.definitions sid with
        | none =>
            rw [HkPlan.due, HkPlan.advance, horder] at hdue
            cases hdue
        | some order =>
            rw [horder] at htabled
            exact htabled.1
      refine List.mem_map.mpr ⟨(sid, interval), List.mem_filter.mpr ⟨hmem, ?_⟩, rfl⟩
      rw [Housekeeper.fires, hagrees.advance himage dtSim hmem hsome, hsome, Bool.and_true]
      exact hdue
    · rw [HkPlan.due, HkPlan.advance, hagrees.undefined hkey] at hdue
      cases hdue

/-- What the reports are made of. -/
def Engine.hkSources (e : Engine M) : Dict Nat Value × M × Dict Nat (List HkParameter) :=
  (e.params, e.models, e.hkStructures)

theorem hkSources_of_hkView (e e' : Engine M) (h : Unchanged hkView e e') :
    Unchanged hkSources e e' := by
  have hview : e'.hkView = e.hkView := h
  obtain ⟨hparams, hmodels, hstructures, -, -⟩ := by simpa [hkView] using hview
  simp only [Unchanged, hkSources, hparams, hmodels, hstructures]

theorem setHk_hkSources (sid : Nat) (enabled : Bool) :
    Keeps (Unchanged hkSources) (do
      setHkEnabled sid enabled
      pure [] : Program M (List TmPacket)) :=
  keeps_bind (keeps_modify fun _ => rfl) fun _ => keeps_pure _

theorem handleS3_hkSources (subtype : Nat) (data : Bytes) :
    Keeps (Unchanged hkSources) (handleS3 sub subtype data) := by
  refine keeps_ite (fun _ => ?_) fun _ => keeps_ite (fun _ => ?_) fun _ =>
    keeps_ite (fun _ => ?_) fun _ => keeps_ite (fun _ => setHk_hkSources _ _) fun _ =>
    keeps_ite (fun _ => ?_) fun _ => keeps_ite (fun _ => ?_) fun _ =>
    keeps_ite (fun _ => ?_) fun _ => keeps_pure _
  · exact keeps_bind (keeps_modify fun _ => rfl) fun _ => setHk_hkSources _ _
  · exact keeps_bind (keeps_modify fun _ => rfl) fun _ => setHk_hkSources _ _
  · refine keeps_bind keeps_get fun e => keeps_bind ?_ fun _ => keeps_pure _
    exact (building_hkView _).mono hkSources_of_hkView
  · refine keeps_bind keeps_get fun e => keeps_ite (fun _ => ?_) fun _ => setHk_hkSources _ _
    exact generateS1ExecFail_keeps hkSources_of_hkView _ _
  · exact keeps_bind (keeps_modify fun _ => rfl) fun _ => keeps_pure _
  · exact keeps_bind (keeps_modify fun _ => rfl) fun _ => keeps_pure _

/-- After a command a tick is possible as before. -/
theorem Reportable.command (h : Reportable sub s.engine) (c : S3Command) :
    Reportable sub (run sub s (.command c)).engine := by
  have hsources := (@handleS3_hkSources M sub c.kind.subtype c.data).final s.engine
  rw [run, finalState_onEngine]
  obtain ⟨hparams, hmodels, hstructures⟩ := by
    simpa [Unchanged, hkSources] using hsources
  obtain ⟨image, notNegative, time, packs⟩ := h
  rw [swImageParam, ← hparams] at image
  rw [← hmodels] at notNegative time
  rw [← hparams, ← hstructures] at packs
  exact ⟨image, notNegative, time, packs⟩

/-- The plain engine with one structure, which is not enabled. -/
def plainHk : Housekeeper PlainModels := bootHk [{ sid := 1, parameters := [] }] [] plainEngine

def plainPlan : HkPlan := bootPlan [{ sid := 1, parameters := [] }] []

theorem plainHk_run (P : HkPlan → Housekeeper PlainModels → HkStep PlainModels → Prop) :
    HkRun (plainSubsystems []) P plainPlan plainHk := HkRun.boot _ _ _

theorem plainHk_reportable : Reportable (plainSubsystems []) plainHk.engine := by
  refine ⟨⟨1, ?_⟩, le_refl 0, show (0 : Int) < 2 ^ 32 by decide, ?_⟩
  · rfl
  · intro sid parameters hstructure
    have hone : (Dict.empty.set 1 ([] : List HkParameter)).get? sid = some parameters := hstructure
    by_cases heq : sid = 1
    · rw [heq, Dict.get?_set_same] at hone
      cases hone
      exact ⟨by omega, [], rfl, by decide⟩
    · rw [Dict.get?_set_ne _ heq] at hone
      cases hone

/-- The telecommand that enables it. -/
def enableOne : S3Command := { kind := .enable, data := [0, 1] }

/-- It is then reported when it is due. -/
theorem HkRun.live_enabled :
    Live (plainSubsystems []) (HkStep.plan (plainSubsystems []) plainHk plainPlan (.command enableOne))
      (HkStep.run (plainSubsystems []) plainHk (.command enableOne)) :=
  HkRun.live (HkRun.step (plainHk_run _) (.command enableOne) fun _ _ => rfl)
    (plainHk_reportable.command enableOne)

/-- The telecommand that creates a structure of identifier 99, every four seconds. -/
def createNinetyNine : S3Command := { kind := .create, data := [0, 99, 0, 0] }

/-- It is due after ten seconds, and not reported. -/
theorem created_never_reported :
    ¬ ∀ (p : HkPlan) (s : Housekeeper PlainModels),
      HkRun (plainSubsystems []) (fun _ _ _ => True) p s →
      Reportable (plainSubsystems []) s.engine → Live (plainSubsystems []) p s := by
  intro hall
  have hready := plainHk_reportable.command createNinetyNine
  have hrun := (plainHk_run fun _ _ _ => True).step (.command createNinetyNine) trivial
  obtain ⟨-, hlive⟩ := hall _ _ hrun hready (floatOf 10)
  obtain ⟨swImage, himage⟩ := hready.image
  rw [reportedSids_of_sends (emitHkPackets_served hready himage (floatOf 10)).sends] at hlive
  have hreported := (hlive 99).mpr (by decide +kernel)
  obtain ⟨item, hitem, heq⟩ := List.mem_map.mp hreported
  obtain ⟨-, hsome⟩ := Bool.and_eq_true_iff.mp (List.mem_filter.mp hitem).2
  rw [heq] at hsome
  revert hsome
  decide

end Spacecraft
