import MissionSim.Effects
import MissionSim.ProcedureSteps

/-!
# Loading a breakpoint

A snapshot is a dictionary read from a file, or handed over, with nothing known about its
entries.  Loading restores it section by section, in the order of the source.  An exception of
a section ends the load, which then returns `False`; what was restored before stays restored.

The components are known by the protocol `Stateful` alone: `set_state` changes the state of its
component, and may change part of it before it raises.  The clock's reading of a text and the
orbit propagator are taken as they are, too.
-/

namespace Breakpoints

open Python Effects Binary32

/-- A value in a snapshot. -/
inductive Item where
  | null
  | bool (b : Bool)
  | int (n : Int)
  | float (x : FloatValue)
  | text (s : String)
  | list (items : List Item)
  | dict (items : List (Item × Item))

/-- A value as a number or a text. -/
def Item.scalar : Item → Procedures.Scalar
  | .null => .null
  | .bool b => .bool b
  | .int n => .int n
  | .float x => .float x
  | .text s => .text s
  | .list _ | .dict _ => .other

/-- `int(value)`. -/
def Item.toInt (x : Item) : Except PyError Int := x.scalar.toInt

/-- `float(value)`. -/
def Item.toFloat (x : Item) : Except PyError FloatValue := x.scalar.toFloat

/-- `bool(value)`. -/
def Item.truthy : Item → Bool
  | .null => false
  | .bool b => b
  | .int n => n != 0
  | .float x => Python.truthy x
  | .text s => s != ""
  | .list items => !items.isEmpty
  | .dict items => !items.isEmpty

/-- `value or {}`. -/
def Item.orEmpty (x : Item) : Item := if x.truthy then x else .dict []

/-- The entry of a key. -/
def lookup (key : String) : List (Item × Item) → Option Item
  | [] => none
  | (.text k, x) :: rest => if k = key then some x else lookup key rest
  | _ :: rest => lookup key rest

/-- `state.get(key, default)`. -/
def getD (items : List (Item × Item)) (key : String) (default : Item) : Item :=
  (lookup key items).getD default

/-- `state.get(key)`. -/
def get (items : List (Item × Item)) (key : String) : Item := getD items key .null

/-- `value.items()`, and the beginning of every `value.get(…)`. -/
def Item.items : Item → Except PyError (List (Item × Item))
  | .dict items => .ok items
  | _ => .error (.other "AttributeError")

/-- What iterating over a value gives. -/
def Item.iterate : Item → Except PyError (List Item)
  | .list items => .ok items
  | .dict items => .ok (items.map Prod.fst)
  | .text s => .ok (s.toList.map fun c => .text c.toString)
  | _ => .error .typeError

/-- `{int(k): v for k, v in value.items()}`. -/
def intKeys (x : Item) : Except PyError (Dict Int Item) := do
  let items ← x.items
  let pairs ← items.mapM fun item => do return (← item.1.toInt, item.2)
  return pairs.foldl (fun d pair => d.set pair.1 pair.2) Dict.empty

/-- An element of the list that `dict(…)` is made from. -/
def Item.pair (x : Item) : Except PyError (Item × Item) := do
  match ← x.iterate with
  | [.list _, _] | [.dict _, _] => throw .typeError
  | [key, value] => return (key, value)
  | _ => throw .valueError

/-- `dict(value)`; of several items with one key the last counts. -/
def Item.toDict : Item → Except PyError (List (Item × Item))
  | .dict items => .ok items
  | x => do (← x.iterate).mapM Item.pair

/-! ### Random numbers -/

/-- The state of `random.Random`. -/
structure Rng where
  words : List Nat
  index : Nat
  gaussNext : Option FloatValue

/-- The number of words. -/
def rngWords : Nat := 624

/-- `rng_state_from_json(data)`. -/
def rngStateFromJson (data : Item) : Except PyError (Int × List Int × Option FloatValue) := do
  match ← data.iterate with
  | [version, internal, gaussNext] =>
      let version ← version.toInt
      let words ← (← internal.iterate).mapM Item.toInt
      let gaussNext ← match gaussNext with
        | .null => pure none
        | x => some <$> x.toFloat
      return (version, words, gaussNext)
  | _ => throw .valueError

/-- `setstate` of the generator below `random.Random`: 624 words and an index. -/
def setWords (internal : List Int) : EStateM PyError Rng Unit := do
  if internal.length ≠ rngWords + 1 then throw .valueError
  let words := internal.take rngWords
  if words.any fun word => word < 0 ∨ 2 ^ 64 ≤ word then throw .overflowError
  let index := internal.getD rngWords 0
  if index < 0 ∨ rngWords < index then throw .valueError
  modify fun rng => { rng with
    words := words.map fun word => word.toNat % 2 ^ 32
    index := index.toNat }

/-- `rng.setstate(state)`. -/
def setstate (state : Int × List Int × Option FloatValue) : EStateM PyError Rng Unit := do
  let (version, internal, gaussNext) := state
  if version = 3 then
    modify fun rng => { rng with gaussNext := gaussNext }
    setWords internal
  else if version = 2 then
    modify fun rng => { rng with gaussNext := gaussNext }
    setWords (internal.map (· % 2 ^ 32))
  else throw .valueError

/-- `restore_rng(rng, data)`. -/
def restoreRng (data : Item) : EStateM PyError Rng Unit :=
  match data with
  | .null => pure ()
  | data => do setstate (← fromExcept (rngStateFromJson data))

/-! ### The engine -/

/-- What the load relies on: the classes of the components, the clock and the propagator.  A
component has a random generator. -/
structure Library (σ τ ω : Type) where
  /-- `set_state` of the component registered under a name. -/
  setState : String → Item → EStateM PyError σ Unit
  rng : σ → Rng
  withRng : Rng → σ → σ
  /-- `datetime.fromisoformat`. -/
  fromIsoFormat : Item → Except PyError τ
  setElset : Item → EStateM PyError ω Unit
  reset : τ → EStateM PyError ω Unit
  /-- `_LEGACY_KEYS` in the order it is iterated in. -/
  legacyKeys : List String
  legacyKeys_perm : legacyKeys.Perm ["tm_storage", "obcp", "memory"]

/-- The state of the engine, as far as a snapshot can hold it.  The registry has the engine's
own part under the name `engine`. -/
structure Engine (σ τ ω : Type) where
  tickCount : Item
  simTime : τ
  speed : Item
  scMode : Item
  params : Dict Int Item
  fdirTriggered : List (Item × Item)
  hkTimers : Dict Int Item
  components : Dict String σ
  hkEnabled : Dict Int Bool
  orbit : ω

variable {σ τ ω : Type}

/-- Run a program on the component registered under a name, if there is one. -/
def onComponent (name : String) (x : EStateM PyError σ Unit) :
    EStateM PyError (Engine σ τ ω) Unit := do
  match (← MonadState.get).components.get? name with
  | some component =>
      zoom (fun _ => component) (fun c e => { e with components := e.components.set name c }) x
  | none => pure ()

/-- `component.rng`. -/
def onRng (lib : Library σ τ ω) (x : EStateM PyError Rng Unit) : EStateM PyError σ Unit :=
  zoom lib.rng lib.withRng x

/-- Run a program on the propagator. -/
def onOrbit (x : EStateM PyError ω Unit) : EStateM PyError (Engine σ τ ω) Unit :=
  zoom Engine.orbit (fun orbit e => { e with orbit := orbit }) x

/-! ### Sections -/

/-- What the engine holds itself. -/
inductive Attribute where
  | tickCount | simTime | speed | scMode | params | fdirTriggered | hkTimers
  deriving DecidableEq, Repr

/-- The sections of a load. -/
inductive Section where
  | assign (a : Attribute)
  | models
  | engine
  | components
  | legacy
  | rng
  | hkEnabled
  | orbit
  deriving DecidableEq, Repr

/-- The sections in their order. -/
def sections : List Section :=
  [.assign .tickCount, .assign .simTime, .assign .speed, .assign .scMode, .assign .params,
    .assign .fdirTriggered, .assign .hkTimers, .models, .engine, .components, .legacy, .rng,
    .hkEnabled, .orbit]

/-- The assignment of an attribute. -/
def Attribute.restore (lib : Library σ τ ω) (items : List (Item × Item)) :
    Attribute → EStateM PyError (Engine σ τ ω) Unit
  | .tickCount =>
      store (.ok (getD items "tick_count" (.int 0))) fun tick e => { e with tickCount := tick }
  | .simTime =>
      match lookup "sim_time" items with
      | some text => store (lib.fromIsoFormat text) fun time e => { e with simTime := time }
      | none => pure ()
  | .speed =>
      store (.ok (getD items "speed" (.float (.finite false 1 0)))) fun speed e =>
        { e with speed := speed }
  | .scMode => store (.ok (getD items "sc_mode" (.int 0))) fun mode e => { e with scMode := mode }
  | .params =>
      store (intKeys (getD items "params" (.dict []))) fun params e => { e with params := params }
  | .fdirTriggered =>
      store (getD items "fdir_triggered" (.dict [])).orEmpty.toDict fun triggered e =>
        { e with fdirTriggered := triggered }
  | .hkTimers =>
      store (intKeys (getD items "hk_timers" (.dict []))) fun timers e =>
        { e with hkTimers := timers }

/-- A loop over the components named in an entry of the snapshot. -/
def restoreNamed (lib : Library σ τ ω) (register : String → String) (entries : Item) :
    EStateM PyError (Engine σ τ ω) Unit := do
  (← fromExcept entries.items).forM fun entry =>
    match entry.1 with
    | .text name => onComponent (register name) (lib.setState (register name) entry.2)
    | _ => pure ()

/-- One key of the snapshot for the component of the same name. -/
def restoreKey (lib : Library σ τ ω) (items : List (Item × Item)) (name : String) :
    EStateM PyError (Engine σ τ ω) Unit :=
  match lookup name items with
  | some x => onComponent name (lib.setState name x)
  | none => pure ()

/-- What a section does. -/
def Section.restore (lib : Library σ τ ω) (items : List (Item × Item)) :
    Section → EStateM PyError (Engine σ τ ω) Unit
  | .assign a => a.restore lib items
  | .models => restoreNamed lib ("model:" ++ ·) (getD items "subsystems" (.dict []))
  | .engine => restoreKey lib items "engine"
  | .components => restoreNamed lib id (getD items "components" (.dict []))
  | .legacy => lib.legacyKeys.forM (restoreKey lib items)
  | .rng => do
      let block ← fromExcept (get items "rng").orEmpty.items
      onComponent "engine" (onRng lib (restoreRng (get block "engine")))
      onComponent "failure_manager" (onRng lib (restoreRng (get block "failure_manager")))
  | .hkEnabled =>
      match lookup "hk_enabled" items with
      | some entries => do
          (← fromExcept entries.items).forM fun entry => do
            let sid ← fromExcept entry.1.toInt
            modify fun e => { e with hkEnabled := e.hkEnabled.set sid entry.2.truthy }
      | none => pure ()
  | .orbit => do
      tryCatch (onOrbit (lib.setElset (get items "orbit_elset"))) fun _ => pure ()
      let utc := if (get items "orbit_utc").truthy then get items "orbit_utc"
        else get items "sim_time"
      if utc.truthy then
        tryCatch (do onOrbit (lib.reset (← fromExcept (lib.fromIsoFormat utc)))) fun _ => pure ()

/-! ### The load -/

/-- What stands behind a path. -/
inductive File where
  | missing
  /-- The contents, or the exception that opening or parsing raises. -/
  | present (contents : Except PyError Item)

/-- The snapshot that is loaded. -/
def snapshot (state : Item) : Option File → Except PyError Item
  | some (.present contents) => contents
  | some .missing | none => .ok state

/-- Restore all sections. -/
def restoreAll (lib : Library σ τ ω) (state : Item) : EStateM PyError (Engine σ τ ω) Unit := do
  let items ← fromExcept state.items
  sections.forM (Section.restore lib items)

/-- `load(state, path)`. -/
def load (lib : Library σ τ ω) (state : Item) (path : Option File) :
    EStateM PyError (Engine σ τ ω) Bool := do
  match ← fromExcept (snapshot state path) with
  | .null => return false
  | state =>
      tryCatch (do restoreAll lib state; return true) fun _ => return false

/-! ### What a section restores -/

/-- What can be restored. -/
inductive Part where
  | field (a : Attribute)
  | component (name : String)
  | hkEnabled
  | orbit

/-- The attribute is as before. -/
def Attribute.Same : Attribute → Engine σ τ ω → Engine σ τ ω → Prop
  | .tickCount, e, e' => e'.tickCount = e.tickCount
  | .simTime, e, e' => e'.simTime = e.simTime
  | .speed, e, e' => e'.speed = e.speed
  | .scMode, e, e' => e'.scMode = e.scMode
  | .params, e, e' => e'.params = e.params
  | .fdirTriggered, e, e' => e'.fdirTriggered = e.fdirTriggered
  | .hkTimers, e, e' => e'.hkTimers = e.hkTimers

/-- The part is as before. -/
def Part.Same : Part → Engine σ τ ω → Engine σ τ ω → Prop
  | .field a, e, e' => a.Same e e'
  | .component name, e, e' => e'.components.get? name = e.components.get? name
  | .hkEnabled, e, e' => e'.hkEnabled = e.hkEnabled
  | .orbit, e, e' => e'.orbit = e.orbit

/-- The name is a key of an entry. -/
def Item.Names (x : Item) (name : String) : Prop :=
  ∃ items entry, x.items = .ok items ∧ entry ∈ items ∧ entry.1 = .text name

/-- The section restores the part. -/
def Section.Restores (items : List (Item × Item)) : Section → Part → Prop
  | .assign a, .field b => a = b
  | .models, .component name =>
      ∃ short, name = "model:" ++ short ∧ (getD items "subsystems" (.dict [])).Names short
  | .engine, .component name => name = "engine" ∧ (lookup name items).isSome
  | .components, .component name => (getD items "components" (.dict [])).Names name
  | .legacy, .component name =>
      name ∈ ["tm_storage", "obcp", "memory"] ∧ (lookup name items).isSome
  | .rng, .component name => name = "engine" ∨ name = "failure_manager"
  | .hkEnabled, .hkEnabled => True
  | .orbit, .orbit => True
  | _, _ => False

/-- The attribute holds what the snapshot says. -/
def Attribute.Restored (lib : Library σ τ ω) (items : List (Item × Item)) :
    Attribute → Engine σ τ ω → Engine σ τ ω → Prop
  | .tickCount, _, e' => e'.tickCount = getD items "tick_count" (.int 0)
  | .simTime, e, e' =>
      match lookup "sim_time" items with
      | some text => lib.fromIsoFormat text = .ok e'.simTime
      | none => e'.simTime = e.simTime
  | .speed, _, e' => e'.speed = getD items "speed" (.float (.finite false 1 0))
  | .scMode, _, e' => e'.scMode = getD items "sc_mode" (.int 0)
  | .params, _, e' => intKeys (getD items "params" (.dict [])) = .ok e'.params
  | .fdirTriggered, _, e' =>
      (getD items "fdir_triggered" (.dict [])).orEmpty.toDict = .ok e'.fdirTriggered
  | .hkTimers, _, e' => intKeys (getD items "hk_timers" (.dict [])) = .ok e'.hkTimers

theorem attribute_same_refl (a : Attribute) (e : Engine σ τ ω) : a.Same e e := by
  cases a <;> rfl

variable {a : Attribute}

theorem attribute_same_trans {e e' e'' : Engine σ τ ω} (h : a.Same e e') (h' : a.Same e' e'') :
    a.Same e e'' := by
  cases a <;> exact h'.trans h

theorem part_same_refl (p : Part) (e : Engine σ τ ω) : p.Same e e := by
  cases p with
  | field a => exact attribute_same_refl a e
  | component | hkEnabled | orbit => rfl

theorem part_same_trans (p : Part) (e e' e'' : Engine σ τ ω) (h : p.Same e e')
    (h' : p.Same e' e'') : p.Same e e'' := by
  cases p with
  | field a => exact attribute_same_trans h h'
  | component | hkEnabled | orbit => exact h'.trans h

instance (p : Part) : Std.Refl (p.Same (σ := σ) (τ := τ) (ω := ω)) := ⟨part_same_refl p⟩

instance (p : Part) : IsTrans (Engine σ τ ω) p.Same := ⟨part_same_trans p⟩

/-! ### Frames -/

variable {p : Part}

/-- A program on a component changes no other part. -/
theorem keeps_onComponent {name : String} (x : EStateM PyError σ Unit) (hp : p ≠ .component name) :
    Keeps p.Same (onComponent name x : EStateM PyError (Engine σ τ ω) Unit) := by
  refine keeps_bind keeps_get fun e => ?_
  split
  · refine keeps_zoom fun e c => ?_
    cases p with
    | field a => cases a <;> rfl
    | component other => exact Dict.get?_set_ne _ (fun heq => hp (congrArg _ heq)) c
    | hkEnabled => rfl
    | orbit => rfl
  · exact keeps_pure _

theorem keeps_onOrbit (x : EStateM PyError ω Unit) (hp : p ≠ .orbit) :
    Keeps p.Same (onOrbit x : EStateM PyError (Engine σ τ ω) Unit) := by
  refine keeps_zoom fun e orbit => ?_
  cases p with
  | field a => cases a <;> rfl
  | component | hkEnabled => rfl
  | orbit => exact absurd rfl hp

variable (lib : Library σ τ ω) (items : List (Item × Item))

/-- An assignment changes its attribute only. -/
theorem keeps_assign (hp : p ≠ .field a) : Keeps p.Same (a.restore lib items) := by
  cases a with
  | tickCount | speed | scMode | params | fdirTriggered | hkTimers =>
      refine keeps_store fun x e => ?_
      cases p with
      | field b => cases b <;> first | rfl | exact absurd rfl hp
      | component | hkEnabled | orbit => rfl
  | simTime =>
      show Keeps p.Same (match lookup "sim_time" items with | some text => _ | none => _)
      split
      · refine keeps_store fun x e => ?_
        cases p with
        | field b => cases b <;> first | rfl | exact absurd rfl hp
        | component | hkEnabled | orbit => rfl
      · exact keeps_pure _

theorem keeps_restoreNamed {register : String → String} {entries : Item}
    (hp : ∀ name, p = .component (register name) → ¬ entries.Names name) :
    Keeps p.Same (restoreNamed lib register entries) := by
  unfold restoreNamed
  cases hentries : entries.items with
  | error e => exact keeps_throw e
  | ok list =>
      refine keeps_forM list fun entry hmem => ?_
      split
      · rename_i name hname
        exact keeps_onComponent _ fun heq => hp name heq ⟨list, entry, hentries, hmem, hname⟩
      · exact keeps_pure _

theorem keeps_restoreKey {name : String} (hp : p = .component name → lookup name items = none) :
    Keeps p.Same (restoreKey lib items name) := by
  unfold restoreKey
  split
  · rename_i x hx
    exact keeps_onComponent _ fun heq => nomatch (hp heq).symm.trans hx
  · exact keeps_pure _

/-- **The frame of a section.**  Whichever way it ends, it leaves alone what it does not restore. -/
theorem keeps_section {t : Section} (hp : ¬ t.Restores items p) :
    Keeps p.Same (t.restore lib items) := by
  cases t with
  | assign a =>
      refine keeps_assign lib items ?_
      rintro rfl
      exact hp rfl
  | models =>
      refine keeps_restoreNamed lib ?_
      rintro name rfl hnames
      exact hp ⟨name, rfl, hnames⟩
  | engine =>
      refine keeps_restoreKey lib items ?_
      rintro rfl
      exact Option.not_isSome_iff_eq_none.mp fun hsome => hp ⟨rfl, hsome⟩
  | components =>
      refine keeps_restoreNamed lib ?_
      rintro name rfl hnames
      exact hp hnames
  | legacy =>
      refine keeps_forM lib.legacyKeys fun name hmem => keeps_restoreKey lib items ?_
      rintro rfl
      exact Option.not_isSome_iff_eq_none.mp fun hsome =>
        hp ⟨lib.legacyKeys_perm.mem_iff.mp hmem, hsome⟩
  | rng =>
      refine keeps_bind (keeps_fromExcept _) fun block => keeps_bind ?_ fun _ => ?_
      · refine keeps_onComponent _ ?_
        rintro rfl
        exact hp (.inl rfl)
      · refine keeps_onComponent _ ?_
        rintro rfl
        exact hp (.inr rfl)
  | hkEnabled =>
      show Keeps p.Same (match lookup "hk_enabled" items with | some entries => _ | none => _)
      split
      · refine keeps_bind (keeps_fromExcept _) fun entries => keeps_forM entries fun entry _ => ?_
        refine keeps_bind (keeps_fromExcept _) fun sid => keeps_modify fun e => ?_
        cases p with
        | field a => cases a <;> rfl
        | component | orbit => rfl
        | hkEnabled => exact absurd trivial hp
      · exact keeps_pure _
  | orbit =>
      have hne : p ≠ .orbit := by
        rintro rfl
        exact hp trivial
      refine keeps_bind (keeps_tryCatch (keeps_onOrbit _ hne) fun _ => keeps_pure _) fun _ => ?_
      refine keeps_ite (fun _ => keeps_tryCatch ?_ fun _ => keeps_pure _) fun _ => keeps_pure _
      exact keeps_bind (keeps_fromExcept _) fun time => keeps_onOrbit _ hne

/-! ### Where a load stops -/

variable {e e' : Engine σ τ ω}

/-- An assignment that ends well leaves what the snapshot says. -/
theorem restored_of_ok (h : a.restore lib items e = .ok ⟨⟩ e') : a.Restored lib items e e' := by
  cases a with
  | tickCount | speed | scMode =>
      obtain ⟨x, hx, rfl⟩ := store_eq_ok h
      exact (Except.ok.inj hx).symm
  | simTime =>
      cases htext : lookup "sim_time" items with
      | some text =>
          simp only [Attribute.restore, htext] at h
          obtain ⟨time, htime, rfl⟩ := store_eq_ok h
          simpa only [Attribute.Restored, htext] using htime
      | none =>
          simp only [Attribute.restore, htext] at h
          cases h
          simp only [Attribute.Restored, htext]
  | params | fdirTriggered | hkTimers =>
      obtain ⟨x, hx, rfl⟩ := store_eq_ok h
      exact hx

/-- An assignment that raises changes nothing. -/
theorem assign_of_error {x : PyError} (h : a.restore lib items e = .error x e') : e' = e := by
  cases a with
  | tickCount | speed | scMode | params | fdirTriggered | hkTimers => exact store_eq_error h
  | simTime =>
      cases htext : lookup "sim_time" items with
      | some text =>
          simp only [Attribute.restore, htext] at h
          exact store_eq_error h
      | none =>
          simp only [Attribute.restore, htext] at h
          cases h

/-- Exceptions of the propagator are caught. -/
theorem orbit_not_error {x : PyError} : Section.orbit.restore lib items e ≠ .error x e' := by
  have hcaught : ∀ (y : EStateM PyError (Engine σ τ ω) Unit) e,
      wp (tryCatch y fun _ => pure ()) (fun _ _ => True) (fun _ _ => False) e := by
    intro y e
    rw [wp_tryCatch]
    unfold wp
    cases y e <;> trivial
  have hwp : wp (Section.orbit.restore lib items) (fun _ _ => True) (fun _ _ => False) e := by
    refine (wp_bind _ _).mpr (wp_mono (hcaught _ e) (fun _ mid _ => ?_) fun _ _ => id)
    exact (wp_ite _ _).mpr ⟨fun _ => hcaught _ mid, fun _ => trivial⟩
  intro h
  unfold wp at hwp
  rwa [h] at hwp

variable {lib items}

theorem Attribute.Restored.congr {e m m' e' : Engine σ τ ω} (h : a.Restored lib items m m')
    (hbefore : a.Same e m) (hafter : a.Same m' e') : a.Restored lib items e e' := by
  cases a with
  | tickCount | speed | scMode => exact hafter.trans h
  | simTime =>
      have hsame : e'.simTime = m'.simTime := hafter
      have hfirst : m.simTime = e.simTime := hbefore
      cases htext : lookup "sim_time" items with
      | some text =>
          simp only [Attribute.Restored, htext] at h ⊢
          rw [hsame]
          exact h
      | none =>
          simp only [Attribute.Restored, htext] at h ⊢
          rw [hsame, h, hfirst]
  | params =>
      have hsame : e'.params = m'.params := hafter
      show intKeys _ = .ok e'.params
      rw [hsame]
      exact h
  | fdirTriggered =>
      have hsame : e'.fdirTriggered = m'.fdirTriggered := hafter
      show Item.toDict _ = .ok e'.fdirTriggered
      rw [hsame]
      exact h
  | hkTimers =>
      have hsame : e'.hkTimers = m'.hkTimers := hafter
      show intKeys _ = .ok e'.hkTimers
      rw [hsame]
      exact h

/-- Sections leave alone what none of them restores. -/
theorem keeps_sections {ts : List Section} (hp : ∀ t ∈ ts, ¬ t.Restores items p) :
    Keeps p.Same (ts.forM (Section.restore lib items)) :=
  keeps_forM ts fun t ht => keeps_section lib items (hp t ht)

/-- A load that returns `False` had no dictionary, or was interrupted. -/
theorem load_false {state : Item} {path : Option File} (h : load lib state path e = .ok false e') :
    (∃ s, snapshot state path = .ok s ∧ (∀ items, s ≠ .dict items) ∧ e' = e) ∨
      ∃ items x, snapshot state path = .ok (.dict items) ∧
        sections.forM (Section.restore lib items) e = .error x e' := by
  obtain ⟨s, mid, hs, hload⟩ := bind_eq_ok.mp h
  have hsnapshot : snapshot state path = .ok s ∧ mid = e := by
    cases hcontents : snapshot state path with
    | error x =>
        rw [hcontents] at hs
        cases hs
    | ok s' =>
        rw [hcontents] at hs
        cases hs
        exact ⟨rfl, rfl⟩
  obtain ⟨hsnapshot, rfl⟩ := hsnapshot
  have hcaught : ∀ {y : EStateM PyError (Engine σ τ ω) Unit},
      tryCatch (y >>= fun _ => pure true) (fun _ => pure false) mid = .ok false e' →
        ∃ x, y mid = .error x e' := by
    intro y hy
    have hwp : wp (tryCatch (y >>= fun _ => pure true) fun _ => pure false)
        (fun b s' => b = false → ∃ x, y mid = .error x s') (fun _ _ => True) mid := by
      rw [wp_tryCatch, wp_bind]
      unfold wp
      cases hmid : y mid with
      | ok u s' => exact nofun
      | error x s' => exact fun _ => ⟨x, rfl⟩
    unfold wp at hwp
    rw [hy] at hwp
    exact hwp rfl
  cases s with
  | dict items =>
      obtain ⟨x, hx⟩ := hcaught hload
      exact .inr ⟨items, x, hsnapshot, hx⟩
  | null =>
      cases hload
      exact .inl ⟨.null, hsnapshot, nofun, rfl⟩
  | bool b | int b | float b | text b | list b =>
      obtain ⟨x, hx⟩ := hcaught hload
      cases hx
      exact .inl ⟨_, hsnapshot, nofun, rfl⟩

theorem sections_nodup : sections.Nodup := by decide

/-- A load that a section interrupted. -/
structure Interrupted (lib : Library σ τ ω) (items : List (Item × Item)) (before : List Section)
    (failing : Section) (e e' : Engine σ τ ω) : Prop where
  order : ∃ after, sections = before ++ failing :: after
  /-- The sections before end well; what the failing one did stays, and an assignment that fails
  does nothing. -/
  stopped : ∃ mid x, before.forM (Section.restore lib items) e = .ok ⟨⟩ mid ∧
    failing.restore lib items mid = .error x e' ∧ ∀ a, failing = .assign a → e' = mid
  caught : failing ≠ .orbit
  restored : ∀ a, .assign a ∈ before → a.Restored lib items e e'
  untouched : ∀ p : Part, (∀ t ∈ before, ¬ t.Restores items p) → ¬ failing.Restores items p →
    p.Same e e'

/-- **A load stops in order.**  A load that returns `False` had no dictionary to restore, and left
the engine as it was; or a section of it raised.  Then what the sections before restore is
restored, and what neither they nor that section restore is as it was. -/
theorem load_stops_in_order {state : Item} {path : Option File} {e e' : Engine σ τ ω}
    (h : load lib state path e = .ok false e') :
    (∃ s, snapshot state path = .ok s ∧ (∀ items, s ≠ .dict items) ∧ e' = e) ∨
      ∃ items before failing, snapshot state path = .ok (.dict items) ∧
        Interrupted lib items before failing e e' := by
  rcases load_false h with hnothing | ⟨items, x, hsnapshot, hrun⟩
  · exact .inl hnothing
  obtain ⟨before, failing, after, mid, hsections, hbefore, hfailing⟩ := forM_eq_error hrun
  refine .inr ⟨items, before, failing, hsnapshot, ⟨after, hsections⟩,
    ⟨mid, x, hbefore, hfailing, ?_⟩, ?_, fun a ha => ?_, fun p hp hp' => ?_⟩
  · rintro a rfl
    exact assign_of_error lib items hfailing
  · rintro rfl
    exact orbit_not_error lib items hfailing
  · -- The assignment, what runs before it and what runs behind it.
    obtain ⟨first, rest, rfl⟩ := List.append_of_mem ha
    have hnodup := sections_nodup
    rw [hsections, List.append_assoc, List.cons_append, List.nodup_middle] at hnodup
    have honce : .assign a ∉ first ++ (rest ++ failing :: after) := (List.nodup_cons.mp hnodup).1
    obtain ⟨start, hfirst, hassign⟩ := forM_append_eq_ok hbefore
    obtain ⟨_, next, ha, hrest⟩ := bind_eq_ok.mp hassign
    have hother : ∀ t : Section, t ≠ .assign a → ¬ t.Restores items (.field a) := by
      intro t ht hrestores
      cases t with
      | assign b => exact ht (congrArg _ hrestores)
      | models | engine | components | legacy | rng | hkEnabled | orbit => exact hrestores
    refine (restored_of_ok lib items ha).congr ?_ ?_
    · have hkeeps : Keeps (Part.field a).Same (first.forM (Section.restore lib items)) :=
        keeps_sections fun t ht => hother t fun heq =>
          honce (List.mem_append_left _ (heq ▸ ht))
      exact hkeeps.of_ok hfirst
    · have hkeeps : Keeps (Part.field a).Same (rest.forM (Section.restore lib items)) :=
        keeps_sections fun t ht => hother t fun heq =>
          honce (List.mem_append_right _ (List.mem_append_left _ (heq ▸ ht)))
      have hlast : failing ≠ .assign a := fun heq =>
        honce (List.mem_append_right _ (List.mem_append_right _ (heq ▸ List.mem_cons_self)))
      exact part_same_trans (.field a) _ _ _ (hkeeps.of_ok hrest)
        ((keeps_section lib items (hother failing hlast)).of_error hfailing)
  · exact part_same_trans p _ _ _ ((keeps_sections hp).of_ok hbefore)
      ((keeps_section lib items hp').of_error hfailing)

/-! ### A half restored engine -/

/-- What a `LoadSheddingManager` restores. -/
structure LoadShedding where
  currentStage : Int
  lastStageChange : FloatValue

/-- `LoadSheddingManager.set_state(state)`. -/
def LoadShedding.setState (x : Item) : EStateM PyError LoadShedding Unit := do
  let items ← fromExcept x.items
  store (getD items "current_stage" (.int 0)).toInt fun stage s => { s with currentStage := stage }
  store (getD items "last_stage_change" (.float (.finite false 0 0))).toFloat fun time s =>
    { s with lastStageChange := time }

/-- An engine whose only component manages the shedding of loads. -/
def loadSheddingLibrary : Library LoadShedding Unit Unit where
  setState _ := LoadShedding.setState
  rng _ := ⟨[], 0, none⟩
  withRng _ s := s
  fromIsoFormat _ := .error .valueError
  setElset _ := pure ()
  reset _ := pure ()
  legacyKeys := ["tm_storage", "obcp", "memory"]
  legacyKeys_perm := .refl _

/-- An engine with the given components, at rest. -/
def engineAtRest (components : Dict String σ) : Engine σ Unit Unit where
  tickCount := .int 0
  simTime := ()
  speed := .int 1
  scMode := .int 0
  params := .empty
  fdirTriggered := []
  hkTimers := .empty
  components := components
  hkEnabled := .empty
  orbit := ()

/-- A snapshot in which the time of the last change is missing. -/
def shedWithoutTime : Item :=
  .dict [(.text "tick_count", .int 7), (.text "components", .dict [(.text "load_shedding",
    .dict [(.text "current_stage", .int 2), (.text "last_stage_change", .null)])])]

/-- An engine that sheds no load. -/
def nothingShed : Engine LoadShedding Unit Unit :=
  engineAtRest (Dict.empty.set "load_shedding" ⟨0, .finite false 0 0⟩)

/-- The stage is restored though its time cannot be. -/
theorem load_stops_in_order_half :
    ∃ e' items before failing, load loadSheddingLibrary shedWithoutTime none nothingShed =
        .ok false e' ∧
      (e'.components.get? "load_shedding").map LoadShedding.currentStage = some 2 ∧
      Interrupted loadSheddingLibrary items before failing nothingShed e' := by
  obtain ⟨e', hload, hstage⟩ : ∃ e',
      load loadSheddingLibrary shedWithoutTime none nothingShed = .ok false e' ∧
        (e'.components.get? "load_shedding").map LoadShedding.currentStage = some 2 :=
    ⟨_, rfl, rfl⟩
  rcases load_stops_in_order hload with ⟨s, hs, hdict, -⟩ | ⟨items, before, failing, -, hstopped⟩
  · cases hs
    exact absurd rfl (hdict _)
  · exact ⟨e', items, before, failing, hload, hstage, hstopped⟩

/-- A timer under its name, where a number is expected: the load fails, and the triggered rules are
those of the snapshot. -/
theorem load_not_atomic :
    ∃ e' : Engine Unit Unit Unit,
      (∀ lib : Library Unit Unit Unit,
        load lib (.dict [(.text "tick_count", .int 7),
            (.text "fdir_triggered", .dict [(.text "low_soc", .bool true)]),
            (.text "hk_timers", .dict [(.text "beacon", .int 3)])]) none (engineAtRest .empty) =
          .ok false e') ∧
      e'.tickCount = .int 7 ∧ e'.fdirTriggered = [(.text "low_soc", .bool true)] ∧
      (engineAtRest .empty : Engine Unit Unit Unit).tickCount = .int 0 ∧
      (engineAtRest .empty : Engine Unit Unit Unit).fdirTriggered = [] :=
  ⟨_, fun _ => rfl, rfl, rfl, rfl, rfl⟩

end Breakpoints
