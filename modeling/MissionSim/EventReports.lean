import MissionSim.CommandFrame
import MissionSim.Services

/-!
# Enabling event reports

Service 5 keeps a table of the event types that are to be reported, the type of an event
being its severity.  The commands keep the table right: it tells what the latest of them
said about a type.  But nothing on board asks it.  An event is reported whenever its report can be
built, so the table is honoured exactly where it has nothing to suppress.

Only the commands of service 5 matter here.  Whatever else goes on, ticks, other
telecommands, events and the rules they trigger, may go on in between.
-/

namespace Spacecraft

open Octets Python Effects TmBuilder
open Obcp (Event)

variable {M : Type} {sub : Subsystems M}

/-! ### The table -/

/-- `is_event_enabled(event_type)`. -/
def isEventEnabled (e : Engine M) (eventType : Nat) : Bool :=
  e.dispatcher.s5EnabledTypes.contains eventType

/-- A telecommand that enables (S5.5) or disables (S5.6) an event type. -/
structure S5Command where
  enables : Bool
  data : Bytes
  deriving DecidableEq, Repr

def S5Command.subtype (c : S5Command) : Nat := if c.enables then 5 else 6

/-- The type a command is about. -/
def S5Command.eventType? (c : S5Command) : Option Nat := c.data.head?.map UInt8.toNat

/-- Whether a type is enabled after a sequence of commands: the latest one naming it decides. -/
def typeEnabled (commands : List S5Command) (eventType : Nat) : Bool :=
  match commands.reverse.find? fun c => c.eventType? = some eventType with
  | some c => c.enables
  | none => true

/-- The engine after a sequence of commands of service 5, with anything in between that
leaves the table alone. -/
inductive S5Run : List S5Command → Engine M → Prop
  | start {e : Engine M} (htable : e.dispatcher.s5EnabledTypes = List.range 256) : S5Run [] e
  | command {commands : List S5Command} {e : Engine M} (before : S5Run commands e)
      (c : S5Command) : S5Run (commands ++ [c]) (finalState (handleS5 c.subtype c.data) e)
  | other {commands : List S5Command} {e e' : Engine M} (before : S5Run commands e)
      (htable : e'.dispatcher.s5EnabledTypes = e.dispatcher.s5EnabledTypes) : S5Run commands e'

theorem typeEnabled_append (commands : List S5Command) (c : S5Command) (eventType : Nat) :
    typeEnabled (commands ++ [c]) eventType =
      if c.eventType? = some eventType then c.enables else typeEnabled commands eventType := by
  unfold typeEnabled
  by_cases hnames : c.eventType? = some eventType
  · simp [hnames]
  · simp [hnames]

/-- What one command does to the table. -/
theorem handleS5_table (c : S5Command) (e : Engine M) (eventType : Nat) :
    isEventEnabled (finalState (handleS5 c.subtype c.data) e) eventType =
      if c.eventType? = some eventType then c.enables else isEventEnabled e eventType := by
  obtain ⟨enables, data⟩ := c
  have hfinal : ∀ subtype, (finalState (handleS5 subtype data) e).dispatcher.s5EnabledTypes =
      if subtype = 5 ∧ 1 ≤ data.length then e.dispatcher.s5EnabledTypes.insert (unpackU8 data)
      else if subtype = 6 ∧ 1 ≤ data.length then
        e.dispatcher.s5EnabledTypes.filter fun eventType => eventType ≠ unpackU8 data
      else if subtype = 7 then
        [1, 2, 3, 4].foldl (fun types t => types.insert t) e.dispatcher.s5EnabledTypes
      else if subtype = 8 then []
      else e.dispatcher.s5EnabledTypes := fun _ => rfl
  rw [S5Command.subtype, isEventEnabled, hfinal]
  cases data with
  | nil => cases enables <;> simp [S5Command.eventType?, isEventEnabled]
  | cons octet rest =>
      cases enables <;> grind [S5Command.eventType?, isEventEnabled, unpackU8]

/-- **The table is right.**  It tells of every type what the latest command said. -/
theorem S5Run.table {commands : List S5Command} {e : Engine M} (h : S5Run commands e)
    {eventType : Nat} (htype : eventType < 256) :
    isEventEnabled e eventType = typeEnabled commands eventType := by
  induction h with
  | start htable =>
      rw [isEventEnabled, htable]
      simpa [typeEnabled] using htype
  | command before c ih => rw [handleS5_table, typeEnabled_append, ih]
  | other before htable ih => rw [← ih, isEventEnabled, isEventEnabled, htable]

/-! ### Reports -/

/-- The packet reports the event: its severity is the subtype, and the data start with its
identifier. -/
def IsReport (ev : Event) (pkt : TmPacket) : Prop :=
  pkt.service = 5 ∧ pkt.subtype = ev.severity ∧ pkt.data.take 2 = packU16 ev.eventId

/-- `_emit_event(ev)` hands a report of the event to the downlink. -/
def Downlinks (sub : Subsystems M) (depth : Nat) (ev : Event) (e : Engine M) : Prop :=
  ∃ pkt rest, IsReport ev pkt ∧
    (finalState (emitEvent sub depth ev) e).log = e.log ++ .tm pkt :: rest

/-- The event and the on-board time fit the fields of a report. -/
structure Sendable (sub : Subsystems M) (e : Engine M) (ev : Event) : Prop where
  eventId : ev.eventId < 2 ^ 16
  severity : ev.severity < 2 ^ 8
  notNegative : 0 ≤ sub.obcTimeCuc e.models
  time : sub.obcTimeCuc e.models < 2 ^ 32

/-- The report of an event that fits is built. -/
theorem buildEventPacket_eq_ok {e : Engine M} {ev : Event} (h : Sendable sub e ev) (b : Builder) :
    ∃ pkt b', buildEventPacket ev.eventId ev.severity ev.description (sub.obcTimeCuc e.models) b =
      .ok pkt b' ∧ IsReport ev pkt := by
  obtain ⟨cuc, hcuc⟩ := Int.eq_ofNat_of_zero_le h.notNegative
  have htime : cuc < 2 ^ 32 := by
    have := h.time
    omega
  have htext : (encodeAuxText ev.description).length ≤ 120 := by
    exact List.length_take_le _ _
  obtain ⟨data, hdata⟩ : ∃ data, data = packU16 ev.eventId ++ packU8 ev.severity ++ packU32 cuc ++
      packU8 (encodeAuxText ev.description).length ++ encodeAuxText ev.description := ⟨_, rfl⟩
  have hshort : data.length + 8 < 2 ^ 16 := by
    rw [hdata]
    simp only [List.length_append, packU8_length, packU16_length, packU32_length]
    omega
  have hpacked := packTm_eq_ok 5 ev.severity htime hshort b
  refine ⟨{ apid := b.apid, sequenceCount := b.next.seqCount, service := 5,
            subtype := ev.severity, cuc := cuc, data := data }, b.next, ?_, rfl, rfl, ?_⟩
  · rw [hcuc, buildEventPacket, packUnsigned_two h.eventId, packUnsigned_one h.severity]
    refine Effects.bind_eq_ok.mpr ⟨_, b, rfl, Effects.bind_eq_ok.mpr ⟨_, b, rfl, ?_⟩⟩
    refine Effects.bind_eq_ok.mpr ⟨packU32 cuc, b, by rw [packUnsigned_four htime]; rfl, ?_⟩
    rw [← hdata]
    exact hpacked
  · rw [hdata, List.append_assoc, List.append_assoc, List.append_assoc]
    exact List.take_left' (packU16_length _)

theorem packUnsigned_range {octets : Nat} {n : Int} {field : Bytes}
    (h : packUnsigned octets n = .ok field) : 0 ≤ n ∧ n < 2 ^ (8 * octets) := by
  by_contra hrange
  rw [packUnsigned, if_neg hrange] at h
  cases h

/-- The report of one that does not fit is not. -/
theorem buildEventPacket_error {e : Engine M} {ev : Event} (h : ¬ Sendable sub e ev) (b : Builder) :
    ∃ error b', buildEventPacket ev.eventId ev.severity ev.description (sub.obcTimeCuc e.models) b =
      .error error b' := by
  cases hrun : buildEventPacket ev.eventId ev.severity ev.description
      (sub.obcTimeCuc e.models) b with
  | error error b' => exact ⟨error, b', rfl⟩
  | ok pkt b' =>
      obtain ⟨id, _, hid, hrest⟩ := Effects.bind_eq_ok.mp hrun
      obtain ⟨level, _, hlevel, hrest⟩ := Effects.bind_eq_ok.mp hrest
      obtain ⟨time, _, htime, _⟩ := Effects.bind_eq_ok.mp hrest
      have hidRange := packUnsigned_range (fromExcept_eq_ok.mp hid).1
      have hlevelRange := packUnsigned_range (fromExcept_eq_ok.mp hlevel).1
      have htimeRange := packUnsigned_range (fromExcept_eq_ok.mp htime).1
      exact absurd ⟨by omega, by omega, htimeRange.1, htimeRange.2⟩ h

theorem enqueueTm_log (pkt : TmPacket) (e : Engine M) :
    wp (enqueueTm pkt) (fun _ e' => e'.log = e.log ++ [.tm pkt])
      (fun _ e' => e'.log = e.log ++ [.tm pkt]) e := by
  unfold enqueueTm note
  simp only [wp_bind, wp_modify, wp_get, wp_fromExcept, wp_set, implies_true, and_self]

/-- A packet is built from the state, and used. -/
theorem wp_building {α β : Type} {x : Engine M → EStateM PyError Builder α}
    {use : Engine M → α → Program M β} {Q : β → Engine M → Prop} {E : PyError → Engine M → Prop}
    {e : Engine M}
    (h : wp (x e) (fun a b => wp (use e a) Q E { e with tmBuilder := b })
      (fun error b => E error { e with tmBuilder := b }) e.tmBuilder) :
    wp (do
      let e ← get
      let a ← building (x e)
      use e a) Q E e := by
  rw [wp_bind, wp_get, wp_bind, building, wp_zoom]
  exact h

/-- **Every event that fits is reported**, whatever the table says, and no other. -/
theorem downlinks_iff (depth : Nat) (ev : Event) (e : Engine M) :
    Downlinks sub (depth + 1) ev e ↔ Sendable sub e ev := by
  unfold Downlinks
  generalize hx : emitEvent sub (depth + 1) ev = x
  rw [emitEvent] at hx
  -- what the builder does in detail no longer matters
  generalize hbuild : buildEventPacket ev.eventId ev.severity ev.description = build at hx
  constructor
  · intro hdownlinks
    obtain ⟨pkt, rest, _, hlog⟩ := hdownlinks
    by_contra hunfit
    obtain ⟨error, b', herror⟩ := buildEventPacket_error hunfit e.tmBuilder
    rw [hbuild] at herror
    have hnothing : wp x (fun _ e' => e'.log = e.log) (fun _ e' => e'.log = e.log) e := by
      rw [← hx]
      exact wp_building ((wp_of_error herror).mpr rfl)
    rw [wp_state.mp hnothing] at hlog
    simpa using congrArg List.length hlog
  · intro hfits
    obtain ⟨pkt, b', hbuilt, hreport⟩ := buildEventPacket_eq_ok hfits e.tmBuilder
    rw [hbuild] at hbuilt
    have hsent : wp x (fun _ e' => ∃ rest, e'.log = e.log ++ .tm pkt :: rest)
        (fun _ e' => ∃ rest, e'.log = e.log ++ .tm pkt :: rest) e := by
      rw [← hx]
      refine wp_building ((wp_of_ok hbuilt).mpr ?_)
      have hone : ∀ e' : Engine M, e'.log = e.log ++ [.tm pkt] →
          ∃ rest, e'.log = e.log ++ .tm pkt :: rest := fun _ h => ⟨[], h⟩
      rw [wp_bind]
      refine wp_mono (enqueueTm_log pkt { e with tmBuilder := b' }) ?_ fun _ e' => hone e'
      intro _ e₁ hlog
      -- the alarm store and the rules only add to the log
      have hafter : Keeps Autonomous (storeAlarm pkt ev.severity >>= fun _ =>
          triggerEventAction sub (emitEvent sub depth) (eventTrigger ev.eventId).1
            (eventTrigger ev.eventId).2) :=
        keeps_bind (storeAlarm_autonomous pkt ev.severity) fun _ =>
          triggerEventAction_autonomous (fun ev' => emitEvent_autonomous depth ev') _ _
      have hgrows : ∀ e' : Engine M, Autonomous e₁ e' →
          ∃ rest, e'.log = e.log ++ .tm pkt :: rest := by
        intro e' hquiet
        obtain ⟨new, hnew, _⟩ := hquiet.log
        exact ⟨new, by rw [hnew, hlog, List.append_assoc, List.singleton_append]⟩
      exact wp_mono (hafter e₁) (fun _ e' => hgrows e') fun _ e' => hgrows e'
    obtain ⟨rest, hlog⟩ := wp_state.mp hsent
    exact ⟨pkt, rest, hreport, hlog⟩

/-- **Where the commands are honoured.**  A call of `_emit_event`, anywhere in a run, reports the
event if and only if the commands left its type enabled exactly if the table enables the
type of an event that fits, or disables the type of one that does not. -/
theorem emitEvent_honours_iff {commands : List S5Command} {e : Engine M} (h : S5Run commands e)
    (depth : Nat) (ev : Event) (hseverity : ev.severity < 256) :
    (Downlinks sub (depth + 1) ev e ↔ typeEnabled commands ev.severity = true) ↔
      (isEventEnabled e ev.severity = true ↔ Sendable sub e ev) := by
  rw [downlinks_iff, h.table hseverity]
  exact iff_comm

/-- The telecommand that disables the events of medium severity. -/
def disableMedium : S5Command := { enables := false, data := [2] }

/-- The plain engine after it. -/
def mediumDisabled : Engine PlainModels :=
  finalState (handleS5 disableMedium.subtype disableMedium.data) plainEngine

theorem mediumDisabled_run : S5Run [disableMedium] mediumDisabled := by
  have hstart : S5Run [] plainEngine := S5Run.start (by simp only [plainEngine])
  exact hstart.command disableMedium

theorem plain_sendable (eventId severity : Nat) (hid : eventId < 2 ^ 16)
    (hseverity : severity < 2 ^ 8) (description : String) (e : Engine PlainModels) :
    Sendable (plainSubsystems []) e { eventId, severity, description } :=
  ⟨hid, hseverity, le_refl 0, show (0 : Int) < 2 ^ 32 by decide⟩

/-- An undervoltage of high severity is reported. -/
theorem emitEvent_honours_high :
    Downlinks (plainSubsystems []) 1
        { eventId := 0x0103, severity := 3, description := "Bus undervoltage" } mediumDisabled ↔
      typeEnabled [disableMedium] 3 = true :=
  (emitEvent_honours_iff mediumDisabled_run 0 _ (show 3 < 256 by decide)).mpr
    ⟨fun _ => plain_sendable _ _ (by decide) (by decide) _ _,
      fun _ => (mediumDisabled_run.table (show 3 < 256 by decide)).trans (by decide)⟩

/-- So is a rejected command, of the severity that was disabled. -/
theorem emitEvent_ignores_table :
    ¬ ∀ (commands : List S5Command) (e : Engine PlainModels), S5Run commands e →
      ∀ (depth : Nat) (ev : Event), ev.severity < 256 → Sendable (plainSubsystems []) e ev →
        (Downlinks (plainSubsystems []) (depth + 1) ev e ↔
          typeEnabled commands ev.severity = true) := by
  intro hall
  have hfits := plain_sendable 0x030B 2 (by decide) (by decide) "COMMAND_REJECTED" mediumDisabled
  have hhonoured := hall _ _ mediumDisabled_run 0 _ (show 2 < 256 by decide) hfits
  have henabled := hhonoured.mp ((downlinks_iff 0 _ _).mpr hfits)
  revert henabled
  decide

end Spacecraft
