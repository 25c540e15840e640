import MissionSim.CommandFrame
import MissionSim.Services

/-!
# Dispatches within dispatches

While a handler runs, what it does may cause further commands: an event triggers a rule, the
rule runs a function, the function emits an event, and so on.  The dispatcher keeps the outcome of the
telecommand under way in attributes, and every dispatch and every rule saves them before and
restores them after, also when an exception passes through.

Here everything that may be dispatched from within a handler is a parameter.  Whatever it is,
the telecommand has the result it has when nothing at all is dispatched within it, and the
attributes are afterwards as they were before.
-/

namespace Spacecraft

open Octets Ecss Python Effects TmBuilder
open Obcp (Event)

variable {M : Type} (sub : Subsystems M)

/-! ### Handlers with their events as a parameter -/

section Via

variable (emit : Event → Program M Unit)

/-- Emit an event; an exception is logged and forgotten. -/
def tryEmitVia (ev : Event) : Program M Unit := tryCatch (emit ev) fun _ => pure ()

/-- The rest of a command to the procedure manager, after its events. -/
def answerObcp (refusal : Option Obcp.Refusal) : Program M (List TmPacket) :=
  match refusal with
  | some refusal => do
      makeErrorResponse refusal.errorCode refusal.message
      pure []
  | none => pure []

/-- A command to the procedure manager. -/
def applyObcpVia (command : Obcp.Command) : Program M (List TmPacket) := do
  let e ← get
  let applied := e.obcpManager.apply command
  set { e with obcpManager := applied.1 }
  ((applied.1.log.drop e.obcpManager.log.length).filterMap Obcp.Notice.event).forM (tryEmitVia emit)
  answerObcp applied.2

/-- The command to the procedure manager a telecommand of service 18 gives. -/
def obcpCommand (subtype : Nat) (data : Bytes) : Option Obcp.Command :=
  if subtype = 1 ∧ 4 ≤ data.length then some (.loadBlob data)
  else if subtype = 2 ∧ 2 ≤ data.length then some (.delete (unpackU16 data))
  else if subtype = 3 ∧ 2 ≤ data.length then
    some (.start (unpackU16 data) (unpackU8 (data.drop 2)))
  else if subtype = 4 ∧ 2 ≤ data.length then some (.stop (unpackU16 data))
  else none

/-- The handler of a service. -/
def handleVia (service subtype : Nat) (data : Bytes) : Program M (List TmPacket) :=
  if service = 8 then handleS8 sub emit subtype data
  else if service = 18 then
    match obcpCommand subtype data with
    | some command => applyObcpVia emit command
    | none => handleS18 sub 0 subtype data
  else handle sub 0 service subtype data

/-- `dispatch(service, subtype, data, primary_header)`. -/
def dispatchVia (service subtype : Nat) (data : Bytes) (primary : PrimaryHeader) :
    Program M DispatchResult := do
  note (.dispatched service subtype)
  restoring Engine.frame Engine.setFrame do
    updateOutcome fun _ => { requestId := primary.sequenceCount }
    let packets ← tryCatch (handleVia sub emit service subtype data) fun error => do
      note (.raised error)
      pure []
    let e ← get
    pure (DispatchResult.of packets e.dispatcher.outcome)

end Via

theorem handleS18_eq (depth subtype : Nat) (data : Bytes) :
    handleS18 sub depth subtype data =
      match obcpCommand subtype data with
      | some command => applyObcpVia (emitEvent sub depth) command
      | none => handleS18 sub 0 subtype data := by
  unfold handleS18 obcpCommand
  split_ifs <;> rfl

theorem handle_eq (depth service subtype : Nat) (data : Bytes) :
    handle sub depth service subtype data =
      handleVia sub (emitEvent sub depth) service subtype data := by
  unfold handleVia
  by_cases h8 : service = 8
  · rw [if_pos h8, h8]
    rfl
  · rw [if_neg h8]
    by_cases h18 : service = 18
    · rw [if_pos h18, h18]
      exact handleS18_eq sub depth subtype data
    · rw [if_neg h18]
      unfold handle
      split <;> first
        | rfl
        | exact absurd rfl h8
        | exact absurd rfl h18

/-- The dispatch of the software is the one with its own events. -/
theorem dispatch_eq (depth service subtype : Nat) (data : Bytes) (primary : PrimaryHeader) :
    dispatch sub depth service subtype data primary =
      dispatchVia sub (emitEvent sub depth) service subtype data primary := by
  unfold dispatch dispatchVia dispatchInner
  rw [handle_eq]

/-! ### What may go on within a handler -/

/-- Whatever is dispatched while a handler runs: telecommands and rules whose own handlers
dispatch further, the events of the software, one after another, in any state, raising
exceptions or catching them, and work that is not the dispatcher's in between. -/
inductive Inner : Program M Unit → Prop
  | work {x : Program M Unit} (h : Keeps (Unchanged Engine.frame) x) : Inner x
  | raises (error : PyError) : Inner (throw error)
  | dispatch {emit : Event → Program M Unit} (h : ∀ ev, Inner (emit ev)) (service subtype : Nat)
      (data : Bytes) (primary : PrimaryHeader) :
      Inner (dispatchVia sub emit service subtype data primary >>= fun _ => pure ())
  | rule {emit : Event → Program M Unit} (h : ∀ ev, Inner (emit ev)) (rule : EventAction) :
      Inner (s19Dispatch sub emit rule)
  | event (depth : Nat) (ev : Event) : Inner (emitEvent sub depth ev)
  | andThen {x : Program M Unit} {y : Engine M → Program M Unit} (hx : Inner x)
      (hy : ∀ e, Inner (y e)) : Inner (do
        x
        let e ← get
        y e)
  | caught {x : Program M Unit} (h : Inner x) : Inner (tryCatch x fun _ => pure ())

variable {sub}

/-- A saved frame is the frame afterwards, whatever goes on in between. -/
theorem restoring_keepsFrame {α : Type} (x : Program M α) :
    Keeps (Unchanged Engine.frame) (restoring Engine.frame Engine.setFrame x) := by
  intro e
  rw [wp_restoring]
  exact wp_state.mpr rfl

theorem dispatchVia_keepsFrame (emit : Event → Program M Unit) (service subtype : Nat)
    (data : Bytes) (primary : PrimaryHeader) :
    Keeps (Unchanged Engine.frame) (dispatchVia sub emit service subtype data primary) :=
  keeps_bind (keeps_modify fun _ => rfl) fun _ => restoring_keepsFrame _

/-- **The call tree.**  Whatever goes on within a handler, the attributes are afterwards as they
were before. -/
theorem Inner.keepsFrame {x : Program M Unit} (h : Inner sub x) :
    Keeps (Unchanged Engine.frame) x := by
  induction h with
  | work h => exact h
  | raises error => exact keeps_throw error
  | dispatch h service subtype data primary ih =>
      exact keeps_bind (dispatchVia_keepsFrame _ _ _ _ _) fun _ => keeps_pure _
  | rule h rule ih =>
      refine keeps_bind keeps_get fun e => keeps_ite (fun _ => keeps_pure _) fun _ => ?_
      exact restoring_keepsFrame _
  | event depth ev => exact (emitEvent_autonomous depth ev).mono fun _ _ h => h.frame
  | andThen hx hy ihx ihy => exact keeps_bind ihx fun _ => keeps_bind keeps_get fun e => ihy e
  | caught h ih => exact keeps_tryCatch ih fun _ => keeps_pure _

/-! ### What a handler's end tells -/

/-- The packets of a handler and the outcome it leaves; one that raises has no packets. -/
def verdict (x : Program M (List TmPacket)) (e : Engine M) : List TmPacket × Accumulators :=
  match x e with
  | .ok packets e' => (packets, e'.dispatcher.outcome)
  | .error _ e' => ([], e'.dispatcher.outcome)

theorem verdict_eq_of_wp {x : Program M (List TmPacket)} {e : Engine M}
    {v : List TmPacket × Accumulators}
    (h : wp x (fun packets e' => (packets, e'.dispatcher.outcome) = v)
      (fun _ e' => ([], e'.dispatcher.outcome) = v) e) : verdict x e = v := by
  unfold wp at h
  unfold verdict
  cases hx : x e with
  | ok | error =>
      rw [hx] at h
      exact h

/-- What follows the same program is all that counts. -/
theorem verdict_bind {α : Type} (x : Program M α) {f g : α → Program M (List TmPacket)}
    (h : ∀ a e, verdict (f a) e = verdict (g a) e) (e : Engine M) :
    verdict (x >>= f) e = verdict (x >>= g) e := by
  show (match EStateM.bind x f e with
    | .ok packets e' => (packets, e'.dispatcher.outcome)
    | .error _ e' => ([], e'.dispatcher.outcome)) = match EStateM.bind x g e with
    | .ok packets e' => (packets, e'.dispatcher.outcome)
    | .error _ e' => ([], e'.dispatcher.outcome)
  unfold EStateM.bind
  cases x e with
  | ok a e' => exact h a e'
  | error error e' => rfl

/-- What leaves the frame alone and has no packets has the outcome it found. -/
theorem verdict_keeps {x : Program M Unit} (h : Keeps (Unchanged Engine.frame) x)
    (e : Engine M) :
    verdict (do
      x
      pure []) e = ([], e.dispatcher.outcome) := by
  have houtcome : ∀ e', Unchanged Engine.frame e e' →
      (([] : List TmPacket), e'.dispatcher.outcome) = ([], e.dispatcher.outcome) := by
    intro e' hsame
    have hframe : e'.frame = e.frame := hsame
    rw [show e'.dispatcher.outcome = e.dispatcher.outcome from congrArg Prod.fst hframe]
  refine verdict_eq_of_wp ?_
  rw [wp_bind]
  exact wp_mono (h e) (fun _ => houtcome) fun _ => houtcome

variable {emit : Event → Program M Unit}

/-- The events of a procedure command are emitted to the end. -/
theorem tryEmitVia_frame (h : ∀ ev, Keeps (Unchanged Engine.frame) (emit ev)) (events : List Event)
    (e : Engine M) :
    wp (events.forM (tryEmitVia emit)) (fun _ e' => e'.frame = e.frame) (fun _ _ => False) e := by
  induction events generalizing e with
  | nil => exact rfl
  | cons ev rest ih =>
      refine (wp_bind _ _).mpr ?_
      have hone : wp (tryEmitVia emit ev) (fun _ e' => e'.frame = e.frame) (fun _ _ => False) e := by
        unfold tryEmitVia
        rw [wp_tryCatch]
        exact h ev e
      refine wp_mono hone (fun _ e₁ hfirst => ?_) fun _ _ hraised => hraised
      exact wp_mono (ih e₁) (fun _ e' hrest => hrest.trans hfirst) fun _ _ hraised => hraised

/-- The answer is given as though there had been no events. -/
theorem answerObcp_verdict (h : ∀ ev, Keeps (Unchanged Engine.frame) (emit ev))
    (events : List Event) (refusal : Option Obcp.Refusal) (e : Engine M) :
    verdict (do
      events.forM (tryEmitVia emit)
      answerObcp refusal) e = verdict (answerObcp refusal) e := by
  refine verdict_eq_of_wp ?_
  rw [wp_bind]
  refine wp_mono (tryEmitVia_frame h events e) (fun _ e' hframe => ?_) fun _ _ hraised => hraised.elim
  have houtcome : e'.dispatcher.outcome = e.dispatcher.outcome := congrArg Prod.fst hframe
  cases refusal with
  | none =>
      show ([], e'.dispatcher.outcome) = ([], e.dispatcher.outcome)
      rw [houtcome]
  | some refusal =>
      show ([], { e'.dispatcher.outcome with
          errReason := refusal.message, errCode := refusal.errorCode }) =
        ([], { e.dispatcher.outcome with errReason := refusal.message, errCode := refusal.errorCode })
      rw [houtcome]

section Silent

variable {emit emit' : Event → Program M Unit}
variable (h : ∀ ev, Keeps (Unchanged Engine.frame) (emit ev))
variable (h' : ∀ ev, Keeps (Unchanged Engine.frame) (emit' ev))

include h h'

theorem gpsTimeSync_verdict (e : Engine M) :
    verdict (gpsTimeSync sub emit) e = verdict (gpsTimeSync sub emit') e := by
  refine verdict_bind _ (fun reply e => ?_) e
  by_cases hsuccess : reply.succeeds = true
  · rw [if_pos hsuccess, if_pos hsuccess]
    refine verdict_bind _ (fun jump e => verdict_bind _ (fun e₁ e => ?_) e) e
    split_ifs
    · refine verdict_bind _ (fun _ e => ?_) e
      exact (verdict_keeps (h _) e).trans (verdict_keeps (h' _) e).symm
    · rfl
  · rw [if_neg hsuccess, if_neg hsuccess]

theorem handleS8_verdict (subtype : Nat) (data : Bytes) (e : Engine M) :
    verdict (handleS8 sub emit subtype data) e = verdict (handleS8 sub emit' subtype data) e := by
  unfold handleS8
  cases data with
  | nil => rfl
  | cons funcId args =>
      simp only
      split_ifs
      · rfl
      · cases route funcId.toNat with
        | none => rfl
        | some r =>
            refine verdict_bind _ (fun e₁ e => ?_) e
            split_ifs
            · cases functionAction (sub.defaultRate e₁.models) funcId.toNat args r with
              | gpsTimeSync => exact gpsTimeSync_verdict h h' e
              | calls | refuse | execFail | query => rfl
            · rfl

theorem applyObcpVia_verdict (command : Obcp.Command) (e : Engine M) :
    verdict (applyObcpVia emit command) e = verdict (applyObcpVia emit' command) e := by
  refine verdict_bind _ (fun e₁ e => verdict_bind _ (fun _ e => ?_) e) e
  exact (answerObcp_verdict h _ _ e).trans (answerObcp_verdict h' _ _ e).symm

theorem handleVia_verdict (service subtype : Nat) (data : Bytes) (e : Engine M) :
    verdict (handleVia sub emit service subtype data) e =
      verdict (handleVia sub emit' service subtype data) e := by
  unfold handleVia
  split_ifs
  · exact handleS8_verdict h h' subtype data e
  · cases obcpCommand subtype data with
    | none => rfl
    | some command => exact applyObcpVia_verdict h h' command e
  · rfl

end Silent

/-! ### Isolation -/

theorem value?_eq_of_wp {ε σ α : Type} {x : EStateM ε σ α} {v : Option α} {s : σ}
    (h : wp x (fun a _ => some a = v) (fun _ _ => none = v) s) : value? x s = v := by
  unfold wp at h
  unfold value?
  cases hx : x s with
  | ok | error =>
      rw [hx] at h
      exact h

theorem value?_restoring {ε σ τ α : Type} (view : σ → τ) (put : τ → σ → σ) (x : EStateM ε σ α)
    (s : σ) : value? (restoring view put x) s = value? x s := by
  unfold value? restoring
  cases x s <;> rfl

/-- The engine when the handler starts. -/
def Engine.dispatching (e : Engine M) (service subtype : Nat) (primary : PrimaryHeader) :
    Engine M :=
  { e with
    log := e.log ++ [.dispatched service subtype]
    dispatcher := { e.dispatcher with outcome := { requestId := primary.sequenceCount } } }

/-- The result of a dispatch is the verdict of its handler. -/
theorem value?_dispatchVia (emit : Event → Program M Unit) (service subtype : Nat) (data : Bytes)
    (primary : PrimaryHeader) (e : Engine M) :
    value? (dispatchVia sub emit service subtype data primary) e =
      some (DispatchResult.of
        (verdict (handleVia sub emit service subtype data)
          (e.dispatching service subtype primary)).1
        (verdict (handleVia sub emit service subtype data)
          (e.dispatching service subtype primary)).2) := by
  unfold dispatchVia
  generalize handleVia sub emit service subtype data = handler
  have hinner : ∀ e₁ : Engine M, value? (do
      let packets ← tryCatch handler fun error => do
        note (.raised error)
        pure []
      let e ← get
      pure (DispatchResult.of packets e.dispatcher.outcome)) e₁ =
        some (DispatchResult.of (verdict handler e₁).1 (verdict handler e₁).2) := by
    intro e₁
    refine value?_eq_of_wp ?_
    rw [wp_bind, wp_tryCatch]
    unfold wp verdict
    cases handler e₁ <;> rfl
  exact (value?_restoring _ _ _ _).trans (hinner (e.dispatching service subtype primary))

/-- The result of a dispatch, and the outcome it leaves. -/
def Isolated (sub : Subsystems M) (x : Program M DispatchResult) (service subtype : Nat)
    (data : Bytes) (primary : PrimaryHeader) (e : Engine M) : Prop :=
  value? x e = value? (dispatchVia sub (fun _ => pure ()) service subtype data primary) e ∧
    (finalState x e).dispatcher.outcome = e.dispatcher.outcome

theorem dispatchVia_isolated (h : ∀ ev, Inner sub (emit ev)) (service subtype : Nat) (data : Bytes)
    (primary : PrimaryHeader) (e : Engine M) :
    Isolated sub (dispatchVia sub emit service subtype data primary) service subtype data primary
      e := by
  constructor
  · have hsilent : ∀ _ : Event, Keeps (Unchanged Engine.frame) (pure () : Program M Unit) :=
      fun _ => keeps_pure _
    rw [value?_dispatchVia, value?_dispatchVia,
      handleVia_verdict (fun ev => (h ev).keepsFrame) hsilent]
  · exact congrArg Prod.fst ((dispatchVia_keepsFrame emit service subtype data primary).final e)

/-- **Nested dispatches do not leak.**  Whatever is dispatched while the handler of a telecommand
runs, in whatever nesting, the result is the one the handler's own branch has when nothing is
dispatched within it, and the outcome under way before the call is under way after it.  This holds
in particular of the software's own events and rules. -/
theorem nested_dispatch_isolated {emit : Event → Program M Unit} (h : ∀ ev, Inner sub (emit ev))
    (service subtype : Nat) (data : Bytes) (primary : PrimaryHeader) (e : Engine M) :
    Isolated sub (dispatchVia sub emit service subtype data primary) service subtype data primary
        e ∧
      ∀ depth, Isolated sub (dispatch sub depth service subtype data primary) service subtype data
        primary e := by
  refine ⟨dispatchVia_isolated h service subtype data primary e, fun depth => ?_⟩
  rw [dispatch_eq]
  exact dispatchVia_isolated (fun ev => Inner.event depth ev) service subtype data primary e

/-- The time synchronisation on the plain engine. -/
theorem time_sync_isolated :
    Isolated (plainSubsystems ["obdh"])
        (dispatchVia (plainSubsystems ["obdh"]) (emitEvent (plainSubsystems ["obdh"]) 5) 8 1 [80]
          { sequenceCount := 7 }) 8 1 [80] { sequenceCount := 7 } plainEngine ∧
      ∀ depth, Isolated (plainSubsystems ["obdh"])
        (dispatch (plainSubsystems ["obdh"]) depth 8 1 [80] { sequenceCount := 7 }) 8 1 [80]
        { sequenceCount := 7 } plainEngine :=
  nested_dispatch_isolated (fun ev => Inner.event 5 ev) 8 1 [80] _ plainEngine

end Spacecraft
