import MissionSim.Dispatcher

/-!
# What commands and events leave alone

A function of service 8 gives commands to the models, and may emit an event; an event may
run functions in turn.  However deep this goes, the memory, the schedule, the procedures, the
parameters and the tables of the dispatcher stay as they are, nothing is dispatched, and no
verification report is sent.  What an event does is moreover done on behalf of the rules
alone, and the outcome of the telecommand under way is as before.
-/

namespace Spacecraft

open Octets Binary32 Python Effects Memory TmBuilder
open Obcp (Event)

variable {M : Type}

/-! ### What a relation says of the log -/

/-- A notice that is no part of a telecommand's own course.  What a rule does, it does as a
rule. -/
def Notice.Aside (byRule : Bool) : Notice → Prop
  | .tm pkt => pkt.service = 5
  | .command r _ _ => byRule → r
  | .dispatched _ _ => False
  | .raised _ => False
  | .transition _ _ => False

/-- The log is continued by notices that satisfy `P`. -/
def Continued (P : Notice → Prop) (log log' : List Notice) : Prop :=
  ∃ new, log' = log ++ new ∧ ∀ notice ∈ new, P notice

variable {P : Notice → Prop} {log log' log'' : List Notice}

theorem Continued.refl (log : List Notice) : Continued P log log := ⟨[], by simp, by simp⟩

theorem Continued.one {notice : Notice} (h : P notice) : Continued P log (log ++ [notice]) :=
  ⟨[notice], rfl, by simpa using h⟩

theorem Continued.trans (h : Continued P log log') (h' : Continued P log' log'') :
    Continued P log log'' := by
  obtain ⟨new, rfl, hnew⟩ := h
  obtain ⟨more, rfl, hmore⟩ := h'
  refine ⟨new ++ more, List.append_assoc _ _ _, fun notice hnotice => ?_⟩
  rcases List.mem_append.mp hnotice with hnotice | hnotice
  · exact hnew notice hnotice
  · exact hmore notice hnotice

theorem Continued.mono {P' : Notice → Prop} (h : Continued P log log')
    (himp : ∀ notice, P notice → P' notice) : Continued P' log log' := by
  obtain ⟨new, rfl, hnew⟩ := h
  exact ⟨new, rfl, fun notice hnotice => himp notice (hnew notice hnotice)⟩

/-- What is done as a rule may be done in any case. -/
theorem Notice.Aside.of_rule {notice : Notice} (h : notice.Aside true) (byRule : Bool) :
    notice.Aside byRule := by
  cases notice with
  | tm | dispatched | raised | transition => exact h
  | command r model command => exact fun _ => h rfl

/-! ### What is left alone -/

/-- What commands and events leave alone. -/
def Engine.held (e : Engine M) :
    Dict Nat Value × Int × MemoryImage × TcScheduler.Scheduler × Obcp.Manager × Dispatcher ×
      Bool × List Nat × Dict Nat Violation :=
  (e.params, e.spacecraftPhase, e.memory, e.tcScheduler, e.obcpManager,
    { e.dispatcher with outcome := {} }, e.overridePasses, e.s12ViolationActive,
    e.s12ViolationRecords)

/-- What a function of service 8 may do. -/
structure Aside (e e' : Engine M) : Prop where
  held : e'.held = e.held
  byRule : e'.byRule = e.byRule
  log : Continued (Notice.Aside e.byRule) e.log e'.log

/-- What any handler may do. -/
structure Quiet (e e' : Engine M) : Prop where
  swImageParam : e'.swImageParam = e.swImageParam
  byRule : e'.byRule = e.byRule
  log : Continued (Notice.Aside e.byRule) e.log e'.log

/-- What an event may do. -/
structure Autonomous (e e' : Engine M) : Prop where
  held : e'.held = e.held
  frame : e'.frame = e.frame
  log : Continued (Notice.Aside true) e.log e'.log

instance : Std.Refl (Aside (M := M)) := ⟨fun e => ⟨rfl, rfl, .refl e.log⟩⟩

instance : IsTrans (Engine M) Aside := ⟨fun _ _ _ h h' =>
  ⟨h'.held.trans h.held, h'.byRule.trans h.byRule, h.log.trans (h.byRule ▸ h'.log)⟩⟩

instance : Std.Refl (Quiet (M := M)) := ⟨fun e => ⟨rfl, rfl, .refl e.log⟩⟩

instance : IsTrans (Engine M) Quiet := ⟨fun _ _ _ h h' =>
  ⟨h'.swImageParam.trans h.swImageParam, h'.byRule.trans h.byRule, h.log.trans (h.byRule ▸ h'.log)⟩⟩

instance : Std.Refl (Autonomous (M := M)) := ⟨fun e => ⟨rfl, rfl, .refl e.log⟩⟩

instance : IsTrans (Engine M) Autonomous := ⟨fun _ _ _ h h' =>
  ⟨h'.held.trans h.held, h'.frame.trans h.frame, h.log.trans h'.log⟩⟩

theorem Autonomous.outcome {e e' : Engine M} (h : Autonomous e e') :
    e'.dispatcher.outcome = e.dispatcher.outcome := congrArg Prod.fst h.frame

theorem Autonomous.aside {e e' : Engine M} (h : Autonomous e e') : Aside e e' where
  held := h.held
  byRule := congrArg Prod.snd h.frame
  log := h.log.mono fun _ hnotice => hnotice.of_rule e.byRule

/-! ### Outcomes -/

/-- The error code of a refusal fits its field. -/
def Accumulators.Sound (o : Accumulators) : Prop :=
  o.errReason ≠ "" → 0 ≤ o.errCode ∧ o.errCode < 2 ^ 16

/-- No start failure is recorded. -/
structure Recorded (o o' : Accumulators) : Prop where
  execFail : o'.execFail = o.execFail
  requestId : o'.requestId = o.requestId
  sound : o.Sound → o'.Sound

/-- What a function of service 8 may do without a start failure. -/
structure Acted (e e' : Engine M) : Prop extends Aside e e' where
  recorded : Recorded e.dispatcher.outcome e'.dispatcher.outcome

instance : Std.Refl Recorded := ⟨fun _ => ⟨rfl, rfl, id⟩⟩

instance : IsTrans Accumulators Recorded := ⟨fun _ _ _ h h' =>
  ⟨h'.execFail.trans h.execFail, h'.requestId.trans h.requestId, h'.sound ∘ h.sound⟩⟩

instance : Std.Refl (Acted (M := M)) := ⟨fun e => ⟨refl_of Aside e, refl_of Recorded _⟩⟩

instance : IsTrans (Engine M) Acted := ⟨fun _ _ _ h h' =>
  ⟨trans_of Aside h.toAside h'.toAside, trans_of Recorded h.recorded h'.recorded⟩⟩

theorem Autonomous.acted {e e' : Engine M} (h : Autonomous e e') : Acted e e' where
  toAside := h.aside
  recorded := h.outcome ▸ refl_of Recorded _

/-! ### The primitive steps -/

section Steps

variable {α : Type}

/-- A change of the models, of the builder or of the downlink is nothing else. -/
theorem autonomous_of_eq {e e' : Engine M} (held : e'.held = e.held) (frame : e'.frame = e.frame)
    (log : e'.log = e.log) : Autonomous e e' := ⟨held, frame, log ▸ .refl _⟩

theorem building_autonomous {P : α → Prop} {x : EStateM PyError Builder α}
    (h : ∀ b, wp x (fun a _ => P a) (fun _ _ => True) b) :
    Ensures Autonomous P (building x : Program M α) :=
  ensures_zoom h fun _ _ => autonomous_of_eq rfl rfl rfl

theorem onModels_autonomous {P : α → Prop} {x : EStateM PyError M α}
    (h : ∀ m, wp x (fun a _ => P a) (fun _ _ => True) m) :
    Ensures Autonomous P (onModels x) :=
  ensures_zoom h fun _ _ => autonomous_of_eq rfl rfl rfl

/-- Enqueueing a packet logs it and changes the downlink. -/
theorem enqueueTm_keeps {R : Engine M → Engine M → Prop} [Std.Refl R] [IsTrans (Engine M) R]
    {pkt : TmPacket} (hlog : ∀ e : Engine M, R e { e with log := e.log ++ [.tm pkt] })
    (hdownlink : ∀ (e : Engine M) downlink, R e { e with downlink := downlink }) :
    Keeps R (enqueueTm pkt) := by
  refine keeps_bind (keeps_modify hlog) fun _ => ?_
  refine keeps_bind (keeps_modify fun e => hdownlink e _) fun _ e => ?_
  rw [wp_bind, wp_get, wp_bind, wp_fromExcept]
  exact ⟨fun _ _ => hdownlink e _, fun _ _ => refl_of R e⟩

theorem enqueueTm_autonomous {pkt : TmPacket} (h : pkt.service = 5) :
    Keeps (Autonomous (M := M)) (enqueueTm pkt) :=
  enqueueTm_keeps (fun _ => ⟨rfl, rfl, .one h⟩) fun _ _ => autonomous_of_eq rfl rfl rfl

/-- Whatever packet is enqueued, nothing of this changes. -/
theorem enqueueTm_held (pkt : TmPacket) :
    Keeps (Unchanged (Engine.held (M := M))) (enqueueTm pkt) :=
  enqueueTm_keeps (fun _ => rfl) fun _ _ => rfl

theorem storeAlarm_autonomous (pkt : TmPacket) (severity : Nat) :
    Keeps (Autonomous (M := M)) (storeAlarm pkt severity) := by
  intro e
  have hquiet := refl_of Autonomous e
  unfold storeAlarm
  rw [wp_bind, wp_get]
  split_ifs
  · rw [wp_bind, wp_fromExcept]
    refine ⟨fun swImage _ => ?_, fun _ _ => hquiet⟩
    split_ifs
    · exact autonomous_of_eq rfl rfl rfl
    · exact hquiet
  · exact hquiet

end Steps

/-! ### Commands -/

section Commands

variable {sub : Subsystems M} {emit : Event → Program M Unit}

theorem makeErrorResponse_acted {errorCode : Int} (h : 0 ≤ errorCode ∧ errorCode < 2 ^ 16)
    (message : String) : Keeps (Acted (M := M)) (makeErrorResponse errorCode message) :=
  keeps_modify fun e => ⟨⟨rfl, rfl, .refl e.log⟩, rfl, rfl, fun _ _ => h⟩

/-- The error code of a reply fits its field. -/
def Reply.CodeFits (reply : Reply) : Prop :=
  ∀ code, reply.errorCode = some code → 0 ≤ code ∧ code < 2 ^ 16

theorem refusalCode_range {reply : Reply} (h : reply.CodeFits) :
    0 ≤ reply.errorCode.getD 0x0001 ∧ reply.errorCode.getD 0x0001 < 2 ^ 16 := by
  cases hcode : reply.errorCode with
  | none => decide
  | some code => exact h code hcode

theorem handleCommand_codeFits (params : Dict Nat Value) (time : Rat) (model : String)
    (command : Command) (m : M) :
    wp (sub.handleCommand params time model command) (fun reply _ => reply.CodeFits)
      (fun _ _ => True) m := by
  unfold wp
  cases h : sub.handleCommand params time model command m with
  | ok reply m' => exact sub.errorCode_range params time model command m reply m' h
  | error error m' => trivial

theorem cmd_acted (model : String) (command : Command) :
    Keeps Acted (cmd sub model command) := by
  intro e
  have hnoted : Acted e { e with log := e.log ++ [.command e.byRule model command] } :=
    ⟨⟨rfl, rfl, .one id⟩, refl_of Recorded _⟩
  have hrest : Keeps Acted (onModels (sub.handleCommand e.params e.simTime model command) >>=
      fun reply => if reply.refuses then do
        makeErrorResponse (reply.errorCode.getD 0x0001) (reply.message.getD "Unknown error")
        pure reply
      else pure reply) := by
    have hreply := onModels_autonomous (@handleCommand_codeFits M sub e.params e.simTime
      model command)
    refine (hreply.mono fun _ _ h => h.acted).bind fun reply hfits => ?_
    refine keeps_ite (fun _ => ?_) fun _ => keeps_pure reply
    exact keeps_bind (makeErrorResponse_acted (refusalCode_range hfits) _) fun _ => keeps_pure reply
  unfold cmd
  rw [wp_bind, wp_get]
  split_ifs
  · exact hrest.after hnoted
  · exact refl_of Acted e

/-- Commands given one after another. -/
theorem runCalls_acted (calls : List Call) (last : Reply) :
    Keeps Acted (runCalls sub calls last) := by
  induction calls generalizing last with
  | nil => exact keeps_pure _
  | cons call rest ih =>
      refine keeps_bind keeps_get fun e => ?_
      refine keeps_ite (fun _ => ?_) fun _ => ih last
      exact keeps_bind (cmd_acted call.model call.command) ih

/-! ### Functions -/

/-- Packets among which the verification reports are progress reports. -/
def Plain (pkts : List TmPacket) : Prop := ∀ pkt ∈ pkts, pkt.service = 1 → pkt.subtype = 5

theorem plain_nil : Plain [] := fun _ h => absurd h List.not_mem_nil

theorem report_plain {service : Nat} (h : service ≠ 1) (subtype : Nat) (data : Bytes) (cuc : Int) :
    Ensures (Autonomous (M := M)) Plain (report service subtype data cuc) := by
  refine ensures_map (building_autonomous fun b => ?_)
  refine wp_mono (packTm_kind service subtype data cuc b) (fun pkt _ hkind => ?_) fun _ _ h => h
  intro p hp hservice
  obtain rfl := List.mem_singleton.mp hp
  exact absurd (hkind.1.symm.trans hservice) h

variable (hemit : ∀ ev, Keeps Autonomous (emit ev))

include hemit in
theorem gpsTimeSync_acted : Ensures Acted Plain (gpsTimeSync sub emit) := by
  have hevent (ev : Event) : Keeps Acted (emit ev) := (hemit ev).mono fun _ _ h => h.acted
  refine (cmd_acted _ _).bind fun reply => ?_
  refine ensures_ite (fun _ => ?_) fun _ => ensures_pure plain_nil
  refine (keeps_fromExcept _).bind fun jump => ?_
  refine ensures_get_bind fun e => ?_
  have hboot : Autonomous e { e with models := sub.forceSafeBoot e.models } :=
    autonomous_of_eq rfl rfl rfl
  split_ifs
  · exact ((hevent _).bind fun _ => ensures_pure plain_nil).after hboot.acted
  · exact ⟨refl_of Acted e, plain_nil⟩

include hemit in
/-- What a router does, a start failure apart. -/
theorem perform_acted {action : Action} (hcode : action.CodeFits)
    (h : ∀ message, action ≠ .execFail message) :
    Ensures Acted Plain (perform sub emit action) := by
  cases action with
  | calls calls => exact (runCalls_acted calls {}).bind fun _ => ensures_pure plain_nil
  | refuse errorCode message =>
      have hrange : (0 : Int) ≤ errorCode ∧ (errorCode : Int) < 2 ^ 16 :=
        ⟨Int.natCast_nonneg errorCode, by exact_mod_cast hcode⟩
      exact (makeErrorResponse_acted hrange message).bind fun _ => ensures_pure plain_nil
  | execFail message => exact absurd rfl (h message)
  | query call answer =>
      refine (cmd_acted _ _).bind fun reply => ?_
      refine (keeps_fromExcept _).bind fun answered => ?_
      cases answered with
      | none => exact ensures_pure plain_nil
      | some answer => exact (report_plain (by decide) _ _ _).mono fun _ _ h => h.acted
  | gpsTimeSync => exact gpsTimeSync_acted hemit

/-- A start failure is answered with S1.4 alone. -/
structure Refused (e e' : Engine M) (pkts : List TmPacket) : Prop extends Quiet e e' where
  execFail : e'.dispatcher.outcome.execFail.isSome
  errReason : e'.dispatcher.outcome.errReason = e.dispatcher.outcome.errReason
  answer : ∃ pkt, pkts = [pkt] ∧ pkt.service = 1 ∧ pkt.subtype = 4

theorem generateS1ExecFail_refused (errorCode : Nat) (reason : String) (e : Engine M) :
    wp (generateS1ExecFail errorCode reason) (fun pkts e' => Aside e e' ∧ Refused e e' pkts)
      (fun _ _ => False) e := by
  unfold generateS1ExecFail updateOutcome updateDispatcher report building
  simp only [wp_bind, wp_modify, wp_get, wp_map, wp_zoom]
  refine wp_mono (packTm_short 1 4 ?_ _) (fun pkt b hkind => ?_) fun _ _ h => h
  · have hreason := encodeFailureReason_length reason
    simp only [List.length_append, packU16_length, failureReasonMaxBytes] at hreason ⊢
    omega
  · exact ⟨⟨rfl, rfl, .refl _⟩, ⟨rfl, rfl, .refl _⟩, rfl, rfl, pkt, rfl, hkind⟩

include hemit in
theorem perform_aside {action : Action} (hcode : action.CodeFits) :
    Keeps Aside (perform sub emit action) := by
  by_cases h : ∃ message, action = .execFail message
  · obtain ⟨message, rfl⟩ := h
    intro e
    exact wp_mono (generateS1ExecFail_refused _ message e) (fun _ _ h => h.1) fun _ _ => False.elim
  · refine (perform_acted hemit hcode fun message hfail => h ⟨message, hfail⟩).keeps.mono ?_
    exact fun _ _ hacted => hacted.toAside

include hemit in
theorem handleS8_aside (subtype : Nat) (data : Bytes) :
    Keeps Aside (handleS8 sub emit subtype data) := by
  cases data with
  | nil => exact keeps_pure _
  | cons funcId args =>
      refine keeps_ite (fun _ => keeps_pure _) fun _ => ?_
      cases route funcId.toNat with
      | none => exact keeps_pure _
      | some r =>
          refine keeps_bind keeps_get fun e => ?_
          refine keeps_ite (fun _ => ?_) fun _ => keeps_pure _
          exact perform_aside hemit (functionAction_codeFits _ _ _ _)

/-! ### Rules and events -/

include hemit in
/-- A rule runs its function on its own account, and the outcome under way is put back. -/
theorem s19Dispatch_autonomous (rule : EventAction) :
    Keeps Autonomous (s19Dispatch sub emit rule) := by
  intro e
  have hfunction : Keeps Aside (if rule.actionFuncId < 256 then do
      let _ ← handleS8 sub emit 1 (UInt8.ofNat rule.actionFuncId :: rule.actionData)
      pure ()
    else throw .valueError : Program M Unit) :=
    keeps_ite (fun _ => keeps_bind (handleS8_aside hemit _ _) fun _ => keeps_pure _)
      fun _ => keeps_throw _
  unfold s19Dispatch
  rw [wp_bind, wp_get]
  by_cases hcritical : rule.actionFuncId ∈ obcCriticalFuncs ∧ sub.swImage e.models = 0
  · rw [if_pos hcritical]
    exact refl_of Autonomous e
  · rw [if_neg hcritical, wp_restoring, wp_bind, wp_modify]
    have hrestored (e' : Engine M)
        (h : Aside (Engine.setFrame ({ requestId := e.dispatcher.outcome.requestId }, true) e) e') :
        Autonomous e (Engine.setFrame e.frame e') :=
      ⟨h.held, rfl, h.log⟩
    exact wp_mono (hfunction _) (fun _ => hrestored) fun _ => hrestored

include hemit in
theorem triggerEventAction_autonomous (triggerId kind : Nat) :
    Keeps Autonomous (triggerEventAction sub emit triggerId kind) := by
  refine keeps_bind keeps_get fun e => keeps_forM _ fun item _ => ?_
  refine keeps_bind keeps_get fun e' => ?_
  exact keeps_ite (fun _ => s19Dispatch_autonomous hemit item.2) fun _ => keeps_pure _

end Commands

section Events

-- unfolding the range check of a field would count down from its bound
attribute [local irreducible] packUnsigned

variable {sub : Subsystems M}

theorem buildEventPacket_kind (eventId severity : Nat) (text : String) (cuc : Int) (b : Builder) :
    wp (buildEventPacket eventId severity text cuc) (fun pkt _ => pkt.service = 5)
      (fun _ _ => True) b := by
  unfold buildEventPacket
  simp only [wp_bind, wp_fromExcept, implies_true, and_true]
  intro _ _ _ _ _ _
  exact wp_mono (packTm_kind _ _ _ _ b) (fun _ _ h => h.1) fun _ _ h => h

/-- **Events.**  By induction on the nesting: what an event triggers are functions, which
emit events nested less deep. -/
theorem emitEvent_autonomous (depth : Nat) (ev : Event) :
    Keeps Autonomous (emitEvent sub depth ev) := by
  induction depth generalizing ev with
  | zero => exact keeps_throw _
  | succ depth ih =>
      refine keeps_bind keeps_get fun e => ?_
      have hbuilt := building_autonomous (M := M)
        (buildEventPacket_kind ev.eventId ev.severity ev.description (sub.obcTimeCuc e.models))
      refine hbuilt.bind fun pkt hpkt => ?_
      refine keeps_bind (enqueueTm_autonomous hpkt) fun _ => ?_
      refine keeps_bind (storeAlarm_autonomous pkt ev.severity) fun _ => ?_
      exact triggerEventAction_autonomous ih _ _

end Events

end Spacecraft
