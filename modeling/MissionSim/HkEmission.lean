import MissionSim.EventReports

/-!
# The emission of housekeeping reports

Every tick goes through the housekeeping structures the engine has an interval for.  The
timer of an enabled one is advanced, and where it has reached the interval it is reset and the
report is handed to the downlink.

The platform has a say in this.  The bootloader sends only its beacon, the structures of a
subsystem behind a failed bus are silent, and so are those of a unit without power.

The on-board computer's count of sent packets is left out.
-/

namespace Spacecraft

open Octets Binary32 Python Effects TmBuilder List

variable {M : Type} (sub : Subsystems M)

/-- The engine and its housekeeping timers. -/
structure Housekeeper (M : Type) where
  engine : Engine M
  hkTimers : Dict Nat FloatValue := .empty

/-- A program on both. -/
abbrev HkProgram (M α : Type) := EStateM PyError (Housekeeper M) α

/-- `_hk_timers.get(sid, 0.0)`. -/
def Housekeeper.timer (s : Housekeeper M) (sid : Nat) : FloatValue :=
  (s.hkTimers.get? sid).getD (floatOf 0)

/-- Run a program of the engine. -/
def onEngine {α : Type} (x : Program M α) : HkProgram M α :=
  zoom Housekeeper.engine (fun e s => { s with engine := e }) x

def setTimer (sid : Nat) (value : FloatValue) : HkProgram M Unit :=
  modify fun s => { s with hkTimers := s.hkTimers.set sid value }

/-- `_BUS_GATED_SIDS`. -/
def busGatedSids : List Nat := [1, 2, 3, 5, 6]

/-- `sid_power_owner`. -/
def sidPowerOwner : Nat → Option String
  | 2 => some "aocs_wheels"
  | 5 => some "payload"
  | _ => none

/-- `eps_lines.get(owner, True)`. -/
def lineOn (m : M) (owner : String) : Bool :=
  ((sub.powerLines m).bind fun lines => lines.get? owner).getD true

/-- What the platform does to the timer of a structure. -/
inductive Gate where
  | halted
  | restarted
  | running
  deriving DecidableEq, Repr

/-- The gates of `_emit_hk_packets`, in their order. -/
def hkGate (swImage : Int) (m : M) (sid : Nat) : Gate :=
  if swImage = 0 ∧ sid ∉ [10, 11] then .halted
  else if sub.obcBusFailed m ∧ sid ∈ busGatedSids then .restarted
  -- dropped, so that there is no burst when the power is back
  else if (sidPowerOwner sid).any fun owner => !lineOn sub m owner then .restarted
  else .running

/-- Build the report of a structure, if there is one, and enqueue it. -/
def reportHk (sid : Nat) : Program M Unit := do
  let e ← get
  let pkt ← building (buildHkPacket sid e.params (e.hkStructures.get? sid)
    (sub.obcTimeCuc e.models))
  match pkt with
  | some pkt => enqueueTm pkt
  | none => pure ()

/-- One round of the loop of `_emit_hk_packets`. -/
def emitHkSid (swImage : Int) (dtSim : FloatValue) (sid : Nat) (interval : FloatValue) :
    HkProgram M Unit := do
  let s ← get
  if (s.engine.hkEnabled.get? sid).getD true then
    match hkGate sub swImage s.engine.models sid with
    | .halted => pure ()
    | .restarted => setTimer sid (floatOf 0)
    | .running => do
        setTimer sid ((s.timer sid).add dtSim)
        if interval.le ((s.timer sid).add dtSim) then do
          setTimer sid (floatOf 0)
          onEngine (reportHk sub sid)
        else pure ()
  else pure ()

/-- `_emit_hk_packets(dt_sim)`. -/
def emitHkPackets (dtSim : FloatValue) : HkProgram M Unit := do
  let s ← get
  let swImage ← fromExcept s.engine.swImageParam
  s.engine.hkIntervals.items.forM fun item => emitHkSid sub swImage dtSim item.1 item.2

/-! ### Reports -/

/-- The structure a packet reports. -/
def hkSid? (pkt : TmPacket) : Option Nat :=
  if pkt.service = 3 ∧ pkt.subtype = 25 then some (unpackU16 pkt.data) else none

/-- What a tick needs so that it raises nothing: the software image is a number, the on-board
time and the identifiers fit their fields, and the parameters can be packed. -/
structure Reportable (e : Engine M) : Prop where
  image : ∃ swImage, e.swImageParam = .ok swImage
  notNegative : 0 ≤ sub.obcTimeCuc e.models
  time : sub.obcTimeCuc e.models < 2 ^ 32
  packs : ∀ sid parameters, e.hkStructures.get? sid = some parameters →
    sid < 2 ^ 16 ∧ ∃ packed,
      (parameters.mapM fun p => p.pack ((e.params.get? p.paramId).getD (.int 0))) = .ok packed ∧
      packed.flatten.length + 10 < 2 ^ 16

/-- What a tick leaves alone. -/
def Engine.hkView (e : Engine M) :
    Dict Nat Value × M × Dict Nat (List HkParameter) × Dict Nat FloatValue × Dict Nat Bool :=
  (e.params, e.models, e.hkStructures, e.hkIntervals, e.hkEnabled)

variable {sub}

theorem Reportable.of_hkView {e e' : Engine M} (h : Reportable sub e)
    (hview : e'.hkView = e.hkView) : Reportable sub e' := by
  obtain ⟨hparams, hmodels, hstructures, -, -⟩ := by simpa [Engine.hkView] using hview
  obtain ⟨image, notNegative, time, packs⟩ := h
  rw [Engine.swImageParam, ← hparams] at image
  rw [← hmodels] at notNegative time
  rw [← hparams, ← hstructures] at packs
  exact ⟨image, notNegative, time, packs⟩

/-- The packets appended to the log report the structures `sids`, and the rest is left alone. -/
def Sends (sids : List Nat) (e e' : Engine M) : Prop :=
  e'.hkView = e.hkView ∧
    ∃ pkts : List TmPacket, e'.log = e.log ++ pkts.map .tm ∧ pkts.filterMap hkSid? = sids

theorem Sends.refl (e : Engine M) : Sends [] e e := ⟨rfl, [], by simp, rfl⟩

theorem Sends.trans {sids sids' : List Nat} {e e' e'' : Engine M} (h : Sends sids e e')
    (h' : Sends sids' e' e'') : Sends (sids ++ sids') e e'' := by
  obtain ⟨hview, pkts, hlog, hsids⟩ := h
  obtain ⟨hview', pkts', hlog', hsids'⟩ := h'
  refine ⟨hview'.trans hview, pkts ++ pkts', ?_, ?_⟩
  · rw [hlog', hlog, map_append, append_assoc]
  · rw [filterMap_append, hsids, hsids']

theorem enqueueTm_sends {pkt : TmPacket} {e : Engine M} {swImage : Int}
    (himage : e.swImageParam = .ok swImage) :
    wp (enqueueTm pkt) (fun _ e' => Sends ([pkt].filterMap hkSid?) e e') (fun _ _ => False) e := by
  unfold enqueueTm note
  simp only [wp_bind, wp_modify, wp_get, wp_fromExcept, wp_set]
  refine ⟨fun _ _ => ⟨rfl, [pkt], rfl, rfl⟩, ?_⟩
  intro error herror
  have hsame : e.swImageParam = .error error := herror
  rw [himage] at hsame
  cases hsame

/-- The report of a structure is built from what the tick needs. -/
theorem buildHkPacket_eq_ok {e : Engine M} (h : Reportable sub e) {sid : Nat}
    {parameters : List HkParameter} (hstructure : e.hkStructures.get? sid = some parameters)
    (b : Builder) :
    ∃ pkt b', buildHkPacket sid e.params (some parameters) (sub.obcTimeCuc e.models) b =
      .ok (some pkt) b' ∧ hkSid? pkt = some sid := by
  obtain ⟨cuc, hcuc⟩ := Int.eq_ofNat_of_zero_le h.notNegative
  have htime : cuc < 2 ^ 32 := by
    have := h.time
    omega
  obtain ⟨hsid, packed, hpacked, hlength⟩ := h.packs sid parameters hstructure
  obtain ⟨data, hdata⟩ : ∃ data, data = packU16 sid ++ packed.flatten := ⟨_, rfl⟩
  have hshort : data.length + 8 < 2 ^ 16 := by
    rw [hdata, length_append, packU16_length]
    omega
  have hread : unpackU16 data = sid := by
    rw [hdata, unpackU16_packU16_append]
    exact Nat.mod_eq_of_lt hsid
  refine ⟨{ apid := b.apid, sequenceCount := b.next.seqCount, service := 3, subtype := 25,
            cuc := cuc, data := data }, b.next, ?_, ?_⟩
  · rw [hcuc, buildHkPacket]
    refine Effects.bind_eq_ok.mpr ⟨packed, b, fromExcept_eq_ok.mpr ⟨hpacked, rfl⟩, ?_⟩
    rw [← hdata]
    show EStateM.map some (packTm 3 25 data cuc) b = _
    rw [EStateM.map, packTm_eq_ok 3 25 htime hshort b]
  · simp only [hkSid?, and_self, if_true, hread]

/-- A structure that exists is reported, and no other. -/
theorem reportHk_sends {e : Engine M} (h : Reportable sub e) (sid : Nat) :
    wp (reportHk sub sid)
      (fun _ e' => Sends (if (e.hkStructures.get? sid).isSome then [sid] else []) e e')
      (fun _ _ => False) e := by
  obtain ⟨swImage, himage⟩ := h.image
  cases hstructure : e.hkStructures.get? sid with
  | none =>
      refine wp_building ?_
      rw [hstructure]
      exact Sends.refl e
  | some parameters =>
      refine wp_building ?_
      rw [hstructure]
      obtain ⟨pkt, b', hbuilt, hpkt⟩ := buildHkPacket_eq_ok h hstructure e.tmBuilder
      rw [wp_of_ok hbuilt]
      have hsent := @enqueueTm_sends M pkt { e with tmBuilder := b' } swImage himage
      rw [filterMap_cons, hpkt] at hsent
      exact hsent

/-! ### Ticks -/

/-- A timer after a tick, and whether its structure is then due. -/
def Gate.advance (gate : Gate) (interval dtSim timer : FloatValue) : FloatValue × Bool :=
  match gate with
  | .halted => (timer, false)
  | .restarted => (floatOf 0, false)
  | .running =>
      if interval.le (timer.add dtSim) then (floatOf 0, true) else (timer.add dtSim, false)

variable (sub) in
/-- The timer of a structure after its round. -/
def Housekeeper.advance (s : Housekeeper M) (swImage : Int) (dtSim : FloatValue)
    (item : Nat × FloatValue) : FloatValue × Bool :=
  if (s.engine.hkEnabled.get? item.1).getD true then
    (hkGate sub swImage s.engine.models item.1).advance item.2 dtSim (s.timer item.1)
  else (s.timer item.1, false)

variable (sub) in
/-- The structure exists, and its timer has reached the interval. -/
def Housekeeper.fires (s : Housekeeper M) (swImage : Int) (dtSim : FloatValue)
    (item : Nat × FloatValue) : Bool :=
  (s.advance sub swImage dtSim item).2 && (s.engine.hkStructures.get? item.1).isSome

/-- What the rounds for `items` do. -/
structure Served (sub : Subsystems M) (swImage : Int) (dtSim : FloatValue)
    (items : List (Nat × FloatValue)) (s s' : Housekeeper M) : Prop where
  sends : Sends ((items.filter (s.fires sub swImage dtSim)).map Prod.fst) s.engine s'.engine
  advanced : ∀ item ∈ items, s'.timer item.1 = (s.advance sub swImage dtSim item).1
  others : ∀ sid ∉ items.map Prod.fst, s'.timer sid = s.timer sid

open Housekeeper

theorem Served.one {swImage : Int} {dtSim value : FloatValue} {due : Bool}
    {item : Nat × FloatValue} {s s' : Housekeeper M}
    (hadvance : s.advance sub swImage dtSim item = (value, due))
    (htimer : ∀ sid, s'.timer sid = if sid = item.1 then value else s.timer sid)
    (hsends : Sends (if due && (s.engine.hkStructures.get? item.1).isSome then [item.1] else [])
      s.engine s'.engine) : Served sub swImage dtSim [item] s s' := by
  refine ⟨?_, ?_, ?_⟩
  · have hfires : s.fires sub swImage dtSim item =
        (due && (s.engine.hkStructures.get? item.1).isSome) := by
      rw [fires, hadvance]
    rw [filter_cons, filter_nil, hfires, apply_ite (map Prod.fst)]
    exact hsends
  · intro other hother
    obtain rfl := mem_singleton.mp hother
    rw [htimer, if_pos rfl, hadvance]
  · intro sid hsid
    rw [htimer, if_neg]
    intro heq
    exact hsid (heq ▸ mem_singleton_self _)

/-- The timer of one structure is set, the others are as before. -/
theorem timer_set (e : Engine M) (timers : Dict Nat FloatValue) (sid other : Nat)
    (value : FloatValue) :
    (mk e (timers.set sid value)).timer other =
      if other = sid then value else (mk e timers).timer other := by
  unfold timer
  by_cases heq : other = sid
  · rw [heq, Dict.get?_set_same, if_pos rfl]
    rfl
  · rw [Dict.get?_set_ne _ heq, if_neg heq]

/-- **One round.** -/
theorem emitHkSid_served {s : Housekeeper M} (h : Reportable sub s.engine) (swImage : Int)
    (dtSim : FloatValue) (item : Nat × FloatValue) :
    wp (emitHkSid sub swImage dtSim item.1 item.2) (fun _ s' => Served sub swImage dtSim [item] s s')
      (fun _ _ => False) s := by
  obtain ⟨sid, interval⟩ := item
  have hsame : ∀ other, s.timer other = if other = sid then s.timer sid else s.timer other := by
    intro other
    by_cases heq : other = sid
    · rw [if_pos heq, heq]
    · rw [if_neg heq]
  unfold emitHkSid
  rw [wp_bind, wp_get, wp_ite]
  refine ⟨fun henabled => ?_, fun hdisabled => ?_⟩
  · have hadvance : s.advance sub swImage dtSim (sid, interval) =
        (hkGate sub swImage s.engine.models sid).advance interval dtSim (s.timer sid) := by
      rw [advance, if_pos henabled]
    cases hgate : hkGate sub swImage s.engine.models sid with
    | halted =>
        rw [hgate, Gate.advance] at hadvance
        exact Served.one hadvance hsame (Sends.refl _)
    | restarted =>
        rw [hgate, Gate.advance] at hadvance
        exact Served.one hadvance (fun other => timer_set _ _ _ _ _) (Sends.refl _)
    | running =>
        rw [hgate, Gate.advance] at hadvance
        rw [wp_bind, setTimer, wp_modify, wp_ite]
        refine ⟨fun hdue => ?_, fun hearly => ?_⟩
        · rw [if_pos hdue] at hadvance
          rw [wp_bind, setTimer, wp_modify, onEngine, wp_zoom]
          refine wp_mono (reportHk_sends h sid) (fun _ e' hsends => ?_) fun _ _ hraised => hraised
          refine Served.one hadvance (fun other => ?_) hsends
          rw [timer_set, timer_set]
          by_cases heq : other = sid
          · rw [if_pos heq, if_pos heq]
          · rw [if_neg heq, if_neg heq, if_neg heq]
            rfl
        · rw [if_neg hearly] at hadvance
          exact Served.one hadvance (fun other => timer_set _ _ _ _ _) (Sends.refl _)
  · have hadvance : s.advance sub swImage dtSim (sid, interval) = (s.timer sid, false) := by
      rw [advance, if_neg hdisabled]
    exact Served.one hadvance hsame (Sends.refl _)

theorem Served.trans {swImage : Int} {dtSim : FloatValue} {item : Nat × FloatValue}
    {rest : List (Nat × FloatValue)} {s s' s'' : Housekeeper M}
    (hnew : item.1 ∉ rest.map Prod.fst) (h : Served sub swImage dtSim [item] s s')
    (h' : Served sub swImage dtSim rest s' s'') :
    Served sub swImage dtSim (item :: rest) s s'' := by
  obtain ⟨hview, -⟩ := id h.sends
  obtain ⟨-, hmodels, hstructures, -, henabled⟩ := by simpa [Engine.hkView] using hview
  -- a later round finds its timer as it was
  have hadvance : ∀ other ∈ rest,
      s'.advance sub swImage dtSim other = s.advance sub swImage dtSim other := by
    intro other hother
    have htimer : s'.timer other.1 = s.timer other.1 := by
      refine h.others other.1 fun hmem => hnew ?_
      rw [← mem_singleton.mp hmem]
      exact mem_map_of_mem hother
    simp only [advance, hmodels, henabled, htimer]
  refine ⟨?_, ?_, ?_⟩
  · have hfires : rest.filter (s'.fires sub swImage dtSim) =
        rest.filter (s.fires sub swImage dtSim) := by
      refine filter_congr fun other hother => ?_
      simp only [fires, hadvance other hother, hstructures]
    have hsends := h.sends.trans h'.sends
    rw [hfires, ← map_append, ← filter_append] at hsends
    exact hsends
  · intro other hother
    rcases mem_cons.mp hother with hfirst | hlater
    · subst hfirst
      rw [h'.others _ hnew]
      exact h.advanced other (mem_singleton_self _)
    · rw [h'.advanced other hlater, hadvance other hlater]
  · intro sid hsid
    rw [h'.others sid fun hmem => hsid (mem_cons_of_mem _ hmem)]
    exact h.others sid fun hmem => hsid (mem_cons.mpr (.inl (mem_singleton.mp hmem)))

/-- The loop, by induction on the structures. -/
theorem emitHkSids_served {items : List (Nat × FloatValue)} {s : Housekeeper M}
    (h : Reportable sub s.engine) (hnodup : (items.map Prod.fst).Nodup) (swImage : Int)
    (dtSim : FloatValue) :
    wp (items.forM fun item => emitHkSid sub swImage dtSim item.1 item.2)
      (fun _ s' => Served sub swImage dtSim items s s') (fun _ _ => False) s := by
  induction items generalizing s with
  | nil => exact ⟨Sends.refl _, fun _ hmem => absurd hmem not_mem_nil, fun _ _ => rfl⟩
  | cons item rest ih =>
      obtain ⟨hnew, hrest⟩ := nodup_cons.mp hnodup
      refine (wp_bind _ _).mpr ?_
      refine wp_mono (emitHkSid_served h swImage dtSim item) (fun _ s' hfirst => ?_)
        fun _ _ hraised => hraised
      refine wp_mono (ih (h.of_hkView hfirst.sends.1) hrest) (fun _ s'' hlater => ?_)
        fun _ _ hraised => hraised
      exact hfirst.trans hnew hlater

/-- **A tick.**  The structures whose timer has reached the interval are reported, every one
once. -/
theorem emitHkPackets_served {s : Housekeeper M} (h : Reportable sub s.engine) {swImage : Int}
    (himage : s.engine.swImageParam = .ok swImage) (dtSim : FloatValue) :
    Served sub swImage dtSim s.engine.hkIntervals.items s
      (finalState (emitHkPackets sub dtSim) s) := by
  have hloop := emitHkSids_served h s.engine.hkIntervals.nodup swImage dtSim
  refine wp_state.mp ?_
  rw [emitHkPackets, wp_bind, wp_get, wp_bind, wp_fromExcept]
  refine ⟨fun image hok => ?_, fun error herror => ?_⟩
  · rw [himage] at hok
    cases hok
    exact wp_mono hloop (fun _ _ hserved => hserved) fun _ _ hraised => hraised.elim
  · rw [himage] at herror
    cases herror

end Spacecraft
