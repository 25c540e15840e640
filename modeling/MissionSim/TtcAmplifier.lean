import MissionSim.Runs
import MissionSim.TtcCommands

/-!
# The thermal shutdown of the amplifier

A hot amplifier is shut down until it has cooled by fifteen degrees, and the command that switches
it on is refused meanwhile.

The dedicated command channel knows no shutdown: its start and its running timer switch the
amplifier on.
-/

namespace Ttc

open Binary32 Python Effects

variable (c : Config)

/-- An amplifier that is shut down is off. -/
def TtcState.ShutDown (s : TtcState) : Prop := s.paOverheatShutdown = true → s.paOn = false

/-- The command channel switches the amplifier on during a shutdown. -/
def Overrides (s : TtcState) : TtcEvent → Prop
  | .command .cmdChannelStart => s.paOverheatShutdown = true
  | .tick dt _ _ _ => s.paOverheatShutdown = true ∧ s.cmdChannelActive = true ∧
      (literal 0).lt (s.cmdDecodeTimer.sub dt) = true ∧ s.powered 0x0402 = true
  | _ => False

/-- The shutdown holds at a position of a run: the amplifier is off in a shutdown, and a tick made
in one ends without forward power. -/
structure HoldsAt (s : TtcState) (events : List TtcEvent) (i : Nat) : Prop where
  off : (Runs.after (step c) s (events.take i)).ShutDown
  silent : ∀ dt orbitState params radio,
    events[i]? = some (.tick dt orbitState params radio) →
    (Runs.after (step c) s (events.take i)).paOverheatShutdown = true →
    (Runs.after (step c) s (events.take (i + 1))).txFwdPower = literal 0

variable {c}

/-! ### Ticks -/

theorem TtcState.ShutDown.of_same {s s' : TtcState} (h : s.ShutDown)
    (hsame : (s'.paOn, s'.paOverheatShutdown) = (s.paOn, s.paOverheatShutdown)) :
    s'.ShutDown := by
  obtain ⟨hon, hshutdown⟩ := Prod.mk.inj hsame
  intro hyes
  rw [hon]
  exact h (hshutdown.symm.trans hyes)

/-- What a part of a tick keeps: the shutdown and the forward power. -/
def Quiet (s s' : TtcState) : Prop := (s.ShutDown → s'.ShutDown) ∧ s'.txFwdPower = s.txFwdPower

instance : Std.Refl Quiet := ⟨fun _ => ⟨id, rfl⟩⟩

instance : IsTrans TtcState Quiet :=
  ⟨fun _ _ _ h h' => ⟨fun hs => h'.1 (h.1 hs), h'.2.trans h.2⟩⟩

theorem thermalSwitch_quiet (s : TtcState) : Quiet s (s.thermalSwitch c) := by
  unfold TtcState.thermalSwitch
  dsimp only
  by_cases hhot : c.paShutdownTemp.le s.paTemp
  · split_ifs
    · exact ⟨fun _ => nofun, rfl⟩
    · exact ⟨fun _ _ => rfl, rfl⟩
  · split_ifs
    · exact ⟨fun _ => nofun, rfl⟩
    · exact ⟨id, rfl⟩

/-- A tick after its forward power is settled. -/
theorem tickEnd_quiet (inContact override : Bool) (orbitState : OrbitState) (dt : FloatValue)
    (radio : Radio) :
    Keeps Quiet (do
      modify (TtcState.place c.ladder inContact override orbitState)
      modify fun s => applyTier c (effectiveTier c.ladder s) s
      modify (TtcState.acquireLock c inContact dt)
      fromExcept radio.linkBudget
      modify fun s => { s with
        rangingActive := inContact && (literal 0).lt s.rangeKm && s.frameSync }
      fromExcept radio.doppler
      let s ← get
      store (paTempAfter c inContact dt radio.noise s) fun x s => { s with paTemp := x }
      modify (TtcState.thermalSwitch c)
      modify fun s => { s with wasInContact := inContact } : TtcProgram Unit) := by
  have hsame : ∀ {f : TtcState → TtcState}, (∀ s, (f s).paOn = s.paOn ∧
      (f s).paOverheatShutdown = s.paOverheatShutdown ∧ (f s).txFwdPower = s.txFwdPower) →
      ∀ s, Quiet s (f s) := by
    intro f hf s
    obtain ⟨hon, hshutdown, hpower⟩ := hf s
    exact ⟨fun h hs => hon.trans (h (hshutdown.symm.trans hs)), hpower⟩
  refine keeps_bind (keeps_modify (hsame fun _ => ⟨rfl, rfl, rfl⟩)) fun _ => ?_
  refine keeps_bind (keeps_modify (hsame fun _ => ⟨rfl, rfl, rfl⟩)) fun _ => ?_
  refine keeps_bind (keeps_modify (hsame fun s => ?_)) fun _ => ?_
  · unfold TtcState.acquireLock
    split_ifs <;> exact ⟨rfl, rfl, rfl⟩
  refine keeps_bind (keeps_fromExcept _) fun _ => ?_
  refine keeps_bind (keeps_modify (hsame fun _ => ⟨rfl, rfl, rfl⟩)) fun _ => ?_
  refine keeps_bind (keeps_fromExcept _) fun _ => keeps_bind keeps_get fun s => ?_
  refine keeps_bind (keeps_store fun x => hsame fun _ => ⟨rfl, rfl, rfl⟩) fun _ => ?_
  refine keeps_bind (keeps_modify thermalSwitch_quiet) fun _ => ?_
  exact keeps_modify (hsame fun _ => ⟨rfl, rfl, rfl⟩)

theorem commandChannel_shutdown (dt : FloatValue) (s : TtcState) :
    (s.commandChannel dt).paOverheatShutdown = s.paOverheatShutdown := by
  unfold TtcState.commandChannel
  dsimp only
  split_ifs <;> rfl

/-- A channel that does not switch the amplifier on leaves it and its forward power alone. -/
theorem commandChannel_quiet {dt : FloatValue} {s : TtcState}
    (hnot : ¬ (s.cmdChannelActive = true ∧ (literal 0).lt (s.cmdDecodeTimer.sub dt) = true ∧
      s.powered 0x0402 = true)) : Quiet s (s.commandChannel dt) := by
  unfold TtcState.commandChannel
  dsimp only
  split_ifs with hactive htimer hpowered
  · exact absurd ⟨hactive, htimer, hpowered⟩ hnot
  · exact ⟨id, rfl⟩
  · exact ⟨id, rfl⟩
  · exact ⟨id, rfl⟩

variable {s : TtcState}

theorem transmit_silent (h : s.paOverheatShutdown = true) : s.transmit.txFwdPower = literal 0 := by
  unfold TtcState.transmit
  simp [h]

/-- The device switch turns the amplifier off, and nothing else. -/
theorem applyDevicePowerGates_eq (s : TtcState) :
    applyDevicePowerGates s = { s with paOn := s.paOn && s.powered 0x0402 } := by
  unfold applyDevicePowerGates
  cases s.powered 0x0402 <;> simp

/-- The start of a tick: the device switch, the forward power and the channel timer. -/
theorem tickStart_silent (h : s.ShutDown) {dt : FloatValue} {orbitState : OrbitState}
    {params : Dict Nat Value} {radio : Radio}
    (hnot : ¬ Overrides s (.tick dt orbitState params radio)) :
    let ready := (applyDevicePowerGates s).transmit.commandChannel dt
    ready.ShutDown ∧ (s.paOverheatShutdown = true → ready.txFwdPower = literal 0) := by
  rw [applyDevicePowerGates_eq]
  by_cases hshutdown : s.paOverheatShutdown = true
  · generalize hgated : ({ s with paOn := s.paOn && s.powered 0x0402 } : TtcState) = gated
    have hgatedShutdown : gated.paOverheatShutdown = true := by
      rw [← hgated]
      exact hshutdown
    have hgatedOff : gated.transmit.ShutDown := by
      intro _
      rw [← hgated]
      show (s.paOn && s.powered 0x0402) = false
      rw [h hshutdown, Bool.false_and]
    have hquiet : Quiet gated.transmit (gated.transmit.commandChannel dt) := by
      refine commandChannel_quiet ?_
      rintro ⟨hactive, htimer, hpowered⟩
      rw [← hgated] at hactive htimer hpowered
      exact hnot ⟨hshutdown, hactive, htimer, hpowered⟩
    exact ⟨hquiet.1 hgatedOff, fun _ => hquiet.2.trans (transmit_silent hgatedShutdown)⟩
  · refine ⟨fun hready => ?_, fun hyes => absurd hyes hshutdown⟩
    rw [commandChannel_shutdown] at hready
    exact absurd hready hshutdown

/-- **A tick keeps the shutdown**, and one made in a shutdown ends without forward power. -/
theorem tick_silent (h : s.ShutDown) {dt : FloatValue} {orbitState : OrbitState}
    {params : Dict Nat Value} {radio : Radio}
    (hnot : ¬ Overrides s (.tick dt orbitState params radio)) :
    let s' := finalState (tick c dt orbitState params radio) s
    s'.ShutDown ∧ (s.paOverheatShutdown = true → s'.txFwdPower = literal 0) := by
  have hstart := tickStart_silent h hnot
  refine (wp_state (P := fun s' : TtcState => s'.ShutDown ∧
    (s.paOverheatShutdown = true → s'.txFwdPower = literal 0))).mp ?_
  refine wp_mono (tickEnd_quiet _ _ orbitState dt radio _) ?_ ?_
  · exact fun _ s' hs => ⟨hs.1 hstart.1, fun hshutdown => hs.2.trans (hstart.2 hshutdown)⟩
  · exact fun _ s' hs => ⟨hs.1 hstart.1, fun hshutdown => hs.2.trans (hstart.2 hshutdown)⟩

/-! ### Commands -/

theorem setTmRate_amplifier (rate : Option RateArg) :
    Keeps (Unchanged fun s : TtcState => (s.paOn, s.paOverheatShutdown)) (setTmRate c rate) := by
  refine keeps_bind (keeps_fromExcept _) fun idx? => keeps_bind keeps_get fun s => ?_
  cases idx? with
  | none => exact keeps_pure _
  | some idx =>
      cases hwhy : tierPermissionError c.ladder idx s with
      | some why =>
          simp only [hwhy]
          exact keeps_pure _
      | none =>
          simp only [hwhy]
          exact keeps_bind (keeps_modify fun _ => rfl) fun _ => keeps_pure _

/-- `pa_on` is refused in a shutdown. -/
theorem paOn_shutDown (h : s.ShutDown) : (finalState paOn s).ShutDown := by
  refine (wp_state).mp ?_
  unfold paOn
  rw [wp_bind, wp_get, wp_ite]
  refine ⟨fun _ => h, fun hnot => ?_⟩
  exact fun hyes => absurd hyes hnot

/-- A command keeps the shutdown, unless it starts the channel in it. -/
theorem handleCommand_shutDown (h : s.ShutDown) {cmd : TtcCommand}
    (hnot : ¬ Overrides s (.command cmd)) : (finalState (handleCommand c cmd) s).ShutDown := by
  rcases handleCommand_aside cmd with hacting | haside
  · cases hacting with
    | setTmRate rate => exact h.of_same ((setTmRate_amplifier rate).final s)
    | setDataRateMode mode => exact h.of_same ((setTmRate_amplifier mode).final s)
    | paOn => exact paOn_shutDown h
    | paOff => exact fun _ => rfl
    | cmdChannelStart => exact fun hyes => absurd hyes hnot
  · exact h.of_same (congrArg Prod.snd (haside.keeps.final s))

/-! ### Runs -/

theorem step_shutDown (event : TtcEvent) (h : s.ShutDown) (hnot : ¬ Overrides s event) :
    (step c s event).ShutDown := by
  cases event with
  | command cmd => exact handleCommand_shutDown h hnot
  | tick dt orbitState params radio => exact (tick_silent h hnot).1
  | inject magnitude failure =>
      exact h.of_same (congrArg Prod.snd ((injectFailure_aside magnitude failure).final s))
  | clear failure => exact h.of_same (congrArg Prod.snd ((clearFailure_aside failure).final s))
  | device deviceId onOff =>
      exact h.of_same (congrArg Prod.snd ((setDeviceState_aside deviceId onOff).final s))

/-- **The thermal shutdown holds** at every position of a run in which the command channel does not
override it. -/
theorem shutdown_holds {start : TtcState} (hstart : start.ShutDown) (events : List TtcEvent)
    (hnever : ∀ i, ¬ Runs.HappensAt (step c) start events Overrides i) (i : Nat) :
    HoldsAt c start events i := by
  have hoff : ∀ i, (Runs.after (step c) start (events.take i)).ShutDown :=
    Runs.invariant_unless (fun s event h hnot => step_shutDown event h hnot) hstart hnever
  refine ⟨hoff i, ?_⟩
  intro dt orbitState params radio hevent hshutdown
  have hnot : ¬ Overrides (Runs.after (step c) start (events.take i))
      (.tick dt orbitState params radio) := fun hover => hnever i ⟨_, hevent, hover⟩
  rw [Runs.after_take_succ hevent]
  exact (tick_silent (hoff i) hnot).2 hshutdown

/-! ### Flights -/

/-- Out of contact. -/
def farAway : OrbitState where
  inContact := false
  gsElevationDeg := (literal 30).neg
  gsRangeKm := literal 5000

/-- A minute without noise. -/
def quietMinute : TtcEvent := .tick (literal 60) farAway Dict.empty ⟨.ok (), .ok (), literal 0⟩

/-- The amplifier is heated until it is shut down, and a further minute passes. -/
def overheated : List TtcEvent :=
  [.inject (literal 1) (.paOverheat (some (.int 30))), quietMinute, quietMinute]

theorem overheated_holds : HoldsAt flightConfig {} overheated 2 := by
  have hstart : ({} : TtcState).ShutDown := by
    intro hyes
    cases hyes
  refine shutdown_holds hstart overheated ?_ 2
  rintro i ⟨event, hevent, hover⟩
  have hchannel : ∀ j < 3,
      (Runs.after (step flightConfig) {} (overheated.take j)).cmdChannelActive = false := by
    decide +kernel
  obtain ⟨hlt, hget⟩ := List.getElem?_eq_some_iff.mp hevent
  cases event with
  | tick dt orbitState params radio =>
      exact absurd (hover.2.1.symm.trans (hchannel i hlt)) (by decide)
  | command cmd =>
      have hno : ∀ event ∈ overheated, ∀ cmd, event ≠ .command cmd := by
        simp [overheated, quietMinute]
      exact hno _ (List.mem_of_getElem? hevent) cmd rfl
  | inject | clear | device => exact hover

/-- The command channel is started before the shutdown. -/
def channelAndHeat : List TtcEvent := .command .cmdChannelStart :: overheated

/-- The last minute begins in a shutdown, and ends with forward power. -/
theorem channelAndHeat_transmits : ¬ HoldsAt flightConfig {} channelAndHeat 3 := by
  intro h
  have hsilent := h.silent (literal 60) farAway Dict.empty ⟨.ok (), .ok (), literal 0⟩ rfl
    (by decide +kernel)
  revert hsilent
  decide +kernel

end Ttc
