import MissionSim.ObdhCommands
import MissionSim.Runs

/-!
# The redundant units

Unit B is active exactly while it is the active unit, and a switchover goes to a unit that is
powered.

The switchover does not look at the device switches, and a tick reports unit B off even while it
is the active one.
-/

namespace Obdh

open Python Effects

/-- The device switch of a unit. -/
def Side.device : Side → Nat
  | .a => 0x0500
  | .b => 0x0501

/-- The other unit, `1 - unit`. -/
def Side.other : Side → Side
  | .a => .b
  | .b => .a

/-- Unit B is the active unit exactly when its status is active. -/
def Redundant (s : ObdhState) : Prop := s.activeObc = .b ↔ s.obcBStatus = .active

/-- A switchover to a unit whose device is off. -/
def SwitchesUnpowered (s : ObdhState) (event : ObdhEvent) : Prop :=
  event = .command .obcSwitchUnit ∧ s.powered s.activeObc.other.device = false

/-- A tick that finds the device of unit B off while it is the active unit. -/
def DropsActive (s : ObdhState) (event : ObdhEvent) : Prop :=
  (∃ dt seu, event = .tick dt seu) ∧ s.activeObc = .b ∧ s.powered Side.b.device = false

/-- Every state of a run is redundant, and no switchover goes to an unpowered unit. -/
structure RedundancyHolds (s : ObdhState) (events : List ObdhEvent) : Prop where
  active : ∀ i, Redundant (Runs.after step s (events.take i))
  powered : ∀ i, ¬ Runs.HappensAt step s events SwitchesUnpowered i

/-- The units and the device switches. -/
def ObdhState.units (s : ObdhState) : Side × ObcStatus × Dict Nat Bool :=
  (s.activeObc, s.obcBStatus, s.deviceStates)

/-- A tick leaves the active unit, and reports unit B off where its device is. -/
theorem tick_units (dt : ℚ) (seu : Bool) (s : ObdhState) :
    (tick dt seu s).activeObc = s.activeObc ∧
      (tick dt seu s).obcBStatus = if s.powered Side.b.device then s.obcBStatus else .off := by
  unfold tick
  have hboot : ((s.advance dt).boot dt).units = s.units := by
    unfold ObdhState.boot
    split_ifs <;> rfl
  generalize (s.advance dt).boot dt = booted at hboot ⊢
  have hwatchdog : booted.watchdog.units = booted.units := by
    unfold ObdhState.watchdog
    split_ifs <;> rfl
  have hupset : (booted.watchdog.upset seu).units = booted.watchdog.units := by
    unfold ObdhState.upset
    split_ifs <;> rfl
  have hscrub : ((booted.watchdog.upset seu).scrub dt).units =
      (booted.watchdog.upset seu).units := by
    unfold ObdhState.scrub
    split_ifs <;> rfl
  have hunits : ((booted.watchdog.upset seu).scrub dt).units = s.units := by
    rw [hscrub, hupset, hwatchdog, hboot]
  generalize (booted.watchdog.upset seu).scrub dt = ended at hunits ⊢
  have hdevices : ended.deviceStates = s.deviceStates := congrArg (fun u => u.2.2) hunits
  have hstatus : ended.obcBStatus = s.obcBStatus := congrArg (fun u => u.2.1) hunits
  have hpowered : ended.powered 0x0501 = s.powered Side.b.device := by
    unfold ObdhState.powered
    rw [hdevices]
    rfl
  refine ⟨congrArg Prod.fst hunits, ?_⟩
  show (if ended.powered 0x0501 then ended.obcBStatus else .off) = _
  rw [hpowered, hstatus]

/-- An event that is no switchover and no tick. -/
theorem units_of_core {s s' : ObdhState} (h : s'.core = s.core) :
    s'.activeObc = s.activeObc ∧ s'.obcBStatus = s.obcBStatus := by
  simp only [ObdhState.core, Prod.mk.injEq] at h
  exact ⟨h.2.2.2.2.2.1, h.2.2.2.2.2.2⟩

theorem Redundant.of_same {s s' : ObdhState} (h : Redundant s)
    (hsame : s'.activeObc = s.activeObc ∧ s'.obcBStatus = s.obcBStatus) : Redundant s' := by
  unfold Redundant
  rw [hsame.1, hsame.2]
  exact h

/-- A switchover ends with unit B active exactly when it went to unit B. -/
theorem switchover_redundant (s : ObdhState) : Redundant s.switchover := by
  unfold Redundant ObdhState.switchover
  cases s.activeObc with
  | a | b => simp [ObdhState.reboot]

variable {s : ObdhState}

theorem command_redundant (h : Redundant s) (cmd : ObdhCommand) :
    Redundant (step s (.command cmd)) := by
  rcases handleCommand_cases cmd s with ⟨hacting, hstep⟩ | ⟨-, hcore⟩
  · rw [hstep]
    cases hacting with
    | obcSwitchUnit => exact switchover_redundant s
    | obcReboot | obcBootInhibit => exact h.of_same ⟨rfl, rfl⟩
    | obcBootApp =>
        refine (wp_state).mp ?_
        unfold dispatch obcBootApp
        rw [wp_bind, wp_get, wp_ite]
        exact ⟨fun _ => h, fun _ => h.of_same ⟨rfl, rfl⟩⟩
  · exact h.of_same (units_of_core hcore)

theorem inject_redundant (h : Redundant s) (failure : ObdhFailure) :
    Redundant (step s (.inject failure)) := by
  rcases injectFailure_aside failure with hacting | haside
  · cases hacting with
    | obcCrash | stuckInBootloader => exact h.of_same ⟨rfl, rfl⟩
    | memoryCorruption count =>
        refine (wp_state).mp ?_
        unfold injectFailure
        rw [wp_bind, wp_store]
        exact ⟨fun _ _ => h.of_same ⟨rfl, rfl⟩, fun _ _ => h⟩
  · exact h.of_same (units_of_core (haside.final s))

theorem clear_redundant (h : Redundant s) (failure : ObdhFailure) :
    Redundant (step s (.clear failure)) := by
  rcases clearFailure_cases failure with rfl | haside
  · exact h.of_same ⟨rfl, rfl⟩
  · exact h.of_same (units_of_core (haside.final s))

theorem tick_redundant (h : Redundant s) (dt : ℚ) (seu : Bool)
    (hnot : ¬ DropsActive s (.tick dt seu)) : Redundant (step s (.tick dt seu)) := by
  obtain ⟨hactive, hstatus⟩ := tick_units dt seu s
  show Redundant (tick dt seu s)
  unfold Redundant
  rw [hactive, hstatus]
  by_cases hpowered : s.powered Side.b.device = true
  · rw [if_pos hpowered]
    exact h
  · have hoff : s.powered Side.b.device = false := by simpa using hpowered
    rw [if_neg hpowered]
    constructor
    · intro hb
      exact absurd ⟨⟨dt, seu, rfl⟩, hb, hoff⟩ hnot
    · nofun

/-- **An event keeps the units redundant**, unless a tick drops the active unit. -/
theorem step_redundant (event : ObdhEvent) (h : Redundant s) (hnot : ¬ DropsActive s event) :
    Redundant (step s event) := by
  cases event with
  | command cmd => exact command_redundant h cmd
  | tick dt seu => exact tick_redundant h dt seu hnot
  | inject failure => exact inject_redundant h failure
  | clear failure => exact clear_redundant h failure
  | device deviceId onOff =>
      exact h.of_same (units_of_core ((setDeviceState_aside deviceId onOff).final s))

/-- A tick that drops the active unit reports it off. -/
theorem dropped_not_redundant {event : ObdhEvent} (h : DropsActive s event) :
    ¬ Redundant (step s event) := by
  obtain ⟨⟨dt, seu, rfl⟩, hb, hoff⟩ := h
  obtain ⟨hactive, hstatus⟩ := tick_units dt seu s
  intro hredundant
  have hstill : (tick dt seu s).obcBStatus = .active := hredundant.mp (hactive.trans hb)
  rw [hstatus, hoff] at hstill
  cases hstill

/-- **The redundancy holds in a run** exactly when no switchover goes to an unpowered unit, and no
tick finds the active unit B unpowered. -/
theorem redundancyHolds_iff {s : ObdhState} (hstart : Redundant s) (events : List ObdhEvent) :
    RedundancyHolds s events ↔
      (∀ i, ¬ Runs.HappensAt step s events SwitchesUnpowered i) ∧
        ∀ i, ¬ Runs.HappensAt step s events DropsActive i := by
  constructor
  · intro h
    refine ⟨h.powered, ?_⟩
    rintro i ⟨event, hevent, hdrops⟩
    have hnext := h.active (i + 1)
    rw [Runs.after_take_succ hevent] at hnext
    exact dropped_not_redundant hdrops hnext
  · intro h
    refine ⟨?_, h.1⟩
    exact Runs.invariant_unless (fun s event h hnot => step_redundant event h hnot) hstart h.2

theorem new_redundant : Redundant {} := by
  unfold Redundant
  decide

/-- A switchover with all devices on. -/
theorem switched_holds : RedundancyHolds {} [.command .obcSwitchUnit, .tick 1 false] := by
  refine (redundancyHolds_iff new_redundant _).mpr ⟨?_, ?_⟩
  · rintro i ⟨event, hevent, rfl, hoff⟩
    have hpowered : ∀ i < 2, (Runs.after step {}
        (List.take i [.command .obcSwitchUnit, .tick 1 false])).powered
          (Runs.after step {}
            (List.take i [.command .obcSwitchUnit, .tick 1 false])).activeObc.other.device =
        true := by
      decide
    have hlt : i < 2 := (List.getElem?_eq_some_iff.mp hevent).1
    exact absurd (hoff.symm.trans (hpowered i hlt)) (by decide)
  · rintro i ⟨event, hevent, -, -, hoff⟩
    have hpowered : ∀ i < 2, (Runs.after step {}
        (List.take i [.command .obcSwitchUnit, .tick 1 false])).powered Side.b.device = true := by
      decide
    have hlt : i < 2 := (List.getElem?_eq_some_iff.mp hevent).1
    exact absurd (hoff.symm.trans (hpowered i hlt)) (by decide)

/-- Unit B is switched off, and made the active unit. -/
theorem switchedOff_not_redundant :
    ¬ RedundancyHolds {} [.device 0x0501 false, .command .obcSwitchUnit, .tick 1 false] := by
  intro h
  have hlast := h.active 3
  unfold Redundant at hlast
  revert hlast
  decide +kernel

end Obdh
