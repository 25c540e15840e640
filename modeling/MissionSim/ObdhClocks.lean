import MissionSim.BootDiscipline
import Mathlib.Algebra.BigOperators.Group.List.Basic
import Mathlib.Data.Rat.Floor
import Mathlib.Tactic.FieldSimp

/-!
# The clocks of the computer

Both clocks count whole seconds, and every tick adds its own whole seconds to them.  What is left of
a tick is dropped, so the clocks fall behind by the fractional parts of all ticks together.

The engine cuts a long tick into equal steps, which need not be whole seconds: at a speed of 1.5 all
steps are shorter than a second, and the clocks stand still.
-/

namespace Obdh

open Python Effects

/-! ### The steps of the engine -/

/-- `tick.dt_max_s` and `tick.max_substeps`. -/
structure TickConfig where
  dtMaxS : ℚ := 1
  maxSubsteps : Nat := 600
  positive : 0 < maxSubsteps := by decide

/-- `n_sub` of `_tick_once(dt_sim)`. -/
def TickConfig.nSub (cfg : TickConfig) (dtSim : ℚ) : Nat :=
  if 0 < cfg.dtMaxS ∧ cfg.dtMaxS < dtSim then min ⌈dtSim / cfg.dtMaxS⌉.toNat cfg.maxSubsteps else 1

/-- The ticks of the computer in one tick of the engine, each with or without an upset. -/
def TickConfig.tickOnce (cfg : TickConfig) (dtSim : ℚ) (seu : Nat → Bool) : List ObdhEvent :=
  (List.range (cfg.nSub dtSim)).map fun i => .tick (dtSim / cfg.nSub dtSim) (seu i)

theorem TickConfig.nSub_pos (cfg : TickConfig) (dtSim : ℚ) : 0 < cfg.nSub dtSim := by
  unfold nSub
  split_ifs with hlong
  · have hquotient : 0 < dtSim / cfg.dtMaxS := div_pos (hlong.1.trans hlong.2) hlong.1
    have hceil := Int.ceil_pos.mpr hquotient
    have hpositive := cfg.positive
    omega
  · exact Nat.one_pos

/-- The steps take as long as the tick. -/
theorem TickConfig.tickOnce_duration (cfg : TickConfig) (dtSim : ℚ) (seu : Nat → Bool) :
    ((cfg.tickOnce dtSim seu).map duration).sum = dtSim := by
  have hpos : (cfg.nSub dtSim : ℚ) ≠ 0 := Nat.cast_ne_zero.mpr (cfg.nSub_pos dtSim).ne'
  have hsteps : (cfg.tickOnce dtSim seu).map duration =
      List.replicate (cfg.nSub dtSim) (dtSim / cfg.nSub dtSim) := by
    rw [tickOnce, List.map_map]
    apply List.eq_replicate_iff.mpr
    simp [duration]
  rw [hsteps, List.sum_replicate, nsmul_eq_mul]
  exact mul_div_cancel₀ dtSim hpos

/-! ### The property -/

/-- The events that set the time. -/
def ObdhEvent.setsTime : ObdhEvent → Bool
  | .command (.setTime _) | .command (.gpsTimeSync _ _) => true
  | .command _ | .tick _ _ | .inject _ | .clear _ | .device _ _ => false

variable (s : ObdhState) (events : List ObdhEvent)

/-- Time goes on, and neither a command nor a reboot interferes with the clocks. -/
structure Undisturbed : Prop where
  forward : ∀ dt seu, .tick dt seu ∈ events → 0 < dt
  notSet : ∀ event ∈ events, event.setsTime = false
  running : (Runs.after step s events).reboots = s.reboots

/-- Both clocks have advanced by the time that passed, within one second. -/
def KeepTime : Prop :=
  |((Runs.after step s events).obcTimeCuc - s.obcTimeCuc : ℚ) - (events.map duration).sum| ≤ 1 ∧
    |((Runs.after step s events).uptimeS - s.uptimeS : ℚ) - (events.map duration).sum| ≤ 1

/-! ### What an event does to the clocks -/

/-- The clocks go on by whole seconds, unless a reboot sets the one back. -/
structure Advanced (n : Int) (s s' : ObdhState) : Prop where
  reboots_le : s.reboots ≤ s'.reboots
  obcTimeCuc : s'.obcTimeCuc = s.obcTimeCuc + n
  uptimeS : s'.reboots = s.reboots → s'.uptimeS = s.uptimeS + n

theorem Advanced.trans {n m : Int} {s mid s' : ObdhState} (h : Advanced n s mid)
    (h' : Advanced m mid s') : Advanced (n + m) s s' := by
  have hle := h.reboots_le
  have hle' := h'.reboots_le
  constructor
  · omega
  · rw [h'.obcTimeCuc, h.obcTimeCuc, add_assoc]
  · intro hsame
    rw [h'.uptimeS (by omega), h.uptimeS (by omega), add_assoc]

/-- The clocks are left alone, or rebooted. -/
abbrev Left (s s' : ObdhState) : Prop := Advanced 0 s s'

theorem left_of_same {s s' : ObdhState} (hreboots : s'.reboots = s.reboots)
    (htime : s'.obcTimeCuc = s.obcTimeCuc) (huptime : s'.uptimeS = s.uptimeS) : Left s s' := by
  constructor
  · exact hreboots.ge
  · rw [htime, add_zero]
  · intro _
    rw [huptime, add_zero]

instance : Std.Refl Left := ⟨fun _ => left_of_same rfl rfl rfl⟩

instance : IsTrans ObdhState Left := ⟨fun _ _ _ h h' => h.trans h'⟩

theorem left_reboot (cause : RebootCause) {s mid : ObdhState} (hreboots : mid.reboots = s.reboots)
    (htime : mid.obcTimeCuc = s.obcTimeCuc) : Left s (mid.reboot cause) := by
  have hmore : (mid.reboot cause).reboots = s.reboots + 1 := congrArg (· + 1) hreboots
  constructor
  · omega
  · exact htime.trans (add_zero _).symm
  · omega

theorem left_switchover (s : ObdhState) : Left s s.switchover := by
  unfold ObdhState.switchover
  split
  · exact left_reboot .switchover rfl rfl
  · exact left_reboot .switchover rfl rfl

theorem keeps_write {f : ObdhState → ObdhState} (h : ∀ s, Left s (f s)) : Keeps Left (write f) :=
  keeps_bind (keeps_modify h) fun _ => keeps_pure _

/-- A command that sets no time leaves the clocks alone, or reboots. -/
theorem dispatch_left {cmd : ObdhCommand} (h : (ObdhEvent.command cmd).setsTime = false) :
    Keeps Left (dispatch cmd) := by
  cases cmd with
  | setTime | gpsTimeSync => exact Bool.noConfusion h
  | obcReboot => exact keeps_write fun s => left_reboot .command rfl rfl
  | obcSwitchUnit => exact keeps_write left_switchover
  | setMode mode =>
      apply keeps_bind (keeps_fromExcept _)
      intro m
      apply keeps_ite
      · intro _
        exact keeps_write fun _ => left_of_same rfl rfl rfl
      · intro _
        exact keeps_pure _
  | obcSelectBus bus =>
      apply keeps_bind (keeps_fromExcept _)
      intro n
      apply keeps_bind keeps_get
      intro s
      refine keeps_ite (fun _ => ?_) fun _ => keeps_ite (fun _ => ?_) fun _ => keeps_pure _
      · exact keeps_ite (fun _ => keeps_pure _) fun _ => keeps_write fun _ => left_of_same rfl rfl rfl
      · exact keeps_ite (fun _ => keeps_pure _) fun _ => keeps_write fun _ => left_of_same rfl rfl rfl
  | obcBootApp =>
      apply keeps_bind keeps_get
      intro s
      exact keeps_ite (fun _ => keeps_pure _) fun _ => keeps_write fun _ => left_of_same rfl rfl rfl
  | setWatchdogPeriod period =>
      apply keeps_bind (keeps_fromExcept _)
      intro n
      exact keeps_write fun _ => left_of_same rfl rfl rfl
  | memoryScrub | obcBootInhibit | obcClearRebootCnt | watchdogEnable
  | watchdogDisable => exact keeps_write fun _ => left_of_same rfl rfl rfl
  | diagnostic | errorLog | unknown => exact keeps_pure _

theorem handleCommand_left {cmd : ObdhCommand} (h : (ObdhEvent.command cmd).setsTime = false) :
    Keeps Left (handleCommand cmd) := by
  apply keeps_bind keeps_get
  intro s
  exact keeps_ite (fun _ => keeps_pure _) fun _ => dispatch_left h

theorem setBus_left (bus : Option Side) (status : BusStatus) (s : ObdhState) :
    Left s (s.setBus bus status) := by
  unfold ObdhState.setBus
  split
  · exact left_of_same rfl rfl rfl
  · exact left_of_same rfl rfl rfl
  · exact left_of_same rfl rfl rfl

theorem injectFailure_left (failure : ObdhFailure) : Keeps Left (injectFailure failure) := by
  cases failure with
  | obcCrash => exact keeps_modify fun s => left_reboot .watchdog rfl rfl
  | memoryCorruption count =>
      apply keeps_bind
      · exact keeps_store fun _ _ => left_of_same rfl rfl rfl
      · intro _
        exact keeps_modify fun s => left_reboot .memoryError rfl rfl
  | watchdogReset | bootImageCorrupt
  | stuckInBootloader => exact keeps_modify fun _ => left_of_same rfl rfl rfl
  | memoryErrors count => exact keeps_store fun _ _ => left_of_same rfl rfl rfl
  | busFailure bus => exact keeps_modify (setBus_left bus .failed)
  | memorySegmentFail segment =>
      apply keeps_store
      intro n s
      unfold ObdhState.failSegment
      split_ifs
      · exact left_of_same rfl rfl rfl
      · exact left_of_same rfl rfl rfl
  | other => exact keeps_pure _

theorem clearFailure_left (failure : ObdhFailure) : Keeps Left (clearFailure failure) := by
  cases failure with
  | memorySegmentFail segment =>
      apply keeps_store
      intro n s
      split_ifs
      · exact left_of_same rfl rfl rfl
      · exact left_of_same rfl rfl rfl
  | watchdogReset | bootImageCorrupt | memoryCorruption
  | stuckInBootloader => exact keeps_modify fun _ => left_of_same rfl rfl rfl
  | memoryErrors count => exact keeps_store fun _ _ => left_of_same rfl rfl rfl
  | busFailure bus => exact keeps_modify (setBus_left bus .ok)
  | obcCrash | other => exact keeps_pure _

theorem setDeviceState_left (deviceId : Nat) (onOff : Bool) :
    Keeps Left (setDeviceState deviceId onOff) := by
  apply keeps_bind keeps_get
  intro s
  exact keeps_ite (fun _ => keeps_write fun _ => left_of_same rfl rfl rfl) fun _ => keeps_pure _

/-- What follows the clocks in a tick leaves them alone, or reboots. -/
theorem tick_advanced (dt : ℚ) (seu : Bool) (s : ObdhState) :
    Advanced (wholeSeconds dt) s (tick dt seu s) := by
  have hadvance : Advanced (wholeSeconds dt) s (s.advance dt) := ⟨le_refl _, rfl, fun _ => rfl⟩
  have hboot : ∀ s : ObdhState, Left s (s.boot dt) := by
    intro s
    unfold ObdhState.boot
    split_ifs <;> exact left_of_same rfl rfl rfl
  have hwatchdog : ∀ s : ObdhState, Left s s.watchdog := by
    intro s
    unfold ObdhState.watchdog
    split_ifs
    · exact left_reboot .watchdog rfl rfl
    · exact left_of_same rfl rfl rfl
  have hupset : ∀ s : ObdhState, Left s (s.upset seu) := by
    intro s
    unfold ObdhState.upset
    split_ifs <;> exact left_of_same rfl rfl rfl
  have hscrub : ∀ s : ObdhState, Left s (s.scrub dt) := by
    intro s
    unfold ObdhState.scrub
    split_ifs <;> exact left_of_same rfl rfl rfl
  have hgates : ∀ s : ObdhState, Left s s.applyDevicePowerGates :=
    fun _ => left_of_same rfl rfl rfl
  have htick := ((((hadvance.trans (hboot _)).trans (hwatchdog _)).trans (hupset _)).trans
    (hscrub _)).trans (hgates _)
  unfold tick
  simpa only [add_zero] using htick

/-! ### Runs -/

/-- The whole seconds that the clocks count of an event. -/
def counted (event : ObdhEvent) : Int := wholeSeconds (duration event)

theorem step_advanced (s : ObdhState) {event : ObdhEvent} (h : event.setsTime = false) :
    Advanced (counted event) s (step s event) := by
  cases event with
  | command cmd => exact (handleCommand_left h).final s
  | tick dt seu => exact tick_advanced dt seu s
  | inject failure => exact (injectFailure_left failure).final s
  | clear failure => exact (clearFailure_left failure).final s
  | device deviceId onOff => exact (setDeviceState_left deviceId onOff).final s

variable {s events}

theorem run_advanced (h : ∀ event ∈ events, event.setsTime = false) :
    Advanced (events.map counted).sum s (Runs.after step s events) := by
  induction events generalizing s with
  | nil => exact left_of_same rfl rfl rfl
  | cons event events ih =>
      have hfirst := step_advanced s (h event List.mem_cons_self)
      have hrest := ih (s := step s event) fun e he => h e (List.mem_cons_of_mem _ he)
      exact hfirst.trans hrest

/-- What an event takes is counted but for the fraction of a second. -/
theorem counted_eq {event : ObdhEvent} (h : 0 ≤ duration event) :
    (counted event : ℚ) = duration event - Int.fract (duration event) := by
  unfold counted wholeSeconds
  rw [if_pos h, Int.fract]
  ring

theorem counted_sum (h : ∀ event ∈ events, 0 ≤ duration event) :
    (((events.map counted).sum : Int) : ℚ) =
      (events.map duration).sum - (events.map fun event => Int.fract (duration event)).sum := by
  induction events with
  | nil => simp
  | cons event events ih =>
      have hrest := ih fun e he => h e (List.mem_cons_of_mem _ he)
      simp only [List.map_cons, List.sum_cons, Int.cast_add, hrest,
        counted_eq (h event List.mem_cons_self)]
      ring

/-- **The clocks keep time** exactly as long as the fractions of a second in the ticks add up to no
more than one. -/
theorem keepTime_iff (h : Undisturbed s events) :
    KeepTime s events ↔ (events.map fun event => Int.fract (duration event)).sum ≤ 1 := by
  have hrun := run_advanced (s := s) h.notSet
  have hduration : ∀ event ∈ events, 0 ≤ duration event := by
    intro event hevent
    cases event with
    | tick dt seu => exact (h.forward dt seu hevent).le
    | command | inject | clear | device => exact le_refl _
  have hcounted := counted_sum hduration
  have hlost : 0 ≤ (events.map fun event => Int.fract (duration event)).sum := by
    apply List.sum_nonneg
    intro lost hmem
    obtain ⟨event, -, rfl⟩ := List.mem_map.mp hmem
    exact Int.fract_nonneg _
  have herror : ∀ clock clock' : Int, clock' = clock + (events.map counted).sum →
      |((clock' : ℚ) - clock) - (events.map duration).sum| =
        (events.map fun event => Int.fract (duration event)).sum := by
    intro clock clock' hclock
    have hless : (clock' : ℚ) - clock - (events.map duration).sum =
        -(events.map fun event => Int.fract (duration event)).sum := by
      rw [hclock, Int.cast_add, hcounted]
      ring
    rw [hless, abs_neg, abs_of_nonneg hlost]
  unfold KeepTime
  rw [herror _ _ hrun.obcTimeCuc, herror _ _ (hrun.uptimeS h.running), and_self]

/-! ### Examples -/

/-- A tick of ten seconds, a command, and one of a second and a half. -/
def shortPass : List ObdhEvent := [.tick 10 false, .command .watchdogDisable, .tick (3 / 2) false]

theorem shortPass_keepTime : KeepTime {} shortPass := by
  have hundisturbed : Undisturbed {} shortPass := by
    constructor
    · intro dt seu hmem
      simp only [shortPass, List.mem_cons, ObdhEvent.tick.injEq, reduceCtorEq, List.not_mem_nil,
        or_false, false_or] at hmem
      grind
    · decide
    · decide +kernel
  apply (keepTime_iff hundisturbed).mpr
  decide +kernel

/-- One tick of the engine at a speed of 1.5: two steps of three quarters of a second. -/
def fastTick : List ObdhEvent := ({} : TickConfig).tickOnce (3 / 2) fun _ => false

theorem fastTick_eq : fastTick = [.tick (3 / 4) false, .tick (3 / 4) false] := by
  have hsteps : ({} : TickConfig).nSub (3 / 2) = 2 := by decide +kernel
  unfold fastTick TickConfig.tickOnce
  rw [hsteps]
  norm_num [List.range_succ]

/-- The clocks stand still while a second and a half passes. -/
theorem fastTick_loses_time :
    ¬ ∀ (s : ObdhState) (events : List ObdhEvent), Undisturbed s events → KeepTime s events := by
  intro hall
  have hkept := hall {} fastTick
  rw [fastTick_eq] at hkept
  have hstill : (Runs.after step {} [.tick (3 / 4) false, .tick (3 / 4) false]).obcTimeCuc = 0 := by
    decide +kernel
  have herror := (hkept ?_).1
  · rw [hstill] at herror
    norm_num [duration, abs_le] at herror
  · constructor
    · intro dt seu hmem
      simp only [List.mem_cons, ObdhEvent.tick.injEq, List.not_mem_nil, or_false, or_self] at hmem
      rw [hmem.1]
      norm_num
    · decide
    · decide +kernel

end Obdh
