import MissionSim.ObdhCommands
import MissionSim.Runs
import Mathlib.Algebra.Order.Ring.Rat
import Mathlib.Tactic.Linarith

/-!
# The discipline of booting

The application is booted by a tick, ten seconds or more after the reboot or the command that
started the countdown, from an image that is sound.

Inhibiting the automatic boot does not stop a countdown that a reboot has already started: the
application boots although it is inhibited.
-/

namespace Obdh

open Python Effects ObdhState

/-! ### The discipline -/

/-- The event reboots the computer. -/
def Reboots (s : ObdhState) (event : ObdhEvent) : Prop := (step s event).reboots ≠ s.reboots

instance (s : ObdhState) (event : ObdhEvent) : Decidable (Reboots s event) :=
  inferInstanceAs (Decidable (_ ≠ _))

/-- An accepted `obc_boot_app`. -/
def StartsBoot (s : ObdhState) (event : ObdhEvent) : Prop :=
  event = .command .obcBootApp ∧ s.swImage = .bootloader

/-- A countdown is started. -/
def Starts (s : ObdhState) (event : ObdhEvent) : Prop := Reboots s event ∨ StartsBoot s event

/-- The image changes from the boot loader to the application. -/
def Boots (s : ObdhState) (event : ObdhEvent) : Prop :=
  s.swImage = .bootloader ∧ (step s event).swImage = .application

/-- The automatic boot is inhibited while a countdown is pending. -/
def InhibitsPending (s : ObdhState) (event : ObdhEvent) : Prop :=
  s.bootAppPending = true ∧
    ∃ inhibit, event = .command (.obcBootInhibit inhibit) ∧ inhibitArg inhibit = true

/-- The time an event takes. -/
def duration : ObdhEvent → ℚ
  | .tick dt _ => dt
  | .command _ | .inject _ | .clear _ | .device _ _ => 0

variable (s : ObdhState) (events : List ObdhEvent)

/-- The state before the event at a position. -/
def stateAt (i : Nat) : ObdhState := Runs.after step s (events.take i)

/-- At a position there is an event that, in the state before it, satisfies `P`. -/
abbrev HappensAt (P : ObdhState → ObdhEvent → Prop) (i : Nat) : Prop :=
  Runs.HappensAt step s events P i

/-- The time from a position to another. -/
def elapsed (j i : Nat) : ℚ := (((events.take i).drop j).map duration).sum

/-- The countdown before a position was started by the event at an earlier one. -/
structure StartedAt (j i : Nat) : Prop where
  before : j < i
  starts : HappensAt s events Starts j
  last : ∀ k, j < k → k < i → ¬ HappensAt s events Starts k

/-- The countdown before a position is automatic: a reboot started it. -/
def AutomaticAt (i : Nat) : Prop := ∃ j, StartedAt s events j i ∧ HappensAt s events Reboots j

/-- A boot as it should be. -/
structure BootedRightly (i : Nat) : Prop where
  ticked : ∃ dt seu, events[i]? = some (.tick dt seu)
  sound : (stateAt s events i).bootImageCorrupt = false
  waited : ∃ j, StartedAt s events j i ∧ 10 ≤ elapsed events (j + 1) (i + 1)
  allowed : AutomaticAt s events i → (stateAt s events i).bootInhibit = false

/-! ### What an event does to the countdown -/

/-- A reboot, the command to boot, or an event that only lets the countdown go on. -/
inductive BootStep (s : ObdhState) (event : ObdhEvent) (s' : ObdhState) : Prop where
  | reboot (hreboots : s'.reboots = s.reboots + 1) (himage : s'.swImage = .bootloader)
      (hpending : s'.bootAppPending = true → s'.bootAppTimer = 10 ∧ s'.bootInhibit = false)
  | bootApp (hevent : StartsBoot s event) (hreboots : s'.reboots = s.reboots)
      (himage : s'.swImage = .bootloader) (htimer : s'.bootAppTimer = 10)
  | run (hevent : ¬ StartsBoot s event) (hreboots : s'.reboots = s.reboots)
      (hpending : s'.bootAppPending = true → s.bootAppPending = true ∧
        s'.bootAppTimer = s.bootAppTimer - duration event ∧
        (s'.bootInhibit = true → s.bootInhibit = true ∨ InhibitsPending s event))
      (hboots : s.swImage = .bootloader → s'.swImage = .application →
        ∃ dt seu, event = .tick dt seu ∧ s.bootAppPending = true ∧ s.bootAppTimer - dt ≤ 0 ∧
          s.bootImageCorrupt = false)

/-- The image and its countdown. -/
def ObdhState.countdown (s : ObdhState) : Image × Bool × ℚ × Bool × Nat :=
  (s.swImage, s.bootAppPending, s.bootAppTimer, s.bootInhibit, s.reboots)

theorem countdown_of_core {s s' : ObdhState} (h : s'.core = s.core) :
    s'.countdown = s.countdown := by
  simp only [core, countdown, Prod.mk.injEq] at h ⊢
  exact ⟨h.1, h.2.1, h.2.2.1, h.2.2.2.1, h.2.2.2.2.1⟩

variable {event : ObdhEvent}

theorem BootStep.of_same {s s' : ObdhState} (h : s'.countdown = s.countdown)
    (hevent : ¬ StartsBoot s event) (htime : duration event = 0) : BootStep s event s' := by
  simp only [countdown, Prod.mk.injEq] at h
  obtain ⟨himage, hpending, htimer, hinhibit, hreboots⟩ := h
  refine .run hevent hreboots (fun hyes => ⟨?_, ?_, fun hin => .inl ?_⟩) fun hboot happ => ?_
  · rw [← hpending]
    exact hyes
  · rw [htimer, htime, sub_zero]
  · rw [← hinhibit]
    exact hin
  · rw [himage, hboot] at happ
    cases happ

/-- A step to a state with the countdown of another. -/
theorem BootStep.congr {s mid s' : ObdhState} (h : BootStep s event mid)
    (hsame : s'.countdown = mid.countdown) : BootStep s event s' := by
  simp only [countdown, Prod.mk.injEq] at hsame
  obtain ⟨himage, hpending, htimer, hinhibit, hreboots⟩ := hsame
  cases h with
  | reboot hr hi hp =>
      refine .reboot (hreboots.trans hr) (himage.trans hi) ?_
      rw [hpending, htimer, hinhibit]
      exact hp
  | bootApp he hr hi ht => exact .bootApp he (hreboots.trans hr) (himage.trans hi) (htimer.trans ht)
  | run he hr hp hb =>
      refine .run he (hreboots.trans hr) ?_ ?_
      · rw [hpending, htimer, hinhibit]
        exact hp
      · rw [himage]
        exact hb

theorem reboot_step (cause : RebootCause) {s mid : ObdhState} (event : ObdhEvent)
    (hreboots : mid.reboots = s.reboots) : BootStep s event (mid.reboot cause) := by
  refine .reboot (congrArg (· + 1) hreboots) rfl ?_
  intro hpending
  have hallowed : mid.bootInhibit = false := by simpa [reboot] using hpending
  simp [reboot, hallowed]

theorem switchover_step (event : ObdhEvent) (s : ObdhState) :
    BootStep s event s.switchover := by
  unfold switchover
  split
  · exact reboot_step .switchover event rfl
  · exact reboot_step .switchover event rfl

/-- The clocks and the pending boot. -/
theorem boot_step (dt : ℚ) (seu : Bool) (s : ObdhState) :
    BootStep s (.tick dt seu) ((s.advance dt).boot dt) := by
  have hevent : ¬ StartsBoot s (.tick dt seu) := fun h => ObdhEvent.noConfusion h.1
  unfold boot
  split_ifs with hpending hexpired hcorrupt
  · refine .run hevent rfl (fun hyes => ?_) fun _ happ => ?_
    · cases hyes
    · cases happ
  · refine .run hevent rfl (fun hyes => ?_) fun _ _ => ?_
    · cases hyes
    · exact ⟨dt, seu, rfl, hpending, hexpired, by simpa [advance] using hcorrupt⟩
  · refine .run hevent rfl (fun _ => ⟨hpending, rfl, .inl⟩) fun hboot happ => ?_
    cases hboot.symm.trans happ
  · refine .run hevent rfl (fun hyes => absurd hyes hpending) fun hboot happ => ?_
    cases hboot.symm.trans happ

/-- What follows the watchdog in a tick leaves the countdown alone. -/
theorem tickEnd_countdown (dt : ℚ) (seu : Bool) (s : ObdhState) :
    ((s.upset seu).scrub dt).applyDevicePowerGates.countdown = s.countdown := by
  have hupset : (s.upset seu).countdown = s.countdown := by
    unfold upset
    split_ifs <;> rfl
  have hscrub : ((s.upset seu).scrub dt).countdown = (s.upset seu).countdown := by
    unfold scrub
    split_ifs <;> rfl
  exact hscrub.trans hupset

theorem tick_step (dt : ℚ) (seu : Bool) (s : ObdhState) :
    BootStep s (.tick dt seu) (tick dt seu s) := by
  have hboot := boot_step dt seu s
  refine BootStep.congr ?_ (tickEnd_countdown dt seu _)
  unfold watchdog
  split_ifs
  · refine reboot_step .watchdog _ ?_
    unfold boot
    split_ifs <;> rfl
  · exact hboot.congr rfl

theorem command_step (cmd : ObdhCommand) (s : ObdhState) :
    BootStep s (.command cmd) (step s (.command cmd)) := by
  rcases handleCommand_cases cmd s with ⟨hacting, hstep⟩ | ⟨haside, hcore⟩
  · rw [hstep]
    cases hacting with
    | obcReboot => exact reboot_step .command _ rfl
    | obcSwitchUnit => exact switchover_step _ s
    | obcBootApp =>
        cases himage : s.swImage with
        | application =>
            have hsame : finalState (dispatch .obcBootApp) s = s := by
              show finalState (get >>= _ : ObdhProgram Bool) s = s
              unfold finalState
              rw [get_bind, if_pos himage]
              rfl
            rw [hsame]
            refine .of_same rfl ?_ rfl
            rintro ⟨-, hboot⟩
            cases himage.symm.trans hboot
        | bootloader =>
            have hstarted : finalState (dispatch .obcBootApp) s =
                { s with bootAppPending := true, bootAppTimer := 10 } := by
              show finalState (get >>= _ : ObdhProgram Bool) s = _
              unfold finalState
              rw [get_bind, if_neg (by simp [himage])]
              rfl
            rw [hstarted]
            exact .bootApp ⟨rfl, himage⟩ rfl himage rfl
    | obcBootInhibit inhibit =>
        have hevent : ¬ StartsBoot s (.command (.obcBootInhibit inhibit)) := by
          rintro ⟨heq, -⟩
          cases heq
        refine .run hevent rfl (fun hpending => ⟨hpending, (sub_zero _).symm, ?_⟩) ?_
        · exact fun hin => .inr ⟨hpending, inhibit, rfl, hin⟩
        · exact fun hboot happ => absurd (hboot.symm.trans happ) (by decide)
  · refine .of_same (countdown_of_core hcore) ?_ rfl
    rintro ⟨heq, -⟩
    obtain rfl := ObdhEvent.command.inj heq
    exact haside .obcBootApp

theorem inject_step (failure : ObdhFailure) (s : ObdhState) :
    BootStep s (.inject failure) (step s (.inject failure)) := by
  have hevent : ¬ StartsBoot s (.inject failure) := fun h => ObdhEvent.noConfusion h.1
  rcases injectFailure_aside failure with hacting | haside
  · cases hacting with
    | obcCrash => exact reboot_step .watchdog _ rfl
    | memoryCorruption count =>
        refine (wp_state).mp ?_
        unfold injectFailure
        rw [wp_bind, wp_store]
        refine ⟨fun n _ => reboot_step .memoryError _ rfl, fun _ _ => ?_⟩
        exact .of_same rfl hevent rfl
    | stuckInBootloader =>
        refine .run hevent rfl (fun hpending => ?_) fun _ happ => ?_
        · cases hpending
        · cases happ
  · exact .of_same (countdown_of_core (haside.final s)) hevent rfl

theorem clear_step (failure : ObdhFailure) (s : ObdhState) :
    BootStep s (.clear failure) (step s (.clear failure)) := by
  have hevent : ¬ StartsBoot s (.clear failure) := fun h => ObdhEvent.noConfusion h.1
  rcases clearFailure_cases failure with rfl | haside
  · refine .run hevent rfl (fun hpending => ⟨hpending, (sub_zero _).symm, fun hin => ?_⟩) ?_
    · cases hin
    · exact fun hboot happ => absurd (hboot.symm.trans happ) (by decide)
  · exact .of_same (countdown_of_core (haside.final s)) hevent rfl

/-- **Every event** reboots, starts a commanded boot, or lets the countdown go on. -/
theorem event_step (s : ObdhState) (event : ObdhEvent) : BootStep s event (step s event) := by
  cases event with
  | command cmd => exact command_step cmd s
  | tick dt seu => exact tick_step dt seu s
  | inject failure => exact inject_step failure s
  | clear failure => exact clear_step failure s
  | device deviceId onOff =>
      have hcore := (setDeviceState_aside deviceId onOff).final s
      exact .of_same (countdown_of_core hcore) (fun h => ObdhEvent.noConfusion h.1) rfl

/-! ### Runs -/

variable {s events}

theorem stateAt_succ {i : Nat} (h : events[i]? = some event) :
    stateAt s events (i + 1) = step (stateAt s events i) event := Runs.after_take_succ h

theorem elapsed_succ {j i : Nat} (hji : j ≤ i) (h : events[i]? = some event) :
    elapsed events j (i + 1) = elapsed events j i + duration event := by
  unfold elapsed
  have hlt : i < events.length := (List.getElem?_eq_some_iff.mp h).1
  have hlength : (events.take i).length = i := by
    rw [List.length_take]
    omega
  rw [List.take_add_one, h, List.drop_append_of_le_length (by omega)]
  simp

theorem elapsed_self (i : Nat) : elapsed events i i = 0 := by
  unfold elapsed
  rw [List.drop_eq_nil_of_le (List.length_take_le i events)]
  rfl

/-- A countdown that is not started anew goes on. -/
theorem StartedAt.succ {j i : Nat} (h : StartedAt s events j i)
    (hnot : ¬ HappensAt s events Starts i) : StartedAt s events j (i + 1) := by
  refine ⟨Nat.lt_succ_of_lt h.before, h.starts, fun k hjk hk => ?_⟩
  by_cases hki : k = i
  · rwa [hki]
  · exact h.last k hjk (by omega)

theorem StartedAt.self {i : Nat} (h : HappensAt s events Starts i) :
    StartedAt s events i (i + 1) :=
  ⟨Nat.lt_succ_self i, h, fun k hik hk => absurd hk (by omega)⟩

/-- One event started the countdown. -/
theorem StartedAt.unique {j j' i : Nat} (h : StartedAt s events j i)
    (h' : StartedAt s events j' i) : j = j' := by
  rcases Nat.lt_trichotomy j j' with hlt | heq | hgt
  · exact absurd h'.starts (h.last j' hlt h'.before)
  · exact heq
  · exact absurd h.starts (h'.last j hgt h.before)

/-- What the state tells of the events before it: a pending countdown shows the time since it was
started, and an automatic one is not inhibited. -/
structure Told (s : ObdhState) (events : List ObdhEvent) (i : Nat) : Prop where
  waited : (stateAt s events i).bootAppPending = true →
    ∃ j, StartedAt s events j i ∧
      (stateAt s events i).bootAppTimer = 10 - elapsed events (j + 1) i
  allowed : (stateAt s events i).bootAppPending = true → AutomaticAt s events i →
    (stateAt s events i).bootInhibit = false

theorem Told.start {i : Nat} (hstart : HappensAt s events Starts i)
    (hpending : (stateAt s events (i + 1)).bootAppPending = true →
      (stateAt s events (i + 1)).bootAppTimer = 10 ∧
        (HappensAt s events Reboots i → (stateAt s events (i + 1)).bootInhibit = false)) :
    Told s events (i + 1) := by
  refine ⟨fun hyes => ⟨i, .self hstart, ?_⟩, fun hyes hautomatic => ?_⟩
  · rw [(hpending hyes).1, elapsed_self, sub_zero]
  · obtain ⟨j, hj, hreboots⟩ := hautomatic
    obtain rfl := hj.unique (.self hstart)
    exact (hpending hyes).2 hreboots

theorem Told.succ {i : Nat} (hevent : events[i]? = some event) (h : Told s events i)
    (hnever : ¬ (HappensAt s events InhibitsPending i ∧ AutomaticAt s events i)) :
    Told s events (i + 1) := by
  have hstep := event_step (stateAt s events i) event
  have hnext := stateAt_succ (s := s) hevent
  rw [← hnext] at hstep
  have hreboot : HappensAt s events Reboots i →
      (stateAt s events (i + 1)).reboots ≠ (stateAt s events i).reboots := by
    intro hhappens
    rw [hnext]
    exact hhappens.holds hevent
  cases hstep with
  | reboot hreboots himage hpending =>
      have hreboots' : Reboots (stateAt s events i) event := by
        unfold Reboots
        rw [← hnext, hreboots]
        exact Nat.succ_ne_self _
      refine .start ⟨event, hevent, .inl hreboots'⟩ fun hyes => ?_
      exact ⟨(hpending hyes).1, fun _ => (hpending hyes).2⟩
  | bootApp hstart hreboots himage htimer =>
      refine .start ⟨event, hevent, .inr hstart⟩ fun hyes => ⟨htimer, fun hhappens => ?_⟩
      exact absurd hreboots (hreboot hhappens)
  | run hstart hreboots hpending hboots =>
      have hnot : ¬ HappensAt s events Starts i := by
        intro hhappens
        rcases hhappens.holds hevent with hreboots' | hstart'
        · exact hreboots' (by rw [← stateAt, ← hnext, hreboots])
        · exact hstart hstart'
      refine ⟨fun hyes => ?_, fun hyes hautomatic => ?_⟩
      · obtain ⟨hbefore, htimer, -⟩ := hpending hyes
        obtain ⟨j, hj, hwaited⟩ := h.waited hbefore
        refine ⟨j, hj.succ hnot, ?_⟩
        rw [htimer, hwaited, elapsed_succ hj.before hevent]
        ring
      · obtain ⟨hbefore, -, hinhibit⟩ := hpending hyes
        -- the countdown was automatic before the event, too
        obtain ⟨j, hj, hrebooted⟩ := hautomatic
        have hji : j ≠ i := by
          rintro rfl
          exact hreboot hrebooted hreboots
        have hbeforeAuto : AutomaticAt s events i := by
          refine ⟨j, ⟨?_, hj.starts, fun k hjk hk => hj.last k hjk (by omega)⟩, hrebooted⟩
          have hlt := hj.before
          omega
        by_contra hset
        have hyes' : (stateAt s events (i + 1)).bootInhibit = true := by simpa using hset
        rcases hinhibit hyes' with hold | hnew
        · cases (h.allowed hbefore hbeforeAuto).symm.trans hold
        · exact hnever ⟨⟨event, hevent, hnew⟩, hbeforeAuto⟩

theorem Told.all (hstart : s.bootAppPending = false)
    (hnever : ∀ i, ¬ (HappensAt s events InhibitsPending i ∧ AutomaticAt s events i)) {i : Nat}
    (hi : i ≤ events.length) : Told s events i := by
  induction i with
  | zero =>
      refine ⟨fun hyes => ?_, fun hyes _ => ?_⟩
      · cases hstart.symm.trans hyes
      · cases hstart.symm.trans hyes
  | succ i ih => exact (ih (by omega)).succ (List.getElem?_eq_getElem (by omega)) (hnever i)

/-- **Every boot is as it should be** in a run in which the automatic boot is not inhibited while
an automatic countdown is pending. -/
theorem boots_rightly (hstart : s.bootAppPending = false)
    (hnever : ∀ i, ¬ (HappensAt s events InhibitsPending i ∧ AutomaticAt s events i)) (i : Nat)
    (h : HappensAt s events Boots i) : BootedRightly s events i := by
  obtain ⟨event, hevent, hloader, happ⟩ := h
  have hlt : i < events.length := (List.getElem?_eq_some_iff.mp hevent).1
  have htold : Told s events i := .all hstart hnever hlt.le
  cases event_step (stateAt s events i) event with
  | reboot hreboots himage hpending => exact absurd (himage.symm.trans happ) (by decide)
  | bootApp hstarts hreboots himage htimer => exact absurd (himage.symm.trans happ) (by decide)
  | run hstarts hreboots hpending hboots =>
      obtain ⟨dt, seu, rfl, hbefore, hexpired, hsound⟩ := hboots hloader happ
      obtain ⟨j, hj, hwaited⟩ := htold.waited hbefore
      refine ⟨⟨dt, seu, hevent⟩, hsound, ⟨j, hj, ?_⟩, htold.allowed hbefore⟩
      rw [elapsed_succ hj.before hevent]
      show 10 ≤ elapsed events (j + 1) i + dt
      linarith

/-! ### Examples -/

/-- A reboot, eleven seconds, and the application. -/
def rebootAndWait : List ObdhEvent := [.command .obcReboot, .tick 11 false]

theorem rebootAndWait_rightly : BootedRightly {} rebootAndWait 1 := by
  refine boots_rightly rfl ?_ 1 ⟨.tick 11 false, rfl, rfl, by decide +kernel⟩
  rintro i ⟨⟨event, hevent, -, inhibit, rfl, -⟩, -⟩
  have hno : ∀ event ∈ rebootAndWait, event ≠ .command (.obcBootInhibit inhibit) := by
    simp [rebootAndWait]
  exact hno _ (List.mem_of_getElem? hevent) rfl

/-- The automatic boot is inhibited five seconds after a reboot. -/
def rebootAndInhibit : List ObdhEvent :=
  [.command .obcReboot, .tick 5 false, .command (.obcBootInhibit none), .tick 6 false]

/-- Six seconds later the application boots all the same. -/
theorem rebootAndInhibit_boots :
    HappensAt {} rebootAndInhibit Boots 3 ∧ ¬ BootedRightly {} rebootAndInhibit 3 := by
  have hreboot : HappensAt {} rebootAndInhibit Reboots 0 :=
    ⟨.command .obcReboot, rfl, by decide⟩
  have hquiet : ∀ k, 0 < k → k < 3 → ¬ HappensAt {} rebootAndInhibit Starts k := by
    intro k hlow hhigh h
    have hk : k = 1 ∨ k = 2 := by omega
    rcases hk with rfl | rfl
    · rcases h.holds rfl with hreboots | ⟨hevent, -⟩
      · exact absurd hreboots (by decide +kernel)
      · cases hevent
    · rcases h.holds rfl with hreboots | ⟨hevent, -⟩
      · exact absurd hreboots (by decide +kernel)
      · cases hevent
  refine ⟨⟨.tick 6 false, rfl, by decide +kernel, by decide +kernel⟩, fun h => ?_⟩
  have hallowed := h.allowed ⟨0, ⟨by decide, hreboot.imp .inl, hquiet⟩, hreboot⟩
  revert hallowed
  decide +kernel

end Obdh
