import MissionSim.Obdh

/-!
# What the commands of the computer leave alone

Few commands and failures touch the core: the software image and its countdown, and the redundant
units.  All others are *aside*.
-/

namespace Obdh

open Python Effects

/-- The image and its countdown, and the redundant units. -/
def ObdhState.core (s : ObdhState) :
    Image × Bool × ℚ × Bool × Nat × Side × ObcStatus :=
  (s.swImage, s.bootAppPending, s.bootAppTimer, s.bootInhibit, s.reboots, s.activeObc,
    s.obcBStatus)

/-- A program that leaves them alone. -/
abbrev Aside {α : Type} (x : ObdhProgram α) : Prop := Keeps (Unchanged ObdhState.core) x

theorem write_aside {f : ObdhState → ObdhState} (h : ∀ s, (f s).core = s.core) :
    Aside (write f) := keeps_bind (keeps_modify h) fun _ => keeps_pure _

theorem setMode_aside (mode : Option Value) : Aside (setMode mode) := by
  refine keeps_bind (keeps_fromExcept _) fun m => keeps_ite (fun _ => ?_) fun _ => keeps_pure _
  exact write_aside fun _ => rfl

theorem setTime_aside (cuc : Option Value) : Aside (setTime cuc) :=
  keeps_bind (keeps_fromExcept _) fun _ => write_aside fun _ => rfl

theorem obcSelectBus_aside (bus : Option Value) : Aside (obcSelectBus bus) := by
  refine keeps_bind (keeps_fromExcept _) fun n => keeps_bind keeps_get fun s => ?_
  refine keeps_ite (fun _ => ?_) fun _ => keeps_ite (fun _ => ?_) fun _ => keeps_pure _
  · exact keeps_ite (fun _ => keeps_pure _) fun _ => write_aside fun _ => rfl
  · exact keeps_ite (fun _ => keeps_pure _) fun _ => write_aside fun _ => rfl

theorem setWatchdogPeriod_aside (period : Option Value) : Aside (setWatchdogPeriod period) :=
  keeps_bind (keeps_fromExcept _) fun _ => write_aside fun _ => rfl

/-- The commands that act on the core. -/
inductive Acting : ObdhCommand → Prop where
  | obcReboot : Acting .obcReboot
  | obcSwitchUnit : Acting .obcSwitchUnit
  | obcBootApp : Acting .obcBootApp
  | obcBootInhibit (inhibit : Option Value) : Acting (.obcBootInhibit inhibit)

theorem dispatch_aside (cmd : ObdhCommand) : Acting cmd ∨ Aside (dispatch cmd) := by
  cases cmd with
  | obcReboot => exact .inl .obcReboot
  | obcSwitchUnit => exact .inl .obcSwitchUnit
  | obcBootApp => exact .inl .obcBootApp
  | obcBootInhibit inhibit => exact .inl (.obcBootInhibit inhibit)
  | setMode mode => exact .inr (setMode_aside mode)
  | setTime cuc => exact .inr (setTime_aside cuc)
  | gpsTimeSync fix gpsTimeCuc =>
      exact .inr (keeps_ite (fun _ => write_aside fun _ => rfl) fun _ => keeps_pure _)
  | memoryScrub | obcClearRebootCnt | watchdogEnable
  | watchdogDisable => exact .inr (write_aside fun _ => rfl)
  | obcSelectBus bus => exact .inr (obcSelectBus_aside bus)
  | setWatchdogPeriod period => exact .inr (setWatchdogPeriod_aside period)
  | diagnostic | errorLog | unknown => exact .inr (keeps_pure _)

/-- The boot loader lets the acting commands through; every other command is aside. -/
theorem handleCommand_cases (cmd : ObdhCommand) (s : ObdhState) :
    Acting cmd ∧ step s (.command cmd) = finalState (dispatch cmd) s ∨
      ¬ Acting cmd ∧ (step s (.command cmd)).core = s.core := by
  have hgate : step s (.command cmd) =
      if s.swImage = .bootloader ∧ cmd.bootloaderAllowed = false then s
      else finalState (dispatch cmd) s := by
    show finalState (get >>= _ : ObdhProgram Bool) s = _
    unfold finalState
    rw [get_bind]
    split_ifs <;> rfl
  rw [hgate]
  by_cases hacting : Acting cmd
  · refine .inl ⟨hacting, if_neg ?_⟩
    rintro ⟨-, hrefused⟩
    cases hacting <;> cases hrefused
  · refine .inr ⟨hacting, ?_⟩
    split_ifs
    · rfl
    · exact ((dispatch_aside cmd).resolve_left hacting).final s

/-- The failures that act on the core. -/
inductive ActingFailure : ObdhFailure → Prop where
  | obcCrash : ActingFailure .obcCrash
  | memoryCorruption (count : Option Value) : ActingFailure (.memoryCorruption count)
  | stuckInBootloader : ActingFailure .stuckInBootloader

theorem setBus_core (bus : Option Side) (status : BusStatus) (s : ObdhState) :
    (s.setBus bus status).core = s.core := by
  unfold ObdhState.setBus
  split <;> rfl

theorem injectFailure_aside (failure : ObdhFailure) :
    ActingFailure failure ∨ Aside (injectFailure failure) := by
  cases failure with
  | obcCrash => exact .inl .obcCrash
  | memoryCorruption count => exact .inl (.memoryCorruption count)
  | stuckInBootloader => exact .inl .stuckInBootloader
  | watchdogReset | bootImageCorrupt => exact .inr (keeps_modify fun _ => rfl)
  | memoryErrors count => exact .inr (keeps_store fun _ _ => rfl)
  | busFailure bus => exact .inr (keeps_modify (setBus_core bus .failed))
  | memorySegmentFail segment =>
      refine .inr (keeps_store fun n s => ?_)
      unfold ObdhState.failSegment
      split_ifs <;> rfl
  | other => exact .inr (keeps_pure _)

theorem clearFailure_cases (failure : ObdhFailure) :
    failure = .stuckInBootloader ∨ Aside (clearFailure failure) := by
  cases failure with
  | stuckInBootloader => exact .inl rfl
  | watchdogReset | bootImageCorrupt | memoryCorruption => exact .inr (keeps_modify fun _ => rfl)
  | memoryErrors count => exact .inr (keeps_store fun _ _ => rfl)
  | busFailure bus => exact .inr (keeps_modify (setBus_core bus .ok))
  | memorySegmentFail segment =>
      refine .inr (keeps_store fun n s => ?_)
      split_ifs <;> rfl
  | obcCrash | other => exact .inr (keeps_pure _)

theorem setDeviceState_aside (deviceId : Nat) (onOff : Bool) :
    Aside (setDeviceState deviceId onOff) := by
  refine keeps_bind keeps_get fun s => keeps_ite (fun _ => ?_) fun _ => keeps_pure _
  exact write_aside fun _ => rfl

end Obdh
