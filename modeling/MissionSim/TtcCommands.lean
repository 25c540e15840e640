import MissionSim.Ttc

/-!
# What the commands of the radio leave alone

Most commands, all failures and the device switches touch neither the commanded tier nor the
amplifier and its thermal switch.  A command that does so and reports no tier is *aside*.
-/

namespace Ttc

open Binary32 Python Effects

variable {c : Config}

/-- The commanded tier, the amplifier and its thermal switch. -/
def TtcState.switches (s : TtcState) : Nat × Bool × Bool :=
  (s.dataRateMode, s.paOn, s.paOverheatShutdown)

/-- A command that leaves them alone, and reports no tier. -/
abbrev Aside (x : TtcProgram Reply) : Prop :=
  Ensures (Unchanged TtcState.switches) (fun r => r.dataRateMode = none) x

theorem write_aside {f : TtcState → TtcState} (h : ∀ s, (f s).switches = s.switches) :
    Aside (write f) := (keeps_modify h).bind fun _ => ensures_pure rfl

theorem switchTo_aside (mode : Nat) (failed : TtcState → Bool) : Aside (switchTo mode failed) := by
  refine keeps_get.bind fun s => ensures_ite (fun _ => ensures_pure rfl) fun _ => ?_
  exact write_aside fun _ => rfl

theorem setTxPower_aside (level powerW : Option Value) : Aside (setTxPower c level powerW) := by
  cases level with
  | some v =>
      refine (keeps_fromExcept _).bind fun lvl => ?_
      cases levelPower c lvl with
      | none => exact ensures_pure rfl
      | some power => exact write_aside fun _ => rfl
  | none =>
      refine keeps_get.bind fun s => (keeps_fromExcept _).bind fun power => ?_
      exact ensures_ite (fun _ => write_aside fun _ => rfl) fun _ => ensures_pure rfl

theorem deployAntennas_aside : Aside deployAntennas := by
  refine keeps_get.bind fun s => ensures_ite (fun _ => ensures_pure rfl) fun _ => ?_
  exact ensures_ite (fun _ => ensures_pure rfl) fun _ => write_aside fun _ => rfl

theorem setInBand_aside (arg : Option Value) (default : TtcState → FloatValue)
    (low high : FloatValue) {put : FloatValue → TtcState → TtcState}
    (h : ∀ x s, (put x s).switches = s.switches) :
    Aside (setInBand arg default low high put) := by
  refine keeps_get.bind fun s => (keeps_fromExcept _).bind fun x => ?_
  exact ensures_ite (fun _ => write_aside (h x)) fun _ => ensures_pure rfl

theorem setModulation_aside (mode : Option Value) : Aside (setModulation mode) := by
  refine (keeps_fromExcept _).bind fun n => ensures_ite (fun _ => ensures_pure rfl) fun _ => ?_
  exact write_aside fun _ => rfl

theorem rangingStart_aside : Aside rangingStart := by
  refine keeps_get.bind fun s => ?_
  exact ensures_ite (fun _ => write_aside fun _ => rfl) fun _ => ensures_pure rfl

/-- The commands that set the rate or switch the amplifier. -/
inductive Acting : TtcCommand → Prop where
  | setTmRate (rate : Option RateArg) : Acting (.setTmRate rate)
  | setDataRateMode (mode : Option RateArg) : Acting (.setDataRateMode mode)
  | paOn : Acting .paOn
  | paOff : Acting .paOff
  | cmdChannelStart : Acting .cmdChannelStart

/-- All others are aside. -/
theorem handleCommand_aside (cmd : TtcCommand) : Acting cmd ∨ Aside (handleCommand c cmd) := by
  cases cmd with
  | setTmRate rate => exact .inl (.setTmRate rate)
  | setDataRateMode mode => exact .inl (.setDataRateMode mode)
  | paOn => exact .inl .paOn
  | paOff => exact .inl .paOff
  | cmdChannelStart => exact .inl .cmdChannelStart
  | switchRedundant => exact .inr (switchTo_aside 1 _)
  | switchPrimary => exact .inr (switchTo_aside 0 _)
  | setDownlinkMode | setBeaconMode | rangingStop
  | setCoherentMode => exact .inr (write_aside fun _ => rfl)
  | setTxPower level powerW => exact .inr (setTxPower_aside level powerW)
  | deployAntennas => exact .inr deployAntennas_aside
  | setUlFreq | setDlFreq | setRxGain => exact .inr (setInBand_aside _ _ _ _ fun _ _ => rfl)
  | setModulation mode => exact .inr (setModulation_aside mode)
  | rangingStart => exact .inr rangingStart_aside
  | unknown => exact .inr (ensures_pure rfl)

/-! ### Failures and devices -/

theorem injectFailure_aside (magnitude : FloatValue) (failure : TtcFailure) :
    Keeps (Unchanged TtcState.switches) (injectFailure magnitude failure) := by
  cases failure with
  | paOverheat heatW => exact keeps_store fun _ _ => rfl
  | other => exact keeps_pure _
  | primaryFailure | redundantFailure | uplinkLoss | antennaDeployFailed =>
      exact keeps_modify fun _ => rfl

theorem clearFailure_aside (failure : TtcFailure) :
    Keeps (Unchanged TtcState.switches) (clearFailure failure) := by
  cases failure with
  | other => exact keeps_pure _
  | primaryFailure | redundantFailure | paOverheat heatW | uplinkLoss | antennaDeployFailed =>
      exact keeps_modify fun _ => rfl

theorem setDeviceState_aside (deviceId : Nat) (onOff : Bool) :
    Keeps (Unchanged TtcState.switches) (setDeviceState deviceId onOff) := by
  refine keeps_bind keeps_get fun s => keeps_ite (fun _ => ?_) fun _ => keeps_pure _
  exact keeps_bind (keeps_modify fun _ => rfl) fun _ => keeps_pure _

end Ttc
