import MissionSim.AocsCommands
import MissionSim.Refusals

/-!
# What the commands to the attitude subsystem write

Every command but one reads and checks its arguments, and writes last: it leaves no trace where it
is refused.  The one is the setting of momentum management, which writes its flag first.

Only the powering of a star tracker writes a tracker, and no command writes the lock of the
navigation receiver or switches a device.
-/

namespace Aocs

open Binary32 Python Effects

variable {V : Type} (s : AocsState V)

/-- What commands leave as it is, but for the powering of a tracker. -/
structure Apparatus where
  tracker : StUnit → Tracker
  deviceOn : Device → Bool
  gpsFix : Nat
  prevGpsFix : Nat

/-- The apparatus of a state. -/
def AocsState.apparatus (s : AocsState V) : Apparatus :=
  ⟨s.tracker, s.deviceOn, s.gpsFix, s.prevGpsFix⟩

/-- The apparatus stays. -/
abbrev SameApparatus : AocsState V → AocsState V → Prop := Unchanged AocsState.apparatus

theorem apparatus_setMode (m : AocsMode) : (s.setMode m).apparatus = s.apparatus := by
  unfold AocsState.setMode
  split <;> rfl

theorem apparatus_setActiveSpeeds (k : AocsConfig) (speed : FloatValue) :
    (s.setActiveSpeeds k speed).apparatus = s.apparatus := by
  unfold AocsState.setActiveSpeeds
  induction List.finRange 4 generalizing s with
  | nil => rfl
  | cons i rest ih =>
      refine (ih _).trans ?_
      dsimp only
      split <;> rfl

theorem apparatus_setUnit (n : Int) (f : Tracker → Tracker) :
    (s.setUnit n f).apparatus = { s.apparatus with tracker := (s.setUnit n f).tracker } := by
  unfold AocsState.setUnit
  cases StUnit.ofInt n <;> rfl

theorem apparatus_seizeWheels (wheels : List (Fin 4)) :
    (wheels.foldl AocsState.seizeWheel s).apparatus = s.apparatus := by
  induction wheels generalizing s with
  | nil => rfl
  | cons i rest ih => exact ih (s.seizeWheel i)

/-- A program that writes last, and leaves the apparatus. -/
abbrev Careful (x : AocsProgram V Reply) : Prop := Spares SameApparatus Reply.Refuses x

theorem careful_refused : Careful (pure .refused : AocsProgram V Reply) := spares_pure Reply.refused

theorem careful_write {f : AocsState V → AocsState V} (h : ∀ s, (f s).apparatus = s.apparatus) :
    Careful (write f) := spares_write h fun h => h rfl

theorem beginAcquisition_careful : Careful (beginAcquisition : AocsProgram V Reply) :=
  spares_read fun _ => spares_ite (careful_write fun s => apparatus_setMode s .detumble)
    careful_refused

theorem selectMagValid_careful (on : Bool) : Careful (selectMagValid on : AocsProgram V Reply) :=
  spares_read fun _ => spares_ite careful_refused (careful_write fun _ => rfl)

section Commands

variable [Object V] (k : AocsConfig) (cmd : Arguments V)

theorem setModeCommand_careful : Careful (setModeCommand cmd) := by
  refine spares_parse fun mode => ?_
  cases AocsMode.ofInt mode with
  | none => exact careful_refused
  | some m =>
      exact spares_read fun s => spares_ite careful_refused
        (careful_write fun s => apparatus_setMode s m)

theorem slewTo_careful : Careful (slewTo cmd) :=
  spares_parse fun _ => careful_write fun _ => apparatus_setMode _ .slew

theorem slewToQuaternion_careful : Careful (slewToQuaternion cmd) :=
  spares_parse fun _ => spares_parse fun _ => spares_ite careful_refused <|
    spares_ite careful_refused <| spares_parse fun _ =>
      careful_write fun _ => apparatus_setMode _ .slew

theorem setPointingFrame_careful : Careful (setPointingFrame cmd) :=
  spares_parse fun _ => spares_ite (careful_write fun _ => rfl) careful_refused

theorem setTargetQuat_careful : Careful (setTargetQuat k cmd) :=
  spares_parse fun _ => spares_ite careful_refused <| spares_parse fun _ => spares_parse fun _ =>
    spares_ite careful_refused <| spares_parse fun _ => careful_write fun _ => rfl

theorem setTargetGeo_careful : Careful (setTargetGeo cmd) :=
  spares_parse fun _ => spares_parse fun _ => spares_parse fun _ =>
    spares_ite (careful_write fun _ => rfl) careful_refused

theorem setControlBw_careful : Careful (setControlBw cmd) :=
  spares_parse fun _ => spares_parse fun _ => spares_ite careful_refused <|
    spares_ite careful_refused <| careful_write fun _ => rfl

theorem estReset_careful : Careful (estReset k cmd) :=
  spares_parse fun _ => careful_write fun _ => rfl

theorem setDeadband_careful : Careful (setDeadband cmd) :=
  spares_parse fun _ => spares_ite careful_refused <| careful_write fun _ => rfl

theorem setWheelCommand_careful (on : Bool) : Careful (setWheelCommand cmd on) := by
  refine spares_parse fun idx => ?_
  cases wheelOf idx with
  | none => exact careful_refused
  | some i => exact careful_write fun _ => rfl

theorem rwSetSpeedBias_careful : Careful (rwSetSpeedBias k cmd) := by
  refine spares_parse fun wheel => spares_parse fun bias => ?_
  cases wheelOf wheel with
  | none => exact careful_refused
  | some i => exact spares_read fun _ => spares_ite (careful_write fun _ => rfl) careful_refused

theorem rwRampDown_careful : Careful (rwRampDown k cmd) := by
  refine spares_parse fun wheel => spares_parse fun target =>
    spares_ite (careful_write fun s => apparatus_setActiveSpeeds s k target) ?_
  cases wheelOf wheel with
  | none => exact careful_refused
  | some i => exact careful_write fun _ => rfl

theorem stSelect_careful : Careful (stSelect cmd) := by
  refine spares_parse fun unit => ?_
  cases StUnit.ofInt unit with
  | none => exact careful_refused
  | some u => exact spares_read fun _ => spares_ite careful_refused (careful_write fun _ => rfl)

theorem selectMagUnit_careful (source : Option V) : Careful (selectMagUnit source) := by
  unfold selectMagUnit
  cases MagUnit.ofName (source.elim "A" Object.upper) with
  | none => exact careful_refused
  | some m => exact spares_read fun _ => spares_ite careful_refused (careful_write fun _ => rfl)

theorem magSelectCommand_careful : Careful (magSelectCommand cmd) := by
  unfold magSelectCommand
  dsimp only
  cases ((cmd.get? "source").or (cmd.get? "on")).bind Object.asBool with
  | some on => exact selectMagValid_careful on
  | none => exact selectMagUnit_careful _

theorem gpsSetStartMode_careful : Careful (gpsSetStartMode cmd) := by
  refine spares_parse fun n => ?_
  cases StartMode.ofInt n with
  | none => exact careful_refused
  | some m => exact careful_write fun _ => rfl

theorem tleUpload_careful : Careful (tleUpload cmd) := by
  unfold tleUpload
  cases (cmd.get? "line1").filter Object.toBool with
  | none => exact careful_refused
  | some line1 =>
      cases (cmd.get? "line2").filter Object.toBool with
      | none => exact careful_refused
      | some line2 =>
          exact spares_parse fun _ => spares_ite careful_refused <| spares_parse fun _ =>
            spares_ite careful_refused <| careful_write fun _ => rfl

/-- **Every other command is careful.** -/
theorem perform_careful {name : AocsCommand} (hmom : name ≠ .setMomMgmt) (hst : name ≠ .stPower) :
    Careful (perform k cmd name) := by
  cases name with
  | setMomMgmt => exact absurd rfl hmom
  | stPower => exact absurd rfl hst
  | setMode => exact setModeCommand_careful cmd
  | desaturate => exact careful_write fun s => apparatus_setMode s .desat
  | slewTo => exact slewTo_careful cmd
  | setPointingFrame => exact setPointingFrame_careful cmd
  | setTargetQuat => exact setTargetQuat_careful k cmd
  | setTargetGeo => exact setTargetGeo_careful cmd
  | setControlBw => exact setControlBw_careful cmd
  | fineReadyCheck | checkMomentum => exact spares_pure Reply.done
  | estReset => exact estReset_careful k cmd
  | disableWheel => exact setWheelCommand_careful cmd false
  | enableWheel => exact setWheelCommand_careful cmd true
  | stSelect => exact stSelect_careful cmd
  | magSelect => exact magSelectCommand_careful cmd
  | rwSetSpeedBias => exact rwSetSpeedBias_careful k cmd
  | mtqEnable | mtqDisable | gyroCalibration => exact careful_write fun _ => rfl
  | slewToQuaternion => exact slewToQuaternion_careful cmd
  | beginAcquisition => exact beginAcquisition_careful
  | rwRampDown => exact rwRampDown_careful k cmd
  | setDeadband => exact setDeadband_careful cmd
  | gpsSetStartMode => exact gpsSetStartMode_careful cmd
  | tleUpload => exact tleUpload_careful cmd

/-! ### The powering of a tracker -/

/-- The tracker that a command powers on or off, if it is accepted. -/
def poweredUnit (s : AocsState V) : Option StUnit :=
  if commandOf cmd = some .stPower then
    match cmd.int "unit" 1 with
    | .ok n => (StUnit.ofInt n).filter fun u => !(s.tracker u).failed
    | .error _ => none
  else none

/-- What an accepted powering makes of the trackers. -/
def poweredTrackers (s : AocsState V) : StUnit → Tracker :=
  (poweredUnit cmd s).elim s.tracker fun u =>
    Function.update s.tracker u ((s.tracker u).power (cmd.bool "on" true))

theorem stPower_apparatus (h : commandOf cmd = some .stPower) :
    (finalState (stPower cmd) s).apparatus = { s.apparatus with tracker := poweredTrackers cmd s } := by
  have hparsed (n : Int) (f : Int → AocsProgram V Reply) : (fromExcept (.ok n) >>= f) = f n := rfl
  have hread (f : AocsState V → AocsProgram V Reply) :
      finalState (get >>= f) s = finalState (f s) s := rfl
  unfold poweredTrackers poweredUnit stPower
  rw [if_pos h]
  cases cmd.int "unit" 1 with
  | error e => rfl
  | ok n =>
      rw [hparsed]
      dsimp only
      cases StUnit.ofInt n with
      | none => rfl
      | some u =>
          rw [hread]
          cases hfailed : (s.tracker u).failed with
          | true =>
              rw [if_pos rfl, Option.filter_some, if_neg (by rw [hfailed]; decide)]
              rfl
          | false =>
              rw [if_neg Bool.false_ne_true, Option.filter_some, if_pos (by rw [hfailed]; rfl)]
              rfl

theorem setMomMgmt_keeps : Keeps SameApparatus (setMomMgmt cmd) := by
  refine keeps_bind (keeps_modify fun _ => rfl) fun _ => keeps_bind keeps_get fun _ =>
    keeps_bind (keeps_fromExcept _) fun _ => keeps_bind (keeps_fromExcept _) fun _ => ?_
  exact keeps_ite (fun _ => keeps_pure _) fun _ => (careful_write fun _ => rfl).keeps

/-- **What a command makes of the apparatus.** -/
theorem command_apparatus :
    (finalState (handleCommand k cmd) s).apparatus =
      { s.apparatus with tracker := poweredTrackers cmd s } := by
  by_cases hst : commandOf cmd = some .stPower
  · unfold handleCommand
    rw [hst]
    exact stPower_apparatus s cmd hst
  · have hsame : poweredTrackers cmd s = s.tracker := by
      unfold poweredTrackers poweredUnit
      rw [if_neg hst]
      rfl
    rw [hsame]
    unfold handleCommand
    cases hname : commandOf cmd with
    | none => rfl
    | some name =>
        by_cases hmom : name = .setMomMgmt
        · rw [hmom]
          exact (setMomMgmt_keeps cmd).final s
        · refine (perform_careful k cmd hmom ?_).keeps.final s
          rintro rfl
          exact hst hname

/-! ### Failures and switches -/

/-- What a failure makes of the trackers. -/
def struckTrackers (magnitude : FloatValue) (s : AocsState V) : AocsFailure V → StUnit → Tracker
  | .stBlind _ _ =>
      (s.setTracker s.stSelected fun t =>
        { t with status := if truthy magnitude then .blind else .tracking }).tracker
  | .stFailure unit =>
      ((failedUnit unit 1).elim s fun n => s.setUnit n fun t =>
        { t with failed := true, status := .failed, numStars := 0 }).tracker
  | _ => s.tracker

/-- What clearing a failure makes of the trackers. -/
def clearedTrackers (s : AocsState V) : AocsFailure V → StUnit → Tracker
  | .stBlind unit _ | .stFailure unit =>
      ((failedUnit unit s.stSelected.number).elim s fun n => s.setUnit n Tracker.clear).tracker
  | _ => s.tracker

/-- **What a failure makes of the apparatus.** -/
theorem injectFailure_apparatus (magnitude : FloatValue) (failure : AocsFailure V) :
    (injectFailure magnitude s failure).apparatus =
      { s.apparatus with tracker := struckTrackers magnitude s failure } := by
  unfold injectFailure struckTrackers
  cases failure with
  | rwBearing wheel =>
      dsimp only
      split
      · cases failedWheel wheel <;> rfl
      · rfl
  | rwSeizure wheel =>
      dsimp only
      cases failedWheel wheel <;> rfl
  | stBlind unit bias =>
      dsimp only
      split <;> rfl
  | stFailure unit =>
      dsimp only
      cases failedUnit unit 1 with
      | none => rfl
      | some n => exact apparatus_setUnit s n _
  | mtqFailure axis =>
      dsimp only
      cases failedAxis axis <;> rfl
  | cssHeadFail face =>
      dsimp only
      cases failedFace face <;> rfl
  | multiWheelFailure wheels =>
      have hseized := apparatus_seizeWheels s (wheels.filterMap wheelOf)
      dsimp only
      split
      · exact (apparatus_setMode _ .coarseSun).trans hseized
      · exact hseized
  | gyroBias | cssFailure | magFailure | magUnitFail | other => rfl

/-- **What clearing a failure makes of the apparatus.** -/
theorem clearFailure_apparatus (failure : AocsFailure V) :
    (clearFailure s failure).apparatus =
      { s.apparatus with tracker := clearedTrackers s failure } := by
  unfold clearFailure clearedTrackers
  cases failure with
  | stBlind unit bias =>
      dsimp only
      cases failedUnit unit s.stSelected.number with
      | none => rfl
      | some n => exact apparatus_setUnit s n _
  | stFailure unit =>
      dsimp only
      cases failedUnit unit s.stSelected.number with
      | none => rfl
      | some n => exact apparatus_setUnit s n _
  | mtqFailure axis =>
      dsimp only
      cases failedAxis axis <;> rfl
  | cssHeadFail face =>
      dsimp only
      cases failedFace face <;> rfl
  | rwBearing | rwSeizure | gyroBias | cssFailure | magFailure | magUnitFail | multiWheelFailure
  | other => rfl

end Commands

theorem setDeviceState_apparatus (id : Nat) (on : Bool) :
    (s.setDeviceState id on).apparatus =
      { s.apparatus with
        deviceOn := (Device.ofId id).elim s.deviceOn fun d => Function.update s.deviceOn d on } := by
  unfold AocsState.setDeviceState
  cases Device.ofId id <;> rfl

end Aocs
