import MissionSim.Aocs
import MissionSim.Effects
import MissionSim.Runs

/-!
# Commands to the attitude and orbit control subsystem

The commands of `handle_command` with all their checks, the failures that an instructor injects and
clears, and runs of the model.

Left out are bearing degradation, the gains of the control torque, and the texts and the values of
replies.
-/

namespace Aocs

open Binary32 Python Effects

variable {V : Type}

/-! ### Replies -/

/-- What a command answers. -/
inductive Reply where
  | done
  | refused
  deriving DecidableEq, Repr

/-- The command is reported as failed. -/
def Reply.Refuses (r : Reply) : Prop := r ≠ .done

/-- A program on the model. -/
abbrev AocsProgram (V α : Type) := EStateM PyError (AocsState V) α

/-- Write to the state. -/
def write (f : AocsState V → AocsState V) : AocsProgram V Reply := do
  modify f
  pure .done

section Commands

variable [Object V] (k : AocsConfig) (cmd : Arguments V)

/-! ### Modes -/

/-- `set_mode`. -/
def setModeCommand : AocsProgram V Reply := do
  let mode ← fromExcept (cmd.int "mode" 0)
  match AocsMode.ofInt mode with
  | none => pure .refused
  | some m =>
      let s ← get
      if m = .finePoint ∧ s.mode ≠ .finePoint ∧ s.fineReadyMask ≠ 0 then pure .refused
      else write (AocsState.setMode m)

/-- `begin_acquisition`. -/
def beginAcquisition : AocsProgram V Reply := do
  let s ← get
  if s.mode.dark then write (AocsState.setMode .detumble) else pure .refused

/-! ### Pointing -/

/-- `list(cmd.get("quaternion", [0, 0, 0, 1]))`. -/
def quaternionArg : Except PyError (Quaternion V) :=
  (cmd.get? "quaternion").elim (.ok .identity) fun v => (Object.toList v).map .items

/-- `len(cmd.get("quaternion", [0, 0, 0, 1]))`. -/
def quaternionLength : Except PyError Nat := (cmd.get? "quaternion").elim (.ok 4) Object.length

/-- `[float(x) for x in q]`. -/
def Quaternion.numbers : Quaternion V → Except PyError (List FloatValue)
  | .identity => .ok [literal 0, literal 0, literal 0, literal 1]
  | .items xs => xs.mapM Object.toFloat

/-- A slew to a target starts. -/
def AocsState.startSlew (q : Quaternion V) (s : AocsState V) : AocsState V :=
  { s with slewTargetQ := some q, slewStartQ := some s.qTrue, slewElapsed := some (literal 0) }.setMode
    .slew

/-- `slew_to`. -/
def slewTo : AocsProgram V Reply := do
  let q ← fromExcept (quaternionArg cmd)
  write (AocsState.startSlew q)

/-- `slew_to_quaternion`. -/
def slewToQuaternion : AocsProgram V Reply := do
  let rate ← fromExcept (cmd.float "rate_dps" (literal 1 2))
  let length ← fromExcept (quaternionLength cmd)
  if length ≠ 4 then pure .refused
  else if rate.le (literal 0) ∨ (literal 10).lt rate then pure .refused
  else
    let q ← fromExcept (quaternionArg cmd)
    write fun s => { s with slewRateDps := rate }.startSlew q

/-- `set_pointing_frame`. -/
def setPointingFrame : AocsProgram V Reply := do
  let frame ← fromExcept (cmd.int "frame" 1)
  if 0 ≤ frame ∧ frame ≤ 3 then write fun s => { s with pointingFrame := frame.toNat }
  else pure .refused

/-- `set_target_quat`. -/
def setTargetQuat : AocsProgram V Reply := do
  let length ← fromExcept (quaternionLength cmd)
  if length ≠ 4 then pure .refused
  else
    let q ← fromExcept (quaternionArg cmd)
    let numbers ← fromExcept q.numbers
    let mag := k.norm numbers
    if mag.lt (literal 1 1000000) then pure .refused
    else
      let target ← fromExcept (numbers.mapM fun x => divide x mag)
      write fun s => { s with targetQCmd := target }

/-- `set_target_geo`. -/
def setTargetGeo : AocsProgram V Reply := do
  let lat ← fromExcept (cmd.float "lat" (literal 0))
  let lon ← fromExcept (cmd.float "lon" (literal 0))
  let alt ← fromExcept (cmd.float "alt_m" (literal 0))
  if (literal 90).neg.le lat ∧ lat.le (literal 90) ∧ (literal 180).neg.le lon ∧
      lon.le (literal 360) then
    write fun s => { s with targetGeo := [lat, lon, alt], targetGeoValid := true }
  else pure .refused

/-! ### Control -/

/-- A bandwidth or a damping is zero, or within its bounds. -/
def unsetOrWithin (lo hi x : FloatValue) : Bool := !truthy x || lo.le x && x.le hi

/-- `set_control_bw`. -/
def setControlBw : AocsProgram V Reply := do
  let omegaN ← fromExcept (cmd.float "omega_n" (literal 0))
  let zeta ← fromExcept (cmd.float "zeta" (literal 0))
  if !unsetOrWithin (literal 1 1000) (literal 2 10) omegaN then pure .refused
  else if !unsetOrWithin (literal 1 10) (literal 2) zeta then pure .refused
  else write fun s => { s with ctrlOmegaN := omegaN, ctrlZeta := zeta }

/-- The percentages of momentum management are refused. -/
def badPercentages (entry exit : FloatValue) : Bool :=
  !((literal 0).lt exit && exit.lt entry && entry.le (literal 100))

/-- `set_mom_mgmt`: the flag is written before the percentages are read. -/
def setMomMgmt : AocsProgram V Reply := do
  modify fun s => { s with momMgmtEnable := cmd.bool "enable" false }
  let s ← get
  let entry ← fromExcept (cmd.float "entry_pct" s.momMgmtEntryPct)
  let exit ← fromExcept (cmd.float "exit_pct" s.momMgmtExitPct)
  if badPercentages entry exit then pure .refused
  else write fun s => { s with momMgmtEntryPct := entry, momMgmtExitPct := exit }

/-- `self._ekf.reset(q0=list(self._state.q) if warm else None, warm=warm)`. -/
def AocsState.resetEstimator (warm : Bool) (s : AocsState V) : AocsState V :=
  { s with
    ekf :=
      { q := if warm then k.normalise s.q else s.ekf.q
        b := if warm then s.ekf.b else Vec.zero
        converged := false
        initialised := warm }
    fineConvTimer := literal 0 }

/-- `est_reset`. -/
def estReset : AocsProgram V Reply := do
  let mode ← fromExcept (cmd.int "mode" 0)
  write (AocsState.resetEstimator k (mode = 1))

/-- `set_deadband`. -/
def setDeadband : AocsProgram V Reply := do
  let deadband ← fromExcept (cmd.float "deadband_deg" (literal 1 100))
  if deadband.lt (literal 0) ∨ (literal 1).lt deadband then pure .refused
  else write fun s => { s with deadbandDeg := deadband, attErrorThresholdDeg := deadband }

/-! ### Wheels -/

/-- The wheel of a number, if `0 <= idx < 4`. -/
def wheelOf (n : Int) : Option (Fin 4) := if 0 ≤ n then (List.finRange 4)[n.toNat]? else none

/-- A wheel is made active or not. -/
def AocsState.setWheel (i : Fin 4) (on : Bool) (s : AocsState V) : AocsState V :=
  { s with
    activeWheels := Function.update s.activeWheels i on
    rwEnabled := Function.update s.rwEnabled i on }

/-- `disable_wheel` and `enable_wheel`. -/
def setWheelCommand (on : Bool) : AocsProgram V Reply := do
  let idx ← fromExcept (cmd.int "wheel" 0)
  match wheelOf idx with
  | some i => write (AocsState.setWheel i on)
  | none => pure .refused

/-- A wheel gets a speed, and the momentum of the speed. -/
def AocsState.setSpeed (i : Fin 4) (speed : FloatValue) (s : AocsState V) : AocsState V :=
  { s with
    rwSpeed := Function.update s.rwSpeed i speed
    hWheel := Function.update s.hWheel i (k.momentum speed) }

/-- `rw_set_speed_bias`. -/
def rwSetSpeedBias : AocsProgram V Reply := do
  let wheel ← fromExcept (cmd.int "wheel" 0)
  let bias ← fromExcept (cmd.float "bias" (literal 0))
  match wheelOf wheel with
  | none => pure .refused
  | some i =>
      let s ← get
      if s.activeWheels i then write fun s => s.setSpeed k i ((s.rwSpeed i).add bias)
      else pure .refused

/-- The active wheels get a speed. -/
def AocsState.setActiveSpeeds (speed : FloatValue) (s : AocsState V) : AocsState V :=
  (List.finRange 4).foldl (fun s i => if s.activeWheels i then s.setSpeed k i speed else s) s

/-- `rw_ramp_down`. -/
def rwRampDown : AocsProgram V Reply := do
  let wheel ← fromExcept (cmd.int "wheel" (-1))
  let target ← fromExcept (cmd.float "target_rpm" (literal 0))
  if wheel = -1 ∨ wheel = 255 then write (AocsState.setActiveSpeeds k target)
  else
    match wheelOf wheel with
    | some i => write (AocsState.setSpeed k i target)
    | none => pure .refused

/-! ### Sensors -/

/-- A tracker is written. -/
def AocsState.setTracker (u : StUnit) (f : Tracker → Tracker) (s : AocsState V) : AocsState V :=
  { s with tracker := Function.update s.tracker u (f (s.tracker u)) }

/-- A tracker is powered on or off. -/
def Tracker.power (on : Bool) (t : Tracker) : Tracker :=
  { t with status := if on then .booting else .off, bootTimer := literal 0 }

/-- `st_power`. -/
def stPower : AocsProgram V Reply := do
  let unit ← fromExcept (cmd.int "unit" 1)
  match StUnit.ofInt unit with
  | none => pure .refused
  | some u =>
      let s ← get
      if (s.tracker u).failed then pure .refused
      else write (AocsState.setTracker u (Tracker.power (cmd.bool "on" true)))

/-- `st_select`. -/
def stSelect : AocsProgram V Reply := do
  let unit ← fromExcept (cmd.int "unit" 1)
  match StUnit.ofInt unit with
  | none => pure .refused
  | some u =>
      let s ← get
      if (s.tracker u).status = .off then pure .refused
      else write fun s => { s with stSelected := u }

/-- The magnetometer of a name. -/
def MagUnit.ofName (text : String) : Option MagUnit :=
  if text = "A" then some .A else if text = "B" then some .B else none

/-- `mag_select`, for a truth value. -/
def selectMagValid (on : Bool) : AocsProgram V Reply := do
  let s ← get
  if s.magFailed && on then pure .refused else write fun s => { s with magValid := on }

/-- `mag_select`, for a name. -/
def selectMagUnit (source : Option V) : AocsProgram V Reply :=
  match MagUnit.ofName (source.elim "A" Object.upper) with
  | none => pure .refused
  | some m => do
      let s ← get
      if s.magUnitFailed m then pure .refused else write fun s => { s with magSelect := m }

/-- `mag_select`. -/
def magSelectCommand : AocsProgram V Reply :=
  let source := (cmd.get? "source").or (cmd.get? "on")
  match source.bind Object.asBool with
  | some on => selectMagValid on
  | none => selectMagUnit source

/-! ### Magnetorquers, navigation receiver, orbit elements -/

/-- `mtq_disable`. -/
def AocsState.disableMtq (s : AocsState V) : AocsState V :=
  { s with mtqEnabled := false, mtqDuty := Vec.zero }

/-- The start mode of a number, if `start_mode in (0, 1, 2)`. -/
def StartMode.ofInt (n : Int) : Option StartMode :=
  if n = 0 then some .cold else if n = 1 then some .warm else if n = 2 then some .hot else none

/-- `gps_set_start_mode`. -/
def gpsSetStartMode : AocsProgram V Reply := do
  let n ← fromExcept (cmd.int "start_mode" 0)
  match StartMode.ofInt n with
  | some m => write fun s => { s with gpsStartMode := m, gpsTtffTimer := literal 0 }
  | none => pure .refused

/-- `tle_upload`; a line that is missing is empty. -/
def tleUpload : AocsProgram V Reply :=
  match (cmd.get? "line1").filter Object.toBool, (cmd.get? "line2").filter Object.toBool with
  | some line1, some line2 => do
      let length1 ← fromExcept (Object.length line1)
      if length1 < 60 then pure .refused
      else
        let length2 ← fromExcept (Object.length line2)
        if length2 < 60 then pure .refused
        else write fun s => { s with
          tleLine1 := some line1, tleLine2 := some line2, tleValid := true
          tleLastUploadTime := literal 0, tleValidityTimer := literal 0 }
  | _, _ => pure .refused

/-! ### Dispatch -/

/-- The commands of `handle_command`. -/
inductive AocsCommand where
  | setMode | desaturate | slewTo | setPointingFrame | setTargetQuat | setTargetGeo | setControlBw
  | fineReadyCheck | setMomMgmt | estReset | disableWheel | enableWheel | stPower | stSelect
  | magSelect | rwSetSpeedBias | mtqEnable | mtqDisable | slewToQuaternion | checkMomentum
  | beginAcquisition | gyroCalibration | rwRampDown | setDeadband | gpsSetStartMode | tleUpload
  deriving DecidableEq, Repr

/-- The names of the commands. -/
def commandNames : List (String × AocsCommand) :=
  [("set_mode", .setMode), ("desaturate", .desaturate), ("slew_to", .slewTo),
    ("set_pointing_frame", .setPointingFrame), ("set_target_quat", .setTargetQuat),
    ("set_target_geo", .setTargetGeo), ("set_control_bw", .setControlBw),
    ("fine_ready_check", .fineReadyCheck), ("set_mom_mgmt", .setMomMgmt),
    ("est_reset", .estReset), ("disable_wheel", .disableWheel), ("enable_wheel", .enableWheel),
    ("st_power", .stPower), ("st_select", .stSelect), ("mag_select", .magSelect),
    ("rw_set_speed_bias", .rwSetSpeedBias), ("mtq_enable", .mtqEnable),
    ("mtq_disable", .mtqDisable), ("slew_to_quaternion", .slewToQuaternion),
    ("check_momentum", .checkMomentum), ("begin_acquisition", .beginAcquisition),
    ("gyro_calibration", .gyroCalibration), ("rw_ramp_down", .rwRampDown),
    ("set_deadband", .setDeadband), ("gps_set_start_mode", .gpsSetStartMode),
    ("tle_upload", .tleUpload)]

/-- The command of a dictionary, if it names one. -/
def commandOf : Option AocsCommand := cmd.command.bind fun name => commandNames.lookup name

/-- A command with its arguments. -/
def perform : AocsCommand → AocsProgram V Reply
  | .setMode => setModeCommand cmd
  | .desaturate => write (AocsState.setMode .desat)
  | .slewTo => slewTo cmd
  | .setPointingFrame => setPointingFrame cmd
  | .setTargetQuat => setTargetQuat k cmd
  | .setTargetGeo => setTargetGeo cmd
  | .setControlBw => setControlBw cmd
  | .fineReadyCheck => pure .done
  | .setMomMgmt => setMomMgmt cmd
  | .estReset => estReset k cmd
  | .disableWheel => setWheelCommand cmd false
  | .enableWheel => setWheelCommand cmd true
  | .stPower => stPower cmd
  | .stSelect => stSelect cmd
  | .magSelect => magSelectCommand cmd
  | .rwSetSpeedBias => rwSetSpeedBias k cmd
  | .mtqEnable => write fun s => { s with mtqEnabled := true }
  | .mtqDisable => write AocsState.disableMtq
  | .slewToQuaternion => slewToQuaternion cmd
  | .checkMomentum => pure .done
  | .beginAcquisition => beginAcquisition
  | .gyroCalibration => write fun s => { s with trueGyroBias := Vec.zero }
  | .rwRampDown => rwRampDown k cmd
  | .setDeadband => setDeadband cmd
  | .gpsSetStartMode => gpsSetStartMode cmd
  | .tleUpload => tleUpload cmd

/-- `handle_command(cmd)`. -/
def handleCommand : AocsProgram V Reply :=
  match commandOf cmd with
  | some name => perform k cmd name
  | none => pure .refused

/-! ### Failures and runs -/

/-- The failures of the model.  `other` is one that changes nothing of what is modelled. -/
inductive AocsFailure (V : Type) where
  | rwBearing (wheel : Option V)
  | rwSeizure (wheel : Option V)
  | gyroBias (bias : Vec)
  | stBlind (unit : Option V) (bias : Vec)
  | stFailure (unit : Option V)
  | cssFailure
  | magFailure
  | mtqFailure (axis : Option V)
  | magUnitFail (m : MagUnit)
  | cssHeadFail (face : Option V)
  | multiWheelFailure (wheels : List Int)
  | other

/-- An element of a list of four at an index, which counts from the end where it is negative. -/
def indexed (n : Int) : Option (Fin 4) := wheelOf (if n < 0 then n + 4 else n)

/-- The wheel of a failure. -/
def failedWheel (wheel : Option V) : Option (Fin 4) :=
  match wheel.elim (.ok 0) Object.toInt with
  | .ok n => indexed n
  | .error _ => none

/-- The number of the tracker of a failure, if it has one. -/
def failedUnit (unit : Option V) (default : Int) : Option Int :=
  match unit.elim (.ok default) Object.toInt with
  | .ok n => some n
  | .error _ => none

/-- The attributes of a tracker are written; those of a number that names none are others. -/
def AocsState.setUnit (n : Int) (f : Tracker → Tracker) (s : AocsState V) : AocsState V :=
  (StUnit.ofInt n).elim s fun u => s.setTracker u f

/-- The magnetorquer of a failure. -/
def failedAxis (axis : Option V) : Option Axis :=
  [("x", Axis.x), ("y", .y), ("z", .z)].lookup (axis.elim "x" Object.str)

/-- The head of a failure. -/
def failedFace (face : Option V) : Option Face :=
  (face.elim (some "px") Object.asText).bind fun text =>
    [("px", Face.px), ("mx", .mx), ("py", .py), ("my", .my), ("pz", .pz), ("mz", .mz)].lookup text

/-- A wheel is taken out. -/
def AocsState.loseWheel (s : AocsState V) (i : Fin 4) : AocsState V :=
  { s with activeWheels := Function.update s.activeWheels i false }

/-- A wheel is taken out and stopped. -/
def AocsState.seizeWheel (s : AocsState V) (i : Fin 4) : AocsState V :=
  { s.loseWheel i with rwSpeed := Function.update s.rwSpeed i (literal 0) }

/-- `inject_failure(failure, magnitude)`. -/
def injectFailure (magnitude : FloatValue) (s : AocsState V) : AocsFailure V → AocsState V
  | .rwBearing wheel =>
      if (literal 95 100).le magnitude then (failedWheel wheel).elim s s.loseWheel else s
  | .rwSeizure wheel => (failedWheel wheel).elim s s.seizeWheel
  | .gyroBias bias => { s with trueGyroBias := bias }
  | .stBlind _ bias =>
      if truthy magnitude then
        { s.setTracker s.stSelected (fun t => { t with status := .blind }) with
          trueGyroBias := bias }
      else s.setTracker s.stSelected fun t => { t with status := .tracking }
  | .stFailure unit =>
      (failedUnit unit 1).elim s fun n =>
        s.setUnit n fun t => { t with failed := true, status := .failed, numStars := 0 }
  | .cssFailure => { s with cssFailed := true, cssValid := false }
  | .magFailure => { s with magFailed := true, magValid := false }
  | .mtqFailure axis =>
      (failedAxis axis).elim s fun a => { s with mtqFailed := Function.update s.mtqFailed a true }
  | .magUnitFail m => { s with magUnitFailed := Function.update s.magUnitFailed m true }
  | .cssHeadFail face =>
      (failedFace face).elim s fun f =>
        { s with cssHeadFailed := Function.update s.cssHeadFailed f true }
  | .multiWheelFailure wheels =>
      let s := (wheels.filterMap wheelOf).foldl AocsState.seizeWheel s
      if s.activeCount < 3 then s.setMode .coarseSun else s
  | .other => s

/-- A tracker whose failure is cleared. -/
def Tracker.clear (t : Tracker) : Tracker := { t with failed := false, status := .tracking }

/-- `clear_failure(failure)`. -/
def clearFailure (s : AocsState V) : AocsFailure V → AocsState V
  | .rwBearing _ | .rwSeizure _ | .multiWheelFailure _ | .other => s
  | .gyroBias _ => { s with trueGyroBias := Vec.zero }
  | .stBlind unit _ =>
      (failedUnit unit s.stSelected.number).elim s fun n =>
        { s.setUnit n Tracker.clear with trueGyroBias := Vec.zero }
  | .stFailure unit =>
      (failedUnit unit s.stSelected.number).elim s fun n => s.setUnit n Tracker.clear
  | .cssFailure => { s with cssFailed := false }
  | .magFailure => { s with magFailed := false }
  | .mtqFailure axis =>
      (failedAxis axis).elim s fun a => { s with mtqFailed := Function.update s.mtqFailed a false }
  | .magUnitFail m => { s with magUnitFailed := Function.update s.magUnitFailed m false }
  | .cssHeadFail face =>
      (failedFace face).elim s fun f =>
        { s with cssHeadFailed := Function.update s.cssHeadFailed f false }

/-- What happens to the model. -/
inductive AocsInput (V : Type) where
  | command (cmd : Arguments V)
  | inject (failure : AocsFailure V) (magnitude : FloatValue)
  | clear (failure : AocsFailure V)
  | switch (id : Nat) (on : Bool)
  | tick (t : AocsTick)

/-- The state after an input, also one that raises. -/
def step (s : AocsState V) : AocsInput V → AocsState V
  | .command cmd => finalState (handleCommand k cmd) s
  | .inject failure magnitude => injectFailure magnitude s failure
  | .clear failure => clearFailure s failure
  | .switch id on => s.setDeviceState id on
  | .tick t => (tick k t s).1

end Commands

end Aocs
