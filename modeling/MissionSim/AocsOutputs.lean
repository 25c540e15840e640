import MissionSim.AocsCalls

/-!
# What a call does to the outputs

The outputs are what the power gates may force to zero or invalid.  A call makes most of them anew,
whatever they were; four it may leave as it finds them: the rates, the field of a magnetometer, the
field that is read, and the duty of a magnetorquer.  `keeps_iff` says exactly when.
-/

namespace Aocs

open Binary32 Python AocsState FloatValue

variable {V : Type} (k : AocsConfig) (found : AocsPass) (s : AocsState V)

/-! ### What the stages make of the readings -/

/-- The readings that the flags and the trackers leave. -/
structure Readings where
  rate : Vec
  gyroBias : Vec
  mag : Vec
  magUnit : MagUnit → Vec
  cssSun : Vec
  cssHeads : Face → FloatValue
  gpsNumSats : Nat
  mtqDuty : Vec

/-- The readings of a state. -/
def AocsState.readings (s : AocsState V) : Readings where
  rate := s.rate
  gyroBias := s.gyroBias
  mag := s.mag
  magUnit := s.magUnit
  cssSun := s.cssSun
  cssHeads := s.cssHeads
  gpsNumSats := s.gpsNumSats
  mtqDuty := s.mtqDuty

theorem readings_setMode (m : AocsMode) : (s.setMode m).readings = s.readings := by
  unfold setMode
  split <;> rfl

theorem readings_enterIf (c : Bool) (m : AocsMode) : (s.enterIf c m).readings = s.readings := by
  cases c
  · rfl
  · exact readings_setMode s m

theorem readings_checkAutoTransitions :
    (s.checkAutoTransitions k found).readings = s.readings := by
  unfold checkAutoTransitions
  split
  · rfl
  · split
    · exact readings_enterIf _ _ _
    · exact readings_enterIf _ _ _
    · exact readings_enterIf _ _ _
    · exact readings_enterIf _ _ _
    · exact readings_enterIf _ _ _
    · split
      · rfl
      · exact readings_setMode _ _
    · exact readings_enterIf _ _ _
    · rfl

theorem readings_checkModes : (s.checkModes k found).readings = s.readings := by
  unfold checkModes
  split
  · exact readings_setMode s .detumble
  · exact readings_checkAutoTransitions k found s

theorem readings_arrived : (s.arrived k found).readings = (s.sensed k found).readings :=
  (readings_enterIf _ _ _).trans (readings_checkModes k found _)

/-- The mode tick runs a control law, which commands the magnetorquers. -/
def AocsState.steers (s : AocsState V) : Bool :=
  match s.mode with
  | .off | .safeBoot => false
  | .finePoint => !(!s.stValid || s.activeCount < 4)
  | .slew => !s.slewTargetQ.isNone
  | _ => true

/-- The readings with another duty, where there is one. -/
def Readings.steered (steers : Bool) (duty : Vec) (r : Readings) : Readings :=
  { r with mtqDuty := if steers then duty else r.mtqDuty }

theorem readings_tickMode :
    (s.tickMode found).readings = s.readings.steered s.steers (s.dutyOf found) := by
  unfold tickMode steers
  cases s.mode with
  | off | safeBoot | detumble | coarseSun | nominal | desat | eclipse | inertial => rfl
  | finePoint =>
      cases hpoor : !s.stValid || decide (s.activeCount < 4) with
      | true => exact readings_setMode s .nominal
      | false => rfl
  | slew =>
      cases hnone : s.slewTargetQ.isNone with
      | true => exact readings_setMode s .nominal
      | false =>
          cases found.slewDone with
          | true => exact readings_setMode _ .nominal
          | false => rfl

theorem readings_tickSecular : (s.tickSecular found).readings = s.readings := by
  unfold tickSecular
  split
  · rfl
  · rfl
  · rfl
  · dsimp only
    split
    · refine (readings_setMode _ .nominal).trans ?_
      split <;> rfl
    · split <;> rfl

/-- **The readings that a call hands to its last stages.** -/
theorem readings_before :
    (s.before k found).readings =
      let r := (s.sensed k found).readings
      { r.steered (!found.secular && (s.arrived k found).steers) ((s.arrived k found).dutyOf found)
        with rate := if found.secular then found.secularRate else r.rate } := by
  rw [← readings_arrived]
  unfold before ticked
  cases found.secular with
  | true =>
      have hticked := readings_tickSecular found
        { s.arrived k found with timeInMode := (s.arrived k found).timeInMode.add found.dt }
      exact congrArg (fun r : Readings => { r with rate := found.secularRate }) hticked
  | false => exact readings_tickMode found _

/-! ### What the sensors make of the readings -/

/-- What the heads of the sun sensor are made to show. -/
def AocsState.headsMade (f : Face) : FloatValue :=
  if s.cssFailed || found.eclipse then literal 0 else s.readHeads found f

/-- The sun vector that a call makes. -/
def AocsState.sunMade : Vec :=
  if s.cssFailed || found.eclipse then Vec.zero
  else
    let sun := composite (s.readHeads found)
    if (literal 1 100).lt (k.length sun) then fun a => (sun a).div (k.length sun) else sun

/-- A call leaves the field of a magnetometer as it finds it. -/
def AocsState.leavesUnit (m : MagUnit) : Bool := s.magFailed || !s.mode.dark && s.magUnitFailed m

/-- The fields of the magnetometers after a call. -/
def AocsState.unitsMade (m : MagUnit) : Vec :=
  if s.leavesUnit m then s.magUnit m else if s.mode.dark then Vec.zero else found.field m

/-- A call leaves the field that is read as it finds it. -/
def AocsState.leavesField : Bool := s.magFailed || !s.mode.dark && s.magSource.isNone

/-- The field that is read after a call. -/
def AocsState.fieldMade : Vec :=
  if s.leavesField then s.mag
  else if s.mode.dark then Vec.zero else s.magSource.elim s.mag (s.unitsMade found)

/-- The satellites in view after a call. -/
def AocsState.satsMade : Nat :=
  let timer := s.gpsTtffTimer.add found.dt
  let target := k.ttff s.gpsStartMode
  if !s.gpsPowered then 0
  else if s.searching k found then randint 0 3 found.sats
  else if timer.lt (target.mul (literal 8 10)) then randint 4 8 found.sats
  else if target.le timer then randint 6 12 found.sats
  else randint 4 8 found.sats

/-- What the sensors are about to make. -/
structure Senses where
  mode : AocsMode
  heads : Face → FloatValue
  sun : Vec
  units : MagUnit → Vec
  field : Vec
  sats : Nat

def AocsState.senses (s : AocsState V) : Senses where
  mode := s.mode
  heads := s.headsMade found
  sun := s.sunMade k found
  units := s.unitsMade found
  field := s.fieldMade found
  sats := s.satsMade k found

theorem readings_gatePower : (s.gatePower found).readings = s.readings := by
  unfold gatePower
  split <;> rfl

theorem senses_gatePower :
    (s.gatePower found).senses k found = (s.energised found).senses k found := by
  obtain ⟨submode, time, st, css, mag, h⟩ := gatePower_eq found s
  rw [h]
  rfl

theorem senses_starred : (s.starred k found).senses k found = s.senses k found := rfl

theorem senses_tickCss : (s.tickCss k found).senses k found = s.senses k found := by
  obtain ⟨sun, heads, h⟩ := tickCss_eq k found s
  rw [h]
  rfl

theorem readings_tickCss :
    (s.tickCss k found).readings =
      { s.readings with cssSun := s.sunMade k found, cssHeads := s.headsMade found } := by
  unfold tickCss sunMade
  have hheads : s.headsMade found =
      if (s.cssFailed || found.eclipse) = true then fun _ => literal 0 else s.readHeads found := by
    funext f
    unfold headsMade
    split <;> rfl
  rw [hheads]
  cases s.cssFailed || found.eclipse with
  | true => rfl
  | false =>
      dsimp only
      cases (literal 1 100).lt (k.length (composite (s.readHeads found))) with
      | true | false => rfl

theorem readings_tickMagnetometer :
    (s.tickMagnetometer found).readings =
      { s.readings with mag := s.fieldMade found, magUnit := s.unitsMade found } := by
  have hunits : s.unitsMade found =
      if s.magFailed = true then s.magUnit
      else if s.mode.dark = true then fun _ => Vec.zero
      else fun m => if s.magUnitFailed m then s.magUnit m else found.field m := by
    funext m
    unfold unitsMade leavesUnit
    cases s.magFailed with
    | true => rfl
    | false =>
        cases s.mode.dark with
        | true | false => rfl
  unfold tickMagnetometer fieldMade leavesField
  rw [hunits]
  cases s.magFailed with
  | true => rfl
  | false =>
      cases s.mode.dark with
      | true => rfl
      | false =>
          cases s.magSource with
          | none | some => rfl

theorem leftover_tickMagnetometer :
    (s.tickMagnetometer found).mode = s.mode ∧
      (s.tickMagnetometer found).satsMade k found = s.satsMade k found := by
  obtain ⟨mag, units, h⟩ := tickMagnetometer_eq found s
  rw [h]
  exact ⟨rfl, rfl⟩

theorem readings_tickGps :
    (s.tickGps k found).readings = { s.readings with gpsNumSats := s.satsMade k found } := by
  unfold tickGps satsMade
  cases s.gpsPowered with
  | false =>
      simp only [Bool.not_false, if_true]
      split <;> rfl
  | true =>
      simp only [Bool.not_true, Bool.false_eq_true, if_false]
      split
      · rfl
      · split
        · rfl
        · split <;> rfl

theorem readings_tickGyroAndGps :
    (s.tickGyroAndGps k found).readings =
      { s.readings with gyroBias := found.gyroBias, gpsNumSats := s.satsMade k found } :=
  readings_tickGps k found { s with trueGyroBias := found.gyroBias, gyroBias := found.gyroBias }

theorem readings_tickEstimator :
    (s.tickEstimator found).readings =
      { s.readings with rate := if s.mode.dark then s.readings.rate else found.rate } := by
  unfold tickEstimator
  split
  · rfl
  · rfl

/-- What the sensors make of the readings. -/
def Senses.apply (e : Senses) (r : Readings) : Readings where
  rate := if e.mode.dark then r.rate else found.rate
  gyroBias := found.gyroBias
  mag := e.field
  magUnit := e.units
  cssSun := e.sun
  cssHeads := e.heads
  gpsNumSats := e.sats
  mtqDuty := r.mtqDuty

/-- **What the sensors make of the readings.** -/
theorem readings_sensed :
    (s.sensed k found).readings = ((s.energised found).senses k found).apply found s.readings := by
  have hstarred := (senses_starred k found _).trans (senses_gatePower k found s)
  have hb : ((s.gatePower found).starred k found).readings = s.readings :=
    readings_gatePower found s
  show (((((s.gatePower found).starred k found).tickCss k found).tickMagnetometer
    found).tickGyroAndGps k found |>.tickEstimator found).readings = _
  generalize (s.gatePower found).starred k found = b at hstarred hb ⊢
  have hcss := (senses_tickCss k found b).trans hstarred
  have hc := readings_tickCss k found b
  generalize b.tickCss k found = c at hcss hc ⊢
  obtain ⟨hmode, hsats⟩ := leftover_tickMagnetometer k found c
  have hd := readings_tickMagnetometer found c
  generalize c.tickMagnetometer found = d at hmode hsats hd ⊢
  have hgps := (sensed_tickGyroAndGps k found d).1.trans (hmode.trans (congrArg Senses.mode hcss))
  have he := readings_tickGyroAndGps k found d
  rw [readings_tickEstimator, hgps, he, hd, hc, hb, hsats]
  have hfield : c.fieldMade found = _ := congrArg Senses.field hcss
  have hunits : c.unitsMade found = _ := congrArg Senses.units hcss
  have hview : c.satsMade k found = _ := congrArg Senses.sats hcss
  have hsun : b.sunMade k found = _ := congrArg Senses.sun hstarred
  have hheads : b.headsMade found = _ := congrArg Senses.heads hstarred
  rw [hfield, hunits, hview, hsun, hheads]
  rfl

/-! ### What the last stages make of the readings and of the wheels -/

/-- The duties after `_tick_magnetorquers`. -/
def Readings.driven (enabled : Bool) (r : Readings) : Readings :=
  { r with mtqDuty := if enabled then r.mtqDuty else Vec.zero }

/-- The readings after the power gates. -/
def Readings.gated (on : Device → Bool) (r : Readings) : Readings :=
  let gyrosOff := Device.gyrosOff on
  let magsOff := !on (.magnetometer .A) && !on (.magnetometer .B)
  { r with
    rate := if gyrosOff then Vec.zero else r.rate
    gyroBias := if gyrosOff then Vec.zero else r.gyroBias
    magUnit := fun m => if on (.magnetometer m) then r.magUnit m else Vec.zero
    mag := if magsOff then Vec.zero else r.mag
    cssSun := if on .sunSensor then r.cssSun else Vec.zero
    cssHeads := if on .sunSensor then r.cssHeads else fun _ => literal 0
    mtqDuty := fun a => if on (.magnetorquer a) then r.mtqDuty a else literal 0 }

/-- What is shown of the wheels. -/
structure Spinning where
  rwSpeed : Fin 4 → FloatValue
  rwCurrent : Fin 4 → FloatValue
  rwEnabled : Fin 4 → Bool

def AocsState.spinning (s : AocsState V) : Spinning where
  rwSpeed := s.rwSpeed
  rwCurrent := s.rwCurrent
  rwEnabled := s.rwEnabled

/-- The wheels after the power gates. -/
def Spinning.gated (on : Device → Bool) (w : Spinning) : Spinning :=
  { w with
    rwSpeed := fun i => if on (.wheel i) then w.rwSpeed i else literal 0
    rwCurrent := fun i => if on (.wheel i) then w.rwCurrent i else literal 0 }

/-- What is shown of a state. -/
def AocsState.shown (s : AocsState V) : Readings × Spinning := (s.readings, s.spinning)

/-- The wheels as `_tick_wheels` shows them. -/
def AocsState.spun (s : AocsState V) : Spinning where
  rwSpeed i := k.speed (s.hWheel i)
  rwCurrent i := if s.activeWheels i then found.rwCurrent i else literal 0
  rwEnabled := s.activeWheels

theorem shown_applyDevicePowerGates :
    s.applyDevicePowerGates.shown =
      (s.readings.gated s.deviceOn, s.spinning.gated s.deviceOn) := rfl

theorem shown_mark (e : Bool) : ({ s with prevInEclipse := e } : AocsState V).shown = s.shown := rfl

theorem shown_generateTickEvents (m : AocsMode) : (s.generateTickEvents m).1.shown = s.shown := rfl

theorem shown_publish : s.publish.shown = s.shown := rfl

theorem shown_settled :
    (s.settled k found).shown =
      ((s.readings.driven s.mtqEnabled).gated s.deviceOn, (s.spun k found).gated s.deviceOn) := by
  rfl

/-- **What a call makes of what is shown.** -/
theorem shown_pass :
    (pass k found s).1.shown =
      (((s.before k found).readings.driven s.mtqEnabled).gated s.deviceOn,
        ((s.before k found).spun k found).gated s.deviceOn) := by
  have hbefore : (s.before k found).equipment = s.foundEquipment k found :=
    (equipment_before k found s).trans (sensed_found k found s).2
  have henabled : (s.before k found).mtqEnabled = s.mtqEnabled :=
    congrArg Equipment.mtqEnabled hbefore
  have hon : (s.before k found).deviceOn = s.deviceOn := congrArg Equipment.deviceOn hbefore
  unfold pass
  rw [shown_publish, shown_generateTickEvents, ← henabled, ← hon]
  exact shown_settled k found (s.before k found)

theorem readings_pass :
    (pass k found s).1.readings =
      ((s.before k found).readings.driven s.mtqEnabled).gated s.deviceOn :=
  congrArg Prod.fst (shown_pass k found s)

theorem spinning_pass :
    (pass k found s).1.spinning = ((s.before k found).spun k found).gated s.deviceOn :=
  congrArg Prod.snd (shown_pass k found s)

theorem activeWheels_before : (s.before k found).activeWheels = s.activeWheels :=
  congrArg Equipment.activeWheels ((equipment_before k found s).trans (sensed_found k found s).2)

/-! ### Momenta and duties -/

theorem hWheel_tickCss : (s.tickCss k found).hWheel = s.hWheel := by
  obtain ⟨sun, heads, h⟩ := tickCss_eq k found s
  rw [h]

theorem hWheel_tickMagnetometer : (s.tickMagnetometer found).hWheel = s.hWheel := by
  obtain ⟨mag, units, h⟩ := tickMagnetometer_eq found s
  rw [h]

theorem hWheel_tickGyroAndGps : (s.tickGyroAndGps k found).hWheel = s.hWheel := by
  unfold tickGyroAndGps
  obtain ⟨sats, timer, start, h⟩ := tickGps_eq k found
    { s with trueGyroBias := found.gyroBias, gyroBias := found.gyroBias }
  rw [h]

theorem hWheel_tickEstimator : (s.tickEstimator found).hWheel = s.hWheel := by
  obtain ⟨q, rate, ekf, timer, h⟩ := tickEstimator_eq found s
  rw [h]

theorem hWheel_sensed : (s.sensed k found).hWheel = (s.syncWheels k).hWheel := by
  have hgate : ((s.gatePower found).starred k found).hWheel = (s.syncWheels k).hWheel := by
    obtain ⟨submode, time, st, css, mag, h⟩ := gatePower_eq found s
    rw [h]
    rfl
  unfold sensed
  rw [hWheel_tickEstimator, hWheel_tickGyroAndGps, hWheel_tickMagnetometer, hWheel_tickCss]
  exact hgate

theorem hWheel_arrived : (s.arrived k found).hWheel = (s.syncWheels k).hWheel := by
  have hmodes : (s.arrived k found).momentum = (s.sensed k found).momentum :=
    (momentum_enterIf _ _ _).trans (momentum_checkModes k found _)
  exact (congrArg (fun p => p.2.2) hmodes).trans (hWheel_sensed k found s)

theorem hWheel_setMode (m : AocsMode) : (s.setMode m).hWheel = s.hWheel :=
  congrArg (fun p => p.2.2) (momentum_setMode s m)

theorem hWheel_tickMode :
    (s.tickMode found).hWheel = found.hWheel ∨ (s.tickMode found).hWheel = s.hWheel := by
  unfold tickMode
  split
  · exact .inl rfl
  · exact .inl rfl
  · split
    · exact .inr (hWheel_setMode s .nominal)
    · exact .inl rfl
  · split
    · exact .inr (hWheel_setMode s .nominal)
    · split
      · exact .inl (hWheel_setMode _ .nominal)
      · exact .inl rfl
  · exact .inl rfl

theorem hWheel_tickSecular (i : Fin 4) :
    (s.tickSecular found).hWheel i = found.hWheel i ∨
      (s.tickSecular found).hWheel i = s.hWheel i := by
  have hslew (c d : Prop) [Decidable c] [Decidable d] :
      (if d then (if c then s.runSlew found else s).endSlew
        else if c then s.runSlew found else s).hWheel = s.hWheel := by
    split
    · refine (hWheel_setMode _ .nominal).trans ?_
      split <;> rfl
    · split <;> rfl
  unfold tickSecular
  split
  · exact .inr rfl
  · exact .inr rfl
  · exact .inr rfl
  · dsimp only
    rw [hslew]
    exact ite_eq_or_eq _ _ _

/-- **The momentum of a wheel is kept, or comes from outside.** -/
theorem hWheel_before (i : Fin 4) :
    (s.before k found).hWheel i = found.hWheel i ∨
      (s.before k found).hWheel i = (s.syncWheels k).hWheel i := by
  rw [← hWheel_arrived k found]
  unfold before ticked
  split
  · exact hWheel_tickSecular found _ i
  · rcases hWheel_tickMode found _ with h | h
    · exact .inl (congrFun h i)
    · exact .inr (congrFun h i)

/-- A state with other duties. -/
def AocsState.withDuty (duty : Vec) (s : AocsState V) : AocsState V := { s with mtqDuty := duty }

section Duty

variable (duty : Vec)

theorem setMode_duty (m : AocsMode) :
    (s.withDuty duty).setMode m = (s.setMode m).withDuty duty := by
  unfold setMode
  rw [apply_ite (withDuty duty)]
  rfl

theorem enterIf_duty (c : Bool) (m : AocsMode) :
    (s.withDuty duty).enterIf c m = (s.enterIf c m).withDuty duty := by
  cases c
  · rfl
  · exact setMode_duty s duty m

theorem gatePower_duty :
    (s.withDuty duty).gatePower found = (s.gatePower found).withDuty duty := by
  unfold gatePower
  rw [apply_ite (withDuty duty)]
  rfl

theorem tickCss_duty :
    (s.withDuty duty).tickCss k found = (s.tickCss k found).withDuty duty := by
  unfold tickCss
  simp only [apply_ite (withDuty duty)]
  rfl

theorem tickMagnetometer_duty :
    (s.withDuty duty).tickMagnetometer found = (s.tickMagnetometer found).withDuty duty := by
  unfold tickMagnetometer
  have hsource : (s.withDuty duty).magSource = s.magSource := rfl
  rw [hsource]
  cases s.magSource with
  | none | some => 
    simp only [apply_ite (withDuty duty)]
    rfl

theorem tickGps_duty :
    (s.withDuty duty).tickGps k found = (s.tickGps k found).withDuty duty := by
  unfold tickGps
  simp only [apply_ite (withDuty duty)]
  rfl

theorem tickEstimator_duty :
    (s.withDuty duty).tickEstimator found = (s.tickEstimator found).withDuty duty := by
  unfold tickEstimator
  simp only [apply_ite (withDuty duty)]
  rfl

theorem tickGyroAndGps_duty :
    (s.withDuty duty).tickGyroAndGps k found = (s.tickGyroAndGps k found).withDuty duty :=
  tickGps_duty k found { s with trueGyroBias := found.gyroBias, gyroBias := found.gyroBias } duty

theorem sensed_duty :
    (s.withDuty duty).sensed k found = (s.sensed k found).withDuty duty := by
  unfold sensed
  rw [gatePower_duty]
  refine Eq.trans ?_ (tickEstimator_duty found _ duty)
  rw [← tickGyroAndGps_duty, ← tickMagnetometer_duty, ← tickCss_duty]
  rfl

theorem checkAutoTransitions_duty :
    (s.withDuty duty).checkAutoTransitions k found =
      (s.checkAutoTransitions k found).withDuty duty := by
  unfold checkAutoTransitions
  rw [apply_ite (withDuty duty)]
  refine if_congr Iff.rfl rfl ?_
  have hmode : (s.withDuty duty).mode = s.mode := rfl
  rw [hmode]
  cases s.mode with
  | off | slew | inertial => rfl
  | safeBoot => exact enterIf_duty _ _ _ _
  | detumble | coarseSun | desat => exact enterIf_duty (s.guardWhile found _) _ _ _
  | nominal | finePoint => exact enterIf_duty (s.guardEclipse found) _ _ _
  | eclipse =>
      rw [apply_ite (withDuty duty)]
      refine if_congr Iff.rfl rfl ?_
      exact setMode_duty _ _ _

theorem checkModes_duty :
    (s.withDuty duty).checkModes k found = (s.checkModes k found).withDuty duty := by
  unfold checkModes
  rw [apply_ite (withDuty duty)]
  exact if_congr Iff.rfl (setMode_duty s duty _) (checkAutoTransitions_duty k found s duty)

/-- **Up to the mode tick, a call does not look at the duties.** -/
theorem arrived_duty :
    (s.withDuty duty).arrived k found = (s.arrived k found).withDuty duty := by
  unfold arrived manageMomentum
  rw [sensed_duty, checkModes_duty]
  exact enterIf_duty _ _ _ _

theorem steers_arrived_duty :
    ((s.withDuty duty).arrived k found).steers = (s.arrived k found).steers := by
  rw [arrived_duty]
  rfl

theorem dutyOf_arrived_duty :
    ((s.withDuty duty).arrived k found).dutyOf found = (s.arrived k found).dutyOf found := by
  rw [arrived_duty]
  rfl

end Duty

/-! ### Outputs -/

/-- The outputs that a power gate may force. -/
inductive Output where
  | wheelSpeed (i : Fin 4) | wheelCurrent (i : Fin 4)
  | stars (u : StUnit) | stValid
  | rate | gyroBias
  | magUnit (m : MagUnit) | mag | magValid
  | cssSun | cssHeads | cssValid
  | duty (a : Axis)
  | gpsFix | gpsNumSats
  deriving DecidableEq

namespace Output

/-- The values of an output. -/
def Value : Output → Type
  | wheelSpeed _ | wheelCurrent _ | duty _ => FloatValue
  | stars _ | gpsFix | gpsNumSats => Nat
  | stValid | magValid | cssValid => Bool
  | rate | gyroBias | magUnit _ | mag | cssSun => Vec
  | cssHeads => Face → FloatValue

def read : (o : Output) → AocsState V → o.Value
  | wheelSpeed i, s => s.rwSpeed i
  | wheelCurrent i, s => s.rwCurrent i
  | stars u, s => (s.tracker u).numStars
  | stValid, s => s.stValid
  | rate, s => s.rate
  | gyroBias, s => s.gyroBias
  | magUnit m, s => s.magUnit m
  | mag, s => s.mag
  | magValid, s => s.magValid
  | cssSun, s => s.cssSun
  | cssHeads, s => s.cssHeads
  | cssValid, s => s.cssValid
  | duty a, s => s.mtqDuty a
  | gpsFix, s => s.gpsFix
  | gpsNumSats, s => s.gpsNumSats

/-- A state with another value of an output.  A speed is written as it is published. -/
def write : (o : Output) → o.Value → AocsState V → AocsState V
  | wheelSpeed i, (v : FloatValue), s =>
      { s with
        rwSpeed := Function.update s.rwSpeed i v
        pubRw := some (Function.update (s.pubRw.getD s.rwSpeed) i v) }
  | wheelCurrent i, (v : FloatValue), s => { s with rwCurrent := Function.update s.rwCurrent i v }
  | stars u, (v : Nat), s =>
      { s with tracker := Function.update s.tracker u { s.tracker u with numStars := v } }
  | stValid, (v : Bool), s => { s with stValid := v }
  | rate, (v : Vec), s => { s with rate := v }
  | gyroBias, (v : Vec), s => { s with gyroBias := v }
  | magUnit m, (v : Vec), s => { s with magUnit := Function.update s.magUnit m v }
  | mag, (v : Vec), s => { s with mag := v }
  | magValid, (v : Bool), s => { s with magValid := v }
  | cssSun, (v : Vec), s => { s with cssSun := v }
  | cssHeads, (v : Face → FloatValue), s => { s with cssHeads := v }
  | cssValid, (v : Bool), s => { s with cssValid := v }
  | duty a, (v : FloatValue), s => { s with mtqDuty := Function.update s.mtqDuty a v }
  | gpsFix, (v : Nat), s => { s with gpsFix := v }
  | gpsNumSats, (v : Nat), s => { s with gpsNumSats := v }

/-- What a gate forces an output to. -/
def null : (o : Output) → o.Value
  | wheelSpeed _ | wheelCurrent _ | duty _ => literal 0
  | stars _ | gpsFix | gpsNumSats => (0 : Nat)
  | stValid | magValid | cssValid => false
  | rate | gyroBias | magUnit _ | mag | cssSun => Vec.zero
  | cssHeads => fun _ => literal 0

end Output

/-- A gate forces an output in a call. -/
def AocsState.forces (s : AocsState V) : Output → Bool
  | .wheelSpeed i | .wheelCurrent i => !s.deviceOn (.wheel i)
  | .stars u => !s.deviceOn (.starTracker u)
  | .stValid => !s.deviceOn (.starTracker s.stSelected)
  | .rate | .gyroBias => s.gyrosOff
  | .magUnit m => !s.deviceOn (.magnetometer m)
  | .mag => s.magsOff
  | .magValid => s.magsOff || !s.deviceOn (.magnetometer s.magSelect)
  | .cssSun | .cssHeads | .cssValid => !s.deviceOn .sunSensor
  | .duty a => !s.deviceOn (.magnetorquer a)
  | .gpsFix | .gpsNumSats => !s.deviceOn .gps

/-- A call leaves an output as it finds it. -/
def AocsState.leaves (s : AocsState V) : Output → Bool
  | .rate => (s.energised found).mode.dark && !found.secular
  | .magUnit m => (s.energised found).leavesUnit m
  | .mag => (s.energised found).leavesField
  | .duty _ => s.mtqEnabled && (found.secular || !(s.arrived k found).steers)
  | _ => false

/-- A call keeps an output, whatever its value. -/
def Keeps (o : Output) : Prop := ∀ v, o.read (pass k found (o.write v s)).1 = v

/-- The readings after a call. -/
def AocsState.nextReadings : Readings where
  rate :=
    if s.gyrosOff then Vec.zero else if found.secular then found.secularRate
    else if (s.energised found).mode.dark then s.rate else found.rate
  gyroBias := if s.gyrosOff then Vec.zero else found.gyroBias
  mag := if s.magsOff then Vec.zero else (s.energised found).fieldMade found
  magUnit m :=
    if s.deviceOn (.magnetometer m) then (s.energised found).unitsMade found m else Vec.zero
  cssSun := if s.deviceOn .sunSensor then s.sunMade k found else Vec.zero
  cssHeads := if s.deviceOn .sunSensor then s.headsMade found else fun _ => literal 0
  gpsNumSats := (s.energised found).satsMade k found
  mtqDuty a :=
    if s.deviceOn (.magnetorquer a) then
      (if s.mtqEnabled then
        if !found.secular && (s.arrived k found).steers then (s.arrived k found).dutyOf found
        else s.mtqDuty
      else Vec.zero) a
    else literal 0

theorem readings_call : (pass k found s).1.readings = s.nextReadings k found := by
  rw [readings_pass, readings_before, readings_sensed]
  rfl

theorem tracker_call (u : StUnit) :
    (pass k found s).1.tracker u = (s.nextTracker found u).gate (s.deviceOn (.starTracker u)) :=
  congrFun (congrArg Equipment.tracker (equipment_pass k found s)) u

/-- **What a gate forces is null after a call.** -/
theorem read_forced {o : Output} (h : s.forces o = true) :
    o.read (pass k found s).1 = o.null := by
  have hreadings := readings_call k found s
  have hspinning := spinning_pass k found s
  have hequipment := equipment_pass k found s
  unfold forces at h
  cases o with
  | wheelSpeed i =>
      refine (congrFun (congrArg Spinning.rwSpeed hspinning) i).trans (if_neg ?_)
      simpa using h
  | wheelCurrent i =>
      refine (congrFun (congrArg Spinning.rwCurrent hspinning) i).trans (if_neg ?_)
      simpa using h
  | stars u =>
      refine (congrArg Tracker.numStars (tracker_call k found s u)).trans ?_
      rw [Bool.eq_false_of_not_eq_true' h]
      rfl
  | stValid =>
      refine (congrArg Equipment.stValid hequipment).trans ?_
      show (_ && (((s.nextTracker found s.stSelected).gate
        (s.deviceOn (.starTracker s.stSelected))).status == .tracking)) = false
      rw [Bool.eq_false_of_not_eq_true' h]
      exact Bool.and_false _
  | rate => exact (congrArg Readings.rate hreadings).trans (if_pos h)
  | gyroBias => exact (congrArg Readings.gyroBias hreadings).trans (if_pos h)
  | magUnit m =>
      refine (congrFun (congrArg Readings.magUnit hreadings) m).trans (if_neg ?_)
      simpa using h
  | mag => exact (congrArg Readings.mag hreadings).trans (if_pos h)
  | magValid =>
      refine (congrArg Equipment.magValid hequipment).trans ?_
      show ((s.energised found).magReads && !s.magsOff &&
        s.deviceOn (.magnetometer s.magSelect)) = false
      cases hoff : s.magsOff with
      | true => simp
      | false =>
          rw [hoff, Bool.false_or] at h
          rw [Bool.eq_false_of_not_eq_true' h, Bool.and_false]
  | cssSun =>
      refine (congrArg Readings.cssSun hreadings).trans (if_neg ?_)
      simpa using h
  | cssHeads =>
      refine (congrArg Readings.cssHeads hreadings).trans (if_neg ?_)
      simpa using h
  | cssValid =>
      refine (congrArg Equipment.cssValid hequipment).trans ?_
      show (s.cssSees k found && s.deviceOn .sunSensor) = false
      rw [Bool.eq_false_of_not_eq_true' h, Bool.and_false]
  | duty a =>
      refine (congrFun (congrArg Readings.mtqDuty hreadings) a).trans (if_neg ?_)
      simpa using h
  | gpsFix =>
      refine (congrArg Equipment.gpsFix hequipment).trans (if_pos ?_)
      show (!(!(s.energised found).mode.dark && s.deviceOn .gps)) = true
      rw [Bool.eq_false_of_not_eq_true' h, Bool.and_false]
      rfl
  | gpsNumSats =>
      refine (congrArg Readings.gpsNumSats hreadings).trans (if_pos ?_)
      show (!(!(s.energised found).mode.dark && s.deviceOn .gps)) = true
      rw [Bool.eq_false_of_not_eq_true' h, Bool.and_false]
      rfl

/-- An output has more than one value. -/
theorem exists_ne_null (o : Output) : ∃ v : o.Value, v ≠ o.null := by
  have hfloat : infinite false ≠ literal 0 := by decide +kernel
  have hvec : (fun _ => infinite false : Vec) ≠ Vec.zero :=
    fun h => hfloat (congrFun h .x)
  cases o with
  | wheelSpeed | wheelCurrent | duty => exact ⟨_, hfloat⟩
  | stars | gpsFix | gpsNumSats => exact ⟨(1 : Nat), Nat.one_ne_zero⟩
  | stValid | magValid | cssValid => exact ⟨true, Bool.noConfusion⟩
  | rate | gyroBias | magUnit | mag | cssSun => exact ⟨_, hvec⟩
  | cssHeads => exact ⟨fun _ => .infinite false, fun h => hfloat (congrFun h .px)⟩

/-- The number of stars that a tracker had does not show. -/
theorem numStars_tick (dt : FloatValue) (blinded : Bool) (stars n : Nat) (t : Tracker) :
    ({ t with numStars := n } : Tracker).tick dt blinded stars = t.tick dt blinded stars := by
  unfold Tracker.tick
  cases t.failed with
  | true => rfl
  | false =>
      cases t.status with
      | off | booting => rfl
      | tracking | blind | failed => cases blinded <;> rfl

/-- A speed that is no number is not sent to the momentum. -/
theorem not_poked_nan (i : Fin 4) (n : Bool) (payload : Nat) :
    ((Output.wheelSpeed i).write (nan n payload) s).poked k i = false := by
  unfold poked
  have hspeed : ((Output.wheelSpeed i).write (nan n payload) s).rwSpeed i =
      nan n payload := Function.update_self ..
  rw [hspeed]
  cases literal 1 1000 <;> exact Bool.and_false _

/-- A wheel shows the speed of its momentum, whatever it showed. -/
theorem not_keeps_wheelSpeed {i : Fin 4} (hon : s.deviceOn (.wheel i) = true) :
    ¬ Keeps k found s (.wheelSpeed i) := by
  intro hkeeps
  have hkept (payload : Nat) : nan false payload = k.speed (found.hWheel i) ∨
      nan false payload = k.speed (s.hWheel i) := by
    generalize hs' : (Output.wheelSpeed i).write (nan false payload) s = s'
    have hread : (pass k found s').1.rwSpeed i = nan false payload := by
      rw [← hs']
      exact hkeeps _
    have hmade : (pass k found s').1.rwSpeed i = k.speed ((s'.before k found).hWheel i) := by
      refine (congrFun (congrArg Spinning.rwSpeed (spinning_pass k found s')) i).trans (if_pos ?_)
      rw [← hs']
      exact hon
    have hwheel : (s'.syncWheels k).hWheel i = s.hWheel i := by
      refine (if_neg ?_).trans ?_
      · rw [← hs', not_poked_nan]
        exact Bool.false_ne_true
      · rw [← hs']
        rfl
    rw [← hread, hmade, ← hwheel]
    exact (hWheel_before k found s' i).imp (congrArg k.speed) (congrArg k.speed)
  have hne (a b : Nat) (h : a ≠ b) : nan false a ≠ nan false b :=
    fun heq => h (nan.inj heq).2
  -- Three values cannot all be one of two.
  rcases hkept 0 with h0 | h0
  · rcases hkept 1 with h1 | h1
    · exact hne 0 1 (by decide) (h0.trans h1.symm)
    · rcases hkept 2 with h2 | h2
      · exact hne 0 2 (by decide) (h0.trans h2.symm)
      · exact hne 1 2 (by decide) (h1.trans h2.symm)
  · rcases hkept 1 with h1 | h1
    · rcases hkept 2 with h2 | h2
      · exact hne 1 2 (by decide) (h1.trans h2.symm)
      · exact hne 0 2 (by decide) (h0.trans h2.symm)
    · exact hne 0 1 (by decide) (h0.trans h1.symm)

theorem rwCurrent_call (i : Fin 4) :
    (pass k found s).1.rwCurrent i =
      if s.deviceOn (.wheel i) then if s.activeWheels i then found.rwCurrent i else literal 0
      else literal 0 := by
  rw [← activeWheels_before k found s]
  exact congrFun (congrArg Spinning.rwCurrent (spinning_pass k found s)) i

/-- **Whatever an output was, a call leaves it or makes of it what it makes anyway.** -/
theorem read_written {o : Output} (hfree : s.forces o = false) (hspeed : ∀ i, o ≠ .wheelSpeed i)
    (v : o.Value) :
    o.read (pass k found (o.write v s)).1 =
      if s.leaves k found o then v else o.read (pass k found s).1 := by
  -- Neither the equipment nor most of the readings are made from what they were.
  have hmade (hleaves : s.leaves k found o = false)
      (hsame : o.read (pass k found (o.write v s)).1 = o.read (pass k found s).1) :
      o.read (pass k found (o.write v s)).1 =
        if s.leaves k found o then v else o.read (pass k found s).1 := by
    rw [hleaves]
    exact hsame
  have hequipment := equipment_pass k found s
  have hreadings := readings_call k found s
  have hequipment' := equipment_pass k found (o.write v s)
  have hreadings' := readings_call k found (o.write v s)
  cases o with
  | wheelSpeed i => exact absurd rfl (hspeed i)
  | wheelCurrent i =>
      exact hmade rfl ((rwCurrent_call k found _ i).trans (rwCurrent_call k found s i).symm)
  | stars u =>
      have htracker : ((Output.stars u).write v s).nextTracker found u = s.nextTracker found u := by
        refine Eq.trans ?_ (numStars_tick found.dt (found.blinded u)
          (randint 8 20 (found.stars u)) v (s.tracker u))
        unfold nextTracker
        exact congrArg (Tracker.tick _ _ _) (Function.update_self ..)
      refine hmade rfl ((congrArg Tracker.numStars (tracker_call k found _ u)).trans ?_)
      rw [htracker]
      exact (congrArg Tracker.numStars (tracker_call k found s u)).symm
  | stValid =>
      exact hmade rfl ((congrArg Equipment.stValid hequipment').trans
        (congrArg Equipment.stValid hequipment).symm)
  | magValid =>
      exact hmade rfl ((congrArg Equipment.magValid hequipment').trans
        (congrArg Equipment.magValid hequipment).symm)
  | cssValid =>
      exact hmade rfl ((congrArg Equipment.cssValid hequipment').trans
        (congrArg Equipment.cssValid hequipment).symm)
  | gpsFix =>
      exact hmade rfl ((congrArg Equipment.gpsFix hequipment').trans
        (congrArg Equipment.gpsFix hequipment).symm)
  | gyroBias =>
      exact hmade rfl ((congrArg Readings.gyroBias hreadings').trans
        (congrArg Readings.gyroBias hreadings).symm)
  | cssSun =>
      exact hmade rfl ((congrArg Readings.cssSun hreadings').trans
        (congrArg Readings.cssSun hreadings).symm)
  | cssHeads =>
      exact hmade rfl ((congrArg Readings.cssHeads hreadings').trans
        (congrArg Readings.cssHeads hreadings).symm)
  | gpsNumSats =>
      exact hmade rfl ((congrArg Readings.gpsNumSats hreadings').trans
        (congrArg Readings.gpsNumSats hreadings).symm)
  | rate =>
      show (pass k found (Output.rate.write v s)).1.readings.rate =
        if s.leaves k found .rate then v else (pass k found s).1.readings.rate
      have hon : s.gyrosOff = false := hfree
      have hon' : (Output.rate.write v s).gyrosOff = false := hfree
      rw [readings_call, readings_call]
      dsimp only [nextReadings]
      rw [hon, hon']
      show (if found.secular then _ else if (s.energised found).mode.dark then v else _) =
        if (s.energised found).mode.dark && !found.secular then v else _
      cases found.secular with
      | true => rw [Bool.not_true, Bool.and_false]; rfl
      | false => cases (s.energised found).mode.dark <;> rfl
  | magUnit m =>
      show (pass k found ((Output.magUnit m).write v s)).1.readings.magUnit m =
        if s.leaves k found (.magUnit m) then v else (pass k found s).1.readings.magUnit m
      have hon : s.deviceOn (.magnetometer m) = true := by simpa [forces] using hfree
      have hon' : ((Output.magUnit m).write v s).deviceOn (.magnetometer m) = true := hon
      rw [readings_call, readings_call]
      dsimp only [nextReadings]
      rw [hon, hon']
      show (if (s.energised found).leavesUnit m then Function.update s.magUnit m v m else _) =
        if (s.energised found).leavesUnit m then v else
          if (s.energised found).leavesUnit m then _ else _
      cases (s.energised found).leavesUnit m with
      | true => exact Function.update_self ..
      | false => rfl
  | mag =>
      show (pass k found (Output.mag.write v s)).1.readings.mag =
        if s.leaves k found .mag then v else (pass k found s).1.readings.mag
      have hon : s.magsOff = false := hfree
      have hon' : (Output.mag.write v s).magsOff = false := hfree
      rw [readings_call, readings_call]
      dsimp only [nextReadings]
      rw [hon, hon']
      show (if (s.energised found).leavesField then v else _) =
        if (s.energised found).leavesField then v else
          if (s.energised found).leavesField then _ else _
      cases hleft : (s.energised found).leavesField with
      | true => rfl
      | false =>
          show (if (s.energised found).mode.dark then _ else
              (s.energised found).magSource.elim v _) =
            if (s.energised found).mode.dark then _ else (s.energised found).magSource.elim _ _
          cases hdark : (s.energised found).mode.dark with
          | true => rfl
          | false =>
              cases hsource : (s.energised found).magSource with
              | none =>
                  unfold leavesField at hleft
                  simp [hdark, hsource] at hleft
              | some m => rfl
  | duty a =>
      show (pass k found ((Output.duty a).write v s)).1.readings.mtqDuty a =
        if s.leaves k found (.duty a) then v else (pass k found s).1.readings.mtqDuty a
      have hon : s.deviceOn (.magnetorquer a) = true := by simpa [forces] using hfree
      have hwrite : (Output.duty a).write v s = s.withDuty (Function.update s.mtqDuty a v) := rfl
      rw [readings_call, readings_call, hwrite]
      dsimp only [nextReadings]
      rw [steers_arrived_duty, dutyOf_arrived_duty]
      have hon' : (s.withDuty (Function.update s.mtqDuty a v)).deviceOn (.magnetorquer a) = true :=
        hon
      rw [hon, hon']
      show (if s.mtqEnabled then
          if !found.secular && (s.arrived k found).steers then _ else Function.update s.mtqDuty a v
          else Vec.zero : Vec) a =
        if s.mtqEnabled && (found.secular || !(s.arrived k found).steers) then v else
          (if s.mtqEnabled then if !found.secular && (s.arrived k found).steers then _ else _
          else Vec.zero : Vec) a
      cases s.mtqEnabled with
      | false => rfl
      | true =>
          cases found.secular with
          | true => exact Function.update_self ..
          | false =>
              cases (s.arrived k found).steers with
              | true => rfl
              | false => exact Function.update_self ..

/-- **A call keeps what it leaves, and no other output that no gate forces.** -/
theorem keeps_iff {o : Output} (hfree : s.forces o = false) :
    Keeps k found s o ↔ s.leaves k found o = true := by
  by_cases hspeed : ∃ i, o = .wheelSpeed i
  · obtain ⟨i, rfl⟩ := hspeed
    refine iff_of_false (not_keeps_wheelSpeed k found s ?_) Bool.false_ne_true
    simpa [forces] using hfree
  · have hwritten := read_written k found s hfree fun i h => hspeed ⟨i, h⟩
    constructor
    · intro hkeeps
      by_contra hmade
      -- What is made anew would be every value.
      have hall (v : o.Value) : v = o.read (pass k found s).1 :=
        (hkeeps v).symm.trans ((hwritten v).trans (if_neg hmade))
      obtain ⟨v, hv⟩ := exists_ne_null o
      exact hv ((hall v).trans (hall o.null).symm)
    · intro hleft v
      exact (hwritten v).trans (if_pos hleft)

end Aocs
