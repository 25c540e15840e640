import MissionSim.Objects
import Mathlib.Data.Fintype.Basic

/-!
# The attitude and orbit control subsystem

Ten modes, four reaction wheels, two star trackers, two magnetometers, a sun sensor with six heads,
three magnetorquers and a satellite navigation receiver.  A tick reads the sensors, changes the mode
where a guard asks for it, runs the mode it arrives in, keeps the wheels, and then forces down
whatever equipment is switched off.

The dynamics, the estimator, the control laws and all noise are left out: a tick takes from outside
what they make of rates, momenta, duties and errors, and whether a slew is complete.  So are star
tracker blinding (the sun is in a cone or it is not), the bits of the readiness mask, the other
events, and ticks that raise on a slew target which is no quaternion.
-/

namespace Aocs

open Binary32 Python

/-! ### Modes and equipment -/

/-- The modes, in the order of their numbers. -/
inductive AocsMode where
  | off | safeBoot | detumble | coarseSun | nominal | finePoint | slew | desat | eclipse | inertial
  deriving DecidableEq, Repr

namespace AocsMode

def all : List AocsMode :=
  [off, safeBoot, detumble, coarseSun, nominal, finePoint, slew, desat, eclipse, inertial]

/-- The mode of a number, if `0 <= mode <= 9`. -/
def ofInt (n : Int) : Option AocsMode := if 0 ≤ n then all[n.toNat]? else none

/-- `_MODE_NAMES`. -/
def name : AocsMode → String
  | off => "OFF" | safeBoot => "SAFE_BOOT" | detumble => "DETUMBLE" | coarseSun => "COARSE_SUN"
  | nominal => "NOMINAL" | finePoint => "FINE_POINT" | slew => "SLEW" | desat => "DESAT"
  | eclipse => "ECLIPSE" | inertial => "INERTIAL"

/-- `_MIN_DWELL`. -/
def minDwell : AocsMode → FloatValue
  | off | slew => literal 0
  | safeBoot | eclipse => literal 5
  | coarseSun => literal 20
  | _ => literal 10

/-- The sensor suite is not energised. -/
def dark : AocsMode → Bool
  | off | safeBoot => true
  | _ => false

end AocsMode

/-- The status of a star tracker. -/
inductive StStatus where
  | off | booting | tracking | blind | failed
  deriving DecidableEq, Repr

/-- The star trackers. -/
inductive StUnit where
  | st1 | st2
  deriving DecidableEq, Repr

def StUnit.number : StUnit → Int
  | .st1 => 1
  | .st2 => 2

/-- The tracker of a number, if `unit in (1, 2)`. -/
def StUnit.ofInt (n : Int) : Option StUnit :=
  if n = 1 then some .st1 else if n = 2 then some .st2 else none

/-- The magnetometers. -/
inductive MagUnit where
  | A | B
  deriving DecidableEq, Repr

/-- The body axes. -/
inductive Axis where
  | x | y | z
  deriving DecidableEq, Repr

/-- The faces that carry a head of the sun sensor. -/
inductive Face where
  | px | mx | py | my | pz | mz
  deriving DecidableEq, Repr

/-- The start of the navigation receiver. -/
inductive StartMode where
  | cold | warm | hot
  deriving DecidableEq, Repr

/-- The equipment of `device_states`. -/
inductive Device where
  | wheel (i : Fin 4) | starTracker (u : StUnit) | gyro (i : Fin 3) | magnetometer (m : MagUnit)
  | magnetorquer (a : Axis) | sunSensor | gps
  deriving DecidableEq

/-- The equipment of an identifier. -/
def Device.ofId : Nat → Option Device
  | 0x0200 => some (.wheel 0) | 0x0201 => some (.wheel 1)
  | 0x0202 => some (.wheel 2) | 0x0203 => some (.wheel 3)
  | 0x0204 => some (.starTracker .st1) | 0x0205 => some (.starTracker .st2)
  | 0x0206 => some (.gyro 0) | 0x0207 => some (.gyro 1) | 0x0208 => some (.gyro 2)
  | 0x0209 => some (.magnetometer .A) | 0x020A => some (.magnetometer .B)
  | 0x020B => some (.magnetorquer .x) | 0x020C => some (.magnetorquer .y)
  | 0x020D => some (.magnetorquer .z)
  | 0x020E => some .sunSensor | 0x020F => some .gps
  | _ => none

/-- None of the gyros is on. -/
def Device.gyrosOff (on : Device → Bool) : Bool :=
  !(on (.gyro 0) || on (.gyro 1) || on (.gyro 2))

/-! ### State -/

/-- Three components. -/
abbrev Vec := Axis → FloatValue

def Vec.zero : Vec := fun _ => literal 0

/-- A quaternion as a command gives it: the default, or a list of objects. -/
inductive Quaternion (V : Type) where
  | identity
  | items (xs : List V)
  deriving DecidableEq

/-- What is modelled of the estimator; its covariance is left out. -/
structure Estimator where
  q : List FloatValue := [literal 0, literal 0, literal 0, literal 1]
  b : Vec := Vec.zero
  converged : Bool := false
  initialised : Bool := false

/-- A star tracker. -/
structure Tracker where
  status : StStatus := .off
  numStars : Nat := 0
  bootTimer : FloatValue := literal 0
  failed : Bool := false
  deriving DecidableEq

/-- What the model reads of the configuration, and its square roots. -/
structure AocsConfig where
  rwMaxSpeed : FloatValue := literal 5500
  rwDesatSpeed : FloatValue := literal 200
  rwInertia : FloatValue := literal 52 1000000
  secularSpeedThreshold : FloatValue := literal 60
  gpsColdTtffS : FloatValue := literal 60
  gpsWarmTtffS : FloatValue := literal 30
  gpsHotTtffS : FloatValue := literal 5
  /-- `math.sqrt` of the sum of the squares. -/
  norm : List FloatValue → FloatValue
  /-- `quat_normalize(q)`. -/
  normalise : List FloatValue → List FloatValue

/-- `_RPM2RAD`. -/
def rpm2rad : FloatValue := literal 10471975511965977 100000000000000000

/-- The trackers at power-up. -/
def initialTracker : StUnit → Tracker
  | .st1 => { numStars := 12 }
  | .st2 => {}

/-- The magnetic field at power-up. -/
def initialField : Vec
  | .x => literal 25000
  | .y => literal 10000
  | .z => (literal 40000).neg

/-- The sun vector at power-up. -/
def initialSun : Vec
  | .z => literal 1
  | _ => literal 0

/-- What is modelled of `AOCSState`, and of the attributes of the model beside it. -/
structure AocsState (V : Type) where
  mode : AocsMode := .off
  submode : Int := 0
  timeInMode : FloatValue := literal 0
  guardTimer : FloatValue := literal 0
  ctrlInteg : Vec := Vec.zero
  q : List FloatValue := [literal 0, literal 0, literal 0, literal 1]
  qTrue : List FloatValue := [literal 0, literal 0, literal 0, literal 1]
  rate : Vec := Vec.zero
  attError : FloatValue := literal 0
  rwSpeed : Fin 4 → FloatValue := fun _ => literal 1200
  rwCurrent : Fin 4 → FloatValue := fun _ => literal 1 10
  rwEnabled : Fin 4 → Bool := fun _ => true
  activeWheels : Fin 4 → Bool := fun _ => true
  hWheel : Fin 4 → FloatValue := fun _ => literal 0
  mag : Vec := initialField
  magUnit : MagUnit → Vec := fun _ => Vec.zero
  magValid : Bool := true
  magSelect : MagUnit := .A
  magUnitFailed : MagUnit → Bool := fun _ => false
  magFailed : Bool := false
  tracker : StUnit → Tracker := initialTracker
  stSelected : StUnit := .st1
  stValid : Bool := true
  cssSun : Vec := initialSun
  cssValid : Bool := true
  cssHeads : Face → FloatValue := fun _ => literal 0
  cssHeadFailed : Face → Bool := fun _ => false
  cssFailed : Bool := false
  mtqDuty : Vec := Vec.zero
  mtqEnabled : Bool := true
  mtqFailed : Axis → Bool := fun _ => false
  totalMomentum : FloatValue := literal 0
  gyroBias : Vec := Vec.zero
  trueGyroBias : Vec := Vec.zero
  gpsFix : Nat := 3
  gpsNumSats : Nat := 8
  gpsStartMode : StartMode := .cold
  gpsTtffTimer : FloatValue := literal 0
  tleValid : Bool := false
  tleLastUploadTime : FloatValue := literal 0
  tleValidityTimer : FloatValue := literal 0
  tleLine1 : Option V := none
  tleLine2 : Option V := none
  pointingFrame : Nat := 1
  targetQCmd : List FloatValue := [literal 0, literal 0, literal 0, literal 1]
  targetGeo : List FloatValue := [literal 0, literal 0, literal 0]
  targetGeoValid : Bool := false
  slewTargetQ : Option (Quaternion V) := none
  slewStartQ : Option (List FloatValue) := none
  slewElapsed : Option FloatValue := none
  slewRateDps : FloatValue := literal 1 2
  ctrlOmegaN : FloatValue := literal 0
  ctrlZeta : FloatValue := literal 0
  deadbandDeg : FloatValue := literal 5 1000
  attErrorThresholdDeg : FloatValue := literal 5
  emergencyRateThreshold : FloatValue := literal 2
  momMgmtEnable : Bool := false
  momMgmtEntryPct : FloatValue := literal 70
  momMgmtExitPct : FloatValue := literal 20
  fineReadyMask : Nat := 0x7F
  fineConvTimer : FloatValue := literal 0
  ekf : Estimator := {}
  prevInEclipse : Bool := false
  prevGpsFix : Nat := 0
  pubRw : Option (Fin 4 → FloatValue) := none
  deviceOn : Device → Bool := fun _ => true

variable {V : Type}

/-- `_set_mode(new_mode)`. -/
def AocsState.setMode (newMode : AocsMode) (s : AocsState V) : AocsState V :=
  if s.mode = newMode then s
  else { s with
    mode := newMode, timeInMode := literal 0, guardTimer := literal 0, submode := 0
    ctrlInteg := Vec.zero }

/-- `sum(1 for w in s.active_wheels if w)`. -/
def AocsState.activeCount (s : AocsState V) : Nat :=
  ((List.finRange 4).filter fun i => s.activeWheels i).length

/-- `set_device_state(device_id, on_off)`. -/
def AocsState.setDeviceState (id : Nat) (on : Bool) (s : AocsState V) : AocsState V :=
  match Device.ofId id with
  | some d => { s with deviceOn := Function.update s.deviceOn d on }
  | none => s

/-! ### What a tick takes from outside -/

/-- What the dynamics, the estimator and the noise make of a call of `tick`. -/
structure AocsFound where
  /-- The sun is in the exclusion cone of a tracker. -/
  sunInCone : StUnit → Bool := fun _ => false
  /-- What `rng.randint` draws, from the lower bound on. -/
  stars : StUnit → Nat := fun _ => 0
  sats : Nat := 0
  /-- The illumination of a head with its noise. -/
  illumination : Face → FloatValue := fun _ => literal 0
  field : MagUnit → Vec := fun _ => Vec.zero
  gyroBias : Vec := Vec.zero
  ekf : Estimator := {}
  q : List FloatValue := [literal 0, literal 0, literal 0, literal 1]
  rate : Vec := Vec.zero
  /-- The knowledge error is below the limit of convergence. -/
  converging : Bool := false
  submode : Int := 0
  qTrue : List FloatValue := [literal 0, literal 0, literal 0, literal 1]
  hWheel : Fin 4 → FloatValue := fun _ => literal 0
  duty : Vec := Vec.zero
  ctrlInteg : Vec := Vec.zero
  attError : FloatValue := literal 0
  /-- The slew has arrived and settled, or timed out; in secular mode, it has arrived. -/
  slewDone : Bool := false
  /-- The rates that secular mode shows. -/
  secularRate : Vec := Vec.zero
  rwCurrent : Fin 4 → FloatValue := fun _ => literal 0
  totalMomentum : FloatValue := literal 0
  fineReadyMask : Nat := 0

/-- A call of `tick` that runs the chain once. -/
structure AocsPass extends AocsFound where
  dt : FloatValue
  /-- The parameter 0x0117. -/
  line : Bool := true
  eclipse : Bool := false
  secular : Bool := false

/-- `rng.randint(lo, hi)`. -/
def randint (lo hi draw : Nat) : Nat := lo + draw % (hi - lo + 1)

variable (k : AocsConfig) (found : AocsPass)

/-! ### Before the sensors -/

/-- The power gate: with its line off, a model that is not off collapses. -/
def AocsState.gatePower (s : AocsState V) : AocsState V :=
  if !found.line && s.mode != .off then
    { s with
      mode := .off, submode := 0, timeInMode := literal 0
      stValid := false, cssValid := false, magValid := false }
  else s

/-- The speed that a momentum stands for. -/
def AocsConfig.speed (h : FloatValue) : FloatValue := (h.div k.rwInertia).div rpm2rad

/-- The momentum of a speed. -/
def AocsConfig.momentum (speed : FloatValue) : FloatValue := (k.rwInertia.mul speed).mul rpm2rad

/-- A speed was written since it was published, and is not the one of the momentum. -/
def AocsState.poked (s : AocsState V) (i : Fin 4) : Bool :=
  (s.pubRw.elim true fun last => (literal 1 1000000).lt ((s.rwSpeed i).sub (last i)).abs) &&
    (literal 1 1000).lt ((s.rwSpeed i).sub (k.speed (s.hWheel i))).abs

/-- Speeds written from outside go to the momenta. -/
def AocsState.syncWheels (s : AocsState V) : AocsState V :=
  { s with hWheel := fun i => if s.poked k i then k.momentum (s.rwSpeed i) else s.hWheel i }

/-! ### Sensors -/

/-- A tracker in `_tick_star_trackers`. -/
def Tracker.tick (dt : FloatValue) (blinded : Bool) (stars : Nat) (t : Tracker) : Tracker :=
  if t.failed then { t with status := .failed, numStars := 0 }
  else match t.status with
    | .off => { t with numStars := 0 }
    | .booting =>
        let timer := t.bootTimer.add dt
        if (literal 60).le timer then
          { t with status := .tracking, numStars := 0, bootTimer := literal 0 }
        else { t with numStars := 0, bootTimer := timer }
    | _ =>
        if blinded then { t with status := .blind, numStars := 0 }
        else { t with status := .tracking, numStars := stars }

/-- A tracker is blinded: in sunlight, with the sun in its cone. -/
def AocsPass.blinded (u : StUnit) : Bool := !found.eclipse && found.sunInCone u

/-- `_tick_star_trackers(s, dt, orbit_state)`. -/
def AocsState.tickStarTrackers (s : AocsState V) : AocsState V :=
  let tracker := fun u =>
    (s.tracker u).tick found.dt (found.blinded u) (randint 8 20 (found.stars u))
  { s with tracker := tracker, stValid := (tracker s.stSelected).status == .tracking }

/-- What the heads of the sun sensor read. -/
def AocsState.readHeads (s : AocsState V) (f : Face) : FloatValue :=
  if s.cssHeadFailed f then literal 0 else maxFloat (literal 0) (found.illumination f)

/-- The sun vector of the heads. -/
def composite (heads : Face → FloatValue) : Vec
  | .x => (heads .px).sub (heads .mx)
  | .y => (heads .py).sub (heads .my)
  | .z => (heads .pz).sub (heads .mz)

/-- The length of a vector. -/
def AocsConfig.length (v : Vec) : FloatValue := k.norm [v .x, v .y, v .z]

/-- `_tick_css(s, orbit_state)`. -/
def AocsState.tickCss (s : AocsState V) : AocsState V :=
  if s.cssFailed || found.eclipse then
    { s with cssValid := false, cssSun := Vec.zero, cssHeads := fun _ => literal 0 }
  else
    let heads := s.readHeads found
    let sun := composite heads
    let mag := k.length sun
    if (literal 1 100).lt mag then
      { s with cssHeads := heads, cssSun := fun a => (sun a).div mag, cssValid := true }
    else { s with cssHeads := heads, cssSun := sun, cssValid := false }

/-- The magnetometer that feeds the control loop: the selected one, else one that works. -/
def AocsState.magSource (s : AocsState V) : Option MagUnit :=
  if !s.magUnitFailed s.magSelect then some s.magSelect
  else if !s.magUnitFailed .A then some .A
  else if !s.magUnitFailed .B then some .B
  else none

/-- `_tick_magnetometer(s, orbit_state)`. -/
def AocsState.tickMagnetometer (s : AocsState V) : AocsState V :=
  if s.magFailed then { s with magValid := false }
  else if s.mode.dark then
    { s with magValid := false, mag := Vec.zero, magUnit := fun _ => Vec.zero }
  else
    let units := fun m => if s.magUnitFailed m then s.magUnit m else found.field m
    match s.magSource with
    | some m => { s with magUnit := units, mag := units m, magValid := true }
    | none => { s with magUnit := units, magValid := false }

/-- The time to the first fix. -/
def AocsConfig.ttff : StartMode → FloatValue
  | .cold => k.gpsColdTtffS
  | .warm => k.gpsWarmTtffS
  | .hot => k.gpsHotTtffS

/-- The receiver is powered. -/
def AocsState.gpsPowered (s : AocsState V) : Bool := !s.mode.dark && s.deviceOn .gps

/-- The receiver still searches for satellites. -/
def AocsState.searching (s : AocsState V) : Bool :=
  (s.gpsTtffTimer.add found.dt).lt ((k.ttff s.gpsStartMode).mul (literal 3 10))

/-- The receiver in `_tick_gyro_and_gps`. -/
def AocsState.tickGps (s : AocsState V) : AocsState V :=
  if !s.gpsPowered then
    if s.mode = .off || !s.deviceOn .gps then
      { s with gpsFix := 0, gpsNumSats := 0, gpsTtffTimer := literal 0, gpsStartMode := .cold }
    else { s with gpsFix := 0, gpsNumSats := 0 }
  else
    let timer := s.gpsTtffTimer.add found.dt
    let target := k.ttff s.gpsStartMode
    if s.searching k found then
      let sats := randint 0 3 found.sats
      { s with gpsTtffTimer := timer, gpsNumSats := sats, gpsFix := if sats < 3 then 0 else 1 }
    else if timer.lt (target.mul (literal 8 10)) then
      let sats := randint 4 8 found.sats
      { s with gpsTtffTimer := timer, gpsNumSats := sats, gpsFix := if 4 ≤ sats then 2 else 1 }
    else if target.le timer then
      { s with gpsTtffTimer := timer, gpsNumSats := randint 6 12 found.sats, gpsFix := 3 }
    else { s with gpsTtffTimer := timer, gpsNumSats := randint 4 8 found.sats, gpsFix := 2 }

/-- `_tick_gyro_and_gps(s, dt, orbit_state)`. -/
def AocsState.tickGyroAndGps (s : AocsState V) : AocsState V :=
  { s with trueGyroBias := found.gyroBias, gyroBias := found.gyroBias }.tickGps k found

/-- `_tick_estimator(s, dt, secular)`. -/
def AocsState.tickEstimator (s : AocsState V) : AocsState V :=
  if s.mode.dark then s
  else { s with
    q := found.q
    rate := found.rate
    ekf := found.ekf
    fineConvTimer := if found.converging then s.fineConvTimer.add found.dt else literal 0 }

/-- The state with the sensors read. -/
def AocsState.sensed (s : AocsState V) : AocsState V :=
  ((((((s.gatePower found).syncWheels k).tickStarTrackers found).tickCss k found).tickMagnetometer
    found).tickGyroAndGps k found).tickEstimator found

/-! ### Changes of mode -/

/-- The condition of `_check_emergency`. -/
def AocsState.emergency (s : AocsState V) : Bool :=
  s.emergencyRateThreshold.lt (k.length s.rate) && !s.mode.dark && s.mode != .detumble

/-- A guard timer while its condition holds. -/
def AocsState.guardWhile (c : Bool) (s : AocsState V) : AocsState V :=
  { s with guardTimer := if c then s.guardTimer.add found.dt else literal 0 }

/-- The guard timer in sunlight and in eclipse, restarted where the eclipse begins. -/
def AocsState.guardEclipse (s : AocsState V) : AocsState V :=
  let start := if found.eclipse && !s.prevInEclipse then literal 0 else s.guardTimer
  { s with guardTimer := if found.eclipse then start.add found.dt else start }

/-- A mode is entered where a condition holds. -/
def AocsState.enterIf (c : Bool) (m : AocsMode) (s : AocsState V) : AocsState V :=
  if c then s.setMode m else s

/-- The wheels have reached the target of a desaturation. -/
def AocsState.wheelsSlow (s : AocsState V) : Bool :=
  (List.finRange 4).all fun i =>
    !s.activeWheels i || (s.rwSpeed i).abs.le (k.rwDesatSpeed.add (literal 100))

/-- `_check_auto_transitions(s, dt, orbit_state)`. -/
def AocsState.checkAutoTransitions (s : AocsState V) : AocsState V :=
  if s.timeInMode.lt s.mode.minDwell then s
  else match s.mode with
    | .safeBoot => s.enterIf ((literal 30).le s.timeInMode) .detumble
    | .detumble =>
        let s := s.guardWhile found ((k.length s.rate).lt (literal 1 2))
        s.enterIf ((literal 30).le s.guardTimer) .coarseSun
    | .coarseSun =>
        let s := s.guardWhile found (s.cssValid && s.attError.lt (literal 10))
        s.enterIf ((literal 60).le s.guardTimer && s.stValid) .nominal
    | .nominal | .finePoint =>
        let s := s.guardEclipse found
        s.enterIf (found.eclipse && (literal 5).le s.guardTimer) .eclipse
    | .eclipse =>
        if found.eclipse then s else s.setMode (if s.stValid then .nominal else .coarseSun)
    | .desat =>
        let s := s.guardWhile found (s.wheelsSlow k)
        s.enterIf ((literal 10).le s.guardTimer) .nominal
    | _ => s

/-- The emergency check, and the transitions where there is none. -/
def AocsState.checkModes (s : AocsState V) : AocsState V :=
  if s.emergency k then s.setMode .detumble else s.checkAutoTransitions k found

/-- `_h_env_frac(s)`. -/
def AocsState.hEnvFrac (s : AocsState V) : FloatValue :=
  let hMax := (k.rwInertia.mul k.rwMaxSpeed).mul rpm2rad
  if hMax.le (literal 0) then literal 0
  else
    let most := maxFloat (maxFloat (maxFloat (s.hWheel 0).abs (s.hWheel 1).abs) (s.hWheel 2).abs)
      (s.hWheel 3).abs
    (most.div hMax).mul (literal 100)

/-- Momentum management asks for a desaturation. -/
def AocsState.saturated (s : AocsState V) : Bool :=
  s.momMgmtEnable && s.mode ∈ [AocsMode.nominal, .finePoint, .inertial, .eclipse] &&
    s.momMgmtEntryPct.le (s.hEnvFrac k)

/-- Autonomous momentum management. -/
def AocsState.manageMomentum (s : AocsState V) : AocsState V := s.enterIf (s.saturated k) .desat

/-- The state in which the mode tick starts, but for its time. -/
def AocsState.arrived (s : AocsState V) : AocsState V :=
  ((s.sensed k found).checkModes k found).manageMomentum k

/-! ### The mode tick -/

/-- The duty of a magnetorquer for what the control asks. -/
def AocsState.dutyOf (s : AocsState V) (a : Axis) : FloatValue :=
  if !s.mtqEnabled || s.mtqFailed a || !s.deviceOn (.magnetorquer a) then literal 0
  else found.duty a

/-- Dynamics without control. -/
def AocsState.coast (s : AocsState V) : AocsState V :=
  { s with hWheel := found.hWheel, qTrue := found.qTrue }

/-- Dynamics with magnetorquers. -/
def AocsState.controlled (s : AocsState V) : AocsState V :=
  { s.coast found with
    mtqDuty := s.dutyOf found, ctrlInteg := found.ctrlInteg, attError := found.attError }

/-- A slew ends. -/
def AocsState.endSlew (s : AocsState V) : AocsState V :=
  { s.setMode .nominal with slewTargetQ := none, slewStartQ := none, slewElapsed := none }

/-- The slew has its start, and its time runs. -/
def AocsState.runSlew (s : AocsState V) : AocsState V :=
  { s with
    slewStartQ := some (s.slewStartQ.getD s.qTrue)
    slewElapsed := some ((s.slewElapsed.getD (literal 0)).add found.dt) }

/-- The mode tick with full dynamics. -/
def AocsState.tickMode (s : AocsState V) : AocsState V :=
  match s.mode with
  | .off => { s.coast found with attError := literal 180 }
  | .safeBoot => { s.coast found with attError := found.attError, submode := found.submode }
  | .finePoint =>
      if !s.stValid || s.activeCount < 4 then s.setMode .nominal else s.controlled found
  | .slew =>
      if s.slewTargetQ.isNone then s.setMode .nominal
      else
        let s := (s.runSlew found).controlled found
        if found.slewDone then s.endSlew else s
  | _ => s.controlled found

/-- `_tick_secular(s, dt, mode)`. -/
def AocsState.tickSecular (s : AocsState V) : AocsState V :=
  match s.mode with
  | .off => { s with attError := literal 180 }
  | .safeBoot => { s with attError := found.attError }
  | .detumble => { s with attError := found.attError }
  | _ =>
      let slewing := s.mode = .slew && s.slewTargetQ.isSome
      let s := if slewing then s.runSlew found else s
      let s := if slewing && found.slewDone then s.endSlew else s
      { s with
        qTrue := found.qTrue
        hWheel := fun i => if s.activeWheels i then found.hWheel i else s.hWheel i
        ekf := found.ekf
        attError := found.attError }

/-- The mode tick, with the time in the mode before it. -/
def AocsState.ticked (s : AocsState V) : AocsState V :=
  let s := { s with timeInMode := s.timeInMode.add found.dt }
  if found.secular then { s.tickSecular found with rate := found.secularRate } else s.tickMode found

/-! ### After the mode tick -/

/-- `_tick_wheels(s, dt)`. -/
def AocsState.tickWheels (s : AocsState V) : AocsState V :=
  { s with
    rwSpeed := fun i => k.speed (s.hWheel i)
    rwCurrent := fun i => if s.activeWheels i then found.rwCurrent i else literal 0
    rwEnabled := s.activeWheels
    totalMomentum := found.totalMomentum }

/-- `_tick_magnetorquers(s, dt)`. -/
def AocsState.tickMagnetorquers (s : AocsState V) : AocsState V :=
  { s with mtqDuty := if s.mtqEnabled then s.mtqDuty else Vec.zero }

/-- The gyros are all off. -/
def AocsState.gyrosOff (s : AocsState V) : Bool :=
  !(s.deviceOn (.gyro 0) || s.deviceOn (.gyro 1) || s.deviceOn (.gyro 2))

/-- The magnetometers are both off. -/
def AocsState.magsOff (s : AocsState V) : Bool :=
  !s.deviceOn (.magnetometer .A) && !s.deviceOn (.magnetometer .B)

/-- A tracker with its power gate. -/
def Tracker.gate (on : Bool) (t : Tracker) : Tracker :=
  if on then t else { t with status := .off, numStars := 0 }

/-- `_apply_device_power_gates(s)`. -/
def AocsState.applyDevicePowerGates (s : AocsState V) : AocsState V :=
  let tracker := fun u => (s.tracker u).gate (s.deviceOn (.starTracker u))
  let sunOn := s.deviceOn .sunSensor
  let wheelOn := fun i => s.deviceOn (.wheel i)
  { s with
    tracker := tracker
    stValid := s.stValid && (tracker s.stSelected).status == .tracking
    rate := if s.gyrosOff then Vec.zero else s.rate
    gyroBias := if s.gyrosOff then Vec.zero else s.gyroBias
    magUnit := fun m => if s.deviceOn (.magnetometer m) then s.magUnit m else Vec.zero
    mag := if s.magsOff then Vec.zero else s.mag
    magValid := s.magValid && !s.magsOff && s.deviceOn (.magnetometer s.magSelect)
    cssValid := s.cssValid && sunOn
    cssSun := if sunOn then s.cssSun else Vec.zero
    cssHeads := if sunOn then s.cssHeads else fun _ => literal 0
    mtqDuty := fun a => if s.deviceOn (.magnetorquer a) then s.mtqDuty a else literal 0
    activeWheels := fun i => wheelOn i && s.activeWheels i
    rwSpeed := fun i => if wheelOn i then s.rwSpeed i else literal 0
    rwCurrent := fun i => if wheelOn i then s.rwCurrent i else literal 0 }

/-- The state that the events of a call are about. -/
def AocsState.settled (s : AocsState V) : AocsState V :=
  { (({ s with fineReadyMask := found.fineReadyMask }.tickWheels k
      found).tickMagnetorquers).applyDevicePowerGates with
    prevInEclipse := found.eclipse }

/-! ### Events -/

/-- The events of changes of mode and of lock. -/
inductive AocsEvent where
  | modeChange (before now : AocsMode)
  | desaturationStart
  | desaturationComplete
  | gpsLockLost
  | gpsLockAcquired (fix : Nat)
  deriving DecidableEq, Repr

/-- An event where its condition holds. -/
def eventIf (c : Prop) [Decidable c] (e : AocsEvent) : List AocsEvent := if c then [e] else []

/-- `_generate_tick_events(s, prev_mode)`: the state afterwards, and the events. -/
def AocsState.generateTickEvents (prevMode : AocsMode) (s : AocsState V) :
    AocsState V × List AocsEvent :=
  let change := eventIf (prevMode ≠ s.mode) (.modeChange prevMode s.mode)
  let start := eventIf (s.mode = .desat ∧ prevMode ≠ .desat) .desaturationStart
  let complete := eventIf (prevMode = .desat ∧ s.mode ≠ .desat) .desaturationComplete
  let lost := eventIf (2 ≤ s.prevGpsFix ∧ s.gpsFix < 2) .gpsLockLost
  let s := { s with prevGpsFix := s.gpsFix }
  let acquired := eventIf (s.prevGpsFix < 2 ∧ 2 ≤ s.gpsFix) (.gpsLockAcquired s.gpsFix)
  (s, change ++ start ++ complete ++ lost ++ acquired)

/-- The speeds are kept as they are published. -/
def AocsState.publish (s : AocsState V) : AocsState V := { s with pubRw := some s.rwSpeed }

/-! ### Ticks -/

/-- A call of `tick` that runs the chain once: the state afterwards, and the events. -/
def pass (s : AocsState V) : AocsState V × List AocsEvent :=
  let s := s.arrived k found
  let out := ((s.ticked found).settled k found).generateTickEvents s.mode
  (out.1.publish, out.2)

/-- A tick: its length, the parameters 0x0117 and 0x05FE, the eclipse, and what is found in each
call. -/
structure AocsTick where
  dt : FloatValue
  line : Bool := true
  speed : Option FloatValue := none
  eclipse : Bool := false
  found : Nat → AocsFound := fun _ => {}

/-- Secular mode, for a step of a length. -/
def AocsTick.secular (t : AocsTick) (dt : FloatValue) : Bool :=
  k.secularSpeedThreshold.lt dt || t.speed.elim false fun v => k.secularSpeedThreshold.lt v

/-- The call of a number, with a step of a length. -/
def AocsTick.call (t : AocsTick) (dt : FloatValue) (i : Nat) : AocsPass :=
  { t.found i with dt := dt, line := t.line, eclipse := t.eclipse, secular := t.secular k dt }

/-- The calls that run the chain: one, or those of the inner steps of an oversized step.  An inner
step is no longer than 2 s, and so is not cut again. -/
def AocsTick.calls (t : AocsTick) : Except PyError (List AocsPass) :=
  if !t.secular k t.dt && (literal 2).lt t.dt then do
    let n ← ceilInt (t.dt.div (literal 2))
    pure ((List.range n.toNat).map (t.call k (t.dt.div (literal n.toNat))))
  else .ok [t.call k t.dt 0]

/-- Calls one after another. -/
def passes (s : AocsState V) : List AocsPass → AocsState V × List AocsEvent
  | [] => (s, [])
  | found :: rest =>
      let out := pass k found s
      let out' := passes out.1 rest
      (out'.1, out.2 ++ out'.2)

/-- `tick(dt, orbit_state, shared_params)`; a length that cannot be cut raises before anything. -/
def tick (t : AocsTick) (s : AocsState V) : AocsState V × List AocsEvent :=
  match t.calls k with
  | .ok found => passes k s found
  | .error _ => (s, [])

end Aocs
