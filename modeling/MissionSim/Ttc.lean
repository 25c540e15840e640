import MissionSim.Effects
import MissionSim.PythonFloats
import Mathlib.Data.Nat.Find

/-!
# The telemetry and telecommand radio

The radio has a ladder of data rates, of which gates permit some, and a power amplifier that the
ground, a device switch, its temperature and the dedicated command channel switch.

The link budget and the Doppler shift are left out; a tick takes from outside whether they raise.
So are events, published parameters, byte counters and the texts of replies.
-/

namespace Ttc

open Binary32 Python Effects

/-! ### The ladder -/

/-- The functions on texts that the radio calls. -/
structure Text where
  /-- `text.strip()` -/
  strip : String → String
  /-- `text.upper()` -/
  upper : String → String
  /-- `int(text, 0)` -/
  int0 : String → Option Int

/-- What the model reads of an entry of `tm_rate_tiers`. -/
structure Tier where
  name : String
  bps : Int
  commandCode : Option Int := none
  modulation : String := "BPSK"
  beaconOnly : Bool := false
  requiresAntenna : Bool := true
  requiresDownlinkMode : Bool := false
  minElevationDeg : FloatValue := literal 0

/-- The ladder as `configure` accepts it. -/
structure Ladder where
  tiers : List Tier
  beaconTier : Nat
  safeTier : Nat
  defaultTier : Nat
  ascending : (tiers.map Tier.bps).Pairwise (· ≤ ·)
  beacon_lt : beaconTier < tiers.length
  safe_lt : safeTier < tiers.length
  default_lt : defaultTier < tiers.length

/-- What the model reads of the configuration. -/
structure Config where
  ladder : Ladder
  text : Text
  tcUplinkRateBps : Int
  paMaxPowerW : FloatValue
  paShutdownTemp : FloatValue
  paTau : FloatValue

theorem Ladder.length_pos (l : Ladder) : 0 < l.tiers.length := Nat.zero_lt_of_lt l.safe_lt

theorem Ladder.clamp_lt (l : Ladder) (index : Nat) :
    min index (l.tiers.length - 1) < l.tiers.length :=
  lt_of_le_of_lt (min_le_right _ _) (Nat.sub_lt l.length_pos Nat.one_pos)

/-- `tier(index)`. -/
def Ladder.tier (l : Ladder) (index : Nat) : Tier := l.tiers.get ⟨_, l.clamp_lt index⟩

/-! ### State -/

/-- `device_states` at power-up. -/
def poweredDevices : Dict Nat Bool :=
  ((((Dict.empty.set 0x0400 true).set 0x0401 true).set 0x0402 true).set 0x0403 true).set 0x0404 true

/-- What is modelled of `TTCState`, and of the attributes beside it. -/
structure TtcState where
  mode : Nat := 0
  linkActive : Bool := false
  tmDataRate : Int := 16000
  rangingActive : Bool := false
  rangeKm : FloatValue := literal 0
  elevationDeg : FloatValue := (literal 90).neg
  primaryFailed : Bool := false
  redundantFailed : Bool := false
  paOn : Bool := true
  paTemp : FloatValue := literal 35
  paOverheatShutdown : Bool := false
  txFwdPower : FloatValue := literal 2
  txPowerLevel : Int := 1
  carrierLock : Bool := false
  bitSync : Bool := false
  frameSync : Bool := false
  lockTimer : FloatValue := literal 0
  cmdDecodeTimer : FloatValue := literal 0
  cmdChannelActive : Bool := false
  antennaDeployed : Bool := false
  beaconMode : Bool := false
  dataRateMode : Nat := 1
  tmTier : Nat := 1
  downlinkMode : Bool := false
  antennaDeploymentReady : Bool := true
  antennaDeploymentSensor : Nat := 1
  paHeatInject : FloatValue := literal 0
  uplinkLost : Bool := false
  modulationMode : Int := 0
  coherentMode : Bool := false
  deviceStates : Dict Nat Bool := poweredDevices
  appliedTier : Option Nat := none
  paNominalPowerW : FloatValue := literal 2
  ulFreqMhz : FloatValue := literal 449
  dlFreqHz : FloatValue := literal 2200500000
  wasInContact : Bool := false

/-- A program on the model. -/
abbrev TtcProgram (α : Type) := EStateM PyError TtcState α

/-- `device_states.get(device_id, True)`. -/
def TtcState.powered (s : TtcState) (deviceId : Nat) : Bool :=
  (s.deviceStates.get? deviceId).getD true

/-! ### The active tier -/

/-- `MODULATION_INDEX.get(name, 0)`. -/
def modulationIndex : String → Int
  | "QPSK" => 1
  | "8PSK" => 2
  | "OQPSK" => 3
  | _ => 0

variable (c : Config)

/-- `tier_index(name)`, of a stripped name. -/
def tierIndex (name : String) : Option Nat :=
  c.ladder.tiers.findIdx? fun t => c.text.upper t.name = c.text.upper name

/-- The tier with a command code, or with a rate. -/
def findTier (l : Ladder) (val : Int) : Option Nat :=
  ((l.tiers.zipIdx.find? fun entry => val = entry.1.commandCode.getD entry.2).map Prod.snd).or
    (l.tiers.findIdx? fun t => val = t.bps)

/-- The argument of `set_tm_rate`. -/
inductive RateArg where
  | text (key : String)
  | value (v : Value)

/-- `_decode_tier_arg(raw)`. -/
def decodeTierArg : RateArg → Except PyError (Option Nat)
  | .text key =>
      match tierIndex c (c.text.strip key) with
      | some idx => .ok (some idx)
      | none => .ok ((c.text.int0 (c.text.strip key)).bind (findTier c.ladder))
  | .value v =>
      match v.toInt with
      | .ok val => .ok (findTier c.ladder val)
      | .error .typeError | .error .valueError => .ok none
      | .error e => .error e

/-- Why a tier may not be selected. -/
inductive Refusal where
  | invalid | beaconOnly | beaconForced | antenna | downlinkMode | elevation
  deriving DecidableEq, Repr

/-- `_tier_permission_error(index, s)`. -/
def tierPermissionError (l : Ladder) (index : Nat) (s : TtcState) : Option Refusal :=
  match l.tiers[index]? with
  | none => some .invalid
  | some t =>
      if t.beaconOnly && !s.beaconMode then some .beaconOnly
      else if s.beaconMode && !t.beaconOnly then some .beaconForced
      else if t.requiresAntenna && !s.antennaDeployed then some .antenna
      else if t.requiresDownlinkMode && !s.downlinkMode then some .downlinkMode
      else if (literal 0).lt t.minElevationDeg && s.linkActive &&
          s.elevationDeg.lt t.minElevationDeg then some .elevation
      else none

/-- `_effective_tier(s)`.  A loop `while idx > 0 and not p(idx): idx -= 1` ends at the greatest index
with `p`, or at zero. -/
def effectiveTier (l : Ladder) (s : TtcState) : Nat :=
  if s.beaconMode then l.beaconTier
  else
    let idx := min s.dataRateMode (l.tiers.length - 1)
    let idx := Nat.findGreatest (fun i => (l.tier i).beaconOnly = false) idx
    let idx := if (l.tier idx).beaconOnly then l.safeTier else idx
    let idx := Nat.findGreatest (fun i => tierPermissionError l i s = none) idx
    if tierPermissionError l idx s ≠ none then l.safeTier else idx

/-- `_apply_tier(s, index)`. -/
def applyTier (index : Nat) (s : TtcState) : TtcState :=
  let t := c.ladder.tier index
  { s with
    tmTier := index
    tmDataRate := t.bps
    modulationMode :=
      if s.appliedTier = some index then s.modulationMode
      else modulationIndex (c.text.upper t.modulation)
    appliedTier := some index }

/-! ### Ticks -/

/-- What the model reads of the orbit state. -/
structure OrbitState where
  inContact : Bool
  gsElevationDeg : FloatValue
  gsRangeKm : FloatValue

/-- What a tick takes from outside: how the link budget and the Doppler shift end, and the noise of
the temperature. -/
structure Radio where
  linkBudget : Except PyError Unit
  doppler : Except PyError Unit
  noise : FloatValue

/-- `_apply_device_power_gates(s)`. -/
def applyDevicePowerGates (s : TtcState) : TtcState :=
  if s.powered 0x0402 then s else { s with paOn := false }

/-- `_device_rx_available(s)`. -/
def deviceRxAvailable (s : TtcState) : Bool :=
  if s.mode = 0 then s.powered 0x0400 else if s.mode = 1 then s.powered 0x0401 else true

/-- The selected transponder works. -/
def rxAvailable (s : TtcState) : Bool :=
  !(s.primaryFailed && s.mode = 0) && !(s.redundantFailed && s.mode = 1) && deviceRxAvailable s

/-- `bool(shared_params.get(0x05FF, 0))`. -/
def passOverride (params : Dict Nat Value) : Bool := (params.get? 0x05FF).elim false Value.truthy

/-- The forward power follows the amplifier. -/
def TtcState.transmit (s : TtcState) : TtcState :=
  { s with txFwdPower :=
      if s.paOn && !s.paOverheatShutdown && rxAvailable s then s.paNominalPowerW else literal 0 }

/-- The timer of the dedicated command channel. -/
def TtcState.commandChannel (dt : FloatValue) (s : TtcState) : TtcState :=
  if s.cmdChannelActive then
    let timer := s.cmdDecodeTimer.sub dt
    if (literal 0).lt timer then
      -- overrides whatever has switched the amplifier off, but for the device switch
      if s.powered 0x0402 then
        { s with cmdDecodeTimer := timer, paOn := true, txFwdPower := s.paNominalPowerW }
      else { s with cmdDecodeTimer := timer }
    else { s with cmdDecodeTimer := literal 0, cmdChannelActive := false }
  else s

/-- The beacon mode, and the geometry of the pass. -/
def TtcState.place (l : Ladder) (inContact override : Bool) (orbitState : OrbitState)
    (s : TtcState) : TtcState :=
  let fixed := override && !orbitState.inContact
  { s with
    dataRateMode := if s.beaconMode then l.beaconTier else s.dataRateMode
    linkActive := inContact
    rangeKm := if fixed then literal 500 else orbitState.gsRangeKm
    elevationDeg := if fixed then literal 45 else orbitState.gsElevationDeg }

/-- The pace of the lock, from the rate of the uplink. -/
def rateFactor : FloatValue :=
  if c.tcUplinkRateBps ≤ 1000 then literal 3
  else if 64000 ≤ c.tcUplinkRateBps then literal 7 10
  else literal 1

/-- The lock of the uplink: carrier, then bits, then frames. -/
def TtcState.acquireLock (inContact : Bool) (dt : FloatValue) (s : TtcState) : TtcState :=
  if inContact && (literal 0).lt s.rangeKm && !s.uplinkLost && s.powered 0x0403 then
    let timer := (if s.wasInContact then s.lockTimer else literal 0).add dt
    let carrier := ((literal 2).mul (rateFactor c)).le timer
    let bits := carrier && ((literal 5).mul (rateFactor c)).le timer
    { s with
      lockTimer := timer, carrierLock := carrier, bitSync := bits
      frameSync := bits && ((literal 10).mul (rateFactor c)).le timer }
  else
    { s with lockTimer := literal 0, carrierLock := false, bitSync := false, frameSync := false }

/-- The temperature of the amplifier after a tick. -/
def paTempAfter (inContact : Bool) (dt noise : FloatValue) (s : TtcState) :
    Except PyError FloatValue := do
  let txLoad := if inContact && s.paOn then literal 1 else literal 2 10
  let paHeat := (txLoad.mul (literal 5)).add s.paHeatInject
  let rate ← divide (((literal 25).add (paHeat.mul (literal 2))).sub s.paTemp) c.paTau
  pure (s.paTemp.add ((rate.mul dt).add noise))

/-- The thermal switch of the amplifier, which lets go fifteen degrees below. -/
def TtcState.thermalSwitch (s : TtcState) : TtcState :=
  let s := if c.paShutdownTemp.le s.paTemp then
      { s with paOverheatShutdown := true, paOn := false } else s
  if s.paOverheatShutdown && s.paTemp.lt (c.paShutdownTemp.sub (literal 15)) then
    { s with paOverheatShutdown := false }
  else s

/-- `tick(dt, orbit_state, shared_params)`. -/
def tick (dt : FloatValue) (orbitState : OrbitState) (params : Dict Nat Value) (radio : Radio) :
    TtcProgram Unit := do
  modify applyDevicePowerGates
  let s ← get
  let override := passOverride params
  let inContact := (orbitState.inContact || override) && rxAvailable s
  modify TtcState.transmit
  modify (TtcState.commandChannel dt)
  modify (TtcState.place c.ladder inContact override orbitState)
  modify fun s => applyTier c (effectiveTier c.ladder s) s
  modify (TtcState.acquireLock c inContact dt)
  fromExcept radio.linkBudget
  modify fun s => { s with
    rangingActive := inContact && (literal 0).lt s.rangeKm && s.frameSync }
  fromExcept radio.doppler
  let s ← get
  store (paTempAfter c inContact dt radio.noise s) fun x s => { s with paTemp := x }
  modify (TtcState.thermalSwitch c)
  modify fun s => { s with wasInContact := inContact }

/-! ### Commands -/

/-- `handle_command`'s commands; an argument that is missing has its default. -/
inductive TtcCommand where
  | switchRedundant
  | switchPrimary
  | setTmRate (rate : Option RateArg)
  | setDataRateMode (mode : Option RateArg)
  | setDownlinkMode (on : Option Value)
  | paOn
  | paOff
  | setTxPower (level powerW : Option Value)
  | cmdChannelStart
  | deployAntennas
  | setBeaconMode (on : Option Value)
  | setUlFreq (freqMhz : Option Value)
  | setDlFreq (freqMhz : Option Value)
  | setModulation (mode : Option Value)
  | setRxGain (agcDb : Option Value)
  | rangingStart
  | rangingStop
  | setCoherentMode (on : Option Value)
  | unknown

/-- What a command returns, less its texts. -/
structure Reply where
  success : Bool
  errorCode : Option Nat := none
  dataRateMode : Option Nat := none
  deriving DecidableEq, Repr

def accepted : Reply := { success := true }

def refused (errorCode : Option Nat) : Reply := { success := false, errorCode := errorCode }

/-- `bool(cmd.get("on", True))`. -/
def onArg (on : Option Value) : Bool := (on.getD (.int 1)).truthy

/-- `switch_redundant` and `switch_primary`. -/
def switchTo (mode : Nat) (failed : TtcState → Bool) : TtcProgram Reply := do
  let s ← get
  if failed s then pure (refused none)
  else do
    modify fun s => { s with mode := mode }
    pure accepted

/-- `set_tm_rate`. -/
def setTmRate (rate : Option RateArg) : TtcProgram Reply := do
  let idx? ← fromExcept (decodeTierArg c (rate.getD (.value (.int c.ladder.defaultTier))))
  let s ← get
  match idx? with
  | none => pure (refused (some 0x0003))
  | some idx =>
      match tierPermissionError c.ladder idx s with
      | some _ => pure (refused (some 0x0007))
      | none => do
          modify fun s => applyTier c idx { s with dataRateMode := idx }
          pure { success := true, dataRateMode := some idx }

/-- `pa_on`. -/
def paOn : TtcProgram Reply := do
  let s ← get
  if s.paOverheatShutdown then pure (refused none)
  else do
    modify fun s => { s with paOn := true }
    pure accepted

/-- The power of a level of `set_tx_power`. -/
def levelPower : Int → Option FloatValue
  | 0 => some (literal 1)
  | 1 => some (literal 2)
  | 2 => some c.paMaxPowerW
  | _ => none

/-- `set_tx_power`, by a level or by watts. -/
def setTxPower (level powerW : Option Value) : TtcProgram Reply := do
  match level with
  | some v => do
      let lvl ← fromExcept v.toInt
      match levelPower c lvl with
      | none => pure (refused (some 0x0003))
      | some power => do
          modify fun s => { s with paNominalPowerW := power, txPowerLevel := lvl }
          pure accepted
  | none => do
      let s ← get
      let power ← fromExcept (floatArg powerW s.paNominalPowerW)
      if (literal 0).lt power && power.le c.paMaxPowerW then do
        modify fun s => { s with paNominalPowerW := power }
        pure accepted
      else pure (refused (some 0x0003))

/-- `deploy_antennas`. -/
def deployAntennas : TtcProgram Reply := do
  let s ← get
  if !s.powered 0x0404 then pure (refused none)
  else if !s.antennaDeploymentReady then pure (refused none)
  else do
    modify fun s => { s with antennaDeployed := true, antennaDeploymentSensor := 2 }
    pure accepted

/-- `set_ul_freq`, `set_dl_freq` and `set_rx_gain`: a number, kept when it is in a band. -/
def setInBand (arg : Option Value) (default : TtcState → FloatValue) (low high : FloatValue)
    (put : FloatValue → TtcState → TtcState) : TtcProgram Reply := do
  let s ← get
  let x ← fromExcept (floatArg arg (default s))
  if low.le x && x.le high then do
    modify (put x)
    pure accepted
  else pure (refused none)

/-- `set_modulation`. -/
def setModulation (mode : Option Value) : TtcProgram Reply := do
  let n ← fromExcept (intArg mode 0)
  if n ∉ [0, 1, 2, 3] then pure (refused none)
  else do
    modify fun s => { s with modulationMode := n }
    pure accepted

/-- `ranging_start`. -/
def rangingStart : TtcProgram Reply := do
  let s ← get
  if s.linkActive && s.frameSync then do
    modify fun s => { s with rangingActive := true }
    pure accepted
  else pure (refused none)

/-- A command that only writes. -/
def write (f : TtcState → TtcState) : TtcProgram Reply := do
  modify f
  pure accepted

/-- `handle_command(cmd)`. -/
def handleCommand : TtcCommand → TtcProgram Reply
  | .switchRedundant => switchTo 1 TtcState.redundantFailed
  | .switchPrimary => switchTo 0 TtcState.primaryFailed
  | .setTmRate rate => setTmRate c rate
  | .setDataRateMode mode => setTmRate c mode
  | .setDownlinkMode on => write fun s => { s with downlinkMode := onArg on }
  | .paOn => paOn
  | .paOff => write fun s => { s with paOn := false, txFwdPower := literal 0 }
  | .setTxPower level powerW => setTxPower c level powerW
  | .cmdChannelStart => write fun s =>
      { s with cmdDecodeTimer := literal 900, cmdChannelActive := true, paOn := true }
  | .deployAntennas => deployAntennas
  | .setBeaconMode on => write fun s => { s with beaconMode := onArg on }
  | .setUlFreq freqMhz => setInBand freqMhz TtcState.ulFreqMhz (literal 2025) (literal 2110)
      fun x s => { s with ulFreqMhz := x }
  | .setDlFreq freqMhz =>
      setInBand freqMhz (fun s => s.dlFreqHz.div (literal 1000000)) (literal 2200) (literal 2290)
        fun x s => { s with dlFreqHz := x.mul (literal 1000000) }
  | .setModulation mode => setModulation mode
  -- the gain is read by the link budget alone
  | .setRxGain agcDb => setInBand agcDb (fun _ => (literal 60).neg) (literal 100).neg (literal 0)
      fun _ s => s
  | .rangingStart => rangingStart
  | .rangingStop => write fun s => { s with rangingActive := false }
  | .setCoherentMode on => write fun s => { s with coherentMode := onArg on }
  | .unknown => pure (refused none)

/-! ### Failures and devices -/

/-- The failures of the model; `other` stands for those of the link budget and for unknown ones. -/
inductive TtcFailure where
  | primaryFailure
  | redundantFailure
  | paOverheat (heatW : Option Value)
  | uplinkLoss
  | antennaDeployFailed
  | other

/-- `inject_failure(failure, magnitude)`. -/
def injectFailure (magnitude : FloatValue) : TtcFailure → TtcProgram Unit
  | .primaryFailure => modify fun s => { s with
      primaryFailed := truthy magnitude
      linkActive := if truthy magnitude && s.mode = 0 then false else s.linkActive }
  | .redundantFailure => modify fun s => { s with redundantFailed := truthy magnitude }
  | .paOverheat heatW =>
      store (floatArg heatW (literal 20)) fun x s => { s with paHeatInject := x }
  | .uplinkLoss => modify fun s => { s with uplinkLost := true, carrierLock := false }
  | .antennaDeployFailed => modify fun s => { s with
      antennaDeployed := false, antennaDeploymentReady := false, antennaDeploymentSensor := 3 }
  | .other => pure ()

/-- `clear_failure(failure)`. -/
def clearFailure : TtcFailure → TtcProgram Unit
  | .primaryFailure => modify fun s => { s with primaryFailed := false }
  | .redundantFailure => modify fun s => { s with redundantFailed := false }
  | .paOverheat _ => modify fun s => { s with paHeatInject := literal 0 }
  | .uplinkLoss => modify fun s => { s with uplinkLost := false }
  | .antennaDeployFailed => modify fun s => { s with
      antennaDeploymentReady := true, antennaDeploymentSensor := 1 }
  | .other => pure ()

/-- `set_device_state(device_id, on_off)`. -/
def setDeviceState (deviceId : Nat) (onOff : Bool) : TtcProgram Bool := do
  let s ← get
  if s.deviceStates.contains deviceId then do
    modify fun s => { s with deviceStates := s.deviceStates.set deviceId onOff }
    pure true
  else pure false

/-! ### Runs -/

/-- What happens to the radio: a command, a tick, a failure, or a device switched. -/
inductive TtcEvent where
  | command (cmd : TtcCommand)
  | tick (dt : FloatValue) (orbitState : OrbitState) (params : Dict Nat Value) (radio : Radio)
  | inject (magnitude : FloatValue) (failure : TtcFailure)
  | clear (failure : TtcFailure)
  | device (deviceId : Nat) (onOff : Bool)

/-- The state after an event, also one that raises. -/
def step (s : TtcState) : TtcEvent → TtcState
  | .command cmd => finalState (handleCommand c cmd) s
  | .tick dt orbitState params radio => finalState (tick c dt orbitState params radio) s
  | .inject magnitude failure => finalState (injectFailure magnitude failure) s
  | .clear failure => finalState (clearFailure failure) s
  | .device deviceId onOff => finalState (setDeviceState deviceId onOff) s

/-! ### The flight configuration -/

/-- `tm_rate_tiers` of `ttc.yaml`. -/
def flightTiers : List Tier :=
  [{ name := "BEACON", bps := 1000, commandCode := some 0xFF, beaconOnly := true,
     requiresAntenna := false },
   { name := "LOW", bps := 16000, commandCode := some 0x00, requiresAntenna := false },
   { name := "HIGH", bps := 128000, commandCode := some 0x01, modulation := "QPSK",
     requiresDownlinkMode := true, minElevationDeg := literal 10 }]

theorem flightTiers_ascending : (flightTiers.map Tier.bps).Pairwise (· ≤ ·) := by decide

/-- The ladder of `ttc.yaml`. -/
def flightLadder : Ladder where
  tiers := flightTiers
  beaconTier := 0
  safeTier := 1
  defaultTier := 1
  ascending := flightTiers_ascending
  beacon_lt := Nat.succ_pos 2
  safe_lt := Nat.succ_lt_succ (Nat.succ_pos 1)
  default_lt := Nat.succ_lt_succ (Nat.succ_pos 1)

/-- `ttc.yaml`, on texts without blanks and lower-case letters. -/
def flightConfig : Config where
  ladder := flightLadder
  text := { strip := id, upper := id, int0 := String.toInt? }
  tcUplinkRateBps := 4000
  paMaxPowerW := literal 5
  paShutdownTemp := literal 70
  paTau := literal 60

end Ttc
