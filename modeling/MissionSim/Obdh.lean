import MissionSim.Effects
import MissionSim.PythonFloats

/-!
# The on-board computer

Two cold-redundant units run a boot loader or the application.  A reboot falls back to the boot
loader and counts down to an automatic boot; the ground can inhibit it, and start a boot itself.

Time is exact.  Temperatures, loads, buffer fills and events are left out, and so are the texts
and the data of replies.
-/

namespace Obdh

open Python Effects

/-! ### State -/

/-- `SW_BOOTLOADER`, `SW_APPLICATION`. -/
inductive Image where
  | bootloader | application
  deriving DecidableEq, Repr

/-- `OBC_OFF`, `OBC_STANDBY`, `OBC_ACTIVE`. -/
inductive ObcStatus where
  | off | standby | active
  deriving DecidableEq, Repr

/-- `BUS_OK`, `BUS_DEGRADED`, `BUS_FAILED`. -/
inductive BusStatus where
  | ok | degraded | failed
  deriving DecidableEq, Repr

/-- `REBOOT_NONE` to `REBOOT_SWITCHOVER`. -/
inductive RebootCause where
  | none | command | watchdog | memoryError | switchover
  deriving DecidableEq, Repr

/-- One of two units or buses. -/
inductive Side where
  | a | b
  deriving DecidableEq, Repr

/-- `device_states` at power-up. -/
def poweredDevices : Dict Nat Bool :=
  ((((Dict.empty.set 0x0500 true).set 0x0501 true).set 0x0502 true).set 0x0503 true).set 0x0504 true

/-- What is modelled of `OBDHState`.  `reboots` is not in the source: all reboots, also those that
the ground has cleared from the count. -/
structure ObdhState where
  mode : Int := 0
  mmmUsedPct : ℚ := 20
  tcRxCount : Nat := 0
  tcAccCount : Nat := 0
  tcRejCount : Nat := 0
  tmPktCount : Nat := 0
  lastTcErrorCode : Nat := 0
  uptimeS : Int := 0
  obcTimeCuc : Int := 0
  rebootCount : Nat := 0
  memErrors : Int := 0
  watchdogArmed : Bool := true
  watchdogTimer : Int := 0
  watchdogPeriod : Int := 30
  activeObc : Side := .a
  obcBStatus : ObcStatus := .standby
  bootCountA : Nat := 0
  bootCountB : Nat := 0
  swImage : Image := .bootloader
  bootAppTimer : ℚ := 0
  bootAppPending : Bool := false
  bootInhibit : Bool := false
  bootImageCorrupt : Bool := false
  activeBus : Side := .a
  busAStatus : BusStatus := .ok
  busBStatus : BusStatus := .ok
  lastRebootCause : RebootCause := .none
  memorySegments : List Bool := [true, true, true, true]
  seuCount : Nat := 0
  scrubProgressPct : ℚ := 0
  scrubActive : Bool := false
  deviceStates : Dict Nat Bool := poweredDevices
  reboots : Nat := 0

/-- A program on the model. -/
abbrev ObdhProgram (α : Type) := EStateM PyError ObdhState α

/-- `device_states.get(device_id, True)`. -/
def ObdhState.powered (s : ObdhState) (deviceId : Nat) : Bool :=
  (s.deviceStates.get? deviceId).getD true

/-! ### Reboots -/

/-- `_reboot(cause)`. -/
def ObdhState.reboot (cause : RebootCause) (s : ObdhState) : ObdhState :=
  { s with
    rebootCount := s.rebootCount + 1
    lastRebootCause := cause
    uptimeS := 0
    tcRxCount := 0
    tcAccCount := 0
    tcRejCount := 0
    lastTcErrorCode := 0
    tmPktCount := 0
    watchdogTimer := 0
    swImage := .bootloader
    mode := 1
    bootCountA := if s.activeObc = .a then s.bootCountA + 1 else s.bootCountA
    bootCountB := if s.activeObc = .a then s.bootCountB else s.bootCountB + 1
    bootAppPending := !s.bootInhibit
    bootAppTimer := if s.bootInhibit then 0 else 10
    reboots := s.reboots + 1 }

/-- `_switchover()`. -/
def ObdhState.switchover (s : ObdhState) : ObdhState :=
  match s.activeObc with
  | .a => { s with activeObc := .b, obcBStatus := .active }.reboot .switchover
  | .b => { s with activeObc := .a, obcBStatus := .standby }.reboot .switchover

/-! ### Ticks -/

/-- `int(x)` of a number of seconds. -/
def wholeSeconds (x : ℚ) : Int := if 0 ≤ x then ⌊x⌋ else ⌈x⌉

/-- The clocks. -/
def ObdhState.advance (dt : ℚ) (s : ObdhState) : ObdhState :=
  { s with
    uptimeS := s.uptimeS + wholeSeconds dt
    obcTimeCuc := s.obcTimeCuc + wholeSeconds dt }

/-- The pending boot. -/
def ObdhState.boot (dt : ℚ) (s : ObdhState) : ObdhState :=
  if s.bootAppPending then
    if s.bootAppTimer - dt ≤ 0 then
      if s.bootImageCorrupt then
        { s with bootAppTimer := s.bootAppTimer - dt, bootAppPending := false,
                 swImage := .bootloader }
      else
        { s with bootAppTimer := s.bootAppTimer - dt, bootAppPending := false,
                 swImage := .application, mode := 0 }
    else { s with bootAppTimer := s.bootAppTimer - dt }
  else s

/-- The watchdog of a nominal application; otherwise its timer is held. -/
def ObdhState.watchdog (s : ObdhState) : ObdhState :=
  if s.swImage = .application ∧ s.watchdogArmed ∧ s.mode = 0 ∧
      s.watchdogPeriod ≤ s.watchdogTimer then s.reboot .watchdog
  else { s with watchdogTimer := 0 }

/-- A single-event upset. -/
def ObdhState.upset (seu : Bool) (s : ObdhState) : ObdhState :=
  if seu then { s with seuCount := s.seuCount + 1, memErrors := s.memErrors + 1 } else s

/-- The memory scrub. -/
def ObdhState.scrub (dt : ℚ) (s : ObdhState) : ObdhState :=
  if s.scrubActive then
    if 100 ≤ s.scrubProgressPct + dt / 60 * 5 then
      { s with scrubProgressPct := 0, scrubActive := false, memErrors := max 0 (s.memErrors - 3) }
    else { s with scrubProgressPct := s.scrubProgressPct + dt / 60 * 5 }
  else s

/-- `_apply_device_power_gates(s)`. -/
def ObdhState.applyDevicePowerGates (s : ObdhState) : ObdhState :=
  let lost := !s.powered 0x0504
  { s with
    obcBStatus := if s.powered 0x0501 then s.obcBStatus else .off
    mmmUsedPct := if s.powered 0x0502 then s.mmmUsedPct else 0
    watchdogArmed := s.powered 0x0503 && s.watchdogArmed
    busAStatus := if lost ∧ s.activeBus = .a ∧ s.busAStatus = .ok then .degraded else s.busAStatus
    busBStatus := if lost ∧ s.activeBus = .b ∧ s.busBStatus = .ok then .degraded else s.busBStatus }

/-- `tick(dt)`, with or without an upset. -/
def tick (dt : ℚ) (seu : Bool) (s : ObdhState) : ObdhState :=
  (((((s.advance dt).boot dt).watchdog).upset seu).scrub dt).applyDevicePowerGates

/-! ### Commands -/

/-- `handle_command`'s commands; an argument that is missing has its default.  A time from GPS
comes with whether there is a fix. -/
inductive ObdhCommand where
  | setMode (mode : Option Value)
  | setTime (cuc : Option Value)
  | gpsTimeSync (fix : Bool) (gpsTimeCuc : Int)
  | memoryScrub
  | obcReboot
  | obcSwitchUnit
  | obcSelectBus (bus : Option Value)
  | obcBootApp
  | obcBootInhibit (inhibit : Option Value)
  | obcClearRebootCnt
  | setWatchdogPeriod (period : Option Value)
  | watchdogEnable
  | watchdogDisable
  | diagnostic
  | errorLog
  | unknown

/-- `_BOOTLOADER_ALLOWED`. -/
def ObdhCommand.bootloaderAllowed : ObdhCommand → Bool
  | .obcBootApp | .obcBootInhibit _ | .obcReboot | .obcSwitchUnit | .obcSelectBus _
  | .obcClearRebootCnt | .diagnostic | .errorLog => true
  | .setMode _ | .setTime _ | .gpsTimeSync _ _ | .memoryScrub | .setWatchdogPeriod _
  | .watchdogEnable | .watchdogDisable | .unknown => false

/-- A command that only writes. -/
def write (f : ObdhState → ObdhState) : ObdhProgram Bool := do
  modify f
  pure true

/-- `set_mode`. -/
def setMode (mode : Option Value) : ObdhProgram Bool := do
  let m ← fromExcept (intArg mode 0)
  if m ∈ [0, 1, 2] then write fun s => { s with mode := m }
  else pure false

/-- `set_time`. -/
def setTime (cuc : Option Value) : ObdhProgram Bool := do
  let n ← fromExcept (intArg cuc 0)
  write fun s => { s with obcTimeCuc := n }

/-- `obc_select_bus`. -/
def obcSelectBus (bus : Option Value) : ObdhProgram Bool := do
  let n ← fromExcept (intArg bus 0)
  let s ← get
  if n = 0 then
    if s.busAStatus = .failed then pure false else write fun s => { s with activeBus := .a }
  else if n = 1 then
    if s.busBStatus = .failed then pure false else write fun s => { s with activeBus := .b }
  else pure false

/-- `obc_boot_app`. -/
def obcBootApp : ObdhProgram Bool := do
  let s ← get
  if s.swImage = .application then pure false
  else write fun s => { s with bootAppPending := true, bootAppTimer := 10 }

/-- `bool(cmd.get("inhibit", True))`. -/
def inhibitArg (inhibit : Option Value) : Bool := (inhibit.getD (.int 1)).truthy

/-- `set_watchdog_period`. -/
def setWatchdogPeriod (period : Option Value) : ObdhProgram Bool := do
  let n ← fromExcept (intArg period 30)
  write fun s => { s with watchdogPeriod := max 1 n }

/-- What a command does once the boot loader lets it through. -/
def dispatch : ObdhCommand → ObdhProgram Bool
  | .setMode mode => setMode mode
  | .setTime cuc => setTime cuc
  | .gpsTimeSync fix gpsTimeCuc =>
      if fix then write fun s => { s with obcTimeCuc := gpsTimeCuc } else pure false
  | .memoryScrub => write fun s => { s with scrubActive := true, scrubProgressPct := 0 }
  | .obcReboot => write (ObdhState.reboot .command)
  | .obcSwitchUnit => write ObdhState.switchover
  | .obcSelectBus bus => obcSelectBus bus
  | .obcBootApp => obcBootApp
  | .obcBootInhibit inhibit => write fun s => { s with bootInhibit := inhibitArg inhibit }
  | .obcClearRebootCnt => write fun s => { s with bootCountA := 0, bootCountB := 0, rebootCount := 0 }
  | .setWatchdogPeriod period => setWatchdogPeriod period
  | .watchdogEnable => write fun s => { s with watchdogArmed := true }
  | .watchdogDisable => write fun s => { s with watchdogArmed := false }
  | .diagnostic | .errorLog => pure true
  | .unknown => pure false

/-- `handle_command(cmd)`. -/
def handleCommand (cmd : ObdhCommand) : ObdhProgram Bool := do
  let s ← get
  if s.swImage = .bootloader ∧ cmd.bootloaderAllowed = false then pure false else dispatch cmd

/-! ### Failures and devices -/

/-- The failures of the model; `other` stands for those of the load and for unknown ones.  A bus
that is neither has no side. -/
inductive ObdhFailure where
  | watchdogReset
  | memoryErrors (count : Option Value)
  | obcCrash
  | busFailure (bus : Option Side)
  | bootImageCorrupt
  | memoryCorruption (count : Option Value)
  | memorySegmentFail (segment : Option Value)
  | stuckInBootloader
  | other

/-- The status of a bus. -/
def ObdhState.setBus (bus : Option Side) (status : BusStatus) (s : ObdhState) : ObdhState :=
  match bus with
  | some .a => { s with busAStatus := status }
  | some .b => { s with busBStatus := status }
  | none => s

/-- A failed segment of the mass memory, if there is such a segment. -/
def ObdhState.failSegment (segment : Int) (s : ObdhState) : ObdhState :=
  if 0 ≤ segment ∧ segment < s.memorySegments.length then
    let segments := s.memorySegments.set segment.toNat false
    let total : ℚ := segments.length
    let shrink := (total - segments.count true) / total
    { s with
      memorySegments := segments
      memErrors := s.memErrors + 1
      mmmUsedPct := if segments.count true < segments.length then
          min 100 (s.mmmUsedPct + shrink * 100 / total) else s.mmmUsedPct }
  else s

/-- `inject_failure(failure)`. -/
def injectFailure : ObdhFailure → ObdhProgram Unit
  | .watchdogReset => modify fun s =>
      { s with watchdogArmed := true, watchdogTimer := s.watchdogPeriod }
  | .memoryErrors count =>
      store (intArg count 5) fun n s => { s with memErrors := s.memErrors + n }
  | .obcCrash => modify (ObdhState.reboot .watchdog)
  | .busFailure bus => modify (ObdhState.setBus bus .failed)
  | .bootImageCorrupt => modify fun s => { s with bootImageCorrupt := true }
  | .memoryCorruption count => do
      store (intArg count 10) fun n s => { s with memErrors := s.memErrors + n }
      modify (ObdhState.reboot .memoryError)
  | .memorySegmentFail segment => store (intArg segment 0) ObdhState.failSegment
  | .stuckInBootloader => modify fun s => { s with
      bootImageCorrupt := true, swImage := .bootloader, bootAppPending := false,
      bootInhibit := true }
  | .other => pure ()

/-- `clear_failure(failure)`. -/
def clearFailure : ObdhFailure → ObdhProgram Unit
  | .watchdogReset => modify fun s => { s with watchdogTimer := 0 }
  | .memoryErrors count =>
      store (intArg count 5) fun n s => { s with memErrors := max 0 (s.memErrors - n) }
  | .busFailure bus => modify (ObdhState.setBus bus .ok)
  | .bootImageCorrupt => modify fun s => { s with bootImageCorrupt := false }
  | .memoryCorruption _ => modify fun s => { s with memErrors := 0 }
  | .memorySegmentFail segment => store (intArg segment 0) fun n s =>
      if 0 ≤ n ∧ n < s.memorySegments.length then
        { s with memorySegments := s.memorySegments.set n.toNat true }
      else s
  | .stuckInBootloader => modify fun s =>
      { s with bootImageCorrupt := false, bootInhibit := false }
  | .obcCrash | .other => pure ()

/-- `set_device_state(device_id, on_off)`. -/
def setDeviceState (deviceId : Nat) (onOff : Bool) : ObdhProgram Bool := do
  let s ← get
  if s.deviceStates.contains deviceId then
    write fun s => { s with deviceStates := s.deviceStates.set deviceId onOff }
  else pure false

/-! ### Runs -/

/-- What happens to the computer: a command, a tick, a failure, or a device switched. -/
inductive ObdhEvent where
  | command (cmd : ObdhCommand)
  | tick (dt : ℚ) (seu : Bool)
  | inject (failure : ObdhFailure)
  | clear (failure : ObdhFailure)
  | device (deviceId : Nat) (onOff : Bool)

/-- The state after an event, also one that raises. -/
def step (s : ObdhState) : ObdhEvent → ObdhState
  | .command cmd => finalState (handleCommand cmd) s
  | .tick dt seu => tick dt seu s
  | .inject failure => finalState (injectFailure failure) s
  | .clear failure => finalState (clearFailure failure) s
  | .device deviceId onOff => finalState (setDeviceState deviceId onOff) s

end Obdh
