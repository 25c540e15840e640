import MissionSim.Effects
import MissionSim.PythonFloats

/-!
# The propulsion model

A blowdown monopropellant thruster: a burn is loaded, armed behind a mask of interlocks and
executed; it ends at its cut-off, or it is aborted.  Two aborts latch an inhibit that only the
ground's key clears.  The delta-V of a burn that has ended is kept as one pending impulse until
the engine takes it.

A tick or a command that raises keeps what it has already written.

The published parameters, the threshold events and the texts are left out.
-/

namespace Propulsion

open Binary32 Python Effects

/-! ### State -/

/-- `ST_SAFED`, `ST_ARMED`, `ST_FIRING`, `ST_INHIBIT`. -/
inductive Mode where
  | safed | armed | firing | inhibit
  deriving DecidableEq, Repr

/-- The reasons `AB_*`. -/
inductive AbortReason where
  | none | attErr | lowP | overtemp | lowSoc | eclipse | ground | timeout | valve
  deriving DecidableEq, Repr

/-- `VLV_CLOSED`, `VLV_OPEN`, `VLV_FAULT`. -/
inductive Valve where
  | closed | opened | fault
  deriving DecidableEq, Repr

/-- `burn_status`. -/
inductive BurnStatus where
  | idle | armed | firing | complete | aborted
  deriving DecidableEq, Repr

/-- A vector of three doubles. -/
structure Vec3 where
  x : FloatValue
  y : FloatValue
  z : FloatValue
  deriving DecidableEq, Repr

namespace Vec3

/-- `np.zeros(3)`. -/
def zeros : Vec3 := ⟨literal 0, literal 0, literal 0⟩

/-- Each component by a function. -/
def map (f : FloatValue → FloatValue) (v : Vec3) : Vec3 := ⟨f v.x, f v.y, f v.z⟩

def add (v w : Vec3) : Vec3 := ⟨v.x.add w.x, v.y.add w.y, v.z.add w.z⟩

/-- `np.cross(v, w)`. -/
def cross (v w : Vec3) : Vec3 :=
  ⟨(v.y.mul w.z).sub (v.z.mul w.y), (v.z.mul w.x).sub (v.x.mul w.z),
    (v.x.mul w.y).sub (v.y.mul w.x)⟩

end Vec3

variable {T : Type}

/-- What the model reads of the orbit state, at a time in `T`. -/
structure OrbitState (T : Type) where
  inEclipse : Bool
  posEci : Vec3
  velEci : Vec3
  utc : T

/-- `pending_impulse`. -/
structure Impulse (T : Type) where
  dvEciKmS : Vec3
  dvMagMS : FloatValue
  utcMid : Option T

/-- The functions of the mathematical library, of numpy and of `datetime` that the model calls. -/
structure Library (T : Type) where
  cos : FloatValue → FloatValue
  sin : FloatValue → FloatValue
  log : FloatValue → FloatValue
  norm : Vec3 → FloatValue
  /-- `utc - timedelta(seconds=seconds)` -/
  before : T → FloatValue → Except PyError T

/-- The hardware sheet, the arming code and the interlock thresholds. -/
structure Config where
  scDryMassKg : FloatValue
  mProp0Kg : FloatValue
  rhoKgM3 : FloatValue
  tankVCm3 : FloatValue
  p0Bar : FloatValue
  pEolBar : FloatValue
  f0N : FloatValue
  ispBolS : FloatValue
  ispEolS : FloatValue
  armCode : Int
  armWindowS : FloatValue
  catbedMinC : FloatValue
  tankPMinBar : FloatValue
  tankPMaxBar : FloatValue
  propMinG : FloatValue
  aocsModes : List Int
  attErrMaxDeg : FloatValue
  socMinPct : FloatValue
  minPhase : Int
  allowEclipseBurn : Bool

/-- `PropState`, and the readings the model keeps beside it.  `burns` is not in the source: the
increments of delta-V of every burn, the latest burn first, for the account of delta-V. -/
structure PropState (T : Type) where
  state : Mode := .safed
  mPropKg : FloatValue := literal 4 10
  tankPBar : FloatValue := literal 22
  catbedTempC : FloatValue := literal 5
  latchA : Valve := .opened
  latchB : Valve := .closed
  fcvOpen : Bool := false
  inhibitLatched : Bool := false
  groundInhibit : Bool := false
  dvAccumMS : FloatValue := literal 0
  burnCount : Nat := 0
  totalOnTimeS : FloatValue := literal 0
  abortReason : AbortReason := .none
  abortCount : Nat := 0
  armInhibitMask : Nat := 0
  leakRateMgS : FloatValue := literal 0
  perfFactor : FloatValue := literal 1
  burnDvCmdMS : FloatValue := literal 0
  burnDirection : Int := 0
  burnMode : Int := 1
  burnTStartCuc : Int := 0
  burnTimeCmdS : FloatValue := literal 0
  burnLoaded : Bool := false
  burnLoadedMetS : FloatValue := (literal 1000000000).neg
  burnElapsedS : FloatValue := literal 0
  burnDvAtMS : FloatValue := literal 0
  burnDvLatMS : FloatValue := literal 0
  burnDvMagMS : FloatValue := literal 0
  burnStatus : BurnStatus := .idle
  burnDvAchievedMS : FloatValue := literal 0
  limAttErrMaxDeg : FloatValue := literal 2
  limPMinBar : FloatValue := literal 4
  limCatbedMaxC : FloatValue := literal 350
  limTBurnMaxS : FloatValue := literal 300
  metS : FloatValue := literal 0
  inEclipse : Bool := false
  lastAttErrorDeg : FloatValue := literal 0
  pendingImpulse : Option (Impulse T) := none
  aocsMode : Int := -1
  batSoc : FloatValue := literal 100
  scPhase : Int := 6
  lastOrbitState : Option (OrbitState T) := none
  burns : List (List FloatValue) := []

/-- A program on the model. -/
abbrev PropProgram (T α : Type) := EStateM PyError (PropState T) α

/-! ### Blowdown -/

variable (c : Config)

/-- `G0`. -/
def g0 : FloatValue := literal 980665 100000

/-- `_tank_pressure(m_prop_kg)`. -/
def tankPressure (mPropKg : FloatValue) : Except PyError FloatValue := do
  let vTankM3 := c.tankVCm3.mul (literal 1 1000000)
  let vUll0M3 := vTankM3.sub (← divide c.mProp0Kg c.rhoKgM3)
  let vUllM3 := maxFloat (vTankM3.sub (← divide (maxFloat mPropKg (literal 0)) c.rhoKgM3))
    (literal 1 1000000000)
  divide (c.p0Bar.mul vUll0M3) vUllM3

/-- `_thrust_n(p_bar)`. -/
def thrustN (s : PropState T) (pBar : FloatValue) : Except PyError FloatValue := do
  let f ← divide (c.f0N.mul pBar) c.p0Bar
  pure ((maxFloat f (literal 0)).mul s.perfFactor)

/-- `_isp_s(p_bar)`. -/
def ispS (pBar : FloatValue) : Except PyError FloatValue := do
  let frac ← divide (pBar.sub c.pEolBar) (maxFloat (c.p0Bar.sub c.pEolBar) (literal 1 1000000000))
  pure (c.ispEolS.add ((c.ispBolS.sub c.ispEolS).mul frac))

/-- `_sc_mass_kg()`. -/
def scMassKg (s : PropState T) : FloatValue := c.scDryMassKg.add (maxFloat s.mPropKg (literal 0))

variable (lib : Library T)

/-- `dv_remaining_m_s()`. -/
def dvRemainingMS (s : PropState T) : Except PyError FloatValue := do
  let ispAvg := (literal 1 2).mul ((← ispS c s.tankPBar).add c.ispEolS)
  let ratio ← divide (scMassKg c s) c.scDryMassKg
  pure ((ispAvg.mul g0).mul (lib.log (maxFloat ratio (literal 1))))

/-- `predict_burn_time_s(dv_m_s)`. -/
def predictBurnTimeS (s : PropState T) (dvMS : FloatValue) : Except PyError FloatValue := do
  let f ← thrustN c s s.tankPBar
  if f.le (literal 1 1000000) then pure (literal 0) else divide (dvMS.mul (scMassKg c s)) f

/-! ### Interlocks -/

/-- A branch of the isolation valves lets propellant through. -/
def Valve.flows (v : Valve) : Bool := v = .opened || v = .fault

/-- `INH_CATBED` to `INH_NO_BURN` with their error codes, in the order of their bits. -/
def interlockCodes : List (Nat × Nat) :=
  [(1 <<< 0, 0x0B01), (1 <<< 1, 0x0B02), (1 <<< 2, 0x0B03), (1 <<< 3, 0x0B04), (1 <<< 4, 0x0B05),
    (1 <<< 5, 0x0B06), (1 <<< 6, 0x0B07), (1 <<< 7, 0x0B08), (1 <<< 8, 0x0B09), (1 <<< 9, 0x0B0A),
    (1 <<< 10, 0x0B0B)]

/-- A bit of the mask, where a condition holds. -/
def flag (condition : Bool) (bit : Nat) : Nat := if condition then 1 <<< bit else 0

/-- `_interlock_mask(require_burn)`. -/
def interlockMask (requireBurn : Bool) (s : PropState T) : Nat :=
  flag (s.catbedTempC.lt c.catbedMinC) 0 |||
  flag (!(c.tankPMinBar.le s.tankPBar && s.tankPBar.le c.tankPMaxBar)) 1 |||
  flag ((s.mPropKg.mul (literal 1000)).le c.propMinG) 2 |||
  flag (s.aocsMode ∉ c.aocsModes) 3 |||
  flag (c.attErrMaxDeg.le s.lastAttErrorDeg) 4 |||
  flag (s.batSoc.le c.socMinPct) 5 |||
  flag (s.scPhase < c.minPhase) 6 |||
  flag (s.inEclipse && !c.allowEclipseBurn) 7 |||
  flag (!(s.latchA.flows || s.latchB.flows)) 8 |||
  flag (s.inhibitLatched || s.groundInhibit) 9 |||
  flag (requireBurn && !(s.burnLoaded && (s.metS.sub s.burnLoadedMetS).le c.armWindowS)) 10

/-! ### The end of a burn -/

/-- The delta-V of a burn as a vector: along the track by direction, and along the orbit normal. -/
def dvEci (orbitState : Option (OrbitState T)) (s : PropState T) : Vec3 :=
  let r := (orbitState.map OrbitState.posEci).getD Vec3.zeros
  let v := (orbitState.map OrbitState.velEci).getD Vec3.zeros
  let vHat := v.map (·.div (lib.norm v))
  let h := r.cross v
  let hHat := h.map (·.div ((lib.norm h).add (literal 1 1000000000000)))
  let sign := if s.burnDirection = 1 then (literal 1).neg else literal 1
  (vHat.map ((sign.mul s.burnDvAtMS).mul ·)).add (hHat.map (s.burnDvLatMS.mul ·))

/-- The middle of a burn. -/
def utcMid (orbitState : Option (OrbitState T)) (s : PropState T) : Except PyError (Option T) :=
  match orbitState with
  | some o => some <$> lib.before o.utc (s.burnElapsedS.div (literal 2))
  | none => .ok none

/-- `_burn_impulse(orbit_state)`. -/
def burnImpulse (orbitState : Option (OrbitState T)) (s : PropState T) :
    Except PyError (Option (Impulse T)) :=
  if s.burnDvMagMS.le (literal 0) then .ok none
  else if (lib.norm ((orbitState.map OrbitState.velEci).getD Vec3.zeros)).lt (literal 1) then
    .ok none
  else do
    let mid ← utcMid lib orbitState s
    pure (some { dvEciKmS := (dvEci lib orbitState s).map (·.div (literal 1000)),
                 dvMagMS := s.burnDvMagMS, utcMid := mid })

/-- `_complete_burn(orbit_state)`. -/
def completeBurn (orbitState : OrbitState T) : PropProgram T Unit := do
  let s ← get
  let impulse ← fromExcept (burnImpulse lib (some orbitState) s)
  modify fun s => { s with
    pendingImpulse := impulse, burnDvAchievedMS := s.burnDvMagMS, burnCount := s.burnCount + 1,
    state := .armed, burnStatus := .complete, fcvOpen := false, burnLoaded := false }

/-- `_abort(reason, text, orbit_state)`. -/
def abortBurn (reason : AbortReason) (orbitState : Option (OrbitState T)) :
    PropProgram T Unit := do
  let s ← get
  when (s.state = .firing) do
    -- the propellant already expended still changed the orbit
    let impulse ← fromExcept (burnImpulse lib (orbitState.or s.lastOrbitState) s)
    modify fun s => { s with
      pendingImpulse := impulse, burnDvAchievedMS := s.burnDvMagMS, burnCount := s.burnCount + 1 }
  modify fun s => { s with
    state := .safed, burnStatus := .aborted, fcvOpen := false, abortReason := reason,
    burnLoaded := false, abortCount := s.abortCount + 1 }
  modify fun s =>
    if 2 ≤ s.abortCount ∧ s.inhibitLatched = false then
      { s with inhibitLatched := true, state := .inhibit }
    else s

/-! ### Integration -/

/-- What `_integrate_burn` checks before it integrates. -/
def abortCheck (s : PropState T) : Option AbortReason :=
  if s.limAttErrMaxDeg.lt s.lastAttErrorDeg then some .attErr
  else if s.tankPBar.lt s.limPMinBar then some .lowP
  else if s.limCatbedMaxC.lt s.catbedTempC then some .overtemp
  else if s.limTBurnMaxS.le s.burnElapsedS then some .timeout
  else if !(s.latchA.flows || s.latchB.flows) then some .valve
  else if s.mPropKg.le (literal 0) then some .lowP
  else none

/-- The part of a sub-step up to the cut-off, and whether the cut-off is reached: closed-loop on
the delta-V in mode 1, timed in mode 0. -/
def cutOff (s : PropState T) (a h : FloatValue) : Except PyError (FloatValue × Bool) :=
  if s.burnMode = 1 ∧ (literal 1 1000000000).lt a then do
    let tNeed ← divide (s.burnDvCmdMS.sub s.burnDvMagMS) a
    pure (if tNeed.le h then (maxFloat tNeed (literal 0), true) else (h, false))
  else if s.burnMode = 0 then
    let tLeft := s.burnTimeCmdS.sub s.burnElapsedS
    pure (if tLeft.le h then (maxFloat tLeft (literal 0), true) else (h, false))
  else pure (h, false)

/-- One sub-step: its duration, the acceleration and the mass flow, and whether it is the last. -/
structure Slice where
  hUse : FloatValue
  a : FloatValue
  mdot : FloatValue
  done : Bool

/-- `mdot = f_n / (isp * G0) if isp > 0 else 0.0`. -/
def massFlow (fN isp : FloatValue) : Except PyError FloatValue :=
  if (literal 0).lt isp then divide fN (isp.mul g0) else .ok (literal 0)

/-- What a sub-step of at most `h` seconds computes before it changes the state. -/
def slice (h : FloatValue) (s : PropState T) : Except PyError Slice := do
  let pBar ← tankPressure c s.mPropKg
  let fN ← thrustN c s pBar
  let isp ← ispS c pBar
  let mdot ← massFlow fN isp
  let a ← divide fN (scMassKg c s)
  let part ← cutOff s a h
  pure { hUse := part.1, a := a, mdot := mdot, done := part.2 }

/-- The delta-V of a sub-step. -/
def Slice.dv (x : Slice) : FloatValue := x.a.mul x.hUse

/-- Count an increment to the latest burn. -/
def countIncrement (dv : FloatValue) : List (List FloatValue) → List (List FloatValue)
  | [] => [[dv]]
  | burn :: earlier => (burn ++ [dv]) :: earlier

/-- The state after a sub-step at an attitude error of `theta`. -/
def PropState.burn (theta : FloatValue) (x : Slice) (s : PropState T) : PropState T :=
  { s with
    burnDvMagMS := s.burnDvMagMS.add x.dv
    burnDvAtMS := s.burnDvAtMS.add (x.dv.mul (lib.cos theta))
    burnDvLatMS := s.burnDvLatMS.add (x.dv.mul (lib.sin theta))
    mPropKg := maxFloat (s.mPropKg.sub (x.mdot.mul x.hUse)) (literal 0)
    burnElapsedS := s.burnElapsedS.add x.hUse
    totalOnTimeS := s.totalOnTimeS.add x.hUse
    burns := countIncrement x.dv s.burns }

/-- The loop of `_integrate_burn`; whether the cut-off was reached. -/
def burnSteps (theta h : FloatValue) : Nat → PropProgram T Bool
  | 0 => pure false
  | n + 1 => do
      let s ← get
      let x ← fromExcept (slice c h s)
      modify (PropState.burn lib theta x)
      let s ← get
      if x.done then pure true
      else if s.mPropKg.le (literal 0) then pure false
      else burnSteps theta h n

/-- `max(1, min(int(math.ceil(dt / 1.0)), 600))`. -/
def subSteps (dt : FloatValue) : Except PyError Nat := do
  let n ← ceilInt (dt.div (literal 1))
  pure (max 1 (min n 600)).toNat

/-- `math.radians(x)`. -/
def radians (x : FloatValue) : FloatValue := x.mul (.finite false 5030569068109113 (-58))

/-- `_integrate_burn(dt, orbit_state)`. -/
def integrateBurn (dt : FloatValue) (orbitState : OrbitState T) : PropProgram T Unit := do
  let s ← get
  match abortCheck s with
  | some reason => abortBurn lib reason (some orbitState)
  | none => do
      let nSub ← fromExcept (subSteps dt)
      let h := dt.div (literal nSub)
      let theta := radians (minFloat s.lastAttErrorDeg.abs (literal 90))
      let done ← burnSteps c lib theta h nSub
      let s ← get
      if done then completeBurn lib orbitState
      else when (s.mPropKg.le (literal 0) = true) (abortBurn lib .lowP (some orbitState))

/-! ### Ticks -/

/-- `float(shared_params.get(param_id, default))`. -/
def readFloat (params : Dict Nat Value) (paramId : Nat) (default : FloatValue) :
    Except PyError FloatValue := ((params.get? paramId).getD (.float default)).toFloat

/-- `int(shared_params.get(param_id, default))`. -/
def readInt (params : Dict Nat Value) (paramId : Nat) (default : Int) : Except PyError Int :=
  ((params.get? paramId).getD (.int default)).toInt

/-- The readings at the start of a tick, each kept as it is read. -/
def readParams (params : Dict Nat Value) : PropProgram T Unit := do
  let s ← get
  store (readFloat params 0x0409 s.catbedTempC) fun x s => { s with catbedTempC := x }
  store (readFloat params 0x0217 s.lastAttErrorDeg) fun x s => { s with lastAttErrorDeg := x }
  store (readInt params 0x020F (-1)) fun n s => { s with aocsMode := n }
  store (readFloat params 0x0101 (literal 100)) fun x s => { s with batSoc := x }
  store (readInt params 0x0129 6) fun n s => { s with scPhase := n }

/-- What the loss of the power line does. -/
def powerLoss (orbitState : OrbitState T) : PropProgram T Unit := do
  let s ← get
  if s.state = .firing then abortBurn lib .lowSoc (some orbitState)
  else when (s.state = .armed) (modify fun s => { s with state := .safed, burnStatus := .idle })

/-- The mass that leaks in a tick. -/
def PropState.leak (dt : FloatValue) (s : PropState T) : PropState T :=
  let leakKgS := s.leakRateMgS.mul (literal 1 1000000)
  if (literal 0).lt leakKgS && (literal 0).lt s.mPropKg then
    { s with mPropKg := maxFloat (s.mPropKg.sub (leakKgS.mul dt)) (literal 0) }
  else s

/-- `tick(dt, orbit_state, shared_params)`. -/
def tick (dt : FloatValue) (orbitState : OrbitState T) (params : Dict Nat Value) :
    PropProgram T Unit := do
  modify fun s => { s with metS := s.metS.add dt, lastOrbitState := some orbitState,
                           inEclipse := orbitState.inEclipse }
  readParams params
  when (((params.get? 0x014A).elim true Value.truthy) = false) (powerLoss lib orbitState)
  modify (PropState.leak dt)
  let s ← get
  when (s.state = .firing) (integrateBurn c lib dt orbitState)
  let s ← get
  store (tankPressure c s.mPropKg) fun p s => { s with tankPBar := p }
  modify fun s => { s with armInhibitMask := interlockMask c (s.state = .safed) s }

/-! ### Commands -/

/-- What a command returns, less its message. -/
structure Reply where
  success : Bool
  errorCode : Option Nat := none
  deriving DecidableEq, Repr

/-- `handle_command`'s commands; an argument that is missing has its default. -/
inductive PropCommand where
  | setBurn (dvMS direction mode tStartCuc : Option Value)
  | arm (armCode : Option Value)
  | disarm
  | execute
  | abort
  | isoOpen (branch : Option Value)
  | isoClose (branch : Option Value)
  | setLimits (attErrMaxDeg pMinBar catbedMaxC tBurnMaxS : Option Value)
  | inhibitSet (on : Option Value)
  | inhibitClr (key : Option Value)
  | getStatus
  | unknown

def refused (errorCode : Nat) : Reply := { success := false, errorCode := some errorCode }

def accepted : Reply := { success := true }

/-- `set_burn`. -/
def setBurn (dvMS direction mode tStartCuc : Option Value) : PropProgram T Reply := do
  let dv ← fromExcept (floatArg dvMS (literal 0))
  if !((literal 0).lt dv && dv.le (literal 20)) then pure (refused 0x0B0C)
  else do
    let s ← get
    let remaining ← fromExcept (dvRemainingMS c lib s)
    if remaining.lt dv then pure (refused 0x0B0D)
    else if s.state = .firing then pure (refused 0x0B0E)
    else do
      modify fun s => { s with burnDvCmdMS := dv }
      store (intArg direction 0) fun n s => { s with burnDirection := n % 2 }
      store (intArg mode 1) fun n s => { s with burnMode := n % 2 }
      store (intArg tStartCuc 0) fun n s => { s with burnTStartCuc := n }
      let s ← get
      store (predictBurnTimeS c s dv) fun x s => { s with burnTimeCmdS := x }
      modify fun s => { s with burnLoaded := true, burnLoadedMetS := s.metS }
      pure accepted

/-- The error code of the lowest interlock of a mask. -/
def lowestInterlock (mask : Nat) : Option Nat :=
  (interlockCodes.find? fun entry => mask &&& entry.1 ≠ 0).map Prod.snd

/-- `arm`. -/
def arm (armCode : Option Value) : PropProgram T Reply := do
  let code ← fromExcept (intArg armCode 0)
  let s ← get
  if code ≠ c.armCode then pure (refused 0x0B0F)
  else if s.state = .inhibit ∨ s.inhibitLatched ∨ s.groundInhibit then pure (refused 0x0B0A)
  else if s.state ≠ .safed then pure (refused 0x0B10)
  else do
    let mask := interlockMask c true s
    modify fun s => { s with armInhibitMask := mask }
    match lowestInterlock mask with
    | some errorCode => pure (refused errorCode)
    | none => do
        modify fun s => { s with state := .armed, burnStatus := .armed, abortReason := .none }
        pure accepted

/-- `disarm`. -/
def disarm : PropProgram T Reply := do
  let s ← get
  if s.state = .firing then abortBurn lib .ground none
  else when (s.state = .armed) do
    modify fun s => { s with state := .safed, burnStatus := .idle, fcvOpen := false }
  pure accepted

/-- `execute`. -/
def execute : PropProgram T Reply := do
  let s ← get
  if s.state ≠ .armed then pure (refused 0x0B11)
  else do
    modify fun s => { s with
      state := .firing, burnStatus := .firing, fcvOpen := true, burnElapsedS := literal 0,
      burnDvAtMS := literal 0, burnDvLatMS := literal 0, burnDvMagMS := literal 0,
      burns := [] :: s.burns }
    pure accepted

/-- `abort`. -/
def abort : PropProgram T Reply := do
  let s ← get
  if s.state = .firing then abortBurn lib .ground none
  else when (s.state = .armed) (modify fun s => { s with
    state := .safed, burnStatus := .aborted, abortReason := .ground, burnLoaded := false })
  pure accepted

/-- A latch valve as a command leaves it: a fault stays. -/
def Valve.drive (want v : Valve) : Valve := if v = .fault then .fault else want

/-- `iso_open` and `iso_close`. -/
def iso (want : Valve) (branch : Option Value) : PropProgram T Reply := do
  let n ← fromExcept (intArg branch 2)
  let s ← get
  modify fun s => { s with
    latchA := if n ≠ 1 then want.drive s.latchA else s.latchA
    latchB := if n ≠ 0 then want.drive s.latchB else s.latchB }
  let moved : Bool := (n ≠ 1 && s.latchA ≠ .fault) || (n ≠ 0 && s.latchB ≠ .fault)
  pure (if moved then accepted else refused 0x0B12)

/-- `set_limits`. -/
def setLimits (attErrMaxDeg pMinBar catbedMaxC tBurnMaxS : Option Value) :
    PropProgram T Reply := do
  let s ← get
  store (floatArg attErrMaxDeg s.limAttErrMaxDeg) fun x s => { s with limAttErrMaxDeg := x }
  store (floatArg pMinBar s.limPMinBar) fun x s => { s with limPMinBar := x }
  store (floatArg catbedMaxC s.limCatbedMaxC) fun x s => { s with limCatbedMaxC := x }
  store (floatArg tBurnMaxS s.limTBurnMaxS) fun x s => { s with limTBurnMaxS := x }
  pure accepted

/-- `inhibit_set`. -/
def inhibitSet (arg : Option Value) : PropProgram T Reply := do
  let on := (arg.getD (.int 1)).truthy
  modify fun s => { s with groundInhibit := on }
  let s ← get
  if on ∧ s.state = .firing then abortBurn lib .ground none
  else when (on ∧ s.state = .armed) do
    modify fun s => { s with state := .safed, burnStatus := .idle }
  pure accepted

/-- `inhibit_clr`. -/
def inhibitClr (arg : Option Value) : PropProgram T Reply := do
  let key ← fromExcept (intArg arg 0)
  if key ≠ c.armCode then pure (refused 0x0B13)
  else do
    modify fun s => { s with groundInhibit := false, inhibitLatched := false, abortCount := 0 }
    let s ← get
    when (s.state = .inhibit) (modify fun s => { s with state := .safed, burnStatus := .idle })
    pure accepted

/-- `handle_command(cmd)`. -/
def handleCommand : PropCommand → PropProgram T Reply
  | .setBurn dvMS direction mode tStartCuc => setBurn c lib dvMS direction mode tStartCuc
  | .arm armCode => arm c armCode
  | .disarm => disarm lib
  | .execute => execute
  | .abort => abort lib
  | .isoOpen branch => iso .opened branch
  | .isoClose branch => iso .closed branch
  | .setLimits attErrMaxDeg pMinBar catbedMaxC tBurnMaxS =>
      setLimits attErrMaxDeg pMinBar catbedMaxC tBurnMaxS
  | .inhibitSet on => inhibitSet lib on
  | .inhibitClr key => inhibitClr c key
  | .getStatus => pure accepted
  | .unknown => pure { success := false }

/-! ### The engine and failures -/

/-- `consume_pending_impulse()`. -/
def consumePendingImpulse : PropProgram T (Option (Impulse T)) := do
  let s ← get
  match s.pendingImpulse with
  | none => pure none
  | some imp => do
      modify fun s => { s with
        pendingImpulse := none, dvAccumMS := s.dvAccumMS.add imp.dvMagMS,
        burnDvMagMS := literal 0, burnDvAtMS := literal 0, burnDvLatMS := literal 0 }
      pure (some imp)

/-- The failures of the model. -/
inductive PropFailure where
  | leak (rateMgS : Option Value)
  | latchStuckOpen (branch rateMgS : Option Value)
  | thrustDegraded
  | tankOverpressure
  | unknown

/-- `setattr(s, name, f(...))` for the latch of a branch. -/
def PropState.setLatch (branch : Int) (f : Valve → Valve) (s : PropState T) : PropState T :=
  if branch = 0 then { s with latchA := f s.latchA } else { s with latchB := f s.latchB }

/-- `inject_failure(failure, magnitude)`. -/
def injectFailure (magnitude : FloatValue) : PropFailure → PropProgram T Unit
  | .leak rateMgS =>
      store (floatArg rateMgS (magnitude.mul (literal 2))) fun x s => { s with leakRateMgS := x }
  | .latchStuckOpen branch rateMgS => do
      let n ← fromExcept (intArg branch 0)
      modify (PropState.setLatch n fun _ => .fault)
      store (floatArg rateMgS (literal 20)) fun x s =>
        { s with leakRateMgS := maxFloat s.leakRateMgS x }
  | .thrustDegraded => modify fun s =>
      { s with perfFactor := maxFloat (minFloat magnitude (literal 1)) (literal 0) }
  | .tankOverpressure => modify fun s =>
      { s with tankPBar :=
          maxFloat s.tankPBar ((literal 24).add (magnitude.mul (literal 4))) }
  | .unknown => pure ()

/-- `clear_failure(failure)`. -/
def clearFailure : PropFailure → PropProgram T Unit
  | .leak _ => modify fun s => { s with leakRateMgS := literal 0 }
  | .latchStuckOpen branch _ => do
      let n ← fromExcept (intArg branch 0)
      modify (PropState.setLatch n fun v => if v = .fault then .opened else v)
      modify fun s => { s with leakRateMgS := literal 0 }
  | .thrustDegraded => modify fun s => { s with perfFactor := literal 1 }
  | .tankOverpressure => do
      let s ← get
      store (tankPressure c s.mPropKg) fun p s => { s with tankPBar := p }
  | .unknown => pure ()

/-! ### The flight configuration -/

/-- `prop.yaml`. -/
def flightConfig : Config where
  scDryMassKg := literal 12
  mProp0Kg := literal 4 10
  rhoKgM3 := literal 1240
  tankVCm3 := literal 560
  p0Bar := literal 22
  pEolBar := literal 933 100
  f0N := literal 33 100
  ispBolS := literal 220
  ispEolS := literal 196
  armCode := 0xA5C3
  armWindowS := literal 300
  catbedMinC := literal 180
  tankPMinBar := literal 6
  tankPMaxBar := literal 24
  propMinG := literal 5
  aocsModes := [4, 5, 9]
  attErrMaxDeg := literal 2
  socMinPct := literal 45
  minPhase := 6
  allowEclipseBurn := false

/-- The library at a zero attitude error, on vectors along an axis, with the logarithm of the wet
mass over the dry mass; dates in seconds. -/
def flightLibrary : Library ℚ where
  cos _ := literal 1
  sin _ := literal 0
  log _ := .finite false 4725511483109335 (-57)
  norm v := (v.x.abs.add v.y.abs).add v.z.abs
  before t elapsed := .ok (t - elapsed.rat)

/-- A place on the orbit. -/
def flightOrbit : OrbitState ℚ where
  inEclipse := false
  posEci := ⟨literal 6828, literal 0, literal 0⟩
  velEci := ⟨literal 0, literal 76 10, literal 0⟩
  utc := 0

/-- The parameters of a spacecraft ready for a burn. -/
def flightParams : Dict Nat Value :=
  ((Dict.empty.set 0x0409 (.int 200)).set 0x020F (.int 4)).set 0x0217 (.int 0)

end Propulsion
