import MissionSim.Propulsion
import Mathlib.Algebra.Order.Floor.Ring
import Mathlib.Algebra.Order.Field.Basic
import Mathlib.Order.Interval.Set.Defs

/-!
# The integration of a burn in exact arithmetic

The propulsion model over an ordered field: what loads, fires, integrates and ends a burn.  A
tick is integrated in sub-steps of equal length; the last of them may be cut off where the burn
reaches its command.

The direction of the delta-V and the impulse, the interlocks, and the other commands are left out:
no cut-off and no abort reads them.
-/

namespace Propulsion.Exact

variable (K : Type*) [Field K] [LinearOrder K] [IsStrictOrderedRing K]

variable {K} in
/-- A literal of the source, as a quotient. -/
def literal (n : Nat) (d : Nat := 1) : K := n / d

/-! ### State -/

/-- `0=timed, 1=closed-loop dv cut-off`. -/
inductive BurnMode where
  | timed | closedLoop
  deriving DecidableEq, Repr

/-- `int(mode) & 1`. -/
def BurnMode.ofInt (mode : Int) : BurnMode := if mode % 2 = 1 then .closedLoop else .timed

/-- The hardware sheet.  No division by a quantity of it raises. -/
structure Config where
  scDryMassKg : K
  mProp0Kg : K
  rhoKgM3 : K
  tankVCm3 : K
  p0Bar : K
  pEolBar : K
  f0N : K
  ispBolS : K
  ispEolS : K
  scDryMass_pos : 0 < scDryMassKg
  rho_ne_zero : rhoKgM3 ≠ 0
  p0_ne_zero : p0Bar ≠ 0

/-- `PropState`. -/
structure PropState where
  state : Mode := .safed
  mPropKg : K := literal 4 10
  tankPBar : K := literal 22
  catbedTempC : K := literal 5
  latchA : Valve := .opened
  latchB : Valve := .closed
  fcvOpen : Bool := false
  inhibitLatched : Bool := false
  burnCount : Nat := 0
  totalOnTimeS : K := 0
  abortReason : AbortReason := .none
  abortCount : Nat := 0
  leakRateMgS : K := 0
  /-- A failure degrades the thrust to a factor that it clamps. -/
  perfFactor : Set.Icc (0 : K) 1 := ⟨1, zero_le_one, le_rfl⟩
  burnDvCmdMS : K := 0
  burnMode : BurnMode := .closedLoop
  burnTimeCmdS : K := 0
  burnLoaded : Bool := false
  burnLoadedMetS : K := -literal 1000000000
  burnElapsedS : K := 0
  burnDvMagMS : K := 0
  burnStatus : BurnStatus := .idle
  burnDvAchievedMS : K := 0
  limAttErrMaxDeg : K := literal 2
  limPMinBar : K := literal 4
  limCatbedMaxC : K := literal 350
  limTBurnMaxS : K := literal 300
  metS : K := 0
  lastAttErrorDeg : K := 0

/-- A tick with what it reads of the other subsystems.  A reading that nobody publishes keeps the
last one; a power line that nobody publishes is on. -/
structure Tick where
  dt : K
  dt_nonneg : 0 ≤ dt
  catbedTempC : Option K := none
  attErrorDeg : Option K := none
  lineOn : Bool := true

variable {K}

/-! ### Blowdown -/

variable (c : Config K)

/-- `G0`. -/
def g0 : K := literal 980665 100000

/-- `_tank_pressure(m_prop_kg)`. -/
def tankPressure (mPropKg : K) : K :=
  let vTankM3 := c.tankVCm3 * literal 1 1000000
  let vUll0M3 := vTankM3 - c.mProp0Kg / c.rhoKgM3
  let vUllM3 := max (vTankM3 - max mPropKg 0 / c.rhoKgM3) (literal 1 1000000000)
  c.p0Bar * vUll0M3 / vUllM3

/-- `_thrust_n(p_bar)`. -/
def thrustN (s : PropState K) (pBar : K) : K := max (c.f0N * pBar / c.p0Bar) 0 * s.perfFactor

/-- `_isp_s(p_bar)`. -/
def ispS (pBar : K) : K :=
  let frac := (pBar - c.pEolBar) / max (c.p0Bar - c.pEolBar) (literal 1 1000000000)
  c.ispEolS + (c.ispBolS - c.ispEolS) * frac

/-- `_sc_mass_kg()`. -/
def scMassKg (s : PropState K) : K := c.scDryMassKg + max s.mPropKg 0

variable (log : K → K)

/-- `dv_remaining_m_s()`. -/
def dvRemainingMS (s : PropState K) : K :=
  let ispAvg := literal 1 2 * (ispS c s.tankPBar + c.ispEolS)
  ispAvg * g0 * log (max (scMassKg c s / c.scDryMassKg) 1)

/-- `predict_burn_time_s(dv_m_s)`. -/
def predictBurnTimeS (s : PropState K) (dvMS : K) : K :=
  let f := thrustN c s s.tankPBar
  if f ≤ literal 1 1000000 then 0 else dvMS * scMassKg c s / f

/-! ### Commands -/

/-- `set_burn`, with the error code of a refusal. -/
def setBurn (dv : K) (mode : Int) (s : PropState K) : Except Nat (PropState K) :=
  if ¬ (0 < dv ∧ dv ≤ literal 20) then .error 0x0B0C
  else if dvRemainingMS c log s < dv then .error 0x0B0D
  else if s.state = .firing then .error 0x0B0E
  else .ok { s with
    burnDvCmdMS := dv, burnMode := .ofInt mode, burnTimeCmdS := predictBurnTimeS c s dv,
    burnLoaded := true, burnLoadedMetS := s.metS }

/-- `execute`, with the error code of a refusal. -/
def execute (s : PropState K) : Except Nat (PropState K) :=
  if s.state ≠ .armed then .error 0x0B11
  else .ok { s with
    state := .firing, burnStatus := .firing, fcvOpen := true, burnElapsedS := 0, burnDvMagMS := 0 }

/-! ### The end of a burn -/

/-- `_complete_burn(orbit_state)`. -/
def completeBurn (s : PropState K) : PropState K :=
  { s with
    burnDvAchievedMS := s.burnDvMagMS, burnCount := s.burnCount + 1, state := .armed,
    burnStatus := .complete, fcvOpen := false, burnLoaded := false }

/-- What `_abort` keeps of a burn that fires. -/
def keepBurn (s : PropState K) : PropState K :=
  if s.state = .firing then
    { s with burnDvAchievedMS := s.burnDvMagMS, burnCount := s.burnCount + 1 }
  else s

/-- The second abort latches the inhibit. -/
def latchInhibit (s : PropState K) : PropState K :=
  if 2 ≤ s.abortCount ∧ s.inhibitLatched = false then
    { s with inhibitLatched := true, state := .inhibit }
  else s

/-- `_abort(reason, text, orbit_state)`. -/
def abortBurn (reason : AbortReason) (s : PropState K) : PropState K :=
  let s := keepBurn s
  latchInhibit { s with
    state := .safed, burnStatus := .aborted, fcvOpen := false, abortReason := reason,
    burnLoaded := false, abortCount := s.abortCount + 1 }

/-! ### Integration -/

/-- What `_integrate_burn` checks before it integrates. -/
def abortCheck (s : PropState K) : Option AbortReason :=
  if s.limAttErrMaxDeg < s.lastAttErrorDeg then some .attErr
  else if s.tankPBar < s.limPMinBar then some .lowP
  else if s.limCatbedMaxC < s.catbedTempC then some .overtemp
  else if s.limTBurnMaxS ≤ s.burnElapsedS then some .timeout
  else if !(s.latchA.flows || s.latchB.flows) then some .valve
  else if s.mPropKg ≤ 0 then some .lowP
  else none

/-- The part of a sub-step of `h` seconds where there are `left` seconds to the command, and
whether it reaches the command. -/
def lastPart (left h : K) : K × Bool := if left ≤ h then (max left 0, true) else (h, false)

/-- The part of a sub-step up to the cut-off, and whether the cut-off is reached: closed-loop on
the delta-V in mode 1, timed in mode 0. -/
def cutOff (s : PropState K) (a h : K) : K × Bool :=
  if s.burnMode = .closedLoop ∧ literal 1 1000000000 < a then
    lastPart ((s.burnDvCmdMS - s.burnDvMagMS) / a) h
  else if s.burnMode = .timed then lastPart (s.burnTimeCmdS - s.burnElapsedS) h
  else (h, false)

/-- One sub-step: its duration, the acceleration and the mass flow, and whether it is the last. -/
structure Slice (K : Type*) where
  hUse : K
  a : K
  mdot : K
  done : Bool

/-- `mdot = f_n / (isp * G0) if isp > 0 else 0.0`. -/
def massFlow (fN isp : K) : K := if 0 < isp then fN / (isp * g0) else 0

/-- `a = f_n / m`. -/
def acceleration (s : PropState K) : K :=
  thrustN c s (tankPressure c s.mPropKg) / scMassKg c s

/-- What a sub-step of at most `h` seconds computes before it changes the state. -/
def slice (h : K) (s : PropState K) : Slice K :=
  let pBar := tankPressure c s.mPropKg
  let a := acceleration c s
  let part := cutOff s a h
  { hUse := part.1, a := a, mdot := massFlow (thrustN c s pBar) (ispS c pBar), done := part.2 }

/-- The state after a sub-step. -/
def PropState.burn (x : Slice K) (s : PropState K) : PropState K :=
  { s with
    burnDvMagMS := s.burnDvMagMS + x.a * x.hUse
    mPropKg := max (s.mPropKg - x.mdot * x.hUse) 0
    burnElapsedS := s.burnElapsedS + x.hUse
    totalOnTimeS := s.totalOnTimeS + x.hUse }

/-- The loop of `_integrate_burn`; whether the cut-off was reached. -/
def burnSteps (h : K) : Nat → PropState K → PropState K × Bool
  | 0, s => (s, false)
  | n + 1, s =>
      let x := slice c h s
      let s := s.burn x
      if x.done then (s, true)
      else if s.mPropKg ≤ 0 then (s, false)
      else burnSteps h n s

/-- `max(1, min(int(math.ceil(dt / 1.0)), 600))`. -/
def subSteps [FloorRing K] (dt : K) : Nat := (max 1 (min ⌈dt / 1⌉ 600)).toNat

/-- `_integrate_burn(dt, orbit_state)`. -/
def integrateBurn [FloorRing K] (dt : K) (s : PropState K) : PropState K :=
  match abortCheck s with
  | some reason => abortBurn reason s
  | none =>
      let nSub := subSteps dt
      let r := burnSteps c (dt / nSub) nSub s
      if r.2 then completeBurn r.1
      else if r.1.mPropKg ≤ 0 then abortBurn .lowP r.1
      else r.1

/-! ### Ticks -/

/-- The clock and the readings at the start of a tick. -/
def readParams (t : Tick K) (s : PropState K) : PropState K :=
  { s with
    metS := s.metS + t.dt
    catbedTempC := t.catbedTempC.getD s.catbedTempC
    lastAttErrorDeg := t.attErrorDeg.getD s.lastAttErrorDeg }

/-- What the loss of the power line does. -/
def powerLoss (lineOn : Bool) (s : PropState K) : PropState K :=
  if lineOn then s
  else if s.state = .firing then abortBurn .lowSoc s
  else if s.state = .armed then { s with state := .safed, burnStatus := .idle }
  else s

/-- The propellant after a tick's leak. -/
def leak (dt : K) (s : PropState K) : PropState K :=
  let leakKgS := s.leakRateMgS * literal 1 1000000
  if 0 < leakKgS ∧ 0 < s.mPropKg then { s with mPropKg := max (s.mPropKg - leakKgS * dt) 0 }
  else s

/-- The firing integration of a tick. -/
def fire [FloorRing K] (dt : K) (s : PropState K) : PropState K :=
  if s.state = .firing then integrateBurn c dt s else s

/-- `tick(dt, orbit_state, shared_params)`. -/
def tick [FloorRing K] (s : PropState K) (t : Tick K) : PropState K :=
  let s := fire c t.dt (leak t.dt (powerLoss t.lineOn (readParams t s)))
  { s with tankPBar := tankPressure c s.mPropKg }

end Propulsion.Exact
