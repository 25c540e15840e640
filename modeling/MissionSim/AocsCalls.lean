import MissionSim.AocsCommands

/-!
# What a call of the tick does

The stages after the sensors leave the equipment as the sensors found it: only the power gates
touch it again.  So a call is known by what it does to each tracker, to the flags, to the wheels and
to the mode, one equation each.

The mode in which a call arrives at its mode tick is known from the state before it: the power gate,
the emergency check, the transitions and momentum management are written down as one function.
-/

namespace Aocs

open Binary32 Python Effects AocsState

variable {V : Type} (k : AocsConfig) (found : AocsPass) (s : AocsState V)

/-! ### What the stages leave -/

/-- What the stages after the sensors leave as it is. -/
structure Equipment where
  tracker : StUnit → Tracker
  stSelected : StUnit
  stValid : Bool
  cssValid : Bool
  magValid : Bool
  magSelect : MagUnit
  activeWheels : Fin 4 → Bool
  deviceOn : Device → Bool
  gpsFix : Nat
  prevGpsFix : Nat
  mtqEnabled : Bool

/-- The equipment of a state. -/
def AocsState.equipment (s : AocsState V) : Equipment where
  tracker := s.tracker
  stSelected := s.stSelected
  stValid := s.stValid
  cssValid := s.cssValid
  magValid := s.magValid
  magSelect := s.magSelect
  activeWheels := s.activeWheels
  deviceOn := s.deviceOn
  gpsFix := s.gpsFix
  prevGpsFix := s.prevGpsFix
  mtqEnabled := s.mtqEnabled

@[simp] theorem equipment_setMode (m : AocsMode) : (s.setMode m).equipment = s.equipment := by
  unfold setMode
  split <;> rfl

@[simp] theorem mode_setMode (m : AocsMode) : (s.setMode m).mode = m := by
  unfold setMode
  split
  · assumption
  · rfl

@[simp] theorem equipment_enterIf (c : Bool) (m : AocsMode) :
    (s.enterIf c m).equipment = s.equipment := by
  cases c
  · rfl
  · exact equipment_setMode s m

@[simp] theorem equipment_endSlew : s.endSlew.equipment = s.equipment := equipment_setMode s .nominal

theorem equipment_checkAutoTransitions :
    (s.checkAutoTransitions k found).equipment = s.equipment := by
  unfold checkAutoTransitions
  split
  · rfl
  · split
    · exact equipment_enterIf _ _ _
    · exact equipment_enterIf _ _ _
    · exact equipment_enterIf _ _ _
    · exact equipment_enterIf _ _ _
    · exact equipment_enterIf _ _ _
    · split
      · rfl
      · exact equipment_setMode _ _
    · exact equipment_enterIf _ _ _
    · rfl

theorem equipment_checkModes : (s.checkModes k found).equipment = s.equipment := by
  unfold checkModes
  split
  · exact equipment_setMode s .detumble
  · exact equipment_checkAutoTransitions k found s

theorem equipment_arrived : (s.arrived k found).equipment = (s.sensed k found).equipment :=
  (equipment_enterIf _ _ _).trans (equipment_checkModes k found _)

theorem equipment_tickMode : (s.tickMode found).equipment = s.equipment := by
  unfold tickMode
  split
  · rfl
  · rfl
  · split
    · exact equipment_setMode s .nominal
    · rfl
  · split
    · exact equipment_setMode s .nominal
    · split
      · exact equipment_endSlew _
      · rfl
  · rfl

theorem equipment_tickSecular : (s.tickSecular found).equipment = s.equipment := by
  unfold tickSecular
  split
  · rfl
  · rfl
  · rfl
  · dsimp only
    split
    · refine (equipment_endSlew _).trans ?_
      split <;> rfl
    · split <;> rfl

theorem equipment_ticked : (s.ticked found).equipment = s.equipment := by
  unfold ticked
  split
  · exact equipment_tickSecular found _
  · exact equipment_tickMode found _

/-- The state that a call hands to its last stages. -/
def AocsState.before (s : AocsState V) : AocsState V := (s.arrived k found).ticked found

theorem equipment_before : (s.before k found).equipment = (s.sensed k found).equipment :=
  (equipment_ticked found _).trans (equipment_arrived k found s)

/-! ### The sensors -/

/-- The sun sensor sees the sun. -/
def AocsState.cssSees : Bool :=
  !(s.cssFailed || found.eclipse) && (literal 1 100).lt (k.length (composite (s.readHeads found)))

/-- A magnetometer reads. -/
def AocsState.magReads : Bool := !s.magFailed && !s.mode.dark && s.magSource.isSome

/-- The fix of the receiver after a call. -/
def AocsState.nextFix : Nat :=
  let timer := s.gpsTtffTimer.add found.dt
  let target := k.ttff s.gpsStartMode
  if !s.gpsPowered then 0
  else if s.searching k found then if randint 0 3 found.sats < 3 then 0 else 1
  else if timer.lt (target.mul (literal 8 10)) then if 4 ≤ randint 4 8 found.sats then 2 else 1
  else if target.le timer then 3
  else 2

/-- **A receiver has a lock once it is powered and past its search.** -/
theorem two_le_nextFix :
    2 ≤ s.nextFix k found ↔ s.gpsPowered = true ∧ s.searching k found = false := by
  have hmiddle : 4 ≤ randint 4 8 found.sats := Nat.le_add_right 4 _
  unfold nextFix
  cases s.gpsPowered with
  | false => simp
  | true =>
      cases s.searching k found with
      | true =>
          simp only [Bool.not_true, Bool.false_eq_true, if_false, if_true]
          split <;> simp
      | false =>
          simp only [Bool.not_true, Bool.false_eq_true, if_false, hmiddle, if_true]
          split
          · simp
          · split <;> simp

theorem gatePower_eq :
    ∃ submode time st css mag, s.gatePower found = { s with
      mode := if found.line then s.mode else .off, submode := submode, timeInMode := time
      stValid := st, cssValid := css, magValid := mag } := by
  unfold gatePower
  cases found.line with
  | true => exact ⟨_, _, _, _, _, rfl⟩
  | false =>
      by_cases hoff : s.mode = .off
      · rw [if_neg (by simp [hoff])]
        refine ⟨s.submode, s.timeInMode, s.stValid, s.cssValid, s.magValid, ?_⟩
        rw [if_neg Bool.false_ne_true, ← hoff]
      · rw [if_pos (by simpa using hoff)]
        exact ⟨_, _, _, _, _, rfl⟩

theorem tickCss_eq :
    ∃ sun heads, s.tickCss k found =
      { s with cssValid := s.cssSees k found, cssSun := sun, cssHeads := heads } := by
  unfold tickCss cssSees
  cases hdown : s.cssFailed || found.eclipse with
  | true => exact ⟨_, _, rfl⟩
  | false =>
      dsimp only
      cases hsun : (literal 1 100).lt (k.length (composite (s.readHeads found))) with
      | true | false => exact ⟨_, _, rfl⟩

theorem tickMagnetometer_eq :
    ∃ mag units, s.tickMagnetometer found =
      { s with magValid := s.magReads, mag := mag, magUnit := units } := by
  unfold tickMagnetometer magReads
  cases s.magFailed with
  | true => exact ⟨_, _, rfl⟩
  | false =>
      cases s.mode.dark with
      | true => exact ⟨_, _, rfl⟩
      | false =>
          cases s.magSource with
          | none | some => exact ⟨_, _, rfl⟩

theorem tickGps_eq :
    ∃ sats timer start, s.tickGps k found =
      { s with
        gpsFix := s.nextFix k found, gpsNumSats := sats, gpsTtffTimer := timer
        gpsStartMode := start } := by
  unfold tickGps nextFix
  cases hpowered : s.gpsPowered with
  | false =>
      simp only [Bool.not_false, if_true]
      split <;> exact ⟨_, _, _, rfl⟩
  | true =>
      simp only [Bool.not_true, Bool.false_eq_true, if_false]
      split
      · exact ⟨_, _, _, rfl⟩
      · split
        · exact ⟨_, _, _, rfl⟩
        · split <;> exact ⟨_, _, _, rfl⟩

theorem tickEstimator_eq :
    ∃ q rate ekf timer, s.tickEstimator found =
      { s with q := q, rate := rate, ekf := ekf, fineConvTimer := timer } := by
  unfold tickEstimator
  split
  · exact ⟨s.q, s.rate, s.ekf, s.fineConvTimer, rfl⟩
  · exact ⟨_, _, _, _, rfl⟩

/-- A tracker after the sensors. -/
def AocsState.nextTracker (u : StUnit) : Tracker :=
  (s.tracker u).tick found.dt (found.blinded u) (randint 8 20 (found.stars u))

/-- The state that the power gate leaves. -/
def AocsState.energised (s : AocsState V) : AocsState V :=
  { s with mode := if found.line then s.mode else .off }

theorem sensed_gatePower :
    (s.gatePower found).mode = (s.energised found).mode ∧
      (s.gatePower found).nextTracker found = s.nextTracker found ∧
      (s.gatePower found).cssSees k found = s.cssSees k found ∧
      (s.gatePower found).magReads = (s.energised found).magReads ∧
      (s.gatePower found).nextFix k found = (s.energised found).nextFix k found ∧
      ∃ st css mag, (s.gatePower found).equipment =
        { s.equipment with stValid := st, cssValid := css, magValid := mag } := by
  obtain ⟨submode, time, st, css, mag, h⟩ := gatePower_eq found s
  rw [h]
  exact ⟨rfl, rfl, rfl, rfl, rfl, st, css, mag, rfl⟩

/-- The state with the trackers read. -/
def AocsState.starred (s : AocsState V) : AocsState V := (s.syncWheels k).tickStarTrackers found

theorem sensed_starred :
    (s.starred k found).mode = s.mode ∧ (s.starred k found).cssSees k found = s.cssSees k found ∧
      (s.starred k found).magReads = s.magReads ∧
      (s.starred k found).nextFix k found = s.nextFix k found ∧
      (s.starred k found).equipment = { s.equipment with
        tracker := s.nextTracker found
        stValid := (s.nextTracker found s.stSelected).status == .tracking } :=
  ⟨rfl, rfl, rfl, rfl, rfl⟩

theorem sensed_tickCss :
    (s.tickCss k found).mode = s.mode ∧ (s.tickCss k found).magReads = s.magReads ∧
      (s.tickCss k found).nextFix k found = s.nextFix k found ∧
      (s.tickCss k found).equipment = { s.equipment with cssValid := s.cssSees k found } := by
  obtain ⟨sun, heads, h⟩ := tickCss_eq k found s
  rw [h]
  exact ⟨rfl, rfl, rfl, rfl⟩

theorem sensed_tickMagnetometer :
    (s.tickMagnetometer found).mode = s.mode ∧
      (s.tickMagnetometer found).nextFix k found = s.nextFix k found ∧
      (s.tickMagnetometer found).equipment = { s.equipment with magValid := s.magReads } := by
  obtain ⟨mag, units, h⟩ := tickMagnetometer_eq found s
  rw [h]
  exact ⟨rfl, rfl, rfl⟩

theorem sensed_tickGyroAndGps :
    (s.tickGyroAndGps k found).mode = s.mode ∧
      (s.tickGyroAndGps k found).equipment =
        { s.equipment with gpsFix := s.nextFix k found } := by
  unfold tickGyroAndGps
  obtain ⟨sats, timer, start, h⟩ := tickGps_eq k found
    { s with trueGyroBias := found.gyroBias, gyroBias := found.gyroBias }
  rw [h]
  exact ⟨rfl, rfl⟩

theorem sensed_tickEstimator :
    (s.tickEstimator found).mode = s.mode ∧ (s.tickEstimator found).equipment = s.equipment := by
  obtain ⟨q, rate, ekf, timer, h⟩ := tickEstimator_eq found s
  rw [h]
  exact ⟨rfl, rfl⟩

/-- **What the sensors find.** -/
theorem sensed_found :
    (s.sensed k found).mode = (s.energised found).mode ∧
      (s.sensed k found).equipment = { s.equipment with
        tracker := s.nextTracker found
        stValid := (s.nextTracker found s.stSelected).status == .tracking
        cssValid := s.cssSees k found
        magValid := (s.energised found).magReads
        gpsFix := (s.energised found).nextFix k found } := by
  obtain ⟨hmode, htracker, hcss, hmag, hfix, st, css, mag, hequipment⟩ := sensed_gatePower k found s
  obtain ⟨hmode₁, hcss₁, hmag₁, hfix₁, hequipment₁⟩ := sensed_starred k found (s.gatePower found)
  obtain ⟨hmode₂, hmag₂, hfix₂, hequipment₂⟩ :=
    sensed_tickCss k found ((s.gatePower found).starred k found)
  obtain ⟨hmode₃, hfix₃, hequipment₃⟩ :=
    sensed_tickMagnetometer k found (((s.gatePower found).starred k found).tickCss k found)
  obtain ⟨hmode₄, hequipment₄⟩ := sensed_tickGyroAndGps k found
    ((((s.gatePower found).starred k found).tickCss k found).tickMagnetometer found)
  obtain ⟨hmode₅, hequipment₅⟩ := sensed_tickEstimator found
    (((((s.gatePower found).starred k found).tickCss k found).tickMagnetometer
      found).tickGyroAndGps k found)
  have hselected : (s.gatePower found).stSelected = s.stSelected :=
    congrArg Equipment.stSelected hequipment
  constructor
  · exact hmode₅.trans (hmode₄.trans (hmode₃.trans (hmode₂.trans (hmode₁.trans hmode))))
  · refine hequipment₅.trans ?_
    rw [hequipment₄, hfix₃, hfix₂, hfix₁, hfix, hequipment₃, hmag₂, hmag₁, hmag, hequipment₂,
      hcss₁, hcss, hequipment₁, htracker, hselected, hequipment]

/-! ### The mode of a call -/

/-- The mode that `_check_auto_transitions` asks for. -/
def AocsState.autoTarget : Option AocsMode :=
  if s.timeInMode.lt s.mode.minDwell then none
  else match s.mode with
    | .safeBoot => if (literal 30).le s.timeInMode then some .detumble else none
    | .detumble =>
        let s := s.guardWhile found ((k.length s.rate).lt (literal 1 2))
        if (literal 30).le s.guardTimer then some .coarseSun else none
    | .coarseSun =>
        let s := s.guardWhile found (s.cssValid && s.attError.lt (literal 10))
        if (literal 60).le s.guardTimer && s.stValid then some .nominal else none
    | .nominal | .finePoint =>
        let s := s.guardEclipse found
        if found.eclipse && (literal 5).le s.guardTimer then some .eclipse else none
    | .eclipse =>
        if found.eclipse then none else if s.stValid then some .nominal else some .coarseSun
    | .desat =>
        let s := s.guardWhile found (s.wheelsSlow k)
        if (literal 10).le s.guardTimer then some .nominal else none
    | _ => none

/-- The mode that the guards ask for. -/
def AocsState.dueMode : AocsMode :=
  if s.emergency k then .detumble else (s.autoTarget k found).getD s.mode

/-- The mode in which a call arrives at its mode tick. -/
def AocsState.arrivalMode : AocsMode :=
  let s := s.sensed k found
  let m := s.dueMode k found
  if s.momMgmtEnable && m ∈ [AocsMode.nominal, .finePoint, .inertial, .eclipse] &&
      s.momMgmtEntryPct.le (s.hEnvFrac k) then .desat
  else m

theorem mode_enterIf (c : Bool) (m : AocsMode) :
    (s.enterIf c m).mode = (if c then some m else none).getD s.mode := by
  cases c
  · rfl
  · exact mode_setMode s m

theorem mode_checkAutoTransitions :
    (s.checkAutoTransitions k found).mode = (s.autoTarget k found).getD s.mode := by
  unfold checkAutoTransitions autoTarget
  split
  · rfl
  · cases hmode : s.mode with
    | off | slew | inertial => exact hmode
    | safeBoot | detumble | coarseSun | nominal | finePoint
    | desat => exact (mode_enterIf _ _ _).trans (congrArg (Option.getD _) hmode)
    | eclipse =>
        dsimp only
        split
        · exact hmode
        · rw [mode_setMode]
          split <;> rfl

theorem mode_checkModes : (s.checkModes k found).mode = s.dueMode k found := by
  unfold checkModes dueMode
  split
  · exact mode_setMode s .detumble
  · exact mode_checkAutoTransitions k found s

/-- What momentum management reads. -/
def AocsState.momentum (s : AocsState V) : Bool × FloatValue × (Fin 4 → FloatValue) :=
  (s.momMgmtEnable, s.momMgmtEntryPct, s.hWheel)

theorem momentum_setMode (m : AocsMode) : (s.setMode m).momentum = s.momentum := by
  unfold setMode
  split <;> rfl

theorem momentum_enterIf (c : Bool) (m : AocsMode) : (s.enterIf c m).momentum = s.momentum := by
  cases c
  · rfl
  · exact momentum_setMode s m

theorem momentum_checkModes : (s.checkModes k found).momentum = s.momentum := by
  unfold checkModes
  split
  · exact momentum_setMode s .detumble
  · unfold checkAutoTransitions
    split
    · rfl
    · split
      · exact momentum_enterIf _ _ _
      · exact momentum_enterIf _ _ _
      · exact momentum_enterIf _ _ _
      · exact momentum_enterIf _ _ _
      · exact momentum_enterIf _ _ _
      · split
        · rfl
        · exact momentum_setMode _ _
      · exact momentum_enterIf _ _ _
      · rfl

/-- **A call arrives at its mode tick in the mode of the guards.** -/
theorem mode_arrived : (s.arrived k found).mode = s.arrivalMode k found := by
  unfold arrived manageMomentum
  have hsame := momentum_checkModes k found (s.sensed k found)
  have henable : ((s.sensed k found).checkModes k found).momMgmtEnable =
      (s.sensed k found).momMgmtEnable := congrArg Prod.fst hsame
  have hentry : ((s.sensed k found).checkModes k found).momMgmtEntryPct =
      (s.sensed k found).momMgmtEntryPct := congrArg (fun p => p.2.1) hsame
  have hwheel : ((s.sensed k found).checkModes k found).hWheel = (s.sensed k found).hWheel :=
    congrArg (fun p => p.2.2) hsame
  have hfrac : ((s.sensed k found).checkModes k found).hEnvFrac k =
      (s.sensed k found).hEnvFrac k := by
    unfold hEnvFrac
    rw [hwheel]
  rw [mode_enterIf]
  unfold saturated arrivalMode
  rw [henable, hentry, hfrac, mode_checkModes]
  dsimp only
  split <;> rfl

theorem tickMode_off (h : s.mode = .off) : (s.tickMode found).mode = .off := by
  simp only [tickMode, coast, h]

theorem tickSecular_off (h : s.mode = .off) : (s.tickSecular found).mode = .off := by
  simp only [tickSecular, h]

/-- The mode tick leaves a mode that is off. -/
theorem ticked_off (h : s.mode = .off) : (s.ticked found).mode = .off := by
  unfold ticked
  split
  · exact tickSecular_off found _ h
  · exact tickMode_off found _ h

/-! ### Calls -/

/-- The trackers after the power gates. -/
def Equipment.gatedTracker (e : Equipment) (u : StUnit) : Tracker :=
  (e.tracker u).gate (e.deviceOn (.starTracker u))

/-- The equipment after the power gates. -/
def Equipment.gated (e : Equipment) : Equipment :=
  { e with
    tracker := e.gatedTracker
    stValid := e.stValid && (e.gatedTracker e.stSelected).status == .tracking
    cssValid := e.cssValid && e.deviceOn .sunSensor
    magValid := e.magValid &&
      !(!e.deviceOn (.magnetometer .A) && !e.deviceOn (.magnetometer .B)) &&
      e.deviceOn (.magnetometer e.magSelect)
    activeWheels := fun i => e.deviceOn (.wheel i) && e.activeWheels i }

/-- The fix is kept for the next call. -/
def Equipment.noted (e : Equipment) : Equipment := { e with prevGpsFix := e.gpsFix }

/-- What the sensors make of the equipment. -/
def AocsState.foundEquipment : Equipment :=
  { s.equipment with
    tracker := s.nextTracker found
    stValid := (s.nextTracker found s.stSelected).status == .tracking
    cssValid := s.cssSees k found
    magValid := (s.energised found).magReads
    gpsFix := (s.energised found).nextFix k found }

/-- The mode and the equipment of a state. -/
def AocsState.view (s : AocsState V) : AocsMode × Equipment := (s.mode, s.equipment)

theorem view_mask (mask : Nat) : ({ s with fineReadyMask := mask } : AocsState V).view = s.view := rfl

theorem view_tickWheels : (s.tickWheels k found).view = s.view := rfl

theorem view_tickMagnetorquers : s.tickMagnetorquers.view = s.view := rfl

theorem view_applyDevicePowerGates :
    s.applyDevicePowerGates.view = s.view.map id Equipment.gated := rfl

theorem view_mark (e : Bool) : ({ s with prevInEclipse := e } : AocsState V).view = s.view := rfl

theorem view_generateTickEvents (m : AocsMode) :
    (s.generateTickEvents m).1.view = s.view.map id Equipment.noted := rfl

theorem view_publish : s.publish.view = s.view := rfl

theorem view_settled : (s.settled k found).view = s.view.map id Equipment.gated := by
  unfold settled
  rw [view_mark, view_applyDevicePowerGates, view_tickMagnetorquers, view_tickWheels, view_mask]

/-- **What a call makes of the mode and of the equipment.** -/
theorem view_pass :
    (pass k found s).1.view =
      ((s.before k found).mode, (s.foundEquipment k found).gated.noted) := by
  have hbefore : (s.before k found).equipment = s.foundEquipment k found :=
    (equipment_before k found s).trans (sensed_found k found s).2
  unfold pass
  rw [view_publish, view_generateTickEvents, view_settled, ← hbefore]
  rfl

theorem mode_pass : (pass k found s).1.mode = (s.before k found).mode :=
  congrArg Prod.fst (view_pass k found s)

theorem equipment_pass : (pass k found s).1.equipment = (s.foundEquipment k found).gated.noted :=
  congrArg Prod.snd (view_pass k found s)

/-- **With its line off, a call ends in the mode off.** -/
theorem mode_pass_dark (h : found.line = false) : (pass k found s).1.mode = .off := by
  have hsensed : (s.sensed k found).mode = .off := by
    rw [(sensed_found k found s).1]
    unfold energised
    rw [h]
    rfl
  have hdue : (s.sensed k found).dueMode k found = .off := by
    unfold dueMode emergency autoTarget
    rw [hsensed]
    simp only [AocsMode.dark, Bool.not_true, Bool.and_false, Bool.false_and, Bool.false_eq_true,
      if_false]
    split <;> rfl
  have harrived : (s.arrived k found).mode = .off := by
    rw [mode_arrived]
    unfold arrivalMode
    dsimp only
    rw [hdue]
    simp only [List.mem_cons, reduceCtorEq, List.not_mem_nil, or_self, decide_false,
      Bool.and_false, Bool.false_and, Bool.false_eq_true, if_false]
  rw [mode_pass]
  exact ticked_off found _ harrived

end Aocs
