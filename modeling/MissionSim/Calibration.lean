import MissionSim.ImageStore
import MissionSim.Runs
import Mathlib.Data.Rat.Floor
import Mathlib.Tactic.FieldSimp

/-!
# Calibration of the imager

A calibration takes dark frames, flat frames, or both one after the other.  Each phase is to last
half of the calibration's duration, by a timer that counts down from there.  A phase that comes last
does.  The dark frames of a calibration of both kinds do not: that phase is over when the timer is
down to half of the duration, where it starts, so it lasts one tick, however long.

Time is exact.  The stamp of a completed calibration and its event are left out.
-/

namespace Payload

open Python Effects List

/-! ### State -/

/-- `0=IDLE, 1=DARK_FRAME, 2=FLAT_FIELD, 3=COMPLETE`. -/
inductive CalibrationPhase where
  | idle | darkFrame | flatField | complete
  deriving DecidableEq, Repr

/-- The calibration in `PayloadState`, with the coefficients of the four bands.  Nothing writes its
duration. -/
structure CalibrationState where
  calLampOn : Bool := false
  gainCoeff : List (Option ℚ) := [none, none, none, none]
  biasCoeff : List (Option ℚ) := [none, none, none, none]
  calibrationValidMask : Nat := 0
  darkFrameCount : Int := 0
  flatFrameCount : Int := 0
  calibrationActive : Bool := false
  calibrationProgress : ℚ := 0
  calibrationState : CalibrationPhase := .idle
  calibrationMode : Int := 2
  calibrationDurationS : ℚ := 30
  calibrationTimer : ℚ := 0

/-- The payload with its calibration. -/
structure Imager where
  payload : PayloadState
  calibration : CalibrationState

abbrev ImagerProgram (α : Type) := EStateM PyError Imager α

/-! ### Commands -/

/-- What the commands of the calibration answer. -/
inductive CalibrationReply where
  | started | aborted | lampSet
  | alreadyInProgress | notImaging | noActive
  | unknownMode (mode : Int)
  | lampPoweredOff
  deriving DecidableEq, Repr

/-- `error_code` of the refusals that have one. -/
def CalibrationReply.errorCode : CalibrationReply → Option Nat
  | .unknownMode _ => some 0x0003
  | .lampPoweredOff => some 0x0007
  | .started | .aborted | .lampSet | .alreadyInProgress | .notImaging | .noActive => none

/-- Half of the duration, the length of a phase. -/
def CalibrationState.half (c : CalibrationState) : ℚ := c.calibrationDurationS / 2

/-- A calibration begins. -/
def CalibrationState.begin (mode : Int) (c : CalibrationState) : CalibrationState :=
  { c with
    calibrationActive := true
    calibrationMode := mode
    calibrationState := if mode = 1 then .flatField else .darkFrame
    calibrationProgress := 0
    calibrationTimer := c.half
    darkFrameCount := 0
    flatFrameCount := 0 }

/-- `start_calibration`. -/
def startCalibration (mode : Option Value) : ImagerProgram CalibrationReply := do
  let im ← get
  if im.calibration.calibrationActive then pure .alreadyInProgress
  else if im.payload.mode ≠ 2 then pure .notImaging
  else do
    let m ← fromExcept (intArg mode 2)
    if m ∈ [0, 1, 2] then do
      modify fun im => { im with calibration := im.calibration.begin m }
      pure .started
    else pure (.unknownMode m)

/-- `set_cal_lamp`. -/
def setCalLamp (on : Bool) : ImagerProgram CalibrationReply := do
  let im ← get
  if on ∧ ¬ im.payload.powered 0x0602 then pure .lampPoweredOff
  else do
    modify fun im => { im with calibration := { im.calibration with calLampOn := on } }
    pure .lampSet

/-- `stop_calibration`. -/
def stopCalibration : ImagerProgram CalibrationReply := do
  let im ← get
  if im.calibration.calibrationActive then do
    modify fun im => { im with calibration :=
      { im.calibration with
        calibrationActive := false
        calibrationState := .idle
        calibrationProgress := 0
        calibrationTimer := 0 } }
    pure .aborted
  else pure .noActive

/-! ### Ticks -/

/-- A calibration that is lost with the power of the imager. -/
def CalibrationState.lost (c : CalibrationState) : CalibrationState :=
  { c with
    calibrationActive := false
    calibrationState := .idle
    calibrationProgress := 0
    darkFrameCount := 0
    flatFrameCount := 0 }

/-- `int(x)`. -/
def truncated (x : ℚ) : Int := if 0 ≤ x then ⌊x⌋ else ⌈x⌉

/-- The frames of a phase, ten in all. -/
def CalibrationState.frames (c : CalibrationState) : Int :=
  if c.calibrationTimer ≤ 0 then 10
  else max 0 (truncated ((c.half - c.calibrationTimer) / c.half * 10))

/-- The share of a phase that is over, in percent. -/
def CalibrationState.share (c : CalibrationState) : ℚ :=
  100 * (c.half - c.calibrationTimer) / c.half

/-- A calibration is complete. -/
def CalibrationState.completed (c : CalibrationState) : CalibrationState :=
  { c with calibrationActive := false, calibrationState := .complete, calibrationProgress := 100 }

/-- The phase of dark frames, once the timer has been counted down. -/
def CalibrationState.takeDark (c : CalibrationState) : CalibrationState :=
  if c.calibrationMode = 0 then
    if c.calibrationTimer ≤ 0 then
      { c with darkFrameCount := 10, biasCoeff := List.replicate 4 (some 0) }.completed
    else { c with darkFrameCount := c.frames, calibrationProgress := min 100 c.share }
  -- the timer starts at half the duration, so the test holds at the first tick
  else if c.calibrationTimer ≤ c.half then
    { c with
      darkFrameCount := 10
      calibrationProgress := c.share
      calibrationState := .flatField
      calibrationTimer := c.half }
  else { c with darkFrameCount := c.frames, calibrationProgress := c.share }

/-- The phase of flat frames, once the timer has been counted down. -/
def CalibrationState.takeFlat (c : CalibrationState) : CalibrationState :=
  let counted := { c with
    flatFrameCount := c.frames
    calibrationProgress :=
      if c.calibrationMode = 1 then min 100 c.share
      else 50 + 50 * (c.half - c.calibrationTimer) / c.half }
  if c.calibrationTimer ≤ 0 then
    { counted with
      biasCoeff := List.replicate 4 (some 0)
      gainCoeff := List.replicate 4 (some 1)
      calibrationValidMask := if c.calibrationMode = 2 then 0x0F else c.calibrationValidMask
      }.completed
  else counted

/-- The calibration in a tick. -/
def CalibrationState.advance (dt : ℚ) (c : CalibrationState) : CalibrationState :=
  if c.calibrationActive then
    let counted := { c with calibrationTimer := c.calibrationTimer - dt }
    match c.calibrationState with
    | .darkFrame => counted.takeDark
    | .flatField => counted.takeFlat
    | .idle | .complete => counted
  else c

/-- The power line, and what of the calibration is left without it. -/
def Imager.lineGate (found : Surroundings) (im : Imager) : Imager where
  payload := im.payload.lineGate found
  calibration :=
    if ¬ found.line ∧ im.payload.mode ≠ 0 then im.calibration.lost else im.calibration

/-- The calibration goes on while the imager is on. -/
def Imager.calibrate (dt : ℚ) (im : Imager) : Imager :=
  { im with calibration :=
      (if im.calibration.calibrationActive ∧ im.payload.mode ≤ 0 then im.calibration.lost
        else im.calibration).advance dt }

/-- The lamp in `_apply_device_power_gates(s)`. -/
def Imager.lampGate (im : Imager) : Imager :=
  if im.payload.powered 0x0602 then im
  else { im with calibration :=
    { im.calibration with
      calLampOn := false
      calibrationActive := false
      calibrationState :=
        if im.calibration.calibrationActive then .idle else im.calibration.calibrationState
      calibrationProgress :=
        if im.calibration.calibrationActive then 0 else im.calibration.calibrationProgress } }

/-- `tick(dt)`: the power line, the calibration, and the rest of the payload. -/
def imagerTick (found : Surroundings) : ImagerProgram Unit := do
  modify (Imager.lineGate found)
  modify (Imager.calibrate found.dt)
  zoom Imager.payload (fun payload im => { im with payload }) (tick found)
  modify Imager.lampGate

/-! ### An imager that stays on -/

/-- The imager is in imaging mode, and the devices are on without which a calibration is lost. -/
structure Imager.On (im : Imager) : Prop where
  imaging : im.payload.mode = 2
  detector : im.payload.powered 0x0600 = true
  lamp : im.payload.powered 0x0602 = true

/-- The devices stay as they are, and the mode with the detector on. -/
def ModeKept (s s' : PayloadState) : Prop :=
  s'.deviceStates = s.deviceStates ∧ (s.powered 0x0600 = true → s'.mode = s.mode)

instance : Std.Refl ModeKept := ⟨fun _ => ⟨rfl, fun _ => rfl⟩⟩

instance : IsTrans PayloadState ModeKept where
  trans s mid s' h h' := by
    have hpowered : mid.powered 0x0600 = s.powered 0x0600 := by
      unfold PayloadState.powered
      rw [h.1]
    constructor
    · exact h'.1.trans h.1
    · intro hon
      rw [h'.2 (hpowered.trans hon), h.2 hon]

variable {found : Surroundings}

theorem prepare_modeKept (hline : found.line = true) (s : PayloadState) :
    ModeKept s (s.prepare found) := by
  have hgate : s.lineGate found = s := by simp [PayloadState.lineGate, hline]
  unfold PayloadState.prepare PayloadState.settle
  rw [hgate]
  split_ifs
  · exact ⟨rfl, fun _ => rfl⟩
  · exact ⟨rfl, fun _ => rfl⟩

theorem generate_modeKept (found : Surroundings) : Keeps ModeKept (generate found) := by
  apply keeps_bind keeps_get
  intro s
  apply keeps_when
  intro _
  apply keeps_bind (keeps_modify fun _ => ⟨rfl, fun _ => rfl⟩)
  intro _
  apply keeps_bind
  · apply keeps_bind keeps_get
    intro s
    exact keeps_store fun _ _ => ⟨rfl, fun _ => rfl⟩
  · intro _
    exact keeps_modify fun _ => ⟨rfl, fun _ => rfl⟩

theorem follow_modeKept (found : Surroundings) (s : PayloadState) :
    ModeKept s (s.follow found) := by
  have hgates : ∀ s : PayloadState, ModeKept s s.applyDevicePowerGates := by
    intro s
    constructor
    · rfl
    · intro hon
      simp [PayloadState.applyDevicePowerGates, hon]
  obtain ⟨mid, seen, mode, err, stab, remaining, worst, quality, images, -, rfl, hfollow⟩ :=
    follow_eq found s
  rw [hfollow]
  exact trans_of ModeKept ⟨rfl, fun _ => rfl⟩ (hgates _)

theorem tick_modeKept (hline : found.line = true) : Keeps ModeKept (tick found) := by
  apply keeps_bind (keeps_modify (prepare_modeKept hline))
  intro _
  apply keeps_bind (generate_modeKept found)
  intro _
  exact keeps_modify (follow_modeKept found)

/-- A tick of the imager, also one that raises. -/
def imagerStep (im : Imager) (found : Surroundings) : Imager := finalState (imagerTick found) im

/-- An imager that is on stays on, and a tick does to its calibration what the time does. -/
theorem imagerStep_on {im : Imager} (h : im.On) (hline : found.line = true) :
    (imagerStep im found).On ∧
      (imagerStep im found).calibration = im.calibration.advance found.dt := by
  have hgate : im.lineGate found = im := by
    simp [Imager.lineGate, PayloadState.lineGate, hline]
  have hon : ∀ payload : PayloadState, ModeKept im.payload payload →
      Imager.On ⟨payload, im.calibration.advance found.dt⟩ := by
    intro payload hkept
    have hpowered : ∀ device, payload.powered device = im.payload.powered device := by
      intro device
      unfold PayloadState.powered
      rw [hkept.1]
    constructor
    · exact (hkept.2 h.detector).trans h.imaging
    · exact (hpowered _).trans h.detector
    · exact (hpowered _).trans h.lamp
  have hcalibrate : im.calibrate found.dt = ⟨im.payload, im.calibration.advance found.dt⟩ := by
    simp [Imager.calibrate, h.imaging]
  apply (wp_state (P := fun im' : Imager =>
    im'.On ∧ im'.calibration = im.calibration.advance found.dt)).mp
  unfold imagerTick
  simp only [wp_bind, wp_modify, wp_zoom, hgate, hcalibrate]
  apply wp_mono (tick_modeKept hline im.payload)
  · intro _ payload hkept
    have hstays := hon payload hkept
    have hlamp : Imager.lampGate ⟨payload, im.calibration.advance found.dt⟩ =
        ⟨payload, im.calibration.advance found.dt⟩ := if_pos hstays.lamp
    rw [hlamp]
    exact ⟨hstays, rfl⟩
  · intro _ payload hkept
    exact ⟨hon payload hkept, trivial⟩

/-! ### The last phase -/

/-- The phase that a calibration ends with. -/
def lastPhase (mode : Int) : CalibrationPhase := if mode = 0 then .darkFrame else .flatField

/-- The progress when the last phase is `t` old, in percent. -/
def progressAt (mode : Int) (half t : ℚ) : ℚ :=
  let before : ℚ := if mode = 2 then 50 else 0
  before + (100 - before) * min 1 (t / half)

/-- The last phase is `t` old, and goes on. -/
structure Counting (mode : Int) (half t : ℚ) (c : CalibrationState) : Prop where
  known : mode = 0 ∨ mode = 1 ∨ mode = 2
  positive : 0 < half
  active : c.calibrationActive = true
  calibrationMode : c.calibrationMode = mode
  calibrationState : c.calibrationState = lastPhase mode
  half_eq : c.half = half
  timer : c.calibrationTimer = half - t
  short : t < half

/-- The calibration is over. -/
structure Finished (c : CalibrationState) : Prop where
  active : c.calibrationActive = false
  calibrationState : c.calibrationState = .complete
  calibrationProgress : c.calibrationProgress = 100

variable {mode : Int} {half t dt : ℚ} {c : CalibrationState}

theorem progressAt_mono (hpositive : 0 < half) {t' : ℚ} (h : t ≤ t') :
    progressAt mode half t ≤ progressAt mode half t' := by
  have hquotient : min 1 (t / half) ≤ min 1 (t' / half) :=
    min_le_min_left 1 (div_le_div_of_nonneg_right h hpositive.le)
  have hleft : (0 : ℚ) ≤ 100 - if mode = 2 then 50 else 0 := by split_ifs <;> norm_num
  exact add_le_add_right (mul_le_mul_of_nonneg_left hquotient hleft) _

theorem progressAt_of_le (hpositive : 0 < half) (h : half ≤ t) : progressAt mode half t = 100 := by
  have hone : min 1 (t / half) = 1 := min_eq_left ((one_le_div hpositive).mpr h)
  unfold progressAt
  rw [hone]
  ring

theorem progressAt_of_lt (hpositive : 0 < half) (h : t < half) :
    progressAt mode half t =
      if mode = 2 then 50 + 50 * t / half else 100 * t / half := by
  have hshare : min 1 (t / half) = t / half := min_eq_right ((div_le_one hpositive).mpr h.le)
  unfold progressAt
  rw [hshare]
  split_ifs
  · ring
  · ring

/-- A tick takes the frames of the last phase, once its timer has been counted down. -/
theorem advance_last (h : Counting mode half t c) :
    c.advance dt =
      if mode = 0 then { c with calibrationTimer := half - (t + dt) }.takeDark
      else { c with calibrationTimer := half - (t + dt) }.takeFlat := by
  have hcounted : c.calibrationTimer - dt = half - (t + dt) := by
    rw [h.timer]
    ring
  unfold CalibrationState.advance
  rw [if_pos h.active, h.calibrationState, hcounted, lastPhase]
  split_ifs
  · rfl
  · rfl

open CalibrationState

/-- The last phase ends. -/
theorem Counting.ends (h : Counting mode half t c) (hend : half ≤ t + dt) :
    Finished (c.advance dt) := by
  have hover : half - (t + dt) ≤ 0 := sub_nonpos.mpr hend
  rw [advance_last h]
  by_cases hmode : mode = 0
  · have hdark : c.calibrationMode = 0 := h.calibrationMode.trans hmode
    simp only [hmode, if_true, takeDark, hdark, hover]
    exact ⟨rfl, rfl, rfl⟩
  · simp only [hmode, if_false, takeFlat, hover, if_true]
    exact ⟨rfl, rfl, rfl⟩

/-- The last phase goes on. -/
theorem Counting.goes (h : Counting mode half t c) (hshort : t + dt < half) :
    Counting mode half (t + dt) (c.advance dt) ∧
      (c.advance dt).calibrationProgress = progressAt mode half (t + dt) := by
  have hgoes : ¬ half - (t + dt) ≤ 0 := by
    rw [sub_nonpos]
    exact hshort.not_ge
  have hhalf : c.calibrationDurationS / 2 = half := h.half_eq
  have hpassed : half - (half - (t + dt)) = t + dt := sub_sub_cancel half (t + dt)
  have hshare : 100 * (t + dt) / half ≤ 100 := by
    rw [div_le_iff₀ h.positive]
    linarith
  rw [progressAt_of_lt h.positive hshort, advance_last h]
  by_cases hmode : mode = 0
  · subst hmode
    simp only [if_true, takeDark, h.calibrationMode, hgoes, if_false]
    constructor
    · exact ⟨h.known, h.positive, h.active, rfl, h.calibrationState, h.half_eq, rfl, hshort⟩
    · simp only [share, CalibrationState.half, hhalf, hpassed, min_eq_right hshare]
      rfl
  · simp only [hmode, if_false, takeFlat, hgoes]
    constructor
    · exact ⟨h.known, h.positive, h.active, h.calibrationMode, h.calibrationState, h.half_eq, rfl,
        hshort⟩
    · simp only [h.calibrationMode, share, CalibrationState.half, hhalf, hpassed,
        min_eq_right hshare]
      have hone : mode = 1 ∨ mode = 2 := h.known.resolve_left hmode
      rcases hone with rfl | rfl
      · rfl
      · rfl

theorem Finished.advance (h : Finished c) : c.advance dt = c := by
  unfold CalibrationState.advance
  rw [if_neg]
  rw [h.active]
  exact Bool.false_ne_true

/-- A calibration in its last phase, or after it, when `t` has passed since that phase began. -/
def Late (mode : Int) (half t : ℚ) (c : CalibrationState) : Prop :=
  Counting mode half t c ∨ half ≤ t ∧ Finished c

/-- **The step lemma.**  A tick takes a late calibration on, and its progress is that of the time. -/
theorem Late.advance (hpositive : 0 < half) (hdt : 0 ≤ dt) (h : Late mode half t c) :
    Late mode half (t + dt) (c.advance dt) ∧
      (c.advance dt).calibrationProgress = progressAt mode half (t + dt) := by
  rcases h with hcounting | ⟨hover, hfinished⟩
  · rcases lt_or_ge (t + dt) half with hshort | hend
    · exact ⟨.inl (hcounting.goes hshort).1, (hcounting.goes hshort).2⟩
    · have hfinished := hcounting.ends hend
      rw [progressAt_of_le hpositive hend]
      exact ⟨.inr ⟨hend, hfinished⟩, hfinished.calibrationProgress⟩
  · have hend : half ≤ t + dt := hover.trans (le_add_of_nonneg_right hdt)
    rw [progressAt_of_le hpositive hend, hfinished.advance]
    exact ⟨.inr ⟨hend, hfinished⟩, hfinished.calibrationProgress⟩

/-! ### Runs -/

/-- The calibration after so many ticks. -/
def calibrationAt (im : Imager) (ticks : List Surroundings) (k : Nat) : CalibrationState :=
  (Runs.after imagerStep im (ticks.take k)).calibration

/-- The time of some ticks. -/
def elapsed (ticks : List Surroundings) : ℚ := (ticks.map Surroundings.dt).sum

/-- The time that a phase takes of some ticks. -/
def timeIn (phase : CalibrationPhase) : Imager → List Surroundings → ℚ
  | _, [] => 0
  | im, found :: ticks =>
      (if im.calibration.calibrationState = phase then found.dt else 0) +
        timeIn phase (imagerStep im found) ticks

variable {im : Imager} {ticks : List Surroundings}

theorem timeIn_concat (phase : CalibrationPhase) (ticks : List Surroundings)
    (found : Surroundings) :
    timeIn phase im (ticks ++ [found]) = timeIn phase im ticks +
      if (Runs.after imagerStep im ticks).calibration.calibrationState = phase then found.dt
      else 0 := by
  induction ticks generalizing im with
  | nil => exact add_comm _ _
  | cons first ticks ih =>
      rw [cons_append, timeIn, ih, timeIn, add_assoc]
      rfl

/-- The ticks find the power line on, and time does not go back. -/
def Powered (ticks : List Surroundings) : Prop := ∀ found ∈ ticks, found.line = true ∧ 0 ≤ found.dt

theorem Powered.tail (h : Powered (found :: ticks)) : Powered ticks :=
  fun found hmem => h found (mem_cons_of_mem _ hmem)

theorem Powered.take (h : Powered ticks) (k : Nat) : Powered (ticks.take k) :=
  fun found hmem => h found (mem_of_mem_take hmem)

theorem elapsed_take_succ {k : Nat} (h : ticks[k]? = some found) :
    elapsed (ticks.take (k + 1)) = elapsed (ticks.take k) + found.dt := by
  unfold elapsed
  rw [take_add_one, h]
  simp

/-- **The run lemma.**  A late calibration stays late, with the time that passes. -/
theorem Late.run (hpositive : 0 < half) (hon : im.On) (hpowered : Powered ticks)
    (h : Late mode half t im.calibration) :
    (Runs.after imagerStep im ticks).On ∧
      Late mode half (t + elapsed ticks) (Runs.after imagerStep im ticks).calibration := by
  induction ticks generalizing im t with
  | nil =>
      have hnone : t + elapsed [] = t := add_zero t
      rw [hnone]
      exact ⟨hon, h⟩
  | cons found ticks ih =>
      obtain ⟨hline, hdt⟩ := hpowered found mem_cons_self
      obtain ⟨hon', hadvance⟩ := imagerStep_on hon hline
      have hlate := (h.advance hpositive hdt).1
      rw [← hadvance] at hlate
      have htime : t + elapsed (found :: ticks) = t + found.dt + elapsed ticks := by
        unfold elapsed
        rw [map_cons, sum_cons, add_assoc]
      rw [htime]
      exact ih hon' hpowered.tail hlate

/-- The progress of a late calibration is that of the time. -/
theorem Late.progress (hpositive : 0 < half) (hon : im.On) (hpowered : Powered ticks)
    (h : Late mode half t im.calibration) {k : Nat} (hk : ticks[k]? = some found) :
    (calibrationAt im ticks (k + 1)).calibrationProgress =
      progressAt mode half (t + elapsed (ticks.take (k + 1))) := by
  obtain ⟨hline, hdt⟩ := hpowered found (mem_of_getElem? hk)
  obtain ⟨hon', hlate⟩ := h.run hpositive hon (hpowered.take k)
  unfold calibrationAt
  rw [Runs.after_take_succ hk, (imagerStep_on hon' hline).2, elapsed_take_succ hk, ← add_assoc]
  exact (hlate.advance hpositive hdt).2

/-- A calibration that is over stays over. -/
theorem Finished.run (hon : im.On) (hpowered : Powered ticks) (h : Finished im.calibration) :
    Finished (Runs.after imagerStep im ticks).calibration := by
  induction ticks generalizing im with
  | nil => exact h
  | cons found ticks ih =>
      obtain ⟨hon', hadvance⟩ := imagerStep_on hon (hpowered found mem_cons_self).1
      apply ih hon' hpowered.tail
      rw [hadvance, h.advance]
      exact h

/-- As long as the last phase goes on, all time is spent in it. -/
theorem timeIn_counting (hpositive : 0 < half) (hon : im.On) (hpowered : Powered ticks)
    (h : Late mode half t im.calibration)
    (hactive : (Runs.after imagerStep im ticks).calibration.calibrationActive = true) :
    timeIn (lastPhase mode) im ticks = elapsed ticks := by
  induction ticks generalizing im t with
  | nil => rfl
  | cons found ticks ih =>
      obtain ⟨hline, hdt⟩ := hpowered found mem_cons_self
      obtain ⟨hon', hadvance⟩ := imagerStep_on hon hline
      have hlate := (h.advance hpositive hdt).1
      rw [← hadvance] at hlate
      have hrest := ih hon' hpowered.tail hlate hactive
      have hphase : im.calibration.calibrationState = lastPhase mode := by
        rcases h with hcounting | ⟨-, hfinished⟩
        · exact hcounting.calibrationState
        · have hover := (hfinished.run hon hpowered).active
          rw [hover] at hactive
          exact absurd hactive Bool.false_ne_true
      rw [timeIn, if_pos hphase, hrest]
      exact sum_cons.symm

/-! ### The property -/

/-- A phase takes half of the duration, within one tick, before the calibration is complete. -/
structure PhaseLasts (phase : CalibrationPhase) (half : ℚ) (im : Imager)
    (ticks : List Surroundings) : Prop where
  ends : ∀ k found, ticks[k]? = some found →
    (calibrationAt im ticks k).calibrationState = phase →
    (calibrationAt im ticks (k + 1)).calibrationState ≠ phase →
    |timeIn phase im (ticks.take (k + 1)) - half| ≤ found.dt
  goes : ∀ k, (calibrationAt im ticks k).calibrationState = phase →
    timeIn phase im (ticks.take k) ≤ half
  comes : ∀ k, (calibrationAt im ticks k).calibrationState = .complete →
    ∃ j < k, (calibrationAt im ticks j).calibrationState = phase

/-- **A calibration runs for its duration.**  Its progress never decreases, dark and flat frames take
half of the duration each, and a calibration of one kind is complete after half of it. -/
structure RunsItsDuration (im : Imager) (ticks : List Surroundings) : Prop where
  progress : ∀ k, (calibrationAt im ticks k).calibrationProgress ≤
    (calibrationAt im ticks (k + 1)).calibrationProgress
  both : im.calibration.calibrationMode = 2 →
    PhaseLasts .darkFrame im.calibration.half im ticks ∧
      PhaseLasts .flatField im.calibration.half im ticks
  single : im.calibration.calibrationMode ≠ 2 → ∀ k,
    (calibrationAt im ticks k).calibrationState = .complete ↔
      im.calibration.half ≤ elapsed (ticks.take k)

/-- The first tick is as long as the dark frames are to take, within one tick, and short enough for
the second not to set the progress back. -/
def PhasesMeet (half : ℚ) : List Surroundings → Prop
  | [] => True
  | [first] => half ≤ 2 * first.dt
  | first :: second :: _ => half ≤ 2 * first.dt ∧ 2 * first.dt ≤ half + min half second.dt

/-! ### Calibrations in their last phase -/

open CalibrationPhase

theorem lastPhase_ne_complete (mode : Int) : lastPhase mode ≠ .complete := by
  unfold lastPhase
  split_ifs
  · exact noConfusion
  · exact noConfusion

theorem calibrationAt_zero : calibrationAt im ticks 0 = im.calibration := rfl

theorem calibrationAt_past {k : Nat} (h : ticks[k]? = none) :
    calibrationAt im ticks (k + 1) = calibrationAt im ticks k := by
  have hlong := List.getElem?_eq_none_iff.mp h
  unfold calibrationAt
  rw [take_of_length_le hlong, take_of_length_le (Nat.le_succ_of_le hlong)]

theorem Late.complete_iff (h : Late mode half t c) : c.calibrationState = .complete ↔ half ≤ t := by
  rcases h with hcounting | ⟨hover, hfinished⟩
  · rw [hcounting.calibrationState]
    exact ⟨fun heq => absurd heq (lastPhase_ne_complete mode),
      fun hle => absurd hle hcounting.short.not_ge⟩
  · exact ⟨fun _ => hover, fun _ => hfinished.calibrationState⟩

theorem Late.counting (h : Late mode half t c) (hphase : c.calibrationState = lastPhase mode) :
    Counting mode half t c := by
  rcases h with hcounting | ⟨-, hfinished⟩
  · exact hcounting
  · rw [hfinished.calibrationState] at hphase
    exact absurd hphase.symm (lastPhase_ne_complete mode)

/-- The last phase of a calibration lasts as long as it should. -/
theorem Counting.phaseLasts (hon : im.On) (hpowered : Powered ticks)
    (h : Counting mode half 0 im.calibration) : PhaseLasts (lastPhase mode) half im ticks := by
  have hrun : ∀ k, Late mode half (elapsed (ticks.take k)) (calibrationAt im ticks k) := by
    intro k
    have hlate := (Late.run h.positive hon (hpowered.take k) (.inl h)).2
    rwa [zero_add] at hlate
  have hspent : ∀ k, Counting mode half (elapsed (ticks.take k)) (calibrationAt im ticks k) →
      timeIn (lastPhase mode) im (ticks.take k) = elapsed (ticks.take k) := fun k hcounting =>
    timeIn_counting h.positive hon (hpowered.take k) (.inl h) hcounting.active
  constructor
  · intro k found hk hphase hnext
    have hbefore := (hrun k).counting hphase
    have hover : half ≤ elapsed (ticks.take (k + 1)) := by
      rcases hrun (k + 1) with hcounting | ⟨hover, -⟩
      · exact absurd hcounting.calibrationState hnext
      · exact hover
    have htime : timeIn (lastPhase mode) im (ticks.take (k + 1)) =
        elapsed (ticks.take (k + 1)) := by
      rw [elapsed_take_succ hk, take_add_one, hk, ← hspent k hbefore]
      exact (timeIn_concat _ _ found).trans (congrArg _ (if_pos hphase))
    have hshort := hbefore.short
    rw [htime, abs_of_nonneg (sub_nonneg.mpr hover)]
    rw [elapsed_take_succ hk] at hover ⊢
    linarith
  · intro k hphase
    have hcounting := (hrun k).counting hphase
    rw [hspent k hcounting]
    exact hcounting.short.le
  · intro k hcomplete
    refine ⟨0, ?_, h.calibrationState⟩
    apply Nat.pos_of_ne_zero
    rintro rfl
    rw [calibrationAt_zero, h.calibrationState] at hcomplete
    exact lastPhase_ne_complete mode hcomplete

/-- From the first tick on, the progress of a late calibration does not decrease. -/
theorem Counting.progress_le (hon : im.On) (hpowered : Powered ticks)
    (h : Counting mode half 0 im.calibration)
    (hfirst : ∀ found, ticks[0]? = some found →
      im.calibration.calibrationProgress ≤ progressAt mode half found.dt) (k : Nat) :
    (calibrationAt im ticks k).calibrationProgress ≤
      (calibrationAt im ticks (k + 1)).calibrationProgress := by
  have hat : ∀ {k found}, ticks[k]? = some found →
      (calibrationAt im ticks (k + 1)).calibrationProgress =
        progressAt mode half (elapsed (ticks.take (k + 1))) := by
    intro k found hk
    have hprogress := Late.progress h.positive hon hpowered (.inl h) hk
    rwa [zero_add] at hprogress
  cases hk : ticks[k]? with
  | none => exact (congrArg _ (calibrationAt_past hk)).ge
  | some found =>
      rw [hat hk]
      cases k with
      | zero =>
          rw [elapsed_take_succ hk, calibrationAt_zero]
          simpa [elapsed] using hfirst found hk
      | succ k =>
          have hlt : k < ticks.length :=
            (Nat.lt_succ_self k).trans (List.getElem?_eq_some_iff.mp hk).1
          rw [hat (List.getElem?_eq_getElem hlt), elapsed_take_succ hk]
          apply progressAt_mono h.positive
          exact le_add_of_nonneg_right (hpowered found (mem_of_getElem? hk)).2

/-! ### Calibrations of both kinds -/

/-- A calibration of both kinds begins. -/
structure Dark (half : ℚ) (c : CalibrationState) : Prop where
  positive : 0 < half
  active : c.calibrationActive = true
  calibrationMode : c.calibrationMode = 2
  calibrationState : c.calibrationState = .darkFrame
  half_eq : c.half = half
  timer : c.calibrationTimer = half
  progress : c.calibrationProgress = 0

/-- The first tick ends the dark frames. -/
theorem Dark.advance (h : Dark half c) (hdt : 0 ≤ dt) :
    Counting 2 half 0 (c.advance dt) ∧ (c.advance dt).calibrationProgress = 100 * dt / half := by
  have hhalf : c.calibrationDurationS / 2 = half := h.half_eq
  have hnow : half - dt ≤ half := sub_le_self half hdt
  have hadvance : c.advance dt =
      { c with
        darkFrameCount := 10
        calibrationProgress := 100 * (half - (half - dt)) / half
        calibrationState := .flatField
        calibrationTimer := half } := by
    unfold CalibrationState.advance
    rw [if_pos h.active, h.calibrationState, h.timer]
    simp [takeDark, share, CalibrationState.half,
      h.calibrationMode, hhalf, hnow]
  rw [hadvance]
  constructor
  · exact ⟨.inr (.inr rfl), h.positive, h.active, h.calibrationMode, rfl, h.half_eq,
      (sub_zero half).symm, h.positive⟩
  · rw [sub_sub_cancel]

/-- The progress of the second tick is no less than that of the first. -/
theorem progress_le_second (hpositive : 0 < half) {d d' : ℚ} :
    100 * d / half ≤ progressAt 2 half d' ↔ 2 * d ≤ half + min half d' := by
  rcases lt_or_ge d' half with hshort | hlong
  · rw [progressAt_of_lt hpositive hshort, min_eq_right hshort.le, if_pos rfl,
      div_le_iff₀ hpositive, add_mul, div_mul_cancel₀ _ hpositive.ne']
    constructor
    · intro h
      linarith
    · intro h
      linarith
  · rw [progressAt_of_le hpositive hlong, min_eq_left hlong, div_le_iff₀ hpositive]
    constructor
    · intro h
      linarith
    · intro h
      linarith

/-- The dark frames end with the first tick, and are not taken again. -/
theorem Dark.phaseLasts_iff (hon : im.On) {first : Surroundings}
    (hpowered : Powered (first :: ticks)) (h : Dark half im.calibration) :
    PhaseLasts .darkFrame half im (first :: ticks) ↔ half ≤ 2 * first.dt := by
  obtain ⟨hline, hdt⟩ := hpowered first mem_cons_self
  obtain ⟨hon', hadvance⟩ := imagerStep_on hon hline
  have hcounting := (h.advance hdt).1
  rw [← hadvance] at hcounting
  have hlater : ∀ k, (calibrationAt im (first :: ticks) (k + 1)).calibrationState ≠
      .darkFrame := by
    intro k hdark
    have hlate := (Late.run h.positive hon' (hpowered.tail.take k) (.inl hcounting)).2
    rcases hlate with hcounting | ⟨-, hfinished⟩
    · exact noConfusion (hdark.symm.trans hcounting.calibrationState)
    · exact noConfusion (hdark.symm.trans hfinished.calibrationState)
  have hspent : timeIn .darkFrame im ((first :: ticks).take 1) = first.dt := by
    rw [take_succ_cons, take_zero, timeIn, if_pos h.calibrationState]
    exact add_zero _
  have hwithin : |first.dt - half| ≤ first.dt ↔ half ≤ 2 * first.dt := by
    rw [abs_le]
    constructor
    · intro hle
      linarith [hle.1]
    · intro hle
      constructor
      · linarith
      · linarith [h.positive]
  rw [← hwithin]
  constructor
  · intro hlasts
    have hends := hlasts.ends 0 first rfl h.calibrationState (hlater 0)
    rwa [hspent] at hends
  · intro hle
    constructor
    · intro k found hk hphase hnext
      cases k with
      | zero =>
          obtain rfl : first = found := Option.some.inj hk
          rwa [hspent]
      | succ k => exact absurd hphase (hlater k)
    · intro k hphase
      cases k with
      | zero => exact h.positive.le
      | succ k => exact absurd hphase (hlater k)
    · intro k hcomplete
      refine ⟨0, Nat.pos_of_ne_zero ?_, h.calibrationState⟩
      rintro rfl
      exact noConfusion (hcomplete.symm.trans h.calibrationState)

/-- The flat frames take as long as they should. -/
theorem Dark.flat_lasts (hon : im.On) {first : Surroundings} (hpowered : Powered (first :: ticks))
    (h : Dark half im.calibration) : PhaseLasts .flatField half im (first :: ticks) := by
  obtain ⟨hline, hdt⟩ := hpowered first mem_cons_self
  obtain ⟨hon', hadvance⟩ := imagerStep_on hon hline
  have hcounting := (h.advance hdt).1
  rw [← hadvance] at hcounting
  have hlasts : PhaseLasts .flatField half (imagerStep im first) ticks :=
    hcounting.phaseLasts hon' hpowered.tail
  have hdark : im.calibration.calibrationState ≠ .flatField := by
    rw [h.calibrationState]
    exact noConfusion
  have hspent : ∀ k, timeIn .flatField im ((first :: ticks).take (k + 1)) =
      timeIn .flatField (imagerStep im first) (ticks.take k) := by
    intro k
    rw [take_succ_cons, timeIn, if_neg hdark, zero_add]
  constructor
  · intro k found hk hphase hnext
    cases k with
    | zero => exact absurd hphase hdark
    | succ k =>
        rw [hspent]
        exact hlasts.ends k found hk hphase hnext
  · intro k hphase
    cases k with
    | zero => exact absurd hphase hdark
    | succ k =>
        rw [hspent]
        exact hlasts.goes k hphase
  · intro k hcomplete
    cases k with
    | zero => exact noConfusion (hcomplete.symm.trans h.calibrationState)
    | succ k =>
        obtain ⟨j, hj, hflat⟩ := hlasts.comes k hcomplete
        exact ⟨j + 1, Nat.succ_lt_succ hj, hflat⟩

/-- The progress never decreases if the second tick does not set it back. -/
theorem Dark.progress_iff (hon : im.On) {first : Surroundings}
    (hpowered : Powered (first :: ticks)) (h : Dark half im.calibration) :
    (∀ k, (calibrationAt im (first :: ticks) k).calibrationProgress ≤
      (calibrationAt im (first :: ticks) (k + 1)).calibrationProgress) ↔
    ∀ second, ticks[0]? = some second → 2 * first.dt ≤ half + min half second.dt := by
  obtain ⟨hline, hdt⟩ := hpowered first mem_cons_self
  obtain ⟨hon', hadvance⟩ := imagerStep_on hon hline
  obtain ⟨hcounting, hprogress⟩ := h.advance hdt
  rw [← hadvance] at hcounting hprogress
  constructor
  · intro hall second hsecond
    have hnext := hall 1
    have hat := Late.progress h.positive hon' hpowered.tail (.inl hcounting) hsecond
    have htime : elapsed (ticks.take 1) = second.dt := by
      rw [elapsed_take_succ hsecond]
      exact zero_add _
    rw [htime, zero_add second.dt] at hat
    apply (progress_le_second h.positive).mp
    rw [← hprogress, ← hat]
    exact hnext
  · intro hsecond k
    cases k with
    | zero =>
        have hzero : (calibrationAt im (first :: ticks) 0).calibrationProgress = 0 := h.progress
        have hone : (calibrationAt im (first :: ticks) 1).calibrationProgress =
            100 * first.dt / half := hprogress
        rw [hzero, hone]
        have hpositive := h.positive
        positivity
    | succ k =>
        apply hcounting.progress_le hon' hpowered.tail
        intro second hk
        rw [hprogress]
        exact (progress_le_second h.positive).mpr (hsecond second hk)

/-- A calibration of both kinds runs for its duration if its first tick is that of the dark
frames. -/
theorem Dark.runs_iff (hon : im.On) (hpowered : Powered ticks) (h : Dark half im.calibration) :
    RunsItsDuration im ticks ↔ PhasesMeet half ticks := by
  have hsame : RunsItsDuration im ticks ↔
      (∀ k, (calibrationAt im ticks k).calibrationProgress ≤
        (calibrationAt im ticks (k + 1)).calibrationProgress) ∧
      PhaseLasts .darkFrame half im ticks ∧ PhaseLasts .flatField half im ticks := by
    constructor
    · intro hruns
      have hboth := hruns.both h.calibrationMode
      rw [h.half_eq] at hboth
      exact ⟨hruns.progress, hboth⟩
    · intro ⟨hprogress, hboth⟩
      constructor
      · exact hprogress
      · intro _
        rwa [h.half_eq]
      · intro hmode
        exact absurd h.calibrationMode hmode
  rw [hsame]
  cases ticks with
  | nil =>
      have hidle : ∀ phase, PhaseLasts phase half im [] := by
        intro phase
        constructor
        · intro k found hk
          exact absurd hk (Option.some_ne_none found).symm
        · intro k _
          rw [take_nil]
          exact h.positive.le
        · intro k hcomplete
          rw [calibrationAt, take_nil] at hcomplete
          exact noConfusion (hcomplete.symm.trans h.calibrationState)
      refine iff_of_true ⟨fun k => ?_, hidle _, hidle _⟩ trivial
      exact (congrArg _ (calibrationAt_past rfl)).ge
  | cons first ticks =>
      have hflat : PhaseLasts .flatField half im (first :: ticks) ↔ True :=
        iff_true_intro (h.flat_lasts hon hpowered)
      rw [h.progress_iff hon hpowered, h.phaseLasts_iff hon hpowered, hflat, and_true, and_comm]
      cases ticks with
      | nil | cons => simp [PhasesMeet]

/-! ### Calibrations that are started -/

/-- An accepted command starts a calibration of a known mode in imaging mode. -/
theorem startCalibration_started {arg : Option Value} {im im' : Imager}
    (h : startCalibration arg im = .ok .started im') :
    im.payload.mode = 2 ∧ ∃ m : Int, (m = 0 ∨ m = 1 ∨ m = 2) ∧
      im' = { im with calibration := im.calibration.begin m } := by
  have hspec : wp (startCalibration arg) (fun reply im' => reply = .started →
      im.payload.mode = 2 ∧ ∃ m : Int, (m = 0 ∨ m = 1 ∨ m = 2) ∧
        im' = { im with calibration := im.calibration.begin m }) (fun _ _ => True) im := by
    unfold startCalibration
    simp only [wp_bind, wp_get, wp_ite, wp_pure, wp_fromExcept, wp_modify]
    constructor
    · intro _ hstarted
      cases hstarted
    · intro _
      constructor
      · intro _ hstarted
        cases hstarted
      · intro himaging
        refine ⟨?_, fun _ _ => trivial⟩
        intro m _
        constructor
        · intro hknown _
          exact ⟨not_not.mp himaging, m, by simpa using hknown, rfl⟩
        · intro _ hstarted
          cases hstarted
  exact (wp_of_ok h).mp hspec rfl

/-- **Calibrations run for their duration**, but for those of both kinds with a first tick that is
too short or too long. -/
theorem runsItsDuration_iff {arg : Option Value} {im im' : Imager} {ticks : List Surroundings}
    (hstarted : startCalibration arg im = .ok .started im')
    (hdetector : im.payload.powered 0x0600 = true) (hlamp : im.payload.powered 0x0602 = true)
    (hduration : 0 < im.calibration.calibrationDurationS) (hpowered : Powered ticks) :
    RunsItsDuration im' ticks ↔
      (im'.calibration.calibrationMode = 2 → PhasesMeet im'.calibration.half ticks) := by
  obtain ⟨himaging, m, hm, rfl⟩ := startCalibration_started hstarted
  have hon : Imager.On { im with calibration := im.calibration.begin m } :=
    ⟨himaging, hdetector, hlamp⟩
  have hpositive : 0 < im.calibration.half := half_pos hduration
  by_cases hboth : m = 2
  · subst hboth
    have hdark : Dark im.calibration.half (im.calibration.begin 2) :=
      ⟨hpositive, rfl, rfl, rfl, rfl, rfl, rfl⟩
    rw [hdark.runs_iff hon hpowered]
    exact ⟨fun hmeet _ => hmeet, fun hmeet => hmeet rfl⟩
  · have hcounting : Counting m im.calibration.half 0 (im.calibration.begin m) := by
      refine ⟨hm, hpositive, rfl, rfl, ?_, rfl, (sub_zero _).symm, hpositive⟩
      rcases hm with rfl | rfl | rfl
      · rfl
      · rfl
      · exact absurd rfl hboth
    refine iff_of_true ?_ fun hmode => absurd hmode hboth
    constructor
    · apply hcounting.progress_le hon hpowered
      intro found hfound
      have hzero : progressAt m im.calibration.half 0 = 0 := by
        rw [progressAt_of_lt hpositive hpositive, if_neg hboth, mul_zero, zero_div]
      have hdt := (hpowered found (List.mem_of_getElem? hfound)).2
      exact hzero.ge.trans (progressAt_mono hpositive hdt)
    · intro hmode
      exact absurd hmode hboth
    · intro _ k
      have hlate := (Late.run hpositive hon (hpowered.take k) (.inl hcounting)).2
      rw [zero_add] at hlate
      exact hlate.complete_iff

/-! ### Examples -/

/-- An imager in imaging mode. -/
def imagingNow : Imager where
  payload := { mode := 2 }
  calibration := {}

/-- The same one, when it is told to take frames of both kinds. -/
def bothBegun : Imager := { imagingNow with calibration := imagingNow.calibration.begin 2 }

theorem bothBegun_started : startCalibration none imagingNow = .ok .started bothBegun := rfl

/-- Two ticks of ten seconds. -/
theorem longTicks_run : RunsItsDuration bothBegun [{ dt := 10 }, { dt := 10 }] := by
  apply (runsItsDuration_iff bothBegun_started (by decide) (by decide) ?_ ?_).mpr
  · intro _
    have hhalf : bothBegun.calibration.half = 15 := by decide +kernel
    rw [hhalf, PhasesMeet]
    norm_num
  · exact (by norm_num : (0 : ℚ) < 30)
  · intro found hfound
    obtain rfl : found = { dt := 10 } := by simpa using hfound
    exact ⟨rfl, by norm_num⟩

/-- With ticks of one second, the dark frames take one second of fifteen. -/
theorem shortTick_cuts_dark :
    ¬ ∀ (arg : Option Value) (im im' : Imager) (ticks : List Surroundings),
      startCalibration arg im = .ok .started im' → im.payload.powered 0x0600 = true →
      im.payload.powered 0x0602 = true → 0 < im.calibration.calibrationDurationS →
      Powered ticks → RunsItsDuration im' ticks := by
  intro hall
  have hduration : (0 : ℚ) < 30 := by norm_num
  have hpowered : Powered [({ dt := 1 } : Surroundings)] := by
    intro found hfound
    obtain rfl : found = { dt := 1 } := by simpa using hfound
    exact ⟨rfl, by norm_num⟩
  have hruns := hall none imagingNow bothBegun [{ dt := 1 }] bothBegun_started (by decide)
    (by decide) hduration hpowered
  have hdark : Dark 15 bothBegun.calibration := by
    have hhalf : bothBegun.calibration.half = 15 := by decide +kernel
    exact ⟨by norm_num, rfl, rfl, rfl, hhalf, hhalf, rfl⟩
  have hmeet := (hdark.runs_iff ⟨rfl, by decide, by decide⟩ hpowered).mp hruns
  rw [PhasesMeet] at hmeet
  norm_num at hmeet

end Payload
