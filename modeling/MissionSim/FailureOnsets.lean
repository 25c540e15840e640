import MissionSim.DeadBands
import MissionSim.Python
import MissionSim.Runs
import Mathlib.Algebra.BigOperators.Ring.List
import Mathlib.Algebra.Order.Field.Rat
import Mathlib.Tactic.FieldSimp
import Mathlib.Tactic.Linarith
import Mathlib.Tactic.NormNum

/-!
# Onsets of failures

A failure that is injected with a gradual onset ramps up to its target.  The manager makes no change
of a thousandth or less, so that the ramp moves by large enough ticks only.

Time and magnitudes are exact.  Exceptions of the callbacks are logged only, so they are left out.
-/

namespace FailureManager

open Python DeadBands List

/-! ### State -/

inductive Onset where
  | step | gradual | intermittent | other
  deriving DecidableEq, Repr

/-- The configured timing. -/
structure OnsetConfig where
  defaultOnsetS : ℚ := 90
  firstFlickerS : ℚ × ℚ := (2, 6)
  flickerOnS : ℚ × ℚ := (2, 8)
  flickerOffS : ℚ × ℚ := (5, 20)

structure ActiveFailure where
  failureId : String
  subsystem : String
  failure : String
  targetMagnitude : ℚ
  onset : Onset
  onsetDurationS : ℚ
  durationS : ℚ
  extraParams : Dict String String := .empty
  currentMagnitude : ℚ := 0
  elapsedS : ℚ := 0
  active : Bool := true
  flickerOn : Bool := true
  flickerNext : ℚ := 0

/-- A call of `inject_fn` or `clear_fn`. -/
inductive Call where
  | inject (subsystem failure : String) (magnitude : ℚ) (extraParams : Dict String String)
  | clear (subsystem failure : String) (extraParams : Dict String String)

structure Manager where
  config : OnsetConfig := {}
  simElapsed : ℚ := 0
  failures : Dict String ActiveFailure := .empty
  calls : List Call := []

/-- `_apply(af, magnitude)`. -/
def ActiveFailure.applyCall (af : ActiveFailure) (magnitude : ℚ) : Call :=
  .inject af.subsystem af.failure magnitude af.extraParams

/-- `_clear_failure(af)`. -/
def ActiveFailure.clearCall (af : ActiveFailure) : Call :=
  .clear af.subsystem af.failure af.extraParams

/-- `rng.uniform(lo, hi)`. -/
def uniform (range : ℚ × ℚ) (draw : ℚ) : ℚ := range.1 + (range.2 - range.1) * draw

/-! ### Injecting and clearing -/

/-- The arguments of `inject`. -/
structure Injection where
  subsystem : String
  failure : String
  magnitude : ℚ := 1
  onset : Onset := .step
  durationS : ℚ := 0
  onsetDurationS : Option ℚ := none
  extra : Dict String String := .empty

def Injection.failureId (f : Injection) : String :=
  let circuit := (f.extra.get? "circuit").getD "0"
  let wheel := (f.extra.get? "wheel").getD circuit
  f.subsystem ++ "." ++ f.failure ++ "." ++ (f.extra.get? "array").getD wheel

/-- The failure that is injected. -/
def Injection.activeFailure (config : OnsetConfig) (f : Injection) : ActiveFailure :=
  { failureId := f.failureId, subsystem := f.subsystem, failure := f.failure
    targetMagnitude := f.magnitude, onset := f.onset
    onsetDurationS := if f.onset = .step then 0 else f.onsetDurationS.getD config.defaultOnsetS
    durationS := f.durationS, extraParams := f.extra
    currentMagnitude := if f.onset = .step then f.magnitude else 0 }

/-- `inject(...)`. -/
def Manager.inject (m : Manager) (f : Injection) (draw : ℚ) : Manager × String :=
  let af := f.activeFailure m.config
  let af := if f.onset = .intermittent then
      { af with flickerNext := m.simElapsed + uniform m.config.firstFlickerS draw }
    else af
  ({ m with
      failures := m.failures.set f.failureId af
      calls := if f.onset = .step then m.calls ++ [af.applyCall f.magnitude] else m.calls },
    f.failureId)

/-- `clear(failure_id)`. -/
def Manager.clear (m : Manager) (failureId : String) : Manager × Bool :=
  match m.failures.get? failureId with
  | none => (m, false)
  | some af =>
      ({ m with failures := m.failures.erase failureId, calls := m.calls ++ [af.clearCall] }, true)

/-- `clear_all()`. -/
def Manager.clearAll (m : Manager) : Manager :=
  { m with
    failures := .empty
    calls := m.calls ++ m.failures.values.map ActiveFailure.clearCall }

/-! ### Ticks -/

/-- The magnitude that a gradual failure comes to in `dt_sim`. -/
def ActiveFailure.newMagnitude (af : ActiveFailure) (dtSim : ℚ) : ℚ :=
  if af.onsetDurationS ≤ 0 then af.targetMagnitude
  else min af.targetMagnitude
    (af.currentMagnitude + af.targetMagnitude / af.onsetDurationS * dtSim)

/-- `_tick_gradual(af, dt_sim)`. -/
def ActiveFailure.tickGradual (af : ActiveFailure) (dtSim : ℚ) : ActiveFailure × List Call :=
  let newMag := af.newMagnitude dtSim
  if 1 / 1000 < |newMag - af.currentMagnitude| then
    ({ af with currentMagnitude := newMag }, [af.applyCall newMag])
  else (af, [])

/-- `_tick_intermittent(af, sim_elapsed)`. -/
def ActiveFailure.tickIntermittent (config : OnsetConfig) (af : ActiveFailure)
    (simElapsed draw : ℚ) : ActiveFailure × List Call :=
  if af.flickerNext ≤ simElapsed then
    if af.flickerOn then
      ({ af with
          flickerOn := false
          flickerNext := simElapsed + uniform config.flickerOffS draw }, [af.clearCall])
    else
      ({ af with
          flickerOn := true
          flickerNext := simElapsed + uniform config.flickerOnS draw },
        [af.applyCall af.targetMagnitude])
  else (af, [])

/-- A failure in a tick: what is left of it, and the calls. -/
def ActiveFailure.tick (config : OnsetConfig) (simElapsed dtSim draw : ℚ) (af : ActiveFailure) :
    Option ActiveFailure × List Call :=
  if af.active then
    let af := { af with elapsedS := af.elapsedS + dtSim }
    if 0 < af.durationS ∧ af.durationS ≤ af.elapsedS then (none, [af.clearCall])
    else
      let ticked := match af.onset with
        | .gradual => af.tickGradual dtSim
        | .intermittent => af.tickIntermittent config simElapsed draw
        | .step | .other => (af, [])
      (some ticked.1, ticked.2)
  else (none, [])

/-- A tick of the manager, with the draws of the failures. -/
structure Tick where
  dtSim : ℚ
  draws : String → ℚ := fun _ => 0

/-- `tick(dt_sim)`. -/
def Manager.tick (m : Manager) (t : Tick) : Manager :=
  let simElapsed := m.simElapsed + t.dtSim
  let ticked := fun af : ActiveFailure =>
    af.tick m.config simElapsed t.dtSim (t.draws af.failureId)
  let expired := m.failures.items.filter fun item => (ticked item.2).1.isNone
  { m with
    simElapsed := simElapsed
    failures := (expired.map Prod.fst).foldl Dict.erase
      (m.failures.mapItems fun _ af => (ticked af).1.getD af)
    calls := m.calls ++ m.failures.values.flatMap fun af => (ticked af).2 }

/-! ### The property -/

section Runs

variable (m : Manager) (f : Injection) (draw : ℚ) (ticks : List Tick)

/-- The failure that was injected, after so many ticks. -/
def failureAt (k : Nat) : Option ActiveFailure :=
  (Runs.after Manager.tick (m.inject f draw).1 (ticks.take k)).failures.get? f.failureId

/-- The time since the injection. -/
def elapsed (k : Nat) : ℚ := ((ticks.take k).map Tick.dtSim).sum

/-- The time of the ticks that are long enough for the ramp to move. -/
def effective (target onsetDurationS : ℚ) (k : Nat) : ℚ :=
  (((ticks.take k).map Tick.dtSim).filter fun dt => onsetDurationS < 1000 * (target * dt)).sum

/-- **A gradual failure completes on time**: it rises to its target within its onset duration, and
not beyond. -/
structure CompletesOnTime (onsetDurationS : ℚ) : Prop where
  rises : ∀ k af af', failureAt m f draw ticks k = some af →
    failureAt m f draw ticks (k + 1) = some af' → elapsed ticks (k + 1) < onsetDurationS →
    af.currentMagnitude ≤ af'.currentMagnitude
  below : ∀ k af, failureAt m f draw ticks k = some af → elapsed ticks k < onsetDurationS →
    af.currentMagnitude ≤ f.magnitude
  done : ∀ k af, k < ticks.length → failureAt m f draw ticks (k + 1) = some af →
    onsetDurationS ≤ elapsed ticks (k + 1) → |af.currentMagnitude - f.magnitude| ≤ 1 / 1000

/-- The failure is not over after so much time. -/
def Injection.Lasts (t : ℚ) : Prop := f.durationS ≤ 0 ∨ t < f.durationS

/-- **When the ramp gets there**: there is none, or the ticks long enough for it make up for it all
but a thousandth. -/
def RampMeets (onsetDurationS : ℚ) : Prop :=
  onsetDurationS ≤ 0 ∨ 0 ≤ f.magnitude ∧ ∀ k < ticks.length, f.Lasts (elapsed ticks (k + 1)) →
    onsetDurationS ≤ elapsed ticks (k + 1) →
    f.magnitude * (onsetDurationS - effective ticks f.magnitude onsetDurationS (k + 1)) ≤
      onsetDurationS / 1000

end Runs

/-! ### One tick -/

theorem get?_tick (m : Manager) (t : Tick) (failureId : String) :
    (m.tick t).failures.get? failureId = (m.failures.get? failureId).bind fun af =>
      (af.tick m.config (m.simElapsed + t.dtSim) t.dtSim (t.draws af.failureId)).1 :=
  Dict.get?_sweep (fun af : ActiveFailure =>
    (af.tick m.config (m.simElapsed + t.dtSim) t.dtSim (t.draws af.failureId)).1) m.failures failureId

/-- The magnitude of a ramp after a tick. -/
def ramped (target onsetDurationS magnitude dtSim : ℚ) : ℚ :=
  let newMag := if onsetDurationS ≤ 0 then target
    else min target (magnitude + target / onsetDurationS * dtSim)
  if 1 / 1000 < |newMag - magnitude| then newMag else magnitude

theorem tickGradual_fst (af : ActiveFailure) (dtSim : ℚ) :
    (af.tickGradual dtSim).1 =
      { af with currentMagnitude :=
          ramped af.targetMagnitude af.onsetDurationS af.currentMagnitude dtSim } := by
  unfold ActiveFailure.tickGradual ramped ActiveFailure.newMagnitude
  dsimp only
  split_ifs
  · rfl
  · rfl
  · rfl
  · rfl

instance (f : Injection) (t : ℚ) : Decidable (f.Lasts t) := inferInstanceAs (Decidable (_ ∨ _))

/-- A gradual failure in a tick. -/
theorem tick_gradual {af : ActiveFailure} (hgradual : af.onset = .gradual)
    (hactive : af.active = true) (config : OnsetConfig) (simElapsed dtSim draw : ℚ) :
    (af.tick config simElapsed dtSim draw).1 =
      if 0 < af.durationS ∧ af.durationS ≤ af.elapsedS + dtSim then none
      else some { af with
        currentMagnitude := ramped af.targetMagnitude af.onsetDurationS af.currentMagnitude dtSim
        elapsedS := af.elapsedS + dtSim } := by
  unfold ActiveFailure.tick
  dsimp only
  split_ifs
  · rfl
  · simp only [hgradual, tickGradual_fst]

/-! ### Runs -/

section Runs

variable {m : Manager} {f : Injection} {draw : ℚ} {ticks : List Tick}

theorem elapsed_succ {k : Nat} {t : Tick} (h : ticks[k]? = some t) :
    elapsed ticks (k + 1) = elapsed ticks k + t.dtSim := by
  unfold elapsed
  rw [take_add_one, h]
  simp

theorem elapsed_le {k j : Nat} (hkj : k ≤ j) (hticks : ∀ t ∈ ticks, 0 ≤ t.dtSim) :
    elapsed ticks k ≤ elapsed ticks j := by
  induction hkj with
  | refl => exact le_refl _
  | @step j _ ih =>
      cases ht : ticks[j]? with
      | none =>
          have hlong := getElem?_eq_none_iff.mp ht
          have hsame : elapsed ticks (j + 1) = elapsed ticks j := by
            unfold elapsed
            rw [take_of_length_le hlong, take_of_length_le (Nat.le_succ_of_le hlong)]
          exact ih.trans hsame.ge
      | some t =>
          rw [Nat.succ_eq_add_one, elapsed_succ ht]
          exact ih.trans (le_add_of_nonneg_right (hticks t (mem_of_getElem? ht)))

/-- The magnitude of a ramp after some ticks. -/
def magnitudeAfter (target onsetDurationS : ℚ) (dts : List ℚ) : ℚ :=
  dts.foldl (ramped target onsetDurationS) 0

/-- The failure after some ticks, if it is not over. -/
def Injection.after (config : OnsetConfig) (f : Injection) (dts : List ℚ) : ActiveFailure :=
  let af := f.activeFailure config
  { af with
    currentMagnitude := magnitudeAfter af.targetMagnitude af.onsetDurationS dts
    elapsedS := dts.sum }

/-- **The step lemma.** -/
theorem tick_after (hgradual : f.onset = .gradual) (config : OnsetConfig) (dts : List ℚ)
    (simElapsed dtSim draw : ℚ) :
    ((f.after config dts).tick config simElapsed dtSim draw).1 =
      if 0 < f.durationS ∧ f.durationS ≤ dts.sum + dtSim then none
      else some (f.after config (dts ++ [dtSim])) := by
  have hconcat : f.after config (dts ++ [dtSim]) =
      { f.after config dts with
        currentMagnitude := ramped (f.after config dts).targetMagnitude
          (f.after config dts).onsetDurationS (f.after config dts).currentMagnitude dtSim
        elapsedS := dts.sum + dtSim } := by
    unfold Injection.after magnitudeAfter
    dsimp only
    rw [foldl_concat, sum_append, sum_singleton]
  rw [tick_gradual hgradual rfl, hconcat]
  rfl

/-- **The run lemma.**  A gradual failure ramps up until it is over. -/
theorem failureAt_eq (hgradual : f.onset = .gradual) (hticks : ∀ t ∈ ticks, 0 ≤ t.dtSim) {k : Nat}
    (hk : k ≤ ticks.length) :
    failureAt m f draw ticks k =
      if f.Lasts (elapsed ticks k) then some (f.after m.config ((ticks.take k).map Tick.dtSim))
      else none := by
  induction k with
  | zero =>
      have hlasts : f.Lasts (elapsed ticks 0) := le_or_gt f.durationS 0
      rw [if_pos hlasts]
      unfold failureAt Manager.inject Injection.after Injection.activeFailure magnitudeAfter
      simp [hgradual]
  | succ k ih =>
      obtain ⟨t, ht⟩ : ∃ t, ticks[k]? = some t := ⟨_, getElem?_eq_getElem hk⟩
      have hbefore := ih (Nat.le_of_succ_le hk)
      have hconfig : (Runs.after Manager.tick (m.inject f draw).1 (ticks.take k)).config =
          m.config := by
        apply Runs.invariant (P := fun m' : Manager => m'.config = m.config)
        · exact fun _ _ h => h
        · rfl
      have htime := elapsed_succ ht
      unfold failureAt at hbefore ⊢
      rw [Runs.after_take_succ ht, get?_tick, hbefore, hconfig]
      have hforward : elapsed ticks k ≤ elapsed ticks (k + 1) := elapsed_le (Nat.le_succ k) hticks
      by_cases hlasts : f.Lasts (elapsed ticks k)
      · have hover : 0 < f.durationS ∧
            f.durationS ≤ ((ticks.take k).map Tick.dtSim).sum + t.dtSim ↔
            ¬ f.Lasts (elapsed ticks (k + 1)) := by
          rw [htime]
          simp [Injection.Lasts, elapsed]
        have hdts : (ticks.take (k + 1)).map Tick.dtSim =
            (ticks.take k).map Tick.dtSim ++ [t.dtSim] := by
          rw [take_add_one, ht]
          simp
        rw [if_pos hlasts, Option.bind_some, tick_after hgradual, hdts]
        by_cases hgoes : f.Lasts (elapsed ticks (k + 1))
        · rw [if_pos hgoes, if_neg fun h => hover.mp h hgoes]
        · rw [if_neg hgoes, if_pos (hover.mpr hgoes)]
      · have hover : ¬ f.Lasts (elapsed ticks (k + 1)) := by
          rintro (hnever | hlater)
          · exact hlasts (.inl hnever)
          · exact hlasts (.inr (hforward.trans_lt hlater))
        rw [if_neg hlasts, if_neg hover]
        rfl

/-! ### Ramps -/

variable {target onsetDurationS : ℚ} {dts : List ℚ}

/-- Without an onset duration, the magnitude jumps to its target. -/
theorem ramped_of_nonpos (h : onsetDurationS ≤ 0) (magnitude dtSim : ℚ) :
    |ramped target onsetDurationS magnitude dtSim - target| ≤ 1 / 1000 := by
  unfold ramped
  dsimp only
  split_ifs with hmoves
  · norm_num
  · rw [abs_sub_comm]
    exact le_of_not_gt hmoves

/-- With one, the magnitude is a ramp with a dead band. -/
theorem magnitudeAfter_eq (h : 0 < onsetDurationS) (dts : List ℚ) :
    magnitudeAfter target onsetDurationS dts =
      ramp (1 / 1000) target (dts.map fun dt => target / onsetDurationS * dt) := by
  have hstep : ramped target onsetDurationS = fun magnitude dt =>
      move (1 / 1000) target magnitude (target / onsetDurationS * dt) := by
    funext magnitude dt
    unfold ramped move
    rw [if_neg h.not_ge]
  unfold magnitudeAfter ramp
  rw [hstep, foldl_map]

/-- The increments beyond the band are those of the ticks that are long enough. -/
theorem beyond_increments (h : 0 < onsetDurationS) (dts : List ℚ) :
    beyond (1 / 1000) (dts.map fun dt => target / onsetDurationS * dt) =
      target / onsetDurationS *
        (dts.filter fun dt => onsetDurationS < 1000 * (target * dt)).sum := by
  have hlong : ∀ dt : ℚ, (1 / 1000 < target / onsetDurationS * dt) ↔
      onsetDurationS < 1000 * (target * dt) := by
    intro dt
    rw [div_mul_eq_mul_div, lt_div_iff₀ h]
    constructor
    · intro hlt
      linarith
    · intro hlt
      linarith
  have hfilter : (dts.map fun dt => target / onsetDurationS * dt).filter (fun x => 1 / 1000 < x) =
      (dts.filter fun dt => onsetDurationS < 1000 * (target * dt)).map
        fun dt => target / onsetDurationS * dt := by
    rw [filter_map]
    congr 1
    apply filter_congr
    intro dt _
    simp only [Function.comp_apply, hlong dt]
  have hscale := sum_map_mul_left
    (dts.filter fun dt => onsetDurationS < 1000 * (target * dt)) id (target / onsetDurationS)
  unfold beyond
  rw [hfilter]
  simpa using hscale

/-- What is left of the ramp is within the band if the long ticks have made up for the rest. -/
theorem left_iff (h : 0 < onsetDurationS) (effective : ℚ) :
    target - target / onsetDurationS * effective ≤ 1 / 1000 ↔
      target * (onsetDurationS - effective) ≤ onsetDurationS / 1000 := by
  have hscaled : (target - target / onsetDurationS * effective) * onsetDurationS =
      target * (onsetDurationS - effective) := by
    field_simp
  rw [← hscaled, ← le_div_iff₀ h]
  have hband : onsetDurationS / 1000 / onsetDurationS = 1 / 1000 := by
    field_simp
  rw [hband]

theorem increments_nonneg (htarget : 0 ≤ target) (h : 0 < onsetDurationS)
    (hdts : ∀ dt ∈ dts, 0 ≤ dt) :
    ∀ increment ∈ dts.map (fun dt => target / onsetDurationS * dt), 0 ≤ increment := by
  intro increment hmem
  obtain ⟨dt, hdt, rfl⟩ := mem_map.mp hmem
  exact mul_nonneg (div_nonneg htarget h.le) (hdts dt hdt)

theorem magnitudeAfter_le (htarget : 0 ≤ target) (h : 0 < onsetDurationS)
    (hdts : ∀ dt ∈ dts, 0 ≤ dt) : magnitudeAfter target onsetDurationS dts ≤ target := by
  rw [magnitudeAfter_eq h]
  exact ramp_le_target (by norm_num) htarget (increments_nonneg htarget h hdts)

/-- **When the magnitude is that of the target.** -/
theorem magnitudeAfter_within_iff (htarget : 0 ≤ target) (h : 0 < onsetDurationS)
    (hdts : ∀ dt ∈ dts, 0 ≤ dt) :
    |magnitudeAfter target onsetDurationS dts - target| ≤ 1 / 1000 ↔
      target * (onsetDurationS - (dts.filter fun dt =>
        onsetDurationS < 1000 * (target * dt)).sum) ≤ onsetDurationS / 1000 := by
  have hbelow := magnitudeAfter_le htarget h hdts
  have hnonneg := increments_nonneg htarget h hdts
  rw [abs_sub_comm, abs_of_nonneg (sub_nonneg.mpr hbelow), magnitudeAfter_eq h,
    ramp_within_iff (by norm_num) htarget hnonneg, beyond_increments h, left_iff h]

/-- The onset duration of a gradual failure. -/
def Injection.onsetS (config : OnsetConfig) (f : Injection) : ℚ :=
  f.onsetDurationS.getD config.defaultOnsetS

theorem after_currentMagnitude (hgradual : f.onset = .gradual) (config : OnsetConfig)
    (dts : List ℚ) : (f.after config dts).currentMagnitude =
      magnitudeAfter f.magnitude (f.onsetS config) dts := by
  unfold Injection.after Injection.activeFailure Injection.onsetS
  simp [hgradual]

/-- The magnitude at a position where the failure is not over. -/
theorem failureAt_some (hgradual : f.onset = .gradual) (hticks : ∀ t ∈ ticks, 0 ≤ t.dtSim)
    {k : Nat} (hk : k ≤ ticks.length) {af : ActiveFailure}
    (h : failureAt m f draw ticks k = some af) :
    f.Lasts (elapsed ticks k) ∧ af.currentMagnitude =
      magnitudeAfter f.magnitude (f.onsetS m.config) ((ticks.take k).map Tick.dtSim) := by
  rw [failureAt_eq hgradual hticks hk] at h
  split_ifs at h with hlasts
  cases h
  exact ⟨hlasts, after_currentMagnitude hgradual _ _⟩

theorem dts_nonneg (hticks : ∀ t ∈ ticks, 0 ≤ t.dtSim) (k : Nat) :
    ∀ dt ∈ (ticks.take k).map Tick.dtSim, 0 ≤ dt := by
  intro dt hmem
  obtain ⟨t, ht, rfl⟩ := mem_map.mp hmem
  exact hticks t (mem_of_mem_take ht)

theorem failureAt_past {k : Nat} (h : ticks.length ≤ k) :
    failureAt m f draw ticks k = failureAt m f draw ticks ticks.length := by
  unfold failureAt
  rw [take_of_length_le h, take_of_length_le (le_refl _)]

/-- A failure without an onset duration completes with the first tick. -/
theorem completes_of_nonpos (hgradual : f.onset = .gradual) (hticks : ∀ t ∈ ticks, 0 ≤ t.dtSim)
    (honset : f.onsetS m.config ≤ 0) : CompletesOnTime m f draw ticks (f.onsetS m.config) := by
  have hforward : ∀ k, 0 ≤ elapsed ticks k := fun k => elapsed_le (Nat.zero_le k) hticks
  constructor
  · intro k af af' _ _ htime
    exact absurd (htime.trans_le honset) (hforward (k + 1)).not_gt
  · intro k af _ htime
    exact absurd (htime.trans_le honset) (hforward k).not_gt
  · intro k af hk haf _
    obtain ⟨t, ht⟩ : ∃ t, ticks[k]? = some t := ⟨_, getElem?_eq_getElem hk⟩
    rw [(failureAt_some hgradual hticks hk haf).2, take_add_one, ht]
    simp only [Option.toList_some, map_append, map_cons, map_nil, magnitudeAfter,
      foldl_concat]
    exact ramped_of_nonpos honset _ _

/-- A tick does not take the magnitude back. -/
theorem magnitudeAfter_mono (htarget : 0 ≤ target) (h : 0 < onsetDurationS)
    (hdts : ∀ dt ∈ dts, 0 ≤ dt) {dtSim : ℚ} (hdt : 0 ≤ dtSim) :
    magnitudeAfter target onsetDurationS dts ≤
      magnitudeAfter target onsetDurationS (dts ++ [dtSim]) := by
  have hbelow := magnitudeAfter_le htarget h hdts
  rw [magnitudeAfter_eq h] at hbelow ⊢
  rw [magnitudeAfter_eq h, map_append, map_cons, map_nil, ramp_concat]
  exact le_move hbelow (mul_nonneg (div_nonneg htarget h.le) hdt)

/-- A gradual failure with a target rises. -/
theorem failure_rises (hgradual : f.onset = .gradual) (hticks : ∀ t ∈ ticks, 0 ≤ t.dtSim)
    (honset : 0 < f.onsetS m.config) (htarget : 0 ≤ f.magnitude) {k : Nat}
    {af af' : ActiveFailure} (haf : failureAt m f draw ticks k = some af)
    (haf' : failureAt m f draw ticks (k + 1) = some af') :
    af.currentMagnitude ≤ af'.currentMagnitude := by
  rcases lt_or_ge k ticks.length with hk | hk
  · obtain ⟨t, ht⟩ : ∃ t, ticks[k]? = some t := ⟨_, getElem?_eq_getElem hk⟩
    have hdt := hticks t (mem_of_getElem? ht)
    have hmono := magnitudeAfter_mono htarget honset (dts_nonneg hticks k) hdt
    rw [(failureAt_some hgradual hticks hk.le haf).2,
      (failureAt_some hgradual hticks hk haf').2, take_add_one, ht]
    simpa using hmono
  · rw [failureAt_past hk] at haf
    rw [failureAt_past (Nat.le_succ_of_le hk)] at haf'
    obtain rfl := Option.some.inj (haf.symm.trans haf')
    exact le_refl _

/-- A gradual failure with a target stays below it. -/
theorem failure_below (hgradual : f.onset = .gradual) (hticks : ∀ t ∈ ticks, 0 ≤ t.dtSim)
    (honset : 0 < f.onsetS m.config) (htarget : 0 ≤ f.magnitude) {k : Nat} {af : ActiveFailure}
    (haf : failureAt m f draw ticks k = some af) : af.currentMagnitude ≤ f.magnitude := by
  have hcut : failureAt m f draw ticks (min k ticks.length) = some af := by
    rcases le_total k ticks.length with hk | hk
    · rwa [min_eq_left hk]
    · rwa [min_eq_right hk, ← failureAt_past hk]
  rw [(failureAt_some hgradual hticks (min_le_right _ _) hcut).2]
  exact magnitudeAfter_le htarget honset (dts_nonneg hticks _)

/-- **Gradual failures complete on time** exactly if the ticks that are long enough make up for the
ramp. -/
theorem completesOnTime_iff (hgradual : f.onset = .gradual) (hticks : ∀ t ∈ ticks, 0 ≤ t.dtSim) :
    CompletesOnTime m f draw ticks (f.onsetS m.config) ↔
      RampMeets f ticks (f.onsetS m.config) := by
  rcases le_or_gt (f.onsetS m.config) 0 with honset | honset
  · exact iff_of_true (completes_of_nonpos hgradual hticks honset) (.inl honset)
  have hstart : failureAt m f draw ticks 0 = some (f.after m.config []) := by
    rw [failureAt_eq hgradual hticks (Nat.zero_le _)]
    exact if_pos (le_or_gt f.durationS 0)
  constructor
  · intro hcompletes
    have htarget : 0 ≤ f.magnitude := by
      have hbelow := hcompletes.below 0 _ hstart honset
      rwa [after_currentMagnitude hgradual] at hbelow
    refine .inr ⟨htarget, ?_⟩
    intro k hk hlasts htime
    have hfailure : failureAt m f draw ticks (k + 1) =
        some (f.after m.config ((ticks.take (k + 1)).map Tick.dtSim)) := by
      rw [failureAt_eq hgradual hticks (Nat.succ_le_of_lt hk), if_pos hlasts]
    have hdone := hcompletes.done k _ hk hfailure htime
    rw [after_currentMagnitude hgradual] at hdone
    exact (magnitudeAfter_within_iff htarget honset (dts_nonneg hticks _)).mp hdone
  · rintro (hnone | ⟨htarget, hmeets⟩)
    · exact absurd hnone honset.not_ge
    constructor
    · intro k af af' haf haf' _
      exact failure_rises hgradual hticks honset htarget haf haf'
    · intro k af haf _
      exact failure_below hgradual hticks honset htarget haf
    · intro k af hk haf htime
      obtain ⟨hlasts, hmagnitude⟩ := failureAt_some hgradual hticks hk haf
      rw [hmagnitude]
      apply (magnitudeAfter_within_iff htarget honset (dts_nonneg hticks _)).mpr
      exact hmeets k hk hlasts htime

end Runs

/-! ### Examples -/

/-- A failure of a small magnitude, with the configured onset of 90 s. -/
def smallFailure : Injection :=
  { subsystem := "eps", failure := "sa_degraded", magnitude := 1 / 20, onset := .gradual }

/-- Two ticks of 45 s. -/
theorem smallFailure_longTicks :
    CompletesOnTime {} smallFailure 0 [{ dtSim := 45 }, { dtSim := 45 }] 90 := by
  have honset : smallFailure.onsetS ({} : Manager).config = 90 := rfl
  rw [← honset]
  apply (completesOnTime_iff rfl ?_).mpr
  · rw [honset]
    refine .inr ⟨by decide +kernel, ?_⟩
    intro k hk _ htime
    have hk' : k = 0 ∨ k = 1 := by
      have hlt : k < 2 := hk
      omega
    rcases hk' with rfl | rfl
    · exact absurd htime (by decide +kernel)
    · decide +kernel
  · intro t ht
    obtain rfl : t = { dtSim := 45 } := by simpa using ht
    norm_num

/-- With ticks of one second, the magnitude never moves. -/
theorem smallFailure_shortTicks :
    ¬ ∀ (m : Manager) (f : Injection) (draw : ℚ) (ticks : List Tick), f.onset = .gradual →
      (∀ t ∈ ticks, 0 ≤ t.dtSim) → CompletesOnTime m f draw ticks (f.onsetS m.config) := by
  intro hall
  let ticks : List Tick := List.replicate 90 { dtSim := 1 }
  have hticks : ∀ t ∈ ticks, 0 ≤ t.dtSim := by
    intro t ht
    rw [List.eq_of_mem_replicate ht]
    norm_num
  have hcompletes := hall {} smallFailure 0 ticks rfl hticks
  have hlength : ticks.length = 90 := List.length_replicate
  have hfailure : failureAt {} smallFailure 0 ticks 90 =
      some (smallFailure.after {} ((ticks.take 90).map Tick.dtSim)) := by
    rw [failureAt_eq rfl hticks hlength.ge, if_pos (.inl (le_refl 0))]
  have hdone := hcompletes.done 89 _ (by omega) hfailure (by decide +kernel)
  rw [after_currentMagnitude rfl] at hdone
  exact absurd hdone (by decide +kernel)

end FailureManager
