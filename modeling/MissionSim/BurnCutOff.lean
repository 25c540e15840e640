import MissionSim.BurnIntegration
import MissionSim.Runs
import Mathlib.Algebra.BigOperators.Group.List.Basic
import Mathlib.Data.Rat.Floor
import Mathlib.Tactic.Linarith

/-!
# A burn and its command

A burn ends on its command.  A timed burn lasts no longer than it is commanded to.  A closed-loop
burn gains no more delta-V than it is commanded to, as long as it accelerates: at 1e-9 m/s² and
below the cut-off is not taken, and the burn may gain as much as that acceleration gives it.  No
burn takes propellant that the tank does not hold, and none goes on once the watchdog's time is
over.

A sub-step gives an invariant of the burn, `Sound`, and a relation to the state before it,
`Follows`; both compose over the sub-steps of a tick and over the ticks of a run.
-/

namespace Propulsion.Exact

variable {K : Type*} [Field K] [LinearOrder K] {h left a : K}

/-! ### The last part of a sub-step -/

theorem lastPart_nonneg (hh : 0 ≤ h) : 0 ≤ (lastPart left h).1 := by
  unfold lastPart
  split
  · exact le_max_right _ _
  · exact hh

theorem lastPart_of_not_done (hdone : (lastPart left h).2 = false) : (lastPart left h).1 = h := by
  unfold lastPart at hdone ⊢
  split at hdone
  · contradiction
  · rename_i hlate
    rw [if_neg hlate]

theorem subSteps_pos [FloorRing K] (dt : K) : 0 < subSteps dt := by
  unfold subSteps
  omega

variable [IsStrictOrderedRing K]

/-- At a rate `a` the last part goes no further than the target, from where it is not beyond. -/
theorem lastPart_le_target (x target : K) (ha : 0 < a) :
    x + a * (lastPart ((target - x) / a) h).1 ≤ max x target := by
  have hreach : a * ((target - x) / a) = target - x := mul_div_cancel₀ _ ha.ne'
  unfold lastPart
  split
  · rw [mul_max_of_nonneg _ _ ha.le, hreach, mul_zero]
    rcases max_cases (target - x) 0 with ⟨heq, _⟩ | ⟨heq, _⟩ <;> rw [heq]
    · exact le_max_of_le_right (by linarith)
    · exact le_max_of_le_left (by linarith)
  · rename_i hlate
    have hless : a * h ≤ target - x := by
      rw [← hreach]
      exact mul_le_mul_of_nonneg_left (not_le.mp hlate).le ha.le
    exact le_max_of_le_right (by linarith)

/-- At a rate `a` the last part reaches the target where it says so. -/
theorem target_le_lastPart {x target : K} (ha : 0 < a)
    (hdone : (lastPart ((target - x) / a) h).2 = true) :
    target ≤ x + a * (lastPart ((target - x) / a) h).1 := by
  unfold lastPart at hdone ⊢
  split at hdone
  · rename_i hsoon
    rw [if_pos hsoon]
    have hpart := mul_le_mul_of_nonneg_left (le_max_left ((target - x) / a) 0) ha.le
    rw [mul_div_cancel₀ _ ha.ne'] at hpart
    linarith
  · contradiction

theorem literal_pos {n d : Nat} (hn : 0 < n) (hd : 0 < d) : (0 : K) < literal n d :=
  div_pos (Nat.cast_pos.mpr hn) (Nat.cast_pos.mpr hd)

/-- The acceleration at which the cut-off is not taken. -/
theorem threshold_pos : (0 : K) < literal 1 1000000000 := literal_pos Nat.one_pos (by decide)

/-! ### The cut-off of a sub-step -/

variable {c : Config K} {s t u : PropState K}

/-- The three ways in which a sub-step is cut off or not. -/
theorem cutOff_cases (s : PropState K) (a h : K) :
    (s.burnMode = .closedLoop ∧ literal 1 1000000000 < a ∧
      cutOff s a h = lastPart ((s.burnDvCmdMS - s.burnDvMagMS) / a) h) ∨
    (s.burnMode = .closedLoop ∧ a ≤ literal 1 1000000000 ∧ cutOff s a h = (h, false)) ∨
    (s.burnMode = .timed ∧
      cutOff s a h = lastPart ((s.burnTimeCmdS - s.burnElapsedS) / 1) h) := by
  unfold cutOff
  cases hmode : s.burnMode with
  | timed => simp
  | closedLoop =>
      by_cases ha : literal 1 1000000000 < a
      · rw [if_pos ⟨rfl, ha⟩]
        exact .inl ⟨rfl, ha, rfl⟩
      · rw [if_neg fun hslow => ha hslow.2]
        exact .inr (.inl ⟨rfl, not_lt.mp ha, by simp⟩)

theorem cutOff_nonneg (hh : 0 ≤ h) : 0 ≤ (cutOff s a h).1 := by
  obtain ⟨-, -, hcut⟩ | ⟨-, -, hcut⟩ | ⟨-, hcut⟩ := cutOff_cases s a h <;> rw [hcut]
  · exact lastPart_nonneg hh
  · exact hh
  · exact lastPart_nonneg hh

theorem cutOff_of_not_done (hdone : (cutOff s a h).2 = false) : (cutOff s a h).1 = h := by
  obtain ⟨-, -, hcut⟩ | ⟨-, -, hcut⟩ | ⟨-, hcut⟩ := cutOff_cases s a h <;>
    rw [hcut] at hdone ⊢
  · exact lastPart_of_not_done hdone
  · exact lastPart_of_not_done hdone

/-! ### What a sub-step computes -/

theorem thrustN_nonneg (pBar : K) : 0 ≤ thrustN c s pBar :=
  mul_nonneg (le_max_right _ _) s.perfFactor.2.1

theorem scMassKg_pos : 0 < scMassKg c s :=
  add_pos_of_pos_of_nonneg c.scDryMass_pos (le_max_right _ _)

theorem g0_pos : (0 : K) < g0 := literal_pos (by decide) (by decide)

theorem massFlow_nonneg {fN isp : K} (hf : 0 ≤ fN) : 0 ≤ massFlow fN isp := by
  unfold massFlow
  split
  · rename_i hisp
    exact div_nonneg hf (mul_pos hisp g0_pos).le
  · exact le_rfl

theorem slice_mdot_nonneg : 0 ≤ (slice c h s).mdot := massFlow_nonneg (thrustN_nonneg _)

theorem slice_hUse_nonneg (hh : 0 ≤ h) : 0 ≤ (slice c h s).hUse := cutOff_nonneg hh

/-! ### A burn and its command -/

/-- The burn has come to its command. -/
def AtCommand (s : PropState K) : Prop :=
  (s.burnMode = .closedLoop → s.burnDvCmdMS ≤ s.burnDvMagMS) ∧
  (s.burnMode = .timed → s.burnTimeCmdS ≤ s.burnElapsedS)

/-- What holds of a burn from its start on. -/
structure Sound (s : PropState K) : Prop where
  propellant : 0 ≤ s.mPropKg
  elapsed : 0 ≤ s.burnElapsedS
  closedLoop : s.burnMode = .closedLoop →
    s.burnDvMagMS ≤ s.burnDvCmdMS + literal 1 1000000000 * s.burnElapsedS
  timed : s.burnMode = .timed → s.burnElapsedS ≤ s.burnTimeCmdS
  complete : s.burnStatus = .complete → AtCommand s
  firing : s.state = .firing → s.burnStatus = .firing

/-- The burn accelerates by more than 1e-9 m/s² at every propellant mass in a range. -/
def Driven (c : Config K) (s : PropState K) (low high : K) : Prop :=
  ∀ m, low ≤ m → m ≤ high → literal 1 1000000000 < acceleration c { s with mPropKg := m }

/-- What becomes of a burn: its command and its thruster stay, its propellant does not grow, and
as long as it accelerates, its delta-V does not pass the command. -/
structure Follows (c : Config K) (s t : PropState K) : Prop where
  burnMode : t.burnMode = s.burnMode
  dvCmd : t.burnDvCmdMS = s.burnDvCmdMS
  timeCmd : t.burnTimeCmdS = s.burnTimeCmdS
  limit : t.limTBurnMaxS = s.limTBurnMaxS
  perf : t.perfFactor = s.perfFactor
  mass : t.mPropKg ≤ s.mPropKg
  driven : s.burnMode = .closedLoop → Driven c s t.mPropKg s.mPropKg →
    s.burnDvMagMS ≤ s.burnDvCmdMS → t.burnDvMagMS ≤ s.burnDvCmdMS

theorem Follows.refl (s : PropState K) : Follows c s s where
  burnMode := rfl
  dvCmd := rfl
  timeCmd := rfl
  limit := rfl
  perf := rfl
  mass := le_rfl
  driven _ _ hwithin := hwithin

theorem Driven.of_follows {low high : K} (h : Follows c s t) (hdriven : Driven c s low high) :
    Driven c t low high := by
  intro m hlow hhigh
  have hsame : acceleration c { t with mPropKg := m } = acceleration c { s with mPropKg := m } := by
    simp only [acceleration, thrustN, scMassKg, h.perf]
  rw [hsame]
  exact hdriven m hlow hhigh

theorem Driven.mono {low low' high high' : K} (hlow : low ≤ low') (hhigh : high' ≤ high)
    (h : Driven c s low high) : Driven c s low' high' :=
  fun m hm hm' => h m (hlow.trans hm) (hm'.trans hhigh)

theorem Follows.trans (hst : Follows c s t) (htu : Follows c t u) : Follows c s u where
  burnMode := htu.burnMode.trans hst.burnMode
  dvCmd := htu.dvCmd.trans hst.dvCmd
  timeCmd := htu.timeCmd.trans hst.timeCmd
  limit := htu.limit.trans hst.limit
  perf := htu.perf.trans hst.perf
  mass := htu.mass.trans hst.mass
  driven hmode hdriven hwithin := by
    have hmiddle := hst.driven hmode (hdriven.mono htu.mass le_rfl) hwithin
    rw [← hst.dvCmd] at hmiddle ⊢
    exact htu.driven (hst.burnMode.trans hmode)
      ((hdriven.mono le_rfl hst.mass).of_follows hst) hmiddle

/-- A step of the burn: it keeps the invariant, and the burn follows. -/
def Leads (c : Config K) (s t : PropState K) : Prop := Sound s → Sound t ∧ Follows c s t

theorem Leads.refl (s : PropState K) : Leads c s s := fun hs => ⟨hs, .refl s⟩

theorem Leads.trans (hst : Leads c s t) (htu : Leads c t u) : Leads c s u := by
  intro hs
  obtain ⟨ht, hfollows⟩ := hst hs
  obtain ⟨hu, hfollows'⟩ := htu ht
  exact ⟨hu, hfollows.trans hfollows'⟩

/-! ### The start of a burn -/

/-- A loaded burn, with what the tank holds. -/
structure Loaded (s : PropState K) : Prop where
  dvCmd : 0 ≤ s.burnDvCmdMS
  timeCmd : 0 ≤ s.burnTimeCmdS
  propellant : 0 ≤ s.mPropKg

theorem predictBurnTimeS_nonneg {dvMS : K} (hdv : 0 ≤ dvMS) : 0 ≤ predictBurnTimeS c s dvMS := by
  simp only [predictBurnTimeS]
  split
  · exact le_rfl
  · exact div_nonneg (mul_nonneg hdv scMassKg_pos.le) (thrustN_nonneg _)

/-- A burn that `set_burn` accepts is loaded. -/
theorem setBurn_loaded {log : K → K} {dv : K} {mode : Int} (hmass : 0 ≤ s.mPropKg)
    (h : setBurn c log dv mode s = .ok t) : Loaded t := by
  unfold setBurn at h
  split at h
  · contradiction
  · rename_i hrange
    split at h
    · contradiction
    · split at h
      · contradiction
      · cases h
        have hdv : 0 < dv := (not_not.mp hrange).1
        exact ⟨hdv.le, predictBurnTimeS_nonneg hdv.le, hmass⟩

/-- A burn as it starts. -/
theorem execute_sound (hs : Loaded s) (h : execute s = .ok t) :
    Sound t ∧ t.burnDvMagMS ≤ t.burnDvCmdMS ∧ t.burnElapsedS = 0 := by
  unfold execute at h
  split at h
  · contradiction
  · cases h
    refine ⟨?_, hs.dvCmd, rfl⟩
    exact {
      propellant := hs.propellant
      elapsed := le_rfl
      closedLoop := fun _ => by
        rw [mul_zero, add_zero]
        exact hs.dvCmd
      timed := fun _ => hs.timeCmd
      complete := nofun
      firing := fun _ => rfl }

/-! ### A sub-step -/

@[simp] theorem burn_elapsed (x : Slice K) :
    (s.burn x).burnElapsedS = s.burnElapsedS + x.hUse := rfl

@[simp] theorem burn_dvMag (x : Slice K) :
    (s.burn x).burnDvMagMS = s.burnDvMagMS + x.a * x.hUse := rfl

/-- The delta-V after a sub-step that accelerates. -/
theorem burn_dv_le (hmode : s.burnMode = .closedLoop)
    (ha : literal 1 1000000000 < acceleration c s) :
    (s.burn (slice c h s)).burnDvMagMS ≤ max s.burnDvMagMS s.burnDvCmdMS := by
  have hpos : 0 < acceleration c s := threshold_pos.trans ha
  obtain ⟨-, -, hcut⟩ | ⟨-, hslow, -⟩ | ⟨htimed, -⟩ := cutOff_cases s (acceleration c s) h
  · have hle := lastPart_le_target (h := h) s.burnDvMagMS s.burnDvCmdMS hpos
    rw [← hcut] at hle
    exact hle
  · exact absurd ha (not_lt.mpr hslow)
  · exact nomatch hmode.symm.trans htimed

theorem burn_mass_le (hh : 0 ≤ h) (hmass : 0 ≤ s.mPropKg) :
    (s.burn (slice c h s)).mPropKg ≤ s.mPropKg := by
  have htaken : 0 ≤ (slice c h s).mdot * (slice c h s).hUse :=
    mul_nonneg slice_mdot_nonneg (slice_hUse_nonneg hh)
  exact max_le (by linarith) hmass

/-- The excess of a closed-loop burn grows only while it does not accelerate. -/
theorem burn_closedLoop (hh : 0 ≤ h) (hs : Sound s) (hmode : s.burnMode = .closedLoop) :
    (s.burn (slice c h s)).burnDvMagMS ≤
      s.burnDvCmdMS + literal 1 1000000000 * (s.burn (slice c h s)).burnElapsedS := by
  have huse := slice_hUse_nonneg (c := c) (s := s) hh
  have hbefore := hs.closedLoop hmode
  have helapsed := hs.elapsed
  rw [burn_elapsed, mul_add]
  have hgrow := mul_nonneg threshold_pos.le huse
  have hold := mul_nonneg threshold_pos.le helapsed
  by_cases ha : literal 1 1000000000 < acceleration c s
  · refine (burn_dv_le hmode ha).trans (max_le ?_ ?_)
    · linarith
    · linarith
  · have hslow : (slice c h s).a * (slice c h s).hUse ≤ literal 1 1000000000 * (slice c h s).hUse :=
      mul_le_mul_of_nonneg_right (not_lt.mp ha) huse
    rw [burn_dvMag]
    linarith

/-- A timed sub-step ends at the commanded time at the latest. -/
theorem burn_timed (hs : Sound s) (hmode : s.burnMode = .timed) :
    (s.burn (slice c h s)).burnElapsedS ≤ s.burnTimeCmdS := by
  obtain ⟨hclosed, -⟩ | ⟨hclosed, -⟩ | ⟨-, hcut⟩ := cutOff_cases s (acceleration c s) h
  · exact nomatch hmode.symm.trans hclosed
  · exact nomatch hmode.symm.trans hclosed
  · have hle := lastPart_le_target (h := h) s.burnElapsedS s.burnTimeCmdS one_pos
    rw [← hcut, one_mul, max_eq_right (hs.timed hmode)] at hle
    exact hle

/-- The sub-step that the cut-off ends is the one that comes to the command. -/
theorem burn_atCommand (hdone : (slice c h s).done = true) :
    AtCommand (s.burn (slice c h s)) := by
  have hcutDone : (cutOff s (acceleration c s) h).2 = true := hdone
  obtain ⟨hmode, ha, hcut⟩ | ⟨-, -, hcut⟩ | ⟨hmode, hcut⟩ := cutOff_cases s (acceleration c s) h
  · have hpos : 0 < acceleration c s := threshold_pos.trans ha
    have hreach := target_le_lastPart hpos (hcut ▸ hcutDone)
    rw [← hcut] at hreach
    exact ⟨fun _ => hreach, fun htimed => nomatch hmode.symm.trans htimed⟩
  · rw [hcut] at hcutDone
    contradiction
  · have hreach := target_le_lastPart one_pos (hcut ▸ hcutDone)
    rw [← hcut, one_mul] at hreach
    exact ⟨fun hclosed => (nomatch hmode.symm.trans hclosed), fun _ => hreach⟩

/-- **A sub-step.**  It keeps the invariant, and the burn follows. -/
theorem burn_leads (hh : 0 ≤ h) (hfiring : s.state = .firing) :
    Leads c s (s.burn (slice c h s)) := by
  intro hs
  have hmass := burn_mass_le (c := c) hh hs.propellant
  constructor
  · exact {
      propellant := le_max_right _ _
      elapsed := add_nonneg hs.elapsed (slice_hUse_nonneg hh)
      closedLoop := fun hmode => burn_closedLoop hh hs hmode
      timed := fun hmode => burn_timed hs hmode
      complete := fun hcomplete => nomatch (hs.firing hfiring).symm.trans hcomplete
      firing := hs.firing }
  · exact {
      burnMode := rfl
      dvCmd := rfl
      timeCmd := rfl
      limit := rfl
      perf := rfl
      mass := hmass
      driven := by
        intro hmode hdriven hwithin
        have ha := hdriven s.mPropKg hmass le_rfl
        exact (burn_dv_le hmode ha).trans (max_le hwithin le_rfl) }

/-! ### The sub-steps of a tick -/

variable {n : Nat}

theorem burnSteps_leads (hh : 0 ≤ h) (hfiring : s.state = .firing) :
    Leads c s (burnSteps c h n s).1 := by
  induction n generalizing s with
  | zero => exact .refl s
  | succ n ih =>
      have hstep : Leads c s (s.burn (slice c h s)) := burn_leads hh hfiring
      simp only [burnSteps]
      split
      · exact hstep
      · split
        · exact hstep
        · exact hstep.trans (ih hfiring)

/-- A loop that the cut-off ends has come to the command. -/
theorem burnSteps_atCommand (hdone : (burnSteps c h n s).2 = true) :
    AtCommand (burnSteps c h n s).1 := by
  induction n generalizing s with
  | zero => contradiction
  | succ n ih =>
      simp only [burnSteps] at hdone ⊢
      split at hdone
      · rename_i hlast
        rw [if_pos hlast]
        exact burn_atCommand hlast
      · rename_i hlast
        rw [if_neg hlast]
        split at hdone
        · contradiction
        · rename_i hleft
          rw [if_neg hleft]
          exact ih hdone

/-- A loop that neither the cut-off nor the propellant ends takes all of its sub-steps. -/
theorem burnSteps_elapsed (hdone : (burnSteps c h n s).2 = false)
    (hleft : 0 < (burnSteps c h n s).1.mPropKg) :
    (burnSteps c h n s).1.burnElapsedS = s.burnElapsedS + n * h := by
  induction n generalizing s with
  | zero => simp [burnSteps]
  | succ n ih =>
      simp only [burnSteps] at hdone hleft ⊢
      split at hdone
      · contradiction
      · rename_i hlast
        rw [if_neg hlast] at hleft ⊢
        split at hdone
        · rename_i hempty
          rw [if_pos hempty] at hleft
          exact absurd hempty (not_le.mpr hleft)
        · rename_i hmore
          rw [if_neg hmore] at hleft ⊢
          have hfull : (slice c h s).hUse = h := cutOff_of_not_done (Bool.eq_false_iff.mpr hlast)
          rw [ih hdone hleft, burn_elapsed, hfull]
          push_cast
          ring

/-! ### The end of a burn -/

/-- What the bound on a burn is about. -/
def PropState.burnData (s : PropState K) : BurnMode × K × K × K × Set.Icc (0 : K) 1 × K × K :=
  (s.burnMode, s.burnDvCmdMS, s.burnTimeCmdS, s.limTBurnMaxS, s.perfFactor, s.burnDvMagMS,
    s.burnElapsedS)

/-- **What does not burn leads on.**  Where the burn's data stay, a step keeps the invariant that
takes no more propellant than there is, completes no burn that has not come to its command, and
fires none anew. -/
theorem leads_of_burnData (hdata : t.burnData = s.burnData)
    (hmass : 0 ≤ s.mPropKg → 0 ≤ t.mPropKg ∧ t.mPropKg ≤ s.mPropKg)
    (hcomplete : t.burnStatus = .complete → s.burnStatus = .complete ∨ AtCommand s)
    (hfiring : t.state = .firing → s.state = .firing ∧ t.burnStatus = s.burnStatus) :
    Leads c s t := by
  intro hs
  simp only [PropState.burnData, Prod.mk.injEq] at hdata
  obtain ⟨hmode, hdv, htime, hlimit, hperf, hmag, helapsed⟩ := hdata
  obtain ⟨hnonneg, hle⟩ := hmass hs.propellant
  constructor
  · exact {
      propellant := hnonneg
      elapsed := helapsed ▸ hs.elapsed
      closedLoop := by
        rw [hmode, hdv, hmag, helapsed]
        exact hs.closedLoop
      timed := by
        rw [hmode, htime, helapsed]
        exact hs.timed
      complete := by
        intro hstatus
        have hreached : AtCommand s := (hcomplete hstatus).elim hs.complete id
        unfold AtCommand at hreached ⊢
        rw [hmode, hdv, hmag, htime, helapsed]
        exact hreached
      firing := fun hstate =>
        (hfiring hstate).2.trans (hs.firing (hfiring hstate).1) }
  · exact {
      burnMode := hmode
      dvCmd := hdv
      timeCmd := htime
      limit := hlimit
      perf := hperf
      mass := hle
      driven := fun _ _ hwithin => hmag ▸ hwithin }

theorem completeBurn_leads (h : AtCommand s) : Leads c s (completeBurn s) :=
  leads_of_burnData rfl (fun hmass => ⟨hmass, le_rfl⟩) (fun _ => .inr h) (nomatch ·)

theorem keepBurn_spec (s : PropState K) :
    (keepBurn s).burnData = s.burnData ∧ (keepBurn s).mPropKg = s.mPropKg := by
  unfold keepBurn
  split <;> exact ⟨rfl, rfl⟩

theorem latchInhibit_spec (s : PropState K) :
    (latchInhibit s).burnData = s.burnData ∧ (latchInhibit s).mPropKg = s.mPropKg ∧
    (latchInhibit s).burnStatus = s.burnStatus ∧
    (s.state ≠ .firing → (latchInhibit s).state ≠ .firing) := by
  unfold latchInhibit
  split
  · exact ⟨rfl, rfl, rfl, fun _ => nofun⟩
  · exact ⟨rfl, rfl, rfl, id⟩

/-- An abort leaves what was burnt, and FIRING. -/
theorem abortBurn_spec (reason : AbortReason) (s : PropState K) :
    (abortBurn reason s).burnData = s.burnData ∧ (abortBurn reason s).mPropKg = s.mPropKg ∧
    (abortBurn reason s).burnStatus = .aborted ∧ (abortBurn reason s).state ≠ .firing := by
  obtain ⟨hdata, hmass⟩ := keepBurn_spec s
  obtain ⟨hdata', hmass', hstatus, hstate⟩ := latchInhibit_spec { keepBurn s with
    state := .safed, burnStatus := .aborted, fcvOpen := false, abortReason := reason,
    burnLoaded := false, abortCount := (keepBurn s).abortCount + 1 }
  exact ⟨hdata'.trans hdata, hmass'.trans hmass, hstatus, hstate nofun⟩

theorem abortBurn_leads (reason : AbortReason) : Leads c s (abortBurn reason s) := by
  obtain ⟨hdata, hmass, hstatus, hstate⟩ := abortBurn_spec reason s
  refine leads_of_burnData hdata ?_ ?_ ?_
  · intro hnonneg
    exact ⟨hmass ▸ hnonneg, hmass.le⟩
  · intro hcomplete
    exact nomatch hstatus.symm.trans hcomplete
  · intro hfiring
    exact absurd hfiring hstate

/-! ### A tick -/

theorem readParams_leads (tk : Tick K) : Leads c s (readParams tk s) :=
  leads_of_burnData rfl (fun hmass => ⟨hmass, le_rfl⟩) .inl fun hfiring => ⟨hfiring, rfl⟩

theorem powerLoss_leads {lineOn : Bool} : Leads c s (powerLoss lineOn s) := by
  unfold powerLoss
  split
  · exact .refl s
  · split
    · exact abortBurn_leads .lowSoc
    · split
      · exact leads_of_burnData rfl (fun hmass => ⟨hmass, le_rfl⟩) (nomatch ·) (nomatch ·)
      · exact .refl s

theorem leak_leads {dt : K} (hdt : 0 ≤ dt) : Leads c s (leak dt s) := by
  simp only [leak]
  split
  · rename_i hleaks
    refine leads_of_burnData rfl ?_ .inl fun hfiring => ⟨hfiring, rfl⟩
    intro hnonneg
    have htaken := mul_nonneg hleaks.1.le hdt
    exact ⟨le_max_right _ _, max_le (by linarith) hnonneg⟩
  · exact .refl s

theorem powerLoss_firing {lineOn : Bool} (h : (powerLoss lineOn s).state = .firing) :
    powerLoss lineOn s = s := by
  unfold powerLoss at h ⊢
  split at h
  · rename_i hon
    rw [if_pos hon]
  · split at h
    · exact absurd h (abortBurn_spec _ s).2.2.2
    · split at h
      · exact nomatch h
      · rename_i hfiring _
        exact absurd h hfiring

theorem leak_spec (dt : K) (s : PropState K) :
    (leak dt s).burnData = s.burnData ∧ (leak dt s).state = s.state := by
  simp only [leak]
  split <;> exact ⟨rfl, rfl⟩

theorem abortCheck_limit (h : abortCheck s = none) : s.burnElapsedS < s.limTBurnMaxS := by
  unfold abortCheck at h
  split at h
  · contradiction
  · split at h
    · contradiction
    · split at h
      · contradiction
      · split at h
        · contradiction
        · rename_i hlimit
          exact not_le.mp hlimit

variable [FloorRing K]

theorem subStep_nonneg {dt : K} (hdt : 0 ≤ dt) : 0 ≤ dt / (subSteps dt : K) :=
  div_nonneg hdt (Nat.cast_nonneg _)

theorem integrateBurn_leads {dt : K} (hdt : 0 ≤ dt) (hfiring : s.state = .firing) :
    Leads c s (integrateBurn c dt s) := by
  have hloop : Leads c s (burnSteps c (dt / subSteps dt) (subSteps dt) s).1 :=
    burnSteps_leads (subStep_nonneg hdt) hfiring
  unfold integrateBurn
  split
  · exact abortBurn_leads _
  · simp only
    split
    · rename_i hdone
      exact hloop.trans (completeBurn_leads (burnSteps_atCommand hdone))
    · split
      · exact hloop.trans (abortBurn_leads .lowP)
      · exact hloop

theorem fire_leads {dt : K} (hdt : 0 ≤ dt) : Leads c s (fire c dt s) := by
  unfold fire
  split
  · rename_i hfiring
    exact integrateBurn_leads hdt hfiring
  · exact .refl s

/-- **A tick.**  It keeps the invariant, and the burn follows. -/
theorem tick_leads (s : PropState K) (tk : Tick K) : Leads c s (tick c s tk) := by
  have hpower : Leads c s (powerLoss tk.lineOn (readParams tk s)) :=
    (readParams_leads tk).trans powerLoss_leads
  have hburn := (hpower.trans (leak_leads tk.dt_nonneg)).trans (fire_leads tk.dt_nonneg)
  exact hburn.trans (leads_of_burnData rfl (fun hmass => ⟨hmass, le_rfl⟩) .inl
    fun hfiring => ⟨hfiring, rfl⟩)

/-! ### The watchdog -/

/-- A burn that a tick leaves FIRING was within the watchdog's time, and burns for all of it. -/
theorem integrateBurn_firing {dt : K} (h : (integrateBurn c dt s).state = .firing) :
    s.burnElapsedS < s.limTBurnMaxS ∧
    (integrateBurn c dt s).burnElapsedS = s.burnElapsedS + dt := by
  unfold integrateBurn at h ⊢
  split at h
  · exact absurd h (abortBurn_spec _ s).2.2.2
  · rename_i hcheck
    simp only at h ⊢
    split at h
    · exact nomatch h
    · rename_i hdone
      rw [if_neg hdone]
      split at h
      · exact absurd h (abortBurn_spec _ _).2.2.2
      · rename_i hleft
        rw [if_neg hleft, burnSteps_elapsed (Bool.eq_false_iff.mpr hdone) (not_le.mp hleft)]
        have hparts : ((subSteps dt : Nat) : K) ≠ 0 := Nat.cast_ne_zero.mpr (subSteps_pos dt).ne'
        exact ⟨abortCheck_limit hcheck, by rw [mul_div_cancel₀ _ hparts]⟩

theorem fire_firing (dt : K) (h : (fire c dt s).state = .firing) :
    s.state = .firing ∧ s.burnElapsedS < s.limTBurnMaxS ∧
    (fire c dt s).burnElapsedS = s.burnElapsedS + dt := by
  unfold fire at h ⊢
  split at h
  · rename_i hfiring
    rw [if_pos hfiring]
    exact ⟨hfiring, integrateBurn_firing h⟩
  · rename_i hfiring
    exact absurd h hfiring

/-- A tick after which the burn fires found it firing, within the watchdog's time. -/
theorem tick_firing {tk : Tick K} (h : (tick c s tk).state = .firing) :
    s.state = .firing ∧ s.burnElapsedS < s.limTBurnMaxS ∧
    (tick c s tk).burnElapsedS = s.burnElapsedS + tk.dt := by
  obtain ⟨hfiring, hlimit, helapsed⟩ := fire_firing tk.dt h
  obtain ⟨hdata, hstate⟩ := leak_spec tk.dt (powerLoss tk.lineOn (readParams tk s))
  have hon : powerLoss tk.lineOn (readParams tk s) = readParams tk s :=
    powerLoss_firing (hstate.symm.trans hfiring)
  rw [hon] at hdata hstate hfiring hlimit helapsed
  simp only [PropState.burnData, Prod.mk.injEq] at hdata
  obtain ⟨-, -, -, hsame, -, -, helapsed'⟩ := hdata
  rw [hsame, helapsed'] at hlimit
  rw [helapsed'] at helapsed
  refine ⟨hstate.symm.trans hfiring, hlimit, ?_⟩
  simp only [tick, hon]
  exact helapsed

/-! ### Runs -/

/-- The ticks of a run in seconds. -/
def total (ticks : List (Tick K)) : K := (ticks.map Tick.dt).sum

theorem run_leads (ticks : List (Tick K)) (hs : Sound s) :
    Sound (Runs.after (tick c) s ticks) ∧ Follows c s (Runs.after (tick c) s ticks) := by
  refine Runs.invariant (P := fun t => Sound t ∧ Follows c s t) ?_ ⟨hs, .refl s⟩ ticks
  intro t tk ⟨ht, hfollows⟩
  obtain ⟨hsound, hfollows'⟩ := tick_leads t tk ht
  exact ⟨hsound, hfollows.trans hfollows'⟩

/-- While it fires, a burn has lasted as long as the ticks of its run. -/
theorem run_elapsed (ticks : List (Tick K)) (h : (Runs.after (tick c) s ticks).state = .firing) :
    (Runs.after (tick c) s ticks).burnElapsedS = s.burnElapsedS + total ticks := by
  induction ticks using List.reverseRecOn with
  | nil => simp [total]
  | append_singleton earlier last ih =>
      rw [Runs.after_concat] at h ⊢
      obtain ⟨hfiring, -, helapsed⟩ := tick_firing h
      rw [helapsed, ih hfiring]
      simp [total, add_assoc]

/-- What a burn that starts at `s` has come to at `t`, after some ticks. -/
structure WithinCommand (c : Config K) (s : PropState K) (ticks : List (Tick K))
    (t : PropState K) : Prop where
  propellant : 0 ≤ t.mPropKg
  closedLoop : s.burnMode = .closedLoop → Driven c s t.mPropKg s.mPropKg →
    t.burnDvMagMS ≤ s.burnDvCmdMS ∧
    (t.burnStatus = .complete → t.burnDvMagMS = s.burnDvCmdMS)
  /-- Whether it accelerates or not. -/
  excess : s.burnMode = .closedLoop →
    t.burnDvMagMS ≤ s.burnDvCmdMS + literal 1 1000000000 * t.burnElapsedS ∧
    (t.burnStatus = .complete → s.burnDvCmdMS ≤ t.burnDvMagMS)
  timed : s.burnMode = .timed →
    t.burnElapsedS ≤ s.burnTimeCmdS ∧
    (t.burnStatus = .complete → t.burnElapsedS = s.burnTimeCmdS)
  /-- The burn fires no longer than the tick that reaches the watchdog's time. -/
  watchdog : t.state = .firing → t.burnElapsedS = total ticks ∧
    ∀ earlier last, ticks = earlier ++ [last] → total earlier < s.limTBurnMaxS

/-- The ticks before the last end within the watchdog's time. -/
theorem run_limit {earlier : List (Tick K)} {last : Tick K} (hs : Sound s)
    (helapsed : s.burnElapsedS = 0)
    (h : (Runs.after (tick c) s (earlier ++ [last])).state = .firing) :
    total earlier < s.limTBurnMaxS := by
  rw [Runs.after_concat] at h
  obtain ⟨hfiring, hlimit, -⟩ := tick_firing h
  rw [run_elapsed earlier hfiring, helapsed, zero_add, (run_leads earlier hs).2.limit] at hlimit
  exact hlimit

/-- **A burn and its command.**  From every loaded burn, tank and thruster, through every run of
ticks: no propellant is taken that is not there; the delta-V of a closed-loop burn that accelerates
does not pass the command, and is the command once the burn is complete; nor does the time of a
timed burn; and the burn does not fire past the tick that reaches the watchdog's time. -/
theorem burn_within_command (hloaded : Loaded s) (hstart : execute s = .ok t)
    (ticks : List (Tick K)) :
    WithinCommand c t ticks (Runs.after (tick c) t ticks) := by
  obtain ⟨hsound, hwithin, helapsed⟩ := execute_sound hloaded hstart
  obtain ⟨hafter, hfollows⟩ := run_leads (c := c) ticks hsound
  exact {
    propellant := hafter.propellant
    closedLoop := by
      intro hmode hdriven
      have hle := hfollows.driven hmode hdriven hwithin
      refine ⟨hle, fun hcomplete => le_antisymm hle ?_⟩
      rw [← hfollows.dvCmd]
      exact (hafter.complete hcomplete).1 (hfollows.burnMode.trans hmode)
    excess := by
      intro hmode
      rw [← hfollows.dvCmd]
      have hmode' := hfollows.burnMode.trans hmode
      exact ⟨hafter.closedLoop hmode', fun hcomplete => (hafter.complete hcomplete).1 hmode'⟩
    timed := by
      intro hmode
      rw [← hfollows.timeCmd]
      have hmode' := hfollows.burnMode.trans hmode
      have hle := hafter.timed hmode'
      exact ⟨hle, fun hcomplete => le_antisymm hle ((hafter.complete hcomplete).2 hmode')⟩
    watchdog := by
      intro hfiring
      refine ⟨?_, ?_⟩
      · rw [run_elapsed ticks hfiring, helapsed, zero_add]
      · intro earlier last hticks
        subst hticks
        exact run_limit hsound helapsed hfiring }

/-! ### The flight configuration -/

/-- `prop.yaml`. -/
def flightConfig : Config ℚ where
  scDryMassKg := 12
  mProp0Kg := 400 / 1000
  rhoKgM3 := 1240
  tankVCm3 := 560
  p0Bar := 22
  pEolBar := 933 / 100
  f0N := 33 / 100
  ispBolS := 220
  ispEolS := 196
  scDryMass_pos := by norm_num
  rho_ne_zero := by norm_num
  p0_ne_zero := by norm_num

/-- The empty tank's pressure is the lowest. -/
theorem nine_le_tankPressure (m : ℚ) : 9 ≤ tankPressure flightConfig m := by
  have hload : 0 ≤ max m 0 / 1240 := div_nonneg (le_max_right _ _) (by norm_num)
  have hullage : max (560 * (1 / 1000000) - max m 0 / 1240) (1 / 1000000000) ≤
      (560 / 1000000 : ℚ) := max_le (by linarith) (by norm_num)
  have hpos : 0 < max (560 * (1 / 1000000) - max m 0 / 1240) (1 / 1000000000 : ℚ) :=
    lt_max_of_lt_right (by norm_num)
  simp only [tankPressure, flightConfig, literal, Nat.cast_one, Nat.cast_ofNat]
  rw [le_div_iff₀ hpos]
  linarith

/-- The flight thruster accelerates the spacecraft by more than 1e-9 m/s², with any load of the
tank and down to a millionth of its thrust. -/
theorem flightConfig_driven {s : PropState ℚ} {low high : ℚ} (hhigh : high ≤ 400 / 1000)
    (hperf : 1 / 1000000 ≤ (s.perfFactor : ℚ)) : Driven flightConfig s low high := by
  intro m _ hm
  have hpressure := nine_le_tankPressure m
  have hmass : max m 0 ≤ 400 / 1000 := max_le (hm.trans hhigh) (by norm_num)
  have hwet : 0 < 12 + max m 0 := add_pos_of_pos_of_nonneg (by norm_num) (le_max_right _ _)
  have hthrust : 1 / 10 ≤ max (33 / 100 * tankPressure flightConfig m / 22) 0 :=
    le_max_of_le_left (by linarith)
  have hforce : 1 / 10 * (1 / 1000000) ≤
      max (33 / 100 * tankPressure flightConfig m / 22) 0 * (s.perfFactor : ℚ) :=
    mul_le_mul hthrust hperf (by norm_num) (le_max_right _ _)
  have hdiv : 1 / 1000000000 <
      max (33 / 100 * tankPressure flightConfig m / 22) 0 * (s.perfFactor : ℚ) /
        (12 + max m 0) := by
    rw [lt_div_iff₀ hwet]
    linarith
  exact hdiv

/-- A tick of one second, and one of a second and a half. -/
def flightTicks : List (Tick ℚ) :=
  [{ dt := 1, dt_nonneg := zero_le_one }, { dt := 3 / 2, dt_nonneg := by norm_num }]

/-- A spacecraft with a closed-loop burn of 0.05 m/s, armed. -/
def armedShip : PropState ℚ where
  state := .armed
  burnStatus := .armed
  burnLoaded := true
  catbedTempC := 200
  burnDvCmdMS := 5 / 100

/-- The spacecraft with the burn under way. -/
def firingShip : PropState ℚ :=
  { armedShip with state := .firing, burnStatus := .firing, fcvOpen := true }

theorem shortBurn_within_command :
    WithinCommand flightConfig firingShip flightTicks
      (Runs.after (tick flightConfig) firingShip flightTicks) ∧
    (Runs.after (tick flightConfig) firingShip flightTicks).burnStatus = .complete :=
  ⟨burn_within_command (s := armedShip) ⟨by decide +kernel, le_rfl, by decide +kernel⟩ rfl
      flightTicks,
    by decide +kernel⟩

/-- The spacecraft with its thrust degraded to 1e-8, armed for a burn of 1e-12 m/s. -/
def faintShip : PropState ℚ :=
  { armedShip with
    burnDvCmdMS := 1 / 1000000000000
    perfFactor := ⟨1 / 100000000, by norm_num, by norm_num⟩ }

/-- After a second the faint burn has passed its command. -/
theorem faintBurn_passes_command :
    Loaded faintShip ∧
    execute faintShip =
      .ok { faintShip with state := .firing, burnStatus := .firing, fcvOpen := true } ∧
    ¬ (Runs.after (tick flightConfig)
        { faintShip with state := .firing, burnStatus := .firing, fcvOpen := true }
        (flightTicks.take 1)).burnDvMagMS ≤ faintShip.burnDvCmdMS :=
  ⟨⟨by decide +kernel, le_rfl, by decide +kernel⟩, rfl, by decide +kernel⟩

end Propulsion.Exact
