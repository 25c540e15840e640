import MissionSim.FdirCascades

/-!
# The recovery ladder

The record of a recovery is created anew when its fault is raised.  From then on its
level rises by one at a time (`tick_level`), its attempts stay within the configured
number, and it is complete when the condition of its fault is gone.

A fault can also be cleared because its rule cannot be judged any more, or because the
spacecraft has left the nominal phase.  Those two ways leave the record as it is, so
that a running recovery goes on without a fault (`running_without_fault`);
`recovery_invariant` is about the runs in which no recovery is running then.
-/

namespace Fdir

open Python Runs

/-- No recovery is running for a fault whose rule cannot be judged, and none at all when the
tick is not armed. -/
def Undisturbed (cfg : Config) (s : State) (input : TickInput) : Prop :=
  (scPhaseNominal ≤ input.spacecraftPhase → ∀ rule ∈ cfg.rules,
    faultPreconditionMet cfg input rule = .ok false →
    ∀ rs, s.recoveryStates.get? rule.faultId = some rs → rs.state ≠ .running) ∧
  (input.spacecraftPhase < scPhaseNominal →
    ∀ faultId rs, s.recoveryStates.get? faultId = some rs → rs.state ≠ .running)

/-- The attempts that starting a recovery counts: one if its group has an entry for the
initial level. -/
def firstAttempts (cfg : Config) (rule : FaultPropagationRule) : Int :=
  match (cfg.group rule.recovery).get? (levelKey cfg.initialLevel) with
  | some (some _) => 1
  | _ => 0

/-- Starting the recovery of a rule stays within the configured attempts. -/
def StartsWithin (cfg : Config) (rule : FaultPropagationRule) : Prop :=
  rule.recovery ≠ "" → (cfg.group rule.recovery).items ≠ [] →
    firstAttempts cfg rule ≤ cfg.maxAttempts

variable {cfg : Config}

/-! ### One record -/

/-- Entering a level does nothing without an entry for it, and else sets the level and
counts one attempt. -/
theorem enterRecoveryLevel_cases (rs : RecoveryState) (level : Int) (now : Rat)
    (escalated : Bool) :
    (((cfg.group rs.group).get? (levelKey level) = none ∨
        (cfg.group rs.group).get? (levelKey level) = some none) ∧
      (enterRecoveryLevel cfg rs level now escalated).1 = rs) ∨
    ((∃ actionCfg, (cfg.group rs.group).get? (levelKey level) = some (some actionCfg)) ∧
      (enterRecoveryLevel cfg rs level now escalated).1.level = level ∧
      (enterRecoveryLevel cfg rs level now escalated).1.recoveryAttempts =
        rs.recoveryAttempts + 1 ∧
      (enterRecoveryLevel cfg rs level now escalated).1.maxAttempts = rs.maxAttempts) := by
  unfold enterRecoveryLevel
  cases hget : (cfg.group rs.group).get? (levelKey level) with
  | none => exact .inl ⟨.inl rfl, rfl⟩
  | some entry =>
      cases entry with
      | none => exact .inl ⟨.inr rfl, rfl⟩
      | some actionCfg => exact .inr ⟨⟨actionCfg, rfl⟩, rfl, rfl, rfl⟩

/-- A record stays, escalates by one level while its fault is active, or fails. -/
theorem tickRecoveryState_cases (now : Rat) (active : Bool) (faultId : String)
    (rs : RecoveryState) :
    (tickRecoveryState cfg now active faultId rs).1 = rs ∨
      (active = true ∧ rs.recoveryAttempts < rs.maxAttempts ∧
        (tickRecoveryState cfg now active faultId rs).1 =
          (enterRecoveryLevel cfg rs (rs.level + 1) now true).1) ∨
      (tickRecoveryState cfg now active faultId rs).1 = { rs with state := .failed } := by
  unfold tickRecoveryState
  by_cases hdone : rs.state = .complete ∨ rs.state = .failed
  · simp [hdone]
  · cases active with
    | false => simp [hdone]
    | true =>
        simp only [hdone, if_false, Bool.not_true, Bool.false_eq_true]
        split_ifs with hwait hnext
        · exact .inl rfl
        · exact .inr (.inl ⟨trivial, hnext.2, rfl⟩)
        · exact .inr (.inr rfl)

/-! ### One tick -/

/-- What holds of the record of a fault. -/
def Sound (cfg : Config) (v : FaultView) : Prop :=
  ∀ rs, v.recovery = some rs → (rs.state = .running → v.active = true) ∧
    rs.recoveryAttempts ≤ rs.maxAttempts ∧ rs.maxAttempts = cfg.maxAttempts

/-- A record that has just started is sound. -/
theorem startedRecovery_sound {rule : FaultPropagationRule} (now : Rat) {v : FaultView}
    (hstart : StartsWithin cfg rule) (h : Sound cfg v) (pending : List PendingCascade) :
    Sound cfg { active := true, pending := pending,
                recovery := startedRecovery cfg rule now v.recovery } := by
  intro rs hrs
  refine ⟨fun _ => rfl, ?_⟩
  unfold startedRecovery at hrs
  split at hrs
  · exact (h rs hrs).2
  · rename_i hsome
    obtain ⟨hnamed, hgroup⟩ := not_or.mp hsome
    have hwithin := hstart hnamed fun hempty => hgroup (List.isEmpty_iff.mpr hempty)
    cases hrs
    unfold firstAttempts at hwithin
    rcases @enterRecoveryLevel_cases cfg (createRecoveryState cfg rule now) cfg.initialLevel now
      false with ⟨hnone, hsame⟩ | ⟨⟨actionCfg, hentry⟩, _, hattempts, hmax⟩
    · have hzero : (0 : Int) ≤ cfg.maxAttempts := by
        rcases hnone with hnone | hnone
        · rw [show (cfg.group rule.recovery).get? (levelKey cfg.initialLevel) = none from hnone]
            at hwithin
          exact hwithin
        · rw [show (cfg.group rule.recovery).get? (levelKey cfg.initialLevel) = some none
            from hnone] at hwithin
          exact hwithin
      rw [hsame]
      exact ⟨hzero, rfl⟩
    · rw [show (cfg.group rule.recovery).get? (levelKey cfg.initialLevel) = some (some actionCfg)
        from hentry] at hwithin
      rw [hattempts, hmax]
      exact ⟨hwithin, rfl⟩

theorem detect_sound {input : TickInput} {s : State} (hcalm : Undisturbed cfg s input)
    (harmed : scPhaseNominal ≤ input.spacecraftPhase)
    (hstart : ∀ rule ∈ cfg.rules, StartsWithin cfg rule) {faultId : String}
    (h : Sound cfg (s.view faultId)) : Sound cfg ((detect cfg input s).1.view faultId) := by
  rcases detect_view cfg input s faultId with hsame | ⟨rule, hmem, rfl, heffect⟩
  · rw [hsame]
    exact h
  · cases heffect with
    | unmet hmet hactive hpending hrecovery =>
        intro rs hrs
        rw [hrecovery] at hrs
        refine ⟨fun hrunning => ?_, (h rs hrs).2⟩
        exact absurd hrunning (hcalm.1 harmed rule hmem hmet rs hrs)
    | unchanged hsame =>
        rw [hsame]
        exact h
    | raised hnew hactive hpending hrecovery =>
        have hstarted := startedRecovery_sound (s.simElapsed + input.dt) (hstart rule hmem) h
          ((detect cfg input s).1.view rule.faultId).pending
        rw [← hrecovery, ← hactive] at hstarted
        exact hstarted
    | gone hactive hpending hrecovery =>
        intro rs hrs
        rw [hrecovery] at hrs
        obtain ⟨old, hold, rfl⟩ := Option.map_eq_some_iff.mp hrs
        exact ⟨fun hrunning => (nomatch hrunning), (h old hold).2⟩

/-- The recovery step keeps a record sound. -/
theorem tickRecoveryState_sound {now : Rat} {faultId : String} {v : FaultView}
    (h : Sound cfg v) (pending : List PendingCascade) :
    Sound cfg { active := v.active, pending := pending,
                recovery := v.recovery.map fun rs =>
                  (tickRecoveryState cfg now v.active faultId rs).1 } := by
  intro rs hrs
  obtain ⟨old, hold, rfl⟩ := Option.map_eq_some_iff.mp hrs
  obtain ⟨hrunning, hattempts, hmax⟩ := h old hold
  rcases @tickRecoveryState_cases cfg now v.active faultId old with
    hsame | ⟨hactive, hroom, henter⟩ | hfailed
  · rw [hsame]
    exact ⟨hrunning, hattempts, hmax⟩
  · rw [henter]
    refine ⟨fun _ => hactive, ?_⟩
    rcases @enterRecoveryLevel_cases cfg old (old.level + 1) now true with
      ⟨_, hsame⟩ | ⟨_, _, hcount, hkeep⟩
    · rw [hsame]
      exact ⟨hattempts, hmax⟩
    · rw [hcount, hkeep]
      exact ⟨hroom, hmax⟩
  · rw [hfailed]
    exact ⟨fun hstate => (nomatch hstate), hattempts, hmax⟩

/-- **One tick.** -/
theorem tick_sound {input : TickInput} {s : State} (hcalm : Undisturbed cfg s input)
    (hstart : ∀ rule ∈ cfg.rules, StartsWithin cfg rule)
    (h : ∀ faultId, Sound cfg (s.view faultId)) (faultId : String) :
    Sound cfg ((tick cfg s input).view faultId) ∧
      (∀ rs, ((tick cfg s input).view faultId).recovery = some rs → rs.state = .running →
        scPhaseNominal ≤ (tick cfg s input).spacecraftPhase) := by
  rw [tick_phase]
  rcases tick_view cfg s input faultId with ⟨hlow, hdisarmed⟩ | ⟨harmed, hview⟩
  · rw [hdisarmed]
    have hidle : ∀ rs, (s.view faultId).recovery = some rs → rs.state ≠ .running :=
      hcalm.2 hlow faultId
    refine ⟨fun rs hrs => ⟨fun hrunning => ?_, (h faultId rs hrs).2⟩, fun rs hrs hrunning => ?_⟩
    · exact absurd hrunning (hidle rs hrs)
    · exact absurd hrunning (hidle rs hrs)
  · refine ⟨?_, fun _ _ _ => harmed⟩
    have hdetected := detect_sound hcalm harmed hstart (h faultId)
    rcases hview with hraised | hticked
    · rw [hraised]
      exact hdetected
    · rw [hticked]
      exact tickRecoveryState_sound hdetected _

/-- The level of a record stays or rises by one, unless the fault is raised in the tick. -/
def LevelStep (v v' : FaultView) : Prop :=
  ∀ rs', v'.recovery = some rs' → (v.active = false ∧ v'.active = true) ∨
    ∃ rs, v.recovery = some rs ∧ (rs'.level = rs.level ∨ rs'.level = rs.level + 1)

theorem detected_level {input : TickInput} {now : Rat} {faultId : String} {v v' : FaultView}
    (h : Detected cfg input now faultId v v') {rs' : RecoveryState}
    (hrs : v'.recovery = some rs') : (v.active = false ∧ v'.active = true) ∨
      ∃ rs, v.recovery = some rs ∧ rs'.level = rs.level := by
  rcases h with rfl | ⟨rule, _, _, heffect⟩
  · exact .inr ⟨rs', hrs, rfl⟩
  · cases heffect with
    | unmet hmet hactive hpending hrecovery => exact .inr ⟨rs', hrecovery ▸ hrs, rfl⟩
    | unchanged hsame => exact .inr ⟨rs', hsame ▸ hrs, rfl⟩
    | raised hnew hactive hpending hrecovery => exact .inl ⟨hnew, hactive⟩
    | gone hactive hpending hrecovery =>
        rw [hrecovery] at hrs
        obtain ⟨old, hold, rfl⟩ := Option.map_eq_some_iff.mp hrs
        exact .inr ⟨old, hold, rfl⟩

/-- **Levels rise one at a time.** -/
theorem tick_level (s : State) (input : TickInput) (faultId : String) :
    LevelStep (s.view faultId) ((tick cfg s input).view faultId) := by
  intro rs' hrs
  have hdetected := detect_view cfg input s faultId
  rcases tick_view cfg s input faultId with ⟨_, hdisarmed⟩ | ⟨_, hraised | hticked⟩
  · rw [hdisarmed] at hrs
    exact .inr ⟨rs', hrs, .inl rfl⟩
  · rw [hraised] at hrs ⊢
    rcases detected_level hdetected hrs with honset | ⟨rs, hold, hlevel⟩
    · exact .inl honset
    · exact .inr ⟨rs, hold, .inl hlevel⟩
  · rw [hticked] at hrs ⊢
    obtain ⟨mid, hmid, rfl⟩ := Option.map_eq_some_iff.mp hrs
    rcases detected_level hdetected hmid with honset | ⟨rs, hold, hlevel⟩
    · exact .inl honset
    · right
      refine ⟨rs, hold, ?_⟩
      rw [← hlevel]
      rcases @tickRecoveryState_cases cfg (s.simElapsed + input.dt)
        ((detect cfg input s).1.view faultId).active faultId mid with
        hsame | ⟨_, _, henter⟩ | hfailed
      · rw [hsame]
        exact .inl rfl
      · rw [henter]
        rcases @enterRecoveryLevel_cases cfg mid (mid.level + 1) (s.simElapsed + input.dt) true with
          ⟨_, hsame⟩ | ⟨_, hnext, _⟩
        · rw [hsame]
          exact .inl rfl
        · exact .inr hnext
      · rw [hfailed]
        exact .inl rfl

/-! ### Whole runs -/

/-- **The recovery state machine.**  In every run in which no recovery is running when its
rule cannot be judged or the model is disarmed, and in which a first attempt is allowed, a
running recovery has its fault active and the model armed, no record counts more attempts
than configured, and between two onsets of a fault its level rises one at a time. -/
theorem recovery_invariant {inputs : List TickInput}
    (hcalm : ∀ i input, inputs[i]? = some input → Undisturbed cfg (stateAt cfg inputs i) input)
    (hstart : ∀ rule ∈ cfg.rules, StartsWithin cfg rule) :
    (∀ i faultId rs, (stateAt cfg inputs i).recoveryStates.get? faultId = some rs →
      (rs.state = .running → (stateAt cfg inputs i).activeFaults.contains faultId = true ∧
        scPhaseNominal ≤ (stateAt cfg inputs i).spacecraftPhase) ∧
      rs.recoveryAttempts ≤ cfg.maxAttempts) ∧
    (∀ i faultId rs', i < inputs.length →
      (stateAt cfg inputs (i + 1)).recoveryStates.get? faultId = some rs' →
      ((stateAt cfg inputs i).activeFaults.contains faultId = false ∧
        (stateAt cfg inputs (i + 1)).activeFaults.contains faultId = true) ∨
      ∃ rs, (stateAt cfg inputs i).recoveryStates.get? faultId = some rs ∧
        (rs'.level = rs.level ∨ rs'.level = rs.level + 1)) := by
  constructor
  · intro i faultId rs hrs
    have hrun := @holds_between State TickInput (tick cfg) {} inputs
      (fun s => ∀ faultId, Sound cfg (s.view faultId) ∧
        (∀ rs, (s.view faultId).recovery = some rs → rs.state = .running →
          scPhaseNominal ≤ s.spacecraftPhase)) 0 i (Nat.zero_le i)
      (fun faultId => ⟨fun rs hnone => (by cases hnone), fun rs hnone => (by cases hnone)⟩)
      (fun k input _ _ hinput hsound faultId =>
        tick_sound (hcalm k input hinput) hstart (fun faultId => (hsound faultId).1) faultId)
    obtain ⟨hsound, harmed⟩ := hrun faultId
    obtain ⟨hrunning, hattempts, hmax⟩ := hsound rs hrs
    exact ⟨fun hstate => ⟨hrunning hstate, harmed rs hrs hstate⟩, hmax ▸ hattempts⟩
  · intro i faultId rs' hlt hrs
    have hnext : stateAt cfg inputs (i + 1) = tick cfg (stateAt cfg inputs i) inputs[i] :=
      after_take_succ (List.getElem?_eq_getElem hlt)
    rw [hnext] at hrs ⊢
    exact tick_level (stateAt cfg inputs i) inputs[i] faultId rs' hrs

/-- The wheel bus stays on while the recovery runs. -/
theorem recovery_invariant_wheel :
    ∃ rs, (stateAt wheelConfig (List.replicate 2 (wheelTick 1 1)) 2).recoveryStates.get?
        "aocs_wheel_failure_dual" = some rs ∧ rs.state = .running ∧
      (stateAt wheelConfig (List.replicate 2 (wheelTick 1 1)) 2).activeFaults.contains
        "aocs_wheel_failure_dual" = true ∧ rs.recoveryAttempts ≤ 3 := by
  have hrunning : ((stateAt wheelConfig (List.replicate 2 (wheelTick 1 1)) 2).recoveryStates.get?
      "aocs_wheel_failure_dual").map RecoveryState.state = some .running := by decide +kernel
  obtain ⟨rs, hrs, hstate⟩ := Option.map_eq_some_iff.mp hrunning
  have hholds := (@recovery_invariant wheelConfig (List.replicate 2 (wheelTick 1 1)) ?_ ?_).1 2
    "aocs_wheel_failure_dual" rs hrs
  · exact ⟨rs, hrs, hstate, (hholds.1 hstate).1, hholds.2⟩
  · intro i input hinput
    obtain rfl := List.eq_of_mem_replicate (List.mem_of_getElem? hinput)
    refine ⟨fun _ rule hmem hmet => ?_, fun hlow => absurd hlow (by decide)⟩
    obtain rfl := List.mem_singleton.mp hmem
    rw [wheelTick_met] at hmet
    cases hmet
  · intro rule hmem _ _
    obtain rfl := List.mem_singleton.mp hmem
    decide

/-- The bus is switched off while the recovery runs: it runs on without a fault. -/
theorem running_without_fault :
    ((stateAt wheelConfig [wheelTick 1 1, wheelTick 1 0] 2).recoveryStates.get?
        "aocs_wheel_failure_dual").map RecoveryState.state = some .running ∧
      (stateAt wheelConfig [wheelTick 1 1, wheelTick 1 0] 2).activeFaults.contains
        "aocs_wheel_failure_dual" = false := by
  decide +kernel

end Fdir
