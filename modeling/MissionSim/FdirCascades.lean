import MissionSim.Fdir

/-!
# Cascades and their faults

A delayed cascade should be applied only while its fault is active.  Detection drops
the cascades of a fault whose condition is gone, but not those of a fault whose rule
can no longer be judged: such a fault is cleared and its cascades stay scheduled.

`applied_while_active` is the law for the runs in which that does not happen;
`applied_after_clear` is a run in which it does.
-/

namespace Fdir

open Python Runs

/-- The state before tick `i` of a run. -/
def stateAt (cfg : Config) (inputs : List TickInput) (i : Nat) : State :=
  after (tick cfg) {} (inputs.take i)

/-- When a rule cannot be judged while its fault is active, no cascade of the fault is
scheduled. -/
def NoneOrphaned (cfg : Config) (s : State) (input : TickInput) : Prop :=
  scPhaseNominal ≤ input.spacecraftPhase → ∀ rule ∈ cfg.rules,
    faultPreconditionMet cfg input rule = .ok false →
    s.activeFaults.contains rule.faultId = true →
    ∀ c ∈ s.pendingCascades, c.faultId ≠ rule.faultId

/-- A fault that is not active has nothing scheduled. -/
def Attached (v : FaultView) : Prop := v.active = false → v.pending = []

variable {cfg : Config}

/-- Detection keeps cascades with their faults. -/
theorem detect_attached {input : TickInput} {s : State} (hfree : NoneOrphaned cfg s input)
    (harmed : scPhaseNominal ≤ input.spacecraftPhase) {faultId : String}
    (h : Attached (s.view faultId)) : Attached ((detect cfg input s).1.view faultId) := by
  intro hclear
  rcases detect_view cfg input s faultId with hsame | ⟨rule, hmem, rfl, heffect⟩
  · rw [hsame] at hclear ⊢
    exact h hclear
  · cases heffect with
    | unmet hmet hactive hpending hrecovery =>
        rw [hpending]
        cases hwas : (s.view rule.faultId).active with
        | false => exact h hwas
        | true =>
            apply List.filter_eq_nil_iff.mpr
            intro c hc
            simpa using hfree harmed rule hmem hmet hwas c hc
    | unchanged hsame =>
        rw [hsame] at hclear ⊢
        exact h hclear
    | raised hnew hactive hpending hrecovery =>
        rw [hactive] at hclear
        cases hclear
    | gone hactive hpending hrecovery => exact hpending

/-- **One tick.** -/
theorem tick_attached {input : TickInput} {s : State} (hfree : NoneOrphaned cfg s input)
    (h : ∀ faultId, Attached (s.view faultId)) (faultId : String) :
    Attached ((tick cfg s input).view faultId) := by
  intro hclear
  rcases tick_view cfg s input faultId with ⟨_, hdisarmed⟩ | ⟨harmed, hraised | hticked⟩
  · rw [hdisarmed]
  · rw [hraised] at hclear ⊢
    exact detect_attached hfree harmed (h faultId) hclear
  · rw [hticked] at hclear ⊢
    have hnone := detect_attached hfree harmed (h faultId) hclear
    rw [hnone]
    rfl

/-- **A whole run.** -/
theorem stateAt_attached {inputs : List TickInput}
    (hfree : ∀ i input, inputs[i]? = some input → NoneOrphaned cfg (stateAt cfg inputs i) input)
    (i : Nat) (faultId : String) : Attached ((stateAt cfg inputs i).view faultId) := by
  have hrun := @holds_between State TickInput (tick cfg) {} inputs
    (fun s => ∀ faultId, Attached (s.view faultId)) 0 i (Nat.zero_le i) (fun faultId _ => rfl)
    (fun k input _ _ hinput hattached => tick_attached (hfree k input hinput) hattached)
  exact hrun faultId

/-- What a tick applies was scheduled when detection was over, and the active faults are
those detection left. -/
theorem appliedAt_scheduled {input : TickInput} {s : State} {c : PendingCascade}
    (h : c ∈ appliedAt cfg s input) :
    scPhaseNominal ≤ input.spacecraftPhase ∧
      c ∈ ((detect cfg input s).1.view c.faultId).pending ∧
      ((tick cfg s input).view c.faultId).active =
        ((detect cfg input s).1.view c.faultId).active := by
  unfold appliedAt at h
  split at h
  · rename_i harmed
    split at h
    · rename_i s' hdetect
      refine ⟨harmed, ?_, ?_⟩
      · rw [hdetect]
        have hscheduled := List.mem_of_mem_filter (List.mem_of_mem_filter h)
        exact List.mem_filter.mpr ⟨hscheduled, by simp⟩
      · rcases tick_view cfg s input c.faultId with ⟨hlow, _⟩ | ⟨_, hraised | hticked⟩
        · exact absurd hlow (not_lt_of_ge harmed)
        · rw [hraised]
        · rw [hticked]
    · cases h
  · cases h

/-- **Cascades stop with their fault.**  In every run in which no rule becomes impossible to
judge while a cascade of its active fault is scheduled, a cascade is applied only in a tick
in which its fault is active; if the fault was not active at some position before, it has
been raised since. -/
theorem applied_while_active {inputs : List TickInput}
    (hfree : ∀ i input, inputs[i]? = some input → NoneOrphaned cfg (stateAt cfg inputs i) input)
    {i : Nat} {input : TickInput} (hinput : inputs[i]? = some input) {c : PendingCascade}
    (hc : c ∈ appliedAt cfg (stateAt cfg inputs i) input) :
    (stateAt cfg inputs (i + 1)).activeFaults.contains c.faultId = true ∧
      ∀ j ≤ i, (stateAt cfg inputs j).activeFaults.contains c.faultId = false →
        ∃ k, j ≤ k ∧ k ≤ i ∧ (stateAt cfg inputs k).activeFaults.contains c.faultId = false ∧
          (stateAt cfg inputs (k + 1)).activeFaults.contains c.faultId = true := by
  obtain ⟨harmed, hscheduled, hsame⟩ := appliedAt_scheduled hc
  have hattached := detect_attached (hfree i input hinput) harmed
    (stateAt_attached hfree i c.faultId)
  have hnext : stateAt cfg inputs (i + 1) = tick cfg (stateAt cfg inputs i) input :=
    after_take_succ hinput
  have hactive : (stateAt cfg inputs (i + 1)).activeFaults.contains c.faultId = true := by
    rw [hnext]
    show ((tick cfg (stateAt cfg inputs i) input).view c.faultId).active = true
    rw [hsame]
    by_contra hclear
    rw [hattached (Bool.eq_false_iff.mpr hclear)] at hscheduled
    cases hscheduled
  refine ⟨hactive, ?_⟩
  intro j hji hclear
  obtain ⟨k, hjk, hki, hbefore, hafter⟩ := @starts_between
    (fun k => (stateAt cfg inputs k).activeFaults.contains c.faultId = true) j (i + 1)
    (Nat.le_succ_of_le hji) (by simp [hclear]) hactive
  exact ⟨k, hjk, Nat.le_of_lt_succ hki, Bool.eq_false_iff.mpr hbefore, hafter⟩

/-! ### A wheel failure on a switched bus -/

/-- Fewer than two wheels, judged while the wheel bus is powered. -/
def wheelRule : FaultPropagationRule where
  faultId := "aocs_wheel_failure_dual"
  primaryParam := "aocs.wheels_enabled"
  threshold := some (.finite false 2 0)
  cascades := [{ targetSubsystem := "payload", action := "power_off", delayS := 2 }]
  recovery := "aocs_recovery"
  requires := some { param := "eps.pl_aocs_wheels" }

def wheelParam (name : String) : Option Nat :=
  if name = "aocs.wheels_enabled" then some 0x0260
  else if name = "eps.pl_aocs_wheels" then some 0x0117
  else none

theorem wheelRule_distinct : ([wheelRule].map FaultPropagationRule.faultId).Nodup := by decide

def wheelConfig : Config where
  rules := [wheelRule]
  distinct := wheelRule_distinct
  paramIds := wheelParam
  recoveryActions := Dict.empty.set "aocs_recovery" (Dict.empty.set "level_1"
    (some { action := "safe_mode_entry", procedure := "aocs_safe_mode_recovery.yaml" }))
  procedures := ["aocs_safe_mode_recovery"]
  cascadeCallbacks := ["payload:power_off"]

/-- A second in the nominal phase with that many wheels, and the bus on or off. -/
def wheelTick (wheels line : Int) : TickInput where
  dt := 1
  spacecraftPhase := 6
  params := fun _ pid =>
    if pid = 0x0260 then .int wheels else if pid = 0x0117 then .int line else .none

def wheelCascade : PendingCascade where
  faultId := "aocs_wheel_failure_dual"
  targetSubsystem := "payload"
  action := "power_off"
  due := 3

theorem wheelTick_met : faultPreconditionMet wheelConfig (wheelTick 1 1) wheelRule = .ok true := by
  decide +kernel

/-- The bus stays on: the cascade is applied while the fault is active. -/
theorem applied_while_active_wheel :
    (stateAt wheelConfig (List.replicate 3 (wheelTick 1 1)) 3).activeFaults.contains
      "aocs_wheel_failure_dual" = true := by
  have happlied : wheelCascade ∈ appliedAt wheelConfig
      (stateAt wheelConfig (List.replicate 3 (wheelTick 1 1)) 2) (wheelTick 1 1) := by
    decide +kernel
  refine (@applied_while_active wheelConfig (List.replicate 3 (wheelTick 1 1)) ?_ 2
    (wheelTick 1 1) rfl wheelCascade happlied).1
  intro i input hinput _ rule hmem hmet
  obtain rfl := List.eq_of_mem_replicate (List.mem_of_getElem? hinput)
  obtain rfl := List.mem_singleton.mp hmem
  rw [wheelTick_met] at hmet
  cases hmet

/-- The bus is switched off before the cascade is due: the fault is cleared, and the cascade
is applied all the same. -/
theorem applied_after_clear :
    let inputs := [wheelTick 1 1, wheelTick 1 0, wheelTick 1 0]
    (stateAt wheelConfig inputs 1).activeFaults.contains "aocs_wheel_failure_dual" = true ∧
      (stateAt wheelConfig inputs 2).activeFaults.contains "aocs_wheel_failure_dual" = false ∧
      wheelCascade ∈ appliedAt wheelConfig (stateAt wheelConfig inputs 2) (wheelTick 1 0) ∧
      (stateAt wheelConfig inputs 3).activeFaults.contains "aocs_wheel_failure_dual" = false := by
  decide +kernel

end Fdir
