import MissionSim.AocsTrackers
import MissionSim.Eps
import MissionSim.Tcs

/-!
# What a refused command leaves

A command that is reported as failed is meant to leave no trace in the model it was given to.  The
power and the thermal subsystem keep to that in every command, and the attitude subsystem in every
command but one: the setting of momentum management writes its flag before it checks the
percentages, so a refused one has still switched momentum management on or off.
-/

open Binary32 Python Effects

/-! ### The power subsystem -/

namespace Eps

variable {V : Type} [Object V] (c : EpsConfig) (cmd : Arguments V)

/-- A program that writes last. -/
abbrev Careful (x : EpsProgram Reply) : Prop := Spares Anyhow Reply.Refuses x

theorem careful_refused (code : Option Nat) : Careful (pure (.refused code)) :=
  spares_pure (Reply.refused code)

theorem careful_write (f : EpsState → EpsState) : Careful (write f) :=
  spares_write (fun _ => trivial) fun h => h rfl

theorem setModeOf_careful (put : Int → EpsState → EpsState) : Careful (setModeOf cmd put) :=
  spares_parse fun mode => spares_ite (careful_write (put mode)) (careful_refused none)

theorem setPowerLine_careful (on : Bool) : Careful (setPowerLine cmd on) := by
  unfold setPowerLine
  cases namedLine cmd with
  | none => exact careful_refused _
  | some l => exact spares_ite (careful_write _) (careful_refused _)

theorem resetOcFlag_careful : Careful (resetOcFlag cmd) := by
  unfold resetOcFlag
  cases indexedLine cmd with
  | none => exact careful_refused _
  | some l => exact spares_read fun _ => spares_ite (careful_write _) (careful_refused _)

theorem resetTrip_careful : Careful (resetTrip cmd) := by
  unfold resetTrip
  cases indexedLine cmd with
  | none => exact careful_refused _
  | some l => exact careful_write _

theorem switchLoad_careful : Careful (switchLoad cmd) := by
  refine spares_parse fun load => ?_
  cases load with
  | none => exact careful_refused _
  | some l => exact spares_ite (careful_write _) (careful_refused _)

theorem emergencyLoadShed_careful : Careful (emergencyLoadShed cmd) :=
  spares_parse fun _ => spares_ite (careful_refused _) (careful_write _)

theorem deployWing_careful : Careful (deployWing c cmd) := by
  refine spares_parse fun wing => spares_read fun s => ?_
  refine spares_ite ?_ (spares_ite ?_ (spares_ite ?_ (careful_refused _)))
  · exact spares_ite (careful_write _) (careful_refused _)
  · exact spares_ite (careful_write _) (careful_refused _)
  · exact spares_ite (careful_write _) (careful_refused _)

/-- **Every command of the power subsystem writes last.** -/
theorem perform_careful (name : EpsCommand) : Careful (perform c cmd name) := by
  cases name with
  | setPayloadMode | setEpsMode => exact setModeOf_careful cmd _
  | setFpaCooler | setTransponderTx | disableArray | enableArray => exact careful_write _
  | powerLineOn => exact setPowerLine_careful cmd true
  | powerLineOff => exact setPowerLine_careful cmd false
  | resetOcFlag => exact resetOcFlag_careful cmd
  | switchLoad => exact switchLoad_careful cmd
  | setChargeRate | setSolarArrayDrive
  | setBatteryHeater => exact spares_parse fun _ => careful_write _
  | emergencyLoadShed => exact emergencyLoadShed_careful cmd
  | busIsolate => exact spares_parse fun _ => spares_pure Reply.done
  | resetTrip => exact resetTrip_careful cmd
  | getPowerBudget | getWingStatus => exact spares_pure Reply.done
  | deployWing => exact deployWing_careful c cmd

theorem handleCommand_careful : Careful (handleCommand c cmd) := by
  unfold handleCommand
  cases commandOf cmd with
  | none => exact careful_refused _
  | some name => exact perform_careful c cmd name

end Eps

/-! ### The thermal subsystem -/

namespace Tcs

variable {V : Type} [Object V] (k : TcsConfig) (lines : Option (Circuit → Bool)) (cmd : Arguments V)

/-- A program that writes last. -/
abbrev Careful (x : TcsProgram V Reply) : Prop := Spares Anyhow Reply.Refuses x

omit [Object V] in
theorem careful_refused (code : Option Nat) : Careful (pure (.refused code) : TcsProgram V Reply) :=
  spares_pure (Reply.refused code)

omit [Object V] in
theorem careful_write (f : TcsState V → TcsState V) : Careful (write f) :=
  spares_write (fun _ => trivial) fun h => h rfl

theorem setHeaterCommand_careful : Careful (setHeaterCommand lines cmd) := by
  refine spares_read fun s => ?_
  refine spares_ite (careful_refused _) (spares_ite (careful_refused _) ?_)
  exact spares_ite (spares_throw _) (spares_ite (careful_refused _) (careful_write _))

theorem setSetpoint_careful : Careful (setSetpoint cmd) := by
  unfold setSetpoint
  cases circuitArg cmd with
  | none => exact careful_refused _
  | some circuit =>
      cases presentArg cmd "on_temp" with
      | none => exact careful_refused _
      | some onTemp =>
          cases presentArg cmd "off_temp" with
          | none => exact careful_refused _
          | some offTemp => exact spares_parse fun _ => spares_parse fun _ => careful_write _

theorem autoMode_careful : Careful (autoMode cmd) := by
  unfold autoMode
  cases circuitArg cmd with
  | none => exact careful_refused _
  | some circuit => exact careful_write _

/-- **Every command of the thermal subsystem writes last.** -/
theorem perform_careful (name : TcsCommand) : Careful (perform k lines cmd name) := by
  cases name with
  | heater => exact setHeaterCommand_careful lines cmd
  | setSetpoint => exact setSetpoint_careful cmd
  | autoMode => exact autoMode_careful cmd
  | fpaCooler => exact spares_read fun _ => spares_ite (careful_refused _) (careful_write _)
  | setFpaSetpoint => exact spares_parse fun _ => spares_ite (careful_write _) (careful_refused _)
  | setHeaterDutyLimit => exact spares_parse fun _ => careful_write _
  | decontaminationStart | decontaminationStop => exact careful_write _
  | getThermalMap => exact spares_pure Reply.done

theorem handleCommand_careful : Careful (handleCommand k lines cmd) := by
  unfold handleCommand
  cases commandOf cmd with
  | none => exact careful_refused _
  | some name => exact perform_careful k lines cmd name

end Tcs

/-! ### The attitude subsystem -/

namespace Aocs

variable {V : Type} [Object V] (k : AocsConfig) (cmd : Arguments V) (s : AocsState V)

theorem stPower_spares : Spares Anyhow Reply.Refuses (stPower cmd) := by
  refine spares_parse fun unit => ?_
  cases StUnit.ofInt unit with
  | none => exact spares_pure Reply.refused
  | some u =>
      exact spares_read fun s => spares_ite (spares_pure Reply.refused)
        (spares_write (fun _ => trivial) fun h => h rfl)

/-- **Every command but the setting of momentum management leaves no trace of a refusal.** -/
theorem perform_traceless {name : AocsCommand} (h : name ≠ .setMomMgmt) :
    Traceless Reply.Refuses (perform k cmd name) s := by
  by_cases hst : name = .stPower
  · rw [hst]
    exact (stPower_spares cmd).traceless s
  · exact (perform_careful k cmd h hst).traceless s

/-- A setting of momentum management is refused, and asks for another flag than there is. -/
def HalfSet : Prop :=
  commandOf cmd = some .setMomMgmt ∧ cmd.bool "enable" false ≠ s.momMgmtEnable ∧
    ∃ entry exit, cmd.float "entry_pct" s.momMgmtEntryPct = .ok entry ∧
      cmd.float "exit_pct" s.momMgmtExitPct = .ok exit ∧ badPercentages entry exit = true

/-- The state with the flag of momentum management written. -/
def AocsState.flagged (on : Bool) (s : AocsState V) : AocsState V := { s with momMgmtEnable := on }

/-- **What a setting of momentum management answers, and leaves.** -/
theorem setMomMgmt_eq :
    setMomMgmt cmd s =
      match cmd.float "entry_pct" s.momMgmtEntryPct, cmd.float "exit_pct" s.momMgmtExitPct with
      | .error e, _ => .error e (s.flagged (cmd.bool "enable" false))
      | .ok _, .error e => .error e (s.flagged (cmd.bool "enable" false))
      | .ok entry, .ok exit =>
          if badPercentages entry exit then .ok .refused (s.flagged (cmd.bool "enable" false))
          else .ok .done
            { s.flagged (cmd.bool "enable" false) with
              momMgmtEntryPct := entry, momMgmtExitPct := exit } := by
  show (fromExcept (cmd.float "entry_pct" s.momMgmtEntryPct) >>= fun entry =>
    fromExcept (cmd.float "exit_pct" s.momMgmtExitPct) >>= fun exit =>
      if badPercentages entry exit then pure Reply.refused
      else write fun s => { s with momMgmtEntryPct := entry, momMgmtExitPct := exit } :
      AocsProgram V Reply) (s.flagged (cmd.bool "enable" false)) = _
  cases cmd.float "entry_pct" s.momMgmtEntryPct with
  | error e => rfl
  | ok entry =>
      cases cmd.float "exit_pct" s.momMgmtExitPct with
      | error e => rfl
      | ok exit =>
          show (if _ then _ else _ : AocsProgram V Reply) _ = if _ then _ else _
          cases badPercentages entry exit <;> rfl

omit [Object V] in
theorem flagged_eq_iff (on : Bool) : s.flagged on = s ↔ on = s.momMgmtEnable := by
  constructor
  · intro h
    exact congrArg AocsState.momMgmtEnable h
  · rintro rfl
    rfl

theorem handleCommand_traceless_iff :
    Traceless Reply.Refuses (handleCommand k cmd) s ↔ ¬ HalfSet cmd s := by
  unfold handleCommand
  cases hname : commandOf cmd with
  | none =>
      refine iff_of_true ((spares_pure (R := Anyhow) Reply.refused).traceless s) ?_
      rintro ⟨hmom, -⟩
      rw [hname] at hmom
      cases hmom
  | some name =>
      by_cases hmom : name = .setMomMgmt
      · rw [hmom]
        show Traceless Reply.Refuses (setMomMgmt cmd) s ↔ _
        constructor
        · rintro htrace ⟨-, hflag, entry, exit, hentry, hexit, hbad⟩
          have hrun := setMomMgmt_eq cmd s
          rw [hentry, hexit] at hrun
          dsimp only at hrun
          rw [if_pos hbad] at hrun
          refine hflag ((flagged_eq_iff s _).mp (htrace _ _ hrun ?_))
          intro hdone
          cases hdone
        · intro hhalf a s' hrun ha
          rw [setMomMgmt_eq] at hrun
          cases hentry : cmd.float "entry_pct" s.momMgmtEntryPct with
          | error e =>
              rw [hentry] at hrun
              cases hrun
          | ok entry =>
              cases hexit : cmd.float "exit_pct" s.momMgmtExitPct with
              | error e =>
                  rw [hentry, hexit] at hrun
                  cases hrun
              | ok exit =>
                  rw [hentry, hexit] at hrun
                  dsimp only at hrun
                  by_cases hbad : badPercentages entry exit = true
                  · rw [if_pos hbad] at hrun
                    cases hrun
                    refine (flagged_eq_iff s _).mpr ?_
                    by_contra hflag
                    exact hhalf ⟨hname.trans (congrArg some hmom), hflag, entry, exit, hentry,
                      hexit, hbad⟩
                  · rw [if_neg hbad] at hrun
                    cases hrun
                    exact absurd rfl ha
      · refine iff_of_true (perform_traceless k cmd s hmom) ?_
        rintro ⟨hset, -⟩
        rw [hname] at hset
        exact hmom (Option.some.inj hset)

end Aocs

/-! ### All three -/

namespace Subsystems

variable {V : Type} [Object V]

/-- A command dictionary given to a model in some state. -/
inductive Call (V : Type) where
  | aocs (k : Aocs.AocsConfig) (s : Aocs.AocsState V) (cmd : Arguments V)
  | eps (c : Eps.EpsConfig) (s : Eps.EpsState) (cmd : Arguments V)
  | tcs (k : Tcs.TcsConfig) (lines : Option (Tcs.Circuit → Bool)) (s : Tcs.TcsState V)
      (cmd : Arguments V)

/-- If the command is reported as failed, the model is as it was. -/
def Call.Traceless : Call V → Prop
  | .aocs k s cmd => Effects.Traceless Aocs.Reply.Refuses (Aocs.handleCommand k cmd) s
  | .eps c s cmd => Effects.Traceless Eps.Reply.Refuses (Eps.handleCommand c cmd) s
  | .tcs k lines s cmd => Effects.Traceless Tcs.Reply.Refuses (Tcs.handleCommand k lines cmd) s

/-- The command sets momentum management by half. -/
def Call.HalfSet : Call V → Prop
  | .aocs _ s cmd => Aocs.HalfSet cmd s
  | _ => False

/-- **A refused command leaves no trace, but for a setting of momentum management that is refused
after its flag was written.** -/
theorem traceless_iff (call : Call V) : call.Traceless ↔ ¬ call.HalfSet := by
  cases call with
  | aocs k s cmd => exact Aocs.handleCommand_traceless_iff k cmd s
  | eps c s cmd => exact iff_of_true ((Eps.handleCommand_careful c cmd).traceless s) id
  | tcs k lines s cmd => exact iff_of_true ((Tcs.handleCommand_careful k lines cmd).traceless s) id

section Example

/-- Momentum management is switched on, with percentages that are refused. -/
def crossedPercentages : Arguments Scalar :=
  ((Dict.empty.set "command" (.word "set_mom_mgmt")).set "enable" (.bool true)).set "entry_pct"
    (.int 10)

/-- A refused setting of momentum management has switched it on. -/
theorem crossedPercentages_trace :
    ¬ (Call.aocs Aocs.plainConfig {} crossedPercentages).Traceless := by
  intro htrace
  have hanswer : value? (Aocs.handleCommand Aocs.plainConfig crossedPercentages)
      ({} : Aocs.AocsState Scalar) = some .refused := by decide +kernel
  have hflag : (finalState (Aocs.handleCommand Aocs.plainConfig crossedPercentages)
      ({} : Aocs.AocsState Scalar)).momMgmtEnable = true := by decide +kernel
  cases hrun : Aocs.handleCommand Aocs.plainConfig crossedPercentages
      ({} : Aocs.AocsState Scalar) with
  | error e s =>
      unfold value? at hanswer
      rw [hrun] at hanswer
      cases hanswer
  | ok a s =>
      unfold value? at hanswer
      unfold finalState at hflag
      rw [hrun] at hanswer hflag
      have hrefuses : a.Refuses := by
        rw [Option.some.inj hanswer]
        intro hdone
        cases hdone
      rw [htrace a s hrun hrefuses] at hflag
      cases hflag

end Example

end Subsystems
