import MissionSim.Eps
import MissionSim.Switchboard

/-!
# Who switches a power line

Every event of the power subsystem is a sequence of writes to its lines, each with its cause.  What
an event does to the lines, to the trip flags and to the shed list is said here once.
-/

namespace Eps

open Python Effects Switchboard EpsState

/-- Who writes to a line. -/
inductive Cause where
  | operator | overcurrent | shedder | restore | safing
  deriving DecidableEq, Repr

/-! ### Fields -/

variable (l : PowerLine)

@[simp] theorem unload_powerLines (s : EpsState) :
    (s.unload l).powerLines = s.powerLines := by cases l <;> rfl

@[simp] theorem unload_ocTripFlags (s : EpsState) :
    (s.unload l).ocTripFlags = s.ocTripFlags := by cases l <;> rfl

@[simp] theorem unload_shedLines (s : EpsState) :
    (s.unload l).shedLines = s.shedLines := by cases l <;> rfl

@[simp] theorem reload_powerLines (s : EpsState) :
    (s.reload l).powerLines = s.powerLines := by cases l <;> rfl

@[simp] theorem reload_ocTripFlags (s : EpsState) :
    (s.reload l).ocTripFlags = s.ocTripFlags := by cases l <;> rfl

@[simp] theorem reload_shedLines (s : EpsState) :
    (s.reload l).shedLines = s.shedLines := by cases l <;> rfl

/-- The deployment of the wings leaves lines, flags and list alone. -/
theorem deployWings_aside (dt : Binary32.FloatValue) (s : EpsState) :
    (s.deployWings dt).powerLines = s.powerLines ∧
      (s.deployWings dt).ocTripFlags = s.ocTripFlags ∧
      (s.deployWings dt).shedLines = s.shedLines := by
  unfold deployWings
  split
  · dsimp only
    split
    · exact ⟨rfl, rfl, rfl⟩
    · exact ⟨rfl, rfl, rfl⟩
  · exact ⟨rfl, rfl, rfl⟩

/-! ### Trip flags -/

theorem testBit_mask (l l' : PowerLine) : (1 <<< l.index).testBit l'.index = decide (l = l') := by
  rw [Nat.one_shiftLeft, Nat.testBit_two_pow]
  exact decide_eq_decide.mpr ⟨PowerLine.index_injective, congrArg _⟩

theorem clearTrip_tripped {l l' : PowerLine} {s : EpsState} :
    (s.clearTrip l).Tripped l' ↔ s.Tripped l' ∧ l ≠ l' := by
  unfold EpsState.Tripped clearTrip
  rw [Nat.testBit_ldiff, testBit_mask]
  simp

theorem trip_tripped {l l' : PowerLine} {s : EpsState} :
    (s.trip l).Tripped l' ↔ s.Tripped l' ∨ l = l' := by
  unfold EpsState.Tripped trip
  rw [unload_ocTripFlags, Nat.testBit_or, testBit_mask]
  simp

@[simp] theorem trip_powerLines (s : EpsState) :
    (s.trip l).powerLines = Function.update s.powerLines l false := unload_powerLines l _

@[simp] theorem trip_shedLines (s : EpsState) :
    (s.trip l).shedLines = s.shedLines := unload_shedLines l _

/-! ### Commands -/

section Commands

variable {V : Type} [Object V]

/-- A line that a command may switch. -/
def switchableWrite (on : Bool) : Option PowerLine → List (PowerLine × Bool)
  | some l => if l.switchable then [(l, on)] else []
  | none => []

/-- The line of `line_index`, where it is tripped. -/
def trippedLine (cmd : Arguments V) (s : EpsState) : Option PowerLine :=
  match indexedLine cmd with
  | some l => if s.Tripped l then some l else none
  | none => none

/-- What a command writes to the lines. -/
def performWrites (cmd : Arguments V) (s : EpsState) : EpsCommand → List (PowerLine × Bool)
  | .setFpaCooler => [(.fpaCooler, cmd.bool "on" false)]
  | .powerLineOn => switchableWrite true (namedLine cmd)
  | .powerLineOff => switchableWrite false (namedLine cmd)
  | .resetOcFlag => switchableWrite true (trippedLine cmd s)
  | .switchLoad => switchableWrite (cmd.bool "state" false) ((loadLine cmd).toOption.bind id)
  | .emergencyLoadShed =>
      (((cmd.int "stage" 1).toOption.filter fun stage => 0 ≤ stage ∧ stage ≤ 3).map
        emergencyLines).getD []
  | .resetTrip => (indexedLine cmd).toList.map fun l => (l, true)
  | _ => []

/-- The line whose trip flag a command clears. -/
def performClears (cmd : Arguments V) (s : EpsState) : EpsCommand → Option PowerLine
  | .resetOcFlag => trippedLine cmd s
  | .resetTrip => indexedLine cmd
  | _ => none

/-- What a command dictionary writes to the lines. -/
def commandWrites (cmd : Arguments V) (s : EpsState) : List (PowerLine × Bool) :=
  (commandOf cmd).elim [] (performWrites cmd s)

/-- The line whose trip flag a command dictionary clears. -/
def commandClears (cmd : Arguments V) (s : EpsState) : Option PowerLine :=
  (commandOf cmd).bind (performClears cmd s)

/-- The lines after some writes. -/
def written (lines : PowerLine → Bool) (ws : List (PowerLine × Bool)) : PowerLine → Bool :=
  ws.foldl (fun lines w => Function.update lines w.1 w.2) lines

/-- A command writes to the lines, may clear a trip flag, and leaves the shed list alone. -/
structure Commanded (ws : List (PowerLine × Bool)) (clears : Option PowerLine) (s s' : EpsState) :
    Prop where
  lines : s'.powerLines = written s.powerLines ws
  tripped : ∀ l, s'.Tripped l ↔ s.Tripped l ∧ clears ≠ some l
  shed : s'.shedLines = s.shedLines

variable {ws : List (PowerLine × Bool)}

/-- What writes lines and no flag. -/
theorem commanded_writes {s s' : EpsState} (hlines : s'.powerLines = written s.powerLines ws)
    (hflags : s'.ocTripFlags = s.ocTripFlags) (hshed : s'.shedLines = s.shedLines) :
    Commanded ws none s s' := by
  refine ⟨hlines, fun l => ?_, hshed⟩
  unfold EpsState.Tripped
  rw [hflags]
  simp

/-- What leaves lines, flags and list alone. -/
theorem commanded_aside {s s' : EpsState} (hlines : s'.powerLines = s.powerLines)
    (hflags : s'.ocTripFlags = s.ocTripFlags) (hshed : s'.shedLines = s.shedLines) :
    Commanded [] none s s' := commanded_writes hlines hflags hshed

theorem commanded_refl (s : EpsState) : Commanded [] none s s := commanded_aside rfl rfl rfl

theorem commanded_setLine (l : PowerLine) (on : Bool) (s : EpsState) :
    Commanded [(l, on)] none s (s.setLine l on) := commanded_writes rfl rfl rfl

theorem commanded_clear (l : PowerLine) (s : EpsState) :
    Commanded [] (some l) s (s.clearTrip l) := by
  refine ⟨rfl, fun l' => ?_, rfl⟩
  rw [clearTrip_tripped]
  simp

theorem commanded_reset (l : PowerLine) (s : EpsState) :
    Commanded [(l, true)] (some l) s ((s.clearTrip l).setLine l true) :=
  ⟨rfl, (commanded_clear l s).tripped, rfl⟩

variable {clears : Option PowerLine}

/-- Side effects leave lines, flags and list alone. -/
theorem Commanded.congr {s s' s'' : EpsState} (h : Commanded ws clears s s')
    (hlines : s''.powerLines = s'.powerLines) (hflags : s''.ocTripFlags = s'.ocTripFlags)
    (hshed : s''.shedLines = s'.shedLines) : Commanded ws clears s s'' := by
  refine ⟨hlines.trans h.lines, fun l => ?_, hshed.trans h.shed⟩
  rw [← h.tripped l]
  unfold EpsState.Tripped
  rw [hflags]

/-- A program does what `Commanded` says. -/
abbrev Commands (ws : List (PowerLine × Bool)) (clears : Option PowerLine) (s : EpsState)
    (x : EpsProgram Reply) : Prop := Commanded ws clears s (finalState x s)

theorem commands_pure (r : Reply) (s : EpsState) : Commands [] none s (pure r) := commanded_refl s

variable {s : EpsState}

/-- A conversion comes first, and changes nothing where it raises. -/
theorem commands_converted {α : Type} {x : Except PyError α} {f : α → EpsProgram Reply}
    (hok : ∀ a, x = .ok a → Commands ws clears s (f a))
    (herror : ∀ e, x = .error e → Commanded ws clears s s) :
    Commands ws clears s (fromExcept x >>= f) := by
  cases x with
  | error e => exact herror e rfl
  | ok a => exact hok a rfl

/-- A conversion before a write to anything else. -/
theorem commands_stored {α : Type} {x : Except PyError α} {f : α → EpsProgram Reply}
    (h : ∀ a, Commands [] none s (f a)) : Commands [] none s (fromExcept x >>= f) :=
  commands_converted (fun a _ => h a) fun _ _ => commanded_refl s

theorem commands_write {f : EpsState → EpsState} (h : Commanded ws clears s (f s)) :
    Commands ws clears s (write f) := h

theorem commands_get {f : EpsState → EpsProgram Reply} (h : Commands ws clears s (f s)) :
    Commands ws clears s (get >>= f) := h

theorem commands_ite {c : Prop} [Decidable c] {x y : EpsProgram Reply}
    (hx : c → Commands ws clears s x) (hy : ¬ c → Commands ws clears s y) :
    Commands ws clears s (if c then x else y) := by
  split
  · exact hx ‹c›
  · exact hy ‹¬ c›

variable (cmd : Arguments V)

theorem setPowerLine_commands (on : Bool) (s : EpsState) :
    Commands (switchableWrite on (namedLine cmd)) none s (setPowerLine cmd on) := by
  unfold setPowerLine switchableWrite
  cases namedLine cmd with
  | none => exact commands_pure _ s
  | some l =>
      dsimp only
      split
      · have hset := commanded_setLine l on s
        cases on with
        | true =>
            exact hset.congr (reload_powerLines l _) (reload_ocTripFlags l _)
              (reload_shedLines l _)
        | false =>
            exact hset.congr (unload_powerLines l _) (unload_ocTripFlags l _)
              (unload_shedLines l _)
      · exact commands_pure _ s

theorem resetOcFlag_commands (s : EpsState) :
    Commands (switchableWrite true (trippedLine cmd s)) (trippedLine cmd s) s
      (resetOcFlag cmd) := by
  unfold resetOcFlag trippedLine
  cases indexedLine cmd with
  | none => exact commands_pure _ s
  | some l =>
      refine commands_get (commands_ite (fun htrip => ?_) fun htrip => ?_)
      · dsimp only
        rw [if_pos htrip]
        refine commands_write ?_
        unfold switchableWrite
        dsimp only
        split
        · exact commanded_reset l s
        · exact commanded_clear l s
      · dsimp only
        rw [if_neg htrip]
        exact commands_pure _ s

theorem resetTrip_commands (s : EpsState) :
    Commands ((indexedLine cmd).toList.map fun l => (l, true)) (indexedLine cmd) s
      (resetTrip cmd) := by
  unfold resetTrip
  cases indexedLine cmd with
  | none => exact commands_pure _ s
  | some l => exact commanded_reset l s

theorem switchLoad_commands (s : EpsState) :
    Commands (switchableWrite (cmd.bool "state" false) ((loadLine cmd).toOption.bind id)) none s
      (switchLoad cmd) := by
  refine commands_converted (fun load hload => ?_) fun e he => ?_
  · rw [hload]
    cases load with
    | none => exact commands_pure _ s
    | some l =>
        show Commands (switchableWrite _ (some l)) none s _
        unfold switchableWrite
        dsimp only
        split
        · exact commanded_setLine l _ s
        · exact commands_pure _ s
  · rw [he]
    exact commanded_refl s

/-- Several lines are set. -/
theorem setLines_commanded (ws : List (PowerLine × Bool)) (s : EpsState) :
    Commanded ws none s (ws.foldl (fun s w => s.setLine w.1 w.2) s) := by
  induction ws generalizing s with
  | nil => exact commanded_refl s
  | cons w ws ih =>
      have hrest := ih (s.setLine w.1 w.2)
      exact ⟨hrest.lines, hrest.tripped, hrest.shed⟩

theorem emergencyLoadShed_commands (s : EpsState) :
    Commands ((((cmd.int "stage" 1).toOption.filter fun stage => 0 ≤ stage ∧ stage ≤ 3).map
      emergencyLines).getD []) none s (emergencyLoadShed cmd) := by
  refine commands_converted (fun stage hstage => ?_) fun e he => ?_
  · rw [hstage]
    show Commands (((Option.filter _ (some stage)).map emergencyLines).getD []) none s _
    rw [Option.filter_some]
    by_cases hrange : stage < 0 ∨ 3 < stage
    · rw [if_pos hrange, if_neg (by simpa using by omega)]
      exact commands_pure _ s
    · rw [if_neg hrange, if_pos (by simpa using by omega)]
      have hset := setLines_commanded (emergencyLines stage) s
      exact hset.congr rfl rfl rfl
  · rw [he]
    exact commanded_refl s

theorem setArray_commands (enabled : Bool) (s : EpsState) :
    Commands [] none s (setArray cmd enabled) := by
  refine commands_write ?_
  split_ifs
  · exact commanded_aside rfl rfl rfl
  · exact commanded_aside rfl rfl rfl
  · exact commanded_refl s

theorem deployWing_commands (c : EpsConfig) (cmd : Arguments V) (s : EpsState) :
    Commands [] none s (deployWing c cmd) := by
  refine commands_stored fun wing => commands_get ?_
  refine commands_ite (fun _ => ?_) fun _ => commands_ite (fun _ => ?_) fun _ => ?_
  · exact commands_ite (fun _ => commanded_aside rfl rfl rfl) fun _ => commands_pure _ s
  · exact commands_ite (fun _ => commanded_aside rfl rfl rfl) fun _ => commands_pure _ s
  · refine commands_ite (fun _ => ?_) fun _ => commands_pure _ s
    refine commands_ite (fun _ => ?_) fun _ => commands_pure _ s
    refine commands_write ?_
    split_ifs
    all_goals exact commanded_aside rfl rfl rfl

/-- **What a command does** to lines, flags and list. -/
theorem perform_commands (c : EpsConfig) (cmd : Arguments V) (s : EpsState) (name : EpsCommand) :
    Commands (performWrites cmd s name) (performClears cmd s name) s (perform c cmd name) := by
  cases name with
  | setPayloadMode | setEpsMode =>
      exact commands_stored fun mode => commands_ite (fun _ => commanded_aside rfl rfl rfl) fun _ =>
        commands_pure _ s
  | setFpaCooler => exact (commanded_setLine .fpaCooler _ s).congr rfl rfl rfl
  | setTransponderTx => exact commanded_aside rfl rfl rfl
  | disableArray => exact setArray_commands cmd false s
  | enableArray => exact setArray_commands cmd true s
  | powerLineOn => exact setPowerLine_commands cmd true s
  | powerLineOff => exact setPowerLine_commands cmd false s
  | resetOcFlag => exact resetOcFlag_commands cmd s
  | switchLoad => exact switchLoad_commands cmd s
  | setChargeRate => exact commands_stored fun rate => commanded_aside rfl rfl rfl
  | setSolarArrayDrive => exact commands_stored fun angle => commanded_aside rfl rfl rfl
  | emergencyLoadShed => exact emergencyLoadShed_commands cmd s
  | busIsolate => exact commands_stored fun bus => commands_pure _ s
  | setBatteryHeater => exact commands_stored fun setpoint => commanded_aside rfl rfl rfl
  | resetTrip => exact resetTrip_commands cmd s
  | getPowerBudget | getWingStatus => exact commands_pure _ s
  | deployWing => exact deployWing_commands c cmd s

theorem command_commanded (c : EpsConfig) (cmd : Arguments V) (s : EpsState) :
    Commanded (commandWrites cmd s) (commandClears cmd s) s
      (finalState (handleCommand c cmd) s) := by
  unfold handleCommand commandWrites commandClears
  cases commandOf cmd with
  | none => exact commanded_refl s
  | some name => exact perform_commands c cmd s name

end Commands

/-! ### Ticks -/

variable (c : EpsConfig)

/-- What the trips of a tick change. -/
structure TrippedOver (ls : List PowerLine) (s s' : EpsState) : Prop where
  lines : s'.powerLines = written s.powerLines (ls.map fun l => (l, false))
  tripped : ∀ l, s'.Tripped l ↔ s.Tripped l ∨ l ∈ ls
  shed : s'.shedLines = s.shedLines

theorem trips_trippedOver (ls : List PowerLine) (s : EpsState) :
    TrippedOver ls s (ls.foldl trip s) := by
  induction ls generalizing s with
  | nil => exact ⟨rfl, fun l => by simp, rfl⟩
  | cons l ls ih =>
      have hrest := ih (s.trip l)
      refine ⟨?_, fun l' => ?_, ?_⟩
      · rw [List.foldl_cons, hrest.lines, trip_powerLines]
        rfl
      · rw [List.foldl_cons, hrest.tripped, trip_tripped, List.mem_cons, or_assoc, eq_comm]
      · rw [List.foldl_cons, hrest.shed, trip_shedLines]

/-- The state after the overcurrent check of a tick. -/
def EpsState.checked (found : PowerFound) (s : EpsState) : EpsState :=
  ((s.drive found).tripOver c found).balance found

/-- The lines that a tick trips. -/
def EpsState.tripping (found : PowerFound) (s : EpsState) : List PowerLine :=
  (s.drive found).trips c found

theorem checked_trippedOver (found : PowerFound) (s : EpsState) :
    TrippedOver (s.tripping c found) s (s.checked c found) := by
  obtain ⟨hlines, hflags, hshed⟩ := deployWings_aside found.dt s
  have htrips := trips_trippedOver (s.tripping c found) (s.drive found)
  refine ⟨?_, fun l => ?_, ?_⟩
  · exact htrips.lines.trans (congrArg (written · _) hlines)
  · refine (htrips.tripped l).trans ?_
    unfold EpsState.Tripped drive
    rw [hflags]
  · exact htrips.shed.trans hshed

/-- What the load shedding of a tick writes. -/
def EpsState.shedWrites (s : EpsState) : List (Write PowerLine Cause) :=
  match s.shedding c with
  | some l => [⟨l, false, .shedder⟩]
  | none =>
      match s.restoring c with
      | some l => [⟨l, true, .restore⟩]
      | none => []

/-- The state after the load shedding of a tick. -/
def EpsState.balanced (found : PowerFound) (s : EpsState) : EpsState :=
  ((s.checked c found).shedOrRestore c).countStage c

/-- What a tick writes to the lines. -/
def tickWrites (found : PowerFound) (s : EpsState) : List (Write PowerLine Cause) :=
  ((s.tripping c found).map fun l => ⟨l, false, .overcurrent⟩) ++
    ((s.checked c found).shedWrites c ++
      ((s.balanced c found).safed c).map fun l => ⟨l, false, .safing⟩)

theorem shed_powerLines (s : EpsState) :
    (s.shed l).powerLines = Function.update s.powerLines l false := unload_powerLines l _

theorem shed_shedLines (s : EpsState) :
    (s.shed l).shedLines = s.shedLines ++ [l] := unload_shedLines l _

theorem restore_powerLines (s : EpsState) :
    (s.restore l).powerLines = Function.update s.powerLines l true := by
  unfold restore
  dsimp only
  split
  · rename_i hon
    exact (Function.update_eq_self_iff.mpr hon.symm).symm
  · rw [reload_powerLines]
    rfl

theorem restore_shedLines (s : EpsState) : (s.restore l).shedLines = s.shedLines.dropLast := by
  unfold restore
  dsimp only
  split
  · rfl
  · rw [reload_shedLines]
    rfl

theorem shedOrRestore_tripped (s : EpsState) (l : PowerLine) :
    (s.shedOrRestore c).Tripped l ↔ s.Tripped l := by
  unfold EpsState.Tripped shedOrRestore shed restore
  split
  · rw [unload_ocTripFlags]
    rfl
  · split
    · dsimp only
      split
      · rfl
      · rw [reload_ocTripFlags]
        rfl
    · rfl

/-- Several lines are taken off by a change of the mode. -/
theorem safe_commanded (s : EpsState) :
    Commanded ((s.safed c).map fun l => (l, false)) none s (s.safe c) := by
  have hset := setLines_commanded ((s.safed c).map fun l => (l, false)) s
  rw [List.foldl_map] at hset
  exact hset.congr rfl rfl rfl

/-! ### Events -/

section Events

variable {V : Type} [Object V]

theorem injectFailure_commanded (magnitude : Binary32.FloatValue) (s : EpsState)
    (failure : EpsFailure V) : Commanded [] none s (injectFailure magnitude s failure) := by
  cases failure with
  | overcurrent lineIndex =>
      simp only [injectFailure]
      cases failedLine lineIndex with
      | none => exact commanded_refl s
      | some l => exact commanded_aside rfl rfl rfl
  | other => exact commanded_refl s

theorem clearFailure_commanded (s : EpsState) (failure : EpsFailure V) :
    Commanded [] none s (clearFailure s failure) := by
  cases failure with
  | overcurrent lineIndex =>
      simp only [clearFailure]
      cases failedLine lineIndex with
      | none => exact commanded_refl s
      | some l => exact commanded_aside rfl rfl rfl
  | other => exact commanded_refl s

/-- What an event writes to the lines. -/
def writes (s : EpsState) : EpsEvent V → List (Write PowerLine Cause)
  | .command cmd => (commandWrites cmd s).map fun w => ⟨w.1, w.2, .operator⟩
  | .inject _ _ => []
  | .clear _ => []
  | .tick found => tickWrites c found s

theorem writes_written (b : Board PowerLine Cause) (ws : List (PowerLine × Bool)) (cause : Cause) :
    (b.writes (ws.map fun w => ⟨w.1, w.2, cause⟩)).lines = written b.lines ws := by
  rw [Board.writes_lines, List.foldl_map]
  rfl

theorem writes_off (b : Board PowerLine Cause) (ls : List PowerLine) (cause : Cause) :
    (b.writes (ls.map fun l => ⟨l, false, cause⟩)).lines =
      written b.lines (ls.map fun l => (l, false)) := by
  have hwritten := writes_written b (ls.map fun l => (l, false)) cause
  rwa [List.map_map] at hwritten

/-- The writes of the load shedding. -/
theorem shedWrites_lines {b : Board PowerLine Cause} {s : EpsState} (hb : b.lines = s.powerLines) :
    (b.writes (s.shedWrites c)).lines = (s.shedOrRestore c).powerLines := by
  unfold shedWrites shedOrRestore
  cases s.shedding c with
  | some l => exact (congrArg (Function.update · l false) hb).trans (shed_powerLines l s).symm
  | none =>
      cases s.restoring c with
      | some l => exact (congrArg (Function.update · l true) hb).trans (restore_powerLines l s).symm
      | none => exact hb

/-- **The writes of an event are what it does to the lines.** -/
theorem writes_step {b : Board PowerLine Cause} {s : EpsState} (hb : b.lines = s.powerLines)
    (event : EpsEvent V) : (b.writes (writes c s event)).lines = (step c s event).powerLines := by
  cases event with
  | command cmd =>
      refine (writes_written b _ _).trans ?_
      rw [hb]
      exact (command_commanded c cmd s).lines.symm
  | inject failure magnitude =>
      exact hb.trans (injectFailure_commanded magnitude s failure).lines.symm
  | clear failure => exact hb.trans (clearFailure_commanded s failure).lines.symm
  | tick found =>
      show (b.writes (tickWrites c found s)).lines = ((s.balanced c found).safe c).powerLines
      unfold tickWrites
      rw [Board.writes_append, Board.writes_append, writes_off, (safe_commanded c _).lines]
      congr 1
      refine shedWrites_lines c ?_
      rw [writes_off, hb]
      exact (checked_trippedOver c found s).lines.symm

end Events

end Eps
