import MissionSim.PowerSwitching
import MissionSim.Runs

/-!
# Load shedding and its restoration

Below the shed voltage a tick takes off one line and lists it; well above, it takes the last entry
from the list and puts its line on again.  The list is meant to hold what the shedder took off, and
nothing else.

Nothing strikes a line from the list when somebody else switches it.  A line that was shed and put
on by hand is still listed; when it is taken off by hand, by a trip or by a change of the mode, a
later tick puts it on again.
-/

namespace Eps

open Python Effects Switchboard

variable {V : Type} [Object V] (c : EpsConfig)

/-! ### Writes of commands -/

theorem switchableWrite_nodup (on : Bool) (line : Option PowerLine) :
    ((switchableWrite on line).map Prod.fst).Nodup := by
  unfold switchableWrite
  cases line with
  | none => exact List.nodup_nil
  | some l =>
      dsimp only
      split
      · exact List.nodup_singleton l
      · exact List.nodup_nil

theorem emergencyLines_lines (stage : Int) :
    (emergencyLines stage).map Prod.fst = loadShedOrder := rfl

/-- A command writes to a line at most once. -/
theorem commandWrites_nodup (cmd : Arguments V) (s : EpsState) :
    ((commandWrites cmd s).map Prod.fst).Nodup := by
  unfold commandWrites
  cases commandOf cmd with
  | none => exact List.nodup_nil
  | some name =>
      cases name with
      | setFpaCooler => exact List.nodup_singleton PowerLine.fpaCooler
      | powerLineOn | powerLineOff | resetOcFlag | switchLoad => exact switchableWrite_nodup _ _
      | emergencyLoadShed =>
          show ((Option.getD (Option.map emergencyLines _) []).map Prod.fst).Nodup
          cases (cmd.int "stage" 1).toOption.filter fun stage => 0 ≤ stage ∧ stage ≤ 3 with
          | none => exact List.nodup_nil
          | some stage =>
              rw [Option.map_some, Option.getD_some, emergencyLines_lines]
              decide
      | resetTrip =>
          show (((indexedLine cmd).toList.map fun l => (l, true)).map Prod.fst).Nodup
          cases indexedLine cmd with
          | none => exact List.nodup_nil
          | some l => exact List.nodup_singleton l
      | _ => exact List.nodup_nil

/-! ### The list -/

/-- The machine with its board. -/
def follow (p : EpsState × Board PowerLine Cause) (event : EpsEvent V) :
    EpsState × Board PowerLine Cause :=
  (step c p.1 event, p.2.writes (writes c p.1 event))

/-- Power-up: nobody has taken off anything. -/
def powerUp : EpsState × Board PowerLine Cause := (configure c, ⟨c.powerLines, fun _ => none⟩)

/-- **A listed line is taken off** by somebody other than the shedder. -/
inductive TakesListed (s : EpsState) : EpsEvent V → Prop
  | command {cmd l} (hoff : (l, false) ∈ commandWrites cmd s) (hon : s.powerLines l = true)
      (hlisted : l ∈ s.shedLines) : TakesListed s (.command cmd)
  | trip {found l} (htrip : l ∈ s.tripping c found) (hon : s.powerLines l = true)
      (hlisted : l ∈ s.shedLines) : TakesListed s (.tick found)
  | safing {found l} (hsafed : l ∈ (s.balanced c found).safed c)
      (hon : (s.balanced c found).powerLines l = true)
      (hlisted : l ∈ (s.balanced c found).shedLines) : TakesListed s (.tick found)

/-- The board shows the lines, and the listed ones are off by nobody but the shedder. -/
structure InOrder (p : EpsState × Board PowerLine Cause) : Prop where
  lines : p.2.lines = p.1.powerLines
  owed : p.2.Owed .shedder p.1.shedLines

variable {s : EpsState}

theorem shedding_on {l : PowerLine} (h : s.shedding c = some l) : s.powerLines l = true := by
  unfold EpsState.shedding at h
  split at h
  · exact List.find?_some h
  · cases h

theorem restoring_listed {l : PowerLine} (h : s.restoring c = some l) : l ∈ s.shedLines := by
  unfold EpsState.restoring at h
  split at h
  · cases h
  · split at h
    · exact List.mem_of_getLast? h
    · cases h

variable {b : Board PowerLine Cause}

/-- The load shedding of a tick restores rightfully. -/
theorem shedWrites_rightful (h : InOrder (s, b)) :
    b.Rightful .restore .shedder (s.shedWrites c) := by
  unfold EpsState.shedWrites
  cases s.shedding c with
  | some l => exact ⟨fun hcause => Cause.noConfusion hcause, trivial⟩
  | none =>
      cases hrestore : s.restoring c with
      | some l => exact ⟨fun _ _ hoff => h.owed l (restoring_listed c hrestore) hoff, trivial⟩
      | none => trivial

/-- What the load shedding of a tick takes off, it lists. -/
theorem shedWrites_inOrder (h : InOrder (s, b)) :
    InOrder (s.shedOrRestore c, b.writes (s.shedWrites c)) := by
  refine ⟨shedWrites_lines c h.lines, ?_⟩
  unfold EpsState.shedWrites EpsState.shedOrRestore
  cases hshed : s.shedding c with
  | some l =>
      have hwas : b.lines l = true := (congrFun h.lines l).trans (shedding_on c hshed)
      rw [shed_shedLines]
      exact h.owed.owe hwas
  | none =>
      cases hrestore : s.restoring c with
      | some l =>
          rw [restore_shedLines]
          have hon : (b.write ⟨l, true, .restore⟩).Owed .shedder s.shedLines := h.owed.write_on rfl
          exact fun line hmem => hon line (List.mem_of_mem_dropLast hmem)
      | none => exact h.owed

/-- The trips of a tick take off nothing that is listed. -/
theorem tripping_inOrder (h : InOrder (s, b)) {found : PowerFound}
    (hnot : ¬ TakesListed (V := V) c s (.tick found)) :
    InOrder (s.checked c found,
      b.writes ((s.tripping c found).map fun l => ⟨l, false, .overcurrent⟩)) := by
  have hchecked := checked_trippedOver c found s
  refine ⟨?_, ?_⟩
  · rw [writes_off, h.lines]
    exact hchecked.lines.symm
  · rw [hchecked.shed]
    refine h.owed.writes_off _ _ fun l htrip hlisted => ?_
    rw [h.lines]
    by_contra hoff
    exact hnot (.trip htrip (Bool.not_eq_false _ ▸ hoff) hlisted)

/-- A tick that takes off nothing that is listed restores rightfully. -/
theorem tick_inOrder (h : InOrder (s, b)) {found : PowerFound}
    (hnot : ¬ TakesListed (V := V) c s (.tick found)) :
    b.Rightful .restore .shedder (tickWrites c found s) ∧
      InOrder (tick c found s, b.writes (tickWrites c found s)) := by
  have hchecked := tripping_inOrder c h hnot
  have hbalanced := shedWrites_inOrder c hchecked
  have hsafe := safe_commanded c (s.balanced c found)
  unfold tickWrites
  constructor
  · refine Board.rightful_append.mpr ⟨?_, Board.rightful_append.mpr ⟨?_, ?_⟩⟩
    · apply Board.rightful_of_others
      simp
    · exact shedWrites_rightful c hchecked
    · apply Board.rightful_of_others
      simp
  · rw [Board.writes_append, Board.writes_append]
    refine ⟨?_, ?_⟩
    · rw [writes_off, hbalanced.lines]
      exact hsafe.lines.symm
    · show Board.Owed _ ((s.balanced c found).safe c).shedLines _
      rw [hsafe.shed]
      refine hbalanced.owed.writes_off _ _ fun l hsafed hlisted => ?_
      rw [hbalanced.lines]
      by_contra hoff
      exact hnot (.safing hsafed (Bool.not_eq_false _ ▸ hoff) hlisted)

/-- **An event that takes off nothing that is listed** restores rightfully, and leaves the list in
order. -/
theorem follow_inOrder {p : EpsState × Board PowerLine Cause} (h : InOrder p) {event : EpsEvent V}
    (hnot : ¬ TakesListed c p.1 event) :
    p.2.Rightful .restore .shedder (writes c p.1 event) ∧ InOrder (follow c p event) := by
  obtain ⟨s, b⟩ := p
  cases event with
  | command cmd =>
      have hcommanded := command_commanded c cmd s
      constructor
      · apply Board.rightful_of_others
        intro w hmem
        obtain ⟨w', -, rfl⟩ := List.mem_map.mp hmem
        exact fun hcause => Cause.noConfusion hcause
      · refine ⟨writes_step c h.lines (.command cmd), ?_⟩
        show Board.Owed _ (finalState (handleCommand c cmd) s).shedLines _
        rw [hcommanded.shed]
        refine h.owed.writes ?_ ?_
        · have hnodup := commandWrites_nodup cmd s
          simpa [writes, Function.comp_def] using hnodup
        · intro w hmem hoff hlisted
          obtain ⟨⟨l, on⟩, hwrite, rfl⟩ := List.mem_map.mp hmem
          obtain rfl : on = false := hoff
          rw [h.lines]
          by_contra hon
          exact hnot (.command hwrite (Bool.not_eq_false _ ▸ hon) hlisted)
  | inject failure magnitude =>
      have haside := injectFailure_commanded magnitude s failure
      refine ⟨trivial, h.lines.trans haside.lines.symm, ?_⟩
      show Board.Owed _ (injectFailure magnitude s failure).shedLines _
      rw [haside.shed]
      exact h.owed
  | clear failure =>
      have haside := clearFailure_commanded s failure
      refine ⟨trivial, h.lines.trans haside.lines.symm, ?_⟩
      show Board.Owed _ (clearFailure s failure).shedLines _
      rw [haside.shed]
      exact h.owed
  | tick found => exact tick_inOrder c h hnot

/-! ### Runs -/

/-- **The auto-restore undoes only its own shedding.**  In a run from power-up, every line that it
switches on was last taken off by the shedder, and has not been put on since. -/
def RestoresOwn (events : List (EpsEvent V)) : Prop :=
  ∀ i event, events[i]? = some event →
    let p := Runs.after (follow c) (powerUp c) (events.take i)
    p.2.Rightful .restore .shedder (writes c p.1 event)

/-- The board follows the machine. -/
theorem follow_state (events : List (EpsEvent V)) :
    (Runs.after (follow c) (powerUp c) events).1 = Runs.after (step c) (configure c) events := by
  have hrun (events : List (EpsEvent V)) (p : EpsState × Board PowerLine Cause) :
      (Runs.after (follow c) p events).1 = Runs.after (step c) p.1 events := by
    induction events generalizing p with
    | nil => rfl
    | cons event rest ih => exact ih (follow c p event)
  exact hrun events (powerUp c)

/-- A configuration with auto-restore. -/
def restoringConfig : EpsConfig := { shedAutoRestore := true }

/-- A command for the payload line. -/
def payloadCommand (name : String) : EpsEvent Scalar :=
  .command ((Dict.empty.set "command" (.word name)).set "line_index" (.int 3))

/-- A tick that draws nothing, and ends at a bus voltage. -/
def quietAt (volts : Nat) : PowerFound := ⟨literal 1, fun _ => literal 0, literal volts, none⟩

/-- The payload is shed, and restored. -/
def shedAndRestored : List (EpsEvent Scalar) :=
  [payloadCommand "power_line_on", .tick (quietAt 26), .tick (quietAt 28)]

/-- The payload is shed, put on and taken off by hand, and then restored. -/
def restoredAgainstOperator : List (EpsEvent Scalar) :=
  [payloadCommand "power_line_on", .tick (quietAt 26), payloadCommand "power_line_on",
    payloadCommand "power_line_off", .tick (quietAt 28)]

end Eps
