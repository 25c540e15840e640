import MissionSim.LoadShedding

/-!
# Overcurrent trips

A trip takes a line off and sets its flag, and the flag is meant to keep the line off: two commands
reset it, and put the line on.

The other commands that switch lines do not look at the flag, and neither does the auto-restore.  A
run keeps every tripped line off exactly when none of its events puts one on without a reset.
-/

namespace Eps

open Python Effects Switchboard

variable {V : Type} [Object V] (c : EpsConfig)

/-! ### Lines after writes -/

theorem written_off (lines : PowerLine → Bool) (ls : List PowerLine) (l : PowerLine) :
    written lines (ls.map fun l => (l, false)) l = if l ∈ ls then false else lines l := by
  induction ls generalizing lines with
  | nil => rfl
  | cons first rest ih =>
      show written (Function.update lines first false) _ l = _
      rw [ih]
      by_cases hrest : l ∈ rest
      · rw [if_pos hrest, if_pos (List.mem_cons_of_mem _ hrest)]
      · rw [if_neg hrest]
        by_cases hfirst : l = first
        · subst hfirst
          rw [Function.update_self, if_pos List.mem_cons_self]
        · rw [Function.update_of_ne hfirst, if_neg (by simp [hfirst, hrest])]

theorem written_of_not_mem {lines : PowerLine → Bool} {ws : List (PowerLine × Bool)} {l : PowerLine}
    (h : l ∉ ws.map Prod.fst) : written lines ws l = lines l := by
  induction ws generalizing lines with
  | nil => rfl
  | cons w ws ih =>
      rw [List.map_cons, List.mem_cons, not_or] at h
      show written (Function.update lines w.1 w.2) ws l = _
      rw [ih h.2, Function.update_of_ne h.1]

/-- Writes to different lines do not undo one another. -/
theorem written_of_mem {lines : PowerLine → Bool} {ws : List (PowerLine × Bool)} {l : PowerLine}
    {on : Bool} (hnodup : (ws.map Prod.fst).Nodup) (h : (l, on) ∈ ws) :
    written lines ws l = on := by
  induction ws generalizing lines with
  | nil => cases h
  | cons w ws ih =>
      have hparts := List.nodup_cons.mp hnodup
      show written (Function.update lines w.1 w.2) ws l = _
      rcases List.mem_cons.mp h with hfirst | hrest
      · subst hfirst
        rw [written_of_not_mem hparts.1, Function.update_self]
      · exact ih hparts.2 hrest

/-! ### Tripped lines -/

/-- Every tripped line is off. -/
def EpsState.Isolated (s : EpsState) : Prop := ∀ l, s.Tripped l → s.powerLines l = false

/-- **A tripped line is put on** without a reset: by a command, or by the auto-restore of a tick in
which the line was tripped before or trips, and which no change of the mode takes off again. -/
inductive Reenergises (s : EpsState) : EpsEvent V → Prop
  | command {cmd l} (hon : (l, true) ∈ commandWrites cmd s) (htrip : s.Tripped l)
      (hkeeps : commandClears cmd s ≠ some l) : Reenergises s (.command cmd)
  | tick {found l} (hshed : (s.checked c found).shedding c = none)
      (hrestore : (s.checked c found).restoring c = some l)
      (htrip : s.Tripped l ∨ l ∈ s.tripping c found)
      (hsafe : l ∉ (s.balanced c found).safed c) : Reenergises s (.tick found)

variable {s : EpsState}

theorem command_isolated_iff (h : s.Isolated) (cmd : Arguments V) :
    (finalState (handleCommand c cmd) s).Isolated ↔ ¬ Reenergises c s (.command cmd) := by
  have hcommanded := command_commanded c cmd s
  have hnodup := commandWrites_nodup cmd s
  constructor
  · intro hafter hbad
    cases hbad with
    | command hon htrip hkeeps =>
        have hoff := hafter _ ((hcommanded.tripped _).mpr ⟨htrip, hkeeps⟩)
        rw [hcommanded.lines, written_of_mem hnodup hon] at hoff
        cases hoff
  · intro hnot l htripped
    obtain ⟨htrip, hkeeps⟩ := (hcommanded.tripped l).mp htripped
    rw [hcommanded.lines]
    by_cases hmem : l ∈ (commandWrites cmd s).map Prod.fst
    · obtain ⟨⟨l', on⟩, hwrite, rfl⟩ := List.mem_map.mp hmem
      rw [written_of_mem hnodup hwrite]
      by_contra hon
      obtain rfl : on = true := Bool.eq_true_of_not_eq_false hon
      exact hnot (.command hwrite htrip hkeeps)
    · rw [written_of_not_mem hmem]
      exact h l htrip

/-- The lines after the load shedding of a tick. -/
theorem shedOrRestore_on {l : PowerLine} (hoff : s.powerLines l = false) :
    (s.shedOrRestore c).powerLines l = true ↔ s.shedding c = none ∧ s.restoring c = some l := by
  unfold EpsState.shedOrRestore
  cases hshed : s.shedding c with
  | some l' =>
      rw [shed_powerLines]
      have hne : l ≠ l' := by
        rintro rfl
        cases hoff.symm.trans (shedding_on c hshed)
      simp [Function.update_of_ne hne, hoff]
  | none =>
      cases s.restoring c with
      | some l' =>
          rw [restore_powerLines]
          by_cases hsame : l = l'
          · subst hsame
            simp
          · simp [Function.update_of_ne hsame, hoff, Ne.symm hsame]
      | none => simp [hoff]

/-- What is tripped after a tick. -/
theorem tick_tripped (found : PowerFound) (s : EpsState) (l : PowerLine) :
    (tick c found s).Tripped l ↔ s.Tripped l ∨ l ∈ s.tripping c found := by
  have hsafe := (safe_commanded c (s.balanced c found)).tripped l
  have hshed := shedOrRestore_tripped c (s.checked c found) l
  have hchecked := (checked_trippedOver c found s).tripped l
  calc (tick c found s).Tripped l
      ↔ (s.balanced c found).Tripped l ∧ (none : Option PowerLine) ≠ some l := hsafe
    _ ↔ (s.balanced c found).Tripped l := and_iff_left (by simp)
    _ ↔ (s.checked c found).Tripped l := hshed
    _ ↔ s.Tripped l ∨ l ∈ s.tripping c found := hchecked

theorem tick_isolated_iff (h : s.Isolated) (found : PowerFound) :
    (tick c found s).Isolated ↔ ¬ Reenergises (V := V) c s (.tick found) := by
  have hlines (l : PowerLine) : (tick c found s).powerLines l =
      if l ∈ (s.balanced c found).safed c then false
      else ((s.checked c found).shedOrRestore c).powerLines l := by
    refine (congrFun (safe_commanded c (s.balanced c found)).lines l).trans ?_
    exact written_off _ _ _
  have hchecked (l : PowerLine) (htrip : s.Tripped l ∨ l ∈ s.tripping c found) :
      (s.checked c found).powerLines l = false := by
    rw [(checked_trippedOver c found s).lines, written_off]
    by_cases hmem : l ∈ s.tripping c found
    · rw [if_pos hmem]
    · rw [if_neg hmem]
      exact h l (htrip.resolve_right hmem)
  constructor
  · intro hafter hbad
    cases hbad with
    | tick hshed hrestore htrip hsafe =>
        have hoff := hafter _ ((tick_tripped c found s _).mpr htrip)
        rw [hlines, if_neg hsafe] at hoff
        cases hoff.symm.trans ((shedOrRestore_on c (hchecked _ htrip)).mpr ⟨hshed, hrestore⟩)
  · intro hnot l htripped
    have htrip := (tick_tripped c found s l).mp htripped
    rw [hlines]
    by_cases hsafe : l ∈ (s.balanced c found).safed c
    · rw [if_pos hsafe]
    · rw [if_neg hsafe]
      by_contra hon
      obtain ⟨hshed, hrestore⟩ := (shedOrRestore_on c (hchecked l htrip)).mp
        (Bool.eq_true_of_not_eq_false hon)
      exact hnot (.tick hshed hrestore htrip hsafe)

/-- **An event leaves every tripped line off** exactly when it puts none on without a reset. -/
theorem step_isolated_iff (h : s.Isolated) (event : EpsEvent V) :
    (step c s event).Isolated ↔ ¬ Reenergises c s event := by
  have haside {s' : EpsState} (hs' : Commanded [] none s s') : s'.Isolated := by
    intro l htripped
    rw [hs'.lines]
    exact h l ((hs'.tripped l).mp htripped).1
  cases event with
  | command cmd => exact command_isolated_iff c h cmd
  | inject failure magnitude =>
      refine ⟨fun _ hbad => ?_, fun _ => haside (injectFailure_commanded magnitude s failure)⟩
      cases hbad
  | clear failure =>
      refine ⟨fun _ hbad => ?_, fun _ => haside (clearFailure_commanded s failure)⟩
      cases hbad
  | tick found => exact tick_isolated_iff c h found

/-- **Only a reset clears a trip.** -/
theorem cleared_by_reset {event : EpsEvent V} {l : PowerLine} (htrip : s.Tripped l)
    (hafter : ¬ (step c s event).Tripped l) :
    ∃ cmd, event = .command cmd ∧ commandClears cmd s = some l := by
  cases event with
  | command cmd =>
      refine ⟨cmd, rfl, ?_⟩
      by_contra hkeeps
      exact hafter (((command_commanded c cmd s).tripped l).mpr ⟨htrip, hkeeps⟩)
  | inject failure magnitude =>
      refine absurd ?_ hafter
      exact ((injectFailure_commanded magnitude s failure).tripped l).mpr ⟨htrip, by simp⟩
  | clear failure =>
      refine absurd ?_ hafter
      exact ((clearFailure_commanded s failure).tripped l).mpr ⟨htrip, by simp⟩
  | tick found => exact absurd ((tick_tripped c found s l).mpr (.inl htrip)) hafter

/-! ### Runs -/

/-- **A trip holds until it is reset.**  In a run from power-up every tripped line is off, and what
puts a tripped line on is a reset, which clears its flag. -/
structure TripsHold (events : List (EpsEvent V)) : Prop where
  off : ∀ i l, (Runs.after (step c) (configure c) (events.take i)).Tripped l →
    (Runs.after (step c) (configure c) (events.take i)).powerLines l = false
  resets : ∀ i event l, events[i]? = some event →
    (Runs.after (step c) (configure c) (events.take i)).Tripped l →
    (Runs.after (step c) (configure c) (events.take (i + 1))).powerLines l = true →
      ¬ (Runs.after (step c) (configure c) (events.take (i + 1))).Tripped l ∧
        ∃ cmd, event = .command cmd ∧
          commandClears cmd (Runs.after (step c) (configure c) (events.take i)) = some l

/-- **A trip holds until it is reset**, exactly when no event of the run puts a tripped line on
without a reset. -/
theorem tripsHold_iff (events : List (EpsEvent V)) :
    TripsHold c events ↔
      ∀ i, ¬ Runs.HappensAt (step c) (configure c) events (fun s event => Reenergises c s event)
        i := by
  constructor
  · rintro hholds i ⟨event, hevent, hbad⟩
    have hafter : (step c (Runs.after (step c) (configure c) (events.take i)) event).Isolated := by
      have hnext : Runs.after (step c) (configure c) (events.take (i + 1)) =
          step c (Runs.after (step c) (configure c) (events.take i)) event :=
        Runs.after_take_succ hevent
      rw [← hnext]
      exact hholds.off (i + 1)
    exact (step_isolated_iff c (hholds.off i) event).mp hafter hbad
  · intro hnever
    have hoff : ∀ i, (Runs.after (step c) (configure c) (events.take i)).Isolated := by
      intro i
      have hstart : (configure c).Isolated := by
        intro l htripped
        simp [EpsState.Tripped, configure] at htripped
      refine Runs.holds_between (P := EpsState.Isolated) (Nat.zero_le i) hstart ?_
      intro k event _ _ hevent hk
      exact (step_isolated_iff c hk event).mpr fun hbad => hnever k ⟨event, hevent, hbad⟩
    refine ⟨hoff, fun i event l hevent htrip hon => ?_⟩
    have hclear : ¬ (Runs.after (step c) (configure c) (events.take (i + 1))).Tripped l := by
      intro htripped
      cases hon.symm.trans (hoff (i + 1) l htripped)
    refine ⟨hclear, ?_⟩
    rw [Runs.after_take_succ hevent] at hclear
    exact cleared_by_reset c htrip hclear

/-- The payload is put on, draws too much and trips, and is put on again. -/
def switchedOnTripped : List (EpsEvent Scalar) :=
  [payloadCommand "power_line_on",
    .tick { quietAt 28 with draw := fun l => if l = .payload then literal 100 else literal 0 },
    payloadCommand "power_line_on"]

theorem switchedOnTripped_not_held : ¬ TripsHold restoringConfig switchedOnTripped := by
  intro h
  have hoff := h.off 3 .payload
  revert hoff
  decide +kernel

end Eps
