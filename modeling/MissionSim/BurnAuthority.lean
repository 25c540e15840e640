import MissionSim.PropulsionMoves

/-!
# Authorised burns

A burn is authorised when it was loaded, and the thruster armed with no interlock against it,
since the burn before it ended.

The normal end of a burn goes back to the armed state, and nothing but the burn's status tells
this state from the one that arming reaches: an execution there is the one way to a burn that
is not authorised.
-/

namespace Propulsion

open Binary32 Python Effects Control

variable {T : Type} (c : Config) (lib : Library T) (s : PropState T)
  (events : List (PropEvent T))

/-- The state before the event at a position. -/
def stateAt (i : Nat) : PropState T := Runs.after (step c lib) s (events.take i)

/-- At a position there is an event that, in the state before it, satisfies `P`. -/
def HappensAt (P : PropState T → PropEvent T → Prop) (i : Nat) : Prop :=
  ∃ event, events[i]? = some event ∧ P (stateAt c lib s events i) event

/-- A burn starts. -/
def Ignites (s : PropState T) (event : PropEvent T) : Prop :=
  s.state ≠ .firing ∧ (step c lib s event).state = .firing

/-- A burn ends. -/
def Ends (s : PropState T) (event : PropEvent T) : Prop :=
  s.state = .firing ∧ (step c lib s event).state ≠ .firing

/-- No burn ends from a position on, up to another. -/
def NoEnd (j i : Nat) : Prop := ∀ l, j ≤ l → l < i → ¬ HappensAt c lib s events (Ends c lib) l

/-- Every burn was loaded and armed since the burn before it ended, and between two burns there
is a loading. -/
structure BurnsAuthorised : Prop where
  loaded : ∀ i, HappensAt c lib s events (Ignites c lib) i →
    ∃ j < i, HappensAt c lib s events (Loads c lib) j ∧ NoEnd c lib s events j i
  armed : ∀ i, HappensAt c lib s events (Ignites c lib) i →
    ∃ k < i, HappensAt c lib s events (Arms c lib) k ∧ NoEnd c lib s events k i
  once : ∀ i i', i < i' → HappensAt c lib s events (Ignites c lib) i →
    HappensAt c lib s events (Ignites c lib) i' →
    ∃ j, i < j ∧ j < i' ∧ HappensAt c lib s events (Loads c lib) j

/-- An execution in the armed state that a completed burn has left. -/
def Refires (s : PropState T) (event : PropEvent T) : Prop :=
  event = .command .execute ∧ s.state = .armed ∧ s.burnStatus = .complete

/-! ### Moves and burns -/

theorem Control.aborted_state (c : Control) : c.aborted.state = .safed ∨ c.aborted.state = .inhibit := by
  unfold aborted
  dsimp only
  split_ifs
  · exact .inr rfl
  · exact .inl rfl

/-- An inhibited thruster is neither firing nor armed, and a burn stays loaded unless it was
firing. -/
theorem Control.inhibited_state (c : Control) :
    (c.inhibited.state = .safed ∨ c.inhibited.state = .inhibit) ∧
      (c.inhibited.burnLoaded = true → c.burnLoaded = true ∧ c.state ≠ .firing) := by
  unfold inhibited
  split
  · exact ⟨aborted_state _, nofun⟩
  · rename_i hstate
    exact ⟨.inl rfl, fun hloaded => ⟨hloaded, by simp [hstate]⟩⟩
  · rename_i hstate
    exact ⟨.inl hstate, fun hloaded => ⟨hloaded, by simp [hstate]⟩⟩
  · rename_i hstate
    exact ⟨.inr hstate, fun hloaded => ⟨hloaded, by simp [hstate]⟩⟩

/-- The key leaves a thruster that is not inhibited in its state. -/
theorem Control.cleared_state (c : Control) :
    (c.cleared.state = .safed ∨ c.cleared.state = c.state ∧ c.cleared.burnStatus = c.burnStatus) ∧
      c.cleared.burnLoaded = c.burnLoaded ∧ (c.state = .firing → c.cleared.state = .firing) := by
  unfold cleared
  split_ifs with hinhibit
  · exact ⟨.inl rfl, rfl, fun hfiring => absurd (hinhibit.symm.trans hfiring) (by decide)⟩
  · exact ⟨.inr ⟨rfl, rfl⟩, rfl, id⟩

/-- Only firing starts a burn. -/
theorem Move.ignites {c : Control} {move : Move} (henabled : move.Enabled c)
    (hbefore : c.state ≠ .firing) (hafter : (move.apply c).state = .firing) : move = .fire := by
  cases move with
  | fire => rfl
  | stay | load | inhibitOff | inhibitOnly => exact absurd hafter hbefore
  | arm | disarm | unpower | abortArmed => cases hafter
  | complete | abort => exact absurd henabled hbefore
  | inhibitOn =>
      rcases (inhibited_state c).1 with h | h
      · cases h.symm.trans hafter
      · cases h.symm.trans hafter
  | clear =>
      rcases (cleared_state c).1 with h | ⟨h, -⟩
      · cases h.symm.trans hafter
      · exact absurd (h.symm.trans hafter) hbefore

/-- A burn is loaded after a move that loads it, or it was before and no burn has ended. -/
theorem Move.burnLoaded {c : Control} {move : Move} (henabled : move.Enabled c)
    (hloaded : (move.apply c).burnLoaded = true) :
    move = .load ∨ c.burnLoaded = true ∧ (c.state = .firing → (move.apply c).state = .firing) := by
  cases move with
  | load => exact .inl rfl
  | stay | inhibitOff | inhibitOnly => exact .inr ⟨hloaded, id⟩
  | complete | abortArmed => cases hloaded
  | abort => simp [Move.apply, aborted] at hloaded
  | arm => exact .inr ⟨hloaded, fun hfiring => absurd (henabled.1.symm.trans hfiring) (by decide)⟩
  | disarm | unpower | fire =>
      exact .inr ⟨hloaded, fun hfiring => absurd (henabled.symm.trans hfiring) (by decide)⟩
  | inhibitOn =>
      obtain ⟨hbefore, hnot⟩ := (inhibited_state c).2 hloaded
      exact .inr ⟨hbefore, fun hfiring => absurd hfiring hnot⟩
  | clear =>
      obtain ⟨-, hsame, hfiring⟩ := cleared_state c
      exact .inr ⟨hsame.symm.trans hloaded, hfiring⟩

/-- How the armed state is reached: by arming, by the normal end of a burn, or it is kept. -/
theorem Move.armed {c : Control} {move : Move} (henabled : move.Enabled c)
    (harmed : (move.apply c).state = .armed) :
    move = .arm ∨ (move.apply c).burnStatus = .complete ∨
      c.state = .armed ∧ (move.apply c).burnStatus = c.burnStatus ∧
        (c.burnLoaded = true → (move.apply c).burnLoaded = true) := by
  cases move with
  | arm => exact .inl rfl
  | complete => exact .inr (.inl rfl)
  | stay | inhibitOff | inhibitOnly => exact .inr (.inr ⟨harmed, rfl, id⟩)
  | load => exact .inr (.inr ⟨harmed, rfl, fun _ => rfl⟩)
  | disarm | unpower | abortArmed | fire => cases harmed
  | abort =>
      rcases aborted_state c with h | h
      · cases h.symm.trans harmed
      · cases h.symm.trans harmed
  | inhibitOn =>
      rcases (inhibited_state c).1 with h | h
      · cases h.symm.trans harmed
      · cases h.symm.trans harmed
  | clear =>
      obtain ⟨h | ⟨h, hstatus⟩, hsame, -⟩ := cleared_state c
      · cases h.symm.trans harmed
      · exact .inr (.inr ⟨h.symm.trans harmed, hstatus, fun hloaded => hsame.trans hloaded⟩)

/-! ### Runs -/

variable {c lib s events}

theorem stateAt_succ {i : Nat} {event : PropEvent T} (h : events[i]? = some event) :
    stateAt c lib s events (i + 1) = step c lib (stateAt c lib s events i) event :=
  Runs.after_take_succ h

theorem NoEnd.succ {j i : Nat} (h : NoEnd c lib s events j i)
    (hlast : ¬ HappensAt c lib s events (Ends c lib) i) : NoEnd c lib s events j (i + 1) := by
  intro l hj hl
  by_cases hli : l = i
  · rwa [hli]
  · exact h l hj (by omega)

theorem NoEnd.start {i : Nat} (hlast : ¬ HappensAt c lib s events (Ends c lib) i) :
    NoEnd c lib s events i (i + 1) := by
  intro l hi hl
  obtain rfl : l = i := by omega
  exact hlast

/-- What the state tells of the events before it: a loaded burn has been loaded, and an armed
thruster either stands after a completed burn or has a loaded burn and has been armed. -/
structure Told (c : Config) (lib : Library T) (s : PropState T) (events : List (PropEvent T))
    (i : Nat) : Prop where
  loaded : (stateAt c lib s events i).burnLoaded = true →
    ∃ j < i, HappensAt c lib s events (Loads c lib) j ∧ NoEnd c lib s events j i
  armed : (stateAt c lib s events i).state = .armed →
    (stateAt c lib s events i).burnStatus = .complete ∨
      (stateAt c lib s events i).burnLoaded = true ∧
        ∃ k < i, HappensAt c lib s events (Arms c lib) k ∧ NoEnd c lib s events k i

theorem Told.succ {i : Nat} {event : PropEvent T} (hevent : events[i]? = some event)
    (h : Told c lib s events i) : Told c lib s events (i + 1) := by
  obtain ⟨move, henabled, hby, hmove⟩ : MakesMove c lib (stateAt c lib s events i) event :=
    perform_move _ event
  have hnext : stateAt c lib s events (i + 1) = step c lib (stateAt c lib s events i) event :=
    stateAt_succ hevent
  have hcontrol : (stateAt c lib s events (i + 1)).control =
      move.apply (stateAt c lib s events i).control := by rw [hnext, hmove]
  -- a move that keeps a firing thruster firing ends no burn
  have hnoEnd : ((stateAt c lib s events i).state = .firing →
      (move.apply (stateAt c lib s events i).control).state = .firing) →
      ¬ HappensAt c lib s events (Ends c lib) i := by
    rintro hkeeps ⟨event', hevent', hfiring, hleft⟩
    obtain rfl : event = event' := Option.some.inj (hevent.symm.trans hevent')
    refine hleft ?_
    have hstate := congrArg state hmove
    exact hstate.trans (hkeeps hfiring)
  refine ⟨fun hloaded => ?_, fun harmed => ?_⟩
  · have hloaded' : (move.apply (stateAt c lib s events i).control).burnLoaded = true := by
      rw [← hcontrol]
      exact hloaded
    rcases Move.burnLoaded henabled hloaded' with rfl | ⟨hbefore, hkeeps⟩
    · refine ⟨i, Nat.lt_succ_self i, ⟨event, hevent, hby⟩, NoEnd.start (hnoEnd ?_)⟩
      exact fun hfiring => absurd hfiring henabled
    · obtain ⟨j, hj, hloads, hno⟩ := h.loaded hbefore
      exact ⟨j, Nat.lt_succ_of_lt hj, hloads, hno.succ (hnoEnd hkeeps)⟩
  · have harmed' : (move.apply (stateAt c lib s events i).control).state = .armed := by
      rw [← hcontrol]
      exact harmed
    have hstatus := congrArg burnStatus hcontrol
    have hloadedEq := congrArg burnLoaded hcontrol
    rcases Move.armed henabled harmed' with rfl | hcomplete | ⟨hbefore, hsame, hkept⟩
    · refine .inr ⟨hloadedEq.trans henabled.2.2.2, i, Nat.lt_succ_self i, ⟨event, hevent, hby⟩,
        NoEnd.start (hnoEnd ?_)⟩
      exact fun hfiring => absurd (henabled.1.symm.trans hfiring) (by decide)
    · exact .inl (hstatus.trans hcomplete)
    · rcases h.armed hbefore with hcomplete | ⟨hloaded, k, hk, harms, hno⟩
      · exact .inl ((hstatus.trans hsame).trans hcomplete)
      · refine .inr ⟨hloadedEq.trans (hkept hloaded), k, Nat.lt_succ_of_lt hk, harms,
          hno.succ (hnoEnd ?_)⟩
        exact fun hfiring => absurd (hbefore.symm.trans hfiring) (by decide)

theorem Told.all (hfresh : s.control = fresh) {i : Nat} (hi : i ≤ events.length) :
    Told c lib s events i := by
  induction i with
  | zero =>
      refine ⟨fun hloaded => ?_, fun harmed => ?_⟩
      · cases hloaded.symm.trans (congrArg burnLoaded hfresh)
      · cases harmed.symm.trans (congrArg state hfresh)
  | succ i ih =>
      exact (ih (by omega)).succ (List.getElem?_eq_getElem (by omega))

/-- A burn that starts was loaded and armed, where no completed burn is fired again. -/
theorem ignition (hfresh : s.control = fresh)
    (hheld : ∀ i, ¬ HappensAt c lib s events Refires i) {i : Nat}
    (h : HappensAt c lib s events (Ignites c lib) i) :
    (∃ j < i, HappensAt c lib s events (Loads c lib) j ∧ NoEnd c lib s events j i) ∧
      ∃ k < i, HappensAt c lib s events (Arms c lib) k ∧ NoEnd c lib s events k i := by
  obtain ⟨event, hevent, hbefore, hafter⟩ := h
  obtain ⟨move, henabled, hby, hmove⟩ : MakesMove c lib (stateAt c lib s events i) event :=
    perform_move _ event
  have hafter' : (move.apply (stateAt c lib s events i).control).state = .firing := by
    rw [← hmove]
    exact hafter
  obtain rfl := Move.ignites henabled hbefore hafter'
  have hlength : i < events.length := (List.getElem?_eq_some_iff.mp hevent).1
  have htold : Told c lib s events i := .all hfresh hlength.le
  rcases htold.armed henabled with hcomplete | ⟨hloaded, harmed⟩
  · exact absurd ⟨event, hevent, hby, henabled, hcomplete⟩ (hheld i)
  · exact ⟨htold.loaded hloaded, harmed⟩

/-- **Every burn is authorised** in a run in which no execution is given in the armed state that a
completed burn has left. -/
theorem burns_authorised (hfresh : s.control = Control.fresh)
    (hheld : ∀ i, ¬ HappensAt c lib s events Refires i) : BurnsAuthorised c lib s events := by
  refine ⟨fun i h => (ignition hfresh hheld h).1, fun i h => (ignition hfresh hheld h).2, ?_⟩
  intro i i' hlt hfirst hsecond
  obtain ⟨j, hj, hloads, hno⟩ := (ignition hfresh hheld hsecond).1
  refine ⟨j, ?_, hj, hloads⟩
  obtain ⟨event, hevent, -, hfiring⟩ := hfirst
  obtain ⟨event', hevent', hidle, -⟩ := hsecond
  -- the first burn has ended before the second starts, and it was loaded after that
  rw [← stateAt_succ hevent] at hfiring
  obtain ⟨l, hil, hli, hbefore, hafter⟩ := Runs.starts_between
    (p := fun l => (stateAt c lib s events l).state ≠ .firing) (show i + 1 ≤ i' from hlt)
    (not_not.mpr hfiring) hidle
  have hlength : l < events.length := by
    have hlast := (List.getElem?_eq_some_iff.mp hevent').1
    omega
  have hends : HappensAt c lib s events (Ends c lib) l := by
    refine ⟨events[l], List.getElem?_eq_getElem hlength, not_not.mp hbefore, ?_⟩
    rw [← stateAt_succ (List.getElem?_eq_getElem hlength)]
    exact hafter
  by_contra hji
  exact hno l (by omega) hli hends

/-- A burn of a centimetre per second. -/
def oneBurn : List (PropEvent ℚ) :=
  [.tick (literal 1) flightOrbit flightParams,
    .command (.setBurn (some (.float (literal 1 100))) none none none),
    .command (.arm (some (.int 0xA5C3))), .command .execute]

theorem oneBurn_authorised : BurnsAuthorised flightConfig flightLibrary {} oneBurn := by
  refine burns_authorised rfl ?_
  rintro i ⟨event, hevent, rfl, harmed, hcomplete⟩
  obtain ⟨hi, hget⟩ := List.getElem?_eq_some_iff.mp hevent
  have hbound : i < 4 := hi
  have hstatus : ∀ i < 4, (stateAt flightConfig flightLibrary {} oneBurn i).burnStatus ≠ .complete := by
    decide +kernel
  exact hstatus i hbound hcomplete

/-- The burn completes in the next second and is executed again. -/
def oneBurnTwice : List (PropEvent ℚ) :=
  oneBurn ++ [.tick (literal 1) flightOrbit flightParams, .command .execute]

theorem oneBurnTwice_not_authorised :
    ¬ BurnsAuthorised flightConfig flightLibrary {} oneBurnTwice := by
  intro h
  have hignites : ∀ i, (i = 3 ∨ i = 5) →
      HappensAt flightConfig flightLibrary {} oneBurnTwice (Ignites flightConfig flightLibrary) i := by
    rintro i (rfl | rfl)
    · exact ⟨.command .execute, rfl, by decide +kernel, by decide +kernel⟩
    · exact ⟨.command .execute, rfl, by decide +kernel, by decide +kernel⟩
  obtain ⟨j, hlow, hhigh, event, hevent, ⟨dvMS, direction, mode, tStartCuc, rfl⟩, -⟩ :=
    h.once 3 5 (by decide) (hignites 3 (.inl rfl)) (hignites 5 (.inr rfl))
  obtain rfl : j = 4 := by omega
  cases hevent

end Propulsion
