import MissionSim.Propulsion
import MissionSim.Runs

/-!
# The moves of the propulsion model

What commands, ticks and failures can do to the fields that control a burn, as an abstract
machine of a few moves: `perform_move` says once which move an event makes, and every invariant
is a case analysis over moves.

The valve is open exactly while the thruster fires, an armed or firing thruster is not
inhibited, and the state is inhibited exactly while the inhibit is latched, which is from the
second abort until the ground's key clears it.
-/

namespace Propulsion

open Binary32 Python Effects

/-! ### The abstract machine -/

/-- The fields that control a burn. -/
structure Control where
  state : Mode
  fcvOpen : Bool
  inhibitLatched : Bool
  groundInhibit : Bool
  abortCount : Nat
  burnStatus : BurnStatus
  burnLoaded : Bool
  deriving DecidableEq, Repr

/-- What an event can do to them. -/
inductive Move where
  | stay | load | arm | disarm | unpower | abortArmed | fire | complete | abort | inhibitOn
  | inhibitOff | inhibitOnly | clear
  deriving DecidableEq, Repr

/-- The end of a burn by an abort: the second one latches the inhibit. -/
def Control.aborted (c : Control) : Control :=
  let latches := 2 ≤ c.abortCount + 1 ∧ c.inhibitLatched = false
  { c with
    state := if latches then .inhibit else .safed
    fcvOpen := false
    inhibitLatched := if latches then true else c.inhibitLatched
    abortCount := c.abortCount + 1
    burnStatus := .aborted
    burnLoaded := false }

/-- What the ground's inhibit does. -/
def Control.inhibited (c : Control) : Control :=
  match c.state with
  | .firing => { c with groundInhibit := true }.aborted
  | .armed => { c with groundInhibit := true, state := .safed, burnStatus := .idle }
  | .safed | .inhibit => { c with groundInhibit := true }

/-- What the ground's key does. -/
def Control.cleared (c : Control) : Control :=
  if c.state = .inhibit then
    { c with groundInhibit := false, inhibitLatched := false, abortCount := 0, state := .safed,
             burnStatus := .idle }
  else { c with groundInhibit := false, inhibitLatched := false, abortCount := 0 }

/-- What a move does. -/
def Move.apply (c : Control) : Move → Control
  | .stay => c
  | .load => { c with burnLoaded := true }
  | .arm => { c with state := .armed, burnStatus := .armed }
  | .disarm => { c with state := .safed, burnStatus := .idle, fcvOpen := false }
  | .unpower => { c with state := .safed, burnStatus := .idle }
  | .abortArmed => { c with state := .safed, burnStatus := .aborted, burnLoaded := false }
  | .fire => { c with state := .firing, burnStatus := .firing, fcvOpen := true }
  | .complete =>
      { c with state := .armed, burnStatus := .complete, fcvOpen := false, burnLoaded := false }
  | .abort => c.aborted
  | .inhibitOn => c.inhibited
  | .inhibitOff => { c with groundInhibit := false }
  | .inhibitOnly => { c with groundInhibit := true }
  | .clear => c.cleared

/-- When a move can be made. -/
def Move.Enabled (c : Control) : Move → Prop
  | .load => c.state ≠ .firing
  | .arm => c.state = .safed ∧ c.inhibitLatched = false ∧ c.groundInhibit = false ∧
      c.burnLoaded = true
  | .disarm | .unpower | .abortArmed | .fire => c.state = .armed
  | .complete | .abort | .inhibitOnly => c.state = .firing
  | .stay | .inhibitOn | .inhibitOff | .clear => True

/-- The invariant of the machine. -/
structure Control.Sound (c : Control) : Prop where
  valve : c.fcvOpen = true ↔ c.state = .firing
  free : c.state = .armed ∨ c.state = .firing → c.inhibitLatched = false ∧ c.groundInhibit = false
  latched : c.state = .inhibit ↔ c.inhibitLatched = true
  aborts : c.inhibitLatched = true ↔ 2 ≤ c.abortCount

variable {c : Control}

theorem Control.Sound.aborted (h : c.Sound) (hfiring : c.state = .firing) (ground : Bool) :
    ({ c with groundInhibit := ground } : Control).aborted.Sound := by
  have hlatched : c.inhibitLatched = false := (h.free (.inr hfiring)).1
  unfold Control.aborted
  by_cases hsecond : 2 ≤ c.abortCount + 1
  · constructor <;> simp [hlatched, hsecond]
  · constructor <;> simp [hlatched, hsecond]

/-- The inhibit is only noted where there is nothing to stop. -/
theorem Control.inhibited_idle (h : c.state = .safed ∨ c.state = .inhibit) :
    c.inhibited = { c with groundInhibit := true } := by
  unfold Control.inhibited
  split <;> simp_all

theorem Control.Sound.inhibited (h : c.Sound) : c.inhibited.Sound := by
  unfold Control.inhibited
  obtain ⟨hvalve, hfree, hlatched, haborts⟩ := h
  cases hstate : c.state with
  | firing => exact Control.Sound.aborted ⟨hvalve, hfree, hlatched, haborts⟩ hstate true
  | armed =>
      have hfreeLatch := (hfree (.inl hstate)).1
      rw [hstate] at hvalve
      exact ⟨by simpa using hvalve, by simp, by simp [hfreeLatch], haborts⟩
  | safed | inhibit =>
      exact ⟨by simpa [hstate] using hvalve, by simp, by simpa [hstate] using hlatched, haborts⟩

theorem Control.Sound.closed (h : c.Sound) (hidle : c.state ≠ .firing) : c.fcvOpen = false := by
  by_contra hopen
  exact hidle (h.valve.mp (by simpa using hopen))

theorem Control.Sound.cleared (h : c.Sound) : c.cleared.Sound := by
  unfold Control.cleared
  by_cases hstate : c.state = .inhibit
  · have hclosed := h.closed (by simp [hstate])
    rw [if_pos hstate]
    exact ⟨by simp [hclosed], by simp, by simp, by simp⟩
  · rw [if_neg hstate]
    exact ⟨h.valve, fun _ => ⟨rfl, rfl⟩, by simp [hstate], by simp⟩

open Move

/-- Every move keeps the invariant, but for an inhibit whose abort does not go through. -/
theorem Control.Sound.move (h : c.Sound) {move : Move} (henabled : move.Enabled c)
    (hwhole : move ≠ .inhibitOnly) : (move.apply c).Sound := by
  cases move with
  | stay | load => exact ⟨h.valve, h.free, h.latched, h.aborts⟩
  | arm =>
      obtain ⟨hsafed, hfreeLatch, hfreeGround, -⟩ := henabled
      have hclosed := h.closed (by simp [hsafed])
      refine ⟨?_, fun _ => ⟨hfreeLatch, hfreeGround⟩, ?_, h.aborts⟩
      · simp [apply, hclosed]
      · simp [apply, hfreeLatch]
  | disarm =>
      have hfreeLatch := (h.free (.inl henabled)).1
      refine ⟨by simp [apply], by simp [apply], by simp [apply, hfreeLatch], h.aborts⟩
  | unpower | abortArmed =>
      have harmed : c.state = .armed := henabled
      have hfreeLatch := (h.free (.inl harmed)).1
      refine ⟨?_, by simp [apply], by simp [apply, hfreeLatch], h.aborts⟩
      simpa [apply, harmed] using h.valve
  | fire =>
      have hboth := h.free (.inl henabled)
      exact ⟨by simp [apply], fun _ => hboth, by simp [apply, hboth.1], h.aborts⟩
  | complete =>
      have hboth := h.free (.inr henabled)
      exact ⟨by simp [apply], fun _ => hboth, by simp [apply, hboth.1], h.aborts⟩
  | abort =>
      exact h.aborted henabled c.groundInhibit
  | inhibitOn => exact h.inhibited
  | inhibitOff =>
      exact ⟨h.valve, fun hstate => ⟨(h.free hstate).1, rfl⟩, h.latched, h.aborts⟩
  | inhibitOnly => exact absurd rfl hwhole
  | clear => exact h.cleared

/-- Only the key leaves the inhibited state. -/
theorem Move.inhibit_left {move : Move} (henabled : move.Enabled c) (hstate : c.state = .inhibit)
    (hleft : (move.apply c).state ≠ .inhibit) : move = .clear := by
  cases move with
  | clear => rfl
  | stay | load | inhibitOff | inhibitOnly => exact absurd hstate hleft
  | inhibitOn => exact absurd (by simp [apply, Control.inhibited, hstate]) hleft
  | arm => cases hstate.symm.trans henabled.1
  | disarm | unpower | abortArmed | fire | complete
  | abort => cases hstate.symm.trans henabled

/-! ### The model's moves -/

variable {T : Type} (c : Config) (lib : Library T)

def PropState.control (s : PropState T) : Control where
  state := s.state
  fcvOpen := s.fcvOpen
  inhibitLatched := s.inhibitLatched
  groundInhibit := s.groundInhibit
  abortCount := s.abortCount
  burnStatus := s.burnStatus
  burnLoaded := s.burnLoaded

/-- What happens to the model: a command, a tick, a failure, or the engine taking the impulse. -/
inductive PropEvent (T : Type) where
  | command (cmd : PropCommand)
  | tick (dt : FloatValue) (orbitState : OrbitState T) (params : Dict Nat Value)
  | inject (magnitude : FloatValue) (failure : PropFailure)
  | clear (failure : PropFailure)
  | consume

def PropEvent.perform : PropEvent T → PropProgram T (Option Reply)
  | .command cmd => some <$> handleCommand c lib cmd
  | .tick dt orbitState params => (fun _ => none) <$> Propulsion.tick c lib dt orbitState params
  | .inject magnitude failure => (fun _ => none) <$> injectFailure magnitude failure
  | .clear failure => (fun _ => none) <$> clearFailure c failure
  | .consume => (fun _ => none) <$> consumePendingImpulse

/-- The state after an event, also one that raises. -/
def step (s : PropState T) (event : PropEvent T) : PropState T := finalState (event.perform c lib) s

/-- The reply to a command. -/
def reply? (s : PropState T) (event : PropEvent T) : Option Reply :=
  (value? (event.perform c lib) s).join

/-- A burn is loaded by an accepted `set_burn`. -/
def Loads (s : PropState T) (event : PropEvent T) : Prop :=
  (∃ dvMS direction mode tStartCuc,
    event = .command (.setBurn dvMS direction mode tStartCuc)) ∧ reply? c lib s event = some accepted

/-- An accepted `arm`, with no interlock bit set. -/
def Arms (s : PropState T) (event : PropEvent T) : Prop :=
  (∃ armCode, event = .command (.arm armCode)) ∧ reply? c lib s event = some accepted ∧
    interlockMask c true s = 0

/-- An `inhibit_clr` with the right key. -/
def Clears (event : PropEvent T) : Prop :=
  ∃ key, event = .command (.inhibitClr key) ∧ intArg key 0 = .ok c.armCode

/-- The middle of every burn has a date, from which the engine's clock has gone on since. -/
def Dated : Prop := ∀ t elapsed, ∃ mid, lib.before t elapsed = .ok mid

/-- The events that make a move. -/
def Move.By (s : PropState T) (event : PropEvent T) : Move → Prop
  | .load => Loads c lib s event
  | .arm => Arms c lib s event
  | .fire => event = .command .execute
  | .clear => Clears c event
  | .inhibitOnly => ¬ Dated lib
  | _ => True

/-- The control fields move by one of the given moves. -/
def Moved (moves : List Move) (s s' : PropState T) : Prop :=
  ∃ move ∈ moves, move.Enabled s.control ∧ s'.control = move.apply s.control

theorem Moved.of_unchanged {moves : List Move} {s s' : PropState T} (hstay : .stay ∈ moves)
    (h : s'.control = s.control) : Moved moves s s' := ⟨.stay, hstay, trivial, h⟩

variable {moves : List Move}

/-- A move from a state with the same control fields. -/
theorem Moved.after_same {s mid s' : PropState T} (h : Moved moves mid s')
    (hsame : mid.control = s.control) : Moved moves s s' := by
  obtain ⟨move, hmem, henabled, hmove⟩ := h
  rw [hsame] at henabled hmove
  exact ⟨move, hmem, henabled, hmove⟩

variable {s : PropState T}

/-- A burn that completes. -/
theorem completeBurn_moves (orbitState : OrbitState T) (h : s.state = .firing) :
    wp (completeBurn lib orbitState) (fun _ s' => Moved [.complete] s s')
      (fun _ s' => s'.control = s.control) s := by
  unfold completeBurn
  simp only [wp_bind, wp_get, wp_fromExcept, wp_modify]
  exact ⟨fun impulse _ => ⟨.complete, by simp, h, rfl⟩, fun _ _ => trivial⟩

/-- A burn that is aborted. -/
theorem abortBurn_moves (reason : AbortReason) (orbitState : Option (OrbitState T))
    (h : s.state = .firing) :
    wp (abortBurn lib reason orbitState) (fun _ s' => Moved [.abort] s s')
      (fun _ s' => s'.control = s.control) s := by
  unfold abortBurn
  simp only [wp_bind, wp_get, wp_when, wp_fromExcept, wp_modify]
  refine ⟨fun _ => ⟨fun impulse _ => ⟨.abort, by simp, h, ?_⟩, fun _ _ => trivial⟩,
    fun hnot => absurd h hnot⟩
  simp only [apply, Control.aborted, PropState.control]
  split_ifs <;> simp_all

theorem burnSteps_unchanged (theta h : FloatValue) (n : Nat) :
    Keeps (Unchanged PropState.control) (burnSteps (T := T) c lib theta h n) := by
  induction n with
  | zero => exact keeps_pure _
  | succ n ih =>
      refine keeps_bind keeps_get fun s => keeps_bind (keeps_fromExcept _) fun x => ?_
      refine keeps_bind (keeps_modify fun _ => rfl) fun _ => keeps_bind keeps_get fun s' => ?_
      refine keeps_ite (fun _ => keeps_pure _) fun _ => ?_
      exact keeps_ite (fun _ => keeps_pure _) fun _ => ih

open Control

/-- An integration may end the burn. -/
theorem integrateBurn_moves (dt : FloatValue) (orbitState : OrbitState T) (h : s.state = .firing) :
    wp (integrateBurn c lib dt orbitState) (fun _ s' => Moved [.stay, .complete, .abort] s s')
      (fun _ s' => s'.control = s.control) s := by
  unfold integrateBurn
  rw [wp_bind, wp_get]
  cases hcheck : abortCheck s with
  | some reason =>
      refine wp_mono (abortBurn_moves lib reason (some orbitState) h) ?_ fun _ _ hs => hs
      rintro _ s' ⟨move, hmem, hmove⟩
      exact ⟨move, by simp_all, hmove⟩
  | none =>
      simp only [wp_bind, wp_fromExcept]
      refine ⟨fun nSub _ => ?_, fun _ _ => trivial⟩
      refine wp_mono (burnSteps_unchanged c lib _ _ _ s) ?_ fun _ s' hs => hs
      intro done mid hmid
      have hfiring : mid.state = .firing := (congrArg state hmid).trans h
      rw [wp_get, wp_ite]
      refine ⟨fun _ => ?_, fun _ => ?_⟩
      · refine wp_mono (completeBurn_moves lib orbitState hfiring) ?_ fun _ s' hs => hs.trans hmid
        intro _ s' hs
        obtain ⟨move, hmem, hmove⟩ := hs.after_same hmid
        exact ⟨move, by simp_all, hmove⟩
      · rw [wp_when]
        refine ⟨fun _ => ?_, fun _ => Moved.of_unchanged (by simp) hmid⟩
        refine wp_mono (abortBurn_moves lib .lowP _ hfiring) ?_ fun _ s' hs => hs.trans hmid
        intro _ s' hs
        obtain ⟨move, hmem, hmove⟩ := hs.after_same hmid
        exact ⟨move, by simp_all, hmove⟩

theorem readParams_unchanged (params : Dict Nat Value) :
    Keeps (Unchanged PropState.control) (readParams (T := T) params) := by
  refine keeps_bind keeps_get fun s => keeps_bind (keeps_store fun _ _ => rfl) fun _ => ?_
  refine keeps_bind (keeps_store fun _ _ => rfl) fun _ => ?_
  refine keeps_bind (keeps_store fun _ _ => rfl) fun _ => ?_
  exact keeps_bind (keeps_store fun _ _ => rfl) fun _ => keeps_store fun _ _ => rfl

theorem leak_control (dt : FloatValue) (s : PropState T) : (s.leak dt).control = s.control := by
  unfold PropState.leak
  dsimp only
  split_ifs <;> rfl

/-- The loss of power ends a burn or an armed state. -/
theorem powerLoss_moves (orbitState : OrbitState T) (s : PropState T) :
    wp (powerLoss lib orbitState) (fun _ s' => Moved [.stay, .unpower, .abort] s s' ∧ s'.state ≠ .firing)
      (fun _ s' => s'.control = s.control) s := by
  unfold powerLoss
  rw [wp_bind, wp_get, wp_ite]
  refine ⟨fun hfiring => ?_, fun hnot => ?_⟩
  · refine wp_mono (abortBurn_moves lib .lowSoc _ hfiring) ?_ fun _ _ hs => hs
    rintro _ s' ⟨move, hmem, henabled, hmove⟩
    obtain rfl := List.mem_singleton.mp hmem
    refine ⟨⟨.abort, by simp, henabled, hmove⟩, ?_⟩
    have hstate : s'.state = (Control.aborted s.control).state := congrArg state hmove
    rw [hstate, Control.aborted]
    dsimp only
    split_ifs <;> decide
  · simp only [wp_when, wp_modify]
    exact ⟨fun harmed => ⟨⟨.unpower, by simp, harmed, rfl⟩, by simp⟩,
      fun _ => ⟨Moved.of_unchanged (by simp) rfl, hnot⟩⟩

/-- What a tick can do. -/
def tickMoves : List Move := [.stay, .unpower, .complete, .abort]

theorem Moved.mono {moves moves' : List Move} {s s' : PropState T} (h : Moved moves s s')
    (hsub : moves ⊆ moves') : Moved moves' s s' := by
  obtain ⟨move, hmem, hmove⟩ := h
  exact ⟨move, hsub hmem, hmove⟩

/-- What stands between two states with the control fields of a third. -/
theorem Moved.same_after {s mid s' : PropState T} (h : Moved moves s mid)
    (hsame : s'.control = mid.control) : Moved moves s s' := by
  obtain ⟨move, hmem, henabled, hmove⟩ := h
  exact ⟨move, hmem, henabled, hsame.trans hmove⟩

/-- The end of a tick: the burn is integrated, and the rest leaves the control fields alone. -/
theorem tickEnd_moves (dt : FloatValue) (orbitState : OrbitState T) (s : PropState T) :
    wp (do
        when (s.state = .firing) (integrateBurn c lib dt orbitState)
        let s ← get
        store (tankPressure c s.mPropKg) fun p s => { s with tankPBar := p }
        modify fun s => { s with armInhibitMask := interlockMask c (s.state = .safed) s })
      (fun _ s' => Moved [.stay, .complete, .abort] s s')
      (fun _ s' => Moved [.stay, .complete, .abort] s s') s := by
  have hrest : ∀ mid : PropState T, Moved [.stay, .complete, .abort] s mid →
      wp (do
        let s ← get
        store (tankPressure c s.mPropKg) fun p s => { s with tankPBar := p }
        modify fun s => { s with armInhibitMask := interlockMask c (s.state = .safed) s })
      (fun _ s' => Moved [.stay, .complete, .abort] s s')
      (fun _ s' => Moved [.stay, .complete, .abort] s s') mid := by
    intro mid hmid
    simp only [wp_bind, wp_get, wp_store, wp_modify]
    exact ⟨fun _ _ => hmid.same_after rfl, fun _ _ => hmid⟩
  rw [wp_bind, wp_when]
  refine ⟨fun hfiring => ?_, fun _ => hrest s (Moved.of_unchanged (by simp) rfl)⟩
  refine wp_mono (integrateBurn_moves c lib dt orbitState hfiring) (fun _ mid hmid => hrest mid hmid) ?_
  exact fun _ s' hs => Moved.of_unchanged (by simp) hs

theorem tick_moves (dt : FloatValue) (orbitState : OrbitState T) (params : Dict Nat Value)
    (s : PropState T) :
    wp (tick c lib dt orbitState params) (fun _ s' => Moved tickMoves s s')
      (fun _ s' => Moved tickMoves s s') s := by
  unfold tick
  rw [wp_bind, wp_modify, wp_bind]
  have hstart : ∀ s₁ : PropState T, s₁.control = s.control →
      wp (readParams params) (fun _ s' => s'.control = s.control) (fun _ s' => s'.control = s.control)
        s₁ := fun s₁ h₁ =>
    wp_mono (readParams_unchanged params s₁) (fun _ _ hs => hs.trans h₁) fun _ _ hs => hs.trans h₁
  refine wp_mono (hstart _ rfl) ?_ fun _ s' hs => Moved.of_unchanged (by simp [tickMoves]) hs
  intro _ s₁ h₁
  rw [wp_bind, wp_when]
  refine ⟨fun _ => ?_, fun _ => ?_⟩
  · refine wp_mono (powerLoss_moves lib orbitState s₁) ?_
      fun _ s' hs => Moved.of_unchanged (by simp [tickMoves]) (hs.trans h₁)
    rintro _ s₂ ⟨hmoved, hnot⟩
    have hmoved' : Moved tickMoves s s₂ :=
      (hmoved.after_same h₁).mono (by simp [tickMoves])
    have hleak : (s₂.leak dt).state ≠ .firing := by
      have hsame := congrArg state (leak_control dt s₂)
      exact fun h => hnot (hsame.symm.trans h)
    simp only [wp_bind, wp_when, wp_get, wp_store, wp_modify]
    refine ⟨fun h => absurd h hleak, fun _ => ⟨fun _ _ => ?_, fun _ _ => ?_⟩⟩
    · exact hmoved'.same_after (leak_control dt s₂)
    · exact hmoved'.same_after (leak_control dt s₂)
  · have hsame := (leak_control dt s₁).trans h₁
    refine wp_mono (tickEnd_moves c lib dt orbitState (s₁.leak dt)) ?_ ?_
    · exact fun _ s' hs => (hs.after_same hsame).mono (by simp [tickMoves])
    · exact fun _ s' hs => (hs.after_same hsame).mono (by simp [tickMoves])

/-! ### Commands -/

/-- A mask without an interlock of the table is zero. -/
theorem interlockMask_eq_zero {requireBurn : Bool}
    (h : lowestInterlock (interlockMask c requireBurn s) = none) :
    interlockMask c requireBurn s = 0 := by
  have hbits : ∀ b₀ b₁ b₂ b₃ b₄ b₅ b₆ b₇ b₈ b₉ b₁₀ : Bool,
      lowestInterlock (flag b₀ 0 ||| flag b₁ 1 ||| flag b₂ 2 ||| flag b₃ 3 ||| flag b₄ 4 |||
        flag b₅ 5 ||| flag b₆ 6 ||| flag b₇ 7 ||| flag b₈ 8 ||| flag b₉ 9 ||| flag b₁₀ 10) = none →
      flag b₀ 0 ||| flag b₁ 1 ||| flag b₂ 2 ||| flag b₃ 3 ||| flag b₄ 4 ||| flag b₅ 5 |||
        flag b₆ 6 ||| flag b₇ 7 ||| flag b₈ 8 ||| flag b₉ 9 ||| flag b₁₀ 10 = 0 := by
    decide +kernel
  exact hbits _ _ _ _ _ _ _ _ _ _ _ h

/-- Arming needs a loaded burn. -/
theorem interlockMask_loaded (h : interlockMask c true s = 0) : s.burnLoaded = true := by
  have hlast := (Nat.or_eq_zero_iff.mp h).2
  by_contra hnot
  simp [flag, hnot] at hlast

/-- A command that stops a burn, or else an armed thruster. -/
theorem wp_stops {f : PropState T → PropState T} {P Q : PropState T → Prop}
    (hfires : s.state = .firing → wp (abortBurn lib .ground none) (fun _ => P) (fun _ => Q) s)
    (harmed : s.state = .armed → P (f s)) (hidle : P s) :
    wp (do
        let s ← get
        if s.state = .firing then abortBurn lib .ground none
        else when (s.state = .armed) (modify f)
        pure accepted) (fun _ => P) (fun _ => Q) s := by
  rw [wp_bind, wp_get, wp_ite, wp_bind, wp_bind, wp_when]
  exact ⟨hfires, fun _ => ⟨harmed, fun _ => hidle⟩⟩

theorem setBurn_moves (dvMS direction mode tStartCuc : Option Value) (s : PropState T) :
    wp (setBurn c lib dvMS direction mode tStartCuc)
      (fun r s' => s'.control = s.control ∨ r = accepted ∧ Moved [.load] s s')
      (fun _ s' => s'.control = s.control) s := by
  unfold setBurn
  rw [wp_bind, wp_fromExcept]
  refine ⟨fun dv _ => ?_, fun _ _ => rfl⟩
  rw [wp_ite]
  refine ⟨fun _ => .inl rfl, fun _ => ?_⟩
  rw [wp_bind, wp_get, wp_bind, wp_fromExcept]
  refine ⟨fun remaining _ => ?_, fun _ _ => rfl⟩
  rw [wp_ite, wp_ite]
  refine ⟨fun _ => .inl rfl, fun _ => ⟨fun _ => .inl rfl, fun hfiring => ?_⟩⟩
  simp only [wp_bind, wp_get, wp_store, wp_modify, wp_pure]
  refine ⟨fun _ _ => ⟨fun _ _ => ⟨fun _ _ => ⟨fun _ _ => ?_, ?_⟩, ?_⟩, ?_⟩, ?_⟩
  · exact .inr ⟨trivial, .load, by simp, hfiring, rfl⟩
  all_goals exact fun _ _ => rfl

theorem arm_moves (armCode : Option Value) (s : PropState T) :
    wp (arm c armCode)
      (fun r s' => s'.control = s.control ∨
        (r = accepted ∧ interlockMask c true s = 0) ∧ Moved [.arm] s s')
      (fun _ s' => s'.control = s.control) s := by
  unfold arm
  rw [wp_bind, wp_fromExcept]
  refine ⟨fun code _ => ?_, fun _ _ => rfl⟩
  rw [wp_bind, wp_get, wp_ite, wp_ite, wp_ite]
  refine ⟨fun _ => .inl rfl, fun _ => ⟨fun _ => .inl rfl, fun hfree => ⟨fun _ => .inl rfl,
    fun hsafed => ?_⟩⟩⟩
  rw [wp_bind, wp_modify]
  cases hmask : lowestInterlock (interlockMask c true s) with
  | some errorCode => exact .inl rfl
  | none =>
      have hzero := interlockMask_eq_zero c hmask
      simp only [wp_bind, wp_modify, wp_pure]
      refine .inr ⟨⟨trivial, hzero⟩, .arm, by simp, ?_, rfl⟩
      simp only [not_or, Bool.not_eq_true] at hfree
      exact ⟨not_not.mp hsafed, hfree.2.1, hfree.2.2, interlockMask_loaded c hzero⟩

theorem disarm_moves (s : PropState T) :
    wp (disarm lib) (fun _ s' => Moved [.stay, .disarm, .abort] s s')
      (fun _ s' => s'.control = s.control) s := by
  refine wp_stops lib (fun hfiring => ?_) (fun harmed => ⟨.disarm, by simp, harmed, rfl⟩)
    (Moved.of_unchanged (by simp) rfl)
  exact wp_mono (abortBurn_moves lib .ground none hfiring) (fun _ _ hs => hs.mono (by simp))
    fun _ _ hs => hs

theorem execute_moves (s : PropState T) :
    wp execute (fun _ s' => Moved [.stay, .fire] s s') (fun _ s' => s'.control = s.control) s := by
  unfold execute
  rw [wp_bind, wp_get, wp_ite]
  refine ⟨fun _ => Moved.of_unchanged (by simp) rfl, fun harmed => ?_⟩
  exact ⟨.fire, by simp, not_not.mp harmed, rfl⟩

theorem abort_moves (s : PropState T) :
    wp (abort lib) (fun _ s' => Moved [.stay, .abortArmed, .abort] s s')
      (fun _ s' => s'.control = s.control) s := by
  refine wp_stops lib (fun hfiring => ?_) (fun harmed => ⟨.abortArmed, by simp, harmed, rfl⟩)
    (Moved.of_unchanged (by simp) rfl)
  exact wp_mono (abortBurn_moves lib .ground none hfiring) (fun _ _ hs => hs.mono (by simp))
    fun _ _ hs => hs

theorem burnImpulse_dated (hdated : Dated lib) (orbitState : Option (OrbitState T))
    (s : PropState T) : ∃ impulse, burnImpulse lib orbitState s = .ok impulse := by
  have hmid : ∃ mid, utcMid lib orbitState s = .ok mid := by
    cases orbitState with
    | none => exact ⟨none, rfl⟩
    | some o =>
        obtain ⟨mid, hmid⟩ := hdated o.utc (s.burnElapsedS.div (literal 2))
        have hvalue : utcMid lib (some o) s =
            some <$> lib.before o.utc (s.burnElapsedS.div (literal 2)) := rfl
        refine ⟨some mid, ?_⟩
        rw [hvalue, hmid]
        rfl
  obtain ⟨mid, hmid⟩ := hmid
  unfold burnImpulse
  rw [hmid]
  split_ifs
  · exact ⟨none, rfl⟩
  · exact ⟨none, rfl⟩
  · exact ⟨_, rfl⟩

/-- An abort goes through, where the middle of the burn has a date. -/
theorem abortBurn_dated (hdated : Dated lib) (reason : AbortReason)
    (orbitState : Option (OrbitState T)) (s : PropState T) :
    wp (abortBurn lib reason orbitState) (fun _ _ => True) (fun _ _ => False) s := by
  unfold abortBurn
  simp only [wp_bind, wp_get, wp_when, wp_fromExcept, wp_modify]
  obtain ⟨impulse, himpulse⟩ := burnImpulse_dated lib hdated (orbitState.or s.lastOrbitState) s
  rw [himpulse]
  simp

theorem inhibitSet_moves (arg : Option Value) (s : PropState T) :
    wp (inhibitSet lib arg) (fun _ s' => Moved [.inhibitOn, .inhibitOff] s s')
      (fun _ s' => ¬ Dated lib ∧ Moved [.inhibitOnly] s s') s := by
  unfold inhibitSet
  rw [wp_bind, wp_modify]
  cases (arg.getD (.int 1)).truthy with
  | false =>
      simp only [Bool.false_eq_true, false_and, if_false, wp_bind, wp_get, wp_when, wp_pure]
      constructor
      · intro harmed
        cases harmed
      · intro _
        exact ⟨.inhibitOff, by simp, trivial, rfl⟩
  | true =>
      have hcontrol : ({ s with groundInhibit := true } : PropState T).control =
          { s.control with groundInhibit := true } := rfl
      generalize ({ s with groundInhibit := true } : PropState T) = mid at hcontrol
      have hstate : mid.state = s.state := congrArg state hcontrol
      rw [wp_bind, wp_get]
      by_cases hfiring : mid.state = .firing
      · have hwhole : ∀ s', Moved [.abort] mid s' → Moved [.inhibitOn, .inhibitOff] s s' := by
          rintro s' ⟨move, hmem, -, hmove⟩
          obtain rfl := List.mem_singleton.mp hmem
          refine ⟨.inhibitOn, by simp, trivial, hmove.trans ?_⟩
          rw [hcontrol]
          simp [apply, Control.inhibited, PropState.control, ← hstate, hfiring]
        simp only [hfiring, and_self, if_true, wp_bind, wp_pure]
        by_cases hdated : Dated lib
        · refine wp_mono (wp_and (abortBurn_moves lib .ground none hfiring)
            (abortBurn_dated lib hdated .ground none mid)) ?_ ?_
          · rintro _ s' ⟨hmoved, -⟩
            exact hwhole s' hmoved
          · rintro _ s' ⟨-, hfalse⟩
            exact hfalse.elim
        · refine wp_mono (abortBurn_moves lib .ground none hfiring) ?_ ?_
          · exact fun _ s' hmoved => hwhole s' hmoved
          · intro _ s' hs
            exact ⟨hdated, .inhibitOnly, by simp, hstate.symm.trans hfiring, hs.trans hcontrol⟩
      · simp only [hfiring, and_false, if_false, wp_bind, wp_when, wp_modify, wp_pure]
        refine ⟨fun harmed => ?_, fun hnot => ?_⟩
        · refine ⟨.inhibitOn, by simp, trivial, ?_⟩
          have hsame : ({ mid with state := .safed, burnStatus := .idle } : PropState T).control =
              { mid.control with state := .safed, burnStatus := .idle } := rfl
          rw [hsame, hcontrol]
          simp [apply, Control.inhibited, PropState.control, ← hstate, harmed.2]
        · refine ⟨.inhibitOn, by simp, trivial, hcontrol.trans ?_⟩
          have harmed : mid.state ≠ .armed := fun h => hnot ⟨trivial, h⟩
          have hother : s.control.state = .safed ∨ s.control.state = .inhibit := by
            show s.state = .safed ∨ s.state = .inhibit
            cases hs : s.state <;> simp_all
          exact (inhibited_idle hother).symm

theorem inhibitClr_moves (arg : Option Value) (s : PropState T) :
    wp (inhibitClr c arg)
      (fun _ s' => s'.control = s.control ∨ intArg arg 0 = .ok c.armCode ∧ Moved [.clear] s s')
      (fun _ s' => s'.control = s.control) s := by
  unfold inhibitClr
  rw [wp_bind, wp_fromExcept]
  refine ⟨fun key hkey => ?_, fun _ _ => rfl⟩
  rw [wp_ite]
  refine ⟨fun _ => .inl rfl, fun hright => ?_⟩
  obtain rfl : key = c.armCode := not_not.mp hright
  simp only [wp_bind, wp_modify, wp_get, wp_when, wp_pure]
  refine ⟨fun hinhibit => .inr ⟨hkey, .clear, by simp, trivial, ?_⟩,
    fun hnot => .inr ⟨hkey, .clear, by simp, trivial, ?_⟩⟩
  · simp [apply, Control.cleared, PropState.control, hinhibit]
  · simp [apply, Control.cleared, PropState.control, hnot]

theorem iso_unchanged (want : Valve) (branch : Option Value) :
    Keeps (Unchanged PropState.control) (iso (T := T) want branch) := by
  refine keeps_bind (keeps_fromExcept _) fun n => keeps_bind keeps_get fun s => ?_
  exact keeps_bind (keeps_modify fun _ => rfl) fun _ => keeps_pure _

theorem setLimits_unchanged (attErrMaxDeg pMinBar catbedMaxC tBurnMaxS : Option Value) :
    Keeps (Unchanged PropState.control)
      (setLimits (T := T) attErrMaxDeg pMinBar catbedMaxC tBurnMaxS) := by
  refine keeps_bind keeps_get fun s => keeps_bind (keeps_store fun _ _ => rfl) fun _ => ?_
  refine keeps_bind (keeps_store fun _ _ => rfl) fun _ => ?_
  refine keeps_bind (keeps_store fun _ _ => rfl) fun _ => ?_
  exact keeps_bind (keeps_store fun _ _ => rfl) fun _ => keeps_pure _

theorem injectFailure_unchanged (magnitude : FloatValue) (failure : PropFailure) :
    Keeps (Unchanged PropState.control) (injectFailure (T := T) magnitude failure) := by
  cases failure with
  | leak rateMgS => exact keeps_store fun _ _ => rfl
  | latchStuckOpen branch rateMgS =>
      refine keeps_bind (keeps_fromExcept _) fun n => ?_
      refine keeps_bind (keeps_modify fun s => ?_) fun _ => keeps_store fun _ _ => rfl
      unfold PropState.setLatch
      split_ifs <;> rfl
  | thrustDegraded | tankOverpressure => exact keeps_modify fun _ => rfl
  | unknown => exact keeps_pure _

theorem clearFailure_unchanged (failure : PropFailure) :
    Keeps (Unchanged PropState.control) (clearFailure (T := T) c failure) := by
  cases failure with
  | leak | thrustDegraded => exact keeps_modify fun _ => rfl
  | latchStuckOpen branch rateMgS =>
      refine keeps_bind (keeps_fromExcept _) fun n => ?_
      refine keeps_bind (keeps_modify fun s => ?_) fun _ => keeps_modify fun _ => rfl
      unfold PropState.setLatch
      split_ifs <;> rfl
  | tankOverpressure => exact keeps_bind keeps_get fun _ => keeps_store fun _ _ => rfl
  | unknown => exact keeps_pure _

theorem consume_unchanged : Keeps (Unchanged PropState.control) (consumePendingImpulse (T := T)) := by
  intro s
  unfold consumePendingImpulse
  rw [wp_bind, wp_get]
  cases s.pendingImpulse with
  | none | some => exact rfl

/-! ### Events -/

theorem step_command (s : PropState T) (cmd : PropCommand) :
    step c lib s (.command cmd) = finalState (handleCommand c lib cmd) s := finalState_map _ _ s

theorem reply?_command (s : PropState T) (cmd : PropCommand) :
    reply? c lib s (.command cmd) = value? (handleCommand c lib cmd) s := by
  unfold reply? PropEvent.perform
  rw [value?_map]
  cases value? (handleCommand c lib cmd) s <;> rfl

/-- The move of an event. -/
def MakesMove (s : PropState T) (event : PropEvent T) : Prop :=
  ∃ move : Move, move.Enabled s.control ∧ move.By c lib s event ∧
    (step c lib s event).control = move.apply s.control

variable {c lib} {event : PropEvent T}

theorem MakesMove.of_unchanged {s : PropState T} (h : (step c lib s event).control = s.control) :
    MakesMove c lib s event :=
  ⟨.stay, trivial, trivial, h⟩

/-- A command whose moves are not tied to a reply. -/
theorem MakesMove.of_moved (h : Moved moves s (step c lib s event))
    (hby : ∀ move ∈ moves, move.By c lib s event) : MakesMove c lib s event := by
  obtain ⟨move, hmem, henabled, hmove⟩ := h
  exact ⟨move, henabled, hby move hmem, hmove⟩

/-- A command that tells by its reply whether it makes its move. -/
theorem MakesMove.of_replied {cmd : PropCommand} {move : Move} {P : Reply → Prop}
    (hwp : wp (handleCommand c lib cmd)
      (fun r s' => s'.control = s.control ∨ P r ∧ Moved [move] s s')
      (fun _ s' => s'.control = s.control) s)
    (hby : ∀ r, value? (handleCommand c lib cmd) s = some r → P r →
      move.By c lib s (.command cmd)) : MakesMove c lib s (.command cmd) := by
  have hstep := step_command c lib s cmd
  rcases wp_outcome hwp with ⟨r, hr, hcontrol | ⟨hp, hmoved⟩⟩ | ⟨-, e, hcontrol⟩
  · exact .of_unchanged (by rw [hstep]; exact hcontrol)
  · refine .of_moved (by rw [hstep]; exact hmoved) fun move' hmem => ?_
    obtain rfl := List.mem_singleton.mp hmem
    exact hby r hr hp
  · exact .of_unchanged (by rw [hstep]; exact hcontrol)

/-- **Every event makes one move.** -/
theorem perform_move (s : PropState T) (event : PropEvent T) : MakesMove c lib s event := by
  cases event with
  | tick dt orbitState params =>
      have hmoved := wp_state.mp (tick_moves c lib dt orbitState params s)
      have hstep : step c lib s (.tick dt orbitState params) =
          finalState (tick c lib dt orbitState params) s := finalState_map _ _ s
      rw [← hstep] at hmoved
      refine .of_moved hmoved ?_
      simp [tickMoves, Move.By]
  | inject magnitude failure =>
      exact .of_unchanged ((congrArg PropState.control (finalState_map _ _ s)).trans
        ((injectFailure_unchanged magnitude failure).final s))
  | clear failure =>
      exact .of_unchanged ((congrArg PropState.control (finalState_map _ _ s)).trans
        ((clearFailure_unchanged c failure).final s))
  | consume =>
      exact .of_unchanged ((congrArg PropState.control (finalState_map _ _ s)).trans
        (consume_unchanged.final s))
  | command cmd =>
      have hstep := step_command c lib s cmd
      have hreply := reply?_command c lib s cmd
      -- the commands whose moves are not tied to a reply
      have hmoves : ∀ moves : List Move, .stay ∈ moves →
          (∀ move ∈ moves, move.By c lib s (.command cmd)) →
          wp (handleCommand c lib cmd) (fun _ s' => Moved moves s s')
            (fun _ s' => s'.control = s.control) s → MakesMove c lib s (.command cmd) := by
        intro moves hstay hby hwp
        refine .of_moved ?_ hby
        rw [hstep]
        exact wp_state.mp (wp_mono hwp (fun _ _ h => h) fun _ _ h => Moved.of_unchanged hstay h)
      have hsame : Keeps (Unchanged PropState.control) (handleCommand c lib cmd) →
          MakesMove c lib s (.command cmd) := by
        intro hkeeps
        refine .of_unchanged ?_
        rw [hstep]
        exact hkeeps.final s
      cases cmd with
      | setBurn dvMS direction mode tStartCuc =>
          refine .of_replied (setBurn_moves c lib dvMS direction mode tStartCuc s) ?_
          rintro _ hr rfl
          exact ⟨⟨dvMS, direction, mode, tStartCuc, rfl⟩, hreply.trans hr⟩
      | arm armCode =>
          refine .of_replied (arm_moves c armCode s) ?_
          rintro _ hr ⟨rfl, hzero⟩
          exact ⟨⟨armCode, rfl⟩, hreply.trans hr, hzero⟩
      | disarm => exact hmoves _ (by simp) (by simp [Move.By]) (disarm_moves lib s)
      | execute => exact hmoves _ (by simp) (by simp [Move.By]) (execute_moves s)
      | abort => exact hmoves _ (by simp) (by simp [Move.By]) (abort_moves lib s)
      | isoOpen branch => exact hsame (iso_unchanged .opened branch)
      | isoClose branch => exact hsame (iso_unchanged .closed branch)
      | setLimits attErrMaxDeg pMinBar catbedMaxC tBurnMaxS =>
          exact hsame (setLimits_unchanged attErrMaxDeg pMinBar catbedMaxC tBurnMaxS)
      | inhibitSet on =>
          rcases wp_outcome (inhibitSet_moves lib on s) with ⟨r, -, hmoved⟩ | ⟨-, e, hdated, hmoved⟩
          · exact .of_moved (by rw [hstep]; exact hmoved) (by simp [Move.By])
          · exact .of_moved (by rw [hstep]; exact hmoved) (by simp [Move.By, hdated])
      | inhibitClr key =>
          exact .of_replied (inhibitClr_moves c key s) fun _ _ hkey => ⟨key, rfl, hkey⟩
      | getStatus | unknown => exact hsame (keeps_pure _)

/-! ### The invariant of the model -/

/-- The control fields of a new model. -/
def Control.fresh : Control where
  state := .safed
  fcvOpen := false
  inhibitLatched := false
  groundInhibit := false
  abortCount := 0
  burnStatus := .idle
  burnLoaded := false

theorem Control.fresh_sound : fresh.Sound := by
  constructor <;> simp [fresh]

variable (c lib)

/-- A burn that is firing is aborted. -/
def Aborts (s : PropState T) (event : PropEvent T) : Prop :=
  s.state = .firing ∧ ((step c lib s event).state = .safed ∨ (step c lib s event).state = .inhibit)

instance (s : PropState T) (event : PropEvent T) : Decidable (Aborts c lib s event) :=
  inferInstanceAs (Decidable (_ ∧ _))

/-- Whether an event is an `inhibit_clr` with the right key. -/
def isKey : PropEvent T → Bool
  | .command (.inhibitClr key) => intArg key 0 = .ok c.armCode
  | _ => false

/-- The state, and the count of aborts since the ground's key was last used. -/
def tally (counted : PropState T × Nat) (event : PropEvent T) : PropState T × Nat :=
  (step c lib counted.1 event,
    if isKey c event then 0
    else if Aborts c lib counted.1 event then counted.2 + 1
    else counted.2)

/-- The aborts of a run since the ground's key was last used. -/
def abortsSinceKey (s : PropState T) (events : List (PropEvent T)) : Nat :=
  (Runs.after (tally c lib) (s, 0) events).2

variable {c lib}

theorem isKey_iff : isKey c event = true ↔ Clears c event := by
  constructor
  · intro h
    unfold isKey at h
    split at h
    · rename_i key
      exact ⟨key, rfl, of_decide_eq_true h⟩
    · cases h
  · rintro ⟨key, rfl, hkey⟩
    exact decide_eq_true hkey

theorem tally_fst (s : PropState T) (n : Nat) (events : List (PropEvent T)) :
    (Runs.after (tally c lib) (s, n) events).1 = Runs.after (step c lib) s events := by
  induction events generalizing s n with
  | nil => rfl
  | cons event rest ih => exact ih _ _

/-- A key clears, and nothing else than the key does. -/
theorem inhibitClr_clears (h : Clears c event) :
    (step c lib s event).control = clear.apply s.control := by
  obtain ⟨key, rfl, hkey⟩ := h
  rw [step_command]
  have hwp : wp (inhibitClr c key) (fun _ s' => s'.control = clear.apply s.control)
      (fun _ s' => s'.control = clear.apply s.control) s := by
    unfold inhibitClr
    simp only [wp_bind, wp_fromExcept, hkey, Except.ok.injEq, forall_eq', reduceCtorEq,
      false_imp_iff, implies_true, and_true, ne_eq, not_true_eq_false, if_false, wp_modify, wp_get,
      wp_when, wp_pure]
    refine ⟨fun hinhibit => ?_, fun hnot => ?_⟩
    · simp [apply, Control.cleared, PropState.control, hinhibit]
    · simp [apply, Control.cleared, PropState.control, hnot]
  exact wp_state.mp hwp

/-- A move counts an abort exactly when it ends a burn without completing it. -/
theorem Move.abortCount {c : Control} {move : Move} (henabled : move.Enabled c)
    (hkey : move ≠ .clear) : (move.apply c).abortCount =
      if c.state = .firing ∧ ((move.apply c).state = .safed ∨ (move.apply c).state = .inhibit) then
        c.abortCount + 1
      else c.abortCount := by
  cases move with
  | clear => exact absurd rfl hkey
  | stay | load | inhibitOff | inhibitOnly =>
      refine (if_neg ?_).symm
      rintro ⟨hfiring, hstate | hstate⟩
      · cases hfiring.symm.trans hstate
      · cases hfiring.symm.trans hstate
  | arm =>
      refine (if_neg ?_).symm
      rintro ⟨hfiring, -⟩
      cases hfiring.symm.trans henabled.1
  | disarm | unpower | abortArmed | fire =>
      refine (if_neg ?_).symm
      rintro ⟨hfiring, -⟩
      cases hfiring.symm.trans henabled
  | complete => simp [apply]
  | abort =>
      refine (if_pos ⟨henabled, ?_⟩).symm
      simp only [apply, Control.aborted]
      split_ifs <;> simp
  | inhibitOn =>
      unfold apply Control.inhibited
      cases hstate : c.state with
      | firing =>
          refine (if_pos ⟨rfl, ?_⟩).symm
          simp only [Control.aborted]
          split_ifs <;> simp
      | safed | armed | inhibit => simp

/-- The invariant of a counted run. -/
def Counted (counted : PropState T × Nat) : Prop :=
  counted.1.control.Sound ∧ counted.2 = counted.1.abortCount

theorem Counted.step (hdated : Dated lib) (counted : PropState T × Nat) (event : PropEvent T)
    (h : Counted counted) : Counted (tally c lib counted event) := by
  obtain ⟨s, n⟩ := counted
  obtain ⟨hsound, hn⟩ := h
  obtain rfl : n = s.abortCount := hn
  obtain ⟨move, henabled, hby, hmove⟩ : MakesMove c lib s event := perform_move s event
  have hwhole : move ≠ .inhibitOnly := by
    rintro rfl
    exact hby hdated
  refine ⟨?_, ?_⟩
  · show (Propulsion.step c lib s event).control.Sound
    rw [hmove]
    exact hsound.move henabled hwhole
  · show (if isKey c event then 0 else _) = (Propulsion.step c lib s event).control.abortCount
    by_cases hkey : isKey c event = true
    · rw [if_pos hkey, inhibitClr_clears (isKey_iff.mp hkey)]
      show 0 = (Control.cleared s.control).abortCount
      unfold Control.cleared
      split_ifs <;> rfl
    · rw [if_neg hkey, hmove, abortCount henabled ?_, ← hmove]
      · rfl
      · rintro rfl
        exact hkey (isKey_iff.mpr hby)

theorem flightLibrary_dated : Dated flightLibrary := fun _ _ => ⟨_, rfl⟩

/-- The inhibit is set and cleared by the key. -/
def inhibitedAndCleared : List (PropEvent ℚ) :=
  [.command (.inhibitSet none), .command (.inhibitClr (some (.int 0xA5C3)))]

end Propulsion
