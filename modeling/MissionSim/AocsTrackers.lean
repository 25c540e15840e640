import MissionSim.AocsAnswers
import MissionSim.AocsDarkness

/-!
# What a star tracker needs to track

A tracker is meant to track, or to be blind, only when it was powered on by command and has booted
for 60 s since, without being powered off, de-energised or failed in between.

A record of each tracker is kept beside the model: how long it has been booting since it was powered
on, and whether it was de-energised unseen, by switches between two ticks.  The model and the
records agree as long as a blinding meets a tracker that tracks or has failed, a failure is cleared
from a tracker that tracks, and no tracker that is up is de-energised unseen.  A failure that is
injected or cleared at another tracker starts it without a boot.
-/

namespace Aocs

open Binary32 Python Effects Runs

variable {V : Type}

/-! ### Records -/

/-- What is known of a tracker from the commands, the switches, the failures and the ticks. -/
structure BootRecord where
  /-- The time it has been booting since it was powered on, unless it was powered off, de-energised
  or failed since. -/
  booted : Option FloatValue := none
  /-- It was de-energised, and neither called nor powered since. -/
  unseen : Bool := false

/-- A tracker that boots. -/
def Tracker.boots (t : Tracker) : Bool := !t.failed && t.status == .booting

/-- The record of a tracker after a call of a length, with its device on or off. -/
def BootRecord.call (on : Bool) (dt : FloatValue) (t : Tracker) (r : BootRecord) : BootRecord where
  booted :=
    if !on then none else if t.boots then r.booted.map fun time => time.add dt else r.booted
  unseen := false

/-- A tracker is up. -/
def Tracker.up (t : Tracker) : Bool := !t.failed && t.status != .off

/-- A tracker has failed or tracks, or is blind. -/
def Tracker.blindable (t : Tracker) : Bool :=
  t.failed || t.status == .tracking || t.status == .blind

/-- **A tracker is as its record says.** -/
def Booted (t : Tracker) (r : BootRecord) : Prop :=
  t.failed = false →
    match t.status with
    | .off => True
    | .booting => r.booted = some t.bootTimer
    | .tracking | .blind => ∃ time, r.booted = some time ∧ (literal 60).le time = true
    | .failed => False

variable {t : Tracker} {r : BootRecord}

theorem Booted.of_failed (h : t.failed = true) : Booted t r := by
  intro hnot
  rw [h] at hnot
  cases hnot

theorem Booted.of_off (h : t.status = .off) : Booted t r := by
  intro _
  rw [h]
  trivial

/-- A tracker that is up tells its time. -/
theorem Booted.time (h : Booted t r) (hup : t.failed = false)
    (htracks : t.status = .tracking ∨ t.status = .blind) :
    ∃ time, r.booted = some time ∧ (literal 60).le time = true := by
  have hbooted := h hup
  rcases htracks with hstatus | hstatus
  · rw [hstatus] at hbooted
    exact hbooted
  · rw [hstatus] at hbooted
    exact hbooted

theorem status_tick_up (hfailed : t.failed = false) (h : t.status = .tracking ∨ t.status = .blind)
    (dt : FloatValue) (blinded : Bool) (stars : Nat) :
    (t.tick dt blinded stars).status = if blinded then .blind else .tracking := by
  unfold Tracker.tick
  rw [if_neg (by rw [hfailed]; decide)]
  rcases h with hstatus | hstatus
  · rw [hstatus]
    cases blinded <;> rfl
  · rw [hstatus]
    cases blinded <;> rfl

theorem Booted.tick_up (h : Booted t r) (hfailed : t.failed = false)
    (hup : t.status = .tracking ∨ t.status = .blind) (dt : FloatValue) (blinded : Bool)
    (stars : Nat) : Booted (t.tick dt blinded stars) (r.call true dt t) := by
  have hrecord : (r.call true dt t).booted = r.booted := by
    unfold BootRecord.call Tracker.boots
    rcases hup with hstatus | hstatus
    · rw [hfailed, hstatus]
      rfl
    · rw [hfailed, hstatus]
      rfl
  intro _
  rw [hrecord, status_tick_up hfailed hup]
  cases blinded with
  | true | false => exact h.time hfailed hup

/-- **A call keeps a tracker as its record says.** -/
theorem Booted.tick {t : Tracker} {r : BootRecord} (h : Booted t r) (on : Bool) (dt : FloatValue)
    (blinded : Bool) (stars : Nat) :
    Booted ((t.tick dt blinded stars).gate on) (r.call on dt t) := by
  cases on with
  | false => exact Booted.of_off rfl
  | true =>
      show Booted (t.tick dt blinded stars) (r.call true dt t)
      cases hfailed : t.failed with
      | true =>
          refine Booted.of_failed ?_
          unfold Tracker.tick
          rw [if_pos hfailed]
          exact hfailed
      | false =>
          have hbooted := h hfailed
          have hrunning : (t.tick dt blinded stars) = if t.failed then _ else _ := rfl
          cases hstatus : t.status with
          | off =>
              refine Booted.of_off ?_
              rw [hrunning, if_neg (by rw [hfailed]; decide), hstatus]
          | booting =>
              rw [hstatus] at hbooted
              have hrecord : (r.call true dt t).booted = some (t.bootTimer.add dt) := by
                unfold BootRecord.call Tracker.boots
                rw [hfailed, hstatus, hbooted]
                rfl
              intro _
              rw [hrecord, hrunning, if_neg (by rw [hfailed]; decide), hstatus]
              by_cases htimer : (literal 60).le (t.bootTimer.add dt) = true
              · rw [if_pos htimer]
                exact ⟨_, rfl, htimer⟩
              · rw [if_neg htimer]
          | tracking => exact h.tick_up hfailed (.inl hstatus) dt blinded stars
          | blind => exact h.tick_up hfailed (.inr hstatus) dt blinded stars
          | failed =>
              rw [hstatus] at hbooted
              exact absurd hbooted id

/-! ### Runs -/

section Runs

variable (k : AocsConfig)

/-- The record of a tracker after calls. -/
def recordPasses (u : StUnit) : AocsState V → BootRecord → List AocsPass → BootRecord
  | _, r, [] => r
  | s, r, found :: rest =>
      recordPasses u (pass k found s).1
        (r.call (s.deviceOn (.starTracker u)) found.dt (s.tracker u)) rest

/-- The record of a tracker after a tick. -/
def recordTick (u : StUnit) (s : AocsState V) (r : BootRecord) (t : AocsTick) : BootRecord :=
  match t.calls k with
  | .ok calls => recordPasses k u s r calls
  | .error _ => r

/-- The device of a tracker is switched. -/
def BootRecord.switch (on : Bool) (r : BootRecord) : BootRecord :=
  if on then { r with unseen := false } else { booted := none, unseen := true }

/-- A tracker and its record agree, unless it was de-energised unseen. -/
def Agrees (s : AocsState V) (u : StUnit) (r : BootRecord) : Prop :=
  if r.unseen then s.deviceOn (.starTracker u) = false else Booted (s.tracker u) r

/-! ### Ticks -/

theorem tracker_pass (found : AocsPass) (s : AocsState V) (u : StUnit) :
    (pass k found s).1.tracker u =
      ((s.tracker u).tick found.dt (found.blinded u) (randint 8 20 (found.stars u))).gate
        (s.deviceOn (.starTracker u)) :=
  congrFun (congrArg Equipment.tracker (equipment_pass k found s)) u

variable {r : BootRecord} {u : StUnit} {s : AocsState V}

/-- **After a call, a tracker is as its record says.** -/
theorem Agrees.call (h : Agrees s u r) (found : AocsPass) :
    Booted ((pass k found s).1.tracker u)
      (r.call (s.deviceOn (.starTracker u)) found.dt (s.tracker u)) := by
  rw [tracker_pass]
  unfold Agrees at h
  by_cases hunseen : r.unseen = true
  · rw [if_pos hunseen] at h
    rw [h]
    exact Booted.of_off rfl
  · rw [if_neg hunseen] at h
    exact h.tick _ _ _ _

theorem Booted.agrees (h : Booted (s.tracker u) r) (hseen : r.unseen = false) : Agrees s u r := by
  unfold Agrees
  rw [if_neg (by rw [hseen]; decide)]
  exact h

theorem passes_cons (found : AocsPass) (rest : List AocsPass) (s : AocsState V) :
    (passes k s (found :: rest)).1 = (passes k (pass k found s).1 rest).1 := by rw [passes]

theorem recordPasses_cons (u : StUnit) (s : AocsState V) (r : BootRecord) (found : AocsPass)
    (rest : List AocsPass) :
    recordPasses k u s r (found :: rest) =
      recordPasses k u (pass k found s).1
        (r.call (s.deviceOn (.starTracker u)) found.dt (s.tracker u)) rest := by rw [recordPasses]

theorem Agrees.passes (calls : List AocsPass) (h : Agrees s u r) (hne : calls ≠ []) :
    Booted ((passes k s calls).1.tracker u) (recordPasses k u s r calls) ∧
      (recordPasses k u s r calls).unseen = false := by
  induction calls generalizing s r with
  | nil => exact absurd rfl hne
  | cons found rest ih =>
      have hcall := h.call k found
      by_cases hlast : rest = []
      · rw [hlast]
        exact ⟨hcall, rfl⟩
      · exact ih (hcall.agrees rfl) hlast

theorem tick_calls {t : AocsTick} {calls : List AocsPass} (h : t.calls k = .ok calls)
    (s : AocsState V) : tick k t s = passes k s calls := by
  unfold tick
  rw [h]

/-- **After a tick, a tracker is as its record says.** -/
theorem Agrees.tick (h : Agrees s u r) {t : AocsTick} (hends : Completes k t) :
    Booted ((Aocs.tick k t s).1.tracker u) (recordTick k u s r t) ∧
      (recordTick k u s r t).unseen = false := by
  obtain ⟨calls, hcalls⟩ := hends
  obtain ⟨init, last, hsplit⟩ := exists_last k hcalls
  have hne : calls ≠ [] := by
    rw [hsplit]
    exact List.append_ne_nil_of_right_ne_nil init (List.cons_ne_nil last [])
  unfold recordTick
  rw [tick_calls k hcalls, hcalls]
  exact h.passes k calls hne

/-! ### Inputs -/

/-- An input that leaves a tracker and its device leaves the agreement. -/
theorem Agrees.same {s s' : AocsState V} (h : Agrees s u r) (htracker : s'.tracker u = s.tracker u)
    (hdevice : s'.deviceOn = s.deviceOn) : Agrees s' u r := by
  unfold Agrees at h ⊢
  rw [htracker, hdevice]
  exact h

/-- A tracker stays as its record says where it tracks, or is blind, before and after. -/
theorem Agrees.shown {s s' : AocsState V} (h : Agrees s u r) (hdevice : s'.deviceOn = s.deviceOn)
    (hfailed : (s'.tracker u).failed = (s.tracker u).failed)
    (hbefore : (s.tracker u).blindable = true)
    (hnow : (s'.tracker u).status = .tracking ∨ (s'.tracker u).status = .blind) :
    Agrees s' u r := by
  unfold Agrees at h ⊢
  rw [hdevice]
  split
  · rename_i hunseen
    rw [if_pos hunseen] at h
    exact h
  · rename_i hseen
    rw [if_neg hseen] at h
    intro hup
    rw [hfailed] at hup
    have hshown : (s.tracker u).status = .tracking ∨ (s.tracker u).status = .blind := by
      unfold Tracker.blindable at hbefore
      simpa [hup] using hbefore
    have htime := h.time hup hshown
    rcases hnow with hstatus | hstatus
    · rw [hstatus]
      exact htime
    · rw [hstatus]
      exact htime

theorem setTracker_self (s : AocsState V) (u : StUnit) (f : Tracker → Tracker) :
    (s.setTracker u f).tracker u = f (s.tracker u) := Function.update_self ..

theorem setTracker_other (s : AocsState V) {u v : StUnit} (h : v ≠ u) (f : Tracker → Tracker) :
    (s.setTracker u f).tracker v = s.tracker v := Function.update_of_ne h ..

/-- The tracker of a failure is a tracker. -/
def strikes [Object V] (unit : Option V) (default : Int) (u : StUnit) : Prop :=
  (failedUnit unit default).bind StUnit.ofInt = some u

instance [Object V] (unit : Option V) (default : Int) (u : StUnit) :
    Decidable (strikes unit default u) := inferInstanceAs (Decidable (_ = _))

variable [Object V]

/-- The record of a tracker after an input. -/
def recordAfter (s : AocsState V) (u : StUnit) (r : BootRecord) : AocsInput V → BootRecord
  | .command cmd =>
      if poweredUnit cmd s = some u then
        { booted := if cmd.bool "on" true then some (literal 0) else none }
      else r
  | .inject (.stFailure unit) _ => if strikes unit 1 u then { r with booted := none } else r
  | .switch id on => if Device.ofId id = some (.starTracker u) then r.switch on else r
  | .tick t => recordTick k u s r t
  | _ => r

/-- A step of the model with its records. -/
def recordStep (p : AocsState V × (StUnit → BootRecord)) (op : AocsInput V) :
    AocsState V × (StUnit → BootRecord) :=
  (step k p.1 op, fun u => recordAfter k p.1 u (p.2 u) op)

/-- A failure is cleared from a tracker that tracks or is blind, and has not failed. -/
def Tracker.clearable (t : Tracker) : Bool :=
  !t.failed && (t.status == .tracking || t.status == .blind)

/-- **An input that brings a tracker up without a boot.** -/
def Unbooted (p : AocsState V × (StUnit → BootRecord)) : AocsInput V → Prop
  | .inject (.stBlind _ _) _ => (p.1.tracker p.1.stSelected).blindable = false
  | .clear (.stBlind unit _) | .clear (.stFailure unit) =>
      ∃ u, strikes unit p.1.stSelected.number u ∧ (p.1.tracker u).clearable = false
  | .switch id true =>
      ∃ u, Device.ofId id = some (.starTracker u) ∧ (p.2 u).unseen = true ∧
        (p.1.tracker u).up = true
  | _ => False

theorem Agrees.command (h : Agrees s u r) (cmd : Arguments V) :
    Agrees (finalState (handleCommand k cmd) s) u (recordAfter k s u r (.command cmd)) := by
  have hsame := command_apparatus s k cmd
  have htracker : (finalState (handleCommand k cmd) s).tracker = poweredTrackers cmd s :=
    congrArg Apparatus.tracker hsame
  have hdevice : (finalState (handleCommand k cmd) s).deviceOn = s.deviceOn :=
    congrArg Apparatus.deviceOn hsame
  unfold recordAfter
  dsimp only
  unfold poweredTrackers at htracker
  by_cases hpowered : poweredUnit cmd s = some u
  · rw [if_pos hpowered]
    rw [hpowered] at htracker
    have hnow : (finalState (handleCommand k cmd) s).tracker u =
        (s.tracker u).power (cmd.bool "on" true) :=
      (congrFun htracker u).trans (Function.update_self ..)
    refine Booted.agrees ?_ rfl
    rw [hnow]
    cases cmd.bool "on" true with
    | false => exact Booted.of_off rfl
    | true => exact fun _ => rfl
  · rw [if_neg hpowered]
    refine h.same ?_ hdevice
    rw [htracker]
    cases hother : poweredUnit cmd s with
    | none => rfl
    | some v =>
        refine Function.update_of_ne ?_ ..
        rintro rfl
        exact hpowered hother

theorem struck_self {unit : Option V} {default : Int} (h : strikes unit default u)
    (f : Tracker → Tracker) :
    ((failedUnit unit default).elim s fun n => s.setUnit n f).tracker u = f (s.tracker u) := by
  obtain ⟨n, hn, hu⟩ := Option.bind_eq_some_iff.mp h
  rw [hn]
  show (s.setUnit n f).tracker u = _
  unfold AocsState.setUnit
  rw [hu]
  exact setTracker_self s u f

theorem struck_other {unit : Option V} {default : Int} (h : ¬ strikes unit default u)
    (f : Tracker → Tracker) :
    ((failedUnit unit default).elim s fun n => s.setUnit n f).tracker u = s.tracker u := by
  unfold strikes at h
  cases hn : failedUnit unit default with
  | none => rfl
  | some n =>
      show (s.setUnit n f).tracker u = _
      unfold AocsState.setUnit
      cases hu : StUnit.ofInt n with
      | none => rfl
      | some v =>
          refine setTracker_other s ?_ f
          rintro rfl
          exact h (by rw [hn]; exact hu)

theorem Agrees.inject {s : AocsState V} {u : StUnit} {r : BootRecord} (h : Agrees s u r)
    (magnitude : FloatValue) (failure : AocsFailure V)
    (hsound : ∀ unit bias, failure = .stBlind unit bias →
      (s.tracker s.stSelected).blindable = true) :
    Agrees (injectFailure magnitude s failure) u
      (recordAfter k s u r (.inject failure magnitude)) := by
  have hsame := injectFailure_apparatus s magnitude failure
  have htracker : (injectFailure magnitude s failure).tracker = struckTrackers magnitude s failure :=
    congrArg Apparatus.tracker hsame
  have hdevice : (injectFailure magnitude s failure).deviceOn = s.deviceOn :=
    congrArg Apparatus.deviceOn hsame
  have hother (hkept : struckTrackers magnitude s failure = s.tracker) :
      Agrees (injectFailure magnitude s failure) u r :=
    h.same (congrFun (htracker.trans hkept) u) hdevice
  cases failure with
  | stBlind unit bias =>
      by_cases hselected : u = s.stSelected
      · have hnow : (injectFailure magnitude s (.stBlind unit bias)).tracker u =
            { s.tracker u with status := if truthy magnitude then .blind else .tracking } := by
          refine (congrFun htracker u).trans ?_
          rw [hselected]
          exact setTracker_self s _ _
        refine h.shown hdevice ?_ ?_ ?_
        · rw [hnow]
        · rw [hselected]
          exact hsound unit bias rfl
        · rw [hnow]
          split
          · exact .inr rfl
          · exact .inl rfl
      · exact h.same ((congrFun htracker u).trans (setTracker_other s hselected _)) hdevice
  | stFailure unit =>
      show Agrees _ u (if strikes unit 1 u then { r with booted := none } else r)
      by_cases hstruck : strikes unit 1 u
      · rw [if_pos hstruck]
        have hnow := (congrFun htracker u).trans (struck_self hstruck _)
        unfold Agrees at h ⊢
        rw [hdevice, hnow]
        split
        · rename_i hunseen
          rw [if_pos hunseen] at h
          exact h
        · exact Booted.of_failed rfl
      · rw [if_neg hstruck]
        exact h.same ((congrFun htracker u).trans (struck_other hstruck _)) hdevice
  | rwBearing | rwSeizure | gyroBias | cssFailure | magFailure | mtqFailure | magUnitFail
  | cssHeadFail | multiWheelFailure | other => exact hother rfl

/-- A failure of a tracker that is cleared from a tracker that tracks. -/
theorem Agrees.cleared {s s' : AocsState V} {u : StUnit} {r : BootRecord} (h : Agrees s u r)
    {unit : Option V} (hdevice : s'.deviceOn = s.deviceOn)
    (htracker : s'.tracker =
      ((failedUnit unit s.stSelected.number).elim s fun n => s.setUnit n Tracker.clear).tracker)
    (hsound : strikes unit s.stSelected.number u → (s.tracker u).clearable = true) :
    Agrees s' u r := by
  by_cases hstruck : strikes unit s.stSelected.number u
  · have hnow : s'.tracker u = (s.tracker u).clear :=
      (congrFun htracker u).trans (struck_self hstruck _)
    have hclear := hsound hstruck
    obtain ⟨hup, hstatus⟩ := Bool.and_eq_true_iff.mp hclear
    refine h.shown hdevice ?_ ?_ ?_
    · rw [hnow]
      exact (by simpa using hup : (s.tracker u).failed = false).symm
    · unfold Tracker.blindable
      rw [Bool.or_assoc, hstatus, Bool.or_true]
    · rw [hnow]
      exact .inl rfl
  · exact h.same ((congrFun htracker u).trans (struck_other hstruck _)) hdevice

theorem Agrees.clear {s : AocsState V} {u : StUnit} {r : BootRecord} (h : Agrees s u r)
    (failure : AocsFailure V)
    (hsound : ∀ unit, (failure = .stFailure unit ∨ ∃ bias, failure = .stBlind unit bias) →
      strikes unit s.stSelected.number u → (s.tracker u).clearable = true) :
    Agrees (clearFailure s failure) u r := by
  have hsame := clearFailure_apparatus s failure
  have htracker : (clearFailure s failure).tracker = clearedTrackers s failure :=
    congrArg Apparatus.tracker hsame
  have hdevice : (clearFailure s failure).deviceOn = s.deviceOn :=
    congrArg Apparatus.deviceOn hsame
  have hother (hkept : clearedTrackers s failure = s.tracker) :
      Agrees (clearFailure s failure) u r :=
    h.same (congrFun (htracker.trans hkept) u) hdevice
  cases failure with
  | stBlind unit bias => exact h.cleared hdevice htracker (hsound unit (.inr ⟨bias, rfl⟩))
  | stFailure unit => exact h.cleared hdevice htracker (hsound unit (.inl rfl))
  | rwBearing | rwSeizure | gyroBias | cssFailure | magFailure | mtqFailure | magUnitFail
  | cssHeadFail | multiWheelFailure | other => exact hother rfl

theorem Agrees.switch {s : AocsState V} {u : StUnit} {r : BootRecord} (h : Agrees s u r)
    (id : Nat) (on : Bool)
    (hsound : on = true → Device.ofId id = some (.starTracker u) → r.unseen = true →
      (s.tracker u).up = false) :
    Agrees (s.setDeviceState id on) u (recordAfter k s u r (.switch id on)) := by
  have hsame := setDeviceState_apparatus s id on
  have htracker : (s.setDeviceState id on).tracker = s.tracker :=
    congrArg Apparatus.tracker hsame
  have hdevice := congrArg Apparatus.deviceOn hsame
  show Agrees _ u (if Device.ofId id = some (.starTracker u) then r.switch on else r)
  unfold Agrees at h ⊢
  rw [htracker]
  by_cases hid : Device.ofId id = some (.starTracker u)
  · have hnow : (s.setDeviceState id on).deviceOn (.starTracker u) = on := by
      refine (congrFun hdevice _).trans ?_
      rw [hid]
      exact Function.update_self ..
    rw [if_pos hid, hnow]
    cases on with
    | false => rfl
    | true =>
        by_cases hunseen : r.unseen = true
        · have hdown := hsound rfl hid hunseen
          unfold Tracker.up at hdown
          by_cases hfailed : (s.tracker u).failed = true
          · exact Booted.of_failed hfailed
          · refine Booted.of_off ?_
            simpa [hfailed] using hdown
        · rw [if_neg hunseen] at h
          exact h
  · have hnow : (s.setDeviceState id on).deviceOn (.starTracker u) = s.deviceOn (.starTracker u) := by
      refine (congrFun hdevice _).trans ?_
      cases hother : Device.ofId id with
      | none => rfl
      | some d =>
          refine Function.update_of_ne ?_ ..
          rintro rfl
          exact hid hother
    rw [if_neg hid, hnow]
    exact h

/-! ### The whole run -/

omit [Object V] in
theorem stValid_pass_iff (found : AocsPass) (s : AocsState V) :
    (pass k found s).1.stValid = true ↔
      ((pass k found s).1.tracker (pass k found s).1.stSelected).status = .tracking := by
  have hselected : (pass k found s).1.stSelected = s.stSelected :=
    congrArg Equipment.stSelected (equipment_pass k found s)
  rw [stValid_pass, hselected, tracker_pass, status_gate_tracking, status_tick_tracking]
  exact Bool.and_eq_true_iff

omit [Object V] in
/-- A tracker that tracks, or is blind, after a call has not failed. -/
theorem whole_pass (found : AocsPass) (s : AocsState V) {u : StUnit}
    (h : ((pass k found s).1.tracker u).status = .tracking ∨
      ((pass k found s).1.tracker u).status = .blind) :
    ((pass k found s).1.tracker u).failed = false := by
  rw [tracker_pass] at h ⊢
  cases hon : s.deviceOn (.starTracker u) with
  | false =>
      rw [hon] at h
      rcases h with h | h <;> cases h
  | true =>
      rw [hon] at h
      unfold Tracker.gate Tracker.tick at h ⊢
      by_cases hfailed : (s.tracker u).failed = true
      · simp [hfailed] at h
      · simp only [hfailed, Bool.false_eq_true, if_false, if_true]
        split <;> try split
        all_goals simp

/-- **The trackers at the end of a tick are right.** -/
structure TrackersRight (p : AocsState V × (StUnit → BootRecord)) : Prop where
  booted : ∀ u, (p.1.tracker u).status = .tracking ∨ (p.1.tracker u).status = .blind →
    ∃ time, (p.2 u).booted = some time ∧ (literal 60).le time = true
  stValid : p.1.stValid = true ↔ (p.1.tracker p.1.stSelected).status = .tracking

/-- **An input that starts no tracker without a boot keeps the records.** -/
theorem agrees_step {p : AocsState V × (StUnit → BootRecord)} {op : AocsInput V}
    (h : ∀ u, Agrees p.1 u (p.2 u)) (hsound : ¬ Unbooted p op) (u : StUnit) :
    Agrees (recordStep k p op).1 u ((recordStep k p op).2 u) := by
  cases op with
  | command cmd => exact (h u).command k cmd
  | inject failure magnitude =>
      refine (h u).inject k magnitude failure fun unit bias hfailure => ?_
      rw [hfailure] at hsound
      exact Bool.not_eq_false _ ▸ hsound
  | clear failure =>
      refine (h u).clear failure fun unit hfailure hstrikes => ?_
      by_contra hclear
      have hclear := Bool.eq_false_iff.mpr hclear
      rcases hfailure with rfl | ⟨bias, rfl⟩
      · exact hsound ⟨u, hstrikes, hclear⟩
      · exact hsound ⟨u, hstrikes, hclear⟩
  | switch id on =>
      refine (h u).switch k id on fun hon hid hunseen => ?_
      rw [hon] at hsound
      by_contra hup
      exact hsound ⟨u, hid, hunseen, Bool.not_eq_false _ ▸ hup⟩
  | tick t =>
      cases hcalls : t.calls k with
      | ok calls =>
          obtain ⟨hbooted, hseen⟩ := (h u).tick k ⟨calls, hcalls⟩
          exact hbooted.agrees hseen
      | error e =>
          have hstate : (Aocs.tick k t p.1).1 = p.1 := by
            unfold Aocs.tick
            rw [hcalls]
          have hrecord : recordTick k u p.1 (p.2 u) t = p.2 u := by
            unfold recordTick
            rw [hcalls]
          show Agrees (Aocs.tick k t p.1).1 u (recordTick k u p.1 (p.2 u) t)
          rw [hstate, hrecord]
          exact h u

/-- **A star tracker tracks only after it has booted.** -/
theorem tracks_booted {s : AocsState V} (hs : ∀ u, (s.tracker u).status = .off)
    {ops : List (AocsInput V)}
    (hsound : ∀ i, ¬ HappensAt (recordStep k) (s, fun _ => {}) ops Unbooted i) {i : Nat}
    {t : AocsTick} (hop : ops[i]? = some (.tick t)) (hends : Completes k t) :
    TrackersRight (after (recordStep k) (s, fun _ => {}) (ops.take (i + 1))) := by
  have hbefore : ∀ u, Agrees (after (recordStep k) (s, fun _ => {}) (ops.take i)).1 u
      ((after (recordStep k) (s, fun _ => {}) (ops.take i)).2 u) :=
    invariant_unless (P := fun p : AocsState V × (StUnit → BootRecord) => ∀ u, Agrees p.1 u (p.2 u))
      (fun p op h hgood => agrees_step k h hgood) (fun u => (Booted.of_off (hs u)).agrees rfl)
      hsound i
  rw [after_take_succ hop]
  obtain ⟨calls, hcalls⟩ := hends
  obtain ⟨init, last, hsplit⟩ := exists_last k hcalls
  have hlast : (Aocs.tick k t (after (recordStep k) (s, fun _ => {}) (ops.take i)).1).1 =
      (pass k last (passes k (after (recordStep k) (s, fun _ => {}) (ops.take i)).1 init).1).1 := by
    rw [tick_calls k hcalls, hsplit]
    exact passes_concat k _ init last
  refine ⟨fun u htracks => ?_, ?_⟩
  · obtain ⟨hbooted, -⟩ := (hbefore u).tick k ⟨calls, hcalls⟩
    refine hbooted.time ?_ htracks
    change (((Aocs.tick k t _).1).tracker u).status = _ ∨ (((Aocs.tick k t _).1).tracker u).status = _
      at htracks
    rw [hlast] at htracks ⊢
    exact whole_pass k last _ htracks
  · show (Aocs.tick k t _).1.stValid = true ↔
      ((Aocs.tick k t _).1.tracker (Aocs.tick k t _).1.stSelected).status = .tracking
    rw [hlast]
    exact stValid_pass_iff k last _

section Example

/-- A model of which nothing is computed. -/
def plainConfig : AocsConfig where
  norm := fun _ => literal 0
  normalise := id

/-- A tracker is powered on, and a tick is long enough for its boot. -/
def bootRun : List (AocsInput Scalar) :=
  [.command ((Dict.empty.set "command" (.word "st_power")).set "unit" (.int 1)),
    .tick { dt := literal 61 }]

/-- A tracker that was powered on has booted at the end of the tick. -/
theorem tracks_booted_run :
    TrackersRight (after (recordStep plainConfig) (({} : AocsState Scalar), fun _ => {})
      (bootRun.take 2)) := by
  have hsecular : AocsTick.secular plainConfig { dt := literal 61 } (literal 61) = true := by
    decide +kernel
  refine tracks_booted plainConfig (fun u => ?_) (fun i => ?_) (i := 1) rfl
    ⟨[AocsTick.call plainConfig { dt := literal 61 } (literal 61) 0], ?_⟩
  · cases u <;> rfl
  · rintro ⟨op, hop, hbad⟩
    have hmem := List.mem_of_getElem? hop
    simp only [bootRun, List.mem_cons, List.not_mem_nil, or_false] at hmem
    rcases hmem with rfl | rfl
    · exact hbad
    · exact hbad
  · unfold AocsTick.calls
    rw [hsecular]
    rfl

/-- A tracker that was never powered on, blinded and then read. -/
def blindedRun : List (AocsInput Scalar) :=
  [.inject (.stBlind none Vec.zero) (literal 1), .tick { dt := literal 1 }]

/-- A tracker that is off tracks after a blinding. -/
theorem blinded_tracks_unbooted :
    ¬ TrackersRight (after (recordStep plainConfig) (({} : AocsState Scalar), fun _ => {})
      blindedRun) := by
  intro h
  have hstatus : ((after (recordStep plainConfig) (({} : AocsState Scalar), fun _ => {})
      blindedRun).1.tracker .st1).status = .tracking := by decide +kernel
  have hrecord : ((after (recordStep plainConfig) (({} : AocsState Scalar), fun _ => {})
      blindedRun).2 .st1).booted = none := by decide +kernel
  obtain ⟨time, htime, -⟩ := h.booted .st1 (.inl hstatus)
  rw [hrecord] at htime
  cases htime

end Example

end Runs

end Aocs
