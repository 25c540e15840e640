import MissionSim.AocsCalls

/-!
# What a model without power shows

With its power line off, a model is meant to be in the mode off with no sensor valid, and so to show
no attitude source but the gyros and no fresh vector.

The mode and the magnetometer keep to that.  The star trackers and the sun sensor do not look at the
power line or at the mode, and make themselves valid again after the power gate.  What is left is
exact: a model is dark after a tick unless, in the last call of the tick, the selected tracker
tracks or the sun sensor sees the sun.
-/

namespace Aocs

open Binary32 Python Effects Runs

variable {V : Type}

/-- The parameter 0x0283: 0 for a star tracker, 1 for the sun sensor, 2 for the gyros. -/
def AocsState.attitudeSource (s : AocsState V) : Nat :=
  if s.stValid then 0 else if s.cssValid then 1 else 2

/-- The sensor vectors that are published as valid. -/
def AocsState.freshVectors (s : AocsState V) : List Vec :=
  (if s.cssValid then [s.cssSun] else []) ++ if s.magValid then [s.mag] else []

/-- **The model shows no data.** -/
structure Dark (s : AocsState V) : Prop where
  mode : s.mode = .off
  stValid : s.stValid = false
  cssValid : s.cssValid = false
  magValid : s.magValid = false
  attitudeSource : s.attitudeSource = 2
  freshVectors : s.freshVectors = []

theorem dark_iff (s : AocsState V) :
    Dark s ↔ s.mode = .off ∧ s.stValid = false ∧ s.cssValid = false ∧ s.magValid = false := by
  constructor
  · intro h
    exact ⟨h.mode, h.stValid, h.cssValid, h.magValid⟩
  · rintro ⟨hmode, hst, hcss, hmag⟩
    refine ⟨hmode, hst, hcss, hmag, ?_, ?_⟩
    · unfold AocsState.attitudeSource
      rw [hst, hcss]
      rfl
    · unfold AocsState.freshVectors
      rw [hcss, hmag]
      rfl

/-! ### Calls -/

/-- A tracker tracks after a call of a length. -/
def Tracker.tracks (dt : FloatValue) (blinded : Bool) (t : Tracker) : Bool :=
  !t.failed && match t.status with
    | .off => false
    | .booting => (literal 60).le (t.bootTimer.add dt)
    | _ => !blinded

theorem status_tick_tracking (dt : FloatValue) (blinded : Bool) (stars : Nat) (t : Tracker) :
    (t.tick dt blinded stars).status = .tracking ↔ t.tracks dt blinded = true := by
  unfold Tracker.tick Tracker.tracks
  cases t.failed with
  | true => simp
  | false =>
      cases hstatus : t.status with
      | off => simp
      | booting =>
          by_cases htimer : (literal 60).le (t.bootTimer.add dt) = true
          · simp [htimer]
          · simp [htimer]
      | tracking | blind | failed => cases blinded <;> simp

theorem status_gate_tracking (on : Bool) (t : Tracker) :
    (t.gate on).status = .tracking ↔ on = true ∧ t.status = .tracking := by
  cases on <;> simp [Tracker.gate]

variable (k : AocsConfig) (found : AocsPass) (s : AocsState V)

/-- The selected tracker is on, and tracks after a call. -/
def AocsState.selectedTracks : Bool :=
  s.deviceOn (.starTracker s.stSelected) &&
    (s.tracker s.stSelected).tracks found.dt (found.blinded s.stSelected)

/-- The sun sensor is on, and sees the sun. -/
def AocsState.sunSeen : Bool := s.deviceOn .sunSensor && s.cssSees k found

theorem stValid_pass : (pass k found s).1.stValid = s.selectedTracks found := by
  have hvalid := congrArg Equipment.stValid (equipment_pass k found s)
  have hpass : (pass k found s).1.stValid =
      ((s.nextTracker found s.stSelected).status == .tracking &&
        ((s.nextTracker found s.stSelected).gate
          (s.deviceOn (.starTracker s.stSelected))).status == .tracking) := hvalid
  rw [hpass, Bool.eq_iff_iff]
  unfold AocsState.selectedTracks
  rw [Bool.and_eq_true, Bool.and_eq_true, beq_iff_eq, beq_iff_eq, status_gate_tracking,
    ← status_tick_tracking _ _ (randint 8 20 (found.stars s.stSelected))]
  constructor
  · rintro ⟨-, hon, htracking⟩
    exact ⟨hon, htracking⟩
  · rintro ⟨hon, htracking⟩
    exact ⟨htracking, hon, htracking⟩

theorem cssValid_pass : (pass k found s).1.cssValid = s.sunSeen k found :=
  (congrArg Equipment.cssValid (equipment_pass k found s)).trans (Bool.and_comm _ _)

theorem magValid_pass_dark (h : found.line = false) : (pass k found s).1.magValid = false := by
  have hvalid := congrArg Equipment.magValid (equipment_pass k found s)
  have hreads : (s.energised found).magReads = false := by
    unfold AocsState.magReads AocsState.energised
    rw [h]
    simp [AocsMode.dark]
  refine hvalid.trans ?_
  show ((s.energised found).magReads && _ && _) = false
  rw [hreads]
  rfl

/-- **A call without power ends dark unless a tracker or the sun sensor reads.** -/
theorem dark_pass_iff (h : found.line = false) :
    Dark (pass k found s).1 ↔ s.selectedTracks found = false ∧ s.sunSeen k found = false := by
  rw [dark_iff, mode_pass_dark k found s h, stValid_pass, cssValid_pass,
    magValid_pass_dark k found s h]
  simp

/-! ### Ticks -/

theorem passes_concat (init : List AocsPass) (last : AocsPass) :
    (passes k s (init ++ [last])).1 = (pass k last (passes k s init).1).1 := by
  induction init generalizing s with
  | nil => rfl
  | cons first rest ih => exact ih (pass k first s).1

theorem line_of_mem_calls {t : AocsTick} {calls : List AocsPass} (h : t.calls k = .ok calls)
    {found : AocsPass} (hmem : found ∈ calls) : found.line = t.line := by
  unfold AocsTick.calls at h
  split_ifs at h
  · obtain ⟨n, -, hn⟩ := bind_eq_ok.mp h
    cases hn
    obtain ⟨i, -, rfl⟩ := List.mem_map.mp hmem
    rfl
  · cases h
    obtain rfl := List.mem_singleton.mp hmem
    rfl

/-- A tick that does not raise has a last call. -/
theorem exists_last {t : AocsTick} {calls : List AocsPass} (h : t.calls k = .ok calls) :
    ∃ init last, calls = init ++ [last] := by
  have hne : calls ≠ [] := by
    unfold AocsTick.calls at h
    split_ifs at h with hlong
    · obtain ⟨n, hceil, hn⟩ := bind_eq_ok.mp h
      cases hn
      have hpos : 1 ≤ n := one_le_half (Bool.and_eq_true_iff.mp hlong).2 hceil
      intro hnil
      have hlength := congrArg List.length hnil
      simp only [List.length_map, List.length_range, List.length_nil] at hlength
      omega
    · cases h
      simp
  exact ⟨calls.dropLast, calls.getLast hne, (List.dropLast_append_getLast hne).symm⟩

/-- In the last call of a tick, no tracker and no sun sensor reads. -/
def Quiet (t : AocsTick) (s : AocsState V) : Prop :=
  ∀ init last, t.calls k = .ok (init ++ [last]) →
    (passes k s init).1.selectedTracks last = false ∧
      (passes k s init).1.sunSeen k last = false

/-- A tick runs to its end. -/
def Completes (t : AocsTick) : Prop := ∃ calls, t.calls k = .ok calls

theorem dark_tick_iff {t : AocsTick} (hline : t.line = false) (h : Completes k t) :
    Dark (tick k t s).1 ↔ Quiet k t s := by
  obtain ⟨calls, hcalls⟩ := h
  obtain ⟨init, last, rfl⟩ := exists_last k hcalls
  have hdark : last.line = false :=
    (line_of_mem_calls k hcalls (List.mem_append_right init (List.mem_singleton_self last))).trans
      hline
  have htick : (tick k t s).1 = (pass k last (passes k s init).1).1 := by
    unfold tick
    rw [hcalls]
    exact passes_concat k s init last
  rw [htick, dark_pass_iff k last _ hdark]
  constructor
  · intro hquiet init' last' hcalls'
    obtain ⟨rfl, hlast⟩ := List.append_inj' (Except.ok.inj (hcalls.symm.trans hcalls')) rfl
    obtain rfl := List.singleton_inj.mp hlast
    exact hquiet
  · intro hquiet
    exact hquiet init last hcalls

/-! ### Runs -/

/-- **A run shows no data after its ticks without power exactly where these ticks are quiet.** -/
theorem dark_run_iff [Object V] (ops : List (AocsInput V)) :
    (∀ i t, ops[i]? = some (.tick t) → t.line = false → Completes k t →
        Dark (after (step k) s (ops.take (i + 1)))) ↔
      ∀ i t, ops[i]? = some (.tick t) → t.line = false → Completes k t →
        Quiet k t (after (step k) s (ops.take i)) := by
  refine forall_congr' fun i => forall_congr' fun t => forall_congr' fun hop =>
    forall_congr' fun hline => forall_congr' fun hends => ?_
  rw [after_take_succ hop]
  exact dark_tick_iff k _ hline hends

section Example

/-- A model that takes every vector for one of unit length. -/
def unitConfig : AocsConfig where
  norm := fun _ => literal 1
  normalise := id

/-- A tick without power, with the sun on a head. -/
def sunlitTick : AocsTick where
  dt := literal 1
  line := false
  found := fun _ => { illumination := fun _ => literal 1 }

/-- The sun sensor of a model without power is valid in sunlight. -/
theorem sunlit_not_dark :
    sunlitTick.line = false ∧ Completes unitConfig sunlitTick ∧
      ¬ Dark (after (step unitConfig) ({} : AocsState Scalar) [.tick sunlitTick]) := by
  have hshort : (literal 2).lt sunlitTick.dt = false := by decide +kernel
  refine ⟨rfl, ⟨[sunlitTick.call unitConfig sunlitTick.dt 0], ?_⟩, fun h => ?_⟩
  · unfold AocsTick.calls
    rw [hshort, Bool.and_false]
    rfl
  · have hvalid : (after (step unitConfig) ({} : AocsState Scalar) [.tick sunlitTick]).cssValid =
        true := by decide +kernel
    rw [h.cssValid] at hvalid
    cases hvalid

end Example

end Aocs
