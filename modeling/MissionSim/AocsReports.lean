import MissionSim.AocsAnswers
import MissionSim.AocsCalls

/-!
# Which changes of mode and of lock are reported

From the end of one tick to the end of the next, every change of mode is meant to be reported, with
the start and the end of a desaturation among them, and every loss and gain of lock.

A tick compares with the mode in which it arrives at its mode tick.  So what happened before, by
command, by failure, by the power gate, by the emergency check, by a transition or by momentum
management, is reported by nobody.  A loss of lock is always reported, and a gain of lock never: the
fix that the tick compares with is overwritten between the two checks.
-/

namespace Aocs

open Binary32 Python Effects Runs

variable {V : Type}

/-- **The reports from the end of a tick to the end of the next are complete.** -/
structure Reported (before now : AocsState V) (events : List AocsEvent) : Prop where
  modeChange : ∀ a b, .modeChange a b ∈ events ↔ a = before.mode ∧ b = now.mode ∧ a ≠ b
  desaturationStart : .desaturationStart ∈ events ↔ before.mode ≠ .desat ∧ now.mode = .desat
  desaturationComplete : .desaturationComplete ∈ events ↔ before.mode = .desat ∧ now.mode ≠ .desat
  gpsLockLost : .gpsLockLost ∈ events ↔ 2 ≤ before.gpsFix ∧ now.gpsFix < 2
  gpsLockAcquired : (∃ fix, .gpsLockAcquired fix ∈ events) ↔ before.gpsFix < 2 ∧ 2 ≤ now.gpsFix

/-! ### The events of a call -/

section Events

variable (s : AocsState V) (m : AocsMode)

theorem mem_eventIf {c : Prop} [Decidable c] {e e' : AocsEvent} :
    e ∈ eventIf c e' ↔ e = e' ∧ c := by
  unfold eventIf
  by_cases hc : c <;> simp [hc]

/-- The events that a tick generates. -/
theorem mem_generateTickEvents {e : AocsEvent} :
    e ∈ (s.generateTickEvents m).2 ↔
      (e = .modeChange m s.mode ∧ m ≠ s.mode) ∨
      (e = .desaturationStart ∧ s.mode = .desat ∧ m ≠ .desat) ∨
      (e = .desaturationComplete ∧ m = .desat ∧ s.mode ≠ .desat) ∨
      (e = .gpsLockLost ∧ 2 ≤ s.prevGpsFix ∧ s.gpsFix < 2) := by
  unfold AocsState.generateTickEvents
  simp only [List.mem_append, mem_eventIf]
  constructor
  · rintro ((((h | h) | h) | h) | ⟨-, hlow, hhigh⟩)
    · exact .inl h
    · exact .inr (.inl h)
    · exact .inr (.inr (.inl h))
    · exact .inr (.inr (.inr h))
    · exact absurd hhigh (not_le.mpr hlow)
  · rintro (h | h | h | h)
    · exact .inl (.inl (.inl (.inl h)))
    · exact .inl (.inl (.inl (.inr h)))
    · exact .inl (.inl (.inr h))
    · exact .inl (.inr h)

variable (k : AocsConfig) (found : AocsPass)

theorem mem_pass_events {e : AocsEvent} :
    e ∈ (pass k found s).2 ↔
      (e = .modeChange (s.arrivalMode k found) (pass k found s).1.mode ∧
        s.arrivalMode k found ≠ (pass k found s).1.mode) ∨
      (e = .desaturationStart ∧ (pass k found s).1.mode = .desat ∧
        s.arrivalMode k found ≠ .desat) ∨
      (e = .desaturationComplete ∧ s.arrivalMode k found = .desat ∧
        (pass k found s).1.mode ≠ .desat) ∨
      (e = .gpsLockLost ∧ 2 ≤ s.prevGpsFix ∧ (pass k found s).1.gpsFix < 2) := by
  have hbefore : (s.before k found).equipment = s.foundEquipment k found :=
    (equipment_before k found s).trans (sensed_found k found s).2
  have hview := view_settled k found (s.before k found)
  have hmode : ((s.before k found).settled k found).mode = (pass k found s).1.mode :=
    (congrArg Prod.fst hview).trans (mode_pass k found s).symm
  have hequipment : ((s.before k found).settled k found).equipment =
      (s.foundEquipment k found).gated :=
    (congrArg Prod.snd hview).trans (congrArg Equipment.gated hbefore)
  have hfix : ((s.before k found).settled k found).gpsFix = (pass k found s).1.gpsFix :=
    (congrArg Equipment.gpsFix hequipment).trans
      (congrArg Equipment.gpsFix (equipment_pass k found s)).symm
  have hprev : ((s.before k found).settled k found).prevGpsFix = s.prevGpsFix :=
    congrArg Equipment.prevGpsFix hequipment
  have hevents : (pass k found s).2 =
      (((s.before k found).settled k found).generateTickEvents (s.arrived k found).mode).2 := rfl
  rw [hevents, mem_generateTickEvents, mode_arrived, hmode, hfix, hprev]

/-- The lock after a call. -/
theorem gps_pass :
    (pass k found s).1.gpsFix = (s.energised found).nextFix k found ∧
      (pass k found s).1.prevGpsFix = (s.energised found).nextFix k found :=
  ⟨congrArg Equipment.gpsFix (equipment_pass k found s),
    congrArg Equipment.prevGpsFix (equipment_pass k found s)⟩

end Events

/-! ### From one tick to the next -/

/-- The lock, now and as the next tick compares it. -/
def AocsState.lock (s : AocsState V) : Nat × Nat := (s.gpsFix, s.prevGpsFix)

/-- An input is a tick. -/
def AocsInput.isTick : AocsInput V → Bool
  | .tick _ => true
  | _ => false

/-- **Between two ticks the lock stays.** -/
theorem lock_step [Object V] (s : AocsState V) (k : AocsConfig) {op : AocsInput V}
    (h : op.isTick = false) : (step k s op).lock = s.lock := by
  have hlock {s' : AocsState V} {tracker : StUnit → Tracker} {deviceOn : Device → Bool}
      (hsame : s'.apparatus = ⟨tracker, deviceOn, s.gpsFix, s.prevGpsFix⟩) : s'.lock = s.lock :=
    Prod.ext (congrArg Apparatus.gpsFix hsame) (congrArg Apparatus.prevGpsFix hsame)
  cases op with
  | command cmd => exact hlock (command_apparatus s k cmd)
  | inject failure magnitude => exact hlock (injectFailure_apparatus s magnitude failure)
  | clear failure => exact hlock (clearFailure_apparatus s failure)
  | switch id on => exact hlock (setDeviceState_apparatus s id on)
  | tick t => cases h

/-! ### Short ticks -/

/-- A tick of at most 2 s. -/
def AocsTick.Short (t : AocsTick) : Prop := t.dt.le (literal 2) = true

/-- The one call of a short tick. -/
def AocsTick.single (k : AocsConfig) (t : AocsTick) : AocsPass := t.call k t.dt 0

theorem tick_short {k : AocsConfig} {t : AocsTick} (h : t.Short) (s : AocsState V) :
    tick k t s = pass k (t.single k) s := by
  have hcalls : t.calls k = .ok [t.single k] := by
    unfold AocsTick.calls
    rw [FloatValue.not_lt_of_le h, Bool.and_false]
    rfl
  unfold tick
  rw [hcalls]
  exact Prod.ext rfl (List.append_nil _)

/-! ### Runs -/

/-- Two ticks of a run, the later at `i`, with no tick between. -/
structure Consecutive (ops : List (AocsInput V)) (j i : Nat) (t : AocsTick) : Prop where
  earlier : ∃ t₀, ops[j]? = some (.tick t₀)
  later : ops[i]? = some (.tick t)
  order : j < i
  between : ∀ m op, j < m → m < i → ops[m]? = some op → op.isTick = false

/-- The receiver has a lock after a call: it is powered, and past its search. -/
def AocsState.locks (k : AocsConfig) (found : AocsPass) (s : AocsState V) : Bool :=
  (s.energised found).gpsPowered && !(s.energised found).searching k found

theorem two_le_fix_iff (k : AocsConfig) (found : AocsPass) (s : AocsState V) :
    2 ≤ (pass k found s).1.gpsFix ↔ s.locks k found = true := by
  rw [(gps_pass s k found).1, two_le_nextFix]
  unfold AocsState.locks
  rw [Bool.and_eq_true, Bool.not_eq_true']

/-- The reports of a call, against a state with the same lock. -/
theorem reported_pass_iff (k : AocsConfig) (found : AocsPass) {before s : AocsState V}
    (hlock : s.lock = before.lock) (hprev : before.prevGpsFix = before.gpsFix) :
    Reported before (pass k found s).1 (pass k found s).2 ↔
      s.arrivalMode k found = before.mode ∧ ¬ (before.gpsFix < 2 ∧ s.locks k found = true) := by
  have hfix : s.prevGpsFix = before.gpsFix := (congrArg Prod.snd hlock).trans hprev
  have hnever (fix : Nat) : .gpsLockAcquired fix ∉ (pass k found s).2 := by
    rw [mem_pass_events]
    simp
  rw [← two_le_fix_iff]
  constructor
  · intro h
    refine ⟨?_, fun hgain => ?_⟩
    · by_cases hmoved : s.arrivalMode k found = (pass k found s).1.mode
      · by_contra hne
        have hreported : .modeChange before.mode (pass k found s).1.mode ∈ (pass k found s).2 :=
          (h.modeChange _ _).mpr ⟨rfl, rfl, fun hsame => hne (hmoved.trans hsame.symm)⟩
        rw [mem_pass_events] at hreported
        simp [hmoved] at hreported
      · have hraised : .modeChange (s.arrivalMode k found) (pass k found s).1.mode ∈
            (pass k found s).2 := (mem_pass_events s k found).mpr (.inl ⟨rfl, hmoved⟩)
        exact ((h.modeChange _ _).mp hraised).1
    · obtain ⟨fix, hfix⟩ := h.gpsLockAcquired.mpr hgain
      exact hnever fix hfix
  · rintro ⟨hmode, hgain⟩
    refine ⟨fun a b => ?_, ?_, ?_, ?_, ?_⟩
    · rw [mem_pass_events, hmode]
      simp only [AocsEvent.modeChange.injEq, reduceCtorEq, false_and, or_false]
      constructor
      · rintro ⟨⟨rfl, rfl⟩, hne⟩
        exact ⟨rfl, rfl, hne⟩
      · rintro ⟨rfl, rfl, hne⟩
        exact ⟨⟨rfl, rfl⟩, hne⟩
    · rw [mem_pass_events, hmode]
      simp [and_comm]
    · rw [mem_pass_events, hmode]
      simp
    · rw [mem_pass_events, hfix]
      simp
    · constructor
      · rintro ⟨fix, h⟩
        exact absurd h (hnever fix)
      · exact fun h => absurd h hgain

/-- **The reports of a tick are complete exactly where the mode has not moved before the mode tick,
and no lock is gained.** -/
theorem reported_iff [Object V] (k : AocsConfig) (s : AocsState V) {ops : List (AocsInput V)}
    (hshort : ∀ t, .tick t ∈ ops → t.Short) {j i : Nat} {t : AocsTick} (h : Consecutive ops j i t) :
    Reported (after (step k) s (ops.take (j + 1))) (after (step k) s (ops.take (i + 1)))
        (tick k t (after (step k) s (ops.take i))).2 ↔
      (after (step k) s (ops.take i)).arrivalMode k (t.single k) =
          (after (step k) s (ops.take (j + 1))).mode ∧
        ¬ ((after (step k) s (ops.take (j + 1))).gpsFix < 2 ∧
          (after (step k) s (ops.take i)).locks k (t.single k) = true) := by
  obtain ⟨t₀, hearlier⟩ := h.earlier
  have hfirst : after (step k) s (ops.take (j + 1)) =
      (pass k (t₀.single k) (after (step k) s (ops.take j))).1 := by
    rw [after_take_succ hearlier]
    exact congrArg Prod.fst (tick_short (hshort _ (List.mem_of_getElem? hearlier)) _)
  have hshort₁ : t.Short := hshort _ (List.mem_of_getElem? h.later)
  have hprev : (after (step k) s (ops.take (j + 1))).prevGpsFix =
      (after (step k) s (ops.take (j + 1))).gpsFix := by
    rw [hfirst, (gps_pass _ _ _).1, (gps_pass _ _ _).2]
  have hlock : (after (step k) s (ops.take i)).lock = (after (step k) s (ops.take (j + 1))).lock :=
    holds_between (P := fun s' : AocsState V => s'.lock = (after (step k) s (ops.take (j + 1))).lock)
      h.order rfl
      fun m op hjm hmi hop hsame =>
        (lock_step _ k (h.between m op hjm hmi hop)).trans hsame
  rw [after_take_succ h.later, tick_short hshort₁]
  show Reported _ (tick k t _).1 _ ↔ _
  rw [tick_short hshort₁]
  exact reported_pass_iff k (t.single k) hlock hprev

section Example

/-- A model whose rates are always zero. -/
def stillConfig : AocsConfig where
  norm := fun _ => literal 0
  normalise := id

/-- A tick, a command to desaturate, a tick. -/
def desaturation : List (AocsInput Scalar) :=
  [.tick { dt := literal 1 }, .command (Dict.empty.set "command" (.word "desaturate")),
    .tick { dt := literal 1 }]

theorem desaturation_short : ∀ t, .tick t ∈ desaturation → t.Short := by
  intro t ht
  have hdt : t.dt = literal 1 := by
    simp only [desaturation, List.mem_cons, AocsInput.tick.injEq, reduceCtorEq, List.not_mem_nil,
      false_or, or_false] at ht
    rcases ht with rfl | rfl <;> rfl
  unfold AocsTick.Short
  rw [hdt]
  decide +kernel

theorem desaturation_consecutive :
    Consecutive desaturation 0 2 { dt := literal 1 } := by
  refine ⟨⟨_, rfl⟩, rfl, by decide, fun m op hlow hhigh hop => ?_⟩
  obtain rfl : m = 1 := by omega
  cases hop
  rfl

/-- A tick of a run is reported as `reported_iff` says. -/
theorem reported_desaturation :
    Reported (after (step stillConfig) { mode := .nominal } (desaturation.take 1))
        (after (step stillConfig) { mode := .nominal } (desaturation.take 3))
        (tick stillConfig { dt := literal 1 }
          (after (step stillConfig) { mode := .nominal } (desaturation.take 2))).2 ↔
      (after (step stillConfig) { mode := .nominal } (desaturation.take 2)).arrivalMode stillConfig
          (AocsTick.single stillConfig { dt := literal 1 }) =
          (after (step stillConfig) { mode := .nominal } (desaturation.take 1)).mode ∧
        ¬ ((after (step stillConfig) { mode := .nominal } (desaturation.take 1)).gpsFix < 2 ∧
          (after (step stillConfig) { mode := .nominal } (desaturation.take 2)).locks stillConfig
            (AocsTick.single stillConfig { dt := literal 1 }) = true) :=
  reported_iff stillConfig _ desaturation_short desaturation_consecutive

/-- A desaturation that a command starts is not reported. -/
theorem commandedDesaturation_unreported :
    Consecutive desaturation 0 2 { dt := literal 1 } ∧
      ¬ Reported (after (step stillConfig) { mode := .nominal } (desaturation.take 1))
        (after (step stillConfig) { mode := .nominal } (desaturation.take 3))
        (tick stillConfig { dt := literal 1 }
          (after (step stillConfig) { mode := .nominal } (desaturation.take 2))).2 := by
  refine ⟨desaturation_consecutive, fun h => ?_⟩
  have hbefore : (after (step stillConfig) { mode := .nominal } (desaturation.take 1)).mode =
      .nominal := by decide +kernel
  have hnow : (after (step stillConfig) { mode := .nominal } (desaturation.take 3)).mode =
      .desat := by decide +kernel
  have hevents : (tick stillConfig { dt := literal 1 }
      (after (step stillConfig) { mode := .nominal } (desaturation.take 2))).2 = [] := by
    decide +kernel
  have hstart := h.desaturationStart.mpr ⟨by rw [hbefore]; decide, hnow⟩
  rw [hevents] at hstart
  cases hstart

end Example

end Aocs
