import MissionSim.Runs
import MissionSim.Tcs

/-!
# What a heater needs to heat

A heater is meant to heat only with its line on, its circuit whole and its duty below its limit, and
to be shown on exactly while it heats.

A heater that is stuck on heats without its line, a failed circuit heats while it is stuck, held by
hand or (the on-board computer's) left to its line, and a duty limit takes a heater off only after
its power was added.  Nothing else heats out of turn, and nothing else is shown wrongly.
-/

namespace Tcs

open Binary32 Python Effects

variable {V : Type} (k : TcsConfig) (found : ThermalFound)

/-! ### Names of attributes -/

/-- The attributes that say whether a heater is on. -/
def heaterAttrs : List String := Circuit.all.map fun c => attr c.name ""

/-- The other attributes of the circuits that a tick reads. -/
def suffixes : List String :=
  ["_failed", "_manual", "_stuck_on", "_open_circuit", "_setpoint_on_c", "_setpoint_off_c",
    "_duty_limit_pct"]

theorem suffixed_not_heater (c : Circuit) {suffix : String} (h : suffix ∈ suffixes) :
    attr c.name suffix ∉ heaterAttrs := by
  revert suffix
  cases c <;> decide

theorem duty_not_heater (c : Circuit) : dutyAttr c.name ∉ heaterAttrs := by cases c <;> decide

theorem heater_mem (c : Circuit) : attr c.name "" ∈ heaterAttrs := by cases c <;> decide

theorem heaterAttr_injective {c c' : Circuit} (h : attr c.name "" = attr c'.name "") : c = c' := by
  revert h
  cases c <;> cases c' <;> decide

/-! ### Control -/

/-- A heater is set, and nothing else of what a tick reads. -/
structure Controlled (c : Circuit) (on : Bool) (s s' : TcsState V) : Prop where
  attributes : ∀ name, name ∉ heaterAttrs → s'.attributes.get? name = s.attributes.get? name
  thermostat : s'.thermostat = s.thermostat
  temp : s'.temp = s.temp
  heater : ∀ c', s'.heater c' = if c' = c then on else s.heater c'

open TcsState

theorem setHeater_controlled (c : Circuit) (on : Bool) (s : TcsState V) :
    Controlled c on s (s.setHeater c on) := by
  refine ⟨fun name hname => ?_, rfl, rfl, fun c' => ?_⟩
  · refine Dict.get?_set_ne _ ?_ _
    rintro rfl
    exact hname (heater_mem c)
  · unfold heater TcsState.flag setHeater setAttr
    by_cases hsame : c' = c
    · rw [if_pos hsame, hsame, Dict.get?_set_same]
      rfl
    · rw [if_neg hsame, Dict.get?_set_ne _ fun h => hsame (heaterAttr_injective h)]

theorem controlled_refl (c : Circuit) (s : TcsState V) : Controlled c (s.heater c) s s := by
  refine ⟨fun _ _ => rfl, rfl, rfl, fun c' => ?_⟩
  split
  · rename_i hsame
    rw [hsame]
  · rfl

variable {s s' : TcsState V}

theorem Controlled.flag {c : Circuit} {on : Bool} (h : Controlled c on s s') (c' : Circuit)
    {suffix : String} (hsuffix : suffix ∈ suffixes) :
    s'.flag c'.name suffix = s.flag c'.name suffix := by
  unfold TcsState.flag
  rw [h.attributes _ (suffixed_not_heater c' hsuffix)]

theorem Controlled.self {c : Circuit} {on : Bool} (h : Controlled c on s s') :
    s'.heater c = on := (h.heater c).trans (if_pos rfl)

theorem Controlled.other {c c' : Circuit} {on : Bool} (h : Controlled c on s s') (hne : c' ≠ c) :
    s'.heater c' = s.heater c' :=
  (h.heater c').trans (if_neg hne)

theorem Controlled.trans {c : Circuit} {on on' : Bool} {s s' s'' : TcsState V}
    (h : Controlled c on s s') (h' : Controlled c on' s' s'') : Controlled c on' s s'' := by
  refine ⟨fun name hname => (h'.attributes name hname).trans (h.attributes name hname),
    h'.thermostat.trans h.thermostat, h'.temp.trans h.temp, fun c' => ?_⟩
  rw [h'.heater]
  split
  · rfl
  · exact h.other ‹_›

/-- What the thermostat of a circuit asks for. -/
def TcsState.asks (c : Circuit) (s : TcsState V) : Bool :=
  let band := (s.thermostat.get? c.name).getD (literal 0, literal 0)
  if s.flag c.name "_failed" then false
  else if (s.temp c).le (s.number (attr c.name "_setpoint_on_c") band.2) then true
  else if (s.number (attr c.name "_setpoint_off_c") band.1).le (s.temp c) then false
  else s.heater c

theorem thermostatControl_controlled (c : Circuit) (s : TcsState V) :
    Controlled c
      (s.flag c.name "_stuck_on" || if s.flag c.name "_manual" then s.heater c else s.asks c)
      s (s.thermostatControl c) := by
  unfold thermostatControl asks
  cases s.flag c.name "_stuck_on" with
  | true => exact setHeater_controlled c true s
  | false =>
      cases s.flag c.name "_manual" with
      | true => exact controlled_refl c s
      | false =>
          cases s.flag c.name "_failed" with
          | true => exact setHeater_controlled c false s
          | false =>
              simp only [Bool.false_or, Bool.false_eq_true, if_false]
              split
              · exact setHeater_controlled c true s
              · split
                · exact setHeater_controlled c false s
                · exact controlled_refl c s

theorem Controlled.stick {c : Circuit} {on : Bool} (h : Controlled c on s s') :
    Controlled c (s.flag c.name "_stuck_on" || on) s (s'.stick c) := by
  unfold TcsState.stick
  rw [h.flag c (by decide)]
  cases s.flag c.name "_stuck_on" with
  | true => exact h.trans (setHeater_controlled c true s')
  | false => exact h

/-- What drives a heater with a thermostat: being stuck on; or its line, with the hand or the
thermostat. -/
def TcsState.regulated (s : TcsState V) (c : Circuit) : Bool :=
  s.flag c.name "_stuck_on" ||
    (found.line c && if s.flag c.name "_manual" then s.heater c else s.asks c)

/-- **What drives a heater.**  That of the on-board computer has no thermostat, and does not
stick. -/
def TcsState.driven (s : TcsState V) : Circuit → Bool
  | .battery => s.regulated found .battery
  | .obc => found.line .obc && (!s.flag "obc" "_manual" || s.heater .obc)
  | .thruster => s.regulated found .thruster

theorem Controlled.of_eq {c : Circuit} {on on' : Bool} (h : Controlled c on s s') (heq : on = on') :
    Controlled c on' s s' := heq ▸ h

theorem controlBattery_controlled (s : TcsState V) :
    Controlled .battery (s.driven found .battery) s (s.controlBattery found) := by
  unfold controlBattery
  cases hline : found.line .battery with
  | true =>
      refine (thermostatControl_controlled .battery s).stick.of_eq ?_
      simp [TcsState.driven, regulated, hline]
  | false =>
      refine (setHeater_controlled .battery false s).stick.of_eq ?_
      simp [TcsState.driven, regulated, hline]

theorem controlObc_controlled (s : TcsState V) :
    Controlled .obc (s.driven found .obc) s (s.controlObc found) := by
  unfold controlObc
  cases hmanual : s.flag "obc" "_manual" with
  | true =>
      refine (setHeater_controlled .obc (s.heater .obc && found.line .obc) s).of_eq ?_
      simp [TcsState.driven, hmanual, Bool.and_comm]
  | false =>
      refine (setHeater_controlled .obc (found.line .obc) s).of_eq ?_
      simp [TcsState.driven, hmanual]

theorem controlThruster_controlled (s : TcsState V) :
    Controlled .thruster (s.driven found .thruster) s (s.controlThruster found) := by
  unfold controlThruster
  cases hline : found.line .thruster with
  | false =>
      refine (setHeater_controlled .thruster false s).stick.of_eq ?_
      simp [TcsState.driven, regulated, hline]
  | true =>
      cases hmanual : s.flag "thruster" "_manual" with
      | true =>
          refine (controlled_refl .thruster s).stick.of_eq ?_
          simp [TcsState.driven, regulated, hline, Circuit.name, hmanual]
      | false =>
          refine (thermostatControl_controlled .thruster s).stick.of_eq ?_
          simp [TcsState.driven, regulated, hline, Circuit.name, hmanual]

theorem control_controlled (c : Circuit) (s : TcsState V) :
    Controlled c (s.driven found c) s (s.control found c) := by
  cases c with
  | battery => exact controlBattery_controlled found s
  | obc => exact controlObc_controlled found s
  | thruster => exact controlThruster_controlled found s

/-- A heater is left alone, and so is all that drives it. -/
structure Untouched (c : Circuit) (s s' : TcsState V) : Prop where
  attributes : ∀ name, name ∉ heaterAttrs → s'.attributes.get? name = s.attributes.get? name
  thermostat : s'.thermostat = s.thermostat
  temp : s'.temp c = s.temp c
  heater : s'.heater c = s.heater c

theorem Untouched.trans {c : Circuit} {s s' s'' : TcsState V} (h : Untouched c s s')
    (h' : Untouched c s' s'') : Untouched c s s'' :=
  ⟨fun name hname => (h'.attributes name hname).trans (h.attributes name hname),
    h'.thermostat.trans h.thermostat, h'.temp.trans h.temp, h'.heater.trans h.heater⟩

theorem Controlled.untouched {c c' : Circuit} {on : Bool} {s s' : TcsState V}
    (h : Controlled c on s s') (hne : c' ≠ c) : Untouched c' s s' :=
  ⟨h.attributes, h.thermostat, congrFun h.temp c', h.other hne⟩

theorem warm_untouched {c c' : Circuit} (hne : c' ≠ c) (s : TcsState V) :
    Untouched c' s (s.warm k found c) :=
  ⟨fun _ _ => rfl, rfl, Function.update_of_ne hne _ _, rfl⟩

theorem cool_untouched (c : Circuit) (s : TcsState V) : Untouched c s (s.cool found) :=
  ⟨fun _ _ => rfl, rfl, rfl, rfl⟩

/-- What drives a heater that is left alone. -/
theorem Untouched.driven {c : Circuit} (h : Untouched c s s') :
    s'.driven found c = s.driven found c := by
  have hflag {suffix : String} (hsuffix : suffix ∈ suffixes) :
      s'.flag c.name suffix = s.flag c.name suffix := by
    unfold TcsState.flag
    rw [h.attributes _ (suffixed_not_heater c hsuffix)]
  have hnumber (suffix : String) (hsuffix : suffix ∈ suffixes) (x : FloatValue) :
      s'.number (attr c.name suffix) x = s.number (attr c.name suffix) x := by
    unfold number
    rw [h.attributes _ (suffixed_not_heater c hsuffix)]
  have hasks : s'.asks c = s.asks c := by
    unfold asks
    dsimp only
    rw [hflag (by decide), hnumber "_setpoint_on_c" (by decide),
      hnumber "_setpoint_off_c" (by decide), h.thermostat, h.temp, h.heater]
  have hregulated : s'.regulated found c = s.regulated found c := by
    unfold regulated
    rw [hflag (by decide), hflag (by decide), h.heater, hasks]
  cases c with
  | battery | thruster => exact hregulated
  | obc =>
      have hmanual : s'.flag "obc" "_manual" = s.flag "obc" "_manual" := hflag (by decide)
      unfold TcsState.driven
      rw [hmanual, h.heater]

/-! ### Ticks -/

/-- What drives a heater in a tick. -/
def TcsState.drives (s : TcsState V) (c : Circuit) : Bool := (s.couple found).driven found c

/-- The turn of a heater comes with all that drives it as it was. -/
theorem heating_controlled (c : Circuit) (s : TcsState V) :
    ∃ s', Untouched c (s.couple found) s' ∧
      Controlled c (s.drives found c) s' (s.heating k found c) := by
  have hbattery := control_controlled found .battery (s.couple found)
  have hobc := control_controlled found .obc ((s.atBattery found).warm k found .battery)
  have hthruster := control_controlled found .thruster
    (((s.atObc k found).warm k found .obc).cool found)
  have hpastBattery (c' : Circuit) (hne : c' ≠ .battery) :
      Untouched c' (s.couple found) ((s.atBattery found).warm k found .battery) :=
    (hbattery.untouched hne).trans (warm_untouched k found hne _)
  have hpastObc (c' : Circuit) (hne : c' ≠ .obc) :
      Untouched c' ((s.atBattery found).warm k found .battery)
        (((s.atObc k found).warm k found .obc).cool found) :=
    ((hobc.untouched hne).trans (warm_untouched k found hne _)).trans (cool_untouched found _ _)
  cases c with
  | battery => exact ⟨s.couple found, ⟨fun _ _ => rfl, rfl, rfl, rfl⟩, hbattery⟩
  | obc =>
      have hturn := hpastBattery .obc (by decide)
      exact ⟨_, hturn, hobc.of_eq (hturn.driven found)⟩
  | thruster =>
      have hturn := (hpastBattery .thruster (by decide)).trans (hpastObc .thruster (by decide))
      exact ⟨_, hturn, hthruster.of_eq (hturn.driven found)⟩

/-- A heater is on in its turn exactly when something drives it. -/
theorem heating_heater (c : Circuit) (s : TcsState V) :
    (s.heating k found c).heater c = s.drives found c := by
  obtain ⟨s', -, hcontrolled⟩ := heating_controlled k found c s
  exact hcontrolled.self

/-- A circuit is open in its turn exactly when it was. -/
theorem heating_open (c : Circuit) (s : TcsState V) :
    (s.heating k found c).flag c.name "_open_circuit" = s.flag c.name "_open_circuit" := by
  obtain ⟨s', huntouched, hcontrolled⟩ := heating_controlled k found c s
  rw [hcontrolled.flag c (by decide)]
  unfold TcsState.flag
  rw [huntouched.attributes _ (suffixed_not_heater c (by decide))]
  rfl

/-- **A heater heats in a tick**: its power is added to its node. -/
def TcsState.heats (s : TcsState V) (c : Circuit) : Bool := (s.heating k found c).gives c

theorem heats_eq (c : Circuit) (s : TcsState V) :
    s.heats k found c = (s.drives found c && !s.flag c.name "_open_circuit") := by
  unfold heats gives
  rw [heating_heater, heating_open]

/-- The attributes that are not set by heaters pass the heaters. -/
theorem heated_attributes (s : TcsState V) {name : String} (hname : name ∉ heaterAttrs) :
    (s.heated k found).attributes.get? name = s.attributes.get? name := by
  obtain ⟨s', huntouched, hcontrolled⟩ := heating_controlled k found .thruster s
  calc (s.heated k found).attributes.get? name
      = (s.atThruster k found).attributes.get? name := rfl
    _ = s'.attributes.get? name := hcontrolled.attributes name hname
    _ = (s.couple found).attributes.get? name := huntouched.attributes name hname

/-- Past its turn a heater stays as it was set. -/
theorem heated_heater (c : Circuit) (s : TcsState V) :
    (s.heated k found).heater c = s.drives found c := by
  rw [← heating_heater k found c s]
  have hobc := control_controlled found .obc ((s.atBattery found).warm k found .battery)
  have hthruster := control_controlled found .thruster
    (((s.atObc k found).warm k found .obc).cool found)
  cases c with
  | battery =>
      calc (s.heated k found).heater .battery
          = (s.atThruster k found).heater .battery := rfl
        _ = (s.atObc k found).heater .battery := hthruster.other (by decide)
        _ = (s.atBattery found).heater .battery := hobc.other (by decide)
  | obc =>
      calc (s.heated k found).heater .obc
          = (s.atThruster k found).heater .obc := rfl
        _ = (s.atObc k found).heater .obc := hthruster.other (by decide)
  | thruster => rfl

/-- The duty of a circuit has reached a limit below 100%. -/
def TcsState.limited (s : TcsState V) (c : Circuit) : Bool :=
  (s.dutyLimit c).lt (literal 100) && (s.dutyLimit c).le (s.duty c)

theorem limited_congr
    (h : ∀ name, name ∉ heaterAttrs → s'.attributes.get? name = s.attributes.get? name)
    (c : Circuit) : s'.limited c = s.limited c := by
  unfold limited dutyLimit duty number
  rw [h _ (suffixed_not_heater c (by decide)), h _ (duty_not_heater c)]

theorem limitDuty_controlled (c : Circuit) (s : TcsState V) :
    Controlled c (s.heater c && !s.limited c) s (s.limitDuty c) := by
  have hlimit : s.limitDuty c = if s.limited c then s.setHeater c false else s := rfl
  rw [hlimit]
  cases s.limited c with
  | true => exact (setHeater_controlled c false s).of_eq (Bool.and_false _).symm
  | false => exact (controlled_refl c s).of_eq (Bool.and_true _).symm

/-- The duty limits take off the heaters of the circuits that have reached theirs. -/
theorem limitDuty_heater (c : Circuit) (s : TcsState V) :
    (Circuit.all.foldl limitDuty s).heater c = (s.heater c && !s.limited c) := by
  have hfirst := limitDuty_controlled .battery s
  have hsecond := limitDuty_controlled .obc (s.limitDuty .battery)
  have hthird := limitDuty_controlled .thruster ((s.limitDuty .battery).limitDuty .obc)
  cases c with
  | battery =>
      exact (hthird.other (by decide)).trans ((hsecond.other (by decide)).trans hfirst.self)
  | obc =>
      refine (hthird.other (by decide)).trans (hsecond.self.trans ?_)
      rw [hfirst.other (by decide), limited_congr hfirst.attributes]
  | thruster =>
      refine hthird.self.trans ?_
      rw [hsecond.other (by decide), hfirst.other (by decide), limited_congr hsecond.attributes,
        limited_congr hfirst.attributes]

theorem trackDuty_heater (c c' : Circuit) (s : TcsState V) :
    (s.trackDuty found c).heater c' = s.heater c' := by
  unfold trackDuty heater TcsState.flag setAttr
  rw [Dict.get?_set_ne]
  intro h
  exact duty_not_heater c (h ▸ heater_mem c')

theorem trackDuties_heater (c : Circuit) (s : TcsState V) :
    (Circuit.all.foldl (trackDuty found) s).heater c = s.heater c := by
  unfold Circuit.all
  rw [List.foldl_cons, List.foldl_cons, List.foldl_cons, List.foldl_nil, trackDuty_heater,
    trackDuty_heater, trackDuty_heater]

theorem sumPower_heater (c : Circuit) (s : TcsState V) : (s.sumPower k).heater c = s.heater c := rfl

/-- **A heater is shown on after a tick** exactly when something drives it, and its duty has not
reached its limit. -/
theorem tick_heater (c : Circuit) (s : TcsState V) :
    (tick k found s).heater c = (s.drives found c && !s.limited c) := by
  unfold tick
  rw [sumPower_heater, trackDuties_heater, limitDuty_heater, heated_heater,
    limited_congr fun name hname => heated_attributes k found s hname]

/-! ### What is meant -/

/-- **A heater heats only when it may, and is shown to.**  It heats with its line on, its circuit
neither failed nor open, and its measured duty below its limit; and unless its circuit is open, it
is shown on exactly when it heats. -/
structure Lawful (s : TcsState V) (c : Circuit) : Prop where
  line : s.heats k found c = true → found.line c = true
  failed : s.heats k found c = true → s.flag c.name "_failed" = false
  whole : s.heats k found c = true → s.flag c.name "_open_circuit" = false
  duty : s.heats k found c = true → (s.duty c).lt (s.dutyLimit c) = true
  shown : s.flag c.name "_open_circuit" = false →
    (tick k found s).heater c = s.heats k found c

/-- **A heater heats out of turn.**  It is driven, and its circuit is whole; but its line is off, or
it has failed, or its duty is not below its limit. -/
structure Misheats (s : TcsState V) (c : Circuit) : Prop where
  driven : s.drives found c = true
  whole : s.flag c.name "_open_circuit" = false
  barred : found.line c = false ∨ s.flag c.name "_failed" = true ∨
    (s.duty c).lt (s.dutyLimit c) = false

/-- What is below a number is not at or above it. -/
theorem le_eq_false {x y : FloatValue} (h : x.lt y = true) : y.le x = false := by
  unfold FloatValue.le
  split
  · rfl
  · rfl
  · rw [h]
    rfl

/-- **A heater is lawful in a tick** exactly when it does not heat out of turn. -/
theorem lawful_iff (s : TcsState V) (c : Circuit) :
    Lawful k found s c ↔ ¬ Misheats found s c := by
  have hheats := heats_eq k found c s
  constructor
  · rintro h ⟨hdriven, hwhole, hbarred⟩
    rw [hdriven, hwhole] at hheats
    rcases hbarred with hline | hfailed | hduty
    · cases hline.symm.trans (h.line hheats)
    · cases hfailed.symm.trans (h.failed hheats)
    · cases hduty.symm.trans (h.duty hheats)
  · intro h
    cases hopen : s.flag c.name "_open_circuit" with
    | true =>
        rw [hopen, Bool.not_true, Bool.and_false] at hheats
        refine ⟨?_, ?_, ?_, ?_, ?_⟩
        all_goals simp [hheats, hopen]
    | false =>
        rw [hopen, Bool.not_false, Bool.and_true] at hheats
        cases hdriven : s.drives found c with
        | false =>
            refine ⟨?_, ?_, ?_, ?_, ?_⟩
            all_goals simp [hheats, hdriven, tick_heater]
        | true =>
            have hline : found.line c = true := by
              by_contra hoff
              exact h ⟨hdriven, hopen, .inl (by simpa using hoff)⟩
            have hfailed : s.flag c.name "_failed" = false := by
              by_contra hbad
              exact h ⟨hdriven, hopen, .inr (.inl (by simpa using hbad))⟩
            have hduty : (s.duty c).lt (s.dutyLimit c) = true := by
              by_contra hbad
              exact h ⟨hdriven, hopen, .inr (.inr (by simpa using hbad))⟩
            have hlimited : s.limited c = false := by
              unfold limited
              rw [le_eq_false hduty, Bool.and_false]
            refine ⟨fun _ => hline, fun _ => hfailed, fun _ => hopen, fun _ => hduty, fun _ => ?_⟩
            rw [tick_heater, hheats, hdriven, hlimited]
            rfl

/-! ### Runs -/

variable [Object V]

/-- **A tick in which a heater heats out of turn.** -/
inductive Disordered (s : TcsState V) : TcsEvent V → Prop
  | tick {found c} (h : Misheats found s c) : Disordered s (.tick found)

/-- Every heater is lawful in every tick of a run. -/
def HeatersLawful (s : TcsState V) (events : List (TcsEvent V)) : Prop :=
  ∀ i found, events[i]? = some (.tick found) →
    ∀ c, Lawful k found (Runs.after (step k) s (events.take i)) c

/-- A configuration with the heaters of the mission. -/
def missionConfig : TcsConfig where
  heaterPower
    | .battery => literal 6
    | .obc => literal 4
    | .thruster => literal 12
  fpaSetpointMin := (literal 20).neg
  fpaSetpointMax := literal 0
  fpaSetpointDefault := (literal 15).neg

/-- A tick with every line on, and the nodes at rest. -/
def poweredTick : TcsEvent Scalar :=
  .tick ⟨literal 1, fun _ => true, true, fun temp => temp, fun _ temp _ => temp⟩

/-- The heater of the on-board computer fails, and its line stays on. -/
def failedHeater : List (TcsEvent Scalar) :=
  [.inject (.heaterFailure (some (.word "obc")) true), poweredTick]

end Tcs
