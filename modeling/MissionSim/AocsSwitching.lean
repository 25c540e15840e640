import MissionSim.AocsOutputs
import MissionSim.AocsTrackers

/-!
# Equipment that is switched off and on again

S2 switching is meant to be reversible: in the first tick after a device is on again, the wheels and
the trackers are meant to be as if it had never been off, and no output to be as the gate forced it.

What the gates do to wheels and trackers depends on nothing but the number of calls, so both runs
are iterates of one small function.  An active wheel is marked inactive and a tracker is powered
off, and no tick takes either back.  An output stays forced where every call of the tick leaves it.
-/

namespace Aocs

open Binary32 Python Runs

variable {V : Type}

/-! ### What is supplied -/

/-- The wheels and the trackers, as the gates see them. -/
structure Supply where
  active : Fin 4 → Bool
  enabled : Fin 4 → Bool
  up : StUnit → Bool
  failed : StUnit → Bool
  deviceOn : Device → Bool

/-- The supply of a state. -/
def AocsState.supply (s : AocsState V) : Supply where
  active := s.activeWheels
  enabled := s.rwEnabled
  up u := (s.tracker u).status != .off
  failed u := (s.tracker u).failed
  deviceOn := s.deviceOn

namespace Supply

/-- The supply after a call. -/
def next (e : Supply) : Supply where
  active i := e.deviceOn (.wheel i) && e.active i
  enabled := e.active
  up u := e.deviceOn (.starTracker u) && (e.failed u || e.up u)
  failed := e.failed
  deviceOn := e.deviceOn

/-- The supply with a device switched. -/
def switch (d : Device) (on : Bool) (e : Supply) : Supply :=
  { e with deviceOn := Function.update e.deviceOn d on }

/-- **The supply after calls.**  Only the first call finds wheels that the second does not. -/
theorem iterate_next (e : Supply) (n : Nat) :
    next^[n + 1] e =
      { e.next with enabled := if n = 0 then e.active else e.next.active } := by
  induction n with
  | zero => rfl
  | succ n ih =>
      rw [Function.iterate_succ_apply', ih]
      have hactive (i : Fin 4) : (e.deviceOn (.wheel i) && e.next.active i) = e.next.active i := by
        simp [next]
      have hup (u : StUnit) :
          (e.deviceOn (.starTracker u) && (e.failed u || e.next.up u)) = e.next.up u := by
        unfold next
        dsimp only
        cases e.deviceOn (.starTracker u) <;> cases e.failed u <;> rfl
      show Supply.mk _ _ _ _ _ = Supply.mk _ _ _ _ _
      congr 1
      · exact funext hactive
      · exact funext hup

theorem switch_switch {d : Device} {e : Supply} (hon : e.deviceOn d = true) :
    (e.switch d false).switch d true = e := by
  unfold switch
  rw [Function.update_idem, ← hon, Function.update_eq_self]

variable (e : Supply) (d : Device) (m c : Nat)

/-- The supply after calls with a device off, and then calls with it on. -/
def cycled : Supply := next^[c + 1] ((next^[m + 1] (e.switch d false)).switch d true)

variable {e d}

theorem deviceOn_cycle (hon : e.deviceOn d = true) :
    ((next^[m + 1] (e.switch d false)).switch d true).deviceOn = e.deviceOn := by
  rw [iterate_next]
  show ((e.switch d false).switch d true).deviceOn = e.deviceOn
  rw [switch_switch hon]

theorem active_cycle (i : Fin 4) :
    ((next^[m + 1] (e.switch d false)).switch d true).active i =
      if d = .wheel i then false else e.next.active i := by
  rw [iterate_next]
  show (Function.update e.deviceOn d false (.wheel i) && e.active i) = _
  by_cases h : d = .wheel i
  · rw [if_pos h, h, Function.update_self]
    rfl
  · rw [if_neg h, Function.update_of_ne (Ne.symm h)]
    rfl

/-- **An active wheel whose device is switched off and on again is lost.** -/
theorem active_cycled (hon : e.deviceOn d = true) (i : Fin 4) :
    (e.cycled d m c).active i = if d = .wheel i then false else e.next.active i := by
  unfold cycled
  rw [iterate_next]
  show (_ && _) = _
  rw [deviceOn_cycle m hon, active_cycle]
  by_cases h : d = .wheel i
  · rw [if_pos h, Bool.and_false]
  · rw [if_neg h]
    unfold next
    simp

theorem enabled_cycled (hon : e.deviceOn d = true) (i : Fin 4) :
    (e.cycled d m c).enabled i = if d = .wheel i then false else e.next.active i := by
  have hactive := active_cycled m c hon i
  unfold cycled at hactive ⊢
  rw [iterate_next] at hactive ⊢
  by_cases hc : c = 0
  · rw [if_pos hc]
    exact active_cycle m i
  · rw [if_neg hc]
    exact hactive

/-- **A tracker whose device is switched off and on again comes up only as a failed one.** -/
theorem up_cycled (hon : e.deviceOn d = true) (u : StUnit) :
    (e.cycled d m c).up u = if d = .starTracker u then e.failed u else e.next.up u := by
  have hup : ((next^[m + 1] (e.switch d false)).switch d true).up u =
      if d = .starTracker u then false else e.next.up u := by
    rw [iterate_next]
    show (Function.update e.deviceOn d false (.starTracker u) && _) = _
    by_cases h : d = .starTracker u
    · rw [if_pos h, h, Function.update_self]
      rfl
    · rw [if_neg h, Function.update_of_ne (Ne.symm h)]
      rfl
  have hfailed : ((next^[m + 1] (e.switch d false)).switch d true).failed u = e.failed u := by
    rw [iterate_next]
    rfl
  unfold cycled
  rw [iterate_next]
  show (_ && (_ || _)) = _
  rw [deviceOn_cycle m hon, hup, hfailed]
  by_cases h : d = .starTracker u
  · rw [if_pos h, if_pos h, Bool.or_false, ← h, hon, Bool.true_and]
  · rw [if_neg h, if_neg h]
    unfold next
    dsimp only
    cases e.deviceOn (.starTracker u) <;> cases e.failed u <;> rfl

/-- A wheel is as without switching unless it was the device, and active. -/
theorem wheel_iff (hon : e.deviceOn d = true) (i : Fin 4) :
    (if d = .wheel i then false else e.next.active i) = e.next.active i ↔
      (d = .wheel i → e.active i = false) := by
  by_cases h : d = .wheel i
  · have hactive : e.next.active i = e.active i := by
      show (e.deviceOn (.wheel i) && e.active i) = e.active i
      rw [← h, hon, Bool.true_and]
    rw [if_pos h, hactive]
    exact ⟨fun hfalse _ => hfalse.symm, fun hfalse => (hfalse h).symm⟩
  · rw [if_neg h]
    exact iff_of_true rfl fun hd => absurd hd h

/-- A tracker is as without switching unless it was the device, and up without having failed. -/
theorem tracker_iff (hon : e.deviceOn d = true) (u : StUnit) :
    (if d = .starTracker u then e.failed u else e.next.up u) = e.next.up u ↔
      (d = .starTracker u → e.failed u = true ∨ e.up u = false) := by
  by_cases h : d = .starTracker u
  · have hup : e.next.up u = (e.failed u || e.up u) := by
      show (e.deviceOn (.starTracker u) && _) = _
      rw [← h, hon, Bool.true_and]
    rw [if_pos h, hup]
    cases e.failed u <;> cases e.up u <;> simp [h]
  · rw [if_neg h]
    exact iff_of_true rfl fun hd => absurd hd h

/-- The supply after the same calls without switching. -/
theorem iterate_uncycled (e : Supply) :
    next^[c + 1] (next^[m + 1] e) = { e.next with enabled := e.next.active } := by
  rw [← Function.iterate_add_apply, show c + 1 + (m + 1) = (c + 1 + m) + 1 from rfl, iterate_next,
    if_neg (by omega)]

end Supply

section Calls

variable (k : AocsConfig) (found : AocsPass) (s : AocsState V)

theorem failed_tick (dt : FloatValue) (blinded : Bool) (stars : Nat) (t : Tracker) :
    (t.tick dt blinded stars).failed = t.failed := by
  obtain ⟨status, numStars, bootTimer, failed⟩ := t
  cases failed with
  | true => rfl
  | false =>
      cases status with
      | off => rfl
      | booting =>
          show (if (literal 60).le (bootTimer.add dt) then _ else _ : Tracker).failed = false
          split <;> rfl
      | tracking | blind | failed => cases blinded <;> rfl

theorem up_tick (dt : FloatValue) (blinded : Bool) (stars : Nat) (t : Tracker) :
    ((t.tick dt blinded stars).status != .off) = (t.failed || t.status != .off) := by
  obtain ⟨status, numStars, bootTimer, failed⟩ := t
  cases failed with
  | true => rfl
  | false =>
      cases status with
      | off => rfl
      | booting =>
          show ((if (literal 60).le (bootTimer.add dt) then _ else _ : Tracker).status != .off) = _
          split <;> rfl
      | tracking | blind | failed => cases blinded <;> rfl

/-- **What a call makes of the supply depends on nothing else.** -/
theorem supply_pass : (pass k found s).1.supply = s.supply.next := by
  have hequipment := equipment_pass k found s
  have hactive : (pass k found s).1.activeWheels = s.supply.next.active :=
    congrArg Equipment.activeWheels hequipment
  have henabled : (pass k found s).1.rwEnabled = s.supply.next.enabled :=
    (congrArg Spinning.rwEnabled (spinning_pass k found s)).trans (activeWheels_before k found s)
  have hdevice : (pass k found s).1.deviceOn = s.supply.next.deviceOn :=
    congrArg Equipment.deviceOn hequipment
  have hup (u : StUnit) : (((pass k found s).1.tracker u).status != .off) = s.supply.next.up u := by
    rw [tracker_call]
    show _ = (s.deviceOn (.starTracker u) && _)
    cases s.deviceOn (.starTracker u) with
    | true => exact up_tick _ _ _ _
    | false => rfl
  have hfailed (u : StUnit) : ((pass k found s).1.tracker u).failed = s.supply.next.failed u := by
    rw [tracker_call]
    cases s.deviceOn (.starTracker u) with
    | true | false => exact failed_tick _ _ _ _
  unfold AocsState.supply
  rw [hactive, henabled, hdevice, funext hup, funext hfailed]
  rfl

theorem supply_passes (calls : List AocsPass) :
    (passes k s calls).1.supply = Supply.next^[calls.length] s.supply := by
  induction calls generalizing s with
  | nil => rfl
  | cons found rest ih =>
      exact (ih _).trans (congrArg _ (supply_pass k found s))

/-- The number of calls of a tick. -/
def AocsTick.count (t : AocsTick) : Nat := (t.calls k).toOption.elim 0 List.length

theorem supply_tick (t : AocsTick) :
    (tick k t s).1.supply = Supply.next^[t.count k] s.supply := by
  unfold tick AocsTick.count
  cases t.calls k with
  | ok calls => exact supply_passes k s calls
  | error e => rfl

theorem supply_setDeviceState {id : Nat} {d : Device} (h : Device.ofId id = some d) (on : Bool) :
    (s.setDeviceState id on).supply = s.supply.switch d on := by
  unfold AocsState.setDeviceState
  rw [h]
  rfl

variable [Object V]

theorem supply_ticks (ts : List AocsTick) :
    (after (step k) s (ts.map .tick)).supply =
      Supply.next^[(ts.map (·.count k)).sum] s.supply := by
  induction ts generalizing s with
  | nil => rfl
  | cons t rest ih =>
      rw [List.map_cons, List.map_cons, List.sum_cons, Nat.add_comm, Function.iterate_add_apply,
        ← supply_tick]
      exact ih (tick k t s).1

/-! ### Outputs over a tick -/

/-- Every call keeps an output. -/
def KeptBy (o : Output) : AocsState V → List AocsPass → Prop
  | _, [] => True
  | s, found :: rest => Keeps k found s o ∧ KeptBy o (pass k found s).1 rest

/-- Every call leaves an output. -/
def leftBy (o : Output) : AocsState V → List AocsPass → Bool
  | _, [] => true
  | s, found :: rest => s.leaves k found o && leftBy o (pass k found s).1 rest

omit [Object V] in
theorem forces_pass (o : Output) : (pass k found s).1.forces o = s.forces o := by
  have hequipment := equipment_pass k found s
  have hdevice : (pass k found s).1.deviceOn = s.deviceOn := congrArg Equipment.deviceOn hequipment
  have hst : (pass k found s).1.stSelected = s.stSelected :=
    congrArg Equipment.stSelected hequipment
  have hmag : (pass k found s).1.magSelect = s.magSelect := congrArg Equipment.magSelect hequipment
  unfold AocsState.forces AocsState.gyrosOff AocsState.magsOff
  rw [hdevice, hst, hmag]

variable {o : Output}

omit [Object V] in
theorem keptBy_iff (calls : List AocsPass) (hfree : s.forces o = false) :
    KeptBy k o s calls ↔ leftBy k o s calls = true := by
  induction calls generalizing s with
  | nil => exact iff_of_true trivial rfl
  | cons found rest ih =>
      have hrest := ih (pass k found s).1 ((forces_pass k found s o).trans hfree)
      unfold KeptBy leftBy
      rw [keeps_iff k found s hfree, hrest, Bool.and_eq_true]

omit [Object V] in
theorem write_read (hspeed : ∀ i, o ≠ .wheelSpeed i) : o.write (o.read s) s = s := by
  cases o with
  | wheelSpeed i => exact absurd rfl (hspeed i)
  | wheelCurrent i =>
      show ({ s with rwCurrent := Function.update s.rwCurrent i (s.rwCurrent i) } : AocsState V) = s
      rw [Function.update_eq_self]
  | stars u =>
      show ({ s with tracker := Function.update s.tracker u (s.tracker u) } : AocsState V) = s
      rw [Function.update_eq_self]
  | magUnit m =>
      show ({ s with magUnit := Function.update s.magUnit m (s.magUnit m) } : AocsState V) = s
      rw [Function.update_eq_self]
  | duty a =>
      show ({ s with mtqDuty := Function.update s.mtqDuty a (s.mtqDuty a) } : AocsState V) = s
      rw [Function.update_eq_self]
  | stValid | rate | gyroBias | mag | magValid | cssSun | cssHeads | cssValid | gpsFix
  | gpsNumSats => rfl

omit [Object V] in
/-- An output that a call keeps is as it was. -/
theorem read_kept (hspeed : ∀ i, o ≠ .wheelSpeed i) (h : Keeps k found s o) :
    o.read (pass k found s).1 = o.read s := by
  have hkept := h (o.read s)
  rwa [write_read s hspeed] at hkept

omit [Object V] in
theorem read_keptBy (hspeed : ∀ i, o ≠ .wheelSpeed i) (calls : List AocsPass)
    (h : KeptBy k o s calls) : o.read (passes k s calls).1 = o.read s := by
  induction calls generalizing s with
  | nil => rfl
  | cons found rest ih =>
      exact (ih _ h.2).trans (read_kept k found s hspeed h.1)

/-- Every call of a tick keeps an output. -/
def KeptOver (o : Output) (t : AocsTick) : Prop := ∀ calls, t.calls k = .ok calls → KeptBy k o s calls

/-- Every call of a tick leaves an output. -/
def LeftOver (o : Output) (t : AocsTick) : Prop :=
  ∀ calls, t.calls k = .ok calls → leftBy k o s calls = true

omit [Object V] in
theorem keptOver_iff (t : AocsTick) (hfree : s.forces o = false) :
    KeptOver k s o t ↔ LeftOver k s o t :=
  forall_congr' fun calls => forall_congr' fun _ => keptBy_iff k s calls hfree

omit [Object V] in
theorem forces_passes (o : Output) (calls : List AocsPass) :
    (passes k s calls).1.forces o = s.forces o := by
  induction calls generalizing s with
  | nil => rfl
  | cons found rest ih =>
      exact (ih _).trans (forces_pass k found s o)

omit [Object V] in
theorem forces_tick (o : Output) (t : AocsTick) : (tick k t s).1.forces o = s.forces o := by
  unfold tick
  cases t.calls k with
  | ok calls => exact forces_passes k s o calls
  | error e => rfl

omit [Object V] in
/-- What a gate forces is null after a tick. -/
theorem null_tick {t : AocsTick} (h : s.forces o = true) (hends : Completes k t) :
    o.read (tick k t s).1 = o.null := by
  obtain ⟨calls, hcalls⟩ := hends
  obtain ⟨init, last, rfl⟩ := exists_last k hcalls
  rw [tick_calls k hcalls, passes_concat]
  exact read_forced k last _ ((forces_passes k s o init).trans h)

theorem forces_ticks (o : Output) (ts : List AocsTick) :
    (after (step k) s (ts.map .tick)).forces o = s.forces o := by
  induction ts generalizing s with
  | nil => rfl
  | cons t rest ih => exact (ih (tick k t s).1).trans (forces_tick k s o t)

/-- What a gate forces is null after ticks of which one runs. -/
theorem null_ticks (ts : List AocsTick) (h : s.forces o = true)
    (hnull : o.read s = o.null ∨ ∃ t ∈ ts, Completes k t) :
    o.read (after (step k) s (ts.map .tick)) = o.null := by
  induction ts generalizing s with
  | nil =>
      rcases hnull with hnull | ⟨t, ht, -⟩
      · exact hnull
      · cases ht
  | cons t rest ih =>
      have hforces : (tick k t s).1.forces o = true := (forces_tick k s o t).trans h
      refine ih (tick k t s).1 hforces ?_
      by_cases hends : Completes k t
      · exact .inl (null_tick k s h hends)
      · -- A tick that raises changes nothing.
        have hsame : (tick k t s).1 = s := by
          unfold tick
          cases hcalls : t.calls k with
          | ok calls => exact absurd ⟨calls, hcalls⟩ hends
          | error e => rfl
        rw [hsame]
        rcases hnull with hnull | ⟨t', ht', hends'⟩
        · exact .inl hnull
        · rcases List.mem_cons.mp ht' with rfl | hmem
          · exact absurd hends' hends
          · exact .inr ⟨t', hmem, hends'⟩

end Calls

/-! ### The two runs -/

/-- Ticks that differ only in what is found. -/
structure Alike (t t' : AocsTick) : Prop where
  dt : t.dt = t'.dt
  line : t.line = t'.line
  speed : t.speed = t'.speed
  eclipse : t.eclipse = t'.eclipse

/-- **A device is switched off and on again**, beside a run of the same ticks without switching. -/
structure Switching (k : AocsConfig) (s : AocsState V) where
  id : Nat
  device : Device
  isDevice : Device.ofId id = some device
  on : s.deviceOn device = true
  /-- The ticks while the device is off, in both runs. -/
  ticks : List AocsTick
  ticks' : List AocsTick
  alike : List.Forall₂ Alike ticks ticks'
  /-- The first tick with the device on again, in both runs. -/
  first : AocsTick
  first' : AocsTick
  alikeFirst : Alike first first'
  completes : Completes k first

theorem count_alike (k : AocsConfig) {t t' : AocsTick} (h : Alike t t') :
    t.count k = t'.count k := by
  have hsecular (dt : FloatValue) : t.secular k dt = t'.secular k dt := by
    unfold AocsTick.secular
    rw [h.speed]
  unfold AocsTick.count AocsTick.calls
  rw [hsecular, h.dt]
  split
  · cases ceilInt (t'.dt.div (literal 2)) with
    | error e => rfl
    | ok n =>
        show ((List.range n.toNat).map _).length = ((List.range n.toNat).map _).length
        rw [List.length_map, List.length_map]
  · rfl

theorem counts_alike (k : AocsConfig) {ts ts' : List AocsTick} (h : List.Forall₂ Alike ts ts') :
    (ts.map (·.count k)).sum = (ts'.map (·.count k)).sum := by
  induction h with
  | nil => rfl
  | cons h _ ih => exact congrArg₂ (· + ·) (count_alike k h) ih

theorem count_pos (k : AocsConfig) {t : AocsTick} (h : Completes k t) : 0 < t.count k := by
  obtain ⟨calls, hcalls⟩ := h
  obtain ⟨init, last, rfl⟩ := exists_last k hcalls
  unfold AocsTick.count
  rw [hcalls]
  show 0 < (init ++ [last]).length
  simp

theorem count_eq_zero (k : AocsConfig) {t : AocsTick} (h : ¬ Completes k t) : t.count k = 0 := by
  unfold AocsTick.count
  cases hcalls : t.calls k with
  | ok calls => exact absurd ⟨calls, hcalls⟩ h
  | error e => rfl

namespace Switching

variable [Object V] {k : AocsConfig} {s : AocsState V} (w : Switching k s)

/-- The run up to the last tick with the device off. -/
def down : AocsState V := after (step k) s (.switch w.id false :: w.ticks.map .tick)

/-- The run up to the first tick with the device on again. -/
def held : AocsState V :=
  after (step k) s (.switch w.id false :: w.ticks.map .tick ++ [.switch w.id true])

/-- The run with the first tick. -/
def switched : AocsState V :=
  after (step k) s
    (.switch w.id false :: w.ticks.map .tick ++ [.switch w.id true] ++ [.tick w.first])

/-- The run in which the device is never switched. -/
def unswitched : AocsState V := after (step k) s (w.ticks'.map .tick ++ [.tick w.first'])

/-- A call runs while the device is off. -/
def Gated : Prop := ∃ t ∈ w.ticks, Completes k t

/-- An output that a gate forces as long as the device is off, and does not once it is on. -/
def Released (o : Output) : Prop := w.down.forces o = true ∧ w.held.forces o = false

/-- An output is as a gate forced it. -/
def StillForced (o : Output) : Prop :=
  w.Gated ∧ w.Released o ∧ KeptOver k w.held o w.first

/-- **The equipment is restored.** -/
structure Restored : Prop where
  active : ∀ i, w.switched.activeWheels i = w.unswitched.activeWheels i
  enabled : ∀ i, w.switched.rwEnabled i = w.unswitched.rwEnabled i
  powered : ∀ u, ((w.switched.tracker u).status = .off ↔ (w.unswitched.tracker u).status = .off)
  free : ∀ o, ¬ w.StillForced o

/-- **What a gate takes away is made again.** -/
structure Restorable : Prop where
  wheel : ∀ i, w.device = .wheel i → s.activeWheels i = false
  tracker : ∀ u, w.device = .starTracker u →
    (s.tracker u).failed = true ∨ (s.tracker u).status = .off
  output : ∀ o, w.Released o → ¬ LeftOver k w.held o w.first

/-- The calls while the device is off. -/
def off : Nat := (w.ticks.map (·.count k)).sum

theorem held_eq : w.held = w.down.setDeviceState w.id true := after_concat _ _

theorem down_eq : w.down = after (step k) (s.setDeviceState w.id false) (w.ticks.map .tick) := rfl

theorem switched_eq : w.switched = (tick k w.first w.held).1 := after_concat _ _

theorem unswitched_eq :
    w.unswitched = (tick k w.first' (after (step k) s (w.ticks'.map .tick))).1 := after_concat _ _

theorem supply_held :
    w.held.supply =
      (Supply.next^[w.off] (s.supply.switch w.device false)).switch w.device true := by
  rw [held_eq, supply_setDeviceState _ w.isDevice, down_eq, supply_ticks,
    supply_setDeviceState _ w.isDevice]
  rfl

theorem supply_switched :
    w.switched.supply = Supply.next^[w.first.count k]
      ((Supply.next^[w.off] (s.supply.switch w.device false)).switch w.device true) := by
  rw [switched_eq, supply_tick, supply_held]

theorem supply_unswitched :
    w.unswitched.supply = Supply.next^[w.first.count k] (Supply.next^[w.off] s.supply) := by
  have hticks : (w.ticks'.map (·.count k)).sum = w.off := (counts_alike k w.alike).symm
  rw [unswitched_eq, supply_tick, supply_ticks, hticks, count_alike k w.alikeFirst]

omit [Object V] in
theorem gated_iff : w.Gated ↔ w.off ≠ 0 := by
  constructor
  · rintro ⟨t, ht, hends⟩ hzero
    have hcount := List.sum_eq_zero_iff.mp hzero (t.count k) (List.mem_map_of_mem ht)
    exact (count_pos k hends).ne' hcount
  · intro hoff
    by_contra hnone
    refine hoff (List.sum_eq_zero_iff.mpr fun n hn => ?_)
    obtain ⟨t, ht, rfl⟩ := List.mem_map.mp hn
    exact count_eq_zero k fun hends => hnone ⟨t, ht, hends⟩

/-- **Where no call runs while the device is off, nothing is lost.** -/
theorem supply_ungated (h : ¬ w.Gated) : w.switched.supply = w.unswitched.supply := by
  have hoff : w.off = 0 := by
    by_contra hne
    exact h (w.gated_iff.mpr hne)
  have hon : s.supply.deviceOn w.device = true := w.on
  rw [supply_switched, supply_unswitched, hoff]
  exact congrArg _ (Supply.switch_switch hon)

theorem supply_gated (h : w.Gated) :
    ∃ m c, w.switched.supply = s.supply.cycled w.device m c ∧
      w.unswitched.supply = { s.supply.next with enabled := s.supply.next.active } := by
  obtain ⟨m, hm⟩ := Nat.exists_eq_succ_of_ne_zero (w.gated_iff.mp h)
  obtain ⟨c, hc⟩ := Nat.exists_eq_succ_of_ne_zero (count_pos k w.completes).ne'
  refine ⟨m, c, ?_, ?_⟩
  · rw [supply_switched, hm, hc]
    rfl
  · rw [supply_unswitched, hm, hc]
    exact Supply.iterate_uncycled m c s.supply

theorem active_iff (h : w.Gated) (i : Fin 4) :
    w.switched.activeWheels i = w.unswitched.activeWheels i ↔
      (w.device = .wheel i → s.activeWheels i = false) := by
  obtain ⟨m, c, hswitched, hunswitched⟩ := w.supply_gated h
  have hactive : w.switched.activeWheels i = _ :=
    (congrFun (congrArg Supply.active hswitched) i).trans (Supply.active_cycled m c w.on i)
  have hactive' : w.unswitched.activeWheels i = s.supply.next.active i :=
    congrFun (congrArg Supply.active hunswitched) i
  rw [hactive, hactive']
  exact Supply.wheel_iff w.on i

theorem enabled_iff (h : w.Gated) (i : Fin 4) :
    w.switched.rwEnabled i = w.unswitched.rwEnabled i ↔
      (w.device = .wheel i → s.activeWheels i = false) := by
  obtain ⟨m, c, hswitched, hunswitched⟩ := w.supply_gated h
  have henabled : w.switched.rwEnabled i = _ :=
    (congrFun (congrArg Supply.enabled hswitched) i).trans (Supply.enabled_cycled m c w.on i)
  have henabled' : w.unswitched.rwEnabled i = s.supply.next.active i :=
    congrFun (congrArg Supply.enabled hunswitched) i
  rw [henabled, henabled']
  exact Supply.wheel_iff w.on i

omit [Object V] in
/-- Two trackers are both powered or both not. -/
theorem off_iff_off (s s' : AocsState V) (u : StUnit) :
    ((s.tracker u).status = .off ↔ (s'.tracker u).status = .off) ↔
      s.supply.up u = s'.supply.up u := by
  unfold AocsState.supply
  dsimp only
  cases (s.tracker u).status <;> cases (s'.tracker u).status <;> decide

theorem powered_iff (h : w.Gated) (u : StUnit) :
    ((w.switched.tracker u).status = .off ↔ (w.unswitched.tracker u).status = .off) ↔
      (w.device = .starTracker u →
        (s.tracker u).failed = true ∨ (s.tracker u).status = .off) := by
  obtain ⟨m, c, hswitched, hunswitched⟩ := w.supply_gated h
  have hup : w.switched.supply.up u = _ :=
    (congrFun (congrArg Supply.up hswitched) u).trans (Supply.up_cycled m c w.on u)
  have hup' : w.unswitched.supply.up u = s.supply.next.up u :=
    congrFun (congrArg Supply.up hunswitched) u
  have hoff : s.supply.up u = false ↔ (s.tracker u).status = .off := by
    show (_ != _) = false ↔ _
    rw [bne_eq_false_iff_eq]
  rw [off_iff_off, hup, hup', ← hoff]
  exact Supply.tracker_iff w.on u

/-- An output that is released stays forced where the tick leaves it. -/
theorem stillForced_iff (o : Output) :
    w.StillForced o ↔ w.Gated ∧ w.Released o ∧ LeftOver k w.held o w.first := by
  refine and_congr_right fun _ => and_congr_right fun hreleased => ?_
  exact keptOver_iff k w.held w.first hreleased.2

/-- **Switching restores the equipment exactly where no call runs meanwhile, or what a gate takes
away is made again.** -/
theorem restored_iff : w.Restored ↔ (w.Gated → w.Restorable) := by
  constructor
  · intro h hgated
    refine ⟨fun i => ?_, fun u => ?_, fun o hreleased hleft => ?_⟩
    · exact (w.active_iff hgated i).mp (h.active i)
    · exact (w.powered_iff hgated u).mp (h.powered u)
    · exact h.free o ((w.stillForced_iff o).mpr ⟨hgated, hreleased, hleft⟩)
  · intro h
    by_cases hgated : w.Gated
    · obtain ⟨hwheel, htracker, houtput⟩ := h hgated
      refine ⟨fun i => ?_, fun i => ?_, fun u => ?_, fun o hforced => ?_⟩
      · exact (w.active_iff hgated i).mpr (hwheel i)
      · exact (w.enabled_iff hgated i).mpr (hwheel i)
      · exact (w.powered_iff hgated u).mpr (htracker u)
      · obtain ⟨-, hreleased, hleft⟩ := (w.stillForced_iff o).mp hforced
        exact houtput o hreleased hleft
    · have hsupply := w.supply_ungated hgated
      refine ⟨fun i => ?_, fun i => ?_, fun u => ?_, fun o hforced => hgated hforced.1⟩
      · exact congrFun (congrArg Supply.active hsupply) i
      · exact congrFun (congrArg Supply.enabled hsupply) i
      · rw [off_iff_off, hsupply]

end Switching

section Example

/-- A wheel of a model at power-up is switched off for a tick. -/
def wheelCycle : Switching plainConfig ({} : AocsState Scalar) where
  id := 0x0200
  device := _
  isDevice := rfl
  on := rfl
  ticks := [{ dt := literal 1 }]
  ticks' := [{ dt := literal 1 }]
  alike := .cons ⟨rfl, rfl, rfl, rfl⟩ .nil
  first := { dt := literal 1 }
  first' := { dt := literal 1 }
  alikeFirst := ⟨rfl, rfl, rfl, rfl⟩
  completes := ⟨[AocsTick.call plainConfig { dt := literal 1 } (literal 1) 0], by
    have hshort : (literal 2).lt (literal 1) = false := by decide +kernel
    unfold AocsTick.calls
    rw [hshort, Bool.and_false]
    rfl⟩

/-- A wheel that is switched off for a tick stays inactive. -/
theorem wheelCycle_not_restored : ¬ wheelCycle.Restored := by
  intro h
  have hswitched : wheelCycle.switched.activeWheels 0 = false := by decide +kernel
  have hunswitched : wheelCycle.unswitched.activeWheels 0 = true := by decide +kernel
  have hsame := h.active 0
  rw [hswitched, hunswitched] at hsame
  cases hsame

/-- A torquer is switched off for a tick. -/
def torquerCycle : Switching plainConfig ({} : AocsState Scalar) :=
  { wheelCycle with id := 0x020B, device := _, isDevice := rfl, on := rfl }

end Example

end Aocs
