import MissionSim.BurnAuthority

/-!
# The account of delta-V

The engine ticks the model, lets it take commands, and then takes the pending impulse.  What it
has been handed, what is pending and what the burn in progress has integrated is compared with
all that was ever integrated, burn by burn.

There is one pending impulse.  A command that ends a burn while the impulse of the burn before is
pending overwrites it.
-/

namespace Propulsion

open Binary32 Python Effects PropState List

variable {T : Type} (c : Config) (lib : Library T)

/-- The delta-V of a burn, its increments added up as the model does. -/
def burnTotal (burn : List FloatValue) : FloatValue := burn.foldl FloatValue.add (literal 0)

/-- The model, and the magnitudes of the impulses the engine was handed, oldest first. -/
structure Account (T : Type) where
  state : PropState T
  handed : List FloatValue

/-- The impulse an event hands to the engine. -/
def handedBy (s : PropState T) : PropEvent T → Option (Impulse T)
  | .consume => (value? consumePendingImpulse s).join
  | _ => none

def Account.step (a : Account T) (event : PropEvent T) : Account T where
  state := Propulsion.step c lib a.state event
  handed := a.handed ++ ((handedBy a.state event).map Impulse.dvMagMS).toList

/-- The delta-V of the pending impulse. -/
def PropState.pendingDv (s : PropState T) : ℚ :=
  (s.pendingImpulse.map fun impulse => impulse.dvMagMS.rat).getD 0

/-- The delta-V of the burn in progress. -/
def PropState.progressDv (s : PropState T) : ℚ :=
  if s.state = .firing then s.burnDvMagMS.rat else 0

/-- All delta-V that was integrated. -/
def PropState.integratedDv (s : PropState T) : ℚ :=
  (s.burns.map fun burn => (burnTotal burn).rat).sum

/-- The account is balanced: nothing that was integrated is lost, and the lifetime sum of the model
is that of the impulses handed out. -/
structure Balanced (a : Account T) : Prop where
  sum : (a.handed.map FloatValue.rat).sum + a.state.pendingDv + a.state.progressDv =
    a.state.integratedDv
  accum : a.state.dvAccumMS = a.handed.foldl FloatValue.add (literal 0)

/-! ### The engine's order -/

/-- A velocity that `_burn_impulse` does not take for a missing one. -/
def Moving (orbitState : OrbitState T) : Prop := (lib.norm orbitState.velEci).lt (literal 1) = false

/-- A telecommand or a failure. -/
def IsOrder : PropEvent T → Prop
  | .command _ | .inject _ _ | .clear _ => True
  | .tick _ _ _ | .consume => False

/-- The runs of the engine, whose orders satisfy a condition on the state before them.  Between a
tick and the taking of the impulse, orders come in any number; a phase without the model goes
without the tick.  `ready` tells whether the impulse has been taken. -/
inductive EngineRun (allowed : PropState T → PropEvent T → Prop) (start : PropState T) :
    (ready : Bool) → Account T → Prop where
  | start : EngineRun allowed start true ⟨start, []⟩
  | tick {a : Account T} (dt : FloatValue) (orbitState : OrbitState T) (params : Dict Nat Value)
      (hdt : dt.NotNegative) (hmoving : Moving lib orbitState)
      (h : EngineRun allowed start true a) :
      EngineRun allowed start false (a.step c lib (.tick dt orbitState params))
  | skip {a : Account T} (h : EngineRun allowed start true a) : EngineRun allowed start false a
  | order {a : Account T} (event : PropEvent T) (horder : IsOrder event)
      (hallowed : allowed a.state event) (h : EngineRun allowed start false a) :
      EngineRun allowed start false (a.step c lib event)
  | consume {a : Account T} (h : EngineRun allowed start false a) :
      EngineRun allowed start true (a.step c lib .consume)

/-- A command that ends the burn that is firing while another impulse is pending. -/
def Overwrites (s : PropState T) (event : PropEvent T) : Prop :=
  s.state = .firing ∧ s.pendingImpulse ≠ none ∧
    (event = .command .abort ∨ event = .command .disarm ∨
      ∃ on, event = .command (.inhibitSet on) ∧ (on.getD (.int 1)).truthy = true)

/-! ### The invariant -/

/-- What the account reads of the model. -/
def PropState.book (s : PropState T) :
    Bool × Option (Impulse T) × FloatValue × List (List FloatValue) × FloatValue × FloatValue ×
      Option (OrbitState T) :=
  (s.state = .firing, s.pendingImpulse, s.burnDvMagMS, s.burns, s.dvAccumMS, s.perfFactor,
    s.lastOrbitState)

/-- The burns that have ended. -/
def PropState.ended (s : PropState T) : List (List FloatValue) :=
  if s.state = .firing then s.burns.tail else s.burns

/-- The invariant: what has ended is handed out or pending, and the burn in progress is integrated
from its first increment.  Between two ticks a new burn has no increment, and without an orbit
state neither. -/
structure Booked (s : PropState T) (handed : List FloatValue) : Prop where
  accum : s.dvAccumMS = handed.foldl FloatValue.add (literal 0)
  sum : (handed.map FloatValue.rat).sum + s.pendingDv =
    (s.ended.map fun burn => (burnTotal burn).rat).sum
  running : s.state = .firing → ∃ burn earlier, s.burns = burn :: earlier ∧
    s.burnDvMagMS = burnTotal burn
  started : s.state = .firing → s.pendingImpulse ≠ none → s.burns.head? = some []
  magnitude : s.burnDvMagMS.NotNegative
  factor : s.perfFactor.NotNegative
  moving : ∀ orbitState, s.lastOrbitState = some orbitState → Moving lib orbitState
  unplaced : s.state = .firing → s.lastOrbitState = none → s.burns.head? = some []

variable {c lib}

theorem burnTotal_nil : (burnTotal []).rat = 0 := by
  show (literal 0).rat = 0
  rw [literal_zero]
  simp [FloatValue.rat, dyadic]

theorem burnTotal_concat (burn : List FloatValue) (dv : FloatValue) :
    burnTotal (burn ++ [dv]) = (burnTotal burn).add dv := by
  unfold burnTotal
  rw [foldl_append]
  rfl

variable {handed : List FloatValue} {s s' : PropState T}

theorem Booked.of_book (h : Booked lib s handed) (hbook : s'.book = s.book) :
    Booked lib s' handed := by
  obtain ⟨hfiring, hpending, hdv, hburns, haccum, hfactor, horbit⟩ := by
    simpa only [book, Prod.mk.injEq] using hbook
  have hstate : s'.state = .firing ↔ s.state = .firing := by simpa using hfiring
  have hended : s'.ended = s.ended := by
    unfold ended
    simp only [hstate, hburns]
  have hpend : s'.pendingDv = s.pendingDv := by
    unfold pendingDv
    rw [hpending]
  refine ⟨haccum.trans h.accum, ?_, ?_, ?_, ?_, ?_, ?_, ?_⟩
  · rw [hended, hpend]
    exact h.sum
  · rw [hstate, hburns, hdv]
    exact h.running
  · rw [hstate, hburns, hpending]
    exact h.started
  · rw [hdv]
    exact h.magnitude
  · rw [hfactor]
    exact h.factor
  · rw [horbit]
    exact h.moving
  · rw [hstate, horbit, hburns]
    exact h.unplaced

variable {s : PropState T}

/-- The invariant says that the account is balanced. -/
theorem Booked.balanced (h : Booked lib s handed) : Balanced ⟨s, handed⟩ := by
  refine ⟨?_, h.accum⟩
  have hsum := h.sum
  unfold ended at hsum
  unfold progressDv integratedDv
  by_cases hfiring : s.state = .firing
  · obtain ⟨burn, earlier, hburns, hdv⟩ := h.running hfiring
    rw [if_pos hfiring, hburns, tail_cons] at hsum
    rw [if_pos hfiring, hsum, hburns, hdv, map_cons, sum_cons, add_comm]
  · rw [if_neg hfiring] at hsum
    rw [if_neg hfiring, add_zero, hsum]

/-! ### The end of a burn -/

variable {orbitState : Option (OrbitState T)}

/-- The impulse of a burn: it has the magnitude of the burn, or there is none and the burn has no
delta-V or the orbit state no velocity. -/
theorem burnImpulse_cases {impulse : Option (Impulse T)}
    (h : burnImpulse lib orbitState s = .ok impulse) :
    (∃ i, impulse = some i ∧ i.dvMagMS = s.burnDvMagMS) ∨
      impulse = none ∧ (s.burnDvMagMS.le (literal 0) = true ∨
        (lib.norm ((orbitState.map OrbitState.velEci).getD Vec3.zeros)).lt (literal 1) = true) := by
  unfold burnImpulse at h
  split_ifs at h with hzero hslow
  · exact .inr ⟨(Except.ok.inj h).symm, .inl hzero⟩
  · exact .inr ⟨(Except.ok.inj h).symm, .inr hslow⟩
  · obtain ⟨mid, -, hi⟩ := Python.bind_eq_ok.mp h
    exact .inl ⟨_, (Except.ok.inj hi).symm, rfl⟩

/-- The impulse of a burn that ends has all its delta-V. -/
theorem Booked.impulse (h : Booked lib s handed) (hfiring : s.state = .firing)
    (horbit : ∀ o, orbitState = some o → Moving lib o)
    (hnone : orbitState = none → s.lastOrbitState = none) {impulse : Option (Impulse T)}
    (himpulse : burnImpulse lib orbitState s = .ok impulse) :
    (impulse.map fun i => i.dvMagMS.rat).getD 0 = s.burnDvMagMS.rat := by
  rcases burnImpulse_cases himpulse with ⟨i, rfl, hi⟩ | ⟨rfl, hzero | hslow⟩
  · show i.dvMagMS.rat = _
    rw [hi]
  · exact (h.magnitude.rat_of_le_zero hzero).symm
  · cases orbitState with
    | some o => cases hslow.symm.trans (horbit o rfl)
    | none =>
        obtain ⟨burn, earlier, hburns, hdv⟩ := h.running hfiring
        have hhead := h.unplaced hfiring (hnone rfl)
        rw [hburns, head?_cons] at hhead
        cases hhead
        rw [hdv, burnTotal_nil]
        rfl

/-- **The end of a burn**: with no impulse pending, its delta-V becomes the pending one. -/
theorem Booked.ends {s s' : PropState T} {handed : List FloatValue} (h : Booked lib s handed)
    (hfiring : s.state = .firing) (hclear : s.pendingImpulse = none)
    {orbitState : Option (OrbitState T)} (horbit : ∀ o, orbitState = some o → Moving lib o)
    (hnone : orbitState = none → s.lastOrbitState = none) {impulse : Option (Impulse T)}
    (himpulse : burnImpulse lib orbitState s = .ok impulse)
    (hbook : s'.book = (false, impulse, s.burnDvMagMS, s.burns, s.dvAccumMS, s.perfFactor,
      s.lastOrbitState)) : Booked lib s' handed := by
  obtain ⟨hstate, hpending, hdv, hburns, haccum, hfactor, hlast⟩ := by
    simpa only [book, Prod.mk.injEq] using hbook
  have hidle : s'.state ≠ .firing := by simpa using hstate
  obtain ⟨burn, earlier, hsplit, htotal⟩ := h.running hfiring
  refine ⟨haccum.trans h.accum, ?_, fun hf => absurd hf hidle, fun hf => absurd hf hidle, ?_, ?_,
    ?_, fun hf => absurd hf hidle⟩
  · have hsum := h.sum
    unfold ended pendingDv at hsum ⊢
    rw [if_pos hfiring, hclear, hsplit, tail_cons] at hsum
    rw [if_neg hidle, hburns, hsplit, map_cons, sum_cons, hpending,
      h.impulse hfiring horbit hnone himpulse, htotal, ← hsum]
    simp [add_comm]
  · rw [hdv]
    exact h.magnitude
  · rw [hfactor]
    exact h.factor
  · rw [hlast]
    exact h.moving

theorem completeBurn_booked {s : PropState T} {handed : List FloatValue} (h : Booked lib s handed)
    (hfiring : s.state = .firing) (hclear : s.pendingImpulse = none) {orbitState : OrbitState T}
    (hmoving : Moving lib orbitState) :
    EndsIn (completeBurn lib orbitState) (Booked lib · handed) s := by
  unfold EndsIn completeBurn
  simp only [wp_bind, wp_fromExcept]
  refine ⟨fun impulse himpulse => ?_, fun _ _ => h⟩
  refine h.ends hfiring hclear (fun o ho => Option.some.inj ho ▸ hmoving) ?_ himpulse rfl
  intro hnone
  cases hnone

theorem abortBurn_booked (h : Booked lib s handed) (hfiring : s.state = .firing)
    (hclear : s.pendingImpulse = none) (reason : AbortReason)
    (hmoving : ∀ o, orbitState = some o → Moving lib o) :
    EndsIn (abortBurn lib reason orbitState) (Booked lib · handed) s := by
  unfold EndsIn abortBurn
  simp only [wp_bind, wp_when, wp_fromExcept, wp_modify]
  refine ⟨fun _ => ⟨fun impulse himpulse => ?_, fun _ _ => h⟩, fun hnot => absurd hfiring hnot⟩
  have horbit : ∀ o, orbitState.or s.lastOrbitState = some o → Moving lib o := by
    intro o ho
    cases orbitState with
    | some o' => exact hmoving o ho
    | none => exact h.moving o (by simpa using ho)
  have hnone : orbitState.or s.lastOrbitState = none → s.lastOrbitState = none := by
    intro hor
    exact (Option.or_eq_none_iff.mp hor).2
  refine h.ends hfiring hclear horbit hnone himpulse ?_
  split_ifs <;> rfl

/-! ### Integration -/

/-- The increment of a sub-step is not negative. -/
theorem slice_notNegative (hdry : c.scDryMassKg.NotNegative) (hfactor : s.perfFactor.NotNegative)
    {h : FloatValue} (hh : h.NotNegative) {x : Slice} (hx : slice c h s = .ok x) :
    x.dv.NotNegative := by
  obtain ⟨pBar, -, hx⟩ := Python.bind_eq_ok.mp hx
  obtain ⟨fN, hf, hx⟩ := Python.bind_eq_ok.mp hx
  obtain ⟨isp, -, hx⟩ := Python.bind_eq_ok.mp hx
  obtain ⟨mdot, -, hx⟩ := Python.bind_eq_ok.mp hx
  obtain ⟨a, ha, hx⟩ := Python.bind_eq_ok.mp hx
  obtain ⟨part, hcut, hx⟩ := Python.bind_eq_ok.mp hx
  cases hx
  have hthrust : fN.NotNegative := by
    obtain ⟨f, -, hf⟩ := Python.bind_eq_ok.mp hf
    cases hf
    exact (FloatValue.NotNegative.max_zero f).mul hfactor
  have hmass : (scMassKg c s).NotNegative := hdry.add (FloatValue.NotNegative.max_zero _)
  have hacceleration : a.NotNegative := hthrust.divide hmass ha
  have hduration : part.1.NotNegative := by
    have hpart : ∀ (limit : FloatValue) (part : FloatValue × Bool),
        (if limit.le h then (maxFloat limit (literal 0), true) else (h, false)) = part →
        part.1.NotNegative := by
      rintro limit part rfl
      split_ifs
      · exact FloatValue.NotNegative.max_zero limit
      · exact hh
    unfold cutOff at hcut
    split_ifs at hcut
    · obtain ⟨tNeed, -, hcut⟩ := Python.bind_eq_ok.mp hcut
      exact hpart tNeed _ (Except.ok.inj hcut)
    · exact hpart _ _ (Except.ok.inj hcut)
    · rw [← Except.ok.inj hcut]
      exact hh
  exact hacceleration.mul hduration

/-- What holds while a burn is integrated. -/
structure Integrating (lib : Library T) (handed : List FloatValue) (s : PropState T) : Prop where
  booked : Booked lib s handed
  firing : s.state = .firing
  clear : s.pendingImpulse = none
  placed : s.lastOrbitState ≠ none

theorem Integrating.burn (h : Integrating lib handed s) (theta : FloatValue) {x : Slice}
    (hx : x.dv.NotNegative) : Integrating lib handed (s.burn lib theta x) := by
  obtain ⟨hbooked, hfiring, hclear, hplaced⟩ := h
  obtain ⟨burn, earlier, hburns, hdv⟩ := hbooked.running hfiring
  have hcount : (s.burn lib theta x).burns = (burn ++ [x.dv]) :: earlier := by
    show countIncrement x.dv s.burns = _
    rw [hburns]
    rfl
  refine ⟨⟨hbooked.accum, ?_, fun _ => ⟨_, _, hcount, ?_⟩, fun _ hp => absurd hclear hp, ?_,
    hbooked.factor, hbooked.moving, fun _ hnone => absurd hnone hplaced⟩, hfiring, hclear, hplaced⟩
  · have hsum := hbooked.sum
    have hended : (s.burn lib theta x).ended = s.ended := by
      have hfiring' : (s.burn lib theta x).state = .firing := hfiring
      unfold ended
      rw [if_pos hfiring, if_pos hfiring', hcount, hburns, tail_cons, tail_cons]
    rw [hended]
    exact hsum
  · rw [burnTotal_concat, ← hdv]
    rfl
  · exact hbooked.magnitude.add hx

theorem burnSteps_integrating (hdry : c.scDryMassKg.NotNegative) (theta : FloatValue)
    {h : FloatValue} (hh : h.NotNegative) (n : Nat) (hs : Integrating lib handed s) :
    wp (burnSteps c lib theta h n) (fun _ s' => Integrating lib handed s')
      (fun _ s' => Integrating lib handed s') s := by
  induction n generalizing s with
  | zero => exact hs
  | succ n ih =>
      unfold burnSteps
      simp only [wp_bind, wp_get, wp_fromExcept, wp_modify]
      refine ⟨fun x hx => ?_, fun _ _ => hs⟩
      have hnext := hs.burn theta (slice_notNegative hdry hs.booked.factor hh hx)
      rw [wp_ite, wp_ite]
      exact ⟨fun _ => hnext, fun _ => ⟨fun _ => hnext, fun _ => ih hnext⟩⟩

/-- The integration of a tick, also where it ends the burn. -/
theorem integrateBurn_booked (hdry : c.scDryMassKg.NotNegative) {dt : FloatValue}
    (hdt : dt.NotNegative) {orbitState : OrbitState T} (hmoving : Moving lib orbitState)
    (hs : Integrating lib handed s) :
    EndsIn (integrateBurn c lib dt orbitState) (Booked lib · handed) s := by
  have horbit : ∀ o, some orbitState = some o → Moving lib o :=
    fun o ho => Option.some.inj ho ▸ hmoving
  unfold EndsIn integrateBurn
  rw [wp_bind, wp_get]
  cases abortCheck s with
  | some reason => exact abortBurn_booked hs.booked hs.firing hs.clear reason horbit
  | none =>
      simp only [wp_bind, wp_fromExcept]
      refine ⟨fun nSub _ => ?_, fun _ _ => hs.booked⟩
      refine wp_mono (burnSteps_integrating hdry _ (hdt.div_literal nSub 1) nSub hs) ?_
        fun _ s' h' => h'.booked
      intro done mid hmid
      rw [wp_get, wp_ite, wp_when]
      refine ⟨fun _ => ?_, fun _ => ⟨fun _ => ?_, fun _ => hmid.booked⟩⟩
      · exact completeBurn_booked hmid.booked hmid.firing hmid.clear hmoving
      · exact abortBurn_booked hmid.booked hmid.firing hmid.clear .lowP horbit

/-! ### Ticks -/

theorem readParams_book (params : Dict Nat Value) :
    Keeps (Unchanged fun s : PropState T => (s.book, s.state)) (readParams params) := by
  refine keeps_bind keeps_get fun s => keeps_bind (keeps_store fun _ _ => rfl) fun _ => ?_
  refine keeps_bind (keeps_store fun _ _ => rfl) fun _ => ?_
  refine keeps_bind (keeps_store fun _ _ => rfl) fun _ => ?_
  exact keeps_bind (keeps_store fun _ _ => rfl) fun _ => keeps_store fun _ _ => rfl

theorem leak_book (dt : FloatValue) (s : PropState T) : (s.leak dt).book = s.book := by
  unfold leak
  dsimp only
  split_ifs <;> rfl

theorem powerLoss_booked (h : Booked lib s handed) (hclear : s.pendingImpulse = none)
    {orbitState : OrbitState T} (hmoving : Moving lib orbitState) :
    EndsIn (powerLoss lib orbitState) (Booked lib · handed) s := by
  unfold EndsIn powerLoss
  rw [wp_bind, wp_get, wp_ite]
  refine ⟨fun hfiring => ?_, fun hidle => ?_⟩
  · exact abortBurn_booked h hfiring hclear .lowSoc fun o ho => Option.some.inj ho ▸ hmoving
  · simp only [wp_when]
    refine ⟨fun _ => h.of_book ?_, fun _ => h⟩
    simp [book, hidle]

/-- **A tick keeps the account**, when the impulse of the burn before has been taken. -/
theorem tick_booked (hdry : c.scDryMassKg.NotNegative) (h : Booked lib s handed)
    (hclear : s.pendingImpulse = none) {dt : FloatValue} (hdt : dt.NotNegative)
    {orbitState : OrbitState T} (hmoving : Moving lib orbitState) (params : Dict Nat Value) :
    EndsIn (tick c lib dt orbitState params) (Booked lib · handed) s := by
  have hend : ∀ s₂ : PropState T, Booked lib s₂ handed →
      EndsIn (do
        let s ← get
        store (tankPressure c s.mPropKg) fun p s => { s with tankPBar := p }
        modify fun s => { s with armInhibitMask := interlockMask c (s.state = .safed) s }) (Booked lib · handed) s₂ := by
    intro s₂ h₂
    simp only [wp_bind, wp_store]
    exact ⟨fun _ _ => h₂.of_book rfl, fun _ _ => h₂⟩
  have hplaced : Booked lib { s with lastOrbitState := some orbitState } handed := by
    refine ⟨h.accum, h.sum, h.running, h.started, h.magnitude, h.factor, ?_, ?_⟩
    · intro o ho
      exact Option.some.inj ho ▸ hmoving
    · intro _ hnone
      cases hnone
  unfold EndsIn tick
  rw [wp_bind, wp_modify, wp_bind]
  refine wp_mono (readParams_book params _) ?_ fun _ s₁ h₁ =>
    hplaced.of_book (congrArg Prod.fst h₁)
  intro _ s₁ h₁
  have hbook : s₁.book = book { s with lastOrbitState := some orbitState } :=
    congrArg Prod.fst h₁
  have hbooked := hplaced.of_book hbook
  have hclear₁ : s₁.pendingImpulse = none :=
    (congrArg (fun b => b.2.1) hbook).trans hclear
  rw [wp_bind, wp_when]
  refine ⟨fun _ => ?_, fun _ => ?_⟩
  · -- without power the burn has ended
    refine wp_mono (wp_and (powerLoss_moves lib orbitState s₁)
      (powerLoss_booked hbooked hclear₁ hmoving)) ?_ fun _ _ h' => h'.2
    rintro _ s₂ ⟨⟨-, hidle⟩, h₂⟩
    have hleak : (s₂.leak dt).state ≠ .firing := by
      have hsame := congrArg Control.state (leak_control dt s₂)
      exact fun hfiring => hidle (hsame.symm.trans hfiring)
    rw [wp_bind, wp_modify, wp_bind, wp_get, wp_bind, wp_when]
    exact ⟨fun hfiring => absurd hfiring hleak, fun _ => hend _ (h₂.of_book (leak_book dt s₂))⟩
  · have hleak := leak_book dt s₁
    rw [wp_bind, wp_modify, wp_bind, wp_get, wp_bind, wp_when]
    refine ⟨fun hfiring => ?_, fun _ => hend _ (hbooked.of_book hleak)⟩
    have hintegrating : Integrating lib handed (s₁.leak dt) := by
      refine ⟨hbooked.of_book hleak, hfiring, ?_, ?_⟩
      · exact (congrArg (fun b => b.2.1) hleak).trans hclear₁
      · have horbit : (s₁.leak dt).lastOrbitState = some orbitState :=
          congrArg (fun b => b.2.2.2.2.2.2) (hleak.trans hbook)
        rw [horbit]
        exact Option.some_ne_none _
    refine wp_mono (integrateBurn_booked hdry hdt hmoving hintegrating) ?_ fun _ _ h' => h'
    exact fun _ s₂ h₂ => hend s₂ h₂

/-! ### Orders -/

theorem setBurn_book (dvMS direction mode tStartCuc : Option Value) :
    Keeps (Unchanged book) (setBurn (T := T) c lib dvMS direction mode tStartCuc) := by
  refine keeps_bind (keeps_fromExcept _) fun dv => keeps_ite (fun _ => keeps_pure _) fun _ => ?_
  refine keeps_bind keeps_get fun s => keeps_bind (keeps_fromExcept _) fun remaining => ?_
  refine keeps_ite (fun _ => keeps_pure _) fun _ => keeps_ite (fun _ => keeps_pure _) fun _ => ?_
  refine keeps_bind (keeps_modify fun _ => rfl) fun _ => ?_
  refine keeps_bind (keeps_store fun _ _ => rfl) fun _ => ?_
  refine keeps_bind (keeps_store fun _ _ => rfl) fun _ => ?_
  refine keeps_bind (keeps_store fun _ _ => rfl) fun _ => keeps_bind keeps_get fun s' => ?_
  refine keeps_bind (keeps_store fun _ _ => rfl) fun _ => ?_
  exact keeps_bind (keeps_modify fun _ => rfl) fun _ => keeps_pure _

theorem iso_book (want : Valve) (branch : Option Value) :
    Keeps (Unchanged book) (iso (T := T) want branch) := by
  refine keeps_bind (keeps_fromExcept _) fun n => keeps_bind keeps_get fun s => ?_
  exact keeps_bind (keeps_modify fun _ => rfl) fun _ => keeps_pure _

theorem setLimits_book (attErrMaxDeg pMinBar catbedMaxC tBurnMaxS : Option Value) :
    Keeps (Unchanged book)
      (setLimits (T := T) attErrMaxDeg pMinBar catbedMaxC tBurnMaxS) := by
  refine keeps_bind keeps_get fun s => keeps_bind (keeps_store fun _ _ => rfl) fun _ => ?_
  refine keeps_bind (keeps_store fun _ _ => rfl) fun _ => ?_
  refine keeps_bind (keeps_store fun _ _ => rfl) fun _ => ?_
  exact keeps_bind (keeps_store fun _ _ => rfl) fun _ => keeps_pure _

theorem arm_book (armCode : Option Value) :
    Keeps (Unchanged book) (arm (T := T) c armCode) := by
  intro s
  unfold arm
  rw [wp_bind, wp_fromExcept]
  refine ⟨fun code _ => ?_, fun _ _ => rfl⟩
  rw [wp_bind, wp_get, wp_ite, wp_ite, wp_ite]
  refine ⟨fun _ => rfl, fun _ => ⟨fun _ => rfl, fun _ => ⟨fun _ => rfl, fun hsafed => ?_⟩⟩⟩
  rw [wp_bind, wp_modify]
  cases lowestInterlock (interlockMask c true s) with
  | some errorCode => rfl
  | none =>
      have hidle : s.state = .safed := not_not.mp hsafed
      simp [Unchanged, book, hidle]

theorem inhibitClr_book (arg : Option Value) :
    Keeps (Unchanged book) (inhibitClr (T := T) c arg) := by
  intro s
  unfold inhibitClr
  rw [wp_bind, wp_fromExcept]
  refine ⟨fun key _ => ?_, fun _ _ => rfl⟩
  rw [wp_ite]
  refine ⟨fun _ => rfl, fun _ => ?_⟩
  simp only [wp_bind, wp_modify, wp_get, wp_when]
  refine ⟨fun hinhibit => ?_, fun _ => rfl⟩
  simp [Unchanged, book, hinhibit]

/-- **The start of a burn**: nothing of it is integrated yet. -/
theorem Booked.starts {s s' : PropState T} {handed : List FloatValue} (h : Booked lib s handed)
    (hidle : s.state ≠ .firing)
    (hbook : s'.book = (true, s.pendingImpulse, literal 0, [] :: s.burns, s.dvAccumMS,
      s.perfFactor, s.lastOrbitState)) : Booked lib s' handed := by
  obtain ⟨hstate, hpending, hdv, hburns, haccum, hfactor, hlast⟩ := by
    simpa only [book, Prod.mk.injEq] using hbook
  have hfiring : s'.state = .firing := by simpa using hstate
  have hhead : s'.burns.head? = some [] := by rw [hburns, head?_cons]
  refine ⟨haccum.trans h.accum, ?_, fun _ => ⟨[], s.burns, hburns, hdv⟩, fun _ _ => hhead, ?_, ?_,
    ?_, fun _ _ => hhead⟩
  · have hsum := h.sum
    unfold ended pendingDv at hsum ⊢
    rw [if_neg hidle] at hsum
    rw [if_pos hfiring, hburns, tail_cons, hpending]
    exact hsum
  · rw [hdv]
    exact literal_notNegative 0 1
  · rw [hfactor]
    exact h.factor
  · rw [hlast]
    exact h.moving

theorem execute_booked (h : Booked lib s handed) :
    EndsIn execute (Booked lib · handed) s := by
  unfold EndsIn execute
  rw [wp_bind, wp_get, wp_ite]
  refine ⟨fun _ => h, fun harmed => ?_⟩
  have hidle : s.state ≠ .firing := by
    rw [not_not.mp harmed]
    decide
  exact h.starts hidle (by simp [book])

/-- A command that stops an armed thruster. -/
theorem Booked.stops (h : Booked lib s handed) (harmed : s.state = .armed)
    (hstate : s'.state ≠ .firing) (hbook : s'.book.2 = s.book.2) : Booked lib s' handed := by
  refine h.of_book (Prod.ext ?_ hbook)
  simp [book, hstate, harmed]

section Stops

variable {s : PropState T} {handed : List FloatValue}

/-- The ground's abort of a burn. -/
theorem groundAbort_booked (h : Booked lib s handed) (hfiring : s.state = .firing)
    (hclear : s.pendingImpulse = none) :
    EndsIn (abortBurn lib .ground none) (Booked lib · handed) s := by
  have hnone : ∀ o, (none : Option (OrbitState T)) = some o → Moving lib o := by
    intro o ho
    cases ho
  exact abortBurn_booked h hfiring hclear .ground hnone

theorem disarm_booked (h : Booked lib s handed)
    (hclear : s.state = .firing → s.pendingImpulse = none) :
    EndsIn (disarm lib) (Booked lib · handed) s :=
  wp_stops lib (fun hfiring => groundAbort_booked h hfiring (hclear hfiring))
    (fun harmed => h.stops harmed (by simp) rfl) h

theorem abort_booked (h : Booked lib s handed)
    (hclear : s.state = .firing → s.pendingImpulse = none) :
    EndsIn (abort lib) (Booked lib · handed) s :=
  wp_stops lib (fun hfiring => groundAbort_booked h hfiring (hclear hfiring))
    (fun harmed => h.stops harmed (by simp) rfl) h

theorem inhibitSet_booked (h : Booked lib s handed) (arg : Option Value)
    (hclear : s.state = .firing → (arg.getD (.int 1)).truthy = true → s.pendingImpulse = none) :
    EndsIn (inhibitSet lib arg) (Booked lib · handed) s := by
  unfold EndsIn inhibitSet
  rw [wp_bind, wp_modify, wp_bind, wp_get, wp_ite, wp_bind, wp_bind, wp_when]
  generalize hnoted : ({ s with groundInhibit := (arg.getD (.int 1)).truthy } : PropState T) = s₁
  have h₁ : Booked lib s₁ handed := by
    subst hnoted
    exact h.of_book rfl
  have hclear₁ : s₁.state = .firing → (arg.getD (.int 1)).truthy = true →
      s₁.pendingImpulse = none := by
    subst hnoted
    exact hclear
  refine ⟨fun ⟨hon, hfiring⟩ => ?_, fun _ => ⟨fun ⟨_, harmed⟩ => ?_, fun _ => h₁⟩⟩
  · exact groundAbort_booked h₁ hfiring (hclear₁ hfiring hon)
  · exact h₁.stops harmed (by simp) rfl

end Stops

/-- A command keeps the account, unless it ends a burn over a pending impulse. -/
theorem handleCommand_booked (h : Booked lib s handed) (cmd : PropCommand)
    (hheld : ¬ Overwrites s (.command cmd)) :
    EndsIn (handleCommand c lib cmd) (Booked lib · handed) s := by
  have hkeeps : ∀ {x : PropProgram T Reply}, Keeps (Unchanged book) x →
      EndsIn x (Booked lib · handed) s :=
    fun hx => wp_mono (hx s) (fun _ _ hs => h.of_book hs) (fun _ _ hs => h.of_book hs)
  have hclear : cmd = .abort ∨ cmd = .disarm ∨
      (∃ on, cmd = .inhibitSet on ∧ (on.getD (.int 1)).truthy = true) →
      s.state = .firing → s.pendingImpulse = none := by
    intro hcmd hfiring
    by_contra hpending
    refine hheld ⟨hfiring, hpending, ?_⟩
    simpa using hcmd
  cases cmd with
  | setBurn dvMS direction mode tStartCuc => exact hkeeps (setBurn_book dvMS direction mode tStartCuc)
  | arm armCode => exact hkeeps (arm_book armCode)
  | disarm => exact disarm_booked h (hclear (.inr (.inl rfl)))
  | execute => exact execute_booked h
  | abort => exact abort_booked h (hclear (.inl rfl))
  | isoOpen branch => exact hkeeps (iso_book .opened branch)
  | isoClose branch => exact hkeeps (iso_book .closed branch)
  | setLimits attErrMaxDeg pMinBar catbedMaxC tBurnMaxS =>
      exact hkeeps (setLimits_book attErrMaxDeg pMinBar catbedMaxC tBurnMaxS)
  | inhibitSet on =>
      refine inhibitSet_booked h on fun hfiring hon => ?_
      exact hclear (.inr (.inr ⟨on, rfl, hon⟩)) hfiring
  | inhibitClr key => exact hkeeps (inhibitClr_book key)
  | getStatus | unknown => exact h

/-! ### Failures and the engine -/

theorem Booked.refactor (h : Booked lib s handed) {factor : FloatValue}
    (hfactor : factor.NotNegative)
    (hbook : s'.book = book { s with perfFactor := factor }) : Booked lib s' handed := by
  have hset : Booked lib { s with perfFactor := factor } handed :=
    ⟨h.accum, h.sum, h.running, h.started, h.magnitude, hfactor, h.moving, h.unplaced⟩
  exact hset.of_book hbook

theorem setLatch_book (branch : Int) (f : Valve → Valve) (s : PropState T) :
    (s.setLatch branch f).book = s.book := by
  unfold setLatch
  split_ifs <;> rfl

theorem injectFailure_booked (h : Booked lib s handed) (magnitude : FloatValue)
    (failure : PropFailure) :
    EndsIn (injectFailure magnitude failure) (Booked lib · handed) s := by
  cases failure with
  | leak rateMgS =>
      unfold EndsIn injectFailure
      rw [wp_store]
      exact ⟨fun _ _ => h.of_book rfl, fun _ _ => h⟩
  | latchStuckOpen branch rateMgS =>
      unfold EndsIn injectFailure
      rw [wp_bind, wp_fromExcept]
      refine ⟨fun n _ => ?_, fun _ _ => h⟩
      have hlatch := h.of_book (setLatch_book n (fun _ => .fault) s)
      rw [wp_bind, wp_modify, wp_store]
      exact ⟨fun _ _ => hlatch.of_book rfl, fun _ _ => hlatch⟩
  | thrustDegraded =>
      exact h.refactor (FloatValue.NotNegative.max_zero _) rfl
  | tankOverpressure =>
      exact h.of_book rfl
  | unknown => exact h

theorem clearFailure_booked (h : Booked lib s handed) (failure : PropFailure) :
    EndsIn (clearFailure c failure) (Booked lib · handed) s := by
  cases failure with
  | leak rateMgS =>
      unfold EndsIn clearFailure
      rw [wp_modify]
      exact h.of_book rfl
  | latchStuckOpen branch rateMgS =>
      unfold EndsIn clearFailure
      rw [wp_bind, wp_fromExcept]
      refine ⟨fun n _ => ?_, fun _ _ => h⟩
      exact h.of_book (setLatch_book n _ s)
  | thrustDegraded =>
      exact h.refactor (literal_notNegative 1 1) rfl
  | tankOverpressure =>
      unfold EndsIn clearFailure
      rw [wp_bind, wp_get, wp_store]
      exact ⟨fun _ _ => h.of_book rfl, fun _ _ => h⟩
  | unknown => exact h

/-- What the account is after the engine has taken the impulse. -/
theorem Account.step_consume {taken : Option (Impulse T)}
    (h : consumePendingImpulse s = .ok taken s') :
    Account.step c lib ⟨s, handed⟩ .consume =
      ⟨s', handed ++ (taken.map Impulse.dvMagMS).toList⟩ := by
  have hstate : Propulsion.step c lib s .consume = s' := by
    unfold Propulsion.step PropEvent.perform
    rw [finalState_map]
    unfold finalState
    rw [h]
  have htaken : handedBy s .consume = taken := by
    unfold handedBy value?
    rw [h]
    rfl
  unfold Account.step
  rw [hstate, htaken]

/-- **The taking of the impulse**: what was pending is handed out.  It resets the integrators of a
burn that has no increment yet. -/
theorem Booked.consume (h : Booked lib s handed) : let a := Account.step c lib ⟨s, handed⟩ .consume
    Booked lib a.state a.handed ∧ a.state.pendingImpulse = none := by
  cases hpending : s.pendingImpulse with
  | none =>
      have hrun : consumePendingImpulse s = .ok none s := by
        unfold consumePendingImpulse
        rw [get_bind, hpending]
        rfl
      rw [Account.step_consume hrun, Option.map_none, Option.toList_none, append_nil]
      exact ⟨h, hpending⟩
  | some imp =>
      generalize hafter : ({ s with
        pendingImpulse := none, dvAccumMS := s.dvAccumMS.add imp.dvMagMS,
        burnDvMagMS := literal 0, burnDvAtMS := literal 0,
        burnDvLatMS := literal 0 } : PropState T) = s'
      have hrun : consumePendingImpulse s = .ok (some imp) s' := by
        subst hafter
        unfold consumePendingImpulse
        rw [get_bind, hpending]
        rfl
      have hstate : s'.state = s.state := by rw [← hafter]
      have hburns : s'.burns = s.burns := by rw [← hafter]
      have hclear : s'.pendingImpulse = none := by rw [← hafter]
      have hdv : s'.burnDvMagMS = literal 0 := by rw [← hafter]
      have haccum : s'.dvAccumMS = s.dvAccumMS.add imp.dvMagMS := by rw [← hafter]
      have hfactor : s'.perfFactor = s.perfFactor := by rw [← hafter]
      have hlast : s'.lastOrbitState = s.lastOrbitState := by rw [← hafter]
      have hhead : s'.state = .firing → s'.burns.head? = some [] := by
        intro hfiring
        rw [hburns]
        exact h.started (hstate.symm.trans hfiring) (by rw [hpending]; nofun)
      rw [Account.step_consume hrun]
      refine ⟨⟨?_, ?_, fun hfiring => ?_, fun _ hnone => absurd hclear hnone, ?_, ?_, ?_,
        fun hfiring _ => hhead hfiring⟩, hclear⟩
      · rw [haccum, h.accum]
        simp
      · have hsum := h.sum
        have hended : s'.ended = s.ended := by
          unfold ended
          rw [hstate, hburns]
        unfold pendingDv at hsum ⊢
        rw [hpending] at hsum
        rw [hended, hclear, ← hsum]
        simp
      · obtain ⟨burn, earlier, hsplit, -⟩ := h.running (hstate.symm.trans hfiring)
        have hempty := hhead hfiring
        rw [hburns, hsplit, head?_cons] at hempty
        cases hempty
        exact ⟨[], earlier, hburns.trans hsplit, hdv⟩
      · rw [hdv]
        exact literal_notNegative 0 1
      · rw [hfactor]
        exact h.factor
      · rw [hlast]
        exact h.moving

/-! ### Runs -/

/-- A new model has an empty account. -/
theorem Booked.fresh (hfresh : s.book = book {}) : Booked lib s [] := by
  have hidle : ({} : PropState T).state ≠ .firing := by
    show Mode.safed ≠ .firing
    decide
  have hunplaced : ({} : PropState T).lastOrbitState = none := rfl
  have hnew : Booked lib ({} : PropState T) [] := by
    refine ⟨rfl, ?_, fun hfiring => absurd hfiring hidle, fun hfiring => absurd hfiring hidle,
      literal_notNegative 0 1, literal_notNegative 1 1, ?_, fun hfiring => absurd hfiring hidle⟩
    · simp [pendingDv, ended]
    · intro o ho
      cases ho
  exact hnew.of_book hfresh

/-- An event by which nothing is handed out. -/
theorem Booked.step {a : Account T} {event : PropEvent T} (hnone : handedBy a.state event = none)
    (h : Booked lib (Propulsion.step c lib a.state event) a.handed) :
    Booked lib (a.step c lib event).state (a.step c lib event).handed := by
  unfold Account.step
  rw [hnone, Option.map_none, Option.toList_none, append_nil]
  exact h

theorem order_booked {a : Account T} (h : Booked lib a.state a.handed) {event : PropEvent T}
    (horder : IsOrder event) (hheld : ¬ Overwrites a.state event) :
    Booked lib (a.step c lib event).state (a.step c lib event).handed := by
  cases event with
  | tick | consume => cases horder
  | command cmd =>
      refine Booked.step rfl ?_
      rw [step_command]
      exact wp_state.mp (handleCommand_booked h cmd hheld)
  | inject magnitude failure =>
      refine Booked.step rfl ?_
      unfold Propulsion.step PropEvent.perform
      rw [finalState_map]
      exact wp_state.mp (injectFailure_booked h magnitude failure)
  | clear failure =>
      refine Booked.step rfl ?_
      unfold Propulsion.step PropEvent.perform
      rw [finalState_map]
      exact wp_state.mp (clearFailure_booked h failure)

/-- The run lemma: at every point of a run of the engine the invariant holds, and nothing is
pending once the engine has taken the impulse. -/
theorem EngineRun.booked {start : PropState T} (hdry : c.scDryMassKg.NotNegative)
    (hfresh : start.book = book {}) {ready : Bool} {a : Account T}
    (h : EngineRun c lib (fun s event => ¬ Overwrites s event) start ready a) :
    Booked lib a.state a.handed ∧ (ready = true → a.state.pendingImpulse = none) := by
  induction h with
  | start => exact ⟨.fresh hfresh, fun _ => congrArg (fun b => b.2.1) hfresh⟩
  | tick dt orbitState params hdt hmoving _ ih =>
      refine ⟨Booked.step rfl ?_, nofun⟩
      unfold Propulsion.step PropEvent.perform
      rw [finalState_map]
      exact wp_state.mp (tick_booked hdry ih.1 (ih.2 rfl) hdt hmoving params)
  | skip _ ih => exact ⟨ih.1, nofun⟩
  | order event horder hallowed _ ih => exact ⟨order_booked ih.1 horder hallowed, nofun⟩
  | consume _ ih =>
      obtain ⟨hbooked, hclear⟩ := ih.1.consume
      exact ⟨hbooked, fun _ => hclear⟩

/-- **No delta-V is lost** in a run of the engine in which no command ends a burn while the impulse
of the burn before is pending. -/
theorem deltaV_balanced {start : PropState T} (hdry : c.scDryMassKg.NotNegative)
    (hfresh : start.book = PropState.book {}) {ready : Bool} {a : Account T}
    (h : EngineRun c lib (fun s event => ¬ Overwrites s event) start ready a) : Balanced a :=
  (h.booked hdry hfresh).1.balanced

section Flight

theorem flight_dry : flightConfig.scDryMassKg.NotNegative := literal_notNegative 12 1

theorem second_notNegative : (literal 1).NotNegative := literal_notNegative 1 1

theorem flightOrbit_moving : Moving flightLibrary flightOrbit := by
  unfold Moving
  decide +kernel

/-- The account after events from a new model. -/
def accountAfter (events : List (PropEvent ℚ)) : Account ℚ :=
  events.foldl (Account.step flightConfig flightLibrary) ⟨{}, []⟩

/-- A burn of a centimetre per second is loaded, armed and executed in the first second, completes
in the next, and is handed out. -/
def burnAndTake : List (PropEvent ℚ) :=
  oneBurn ++ [.consume, .tick (literal 1) flightOrbit flightParams, .consume]

theorem burnAndTake_balanced : Balanced (accountAfter burnAndTake) := by
  have hload : ∀ (s : PropState ℚ) cmd, cmd ≠ .abort → cmd ≠ .disarm →
      (∀ on, cmd ≠ .inhibitSet on) → ¬ Overwrites s (.command cmd) := by
    rintro s cmd habort hdisarm hinhibit ⟨-, -, h⟩
    rcases h with h | h | ⟨on, h, -⟩
    · exact habort (PropEvent.command.inj h)
    · exact hdisarm (PropEvent.command.inj h)
    · exact hinhibit on (PropEvent.command.inj h)
  have hrun : EngineRun flightConfig flightLibrary (fun s event => ¬ Overwrites s event) {} true
      (accountAfter burnAndTake) := by
    refine .consume (.tick _ _ _ second_notNegative flightOrbit_moving (.consume ?_))
    refine .order _ trivial (hload _ _ nofun nofun nofun) ?_
    refine .order _ trivial (hload _ _ nofun nofun nofun) ?_
    refine .order _ trivial (hload _ _ nofun nofun nofun) ?_
    exact .tick _ _ _ second_notNegative flightOrbit_moving .start
  exact deltaV_balanced flight_dry rfl hrun

/-- The burn completes in the second tick, and before its impulse is taken the thruster is fired
again and the new burn aborted. -/
def burnAndAbort : List (PropEvent ℚ) :=
  oneBurn ++ [.consume, .tick (literal 1) flightOrbit flightParams, .command .execute,
    .command .abort]

theorem burnAndAbort_lost :
    ¬ ∀ ready a, EngineRun flightConfig flightLibrary (fun _ _ => True) {} ready a →
      Balanced a := by
  intro h
  have hrun : EngineRun flightConfig flightLibrary (fun _ _ => True) {} false
      (accountAfter burnAndAbort) := by
    refine .order _ trivial trivial (.order _ trivial trivial ?_)
    refine .tick _ _ _ second_notNegative flightOrbit_moving (.consume ?_)
    refine .order _ trivial trivial (.order _ trivial trivial (.order _ trivial trivial ?_))
    exact .tick _ _ _ second_notNegative flightOrbit_moving .start
  have hsum := (h false _ hrun).sum
  revert hsum
  decide +kernel

end Flight

end Propulsion
