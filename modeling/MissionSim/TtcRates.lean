import MissionSim.Runs
import MissionSim.TtcCommands
import Mathlib.Order.Bounds.Basic

/-!
# The commanded rate

The active tier is the highest tier, not above the commanded one, that the gates permit, or the
safe tier.  The commanded tier is the last that `set_tm_rate` accepted.

A tick in beacon mode writes the beacon tier over the commanded tier, and the radio does not
find its way back when the beacon mode ends.
-/

/-! ### The highest permitted rung -/

namespace Rungs

/-- The tier is the highest permitted one not above `commanded`, or there is none and it is the
safe tier. -/
def Resolves (permitted : Nat → Prop) (commanded safe tier : Nat) : Prop :=
  IsGreatest {i | i ≤ commanded ∧ permitted i} tier ∨
    (∀ i ≤ commanded, ¬ permitted i) ∧ tier = safe

variable (permitted : Nat → Prop) [DecidablePred permitted]

/-- The tier, computed. -/
def resolve (commanded safe : Nat) : Nat :=
  if permitted (Nat.findGreatest permitted commanded) then Nat.findGreatest permitted commanded
  else safe

variable {permitted}

theorem findGreatest_permitted {n i : Nat} (hi : i ≤ n) (h : permitted i) :
    permitted (Nat.findGreatest permitted n) := Nat.findGreatest_spec hi h

theorem resolves_iff {commanded safe tier : Nat} :
    Resolves permitted commanded safe tier ↔ tier = resolve permitted commanded safe := by
  unfold Resolves resolve
  by_cases h : permitted (Nat.findGreatest permitted commanded)
  · rw [if_pos h]
    have hgreatest : IsGreatest {i | i ≤ commanded ∧ permitted i}
        (Nat.findGreatest permitted commanded) := by
      refine ⟨⟨Nat.findGreatest_le commanded, h⟩, ?_⟩
      intro i hi
      exact Nat.le_findGreatest hi.1 hi.2
    constructor
    · intro hresolves
      rcases hresolves with htier | ⟨hnone, -⟩
      · exact htier.unique hgreatest
      · exact absurd h (hnone _ (Nat.findGreatest_le commanded))
    · intro htier
      rw [htier]
      exact .inl hgreatest
  · rw [if_neg h]
    have hnone : ∀ i ≤ commanded, ¬ permitted i :=
      fun i hi hp => h (findGreatest_permitted hi hp)
    constructor
    · intro hresolves
      rcases hresolves with htier | ⟨-, htier⟩
      · exact absurd htier.1.2 (hnone tier htier.1.1)
      · exact htier
    · intro htier
      exact .inr ⟨hnone, htier⟩

/-- A bound on the permitted rungs bounds the search. -/
theorem findGreatest_of_bound {m n : Nat} (hmn : m ≤ n) (h : ∀ i ≤ n, permitted i → i ≤ m) :
    Nat.findGreatest permitted m = Nat.findGreatest permitted n := by
  refine le_antisymm (Nat.findGreatest_mono_right permitted hmn) ?_
  by_cases hzero : Nat.findGreatest permitted n = 0
  · rw [hzero]
    exact Nat.zero_le _
  · have hp : permitted (Nat.findGreatest permitted n) := Nat.findGreatest_of_ne_zero rfl hzero
    exact Nat.le_findGreatest (h _ (Nat.findGreatest_le n) hp) hp

end Rungs

namespace Ttc

open Binary32 Python Effects Rungs

/-! ### The effective tier -/

/-- The gates let the safe tier through outside of beacon mode. -/
structure Ladder.SafeUngated (l : Ladder) : Prop where
  nominal : (l.tier l.safeTier).beaconOnly = false
  stowed : (l.tier l.safeTier).requiresAntenna = false
  anyMode : (l.tier l.safeTier).requiresDownlinkMode = false
  anyElevation : (literal 0).lt (l.tier l.safeTier).minElevationDeg = false

/-- The gates permit a tier in a state. -/
abbrev Permitted (l : Ladder) (s : TtcState) (index : Nat) : Prop :=
  tierPermissionError l index s = none

theorem Ladder.tier_of_lt (l : Ladder) {index : Nat} (h : index < l.tiers.length) :
    l.tiers[index]? = some (l.tier index) := by
  unfold Ladder.tier
  have hmin : min index (l.tiers.length - 1) = index := min_eq_left (Nat.le_sub_one_of_lt h)
  rw [List.getElem?_eq_getElem h, List.get_eq_getElem]
  simp only [hmin]

variable {l : Ladder}

theorem permitted_lt {s : TtcState} {index : Nat} (h : Permitted l s index) :
    index < l.tiers.length := by
  by_contra hout
  unfold Permitted tierPermissionError at h
  rw [List.getElem?_eq_none (not_lt.mp hout)] at h
  cases h

/-- A permitted tier is no beacon tier outside of beacon mode. -/
theorem permitted_nominal {s : TtcState} (hbeacon : s.beaconMode = false) {index : Nat}
    (h : Permitted l s index) : (l.tier index).beaconOnly = false := by
  have hlt := permitted_lt h
  unfold Permitted tierPermissionError at h
  rw [l.tier_of_lt hlt] at h
  by_contra hnot
  have honly : (l.tier index).beaconOnly = true := by simpa using hnot
  simp [hbeacon, honly] at h

theorem Ladder.SafeUngated.permitted (hsafe : l.SafeUngated) {s : TtcState}
    (hbeacon : s.beaconMode = false) : Permitted l s l.safeTier := by
  unfold Permitted tierPermissionError
  rw [l.tier_of_lt l.safe_lt]
  simp [hbeacon, hsafe.nominal, hsafe.stowed, hsafe.anyMode, hsafe.anyElevation]

/-- **The effective tier** resolves the commanded tier. -/
theorem effectiveTier_eq (hsafe : l.SafeUngated) {s : TtcState} (hbeacon : s.beaconMode = false)
    (hlt : s.dataRateMode < l.tiers.length) :
    effectiveTier l s = resolve (Permitted l s) s.dataRateMode l.safeTier := by
  have hclamp : min s.dataRateMode (l.tiers.length - 1) = s.dataRateMode :=
    min_eq_left (Nat.le_sub_one_of_lt hlt)
  unfold effectiveTier resolve
  rw [if_neg (by simp [hbeacon])]
  dsimp only
  rw [hclamp]
  generalize hidx : Nat.findGreatest (fun i => (l.tier i).beaconOnly = false) s.dataRateMode = idx
  -- no permitted tier is above the first tier that is no beacon tier
  have hbound : ∀ i ≤ s.dataRateMode, Permitted l s i → i ≤ idx := by
    intro i hi hp
    rw [← hidx]
    exact Nat.le_findGreatest hi (permitted_nominal hbeacon hp)
  have hle : idx ≤ s.dataRateMode := hidx ▸ Nat.findGreatest_le s.dataRateMode
  have hsame : Nat.findGreatest (Permitted l s) idx =
      Nat.findGreatest (Permitted l s) s.dataRateMode := findGreatest_of_bound hle hbound
  by_cases honly : (l.tier idx).beaconOnly
  · have hnone : ¬ Permitted l s (Nat.findGreatest (Permitted l s) s.dataRateMode) := by
      rw [← hsame]
      intro hp
      have hzero : idx = 0 := by
        by_contra hne
        have hnominal := Nat.findGreatest_of_ne_zero hidx hne
        rw [honly] at hnominal
        cases hnominal
      subst hzero
      rw [Nat.findGreatest_zero] at hp
      have hnominal := permitted_nominal hbeacon hp
      rw [honly] at hnominal
      cases hnominal
    have hstay : Nat.findGreatest (Permitted l s) l.safeTier = l.safeTier :=
      Nat.findGreatest_eq (hsafe.permitted hbeacon)
    rw [if_pos honly, if_neg hnone]
    rw [hstay]
    exact ite_self l.safeTier
  · rw [if_neg honly]
    rw [hsame]
    by_cases hp : Permitted l s (Nat.findGreatest (Permitted l s) s.dataRateMode)
    · rw [if_neg (not_not.mpr hp), if_pos hp]
    · rw [if_pos hp, if_neg hp]

/-! ### The commanded tier -/

variable (c : Config)

/-- What the gates and the resolution read. -/
def TtcState.gates (s : TtcState) : Bool × Bool × Bool × Bool × FloatValue × Nat :=
  (s.beaconMode, s.antennaDeployed, s.downlinkMode, s.linkActive, s.elevationDeg, s.dataRateMode)

/-- The tier that a `set_tm_rate` accepted in a state reports. -/
def acceptedTier (s : TtcState) : TtcEvent → Option Nat
  | .command cmd => (value? (handleCommand c cmd) s).bind Reply.dataRateMode
  | .tick _ _ _ _ | .inject _ _ | .clear _ | .device _ _ => none

/-- A tick in beacon mode. -/
def beaconTick (s : TtcState) : TtcEvent → Bool
  | .tick _ _ _ _ => s.beaconMode
  | .command _ | .inject _ _ | .clear _ | .device _ _ => false

/-- The radio, the last accepted tier, and whether a tick was made in beacon mode since. -/
structure Track where
  state : TtcState
  commanded : Nat
  overwritten : Bool

def Track.step (t : Track) (event : TtcEvent) : Track where
  state := Ttc.step c t.state event
  commanded := (acceptedTier c t.state event).getD t.commanded
  overwritten :=
    (acceptedTier c t.state event).isNone && (t.overwritten || beaconTick t.state event)

/-- The radio as it is configured. -/
def Track.start (s : TtcState) : Track := ⟨s, c.ladder.defaultTier, false⟩

variable {c}

theorem tierPermissionError_gates {s s' : TtcState} (h : s'.gates = s.gates) (index : Nat) :
    tierPermissionError l index s' = tierPermissionError l index s := by
  obtain ⟨hbeacon, hantenna, hdownlink, hlink, helevation, -⟩ := by
    simpa only [TtcState.gates, Prod.mk.injEq] using h
  unfold tierPermissionError
  rw [hbeacon, hantenna, hdownlink, hlink, helevation]

theorem effectiveTier_gates {s s' : TtcState} (h : s'.gates = s.gates) :
    effectiveTier l s' = effectiveTier l s := by
  obtain ⟨hbeacon, -, -, -, -, hrate⟩ := by
    simpa only [TtcState.gates, Prod.mk.injEq] using h
  unfold effectiveTier
  simp only [tierPermissionError_gates h, hbeacon, hrate]

/-- What a tick does to the commanded and to the active tier. -/
structure Resolved (l : Ladder) (s s' : TtcState) : Prop where
  beacon : s'.beaconMode = s.beaconMode
  commanded : s'.dataRateMode = if s.beaconMode then l.beaconTier else s.dataRateMode
  active : s'.tmTier = effectiveTier l s'

theorem Resolved.unchanged {s mid s' : TtcState} (h : Resolved l s mid)
    (hgates : s'.gates = mid.gates) (htier : s'.tmTier = mid.tmTier) : Resolved l s s' := by
  refine ⟨?_, ?_, ?_⟩
  · exact (congrArg Prod.fst hgates).trans h.beacon
  · exact (congrArg (fun g => g.2.2.2.2.2) hgates).trans h.commanded
  · rw [htier, h.active, effectiveTier_gates hgates]

theorem applyDevicePowerGates_gates (s : TtcState) :
    (applyDevicePowerGates s).gates = s.gates := by
  unfold applyDevicePowerGates
  split_ifs <;> rfl

theorem commandChannel_gates (dt : FloatValue) (s : TtcState) :
    (s.commandChannel dt).gates = s.gates := by
  unfold TtcState.commandChannel
  dsimp only
  split_ifs <;> rfl

/-- The geometry is taken and the tier resolved, in a state with the gates of the one before. -/
theorem place_resolved {s mid : TtcState} (hgates : mid.gates = s.gates)
    (inContact override : Bool) (orbitState : OrbitState) :
    let placed := mid.place c.ladder inContact override orbitState
    Resolved c.ladder s (applyTier c (effectiveTier c.ladder placed) placed) := by
  have hbeacon : mid.beaconMode = s.beaconMode := congrArg Prod.fst hgates
  have hrate : mid.dataRateMode = s.dataRateMode := congrArg (fun g => g.2.2.2.2.2) hgates
  intro placed
  refine ⟨hbeacon, ?_, ?_⟩
  · show (if mid.beaconMode then c.ladder.beaconTier else mid.dataRateMode) = _
    rw [hbeacon, hrate]
  · have hsame : (applyTier c (effectiveTier c.ladder placed) placed).gates = placed.gates := rfl
    rfl

/-- What follows the resolution in a tick leaves the tiers alone. -/
theorem tickEnd_unchanged (inContact : Bool) (dt : FloatValue) (radio : Radio) :
    Keeps (Unchanged fun s => (s.gates, s.tmTier)) (do
      modify (TtcState.acquireLock c inContact dt)
      fromExcept radio.linkBudget
      modify fun s => { s with
        rangingActive := inContact && (literal 0).lt s.rangeKm && s.frameSync }
      fromExcept radio.doppler
      let s ← get
      store (paTempAfter c inContact dt radio.noise s) fun x s => { s with paTemp := x }
      modify (TtcState.thermalSwitch c)
      modify fun s => { s with wasInContact := inContact } : TtcProgram Unit) := by
  refine keeps_bind (keeps_modify fun s => ?_) fun _ => ?_
  · unfold TtcState.acquireLock
    split_ifs <;> rfl
  refine keeps_bind (keeps_fromExcept _) fun _ => keeps_bind (keeps_modify fun _ => rfl) fun _ => ?_
  refine keeps_bind (keeps_fromExcept _) fun _ => keeps_bind keeps_get fun s => ?_
  refine keeps_bind (keeps_store fun _ _ => rfl) fun _ => ?_
  refine keeps_bind (keeps_modify fun s => ?_) fun _ => keeps_modify fun _ => rfl
  unfold TtcState.thermalSwitch
  dsimp only
  split_ifs <;> rfl

theorem tick_resolved (dt : FloatValue) (orbitState : OrbitState) (params : Dict Nat Value)
    (radio : Radio) (s : TtcState) :
    Resolved c.ladder s (finalState (tick c dt orbitState params radio) s) := by
  refine wp_state.mp ?_
  unfold tick
  rw [wp_bind, wp_modify, wp_bind, wp_get]
  generalize hgated : applyDevicePowerGates s = gated
  have hgates : (gated.transmit.commandChannel dt).gates = s.gates := by
    rw [commandChannel_gates, ← applyDevicePowerGates_gates s, hgated]
    rfl
  have hresolved := place_resolved (c := c) hgates
    ((orbitState.inContact || passOverride params) && rxAvailable gated) (passOverride params)
    orbitState
  refine wp_mono (tickEnd_unchanged _ dt radio _) ?_ ?_
  · intro _ s' hsame
    exact hresolved.unchanged (congrArg Prod.fst hsame) (congrArg Prod.snd hsame)
  · intro _ s' hsame
    exact hresolved.unchanged (congrArg Prod.fst hsame) (congrArg Prod.snd hsame)

/-! ### Commands -/

/-- The commanded tier after a command: the one it reports, if any. -/
structure Commanded (l : Ladder) (s s' : TtcState) (tier? : Option Nat) : Prop where
  rate : s'.dataRateMode = tier?.getD s.dataRateMode
  lt : ∀ idx, tier? = some idx → idx < l.tiers.length

theorem Commanded.of_unchanged {s s' : TtcState} (h : s'.dataRateMode = s.dataRateMode) :
    Commanded l s s' none := ⟨h, nofun⟩

/-- A command that leaves the commanded tier alone, and reports none. -/
theorem Commanded.of_ensures {x : TtcProgram Reply}
    (h : Ensures (Unchanged TtcState.dataRateMode) (fun r => r.dataRateMode = none) x)
    (s : TtcState) : wp x (fun r s' => Commanded c.ladder s s' r.dataRateMode)
      (fun _ s' => Commanded c.ladder s s' none) s := by
  refine wp_mono (h s) ?_ fun _ _ hs => .of_unchanged hs
  intro r s' hs
  rw [hs.2]
  exact .of_unchanged hs.1

theorem setTmRate_commanded (rate : Option RateArg) (s : TtcState) :
    wp (setTmRate c rate) (fun r s' => Commanded c.ladder s s' r.dataRateMode)
      (fun _ s' => Commanded c.ladder s s' none) s := by
  unfold setTmRate
  rw [wp_bind, wp_fromExcept]
  refine ⟨fun idx? _ => ?_, fun _ _ => .of_unchanged rfl⟩
  rw [wp_bind, wp_get]
  cases idx? with
  | none => exact .of_unchanged rfl
  | some idx =>
      cases hwhy : tierPermissionError c.ladder idx s with
      | some why =>
          simp only [hwhy]
          exact .of_unchanged rfl
      | none =>
          simp only [hwhy, wp_bind, wp_modify, wp_pure]
          refine ⟨rfl, fun idx' hidx => ?_⟩
          cases hidx
          exact permitted_lt hwhy

theorem handleCommand_commanded (cmd : TtcCommand) (s : TtcState) :
    wp (handleCommand c cmd) (fun r s' => Commanded c.ladder s s' r.dataRateMode)
      (fun _ s' => Commanded c.ladder s s' none) s := by
  have hwrite : ∀ f : TtcState → TtcState, (∀ s, (f s).dataRateMode = s.dataRateMode) →
      Ensures (Unchanged TtcState.dataRateMode) (fun r => r.dataRateMode = none) (write f) :=
    fun f hf => (keeps_modify hf).bind fun _ => ensures_pure rfl
  rcases handleCommand_aside cmd with hacting | haside
  · cases hacting with
    | setTmRate rate => exact setTmRate_commanded rate s
    | setDataRateMode mode => exact setTmRate_commanded mode s
    | paOff | cmdChannelStart =>
        refine Commanded.of_ensures ?_ s
        exact hwrite _ fun _ => rfl
    | paOn =>
        refine Commanded.of_ensures ?_ s
        refine keeps_get.bind fun s => ensures_ite (fun _ => ensures_pure rfl) fun _ => ?_
        exact hwrite _ fun _ => rfl
  · refine Commanded.of_ensures ?_ s
    exact haside.mono fun _ _ hsame => congrArg Prod.fst hsame

/-! ### Runs -/

/-- The invariant: the radio has the last accepted tier, or the beacon tier where a tick in beacon
mode has overwritten it. -/
structure Tracked (l : Ladder) (t : Track) : Prop where
  lt : t.commanded < l.tiers.length
  rate : t.state.dataRateMode = if t.overwritten then l.beaconTier else t.commanded

/-- An event that is no command and no tick in beacon mode. -/
theorem Tracked.aside {t : Track} (h : Tracked c.ladder t) {event : TtcEvent}
    (hnone : acceptedTier c t.state event = none) (hnominal : beaconTick t.state event = false)
    (hrate : (Ttc.step c t.state event).dataRateMode = t.state.dataRateMode) :
    Tracked c.ladder (t.step c event) := by
  refine ⟨?_, ?_⟩
  · simpa [Track.step, hnone] using h.lt
  · simpa [Track.step, hnone, hnominal] using hrate.trans h.rate

theorem Tracked.command {t : Track} (h : Tracked c.ladder t) (cmd : TtcCommand) :
    Tracked c.ladder (t.step c (.command cmd)) := by
  rcases wp_outcome (handleCommand_commanded (c := c) cmd t.state) with
    ⟨r, hreply, hcommanded⟩ | ⟨hreply, _, hcommanded⟩
  · have haccepted : acceptedTier c t.state (.command cmd) = r.dataRateMode := by
      simp [acceptedTier, hreply]
    cases hr : r.dataRateMode with
    | none =>
        rw [hr] at haccepted hcommanded
        exact h.aside haccepted rfl hcommanded.rate
    | some idx =>
        rw [hr] at haccepted hcommanded
        refine ⟨?_, ?_⟩
        · simpa [Track.step, haccepted] using hcommanded.lt idx rfl
        · simpa [Track.step, haccepted, Ttc.step] using hcommanded.rate
  · have haccepted : acceptedTier c t.state (.command cmd) = none := by
      simp [acceptedTier, hreply]
    exact h.aside haccepted rfl hcommanded.rate

theorem Tracked.step {t : Track} (h : Tracked c.ladder t) (event : TtcEvent) :
    Tracked c.ladder (t.step c event) := by
  cases event with
  | command cmd => exact h.command cmd
  | inject magnitude failure =>
      exact h.aside rfl rfl (congrArg Prod.fst ((injectFailure_aside magnitude failure).final t.state))
  | clear failure => exact h.aside rfl rfl (congrArg Prod.fst ((clearFailure_aside failure).final t.state))
  | device deviceId onOff =>
      exact h.aside rfl rfl (congrArg Prod.fst ((setDeviceState_aside deviceId onOff).final t.state))
  | tick dt orbitState params radio =>
      have hresolved := tick_resolved (c := c) dt orbitState params radio t.state
      cases hbeacon : t.state.beaconMode with
      | false =>
          refine h.aside rfl hbeacon ?_
          simpa [hbeacon, Ttc.step] using hresolved.commanded
      | true =>
          refine ⟨by simpa [Track.step, acceptedTier] using h.lt, ?_⟩
          simpa [Track.step, acceptedTier, beaconTick, hbeacon, Ttc.step] using
            hresolved.commanded

/-- **The active tier** after a tick outside of beacon mode, in any run: it resolves the last
accepted tier exactly when no tick in beacon mode has been made since, or the beacon tier resolves
to the same. -/
theorem activeTier_iff (hsafe : c.ladder.SafeUngated) {start : TtcState}
    (hstart : start.dataRateMode = c.ladder.defaultTier) (events : List TtcEvent)
    (dt : FloatValue) (orbitState : OrbitState) (params : Dict Nat Value) (radio : Radio) :
    let t := Runs.after (Track.step c) (.start c start)
      (events ++ [.tick dt orbitState params radio])
    t.state.beaconMode = false →
    (Resolves (Permitted c.ladder t.state) t.commanded c.ladder.safeTier t.state.tmTier ↔
      t.overwritten = false ∨
        resolve (Permitted c.ladder t.state) c.ladder.beaconTier c.ladder.safeTier =
          resolve (Permitted c.ladder t.state) t.commanded c.ladder.safeTier) := by
  intro t hbeacon
  have hstarted : Tracked c.ladder (.start c start) := ⟨c.ladder.default_lt, hstart⟩
  have htracked : Tracked c.ladder t :=
    Runs.invariant (P := Tracked c.ladder) (fun _ event h => h.step event) hstarted _
  have hlast : t = Track.step c (Runs.after (Track.step c) (.start c start) events)
      (.tick dt orbitState params radio) := Runs.after_concat _ _
  have hactive : t.state.tmTier = effectiveTier c.ladder t.state := by
    rw [hlast]
    exact (tick_resolved dt orbitState params radio _).active
  rw [resolves_iff, hactive]
  cases hover : t.overwritten with
  | false =>
      have hrate : t.state.dataRateMode = t.commanded := by simpa [hover] using htracked.rate
      rw [effectiveTier_eq hsafe hbeacon (by rw [hrate]; exact htracked.lt), hrate]
      simp
  | true =>
      have hrate : t.state.dataRateMode = c.ladder.beaconTier := by
        simpa [hover] using htracked.rate
      rw [effectiveTier_eq hsafe hbeacon (by rw [hrate]; exact c.ladder.beacon_lt), hrate]
      simp

/-! ### Flights -/

theorem flight_ungated : flightConfig.ladder.SafeUngated := ⟨rfl, rfl, rfl, by decide +kernel⟩

/-- A pass high above a station. -/
def highPass : OrbitState where
  inContact := true
  gsElevationDeg := literal 45
  gsRangeKm := literal 700

/-- A tick that raises nothing, without noise. -/
def quietTick : TtcEvent := .tick (literal 1) highPass Dict.empty ⟨.ok (), .ok (), literal 0⟩

/-- The antennas are deployed and the high rate is commanded for a dump. -/
def dump : List TtcEvent :=
  [.command .deployAntennas, .command (.setDownlinkMode none),
    .command (.setTmRate (some (.value (.int 1))))]

theorem dump_active :
    let t := Runs.after (Track.step flightConfig) (.start flightConfig {}) (dump ++ [quietTick])
    Resolves (Permitted flightConfig.ladder t.state) t.commanded flightConfig.ladder.safeTier
      t.state.tmTier ↔ t.overwritten = false ∨
        resolve (Permitted flightConfig.ladder t.state) flightConfig.ladder.beaconTier
            flightConfig.ladder.safeTier =
          resolve (Permitted flightConfig.ladder t.state) t.commanded
            flightConfig.ladder.safeTier :=
  activeTier_iff flight_ungated rfl dump _ _ _ _ (by decide +kernel)

/-- The high rate is commanded, and the beacon mode entered and left. -/
def dumpAndBeacon : List TtcEvent :=
  dump ++ [.command (.setBeaconMode none), quietTick,
    .command (.setBeaconMode (some (.int 0))), quietTick]

theorem dumpAndBeacon_forgotten :
    let t := Runs.after (Track.step flightConfig) (.start flightConfig {}) dumpAndBeacon
    t.state.beaconMode = false ∧ t.commanded = 2 ∧
      ¬ Resolves (Permitted flightConfig.ladder t.state) t.commanded flightConfig.ladder.safeTier
        t.state.tmTier := by
  intro t
  refine ⟨by decide +kernel, by decide +kernel, ?_⟩
  rw [resolves_iff]
  decide +kernel

end Ttc
