import MissionSim.Runs
import MissionSim.TmStorage

/-!
# The time stamps of the stores

A store keeps the time stamps of its oldest and its newest packet beside the packets.  The newest
one is set with every packet.  The oldest one is set with the first packet only, so it stays behind
when a full circular store gives its oldest packet up for another one.

The main result says of which runs the time stamps are those of the packets held.
-/

namespace TmStorage

open Python

section Stamped

variable {P : Type} (stamp : P → Rat)

/-- The operation stores no packet, or one with its own time stamp, and that is positive. -/
def Operation.Stamped : Operation P → Prop
  | .storePacket _ pkt timestamp => timestamp = stamp pkt ∧ 0 < timestamp
  | .storePacketDirect _ pkt timestamp => timestamp = stamp pkt ∧ 0 < timestamp
  | .storeAlarm pkt timestamp => timestamp = stamp pkt ∧ 0 < timestamp
  | _ => True

theorem Operation.Stamped.offer {op : Operation P} (h : op.Stamped stamp) {storeId : Nat} {pkt : P}
    {timestamp : Rat} (heffect : op.effectOn storeId = .offer pkt timestamp) :
    timestamp = stamp pkt ∧ 0 < timestamp := by
  have hguarded : ∀ {c : Prop} [Decidable c] {e : Effect P},
      (if c then e else .none) = .offer pkt timestamp → e = .offer pkt timestamp := by
    intro c _ e he
    split_ifs at he
    exact he
  cases op with
  | storePacket | storePacketDirect | storeAlarm =>
      cases hguarded heffect
      exact h
  | enableStore | disableStore | deleteStore => cases hguarded heffect
  | startDump | isOverflow => cases heffect

/-- The time stamp reported for a packet at one end of a store; zero for an empty store. -/
def stampOf (pkt : Option P) : Rat := (pkt.map stamp).getD 0

/-- The time stamps describe the contents: those of the first and the last packet, and zero exactly
for an empty store. -/
structure Store.Describes (s : Store P) : Prop where
  oldest : s.oldestTs = stampOf stamp s.packets.head?
  newest : s.newestTs = stampOf stamp s.packets.getLast?
  oldest_zero : s.oldestTs = 0 ↔ s.packets = []
  newest_zero : s.newestTs = 0 ↔ s.packets = []

/-- The time stamps are positive, and the newest one is that of the last packet. -/
structure Store.Dated (s : Store P) : Prop where
  positive : ∀ pkt ∈ s.packets, 0 < stamp pkt
  newest : s.newestTs = stampOf stamp s.packets.getLast?

/-- A full circular store gives its oldest packet up for one while the next one in it has another
time stamp. -/
def Store.Misdates (s : Store P) : Effect P → Prop
  | .offer _ _ => s.enabled = true ∧ s.circular = true ∧ s.capacity ≤ s.packets.length ∧
      ∃ a b rest, s.packets = a :: b :: rest ∧ stamp a ≠ stamp b
  | _ => False

variable {stamp}

theorem stampOf_eq_zero {packets : List P} {pkt : Option P} (hmem : ∀ p ∈ pkt, p ∈ packets)
    (hnone : pkt = none ↔ packets = []) (h : ∀ p ∈ packets, 0 < stamp p) :
    stampOf stamp pkt = 0 ↔ packets = [] := by
  cases pkt with
  | none => exact ⟨fun _ => hnone.mp rfl, fun _ => rfl⟩
  | some p =>
      have hpos := h p (hmem p rfl)
      refine ⟨fun hzero => ?_, fun hempty => ?_⟩
      · change stamp p = 0 at hzero
        rw [hzero] at hpos
        exact absurd hpos Rat.lt_irrefl
      · exact nomatch hnone.mpr hempty

/-- In a dated store only the oldest time stamp can be wrong. -/
theorem Store.Dated.describes_iff {s : Store P} (h : s.Dated stamp) :
    s.Describes stamp ↔ s.oldestTs = stampOf stamp s.packets.head? := by
  refine ⟨Store.Describes.oldest, fun holdest => ⟨holdest, h.newest, ?_, ?_⟩⟩
  · rw [holdest]
    exact stampOf_eq_zero (fun p hp => List.mem_of_mem_head? hp) List.head?_eq_none_iff h.positive
  · rw [h.newest]
    exact stampOf_eq_zero (fun p hp => List.mem_of_mem_getLast? hp) List.getLast?_eq_none_iff
      h.positive

/-! ### One packet -/

theorem Store.append_stamped (s : Store P) {pkt : P} (hpos : 0 < stamp pkt) :
    (s.append pkt (stamp pkt)).packets = s.packets ++ [pkt] ∧
      (s.append pkt (stamp pkt)).newestTs = stamp pkt ∧
      (s.append pkt (stamp pkt)).oldestTs =
        if s.packets = [] then stamp pkt else s.oldestTs := by
  unfold Store.append
  rw [if_pos hpos]
  refine ⟨rfl, rfl, ?_⟩
  cases hpackets : s.packets with
  | nil => rfl
  | cons a rest => simp

theorem Store.Dated.append {s : Store P} (h : ∀ p ∈ s.packets, 0 < stamp p) {pkt : P}
    (hpos : 0 < stamp pkt) : (s.append pkt (stamp pkt)).Dated stamp := by
  obtain ⟨hpackets, hnewest, -⟩ := s.append_stamped hpos
  refine ⟨fun p hp => ?_, ?_⟩
  · rw [hpackets, List.mem_append, List.mem_singleton] at hp
    rcases hp with hp | rfl
    · exact h p hp
    · exact hpos
  · rw [hnewest, hpackets, List.getLast?_concat]
    rfl

/-- After a packet the oldest time stamp is right where it was right without it. -/
theorem Store.append_oldest (s : Store P) {pkt : P} (hpos : 0 < stamp pkt) :
    (s.append pkt (stamp pkt)).oldestTs =
        stampOf stamp (s.append pkt (stamp pkt)).packets.head? ↔
      (s.packets ≠ [] → s.oldestTs = stampOf stamp s.packets.head?) := by
  obtain ⟨hpackets, -, holdest⟩ := s.append_stamped hpos
  rw [hpackets, holdest]
  cases s.packets with
  | nil | cons => simp [stampOf]

/-! ### One operation -/

theorem Store.Dated.apply {s : Store P} (h : s.Dated stamp) {e : Effect P}
    (hstamped : ∀ pkt timestamp, e = .offer pkt timestamp →
      timestamp = stamp pkt ∧ 0 < timestamp) : (s.apply e).Dated stamp := by
  cases e with
  | offer pkt timestamp =>
      obtain ⟨rfl, hpos⟩ := hstamped pkt timestamp rfl
      change (s.put pkt (stamp pkt)).1.Dated stamp
      unfold Store.put
      split
      · split
        · split
          · exact Store.Dated.append (fun p hp => h.positive p (List.mem_of_mem_drop hp)) hpos
          · exact ⟨h.positive, h.newest⟩
        · exact Store.Dated.append h.positive hpos
      · exact h
  | enable | disable => exact ⟨h.positive, h.newest⟩
  | delete => exact ⟨fun _ hp => absurd hp List.not_mem_nil, rfl⟩
  | none => exact h

/-- **One operation** on a store that its time stamps describe: they still describe it, unless it
misdates the store. -/
theorem Store.Describes.apply_iff {s : Store P} (h : s.Describes stamp) (hdated : s.Dated stamp)
    {e : Effect P} (hstamped : ∀ pkt timestamp, e = .offer pkt timestamp →
      timestamp = stamp pkt ∧ 0 < timestamp) :
    (s.apply e).Describes stamp ↔ ¬ s.Misdates stamp e := by
  have hafter := hdated.apply hstamped
  rw [hafter.describes_iff]
  cases e with
  | offer pkt timestamp =>
      obtain ⟨rfl, hpos⟩ := hstamped pkt timestamp rfl
      change (s.put pkt (stamp pkt)).1.oldestTs =
        stampOf stamp (s.put pkt (stamp pkt)).1.packets.head? ↔ _
      unfold Store.Misdates Store.put
      by_cases hon : s.enabled = true
      · rw [if_pos hon]
        by_cases hfull : s.capacity ≤ s.packets.length
        · rw [if_pos hfull]
          by_cases hring : s.circular = true
          · rw [if_pos hring, Store.append_oldest _ hpos]
            rw [h.oldest]
            cases hpackets : s.packets with
            | nil => simp
            | cons a rest =>
                cases rest with
                | nil => simp
                | cons b rest =>
                    rw [hpackets] at hfull
                    constructor
                    · rintro hsame ⟨-, -, -, a', b', rest', heq, hne⟩
                      cases heq
                      exact hne (hsame (List.cons_ne_nil b rest))
                    · intro hnever _
                      by_contra hne
                      exact hnever ⟨hon, hring, hfull, a, b, rest, rfl, hne⟩
          · rw [if_neg hring]
            exact ⟨fun _ hmisdates => hring hmisdates.2.1, fun _ => h.oldest⟩
        · rw [if_neg hfull, Store.append_oldest _ hpos]
          exact ⟨fun _ hmisdates => hfull hmisdates.2.2.1, fun _ _ => h.oldest⟩
      · rw [if_neg hon]
        exact ⟨fun _ hmisdates => hon hmisdates.1, fun _ => h.oldest⟩
  | enable | disable | none => exact ⟨fun _ => id, fun _ => h.oldest⟩
  | delete => exact ⟨fun _ => id, fun _ => rfl⟩

/-! ### Runs -/

variable (stamp) in
/-- The operation misdates one of the stores. -/
def Misdates (t : OnboardTMStorage P) (op : Operation P) : Prop :=
  ∃ storeId s, t.get? storeId = some s ∧ s.Misdates stamp (op.effectOn storeId)

variable (stamp) in
/-- The time stamps of every store describe it. -/
def AllDescribed (t : OnboardTMStorage P) : Prop :=
  ∀ storeId s, t.get? storeId = some s → s.Describes stamp

variable (stamp) in
def AllDated (t : OnboardTMStorage P) : Prop :=
  ∀ storeId s, t.get? storeId = some s → s.Dated stamp

theorem AllDated.step {t : OnboardTMStorage P} (h : AllDated stamp t) {op : Operation P}
    (hop : op.Stamped stamp) : AllDated stamp (step t op) := by
  intro storeId s' hs'
  rw [get?_step] at hs'
  obtain ⟨s, hs, rfl⟩ := Option.map_eq_some_iff.mp hs'
  exact (h storeId s hs).apply fun pkt timestamp heffect => hop.offer stamp heffect

/-- One operation on stores that are described: they still are, unless it misdates one. -/
theorem AllDescribed.step_iff {t : OnboardTMStorage P} (h : AllDescribed stamp t)
    (hdated : AllDated stamp t) {op : Operation P} (hop : op.Stamped stamp) :
    AllDescribed stamp (step t op) ↔ ¬ Misdates stamp t op := by
  have hstore : ∀ storeId s, t.get? storeId = some s →
      ((s.apply (op.effectOn storeId)).Describes stamp ↔
        ¬ s.Misdates stamp (op.effectOn storeId)) := fun storeId s hs =>
    (h storeId s hs).apply_iff (hdated storeId s hs) fun pkt timestamp heffect =>
      hop.offer stamp heffect
  constructor
  · rintro hafter ⟨storeId, s, hs, hmisdates⟩
    refine (hstore storeId s hs).mp (hafter storeId _ ?_) hmisdates
    rw [get?_step, hs, Option.map_some]
  · intro hnever storeId s' hs'
    rw [get?_step] at hs'
    obtain ⟨s, hs, rfl⟩ := Option.map_eq_some_iff.mp hs'
    exact (hstore storeId s hs).mpr fun hmisdates => hnever ⟨storeId, s, hs, hmisdates⟩

/-- New stores are empty, with time stamps of zero. -/
theorem init_described (defs : Dict Nat StoreInfo) :
    AllDescribed stamp (init defs) ∧ AllDated stamp (init defs) := by
  have hnew : ∀ storeId s, (init defs : OnboardTMStorage P).get? storeId = some s →
      s.packets = [] ∧ s.oldestTs = 0 ∧ s.newestTs = 0 := by
    intro storeId s hs
    unfold init at hs
    rw [Dict.get?_mapItems] at hs
    obtain ⟨info, -, rfl⟩ := Option.map_eq_some_iff.mp hs
    exact ⟨rfl, rfl, rfl⟩
  constructor
  · intro storeId s hs
    obtain ⟨hpackets, holdest, hnewest⟩ := hnew storeId s hs
    constructor <;> simp [hpackets, holdest, hnewest, stampOf]
  · intro storeId s hs
    obtain ⟨hpackets, -, hnewest⟩ := hnew storeId s hs
    constructor <;> simp [hpackets, hnewest, stampOf]

/-- **The time stamps describe the stores throughout a run** exactly where no operation of it has a
full circular store of two packets or more replace its oldest packet by one of another time. -/
theorem described_iff (defs : Dict Nat StoreInfo) {ops : List (Operation P)}
    (hstamped : ∀ op ∈ ops, op.Stamped stamp) :
    (∀ i, AllDescribed stamp (run (init defs) (ops.take i))) ↔
      ∀ i, ¬ Runs.HappensAt step (init defs) ops (Misdates stamp) i := by
  have ⟨hdescribed, hdated⟩ : AllDescribed stamp (init defs) ∧ AllDated stamp (init defs) :=
    init_described defs
  have hall : ∀ i, AllDated stamp (Runs.after step (init defs) (ops.take i)) := fun i =>
    Runs.holds_between (Nat.zero_le i) hdated fun k op _ _ hop h =>
      h.step (hstamped op (List.mem_of_getElem? hop))
  constructor
  · rintro h i ⟨op, hop, hmisdates⟩
    have hnext := h (i + 1)
    change AllDescribed stamp (Runs.after step (init defs) (ops.take (i + 1))) at hnext
    rw [Runs.after_take_succ hop] at hnext
    exact (AllDescribed.step_iff (h i) (hall i) (hstamped op (List.mem_of_getElem? hop))).mp hnext
      hmisdates
  · intro hnever i
    refine Runs.holds_between (Nat.zero_le i) hdescribed fun k op _ _ hop h => ?_
    exact (AllDescribed.step_iff h (hall k) (hstamped op (List.mem_of_getElem? hop))).mpr
      fun hmisdates => hnever k ⟨op, hop, hmisdates⟩

end Stamped

/-- One packet in the circular housekeeping store. -/
theorem described_one :
    AllDescribed id (run (init defaultStores) [.storePacketDirect 1 (5 : Rat) 5]) := by
  refine (@described_iff _ id defaultStores [.storePacketDirect 1 (5 : Rat) 5]
    fun op hop => ?_).mpr (fun i hmisdates => ?_) 1
  · obtain rfl := List.mem_singleton.mp hop
    exact ⟨rfl, by decide⟩
  · obtain ⟨op, hop, storeId, s, hs, hbad⟩ := hmisdates
    rcases i with _ | i
    · obtain rfl := Option.some.inj hop
      have hempty : s.packets = [] := by
        change (init defaultStores : OnboardTMStorage Rat).get? storeId = some s at hs
        rw [init, Dict.get?_mapItems] at hs
        obtain ⟨info, -, rfl⟩ := Option.map_eq_some_iff.mp hs
        rfl
      revert hbad
      cases Operation.effectOn storeId (.storePacketDirect 1 (5 : Rat) 5) with
      | offer pkt timestamp =>
          rintro ⟨-, -, -, a, b, rest, hpackets, -⟩
          rw [hempty] at hpackets
          cases hpackets
      | enable | disable | delete | none => exact id
    · cases hop

/-- A circular store of two packets. -/
def pairStore : Dict Nat StoreInfo :=
  ⟨[(1, { capacity := some 2, circular := some true })], by decide⟩

/-- Three packets into a circular store of two: the first one is overwritten, and its time stamp is
still reported as the oldest. -/
theorem overwritten_still_oldest :
    let t := run (init pairStore) [.storePacketDirect 1 (1 : Rat) 1, .storePacketDirect 1 2 2,
      .storePacketDirect 1 3 3]
    (t.get? 1).map (fun s => (s.packets, s.oldestTs)) = some ([2, 3], 1) ∧ ¬ AllDescribed id t := by
  have hheld : ((run (init pairStore) [.storePacketDirect 1 (1 : Rat) 1,
      .storePacketDirect 1 2 2, .storePacketDirect 1 3 3]).get? 1).map
        (fun s => (s.packets, s.oldestTs)) = some ([2, 3], 1) := by
    decide +kernel
  refine ⟨hheld, fun hall => ?_⟩
  obtain ⟨s, hs, heq⟩ := Option.map_eq_some_iff.mp hheld
  obtain ⟨hpackets, holdest⟩ := Prod.mk.inj heq
  have hfirst := (hall 1 s hs).oldest
  rw [hpackets, holdest] at hfirst
  exact absurd hfirst (by decide)

end TmStorage
