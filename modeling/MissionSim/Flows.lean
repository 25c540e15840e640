import MissionSim.Timelines

/-!
# A store between boundaries

Rates that hold between boundaries fill a store and draw from it.  The run goes from boundary to
boundary: what flows in over a gap is stored, up to the limit, and then drawn.

Where nothing is spilled in a gap while something is drawn, the gap may be cut anywhere.  So more
boundaries make no difference to such a run (`run_refine`), and it spills only when it has been full
(`run_full`).
-/

namespace Timelines

variable {K : Type} [Field K] [LinearOrder K]

/-! ### Steps on end -/

namespace Store

variable [IsStrictOrderedRing K] {limit a b c d : K} {s : Store K}

omit [IsStrictOrderedRing K] in
/-- A step from which nothing is drawn. -/
theorem step_still (hkept : 0 ≤ min (s.level + a) limit) :
    s.step limit a 0 =
      ⟨min (s.level + a) limit, s.spilled + (s.level + a - min (s.level + a) limit), s.drawn⟩ := by
  unfold step
  dsimp only
  rw [min_eq_right hkept, sub_zero, add_zero]

omit [IsStrictOrderedRing K] in
/-- A step that spills nothing. -/
theorem step_roomy (hroom : s.level + a ≤ limit) :
    s.step limit a b =
      ⟨s.level + a - min (s.level + a) b, s.spilled, s.drawn + min (s.level + a) b⟩ := by
  unfold step
  dsimp only
  rw [min_eq_left hroom, sub_self, add_zero]

/-- Two steps from which nothing is drawn. -/
theorem step_step_still (hs : 0 ≤ s.level ∧ s.level ≤ limit) (ha : 0 ≤ a) (hc : 0 ≤ c) :
    (s.step limit a 0).step limit c 0 = s.step limit (a + c) 0 := by
  have hlimit := hs.1.trans hs.2
  have hkept : 0 ≤ min (s.level + a) limit := le_min (add_nonneg hs.1 ha) hlimit
  have hkept' : 0 ≤ min (min (s.level + a) limit + c) limit := le_min (add_nonneg hkept hc) hlimit
  have hwhole : 0 ≤ min (s.level + (a + c)) limit :=
    le_min (add_nonneg hs.1 (add_nonneg ha hc)) hlimit
  have hmin : min (min (s.level + a) limit + c) limit = min (s.level + (a + c)) limit := by
    rcases le_total (s.level + a) limit with hle | hle
    · rw [min_eq_left hle, add_assoc]
    · rw [min_eq_right hle, min_eq_right (le_add_of_nonneg_right hc),
        min_eq_right (by linarith)]
  rw [step_still hkept, step_still hkept', step_still hwhole]
  rw [hmin, Store.mk.injEq]
  refine ⟨rfl, ?_, rfl⟩
  ring

/-- Two steps that spill nothing, and both fill or both empty. -/
theorem step_step_roomy (hs : 0 ≤ s.level) (ha : 0 ≤ a) (hb : 0 ≤ b) (hc : 0 ≤ c)
    (hroom : s.level + a + c ≤ limit) (hsame : b ≤ a ∧ d ≤ c ∨ a ≤ b ∧ c ≤ d) :
    (s.step limit a b).step limit c d = s.step limit (a + c) (b + d) := by
  have hfirst : s.level + a ≤ limit := (le_add_of_nonneg_right hc).trans hroom
  have hgiven : 0 ≤ min (s.level + a) b := le_min (add_nonneg hs ha) hb
  have hsecond : s.level + a - min (s.level + a) b + c ≤ limit := by linarith
  have hwhole : s.level + (a + c) ≤ limit := by linarith
  have htotal : min (s.level + a) b + min (s.level + a - min (s.level + a) b + c) d =
      min (s.level + (a + c)) (b + d) := by
    rcases le_total b (s.level + a) with hle | hle
    · rw [min_eq_right hle]
      rcases le_total d (s.level + a - b + c) with hle' | hle'
      · rw [min_eq_right hle', min_eq_right (by linarith)]
      · rw [min_eq_left hle', min_eq_left (by linarith)]
        ring
    · rw [min_eq_left hle, sub_self, zero_add]
      rcases hsame with ⟨hba, hdc⟩ | ⟨hab, hcd⟩
      · rw [min_eq_right hdc, min_eq_right (by linarith)]
        linarith
      · rw [min_eq_left hcd, min_eq_left (by linarith)]
        ring
  rw [step_roomy hfirst, step_roomy hsecond, step_roomy hwhole, ← htotal]
  rw [Store.mk.injEq]
  refine ⟨?_, rfl, ?_⟩ <;> ring

/-- A step adds no more than flows in. -/
theorem step_below (hs : 0 ≤ s.level ∧ s.level ≤ limit) (ha : 0 ≤ a) (hb : 0 ≤ b) :
    (s.step limit a b).level ≤ s.level + a := by
  have hkept : 0 ≤ min (s.level + a) limit := le_min (add_nonneg hs.1 ha) (hs.1.trans hs.2)
  have hgiven : 0 ≤ min (min (s.level + a) limit) b := le_min hkept hb
  exact (sub_le_self _ hgiven).trans (min_le_left _ _)

/-- A store that takes in no less than is drawn does not fall. -/
theorem le_step (hs : 0 ≤ s.level ∧ s.level ≤ limit) (ha : 0 ≤ a) (hfill : b ≤ a)
    (hcalm : b = 0 ∨ s.level + a ≤ limit) : s.level ≤ (s.step limit a b).level := by
  rcases hcalm with rfl | hroom
  · rw [step_still (le_min (add_nonneg hs.1 ha) (hs.1.trans hs.2))]
    exact le_min (le_add_of_nonneg_right ha) hs.2
  · rw [step_roomy hroom]
    have hgiven : min (s.level + a) b ≤ b := min_le_right _ _
    linarith

/-- A store that takes in no more than is drawn does not rise. -/
theorem step_le (hs : 0 ≤ s.level) (hempty : a ≤ b) (hroom : s.level + a ≤ limit) :
    (s.step limit a b).level ≤ s.level := by
  rw [step_roomy hroom]
  rcases le_total b (s.level + a) with hle | hle
  · rw [min_eq_right hle]
    linarith
  · rw [min_eq_left hle, sub_self]
    exact hs

/-- **Two steps spill less than one** where the first draws something and the store overflows. -/
theorem step_step_spilled_lt (hc : 0 < c)
    (hdrawn : 0 < min (min (s.level + a) limit) b) (hover : limit < s.level + a + c) :
    ((s.step limit a b).step limit c d).spilled < (s.step limit (a + c) (b + d)).spilled := by
  have hwhole : (s.step limit (a + c) (b + d)).spilled = s.spilled + (s.level + (a + c) - limit) := by
    unfold step
    dsimp only
    rw [min_eq_right (by linarith)]
  rw [hwhole]
  unfold step
  dsimp only
  rcases le_total (s.level + a) limit with hle | hle
  · rw [min_eq_left hle] at hdrawn ⊢
    rcases le_total (s.level + a - min (s.level + a) b + c) limit with hle' | hle'
    · rw [min_eq_left hle']
      linarith
    · rw [min_eq_right hle']
      linarith
  · rw [min_eq_right hle] at hdrawn ⊢
    rcases le_total (limit - min limit b + c) limit with hle' | hle'
    · rw [min_eq_left hle']
      linarith
    · rw [min_eq_right hle']
      linarith

end Store

/-! ### Rates -/

/-- What flows into a store and out of it at a time, and its limit. -/
structure Flow (K : Type) where
  inRate : K → K
  outRate : K → K
  limit : K

/-- A store with the highest level that it had at a boundary. -/
structure Gauge (K : Type) extends Store K where
  peak : K

namespace Flow

variable (f : Flow K)

/-- The rates at a time hold for a while. -/
def pass (x : K) (len : K) (s : Gauge K) : Gauge K :=
  let next := s.toStore.step f.limit (f.inRate x * len) (f.outRate x * len)
  { next with peak := max s.peak next.level }

/-- From boundary to boundary. -/
def run (times : List K) (s : Gauge K) : Gauge K :=
  (gaps times).foldl (fun s gap => f.pass gap.1 (length gap) s) s

theorem run_cons_cons (x y : K) (rest : List K) (s : Gauge K) :
    f.run (x :: y :: rest) s = f.run (y :: rest) (f.pass x (y - x) s) := rfl

/-- Nothing flows. -/
def Idle (x : K) : Prop := f.inRate x = 0 ∧ f.outRate x = 0

/-- Nothing is spilled while something is drawn. -/
def Calm (x len : K) (s : Gauge K) : Prop :=
  0 ≤ f.inRate x ∧ 0 ≤ f.outRate x ∧
    (f.outRate x = 0 ∨ s.level + f.inRate x * len ≤ f.limit)

/-- Every gap of a run is calm. -/
def Quiet (times : List K) (s : Gauge K) : Prop :=
  ∀ n gap, (gaps times)[n]? = some gap →
    f.Calm gap.1 (length gap)
      (((gaps times).take n).foldl (fun s gap => f.pass gap.1 (length gap) s) s)

theorem quiet_cons_cons {x y : K} {rest : List K} {s : Gauge K} (h : f.Quiet (x :: y :: rest) s) :
    f.Calm x (y - x) s ∧ f.Quiet (y :: rest) (f.pass x (y - x) s) :=
  ⟨h 0 (x, y) rfl, fun n gap hgap => h (n + 1) gap hgap⟩

/-- The rates hold from each boundary to the next. -/
def Holds (times : List K) : Prop :=
  ∀ gap ∈ gaps times, ∀ x, gap.1 ≤ x → x < gap.2 →
    f.inRate x = f.inRate gap.1 ∧ f.outRate x = f.outRate gap.1

/-- The store is within its limits. -/
structure Sound (s : Gauge K) : Prop where
  nonneg : 0 ≤ s.level
  le_limit : s.level ≤ f.limit
  le_peak : s.level ≤ s.peak

section Pass

variable [IsStrictOrderedRing K] {f} {s : Gauge K}

omit [IsStrictOrderedRing K] in
theorem Sound.pass_still (hs : f.Sound s) {x len : K} (hin : f.inRate x * len = 0)
    (hout : f.outRate x * len = 0) : f.pass x len s = s := by
  have hlevel : min (s.level + 0) f.limit = s.level := by
    rw [add_zero, min_eq_left hs.le_limit]
  have hstep : s.toStore.step f.limit 0 0 = s.toStore := by
    rw [Store.step_still (by rw [hlevel]; exact hs.nonneg), hlevel, add_zero, sub_self, add_zero]
  unfold pass
  rw [hin, hout, hstep]
  dsimp only
  rw [max_eq_left hs.le_peak]

omit [IsStrictOrderedRing K] in
theorem Sound.pass_idle (hs : f.Sound s) {x : K} (hidle : f.Idle x) (len : K) :
    f.pass x len s = s :=
  hs.pass_still (by rw [hidle.1, zero_mul]) (by rw [hidle.2, zero_mul])

omit [IsStrictOrderedRing K] in
theorem Sound.pass_zero (hs : f.Sound s) (x : K) : f.pass x 0 s = s :=
  hs.pass_still (mul_zero _) (mul_zero _)

theorem Sound.pass (hs : f.Sound s) {x len : K} (hlen : 0 ≤ len) (hcalm : f.Calm x len s) :
    f.Sound (f.pass x len s) := by
  obtain ⟨hin, hout, -⟩ := hcalm
  obtain ⟨hnonneg, hlimit⟩ := Store.step_within (mul_nonneg hin hlen)
    (mul_nonneg hout hlen) ⟨hs.nonneg, hs.le_limit⟩
  exact ⟨hnonneg, hlimit, le_max_right _ _⟩

/-- A part of a calm gap is calm. -/
theorem Calm.mono {x len len' : K} (h : f.Calm x len s) (hle : len' ≤ len) : f.Calm x len' s := by
  obtain ⟨hin, hout, hroom⟩ := h
  refine ⟨hin, hout, hroom.imp_right fun hroom => ?_⟩
  have hpart := mul_le_mul_of_nonneg_left hle hin
  linarith

/-- **A calm gap may be cut anywhere.** -/
theorem pass_pass (hs : f.Sound s) {x y len len' : K} (hlen : 0 ≤ len) (hlen' : 0 ≤ len')
    (hcalm : f.Calm x (len + len') s)
    (hrates : f.inRate y = f.inRate x ∧ f.outRate y = f.outRate x) :
    f.pass y len' (f.pass x len s) = f.pass x (len + len') s := by
  obtain ⟨hin, hout, hroom⟩ := hcalm
  have hlevel : 0 ≤ s.toStore.level ∧ s.toStore.level ≤ f.limit := ⟨hs.nonneg, hs.le_limit⟩
  have ha := mul_nonneg hin hlen
  have hb := mul_nonneg hout hlen
  have hc := mul_nonneg hin hlen'
  have hmiddle := Store.step_within ha hb hlevel
  have hstore : (s.toStore.step f.limit (f.inRate x * len) (f.outRate x * len)).step f.limit
      (f.inRate x * len') (f.outRate x * len') =
        s.toStore.step f.limit (f.inRate x * (len + len')) (f.outRate x * (len + len')) := by
    rw [mul_add, mul_add]
    rcases hroom with hzero | hroom
    · rw [hzero, zero_mul, zero_mul, add_zero]
      exact Store.step_step_still hlevel ha hc
    · rw [mul_add, ← add_assoc] at hroom
      refine Store.step_step_roomy hlevel.1 ha hb hc hroom ?_
      rcases le_total (f.outRate x) (f.inRate x) with hle | hle
      · exact Or.inl ⟨mul_le_mul_of_nonneg_right hle hlen, mul_le_mul_of_nonneg_right hle hlen'⟩
      · exact Or.inr ⟨mul_le_mul_of_nonneg_right hle hlen, mul_le_mul_of_nonneg_right hle hlen'⟩
  -- the level in between is below the one before or the one after
  have hpeak : (s.toStore.step f.limit (f.inRate x * len) (f.outRate x * len)).level ≤
      max s.peak ((s.toStore.step f.limit (f.inRate x * len) (f.outRate x * len)).step f.limit
        (f.inRate x * len') (f.outRate x * len')).level := by
    rcases le_or_gt (f.outRate x) (f.inRate x) with hfill | hempty
    · refine le_max_of_le_right (Store.le_step hmiddle hc
        (mul_le_mul_of_nonneg_right hfill hlen') ?_)
      rcases hroom with hzero | hroom
      · exact Or.inl (by rw [hzero, zero_mul])
      · have hbelow := Store.step_below hlevel ha hb
        rw [mul_add] at hroom
        exact Or.inr (by linarith)
    · have hroom' : s.level + f.inRate x * len ≤ f.limit := by
        rcases hroom with hzero | hroom
        · exact absurd (hzero ▸ hempty) (not_lt.mpr hin)
        · linarith
      exact le_max_of_le_left ((Store.step_le hs.nonneg
        (mul_le_mul_of_nonneg_right hempty.le hlen) hroom').trans hs.le_peak)
  unfold pass
  rw [hrates.1, hrates.2]
  dsimp only
  rw [hstore] at hpeak ⊢
  rw [max_right_comm, max_eq_left hpeak]

/-- **A gap that is not calm loses less when it is cut.** -/
theorem cut_spills_less (hs : f.Sound s) (hlimit : 0 < f.limit) {x y len len' : K} (hlen : 0 < len)
    (hlen' : 0 < len') (hin : 0 ≤ f.inRate x) (hout : 0 ≤ f.outRate x)
    (hnot : ¬ f.Calm x (len + len') s)
    (hrates : f.inRate y = f.inRate x ∧ f.outRate y = f.outRate x) :
    (f.pass y len' (f.pass x len s)).spilled < (f.pass x (len + len') s).spilled := by
  have hdraws : f.outRate x ≠ 0 ∧ ¬ s.level + f.inRate x * (len + len') ≤ f.limit :=
    not_or.mp fun hroom => hnot ⟨hin, hout, hroom⟩
  have hover := not_le.mp hdraws.2
  have hdemand : 0 < f.outRate x * len := mul_pos (hout.lt_of_ne' hdraws.1) hlen
  have hfills : 0 < f.inRate x := by
    refine hin.lt_of_ne' fun hzero => ?_
    rw [hzero, zero_mul, add_zero] at hover
    exact absurd hs.le_limit (not_le.mpr hover)
  have hlevel : 0 < s.level + f.inRate x * len := add_pos_of_nonneg_of_pos hs.nonneg
    (mul_pos hfills hlen)
  have hless := Store.step_step_spilled_lt (d := f.outRate x * len')
    (mul_pos hfills hlen') (lt_min (lt_min hlevel hlimit) hdemand) (by rwa [add_assoc, ← mul_add])
  rw [← mul_add, ← mul_add] at hless
  unfold pass
  rw [hrates.1, hrates.2]
  exact hless

/-- A part of a gap and then the rest. -/
theorem pass_until (hs : f.Sound s) {a b x : K} (hab : a ≤ b) (hbx : b ≤ x)
    (hcalm : f.Calm a (x - a) s) (hrates : f.inRate b = f.inRate a ∧ f.outRate b = f.outRate a) :
    f.pass b (x - b) (f.pass a (b - a) s) = f.pass a (x - a) s := by
  have hlength : b - a + (x - b) = x - a := by ring
  have hpass := pass_pass hs (sub_nonneg.mpr hab) (sub_nonneg.mpr hbx) (hlength.symm ▸ hcalm) hrates
  rwa [hlength] at hpass

end Pass

/-! ### More boundaries -/

section Refine

variable [IsStrictOrderedRing K] {f} {s : Gauge K}

variable (f) in
/-- Outside its boundaries nothing flows between others. -/
def IdleOutside (times times' : List K) : Prop :=
  ∀ x, (∀ z ∈ times, x < z) ∨ (∀ z ∈ times, z ≤ x) →
    (∃ y ∈ times', y ≤ x) → (∃ y ∈ times', x < y) → f.Idle x

open List

omit [Field K] [IsStrictOrderedRing K] in
theorem Holds.tail {x y : K} {rest : List K} (h : f.Holds (x :: y :: rest)) :
    f.Holds (y :: rest) := fun gap hgap => h gap (mem_cons_of_mem _ hgap)

/-- From a boundary on: the fine run is ahead by a part of a gap. -/
theorem run_refine_from {a b : K} {rest rest' : List K} (hsub : rest.Sublist rest')
    (hsorted : (b :: rest').Pairwise (· < ·)) (hab : a ≤ b) (hs : f.Sound s)
    (hquiet : f.Quiet (a :: rest) s) (hholds : f.Holds (a :: rest))
    (hidle : ∀ x, (∀ z ∈ a :: rest, z ≤ x) → ∀ y ∈ b :: rest', x < y → f.Idle x) :
    f.run (b :: rest') (f.pass a (b - a) s) = f.run (a :: rest) s := by
  induction hsub generalizing a b s with
  | slnil =>
      rcases hab.eq_or_lt with rfl | hlt
      · rw [sub_self]
        exact hs.pass_zero a
      · exact hs.pass_idle (hidle a (fun z hz => (mem_singleton.mp hz).le) b
          mem_cons_self hlt) _
  | @cons rest rest' x hsub ih =>
      have hbx : b < x := rel_of_pairwise_cons hsorted mem_cons_self
      have hsorted' := List.Pairwise.of_cons hsorted
      -- the rates at the boundary that is skipped are those of the gap that it cuts
      have hcalm : f.Calm a (x - a) s ∧ f.inRate b = f.inRate a ∧ f.outRate b = f.outRate a := by
        cases rest with
        | nil =>
            have hlast (w : K) (haw : a ≤ w) (hwx : w < x) : f.Idle w :=
              hidle w (fun z hz => (mem_singleton.mp hz).le.trans haw) x
                (mem_cons_of_mem _ mem_cons_self) hwx
            obtain ⟨hin, hout⟩ := hlast a le_rfl (hab.trans_lt hbx)
            obtain ⟨hin', hout'⟩ := hlast b hab hbx
            exact ⟨⟨hin.ge, hout.ge, Or.inl hout⟩, hin'.trans hin.symm, hout'.trans hout.symm⟩
        | cons z rest =>
            have hxz : x < z :=
              rel_of_pairwise_cons hsorted' (hsub.subset mem_cons_self)
            obtain ⟨hcalm, -⟩ := f.quiet_cons_cons hquiet
            have hrates := hholds (a, z) mem_cons_self b hab (hbx.trans hxz)
            exact ⟨hcalm.mono (sub_le_sub_right hxz.le a), hrates⟩
      obtain ⟨hcalm, hrates⟩ := hcalm
      rw [run_cons_cons, pass_until hs hab hbx.le hcalm hrates]
      exact ih hsorted' (hab.trans hbx.le) hs hquiet hholds
        fun w hw y hy => hidle w hw y (mem_cons_of_mem _ hy)
  | @cons_cons rest rest' x hsub ih =>
      have hbx : b < x := rel_of_pairwise_cons hsorted mem_cons_self
      obtain ⟨hcalm, hquiet'⟩ := f.quiet_cons_cons hquiet
      have hrates : f.inRate b = f.inRate a ∧ f.outRate b = f.outRate a :=
        hholds (a, x) mem_cons_self b hab hbx
      have hs' := hs.pass (sub_nonneg.mpr (hab.trans hbx.le)) hcalm
      have hrest := ih (List.Pairwise.of_cons hsorted) le_rfl hs' hquiet' hholds.tail
        (fun w hw y hy => hidle w (fun z hz => by
          rcases mem_cons.mp hz with rfl | hz
          · exact (hab.trans hbx.le).trans (hw x mem_cons_self)
          · exact hw z hz) y (mem_cons_of_mem _ hy))
      rw [sub_self, hs'.pass_zero] at hrest
      rw [run_cons_cons, run_cons_cons, pass_until hs hab hbx.le hcalm hrates]
      exact hrest

/-- **More boundaries make no difference to a quiet run.** -/
theorem run_refine {times times' : List K} (hsub : times.Sublist times')
    (hsorted : times'.Pairwise (· < ·)) (hs : f.Sound s) (hquiet : f.Quiet times s)
    (hholds : f.Holds times) (hidle : f.IdleOutside times times') :
    f.run times' s = f.run times s := by
  induction times' with
  | nil => rw [sublist_nil.mp hsub]
  | cons y rest' ih =>
      cases hsub with
      | cons _ hsub =>
          have hsorted' := List.Pairwise.of_cons hsorted
          cases rest' with
          | nil => rw [sublist_nil.mp hsub]; rfl
          | cons z rest' =>
              -- nothing flows before the first boundary
              have hfirst : f.Idle y := hidle y
                (Or.inl fun w hw => rel_of_pairwise_cons hsorted (hsub.subset hw))
                ⟨y, mem_cons_self, le_rfl⟩
                ⟨z, mem_cons_of_mem _ mem_cons_self,
                  rel_of_pairwise_cons hsorted mem_cons_self⟩
              rw [run_cons_cons, hs.pass_idle hfirst]
              exact ih hsub hsorted' fun x hout hbefore hafter => hidle x hout
                (hbefore.imp fun w hw => ⟨mem_cons_of_mem _ hw.1, hw.2⟩)
                (hafter.imp fun w hw => ⟨mem_cons_of_mem _ hw.1, hw.2⟩)
      | @cons_cons rest _ _ hsub =>
          have hrest := run_refine_from hsub hsorted le_rfl hs hquiet hholds
            fun x hlast w hw hlt => hidle x (Or.inr hlast)
              ⟨y, mem_cons_self, hlast y mem_cons_self⟩ ⟨w, hw, hlt⟩
          rwa [sub_self, hs.pass_zero] at hrest

/-! ### Full stores -/

/-- In a calm gap a store spills only when it gets full. -/
theorem pass_full (hs : f.Sound s) {x len : K} (hlen : 0 ≤ len) (hcalm : f.Calm x len s)
    (h : s.spilled = 0 ∨ f.limit ≤ s.peak) :
    (f.pass x len s).spilled = 0 ∨ f.limit ≤ (f.pass x len s).peak := by
  rcases h with hnone | hfull
  · obtain ⟨hin, -, hroom⟩ := hcalm
    have ha := mul_nonneg hin hlen
    rcases hroom with hzero | hroom
    · have hkept : 0 ≤ min (s.level + f.inRate x * len) f.limit :=
        le_min (add_nonneg hs.nonneg ha) (hs.nonneg.trans hs.le_limit)
      unfold pass
      rw [hzero, zero_mul, Store.step_still hkept]
      rcases le_total (s.level + f.inRate x * len) f.limit with hle | hle
      · rw [min_eq_left hle, sub_self, add_zero]
        exact Or.inl hnone
      · rw [min_eq_right hle]
        exact Or.inr (le_max_right _ _)
    · refine Or.inl ?_
      unfold pass
      rw [Store.step_roomy hroom]
      exact hnone
  · exact Or.inr (hfull.trans (le_max_left _ _))

/-- **A quiet run spills only when the store has been full.** -/
theorem run_full {times : List K} (hsorted : times.Pairwise (· < ·)) (hs : f.Sound s)
    (hquiet : f.Quiet times s) (h : s.spilled = 0 ∨ f.limit ≤ s.peak) :
    (f.run times s).spilled = 0 ∨ f.limit ≤ (f.run times s).peak := by
  induction times generalizing s with
  | nil => exact h
  | cons x rest ih =>
      cases rest with
      | nil => exact h
      | cons y rest =>
          have hxy : x < y := rel_of_pairwise_cons hsorted mem_cons_self
          have hlen := sub_nonneg.mpr hxy.le
          obtain ⟨hcalm, hquiet'⟩ := f.quiet_cons_cons hquiet
          exact ih (List.Pairwise.of_cons hsorted) (hs.pass hlen hcalm) hquiet'
            (pass_full hs hlen hcalm h)

end Refine

end Flow

end Timelines
