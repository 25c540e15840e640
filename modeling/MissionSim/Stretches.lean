import MissionSim.Timelines

/-!
# Windows and the stretches between them

A list of windows is walked from a first time on: each window is preceded by the gap since the window
before it ended.  Windows that keep apart and their gaps cover the whole time once, so that whatever
adds up over adjacent intervals adds up over them.
-/

namespace Timelines

variable {K : Type} [Field K] [LinearOrder K]

/-! ### Overlap -/

/-- How long an interval runs within another. -/
def overlap (a b : K) (interval : K × K) : K := max 0 (min b interval.2 - max a interval.1)

/-- What is measured of adjacent intervals adds up. -/
def Additive (f : K × K → K) : Prop :=
  ∀ x y z, x ≤ y → y ≤ z → f (x, y) + f (y, z) = f (x, z)

theorem Additive.self {f : K × K → K} (h : Additive f) (x : K) : f (x, x) = 0 := by
  have := h x x x le_rfl le_rfl
  exact left_eq_add.mp this.symm

theorem additive_length : Additive (length : K × K → K) := by
  intro x y z _ _
  unfold length
  ring

section Overlap

variable [IsStrictOrderedRing K]

theorem additive_overlap (a b : K) : Additive (overlap a b) := by
  intro x y z hxy hyz
  unfold overlap
  rcases le_total a b with hab | hba
  · rcases le_total b y with hby | hyb
    · have hnone : min b z - max a y ≤ 0 :=
        sub_nonpos.mpr ((min_le_left b z).trans (hby.trans (le_max_right a y)))
      rw [max_eq_left hnone, add_zero, min_eq_left hby, min_eq_left (hby.trans hyz)]
    · rcases le_total y a with hya | hay
      · have hnone : min b y - max a x ≤ 0 :=
          sub_nonpos.mpr ((min_le_right b y).trans (hya.trans (le_max_left a x)))
        rw [max_eq_left hnone, zero_add, max_eq_left hya, max_eq_left (hxy.trans hya)]
      · have hfirst : 0 ≤ y - max a x := sub_nonneg.mpr (max_le hay hxy)
        have hsecond : 0 ≤ min b z - y := sub_nonneg.mpr (le_min hyb hyz)
        have hwhole : 0 ≤ min b z - max a x := by linarith
        rw [min_eq_right hyb, max_eq_right hay, max_eq_right hfirst, max_eq_right hsecond,
          max_eq_right hwhole]
        ring
  · have hnone : ∀ u v : K, max 0 (min b v - max a u) = 0 := fun u v =>
      max_eq_left (sub_nonpos.mpr ((min_le_left b v).trans (hba.trans (le_max_left a u))))
    rw [hnone, hnone, hnone, add_zero]

/-- Two intervals overlap if some time is in both. -/
theorem overlap_eq_zero_iff {a b : K} {interval : K × K} :
    overlap a b interval = 0 ↔ ∀ x, ¬ (Contains (a, b) x ∧ Contains interval x) := by
  unfold overlap
  rw [max_eq_left_iff, sub_nonpos]
  constructor
  · rintro h x ⟨⟨hax, hxb⟩, hfrom, hto⟩
    exact absurd (lt_of_lt_of_le (lt_min hxb hto) h) (not_lt.mpr (max_le hax hfrom))
  · intro h
    refine le_of_not_gt fun hlt => h (max a interval.1) ⟨⟨le_max_left _ _, ?_⟩, le_max_right _ _, ?_⟩
    · exact hlt.trans_le (min_le_left _ _)
    · exact hlt.trans_le (min_le_right _ _)

end Overlap

/-! ### Stretches -/

/-- The gap from a time to a window, if there is one. -/
def gapTo (prev next : K) : List (K × K) := if prev < next then [(prev, next)] else []

/-- The gaps before the windows. -/
def gapsBefore : K → List (K × K) → List (K × K)
  | _, [] => []
  | prev, window :: rest => gapTo prev window.1 ++ gapsBefore window.2 rest

/-- The windows and the gaps before them, in turn. -/
def stretches : K → List (K × K) → List (K × K)
  | _, [] => []
  | prev, window :: rest => gapTo prev window.1 ++ window :: stretches window.2 rest

/-- The last time at which a window ends. -/
def latest (prev : K) (windows : List (K × K)) : K := (windows.map Prod.snd).foldl max prev

/-- No window begins before an earlier one has ended. -/
def Apart (windows : List (K × K)) : Prop := windows.Pairwise fun v w => v.2 ≤ w.1

/-- Every window has a length. -/
def Proper (windows : List (K × K)) : Prop := ∀ w ∈ windows, w.1 < w.2

/-- The windows follow a time in the order in which they begin. -/
def Follow (prev : K) (windows : List (K × K)) : Prop :=
  (prev :: windows.map Prod.fst).Pairwise (· ≤ ·)

section Counts

omit [Field K]

theorem Proper.tail {window : K × K} {rest : List (K × K)} (h : Proper (window :: rest)) :
    Proper rest := fun w hw => h w (List.mem_cons_of_mem _ hw)

/-- Windows apart follow any time before the first. -/
theorem Apart.follow {prev : K} {window : K × K} {rest : List (K × K)}
    (h : Apart (window :: rest)) (hproper : Proper (window :: rest)) (hprev : prev ≤ window.1) :
    Follow prev (window :: rest) ∧ Follow window.2 rest := by
  obtain ⟨hwindow, hrest⟩ := List.pairwise_cons.mp h
  have hfirst : ∀ x ∈ rest.map Prod.fst, window.2 ≤ x := by
    intro x hx
    obtain ⟨w, hw, rfl⟩ := List.mem_map.mp hx
    exact hwindow w hw
  have hsorted : (rest.map Prod.fst).Pairwise (· ≤ ·) :=
    List.pairwise_map.mpr <| hrest.imp_of_mem fun hv _ hvw => (hproper.tail _ hv).le.trans hvw
  have hlt := hproper window List.mem_cons_self
  refine ⟨?_, List.pairwise_cons.mpr ⟨hfirst, hsorted⟩⟩
  refine List.pairwise_cons.mpr ⟨?_, List.pairwise_cons.mpr ⟨?_, hsorted⟩⟩
  · intro x hx
    rcases List.mem_cons.mp hx with rfl | hx
    · exact hprev
    · exact hprev.trans (hlt.le.trans (hfirst x hx))
  · intro x hx
    exact hlt.le.trans (hfirst x hx)

/-- A time in the windows and gaps is counted in the ones and in the others. -/
theorem countP_stretches (p : K × K → Bool) (prev : K) (windows : List (K × K)) :
    (stretches prev windows).countP p = (gapsBefore prev windows).countP p + windows.countP p := by
  induction windows generalizing prev with
  | nil => rfl
  | cons window rest ih =>
      rw [stretches, gapsBefore, List.countP_append, List.countP_append, List.countP_cons,
        List.countP_cons, ih]
      omega

theorem latest_cons {prev : K} {window : K × K} (rest : List (K × K)) (h : prev ≤ window.2) :
    latest prev (window :: rest) = latest window.2 rest := by
  unfold latest
  rw [List.map_cons, List.foldl_cons, max_eq_right h]

theorem le_latest (prev : K) (windows : List (K × K)) : prev ≤ latest prev windows := by
  induction windows generalizing prev with
  | nil => exact le_rfl
  | cons window rest ih => exact (le_max_left _ _).trans (ih (max prev window.2))

theorem le_latest_of_mem {prev : K} {windows : List (K × K)} {w : K × K} (hw : w ∈ windows) :
    w.2 ≤ latest prev windows := by
  induction windows generalizing prev with
  | nil => cases hw
  | cons window rest ih =>
      rcases List.mem_cons.mp hw with rfl | hmem
      · exact (le_max_right _ _).trans (le_latest (max prev w.2) rest)
      · exact ih hmem

/-- **Windows apart and the gaps between them hold every time of the whole once.** -/
theorem countP_stretches_of_apart {prev x : K} {windows : List (K × K)} (h : Apart windows)
    (hproper : Proper windows) (hfollow : Follow prev windows) :
    (stretches prev windows).countP (fun s => Contains s x) =
      if Contains (prev, latest prev windows) x then 1 else 0 := by
  induction windows generalizing prev with
  | nil => exact (if_neg fun hx => absurd (hx.1.trans_lt hx.2) (lt_irrefl _)).symm
  | cons window rest ih =>
      have hprev : prev ≤ window.1 := List.rel_of_pairwise_cons hfollow List.mem_cons_self
      have hwindow := hproper window List.mem_cons_self
      have hend := le_latest window.2 rest
      rw [latest_cons rest (hprev.trans hwindow.le), stretches, List.countP_append, List.countP_cons,
        ih (List.pairwise_cons.mp h).2 hproper.tail (h.follow hproper hprev).2]
      by_cases hgap : prev < window.1 <;> simp only [gapTo, hgap, if_true, if_false,
        List.countP_cons, List.countP_nil, Contains]
      · split_ifs <;> grind
      · split_ifs <;> grind

/-- A time that lies in two windows is counted twice. -/
theorem apart_of_countP {prev : K} {windows : List (K × K)} (hproper : Proper windows)
    (hfollow : Follow prev windows)
    (h : ∀ x, Contains (prev, latest prev windows) x →
      (stretches prev windows).countP (fun s => Contains s x) = 1) : Apart windows := by
  refine List.pairwise_iff_forall_sublist.mpr fun {v w} hsub => le_of_not_gt fun hlt => ?_
  have hmem : w ∈ windows := hsub.subset (List.mem_cons_of_mem _ List.mem_cons_self)
  have hw := hproper w hmem
  have hsorted := List.pairwise_map.mp (List.pairwise_cons.mp hfollow).2
  have hvw : v.1 ≤ w.1 := List.pairwise_iff_forall_sublist.mp hsorted hsub
  have hprev : prev ≤ w.1 :=
    (List.pairwise_cons.mp hfollow).1 w.1 (List.mem_map_of_mem hmem)
  have hone := h w.1 ⟨hprev, hw.trans_le (le_latest_of_mem hmem)⟩
  have htwo : [v, w].countP (fun s => Contains s w.1) = 2 := by
    have hcv : Contains v w.1 := ⟨hvw, hlt⟩
    have hcw : Contains w w.1 := ⟨le_rfl, hw⟩
    simp [hcv, hcw]
  have hle := hsub.countP_le (p := fun s => Contains s w.1)
  rw [countP_stretches] at hone
  omega

end Counts

/-- **What adds up over adjacent intervals adds up over windows apart and their gaps.** -/
theorem sum_stretches {f : K × K → K} (hf : Additive f) {prev : K} {windows : List (K × K)}
    (h : Apart windows) (hproper : Proper windows) (hfollow : Follow prev windows) :
    ((stretches prev windows).map f).sum = f (prev, latest prev windows) := by
  induction windows generalizing prev with
  | nil => exact (hf.self prev).symm
  | cons window rest ih =>
      have hprev : prev ≤ window.1 := List.rel_of_pairwise_cons hfollow List.mem_cons_self
      have hgap : ((gapTo prev window.1).map f).sum = f (prev, window.1) := by
        unfold gapTo
        rcases hprev.lt_or_eq with hlt | rfl
        · rw [if_pos hlt, List.map_cons, List.map_nil, List.sum_singleton]
        · rw [if_neg (lt_irrefl _), hf.self]
          rfl
      have hwindow := (hproper window List.mem_cons_self).le
      have hend := le_latest window.2 rest
      rw [latest_cons rest (hprev.trans hwindow), stretches, List.map_append, List.sum_append,
        List.map_cons, List.sum_cons, hgap,
        ih (List.pairwise_cons.mp h).2 hproper.tail (h.follow hproper hprev).2,
        hf _ _ _ hwindow hend, hf _ _ _ hprev (hwindow.trans hend)]

/-- What is measured of windows and gaps is measured of the ones and of the others. -/
theorem sum_stretches_split (f : K × K → K) (prev : K) (windows : List (K × K)) :
    ((stretches prev windows).map f).sum =
      ((gapsBefore prev windows).map f).sum + (windows.map f).sum := by
  induction windows generalizing prev with
  | nil => exact (add_zero _).symm
  | cons window rest ih =>
      simp only [stretches, gapsBefore, List.map_append, List.sum_append, List.map_cons,
        List.sum_cons, ih]
      ring

end Timelines
