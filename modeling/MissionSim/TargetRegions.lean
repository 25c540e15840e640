import MissionSim.Arcs
import Mathlib.Data.Rat.Floor

/-!
# Target regions of the imaging planner

A target is a box of latitudes and longitudes, and the payload is aimed at the point of the box that
is closest to the sub-satellite point.  Latitudes are clamped into the box; so are longitudes, unless
the box crosses the antimeridian.

Membership does not know of boxes that cross the antimeridian, and the plain clamp does not know that
longitudes wrap.  So the access point is the nearest point of the region exactly for the boxes and
longitudes for which neither matters (`accessPoint_nearest_iff`).
-/

namespace Planner

open Arcs

/-- Wrap a longitude difference into [-180, 180]. -/
def wrapLon (dlon : ℚ) : ℚ := residue 360 (dlon + 180) - 180

theorem abs_wrapLon (dlon : ℚ) : |wrapLon dlon| = arc 360 dlon :=
  abs_residue_sub (by norm_num) (by norm_num) dlon

/-- An imaging target, with what `__init__` takes for what is absent. -/
structure ImagingTarget where
  id : String := "unknown"
  name : String := "unnamed"
  priority : String := "medium"
  revisitDays : Option ℚ := some 7
  minSolarElevationDeg : Option ℚ := some 10
  /-- A roll limit of its own; without it, that of the planner. -/
  maxOffNadirDeg : Option ℚ := none
  minLat : ℚ := -90
  maxLat : ℚ := 90
  minLon : ℚ := -180
  maxLon : ℚ := 180
deriving DecidableEq, Repr

namespace ImagingTarget

variable (t : ImagingTarget) (lat lon : ℚ)

def centerLat : ℚ := (t.minLat + t.maxLat) / 2

def centerLon : ℚ := (t.minLon + t.maxLon) / 2

/-- Check if a point falls within the target bounding box. -/
def containsPoint : Bool :=
  (t.minLat ≤ lat && lat ≤ t.maxLat) && (t.minLon ≤ lon && lon ≤ t.maxLon)

/-- The longitude of the access point. -/
def accessLon : ℚ :=
  if t.minLon ≤ t.maxLon then min (max lon t.minLon) t.maxLon
  -- the region wraps the antimeridian
  else if t.minLon ≤ lon ∨ lon ≤ t.maxLon then lon
  else if |wrapLon (lon - t.minLon)| ≤ |wrapLon (lon - t.maxLon)| then t.minLon else t.maxLon

/-- The sub-satellite point clamped into the box. -/
def accessPoint : ℚ × ℚ := (min (max lat t.minLat) t.maxLat, t.accessLon lon)

/-! ### Membership -/

theorem containsPoint_iff :
    t.containsPoint lat lon = true ↔
      (t.minLat ≤ lat ∧ lat ≤ t.maxLat) ∧ t.minLon ≤ lon ∧ lon ≤ t.maxLon := by
  unfold containsPoint
  simp only [Bool.and_eq_true, decide_eq_true_eq]

/-- The bounds of the box are in order. -/
def Ordered : Prop := t.minLat ≤ t.maxLat ∧ t.minLon ≤ t.maxLon

instance : Decidable t.Ordered := inferInstanceAs (Decidable (_ ∧ _))

/-- A box with bounds out of order, as one that crosses the antimeridian, has no point. -/
theorem ordered_of_containsPoint {t : ImagingTarget} {lat lon : ℚ}
    (h : t.containsPoint lat lon = true) : t.Ordered := by
  have hbox := (t.containsPoint_iff lat lon).mp h
  exact ⟨hbox.1.1.trans hbox.1.2, hbox.2.1.trans hbox.2.2⟩

/-! ### The nearest point -/

/-- `p` is a point of the region, none is nearer in latitude or in wrapped longitude, and it is the
sub-satellite point if that lies in the region. -/
structure Nearest (p : ℚ × ℚ) : Prop where
  inside : t.containsPoint p.1 p.2 = true
  lat_le : ∀ a b, t.containsPoint a b = true → |p.1 - lat| ≤ |a - lat|
  lon_le : ∀ a b, t.containsPoint a b = true → |wrapLon (p.2 - lon)| ≤ |wrapLon (b - lon)|
  same_iff : p = (lat, lon) ↔ t.containsPoint lat lon = true

/-- How far a longitude lies outside the bounds, on the side on which it does. -/
def outside : ℚ := max (t.minLon - lon) (lon - t.maxLon)

/-- The way round from a longitude to the far bound is no shorter than the way to the near one. -/
def FarBoundIsFar : Prop :=
  t.outside lon ≤ 0 ∨ t.maxLon - t.minLon = 0 ∨ residue 360 (t.outside lon) = 0 ∨
    residue 360 (t.outside lon) + (residue 360 (t.outside lon) + (t.maxLon - t.minLon)) ≤ 360

instance : Decidable (t.FarBoundIsFar lon) := inferInstanceAs (Decidable (_ ∨ _))

section Clamp

variable {lo hi : ℚ}

theorem clamp_mem (h : lo ≤ hi) (x : ℚ) : lo ≤ min (max x lo) hi ∧ min (max x lo) hi ≤ hi :=
  ⟨le_min (le_max_right x lo) h, min_le_right _ _⟩

theorem clamp_of_mem {x : ℚ} (hlo : lo ≤ x) (hhi : x ≤ hi) : min (max x lo) hi = x := by
  rw [max_eq_left hlo, min_eq_left hhi]

theorem clamp_of_lt (h : lo ≤ hi) {x : ℚ} (hx : x < lo) : min (max x lo) hi = lo := by
  rw [max_eq_right hx.le, min_eq_left h]

theorem clamp_of_gt (h : lo ≤ hi) {x : ℚ} (hx : hi < x) : min (max x lo) hi = hi := by
  rw [max_eq_left (h.trans hx.le), min_eq_right hx.le]

theorem clamp_nearest (h : lo ≤ hi) (x : ℚ) {y : ℚ} (hlo : lo ≤ y) (hhi : y ≤ hi) :
    |min (max x lo) hi - x| ≤ |y - x| := by
  rcases lt_or_ge x lo with hx | hx
  · rw [clamp_of_lt h hx, abs_of_pos (by linarith), abs_of_pos (by linarith)]
    linarith
  · rcases lt_or_ge hi x with hx' | hx'
    · rw [clamp_of_gt h hx', abs_of_neg (by linarith), abs_of_neg (by linarith)]
      linarith
    · rw [clamp_of_mem hx hx', sub_self, abs_zero]
      exact abs_nonneg _

end Clamp

variable {t}

theorem accessLon_eq (h : t.Ordered) : t.accessLon lon = min (max lon t.minLon) t.maxLon :=
  if_pos h.2

theorem containsPoint_accessPoint (h : t.Ordered) :
    t.containsPoint (t.accessPoint lat lon).1 (t.accessPoint lat lon).2 = true := by
  apply (t.containsPoint_iff _ _).mpr
  unfold accessPoint
  rw [accessLon_eq lon h]
  exact ⟨clamp_mem h.1 lat, clamp_mem h.2 lon⟩

theorem accessPoint_eq_iff (h : t.Ordered) :
    t.accessPoint lat lon = (lat, lon) ↔ t.containsPoint lat lon = true := by
  constructor
  · intro heq
    have hinside := containsPoint_accessPoint lat lon h
    rw [heq] at hinside
    exact hinside
  · intro hinside
    have hbox := (t.containsPoint_iff lat lon).mp hinside
    unfold accessPoint
    rw [accessLon_eq lon h, clamp_of_mem hbox.1.1 hbox.1.2, clamp_of_mem hbox.2.1 hbox.2.2]

/-- The access point is as far off as the longitude lies outside, and the other longitudes of the box
come after it. -/
theorem arcs_of_outside (h : t.Ordered) (hout : 0 < t.outside lon) :
    |wrapLon (t.accessLon lon - lon)| = arc 360 (t.outside lon) ∧
      ∀ r : ℚ → Prop, (∀ b, t.minLon ≤ b → b ≤ t.maxLon → r |wrapLon (b - lon)|) ↔
        ∀ d, 0 ≤ d → d ≤ t.maxLon - t.minLon → r (arc 360 (t.outside lon + d)) := by
  have hturn : (0 : ℚ) < 360 := by norm_num
  have hbox : t.minLon ≤ t.maxLon := h.2
  rw [accessLon_eq lon h]
  rcases lt_max_iff.mp hout with hwest | heast
  · have hgap : t.outside lon = t.minLon - lon := max_eq_left (by linarith)
    rw [hgap, clamp_of_lt hbox (sub_pos.mp hwest)]
    refine ⟨abs_wrapLon _, fun r => ⟨fun hall d h0 h1 => ?_, fun hall b h0 h1 => ?_⟩⟩
    · have hb := hall (t.minLon + d) (by linarith) (by linarith)
      rwa [abs_wrapLon, add_sub_right_comm] at hb
    · have hd := hall (b - t.minLon) (by linarith) (by linarith)
      rwa [sub_add_sub_comm, add_comm t.minLon, add_sub_add_right_eq_sub, ← abs_wrapLon] at hd
  · have hgap : t.outside lon = lon - t.maxLon := max_eq_right (by linarith)
    rw [hgap, clamp_of_gt hbox (sub_pos.mp heast)]
    have hflip : ∀ b, |wrapLon (b - lon)| = arc 360 (lon - b) := by
      intro b
      rw [abs_wrapLon, ← arc_neg hturn, neg_sub]
    refine ⟨hflip _, fun r => ⟨fun hall d h0 h1 => ?_, fun hall b h0 h1 => ?_⟩⟩
    · have hb := hall (t.maxLon - d) (by linarith) (by linarith)
      rwa [hflip, ← sub_add] at hb
    · have hd := hall (t.maxLon - b) (by linarith) (by linarith)
      rwa [sub_add_sub_cancel, ← hflip] at hd

/-- The clamped longitude is nearest exactly if the far bound is far. -/
theorem lon_nearest_iff (h : t.Ordered) :
    (∀ b, t.minLon ≤ b → b ≤ t.maxLon →
        |wrapLon (t.accessLon lon - lon)| ≤ |wrapLon (b - lon)|) ↔ t.FarBoundIsFar lon := by
  have hturn : (0 : ℚ) < 360 := by norm_num
  rcases le_or_gt (t.outside lon) 0 with hin | hout
  · have hbox := max_le_iff.mp hin
    have hzero : |wrapLon (t.accessLon lon - lon)| = 0 := by
      rw [accessLon_eq lon h, clamp_of_mem (sub_nonpos.mp hbox.1) (sub_nonpos.mp hbox.2), sub_self,
        abs_wrapLon, arc_of_mem hturn le_rfl hturn.le, sub_zero]
      exact min_eq_left hturn.le
    constructor
    · intro _
      exact Or.inl hin
    · intro _ b _ _
      rw [hzero]
      exact abs_nonneg _
  · have harcs := arcs_of_outside lon h hout
    rw [harcs.1, harcs.2 fun x => arc 360 (t.outside lon) ≤ x,
      near_edge_iff hturn (sub_nonneg.mpr h.2)]
    exact ⟨Or.inr, fun hfar => hfar.resolve_left (not_le.mpr hout)⟩

variable (t)

/-- **The access point is the nearest point of the region if and only if** the bounds of the box are
in order and the far bound is no nearer the other way round. -/
theorem accessPoint_nearest_iff :
    t.Nearest lat lon (t.accessPoint lat lon) ↔ t.Ordered ∧ t.FarBoundIsFar lon := by
  constructor
  · intro hnearest
    have hordered := ordered_of_containsPoint hnearest.inside
    refine ⟨hordered, (lon_nearest_iff lon hordered).mp fun b hlo hhi => ?_⟩
    apply hnearest.lon_le t.minLat b
    exact (t.containsPoint_iff _ _).mpr ⟨⟨le_rfl, hordered.1⟩, hlo, hhi⟩
  · intro h
    have hlon := (lon_nearest_iff lon h.1).mpr h.2
    exact {
      inside := containsPoint_accessPoint lat lon h.1
      lat_le := by
        intro a b hab
        have hbox := (t.containsPoint_iff a b).mp hab
        exact clamp_nearest h.1.1 lat hbox.1.1 hbox.1.2
      lon_le := by
        intro a b hab
        have hbox := (t.containsPoint_iff a b).mp hab
        exact hlon b hbox.2.1 hbox.2.2
      same_iff := accessPoint_eq_iff lat lon h.1 }

/-- A box from 170°E to 170°W, with the sub-satellite point on the antimeridian. -/
theorem not_nearest_antimeridian :
    ¬ ({ minLat := -10, maxLat := 10, minLon := 170, maxLon := -170 : ImagingTarget }).Nearest 0 180
      (({ minLat := -10, maxLat := 10, minLon := 170, maxLon := -170 : ImagingTarget }).accessPoint
        0 180) := by
  intro hnearest
  have hordered := ordered_of_containsPoint hnearest.inside
  revert hordered
  decide +kernel

end ImagingTarget

end Planner
