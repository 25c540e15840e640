import MissionSim.TelemetryDataset
import MissionSim.Tilings

/-!
# The bins of a report

A breakdown cuts a period into orbits, counted from the epoch of the elements, or into hours, and
gives a row for each.  The bins follow one another without a gap, but each counts the packets on both
of its ends.  So the counts add up to that of the period exactly if no packet lies on an inner end,
and the loop ends exactly if the orbital period is positive (`breakdownBins_partition_iff`).
-/

namespace Reporting

open Python Tilings

/-- `by`. -/
inductive Breakdown
  | orbit
  | pass
  | hour
deriving DecidableEq, Repr

structure Bin where
  label : String
  start : ℚ
  stop : ℚ
  station : String := ""
deriving DecidableEq, Repr

variable (host : Host) (ds : TelemetryDataset) (period : Period) (catalogs : Catalogs)

/-! ### The bins -/

/-- Where the orbits are counted from. -/
def anchor : ℚ :=
  match catalogs.t0Epoch with
  | some t0 => host.isoToCuc t0
  | none => period.startCuc

/-- `int((period.start_cuc - anchor) // per)`. -/
def firstOrbit : Int :=
  ⌊(period.startCuc - anchor host period catalogs) / host.orbitPeriodS catalogs⌋

def orbitBin (t : ℚ) (i : Int) : Bin where
  label := "orbit " ++ toString (i + 1)
  start := max t period.startCuc
  stop := min (t + host.orbitPeriodS catalogs) period.endCuc

def hourBin (t : ℚ) (_ : Int) : Bin where
  label := slice 11 16 (host.utc t)
  start := t
  stop := min (t + 3600) period.endCuc

def passBins : List Bin :=
  ((host.passesIn ds catalogs).filter fun p =>
      !(p.2.1 < period.startCuc || period.endCuc < p.1)).map fun p =>
    { label := p.2.2, start := p.1, stop := p.2.1, station := p.2.2 }

/-- The loops that build the bins; nothing where they have not ended after `fuel` rounds. -/
def bins (fuel : Nat) : Breakdown → Option (List Bin)
  | .orbit =>
      let per := host.orbitPeriodS catalogs
      let n0 := firstOrbit host period catalogs
      collect (orbitBin host period catalogs) per period.endCuc fuel
        (anchor host period catalogs + n0 * per) n0
  | .pass => some (passBins host ds period catalogs)
  | .hour => collect (hourBin host period) 3600 period.endCuc fuel period.startCuc 0

/-! ### The rows -/

structure BreakdownRow where
  label : String
  station : String
  startUtc : String
  endUtc : String
  durationS : ℚ
  packets : Nat
  eventsSev3plus : Nat
  commandsSent : Nat
  commandsRejected : Nat
  minSoc : Option ℚ
  maxBatTemp : Option ℚ
  maxAttError : Option ℚ
deriving DecidableEq, Repr

/-- The times of all housekeeping packets. -/
def TelemetryDataset.hkPackets : List ℚ := ds.hkTimes.values.flatten

/-- `round(fn(v for _, v in pts), 2) if pts else None`, for a parameter that is known. -/
def extreme (fn : List ℚ → Option ℚ) (name : String) (b : Bin) : Option ℚ := do
  let pid ← catalogs.paramsByName.get? name
  let v ← fn ((ds.seriesFor pid b.start b.stop).map Prod.snd)
  return host.round 2 v

def row (b : Bin) : BreakdownRow where
  label := b.label
  station := b.station
  startUtc := host.utc b.start
  endUtc := host.utc b.stop
  durationS := host.round 1 (b.stop - b.start)
  packets := within ds.hkPackets b.start b.stop
  eventsSev3plus := (ds.eventsIn b.start b.stop 3).length
  commandsSent := (commandsView ds { startCuc := b.start, endCuc := b.stop }).length
  commandsRejected :=
    ((commandsView ds { startCuc := b.start, endCuc := b.stop }).filter fun c =>
      c.outcome = "REJECTED" || c.outcome = "FAILED").length
  minSoc := extreme host ds catalogs List.min? "eps.bat_soc" b
  maxBatTemp := extreme host ds catalogs List.max? "eps.bat_temp" b
  maxAttError := extreme host ds catalogs List.max? "aocs.att_error" b

/-- `breakdown_bins(dataset, period, catalogs, by)`. -/
def breakdownBins (fuel : Nat) (kind : Breakdown) : Option (List BreakdownRow) :=
  (bins host ds period catalogs fuel kind).map fun bs => bs.map (row host ds catalogs)

/-! ### Partitions -/

/-- The loop ends, the bins follow one another from the start to the end of the period, and the counts
of the rows add up to the number of packets in the period. -/
def Partitions (kind : Breakdown) : Prop :=
  ∃ fuel bs, bins host ds period catalogs fuel kind = some bs ∧
    breakdownBins host ds period catalogs fuel kind = some (bs.map (row host ds catalogs)) ∧
    Tiles period.startCuc period.endCuc (bs.map fun b => (b.start, b.stop)) ∧
    (bs.map fun b => (row host ds catalogs b).packets).sum =
      within ds.hkPackets period.startCuc period.endCuc

/-- From where and by how much the bins are counted. -/
def grid : Breakdown → ℚ × ℚ
  | .orbit => (anchor host period catalogs, host.orbitPeriodS catalogs)
  | _ => (period.startCuc, 3600)

/-- No housekeeping packet lies on an end between two bins. -/
def NoneOnBoundary (kind : Breakdown) : Prop :=
  ∀ n : Int, ∀ t ∈ ds.hkPackets, period.startCuc < t → t < period.endCuc →
    t ≠ (grid host period catalogs kind).1 + n * (grid host period catalogs kind).2

/-- The mean motion of the elements is not negative, where orbits are counted. -/
def PositivePeriod (kind : Breakdown) : Prop :=
  kind = .orbit → ∀ motion, host.meanMotion catalogs.tleLine2 = some motion → 0 ≤ motion

/-- A loop over marks of a grid, from the last one up to the start of the period. -/
structure OnGrid (origin step t : ℚ) (n0 : Int) : Prop where
  mark : t = origin + n0 * step
  le_start : t ≤ period.startCuc
  start_lt : period.startCuc < t + step

variable {host ds period catalogs}

/-- The inner marks are those of the grid. -/
theorem inner_marks {origin step t x : ℚ} {n0 : Int} (h : OnGrid period origin step t n0)
    (hstep : 0 < step) :
    (∃ k : Nat, x = max (t + step + k * step) period.startCuc ∧
        t + step + k * step < period.endCuc) ↔
      period.startCuc < x ∧ x < period.endCuc ∧ ∃ n : Int, x = origin + n * step := by
  constructor
  · rintro ⟨k, rfl, hlt⟩
    have hk : 0 ≤ (k : ℚ) * step := mul_nonneg (Nat.cast_nonneg k) hstep.le
    have hstart := h.start_lt
    rw [max_eq_left (by linarith)]
    refine ⟨by linarith, hlt, n0 + 1 + k, ?_⟩
    rw [h.mark]
    push_cast
    ring
  · rintro ⟨hgt, hlt, n, rfl⟩
    have hpos : 0 < ((n : ℚ) - n0) * step := by
      have hle := h.le_start
      rw [h.mark] at hle
      linarith
    have hn : n0 < n := by
      have hcast := (mul_pos_iff_of_pos_right hstep).mp hpos
      exact_mod_cast sub_pos.mp hcast
    obtain ⟨k, hk⟩ := Int.eq_ofNat_of_zero_le (show 0 ≤ n - n0 - 1 by omega)
    have hmark : t + step + k * step = origin + n * step := by
      have hn' : (n : ℚ) = n0 + 1 + k := by
        have hint : n = n0 + 1 + (k : Int) := by omega
        rw [hint]
        push_cast
        ring
      rw [h.mark, hn']
      ring
    refine ⟨k, ?_, by rw [hmark]; exact hlt⟩
    rw [hmark, max_eq_left hgt.le]

variable (ds) in
/-- Bins over a grid with a positive step tile the period, and the counts tell what lies on their
ends. -/
theorem partition_of_grid (hspan : period.startCuc < period.endCuc) {f : ℚ → Int → Bin}
    {origin step t : ℚ} {n0 : Int} (hgrid : OnGrid period origin step t n0)
    (hstep : 0 < step)
    (hf : ∀ u i, t ≤ u → ((f u i).start, (f u i).stop) = tile period.startCuc period.endCuc step u)
    {fuel : Nat} {bs : List Bin} (hbs : collect f step period.endCuc fuel t n0 = some bs) :
    Tiles period.startCuc period.endCuc (bs.map fun b => (b.start, b.stop)) ∧
      ((bs.map fun b => within ds.hkPackets b.start b.stop).sum =
          within ds.hkPackets period.startCuc period.endCuc ↔
        ∀ n : Int, ∀ x ∈ ds.hkPackets, period.startCuc < x → x < period.endCuc →
          x ≠ origin + n * step) := by
  have htiles := tiles_of_collect hspan hstep hgrid.start_lt (fun b => (b.start, b.stop)) hf hbs
  rw [max_eq_right hgrid.le_start, min_eq_left hspan.le] at htiles
  refine ⟨htiles, ?_⟩
  obtain ⟨fuel', rest, rfl, rfl, hrest⟩ :=
    collect_of_lt (hgrid.le_start.trans_lt hspan) hbs
  have hstarts := mem_starts_iff (fun b : Bin => (b.start, b.stop))
    (fun u i hu => hf u i (by linarith)) hstep hrest
  have hmap : ((f t n0 :: rest).map fun b => within ds.hkPackets b.start b.stop) =
      ((f t n0 :: rest).map fun b => (b.start, b.stop)).map fun tile =>
        within ds.hkPackets tile.1 tile.2 := by
    rw [List.map_map]
    rfl
  rw [hmap]
  refine (sum_within_iff ds.hkPackets htiles).trans
    ⟨fun hnone n x hx hgt hlt heq => ?_, fun hnone x hx hmem => ?_⟩
  · apply hnone x _ hx
    apply (hstarts x).mpr
    exact (inner_marks hgrid hstep).mpr ⟨hgt, hlt, n, heq⟩
  · obtain ⟨hgt, hlt, n, heq⟩ := (inner_marks hgrid hstep).mp ((hstarts x).mp hx)
    exact hnone n x hmem hgt hlt heq

/-! ### Orbits and hours -/

/-- The orbit in which the period starts. -/
theorem onGrid_orbit (hper : 0 < host.orbitPeriodS catalogs) :
    OnGrid period (anchor host period catalogs) (host.orbitPeriodS catalogs)
      (anchor host period catalogs + firstOrbit host period catalogs * host.orbitPeriodS catalogs)
      (firstOrbit host period catalogs) where
  mark := rfl
  le_start := by
    have h : (firstOrbit host period catalogs : ℚ) ≤ _ := Int.floor_le _
    rw [le_div_iff₀ hper] at h
    linarith
  start_lt := by
    have h : _ < (firstOrbit host period catalogs : ℚ) + 1 := Int.lt_floor_add_one _
    rw [div_lt_iff₀ hper] at h
    linarith

theorem onGrid_hour : OnGrid period period.startCuc 3600 period.startCuc 0 where
  mark := by simp
  le_start := le_rfl
  start_lt := by linarith

variable (ds period) in
/-- Orbits and hours are bins over a grid. -/
theorem bins_on_grid {kind : Breakdown} (hby : kind = .orbit ∨ kind = .hour)
    (hper : PositivePeriod host catalogs kind) :
    ∃ f t n0, (∀ fuel, bins host ds period catalogs fuel kind =
        collect f (grid host period catalogs kind).2 period.endCuc fuel t n0) ∧
      OnGrid period (grid host period catalogs kind).1 (grid host period catalogs kind).2
        t n0 ∧
      0 < (grid host period catalogs kind).2 ∧
      ∀ u i, t ≤ u → ((f u i).start, (f u i).stop) =
        tile period.startCuc period.endCuc (grid host period catalogs kind).2 u := by
  rcases hby with rfl | rfl
  · have hpos : 0 < host.orbitPeriodS catalogs :=
      (host.orbitPeriodS_pos_iff catalogs).mpr (hper rfl)
    exact ⟨orbitBin host period catalogs, _, _, fun _ => rfl, onGrid_orbit hpos, hpos,
      fun _ _ _ => rfl⟩
  · refine ⟨hourBin host period, _, _, fun _ => rfl, onGrid_hour, by norm_num [grid],
      fun u i hu => ?_⟩
    have hstart : max u period.startCuc = u := max_eq_left hu
    unfold tile
    rw [hstart]
    rfl

/-- Without a positive period the loop starts at or after the start and does not get on. -/
theorem not_partitions_of_period (hspan : period.startCuc < period.endCuc)
    (hper : host.orbitPeriodS catalogs ≤ 0) : ¬ Partitions host ds period catalogs .orbit := by
  rintro ⟨fuel, bs, hbs, _, htiles, _⟩
  have hcollect : collect (orbitBin host period catalogs) (host.orbitPeriodS catalogs) period.endCuc
      fuel (anchor host period catalogs +
        firstOrbit host period catalogs * host.orbitPeriodS catalogs)
      (firstOrbit host period catalogs) = some bs := hbs
  rcases le_or_gt period.endCuc (anchor host period catalogs +
      firstOrbit host period catalogs * host.orbitPeriodS catalogs) with hle | hlt
  · rw [collect_of_le hle] at hcollect
    cases hcollect
    have hsame : period.startCuc = period.endCuc := htiles
    exact absurd hspan (hsame ▸ lt_irrefl _)
  · rw [collect_eq_none hper hlt] at hcollect
    cases hcollect

/-- Times of the first half day, from noon on. -/
def noonHost : Host where
  isoformat s :=
    let two := fun n : Int => (if n < 10 then "0" else "") ++ toString n
    if 0 ≤ s ∧ s < 43200 then
      some ("2000-01-01T" ++ two (12 + s / 3600) ++ ":" ++ two (s / 60 % 60) ++ ":" ++
        two (s % 60) ++ "+00:00")
    else none
  isoToCuc _ := 0
  motionField _ := none
  float _ := none
  round n x := ⌊x * 10 ^ n + 1 / 2⌋ / 10 ^ n
  passesIn _ _ := []

/-- One housekeeping packet. -/
def onePacket (t : ℚ) : TelemetryDataset where
  hkTimes := Dict.empty.set 1 [t]

end Reporting
