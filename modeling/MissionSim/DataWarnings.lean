import MissionSim.PlanData

/-!
# What the data budget warns of

From the integration of the onboard store the planner derives its totals and its warnings: dumps on
passes that are too low, a store that overflows or comes close to it, a plan that does not close,
and passes without a dump.  Left out is the view by rate tiers, which does not depend on the
schedule.
-/

namespace Planner

open Python DataBudget Timelines

variable {K : Type} [Field K] [LinearOrder K]

/-- What the data budget reads of an activity. -/
def Activity.data (a : Activity K) : DataBudget.Activity K where
  stateName := a.state.name
  name := a.name
  startTime := a.startTime
  durationS := a.durationS
  dataVolumeMb := a.dataVolumeMb

/-- What the data budget reads of a `BudgetTracker`, for its warnings too. -/
structure DataTracker (K : Type) extends BudgetTracker K where
  storageMarginPercent : K
  routineTier : String := "LOW"
  dumpTier : String := "HIGH"

/-- An entry of `pass_downlink`. -/
structure PassEntry (K : Type) where
  passId : Nat
  gsName : String
  aos : String
  los : String
  dumpCapable : Bool
  capacityMb : K
  plannedDumpMb : K
  dumpScheduled : Bool

/-- The results of `compute_data_budget()` that depend on the schedule. -/
structure DataBudgetResult (K : Type) where
  onboardDataMb : K
  utilizationPercent : K
  passDownlink : List (PassEntry K)
  plannedGenerationMb : K
  plannedDownlinkMb : K
  warnings : List String
  hkGenerationMb : K
  peakOnboardMb : K
  peakUtilizationPercent : K
  peakUtc : Option String
  firstOverflowUtc : Option String
  overflowMb : K
  backlogGrowthMb : K
  totalPassCapacityMb : K
  dailyDownlinkCapacityMb : K
  daysToDrain : K
  dumpContactFractionPercent : K
  planCloses : Bool
  horizonHours : K

/-- `eps_mb`. -/
def epsMb : K := 1 / 1000000000

namespace DataTracker

variable (host : Host K) (t : DataTracker K)

/-- The activity is a dump that overlaps a contact from one time to another. -/
def dumpsDuring (aos los : K) (a : DataBudget.Activity K) : Bool :=
  !(a.stateName = "CANCELLED" || a.stateName = "FAILED") && BudgetTracker.isDump host.toHost a &&
    (host.parseIso a.startTime).any fun start => start < los ∧ aos < start + a.durationS

/-- `_is_dump_scheduled_during(contact)`. -/
def isDumpScheduledDuring (c : Contact K) : Bool :=
  match host.parseIso c.aos, host.parseIso c.los with
  | some aos, some los => t.schedule.any (dumpsDuring host aos los)
  | _, _ => false

/-- `dump_capable`. -/
def dumpCapable (c : Contact K) : Bool := 0 < t.highFraction host.toHost c

/-- An entry of `gated_dumps`. -/
def gatedDump (entry : Contact K × Nat) : Option String :=
  if t.isDumpScheduledDuring host entry.1 && !t.dumpCapable host entry.1 then
    some ("pass " ++ toString (entry.2 + 1) ++ " (" ++ entry.1.gsName ++ ", max el " ++
      host.fixed 1 entry.1.maxElevationDeg ++ " deg)")
  else none

/-- `gated_dumps`. -/
def gatedDumps : List String := t.contacts.zipIdx.filterMap (t.gatedDump host)

/-- The ends of an interval, in the zones of two texts. -/
def endMoments (from_ to_ : String) (interval : K × K) : List (Moment K) :=
  [⟨interval.1, from_⟩, ⟨interval.2, to_⟩]

/-- The boundaries as they are added to the set. -/
def boundaryMoments : List (Moment K) :=
  (t.active.flatMap fun a => (BudgetTracker.genInterval host.toHost a).toList.flatMap fun i =>
      endMoments a.startTime a.startTime i.1) ++
    (t.active.flatMap fun a => (BudgetTracker.dumpInterval host.toHost a).toList.flatMap
      (endMoments a.startTime a.startTime)) ++
    t.contacts.flatMap fun c => (t.passInterval host.toHost c 0).toList.flatMap fun p =>
      endMoments c.aos c.los p.interval

/-- `isoformat()` of a boundary; of equal boundaries the set keeps the first. -/
def boundaryIso (time : K) : Option String :=
  ((t.boundaryMoments host).find? fun m => m.time = time).map host.iso

/-- An entry of `pass_downlink`. -/
def passEntry (fill : Fill K) (entry : Contact K × Nat) : PassEntry K where
  passId := entry.2 + 1
  gsName := entry.1.gsName
  aos := entry.1.aos
  los := entry.1.los
  dumpCapable := t.dumpCapable host entry.1
  capacityMb := host.round 1 (t.passCapacityMb host.toHost entry.1)
  plannedDumpMb := host.round 1 (fill.perPassDumped entry.2)
  dumpScheduled := t.isDumpScheduledDuring host entry.1

/-- `horizon_h`. -/
def horizonH : K :=
  match (t.times host.toHost).head?, (t.times host.toHost).getLast? with
  | some start, some stop => if start < stop then (stop - start) / 3600 else 24
  | _, _ => 24

/-- `_contacts_span_hours()`. -/
def contactsSpanHours : K :=
  match t.contacts.filterMap (fun c => host.parseIso c.aos),
    t.contacts.filterMap (fun c => host.parseIso c.los) with
  | aos :: aosTimes, los :: losTimes =>
    max ((losTimes.foldl max los - aosTimes.foldl min aos) / 3600) 0
  | _, _ => 0

/-- `contacts_span_h`. -/
def contactsSpanH : K :=
  if t.contactsSpanHours host = 0 then t.horizonH host else t.contactsSpanHours host

/-- `total_capacity_mb`. -/
def totalCapacityMb : K := (t.contacts.map (t.passCapacityMb host.toHost)).sum

/-- `daily_capacity_mb`. -/
def dailyCapacityMb : K :=
  if 0 < t.contactsSpanH host then t.totalCapacityMb host / t.contactsSpanH host * 24 else 0

/-- `days_to_drain`. -/
def daysToDrain (onboardMb : K) : K :=
  if epsMb < t.dailyCapacityMb host ∧ epsMb < onboardMb then onboardMb / t.dailyCapacityMb host
  else 0

/-- `dump_contact_fraction`. -/
def dumpContactFraction : K :=
  let totalUsableS := (t.contacts.map t.usableSeconds).sum
  let dumpCommittedS := ((t.contacts.filter (t.isDumpScheduledDuring host)).map t.usableSeconds).sum
  if 0 < totalUsableS then 100 * dumpCommittedS / totalUsableS else 0

/-- A level in percent of the storage. -/
def utilization (mb : K) : K := if 0 < t.storageMb then mb / t.storageMb * 100 else 0

/-! ### Warnings -/

/-- The warning of dumps on passes that are too low. -/
def gateWarning (gatedDumps : List String) : List String :=
  if gatedDumps = [] then []
  else
    ["DUMP_BELOW_ELEVATION_GATE: " ++ toString gatedDumps.length ++
      " dump(s) are booked on passes that never reach " ++ host.fixed 0 t.defaultMinDumpEl ++
      " deg, so the spacecraft will refuse the " ++ t.dumpTier ++ " tier and they run at " ++
      t.routineTier ++ " (" ++ host.fixed 0 (t.routineRateBps / 1000) ++ " kbps): " ++
      String.intercalate "; " (gatedDumps.take 5) ++ if 5 < gatedDumps.length then " ..." else ""]

/-- The warning of a store that overflows, or comes close to it. -/
def storageWarning (fill : Fill K) : List String :=
  if epsMb < fill.overflowMb then
    ["STORAGE_OVERFLOW: onboard data exceeds storage capacity (" ++ host.fixed 0 t.storageMb ++
      " MB) from " ++ (fill.firstOverflow.bind (t.boundaryIso host)).getD "unknown" ++ "; " ++
      host.fixed 1 fill.overflowMb ++ " MB lost over the horizon"]
  else if t.storageMb * (1 - t.storageMarginPercent / 100) < fill.peakMb then
    ["Peak onboard data " ++ host.fixed 1 fill.peakMb ++ " MB is inside the " ++
      host.fixed 0 t.storageMarginPercent ++ "% storage margin (" ++ host.fixed 0 t.storageMb ++
      " MB capacity)"]
  else []

/-- The warning of data that is not downlinked at all. -/
def noDownlinkWarning (plannedGenMb : K) (fill : Fill K) : List String :=
  if 0 < plannedGenMb ∧ fill.downlinkedMb ≤ epsMb then
    ["Data generation planned but no downlink passes scheduled"]
  else []

/-- The warning of a plan that does not close. -/
def backlogWarning (plannedGenMb : K) (fill : Fill K) : List String :=
  let backlogGrowthMb := fill.onboardMb - t.initialOnboardMb
  let daysToDrain := t.daysToDrain host fill.onboardMb
  if epsMb < backlogGrowthMb then
    ["DOWNLINK_INFEASIBLE: plan does not close — backlog grows by " ++
      host.fixed 1 backlogGrowthMb ++ " MB over " ++ host.fixed 1 (t.horizonH host) ++
      " h (generated " ++ host.fixed 1 (plannedGenMb + fill.hkMb) ++ " MB, downlinked " ++
      host.fixed 1 fill.downlinkedMb ++ " MB). Total pass capacity is " ++
      host.fixed 1 (t.dailyCapacityMb host) ++ " MB/day on the ladder (" ++ t.dumpTier ++ " " ++
      host.fixed 0 (t.dumpRateBps / 1000) ++ " kbps above " ++ host.fixed 0 t.defaultMinDumpEl ++
      " deg, " ++ t.routineTier ++ " " ++ host.fixed 0 (t.routineRateBps / 1000) ++
      " kbps below it)" ++
      if daysToDrain = 0 then ""
      else "; " ++ host.fixed 1 daysToDrain ++ " days of contact time needed to drain"]
  else []

/-- The warning of passes without a dump. -/
def unusedWarning (plannedGenMb : K) (passDownlink : List (PassEntry K)) : List String :=
  let unused := passDownlink.filter fun p => !p.dumpScheduled
  if 0 < plannedGenMb ∧ unused ≠ [] then
    ["PASS_WITHOUT_DUMP: " ++ toString unused.length ++ " of " ++ toString passDownlink.length ++
      " contact windows carry no dump (" ++
      host.fixed 1 (unused.map PassEntry.capacityMb).sum ++ " MB of unused capacity)"]
  else []

/-- `compute_data_budget()`. -/
def computeDataBudget : DataBudgetResult K :=
  let report := t.toBudgetTracker.computeDataBudget host.toHost
  let fill := report.fill
  let passDownlink := t.contacts.zipIdx.map (t.passEntry host fill)
  let backlogGrowthMb := fill.onboardMb - t.initialOnboardMb
  { onboardDataMb := host.round 1 (max 0 fill.onboardMb)
    utilizationPercent := host.round 1 (max 0 (min 100 (t.utilization fill.onboardMb)))
    passDownlink := passDownlink
    plannedGenerationMb := host.round 1 report.plannedGenMb
    plannedDownlinkMb := host.round 1 fill.downlinkedMb
    warnings := t.gateWarning host (t.gatedDumps host) ++ t.storageWarning host fill ++
      noDownlinkWarning report.plannedGenMb fill ++ t.backlogWarning host report.plannedGenMb fill ++
      unusedWarning host report.plannedGenMb passDownlink
    hkGenerationMb := host.round 1 fill.hkMb
    peakOnboardMb := host.round 1 fill.peakMb
    peakUtilizationPercent := host.round 1 (max 0 (min 100 (t.utilization fill.peakMb)))
    peakUtc := fill.peakTime.bind (t.boundaryIso host)
    firstOverflowUtc := fill.firstOverflow.bind (t.boundaryIso host)
    overflowMb := host.round 1 fill.overflowMb
    backlogGrowthMb := host.round 1 backlogGrowthMb
    totalPassCapacityMb := host.round 1 (t.totalCapacityMb host)
    dailyDownlinkCapacityMb := host.round 1 (t.dailyCapacityMb host)
    daysToDrain := host.round 2 (t.daysToDrain host fill.onboardMb)
    dumpContactFractionPercent := host.round 1 (t.dumpContactFraction host)
    planCloses := decide (fill.overflowMb ≤ epsMb) && decide (backlogGrowthMb ≤ epsMb)
    horizonHours := host.round 2 (t.horizonH host) }

end DataTracker

end Planner

/-! ### What is read of the schedule -/

namespace DataBudget.BudgetTracker

open Python Timelines

variable {K : Type} [Field K] [LinearOrder K] (host : Host K) (t : BudgetTracker K)

/-- The tracker of the activities that are neither cancelled nor failed. -/
def onlyActive : BudgetTracker K := { t with schedule := t.active }

omit [Field K] [LinearOrder K] in
@[simp] theorem active_onlyActive : t.onlyActive.active = t.active := by
  unfold onlyActive active
  rw [List.filter_filter]
  exact List.filter_congr fun a _ => Bool.and_self _

omit [LinearOrder K] in
@[simp] theorem plannedGenMb_onlyActive : t.onlyActive.plannedGenMb = t.plannedGenMb := by
  unfold plannedGenMb
  rw [active_onlyActive]

@[simp] theorem genIntervals_onlyActive : t.onlyActive.genIntervals host = t.genIntervals host := by
  unfold genIntervals
  rw [active_onlyActive]

@[simp] theorem dumpIntervals_onlyActive :
    t.onlyActive.dumpIntervals host = t.dumpIntervals host := by
  unfold dumpIntervals
  rw [active_onlyActive]

@[simp] theorem times_onlyActive : t.onlyActive.times host = t.times host := by
  unfold times boundaries
  rw [genIntervals_onlyActive, dumpIntervals_onlyActive]
  rfl

/-- A gap of the integration. -/
theorem advance_onlyActive : t.onlyActive.advance host = t.advance host := by
  have hover : t.onlyActive.passOver host = t.passOver host := by
    funext gap
    unfold passOver
    rw [dumpIntervals_onlyActive]
    rfl
  have hgen : t.onlyActive.genRate host = t.genRate host := by
    funext gap
    unfold genRate
    rw [genIntervals_onlyActive]
    rfl
  have hdl : t.onlyActive.dlRate host = t.dlRate host := by
    funext gap
    unfold dlRate
    rw [hover]
  funext f gap
  unfold advance dump store
  rw [hover, hgen, hdl]
  rfl

/-- **The data budget reads the activities that are neither cancelled nor failed.** -/
theorem computeDataBudget_onlyActive :
    t.onlyActive.computeDataBudget host = t.computeDataBudget host := by
  unfold computeDataBudget start
  rw [advance_onlyActive, times_onlyActive, plannedGenMb_onlyActive]
  rfl

end DataBudget.BudgetTracker

namespace Planner.DataTracker

open Python DataBudget Timelines

variable {K : Type} [Field K] [LinearOrder K] (host : Host K) (t : DataTracker K)

/-- The tracker of the activities that are neither cancelled nor failed. -/
def onlyActive : DataTracker K := { t with toBudgetTracker := t.toBudgetTracker.onlyActive }

theorem isDumpScheduledDuring_onlyActive :
    t.onlyActive.isDumpScheduledDuring host = t.isDumpScheduledDuring host := by
  have hany : ∀ aos los, t.onlyActive.schedule.any (dumpsDuring host aos los) =
      t.schedule.any (dumpsDuring host aos los) := by
    intro aos los
    show t.active.any (dumpsDuring host aos los) = _
    unfold BudgetTracker.active
    rw [List.any_filter]
    refine congrArg (List.any t.schedule) (funext fun a => ?_)
    unfold dumpsDuring
    cases !(decide (a.stateName = "CANCELLED") || decide (a.stateName = "FAILED")) <;> rfl
  funext c
  unfold isDumpScheduledDuring
  simp only [hany]

/-- **So do its warnings and totals.** -/
theorem computeDataBudget_onlyActive :
    t.onlyActive.computeDataBudget host = t.computeDataBudget host := by
  have hreport : t.onlyActive.toBudgetTracker.computeDataBudget host.toHost =
      t.toBudgetTracker.computeDataBudget host.toHost :=
    t.toBudgetTracker.computeDataBudget_onlyActive host.toHost
  have hhorizon : t.onlyActive.horizonH host = t.horizonH host := by
    unfold horizonH
    rw [show t.onlyActive.times host.toHost = t.times host.toHost from
      t.toBudgetTracker.times_onlyActive host.toHost]
  have hiso : t.onlyActive.boundaryIso host = t.boundaryIso host := by
    unfold boundaryIso boundaryMoments
    rw [show t.onlyActive.active = t.active from t.toBudgetTracker.active_onlyActive]
    rfl
  have hspan : t.onlyActive.contactsSpanH host = t.contactsSpanH host := by
    unfold contactsSpanH
    rw [hhorizon]
    rfl
  have hdaily : t.onlyActive.dailyCapacityMb host = t.dailyCapacityMb host := by
    unfold dailyCapacityMb
    rw [hspan]
    rfl
  unfold computeDataBudget gatedDumps gatedDump storageWarning backlogWarning passEntry
    daysToDrain dumpContactFraction
  rw [hreport, hhorizon, hiso, hdaily, isDumpScheduledDuring_onlyActive]
  rfl

end Planner.DataTracker
