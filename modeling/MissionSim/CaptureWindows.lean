import MissionSim.MaximalRuns
import MissionSim.Revisits

/-!
# Captures and access windows

The planner walks the track once for all targets.  For each target it opens, extends and closes the
value of a run of samples at which the target is reachable and lit, so that what it offers are the
values of the maximal runs (`offered_run`).

The capture of a run is centred on the closest approach and moved to the start where it would begin
earlier.  Nothing moves it back where it would end later than the run: it lies inside the run, where
this is long enough, exactly if the closest approach is at least half the capture before the end
(`capture_inside_iff`).
-/

namespace Planner

namespace ImagingPlanner

open Python MaximalRuns

variable (host : ImagingHost) (p : ImagingPlanner)

/-! ### Runs of samples -/

/-- A target is reachable and lit at a sample. -/
def imageable (target : ImagingTarget) (point : TrackSample) : Bool :=
  p.reachable host point target && p.lit host point target

/-- The opportunity that a sample opens. -/
def opened (target : ImagingTarget) (point : TrackSample) : Opportunity :=
  p.makeOpp host point target true none

/-- The opportunity of a run, before it is finalised. -/
def opportunityOf (target : ImagingTarget) (run : List TrackSample) : Option Opportunity :=
  value (p.opened host target) (fun point => p.extend host point target) run

/-- What is open for a target after one more sample. -/
def nextOpen (target : ImagingTarget) (open? : Option Opportunity) (point : TrackSample) :
    Option Opportunity :=
  slot (p.imageable host target) (p.opened host target) (fun point => p.extend host point target)
    open? point

/-- What is closed for a target at a sample. -/
def closedAt (target : ImagingTarget) (open? : Option Opportunity) (point : TrackSample) :
    List Opportunity :=
  (closed (p.imageable host target) open? point).map (p.finalise host)

/-- What is closed for a target along a track. -/
def closedAlong (target : ImagingTarget) (open? : Option Opportunity) (track : List TrackSample) :
    List Opportunity :=
  (walk (p.imageable host target) (p.opened host target) (fun point => p.extend host point target)
    open? track).map (p.finalise host)

/-- What is open for a target. -/
def Search.openFor (s : Search) (targetId : String) : Option Opportunity :=
  (s.active.get? targetId).join

variable {host p} {includeInfeasible : Bool} {s : Search} {target : ImagingTarget}
  {point : TrackSample}

/-! ### One sample -/

theorem openFor_set_same (id : String) (o : Option Opportunity) (s : Search) :
    Search.openFor { s with active := s.active.set id o } id = o := by
  unfold Search.openFor
  rw [Dict.get?_set_same]
  rfl

theorem openFor_set_ne {id other : String} (h : other ≠ id) (o : Option Opportunity) (s : Search) :
    Search.openFor { s with active := s.active.set id o } other = s.openFor other := by
  unfold Search.openFor
  rw [Dict.get?_set_ne s.active h]

theorem finalise_feasible (opp : Opportunity) :
    (p.finalise host opp).feasible = opp.feasible := by
  cases h : host.moment opp.closestApproachUtc <|> host.moment opp.startUtc with
  | none | some => simp only [finalise, h]

/-- What one target does to a search: what is open for it changes, and what is closed is added. -/
structure Turns (s s' : Search) (id : String) (next : Option Opportunity)
    (closed : List Opportunity) : Prop where
  same : s'.openFor id = next
  other : ∀ other, other ≠ id → s'.openFor other = s.openFor other
  opportunities : s'.opportunities = s.opportunities ++ closed
  rejected : ∀ r ∈ s'.rejected, r ∈ s.rejected ∨ r.feasible = false

open List

theorem turns_set (id : String) (o : Option Opportunity) (s : Search) :
    Turns s { s with active := s.active.set id o } id o [] :=
  ⟨openFor_set_same id o s, fun _ h => openFor_set_ne h o s, (append_nil _).symm,
    fun _ h => Or.inl h⟩

/-- Closing finalises the opportunity that is open, if any. -/
theorem close_turns {id : String} (hfeasible : ∀ opp, s.openFor id = some opp → opp.feasible = true) :
    Turns s (p.close host s id) id none ((s.openFor id).toList.map (p.finalise host)) := by
  cases hopen : (s.active.get? id).join with
  | none =>
      have hclose : p.close host s id = s := by
        unfold close
        rw [hopen]
      rw [hclose, Search.openFor, hopen]
      exact ⟨hopen, fun _ _ => rfl, (append_nil _).symm, fun _ h => Or.inl h⟩
  | some opp =>
      have hdone := (@finalise_feasible host p opp).trans (hfeasible opp hopen)
      have hclose : p.close host s id =
          { s with
            active := s.active.set id none
            opportunities := s.opportunities ++ [p.finalise host opp] } := by
        unfold close
        rw [hopen]
        simp only [hdone, if_true]
      rw [hclose, Search.openFor, hopen]
      exact ⟨openFor_set_same id none _, fun _ h => openFor_set_ne h none _, rfl,
        fun _ h => Or.inl h⟩

/-- A target at a sample changes what is open for it, and adds what is closed. -/
theorem visit_turns (hfeasible : ∀ opp, s.openFor target.id = some opp → opp.feasible = true) :
    Turns s (p.visit host includeInfeasible point s target) target.id
      (p.nextOpen host target (s.openFor target.id) point)
      (p.closedAt host target (s.openFor target.id) point) := by
  -- out of reach or in the dark, what is open is closed
  have hbad : ∀ s', p.imageable host target point = false →
      (s.openFor target.id = none → Turns s s' target.id none []) →
      Turns s (if (s.active.get? target.id).join.isSome then p.close host s target.id else s')
        target.id (p.nextOpen host target (s.openFor target.id) point)
        (p.closedAt host target (s.openFor target.id) point) := by
    intro s' himage hs'
    have hclosed : p.closedAt host target (s.openFor target.id) point =
        (s.openFor target.id).toList.map (p.finalise host) := by
      simp [closedAt, closed, himage]
    rw [nextOpen, slot_of_bad himage, hclosed]
    split
    · exact close_turns hfeasible
    · rename_i hnone
      have hopen : s.openFor target.id = none := Option.not_isSome_iff_eq_none.mp hnone
      rw [hopen]
      exact hs' hopen
  have hstill : s.openFor target.id = none → Turns s s target.id none [] :=
    fun hopen => ⟨hopen, fun _ _ => rfl, (append_nil _).symm, fun _ h => Or.inl h⟩
  unfold visit
  cases hreach : p.reachable host point target with
  | false => exact hbad s (by rw [imageable, hreach, Bool.false_and]) hstill
  | true =>
      cases hlit : p.lit host point target with
      | true =>
          have himage : p.imageable host target point = true := by
            rw [imageable, hreach, hlit, Bool.true_and]
          have hclosed : p.closedAt host target (s.openFor target.id) point = [] := by
            simp [closedAt, closed, himage]
          unfold nextOpen slot
          rw [hclosed, if_pos himage, Search.openFor]
          cases (s.active.get? target.id).join with
          | none | some => exact turns_set target.id _ s
      | false =>
          have himage : p.imageable host target point = false := by
            rw [imageable, hreach, hlit, Bool.true_and]
          refine hbad _ himage fun hopen => ?_
          split
          · refine ⟨hopen, fun _ _ => rfl, (append_nil _).symm, ?_⟩
            intro r hr
            rcases mem_append.mp hr with hr | hr
            · exact Or.inl hr
            · obtain rfl := mem_singleton.mp hr
              exact Or.inr rfl
          · exact hstill hopen

/-! ### The walk -/

/-- Only feasible opportunities are open, only for targets, and only infeasible ones are rejected. -/
structure Sane (p : ImagingPlanner) (s : Search) : Prop where
  feasible : ∀ id opp, s.openFor id = some opp → opp.feasible = true
  known : ∀ id opp, s.openFor id = some opp → id ∈ p.targets.map ImagingTarget.id
  rejected : ∀ r ∈ s.rejected, r.feasible = false

theorem extend_feasible (opp : Opportunity) :
    (p.extend host point target opp).feasible = opp.feasible := by
  unfold extend
  dsimp only
  split
  · rfl
  · rfl

theorem nextOpen_feasible {o : Option Opportunity} (h : ∀ opp, o = some opp → opp.feasible = true) :
    ∀ opp, p.nextOpen host target o point = some opp → opp.feasible = true := by
  intro opp hopp
  unfold nextOpen slot at hopp
  split at hopp
  · cases o with
    | none =>
        cases hopp
        rfl
    | some old =>
        cases hopp
        exact (extend_feasible old).trans (h old rfl)
  · cases hopp

theorem Sane.turns {s' : Search} {id : String} {next : Option Opportunity}
    {closed : List Opportunity} (hs : Sane p s) (h : Turns s s' id next closed)
    (hnext : ∀ opp, next = some opp → opp.feasible = true ∧ id ∈ p.targets.map ImagingTarget.id) :
    Sane p s' := by
  have hopen : ∀ other opp, s'.openFor other = some opp →
      opp.feasible = true ∧ other ∈ p.targets.map ImagingTarget.id := by
    intro other opp hopp
    by_cases heq : other = id
    · rw [heq, h.same] at hopp
      rw [heq]
      exact hnext opp hopp
    · rw [h.other other heq] at hopp
      exact ⟨hs.feasible other opp hopp, hs.known other opp hopp⟩
  refine ⟨fun other opp hopp => (hopen other opp hopp).1,
    fun other opp hopp => (hopen other opp hopp).2, ?_⟩
  intro r hr
  exact (h.rejected r hr).elim (hs.rejected r) fun hbad => hbad

/-- All targets at one sample. -/
theorem visitAll_spec (includeInfeasible : Bool) (point : TrackSample)
    {targets : List ImagingTarget} (hsub : ∀ t ∈ targets, t ∈ p.targets)
    (hids : (targets.map ImagingTarget.id).Nodup) (hs : Sane p s) :
    Sane p (targets.foldl (p.visit host includeInfeasible point) s) ∧
      (∀ t ∈ targets, (targets.foldl (p.visit host includeInfeasible point) s).openFor t.id =
        p.nextOpen host t (s.openFor t.id) point) ∧
      (∀ id ∉ targets.map ImagingTarget.id,
        (targets.foldl (p.visit host includeInfeasible point) s).openFor id = s.openFor id) ∧
      (targets.foldl (p.visit host includeInfeasible point) s).opportunities =
        s.opportunities ++ targets.flatMap fun t => p.closedAt host t (s.openFor t.id) point := by
  induction targets generalizing s with
  | nil =>
      exact ⟨hs, fun _ ht => absurd ht not_mem_nil, fun _ _ => rfl, (append_nil _).symm⟩
  | cons target rest ih =>
      obtain ⟨hfresh, hrest⟩ := nodup_cons.mp hids
      have hturns := @visit_turns host p includeInfeasible s target point (hs.feasible target.id)
      have hsane := hs.turns hturns fun opp hopp =>
        ⟨nextOpen_feasible (hs.feasible target.id) opp hopp,
          mem_map_of_mem (hsub target mem_cons_self)⟩
      obtain ⟨hsane', hsame', hother', hopportunities'⟩ :=
        ih (fun t ht => hsub t (mem_cons_of_mem target ht)) hrest hsane
      -- the targets that follow have other identifiers
      have hkept : ∀ t ∈ rest,
          (p.visit host includeInfeasible point s target).openFor t.id = s.openFor t.id := by
        intro t ht
        apply hturns.other
        intro heq
        exact hfresh (heq ▸ mem_map_of_mem ht)
      rw [foldl_cons]
      refine ⟨hsane', ?_, ?_, ?_⟩
      · intro t ht
        rcases mem_cons.mp ht with rfl | ht
        · exact (hother' t.id hfresh).trans hturns.same
        · rw [hsame' t ht, hkept t ht]
      · intro id hid
        rw [map_cons, mem_cons, not_or] at hid
        rw [hother' id hid.2, hturns.other id hid.1]
      · have hflat : (rest.flatMap fun t => p.closedAt host t
            ((p.visit host includeInfeasible point s target).openFor t.id) point) =
            rest.flatMap fun t => p.closedAt host t (s.openFor t.id) point := by
          apply flatMap_congr
          intro t ht
          rw [hkept t ht]
        rw [hopportunities', hflat, hturns.opportunities, append_assoc]
        rfl

/-- What is open at the end is closed. -/
theorem closeAll_spec {keys : List String} (hkeys : keys.Nodup) (hs : Sane p s) :
    (∀ r ∈ (keys.foldl (p.close host) s).rejected, r.feasible = false) ∧
      (keys.foldl (p.close host) s).opportunities =
        s.opportunities ++ keys.flatMap fun id => (s.openFor id).toList.map (p.finalise host) := by
  induction keys generalizing s with
  | nil => exact ⟨hs.rejected, (append_nil _).symm⟩
  | cons id rest ih =>
      obtain ⟨hfresh, hrest⟩ := nodup_cons.mp hkeys
      have hturns := @close_turns host p s id (hs.feasible id)
      have hsane := hs.turns hturns fun _ hnone => nomatch hnone
      have hflat : (rest.flatMap fun other =>
            ((p.close host s id).openFor other).toList.map (p.finalise host)) =
          rest.flatMap fun other => (s.openFor other).toList.map (p.finalise host) := by
        apply flatMap_congr
        intro other hmem
        rw [hturns.other other fun heq => hfresh (heq ▸ hmem)]
      obtain ⟨hrejected', hopportunities'⟩ := ih hrest hsane
      rw [foldl_cons]
      refine ⟨hrejected', ?_⟩
      rw [hopportunities', hflat, hturns.opportunities, append_assoc]
      rfl

/-- The walk over the track closes, for each target, what its own walk closes. -/
theorem walkAll_spec (includeInfeasible : Bool) (hids : (p.targets.map ImagingTarget.id).Nodup)
    (track : List TrackSample) (hs : Sane p s) :
    let walked := track.foldl
      (fun s point => p.targets.foldl (p.visit host includeInfeasible point) s) s
    (∀ r ∈ (walked.active.keys.foldl (p.close host) walked).rejected, r.feasible = false) ∧
      ∀ opp, opp ∈ (walked.active.keys.foldl (p.close host) walked).opportunities ↔
        opp ∈ s.opportunities ∨
          ∃ t ∈ p.targets, opp ∈ p.closedAlong host t (s.openFor t.id) track := by
  induction track generalizing s with
  | nil =>
      obtain ⟨hrejected, hopportunities⟩ :=
        @closeAll_spec host p s s.active.keys s.active.nodup hs
      refine ⟨hrejected, ?_⟩
      intro opp
      show opp ∈ (s.active.keys.foldl (p.close host) s).opportunities ↔ _
      rw [hopportunities, mem_append, mem_flatMap]
      apply or_congr_right
      constructor
      · rintro ⟨id, -, hopp⟩
        obtain ⟨o, ho, rfl⟩ := mem_map.mp hopp
        obtain ⟨t, ht, rfl⟩ := mem_map.mp (hs.known id o (Option.mem_toList.mp ho))
        exact ⟨t, ht, mem_map_of_mem ho⟩
      · rintro ⟨t, -, hopp⟩
        obtain ⟨o, ho, rfl⟩ := mem_map.mp hopp
        refine ⟨t.id, ?_, mem_map_of_mem ho⟩
        have hget : (s.active.get? t.id).join = some o := Option.mem_toList.mp ho
        rw [Dict.mem_keys_iff]
        exact ⟨some o, Option.join_eq_some_iff.mp hget⟩
  | cons point rest ih =>
      obtain ⟨hsane, hsame, -, hopportunities⟩ :=
        @visitAll_spec host p s includeInfeasible point p.targets (fun _ ht => ht) hids hs
      obtain ⟨hrejected, hmem⟩ := ih hsane
      refine ⟨hrejected, ?_⟩
      intro opp
      have hstep := hmem opp
      rw [hopportunities, mem_append, mem_flatMap, or_assoc] at hstep
      refine hstep.trans (or_congr_right ?_)
      have hsplit : ∀ t ∈ p.targets, (opp ∈ p.closedAlong host t (s.openFor t.id) (point :: rest) ↔
          opp ∈ p.closedAt host t (s.openFor t.id) point ∨
            opp ∈ p.closedAlong host t ((p.targets.foldl
              (p.visit host includeInfeasible point) s).openFor t.id) rest) := by
        intro t ht
        rw [hsame t ht, closedAlong, walk, map_append, mem_append]
        rfl
      constructor
      · rintro (⟨t, ht, hopp⟩ | ⟨t, ht, hopp⟩)
        · exact ⟨t, ht, (hsplit t ht).mpr (Or.inl hopp)⟩
        · exact ⟨t, ht, (hsplit t ht).mpr (Or.inr hopp)⟩
      · rintro ⟨t, ht, hopp⟩
        rcases (hsplit t ht).mp hopp with hopp | hopp
        · exact Or.inl ⟨t, ht, hopp⟩
        · exact Or.inr ⟨t, ht, hopp⟩

/-! ### What is offered -/

theorem openFor_initial (targets : List ImagingTarget) (id : String) :
    Search.openFor { active := targets.foldl (fun d t => d.set t.id none) Dict.empty } id = none := by
  have hrun : ∀ d : Dict String (Option Opportunity), (d.get? id).join = none →
      ((targets.foldl (fun d t => d.set t.id none) d).get? id).join = none := by
    induction targets with
    | nil => exact fun _ h => h
    | cons t rest ih =>
        intro d h
        apply ih
        by_cases heq : id = t.id
        · rw [heq, Dict.get?_set_same]
          rfl
        · rw [Dict.get?_set_ne d heq]
          exact h
  exact hrun Dict.empty rfl

/-- The search finds the opportunities of the maximal runs, and rejects only what is infeasible. -/
theorem search_spec (includeInfeasible : Bool) (hids : (p.targets.map ImagingTarget.id).Nodup)
    (track : List TrackSample) :
    (∀ r ∈ (p.search host includeInfeasible track).rejected, r.feasible = false) ∧
      ∀ opp, opp ∈ (p.search host includeInfeasible track).opportunities ↔
        ∃ target ∈ p.targets, ∃ run, IsMaximalRun (p.imageable host target) track run ∧
          (p.opportunityOf host target run).map (p.finalise host) = some opp := by
  have hinitial : Sane p { active := p.targets.foldl (fun d t => d.set t.id none) Dict.empty } := {
    feasible := by
      intro id opp hopp
      rw [openFor_initial] at hopp
      cases hopp
    known := by
      intro id opp hopp
      rw [openFor_initial] at hopp
      cases hopp
    rejected := fun _ hr => nomatch hr }
  obtain ⟨hrejected, hmem⟩ := @walkAll_spec host p _ includeInfeasible hids track hinitial
  refine ⟨hrejected, ?_⟩
  intro opp
  refine (hmem opp).trans ?_
  rw [or_iff_right (show opp ∉ ([] : List Opportunity) from not_mem_nil)]
  constructor
  · rintro ⟨t, ht, hopp⟩
    rw [openFor_initial] at hopp
    obtain ⟨o, ho, rfl⟩ := mem_map.mp hopp
    obtain ⟨run, hrun, hvalue⟩ := (mem_walk_iff track).mp ho
    exact ⟨t, ht, run, hrun, congrArg (Option.map (p.finalise host)) hvalue⟩
  · rintro ⟨t, ht, run, hrun, hvalue⟩
    obtain ⟨o, ho, rfl⟩ := Option.map_eq_some_iff.mp hvalue
    refine ⟨t, ht, ?_⟩
    rw [openFor_initial]
    exact mem_map_of_mem ((mem_walk_iff track).mpr ⟨run, hrun, ho⟩)

/-- The revisit filter keeps opportunities as they are, and what it drops is infeasible. -/
theorem applyRevisit_spec (last : Dict String ℚ) (opps : List Opportunity) :
    (∀ opp ∈ (applyRevisit host last opps).1, opp ∈ opps) ∧
      ∀ opp ∈ (applyRevisit host last opps).2, opp.feasible = false := by
  induction opps generalizing last with
  | nil => exact ⟨fun _ h => h, fun _ h => nomatch h⟩
  | cons o rest ih =>
      rcases @applyRevisit_cases host last o with
        ⟨-, hstep⟩ | ⟨t, prev, -, -, -, -, hstep⟩ | ⟨t, -, -, hstep⟩
      · rw [hstep rest]
        refine ⟨?_, (ih last).2⟩
        intro opp hopp
        exact (mem_cons.mp hopp).elim (fun heq => heq ▸ mem_cons_self)
          fun h => mem_cons_of_mem o ((ih last).1 opp h)
      · rw [hstep rest]
        refine ⟨fun opp hopp => mem_cons_of_mem o ((ih last).1 opp hopp), ?_⟩
        intro opp hopp
        rcases mem_cons.mp hopp with rfl | hopp
        · rfl
        · exact (ih last).2 opp hopp
      · rw [hstep rest]
        refine ⟨?_, (ih _).2⟩
        intro opp hopp
        exact (mem_cons.mp hopp).elim (fun heq => heq ▸ mem_cons_self)
          fun h => mem_cons_of_mem o ((ih _).1 opp h)

/-- A feasible opportunity that is offered is that of a maximal run. -/
theorem offered_run {track : List TrackSample} {opp : Opportunity}
    (hids : (p.targets.map ImagingTarget.id).Nodup)
    (hopp : opp ∈ p.computeOpportunities host includeInfeasible track)
    (hfeasible : opp.feasible = true) :
    ∃ target ∈ p.targets, ∃ run, IsMaximalRun (p.imageable host target) track run ∧
      (p.opportunityOf host target run).map (p.finalise host) = some opp := by
  obtain ⟨hrejected, hmem⟩ := @search_spec host p includeInfeasible hids track
  rw [← hmem opp]
  have hfound : opp ∈ sortByStart (p.search host includeInfeasible track).opportunities →
      opp ∈ (p.search host includeInfeasible track).opportunities := by
    rw [sortByStart, mem_insertionSort]
    exact id
  have hlost : opp ∉ sortByStart (p.search host includeInfeasible track).rejected := by
    intro h
    rw [sortByStart, mem_insertionSort] at h
    rw [hrejected opp h] at hfeasible
    cases hfeasible
  obtain ⟨hkept, hdropped⟩ := @applyRevisit_spec host p.lastScheduled
    (sortByStart (p.search host includeInfeasible track).opportunities)
  have hnot : opp ∉ (applyRevisit host p.lastScheduled
      (sortByStart (p.search host includeInfeasible track).opportunities)).2 := by
    intro h
    rw [hdropped opp h] at hfeasible
    cases hfeasible
  unfold computeOpportunities at hopp
  split at hopp
  · cases hopp
  · by_cases hrevisit : p.enforceRevisit = true
    · simp only [hrevisit, if_true] at hopp
      split at hopp
      · rw [sortByStart, mem_insertionSort, mem_append, mem_append] at hopp
        rcases hopp with hopp | hopp | hopp
        · exact hfound (hkept opp hopp)
        · exact absurd hopp hlost
        · exact absurd hopp hnot
      · exact hfound (hkept opp hopp)
    · simp only at hopp
      split at hopp
      · rw [sortByStart, mem_insertionSort, mem_append] at hopp
        exact hopp.elim hfound fun h => absurd h hlost
      · exact hfound hopp

/-! ### Captures -/

variable (host p)

/-- The closer one of two samples, where the distance of the first is rounded. -/
def nearer (target : ImagingTarget) (best point : TrackSample) : TrackSample :=
  if (p.view host point target).crossKm < host.round 1 (p.view host best target).crossKm then point
  else best

/-- The closest approach of a run. -/
def closestOf (target : ImagingTarget) : List TrackSample → Option TrackSample
  | [] => none
  | first :: rest => some (rest.foldl (p.nearer host target) first)

/-- An opportunity covers a run of samples for a target. -/
def Covers (opp : Opportunity) (target : ImagingTarget) (run : List TrackSample) : Prop :=
  opp.targetId = target.id ∧ run.head?.map TrackSample.utc = some opp.startUtc ∧
    run.getLast?.map TrackSample.utc = some opp.endUtc

/-- Unless it is said to exceed its window, the capture lies inside it. -/
def CaptureInside (opp : Opportunity) : Prop :=
  opp.captureExceedsWindow = false →
    ∃ start stop capture, host.parseIso opp.startUtc = some start ∧
      host.parseIso opp.endUtc = some stop ∧
      opp.captureUtc.bind host.parseIso = some capture ∧
      start ≤ capture ∧ capture + p.captureDurationS ≤ stop

/-- A run is shorter than a capture, or its closest approach comes at least half a capture before
its end. -/
def Roomy (target : ImagingTarget) (run : List TrackSample) : Prop :=
  ∃ first last closest start stop nearest, run.head? = some first ∧ run.getLast? = some last ∧
    p.closestOf host target run = some closest ∧ host.parseIso first.utc = some start ∧
    host.parseIso last.utc = some stop ∧ host.parseIso closest.utc = some nearest ∧
    (stop - start < p.captureDurationS ∨ nearest + p.captureDurationS / 2 ≤ stop)

/-- The times of the samples can be read, and what is written of them, and of the times half a
capture before, is read as what was written. -/
def ReadsTimes (track : List TrackSample) : Prop :=
  ∀ point ∈ track, ∃ t, host.parseIso point.utc = some t ∧
    host.parseIso (host.isoformat point.utc t) = some t ∧
    host.parseIso (host.isoformat point.utc (t - p.captureDurationS / 2)) =
      some (t - p.captureDurationS / 2)

/-- What an open opportunity says of its run. -/
structure Describes (target : ImagingTarget) (opp : Opportunity)
    (first last closest : TrackSample) : Prop where
  targetId : opp.targetId = target.id
  start : opp.startUtc = first.utc
  stop : opp.endUtc = last.utc
  approach : opp.closestApproachUtc = closest.utc
  cross : opp.crossTrackKm = host.round 1 (p.view host closest target).crossKm
  inside : opp.captureExceedsWindow = false

variable {host p}

theorem opened_describes (point : TrackSample) :
    Describes host p target (p.opened host target point) point point point :=
  ⟨rfl, rfl, rfl, rfl, rfl, rfl⟩

theorem extend_describes {opp : Opportunity} {first last closest : TrackSample}
    (h : Describes host p target opp first last closest) (point : TrackSample) :
    Describes host p target (p.extend host point target opp) first point
      (p.nearer host target closest point) := by
  unfold extend nearer
  rw [← h.cross]
  dsimp only
  split
  · exact ⟨h.targetId, h.start, rfl, rfl, rfl, h.inside⟩
  · exact ⟨h.targetId, h.start, rfl, h.approach, h.cross, h.inside⟩

/-- The opportunity of a run says which run it is, and where its closest approach lies. -/
theorem opportunityOf_describes {run : List TrackSample} {opp : Opportunity}
    (h : p.opportunityOf host target run = some opp) :
    ∃ first last closest, run.head? = some first ∧ run.getLast? = some last ∧
      p.closestOf host target run = some closest ∧ closest ∈ run ∧
      Describes host p target opp first last closest := by
  cases run with
  | nil => cases h
  | cons first rest =>
      have hrun : ∀ (samples : List TrackSample) (opp : Opportunity) (last closest : TrackSample),
          closest ∈ first :: rest → (∀ x ∈ samples, x ∈ first :: rest) →
          Describes host p target opp first last closest →
          samples.foldl (p.nearer host target) closest ∈ first :: rest ∧
            Describes host p target
              (samples.foldl (fun opp point => p.extend host point target opp) opp) first
              ((samples.getLast?).getD last) (samples.foldl (p.nearer host target) closest) := by
        intro samples
        induction samples with
        | nil => exact fun _ _ _ hmem _ h => ⟨hmem, h⟩
        | cons x xs ih =>
            intro opp last closest hmem hsub h
            have hnearer : p.nearer host target closest x ∈ first :: rest := by
              unfold nearer
              split
              · exact hsub x mem_cons_self
              · exact hmem
            have hlast : ((x :: xs).getLast?).getD last = xs.getLast?.getD x := by
              cases xs with
              | nil | cons => rfl
            rw [hlast]
            exact ih _ x _ hnearer (fun y hy => hsub y (mem_cons_of_mem x hy))
              (extend_describes h x)
      cases h
      obtain ⟨hmem, hdescribes⟩ := hrun rest (p.opened host target first) first first
        mem_cons_self (fun x hx => mem_cons_of_mem first hx) (opened_describes first)
      refine ⟨first, rest.getLast?.getD first, _, rfl, ?_, rfl, hmem, hdescribes⟩
      cases rest with
      | nil | cons => rfl

/-- The capture starts half its duration before the closest approach, or with the run. -/
theorem captureStart_eq {start closest : Moment ℚ} :
    ∃ m : Moment ℚ, p.captureStart (some start) closest = m ∧
      ((m = start ∧ closest.time - p.captureDurationS / 2 < start.time) ∨
        (m = ⟨closest.time - p.captureDurationS / 2, closest.zone⟩ ∧
          start.time ≤ closest.time - p.captureDurationS / 2)) := by
  have hcentred : closest.after (-(p.captureDurationS / 2)) =
      ⟨closest.time - p.captureDurationS / 2, closest.zone⟩ := by
    rw [Moment.after, ← sub_eq_add_neg]
  refine ⟨_, rfl, ?_⟩
  unfold captureStart
  simp only [hcentred]
  split
  next h => exact Or.inl ⟨rfl, h⟩
  next h => exact Or.inr ⟨rfl, not_lt.mp h⟩

/-- **The capture of an offered opportunity lies inside its access window, unless it is said to
exceed it, if and only if** the run that the opportunity covers is shorter than the capture, or its
closest approach comes at least half the capture before its end. -/
theorem capture_inside_iff (host : ImagingHost) (p : ImagingPlanner) (includeInfeasible : Bool)
    (track : List TrackSample) (opp : Opportunity)
    (hids : (p.targets.map ImagingTarget.id).Nodup) (htimes : p.ReadsTimes host track)
    (hopp : opp ∈ p.computeOpportunities host includeInfeasible track)
    (hfeasible : opp.feasible = true) :
    ∃ target ∈ p.targets, ∃ run, IsMaximalRun (p.imageable host target) track run ∧
      Covers opp target run ∧ (p.CaptureInside host opp ↔ p.Roomy host target run) := by
  obtain ⟨target, htarget, run, hrun, hvalue⟩ := offered_run hids hopp hfeasible
  obtain ⟨o, ho, rfl⟩ := Option.map_eq_some_iff.mp hvalue
  obtain ⟨first, last, closest, hfirst, hlast, hclosest, hmem, h⟩ := opportunityOf_describes ho
  have htrack : ∀ point ∈ run, point ∈ track := by
    obtain ⟨pre, post, rfl, -, -⟩ := hrun.bounded
    intro point hpoint
    simp [hpoint]
  obtain ⟨start, hstart, hisoStart, -⟩ := htimes first (htrack first (List.mem_of_head? hfirst))
  obtain ⟨stop, hstop, -, -⟩ := htimes last (htrack last (List.mem_of_getLast? hlast))
  obtain ⟨nearest, hnearest, -, hisoNearest⟩ := htimes closest (htrack closest hmem)
  have hmomentStart : host.moment o.startUtc = some ⟨start, first.utc⟩ := by
    rw [h.start, Host.moment, hstart]
    rfl
  have hmomentStop : host.moment o.endUtc = some ⟨stop, last.utc⟩ := by
    rw [h.stop, Host.moment, hstop]
    rfl
  have hmomentClosest : host.moment o.closestApproachUtc = some ⟨nearest, closest.utc⟩ := by
    rw [h.approach, Host.moment, hnearest]
    rfl
  obtain ⟨m, hm, hcase⟩ := @captureStart_eq p ⟨start, first.utc⟩ ⟨nearest, closest.utc⟩
  have hfinal : p.finalise host o =
      { o with
        durationS := some (host.round 1 (stop - start))
        captureUtc := some (host.iso m)
        captureExceedsWindow := decide (stop - start < p.captureDurationS) } := by
    unfold finalise
    rw [hmomentStart, hmomentStop, hmomentClosest, ← hm, h.inside]
    rfl
  have hcapture : host.parseIso (host.iso m) = some m.time ∧ start ≤ m.time ∧
      (p.captureDurationS ≤ stop - start →
        (m.time + p.captureDurationS ≤ stop ↔ nearest + p.captureDurationS / 2 ≤ stop)) := by
    rcases hcase with ⟨rfl, hlt⟩ | ⟨rfl, hle⟩
    · refine ⟨hisoStart, le_refl start, ?_⟩
      intro hlong
      constructor
      · intro _
        linarith
      · intro _
        linarith
    · refine ⟨hisoNearest, hle, ?_⟩
      intro _
      constructor
      · intro hend
        linarith
      · intro hend
        linarith
  refine ⟨target, htarget, run, hrun, ?_, ?_⟩
  · rw [hfinal]
    exact ⟨h.targetId, by rw [hfirst, h.start]; rfl, by rw [hlast, h.stop]; rfl⟩
  · rw [hfinal]
    constructor
    · intro hinside
      refine ⟨first, last, closest, start, stop, nearest, hfirst, hlast, hclosest, hstart, hstop,
        hnearest, ?_⟩
      by_cases hshort : stop - start < p.captureDurationS
      · exact Or.inl hshort
      · right
        obtain ⟨_, stop', capture, -, hstop', hread, -, hend⟩ := hinside (by simpa using hshort)
        rw [h.stop, hstop] at hstop'
        obtain rfl := Option.some.inj hstop'
        obtain rfl := Option.some.inj (hcapture.1.symm.trans hread)
        exact (hcapture.2.2 (not_lt.mp hshort)).mp hend
    · rintro ⟨first', last', closest', start', stop', nearest', hfirst', hlast', hclosest', hstart',
        hstop', hnearest', hroom⟩ hnotflagged
      obtain rfl := Option.some.inj (hfirst.symm.trans hfirst')
      obtain rfl := Option.some.inj (hlast.symm.trans hlast')
      obtain rfl := Option.some.inj (hclosest.symm.trans hclosest')
      obtain rfl := Option.some.inj (hstart.symm.trans hstart')
      obtain rfl := Option.some.inj (hstop.symm.trans hstop')
      obtain rfl := Option.some.inj (hnearest.symm.trans hnearest')
      have hlong : ¬ stop - start < p.captureDurationS := by simpa using hnotflagged
      refine ⟨start, stop, m.time, h.start ▸ hstart, h.stop ▸ hstop, hcapture.1, hcapture.2.1, ?_⟩
      exact (hcapture.2.2 (not_lt.mp hlong)).mpr (hroom.resolve_left hlong)

/-! ### A pass -/

/-- The sine near zero. -/
def sinSeries (x : ℚ) : ℚ := x - x ^ 3 / 6

/-- The times of the pass, and one before. -/
def passTimes : List (String × ℚ) :=
  [("2026-03-10T15:59:50+00:00", 1773158390), ("2026-03-10T16:00:00+00:00", 1773158400),
    ("2026-03-10T16:00:10+00:00", 1773158410), ("2026-03-10T16:00:20+00:00", 1773158420),
    ("2026-03-10T16:00:30+00:00", 1773158430), ("2026-03-10T16:00:40+00:00", 1773158440)]

/-- Reads and writes the times of the pass, and works out small distances along a meridian. -/
def passHost : ImagingHost :=
  { marchHost with
    parseIso := fun s => passTimes.lookup s
    isoformat := fun _ t => ((passTimes.find? fun entry => entry.2 = t).map Prod.fst).getD ""
    round := fun n x => ⌊x * 10 ^ n + 1 / 2⌋ / 10 ^ n
    sin := sinSeries
    cos := fun x => 1 - x ^ 2 / 2
    asin := fun x => x + x ^ 3 / 6
    atan2 := fun y x => y / x - (y / x) ^ 3 / 3
    -- the roots of the squares that come up
    sqrt := fun x =>
      (([2, 135 / 100, 7 / 10, 5 / 100].map fun deg => sinSeries (marchHost.radians deg / 2)).find?
        fun root => root * root = x).getD 0 }

/-- Takes captures of twenty seconds of one target, whatever the elevation of the sun. -/
def passPlanner : ImagingPlanner where
  targets := [{ id := "iqaluit", name := "Iqaluit", minLat := 634 / 10, maxLat := 64, minLon := -69,
                maxLon := -68 }]
  swathKm := 60
  maxOffNadirDeg := 30
  captureDurationS := 20
  enforceSolarElevation := false

/-- A sample every ten seconds, going up to the target. -/
def approaching : List TrackSample :=
  [{ utc := "2026-03-10T16:00:00+00:00", lat := 614 / 10, lon := -685 / 10 },
    { utc := "2026-03-10T16:00:10+00:00", lat := 6205 / 100, lon := -685 / 10 },
    { utc := "2026-03-10T16:00:20+00:00", lat := 627 / 10, lon := -685 / 10 },
    { utc := "2026-03-10T16:00:30+00:00", lat := 6335 / 100, lon := -685 / 10 },
    { utc := "2026-03-10T16:00:40+00:00", lat := 64, lon := -685 / 10, inEclipse := true }]

/-- And one going away from it. -/
def leaving : List TrackSample :=
  [{ utc := "2026-03-10T16:00:00+00:00", lat := 6335 / 100, lon := -685 / 10 },
    { utc := "2026-03-10T16:00:10+00:00", lat := 627 / 10, lon := -685 / 10 },
    { utc := "2026-03-10T16:00:20+00:00", lat := 6205 / 100, lon := -685 / 10 },
    { utc := "2026-03-10T16:00:30+00:00", lat := 614 / 10, lon := -685 / 10 }]

theorem readsTimes_leaving : passPlanner.ReadsTimes passHost leaving := by
  have hreads : ∀ point ∈ leaving, ∃ entry ∈ passTimes,
      passHost.parseIso point.utc = some entry.2 ∧
      passHost.parseIso (passHost.isoformat point.utc entry.2) = some entry.2 ∧
      passHost.parseIso (passHost.isoformat point.utc
        (entry.2 - passPlanner.captureDurationS / 2)) =
          some (entry.2 - passPlanner.captureDurationS / 2) := by
    decide +kernel
  intro point hpoint
  obtain ⟨entry, -, hentry⟩ := hreads point hpoint
  exact ⟨entry.2, hentry⟩

/-- The opportunity of the pass that leaves begins with the capture. -/
theorem capture_inside_example :
    ∃ opp ∈ passPlanner.computeOpportunities passHost false leaving,
      ∃ target ∈ passPlanner.targets, ∃ run,
        IsMaximalRun (passPlanner.imageable passHost target) leaving run ∧
        Covers opp target run ∧
        (passPlanner.CaptureInside passHost opp ↔ passPlanner.Roomy passHost target run) := by
  have hsome : (passPlanner.computeOpportunities passHost false leaving).length = 1 := by
    decide +kernel
  have hall : ∀ opp ∈ passPlanner.computeOpportunities passHost false leaving,
      opp.feasible = true := by
    decide +kernel
  obtain ⟨opp, hopp⟩ := List.length_eq_one_iff.mp hsome
  have hmem : opp ∈ passPlanner.computeOpportunities passHost false leaving := by
    rw [hopp]
    exact List.mem_singleton_self opp
  exact ⟨opp, hmem, capture_inside_iff passHost passPlanner false leaving opp (by decide)
    readsTimes_leaving hmem (hall opp hmem)⟩

/-- The pass that approaches ends in eclipse ten seconds before its capture does. -/
theorem capture_not_inside :
    ∃ opp ∈ passPlanner.computeOpportunities passHost false approaching,
      opp.feasible = true ∧ ¬ passPlanner.CaptureInside passHost opp := by
  have hsome : (passPlanner.computeOpportunities passHost false approaching).length = 1 := by
    decide +kernel
  have hall : ∀ opp ∈ passPlanner.computeOpportunities passHost false approaching,
      opp.feasible = true ∧ opp.captureExceedsWindow = false ∧
        passHost.parseIso opp.endUtc = some 1773158430 ∧
        opp.captureUtc.bind passHost.parseIso = some 1773158420 := by
    decide +kernel
  obtain ⟨opp, hopp⟩ := List.length_eq_one_iff.mp hsome
  have hmem : opp ∈ passPlanner.computeOpportunities passHost false approaching := by
    rw [hopp]
    exact List.mem_singleton_self opp
  obtain ⟨hfeasible, hflag, hstop, hcapture⟩ := hall opp hmem
  refine ⟨opp, hmem, hfeasible, ?_⟩
  intro hinside
  obtain ⟨_, stop, capture, -, hstop', hcapture', -, hend⟩ := hinside hflag
  obtain rfl := Option.some.inj (hstop.symm.trans hstop')
  obtain rfl := Option.some.inj (hcapture.symm.trans hcapture')
  exact absurd hend (by decide +kernel)

end ImagingPlanner

end Planner
