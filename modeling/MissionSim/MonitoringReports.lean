import MissionSim.MonitoringDelta

/-!
# The reports of limit transitions

A monitor that enters its limit violation is reported once, and once when it has left it; what
was in violation at the sub-step before decides.  The reports of one monitor are read from the
log, in the order in which they are enqueued.
-/

namespace Spacecraft

open Octets Binary32 Python Effects TmBuilder List
open Obcp (Event)

variable {M : Type} {sub : Subsystems M}

-- unfolding the range check of a field would count down from its bound
attribute [local irreducible] packUnsigned

/-! ### Alternation -/

/-- The values of a list alternate, beginning with the given one. -/
def Alternates : Bool → List Bool → Prop
  | _, [] => True
  | first, b :: rest => b = first ∧ Alternates (!first) rest

instance : (first : Bool) → (reports : List Bool) → Decidable (Alternates first reports)
  | _, [] => inferInstanceAs (Decidable True)
  | first, _ :: rest =>
      have := instDecidableAlternates (!first) rest
      inferInstanceAs (Decidable (_ ∧ _))

/-- What continues an alternation is the opposite of its last value. -/
theorem Alternates.concat {first : Bool} {reports : List Bool} (h : Alternates first reports) :
    Alternates first (reports ++ [reports.getLast?.elim first not]) := by
  induction reports generalizing first with
  | nil => exact ⟨rfl, trivial⟩
  | cons b rest ih =>
      refine ⟨h.1, ?_⟩
      have hnext := ih h.2
      cases rest with
      | nil => exact ⟨congrArg not h.1, trivial⟩
      | cons c rest =>
          rw [getLast?_cons_cons]
          exact hnext

/-! ### The reports of one monitor -/

/-- The report of a monitor in a notice. -/
def Notice.report? (monId : Nat) : Notice → Option Bool
  | .transition id entered => if id = monId then some entered else none
  | _ => none

theorem report?_transition (id monId : Nat) (entered : Bool) :
    ((Notice.transition id entered).report? monId).toList =
      if id = monId then [entered] else [] := by
  unfold Notice.report?
  split_ifs with h <;> simp [h]

/-- The reports of a monitor: `true` for a limit entered, `false` for a return. -/
def Engine.reports (e : Engine M) (monId : Nat) : List Bool := e.log.filterMap (Notice.report? monId)

variable {e e' : Engine M} {monId : Nat}

theorem Engine.reports_of_continued {P : Notice → Prop} (h : Continued P e.log e'.log)
    (hP : ∀ notice, P notice → notice.report? monId = none) :
    e'.reports monId = e.reports monId := by
  obtain ⟨new, hlog, hnew⟩ := h
  unfold Engine.reports
  rw [hlog, filterMap_append, filterMap_eq_nil_iff.mpr fun notice hnotice =>
    hP notice (hnew notice hnotice), append_nil]

/-- An event reports no transition. -/
theorem emitEvent_reports (depth : Nat) (ev : Event) (monId : Nat) :
    Keeps (Unchanged fun e : Engine M => e.reports monId) (emitEvent sub depth ev) := by
  refine (emitEvent_autonomous depth ev).mono fun e e' h => Engine.reports_of_continued h.log ?_
  rintro notice haside
  cases notice with
  | transition id entered => exact haside.elim
  | tm | command | dispatched | raised => rfl

theorem Engine.reports_noted (e : Engine M) (notice : Notice) (monId : Nat) :
    { e with log := e.log ++ [notice] }.reports monId =
      e.reports monId ++ (notice.report? monId).toList := by
  unfold Engine.reports
  rw [filterMap_append]
  cases h : notice.report? monId <;> simp [h]

theorem enqueueTm_reports (pkt : TmPacket) (monId : Nat) :
    Keeps (Unchanged fun e : Engine M => e.reports monId) (enqueueTm pkt) := by
  refine enqueueTm_keeps (fun e => ?_) fun _ _ => rfl
  exact (e.reports_noted (.tm pkt) monId).trans (append_nil _)

/-! ### One report -/

/-- Whether the numbers of a violation fit the fields of its report. -/
def Violation.Reportable (v : Violation) : Prop :=
  (((if v.value.truthy then v.value else zero).toFloat >>= packFloat).isOk &&
    (packFloat v.lowLimit).isOk && (packFloat v.highLimit).isOk) = true

instance (v : Violation) : Decidable v.Reportable := inferInstanceAs (Decidable (_ = true))

theorem exists_of_isOk {α : Type} {x : Except PyError α} (h : x.isOk = true) : ∃ a, x = .ok a := by
  cases x with
  | ok a => exact ⟨a, rfl⟩
  | error e => cases h

variable {v : Violation}

theorem buildS12TransitionReport_ok (h : v.Reportable) (entered : Bool) (b : Builder) :
    wp (buildS12TransitionReport v entered) (fun _ _ => True) (fun _ _ => False) b := by
  unfold Violation.Reportable at h
  rw [Bool.and_eq_true, Bool.and_eq_true] at h
  obtain ⟨value, hvalue⟩ := exists_of_isOk h.1.1
  obtain ⟨low, hlow⟩ := exists_of_isOk h.1.2
  obtain ⟨high, hhigh⟩ := exists_of_isOk h.2
  have hvalue4 : value.length = 4 := by
    cases hx : (if v.value.truthy then v.value else zero).toFloat with
    | error e =>
        rw [hx] at hvalue
        cases hvalue
    | ok x =>
        rw [hx] at hvalue
        exact packFloat_length hvalue
  unfold buildS12TransitionReport
  rw [hvalue, hlow, hhigh]
  refine wp_mono (packTm_short 12 _ ?_ b) (fun _ _ _ => trivial) fun _ _ h => h
  simp only [length_append, packU16_length, packU8_length, hvalue4, packFloat_length hlow,
    packFloat_length hhigh]
  omega

/-- A report that fits is enqueued. -/
theorem emitS12Transition_reports (h : v.Reportable) (entered : Bool) (monId : Nat) (e : Engine M) :
    wp (emitS12Transition v entered)
      (fun _ e' => e'.reports monId =
        e.reports monId ++ if v.monId = monId then [entered] else [])
      (fun _ _ => True) e := by
  unfold emitS12Transition
  rw [wp_bind, wp_tryCatch, wp_map, building, wp_zoom]
  refine wp_mono (buildS12TransitionReport_ok h entered e.tmBuilder) (fun pkt b _ => ?_)
    fun _ _ h => h.elim
  rw [wp_bind, note, wp_modify]
  refine wp_mono (enqueueTm_reports pkt monId _) (fun _ e' he' => ?_) fun _ _ _ => trivial
  exact he'.trans ((Engine.reports_noted _ _ monId).trans (by rw [report?_transition]; rfl))

/-! ### What is in violation -/

theorem violationOf_monId {defn : MonitorDefinition} {rawValue checked : Value}
    (h : violationOf monId defn rawValue checked = .ok (some v)) : v.monId = monId := by
  unfold violationOf at h
  cases hx : exactNumber checked with
  | error e =>
      rw [hx] at h
      cases h
  | ok x =>
      rw [hx] at h
      replace h : (if x.lt defn.lowLimit ∨ defn.highLimit.lt x then _ else _) =
        Except.ok (some v) := h
      split_ifs at h
      · exact (congrArg Violation.monId (Option.some.inj (Except.ok.inj h))).symm
      · cases h

theorem checkDefinition_monId {params : Dict Nat Value} {powered : Nat → Bool}
    {defn : MonitorDefinition} (h : (checkDefinition params powered monId defn).2 = .ok (some v)) :
    v.monId = monId := by
  unfold checkDefinition at h
  split at h
  · cases h
  · cases h
  · unfold judgeValue deltaAgainst at h
    split_ifs at h
    · split at h
      · cases h
      · rename_i last _
        cases hchange : minus _ last with
        | error e =>
            rw [hchange] at h
            cases h
        | ok change =>
            rw [hchange] at h
            exact violationOf_monId h
    · exact violationOf_monId h

variable {violations : List Violation}

/-- The monitors found in violation are keys of the table, in its order. -/
theorem checkItems_monitors {params : Dict Nat Value} {powered : Nat → Bool}
    {items : List (Nat × MonitorDefinition)}
    (h : (checkItems params powered items).2 = .ok violations) :
    (monitorsOf violations).Sublist (items.map Prod.fst) := by
  induction items generalizing violations with
  | nil =>
      cases h
      exact List.Sublist.refl _
  | cons item rest ih =>
      unfold checkItems at h
      cases hcheck : checkDefinition params powered item.1 item.2 with
      | mk defn result =>
          rw [hcheck] at h
          cases result with
          | error e => cases h
          | ok found =>
              cases hrest : (checkItems params powered rest).2 with
              | error e => simp [hrest, Except.map] at h
              | ok more =>
                  simp only [hrest, Except.map, Except.ok.injEq] at h
                  subst h
                  cases found with
                  | none => exact (ih hrest).cons _
                  | some v =>
                      have hv : v.monId = item.1 := checkDefinition_monId (congrArg Prod.snd hcheck)
                      show (v.monId :: monitorsOf more).Sublist (item.1 :: rest.map Prod.fst)
                      rw [hv]
                      exact (ih hrest).cons_cons _

variable {e : Engine M}

theorem findings_nodup (h : findings sub e = .ok violations) : (monitorsOf violations).Nodup := by
  unfold findings at h
  split_ifs at h
  · exact (checkItems_monitors h).nodup e.dispatcher.s12Definitions.nodup
  · exact Except.ok.inj h ▸ nodup_nil

/-! ### The records -/

theorem recorded_get?_ne (h : monId ∉ monitorsOf violations) (records : Dict Nat Violation) :
    (recorded records violations).get? monId = records.get? monId := by
  induction violations generalizing records with
  | nil => rfl
  | cons v rest ih =>
      obtain ⟨hne, hrest⟩ := not_or.mp (mem_cons.not.mp h)
      exact (ih hrest _).trans (Dict.get?_set_ne records hne v)

/-- Every monitor in violation has a record of its own. -/
theorem recorded_get? (h : monId ∈ monitorsOf violations) (records : Dict Nat Violation) :
    ∃ record, (recorded records violations).get? monId = some record ∧ record.monId = monId := by
  induction violations generalizing records with
  | nil => cases h
  | cons v rest ih =>
      by_cases hrest : monId ∈ monitorsOf rest
      · exact ih hrest _
      · obtain rfl : monId = v.monId := (mem_cons.mp h).resolve_right hrest
        exact ⟨v, (recorded_get?_ne hrest _).trans (Dict.get?_set_same ..), rfl⟩

/-! ### The loops of a sub-step -/

theorem active_of_held (h : Unchanged Engine.held e e') :
    e'.s12ViolationActive = e.s12ViolationActive := by
  simp only [Unchanged, Engine.held, Prod.mk.injEq] at h
  exact h.2.2.2.2.2.2.2.1

theorem records_of_held (h : Unchanged Engine.held e e') :
    e'.s12ViolationRecords = e.s12ViolationRecords := by
  simp only [Unchanged, Engine.held, Prod.mk.injEq] at h
  exact h.2.2.2.2.2.2.2.2

theorem overridePasses_of_held (h : Unchanged Engine.held e e') :
    e'.overridePasses = e.overridePasses := by
  simp only [Unchanged, Engine.held, Prod.mk.injEq] at h
  exact h.2.2.2.2.2.2.1

/-- A violation that is new is reported: no override makes nothing of it, and its report
fits. -/
def Reported (overridePasses : Bool) (v : Violation) : Prop :=
  ¬ (overridePasses ∧ v.paramId ∈ ttcSignalParams) ∧ v.Reportable

instance (overridePasses : Bool) (v : Violation) : Decidable (Reported overridePasses v) :=
  inferInstanceAs (Decidable (_ ∧ _))

variable {depth : Nat}

theorem enterViolation_reports (monId : Nat)
    (h : v.monId ∉ e.s12ViolationActive → Reported e.overridePasses v) :
    wp (enterViolation sub depth v)
      (fun _ e' => e'.reports monId = e.reports monId ++
        if v.monId = monId ∧ monId ∉ e.s12ViolationActive then [true] else [])
      (fun _ _ => True) e := by
  unfold enterViolation
  rw [wp_bind, wp_get]
  by_cases hactive : v.monId ∈ e.s12ViolationActive
  · rw [if_pos hactive, wp_pure, if_neg fun hnew => hnew.2 (hnew.1 ▸ hactive), append_nil]
  · obtain ⟨hseen, hfits⟩ := h hactive
    rw [if_neg hactive, if_neg hseen, wp_bind]
    refine wp_mono (emitS12Transition_reports hfits true monId e) (fun _ e' he' => ?_)
      fun _ _ h => h
    have hnew : (v.monId = monId ∧ monId ∉ e.s12ViolationActive) ↔ v.monId = monId :=
      ⟨fun h => h.1, fun h => ⟨h, h ▸ hactive⟩⟩
    rw [wp_bind, wp_fromExcept, if_congr hnew rfl rfl, ← he']
    exact ⟨fun value _ => wp_mono (emitEvent_reports depth _ monId e') (fun _ _ h => h)
      fun _ _ _ => trivial, fun _ _ => trivial⟩

/-- The loop over the violations reports each monitor that was not in violation before. -/
theorem enterViolations_reports (monId : Nat) (hnodup : (monitorsOf violations).Nodup)
    (h : ∀ v ∈ violations, v.monId ∉ e.s12ViolationActive → Reported e.overridePasses v) :
    wp (violations.forM (enterViolation sub depth))
      (fun _ e' => e'.held = e.held ∧ e'.reports monId = e.reports monId ++
        if monId ∈ monitorsOf violations ∧ monId ∉ e.s12ViolationActive then [true] else [])
      (fun _ _ => True) e := by
  induction violations generalizing e with
  | nil => exact ⟨rfl, (append_nil _).symm⟩
  | cons v rest ih =>
      obtain ⟨hfresh, hrest⟩ := nodup_cons.mp hnodup
      show wp (enterViolation sub depth v >>= fun _ => rest.forM (enterViolation sub depth)) _ _ e
      rw [wp_bind]
      refine wp_mono (wp_and (enterViolation_held depth v e)
        (enterViolation_reports monId (h v mem_cons_self))) (fun _ e' he' => ?_)
        fun _ _ _ => trivial
      obtain ⟨hheld, hreports⟩ := he'
      have hactive := active_of_held hheld
      refine wp_mono (ih hrest ?_) (fun _ e'' he'' => ⟨he''.1.trans hheld, ?_⟩) fun _ _ h => h
      · rw [hactive, overridePasses_of_held hheld]
        exact fun w hw => h w (mem_cons_of_mem v hw)
      · rw [he''.2, hreports, hactive, append_assoc]
        congr 1
        show _ = if monId ∈ v.monId :: monitorsOf rest ∧ monId ∉ e.s12ViolationActive then _ else _
        by_cases hv : v.monId = monId
        · have hlater : monId ∉ monitorsOf rest := hv ▸ hfresh
          simp [hv, hlater]
        · have hv' : monId ≠ v.monId := fun h => hv h.symm
          simp [hv, hv']

theorem clearViolation_reports {id : Nat} {record : Violation} (monId : Nat)
    (hrecord : e.s12ViolationRecords.get? id = some record) (hid : record.monId = id)
    (hfits : record.Reportable) :
    wp (clearViolation sub depth id)
      (fun _ e' => e'.s12ViolationRecords = e.s12ViolationRecords.erase id ∧
        e'.reports monId = e.reports monId ++ if id = monId then [false] else [])
      (fun _ _ => True) e := by
  unfold clearViolation
  rw [wp_bind, wp_get, wp_bind, wp_set, hrecord, wp_bind]
  refine wp_mono (wp_and (emitS12Transition_held record false _)
    (emitS12Transition_reports hfits false monId _)) (fun _ e' he' => ?_) fun _ _ _ => trivial
  refine wp_mono (wp_and (emitEvent_held depth _ e') (emitEvent_reports depth _ monId e'))
    (fun _ e'' he'' => ?_) fun _ _ _ => trivial
  refine ⟨(records_of_held he''.1).trans (records_of_held he'.1), ?_⟩
  rw [← hid]
  exact he''.2.trans he'.2

/-- The loop over the monitors that have left their violation reports each of them, and drops
their records. -/
theorem clearViolations_reports {depth : Nat} (monId : Nat) {ids : List Nat} {e : Engine M}
    (hnodup : ids.Nodup)
    (h : ∀ id ∈ ids, ∃ record, e.s12ViolationRecords.get? id = some record ∧
      record.monId = id ∧ record.Reportable) :
    wp (ids.forM (clearViolation sub depth))
      (fun _ e' => (∀ id ∉ ids, e'.s12ViolationRecords.get? id = e.s12ViolationRecords.get? id) ∧
        e'.reports monId = e.reports monId ++ if monId ∈ ids then [false] else [])
      (fun _ _ => True) e := by
  induction ids generalizing e with
  | nil => exact ⟨fun _ _ => rfl, (append_nil _).symm⟩
  | cons id rest ih =>
      obtain ⟨hfresh, hrest⟩ := nodup_cons.mp hnodup
      obtain ⟨record, hrecord, hid, hfits⟩ := h id mem_cons_self
      show wp (clearViolation sub depth id >>= fun _ => rest.forM (clearViolation sub depth)) _ _ e
      rw [wp_bind]
      refine wp_mono (clearViolation_reports monId hrecord hid hfits) (fun _ e' he' => ?_)
        fun _ _ h => h
      have hget {other : Nat} (hne : other ≠ id) :
          e'.s12ViolationRecords.get? other = e.s12ViolationRecords.get? other := by
        rw [he'.1, Dict.get?_erase, if_neg hne]
      refine wp_mono (ih hrest fun other hother => ?_) (fun _ e'' he'' => ⟨fun other hother => ?_, ?_⟩)
        fun _ _ h => h
      · rw [hget fun heq => hfresh (heq ▸ hother)]
        exact h other (mem_cons_of_mem id hother)
      · obtain ⟨hne, hlater⟩ := not_or.mp (mem_cons.not.mp hother)
        exact (he''.1 other hlater).trans (hget hne)
      · rw [he''.2, he'.2, append_assoc]
        congr 1
        by_cases heq : id = monId
        · have hlater : monId ∉ rest := heq ▸ hfresh
          simp [heq, hlater]
        · have hne : monId ≠ id := fun h => heq h.symm
          simp [heq, hne]

/-! ### A sub-step -/

/-- Whether the violations that are new are reported, and those that are over can be. -/
def Engine.ReportsAll (e : Engine M) (violations : List Violation) : Prop :=
  (∀ v ∈ violations, v.monId ∉ e.s12ViolationActive → Reported e.overridePasses v) ∧
    ∀ id ∈ e.s12ViolationActive, id ∉ monitorsOf violations →
      ∀ record ∈ e.s12ViolationRecords.get? id, record.Reportable

instance (e : Engine M) (violations : List Violation) : Decidable (e.ReportsAll violations) :=
  inferInstanceAs (Decidable ((∀ _ ∈ _, _ → _) ∧ ∀ _ ∈ _, _ → ∀ _ ∈ _, _))

/-- What a sub-step finds, and what it leaves alone until it reports. -/
theorem checkMonitoring_found (e : Engine M) :
    wp (checkMonitoring sub)
      (fun violations e' => findings sub e = .ok violations ∧
        (e'.s12ViolationActive, e'.s12ViolationRecords, e'.overridePasses, e'.log) =
          (e.s12ViolationActive, e.s12ViolationRecords, e.overridePasses, e.log))
      (fun _ _ => True) e := by
  unfold checkMonitoring
  rw [wp_bind, wp_get]
  by_cases h : e.dispatcher.s12Enabled = true
  · rw [if_pos h, wp_bind]
    show wp (fromExcept (findings sub e)) _ _ _
    rw [wp_fromExcept]
    exact ⟨fun violations hfound => ⟨hfound, rfl⟩, fun _ _ => trivial⟩
  · rw [if_neg h]
    exact ⟨if_neg h, rfl⟩

/-- The reports tell the truth: those of every monitor alternate, beginning with a limit
entered, the last one tells whether the monitor was in violation when it was evaluated last,
and the records for the next return are there. -/
structure Truthful (e : Engine M) : Prop where
  nodup : e.s12ViolationActive.Nodup
  alternates : ∀ monId, Alternates true (e.reports monId)
  last : ∀ monId, (e.reports monId).getLast? = some true ↔ monId ∈ e.s12ViolationActive
  records : ∀ monId ∈ e.s12ViolationActive,
    ∃ record, e.s12ViolationRecords.get? monId = some record ∧ record.monId = monId

/-- The reports of one monitor before and after a sub-step. -/
theorem alternates_step {reports : List Bool} {was is : Prop} [Decidable was] [Decidable is]
    (h : Alternates true reports) (hlast : reports.getLast? = some true ↔ was) :
    Alternates true ((reports ++ if is ∧ ¬ was then [true] else []) ++
      if was ∧ ¬ is then [false] else []) ∧
    (((reports ++ if is ∧ ¬ was then [true] else []) ++
      if was ∧ ¬ is then [false] else []).getLast? = some true ↔ is) := by
  have hnext := h.concat
  by_cases hwas : was <;> by_cases his : is
  · simpa [hwas, his] using ⟨h, hlast.mpr hwas⟩
  · have hlast' := hlast.mpr hwas
    rw [hlast'] at hnext
    simpa [hwas, his] using hnext
  · have hlast' : reports.getLast? = none ∨ reports.getLast? = some false := by
      cases hval : reports.getLast? with
      | none => exact .inl rfl
      | some b =>
          cases b with
          | true => exact absurd (hlast.mp hval) hwas
          | false => exact .inr rfl
    have hnext' : reports.getLast?.elim true not = true := by
      rcases hlast' with hval | hval <;> rw [hval] <;> rfl
    rw [hnext'] at hnext
    simpa [hwas, his] using hnext
  · simpa [hwas, his] using ⟨h, fun hval => hwas (hlast.mp hval)⟩

/-- What a sub-step reports of one monitor, when everything can be reported. -/
theorem tickS12Monitoring_reports {depth : Nat} {e : Engine M} {violations : List Violation}
    (monId : Nat) (h : Truthful e) (hfound : findings sub e = .ok violations)
    (hall : e.ReportsAll violations) :
    wp (tickS12Monitoring sub depth)
      (fun _ e' => e'.s12ViolationActive = monitorsOf violations ∧
        (∀ id ∈ monitorsOf violations,
          ∃ record, e'.s12ViolationRecords.get? id = some record ∧ record.monId = id) ∧
        e'.reports monId = (e.reports monId ++
            if monId ∈ monitorsOf violations ∧ monId ∉ e.s12ViolationActive then [true] else []) ++
          if monId ∈ e.s12ViolationActive ∧ monId ∉ monitorsOf violations then [false] else [])
      (fun _ _ => True) e := by
  have hnodup := findings_nodup hfound
  unfold tickS12Monitoring
  rw [wp_bind]
  refine wp_mono (checkMonitoring_found e) (fun found e₁ he₁ => ?_) fun _ _ h => h
  obtain ⟨hsame, hrest⟩ := he₁
  obtain rfl : violations = found := Except.ok.inj (hfound.symm.trans hsame)
  obtain ⟨hactive₁, hrecords₁, hoverride₁, hlog₁⟩ : e₁.s12ViolationActive = e.s12ViolationActive ∧
      e₁.s12ViolationRecords = e.s12ViolationRecords ∧ e₁.overridePasses = e.overridePasses ∧
      e₁.log = e.log := by
    simpa only [Prod.mk.injEq] using hrest
  rw [wp_bind, wp_modify, wp_bind]
  refine wp_mono (enterViolations_reports monId hnodup ?_) (fun _ e₂ he₂ => ?_) fun _ _ h => h
  · rw [hactive₁, hoverride₁]
    exact hall.1
  · obtain ⟨hheld₂, hreports₂⟩ := he₂
    have hactive₂ : e₂.s12ViolationActive = e.s12ViolationActive :=
      (active_of_held hheld₂).trans hactive₁
    have hrecords₂ : e₂.s12ViolationRecords = recorded e.s12ViolationRecords violations :=
      (records_of_held hheld₂).trans (congrArg (recorded · violations) hrecords₁)
    rw [wp_bind, wp_get, wp_bind, hactive₂]
    refine wp_mono (clearViolations_reports monId (h.nodup.filter _) fun id hid => ?_)
      (fun _ e₃ he₃ => ⟨rfl, fun id hid => ?_, ?_⟩) fun _ _ h => h
    · obtain ⟨hwas, his⟩ := mem_filter.mp hid
      have hout : id ∉ monitorsOf violations := by simpa using his
      obtain ⟨record, hrecord, hown⟩ := h.records id hwas
      refine ⟨record, ?_, hown, hall.2 id hwas hout record hrecord⟩
      rw [hrecords₂, recorded_get?_ne hout, hrecord]
    · obtain ⟨record, hrecord, hown⟩ := recorded_get? hid e.s12ViolationRecords
      refine ⟨record, ?_, hown⟩
      have hkept : id ∉ e.s12ViolationActive.filter fun id => id ∉ monitorsOf violations := by
        simp [hid]
      exact (he₃.1 id hkept).trans (hrecords₂ ▸ hrecord)
    · have hreports₁ : Engine.reports
          { e₁ with s12ViolationRecords := recorded e₁.s12ViolationRecords violations } monId =
            e.reports monId := congrArg (filterMap (Notice.report? monId)) hlog₁
      refine he₃.2.trans ?_
      rw [hreports₂, hreports₁]
      simp only [mem_filter, decide_eq_true_eq, hactive₁]

/-- **One sub-step.**  When everything can be reported and nothing is raised, the reports tell
the truth about what the sub-step has found. -/
theorem Truthful.tick {depth : Nat} {e e' : Engine M} {violations : List Violation}
    (h : Truthful e) (hfound : findings sub e = .ok violations) (hall : e.ReportsAll violations)
    (hend : tickS12Monitoring sub depth e = .ok ⟨⟩ e') :
    Truthful e' ∧ e'.s12ViolationActive = monitorsOf violations := by
  have hreports (monId : Nat) := @tickS12Monitoring_reports M sub depth e violations monId h hfound hall
  unfold wp at hreports
  rw [hend] at hreports
  have hactive := (hreports 0).1
  have hstep (monId : Nat) := @alternates_step _ _ (monId ∈ monitorsOf violations) _ _
    (h.alternates monId) (h.last monId)
  refine ⟨⟨?_, fun monId => ?_, fun monId => ?_, ?_⟩, hactive⟩
  · rw [hactive]
    exact findings_nodup hfound
  · rw [(hreports monId).2.2]
    exact (hstep monId).1
  · rw [(hreports monId).2.2, hactive]
    exact (hstep monId).2
  · rw [hactive]
    exact (hreports 0).2.1

/-! ### Runs -/

/-- Whether everything is reported of what is found; an exception finds nothing. -/
def Engine.AllReported (e : Engine M) : Except PyError (List Violation) → Prop
  | .ok violations => e.ReportsAll violations
  | .error _ => False

instance (e : Engine M) : (found : Except PyError (List Violation)) → Decidable (e.AllReported found)
  | .ok violations => inferInstanceAs (Decidable (e.ReportsAll violations))
  | .error _ => inferInstanceAs (Decidable False)

/-- A sub-step reports what it finds: it raises nothing, no override makes nothing of a new
violation, and the numbers fit the reports. -/
def ReportSafe (sub : Subsystems M) (depth : Nat) (e : Engine M) : MonitoringOp M → Prop
  | .tick => (value? (tickS12Monitoring sub depth) e).isSome = true ∧
      e.AllReported (findings sub e)
  | _ => True

instance (sub : Subsystems M) (depth : Nat) (e : Engine M) :
    (op : MonitoringOp M) → Decidable (ReportSafe sub depth e op)
  | .tick => inferInstanceAs (Decidable (_ = true ∧ e.AllReported _))
  | .request _ _ => inferInstanceAs (Decidable True)
  | .situation _ _ _ => inferInstanceAs (Decidable True)

/-- The reports of every monitor alternate at all times. -/
def ReportsAlternate (sub : Subsystems M) (depth : Nat) (e : Engine M)
    (ops : List (MonitoringOp M)) : Prop :=
  ∀ monId, Alternates true ((Runs.after (monitor sub depth) e ops).reports monId)

/-- After a sub-step the last report of a monitor is a limit entered exactly when the sub-step
has found it in violation. -/
def ReportsCurrent (sub : Subsystems M) (depth : Nat) (e : Engine M)
    (ops : List (MonitoringOp M)) : Prop :=
  ∀ before violations, ops = before ++ [.tick] →
    findings sub (Runs.after (monitor sub depth) e before) = .ok violations →
      ∀ monId, ((Runs.after (monitor sub depth) e ops).reports monId).getLast? = some true ↔
        monId ∈ monitorsOf violations

theorem tick_completed (h : (value? (tickS12Monitoring sub depth) e).isSome = true) :
    tickS12Monitoring sub depth e = .ok ⟨⟩ (monitor sub depth e .tick) := by
  unfold value? at h
  unfold monitor finalState
  cases htick : tickS12Monitoring sub depth e with
  | ok u e' => rfl
  | error error e' =>
      rw [htick] at h
      cases h

/-- What leaves the reports and their records alone leaves them true. -/
theorem Truthful.of_watched (h : Truthful e) (hwatched : e'.watched.2 = e.watched.2) :
    Truthful e' := by
  obtain ⟨hactive, hrecords, hlog⟩ : e'.s12ViolationActive = e.s12ViolationActive ∧
      e'.s12ViolationRecords = e.s12ViolationRecords ∧ e'.log = e.log := by
    simpa only [Engine.watched, Prod.mk.injEq] using hwatched
  have hreports (monId : Nat) : e'.reports monId = e.reports monId :=
    congrArg (filterMap (Notice.report? monId)) hlog
  refine ⟨?_, fun monId => ?_, fun monId => ?_, ?_⟩
  · rw [hactive]
    exact h.nodup
  · rw [hreports]
    exact h.alternates monId
  · rw [hreports, hactive]
    exact h.last monId
  · rw [hactive, hrecords]
    exact h.records

theorem truthful_monitor {depth : Nat} {op : MonitoringOp M} (h : Truthful e)
    (hsafe : ReportSafe sub depth e op) : Truthful (monitor sub depth e op) := by
  cases op with
  | request subtype data =>
      have hwatched : (monitor sub depth e (.request subtype data)).watched =
          (requested subtype data e.monitoring, e.watched.2) :=
        Keeps.final (handleS12_watched subtype data) e
      have hrest := congrArg Prod.snd hwatched
      exact h.of_watched hrest
  | situation params models overridePasses => exact h.of_watched rfl
  | tick =>
      obtain ⟨hend, hfindings⟩ := hsafe
      cases hfound : findings sub e with
      | error error =>
          rw [hfound] at hfindings
          exact hfindings.elim
      | ok violations =>
          rw [hfound] at hfindings
          exact (h.tick hfound hfindings (tick_completed hend)).1

/-- **The reports of limit transitions.**  In a run that starts without violations and whose
sub-steps report what they find, the reports of every monitor alternate, and the last one is
that of the present state. -/
theorem transition_reports (depth : Nat) (e : Engine M) (ops : List (MonitoringOp M))
    (hactive : e.s12ViolationActive = []) (hlog : e.log = [])
    (hsafe : ∀ i op, ops[i]? = some op →
      ReportSafe sub depth (Runs.after (monitor sub depth) e (ops.take i)) op) :
    ReportsAlternate sub depth e ops ∧ ReportsCurrent sub depth e ops := by
  have hfirst : Truthful e := by
    have hreports (monId : Nat) : e.reports monId = [] := by rw [Engine.reports, hlog]; rfl
    refine ⟨hactive ▸ List.nodup_nil, fun monId => ?_, fun monId => ?_, fun monId hmem => ?_⟩
    · rw [hreports]
      trivial
    · rw [hreports, hactive]
      simp
    · rw [hactive] at hmem
      cases hmem
  have htruthful (i : Nat) : Truthful (Runs.after (monitor sub depth) e (ops.take i)) :=
    Runs.holds_between (Nat.zero_le i) hfirst fun k op _ _ hop hbefore =>
      truthful_monitor hbefore (hsafe k op hop)
  refine ⟨fun monId => ?_, fun before violations hops hfound monId => ?_⟩
  · have hend := (htruthful ops.length).alternates monId
    rwa [List.take_length] at hend
  · have hat := hsafe before.length .tick (by simp [hops])
    have hbefore := htruthful before.length
    rw [hops, List.take_left'  rfl] at hat hbefore
    obtain ⟨hend, hfindings⟩ := hat
    rw [hfound] at hfindings
    obtain ⟨hafter, hnow⟩ := hbefore.tick hfound hfindings (tick_completed hend)
    rw [hops, Runs.after_concat, ← hnow]
    exact hafter.last monId

/-- A definition on the signal strength, by TC(12,6), with the limits 0 and 1. -/
def signalMonitor : Bytes := packU16 1 ++ packU16 0x0502 ++ packU8 0 ++
  [0, 0, 0, 0] ++ [0x3F, 0x80, 0, 0]

/-- A sub-step at a signal strength, with the transmitter on. -/
def signalAt (value : Int) (overridePasses : Bool) : List (MonitoringOp PlainModels) :=
  [.situation (Dict.empty.set 0x0502 (.int value))
    { powerLines := some (Dict.empty.set "ttc_tx" true) } overridePasses, .tick]

/-- The signal leaves its limits and comes back, the override being set only then. -/
def signalRun : List (MonitoringOp PlainModels) :=
  .request 6 signalMonitor :: (signalAt 9 false ++ signalAt 0 true)

theorem transition_reports_signal :
    ReportsCurrent (plainSubsystems []) 3 plainEngine signalRun := by
  refine (transition_reports 3 plainEngine signalRun rfl rfl fun i op hop => ?_).2
  obtain ⟨hi, rfl⟩ := List.getElem?_eq_some_iff.mp hop
  have hsafe : ∀ i : Fin signalRun.length, ReportSafe (plainSubsystems []) 3
      (Runs.after (monitor (plainSubsystems []) 3) plainEngine (signalRun.take i))
      (signalRun.get i) := by
    decide +kernel
  exact hsafe ⟨i, hi⟩

/-- A violation that begins under an override is not reported, and its end is. -/
theorem return_without_entry :
    ¬ ReportsAlternate (plainSubsystems []) 3 plainEngine
      (.request 6 signalMonitor :: (signalAt 9 true ++ signalAt 0 false)) := by
  intro h
  exact absurd (h 1) (by decide +kernel)

end Spacecraft
