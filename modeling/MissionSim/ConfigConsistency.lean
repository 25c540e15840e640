import MissionSim.ConfigAtomicity
import MissionSim.Runs

/-!
# The consistency of configuration files

The checks across files look at a few files each.  A check whose files are not written reports what
it reported before, and an edit that is validated has been checked on the content it writes.  So
the tree stays consistent over every run whose edits are validated under the path the checks know
and whose restorations would have passed the checks.
-/

namespace Confedit

open Python (Dict)
open Effects Writes List

section Checks

variable {F : Type} {host : Host F} {read read' : Text → Option (Yaml F)}

/-- A check depends on its files only. -/
theorem CheckId.run_congr {check : CheckId} (h : ∀ rel ∈ check.files, read rel = read' rel) :
    check.run host read = check.run host read' := by
  cases check with
  | rfFrequencies =>
      simp only [run, h "subsystems/ttc.yaml".toList (by decide), h "rfsim.yaml".toList (by decide),
        h "planning/ground_stations.yaml".toList (by decide)]
  | stationGeometry =>
      simp only [run, checkStationGeometry, h "orbit.yaml".toList (by decide), mapM_cons,
        mapM_nil, h "planning/ground_stations.yaml".toList (by decide),
        h "planning/planner.yaml".toList (by decide)]
  | shedLadder =>
      simp only [run, h "simulation.yaml".toList (by decide),
        h "fdir/fault_propagation.yaml".toList (by decide)]
  | hkWire =>
      simp only [run, h "telemetry/hk_structures.yaml".toList (by decide),
        h "telemetry/parameters.yaml".toList (by decide)]

variable (host) in
/-- A document, as far as the checks tell it apart: one that is false is as good as none. -/
def settled (v : Yaml F) : Yaml F := if truthy host v then v else .null

theorem truthy_settled (v : Yaml F) : truthy host (settled host v) = truthy host v := by
  unfold settled
  split
  · rfl
  · rename_i h
    rw [Bool.not_eq_true] at h
    rw [h]
    rfl

theorem settled_of_truthy {v : Yaml F} (h : truthy host v) : settled host v = v := if_pos h

theorem checkRfFrequencies_settled (ttc gs rf : Yaml F) :
    checkRfFrequencies host (settled host ttc) (settled host gs) (settled host rf) =
      checkRfFrequencies host ttc gs rf := by
  unfold checkRfFrequencies
  simp only [truthy_settled]
  cases httc : truthy host ttc with
  | false => rfl
  | true =>
      rw [settled_of_truthy httc]
      cases hgs : truthy host gs with
      | false =>
          cases hrf : truthy host rf with
          | false => rfl
          | true =>
              rw [settled_of_truthy hrf]
              rfl
      | true =>
          rw [settled_of_truthy hgs]
          cases hrf : truthy host rf with
          | false => rfl
          | true => rw [settled_of_truthy hrf]

theorem geometryFile_settled (canon : Stations F) (rel : Text) (other : Yaml F) :
    geometryFile host canon rel (settled host other) = geometryFile host canon rel other := by
  unfold geometryFile
  rw [truthy_settled]
  cases hother : truthy host other with
  | false => rfl
  | true => rw [settled_of_truthy hother]

theorem checkStationGeometry_settled (orbit : Yaml F) :
    checkStationGeometry host (settled host orbit) (fun rel => (read rel).map (settled host)) =
      checkStationGeometry host orbit read := by
  unfold checkStationGeometry
  rw [truthy_settled]
  cases horbit : truthy host orbit with
  | false => rfl
  | true =>
      rw [settled_of_truthy horbit]
      simp only [Option.bind_eq_bind, Option.bind_map, Function.comp_def, geometryFile_settled]

theorem checkShedLadder_settled (sim fdir : Yaml F) :
    checkShedLadder host (settled host sim) (settled host fdir) =
      checkShedLadder host sim fdir := by
  unfold checkShedLadder
  simp only [truthy_settled]
  cases hsim : truthy host sim with
  | false => rfl
  | true =>
      rw [settled_of_truthy hsim]
      cases hfdir : truthy host fdir with
      | false => rfl
      | true => rw [settled_of_truthy hfdir]

theorem checkHkWire_settled (hk params : Yaml F) :
    checkHkWire host (settled host hk) (settled host params) = checkHkWire host hk params := by
  unfold checkHkWire
  simp only [truthy_settled]
  cases hhk : truthy host hk with
  | false => rfl
  | true =>
      rw [settled_of_truthy hhk]
      cases hparams : truthy host params with
      | false => rfl
      | true => rw [settled_of_truthy hparams]

variable (read) in
/-- A check does not tell an empty document from none. -/
theorem CheckId.run_settled (check : CheckId) :
    check.run host (fun rel => (read rel).map (settled host)) = check.run host read := by
  cases check with
  | rfFrequencies =>
      simp only [run, Option.bind_eq_bind, Option.bind_map, Function.comp_def,
        checkRfFrequencies_settled]
  | stationGeometry =>
      simp only [run, Option.bind_eq_bind, Option.bind_map, Function.comp_def,
        checkStationGeometry_settled]
  | shedLadder =>
      simp only [run, Option.bind_eq_bind, Option.bind_map, Function.comp_def,
        checkShedLadder_settled]
  | hkWire =>
      simp only [run, Option.bind_eq_bind, Option.bind_map, Function.comp_def, checkHkWire_settled]

/-- Checks that load the same documents, as far as they tell them apart, report the same. -/
theorem CheckId.report_congr {check : CheckId}
    (h : ∀ rel ∈ check.files, (read rel).map (settled host) = (read' rel).map (settled host)) :
    check.report host read = check.report host read' := by
  unfold report
  rw [← run_settled read, ← run_settled read', run_congr h]

end Checks

/-! ### Consistent trees -/

section Trees

variable {F : Type} (host : Host F)

/-- Nothing that is reported is an error. -/
def Clean (issues : List Issue) : Prop := ∀ issue ∈ issues, issue.isError = false

instance (issues : List Issue) : Decidable (Clean issues) :=
  inferInstanceAs (Decidable (∀ issue ∈ issues, _))

/-- **Consistency.**  `run_crosschecks` reports no error. -/
def NoErrors (tree : Tree) : Prop := Clean (runCrosschecks host tree [] none)

instance (tree : Tree) : Decidable (NoErrors host tree) := inferInstanceAs (Decidable (Clean _))

/-- With some files written, the checks that involve any of them report no error. -/
def Agrees (tree : Tree) (writes : List (Path × Text)) : Prop :=
  ∀ entry ∈ writes, Clean (runCrosschecks host (tree.putAll writes) [] (some entry.1.text))

variable {host} {tree : Tree} {writes : List (Path × Text)}

theorem clean_runCrosschecks {proposed : List (Text × Yaml F)} {rp : Text} :
    Clean (runCrosschecks host tree proposed (some rp)) ↔ ∀ check ∈ checkIds, rp ∈ check.files →
      Clean (check.report host (load host tree proposed)) := by
  simp only [Clean, runCrosschecks, mem_flatMap, checksFor, mem_filter,
    decide_eq_true_eq, forall_exists_index, and_imp]
  exact ⟨fun h check hcheck hfile issue hissue => h issue check hcheck hfile hissue,
    fun h issue check hcheck hfile hissue => h check hcheck hfile issue hissue⟩

theorem noErrors_iff : NoErrors host tree ↔
    ∀ check ∈ checkIds, Clean (check.report host (load host tree [])) := by
  simp only [NoErrors, Clean, runCrosschecks, mem_flatMap, forall_exists_index, and_imp]
  exact ⟨fun h check hcheck issue hissue => h issue check hcheck hissue,
    fun h issue check hcheck hissue => h check hcheck issue hissue⟩

/-- The checks name their files by plain paths. -/
theorem plain_files : ∀ check ∈ checkIds, ∀ rel ∈ check.files, Plain rel := by decide

theorem load_putAll_of_not_mem {rel : Text} (h : Path.of rel ∉ writes.map Prod.fst) :
    load host (tree.putAll writes) [] rel = load host tree [] rel := by
  have hget : (tree.putAll writes).get? (Path.of rel) = tree.get? (Path.of rel) := by
    rw [Tree.get?_putAll]
    exact put_of_not_mem h
  simp only [load, lookup_nil, hget]

/-- **Writing keeps a tree consistent just where the checks that involve the files agree.** -/
theorem noErrors_putAll_iff (h : NoErrors host tree) :
    NoErrors host (tree.putAll writes) ↔ Agrees host tree writes := by
  rw [noErrors_iff] at h ⊢
  constructor
  · intro hafter entry _
    exact clean_runCrosschecks.mpr fun check hcheck _ => hafter check hcheck
  · intro hagrees check hcheck
    by_cases htouched : ∃ rel ∈ check.files, Path.of rel ∈ writes.map Prod.fst
    · obtain ⟨rel, hrel, hmem⟩ := htouched
      obtain ⟨entry, hentry, heq⟩ := mem_map.mp hmem
      have hplain : rel = entry.1.text := (plain_files check hcheck rel hrel).trans (heq ▸ rfl)
      exact clean_runCrosschecks.mp (hagrees entry hentry) check hcheck (hplain ▸ hrel)
    · have hsame : check.report host (load host (tree.putAll writes) []) =
          check.report host (load host tree []) := by
        refine CheckId.report_congr fun rel hrel => ?_
        rw [load_putAll_of_not_mem fun hmem => htouched ⟨rel, hrel, hmem⟩]
      rw [hsame]
      exact h check hcheck

/-! ### Validated edits -/

theorem settled_orElse (data : Yaml F) :
    settled host (orElse host data (.map [])) = settled host data := by
  unfold orElse
  cases hdata : truthy host data with
  | true => rw [if_pos rfl]
  | false =>
      rw [if_neg (by decide), settled, settled, hdata]
      rfl

/-- The document of a text that is written is the one proposed, as far as a check can tell. -/
theorem load_set {rp text : Text} {data : Yaml F} (hload : host.safeLoad text = .ok data)
    {rel : Text} (hrp : Plain rp) (hrel : Plain rel) :
    (load host (tree.set (Path.of rp) text) [] rel).map (settled host) =
      (load host tree [(rp, data)] rel).map (settled host) := by
  by_cases heq : rel = rp
  · simp only [heq, load, lookup_nil, Dict.get?_set_same, hload, lookup_cons,
      beq_self_eq_true, Option.map_some, settled_orElse]
  · have hpath : Path.of rel ≠ Path.of rp := by
      intro hsame
      rw [hrel, hrp, hsame] at heq
      exact heq rfl
    have hlookup : [(rp, data)].lookup rel = none := by
      rw [lookup_cons, beq_eq_false_iff_ne.mpr heq]
      rfl
    simp only [load, lookup_nil, Dict.get?_set_ne tree hpath, hlookup]

theorem clean_iff_any {issues : List Issue} : Clean issues ↔ issues.any Issue.isError = false := by
  rw [Clean, any_eq_false]
  exact forall₂_congr fun issue _ => (Bool.not_eq_true _).symm.to_iff

/-- What an unforced edit is let through with is free of errors. -/
theorem clean_of_admitted {rp text : Text} {reason : String} {issues : List Issue}
    (h : admitted host tree rp text reason false = .ok issues) :
    validateFile host tree rp text = .ok issues ∧ Clean issues := by
  unfold admitted at h
  split at h
  · cases h
  · rename_i found hfound
    split at h
    · cases h
    · rename_i hblocks
      cases h
      refine ⟨hfound, clean_iff_any.mpr ?_⟩
      rw [← Bool.not_eq_true]
      exact fun hany => hblocks ⟨hany, by simp⟩

theorem markdown_files :
    ∀ check ∈ checkIds, ∀ rel ∈ check.files, endsWith rel ".md".toList = false := by decide

/-- An edit that passes the validation without being forced agrees with the checks. -/
theorem agrees_of_admitted {rp text : Text} {reason : String} {issues : List Issue}
    (hplain : Plain rp) (hposix : posix rp = rp)
    (h : admitted host tree rp text reason false = .ok issues) :
    Agrees host tree [(Path.of rp, text)] := by
  obtain ⟨hvalid, hclean⟩ := clean_of_admitted h
  intro entry hentry
  obtain rfl := mem_singleton.mp hentry
  show Clean (runCrosschecks host (tree.set (Path.of rp) text) [] (some (Path.of rp).text))
  rw [← hplain, clean_runCrosschecks]
  intro check hcheck hfile
  simp only [validateFile, hposix, markdown_files check hcheck rp hfile, Bool.false_eq_true,
    if_false] at hvalid
  cases hload : host.safeLoad text with
  | error fault =>
      cases fault with
      | yaml place message =>
          rw [hload] at hvalid
          have hissues := Except.ok.inj hvalid
          rw [← hissues] at hclean
          cases hclean _ mem_cons_self
      | other message =>
          rw [hload] at hvalid
          cases hvalid
  | ok data =>
      rw [hload] at hvalid
      obtain ⟨schema, -, hvalid⟩ := Python.bind_eq_ok.mp hvalid
      obtain ⟨plausibility, -, hvalid⟩ := Python.bind_eq_ok.mp hvalid
      split at hvalid
      · rename_i hany
        have hissues := Except.ok.inj hvalid
        rw [← hissues, clean_iff_any, hany] at hclean
        cases hclean
      · have hissues := Except.ok.inj hvalid
        have hcross : Clean (runCrosschecks host tree [(rp, data)] (some rp)) := by
          intro issue hissue
          exact hclean issue (hissues ▸ mem_append_right _ hissue)
        have hsame : check.report host (load host (tree.set (Path.of rp) text) []) =
            check.report host (load host tree [(rp, data)]) :=
          CheckId.report_congr fun rel hrel =>
            load_set hload hplain (plain_files check hcheck rel hrel)
        rw [hsame]
        exact clean_runCrosschecks.mp hcross check hcheck hfile

end Trees

/-! ### Runs -/

section Runs

variable {F : Type} (host : Host F)

/-- A step of a run: what is done, and what the disk and the history answer to it. -/
abbrev Step := Answers × Operation

/-- The world after a step. -/
def advance (w : World) (step : Step) : World := finalState (step.2.run host step.1) w

/-- Is this anything but a forced edit? -/
def Operation.Unforced : Operation → Prop
  | .apply _ _ _ _ _ _ force => force = false
  | .revert _ _ _ _ _ | .applyBaseline _ _ _ => True

/-- An unforced operation that succeeds. -/
def Succeeds (w : World) (step : Step) : Prop :=
  step.2.Unforced ∧ (value? (step.2.run host step.1) w).isSome

/-- An edit is given the path by which the checks know its file, if any of them does; a restoration
writes what the checks that involve its files agree with. -/
def Checked (tree : Tree) (step : Step) : Prop :=
  match step.2 with
  | .apply relpath _ _ _ _ _ _ => ∀ rp, resolve relpath = .ok rp →
      Plain rp ∨ ∀ check ∈ checkIds, (Path.of rp).text ∉ check.files
  | .revert _ _ _ _ _ | .applyBaseline _ _ _ =>
      ∀ writes, step.2.target host step.1 tree = .ok writes → Agrees host tree writes

variable {host} {w : World} {step : Step}

/-- What a successful operation leaves. -/
theorem tree_of_succeeds (h : (value? (step.2.run host step.1) w).isSome) :
    ∃ writes, step.2.target host step.1 w.tree = .ok writes ∧
      (advance host w step).tree = w.tree.putAll writes := by
  have hend := run_cases host step.1 w step.2
  unfold value? at h
  unfold advance finalState
  generalize step.2.run host step.1 w = result at hend h
  cases hend with
  | refused | stopped | unfinished => cases h
  | @finished writes r journal hok _ _ _ => exact ⟨writes, hok, rfl⟩

/-- An unforced edit under the path the checks know agrees with them. -/
theorem agrees_of_apply {answers : Answers} {relpath text : Text}
    {actor role message reason : String} {writes : List (Path × Text)}
    (hchecked : Checked host w.tree
      (answers, .apply relpath text actor role message reason false))
    (h : Operation.target host answers w.tree
      (.apply relpath text actor role message reason false) = .ok writes) :
    Agrees host w.tree writes := by
  obtain ⟨rp, hrp, h⟩ := Python.bind_eq_ok.mp h
  obtain ⟨_, _, h⟩ := Python.bind_eq_ok.mp h
  obtain ⟨issues, hissues, h⟩ := Python.bind_eq_ok.mp h
  obtain ⟨_, _, h⟩ := Python.bind_eq_ok.mp h
  cases h
  rcases hchecked rp hrp with hplain | hunknown
  · exact agrees_of_admitted hplain (posix_of_resolve hrp) hissues
  · intro entry hentry
    obtain rfl := mem_singleton.mp hentry
    exact clean_runCrosschecks.mpr fun check hcheck hfile => absurd hfile (hunknown check hcheck)

/-- **A checked step keeps the tree consistent.** -/
theorem noErrors_advance (hstart : NoErrors host w.tree) (hsucceeds : Succeeds host w step)
    (hchecked : Checked host w.tree step) : NoErrors host (advance host w step).tree := by
  obtain ⟨writes, htarget, htree⟩ := tree_of_succeeds hsucceeds.2
  rw [htree, noErrors_putAll_iff hstart]
  obtain ⟨answers, op⟩ := step
  cases op with
  | apply relpath text actor role message reason force =>
      obtain rfl : force = false := hsucceeds.1
      exact agrees_of_apply hchecked htarget
  | revert | applyBaseline => exact hchecked writes htarget

/-- **Over every run of successful unforced operations whose steps are checked, the tree stays
consistent.** -/
theorem noErrors_run {steps : List Step} (hstart : NoErrors host w.tree)
    (hsteps : ∀ i step, steps[i]? = some step →
      Succeeds host (Runs.after (advance host) w (steps.take i)) step ∧
        Checked host (Runs.after (advance host) w (steps.take i)).tree step) (i : Nat) :
    NoErrors host (Runs.after (advance host) w (steps.take i)).tree := by
  refine Runs.holds_between (P := fun w : World => NoErrors host w.tree) (Nat.zero_le i) hstart ?_
  intro k step _ _ hstep hbefore
  obtain ⟨hsucceeds, hchecked⟩ := hsteps k step hstep
  exact noErrors_advance hbefore hsucceeds hchecked

/-! ### Two runs -/

/-- The downlink is at 2300 MHz on board and on ground. -/
def movedDownlink : World where
  tree := ((Dict.empty : Tree).set (Path.of "subsystems/ttc.yaml".toList)
    "dl_freq_mhz: 2300".toList).set (Path.of "planning/ground_stations.yaml".toList)
    "ground_stations: [{rx_freq_mhz: 2300}]".toList
  revisions := []
  journal := []

theorem noErrors_movedDownlink : NoErrors sampleHost movedDownlink.tree := by decide +kernel

/-- An edit of a file that no check looks at. -/
def sideEdit : Step :=
  (faultless [], .apply "mcs/notes.yaml".toList "x: 1".toList "" "" "" "" false)

/-- The on-board file is restored from a revision with the given content. -/
def restoration (content : Text) : Step :=
  (faultless content, .revert "r0001".toList "subsystems/ttc.yaml".toList "" "" "")

theorem checked_sideEdit (tree : Tree) : Checked sampleHost tree sideEdit := by
  intro rp hrp
  have hresolve : resolve "mcs/notes.yaml".toList = .ok "mcs/notes.yaml".toList := by decide
  obtain rfl := Except.ok.inj (hresolve.symm.trans hrp)
  exact .inr (by decide)

/-- An edit beside the checks and the restoration of what is there. -/
theorem noErrors_quietRun : NoErrors sampleHost movedDownlink.tree ∧
    NoErrors sampleHost (Runs.after (advance sampleHost) movedDownlink
      ([sideEdit, restoration "dl_freq_mhz: 2300".toList].take 2)).tree := by
  refine ⟨noErrors_movedDownlink, noErrors_run noErrors_movedDownlink (fun i step hstep => ?_) 2⟩
  cases i with
  | zero =>
      obtain rfl := Option.some.inj hstep
      exact ⟨⟨rfl, by decide +kernel⟩, checked_sideEdit _⟩
  | succ i =>
      cases i with
      | zero =>
          obtain rfl := Option.some.inj hstep
          refine ⟨⟨trivial, by decide +kernel⟩, fun writes hwrites => ?_⟩
          obtain rfl := Except.ok.inj hwrites
          intro entry hentry
          obtain rfl := List.mem_singleton.mp hentry
          decide +kernel
      | succ i => cases hstep

/-- An edit of the on-board file under a path that no check knows. -/
def hiddenEdit : Step :=
  (faultless [], .apply "subsystems//ttc.yaml".toList "dl_freq_mhz: 2200".toList "" "" "" "" false)

/-- The on-board file goes back to the frequency before, and the ground does not: by a restoration,
which is not validated, and by an edit that is validated under another path. -/
theorem not_noErrors_run : NoErrors sampleHost movedDownlink.tree ∧
    (Succeeds sampleHost movedDownlink (restoration "dl_freq_mhz: 2200".toList) ∧
      ¬ NoErrors sampleHost (advance sampleHost movedDownlink
        (restoration "dl_freq_mhz: 2200".toList)).tree) ∧
    Succeeds sampleHost movedDownlink hiddenEdit ∧
      ¬ NoErrors sampleHost (advance sampleHost movedDownlink hiddenEdit).tree :=
  ⟨noErrors_movedDownlink, ⟨⟨trivial, by decide +kernel⟩, by decide +kernel⟩,
    ⟨rfl, by decide +kernel⟩, by decide +kernel⟩

end Runs

end Confedit
