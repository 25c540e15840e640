import Mathlib.Algebra.Order.Ring.Rat
import Mathlib.Data.Rat.Floor
import MissionSim.ConfigEdits
import MissionSim.ConfigSpellings

/-!
# The protection of configuration files

The editor refuses to write a file that must not be edited, and looks at the path to know.  A file
that any rule knows by the end of its name has a path that no rule against editing knows, so its
protection depends on how it is spelled.
-/

namespace Confedit

open Python (Dict)
open Effects Writes

/-- The path an edit of one file is given. -/
def Operation.relpath : Operation → Option Text
  | .apply relpath _ _ _ _ _ _ => some relpath
  | .revert _ relpath _ _ _ => some relpath
  | .applyBaseline _ _ _ => none

section Protection

variable {F : Type} (host : Host F)

/-- Some edit through a path changes the tree. -/
def Writable (relpath : Text) : Prop :=
  ∃ (answers : Answers) (op : Operation) (w : World), op.relpath = some relpath ∧
    (finalState (op.run host answers) w).tree ≠ w.tree

/-- A file that no accepted path lets an edit change. -/
def Unwritten (p : Path) : Prop :=
  ∀ relpath rp, resolve relpath = .ok rp → Path.of rp = p → ¬ Writable host relpath

/-- **Protection.**  All spellings of a file take the same decisions, and where the file must not
be edited no spelling has it written. -/
structure Protected (p : Path) : Prop where
  agree : ∀ rp rq, Spells rp p → Spells rq p → decisions rp = decisions rq
  unwritten : (classify p.text).editable = false → Unwritten host p

variable {host} {answers : Answers} {op : Operation} {p : Path} {rp relpath : Text}

theorem requireEditable_of_not (h : (classify rp).editable = false) :
    ∃ e, requireEditable rp = .error e := by
  simp only [requireEditable, h]
  exact ⟨_, rfl⟩

theorem requireEditable_of_editable (h : (classify rp).editable) : requireEditable rp = .ok () := by
  simp only [requireEditable, h, if_true]

/-- What must not be edited is refused. -/
theorem target_of_not_editable (h : resolve relpath = .ok rp)
    (hbarred : (classify rp).editable = false) (hop : op.relpath = some relpath) (tree : Tree) :
    ∃ e, op.target host answers tree = .error e := by
  obtain ⟨e, he⟩ := requireEditable_of_not hbarred
  refine ⟨e, ?_⟩
  cases op with
  | apply | revert =>
      cases hop
      simp only [Operation.target, h, he, ok_bind, error_bind]
  | applyBaseline name actor reason => cases hop

/-- What is refused changes nothing. -/
theorem finalState_of_refused {w : World} {e : ConfigEditError}
    (h : op.target host answers w.tree = .error e) :
    finalState (op.run host answers) w = w := by
  have hend := run_cases host answers w op
  unfold finalState
  generalize op.run host answers w = result at hend
  cases hend with
  | refused _ => rfl
  | stopped _ hok _ =>
      rw [h] at hok
      cases hok
  | unfinished _ hok _ _ _ =>
      rw [h] at hok
      cases hok
  | finished hok _ _ _ =>
      rw [h] at hok
      cases hok

/-- A path that may not be edited leaves the tree as it is. -/
theorem not_writable (h : resolve relpath = .ok rp) (hbarred : (classify rp).editable = false) :
    ¬ Writable host relpath := by
  rintro ⟨answers, op, w, hop, hchanged⟩
  obtain ⟨e, he⟩ := target_of_not_editable h hbarred hop w.tree
  exact hchanged (congrArg World.tree (finalState_of_refused he))

/-! ### A file that is written -/

/-- A disk and a history without faults, whose revisions hold one text everywhere. -/
def faultless (content : Text) : Answers where
  kind := .git
  blob := fun _ _ => some content
  baselineRev := fun _ => none
  reads := none
  writes := none
  restores := fun _ => .done
  commits := .done "r0001".toList
  audits := none

/-- Nothing yet. -/
def World.empty : World := ⟨Dict.empty, [], []⟩

/-- A path that may be edited can be written. -/
theorem writable_of_editable (h : resolve relpath = .ok rp) (heditable : (classify rp).editable) :
    Writable host relpath := by
  refine ⟨faultless [], .revert [] relpath "" "" "", .empty, rfl, fun hsame => ?_⟩
  have htarget : (Operation.revert [] relpath "" "" "").target host (faultless [])
      World.empty.tree = .ok [(Path.of rp, [])] := by
    simp only [Operation.target, h, requireEditable_of_editable heditable, ok_bind]
    rfl
  have hend := run_cases host (faultless []) .empty
    (.revert [] relpath "" "" "")
  unfold finalState at hsame
  generalize Operation.run host (faultless []) (.revert [] relpath "" "" "") .empty = result
    at hend hsame
  cases hend with
  | refused hrefused =>
      rw [htarget] at hrefused
      cases hrefused
  | stopped _ hok hstop =>
      rw [htarget] at hok
      cases hok
      have hcomplete : Complete (faultless []).replaced [(Path.of rp, [])] :=
        complete_replaced.mpr rfl
      exact hstop hcomplete
  | unfinished _ _ _ hfault _ => exact hfault ⟨⟨_, rfl⟩, rfl⟩
  | finished hok _ _ _ =>
      rw [htarget] at hok
      cases hok
      have hget := congrArg (fun tree : Tree => tree.get? (Path.of rp)) hsame
      simp only [Tree.putAll, List.foldl_cons, List.foldl_nil, Dict.get?_set_same] at hget
      cases hget

/-! ### Which files are protected -/

/-- **A file is protected just where its name ends as no configuration file's does**, and just
then no spelling of it can be written. -/
theorem protected_iff (h : Spells rp p) :
    (Protected host p ↔ ¬ p.IsConfig) ∧ (Unwritten host p ↔ ¬ p.IsConfig) := by
  have hunwritten : ¬ p.IsConfig → Unwritten host p := by
    intro hconfig relpath rq hresolve hof
    have hbarred := barred_of_not ⟨⟨relpath, hresolve⟩, hof⟩ hconfig
    exact not_writable hresolve (congrArg Decisions.editable hbarred)
  have hwritten : p.IsConfig → ¬ Unwritten host p := by
    intro hconfig hunwritten
    obtain ⟨⟨relpath, hresolve⟩, hof⟩ := h.dotted hconfig
    refine hunwritten relpath _ hresolve hof (writable_of_editable hresolve ?_)
    exact editable_dotted (Path.isConfig_text hconfig) h.clean.1
  refine ⟨⟨fun hprotected => (decisions_eq_iff h).mp hprotected.agree, fun hconfig => ?_⟩,
    ⟨fun hall hconfig => hwritten hconfig hall, hunwritten⟩⟩
  exact ⟨(decisions_eq_iff h).mpr hconfig, fun _ => hunwritten hconfig⟩

end Protection

/-! ### A sample -/

/-- Some documents, and what they load to. -/
def documents : List (Text × Yaml ℚ) := [
  ("x: 1".toList, .map [(.str "x".toList, .int 1)]),
  ("dl_freq_mhz: 2200".toList, .map [(.str "dl_freq_mhz".toList, .int 2200)]),
  ("dl_freq_mhz: 2300".toList, .map [(.str "dl_freq_mhz".toList, .int 2300)]),
  ("ground_stations: [{rx_freq_mhz: 2300}]".toList,
    .map [(.str "ground_stations".toList,
      .list [.map [(.str "rx_freq_mhz".toList, .int 2300)]])])]

/-- A validation of these documents, with exact arithmetic. -/
def sampleHost : Host ℚ where
  safeLoad := fun text =>
    match documents.lookup text with
    | some data => .ok data
    | none => .error (.yaml "<yaml>" "")
  number := fun v =>
    match v with
    | .int n => some n
    | .float x => some x
    | _ => none
  isZero := fun x => x == 0
  same := fun x y => x == y
  apart := fun x y tolerance => decide (tolerance < |x - y|)
  megahertz := fun x => x / 1000000
  tolMhz := 51 / 100
  tolPos := 1 / 100
  tolAlt := 5 / 100
  key := fun v =>
    match v with
    | .str s => some s
    | _ => none
  toInt := fun _ => none
  str := fun _ => ""
  schemaIssues := fun _ _ => .ok []
  plausibilityIssues := fun _ _ => .ok []

instance (p : Path) : Decidable p.IsConfig :=
  decidable_of_iff (p.names.getLast?.any fun n => decide (IsConfig n))
    (by simp [Path.IsConfig, Option.any_eq_true])

/-- A picture is protected, as no rule knows it by any of its spellings. -/
theorem protected_picture : Spells "manual/orbit.png".toList (Path.of "manual/orbit.png".toList) ∧
    Protected sampleHost (Path.of "manual/orbit.png".toList) := by
  have h : Spells "manual/orbit.png".toList (Path.of "manual/orbit.png".toList) :=
    ⟨⟨"manual/orbit.png".toList, by decide⟩, rfl⟩
  exact ⟨h, (protected_iff h).1.mpr (by decide)⟩

/-- The dead memory map must not be edited, and is written by way of another spelling. -/
theorem not_protected :
    resolve "subsystems/memory_map.yaml".toList = .ok "subsystems/memory_map.yaml".toList ∧
    resolve "./subsystems/memory_map.yaml".toList = .ok "./subsystems/memory_map.yaml".toList ∧
    Path.of "./subsystems/memory_map.yaml".toList = Path.of "subsystems/memory_map.yaml".toList ∧
    (classify "subsystems/memory_map.yaml".toList).editable = false ∧
    (finalState (Operation.run sampleHost (faultless [])
        (.apply "./subsystems/memory_map.yaml".toList "x: 1".toList "" "" "" "" false))
      .empty).tree.get? (Path.of "subsystems/memory_map.yaml".toList) = some "x: 1".toList ∧
    ¬ Protected sampleHost (Path.of "subsystems/memory_map.yaml".toList) := by
  have hplain : Spells "subsystems/memory_map.yaml".toList
      (Path.of "subsystems/memory_map.yaml".toList) :=
    ⟨⟨"subsystems/memory_map.yaml".toList, by decide⟩, rfl⟩
  have hdotted : Spells "./subsystems/memory_map.yaml".toList
      (Path.of "subsystems/memory_map.yaml".toList) :=
    ⟨⟨"./subsystems/memory_map.yaml".toList, by decide⟩, by decide⟩
  refine ⟨by decide, by decide, by decide, by decide, by decide +kernel, fun h => ?_⟩
  have hagree := congrArg Decisions.editable (h.agree _ _ hplain hdotted)
  revert hagree
  decide

end Confedit
