import MissionSim.ConfigProtection

/-!
# Atomic edits

An edit should end with its files written and one revision that records them, or with every file
as it was.  Nothing is taken back once it is written, so an edit is atomic just where it is refused
before, goes through to the end or writes nothing new.
-/

namespace Confedit

open Python (Dict)
open Effects Writes List

/-! ### What is written is recorded -/

theorem get?_only (tree : Tree) (f : Path → Bool) (p : Path) :
    (tree.only f).get? p = if f p then tree.get? p else none := by
  refine Option.ext fun text => ?_
  rw [Dict.get?_eq_some_iff, Tree.only, mem_filter, ← Dict.get?_eq_some_iff]
  by_cases hp : f p
  · simp [hp]
  · simp [hp]

theorem isConfig_of_dropWhile {s : Text} {f : Char → Bool} (h : IsConfig (s.dropWhile f)) :
    IsConfig s :=
  h.imp (·.trans (dropWhile_suffix f)) (·.trans (dropWhile_suffix f))

theorem suffix_of_slashes {s ending : Text} (h : ending <:+ slashes s) (hslash : '/' ∉ ending) :
    ending <:+ s := by
  obtain ⟨t, ht, heq⟩ := suffix_map_iff.mp h
  have hback : '\\' ∉ t := by
    intro hmem
    refine hslash (heq ▸ mem_map.mpr ⟨'\\', hmem, ?_⟩)
    exact if_pos rfl
  have hsame : ending = slashes t := heq
  rwa [hsame, slashes_of_not_mem hback]

theorem isConfig_of_slashes {s : Text} (h : IsConfig (slashes s)) : IsConfig s :=
  h.imp (suffix_of_slashes · (by decide)) (suffix_of_slashes · (by decide))

theorem isConfig_of_posix {s : Text} (h : IsConfig (posix s)) : IsConfig s :=
  isConfig_of_slashes (isConfig_of_dropWhile h)

/-- The history tracks every file that may be edited. -/
theorem tracked_of_isConfig {p : Path} (h : p.IsConfig) : tracked p := by
  obtain ⟨n, hn, hend⟩ := h
  unfold tracked endsInOneOf
  rw [Option.any_eq_true]
  refine ⟨n, hn, any_eq_true.mpr ?_⟩
  rcases hend with hend | hend
  · exact ⟨".yaml".toList, by decide, isSuffixOf_iff_suffix.mpr hend⟩
  · exact ⟨".md".toList, by decide, isSuffixOf_iff_suffix.mpr hend⟩

/-! ### What an operation is going to write -/

section Target

variable {F : Type} {host : Host F} {answers : Answers} {op : Operation} {tree : Tree}
  {writes : List (Path × Text)}

theorem editable_of_requireEditable {rp : Text} {u : Unit} (h : requireEditable rp = .ok u) :
    (classify rp).editable := by
  by_contra hbarred
  obtain ⟨e, he⟩ := requireEditable_of_not (Bool.not_eq_true _ ▸ hbarred)
  rw [he] at h
  cases h

/-- What an operation on one file is going to write. -/
theorem target_single {relpath : Text} (hop : op.relpath = some relpath)
    (h : op.target host answers tree = .ok writes) :
    ∃ rp text, resolve relpath = .ok rp ∧ (classify rp).editable ∧ writes = [(Path.of rp, text)] ∧
      op.paths = some (Path.of rp) := by
  cases op with
  | apply path text actor role message reason force =>
      cases hop
      obtain ⟨rp, hrp, h⟩ := Python.bind_eq_ok.mp h
      obtain ⟨_, heditable, h⟩ := Python.bind_eq_ok.mp h
      obtain ⟨_, _, h⟩ := Python.bind_eq_ok.mp h
      obtain ⟨_, _, h⟩ := Python.bind_eq_ok.mp h
      exact ⟨rp, text, hrp, editable_of_requireEditable heditable, (Except.ok.inj h).symm,
        path_of_resolve hrp ▸ rfl⟩
  | revert rev path actor role reason =>
      cases hop
      obtain ⟨rp, hrp, h⟩ := Python.bind_eq_ok.mp h
      obtain ⟨_, heditable, h⟩ := Python.bind_eq_ok.mp h
      obtain ⟨text, _, h⟩ := Python.bind_eq_ok.mp h
      exact ⟨rp, text, hrp, editable_of_requireEditable heditable, (Except.ok.inj h).symm,
        path_of_resolve hrp ▸ rfl⟩
  | applyBaseline name actor reason => cases hop

/-- What a baseline is going to write. -/
theorem target_baseline {name : Text} {actor reason : String}
    (h : Operation.target host answers tree (.applyBaseline name actor reason) = .ok writes) :
    ∃ rev, answers.baselineRev name = some rev ∧ writes = restorable answers tree rev := by
  obtain ⟨rev, hrev, h⟩ := Python.bind_eq_ok.mp h
  obtain ⟨_, _, h⟩ := Python.bind_eq_ok.mp h
  refine ⟨rev, ?_, (Except.ok.inj h).symm⟩
  unfold revisionOf at hrev
  split at hrev
  · cases hrev
  · rename_i found hfound
    rw [hfound, Except.ok.inj hrev]

theorem mem_restorable {rev : Text} {entry : Path × Text}
    (h : entry ∈ restorable answers tree rev) :
    (classify entry.1.text).editable ∧ answers.blob rev entry.1.text = some entry.2 := by
  obtain ⟨p, hp, hentry⟩ := mem_filterMap.mp h
  obtain ⟨content, hcontent, rfl⟩ := Option.map_eq_some_iff.mp hentry
  exact ⟨(mem_filter.mp hp).2, hcontent⟩

theorem paths_sublist (paths : List Path) (content : Path → Option Text) :
    ((paths.filterMap fun p => (content p).map fun text => (p, text)).map Prod.fst).Sublist
      paths := by
  induction paths with
  | nil => exact List.Sublist.slnil
  | cons p rest ih =>
      cases hp : content p with
      | none =>
          rw [filterMap_cons_none (by rw [hp]; rfl)]
          exact ih.cons p
      | some text =>
          rw [filterMap_cons_some (by rw [hp]; rfl)]
          exact ih.cons_cons p

theorem nodup_restorable (answers : Answers) (tree : Tree) (rev : Text) :
    ((restorable answers tree rev).map Prod.fst).Nodup := by
  have hkeys : (listFiles tree).Nodup :=
    (perm_insertionSort _ _).nodup_iff.mpr (tree.nodup.filter _)
  exact (hkeys.filter _).sublist (paths_sublist _ fun p => answers.blob rev p.text)

/-- No file is written twice. -/
theorem nodup_target (h : op.target host answers tree = .ok writes) :
    (writes.map Prod.fst).Nodup := by
  cases hop : op.relpath with
  | some relpath =>
      obtain ⟨rp, text, -, -, rfl, -⟩ := target_single hop h
      exact nodup_singleton _
  | none =>
      cases op with
      | apply | revert => cases hop
      | applyBaseline name actor reason =>
          obtain ⟨rev, -, rfl⟩ := target_baseline h
          exact nodup_restorable answers tree rev

/-- Only configuration files are written. -/
theorem isConfig_target (h : op.target host answers tree = .ok writes) {entry : Path × Text}
    (hentry : entry ∈ writes) : entry.1.IsConfig := by
  cases hop : op.relpath with
  | some relpath =>
      obtain ⟨rp, text, -, heditable, rfl, -⟩ := target_single hop h
      obtain rfl := mem_singleton.mp hentry
      exact Path.isConfig_of (isConfig_of_posix (isConfig_of_classify heditable))
  | none =>
      cases op with
      | apply | revert => cases hop
      | applyBaseline name actor reason =>
          obtain ⟨rev, -, rfl⟩ := target_baseline h
          obtain ⟨heditable, -⟩ := mem_restorable hentry
          exact Path.isConfig_of_text (isConfig_of_posix (isConfig_of_classify heditable))

/-- The revision of a finished operation records what was written. -/
theorem committed_target (h : op.target host answers tree = .ok writes) {entry : Path × Text}
    (hentry : entry ∈ writes) (after : Tree) :
    (committed answers.kind after op.paths).get? entry.1 = after.get? entry.1 := by
  have htracked := tracked_of_isConfig (isConfig_target h hentry)
  have hpaths : op.paths = none ∨ op.paths = some entry.1 := by
    cases hop : op.relpath with
    | some relpath =>
        obtain ⟨rp, text, -, -, rfl, hpaths⟩ := target_single hop h
        obtain rfl := mem_singleton.mp hentry
        exact .inr hpaths
    | none =>
        cases op with
        | apply | revert => cases hop
        | applyBaseline name actor reason => exact .inl rfl
  unfold committed
  cases answers.kind with
  | git =>
      rcases hpaths with hpaths | hpaths
      · rw [hpaths]
      · rw [hpaths]
        simp only [get?_only, decide_true, if_true]
  | snapshot =>
      simp only [get?_only, htracked, if_true]

end Target

/-! ### Atomicity -/

section Atomicity

variable {F : Type} (host : Host F) (answers : Answers) (op : Operation) (w : World)

/-- The operation's files hold what it was to write, the others what they held, and one new
revision, the one it answers with, records the former. -/
def Carried (rev : Text) (w' : World) : Prop :=
  ∃ writes, op.target host answers w.tree = .ok writes ∧
    (∀ entry ∈ writes, w'.tree.get? entry.1 = some entry.2) ∧
    (∀ p ∉ writes.map Prod.fst, w'.tree.get? p = w.tree.get? p) ∧
    ∃ r, w'.revisions = w.revisions ++ [r] ∧ r.rev = rev ∧
      ∀ entry ∈ writes, r.files.get? entry.1 = some entry.2

/-- **Atomicity.**  An operation is carried out, or it raises and every file is as it was. -/
def Atomic : Prop :=
  wp (op.run host answers) (fun rev w' => Carried host answers op w rev w')
    (fun _ w' => w'.tree.get? = w.tree.get?) w

/-- An operation that passes its gates is written, recorded and noted in the journal, or what is
written of it was there before. -/
def Safe : Prop :=
  ∀ writes, op.target host answers w.tree = .ok writes →
    (Complete (op.ends answers) writes ∧ answers.Through) ∨
      ∀ entry ∈ stored (op.ends answers) writes, w.tree.get? entry.1 = some entry.2

variable {host answers op w}

/-- **An operation is atomic just where nothing fails after a file has changed.** -/
theorem atomic_iff : Atomic host answers op w ↔ Safe host answers op w := by
  have hend := run_cases host answers w op
  unfold Atomic wp
  generalize op.run host answers w = result at hend
  cases hend with
  | refused hrefused =>
      refine ⟨fun _ writes hok => ?_, fun _ => rfl⟩
      rw [hrefused] at hok
      cases hok
  | @stopped writes _ hok hstop =>
      have hnodup : ((stored (op.ends answers) writes).map Prod.fst).Nodup :=
        (nodup_target hok).sublist (keys_stored_sublist _ _)
      dsimp only
      rw [Tree.get?_putAll, put_eq_iff hnodup]
      constructor
      · intro hheld writes' hok'
        obtain rfl := Except.ok.inj (hok.symm.trans hok')
        exact .inr hheld
      · intro hsafe
        exact (hsafe writes hok).resolve_left fun hcomplete => hstop hcomplete.1
  | @unfinished writes w' _ hok hcomplete hfault htree =>
      dsimp only
      rw [htree, Tree.get?_putAll, put_eq_iff (nodup_target hok)]
      constructor
      · intro hheld writes' hok'
        obtain rfl := Except.ok.inj (hok.symm.trans hok')
        rw [stored_of_complete hcomplete]
        exact .inr hheld
      · intro hsafe
        have hheld := (hsafe writes hok).resolve_left fun hthrough => hfault hthrough.2
        rwa [stored_of_complete hcomplete] at hheld
  | @finished writes r journal hok hcomplete hthrough hfiles =>
      have hnodup := nodup_target hok
      have hget : ∀ entry ∈ writes, (w.tree.putAll writes).get? entry.1 = some entry.2 := by
        intro entry hentry
        rw [Tree.get?_putAll]
        exact put_of_mem hnodup hentry
      constructor
      · intro _ writes' hok'
        obtain rfl := Except.ok.inj (hok.symm.trans hok')
        exact .inl ⟨hcomplete, hthrough⟩
      · intro _
        refine ⟨writes, hok, hget, fun p hp => ?_, r, rfl, rfl, fun entry hentry => ?_⟩
        · rw [Tree.get?_putAll]
          exact put_of_not_mem hp
        · rw [hfiles, committed_target hok hentry]
          exact hget entry hentry

/-- A commit fails, and the file keeps the text that no revision records. -/
theorem not_atomic : ¬ Atomic sampleHost { faultless [] with
      commits := .unrecorded "git commit failed" }
    (.apply "mcs/notes.yaml".toList "x: 1".toList "" "" "" "" false) .empty := by
  intro h
  have hwritten : (finalState (Operation.run sampleHost { faultless [] with
        commits := .unrecorded "git commit failed" }
      (.apply "mcs/notes.yaml".toList "x: 1".toList "" "" "" "" false)) .empty).tree.get?
        (Path.of "mcs/notes.yaml".toList) = some "x: 1".toList := by
    decide +kernel
  have hraised : value? (Operation.run sampleHost { faultless [] with
        commits := .unrecorded "git commit failed" }
      (.apply "mcs/notes.yaml".toList "x: 1".toList "" "" "" "" false)) .empty = none := by
    decide +kernel
  rcases wp_outcome h with ⟨rev, hrev, -⟩ | ⟨-, _, hkept⟩
  · rw [hraised] at hrev
    cases hrev
  · rw [hkept] at hwritten
    revert hwritten
    decide

end Atomicity

end Confedit
