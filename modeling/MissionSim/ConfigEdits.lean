import MissionSim.ConfigEditor
import MissionSim.Writes

/-!
# What an edit can do

The three operations that change configuration files have one shape.  The gates decide what is to
be written; then it is written, recorded and noted in the journal, and any of these steps may be
the last.  `run_cases` says everything an operation can end in.
-/

namespace Confedit

open Effects Writes

/-- The operations that change configuration files. -/
inductive Operation where
  | apply (relpath text : Text) (actor role message reason : String) (force : Bool)
  | revert (rev relpath : Text) (actor role reason : String)
  | applyBaseline (name : Text) (actor reason : String)

section Operations

variable {F : Type} (host : Host F) (answers : Answers)

/-- An operation, up to the revision it answers with. -/
def Operation.run : Operation → Edit Text
  | .apply relpath text actor role message reason force =>
      Edited.revision <$> Confedit.apply host answers relpath text actor role message reason force
  | .revert rev relpath actor role reason =>
      Edited.revision <$> Confedit.revert answers rev relpath actor role reason
  | .applyBaseline name actor reason =>
      Restoration.revision <$> Confedit.applyBaseline answers name actor reason

/-- Can the files of the tree be read? -/
def readable : Except ConfigEditError Unit :=
  match answers.reads with
  | none => .ok ()
  | some fault => .error (.raised fault)

/-- What an operation is going to write, unless a gate refuses it. -/
def Operation.target (tree : Tree) : Operation → Except ConfigEditError (List (Path × Text))
  | .apply relpath text _ _ _ reason force => do
      let rp ← resolve relpath
      requireEditable rp
      let _ ← admitted host tree rp text reason force
      readable answers
      pure [(Path.of rp, text)]
  | .revert rev relpath _ _ _ => do
      let rp ← resolve relpath
      requireEditable rp
      let content ← contentAt answers rev rp
      pure [(Path.of rp, content)]
  | .applyBaseline name _ _ => do
      let rev ← revisionOf answers name
      readable answers
      pure (restorable answers tree rev)

/-- The paths an operation has the history record, if not all. -/
def Operation.paths : Operation → Option Path
  | .apply relpath _ _ _ _ _ _ => some (Path.of (strip (slashes relpath)))
  | .revert _ relpath _ _ _ => some (Path.of (strip (slashes relpath)))
  | .applyBaseline _ _ _ => none

/-- A file is replaced as a whole or not at all. -/
def Answers.replaced (_ : Path) : Outcome Text :=
  match answers.writes with
  | none => .done
  | some _ => .stopped none

/-- A file is restored in place. -/
def Answers.restored (p : Path) : Outcome Text :=
  match answers.restores p with
  | .done => .done
  | .stopped left _ => .stopped left

/-- How the writes of an operation end. -/
def Operation.ends : Operation → Path → Outcome Text
  | .apply _ _ _ _ _ _ _ | .revert _ _ _ _ _ => answers.replaced
  | .applyBaseline _ _ _ => answers.restored

/-- Do the history and the journal take what they are given? -/
def Answers.Through : Prop := (∃ rev, answers.commits = .done rev) ∧ answers.audits = none

end Operations

/-- A tree with some files written. -/
def Tree.putAll (tree : Tree) (writes : List (Path × Text)) : Tree :=
  writes.foldl (fun tree entry => tree.set entry.1 entry.2) tree

theorem Tree.putAll_cons (tree : Tree) (entry : Path × Text) (writes : List (Path × Text)) :
    tree.putAll (entry :: writes) = Tree.putAll (tree.set entry.1 entry.2) writes := rfl

theorem get?_set (tree : Tree) (p : Path) (text : Text) :
    (tree.set p text).get? = Function.update tree.get? p (some text) := by
  funext q
  by_cases heq : q = p
  · rw [heq, Python.Dict.get?_set_same, Function.update_self]
  · rw [Python.Dict.get?_set_ne tree heq, Function.update_of_ne heq]

/-- The files of a tree are a store. -/
theorem Tree.get?_putAll (tree : Tree) (writes : List (Path × Text)) :
    (tree.putAll writes).get? = put tree.get? writes := by
  induction writes generalizing tree with
  | nil => rfl
  | cons entry rest ih => rw [putAll_cons, ih, get?_set, put_cons]

/-! ### The steps -/

section Steps

variable {answers : Answers} {Q : Unit → World → Prop} {E : ConfigEditError → World → Prop}
  {w : World}

theorem wp_raiseIf {fault : Option String} : wp (raiseIf fault) Q E w ↔
    (fault = none → Q () w) ∧ ∀ text, fault = some text → E (.raised text) w := by
  cases fault with
  | none | some => simp [raiseIf]

theorem wp_atomicWrite {p : Path} {text : Text} : wp (atomicWrite answers p text) Q E w ↔
    (answers.writes = none → Q () { w with tree := w.tree.set p text }) ∧
      ∀ fault, answers.writes = some fault → E (.raised fault) w := by
  unfold atomicWrite
  rw [wp_bind, wp_raiseIf]
  rfl

theorem wp_audit {entry : AuditEntry} : wp (audit answers entry) Q E w ↔
    (answers.audits = none → Q () { w with journal := w.journal ++ [entry] }) ∧
      ∀ fault, answers.audits = some fault → E (.raised fault) w := by
  unfold audit
  rw [wp_bind, wp_raiseIf]
  rfl

/-- Restoring files writes what is done of it. -/
theorem wp_restore {writes : List (Path × Text)}
    (hok : Complete answers.restored writes → Q () { w with tree := w.tree.putAll writes })
    (herror : ¬ Complete answers.restored writes →
      ∀ e, E e { w with tree := w.tree.putAll (stored answers.restored writes) }) :
    wp (restore answers writes) Q E w := by
  induction writes generalizing w with
  | nil => exact hok fun _ h => nomatch h
  | cons entry rest ih =>
      unfold restore
      cases hentry : answers.restores entry.1 with
      | done =>
          have hdone : answers.restored entry.1 = .done := by simp only [Answers.restored, hentry]
          refine (wp_bind _ _).mpr (ih (fun hrest => ?_) fun hrest e => ?_)
          · exact hok (complete_cons.mpr ⟨hdone, hrest⟩)
          · have hstop := herror (fun hall => hrest (complete_cons.mp hall).2) e
            rwa [stored, hdone] at hstop
      | stopped left fault =>
          have hleft : answers.restored entry.1 = .stopped left := by
            simp only [Answers.restored, hentry]
          have hstop := herror (fun hall => by
            have hdone := (complete_cons.mp hall).1
            rw [hleft] at hdone
            cases hdone) (.raised fault)
          rw [stored, hleft] at hstop
          cases left with
          | none | some => exact hstop

end Steps

/-! ### The endings -/

/-- Everything an operation can end in. -/
inductive Ending {F : Type} (host : Host F) (answers : Answers) (op : Operation) (w : World) :
    EStateM.Result ConfigEditError World Text → Prop
  /-- A gate refuses it. -/
  | refused {e : ConfigEditError} (h : op.target host answers w.tree = .error e) :
      Ending host answers op w (.error e w)
  /-- A write stops it. -/
  | stopped {writes : List (Path × Text)} (e : ConfigEditError)
      (h : op.target host answers w.tree = .ok writes)
      (hstop : ¬ Complete (op.ends answers) writes) :
      Ending host answers op w
        (.error e { w with tree := w.tree.putAll (stored (op.ends answers) writes) })
  /-- Everything is written, and the history or the journal fails. -/
  | unfinished {writes : List (Path × Text)} {w' : World} (e : ConfigEditError)
      (h : op.target host answers w.tree = .ok writes)
      (hcomplete : Complete (op.ends answers) writes) (hfault : ¬ answers.Through)
      (htree : w'.tree = w.tree.putAll writes) :
      Ending host answers op w (.error e w')
  | finished {writes : List (Path × Text)} {r : Revision} {journal : List AuditEntry}
      (h : op.target host answers w.tree = .ok writes)
      (hcomplete : Complete (op.ends answers) writes) (hthrough : answers.Through)
      (hfiles : r.files = committed answers.kind (w.tree.putAll writes) op.paths) :
      Ending host answers op w
        (.ok r.rev ⟨w.tree.putAll writes, w.revisions ++ [r], journal⟩)

section Endings

variable {F : Type} {host : Host F} {answers : Answers} {op : Operation} {w : World}

/-- The recording of an edit, whose files are all written. -/
theorem wp_record {writes : List (Path × Text)}
    (h : op.target host answers w.tree = .ok writes)
    (hcomplete : Complete (op.ends answers) writes) (message : String)
    (trailers : List (String × String)) (entry : Text → AuditEntry) :
    wp (commit answers message trailers op.paths)
      (fun rev => wp (audit answers (entry rev))
        (fun _ w' => Ending host answers op w (.ok rev w'))
        (fun e w' => Ending host answers op w (.error e w')))
      (fun e w' => Ending host answers op w (.error e w'))
      { w with tree := w.tree.putAll writes } := by
  unfold commit
  cases hcommits : answers.commits with
  | done rev =>
      refine wp_audit.mpr ⟨fun haudits => ?_, fun fault haudits => ?_⟩
      · have hthrough : answers.Through := ⟨⟨rev, hcommits⟩, haudits⟩
        exact .finished (r := ⟨rev, message, trailers, _⟩) h hcomplete hthrough rfl
      · refine .unfinished _ h hcomplete ?_ rfl
        rintro ⟨-, hthrough⟩
        rw [hthrough] at haudits
        cases haudits
  | unrecorded fault =>
      refine .unfinished _ h hcomplete ?_ rfl
      rintro ⟨⟨rev, hthrough⟩, -⟩
      rw [hthrough] at hcommits
      cases hcommits
  | unnamed rev fault =>
      refine .unfinished _ h hcomplete ?_ rfl
      rintro ⟨⟨rev, hthrough⟩, -⟩
      rw [hthrough] at hcommits
      cases hcommits

theorem complete_replaced {p : Path} {text : Text} :
    Complete answers.replaced [(p, text)] ↔ answers.writes = none := by
  unfold Complete Answers.replaced
  cases answers.writes <;> simp

theorem stored_replaced {p : Path} {text : Text} {fault : String}
    (h : answers.writes = some fault) : stored answers.replaced [(p, text)] = [] := by
  simp only [stored, Answers.replaced, h]

/-- The replacement and the recording of one file. -/
theorem wp_replace {p : Path} {text : Text} (hpaths : op.paths = some p)
    (hends : op.ends answers = answers.replaced)
    (h : op.target host answers w.tree = .ok [(p, text)]) (message : String)
    (trailers : List (String × String)) (entry : Text → AuditEntry) :
    wp (atomicWrite answers p text)
      (fun _ => wp (commit answers message trailers (some p))
        (fun rev => wp (audit answers (entry rev))
          (fun _ w' => Ending host answers op w (.ok rev w'))
          (fun e w' => Ending host answers op w (.error e w')))
        (fun e w' => Ending host answers op w (.error e w')))
      (fun e w' => Ending host answers op w (.error e w')) w := by
  refine wp_atomicWrite.mpr ⟨fun hwrites => ?_, fun fault hwrites => ?_⟩
  · rw [← hpaths]
    refine wp_record h ?_ message trailers entry
    rw [hends]
    exact complete_replaced.mpr hwrites
  · have hstop : ¬ Complete (op.ends answers) [(p, text)] := by
      rw [hends, complete_replaced, hwrites]
      exact Option.some_ne_none _
    have hend := Ending.stopped (.raised fault) h hstop
    rwa [hends, stored_replaced hwrites] at hend

theorem ok_bind {ε α β : Type} (a : α) (f : α → Except ε β) : (.ok a >>= f) = f a := rfl

theorem error_bind {ε α β : Type} (e : ε) (f : α → Except ε β) :
    ((.error e : Except ε α) >>= f) = .error e := rfl

theorem readable_eq_ok (h : answers.reads = none) : readable answers = .ok () := by
  simp only [readable, h]

theorem readable_eq_error {fault : String} (h : answers.reads = some fault) :
    readable answers = .error (.raised fault) := by
  simp only [readable, h]

theorem path_of_resolve {relpath rp : Text} (h : resolve relpath = .ok rp) :
    strip (slashes relpath) = rp := by
  simp only [resolve] at h
  split at h
  · cases h
  · split at h
    · cases h
    · exact Except.ok.inj h

/-- What a program ends in satisfies what it ends well with. -/
theorem ending_of_wp {x : Edit Text} (h : wp x
    (fun rev w' => Ending host answers op w (.ok rev w'))
    (fun e w' => Ending host answers op w (.error e w')) w) : Ending host answers op w (x w) := by
  unfold wp at h
  cases hx : x w with
  | ok | error =>
      rw [hx] at h
      exact h

open Operation

theorem run_apply (relpath text : Text) (actor role message reason : String) (force : Bool) :
    Ending host answers (.apply relpath text actor role message reason force) w
      (run host answers (.apply relpath text actor role message reason force) w) := by
  refine ending_of_wp ?_
  simp only [run, Confedit.apply, wp_map, wp_bind, wp_pure, wp_fromExcept, wp_get]
  refine ⟨fun rp hrp => ⟨fun _ heditable => ⟨fun issues hissues => ?_, fun e hissues => ?_⟩,
    fun e heditable => ?_⟩, fun e hrp => ?_⟩
  · refine wp_raiseIf.mpr ⟨fun hreads => ?_, fun fault hreads => ?_⟩
    · refine wp_replace (path_of_resolve hrp ▸ rfl) rfl ?_ _ _ _
      simp only [target, hrp, heditable, hissues, readable_eq_ok hreads, ok_bind]
      rfl
    · refine .refused ?_
      simp only [target, hrp, heditable, hissues, readable_eq_error hreads, ok_bind,
        error_bind]
  · refine .refused ?_
    simp only [target, hrp, heditable, hissues, ok_bind, error_bind]
  · refine .refused ?_
    simp only [target, hrp, heditable, ok_bind, error_bind]
  · refine .refused ?_
    simp only [target, hrp, error_bind]

theorem run_revert (rev relpath : Text) (actor role reason : String) :
    Ending host answers (.revert rev relpath actor role reason) w
      (run host answers (.revert rev relpath actor role reason) w) := by
  refine ending_of_wp ?_
  simp only [run, Confedit.revert, wp_map, wp_bind, wp_pure, wp_fromExcept]
  refine ⟨fun rp hrp => ⟨fun _ heditable => ⟨fun content hcontent => ?_, fun e hcontent => ?_⟩,
    fun e heditable => ?_⟩, fun e hrp => ?_⟩
  · refine wp_replace (path_of_resolve hrp ▸ rfl) rfl ?_ _ _ _
    simp only [target, hrp, heditable, hcontent, ok_bind]
    rfl
  · refine .refused ?_
    simp only [target, hrp, heditable, hcontent, ok_bind, error_bind]
  · refine .refused ?_
    simp only [target, hrp, heditable, ok_bind, error_bind]
  · refine .refused ?_
    simp only [target, hrp, error_bind]

theorem run_applyBaseline (name : Text) (actor reason : String) :
    Ending host answers (.applyBaseline name actor reason) w
      (run host answers (.applyBaseline name actor reason) w) := by
  refine ending_of_wp ?_
  simp only [run, Confedit.applyBaseline, wp_map, wp_bind, wp_pure, wp_fromExcept, wp_get]
  refine ⟨fun rev hrev => wp_raiseIf.mpr ⟨fun hreads => ?_, fun fault hreads => ?_⟩,
    fun e hrev => ?_⟩
  · have htarget : target host answers w.tree (.applyBaseline name actor reason) =
        .ok (restorable answers w.tree rev) := by
      simp only [target, hrev, readable_eq_ok hreads, ok_bind]
      rfl
    refine wp_restore (fun hcomplete => ?_) fun hstop e => ?_
    · exact wp_record htarget hcomplete _ _ _
    · exact .stopped e htarget hstop
  · refine .refused ?_
    simp only [target, hrev, readable_eq_error hreads, ok_bind, error_bind]
  · refine .refused ?_
    simp only [target, hrev, error_bind]

variable (host answers w) in
/-- **Every operation ends in one of four ways.** -/
theorem run_cases (op : Operation) : Ending host answers op w (op.run host answers w) := by
  cases op with
  | apply relpath text actor role message reason force =>
      exact run_apply relpath text actor role message reason force
  | revert rev relpath actor role reason => exact run_revert rev relpath actor role reason
  | applyBaseline name actor reason => exact run_applyBaseline name actor reason

end Endings

end Confedit
