import Mathlib.Data.Char
import Mathlib.Data.List.Lex
import Mathlib.Data.List.Sort
import MissionSim.ConfigValidation
import MissionSim.Effects

/-!
# The configuration editor

An edit passes the gates, replaces the file, has the history record a revision and appends a line
to the audit journal.  Each of the last three may fail, and what went before stays.  What the disk
and the history answer is given from outside.
-/

namespace Confedit

open Python (Dict)
open Effects

/-! ### The history -/

/-- The two backends of the history. -/
inductive Backend where
  | git
  | snapshot
  deriving DecidableEq, Repr

/-- A revision: what it is called, what it says and the files it was made to record. -/
structure Revision where
  rev : Text
  message : String
  trailers : List (String × String)
  files : Tree

/-- A line of the audit journal, without its time. -/
inductive AuditEntry where
  | apply (actor role : String) (paths : List Text) (revision : Text)
      (message reason issuesSummary : String) (restartScope : List Service) (overridden : Bool)
  | revert (actor role : String) (paths : List Text) (revision revertedTo : Text) (reason : String)
      (restartScope : List Service)
  | baselineApply (actor : String) (name revision baselineRevision : Text) (reason : String)

/-- The configuration files, the revisions and the journal. -/
structure World where
  tree : Tree
  revisions : List Revision
  journal : List AuditEntry

/-- How a commit ends: with a revision, without one, or, where only its name is missing at the end,
with a revision and an exception. -/
inductive Committed where
  | done (rev : Text)
  | unrecorded (fault : String)
  | unnamed (rev : Text) (fault : String)

/-- How the restoration of a file ends. -/
inductive Restored where
  | done
  | stopped (left : Option Text) (fault : String)

/-- What the disk and the history answer. -/
structure Answers where
  kind : Backend
  /-- The content of a file at a revision. -/
  blob : Text → Text → Option Text
  baselineRev : Text → Option Text
  /-- Why the files of the tree cannot be read, if they cannot. -/
  reads : Option String
  /-- Why a file cannot be replaced, if it cannot. -/
  writes : Option String
  restores : Path → Restored
  commits : Committed
  /-- Why the journal cannot be appended to, if it cannot. -/
  audits : Option String

/-- The line ends of a text read in text mode. -/
def universalNewlines : Text → Text
  | '\r' :: '\n' :: s => '\n' :: universalNewlines s
  | '\r' :: s => '\n' :: universalNewlines s
  | c :: s => c :: universalNewlines s
  | [] => []

/-- `backend.show(rev, path)`. -/
def Answers.shows (answers : Answers) (rev rp : Text) : Option Text :=
  (answers.blob rev rp).map universalNewlines

/-- Does a name end in one of these? -/
def endsInOneOf (endings : List Text) (p : Path) : Bool :=
  p.names.getLast?.any fun name => endings.any (endsWith name)

/-- Is a file one of `_tracked_files`? -/
def tracked : Path → Bool :=
  endsInOneOf [".yaml".toList, ".yml".toList, ".md".toList, ".xml".toList]

/-- Some of the files of a tree. -/
def Tree.only (tree : Tree) (p : Path → Bool) : Tree :=
  ⟨tree.items.filter fun item => p item.1, Python.Dict.nodup_filter _ tree.nodup⟩

/-- The files a revision records: those named, or all; the snapshots always take all they track. -/
def committed (kind : Backend) (tree : Tree) (paths : Option Path) : Tree :=
  match kind, paths with
  | .git, some p => tree.only fun q => q = p
  | .git, none => tree
  | .snapshot, _ => tree.only tracked

/-! ### The steps of an edit -/

abbrev Edit := EStateM ConfigEditError World

/-- An exception that goes through the editor. -/
def raiseIf (fault : Option String) : Edit Unit :=
  match fault with
  | none => pure ()
  | some text => throw (.raised text)

/-- `_require_editable(rp)`. -/
def requireEditable (rp : Text) : Except ConfigEditError Unit :=
  let cls := classify rp
  if cls.editable then
    .ok ()
  else
    .error (.mustNotBeEdited rp (if cls.note = "" then cls.label else cls.note))

/-- `_atomic_write(abs_path, text)`: the file is replaced as a whole or not at all. -/
def atomicWrite (answers : Answers) (p : Path) (text : Text) : Edit Unit := do
  raiseIf answers.writes
  modify fun w => { w with tree := w.tree.set p text }

/-- `backend.restore(rev, paths)`, with the content of each file at the revision. -/
def restore (answers : Answers) : List (Path × Text) → Edit Unit
  | [] => pure ()
  | (p, content) :: rest =>
      match answers.restores p with
      | .done => do
          modify fun w => { w with tree := w.tree.set p content }
          restore answers rest
      | .stopped left fault => do
          modify fun w => { w with tree := (left.map fun text => w.tree.set p text).getD w.tree }
          throw (.raised fault)

/-- `backend.commit(message, trailers, paths)`. -/
def commit (answers : Answers) (message : String) (trailers : List (String × String))
    (paths : Option Path) : Edit Text := do
  let record (rev : Text) (w : World) : World :=
    let files := committed answers.kind w.tree paths
    { w with revisions := w.revisions ++ [⟨rev, message, trailers, files⟩] }
  match answers.commits with
  | .done rev =>
      modify (record rev)
      pure rev
  | .unrecorded fault => throw (.raised fault)
  | .unnamed rev fault =>
      modify (record rev)
      throw (.raised fault)

/-- `_audit(entry)`. -/
def audit (answers : Answers) (entry : AuditEntry) : Edit Unit := do
  raiseIf answers.audits
  modify fun w => { w with journal := w.journal ++ [entry] }

/-- The name of a service. -/
def Service.name : Service → String
  | .simulator => "simulator"
  | .mcs => "mcs"
  | .planner => "planner"
  | .rfsim => "rfsim"

/-- `text or default`. -/
def orText (text default : String) : String := if text = "" then default else text

/-- How many issues of each severity there are. -/
def issuesSummary (issues : List Issue) : String :=
  let warnings := issues.countP fun issue => issue.severity = .warning
  s!"{warnings} warning {issues.countP Issue.isError} error"

/-- `_trailers(actor, role, reason, restart_scope, issues, overridden)`. -/
def trailers (actor role reason : String) (restartScope : List Service) (issues : List Issue)
    (overridden : Bool) : List (String × String) :=
  [("Actor", orText actor "unknown"),
    ("Role", orText role "instructor"),
    ("Reason", orText reason "-"),
    ("CrossCheck", issuesSummary issues),
    ("RestartScope", orText (",".intercalate (restartScope.map Service.name)) "none")] ++
  if overridden then [("Override", "errors overridden by instructor")] else []

/-! ### The operations -/

/-- What an edit of one file answers. -/
structure Edited where
  revision : Text
  path : Text
  issues : List Issue
  revertedTo : Option Text
  restartRequired : List Service

/-- What the application of a baseline answers. -/
structure Restoration where
  name : Text
  revision : Text
  baselineRevision : Text
  filesRestored : List Path
  restartRequired : List Service

variable {F : Type} (host : Host F) (answers : Answers)

/-- The validation of a proposed text, which errors end unless they are overridden. -/
def admitted (tree : Tree) (rp text : Text) (reason : String) (force : Bool) :
    Except ConfigEditError (List Issue) :=
  match validateFile host tree rp text with
  | .error fault => .error (.raised fault)
  | .ok issues =>
      if issues.any Issue.isError ∧ ¬ (force = true ∧ reason ≠ "") then
        .error (.validationBlocks issues)
      else
        .ok issues

/-- `ConfigEditor.apply`. -/
def apply (relpath text : Text) (actor role message reason : String) (force : Bool) :
    Edit Edited := do
  let rp ← fromExcept (resolve relpath)
  fromExcept (requireEditable rp)
  let tree := (← get).tree
  let issues ← fromExcept (admitted host tree rp text reason force)
  let overridden := issues.any Issue.isError
  let scope := (classify rp).restartScope
  raiseIf answers.reads
  atomicWrite answers (Path.of rp) text
  let rev ← commit answers (orText message s!"edit {String.ofList rp}")
    (trailers actor role reason scope issues overridden) (some (Path.of rp))
  audit answers (.apply actor role [rp] rev message reason (issuesSummary issues) scope overridden)
  pure {
    revision := rev
    path := rp
    issues := issues
    revertedTo := none
    restartRequired := scope }

/-- The content to revert to. -/
def contentAt (rev rp : Text) : Except ConfigEditError Text :=
  match answers.shows rev rp with
  | none => .error (.absentAtRevision rp rev)
  | some content => .ok content

/-- `ConfigEditor.revert`. -/
def revert (rev relpath : Text) (actor role reason : String) : Edit Edited := do
  let rp ← fromExcept (resolve relpath)
  fromExcept (requireEditable rp)
  let content ← fromExcept (contentAt answers rev rp)
  let scope := (classify rp).restartScope
  let short := String.ofList (rev.take 12)
  atomicWrite answers (Path.of rp) content
  let newRev ← commit answers s!"revert {String.ofList rp} to {short}"
    (trailers actor role (orText reason s!"revert to {short}") scope [] false) (some (Path.of rp))
  audit answers (.revert actor role [rp] newRev rev reason scope)
  pure {
    revision := newRev
    path := rp
    issues := []
    revertedTo := some rev
    restartRequired := scope }

/-- The suffix of a name, as `pathlib` sees it. -/
def suffix (name : Text) : Text :=
  let after := (name.reverse.takeWhile (· ≠ '.')).reverse
  if after ≠ [] ∧ after.length + 1 < name.length then '.' :: after else []

/-- The paths of `list_files()`. -/
def listFiles (tree : Tree) : List Path :=
  let suffixes := [".yaml".toList, ".yml".toList, ".md".toList, ".xml".toList]
  let listed (p : Path) : Bool := p.names.getLast?.any fun name => suffix name ∈ suffixes
  (tree.keys.filter listed).insertionSort fun p q => p.names ≤ q.names

/-- The files of the tree that may be edited and exist at a revision, with their content there. -/
def restorable (tree : Tree) (rev : Text) : List (Path × Text) :=
  ((listFiles tree).filter fun p => (classify p.text).editable).filterMap fun p =>
    (answers.blob rev p.text).map fun content => (p, content)

/-- The revision of a baseline. -/
def revisionOf (name : Text) : Except ConfigEditError Text :=
  match answers.baselineRev name with
  | none => .error (.noBaseline name)
  | some rev => .ok rev

/-- `ConfigEditor.apply_baseline`. -/
def applyBaseline (name : Text) (actor reason : String) : Edit Restoration := do
  let rev ← fromExcept (revisionOf answers name)
  raiseIf answers.reads
  let files := restorable answers (← get).tree rev
  restore answers files
  let title := s!"apply baseline {String.ofList name}"
  let newRev ← commit answers title
    (trailers actor "instructor" (orText reason title) [.simulator, .mcs, .planner] [] false) none
  audit answers (.baselineApply actor name newRev rev reason)
  pure {
    name := name
    revision := newRev
    baselineRevision := rev
    filesRestored := files.map Prod.fst
    restartRequired := [.simulator, .mcs, .planner] }

end Confedit
