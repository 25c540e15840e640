import Mathlib.Tactic.Common
import MissionSim.Globs

/-!
# Paths of configuration files

The editor of the mission's configuration is given a file as a text.  Which class the file has,
which schema loads it and which checks concern it is looked up by matching that text against
patterns and names; where the file is stored is looked up by its components.  The two do not have
to agree.

Symbolic links are left out: in a tree without them a path without a `..` component stays below
its root.
-/

namespace Confedit

open Globs

/-- A text, as its characters. -/
abbrev Text := List Char

scoped instance lawfulBEq_text : LawfulBEq (List Char) := inferInstance

/-! ### Python's texts -/

/-- The characters `str.strip` takes off. -/
def isSpace (c : Char) : Bool :=
  (9 ≤ c.toNat && c.toNat ≤ 13) || (28 ≤ c.toNat && c.toNat ≤ 32) || c.toNat == 0x85 ||
    c.toNat == 0xA0 || c.toNat == 0x1680 || (0x2000 ≤ c.toNat && c.toNat ≤ 0x200A) ||
    c.toNat == 0x2028 || c.toNat == 0x2029 || c.toNat == 0x202F || c.toNat == 0x205F ||
    c.toNat == 0x3000

/-- `s.strip()`. -/
def strip (s : Text) : Text := (s.dropWhile isSpace).reverse.dropWhile isSpace |>.reverse

/-- `s.replace("\\", "/")`. -/
def slashes (s : Text) : Text := s.map fun c => if c = '\\' then '/' else c

/-- `s.endswith(ending)`. -/
def endsWith (s ending : Text) : Bool := ending.isSuffixOf s

/-- The pattern a text stands for.  No pattern of the editor has a bracket expression. -/
def pattern (p : Text) : List (Token Char) :=
  p.map fun c => if c = '*' then .any else if c = '?' then .one else .exactly c

/-- `fnmatch.fnmatch(name, pat)`. -/
def fnmatch (name pat : Text) : Bool := accepts (pattern pat) name

/-! ### Files -/

/-- Is this a component `pathlib` keeps? -/
def IsName (n : Text) : Prop := n ≠ [] ∧ n ≠ ['.'] ∧ '/' ∉ n

instance (n : Text) : Decidable (IsName n) := inferInstanceAs (Decidable (_ ∧ _))

/-- A file below the configuration directory: its components. -/
@[ext]
structure Path where
  names : List Text
  valid : ∀ n ∈ names, IsName n
  deriving DecidableEq

/-- `config_dir / rp`: empty components and `.` go. -/
def Path.of (rp : Text) : Path :=
  ⟨(rp.splitOn '/').filter fun n => decide (IsName n),
    fun _ h => of_decide_eq_true (List.mem_filter.mp h).2⟩

/-- `path.as_posix()`, relative to the configuration directory. -/
def Path.text (p : Path) : Text := ['/'].intercalate p.names

/-! ### The editor's errors -/

/-- The severity of an issue. -/
inductive Severity where
  | error
  | warning
  | info
  deriving DecidableEq, Repr

/-- What a gate of the validation reports. -/
structure Issue where
  severity : Severity
  gate : String
  path : String
  msg : String
  files : List Text := []
  check : Option String := none
  deriving DecidableEq

/-- Why an operation of the editor raises: a `ConfigEditError`, or what goes through it. -/
inductive ConfigEditError where
  | notRelative (relpath : Text)
  | illegalPath (relpath : Text)
  | mustNotBeEdited (rp : Text) (why : String)
  | validationBlocks (issues : List Issue)
  | absentAtRevision (rp rev : Text)
  | noBaseline (name : Text)
  | raised (text : String)
  deriving DecidableEq

/-- The suggested HTTP code of a `ConfigEditError`. -/
def ConfigEditError.status : ConfigEditError → Option Nat
  | .notRelative _ | .illegalPath _ => some 400
  | .mustNotBeEdited _ _ => some 403
  | .validationBlocks _ => some 422
  | .absentAtRevision _ _ | .noBaseline _ => some 404
  | .raised _ => none

/-- `ConfigEditor._resolve`, the text it returns; the file is `Path.of` of it. -/
def resolve (relpath : Text) : Except ConfigEditError Text :=
  let raw := strip (slashes relpath)
  if raw.head? = some '/' ∨ raw[1]? = some ':' then
    .error (.notRelative relpath)
  else if raw = [] ∨ '\x00' ∈ raw ∨ ['.', '.'] ∈ raw.splitOn '/' then
    .error (.illegalPath relpath)
  else
    .ok raw

/-! ### Classes -/

/-- The services an edit may ask to restart. -/
inductive Service where
  | simulator
  | mcs
  | planner
  | rfsim
  deriving DecidableEq, Repr

/-- A rule of the classification. -/
structure FileClass where
  pattern : Text
  label : String
  editable : Bool
  restartScope : List Service
  note : String
  deriving DecidableEq

def all : List Service := [.simulator, .mcs, .planner]

/-- The head of `_TABLE`: the files that must not be edited. -/
def protectedRules : List FileClass := [
  ⟨"subsystems/memory_map.yaml".toList, "Dead memory map", false, [],
    "DEAD: load_memory_map() targets it but is never called; both real readers use " ++
      "memory/memory_map.yaml. Edits here appear to work and do nothing."⟩,
  ⟨"aocs/aocs_mode_codes.yaml".toList, "Dead AOCS mode codes", false, [],
    "DEAD: no reader in any .py or .html."⟩,
  ⟨"xtce/*".toList, "XTCE (generated)", false, [],
    "Generated by tools/generate_xtce.py — hand edits are lost on regeneration; nothing in " ++
      "packages/ reads it at runtime."⟩,
  ⟨"smdl/*".toList, "SMDL (generated)", false, [],
    "Generated by tools/generate_smdl.py — regenerate instead."⟩,
  ⟨"**/.DS_Store".toList, "Finder junk", false, [], "macOS Finder metadata."⟩,
  ⟨".DS_Store".toList, "Finder junk", false, [], "macOS Finder metadata."⟩]

/-- The rest of `_TABLE`. -/
def editableRules : List FileClass := [
  ⟨"mission.yaml".toList, "Mission identity / APIDs / ports", true, all,
    "Very high blast radius: APID change breaks TM routing; port change orphans MCS/planner; " ++
      "dump_dir moves the archive."⟩,
  ⟨"orbit.yaml".toList, "Orbit (TLE, t0, ground stations)", true, all,
    "Canonical station list; t0_epoch changes every eclipse and pass in the run."⟩,
  ⟨"simulation.yaml".toList, "Simulation tuning", true, [.simulator],
    "load_shed / event thresholds change FDIR behaviour."⟩,
  ⟨"obcp/*.yaml".toList, "On-board control procedures", true, [.simulator], ""⟩,
  ⟨"telemetry/hk_structures.yaml".toList, "HK wire format", true, all,
    "HIGHEST blast radius: changing order/format silently invalidates every already-archived " ++
      "dump (dumps are raw bytes decoded by this config)."⟩,
  ⟨"telemetry/*.yaml".toList, "Telemetry parameters", true, all,
    "Names/ids referenced by displays, limits, S12/S19, procedures and report specs."⟩,
  ⟨"commands/tc_catalog.yaml".toList, "TC catalogue", true, [.mcs, .simulator],
    "positions.yaml allowed_func_ids and procedures reference it."⟩,
  ⟨"events/event_catalog.yaml".toList, "Event catalogue", true, [.simulator, .mcs],
    "Event ids are S19 triggers."⟩,
  ⟨"memory/memory_map.yaml".toList, "On-board memory map (S6)", true, [.simulator, .mcs],
    "S6 dump/check addresses."⟩,
  ⟨"subsystems/fdir.yaml".toList, "FDIR rules", true, [.simulator], "Changes autonomy."⟩,
  ⟨"subsystems/*.yaml".toList, "Subsystem model config", true, [.simulator],
    "eps/payload/ttc feed the planner budget too."⟩,
  ⟨"monitoring/s19_rules.yaml".toList, "S19 event-action autonomy", true, [.simulator],
    "Very high: known trigger drift history (defect #70)."⟩,
  ⟨"monitoring/*.yaml".toList, "On-board monitoring", true, [.simulator], ""⟩,
  ⟨"fdir/*.yaml".toList, "Fault propagation", true, [.simulator],
    "stage soc_threshold cross-checked against simulation.yaml."⟩,
  ⟨"fdir/procedures/*.yaml".toList, "On-board recovery procedures", true, [.simulator], ""⟩,
  ⟨"scenarios/*.yaml".toList, "Training scenario", true, [.simulator],
    "Safest student-visible edit surface; never edit the running scenario's file."⟩,
  ⟨"mcs/positions.yaml".toList, "Role/permission model", true, [.mcs],
    "The only access control in the suite — instructor-only."⟩,
  ⟨"mcs/role_analysis/*.md".toList, "Role analysis notes", true, [], ""⟩,
  ⟨"mcs/*.yaml".toList, "MCS configuration", true, [.mcs], ""⟩,
  ⟨"planning/ground_stations.yaml".toList, "Ground stations (RF augmentation)", true,
    [.mcs, .planner],
    "Geometry is a mirror of orbit.yaml; frequencies must agree with ttc.yaml and rfsim.yaml " ++
      "(rf.frequencies cross-check)."⟩,
  ⟨"planning/*.yaml".toList, "Planner configuration", true, [.planner], ""⟩,
  ⟨"rfsim.yaml".toList, "RF bridge", true, [.rfsim],
    "Already strict at load (unknown keys raise ConfigError)."⟩,
  ⟨"reports/*.yaml".toList, "Report template", true, [], ""⟩,
  ⟨"procedures/procedure_index.yaml".toList, "Procedure index", true, [.mcs], ""⟩,
  ⟨"procedures/**/*.md".toList, "Operator procedure", true, [], ""⟩,
  ⟨"manual/*.md".toList, "Operations manual", true, [], ""⟩,
  ⟨"**/*.md".toList, "Documentation", true, [], ""⟩]

/-- `_TABLE`. -/
def table : List FileClass := protectedRules ++ editableRules

/-- The first of `_FALLBACKS`. -/
def unclassifiedYaml : FileClass :=
  ⟨"**/*.yaml".toList, "Unclassified YAML config", true, all,
    "Not in the classification table — treated as restart-everything out of caution."⟩

/-- The last of `_FALLBACKS`. -/
def unclassified : FileClass :=
  ⟨"**/*".toList, "Unclassified file", false, [],
    "Not a config file the editor knows; not editable."⟩

/-- `_FALLBACKS`. -/
def fallbacks : List FileClass := [unclassifiedYaml, unclassified]

/-- `relpath.replace("\\", "/").lstrip("/")`. -/
def posix (relpath : Text) : Text := (slashes relpath).dropWhile (· = '/')

/-- `classify(relpath)`: the first rule that matches. -/
def classify (relpath : Text) : FileClass :=
  ((table ++ fallbacks).find? fun rule => fnmatch (posix relpath) rule.pattern).getD unclassified

/-! ### Schemas and checks -/

/-- The schemas that load configuration files.  The four in the plural are lists under a key. -/
inductive Schema where
  | missionConfig
  | orbitConfig
  | simulationConfig
  | fdirConfig
  | memoryMapConfig
  | hkStructureDefs
  | parameterDefs
  | limitDefs
  | tcCommandDefs
  | eventCatalog
  | mcsDisplayConfig
  | pusServicesConfig
  | procedureIndex
  | activityTypesConfig
  | scenarioConfig
  /-- What `_subsystem_model` finds for a name, if anything. -/
  | subsystem (name : Text)
  deriving DecidableEq

/-- `SCHEMA_MAP`. -/
def schemaMap : List (Text × Schema) := [
  ("mission.yaml".toList, .missionConfig),
  ("orbit.yaml".toList, .orbitConfig),
  ("simulation.yaml".toList, .simulationConfig),
  ("subsystems/fdir.yaml".toList, .fdirConfig),
  ("subsystems/memory_map.yaml".toList, .memoryMapConfig),
  ("memory/memory_map.yaml".toList, .memoryMapConfig),
  ("telemetry/hk_structures.yaml".toList, .hkStructureDefs),
  ("telemetry/parameters.yaml".toList, .parameterDefs),
  ("mcs/limits.yaml".toList, .limitDefs),
  ("commands/tc_catalog.yaml".toList, .tcCommandDefs),
  ("events/event_catalog.yaml".toList, .eventCatalog),
  ("mcs/displays.yaml".toList, .mcsDisplayConfig),
  ("mcs/positions.yaml".toList, .mcsDisplayConfig),
  ("mcs/pus_services.yaml".toList, .pusServicesConfig),
  ("procedures/procedure_index.yaml".toList, .procedureIndex),
  ("planning/activity_types.yaml".toList, .activityTypesConfig),
  ("scenarios/*.yaml".toList, .scenarioConfig)]

/-- `schema_model_for(relpath)`. -/
def schemaModelFor (relpath : Text) : Option Schema :=
  let rp := posix relpath
  match schemaMap.find? fun entry => fnmatch rp entry.1 with
  | some entry => some entry.2
  | none =>
      if "subsystems/".toList.isPrefixOf rp && endsWith rp ".yaml".toList then
        let last := (rp.splitOn '/').getLast?.getD []
        some (.subsystem (last.take (last.length - 5)))
      else
        none

/-- The gates of plausibility. -/
inductive Plausibility where
  | orbit
  | simulation
  | hk
  | limits
  deriving DecidableEq, Repr

/-- `_PLAUSIBILITY`. -/
def plausibilityMap : List (Text × Plausibility) := [
  ("orbit.yaml".toList, .orbit),
  ("simulation.yaml".toList, .simulation),
  ("telemetry/hk_structures.yaml".toList, .hk),
  ("mcs/limits.yaml".toList, .limits)]

/-- The cross-file checks. -/
inductive CheckId where
  | rfFrequencies
  | stationGeometry
  | shedLadder
  | hkWire
  deriving DecidableEq, Repr

/-- The keys of `CROSSCHECKS`. -/
def checkIds : List CheckId := [.rfFrequencies, .stationGeometry, .shedLadder, .hkWire]

/-- The files a check compares. -/
def CheckId.files : CheckId → List Text
  | .rfFrequencies =>
      ["subsystems/ttc.yaml".toList, "planning/ground_stations.yaml".toList, "rfsim.yaml".toList]
  | .stationGeometry =>
      ["orbit.yaml".toList, "planning/ground_stations.yaml".toList, "planning/planner.yaml".toList]
  | .shedLadder => ["simulation.yaml".toList, "fdir/fault_propagation.yaml".toList]
  | .hkWire => ["telemetry/hk_structures.yaml".toList, "telemetry/parameters.yaml".toList]

/-- The checks that `run_crosschecks(…, only_for=rp)` runs. -/
def checksFor (rp : Text) : List CheckId := checkIds.filter fun check => rp ∈ check.files

/-- What the editor decides for a path by looking at its text. -/
structure Decisions where
  editable : Bool
  restartScope : List Service
  schema : Option Schema
  plausibility : Option Plausibility
  crosschecks : List CheckId
  /-- Is every gate of the validation skipped? -/
  markdown : Bool
  deriving DecidableEq

/-- The decisions `apply` and `revert` take for a path. -/
def decisions (rp : Text) : Decisions where
  editable := (classify rp).editable
  restartScope := (classify rp).restartScope
  schema := schemaModelFor rp
  plausibility := plausibilityMap.lookup (posix rp)
  crosschecks := checksFor (posix rp)
  markdown := endsWith (posix rp) ".md".toList

end Confedit
