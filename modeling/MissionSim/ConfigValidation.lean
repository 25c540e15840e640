import MissionSim.ConfigPaths
import MissionSim.Python

/-!
# The validation of configuration files

A proposed text is parsed, then checked against its schema, for plausibility and, where it is one
of the files that another check compares, against the other files of the tree.  The schemas and
the plausibility of single values are what the surroundings provide; the checks across files are
written out, with every way in which they raise.
-/

namespace Confedit

open Python (Dict hexUpper)

/-- A document as `yaml.safe_load` returns it.  `other` is a value without items, such as a date. -/
inductive Yaml (F : Type) where
  | null
  | bool (b : Bool)
  | int (n : Int)
  | float (x : F)
  | str (s : Text)
  | list (items : List (Yaml F))
  | map (entries : List (Yaml F × Yaml F))
  | other (text : Text)

/-- Why a text does not load: a `YAMLError`, or another exception. -/
inductive YamlFault where
  | yaml (place text : String)
  | other (text : String)

/-- What the validation uses of its surroundings: the parser, the numbers, the dictionary's idea
of equal keys, the schemas and the plausibility of single values. -/
structure Host (F : Type) where
  safeLoad : Text → Except YamlFault (Yaml F)
  /-- `float(value)`, if it does not raise. -/
  number : Yaml F → Option F
  isZero : F → Bool
  /-- `a == b`. -/
  same : F → F → Bool
  /-- `abs(a - b) > tolerance`. -/
  apart : F → F → F → Bool
  /-- `x / 1e6`. -/
  megahertz : F → F
  tolMhz : F
  tolPos : F
  tolAlt : F
  /-- What a value is as a key of a dictionary, if it can be hashed. -/
  key : Yaml F → Option Text
  /-- `int(text, 0)`, if it does not raise. -/
  toInt : Text → Option Int
  /-- `str(value)`. -/
  str : Yaml F → String
  schemaIssues : Schema → Yaml F → Except String (List Issue)
  plausibilityIssues : Plausibility → Yaml F → Except String (List Issue)

/-- The configuration directory: the text of each file. -/
abbrev Tree := Dict Path Text

variable {F : Type} (host : Host F)

/-! ### Values -/

def Yaml.isNull : Yaml F → Bool
  | .null => true
  | _ => false

def Yaml.isDict : Yaml F → Bool
  | .map _ => true
  | _ => false

/-- `bool(value)`. -/
def truthy : Yaml F → Bool
  | .null => false
  | .bool b => b
  | .int n => n != 0
  | .float x => !host.isZero x
  | .str s => !s.isEmpty
  | .list items => !items.isEmpty
  | .map entries => !entries.isEmpty
  | .other _ => true

/-- `value or default`. -/
def orElse (v default : Yaml F) : Yaml F := if truthy host v then v else default

/-- The value under a key of a dictionary, if it is there. -/
def valueAt (entries : List (Yaml F × Yaml F)) (k : String) : Option (Yaml F) :=
  (entries.find? fun entry => match entry.1 with
    | .str s => decide (s = k.toList)
    | _ => false).map Prod.snd

/-- `value.get(key, default)`; only a dictionary has it. -/
def Yaml.getOr (v : Yaml F) (k : String) (default : Yaml F) : Option (Yaml F) :=
  match v with
  | .map entries => some ((valueAt entries k).getD default)
  | _ => none

/-- `value.get(key)`. -/
def Yaml.get (v : Yaml F) (k : String) : Option (Yaml F) := v.getOr k .null

/-- `list(value)`. -/
def items : Yaml F → Option (List (Yaml F))
  | .list items => some items
  | .map entries => some (entries.map Prod.fst)
  | .str s => some (s.map fun c => .str [c])
  | _ => none

/-- The items of `value.get(key, []) or []`. -/
def itemsOf (v : Yaml F) (k : String) : Option (List (Yaml F)) := do
  items (orElse host (← v.get k) (.list []))

/-- `_load(config_dir, rel, proposed)`; the absent `None` and the document `null` are one. -/
def load (tree : Tree) (proposed : List (Text × Yaml F)) (rel : Text) : Option (Yaml F) :=
  match proposed.lookup rel with
  | some data => some data
  | none =>
      match tree.get? (Path.of rel) with
      | none => some .null
      | some text =>
          match host.safeLoad text with
          | .ok data => some (orElse host data (.map []))
          | .error (.yaml _ _) => some .null
          | .error (.other _) => none

/-! ### `rf.frequencies` -/

/-- `a is not None and b is not None and abs(float(a) - float(b)) > tolerance`, with `a` scaled. -/
def differ (scale : F → F) (tolerance : F) (a b : Yaml F) : Option Bool :=
  if a.isNull || b.isNull then
    some false
  else do
    let x ← host.number a
    let y ← host.number b
    some (host.apart (scale x) y tolerance)

def rfFiles : List Text := CheckId.rfFrequencies.files

/-- The disagreements of `ttc.yaml` with one ground station. -/
def rfStation (ul dl : Yaml F) (st : Yaml F) (i : Nat) : Option (List Issue) := do
  let tx ← st.get "tx_freq_mhz"
  let rx ← st.get "rx_freq_mhz"
  let name ← st.getOr "name" (.str s!"[{i}]".toList)
  let uplink ← differ host id host.tolMhz tx ul
  let downlink ← differ host id host.tolMhz rx dl
  some <|
    (if uplink then [{
      severity := .error
      gate := "rf.frequencies"
      path := "ul_freq_mhz"
      msg := s!"ttc.yaml uplink {host.str ul} MHz disagrees with planning/ground_stations.yaml " ++
        s!"{host.str name} tx_freq_mhz {host.str tx} MHz"
      files := rfFiles.take 2 }] else []) ++
    (if downlink then [{
      severity := .error
      gate := "rf.frequencies"
      path := "dl_freq_mhz"
      msg := s!"ttc.yaml downlink {host.str dl} MHz disagrees with " ++
        s!"planning/ground_stations.yaml {host.str name} rx_freq_mhz {host.str rx} MHz"
      files := rfFiles.take 2 }] else [])

/-- The disagreements of `ttc.yaml` with the bridge. -/
def rfChannel (ul dl : Yaml F) (rf : Yaml F) : Option (List Issue) := do
  let ch := orElse host (← rf.get "channel") (.map [])
  let downlinkHz ← ch.get "frequency_hz"
  let uplinkHz ← ch.get "uplink_frequency_hz"
  let downlink ← differ host host.megahertz host.tolMhz downlinkHz dl
  let uplink ← differ host host.megahertz host.tolMhz uplinkHz ul
  some <|
    (if downlink then [{
      severity := .error
      gate := "rf.frequencies"
      path := "dl_freq_mhz"
      msg := s!"ttc.yaml downlink {host.str dl} MHz disagrees with rfsim.yaml " ++
        s!"channel.frequency_hz {host.str downlinkHz}"
      files := rfFiles.eraseIdx 1 }] else []) ++
    (if uplink then [{
      severity := .error
      gate := "rf.frequencies"
      path := "ul_freq_mhz"
      msg := s!"ttc.yaml uplink {host.str ul} MHz disagrees with rfsim.yaml " ++
        s!"channel.uplink_frequency_hz {host.str uplinkHz}"
      files := rfFiles.eraseIdx 1 }] else [])

/-- `_check_rf_frequencies`, on the three documents. -/
def checkRfFrequencies (ttc gs rf : Yaml F) : Option (List Issue) := do
  if !truthy host ttc then
    return []
  let ul ← ttc.get "ul_freq_mhz"
  let dl ← ttc.get "dl_freq_mhz"
  let stations ←
    if truthy host gs then do
      let stations ← itemsOf host gs "ground_stations"
      stations.zipIdx.mapM fun (st, i) => rfStation host ul dl st i
    else
      pure []
  let channel ← if truthy host rf then rfChannel host ul dl rf else pure []
  return stations.flatten ++ channel

/-! ### `stations.geometry` -/

/-- The canonical stations: under each key the name it was declared by and its last declaration. -/
abbrev Stations (F : Type) := Dict Text (Yaml F × Yaml F)

/-- `{st.get("name"): st for st in …}`. -/
def canonical (stations : List (Yaml F)) : Option (Stations F) :=
  stations.foldlM (fun canon st => do
    let name ← st.get "name"
    let key ← host.key name
    let declared := ((canon.get? key).map Prod.fst).getD name
    some (canon.set key (declared, st))) Dict.empty

/-- What a field of a station's geometry may be off by. -/
def geometry : List (String × F) :=
  [("lat_deg", host.tolPos), ("lon_deg", host.tolPos), ("alt_km", host.tolAlt)]

/-- The disagreements of one field of a station. -/
def geometryField (rel : Text) (name st c : Yaml F) (field : String × F) :
    Option (List Issue) := do
  let a ← st.get field.1
  let b ← c.get field.1
  if ← differ host id field.2 a b then
    return [{
      severity := .error
      gate := "stations.geometry"
      path := s!"stations[{host.str name}].{field.1}"
      msg := s!"{host.str name}: {field.1} differs — orbit.yaml {host.str b}, " ++
        s!"{String.ofList rel} {host.str a}"
      files := ["orbit.yaml".toList, rel] }]
  else
    return []

/-- The disagreements of one station of a planning file. -/
def geometryStation (canon : Stations F) (rel : Text) (st : Yaml F) : Option (List Issue) := do
  let name ← st.get "name"
  let key ← host.key name
  match canon.get? key with
  | none =>
      return [{
        severity := .warning
        gate := "stations.geometry"
        path := s!"stations[{host.str name}]"
        msg := s!"{host.str name}: declared in {String.ofList rel} but absent from orbit.yaml " ++
          "(canonical) — the planner would offer a station the simulator never sees"
        files := ["orbit.yaml".toList, rel] }]
  | some (_, c) =>
      let fields ← (geometry host).mapM (geometryField host rel name st c)
      return fields.flatten

/-- The canonical stations that `planning/ground_stations.yaml` does not declare. -/
def undeclared (canon : Stations F) (rel : Text) (stations : List (Yaml F)) :
    Option (List Issue) := do
  let declared ← stations.mapM fun st => do host.key (← st.get "name")
  if rel = "planning/ground_stations.yaml".toList then
    return (canon.items.filter fun item => item.1 ∉ declared).map fun item => {
      severity := .warning
      gate := "stations.geometry"
      path := s!"stations[{host.str item.2.1}]"
      msg := s!"{host.str item.2.1}: present in orbit.yaml but missing from " ++
        s!"{String.ofList rel} — no RF attributes defined for it"
      files := ["orbit.yaml".toList, rel] }
  else
    return []

/-- The disagreements of a planning file. -/
def geometryFile (canon : Stations F) (rel : Text) (other : Yaml F) : Option (List Issue) := do
  if !truthy host other then
    return []
  let groundStations ← other.get "ground_stations"
  let declared ← if truthy host groundStations then some groundStations else other.get "stations"
  let stations ← items (orElse host declared (.list []))
  let issues ← stations.mapM (geometryStation host canon rel)
  let missing ← undeclared host canon rel stations
  return issues.flatten ++ missing

/-- `_check_station_geometry`, on the orbit and a way to load the planning files. -/
def checkStationGeometry (orbit : Yaml F) (read : Text → Option (Yaml F)) :
    Option (List Issue) := do
  if !truthy host orbit then
    return []
  let canon ← canonical host (← itemsOf host orbit "ground_stations")
  let rels := ["planning/ground_stations.yaml".toList, "planning/planner.yaml".toList]
  let issues ← rels.mapM fun rel => do geometryFile host canon rel (← read rel)
  return issues.flatten

/-! ### `eps.shed_ladder` -/

/-- The threshold of a stage, if it has one: `"soc_threshold" in st`, then `st["soc_threshold"]`. -/
def stageThreshold (st : Yaml F) : Option (List F) :=
  match st with
  | .map entries =>
      match valueAt entries "soc_threshold" with
      | some v => (host.number v).map ([·])
      | none => some []
  | .str s => if "soc_threshold".toList <:+: s then none else some []
  | .list items =>
      match valueAt (items.map fun v => (v, v)) "soc_threshold" with
      | some _ => none
      | none => some []
  | _ => none

/-- `_check_shed_ladder`, on the two documents. -/
def checkShedLadder (sim fdir : Yaml F) : Option (List Issue) := do
  if !truthy host sim || !truthy host fdir then
    return []
  let eps := orElse host (← sim.get "eps") (.map [])
  let loadShed := orElse host (← eps.get "load_shed") (.map [])
  let stages ← loadShed.get "soc_stage_thresholds_pct"
  let fdirStages := orElse host (← fdir.get "load_shedding_stages") (.map [])
  let thresholds ← ["stage_1", "stage_2", "stage_3"].mapM fun key => do
    stageThreshold host (orElse host (← fdirStages.get key) (.map []))
  let fdirThresholds := thresholds.flatten
  if truthy host stages && !fdirThresholds.isEmpty then do
    let declared ← items stages
    let ladder ← declared.mapM host.number
    if ladder.length = fdirThresholds.length &&
        (ladder.zip fdirThresholds).all fun pair => host.same pair.1 pair.2 then
      return []
    else
      return [{
        severity := .error
        gate := "eps.shed_ladder"
        path := "eps.load_shed.soc_stage_thresholds_pct"
        msg := s!"simulation.yaml shed ladder {host.str (.list declared)} disagrees with " ++
          s!"fdir/fault_propagation.yaml stage soc_thresholds " ++
          s!"{host.str (.list (fdirThresholds.map .float))}"
        files := CheckId.shedLadder.files }]
  else
    return []

/-! ### `hk.wire` -/

/-- `_toi(p[key])`: nothing where a `KeyError` or a `ValueError` is caught. -/
def identifier (p : Yaml F) (key : String) : Option (Option Int) :=
  match p with
  | .map entries =>
      some <| match valueAt entries key with
        | none => none
        | some (.int n) => some n
        | some (.bool b) => some (if b then 1 else 0)
        | some v => host.toInt (host.str v).toList
  | _ => none

/-- A number in four hexadecimal digits. -/
def hex4 (n : Int) : String :=
  if 0 ≤ n then hexUpper 4 n.toNat else "-" ++ hexUpper 3 n.natAbs

/-- The parameters of a structure that nobody declares. -/
def hkStructure (known : List Int) (s : Yaml F) : Option (List Issue) := do
  let params ← itemsOf host s "parameters"
  let sid ← s.get "sid"
  let identifiers ← params.mapM fun p => identifier host p "param_id"
  return (identifiers.reduceOption.filter fun pid => pid ∉ known).map fun pid => {
    severity := .error
    gate := "hk.wire"
    path := s!"structures[sid={host.str sid}]"
    msg := s!"param_id 0x{hex4 pid} in hk_structures.yaml is not declared in parameters.yaml"
    files := CheckId.hkWire.files }

/-- `_check_hk_wire`, on the two documents. -/
def checkHkWire (hk params : Yaml F) : Option (List Issue) := do
  if !truthy host hk || !truthy host params then
    return []
  let declared ← (← itemsOf host params "parameters").mapM fun p => identifier host p "id"
  let issues ← (← itemsOf host hk "structures").mapM (hkStructure host declared.reduceOption)
  return issues.flatten

/-! ### The gates -/

/-- A check of the registry, with the way it loads its files. -/
def CheckId.run (read : Text → Option (Yaml F)) : CheckId → Option (List Issue)
  | .rfFrequencies => do
      checkRfFrequencies host (← read "subsystems/ttc.yaml".toList)
        (← read "planning/ground_stations.yaml".toList) (← read "rfsim.yaml".toList)
  | .stationGeometry => do
      checkStationGeometry host (← read "orbit.yaml".toList) read
  | .shedLadder => do
      checkShedLadder host (← read "simulation.yaml".toList)
        (← read "fdir/fault_propagation.yaml".toList)
  | .hkWire => do
      checkHkWire host (← read "telemetry/hk_structures.yaml".toList)
        (← read "telemetry/parameters.yaml".toList)

/-- The name of a check. -/
def CheckId.name : CheckId → String
  | .rfFrequencies => "rf.frequencies"
  | .stationGeometry => "stations.geometry"
  | .shedLadder => "eps.shed_ladder"
  | .hkWire => "hk.wire"

/-- What a check reports; a check that raises must not block editing. -/
def CheckId.report (read : Text → Option (Yaml F)) (check : CheckId) : List Issue :=
  match check.run host read with
  | some issues => issues.map fun issue => { issue with check := some check.name }
  | none => [{
      severity := .warning
      gate := check.name
      path := "<check>"
      msg := "cross-check failed to run" }]

/-- `run_crosschecks(config_dir, proposed, only_for)`. -/
def runCrosschecks (tree : Tree) (proposed : List (Text × Yaml F)) (onlyFor : Option Text) :
    List Issue :=
  let checks := match onlyFor with
    | none => checkIds
    | some rp => checksFor rp
  checks.flatMap fun check => check.report host (load host tree proposed)

/-- Does an issue have severity `error`? -/
def Issue.isError (issue : Issue) : Bool := decide (issue.severity = .error)

/-- `_schema_issues(relpath, data)`. -/
def schemaIssues (relpath : Text) (data : Yaml F) : Except String (List Issue) :=
  match schemaModelFor relpath with
  | none => .ok []
  | some model => host.schemaIssues model data

/-- The gate of plausibility, which only dictionaries pass through. -/
def plausibilityIssues (rp : Text) (data : Yaml F) : Except String (List Issue) :=
  match plausibilityMap.lookup rp with
  | none => .ok []
  | some gate => if data.isDict then host.plausibilityIssues gate data else .ok []

/-- `validate_file(config_dir, relpath, text)`. -/
def validateFile (tree : Tree) (relpath text : Text) : Except String (List Issue) :=
  let rp := posix relpath
  if endsWith rp ".md".toList then
    .ok []
  else
    match host.safeLoad text with
    | .error (.yaml place fault) => .ok [{
        severity := .error
        gate := "yaml"
        path := place
        msg := s!"YAML parse error: {fault}" }]
    | .error (.other fault) => .error fault
    | .ok data => do
        let schema ← schemaIssues host rp data
        let plausibility ← plausibilityIssues host rp data
        let issues := schema ++ plausibility
        if issues.any Issue.isError then
          return issues
        else
          return issues ++ runCrosschecks host tree [(rp, data)] (some rp)

end Confedit
