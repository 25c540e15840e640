import MissionSim.ProcedureSteps

/-!
# The canonical form of a step

`canonicalStep` brings a step of any encoding into the canonical form.  It reads the keys of the
step by itself; `canonicalStep_telecommand_iff` says of which steps the runner makes the same
telecommand before and after.
-/

namespace Procedures

open Octets Binary32 Python Commanding

/-! ### The canonical form -/

/-- The kind of a step: its tag, or what its keys tell. -/
def stepType (s : Step) : Option StepType :=
  match StepType.ofText (String.ofList ((strip s.type.toList).map Char.toLower)) with
  | some t => some t
  | none =>
      if s.hasWaitS then some .wait
      else if s.hasWaitFor then some .tlmCheck
      else if s.service.isSome then some .command
      else if s.hasText then some .note
      else none

/-- `_passthrough` of one key. -/
def kept (value : Option Scalar) : Option Scalar := value.filter fun v => v ≠ .null

/-- The numbers of a parameter list; the other entries are left out. -/
def numbers (params : List Scalar) : Except PyError (List Int) :=
  (fun ns => ns.filterMap id) <$> params.mapM asInt

/-- The canonical form of a command, from the numbers that are read. -/
def canonicalCommand (s : Step) (service subtype funcId : Option Int) (params : Option (List Int)) :
    Step :=
  let dataHex := (s.dataHex.getD "").toList.filter fun c => c ≠ ' '
  { type := "command"
    service := service.map .int
    subtype := subtype.map .int
    funcId := funcId.map .int
    params := params.map fun ns => ns.map .int
    dataHex := if dataHex = [] then none else some (String.ofList dataHex)
    sid := kept s.sid
    storeId := kept s.storeId
    paramId := kept s.paramId
    address := kept s.address
    data := kept s.data }

/-- `canonical_step(raw)` of a command; a step of another kind has no telecommand. -/
def canonicalStep (s : Step) : Except PyError (Option Step) :=
  if stepType s = some .command then do
    let service ← asIntAt s.service
    let subtype ← asIntAt s.subtype
    let funcId ← asIntAt s.funcId
    let params ← s.params.mapM numbers
    pure (some (canonicalCommand s service subtype funcId params))
  else pure none

/-- `validate_steps([step])` finds no fault with a canonical command. -/
def Accepted (s : Step) : Prop :=
  s.service.isSome ∧ s.subtype.isSome ∧ ∃ octets, octetsOfHex (s.dataHex.getD "").toList = .ok octets

/-- The schema reads every number of a step: as `_as_int` does, which takes no boolean for one. -/
def ReadsNumbers (s : Step) : Prop :=
  (∀ v ∈ s.funcId, v = .null ∨ ∃ n, asInt v = .ok (some n)) ∧
    ∀ v ∈ s.params.getD [], ∃ n, asInt v = .ok (some n)

/-! ### What the canonical form keeps -/

/-- The keys that are passed on. -/
def passed (s : Step) : Step where
  sid := kept s.sid
  storeId := kept s.storeId
  address := kept s.address
  data := kept s.data
  paramId := kept s.paramId

/-- The octets that the positional keys of a step spell, as the schema reads its numbers. -/
def Spells (s : Step) (octets : Bytes) : Prop :=
  match asIntAt s.funcId with
  | .ok (some n) => ∃ ns, numbers (s.params.getD []) = .ok ns ∧ octets = octet n :: ns.map octet
  | _ => packKeys (passed s) = .ok octets

/-- The keys of a step survive: packed octets are written without blanks; what the catalogue
encodes of named arguments is what the positional keys spell; and a parameter is named without a
value. -/
def Survives (catalog : List Command) (s : Step) : Prop :=
  if s.dataHex.getD "" = "" then
    match encodeNamed catalog s with
    | some octets => Spells s octets
    | none => s.funcId = none → s.sid = none → s.storeId = none → s.address = none →
        s.paramId.isSome → s.value = none
  else ' ' ∉ (s.dataHex.getD "").toList

/-- What the canonical form of a command is made of. -/
theorem canonicalStep_cases {s canon : Step} (h : canonicalStep s = .ok (some canon)) :
    ∃ service subtype funcId params, asIntAt s.service = .ok service ∧
      asIntAt s.subtype = .ok subtype ∧ asIntAt s.funcId = .ok funcId ∧
      s.params.mapM numbers = .ok params ∧
      canon = canonicalCommand s service subtype funcId params := by
  unfold canonicalStep at h
  split_ifs at h
  · obtain ⟨service, hservice, h⟩ := bind_eq_ok.mp h
    obtain ⟨subtype, hsubtype, h⟩ := bind_eq_ok.mp h
    obtain ⟨funcId, hfuncId, h⟩ := bind_eq_ok.mp h
    obtain ⟨params, hparams, h⟩ := bind_eq_ok.mp h
    exact ⟨service, subtype, funcId, params, hservice, hsubtype, hfuncId, hparams,
      (Option.some.inj (Except.ok.inj h)).symm⟩
  · cases h

theorem mapM_toInt_int (ns : List Int) : (ns.map Scalar.int).mapM Scalar.toInt = .ok ns := by
  induction ns with
  | nil => rfl
  | cons n rest ih =>
      rw [List.map_cons, List.mapM_cons, ih]
      rfl

variable {s : Step} {params : Option (List Int)}

theorem numbers_of_params (h : s.params.mapM numbers = .ok params) :
    numbers (s.params.getD []) = .ok (params.getD []) := by
  cases hparams : s.params with
  | none =>
      rw [hparams] at h
      obtain rfl : none = params := Except.ok.inj h
      rfl
  | some ps =>
      rw [hparams] at h
      change some <$> numbers ps = _ at h
      cases hns : numbers ps with
      | error e =>
          rw [hns] at h
          cases h
      | ok ns =>
          rw [hns] at h
          obtain rfl : some ns = params := Except.ok.inj h
          exact hns

variable {octets : Bytes}

/-- The canonical form packs what the positional keys spell. -/
theorem packPositional_canonical {service subtype funcId : Option Int}
    (hfunc : asIntAt s.funcId = .ok funcId) (hparams : s.params.mapM numbers = .ok params) :
    packPositional (canonicalCommand s service subtype funcId params) = .ok octets ↔
      Spells s octets := by
  have hnumbers := numbers_of_params hparams
  unfold Spells
  rw [hfunc]
  cases funcId with
  | none => exact Iff.rfl
  | some n =>
      have hpack : packPositional (canonicalCommand s service subtype (some n) params) =
          .ok (octet n :: (params.getD []).map octet) := by
        show packFunction (.int n) ((params.map fun ns => ns.map .int).getD []) = _
        have hmap : (params.map fun ns => ns.map Scalar.int).getD [] =
            (params.getD []).map Scalar.int := by cases params <;> rfl
        unfold packFunction
        rw [hmap, mapM_toInt_int]
        rfl
      rw [hpack]
      constructor
      · intro h
        exact ⟨_, hnumbers, (Except.ok.inj h).symm⟩
      · rintro ⟨ns, hns, rfl⟩
        rw [Except.ok.inj (hnumbers.symm.trans hns)]

/-- The parameters that both read are the same numbers. -/
theorem numbers_eq {params : List Scalar} {ns : List Int} (h : params.mapM Scalar.toInt = .ok ns)
    (hread : ∀ v ∈ params, ∃ n, asInt v = .ok (some n)) : numbers params = .ok ns := by
  have hmap : params.mapM asInt = .ok (ns.map some) := by
    induction params generalizing ns with
    | nil =>
        obtain rfl : [] = ns := Except.ok.inj h
        rfl
    | cons v rest ih =>
        rw [List.mapM_cons] at h
        obtain ⟨n, hn, h⟩ := bind_eq_ok.mp h
        obtain ⟨more, hmore, h⟩ := bind_eq_ok.mp h
        obtain rfl : n :: more = ns := Except.ok.inj h
        obtain ⟨m, hm⟩ := hread v List.mem_cons_self
        rw [List.mapM_cons, hm, ih hmore fun w hw => hread w (List.mem_cons_of_mem v hw),
          toInt_eq_asInt hn hm]
        rfl
  unfold numbers
  rw [hmap]
  show Except.ok ((ns.map some).filterMap id) = _
  rw [List.filterMap_map]
  exact congrArg Except.ok (List.filterMap_some)

theorem kept_of_ok {α : Type} {f : Scalar → Except PyError α} {a : α} {v : Scalar}
    (hnull : ∀ b, f .null ≠ .ok b) (h : f v = .ok a) : kept (some v) = some v := by
  have hne : v ≠ .null := by
    rintro rfl
    exact hnull a h
  exact Option.filter_some_pos (decide_eq_true hne)

theorem kept_number {v : Scalar} {n : Int} (h : v.toInt = .ok n) : kept (some v) = some v :=
  kept_of_ok nofun h

/-- A key that is packed is passed on. -/
theorem packOptional_kept {pack : Scalar → Except PyError Bytes} {value : Option Scalar}
    (hnull : ∀ b, pack .null ≠ .ok b) (h : packOptional pack value = .ok octets) :
    packOptional pack (kept value) = .ok octets := by
  cases value with
  | none => exact h
  | some v => rw [kept_of_ok hnull h, h]

/-- What the keys are packed to stays when they are passed on, but for the value of a
parameter. -/
theorem packKeys_passed (h : packKeys s = .ok octets) :
    packKeys (passed s) = .ok octets ↔
      (s.sid = none → s.storeId = none → s.address = none → s.paramId.isSome → s.value = none) := by
  cases hsid : s.sid with
  | some v =>
      rw [packKeys_sid hsid] at h
      obtain ⟨n, hn, -⟩ := bind_eq_ok.mp h
      have hpassed : (passed s).sid = some v := by
        rw [← kept_number hn, ← hsid]
        rfl
      rw [packKeys_sid hpassed]
      exact iff_of_true h nofun
  | none =>
      have hsid' : (passed s).sid = none := congrArg kept hsid
      cases hstore : s.storeId with
      | some v =>
          rw [packKeys_storeId hsid hstore] at h
          obtain ⟨n, hn, -⟩ := bind_eq_ok.mp h
          have hpassed : (passed s).storeId = some v := by
            rw [← kept_number hn, ← hstore]
            rfl
          rw [packKeys_storeId hsid' hpassed]
          exact iff_of_true h nofun
      | none =>
          have hstore' : (passed s).storeId = none := congrArg kept hstore
          cases haddress : s.address with
          | some v =>
              rw [packKeys_address hsid hstore haddress] at h
              obtain ⟨n, hn, h⟩ := bind_eq_ok.mp h
              obtain ⟨octets', hoctets, h⟩ := bind_eq_ok.mp h
              obtain ⟨more, hmore, h⟩ := bind_eq_ok.mp h
              have hpassed : (passed s).address = some v := by
                rw [← kept_number hn, ← haddress]
                rfl
              have hdata : packOptional Scalar.octets (passed s).data = .ok more :=
                packOptional_kept nofun hmore
              rw [packKeys_address hsid' hstore' hpassed, hn]
              refine iff_of_true ?_ nofun
              show (packUnsigned 4 n >>= _) = _
              rw [hoctets]
              rw [hdata]
              exact h
          | none =>
              have haddress' : (passed s).address = none := congrArg kept haddress
              cases hparam : s.paramId with
              | none =>
                  refine iff_of_true ?_ nofun
                  have hparam' : (passed s).paramId = none := congrArg kept hparam
                  unfold packKeys at h ⊢
                  rw [hsid, hstore, haddress, hparam] at h
                  rw [hsid', hstore', haddress', hparam']
                  exact h
              | some v =>
                  rw [packKeys_paramId hsid hstore haddress hparam] at h
                  obtain ⟨n, hn, h⟩ := bind_eq_ok.mp h
                  obtain ⟨octets', hoctets, h⟩ := bind_eq_ok.mp h
                  obtain ⟨more, hmore, h⟩ := bind_eq_ok.mp h
                  obtain rfl : octets' ++ more = octets := Except.ok.inj h
                  have hpassed : (passed s).paramId = some v := by
                    rw [← kept_number hn, ← hparam]
                    rfl
                  have hbare : packKeys (passed s) = .ok octets' := by
                    rw [packKeys_paramId hsid' hstore' haddress' hpassed, hn]
                    show (packUnsigned 2 n >>= _) = _
                    rw [hoctets]
                    exact congrArg Except.ok (List.append_nil octets')
                  rw [hbare]
                  cases hvalue : s.value with
                  | none =>
                      rw [hvalue] at hmore
                      obtain rfl : [] = more := Except.ok.inj hmore
                      exact iff_of_true (by rw [List.append_nil]) fun _ _ _ _ => rfl
                  | some x =>
                      rw [hvalue] at hmore
                      obtain ⟨y, -, hy⟩ := bind_eq_ok.mp hmore
                      have hlength := packFloat_length hy
                      refine iff_of_false (fun heq => ?_) fun hall =>
                        nomatch hall rfl rfl rfl rfl
                      have hlen := congrArg List.length (Except.ok.inj heq)
                      rw [List.length_append, hlength] at hlen
                      omega

/-- Where nothing is named, the positional keys survive. -/
theorem spells_of_packPositional (hread : ReadsNumbers s) {funcId : Option Int}
    (hfunc : asIntAt s.funcId = .ok funcId) (h : packPositional s = .ok octets) :
    Spells s octets ↔ (s.funcId = none → s.sid = none → s.storeId = none → s.address = none →
      s.paramId.isSome → s.value = none) := by
  unfold packPositional at h
  unfold Spells
  rw [hfunc]
  cases hfid : s.funcId with
  | none =>
      rw [hfid] at h hfunc
      obtain rfl : none = funcId := Except.ok.inj hfunc
      exact (packKeys_passed h).trans ⟨fun hall _ => hall, fun hall => hall rfl⟩
  | some fid =>
      rw [hfid] at h hfunc
      obtain ⟨n, hn, h⟩ := bind_eq_ok.mp h
      obtain ⟨ns, hns, h⟩ := bind_eq_ok.mp h
      obtain rfl : octet n :: ns.map octet = octets := Except.ok.inj h
      rcases hread.1 fid hfid with rfl | ⟨m, hm⟩
      · cases hn
      · obtain rfl := funcIdOf_eq_asInt hn hm
        obtain rfl : some n = funcId := Except.ok.inj (hm.symm.trans hfunc)
        exact iff_of_true ⟨ns, numbers_eq hns hread.2, rfl⟩ nofun

/-- The number of an accepted key is the one the runner reads. -/
theorem intAt_canonical {value : Option Scalar} {n : Int} {number : Option Int}
    (h : intAt value = .ok n) (has : asIntAt value = .ok number) (hsome : number.isSome) :
    number = some n := by
  obtain ⟨m, rfl⟩ := Option.isSome_iff_exists.mp hsome
  cases value with
  | none => cases h
  | some v => rw [toInt_eq_asInt h has]

/-- The parts of a telecommand. -/
theorem executeCommand_eq_ok {catalog : List Command} {tc : Telecommand} :
    executeCommand catalog s = .ok tc ↔ intAt s.service = .ok tc.service ∧
      intAt s.subtype = .ok tc.subtype ∧ dataFieldOf catalog s = .ok tc.dataHex := by
  unfold executeCommand
  constructor
  · intro h
    obtain ⟨service, hservice, h⟩ := bind_eq_ok.mp h
    obtain ⟨subtype, hsubtype, h⟩ := bind_eq_ok.mp h
    obtain ⟨dataHex, hdata, h⟩ := bind_eq_ok.mp h
    cases h
    exact ⟨hservice, hsubtype, hdata⟩
  · rintro ⟨hservice, hsubtype, hdata⟩
    rw [hservice, hsubtype, hdata]
    rfl

theorem telecommandOf_eq_some {catalog : List Command} {tc : Telecommand} :
    telecommandOf catalog s = .ok (some tc) ↔ s.isCommand = true ∧ executeCommand catalog s = .ok tc := by
  unfold telecommandOf
  split_ifs with hcommand
  · cases executeCommand catalog s with
    | error e => exact ⟨nofun, fun h => nomatch h.2⟩
    | ok tc' =>
        exact ⟨fun h => ⟨hcommand, congrArg Except.ok (Option.some.inj (Except.ok.inj h))⟩,
          fun h => congrArg (fun t => Except.ok (some t)) (Except.ok.inj h.2)⟩
  · exact ⟨nofun, fun h => absurd h.1 hcommand⟩

/-- Without packed octets the canonical form packs its positional keys. -/
theorem dataField_of_blank (catalog : List Command) (service subtype funcId : Option Int)
    (params : Option (List Int))
    (hblank : ((s.dataHex.getD "").toList.filter fun c => c ≠ ' ') = []) :
    dataFieldOf catalog (canonicalCommand s service subtype funcId params) =
      hexText <$> packPositional (canonicalCommand s service subtype funcId params) := by
  have hnone : (canonicalCommand s service subtype funcId params).dataHex = none := if_pos hblank
  unfold dataFieldOf
  rw [hnone]
  rfl

/-- Packed octets are taken over without their blanks. -/
theorem dataField_of_packed (catalog : List Command) (service subtype funcId : Option Int)
    (params : Option (List Int))
    (hpacked : ((s.dataHex.getD "").toList.filter fun c => c ≠ ' ') ≠ []) :
    dataFieldOf catalog (canonicalCommand s service subtype funcId params) =
      .ok (String.ofList ((s.dataHex.getD "").toList.filter fun c => c ≠ ' ')) := by
  have hsome : (canonicalCommand s service subtype funcId params).dataHex =
      some (String.ofList ((s.dataHex.getD "").toList.filter fun c => c ≠ ' ')) := if_neg hpacked
  unfold dataFieldOf
  rw [hsome]
  exact if_neg fun h => hpacked (String.ofList_eq_empty_iff.mp h)

theorem map_hexText_eq_ok {x : Except PyError Bytes} :
    hexText <$> x = .ok (hexText octets) ↔ x = .ok octets := by
  cases x with
  | error e => exact ⟨nofun, nofun⟩
  | ok bs =>
      exact ⟨fun h => congrArg Except.ok (hexText_injective (Except.ok.inj h)),
        fun h => congrArg (fun t => Except.ok (hexText t)) (Except.ok.inj h)⟩

/-- The data field of the canonical form is that of the step if its keys survive, and only
then. -/
theorem dataField_canonical_iff {catalog : List Command} {dataHex : String}
    {service subtype funcId : Option Int} (hread : ReadsNumbers s)
    (hfunc : asIntAt s.funcId = .ok funcId) (hparams : s.params.mapM numbers = .ok params)
    (hdata : dataFieldOf catalog s = .ok dataHex) :
    dataFieldOf catalog (canonicalCommand s service subtype funcId params) = .ok dataHex ↔
      Survives catalog s := by
  unfold dataFieldOf at hdata
  unfold Survives
  by_cases hempty : s.dataHex.getD "" = ""
  · have hblank : ((s.dataHex.getD "").toList.filter fun c => c ≠ ' ') = [] := by
      rw [hempty]
      rfl
    rw [if_pos hempty, buildDataHex] at hdata
    rw [if_pos hempty, dataField_of_blank catalog service subtype funcId params hblank]
    cases hnamed : encodeNamed catalog s with
    | some octets =>
        rw [hnamed] at hdata
        cases hdata
        rw [map_hexText_eq_ok]
        exact packPositional_canonical hfunc hparams
    | none =>
        rw [hnamed] at hdata
        cases hpack : packPositional s with
        | error e =>
            rw [hpack] at hdata
            cases hdata
        | ok octets =>
            rw [hpack] at hdata
            obtain rfl : hexText octets = dataHex := Except.ok.inj hdata
            rw [map_hexText_eq_ok]
            exact (packPositional_canonical hfunc hparams).trans
              (spells_of_packPositional hread hfunc hpack)
  · rw [if_neg hempty] at hdata
    obtain rfl : s.dataHex.getD "" = dataHex := Except.ok.inj hdata
    rw [if_neg hempty]
    have hsame : ((s.dataHex.getD "").toList.filter fun c => c ≠ ' ') = (s.dataHex.getD "").toList ↔
        ' ' ∉ (s.dataHex.getD "").toList := by
      rw [List.filter_eq_self]
      exact ⟨fun h hmem => of_decide_eq_true (h ' ' hmem) rfl,
        fun h c hc => decide_eq_true fun heq => h (heq ▸ hc)⟩
    have hsome : (s.dataHex.getD "").toList ≠ [] := fun h => hempty (String.toList_eq_nil_iff.mp h)
    by_cases hblank : ((s.dataHex.getD "").toList.filter fun c => c ≠ ' ') = []
    · rw [dataField_of_blank catalog service subtype funcId params hblank]
      refine iff_of_false (fun h => ?_) fun h => hsome ((hsame.mpr h).symm.trans hblank)
      cases hpack : packPositional (canonicalCommand s service subtype funcId params) with
      | error e =>
          rw [hpack] at h
          cases h
      | ok octets =>
          rw [hpack] at h
          have htext : hexText octets = s.dataHex.getD "" := Except.ok.inj h
          have hnone := hsame.mpr (htext ▸ space_not_mem_hexText octets)
          exact hsome (hnone.symm.trans hblank)
    · rw [dataField_of_packed catalog service subtype funcId params hblank, ← hsame]
      constructor
      · intro h
        rw [← congrArg String.toList (Except.ok.inj h), String.toList_ofList, List.filter_filter]
        simp
      · intro h
        rw [h, String.ofList_toList]

/-- **What conversion keeps.**  From a command that the schema accepts and the runner makes a
telecommand of, the canonical form makes the same if and only if its keys survive. -/
theorem canonicalStep_telecommand_iff {catalog : List Command} {s canon : Step} {tc : Telecommand}
    (hcanon : canonicalStep s = .ok (some canon)) (haccepted : Accepted canon)
    (hread : ReadsNumbers s) (hbuilt : telecommandOf catalog s = .ok (some tc)) :
    telecommandOf catalog canon = .ok (some tc) ↔ Survives catalog s := by
  obtain ⟨service, subtype, funcId, params, hservice, hsubtype, hfunc, hparams, rfl⟩ :=
    canonicalStep_cases hcanon
  obtain ⟨-, hexecute⟩ := telecommandOf_eq_some.mp hbuilt
  obtain ⟨hservice', hsubtype', hdata⟩ := executeCommand_eq_ok.mp hexecute
  obtain rfl := intAt_canonical hservice' hservice (by simpa [canonicalCommand] using haccepted.1)
  obtain rfl := intAt_canonical hsubtype' hsubtype (by simpa [canonicalCommand] using haccepted.2.1)
  have hcanonical : telecommandOf catalog (canonicalCommand s (some tc.service) (some tc.subtype)
      funcId params) = .ok (some tc) ↔ dataFieldOf catalog (canonicalCommand s (some tc.service)
        (some tc.subtype) funcId params) = .ok tc.dataHex := by
    rw [telecommandOf_eq_some, executeCommand_eq_ok]
    exact ⟨fun h => h.2.2.2, fun h => ⟨rfl, rfl, rfl, h⟩⟩
  rw [hcanonical]
  exact dataField_canonical_iff hread hfunc hparams hdata

/-- A function named by a text, with a parameter. -/
theorem canonicalStep_telecommand_function :
    telecommandOf [] (canonicalCommand
      { service := some (.int 8), subtype := some (.int 1), funcId := some (.text "0x1A"),
        params := some [.int 2] } (some 8) (some 1) (some 26) (some [2])) =
      .ok (some { service := 8, subtype := 1, dataHex := "1a02" }) := by
  refine (@canonicalStep_telecommand_iff []
    { service := some (.int 8), subtype := some (.int 1), funcId := some (.text "0x1A"),
      params := some [.int 2] } _ _ (by rfl) ⟨rfl, rfl, [], rfl⟩ ⟨?_, ?_⟩ (by rfl)).mpr nofun
  · rintro v ⟨⟩
    exact .inr ⟨26, by rfl⟩
  · intro v hv
    obtain rfl := List.mem_singleton.mp hv
    exact ⟨2, rfl⟩

/-- The command that sets the cooler. -/
def coolerCommand : Command where
  name := "PAYLOAD_COOLER_SETPOINT"
  service := 8
  subtype := 1
  funcId := some 36
  fields := [coolerSetpoint]

/-- The argument of a named command and the value of a parameter are lost. -/
theorem conversion_loses_arguments :
    (∃ (s canon : Step) (tc : Telecommand), canonicalStep s = .ok (some canon) ∧ Accepted canon ∧
      telecommandOf [coolerCommand] s = .ok (some { tc with dataHex := "2466cb" }) ∧
      telecommandOf [coolerCommand] canon = .ok (some { tc with dataHex := "24" })) ∧
    ∃ (s canon : Step) (tc : Telecommand), canonicalStep s = .ok (some canon) ∧ Accepted canon ∧
      telecommandOf [] s = .ok (some { tc with dataHex := "010140a00000" }) ∧
      telecommandOf [] canon = .ok (some { tc with dataHex := "0101" }) := by
  constructor
  · refine ⟨{ service := some (.int 8), subtype := some (.int 1), funcId := some (.int 36),
              args := some (Dict.empty.set "setpoint" (.number (-10))) }, _,
            { service := 8, subtype := 1, dataHex := "" }, rfl, ⟨rfl, rfl, [], rfl⟩, ?_, ?_⟩
    · decide +kernel
    · decide +kernel
  · refine ⟨{ service := some (.int 20), subtype := some (.int 1), paramId := some (.int 0x0101),
              value := some (.int 5) }, _,
            { service := 20, subtype := 1, dataHex := "" }, rfl, ⟨rfl, rfl, [], rfl⟩, ?_, ?_⟩
    · decide +kernel
    · decide +kernel

end Procedures
