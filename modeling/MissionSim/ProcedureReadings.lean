import MissionSim.ProcedureSteps
import MissionSim.Services

/-!
# What a step means on board

A step that names its argument (a function with parameters, a structure, a store, an address
with data, a parameter with a value) states it in its keys.  The handler of its service reads the
data field by itself: `reading` is what it takes from there, and by `handle_of_reading` it acts
on nothing else.  For service 6 the reading is `_decode_mem_request` itself.
-/

namespace Procedures

open Octets Binary32 Python Effects Commanding Memory Spacecraft TmBuilder List

/-- What a request is about, and with which value. -/
inductive Named where
  | function (id : Int) (params : List Int)
  | housekeeping (sid : Int)
  | store (id : Int)
  | memory (address : Int) (data : Bytes)
  | parameter (id : Int) (value : Option FloatValue)

/-! ### On board -/

/-- What a request of service 6 is about; the value of a request to read is its length. -/
def readMemory (map : MemoryMap) (subtype : Nat) (data : Bytes) : Option Named :=
  if subtype = 2 ∧ 5 ≤ data.length then
    (decodeMemRequest map data false).map fun r => .memory r.address r.payload
  else if (subtype = 5 ∨ subtype = 9) ∧ 6 ≤ data.length then
    (decodeMemRequest map data true).map fun r => .memory r.address (packU16 r.length)
  else none

/-- What a request of service 3 about a structure is about. -/
def readStructure (subtype : Nat) (data : Bytes) : Option Named :=
  if subtype ∈ [2, 3, 4, 5, 6, 27] ∧ 2 ≤ data.length then some (.housekeeping (unpackU16 data))
  else none

/-- What a request of service 8 is about. -/
def readFunction (subtype : Nat) : Bytes → Option Named
  | funcId :: args =>
      if subtype = 1 then some (.function funcId.toNat (args.map fun a => a.toNat)) else none
  | [] => none

/-- What a request of service 15 about a store is about. -/
def readStore (subtype : Nat) (data : Bytes) : Option Named :=
  if subtype ∈ [1, 2, 9, 11] ∧ 1 ≤ data.length then some (.store (unpackU8 data)) else none

/-- What a request of service 20 is about. -/
def readParameter (subtype : Nat) (data : Bytes) : Option Named :=
  if subtype = 1 ∧ 6 ≤ data.length then
    some (.parameter (unpackU16 data) (some (floatAt 2 data)))
  else if subtype = 3 ∧ 2 ≤ data.length then some (.parameter (unpackU16 data) none)
  else none

/-- What the handler of a service takes from a data field. -/
def reading (map : MemoryMap) (service subtype : Nat) (data : Bytes) : Option Named :=
  match service with
  | 3 => readStructure subtype data
  | 6 => readMemory map subtype data
  | 8 => readFunction subtype data
  | 15 => readStore subtype data
  | 20 => readParameter subtype data
  | _ => none

section Handlers

variable {M : Type} (sub : Subsystems M)

/-- What service 3 does for a structure. -/
def housekeepingRequest (subtype sid : Nat) : Program M (List TmPacket) :=
  if subtype = 2 then do
    updateDispatcher fun d => { d with s3CustomSids := d.s3CustomSids.erase sid }
    setHkEnabled sid false
    pure []
  else if subtype = 27 then do
    let e ← get
    let pkt ← building (buildHkPacket sid e.params (e.hkStructures.get? sid)
      (sub.obcTimeCuc e.models))
    pure pkt.toList
  else if subtype = 3 ∨ subtype = 5 then do
    setHkEnabled sid true
    pure []
  else do
    let e ← get
    if isBootloaderBeaconSid sub e.models sid then
      generateS1ExecFail 0x0005 ("HK SID " ++ toString sid ++ " (beacon) is " ++
        "mandatory while the OBC is in the bootloader - disabling it would silence the spacecraft")
    else do
      setHkEnabled sid false
      pure []

/-- What service 8 does for a function. -/
def functionRequest (emit : Obcp.Event → Program M Unit) (funcId : Nat) (args : Bytes) :
    Program M (List TmPacket) :=
  match route funcId with
  | none => pure []
  | some r => do
      let e ← get
      if r.model.all (sub.present e.models) then
        perform sub emit (functionAction (sub.defaultRate e.models) funcId args r)
      else pure []

/-- What service 15 does for a store. -/
def storeRequest (subtype storeId : Nat) : Program M (List TmPacket) :=
  if subtype = 1 then do
    updateStorage fun t => TmStorage.enableStore t storeId
    pure []
  else if subtype = 2 then do
    updateStorage fun t => TmStorage.disableStore t storeId
    pure []
  else if subtype = 9 then do
    let count ← queueDump storeId
    if 0 < count then generateS1Progress 0 count else pure []
  else do
    updateStorage fun t => TmStorage.deleteStore t storeId
    pure []

/-- What service 20 does for a parameter, and a value to set. -/
def parameterRequest (paramId : Nat) (value : Option FloatValue) : Program M (List TmPacket) :=
  match value with
  | some x => do
      modify fun e => { e with
        params := e.params.set paramId (.float x)
        overridePasses := if paramId = overrideParam then truthy x else e.overridePasses }
      pure []
  | none => do
      let e ← get
      let value ← fromExcept ((e.params.get? paramId).getD zero).toFloat
      (fun pkt => [pkt]) <$> building (buildParamValueReport paramId value (sub.obcTimeCuc e.models))

/-- What a service does for what a request is about. -/
def act (depth subtype : Nat) : Named → Program M (List TmPacket)
  | .housekeeping sid => housekeepingRequest sub subtype sid.toNat
  | .function id params =>
      functionRequest sub (emitEvent sub depth) id.toNat (params.map octet)
  | .store id => storeRequest subtype id.toNat
  | .parameter id value => parameterRequest sub id.toNat value
  | .memory _ _ => pure []

theorem octet_toNat (a : UInt8) : octet a.toNat = a := by
  have ha := a.toNat_lt
  unfold octet
  rw [Int.emod_eq_of_lt (by omega) (by omega)]
  exact UInt8.ofNat_toNat

theorem handleS3_eq {subtype : Nat} {data : Bytes} (h : subtype ∈ [2, 3, 4, 5, 6, 27])
    (hlength : 2 ≤ data.length) :
    handleS3 sub subtype data = housekeepingRequest sub subtype (unpackU16 data) := by
  unfold handleS3 housekeepingRequest
  simp only [mem_cons, not_mem_nil, or_false] at h
  rcases h with rfl | rfl | rfl | rfl | rfl | rfl <;>
    simp only [hlength, Nat.reduceEqDiff, and_true, false_and, or_true, or_self, or_false,
      if_true, if_false]

theorem handleS15_eq {subtype : Nat} {data : Bytes} (h : subtype ∈ [1, 2, 9, 11])
    (hlength : 1 ≤ data.length) :
    (handleS15 subtype data : Program M (List TmPacket)) = storeRequest subtype (unpackU8 data) := by
  unfold handleS15 storeRequest
  simp only [mem_cons, not_mem_nil, or_false] at h
  rcases h with rfl | rfl | rfl | rfl <;>
    simp only [hlength, Nat.reduceEqDiff, OfNat.ofNat_ne_one, and_true, if_true, if_false]

theorem handleS20_set {data : Bytes} (hlength : 6 ≤ data.length) :
    handleS20 sub 1 data = parameterRequest sub (unpackU16 data) (some (floatAt 2 data)) := by
  unfold handleS20 parameterRequest
  rw [if_pos ⟨rfl, hlength⟩]

theorem handleS20_report {data : Bytes} (hlength : 2 ≤ data.length) :
    handleS20 sub 3 data = parameterRequest sub (unpackU16 data) none := by
  unfold handleS20 parameterRequest
  rw [if_neg (by simp), if_pos ⟨rfl, hlength⟩]

theorem handleS8_eq (emit : Obcp.Event → Program M Unit) (funcId : UInt8) (args : Bytes) :
    handleS8 sub emit 1 (funcId :: args) =
      functionRequest sub emit funcId.toNat ((args.map fun a => (a.toNat : Int)).map octet) := by
  have hargs : (args.map fun a => (a.toNat : Int)).map octet = args := by
    rw [map_map]
    exact (map_congr_left fun a _ => octet_toNat a).trans (map_id args)
  rw [hargs]
  rfl

/-- **A handler acts on what it reads.** -/
theorem handle_of_reading {map : MemoryMap} {depth service subtype : Nat} {data : Bytes}
    {named : Named} (hservice : service ≠ 6) (h : reading map service subtype data = some named) :
    handle sub depth service subtype data = act sub depth subtype named := by
  unfold reading at h
  split at h
  · unfold readStructure at h
    split_ifs at h with hif
    cases h
    exact handleS3_eq sub hif.1 hif.2
  · exact absurd rfl hservice
  · unfold readFunction at h
    split at h
    · split_ifs at h with hif
      cases h
      rw [hif]
      exact handleS8_eq sub _ _ _
    · cases h
  · unfold readStore at h
    split_ifs at h with hif
    cases h
    exact handleS15_eq hif.1 hif.2
  · unfold readParameter at h
    split_ifs at h with hset hreport
    · cases h
      rw [hset.1]
      exact handleS20_set sub hset.2
    · cases h
      rw [hreport.1]
      exact handleS20_report sub hreport.2
  · cases h

end Handlers

/-! ### On the ground -/

/-- What the keys of a step state. -/
def stated (s : Step) : Except PyError (Option Named) :=
  match s.funcId, s.sid, s.storeId, s.address, s.paramId with
  | some fid, _, _, _, _ => do
      let id ← funcIdOf fid
      let params ← (s.params.getD []).mapM Scalar.toInt
      pure (some (.function id params))
  | none, some sid, _, _, _ => do pure (some (.housekeeping (← sid.toInt)))
  | none, none, some storeId, _, _ => do pure (some (.store (← storeId.toInt)))
  | none, none, none, some address, _ => do
      let n ← address.toInt
      let data ← packOptional Scalar.octets s.data
      pure (some (.memory n data))
  | none, none, none, none, some paramId => do
      let id ← paramId.toInt
      let value ← s.value.mapM Scalar.toFloat
      pure (some (.parameter id value))
  | none, none, none, none, none => pure none

/-- A number of single precision. -/
def Single (x : FloatValue) : Prop :=
  ∃ bs : Bytes, bs.length = 4 ∧ ¬ SignallingNaN (unpackU32 bs) ∧
    (EngValue.float x).Same (.float (unpackFloat bs))

/-- The identifier and the value are in the ranges of their fields, and the service and the
subtype are of a request about such an argument. -/
def Named.InRange (service subtype : Nat) : Named → Prop
  | .function id params => service = 8 ∧ subtype = 1 ∧ (0 ≤ id ∧ id < 2 ^ 8) ∧
      ∀ p ∈ params, 0 ≤ p ∧ p < 2 ^ 8
  | .housekeeping sid => service = 3 ∧ subtype ∈ [2, 3, 4, 5, 6, 27] ∧ 0 ≤ sid ∧ sid < 2 ^ 16
  | .store id => service = 15 ∧ subtype ∈ [1, 2, 9, 11] ∧ 0 ≤ id ∧ id < 2 ^ 16
  | .memory address data => service = 6 ∧ (0 ≤ address ∧ address < 2 ^ 32) ∧
      (subtype = 2 ∧ data ≠ [] ∨ (subtype = 5 ∨ subtype = 9) ∧ data.length = 2)
  | .parameter id value => service = 20 ∧ (0 ≤ id ∧ id < 2 ^ 16) ∧
      match value with
      | some x => subtype = 1 ∧ Single x
      | none => subtype = 3

/-- Two requests are about the same, with the same value. -/
def Named.Agree : Named → Named → Prop
  | .parameter id (some x), .parameter id' (some y) =>
      id = id' ∧ (EngValue.float x).Same (.float y)
  | a, b => a = b

/-- The readings that go wrong: of any store but the first, and of a load that is a load to a
declared region also when its first octet is taken for a `memory_id`. -/
def Named.Plain (map : MemoryMap) (subtype : Nat) : Named → Prop
  | .store id => id = 0
  | .memory address data => subtype = 2 →
      map.isMapped (unpackU32 ((packU32 address.toNat ++ data).drop 1)) (max 1 (data.length - 1)) =
        false
  | _ => True

theorem toNat_octet {n : Int} (h : 0 ≤ n ∧ n < 2 ^ 8) : ((octet n).toNat : Int) = n := by
  unfold octet
  rw [Octets.toNat_ofNat]
  omega

theorem toNat_octets {params : List Int} (h : ∀ p ∈ params, 0 ≤ p ∧ p < 2 ^ 8) :
    ((params.map octet).map fun a => (a.toNat : Int)) = params := by
  rw [map_map]
  exact (map_congr_left fun p hp => toNat_octet (h p hp)).trans (map_id params)

/-- The octet in front of a sixteen-bit field is its upper one. -/
theorem unpackU8_packU16 {n : Nat} (h : n < 2 ^ 16) : unpackU8 (packU16 n) = n / 2 ^ 8 := by
  show unpackU8 (packU8 (n / 2 ^ 8) ++ packU8 n) = _
  rw [unpackU8_packU8_append]
  omega

variable {map : MemoryMap}

/-- A load is read with its address first unless the other reading lies in a declared
region. -/
theorem decodeMemRequest_historical {address : Nat} {data : Bytes} (haddress : address < 2 ^ 32)
    (hdata : data ≠ []) :
    decodeMemRequest map (packU32 address ++ data) false =
      some (if map.isMapped (unpackU32 ((packU32 address ++ data).drop 1)) (max 1 (data.length - 1))
        then MemRequest.parse (unpackU8 (packU32 address ++ data))
          ((packU32 address ++ data).drop 1) false
        else { memoryId := 0, address := address, length := 0, payload := data }) := by
  have hpos := length_pos_iff.mpr hdata
  have hlength : (packU32 address ++ data).length = data.length + 4 := by
    rw [length_append, packU32_length]
    omega
  have hparse : MemRequest.parse 0 (packU32 address ++ data) false =
      { memoryId := 0, address := address, length := 0, payload := data } := by
    unfold MemRequest.parse
    rw [unpackU32_packU32_append, Nat.mod_eq_of_lt haddress]
    rfl
  have hprobe : (MemRequest.parse (unpackU8 (packU32 address ++ data))
      ((packU32 address ++ data).drop 1) false).probe false = max 1 (data.length - 1) := by
    show max 1 ((((packU32 address ++ data).drop 1).drop 4).length) = _
    rw [drop_drop, length_drop, hlength]
    omega
  have haddr : (MemRequest.parse (unpackU8 (packU32 address ++ data))
      ((packU32 address ++ data).drop 1) false).address =
        unpackU32 ((packU32 address ++ data).drop 1) := rfl
  unfold decodeMemRequest
  simp only [Bool.false_eq_true, if_false]
  rw [if_pos (by omega), if_pos (by omega), hparse]
  simp only [cons_append, nil_append, find?_cons, haddr, hprobe]
  cases map.isMapped (unpackU32 ((packU32 address ++ data).drop 1)) (max 1 (data.length - 1)) with
  | true => rfl
  | false =>
      simp only [Bool.false_eq_true, if_false]
      split <;> rfl

/-- A request to read is six octets and has one reading. -/
theorem decodeMemRequest_range {address : Nat} {data : Bytes} (haddress : address < 2 ^ 32)
    (hdata : data.length = 2) :
    decodeMemRequest map (packU32 address ++ data) true =
      some { memoryId := 0, address := address, length := unpackU16 data, payload := [] } := by
  have hlength : (packU32 address ++ data).length = 6 := by
    rw [length_append, packU32_length, hdata]
  have hnil : (packU32 address ++ data).drop 6 = [] := drop_of_length_le (by omega)
  have hparse : MemRequest.parse 0 (packU32 address ++ data) true =
      { memoryId := 0, address := address, length := unpackU16 data, payload := [] } := by
    unfold MemRequest.parse
    rw [unpackU32_packU32_append, Nat.mod_eq_of_lt haddress, if_pos rfl, if_pos rfl, hnil]
    rfl
  unfold decodeMemRequest
  simp only [if_true]
  rw [if_neg (by omega), if_pos (by omega), hparse]
  simp only [nil_append, find?_cons]
  split <;> rfl

/-- A number of single precision is read as it was given. -/
theorem packFloat_single {x : FloatValue} (h : Single x) :
    ∃ bs, packFloat x = .ok bs ∧ bs.length = 4 ∧
      (EngValue.float x).Same (.float (unpackFloat bs)) := by
  obtain ⟨bs, hlength, hquiet, heq | ⟨q, hx, hread⟩⟩ := h
  · obtain rfl := EngValue.float.inj heq
    exact ⟨bs, packFloat_read hlength hquiet, hlength, .inl rfl⟩
  · cases x with
    | finite s m e =>
        cases hy : unpackFloat bs with
        | finite s' m' e' =>
            rw [hy] at hread
            have hvalue : dyadic s m e = dyadic s' m' e' :=
              (Option.some.inj hx).trans (Option.some.inj hread).symm
            obtain ⟨bs', hpack, hlength', s₂, m₂, e₂, hread', hsame⟩ :=
              packFloat_exact hlength hy hvalue
            refine ⟨bs', hpack, hlength', .inr ⟨q, hx, ?_⟩⟩
            rw [hread', ← Option.some.inj hread, ← hsame]
            rfl
        | infinite | nan =>
            rw [hy] at hread
            cases hread
    | infinite | nan => cases hx

/-- The data field the runner packs for what a step states. -/
def fieldOf : Named → Except PyError Bytes
  | .function id params => .ok (octet id :: params.map octet)
  | .housekeeping n | .store n => packUnsigned 2 n
  | .memory address data => (· ++ data) <$> packUnsigned 4 address
  | .parameter id none => packUnsigned 2 id
  | .parameter id (some x) => do
      let octets ← packUnsigned 2 id
      let more ← packFloat x
      pure (octets ++ more)

theorem fieldOf_memory (address : Int) (data : Bytes) :
    fieldOf (.memory address data) = (· ++ data) <$> packUnsigned 4 address := rfl

theorem fieldOf_setParameter (id : Int) (x : FloatValue) :
    fieldOf (.parameter id (some x)) = packUnsigned 2 id >>= fun octets =>
      packFloat x >>= fun more => pure (octets ++ more) := rfl

/-- A parameter and its value, where the step has one. -/
theorem packParameter_eq (n : Int) {key : Option Scalar} {value : Option FloatValue}
    (h : key.mapM Scalar.toFloat = .ok value) :
    (packUnsigned 2 n >>= fun octets =>
      packOptional (fun value => value.toFloat >>= packFloat) key >>= fun more =>
        pure (octets ++ more)) = fieldOf (.parameter n value) := by
  cases key with
  | none =>
      obtain rfl : none = value := Except.ok.inj h
      show (packUnsigned 2 n >>= fun octets => pure (octets ++ [])) = packUnsigned 2 n
      cases packUnsigned 2 n with
      | error e => rfl
      | ok octets => exact congrArg Except.ok (append_nil octets)
  | some v =>
      change some <$> v.toFloat = _ at h
      cases hv : v.toFloat with
      | error e =>
          rw [hv] at h
          cases h
      | ok x =>
          rw [hv] at h
          obtain rfl : some x = value := Except.ok.inj h
          show (packUnsigned 2 n >>= fun octets => (v.toFloat >>= packFloat) >>= fun more =>
            pure (octets ++ more)) = packUnsigned 2 n >>= fun octets => packFloat x >>= fun more =>
              pure (octets ++ more)
          rw [hv]
          rfl

/-- What the runner packs is what the step states. -/
theorem packPositional_of_stated {s : Step} {named : Named} (h : stated s = .ok (some named)) :
    packPositional s = fieldOf named := by
  unfold stated at h
  unfold packPositional
  cases hfid : s.funcId with
  | some fid =>
      rw [hfid] at h
      obtain ⟨id, hid, h⟩ := bind_eq_ok.mp h
      obtain ⟨params, hparams, h⟩ := bind_eq_ok.mp h
      obtain rfl : .function id params = named := Option.some.inj (Except.ok.inj h)
      dsimp only
      unfold packFunction
      rw [hid, hparams]
      rfl
  | none =>
      cases hsid : s.sid with
      | some sid =>
          rw [hfid, hsid] at h
          obtain ⟨n, hn, h⟩ := bind_eq_ok.mp h
          obtain rfl : .housekeeping n = named := Option.some.inj (Except.ok.inj h)
          rw [packKeys_sid hsid, hn]
          rfl
      | none =>
          cases hstore : s.storeId with
          | some storeId =>
              rw [hfid, hsid, hstore] at h
              obtain ⟨n, hn, h⟩ := bind_eq_ok.mp h
              obtain rfl : .store n = named := Option.some.inj (Except.ok.inj h)
              rw [packKeys_storeId hsid hstore, hn]
              rfl
          | none =>
              cases haddress : s.address with
              | some address =>
                  rw [hfid, hsid, hstore, haddress] at h
                  obtain ⟨n, hn, h⟩ := bind_eq_ok.mp h
                  obtain ⟨data, hdata, h⟩ := bind_eq_ok.mp h
                  obtain rfl : .memory n data = named := Option.some.inj (Except.ok.inj h)
                  rw [packKeys_address hsid hstore haddress, hn, hdata]
                  cases packUnsigned 4 n <;> rfl
              | none =>
                  cases hparam : s.paramId with
                  | some paramId =>
                      rw [hfid, hsid, hstore, haddress, hparam] at h
                      obtain ⟨n, hn, h⟩ := bind_eq_ok.mp h
                      obtain ⟨value, hvalue, h⟩ := bind_eq_ok.mp h
                      obtain rfl : .parameter n value = named := Option.some.inj (Except.ok.inj h)
                      rw [packKeys_paramId hsid hstore haddress hparam, hn]
                      exact packParameter_eq n hvalue
                  | none =>
                      rw [hfid, hsid, hstore, haddress, hparam] at h
                      cases h

/-- A service reads the argument, the same or another, of a request about it. -/
def ReadAs (map : MemoryMap) (service subtype : Nat) (data : Bytes) (named : Named) : Prop :=
  ∃ named', reading map service subtype data = some named' ∧ named.Agree named'

theorem readAs_store {subtype n : Nat} (h : subtype ∈ [1, 2, 9, 11]) (hn : n < 2 ^ 16) :
    ReadAs map 15 subtype (packU16 n) (.store n) ↔ n = 0 := by
  have hread : reading map 15 subtype (packU16 n) = some (.store (n / 2 ^ 8 : Nat)) := by
    show readStore subtype _ = _
    unfold readStore
    rw [if_pos ⟨h, by simp⟩, unpackU8_packU16 hn]
  unfold ReadAs
  rw [hread]
  constructor
  · rintro ⟨_, ⟨⟩, hagree⟩
    have hid : (n : Int) = (n / 2 ^ 8 : Nat) := Named.store.inj hagree
    omega
  · rintro rfl
    exact ⟨_, rfl, rfl⟩

theorem readAs_housekeeping {map : MemoryMap} {subtype n : Nat}
    (h : subtype ∈ [2, 3, 4, 5, 6, 27]) (hn : n < 2 ^ 16) :
    ReadAs map 3 subtype (packU16 n) (.housekeeping n) := by
  refine ⟨.housekeeping n, ?_, rfl⟩
  show readStructure subtype _ = _
  unfold readStructure
  rw [if_pos ⟨h, by simp⟩, unpackU16_packU16, Nat.mod_eq_of_lt hn]

theorem readAs_function {id : Int} {params : List Int} (hid : 0 ≤ id ∧ id < 2 ^ 8)
    (hparams : ∀ p ∈ params, 0 ≤ p ∧ p < 2 ^ 8) :
    ReadAs map 8 1 (octet id :: params.map octet) (.function id params) := by
  refine ⟨.function id params, ?_, rfl⟩
  show readFunction 1 (octet id :: params.map octet) = _
  rw [readFunction, if_pos rfl, toNat_octet hid, toNat_octets hparams]

theorem readAs_load {map : MemoryMap} {address : Nat} {data : Bytes} (haddress : address < 2 ^ 32)
    (hdata : data ≠ []) :
    ReadAs map 6 2 (packU32 address ++ data) (.memory address data) ↔
      map.isMapped (unpackU32 ((packU32 address ++ data).drop 1)) (max 1 (data.length - 1)) =
        false := by
  have hpos := length_pos_iff.mpr hdata
  have hread : reading map 6 2 (packU32 address ++ data) =
      (decodeMemRequest map (packU32 address ++ data) false).map
        fun r => .memory r.address r.payload := by
    refine if_pos ⟨rfl, ?_⟩
    rw [length_append, packU32_length]
    omega
  unfold ReadAs
  rw [hread, decodeMemRequest_historical haddress hdata]
  cases map.isMapped (unpackU32 ((packU32 address ++ data).drop 1)) (max 1 (data.length - 1)) with
  | true =>
      refine iff_of_false ?_ nofun
      rintro ⟨_, ⟨⟩, hagree⟩
      -- the other reading is one octet shorter
      have hshort := congrArg length (Named.memory.inj hagree).2
      change data.length = (((packU32 address ++ data).drop 1).drop 4).length at hshort
      rw [drop_drop, length_drop, length_append, packU32_length] at hshort
      omega
  | false => exact iff_of_true ⟨_, rfl, rfl⟩ rfl

theorem readAs_range {subtype address : Nat} {data : Bytes} (h : subtype = 5 ∨ subtype = 9)
    (haddress : address < 2 ^ 32) (hdata : data.length = 2) :
    ReadAs map 6 subtype (packU32 address ++ data) (.memory address data) := by
  refine ⟨.memory address data, ?_, rfl⟩
  show readMemory map subtype _ = _
  unfold readMemory
  have hlength : 6 ≤ (packU32 address ++ data).length := by
    rw [length_append, packU32_length]
    omega
  rw [if_neg (by omega), if_pos ⟨h, hlength⟩, decodeMemRequest_range haddress hdata]
  show some (Named.memory address (packU16 (unpackU16 data))) = _
  rw [packU16_unpackU16 hdata]

theorem readAs_parameter {n : Nat} (hn : n < 2 ^ 16) :
    ReadAs map 20 3 (packU16 n) (.parameter n none) := by
  refine ⟨.parameter n none, ?_, rfl⟩
  show readParameter 3 _ = _
  unfold readParameter
  rw [if_neg (by simp), if_pos ⟨rfl, by simp⟩, unpackU16_packU16, Nat.mod_eq_of_lt hn]

theorem readAs_setParameter {n : Nat} {x : FloatValue} {bs : Bytes} (hn : n < 2 ^ 16)
    (hlength : bs.length = 4) (hsame : (EngValue.float x).Same (.float (unpackFloat bs))) :
    ReadAs map 20 1 (packU16 n ++ bs) (.parameter n (some x)) := by
  refine ⟨.parameter n (some (unpackFloat bs)), ?_, rfl, hsame⟩
  have hlong : 6 ≤ (packU16 n ++ bs).length := by
    rw [length_append, packU16_length]
    omega
  show readParameter 1 _ = _
  unfold readParameter
  rw [if_pos ⟨rfl, hlong⟩, unpackU16_packU16_append, Nat.mod_eq_of_lt hn]
  rfl

/-- A number that fits its field, as a natural number. -/
theorem packUnsigned_inRange {n : Int} (h : 0 ≤ n ∧ n < 2 ^ 16) :
    ∃ m : Nat, n = m ∧ m < 2 ^ 16 ∧ packUnsigned 2 n = .ok (packU16 m) := by
  obtain ⟨m, rfl⟩ := Int.eq_ofNat_of_zero_le h.1
  have hm : m < 2 ^ 16 := by omega
  exact ⟨m, rfl, hm, packUnsigned_two hm⟩

/-- The field of every argument in range, and when it is read as that argument. -/
theorem readAs_fieldOf_iff {service subtype : Nat} {named : Named}
    (h : named.InRange service subtype) :
    ∃ data, fieldOf named = .ok data ∧
      (ReadAs map service subtype data named ↔ named.Plain map subtype) := by
  cases named with
  | function id params =>
      obtain ⟨rfl, rfl, hid, hparams⟩ := h
      exact ⟨_, rfl, iff_of_true (readAs_function hid hparams) trivial⟩
  | housekeeping sid =>
      obtain ⟨rfl, hsubtype, hsid⟩ := h
      obtain ⟨n, rfl, hn, hpack⟩ := packUnsigned_inRange hsid
      exact ⟨_, hpack, iff_of_true (readAs_housekeeping hsubtype hn) trivial⟩
  | store id =>
      obtain ⟨rfl, hsubtype, hid⟩ := h
      obtain ⟨n, rfl, hn, hpack⟩ := packUnsigned_inRange hid
      exact ⟨_, hpack, (readAs_store hsubtype hn).trans Int.natCast_eq_zero.symm⟩
  | memory address data =>
      obtain ⟨rfl, haddress, hkind⟩ := h
      obtain ⟨n, rfl⟩ := Int.eq_ofNat_of_zero_le haddress.1
      have hn : n < 2 ^ 32 := by omega
      have hpack : fieldOf (.memory n data) = .ok (packU32 n ++ data) := by
        rw [fieldOf_memory, packUnsigned_four hn]
        rfl
      refine ⟨_, hpack, ?_⟩
      rcases hkind with ⟨rfl, hdata⟩ | ⟨hsubtype, hdata⟩
      · exact (readAs_load hn hdata).trans ⟨fun hfree _ => hfree, fun hfree => hfree rfl⟩
      · exact iff_of_true (readAs_range hsubtype hn hdata) fun htwo => by omega
  | parameter id value =>
      obtain ⟨rfl, hid, hvalue⟩ := h
      obtain ⟨n, rfl, hn, hpack⟩ := packUnsigned_inRange hid
      cases value with
      | none =>
          obtain rfl := hvalue
          exact ⟨_, hpack, iff_of_true (readAs_parameter hn) trivial⟩
      | some x =>
          obtain ⟨rfl, hsingle⟩ := hvalue
          obtain ⟨bs, hfloat, hlength, hsame⟩ := packFloat_single hsingle
          have hfield : fieldOf (.parameter n (some x)) = .ok (packU16 n ++ bs) := by
            rw [fieldOf_setParameter, hpack, hfloat]
            rfl
          exact ⟨_, hfield, iff_of_true (readAs_setParameter hn hlength hsame) trivial⟩

/-- **When a step means on board what it says on the ground.**  The data field of a step whose
argument is in range is read as that argument, except that a store is read as the first one
and a load may be taken for the form with a `memory_id`. -/
theorem step_read_as_stated_iff (catalog : List Command) (map : MemoryMap) {s : Step} {named : Named}
    {service subtype : Nat} (hpacked : s.dataHex.getD "" = "") (hargs : s.args = none)
    (hstated : stated s = .ok (some named)) (hrange : named.InRange service subtype) :
    ∃ data, dataFieldOf catalog s = .ok (hexText data) ∧
      (ReadAs map service subtype data named ↔ named.Plain map subtype) := by
  obtain ⟨data, hfield, hread⟩ := @readAs_fieldOf_iff map service subtype named hrange
  refine ⟨data, ?_, hread⟩
  unfold dataFieldOf buildDataHex encodeNamed
  rw [if_pos hpacked, hargs]
  rw [packPositional_of_stated hstated, hfield]
  rfl

/-- A request for structure 256, which is read as that. -/
theorem step_read_as_stated_structure :
    ∃ data, dataFieldOf [] { sid := some (.int 256) } = .ok (hexText data) ∧
      (ReadAs defaultMap 3 27 data (.housekeeping 256) ↔ True) :=
  @step_read_as_stated_iff [] defaultMap { sid := some (.int 256) } (.housekeeping 256) 3 27 rfl rfl
    rfl ⟨rfl, by decide, by decide, by decide⟩

/-- Store 3 is read as store 0, and two octets for the scratch memory as one for the
application. -/
theorem step_read_as_another :
    (dataFieldOf [] { storeId := some (.int 3) } = .ok "0003" ∧
      octetsOfHex "0003".toList = .ok [0x00, 0x03] ∧
      reading defaultMap 15 9 [0x00, 0x03] = some (.store 0)) ∧
    dataFieldOf [] { address := some (.int 0x20001000), data := some (.text "DEAD") } =
        .ok "20001000dead" ∧
      octetsOfHex "20001000dead".toList = .ok [0x20, 0x00, 0x10, 0x00, 0xDE, 0xAD] ∧
      reading defaultMap 6 2 [0x20, 0x00, 0x10, 0x00, 0xDE, 0xAD] =
        some (.memory 0x001000DE [0xAD]) := by
  refine ⟨⟨?_, ?_, rfl⟩, ?_, ?_, rfl⟩ <;> decide +kernel

end Procedures
