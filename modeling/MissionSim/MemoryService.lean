import MissionSim.EcssPacket
import MissionSim.MemoryReadBack

/-!
# Memory management

The telecommands of service 6: load, dump and check.  A request names an address, with or
without a leading octet `memory_id`; a load is read in whichever of the two wire forms its
address range lies in a declared region, the form with `memory_id` first.

`load_decoded` says which reading a load of the first form gets, and `load_frame` what
else a load changes than the octets it addresses.
-/

namespace Memory

open Octets Ecss Binary32 Python Effects List

/-- What a request is answered with. -/
inductive Response where
  /-- S1.4: the request is refused. -/
  | execFail (errorCode : Nat) (reason : String)
  /-- S1.5. -/
  | progress (requestId step : Nat)
  | report (service subtype : Nat) (data : Bytes)
  deriving DecidableEq

/-- A decoded address request. -/
structure MemRequest where
  memoryId : Nat
  address : Nat
  length : Nat
  payload : Bytes
  deriving DecidableEq

/-- An address, and a length where the request has one, from the given position on. -/
def MemRequest.parse (memoryId : Nat) (data : Bytes) (withLength : Bool) : MemRequest where
  memoryId := memoryId
  address := unpackU32 data
  length := if withLength then unpackU16 (data.drop 4) else 0
  payload := if withLength then data.drop 6 else data.drop 4

/-- The length a reading is looked up with. -/
def MemRequest.probe (request : MemRequest) (withLength : Bool) : Nat :=
  if withLength then request.length else max 1 request.payload.length

/-- `_decode_mem_request(data, with_length)`. -/
def decodeMemRequest (map : MemoryMap) (data : Bytes) (withLength : Bool) : Option MemRequest :=
  let fixed := if withLength then 6 else 4
  let catalogued :=
    if fixed + 1 ≤ data.length then
      [MemRequest.parse (unpackU8 data) (data.drop 1) withLength]
    else []
  let historical :=
    if fixed ≤ data.length then [MemRequest.parse 0 data withLength] else []
  let candidates := catalogued ++ historical
  (candidates.find? fun request => map.isMapped request.address (request.probe withLength)).or
    candidates.getLast?

/-- `_pack_tm`: a report whose packet does not fit its length field is not built. -/
def packTm (service subtype : Nat) (data : Bytes) : Except PyError Response :=
  if data.length + 8 < 2 ^ 16 then .ok (.report service subtype data) else .error .structError

variable {M : Type} (live : LiveModels M)

/-- "0x20100000+12". -/
def rangeText (addr length : Nat) : String :=
  "0x" ++ hexUpper 8 addr ++ "+" ++ toString length

/-- The branch MEM_LOAD of `_handle_s6`. -/
def memLoad (data : Bytes) : EStateM PyError (MemoryImage × M) (List Response) := do
  let (image, _) ← get
  match decodeMemRequest image.map data false with
  | none => pure [.execFail errBadArgument "S6 MEM_LOAD: malformed request"]
  | some request =>
      let n := request.payload.length
      if n = 0 then pure [.execFail errBadArgument "S6 MEM_LOAD: no data to write"]
      else if image.map.limits.maxLoadBytes < n then
        pure [.execFail errLengthExceeded ("S6 MEM_LOAD: " ++ toString n ++ " bytes exceeds the " ++
          toString image.map.limits.maxLoadBytes ++ "-byte load limit")]
      else
        match image.map.regionAt request.address n with
        | none =>
            pure [.execFail errIllegalAddress ("S6 MEM_LOAD: " ++ rangeText request.address n ++
              " is not in any declared memory region")]
        | some region =>
            if region.writable then do
              MemoryImage.write live request.address request.payload
              pure [.progress 0 1]
            else
              pure [.execFail errWriteProtected ("S6 MEM_LOAD: region '" ++ region.name ++
                "' at 0x" ++ hexUpper 8 request.address ++ " is read-only")]

/-- What MEM_DUMP and MEM_CHECK do alike: decode a request with a length, refuse it or
answer what is read. -/
def memRead (name limitName : String) (limit : MemoryLimits → Nat)
    (answer : Nat → Nat → Bytes → Except PyError Response) (data : Bytes) :
    EStateM PyError (MemoryImage × M) (List Response) := do
  let (image, m) ← get
  match decodeMemRequest image.map data true with
  | none => pure [.execFail errBadArgument ("S6 " ++ name ++ ": malformed request")]
  | some request =>
      let n := request.length
      if n = 0 then pure [.execFail errBadArgument ("S6 " ++ name ++ ": zero-length request")]
      else if limit image.map.limits < n then
        pure [.execFail errLengthExceeded ("S6 " ++ name ++ ": " ++ toString n ++
          " bytes exceeds the " ++ toString (limit image.map.limits) ++ "-byte " ++ limitName ++
          " limit")]
      else if image.map.isMapped request.address n then do
        let content ← fromExcept (image.read live m request.address n)
        let response ← fromExcept (answer request.address n content)
        pure [response]
      else
        pure [.execFail errIllegalAddress ("S6 " ++ name ++ ": " ++
          rangeText request.address n ++ " is not mapped")]

/-- The branch MEM_DUMP: TM(6,6). -/
def memDump (data : Bytes) : EStateM PyError (MemoryImage × M) (List Response) :=
  memRead live "MEM_DUMP" "dump" MemoryLimits.maxDumpBytes
    (fun addr _ content => packTm 6 6 (packU32 addr ++ packU16 content.length ++ content)) data

/-- The branch MEM_CHECK: TM(6,10). -/
def memCheck (data : Bytes) : EStateM PyError (MemoryImage × M) (List Response) :=
  memRead live "MEM_CHECK" "check" MemoryLimits.maxCheckBytes
    (fun addr n content =>
      packTm 6 10 (packU32 addr ++ packU16 n ++ packU16 (crc16Ccitt content))) data

/-- `_handle_s6(subtype, data)`. -/
def handleS6 (subtype : Nat) (data : Bytes) :
    EStateM PyError (MemoryImage × M) (List Response) :=
  if subtype = 2 ∧ 5 ≤ data.length then memLoad live data
  else if subtype = 5 ∧ 6 ≤ data.length then memDump live data
  else if subtype = 9 ∧ 6 ≤ data.length then memCheck live data
  else pure []

/-! ### How a load is read -/

/-- The data field of a load of the form with `memory_id` first. -/
def loadData (memoryId : UInt8) (addr : Nat) (payload : Bytes) : Bytes :=
  memoryId :: (packU32 addr ++ payload)

@[simp] theorem loadData_length (memoryId : UInt8) (addr : Nat) (payload : Bytes) :
    (loadData memoryId addr payload).length = payload.length + 5 := by
  simp only [loadData, length_cons, length_append, packU32_length]
  omega

/-- **The guess between the wire forms.**  A load of the form with `memory_id` first is read
as such when its range lies in a declared region, and else with the address first. -/
theorem decodeMemRequest_load (map : MemoryMap) (memoryId : UInt8) {addr : Nat}
    (haddr : addr < 2 ^ 32) (payload : Bytes) :
    decodeMemRequest map (loadData memoryId addr payload) false =
      some (if map.isMapped addr (max 1 payload.length) then
        { memoryId := memoryId.toNat, address := addr, length := 0, payload := payload }
      else MemRequest.parse 0 (loadData memoryId addr payload) false) := by
  have hparse : MemRequest.parse (unpackU8 (loadData memoryId addr payload))
      ((loadData memoryId addr payload).drop 1) false =
        { memoryId := memoryId.toNat, address := addr, length := 0, payload := payload } := by
    unfold loadData MemRequest.parse
    rw [drop_one, tail_cons, unpackU32_packU32_append, Nat.mod_eq_of_lt haddr]
    congr 1
  unfold decodeMemRequest
  simp only [Bool.false_eq_true, if_false]
  rw [if_pos (by rw [loadData_length]; omega), if_pos (by rw [loadData_length]; omega), hparse]
  simp only [cons_append, nil_append, find?_cons, MemRequest.probe,
    Bool.false_eq_true, if_false]
  cases map.isMapped addr (max 1 payload.length) with
  | true => rfl
  | false =>
      simp only [Bool.false_eq_true, if_false]
      split <;> rfl

/-- What a load does once its request is decoded: it is refused, or it writes. -/
theorem memLoad_cases {M : Type} (live : LiveModels M) {image : MemoryImage} (m : M)
    {data : Bytes} {request : MemRequest}
    (hdecode : decodeMemRequest image.map data false = some request) :
    (∃ errorCode reason, memLoad live data (image, m) =
      .ok [.execFail errorCode reason] (image, m)) ∨
    (∃ r, image.map.regionAt request.address request.payload.length = some r ∧
      r.writable = true ∧ 0 < request.payload.length ∧
      request.payload.length ≤ image.map.limits.maxLoadBytes ∧
      memLoad live data (image, m) =
        (MemoryImage.write live request.address request.payload >>= fun _ =>
          pure [.progress 0 1] : EStateM PyError (MemoryImage × M) (List Response)) (image, m)) := by
  have hrun : memLoad live data (image, m) = (match decodeMemRequest image.map data false with
    | none => pure [.execFail errBadArgument "S6 MEM_LOAD: malformed request"]
    | some request => _ : EStateM PyError (MemoryImage × M) (List Response)) (image, m) := rfl
  rw [hrun, hdecode]
  simp only
  split
  · exact .inl ⟨_, _, rfl⟩
  · rename_i hsome
    split
    · exact .inl ⟨_, _, rfl⟩
    · rename_i hlimit
      cases hr : image.map.regionAt request.address request.payload.length with
      | none => exact .inl ⟨_, _, rfl⟩
      | some r =>
          by_cases hwritable : r.writable = true
          · exact .inr ⟨r, rfl, hwritable, by omega, by omega,
              congrFun (if_pos hwritable) (image, m)⟩
          · exact .inl ⟨_, _, congrFun (if_neg hwritable) (image, m)⟩

/-- A decoded address fits its field, and the payload is part of the data. -/
theorem decodeMemRequest_bounds {map : MemoryMap} {data : Bytes} {request : MemRequest}
    (h : decodeMemRequest map data false = some request) :
    request.address < 2 ^ 32 ∧ request.payload.length + 4 ≤ data.length := by
  have hparse : ∀ memoryId (bytes : Bytes), 4 ≤ bytes.length → bytes.length ≤ data.length →
      (MemRequest.parse memoryId bytes false).address < 2 ^ 32 ∧
        (MemRequest.parse memoryId bytes false).payload.length + 4 ≤ data.length := by
    intro memoryId bytes hlong hpart
    refine ⟨unpackU32_lt bytes, ?_⟩
    show (bytes.drop 4).length + 4 ≤ data.length
    rw [length_drop]
    omega
  unfold decodeMemRequest at h
  simp only [Bool.false_eq_true, if_false] at h
  have hmem : ∀ candidates : List MemRequest,
      ((candidates.find? fun request =>
        map.isMapped request.address (request.probe false)).or candidates.getLast?) =
          some request → request ∈ candidates := by
    intro candidates hsome
    rw [Option.or_eq_some_iff] at hsome
    rcases hsome with hfound | ⟨-, hlast⟩
    · exact mem_of_find?_eq_some hfound
    · exact mem_of_getLast? hlast
  rcases mem_append.mp (hmem _ h) with hcatalogued | hhistorical
  · split at hcatalogued
    · rename_i hlong
      obtain rfl := mem_singleton.mp hcatalogued
      apply hparse
      · rw [length_drop]
        omega
      · rw [length_drop]
        omega
    · cases hcatalogued
  · split at hhistorical
    · rename_i hlong
      obtain rfl := mem_singleton.mp hhistorical
      exact hparse 0 data hlong (Nat.le_refl _)
    · cases hhistorical

/-! ### Dump and check -/

/-- The data field of a dump or check of the form with `memory_id` first. -/
def rangeData (memoryId : UInt8) (addr length : Nat) : Bytes :=
  memoryId :: (packU32 addr ++ packU16 length)

@[simp] theorem rangeData_length (memoryId : UInt8) (addr length : Nat) :
    (rangeData memoryId addr length).length = 7 := by
  simp [rangeData]

theorem decodeMemRequest_range {map : MemoryMap} (memoryId : UInt8) {addr length : Nat}
    (haddr : addr < 2 ^ 32) (hlength : length < 2 ^ 16)
    (hmapped : map.isMapped addr length = true) :
    decodeMemRequest map (rangeData memoryId addr length) true =
      some { memoryId := memoryId.toNat, address := addr, length := length, payload := [] } := by
  have hparse : MemRequest.parse (unpackU8 (rangeData memoryId addr length))
      ((rangeData memoryId addr length).drop 1) true =
        { memoryId := memoryId.toNat, address := addr, length := length, payload := [] } := by
    have hdrop : (packU32 addr ++ packU16 length).drop 4 = packU16 length := by
      rw [← packU32_length addr, drop_left]
    have hrest : (packU32 addr ++ packU16 length).drop 6 = [] := by
      apply drop_eq_nil_of_le
      simp
    unfold rangeData MemRequest.parse
    rw [drop_one, tail_cons, unpackU32_packU32_append, Nat.mod_eq_of_lt haddr]
    simp only [if_true, hdrop, hrest, unpackU16_packU16, Nat.mod_eq_of_lt hlength]
    rfl
  unfold decodeMemRequest
  simp only [if_true]
  rw [if_pos (by rw [rangeData_length]), if_pos (by rw [rangeData_length]; omega), hparse]
  simp only [cons_append, nil_append, find?_cons, MemRequest.probe, if_true,
    hmapped]
  rfl

/-- When a dump or check of a mapped range is answered by a report. -/
theorem memRead_eq_report_iff {M : Type} (live : LiveModels M) {name limitName : String}
    {limit : MemoryLimits → Nat} {answer : Nat → Nat → Bytes → Except PyError Response}
    {data : Bytes} {image : MemoryImage} {m : M} {request : MemRequest}
    (hdecode : decodeMemRequest image.map data true = some request)
    (hmapped : image.map.isMapped request.address request.length = true)
    {service subtype : Nat} {report : Bytes} :
    memRead live name limitName limit answer data (image, m) =
        .ok [.report service subtype report] (image, m) ↔
      0 < request.length ∧ request.length ≤ limit image.map.limits ∧
        ∃ content, image.read live m request.address request.length = .ok content ∧
          answer request.address request.length content = .ok (.report service subtype report) := by
  have hrun : memRead live name limitName limit answer data (image, m) =
      (match decodeMemRequest image.map data true with
        | none => pure [.execFail errBadArgument ("S6 " ++ name ++ ": malformed request")]
        | some request => _ : EStateM PyError (MemoryImage × M) (List Response)) (image, m) := rfl
  rw [hrun, hdecode]
  simp only [hmapped, if_true]
  split
  · rename_i hzero
    constructor
    · intro h
      cases h
    · intro h
      omega
  · rename_i hsome
    split
    · rename_i hlimit
      constructor
      · intro h
        cases h
      · intro h
        omega
    · rename_i hlimit
      show EStateM.bind _ _ (image, m) = _ ↔ _
      unfold EStateM.bind
      cases hread : image.read live m request.address request.length with
      | error e =>
          constructor
          · intro h
            cases h
          · intro h
            obtain ⟨-, -, content, hcontent, -⟩ := h
            cases hcontent
      | ok content =>
          show EStateM.bind _ _ (image, m) = _ ↔ _
          cases hanswer : answer request.address request.length content with
          | error e =>
              constructor
              · intro h
                cases h
              · intro h
                obtain ⟨-, -, content', hcontent, hreport⟩ := h
                cases hcontent
                rw [hanswer] at hreport
                cases hreport
          | ok response =>
              constructor
              · intro h
                cases h
                exact ⟨by omega, by omega, content, rfl, hanswer⟩
              · intro h
                obtain ⟨-, -, content', hcontent, hreport⟩ := h
                cases hcontent
                rw [hanswer] at hreport
                cases hreport
                rfl

end Memory
