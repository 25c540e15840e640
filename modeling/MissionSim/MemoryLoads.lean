import MissionSim.MemoryFrame

/-!
# Loads that read back

A load that is not refused is reported complete.  `LoadKept` is the condition, on the
models and the store before the load, under which memory then reads as loaded, and
`read_write_iff` the equivalence; `load_read_back_iff` carries it to the telecommands, where
the limits of dump and check come in.
-/

namespace Memory

open Octets Ecss Python Effects List

variable {M : Type} (live : LiveModels M)

/-! ### The condition -/

/-- Every loaded field is assigned and every other one renders. -/
def LoadShown (m : M) (b : RegionBinding) (offset : Nat) (payload : Bytes) : Prop :=
  ∀ f ∈ b.fields, if f.Covered offset payload.length then ¬ b.Refuses live m f
    else ∃ packed, renderField live m b f = .ok (some packed)

/-- What the binding shows is what is loaded: no loaded field takes a signalling NaN, fields
loaded in part show the loaded octets already, and zeros are loaded between the fields. -/
structure ShownKept (m : M) (b : RegionBinding) (offset : Nat) (payload : Bytes) : Prop where
  covered : ∀ f ∈ b.fields, f.Covered offset payload.length →
    ¬ f.TakesSignallingNaN (f.part offset payload)
  partly : ∀ f ∈ b.fields, ¬ f.Covered offset payload.length →
    ∀ packed, renderField live m b f = .ok (some packed) →
      ∀ i < payload.length, f.Holds (offset + i) →
        packed[offset + i - f.offset]? = payload[i]?
  between : ∀ i < payload.length, (∀ f ∈ b.fields, ¬ f.Holds (offset + i)) →
    payload[i]? = some 0

/-- The binding gives up: its model is absent, or a field does not render. -/
def LoadHidden (m : M) (r : MemoryRegion) (b : RegionBinding) (offset : Nat)
    (payload : Bytes) : Prop :=
  live.hasState m b.model = true →
    renderFields (renderLoaded live m b offset payload) b.fields (List.replicate r.size 0) =
      .ok none

/-- A load into the region will read back. -/
def LoadKept (image : MemoryImage) (m : M) (r : MemoryRegion) (addr : Nat) (payload : Bytes) :
    Prop :=
  ∀ b, r.binding = some b →
    (live.hasState m b.model = true ∧ LoadShown live m b (addr - r.start) payload ∧
      ShownKept live m b (addr - r.start) payload) ∨
    (LoadHidden live m r b (addr - r.start) payload ∧
      ∀ i < payload.length, some (image.stored (addr + i)) = payload[i]?)

/-! ### Reading after a write -/

theorem loadShown_iff {m : M} {b : RegionBinding} {offset : Nat} {payload image : Bytes} :
    LoadShown live m b offset payload ↔
      ∃ shown, renderFields (renderLoaded live m b offset payload) b.fields image =
        .ok (some shown) := by
  rw [renderFields_some_iff]
  refine forall₂_congr fun f _ => ?_
  unfold renderLoaded
  by_cases hcovered : f.Covered offset payload.length
  · rw [if_pos hcovered, if_pos hcovered]
    by_cases hrefuses : b.Refuses live m f
    · simp [hrefuses]
    · simp [hrefuses]
  · rw [if_neg hcovered, if_neg hcovered]

/-- **What a shown binding reads as** is the load, exactly when the loaded fields keep it. -/
theorem shownKept_iff {r : MemoryRegion} {b : RegionBinding} (hfits : b.Fits r.size) {m : M}
    {offset : Nat} {payload shown : Bytes} (hrange : offset + payload.length ≤ r.size)
    (hshown : renderFields (renderLoaded live m b offset payload) b.fields
      (replicate r.size 0) = .ok (some shown)) :
    (∀ i < payload.length, shown[offset + i]? = payload[i]?) ↔
      ShownKept live m b offset payload := by
  have hinside : ∀ f ∈ b.fields,
      f.offset + f.size ≤ (replicate r.size (0 : UInt8)).length := by
    intro f hf
    rw [length_replicate]
    exact hfits.inside f hf
  have hlaid := laid_of_renderFields (fun _ _ => renderLoaded_length live) hinside hfits.apart
    hshown
  -- what a covered field shows, and what of the load falls on it
  have hcovered : ∀ f ∈ b.fields, f.Covered offset payload.length →
      ∀ pos, f.Holds pos → shown[pos]? = (f.kept (f.part offset payload))[pos - f.offset]? := by
    intro f hf hcov pos hpos
    obtain ⟨packed, hpacked, -, hoctets⟩ := hlaid.shows f hf
    rw [renderLoaded, if_pos hcov] at hpacked
    split at hpacked
    · cases hpacked
    · obtain rfl := Option.some.inj (Except.ok.inj hpacked)
      exact hoctets pos hpos
  have hpart : ∀ f : BindingField, f.Covered offset payload.length →
      ∀ i, f.Holds (offset + i) →
        (f.part offset payload)[offset + i - f.offset]? = payload[i]? := by
    intro f hcov i hpos
    have hlow := hcov.1
    have hpos1 := hpos.1
    have hpos2 := hpos.2
    unfold BindingField.part slice
    rw [getElem?_drop, getElem?_take_of_lt (by omega)]
    congr 1
    omega
  constructor
  · intro hsame
    refine ⟨?_, ?_, ?_⟩
    · intro f hf hcov
      have hlen := BindingField.part_length hcov
      rw [← BindingField.kept_eq_iff hlen]
      apply ext_getElem?
      intro k
      by_cases hk : k < f.size
      · have hlow := hcov.1
        have hhigh := hcov.2
        have hpos : f.Holds (offset + (f.offset - offset + k)) := ⟨by omega, by omega⟩
        have hshow := hcovered f hf hcov _ hpos
        rw [hsame _ (by omega), ← hpart f hcov _ hpos] at hshow
        have hindex : offset + (f.offset - offset + k) - f.offset = k := by omega
        rw [hindex] at hshow
        exact hshow.symm
      · rw [getElem?_eq_none (by rw [BindingField.kept_length hlen]; omega),
          getElem?_eq_none (by rw [hlen]; omega)]
    · intro f hf hcov packed hpacked i hi hpos
      obtain ⟨packed', hpacked', -, hoctets⟩ := hlaid.shows f hf
      rw [renderLoaded, if_neg hcov, hpacked] at hpacked'
      obtain rfl := Option.some.inj (Except.ok.inj hpacked')
      rw [← hoctets _ hpos]
      exact hsame i hi
    · intro i hi hnone
      rw [← hsame i hi, hlaid.rest _ hnone]
      exact getElem?_replicate_of_lt (by omega)
  · intro hkept i hi
    by_cases hheld : ∃ f ∈ b.fields, f.Holds (offset + i)
    · obtain ⟨f, hf, hpos⟩ := hheld
      by_cases hcov : f.Covered offset payload.length
      · have hlen := BindingField.part_length hcov
        rw [hcovered f hf hcov _ hpos,
          (BindingField.kept_eq_iff hlen).mpr (hkept.covered f hf hcov)]
        exact hpart f hcov i hpos
      · obtain ⟨packed, hpacked, -, hoctets⟩ := hlaid.shows f hf
        rw [renderLoaded, if_neg hcov] at hpacked
        rw [hoctets _ hpos]
        exact hkept.partly f hf hcov packed hpacked i hi hpos
    · have hnone : ∀ f ∈ b.fields, ¬ f.Holds (offset + i) :=
        fun f hf hpos => hheld ⟨f, hf, hpos⟩
      rw [hlaid.rest _ hnone, hkept.between i hi hnone]
      exact getElem?_replicate_of_lt (by omega)

variable {image : MemoryImage}

/-- What a region's octets read as once the image of its binding is known. -/
theorem readOctet_bound {m : M} {r : MemoryRegion} {b : RegionBinding}
    (hbinding : r.binding = some b) {cur : Nat} (hr : image.map.regionAt cur 1 = some r) :
    image.readOctet live m cur =
      match bindingImage live m r b with
      | .error e => .error e
      | .ok (some shown) => .ok (shown.getD (cur - r.start) 0)
      | .ok none => .ok (image.stored cur) := by
  unfold MemoryImage.readOctet
  rcases himage : bindingImage live m r b with e | _ | shown
  · simp only [hr, hbinding, himage]
  · simp only [hr, hbinding, himage]
  · simp only [hr, hbinding, himage]

theorem getElem?_eq_some_iff_getD {xs : Bytes} {i : Nat} (h : i < xs.length) (x : UInt8) :
    xs.getD i 0 = x ↔ xs[i]? = some x := by
  rw [getD_eq_getElem?_getD, getElem?_eq_getElem h]
  simp

/-- A bound region reads as loaded, given the image its binding has after the load. -/
theorem read_bound_iff {image : MemoryImage} {m m' : M} {addr : Nat} {payload : Bytes}
    {r : MemoryRegion} (hr : image.map.regionAt addr payload.length = some r)
    (hpos : 0 < payload.length) {b : RegionBinding} (hbinding : r.binding = some b)
    (hstate : live.hasState m' b.model = live.hasState m b.model)
    (himage : live.hasState m b.model = true → bindingImage live m' r b =
      renderFields (renderLoaded live m b (addr - r.start) payload) b.fields
        (replicate r.size 0)) :
    image.read live m' addr payload.length = .ok payload ↔
      (live.hasState m b.model = true ∧ LoadShown live m b (addr - r.start) payload ∧
        ShownKept live m b (addr - r.start) payload) ∨
      (LoadHidden live m r b (addr - r.start) payload ∧
        ∀ i < payload.length, some (image.stored (addr + i)) = payload[i]?) := by
  have hfits := image.map.fits r (MemoryMap.regionAt_mem hr) b hbinding
  have hrange := MemoryMap.regionAt_range hr
  have hread : image.read live m' addr payload.length = .ok payload ↔
      ∀ i (h : i < payload.length), image.readOctet live m' (addr + i) = .ok payload[i] :=
    mapM_range_eq_ok_iff
  have hoctet : ∀ i < payload.length, image.readOctet live m' (addr + i) =
      match bindingImage live m' r b with
      | .error e => .error e
      | .ok (some shown) => .ok (shown.getD (addr + i - r.start) 0)
      | .ok none => .ok (image.stored (addr + i)) :=
    fun i hi => readOctet_bound live hbinding (MemoryMap.regionAt_octet hr hi)
  have hstored : bindingImage live m' r b = .ok none →
      (image.read live m' addr payload.length = .ok payload ↔
        ∀ i < payload.length, some (image.stored (addr + i)) = payload[i]?) := by
    intro hnone
    rw [hread]
    refine forall_congr' fun i => forall_congr' fun hi => ?_
    rw [hoctet i hi, hnone, getElem?_eq_getElem hi]
    simp
  by_cases hpresent : live.hasState m b.model = true
  · have hbi := himage hpresent
    cases hrender : renderFields (renderLoaded live m b (addr - r.start) payload) b.fields
        (replicate r.size 0) with
    | error e =>
        rw [hrender] at hbi
        constructor
        · intro h
          have hfirst := hread.mp h 0 hpos
          rw [hoctet 0 hpos, hbi] at hfirst
          cases hfirst
        · intro h
          rcases h with ⟨-, hshown, -⟩ | ⟨hhidden, -⟩
          · obtain ⟨shown, hshown⟩ := (loadShown_iff live).mp hshown
            rw [hrender] at hshown
            cases hshown
          · have hnone := hhidden hpresent
            rw [hrender] at hnone
            cases hnone
    | ok result =>
        cases result with
        | none =>
            rw [hrender] at hbi
            rw [hstored hbi]
            constructor
            · intro h
              exact .inr ⟨fun _ => hrender, h⟩
            · intro h
              rcases h with ⟨-, hshown, -⟩ | ⟨-, hstore⟩
              · obtain ⟨shown, hshown⟩ := (loadShown_iff live).mp hshown
                rw [hrender] at hshown
                cases hshown
              · exact hstore
        | some shown =>
            rw [hrender] at hbi
            have hlen : shown.length = r.size := by
              have hlaid := laid_of_renderFields (fun _ _ => renderLoaded_length live)
                (fun f hf => by
                  rw [length_replicate]
                  exact hfits.inside f hf) hfits.apart hrender
              rw [hlaid.length, length_replicate]
            have hinside : addr - r.start + payload.length ≤ r.size := by
              have hstop : r.stop = r.start + r.size := rfl
              omega
            have hshows : image.read live m' addr payload.length = .ok payload ↔
                ∀ i < payload.length, shown[addr - r.start + i]? = payload[i]? := by
              rw [hread]
              refine forall_congr' fun i => forall_congr' fun hi => ?_
              have hpos' : addr + i - r.start = addr - r.start + i := by omega
              rw [hoctet i hi, hbi, hpos', getElem?_eq_getElem hi]
              simp only [Except.ok.injEq]
              exact getElem?_eq_some_iff_getD (by omega) payload[i]
            rw [hshows, shownKept_iff live hfits hinside hrender]
            constructor
            · intro h
              exact .inl ⟨hpresent, (loadShown_iff live).mpr ⟨shown, hrender⟩, h⟩
            · intro h
              rcases h with ⟨-, -, hkept⟩ | ⟨hhidden, -⟩
              · exact hkept
              · have hnone := hhidden hpresent
                rw [hrender] at hnone
                cases hnone
  · have hnone : bindingImage live m' r b = .ok none := by
      unfold bindingImage
      rw [hstate, if_neg hpresent]
    rw [hstored hnone]
    constructor
    · intro h
      exact .inr ⟨fun hyes => absurd hyes hpresent, h⟩
    · intro h
      rcases h with ⟨hyes, -⟩ | ⟨-, hstore⟩
      · exact absurd hyes hpresent
      · exact hstore

/-- **Reading what was written.**  However a write into a region ends, the range reads as
the payload exactly when the load is kept. -/
theorem read_write_iff (m : M) {addr : Nat} {payload : Bytes} {r : MemoryRegion}
    (hr : image.map.regionAt addr payload.length = some r) (hpos : 0 < payload.length) :
    wp (MemoryImage.write live addr payload)
      (fun _ s' => s'.1.map = image.map ∧
        (s'.1.read live s'.2 addr payload.length = .ok payload ↔
          LoadKept live image m r addr payload))
      (fun _ s' => s'.1.map = image.map ∧
        (s'.1.read live s'.2 addr payload.length = .ok payload ↔
          LoadKept live image m r addr payload)) (image, m) := by
  unfold MemoryImage.write
  rw [wp_bind, wp_get]
  simp only [hr]
  cases hbinding : r.binding with
  | none =>
      refine ⟨rfl, iff_of_true ?_ fun b hb => ?_⟩
      · apply mapM_range_eq_ok_iff.mpr
        intro i hi
        unfold MemoryImage.readOctet
        simp only [MemoryMap.regionAt_octet hr hi, hbinding]
        rw [stored_writePages image addr hi]
      · rw [hbinding] at hb
        cases hb
  | some b =>
      have hfits := image.map.fits r (MemoryMap.regionAt_mem hr) b hbinding
      rw [wp_zoom]
      have hkept : LoadKept live image m r addr payload ↔
          (live.hasState m b.model = true ∧ LoadShown live m b (addr - r.start) payload ∧
            ShownKept live m b (addr - r.start) payload) ∨
          (LoadHidden live m r b (addr - r.start) payload ∧
            ∀ i < payload.length, some (image.stored (addr + i)) = payload[i]?) := by
        unfold LoadKept
        rw [hbinding]
        simp
      have hkeeps := keeps_bindingWrite live hfits addr payload m
      by_cases hstate : live.hasState m b.model = true
      · have hshown := wp_and hkeeps (bindingImage_write live hfits addr payload hstate)
        exact wp_mono hshown
          (fun _ m' h => ⟨rfl, (read_bound_iff live hr hpos hbinding (h.1.1 b.model)
            fun _ => h.2).trans hkept.symm⟩)
          (fun _ m' h => ⟨rfl, (read_bound_iff live hr hpos hbinding (h.1.1 b.model)
            fun _ => h.2).trans hkept.symm⟩)
      · exact wp_mono hkeeps
          (fun _ m' h => ⟨rfl, (read_bound_iff live hr hpos hbinding (h.1 b.model)
            fun hyes => absurd hyes hstate).trans hkept.symm⟩)
          (fun _ m' h => ⟨rfl, (read_bound_iff live hr hpos hbinding (h.1 b.model)
            fun hyes => absurd hyes hstate).trans hkept.symm⟩)

/-! ### The telecommands -/

theorem read_length {m : M} {addr length : Nat} {content : Bytes}
    (h : image.read live m addr length = .ok content) : content.length = length := by
  have hall := (mapM_eq_ok_iff.mp h).length_eq
  rw [length_range] at hall
  exact hall.symm

theorem packTm_eq_report_iff {service subtype : Nat} {data report : Bytes} :
    packTm service subtype data = .ok (.report service subtype report) ↔
      data = report ∧ data.length + 8 < 2 ^ 16 := by
  unfold packTm
  split
  · rename_i hfits
    constructor
    · intro h
      cases h
      exact ⟨rfl, hfits⟩
    · intro h
      rw [h.1]
  · rename_i hlong
    constructor
    · intro h
      cases h
    · intro h
      exact absurd h.2 hlong

/-- The dump reports the given octets: they are what is read, within the limits. -/
theorem dump_iff {m : M} (memoryId : UInt8) {addr : Nat} (haddr : addr < 2 ^ 32) {payload : Bytes}
    (hlength : payload.length < 2 ^ 16) (hmapped : image.map.isMapped addr payload.length = true) :
    handleS6 live 5 (rangeData memoryId addr payload.length) (image, m) =
        .ok [.report 6 6 (packU32 addr ++ packU16 payload.length ++ payload)] (image, m) ↔
      0 < payload.length ∧ payload.length ≤ image.map.limits.maxDumpBytes ∧
        payload.length + 14 < 2 ^ 16 ∧
        image.read live m addr payload.length = .ok payload := by
  have hdump : handleS6 live 5 (rangeData memoryId addr payload.length) =
      memDump live (rangeData memoryId addr payload.length) := by
    unfold handleS6
    rw [if_neg (by omega), if_pos ⟨rfl, by rw [rangeData_length]; omega⟩]
  have hdecode := decodeMemRequest_range memoryId haddr hlength hmapped
  rw [hdump, memDump, memRead_eq_report_iff live hdecode hmapped]
  simp only [packTm_eq_report_iff]
  constructor
  · intro h
    obtain ⟨hpos, hlimit, content, hcontent, hreport, hfits⟩ := h
    have hlen := read_length live hcontent
    rw [hlen] at hreport
    obtain rfl := append_cancel_left hreport
    rw [length_append, length_append, packU32_length, packU16_length] at hfits
    exact ⟨hpos, hlimit, by omega, hcontent⟩
  · intro h
    obtain ⟨hpos, hlimit, hfits, hread⟩ := h
    refine ⟨hpos, hlimit, payload, hread, rfl, ?_⟩
    rw [length_append, length_append, packU32_length, packU16_length]
    omega

theorem check_iff {m : M} (memoryId : UInt8) {addr : Nat} (haddr : addr < 2 ^ 32) {payload : Bytes}
    (hlength : payload.length < 2 ^ 16) (hmapped : image.map.isMapped addr payload.length = true)
    (hread : image.read live m addr payload.length = .ok payload) :
    handleS6 live 9 (rangeData memoryId addr payload.length) (image, m) =
        .ok [.report 6 10 (packU32 addr ++ packU16 payload.length ++
          packU16 (crc16Ccitt payload))] (image, m) ↔
      0 < payload.length ∧ payload.length ≤ image.map.limits.maxCheckBytes := by
  have hcheck : handleS6 live 9 (rangeData memoryId addr payload.length) =
      memCheck live (rangeData memoryId addr payload.length) := by
    unfold handleS6
    rw [if_neg (by omega), if_neg (by omega), if_pos ⟨rfl, by rw [rangeData_length]; omega⟩]
  have hdecode := decodeMemRequest_range memoryId haddr hlength hmapped
  rw [hcheck, memCheck, memRead_eq_report_iff live hdecode hmapped]
  simp only [packTm_eq_report_iff]
  constructor
  · intro h
    exact ⟨h.1, h.2.1⟩
  · intro h
    refine ⟨h.1, h.2, payload, hread, rfl, ?_⟩
    simp

/-- **When a load is in memory.**  After a load that is not refused, a dump of its range
reports the loaded octets and a check their CRC exactly when there are some, the load is
kept, and the range is within the limits of dump and check. -/
theorem load_read_back_iff {image : MemoryImage} (m : M) {data : Bytes} {request : MemRequest}
    (hdecode : decodeMemRequest image.map data false = some request) {r : MemoryRegion}
    (hr : image.map.regionAt request.address request.payload.length = some r)
    (haccepted : ∀ errorCode reason s',
      handleS6 live 2 data (image, m) ≠ .ok [.execFail errorCode reason] s')
    (hdata : data.length < 2 ^ 16) (memoryId : UInt8) :
    (handleS6 live 5 (rangeData memoryId request.address request.payload.length)
        (finalState (handleS6 live 2 data) (image, m)) =
      .ok [.report 6 6 (packU32 request.address ++ packU16 request.payload.length ++
        request.payload)] (finalState (handleS6 live 2 data) (image, m)) ∧
    handleS6 live 9 (rangeData memoryId request.address request.payload.length)
        (finalState (handleS6 live 2 data) (image, m)) =
      .ok [.report 6 10 (packU32 request.address ++ packU16 request.payload.length ++
        packU16 (crc16Ccitt request.payload))] (finalState (handleS6 live 2 data) (image, m))) ↔
    0 < request.payload.length ∧
      LoadKept live image m r request.address request.payload ∧
      request.payload.length ≤ image.map.limits.maxDumpBytes ∧
      request.payload.length + 14 < 2 ^ 16 ∧
      request.payload.length ≤ image.map.limits.maxCheckBytes := by
  obtain ⟨haddr, hpart⟩ := decodeMemRequest_bounds hdecode
  have hlength : request.payload.length < 2 ^ 16 := by omega
  generalize hs : finalState (handleS6 live 2 data) (image, m) = s'
  -- the load keeps the map, and its range reads as loaded when it is kept
  have hafter : s'.1.map = image.map ∧ (0 < request.payload.length →
      (s'.1.read live s'.2 request.address request.payload.length = .ok request.payload ↔
        LoadKept live image m r request.address request.payload)) := by
    by_cases hlong : 5 ≤ data.length
    · have hload : handleS6 live 2 data = memLoad live data := by
        unfold handleS6
        rw [if_pos ⟨rfl, hlong⟩]
      rw [hload] at haccepted hs
      rcases memLoad_cases live m hdecode with
        ⟨errorCode, reason, hrefused⟩ | ⟨r', hr', -, hpos, -, hrun⟩
      · exact absurd hrefused (haccepted errorCode reason (image, m))
      · have hwrite := wp_state.mp (read_write_iff live m hr hpos)
        rw [finalState_of_bind_pure hrun] at hs
        rw [hs] at hwrite
        exact ⟨hwrite.1, fun _ => hwrite.2⟩
    · have hnone : handleS6 live 2 data = pure [] := by
        unfold handleS6
        rw [if_neg fun h => hlong h.2, if_neg (by omega), if_neg (by omega)]
      have hsame : s' = (image, m) := by
        rw [← hs, hnone]
        rfl
      rw [hsame]
      exact ⟨rfl, fun hpos => absurd hpart (by omega)⟩
  obtain ⟨hmap, hread⟩ := hafter
  have hmapped : s'.1.map.isMapped request.address request.payload.length = true := by
    rw [hmap, MemoryMap.isMapped, hr]
    rfl
  have hdump := @dump_iff M live s'.1 s'.2 memoryId _ haddr _ hlength hmapped
  rw [hmap] at hdump
  constructor
  · intro h
    obtain ⟨hpos, hlimit, hfits, hreads⟩ := hdump.mp h.1
    have hcheck := (check_iff live memoryId haddr hlength hmapped hreads).mp h.2
    rw [hmap] at hcheck
    exact ⟨hpos, (hread hpos).mp hreads, hlimit, hfits, hcheck.2⟩
  · intro h
    obtain ⟨hpos, hkept, hlimit, hfits, hchecked⟩ := h
    have hreads := (hread hpos).mpr hkept
    refine ⟨hdump.mpr ⟨hpos, hlimit, hfits, hreads⟩,
      (check_iff live memoryId haddr hlength hmapped hreads).mpr ⟨hpos, ?_⟩⟩
    rw [hmap]
    exact hchecked

/-- A load of the second torque gain reads back. -/
theorem load_read_back_gain :
    handleS6 aocsModels 5 (rangeData 0 0x20100004 4)
        (finalState (handleS6 aocsModels 2 (loadData 1 0x20100004 [0x40, 0x00, 0x00, 0x00]))
          (⟨defaultMap, .empty⟩, aocsGains)) =
      .ok [.report 6 6 (packU32 0x20100004 ++ packU16 4 ++ [0x40, 0x00, 0x00, 0x00])]
        (finalState (handleS6 aocsModels 2 (loadData 1 0x20100004 [0x40, 0x00, 0x00, 0x00]))
          (⟨defaultMap, .empty⟩, aocsGains)) := by
  have hvalue : value? (handleS6 aocsModels 2 (loadData 1 0x20100004 [0x40, 0x00, 0x00, 0x00]))
      (⟨defaultMap, .empty⟩, aocsGains) = some [.progress 0 1] := by decide
  have hdecode : decodeMemRequest defaultMap (loadData 1 0x20100004 [0x40, 0x00, 0x00, 0x00])
      false = some ⟨1, 0x20100004, 0, [0x40, 0x00, 0x00, 0x00]⟩ := by decide
  have hregion : defaultMap.regionAt 0x20100004 4 = some
      { name := "aocs_gains", start := 0x20100000, size := 12,
        binding := some torqueGainBinding } := by decide
  have hback := @load_read_back_iff _ aocsModels ⟨defaultMap, .empty⟩ aocsGains _ _ hdecode _
    hregion ?_ (by decide) 0
  · refine (hback.mpr ⟨by decide, ?_, by decide, by decide, by decide⟩).1
    intro b hb
    obtain rfl := Option.some.inj hb
    refine .inl ⟨rfl, ?_, ?_, ?_, ?_⟩
    · intro f hf
      rcases List.mem_cons.mp hf with rfl | hf
      · exact ⟨[0x3F, 0x80, 0, 0], by decide⟩
      · rcases List.mem_cons.mp hf with rfl | hf
        · show ¬ torqueGainBinding.Refuses aocsModels aocsGains _
          decide
        · obtain rfl := List.mem_singleton.mp hf
          exact ⟨[0x3F, 0x80, 0, 0], by decide⟩
    · decide
    · -- only the second field holds octets of the load
      intro f hf huncovered packed _ i hi hpos
      have hheld : ∀ g ∈ torqueGainBinding.fields, ∀ k < 4, g.Holds (4 + k) → g.Covered 4 4 := by
        decide
      exact absurd (hheld f hf i hi hpos) huncovered
    · intro i hi hnone
      have hsecond : ∀ k < 4, ∃ g ∈ torqueGainBinding.fields, g.Holds (4 + k) := by decide
      obtain ⟨g, hg, hpos⟩ := hsecond i hi
      exact absurd hpos (hnone g hg)
  · intro errorCode reason s' hrefused
    unfold value? at hvalue
    rw [hrefused] at hvalue
    cases hvalue

/-- A load of the first two octets of a gain assigns nothing and is not refused: the dump
reports the octets of the old gain. -/
theorem load_read_back_counterexample :
    value? (handleS6 aocsModels 2 (loadData 1 0x20100000 [0x40, 0x49]))
      (⟨defaultMap, .empty⟩, aocsGains) = some [.progress 0 1] ∧
    value? (handleS6 aocsModels 5 (rangeData 1 0x20100000 2))
      (finalState (handleS6 aocsModels 2 (loadData 1 0x20100000 [0x40, 0x49]))
        (⟨defaultMap, .empty⟩, aocsGains)) =
      some [.report 6 6 (packU32 0x20100000 ++ packU16 2 ++ [0x3F, 0x80])] := by
  decide +kernel

end Memory
