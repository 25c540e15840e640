import MissionSim.MemoryReadBack
import MissionSim.MemoryService

/-!
# What a load leaves alone

A load is a patch of the address range its request names.  Into an unbound region it also
fills the pages that it is the first to write, and a page may reach into other regions;
into a bound region it assigns attributes, and what a binding shows depends on all of them.

`write_frame` says which octets outside the range read as before, and `load_frame` says it
of the telecommand, with the two wire forms in which a load can be read.
-/

namespace Memory

open Octets Python Effects

/-! ### Pages -/

section Pages

variable (map : MemoryMap)

/-- What the octet holds in a page that is first written in the region `r`: the fill of the
region at the start of the page, else of `r`. -/
def freshOctet (r : MemoryRegion) (cur : Nat) : UInt8 :=
  ((map.regionAt (cur / pageSize * pageSize) 1).getD r).fillByte cur

theorem pageOctet_writeOctet {r : MemoryRegion} {addr cur : Nat}
    (hr : map.regionAt addr 1 = some r) (hne : cur ≠ addr) (pages : Dict Nat Page)
    (byte : UInt8) :
    pageOctet (writeOctet map pages addr byte) cur =
      if cur / pageSize = addr / pageSize then
        some ((pageOctet pages cur).getD (freshOctet map r cur))
      else pageOctet pages cur := by
  unfold pageOctet writeOctet
  by_cases hpage : cur / pageSize = addr / pageSize
  · have hcur := Nat.div_add_mod cur pageSize
    have haddr := Nat.div_add_mod addr pageSize
    have hpos : addr % pageSize ≠ cur % pageSize := by
      rw [hpage] at hcur
      omega
    rw [if_pos hpage, hpage, Dict.get?_set_same, Option.map_some, Fin.getElem_fin,
      Vector.getElem_set_ne _ _ hpos]
    cases pages.get? (addr / pageSize) with
    | some page => rfl
    | none =>
        have hbase : addr / pageSize * pageSize + cur % pageSize = cur := by
          rw [← hpage, Nat.mul_comm]
          exact hcur
        unfold freshOctet freshPage
        rw [hpage, hr]
        cases hfound : map.regionAt (addr / pageSize * pageSize) 1 with
        | none | some => simp [hbase, hfound]
  · rw [if_neg hpage, Dict.get?_set_ne _ hpage]

/-- Writing elsewhere: an octet keeps its page's content, or its page is new. -/
theorem pageOctet_writePages_elsewhere {r : MemoryRegion} {cur : Nat} {payload : Bytes} :
    ∀ (pages : Dict Nat Page) {addr : Nat},
      (∀ i < payload.length, map.regionAt (addr + i) 1 = some r) →
      (cur < addr ∨ addr + payload.length ≤ cur) →
      pageOctet (writePages map pages addr payload) cur =
        if ∃ i < payload.length, cur / pageSize = (addr + i) / pageSize then
          some ((pageOctet pages cur).getD (freshOctet map r cur))
        else pageOctet pages cur := by
  induction payload with
  | nil =>
      intro pages addr _ _
      rw [if_neg (by simp)]
      rfl
  | cons byte rest ih =>
      intro pages addr hregion hout
      have hhead : map.regionAt addr 1 = some r := hregion 0 (Nat.zero_lt_succ _)
      have hrest : ∀ i < rest.length, map.regionAt (addr + 1 + i) 1 = some r := by
        intro i hi
        have hnext := hregion (i + 1) (Nat.succ_lt_succ hi)
        rw [Nat.add_assoc, Nat.add_comm 1 i]
        exact hnext
      rw [List.length_cons] at hout
      have htouched : (∃ i < (byte :: rest).length, cur / pageSize = (addr + i) / pageSize) ↔
          cur / pageSize = addr / pageSize ∨
            ∃ i < rest.length, cur / pageSize = (addr + 1 + i) / pageSize := by
        constructor
        · intro h
          obtain ⟨i, hi, hpage⟩ := h
          cases i with
          | zero => exact .inl hpage
          | succ k =>
              refine .inr ⟨k, Nat.lt_of_succ_lt_succ hi, ?_⟩
              rw [Nat.add_assoc, Nat.add_comm 1 k]
              exact hpage
        · intro h
          rcases h with hpage | ⟨k, hk, hpage⟩
          · exact ⟨0, Nat.zero_lt_succ _, hpage⟩
          · refine ⟨k + 1, Nat.succ_lt_succ hk, ?_⟩
            rw [Nat.add_assoc, Nat.add_comm 1 k] at hpage
            exact hpage
      rw [writePages, ih _ hrest (by omega),
        pageOctet_writeOctet map hhead (by omega) pages byte]
      by_cases hfirst : cur / pageSize = addr / pageSize
      · rw [if_pos hfirst, if_pos (htouched.mpr (.inl hfirst))]
        split <;> rfl
      · rw [if_neg hfirst]
        have hiff : (∃ i < (byte :: rest).length, cur / pageSize = (addr + i) / pageSize) ↔
            ∃ i < rest.length, cur / pageSize = (addr + 1 + i) / pageSize := by
          rw [htouched]
          exact or_iff_right hfirst
        simp only [hiff]

end Pages

/-- A page that the load is the first to write is filled at the octet as the octet read. -/
def MemoryImage.Spares (image : MemoryImage) (r : MemoryRegion) (addr length cur : Nat) : Prop :=
  pageOctet image.pages cur = none →
    (∃ i < length, cur / pageSize = (addr + i) / pageSize) →
      freshOctet image.map r cur = image.stored cur

/-- **The store outside a load** holds what it held exactly where the load spares it. -/
theorem stored_writePages_iff {image : MemoryImage} {r : MemoryRegion} {addr cur : Nat}
    {payload : Bytes} (hr : image.map.regionAt addr payload.length = some r)
    (hout : cur < addr ∨ addr + payload.length ≤ cur) :
    MemoryImage.stored { image with pages := writePages image.map image.pages addr payload } cur =
      image.stored cur ↔ image.Spares r addr payload.length cur := by
  have hpage := pageOctet_writePages_elsewhere image.map image.pages
    (fun i hi => MemoryMap.regionAt_octet hr hi) hout
  unfold MemoryImage.Spares MemoryImage.stored
  rw [hpage]
  cases hold : pageOctet image.pages cur with
  | some byte =>
      simp
  | none =>
      by_cases htouched : ∃ i < payload.length, cur / pageSize = (addr + i) / pageSize
      · simp [htouched]
      · simp [htouched]

/-! ### Bindings -/

/-- The region shows the attribute of the model. -/
def MemoryRegion.Shows (r : MemoryRegion) (model attr : String) : Prop :=
  ∃ b, r.binding = some b ∧ b.model = model ∧ ∃ f ∈ b.fields, f.attr = attr

/-- No attribute is shown by two regions. -/
def MemoryMap.Unshared (map : MemoryMap) : Prop :=
  ∀ r ∈ map.regions, ∀ q ∈ map.regions, q ≠ r →
    ∀ model attr, r.Shows model attr → ¬ q.Shows model attr

variable {M : Type} (live : LiveModels M)

/-- A binding of which no attribute changed shows the same. -/
theorem bindingImage_congr {model : String} {attrs : List String} {m m' : M}
    (h : SameBut live model attrs m m') (q : MemoryRegion) {b : RegionBinding}
    (hother : ∀ f ∈ b.fields, b.model = model → f.attr ∉ attrs) :
    bindingImage live m' q b = bindingImage live m q b := by
  unfold bindingImage
  rw [h.1 b.model]
  split
  · apply renderFields_congr
    intro f hf
    exact renderField_congr live (h.2 b.model f.attr (hother f hf))
  · rfl

/-- **Outside the loaded range the binding shows what it showed**, if it showed anything. -/
theorem renderLoaded_outside {r : MemoryRegion} {b : RegionBinding} (hfits : b.Fits r.size)
    {m : M} (offset : Nat) (payload : Bytes) {shown : Bytes}
    (hshown : renderFields (renderField live m b) b.fields (List.replicate r.size 0) =
      .ok (some shown)) :
    ∃ shown', renderFields (renderLoaded live m b offset payload) b.fields
        (List.replicate r.size 0) = .ok (some shown') ∧
      ∀ pos, (pos < offset ∨ offset + payload.length ≤ pos) → shown'[pos]? = shown[pos]? := by
  have hinside : ∀ f ∈ b.fields, f.offset + f.size ≤ (List.replicate r.size (0 : UInt8)).length := by
    intro f hf
    rw [List.length_replicate]
    exact hfits.inside f hf
  have hbefore := laid_of_renderFields (fun _ _ => renderField_length live) hinside hfits.apart hshown
  have hall : ∀ f ∈ b.fields, ∃ packed, renderLoaded live m b offset payload f =
      .ok (some packed) := by
    intro f hf
    obtain ⟨packed, hpacked, -⟩ := hbefore.shows f hf
    unfold renderLoaded
    split
    · rw [if_neg]
      · exact ⟨_, rfl⟩
      · intro hrefuses
        unfold renderField at hpacked
        rw [hrefuses.2.2] at hpacked
        cases hpacked
    · exact ⟨packed, hpacked⟩
  obtain ⟨shown', hshown'⟩ := renderFields_some_iff.mpr hall
  have hafter := laid_of_renderFields (fun _ _ => renderLoaded_length live) hinside hfits.apart
    hshown'
  refine ⟨shown', hshown', fun pos hout => ?_⟩
  by_cases hheld : ∃ f ∈ b.fields, f.Holds pos
  · obtain ⟨f, hf, hpos⟩ := hheld
    have huncovered : ¬ f.Covered offset payload.length := by
      intro hcovered
      have hlow := hcovered.1
      have hhigh := hcovered.2
      have hpos1 := hpos.1
      have hpos2 := hpos.2
      rcases hout with hbelow | habove <;> omega
    obtain ⟨packed, hpacked, -, hoctets⟩ := hbefore.shows f hf
    obtain ⟨packed', hpacked', -, hoctets'⟩ := hafter.shows f hf
    rw [renderLoaded, if_neg huncovered, hpacked] at hpacked'
    obtain rfl := Option.some.inj (Except.ok.inj hpacked')
    rw [hoctets pos hpos, hoctets' pos hpos]
  · have hnone : ∀ f ∈ b.fields, ¬ f.Holds pos := fun f hf hpos => hheld ⟨f, hf, hpos⟩
    rw [hafter.rest pos hnone, hbefore.rest pos hnone]

/-! ### Writing -/

/-- What must hold for an octet outside a load into `r` to be left alone: an unbound
region's load spares it, and a bound region that holds it shows its models before. -/
structure LeftAlone (image : MemoryImage) (m : M) (r : MemoryRegion) (addr length cur : Nat) :
    Prop where
  spared : r.binding = none → image.Spares r addr length cur
  shown : ∀ b, r.binding = some b → live.hasState m b.model = true →
    image.map.regionAt cur 1 = some r → ∃ shown, bindingImage live m r b = .ok (some shown)

/-- **The frame of a write.**  Whichever way it ends, an octet of a region outside the
range reads as before. -/
theorem write_frame {image : MemoryImage} (hunshared : image.map.Unshared) {m : M}
    {addr : Nat} {payload : Bytes} {r : MemoryRegion}
    (hr : image.map.regionAt addr payload.length = some r) {cur : Nat} {q : MemoryRegion}
    (hq : image.map.regionAt cur 1 = some q)
    (hout : cur < addr ∨ addr + payload.length ≤ cur)
    (halone : LeftAlone live image m r addr payload.length cur) :
    wp (MemoryImage.write live addr payload)
      (fun _ s' => s'.1.readOctet live s'.2 cur = image.readOctet live m cur)
      (fun _ s' => s'.1.readOctet live s'.2 cur = image.readOctet live m cur) (image, m) := by
  unfold MemoryImage.write
  rw [wp_bind, wp_get]
  simp only [hr]
  cases hbinding : r.binding with
  | none =>
      rw [wp_modify]
      have hstored := (stored_writePages_iff hr hout).mpr (halone.spared hbinding)
      unfold MemoryImage.readOctet
      simp only [hq, hstored]
  | some b =>
      have hfits := image.map.fits r (MemoryMap.regionAt_mem hr) b hbinding
      rw [wp_zoom]
      have hframe : ∀ m', SameBut live b.model (b.fields.map BindingField.attr) m m' →
          (live.hasState m b.model = true → bindingImage live m' r b =
            renderFields (renderLoaded live m b (addr - r.start) payload) b.fields
              (List.replicate r.size 0)) →
          image.readOctet live m' cur = image.readOctet live m cur := by
        intro m' hsame himage
        unfold MemoryImage.readOctet
        rw [hq]
        simp only
        cases hqb : q.binding with
        | none => rfl
        | some c =>
            simp only
            have hcongr : bindingImage live m' q c = bindingImage live m q c ∨
                (∃ shown shown', bindingImage live m q c = .ok (some shown) ∧
                  bindingImage live m' q c = .ok (some shown') ∧
                  shown'[cur - q.start]? = shown[cur - q.start]?) := by
              by_cases heq : q = r
              · subst heq
                rw [hbinding] at hqb
                cases hqb
                by_cases hstate : live.hasState m b.model = true
                · obtain ⟨shown, hshown⟩ := halone.shown b hbinding hstate hq
                  have hfields := hshown
                  unfold bindingImage at hfields
                  rw [hstate, if_pos rfl] at hfields
                  obtain ⟨shown', hshown', hoctets⟩ := renderLoaded_outside live hfits
                    (addr - q.start) payload hfields
                  refine .inr ⟨shown, shown', hshown, (himage hstate).trans hshown', ?_⟩
                  apply hoctets
                  have hrange := MemoryMap.regionAt_range hr
                  have hcur := MemoryMap.regionAt_range hq
                  omega
                · apply Or.inl
                  unfold bindingImage
                  rw [hsame.1 b.model, if_neg hstate, if_neg hstate]
              · apply Or.inl
                apply bindingImage_congr live hsame
                intro f hf hmodel hmem
                obtain ⟨g, hg, hattr⟩ := List.mem_map.mp hmem
                exact hunshared r (MemoryMap.regionAt_mem hr) q (MemoryMap.regionAt_mem hq) heq
                  b.model f.attr ⟨b, hbinding, rfl, g, hg, hattr⟩ ⟨c, hqb, hmodel, f, hf, rfl⟩
            rcases hcongr with hsameImage | ⟨shown, shown', hshown, hshown', hoctet⟩
            · rw [hsameImage]
            · rw [hshown, hshown']
              simp only [List.getD_eq_getElem?_getD, hoctet]
      have hkeeps := keeps_bindingWrite live hfits addr payload m
      by_cases hstate : live.hasState m b.model = true
      · have himage := bindingImage_write live hfits addr payload hstate
        exact wp_mono (wp_and hkeeps himage) (fun _ m' h => hframe m' h.1 fun _ => h.2)
          (fun _ m' h => hframe m' h.1 fun _ => h.2)
      · exact wp_mono hkeeps (fun _ m' h => hframe m' h fun hyes => absurd hyes hstate)
          (fun _ m' h => hframe m' h fun hyes => absurd hyes hstate)

/-! ### The telecommand -/

/-- **What a load touches.**  A load of the form with `memory_id` first is read at its own
address when its range lies in a declared region, and as the form with the address first
when it does not.  Either it is refused and nothing changes, or it is written into one
writable region, and the octets of regions outside the range it is read at stay as they
were. -/
theorem load_frame {image : MemoryImage} (hunshared : image.map.Unshared) (m : M)
    (memoryId : UInt8) {addr : Nat} (haddr : addr < 2 ^ 32) (payload : Bytes) :
    ∃ request, decodeMemRequest image.map (loadData memoryId addr payload) false = some request ∧
      (image.map.isMapped addr (max 1 payload.length) = true →
        request.address = addr ∧ request.payload = payload) ∧
      (image.map.isMapped addr (max 1 payload.length) = false →
        request = MemRequest.parse 0 (loadData memoryId addr payload) false) ∧
      ((∃ errorCode reason, handleS6 live 2 (loadData memoryId addr payload) (image, m) =
          .ok [.execFail errorCode reason] (image, m)) ∨
        ∃ r, image.map.regionAt request.address request.payload.length = some r ∧
          r.writable = true ∧
          ∀ cur, image.map.isMapped cur 1 = true →
            (cur < request.address ∨ request.address + request.payload.length ≤ cur) →
            LeftAlone live image m r request.address request.payload.length cur →
              (finalState (handleS6 live 2 (loadData memoryId addr payload)) (image, m)).1.readOctet
                live (finalState (handleS6 live 2 (loadData memoryId addr payload)) (image, m)).2
                cur = image.readOctet live m cur) := by
  have hload : handleS6 live 2 (loadData memoryId addr payload) =
      memLoad live (loadData memoryId addr payload) := by
    unfold handleS6
    rw [if_pos ⟨rfl, by rw [loadData_length]; omega⟩]
  rw [hload]
  have hdecode := decodeMemRequest_load image.map memoryId haddr payload
  refine ⟨_, hdecode, ?_, ?_, ?_⟩
  · intro hmapped
    rw [if_pos hmapped]
    exact ⟨rfl, rfl⟩
  · intro hunmapped
    rw [hunmapped]
    rfl
  · rcases memLoad_cases live m hdecode with hrefused | ⟨r, hr, hwritable, -, -, hrun⟩
    · exact .inl hrefused
    · refine .inr ⟨r, hr, hwritable, fun cur hmapped hout halone => ?_⟩
      obtain ⟨q, hq⟩ := Option.isSome_iff_exists.mp hmapped
      rw [finalState_of_bind_pure hrun]
      exact wp_state.mp (write_frame live hunshared hr hq hout halone)

/-- The torque gains of the AOCS model, all one. -/
def aocsGains : Dict (String × String) Value :=
  ((Dict.empty.set ("aocs", "torque_gain_x") (.float (.finite false 1 0))).set
    ("aocs", "torque_gain_y") (.float (.finite false 1 0))).set
    ("aocs", "torque_gain_z") (.float (.finite false 1 0))

/-- The spacecraft with its AOCS model only. -/
def aocsModels : LiveModels (Dict (String × String) Value) := plainModels ["aocs"] (· == "aocs")

/-- Only the torque gains are bound in the default map. -/
theorem defaultMap_unshared : defaultMap.Unshared := by
  have hbound : ∀ r ∈ defaultRegions, r.binding ≠ none → r.name = "aocs_gains" := by decide
  have hname : ∀ r ∈ defaultRegions, ∀ q ∈ defaultRegions, r.name = q.name → q = r := by decide
  intro r hr q hq hne model attr hshows hshows'
  obtain ⟨b, hb, -⟩ := hshows
  obtain ⟨c, hc, -⟩ := hshows'
  apply hne
  apply hname r hr q hq
  rw [hbound r hr (by rw [hb]; nofun), hbound q hq (by rw [hc]; nofun)]

/-- A load of one gain of the default map: the gain before it stays. -/
theorem load_frame_gain :
    (finalState (handleS6 aocsModels 2 (loadData 1 0x20100004 [0x40, 0x00, 0x00, 0x00]))
      (⟨defaultMap, .empty⟩, aocsGains)).1.readOctet aocsModels
        (finalState (handleS6 aocsModels 2 (loadData 1 0x20100004 [0x40, 0x00, 0x00, 0x00]))
          (⟨defaultMap, .empty⟩, aocsGains)).2 0x20100000 =
      MemoryImage.readOctet aocsModels ⟨defaultMap, .empty⟩ aocsGains 0x20100000 := by
  obtain ⟨request, -, hcatalogued, -, hload⟩ := @load_frame _ aocsModels
    ⟨defaultMap, .empty⟩ defaultMap_unshared aocsGains 1 0x20100004 (by decide)
    [0x40, 0x00, 0x00, 0x00]
  obtain ⟨haddress, hpayload⟩ := hcatalogued (by decide)
  rcases hload with ⟨errorCode, reason, hrefused⟩ | ⟨r, hr, -, hframe⟩
  · unfold finalState
    rw [hrefused]
  · apply hframe 0x20100000 (by decide)
    · rw [haddress]
      exact .inl (by decide)
    · rw [haddress, hpayload] at hr
      have hgains : r = { name := "aocs_gains", start := 0x20100000, size := 12,
                          binding := some torqueGainBinding } := by
        apply Option.some.inj
        rw [← hr]
        decide
      subst hgains
      refine ⟨nofun, fun b hb _ _ => ?_⟩
      obtain rfl := Option.some.inj hb
      exact ⟨[0x3F, 0x80, 0, 0, 0x3F, 0x80, 0, 0, 0x3F, 0x80, 0, 0], by decide⟩

/-- A load to an unmapped address whose octets, read with the address first, are a load
into the application image. -/
theorem load_frame_counterexample :
    defaultMap.isMapped 0x00100001 1 = true ∧
    0x00100001 < 0x10000000 ∧
    MemoryImage.readOctet aocsModels ⟨defaultMap, .empty⟩ aocsGains 0x00100001 = .ok 0x00 ∧
    (finalState (handleS6 aocsModels 2 (loadData 0 0x10000000 [0xFF]))
      (⟨defaultMap, .empty⟩, aocsGains)).1.readOctet aocsModels
        (finalState (handleS6 aocsModels 2 (loadData 0 0x10000000 [0xFF]))
          (⟨defaultMap, .empty⟩, aocsGains)).2 0x00100001 = .ok 0xFF := by
  decide +kernel

end Memory
