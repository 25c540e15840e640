import MissionSim.MemoryFrame

/-!
# What a write disturbs

A write may change what is read outside its range in two ways.  A page that it is the first to
write is filled whole, from one region, also where another region begins in the page.  And an
attribute that it assigns may be shown elsewhere, by another binding or by its own, which did not
show its models before.

`write_disturbs_nothing_iff` says exactly when neither happens.
-/

namespace Memory

open Octets Python Effects List

/-- The octet lies outside the range. -/
def Outside (addr length cur : Nat) : Prop := cur < addr ∨ addr + length ≤ cur

variable {M : Type} (live : LiveModels M)

/-! ### The attributes after a write -/

/-- What a field's octets leave in its attribute: the setter makes a float of the value. -/
def RegionBinding.taken (b : RegionBinding) (f : BindingField) (raw : Bytes) : Value :=
  if b.setter = "set_torque_gain" ∧ live.hasTorqueGain b.model then
    match (f.decode raw).toFloat with
    | .ok x => .float x
    | .error _ => f.decode raw
  else f.decode raw

/-- The attributes assigned, field by field until the setter refuses one. -/
def RegionBinding.taking (b : RegionBinding) (m : M) (offset : Nat) (payload : Bytes) :
    List BindingField → List (String × Value)
  | [] => []
  | f :: rest =>
      if f.Covered offset payload.length then
        if b.Refuses live m f then []
        else (f.attr, b.taken live f (f.part offset payload)) :: b.taking m offset payload rest
      else b.taking m offset payload rest

/-- The attributes of the models where some of one model are given new values. -/
def assigned (m : M) (model : String) (values : List (String × Value)) (model' attr : String) :
    Option Value :=
  if model' = model then (values.lookup attr).or (live.getattr m model' attr)
  else live.getattr m model' attr

/-- What the attributes hold once `payload` is written at `offset` of the bound region. -/
def attributeLoaded (m : M) (b : RegionBinding) (offset : Nat) (payload : Bytes) :
    String → String → Option Value :=
  assigned live m b.model
    (if live.hasState m b.model then b.taking live m offset payload b.fields else [])

theorem assigned_nil (m : M) (model : String) : assigned live m model [] = live.getattr m := by
  funext model' attr
  simp [assigned]

variable {m : M}

/-- An attribute that no later value replaces is assigned as the models do it. -/
theorem assigned_cons {model attr : String} {values : List (String × Value)}
    (hstate : live.hasState m model = true) (hlast : values.lookup attr = none) (value : Value) :
    assigned live m model ((attr, value) :: values) =
      assigned live (live.setattr m model attr value) model values := by
  funext model' attr'
  unfold assigned
  by_cases hmodel : model' = model
  · subst hmodel
    rw [if_pos rfl, if_pos rfl]
    by_cases hattr : attr' = attr
    · subst hattr
      rw [lookup_cons_self, hlast, Option.none_or,
        live.getattr_setattr m model' attr' value hstate]
      rfl
    · rw [lookup_cons, beq_false_of_ne hattr, live.getattr_setattr_ne _ _ _ _ _ _
        fun heq => hattr (Prod.mk.inj heq).2]
  · rw [if_neg hmodel, if_neg hmodel, live.getattr_setattr_ne _ _ _ _ _ _
      fun heq => hmodel (Prod.mk.inj heq).1]

/-- The models have the same states, and the attributes hold the values. -/
structure HoldsValues (values : String → String → Option Value) (m m' : M) : Prop where
  states : ∀ model, live.hasState m' model = live.hasState m model
  attrs : ∀ model attr, live.getattr m' model attr = values model attr

variable {b : RegionBinding} {payload : Bytes}

open RegionBinding

theorem wp_writeField_taken {f : BindingField} {offset : Nat}
    (htarget : b.setter = "set_torque_gain" → torqueGainAttr f.setterKey = f.attr)
    (hcovered : f.Covered offset payload.length) (haccepts : ¬ b.Refuses live m f)
    {Q : Unit → M → Prop} {E : PyError → M → Prop} :
    wp (writeField live b offset payload f) Q E m ↔
      Q () (live.setattr m b.model f.attr (b.taken live f (f.part offset payload))) := by
  obtain ⟨-, x, hfloat, -⟩ := BindingField.encode_decode (BindingField.part_length hcovered)
  unfold writeField taken
  rw [if_pos hcovered]
  by_cases hsetter : b.setter = "set_torque_gain" ∧ live.hasTorqueGain b.model = true
  · simp only [hsetter, and_self, if_true, hfloat]
    unfold setTorqueGain
    rw [htarget hsetter.1, wp_bind, wp_get]
    cases hattr : live.getattr m b.model f.attr with
    | none => exact absurd ⟨hsetter.1, hsetter.2, hattr⟩ haccepts
    | some old =>
        rw [wp_bind, hfloat, wp_fromExcept]
        simp
  · simp only [hsetter, if_false]
    exact Iff.rfl

/-- Assigning an attribute does not make the setter refuse another. -/
theorem taking_setattr {offset : Nat} {attr : String} (m : M) (value : Value)
    {fields : List BindingField} (hother : ∀ g ∈ fields, attr ≠ g.attr) :
    b.taking live (live.setattr m b.model attr value) offset payload fields =
      b.taking live m offset payload fields := by
  induction fields with
  | nil => rfl
  | cons g rest ih =>
      have hrefuses : b.Refuses live (live.setattr m b.model attr value) g ↔
          b.Refuses live m g := by
        unfold RegionBinding.Refuses
        rw [live.getattr_setattr_ne m b.model attr value b.model g.attr
          fun heq => hother g mem_cons_self (Prod.mk.inj heq).2.symm]
      unfold taking
      simp only [hrefuses, ih fun h hh => hother h (mem_cons_of_mem _ hh)]

/-- Only attributes of the fields are assigned. -/
theorem lookup_taking_of_ne {offset : Nat} {attr : String} {fields : List BindingField}
    (hother : ∀ g ∈ fields, attr ≠ g.attr) :
    (b.taking live m offset payload fields).lookup attr = none := by
  induction fields with
  | nil => rfl
  | cons g rest ih =>
      have hrest := ih fun h hh => hother h (mem_cons_of_mem _ hh)
      unfold taking
      split
      · split
        · rfl
        · rw [lookup_cons, beq_false_of_ne (hother g mem_cons_self)]
          exact hrest
      · exact hrest

/-- **Assigning the fields in turn** leaves the attributes as `taking` says. -/
theorem holds_writeFields (offset : Nat) (payload : Bytes) (fields : List BindingField)
    (htarget : ∀ f ∈ fields, b.setter = "set_torque_gain" → torqueGainAttr f.setterKey = f.attr)
    (hattrs : fields.Pairwise fun f g => f.attr ≠ g.attr) {m : M}
    (hstate : live.hasState m b.model = true) :
    let values := assigned live m b.model (b.taking live m offset payload fields)
    wp (fields.forM (writeField live b offset payload))
      (fun _ m' => HoldsValues live values m m') (fun _ m' => HoldsValues live values m m') m := by
  induction fields generalizing m with
  | nil => exact ⟨fun _ => rfl, fun _ _ => by rw [taking, assigned_nil]⟩
  | cons f rest ih =>
      obtain ⟨hhead, hattrs⟩ := pairwise_cons.mp hattrs
      have htail : ∀ g ∈ rest, b.setter = "set_torque_gain" →
          torqueGainAttr g.setterKey = g.attr :=
        fun g hg => htarget g (mem_cons_of_mem _ hg)
      intro values
      change wp (writeField live b offset payload f >>= fun _ =>
        rest.forM (writeField live b offset payload)) _ _ m
      rw [wp_bind]
      by_cases hcovered : f.Covered offset payload.length
      · by_cases hrefuses : b.Refuses live m f
        · rcases wp_writeField live (htarget f mem_cons_self) hcovered m with
            ⟨-, hwp⟩ | ⟨haccepts, -⟩
          · rw [hwp]
            refine ⟨fun _ => rfl, fun _ _ => ?_⟩
            simp only [values, taking, if_pos hcovered, if_pos hrefuses,
              assigned_nil]
          · exact absurd hrefuses haccepts
        · rw [wp_writeField_taken live (htarget f mem_cons_self) hcovered hrefuses]
          let m₁ := live.setattr m b.model f.attr (b.taken live f (f.part offset payload))
          have hthere : ∀ model, live.hasState m₁ model = live.hasState m model :=
            live.hasState_setattr m b.model f.attr _
          have hvalues : assigned live m₁ b.model (b.taking live m₁ offset payload rest) =
              values := by
            simp only [values, taking, if_pos hcovered, if_neg hrefuses]
            rw [assigned_cons live hstate (lookup_taking_of_ne live hhead),
              taking_setattr live m _ hhead]
          have hstep : ∀ m', HoldsValues live
              (assigned live m₁ b.model (b.taking live m₁ offset payload rest)) m₁ m' →
              HoldsValues live values m m' := fun m' hrest =>
            ⟨fun model => (hrest.states model).trans (hthere model), hvalues ▸ hrest.attrs⟩
          exact wp_mono (ih htail hattrs ((hthere b.model).trans hstate)) (fun _ => hstep)
            (fun _ => hstep)
      · unfold writeField
        simp only [values, taking, if_neg hcovered]
        exact ih htail hattrs hstate

/-- **The attributes after a write into a bound region**, whichever way it ends. -/
theorem holds_bindingWrite {r : MemoryRegion} (hfits : b.Fits r.size) (addr : Nat) (payload : Bytes)
    (m : M) :
    HoldsValues live (attributeLoaded live m b (addr - r.start) payload) m
      (finalState (bindingWrite live r b addr payload) m) := by
  apply wp_state.mp
  unfold bindingWrite
  rw [wp_bind, wp_get]
  by_cases hstate : live.hasState m b.model = true
  · rw [if_pos hstate]
    have hwrite := holds_writeFields live (addr - r.start) payload b.fields
      (fun f hf hsetter => hfits.target hsetter f hf) hfits.distinct hstate
    unfold attributeLoaded
    rw [if_pos hstate]
    exact hwrite
  · rw [if_neg hstate]
    refine ⟨fun _ => rfl, fun _ _ => ?_⟩
    rw [attributeLoaded, if_neg hstate, assigned_nil]

/-! ### What the octets of regions show -/

/-- A field's octets where its attribute holds the value. -/
def BindingField.render (f : BindingField) (value : Option Value) : Except PyError (Option Bytes) :=
  match value with
  | none | some .none => .ok none
  | some value =>
      match f.encode value with
      | .ok packed => .ok (some packed)
      | .error .structError | .error .typeError | .error .valueError => .ok none
      | .error e => .error e

theorem renderField_eq (m : M) (b : RegionBinding) (f : BindingField) :
    renderField live m b f = f.render (live.getattr m b.model f.attr) := by
  rfl

/-- What a binding shows where the attributes hold the values. -/
def MemoryRegion.shownImage (r : MemoryRegion) (b : RegionBinding)
    (values : String → String → Option Value) : Except PyError (Option Bytes) :=
  renderFields (fun f => f.render (values b.model f.attr)) b.fields (List.replicate r.size 0)

theorem bindingImage_eq (m : M) (r : MemoryRegion) (b : RegionBinding) :
    bindingImage live m r b =
      if live.hasState m b.model then r.shownImage b (live.getattr m) else .ok none := by
  unfold bindingImage MemoryRegion.shownImage
  rw [show renderField live m b = _ from funext (renderField_eq live m b)]

/-- An octet of a bound region, read from its binding or, where that gives up, from the store. -/
def MemoryImage.octetShown (image : MemoryImage) (q : MemoryRegion) (cur : Nat) :
    Except PyError (Option Bytes) → Except PyError UInt8
  | .error e => .error e
  | .ok (some shown) => .ok (shown.getD (cur - q.start) 0)
  | .ok none => .ok (image.stored cur)

variable {image : MemoryImage}

open MemoryImage

theorem readOctet_shown {cur : Nat} {q : MemoryRegion} {c : RegionBinding}
    (hq : image.map.regionAt cur 1 = some q) (hc : q.binding = some c) :
    image.readOctet live m cur = image.octetShown q cur (bindingImage live m q c) := by
  cases hshown : bindingImage live m q c with
  | error e => simp only [readOctet, octetShown, hq, hc, hshown]
  | ok shown =>
      cases shown <;> simp only [readOctet, octetShown, hq, hc, hshown]

/-- The region reads its octets from the store: unbound, or its binding gives up. -/
def MemoryRegion.FromStore (q : MemoryRegion) (m : M) : Prop :=
  ∀ c, q.binding = some c → bindingImage live m q c = .ok none

theorem readOctet_fromStore {cur : Nat} {q : MemoryRegion} (hq : image.map.regionAt cur 1 = some q)
    (hstore : q.FromStore live m) : image.readOctet live m cur = .ok (image.stored cur) := by
  cases hc : q.binding with
  | none => simp only [readOctet, hq, hc]
  | some c => rw [readOctet_shown live hq hc, hstore c hc, octetShown]

/-- The store does not matter to a region that does not read from it. -/
theorem readOctet_pages {image : MemoryImage} {m : M} {cur : Nat} {q : MemoryRegion}
    (hq : image.map.regionAt cur 1 = some q) (hstore : ¬ q.FromStore live m)
    (pages : Dict Nat Page) :
    readOctet live { image with pages } m cur = image.readOctet live m cur := by
  unfold MemoryRegion.FromStore at hstore
  push Not at hstore
  obtain ⟨c, hc, himage⟩ := hstore
  have hother : readOctet live { image with pages } m cur =
      octetShown { image with pages } q cur (bindingImage live m q c) :=
    readOctet_shown live hq hc
  rw [readOctet_shown live hq hc, hother]
  cases hshown : bindingImage live m q c with
  | error e => rfl
  | ok shown =>
      cases shown with
      | none => exact absurd hshown himage
      | some shown => rfl

/-! ### The frame of a write -/

/-- Every read of a range inside a region, apart from the range written, gives the same. -/
def ReadsAlike (map : MemoryMap) (addr length : Nat) (s s' : MemoryImage × M) : Prop :=
  ∀ start count, map.isMapped start count = true →
    (start + count ≤ addr ∨ addr + length ≤ start) →
    s'.1.read live s'.2 start count = s.1.read live s.2 start count

/-- Reads are alike exactly where the octets are. -/
theorem readsAlike_iff {map : MemoryMap} {addr length : Nat} {s s' : MemoryImage × M} :
    ReadsAlike live map addr length s s' ↔
      ∀ cur q, map.regionAt cur 1 = some q → Outside addr length cur →
        s'.1.readOctet live s'.2 cur = s.1.readOctet live s.2 cur := by
  constructor
  · intro halike cur q hq hout
    have hread := halike cur 1 (by rw [MemoryMap.isMapped, hq]; rfl) (by
      rcases hout with hbelow | habove
      · exact .inl hbelow
      · exact .inr habove)
    have hone : ∀ t : MemoryImage × M, t.1.read live t.2 cur 1 =
        (t.1.readOctet live t.2 cur).map fun octet => [octet] := fun t => by
      unfold MemoryImage.read
      rw [range_one, mapM_cons, mapM_nil, Nat.add_zero]
      cases t.1.readOctet live t.2 cur <;> rfl
    cases hbefore : s.1.readOctet live s.2 cur <;>
      cases hafter : s'.1.readOctet live s'.2 cur <;>
      simp_all [Except.map]
  · intro hoctets start count hmapped hapart
    obtain ⟨q, hq⟩ := Option.isSome_iff_exists.mp hmapped
    refine mapM_congr_of_mem fun i hi => ?_
    have hi := mem_range.mp hi
    refine hoctets (start + i) q (MemoryMap.regionAt_octet hq hi) ?_
    rcases hapart with hbelow | habove
    · exact .inl (by omega)
    · exact .inr (by omega)

/-- What must hold for a write into `r` to leave all other octets of regions as they read.  In an
unbound region it spares every octet read from the store; in a bound one no binding shows, with
the values assigned, another octet than with the values held. -/
structure DisturbsNothing (image : MemoryImage) (m : M) (r : MemoryRegion) (addr : Nat)
    (payload : Bytes) : Prop where
  fills : r.binding = none → ∀ cur q, image.map.regionAt cur 1 = some q →
    Outside addr payload.length cur → q.FromStore live m → image.Spares r addr payload.length cur
  shows : ∀ b, r.binding = some b → ∀ cur q c, image.map.regionAt cur 1 = some q →
    q.binding = some c → Outside addr payload.length cur → live.hasState m c.model = true →
      image.octetShown q cur
          (q.shownImage c (attributeLoaded live m b (addr - r.start) payload)) =
        image.octetShown q cur (q.shownImage c (live.getattr m))

theorem finalState_write_unbound {addr : Nat} {r : MemoryRegion}
    (hr : image.map.regionAt addr payload.length = some r) (hb : r.binding = none) :
    finalState (write live addr payload) (image, m) =
      ({ image with pages := writePages image.map image.pages addr payload }, m) := by
  unfold write
  rw [finalState_get_bind]
  simp only [hr, hb]
  rfl

theorem finalState_write_bound {addr : Nat} {r : MemoryRegion}
    (hr : image.map.regionAt addr payload.length = some r) (hb : r.binding = some b) :
    finalState (write live addr payload) (image, m) =
      (image, finalState (bindingWrite live r b addr payload) m) := by
  unfold write
  rw [finalState_get_bind]
  simp only [hr, hb]
  rw [finalState_zoom]

/-- **A write disturbs no other read** exactly where its new pages are filled as their octets
read, and no binding comes to show other octets. -/
theorem write_disturbs_nothing_iff {image : MemoryImage} {m : M} {addr : Nat} {payload : Bytes}
    {r : MemoryRegion} (hr : image.map.regionAt addr payload.length = some r) :
    ReadsAlike live image.map addr payload.length (image, m)
        (finalState (MemoryImage.write live addr payload) (image, m)) ↔
      DisturbsNothing live image m r addr payload := by
  rw [readsAlike_iff]
  cases hb : r.binding with
  | none =>
      rw [finalState_write_unbound live hr hb]
      have hoctet : ∀ cur q, image.map.regionAt cur 1 = some q →
          Outside addr payload.length cur → q.FromStore live m →
          (MemoryImage.readOctet live { image with
              pages := writePages image.map image.pages addr payload } m cur =
            image.readOctet live m cur ↔ image.Spares r addr payload.length cur) := by
        intro cur q hq hout hstore
        have hafter : MemoryImage.readOctet live { image with
              pages := writePages image.map image.pages addr payload } m cur =
            .ok (MemoryImage.stored { image with
              pages := writePages image.map image.pages addr payload } cur) :=
          readOctet_fromStore live hq hstore
        rw [readOctet_fromStore live hq hstore, hafter, Except.ok.injEq]
        exact stored_writePages_iff hr hout
      constructor
      · intro halike
        exact ⟨fun _ cur q hq hout hstore => (hoctet cur q hq hout hstore).mp (halike cur q hq hout),
          fun c hc => absurd (hb.symm.trans hc) (Option.some_ne_none c).symm⟩
      · intro hnothing cur q hq hout
        by_cases hstore : q.FromStore live m
        · exact (hoctet cur q hq hout hstore).mpr (hnothing.fills hb cur q hq hout hstore)
        · exact readOctet_pages live hq hstore _
  | some b =>
      rw [finalState_write_bound live hr hb]
      have hholds := holds_bindingWrite live
        (image.map.fits r (MemoryMap.regionAt_mem hr) b hb) addr payload m
      generalize finalState (bindingWrite live r b addr payload) m = m' at hholds
      have hvalues : live.getattr m' = attributeLoaded live m b (addr - r.start) payload :=
        funext fun model => funext fun attr => hholds.attrs model attr
      have hoctet : ∀ cur q c, image.map.regionAt cur 1 = some q → q.binding = some c →
          (image.readOctet live m' cur = image.readOctet live m cur ↔
            (live.hasState m c.model = true →
              image.octetShown q cur
                  (q.shownImage c (attributeLoaded live m b (addr - r.start) payload)) =
                image.octetShown q cur (q.shownImage c (live.getattr m)))) := by
        intro cur q c hq hc
        rw [readOctet_shown live hq hc, readOctet_shown live hq hc, bindingImage_eq,
          bindingImage_eq, hholds.states, hvalues]
        by_cases hstate : live.hasState m c.model = true
        · simp only [hstate, if_true, true_implies]
        · simp [hstate]
      constructor
      · intro halike
        refine ⟨fun hnone => absurd (hb.symm.trans hnone) (Option.some_ne_none b), ?_⟩
        intro c hc cur q d hq hd hout
        obtain rfl := Option.some.inj (hb.symm.trans hc)
        exact (hoctet cur q d hq hd).mp (halike cur q hq hout)
      · intro hnothing cur q hq hout
        cases hd : q.binding with
        | none => simp only [MemoryImage.readOctet, hq, hd]
        | some d => exact (hoctet cur q d hq hd).mpr (hnothing.shows b hb cur q d hq hd hout)

/-- Two regions in one page, with different fills. -/
def halvedPage : MemoryMap where
  regions := [{ name := "low", start := 0, size := 0x80, fillKind := .constant, fill := 0xAA },
    { name := "high", start := 0x80, size := 0x80, fillKind := .constant, fill := 0x55 }]
  limits := {}
  disjoint := by decide
  fits := by
    intro r hr b hb
    simp only [List.mem_cons, List.not_mem_nil, or_false] at hr
    rcases hr with rfl | rfl <;> cases hb

/-- One octet written into the upper region fills the whole page from the lower one. -/
theorem write_disturbs_halvedPage :
    MemoryImage.read aocsModels ⟨halvedPage, .empty⟩ aocsGains 0x80 2 = .ok [0x55, 0x55] ∧
    halvedPage.isMapped 0x80 2 = true ∧ halvedPage.isMapped 0x90 1 = true ∧
    (finalState (MemoryImage.write aocsModels 0x90 [0x01])
      (⟨halvedPage, .empty⟩, aocsGains)).1.read aocsModels
        (finalState (MemoryImage.write aocsModels 0x90 [0x01])
          (⟨halvedPage, .empty⟩, aocsGains)).2 0x80 2 = .ok [0xAA, 0xAA] := by
  decide +kernel

/-- An octet written into the scratch memory, whose pages lie in one region. -/
theorem write_disturbs_nothing_scratch :
    ReadsAlike aocsModels defaultMap 0x20000010 1 (⟨defaultMap, .empty⟩, aocsGains)
      (finalState (MemoryImage.write aocsModels 0x20000010 [0x01])
        (⟨defaultMap, .empty⟩, aocsGains)) := by
  let scratch : MemoryRegion :=
    { name := "scratch_ram", start := 0x20000000, size := 0x40000, fillKind := .addressXor }
  have hpageRegion : defaultMap.regionAt 0x20000000 pageSize = some scratch := by decide
  have hregion : defaultMap.regionAt 0x20000010 1 = some scratch := by decide
  refine (@write_disturbs_nothing_iff _ aocsModels ⟨defaultMap, .empty⟩ _ 0x20000010 [0x01] scratch
    hregion).mpr ⟨?_, fun b hb => absurd hb nofun⟩
  intro _ cur q _ _ _ hfresh htouched
  obtain ⟨i, hi, hpage⟩ := htouched
  obtain rfl : i = 0 := Nat.lt_one_iff.mp hi
  have hbase : cur / pageSize * pageSize = 0x20000000 := by rw [hpage]; rfl
  have hcur := Nat.div_add_mod' cur pageSize
  have hregion : defaultMap.regionAt cur 1 = some scratch := by
    rw [← hcur, hbase]
    exact MemoryMap.regionAt_octet hpageRegion (mod_pageSize_lt cur)
  have hregion' : defaultMap.regionAt 0x20000000 1 = some scratch := by decide
  unfold freshOctet MemoryImage.stored
  rw [hfresh, hbase]
  simp only [hregion, hregion', Option.getD_some]

end Memory
