import MissionSim.MemoryMap

/-!
# What memory reads after a load

A load into an unbound region goes to the page store and reads back as written
(`stored_writePages`).  A load into a bound region assigns the fields it covers
wholly; `renderFields_write` says how the binding renders afterwards in terms of
the models before the load, field by field, and `laid_of_renderFields` what the
image of a binding shows, octet by octet.
-/

namespace Memory

open Octets Binary32 Python Effects BindingField List

/-! ### The page store -/

section Pages

variable (map : MemoryMap)

theorem pageOctet_writeOctet_same (pages : Dict Nat Page) (cur : Nat) (byte : UInt8) :
    pageOctet (writeOctet map pages cur byte) cur = some byte := by
  simp [pageOctet, writeOctet]

/-- Another octet that was materialised stays. -/
theorem pageOctet_writeOctet_ne {pages : Dict Nat Page} {cur other : Nat} (hne : other ≠ cur)
    (byte : UInt8) {old : UInt8} (hold : pageOctet pages other = some old) :
    pageOctet (writeOctet map pages cur byte) other = some old := by
  unfold pageOctet writeOctet at *
  by_cases hpage : other / pageSize = cur / pageSize
  · rw [hpage] at hold ⊢
    rw [Dict.get?_set_same]
    obtain ⟨page, hget, hbyte⟩ := Option.map_eq_some_iff.mp hold
    have hpos : cur % pageSize ≠ other % pageSize := by
      have hcur := Nat.div_add_mod cur pageSize
      have hother := Nat.div_add_mod other pageSize
      rw [hpage] at hother
      omega
    rw [hget, Option.getD_some, Option.map_some, Fin.getElem_fin,
      Vector.getElem_set_ne _ _ hpos]
    exact congrArg some hbyte
  · rw [Dict.get?_set_ne _ hpage]
    exact hold

theorem pageOctet_writePages_below {payload : Bytes} :
    ∀ {pages : Dict Nat Page} {addr cur : Nat} {old : UInt8}, cur < addr →
      pageOctet pages cur = some old → pageOctet (writePages map pages addr payload) cur = some old := by
  induction payload with
  | nil => intro pages addr cur old _ hold; exact hold
  | cons byte rest ih =>
      intro pages addr cur old hlt hold
      have hstep := pageOctet_writeOctet_ne map (Nat.ne_of_lt hlt) byte hold
      exact ih (Nat.lt_succ_of_lt hlt) hstep

/-- **The store keeps what is written to it.** -/
theorem pageOctet_writePages {payload : Bytes} :
    ∀ (pages : Dict Nat Page) (addr : Nat) {i : Nat} (hi : i < payload.length),
      pageOctet (writePages map pages addr payload) (addr + i) = some payload[i] := by
  induction payload with
  | nil => intro pages addr i hi; exact absurd hi (Nat.not_lt_zero i)
  | cons byte rest ih =>
      intro pages addr i hi
      cases i with
      | zero =>
          have hwritten := pageOctet_writeOctet_same map pages addr byte
          rw [Nat.add_zero, writePages]
          exact pageOctet_writePages_below map (Nat.lt_succ_self addr) hwritten
      | succ k =>
          have hk : k < rest.length := Nat.lt_of_succ_lt_succ hi
          have hrest := ih (writeOctet map pages addr byte) (addr + 1) hk
          rw [Nat.add_assoc, Nat.add_comm 1 k] at hrest
          exact hrest

end Pages

theorem stored_writePages (image : MemoryImage) (addr : Nat) {payload : Bytes} {i : Nat}
    (hi : i < payload.length) :
    MemoryImage.stored { image with pages := writePages image.map image.pages addr payload }
      (addr + i) = payload[i] := by
  unfold MemoryImage.stored
  rw [pageOctet_writePages image.map image.pages addr hi]

/-! ### Regions -/

variable {addr length : Nat} {r : MemoryRegion}

theorem MemoryRegion.contains_iff :
    r.contains addr length = true ↔ r.start ≤ addr ∧ addr + length ≤ r.stop := by
  simp [MemoryRegion.contains]

theorem MemoryMap.regionAt_mem {map : MemoryMap} (h : map.regionAt addr length = some r) :
    r ∈ map.regions := mem_of_find?_eq_some h

theorem MemoryMap.regionAt_range {map : MemoryMap} (h : map.regionAt addr length = some r) :
    r.start ≤ addr ∧ addr + length ≤ r.stop := by
  have hcontains := find?_some h
  exact MemoryRegion.contains_iff.mp hcontains

theorem find?_contains {regions : List MemoryRegion}
    (hdisjoint : regions.Pairwise MemoryRegion.Apart) (hr : r ∈ regions)
    (hself : r.contains addr length = true) (hpos : 0 < length) :
    regions.find? (fun q => q.contains addr length) = some r := by
  induction regions with
  | nil => cases hr
  | cons q rest ih =>
      have hpair := pairwise_cons.mp hdisjoint
      rcases mem_cons.mp hr with heq | hmem
      · subst heq
        exact find?_cons_of_pos hself
      · have hother : ¬ q.contains addr length = true := by
          intro hq
          have hqrange := MemoryRegion.contains_iff.mp hq
          have hrange := MemoryRegion.contains_iff.mp hself
          rcases hpair.1 r hmem with hapart | hapart <;> omega
        rw [find?_cons, Bool.eq_false_iff.mpr hother]
        exact ih hpair.2 hmem

/-- Regions being apart, each octet of a range has the region of the range. -/
theorem MemoryMap.regionAt_octet {map : MemoryMap} (h : map.regionAt addr length = some r) {i : Nat}
    (hi : i < length) : map.regionAt (addr + i) 1 = some r := by
  have hrange := MemoryMap.regionAt_range h
  have hoctet : r.contains (addr + i) 1 = true :=
    MemoryRegion.contains_iff.mpr ⟨by omega, by omega⟩
  exact find?_contains map.disjoint (MemoryMap.regionAt_mem h) hoctet Nat.one_pos

/-! ### Field codecs -/

/-- The octets a field reads back as after it took `raw`. -/
def BindingField.kept (f : BindingField) (raw : Bytes) : Bytes :=
  match f.type with
  | .float32 => packU32 (quiet (unpackU32 raw))
  | _ => raw

/-- The field would take a signalling NaN. -/
def BindingField.TakesSignallingNaN (f : BindingField) (raw : Bytes) : Prop :=
  f.type = .float32 ∧ SignallingNaN (unpackU32 raw)

instance (f : BindingField) (raw : Bytes) : Decidable (f.TakesSignallingNaN raw) :=
  inferInstanceAs (Decidable (_ ∧ _))

/-- Truncation undoes the conversion of an integer that a double holds exactly. -/
theorem truncate_ofInt {n : Nat} (h : n < 2 ^ 32) :
    ∃ m e, FloatValue.ofInt n = some (.finite false m e) ∧ truncate false m e = n := by
  have hlen : bitLength n ≤ 32 := bitLength_le_iff.mpr h
  obtain ⟨k, hk⟩ : ∃ k : Nat, lastPlace 53 (-1074) n 0 = -(k : Int) :=
    ⟨(-lastPlace 53 (-1074) n 0).toNat, by unfold lastPlace; omega⟩
  have hround : roundAt (-(k : Int)) n 0 = n * 2 ^ k := by
    rw [roundAt, if_pos (by omega)]
    congr 2
    omega
  have hfits : bitLength (n * 2 ^ k) ≤ 32 + k := by
    refine bitLength_le_iff.mpr ?_
    rw [Nat.pow_add]
    exact Nat.mul_lt_mul_of_pos_right h (Nat.two_pow_pos k)
  refine ⟨n * 2 ^ k, -(k : Int), ?_, ?_⟩
  · simp only [FloatValue.ofInt, Int.natAbs_natCast, hk, hround]
    rw [if_pos (by omega)]
    simp
  · unfold truncate
    by_cases hzero : k = 0
    · subst hzero
      simp
    · have hneg : ¬ (0 : Int) ≤ -(k : Int) := by omega
      rw [if_neg hneg]
      simp [Nat.mul_div_cancel _ (Nat.two_pow_pos k)]

variable {f : BindingField}

theorem BindingField.part_length {offset : Nat} {payload : Bytes}
    (h : f.Covered offset payload.length) : (f.part offset payload).length = f.size := by
  have hlow := h.1
  have hhigh := h.2
  rw [part, slice, length_drop, length_take]
  omega

theorem packFloat_unpackFloat (raw : Bytes) :
    packFloat (unpackFloat raw) = .ok (packU32 (quiet (unpackU32 raw))) := by
  rw [packFloat, unpackFloat, toBits_ofBits (unpackU32_lt raw)]

/-- **A field's octets survive assignment.**  The value read from the octets packs to
`kept` again, also when the setter first turns it into a float. -/
theorem BindingField.encode_decode {raw : Bytes} (h : raw.length = f.size) :
    f.encode (f.decode raw) = .ok (f.kept raw) ∧
      ∃ x, (f.decode raw).toFloat = .ok x ∧ f.encode (.float x) = .ok (f.kept raw) := by
  have hunsigned : ∀ n : Nat, n < 2 ^ 32 → packUnsigned f.size n = .ok raw →
      (Value.int n).toInt >>= packUnsigned f.size = .ok raw ∧
        ∃ x, (Value.int n).toFloat = .ok x ∧
          (Value.float x).toInt >>= packUnsigned f.size = .ok raw := by
    intro n hn hpack
    obtain ⟨m, e, hof, htrunc⟩ := truncate_ofInt hn
    refine ⟨hpack, .finite false m e, by simp [Value.toFloat, hof], ?_⟩
    show packUnsigned f.size (truncate false m e) = .ok raw
    rw [htrunc]
    exact hpack
  unfold encode decode kept
  cases htype : f.type with
  | float32 =>
      have hpack := packFloat_unpackFloat raw
      exact ⟨hpack, unpackFloat raw, rfl, hpack⟩
  | uint32 =>
      have hsize : f.size = 4 := by simp [size, htype]
      refine hunsigned _ (unpackU32_lt raw) ?_
      rw [hsize, packUnsigned_four (unpackU32_lt raw), packU32_unpackU32 (h.trans hsize)]
  | uint16 =>
      have hsize : f.size = 2 := by simp [size, htype]
      have hlt := unpackU16_lt raw
      refine hunsigned _ (by omega) ?_
      rw [hsize, packUnsigned_two hlt, packU16_unpackU16 (h.trans hsize)]
  | uint8 =>
      have hsize : f.size = 1 := by simp [size, htype]
      have hlt := unpackU8_lt raw
      refine hunsigned _ (by omega) ?_
      rw [hsize, packUnsigned_one hlt, packU8_unpackU8 (h.trans hsize)]

theorem BindingField.kept_length {raw : Bytes} (h : raw.length = f.size) :
    (f.kept raw).length = f.size := by
  unfold kept
  cases htype : f.type with
  | float32 => simp [size, htype]
  | uint32 | uint16 | uint8 => exact h

/-- Only a signalling NaN is not kept as loaded. -/
theorem BindingField.kept_eq_iff {raw : Bytes} (h : raw.length = f.size) :
    f.kept raw = raw ↔ ¬ f.TakesSignallingNaN raw := by
  unfold kept BindingField.TakesSignallingNaN
  cases htype : f.type with
  | float32 =>
      have hlen : raw.length = 4 := by simpa [size, htype] using h
      have hquiet : quiet (unpackU32 raw) = unpackU32 raw ↔
          ¬ (FieldType.float32 = FieldType.float32 ∧ SignallingNaN (unpackU32 raw)) := by
        rw [quiet_eq_self_iff]
        simp
      rw [← hquiet]
      constructor
      · intro heq
        have hunpack := congrArg unpackU32 heq
        have hread := unpackU32_packU32_append (quiet (unpackU32 raw)) []
        rw [append_nil, Nat.mod_eq_of_lt (quiet_lt (unpackU32_lt raw))] at hread
        exact hread.symm.trans hunpack
      · intro heq
        rw [heq, packU32_unpackU32 hlen]
  | uint32 | uint16 | uint8 => simp

/-! ### Rendering -/

theorem BindingField.encode_length {value : Value} {packed : Bytes}
    (h : f.encode value = .ok packed) : packed.length = f.size := by
  have hint : (value.toInt >>= packUnsigned f.size) = .ok packed → packed.length = f.size := by
    intro hn
    cases hvalue : value.toInt with
    | error e =>
        rw [hvalue] at hn
        cases hn
    | ok n =>
        rw [hvalue] at hn
        exact packUnsigned_length hn
  unfold encode at h
  split at h
  · rename_i htype
    cases hvalue : value.toFloat with
    | error e =>
        rw [hvalue] at h
        cases h
    | ok x =>
        rw [hvalue] at h
        have hpack : packFloat x = .ok packed := h
        unfold packFloat at hpack
        split at hpack
        · cases hpack
          simp [size, htype]
        · cases hpack
  · exact hint h

/-- The field holds the octet at a position of the region. -/
def BindingField.Holds (f : BindingField) (pos : Nat) : Prop :=
  f.offset ≤ pos ∧ pos < f.offset + f.size

instance (f : BindingField) (pos : Nat) : Decidable (f.Holds pos) :=
  inferInstanceAs (Decidable (_ ∧ _))

theorem splice_length {image packed : Bytes} {offset : Nat}
    (h : offset + packed.length ≤ image.length) :
    (splice image offset packed).length = image.length := by
  simp only [splice, length_append, length_take, length_drop]
  omega

theorem getElem?_splice {image packed : Bytes} {offset : Nat}
    (h : offset + packed.length ≤ image.length) (pos : Nat) :
    (splice image offset packed)[pos]? =
      if offset ≤ pos ∧ pos < offset + packed.length then packed[pos - offset]?
      else image[pos]? := by
  have htake : (image.take offset).length = offset := by
    rw [length_take]
    omega
  unfold splice
  rw [append_assoc, getElem?_append, htake]
  split
  · rename_i hlow
    rw [if_neg (by omega), getElem?_take_of_lt hlow]
  · rename_i hlow
    rw [getElem?_append]
    split
    · rename_i hmid
      rw [if_pos (by omega)]
    · rename_i hmid
      rw [if_neg (by omega), getElem?_drop]
      congr 1
      omega

/-- What a rendering lays over an image, octet by octet. -/
structure Laid (render : BindingField → Except PyError (Option Bytes))
    (fields : List BindingField) (image shown : Bytes) : Prop where
  length : shown.length = image.length
  shows : ∀ f ∈ fields, ∃ packed, render f = .ok (some packed) ∧ packed.length = f.size ∧
    ∀ pos, f.Holds pos → shown[pos]? = packed[pos - f.offset]?
  rest : ∀ pos, (∀ f ∈ fields, ¬ f.Holds pos) → shown[pos]? = image[pos]?

/-- **Rendering lays every field at its place.** -/
theorem laid_of_renderFields {render : BindingField → Except PyError (Option Bytes)}
    {fields : List BindingField} {image shown : Bytes}
    (hsize : ∀ f packed, render f = .ok (some packed) → packed.length = f.size)
    (hinside : ∀ f ∈ fields, f.offset + f.size ≤ image.length)
    (hapart : fields.Pairwise BindingField.Apart)
    (h : renderFields render fields image = .ok (some shown)) :
    Laid render fields image shown := by
  induction fields generalizing image with
  | nil =>
      obtain rfl := Option.some.inj (Except.ok.inj h)
      exact ⟨rfl, nofun, fun _ _ => rfl⟩
  | cons f rest ih =>
      obtain ⟨hhead, hapart⟩ := pairwise_cons.mp hapart
      unfold renderFields at h
      split at h
      · cases h
      · cases h
      · rename_i packed hpacked
        have hlen := hsize f packed hpacked
        have hfit : f.offset + packed.length ≤ image.length := by
          rw [hlen]
          exact hinside f mem_cons_self
        have hsame := splice_length hfit
        have hlaid := ih (fun g hg => by
          rw [hsame]
          exact hinside g (mem_cons_of_mem _ hg)) hapart h
        have hother : ∀ g ∈ rest, ∀ pos, f.Holds pos → ¬ g.Holds pos := by
          intro g hg pos hf hgpos
          have hf1 := hf.1
          have hf2 := hf.2
          have hg1 := hgpos.1
          have hg2 := hgpos.2
          rcases (hhead g hg).1 with hbelow | habove <;> omega
        refine ⟨hlaid.length.trans hsame, ?_, ?_⟩
        · intro g hg
          rcases mem_cons.mp hg with rfl | hg
          · refine ⟨packed, hpacked, hlen, fun pos hpos => ?_⟩
            rw [hlaid.rest pos fun g' hg' => hother g' hg' pos hpos, getElem?_splice hfit]
            rw [if_pos (by rw [hlen]; exact hpos)]
          · exact hlaid.shows g hg
        · intro pos hnone
          rw [hlaid.rest pos fun g hg => hnone g (mem_cons_of_mem _ hg),
            getElem?_splice hfit]
          rw [if_neg (by rw [hlen]; exact hnone f mem_cons_self)]

/-- A rendering succeeds exactly when every field renders. -/
theorem renderFields_some_iff {render : BindingField → Except PyError (Option Bytes)}
    {fields : List BindingField} {image : Bytes} :
    (∃ shown, renderFields render fields image = .ok (some shown)) ↔
      ∀ f ∈ fields, ∃ packed, render f = .ok (some packed) := by
  induction fields generalizing image with
  | nil => simp [renderFields]
  | cons f rest ih =>
      unfold renderFields
      rw [forall_mem_cons]
      cases hf : render f with
      | error e => simp
      | ok result =>
          cases result with
          | none => simp
          | some packed => simpa using ih

/-! ### What a load assigns -/

section Assigns

variable {M : Type} (live : LiveModels M)

/-- The models differ at most in the given attributes of one of them. -/
def SameBut (model : String) (attrs : List String) (m m' : M) : Prop :=
  (∀ model', live.hasState m' model' = live.hasState m model') ∧
  ∀ model' attr, (model' = model → attr ∉ attrs) →
    live.getattr m' model' attr = live.getattr m model' attr

instance (model : String) (attrs : List String) : Std.Refl (SameBut live model attrs) :=
  ⟨fun _ => ⟨fun _ => rfl, fun _ _ _ => rfl⟩⟩

instance (model : String) (attrs : List String) : IsTrans M (SameBut live model attrs) :=
  ⟨fun _ _ _ h h' => ⟨fun model' => (h'.1 model').trans (h.1 model'),
    fun model' attr hne => (h'.2 model' attr hne).trans (h.2 model' attr hne)⟩⟩

theorem sameBut_setattr {model : String} {attrs : List String} {attr : String}
    (hmem : attr ∈ attrs) (m : M) (value : Value) :
    SameBut live model attrs m (live.setattr m model attr value) := by
  refine ⟨fun model' => live.hasState_setattr m model attr value model', fun model' attr' hne => ?_⟩
  apply live.getattr_setattr_ne
  intro heq
  obtain ⟨rfl, rfl⟩ := Prod.mk.inj heq
  exact hne rfl hmem

/-- The setter finds no attribute to assign. -/
def RegionBinding.Refuses (b : RegionBinding) (m : M) (f : BindingField) : Prop :=
  b.setter = "set_torque_gain" ∧ live.hasTorqueGain b.model = true ∧
    live.getattr m b.model f.attr = none

instance (b : RegionBinding) (m : M) (f : BindingField) : Decidable (b.Refuses live m f) :=
  inferInstanceAs (Decidable (_ ∧ _ ∧ _))

variable {b : RegionBinding} {f : BindingField}

/-- **One field of a load**: the setter refuses it, or the attribute takes a value that
renders as the field's octets kept. -/
theorem wp_writeField {offset : Nat} {payload : Bytes}
    (htarget : b.setter = "set_torque_gain" → torqueGainAttr f.setterKey = f.attr)
    (hcovered : f.Covered offset payload.length) (m : M) {Q : Unit → M → Prop}
    {E : PyError → M → Prop} :
    (b.Refuses live m f ∧ (wp (writeField live b offset payload f) Q E m ↔ E .valueError m)) ∨
    (¬ b.Refuses live m f ∧ ∃ value, f.encode value = .ok (f.kept (f.part offset payload)) ∧
      (wp (writeField live b offset payload f) Q E m ↔
        Q () (live.setattr m b.model f.attr value))) := by
  obtain ⟨hplain, x, hfloat, hset⟩ :=
    encode_decode (part_length hcovered)
  unfold writeField
  rw [if_pos hcovered]
  by_cases hsetter : b.setter = "set_torque_gain" ∧ live.hasTorqueGain b.model = true
  · simp only [hsetter, and_self, if_true]
    unfold setTorqueGain
    rw [htarget hsetter.1]
    cases hattr : live.getattr m b.model f.attr with
    | none =>
        refine .inl ⟨⟨hsetter.1, hsetter.2, hattr⟩, ?_⟩
        rw [wp_bind, wp_get, hattr, wp_throw]
    | some old =>
        refine .inr ⟨fun hrefuses => ?_, .float x, hset, ?_⟩
        · rw [hrefuses.2.2] at hattr
          cases hattr
        · rw [wp_bind, wp_get, hattr, wp_bind, hfloat, wp_fromExcept]
          simp
  · refine .inr ⟨fun hrefuses => hsetter ⟨hrefuses.1, hrefuses.2.1⟩, _, hplain, ?_⟩
    simp only [hsetter, if_false]
    exact Iff.rfl

theorem keeps_writeField
    (htarget : b.setter = "set_torque_gain" → torqueGainAttr f.setterKey = f.attr)
    {attrs : List String} (hmem : f.attr ∈ attrs) (offset : Nat) (payload : Bytes) :
    Keeps (SameBut live b.model attrs) (writeField live b offset payload f) := by
  by_cases hcovered : f.Covered offset payload.length
  · intro m
    rcases wp_writeField live htarget hcovered m with ⟨-, hwp⟩ | ⟨-, value, -, hwp⟩
    · rw [hwp]
      exact refl_of _ m
    · rw [hwp]
      exact sameBut_setattr live hmem m value
  · unfold writeField
    rw [if_neg hcovered]
    exact keeps_pure _

/-- A load into a bound region changes no attribute that its fields do not read. -/
theorem keeps_bindingWrite {r : MemoryRegion} {b : RegionBinding} (hfits : b.Fits r.size)
    (addr : Nat) (payload : Bytes) :
    Keeps (SameBut live b.model (b.fields.map attr))
      (bindingWrite live r b addr payload) := by
  apply keeps_bind keeps_get
  intro m
  apply keeps_ite
  · intro _
    apply keeps_forM
    intro f hf
    exact keeps_writeField live (fun hsetter => hfits.target hsetter f hf)
      (mem_map_of_mem hf) _ payload
  · intro _
    exact keeps_pure _

/-! ### How the binding renders afterwards -/

/-- A field after a load of `payload` at `offset`, in terms of the models before it. -/
def renderLoaded (m : M) (b : RegionBinding) (offset : Nat) (payload : Bytes)
    (f : BindingField) : Except PyError (Option Bytes) :=
  if f.Covered offset payload.length then
    if b.Refuses live m f then .ok none else .ok (some (f.kept (f.part offset payload)))
  else renderField live m b f

theorem renderField_of_encode {m : M} {value : Value} {packed : Bytes}
    (hattr : live.getattr m b.model f.attr = some value) (henc : f.encode value = .ok packed) :
    renderField live m b f = .ok (some packed) := by
  unfold renderField
  rw [hattr]
  cases value with
  | none =>
      unfold encode at henc
      split at henc <;> cases henc
  | int | float | other => simp only [henc]

theorem renderField_congr {m m' : M}
    (h : live.getattr m' b.model f.attr = live.getattr m b.model f.attr) :
    renderField live m' b f = renderField live m b f := by
  unfold renderField
  rw [h]

theorem renderLoaded_congr {m m' : M} {offset : Nat} {payload : Bytes}
    (h : live.getattr m' b.model f.attr = live.getattr m b.model f.attr) :
    renderLoaded live m' b offset payload f = renderLoaded live m b offset payload f := by
  have hrefuses : b.Refuses live m' f ↔ b.Refuses live m f := by
    unfold RegionBinding.Refuses
    rw [h]
  unfold renderLoaded
  rw [renderField_congr live h]
  simp only [hrefuses]

/-- A rendered field has the field's octets. -/
theorem renderField_length {m : M} {b : RegionBinding} {f : BindingField} {packed : Bytes}
    (h : renderField live m b f = .ok (some packed)) : packed.length = f.size := by
  unfold renderField at h
  split at h
  · cases h
  · cases h
  · split at h
    · rename_i henc
      obtain rfl := Option.some.inj (Except.ok.inj h)
      exact encode_length henc
    · cases h
    · cases h
    · cases h
    · cases h

theorem renderLoaded_length {m : M} {offset : Nat} {payload : Bytes} {packed : Bytes}
    (h : renderLoaded live m b offset payload f = .ok (some packed)) : packed.length = f.size := by
  unfold renderLoaded at h
  split at h
  · rename_i hcovered
    split at h
    · cases h
    · obtain rfl := Option.some.inj (Except.ok.inj h)
      exact kept_length (part_length hcovered)
  · exact renderField_length live h

theorem renderFields_congr {render render' : BindingField → Except PyError (Option Bytes)}
    {fields : List BindingField} (h : ∀ f ∈ fields, render f = render' f) (image : Bytes) :
    renderFields render fields image = renderFields render' fields image := by
  induction fields generalizing image with
  | nil => rfl
  | cons f rest ih =>
      unfold renderFields
      rw [h f mem_cons_self]
      split
      · rfl
      · rfl
      · exact ih (fun g hg => h g (mem_cons_of_mem _ hg)) _

/-- **How a load renders.**  Whichever way assigning the fields ends, the binding renders
afterwards as the loaded fields kept and the others as before. -/
theorem renderFields_write (offset : Nat) (payload : Bytes) (fields : List BindingField)
    (htarget : ∀ f ∈ fields, b.setter = "set_torque_gain" → torqueGainAttr f.setterKey = f.attr)
    (hattrs : fields.Pairwise fun f g => f.attr ≠ g.attr) {m : M}
    (hstate : live.hasState m b.model = true) :
    wp (fields.forM (writeField live b offset payload))
      (fun _ m' => ∀ image, renderFields (renderField live m' b) fields image =
        renderFields (renderLoaded live m b offset payload) fields image)
      (fun _ m' => ∀ image, renderFields (renderField live m' b) fields image =
        renderFields (renderLoaded live m b offset payload) fields image) m := by
  induction fields generalizing m with
  | nil => exact fun _ => rfl
  | cons f rest ih =>
      obtain ⟨hhead, hattrs⟩ := pairwise_cons.mp hattrs
      have htail : ∀ g ∈ rest, b.setter = "set_torque_gain" →
          torqueGainAttr g.setterKey = g.attr :=
        fun g hg => htarget g (mem_cons_of_mem _ hg)
      have hkeep : Keeps (SameBut live b.model (rest.map attr))
          (rest.forM (writeField live b offset payload)) :=
        keeps_forM rest fun g hg =>
          keeps_writeField live (htail g hg) (mem_map_of_mem hg) offset payload
      have hfresh : f.attr ∉ rest.map attr := by
        intro hmem
        obtain ⟨g, hg, heq⟩ := mem_map.mp hmem
        exact hhead g hg heq.symm
      -- what the later fields do, started where the first one has been dealt with
      have hrest : ∀ m₁, live.hasState m₁ b.model = true →
          renderField live m₁ b f = renderLoaded live m b offset payload f →
          (∀ g ∈ rest, renderLoaded live m₁ b offset payload g =
            renderLoaded live m b offset payload g) →
          wp (rest.forM (writeField live b offset payload))
            (fun _ m' => ∀ image, renderFields (renderField live m' b) (f :: rest) image =
              renderFields (renderLoaded live m b offset payload) (f :: rest) image)
            (fun _ m' => ∀ image, renderFields (renderField live m' b) (f :: rest) image =
              renderFields (renderLoaded live m b offset payload) (f :: rest) image) m₁ := by
        intro m₁ hstate₁ hfirst hlater
        have hstep : ∀ m', (∀ image, renderFields (renderField live m' b) rest image =
            renderFields (renderLoaded live m₁ b offset payload) rest image) →
            SameBut live b.model (rest.map attr) m₁ m' →
            ∀ image, renderFields (renderField live m' b) (f :: rest) image =
              renderFields (renderLoaded live m b offset payload) (f :: rest) image := by
          intro m' hrender hsame image
          have hf : renderField live m' b f = renderLoaded live m b offset payload f :=
            (renderField_congr live (hsame.2 b.model f.attr fun _ => hfresh)).trans hfirst
          unfold renderFields
          rw [hf]
          split
          · rfl
          · rfl
          · rw [hrender, renderFields_congr hlater]
        have hboth := wp_and (ih htail hattrs hstate₁) (hkeep m₁)
        exact wp_mono hboth (fun _ m' h => hstep m' h.1 h.2) (fun _ m' h => hstep m' h.1 h.2)
      show wp (writeField live b offset payload f >>= fun _ =>
        rest.forM (writeField live b offset payload)) _ _ m
      rw [wp_bind]
      by_cases hcovered : f.Covered offset payload.length
      · rcases wp_writeField live (htarget f mem_cons_self) hcovered m with
          ⟨hrefuses, hwp⟩ | ⟨haccepts, value, henc, hwp⟩
        · rw [hwp]
          intro image
          have hloaded : renderLoaded live m b offset payload f = .ok none := by
            rw [renderLoaded, if_pos hcovered, if_pos hrefuses]
          have hnow : renderField live m b f = .ok none := by
            unfold renderField
            rw [hrefuses.2.2]
          unfold renderFields
          rw [hloaded, hnow]
        · rw [hwp]
          have hsame : ∀ g ∈ rest, live.getattr (live.setattr m b.model f.attr value) b.model
              g.attr = live.getattr m b.model g.attr := by
            intro g hg
            apply live.getattr_setattr_ne
            intro heq
            exact hhead g hg (Prod.mk.inj heq).2.symm
          apply hrest
          · rw [live.hasState_setattr]
            exact hstate
          · rw [renderLoaded, if_pos hcovered, if_neg haccepts]
            exact renderField_of_encode live
              (live.getattr_setattr m b.model f.attr value hstate) henc
          · intro g hg
            exact renderLoaded_congr live (hsame g hg)
      · unfold writeField
        rw [if_neg hcovered, wp_pure]
        apply hrest m hstate
        · rw [renderLoaded, if_neg hcovered]
        · intro g _
          rfl

theorem RegionBinding.Fits.distinct {size : Nat} (h : b.Fits size) :
    b.fields.Pairwise fun f g => f.attr ≠ g.attr :=
  h.apart.imp fun hapart => hapart.2

/-- The image of the binding after a load into its region. -/
theorem bindingImage_write {r : MemoryRegion} (hfits : b.Fits r.size) (addr : Nat) (payload : Bytes)
    {m : M} (hstate : live.hasState m b.model = true) :
    wp (bindingWrite live r b addr payload)
      (fun _ m' => bindingImage live m' r b =
        renderFields (renderLoaded live m b (addr - r.start) payload) b.fields
          (replicate r.size 0))
      (fun _ m' => bindingImage live m' r b =
        renderFields (renderLoaded live m b (addr - r.start) payload) b.fields
          (replicate r.size 0)) m := by
  have hsame := keeps_bindingWrite live hfits addr payload m
  have hrender := renderFields_write live (addr - r.start) payload b.fields
    (fun f hf hsetter => hfits.target hsetter f hf) hfits.distinct hstate
  unfold bindingWrite at hsame ⊢
  rw [wp_bind, wp_get] at hsame ⊢
  rw [hstate] at hsame ⊢
  have himage : ∀ m', SameBut live b.model (b.fields.map attr) m m' →
      (∀ image, renderFields (renderField live m' b) b.fields image =
        renderFields (renderLoaded live m b (addr - r.start) payload) b.fields image) →
      bindingImage live m' r b =
        renderFields (renderLoaded live m b (addr - r.start) payload) b.fields
          (replicate r.size 0) := by
    intro m' hkeep hshown
    unfold bindingImage
    rw [hkeep.1 b.model, hstate, if_pos rfl]
    exact hshown _
  exact wp_mono (wp_and hsame hrender) (fun _ m' h => himage m' h.1 h.2)
    (fun _ m' h => himage m' h.1 h.2)

end Assigns

end Memory
