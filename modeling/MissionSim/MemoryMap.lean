import MissionSim.Effects
import MissionSim.Python

/-!
# The on-board memory map and its patchable image

The address space of service 6: declared regions, and a sparse image whose pages
appear when they are first written.  A region may be bound to attributes of a
live subsystem model; its octets are then rendered from the model on every read,
and a write assigns only the fields that the written range covers wholly.

A map is built from regions that do not overlap, and from bindings whose fields
lie inside their region, apart from each other and each with an attribute of its
own; both are fields of `MemoryMap`, so lookups need not re-establish them.
-/

namespace Memory

open Octets Binary32 Python Effects

/-- Octets in one page of the store. -/
def pageSize : Nat := 256

/-- The access a region declares. -/
inductive Access where
  | ro
  | rw
  deriving DecidableEq, Repr

/-- What the unpatched octets of a region read as. -/
inductive FillKind where
  | zero
  | constant
  | addressHigh
  | addressXor
  deriving DecidableEq, Repr

/-- The machine type of a bound field. -/
inductive FieldType where
  | float32
  | uint32
  | uint16
  | uint8
  deriving DecidableEq, Repr

/-- Failure codes of the memory requests. -/
def errIllegalAddress : Nat := 0x0001

def errWriteProtected : Nat := 0x0002

def errBadArgument : Nat := 0x0003

def errLengthExceeded : Nat := 0x0004

/-- One live value exposed inside a bound region. -/
structure BindingField where
  offset : Nat
  attr : String
  type : FieldType := .float32
  key : String := ""
  deriving DecidableEq, Repr

/-- Octets the field takes. -/
def BindingField.size (f : BindingField) : Nat :=
  match f.type with
  | .float32 => 4
  | .uint32 => 4
  | .uint16 => 2
  | .uint8 => 1

/-- A region's tie to attributes of a live subsystem model. -/
structure RegionBinding where
  model : String
  fields : List BindingField
  setter : String := ""
  deriving DecidableEq, Repr

/-- One declared region. -/
structure MemoryRegion where
  name : String
  start : Nat
  size : Nat
  access : Access := .rw
  fillKind : FillKind := .zero
  fill : Nat := 0
  binding : Option RegionBinding := none
  deriving DecidableEq, Repr

namespace MemoryRegion

/-- Exclusive end address. -/
def stop (r : MemoryRegion) : Nat := r.start + r.size

def writable (r : MemoryRegion) : Bool := r.access == .rw

/-- Whether the region holds the whole range. -/
def contains (r : MemoryRegion) (addr length : Nat) : Bool :=
  decide (r.start ≤ addr) && decide (addr + length ≤ r.stop)

def fillByte (r : MemoryRegion) (addr : Nat) : UInt8 :=
  match r.fillKind with
  | .constant => UInt8.ofNat (r.fill &&& 0xFF)
  | .addressHigh => UInt8.ofNat ((addr >>> 8) &&& 0xFF)
  | .addressXor => UInt8.ofNat ((addr &&& 0xFF) ^^^ ((addr >>> 8) &&& 0xFF))
  | .zero => 0

/-- The two regions share no address. -/
def Apart (r r' : MemoryRegion) : Prop := r.stop ≤ r'.start ∨ r'.stop ≤ r.start

instance (r r' : MemoryRegion) : Decidable (Apart r r') := inferInstanceAs (Decidable (_ ∨ _))

end MemoryRegion

/-- `str.lower`. -/
def lowered (s : String) : String := String.ofList (s.toList.map Char.toLower)

/-- The attribute that `set_torque_gain` assigns for an axis. -/
def torqueGainAttr (axis : String) : String := "torque_gain_" ++ lowered axis

/-- The key handed to the setter: the declared one, or the attribute's name. -/
def BindingField.setterKey (f : BindingField) : String := if f.key = "" then f.attr else f.key

/-- The fields do not overlap and read different attributes. -/
def BindingField.Apart (f g : BindingField) : Prop :=
  (f.offset + f.size ≤ g.offset ∨ g.offset + g.size ≤ f.offset) ∧ f.attr ≠ g.attr

instance (f g : BindingField) : Decidable (f.Apart g) := inferInstanceAs (Decidable (_ ∧ _))

/-- A binding that a region of `size` octets can carry: its fields lie inside, apart from
each other, and read the attribute they write. -/
structure RegionBinding.Fits (b : RegionBinding) (size : Nat) : Prop where
  inside : ∀ f ∈ b.fields, f.offset + f.size ≤ size
  apart : b.fields.Pairwise BindingField.Apart
  target : b.setter = "set_torque_gain" → ∀ f ∈ b.fields, torqueGainAttr f.setterKey = f.attr

/-- Limits on one request. -/
structure MemoryLimits where
  maxLoadBytes : Nat := 512
  maxDumpBytes : Nat := 1024
  maxCheckBytes : Nat := 0x100000
  deriving DecidableEq, Repr

/-- The declared address space. -/
structure MemoryMap where
  regions : List MemoryRegion
  limits : MemoryLimits
  disjoint : regions.Pairwise MemoryRegion.Apart
  fits : ∀ r ∈ regions, ∀ b, r.binding = some b → b.Fits r.size

namespace MemoryMap

/-- The region wholly containing the range. -/
def regionAt (m : MemoryMap) (addr length : Nat) : Option MemoryRegion :=
  m.regions.find? fun r => r.contains addr length

def isMapped (m : MemoryMap) (addr length : Nat) : Bool := (m.regionAt addr length).isSome

end MemoryMap

/-! ### The default map -/

/-- The AOCS torque gains, one field an axis. -/
def torqueGainBinding : RegionBinding where
  model := "aocs"
  setter := "set_torque_gain"
  fields := [{ offset := 0, attr := "torque_gain_x", key := "x" },
    { offset := 4, attr := "torque_gain_y", key := "y" },
    { offset := 8, attr := "torque_gain_z", key := "z" }]

/-- The built-in layout. -/
def defaultRegions : List MemoryRegion :=
  [{ name := "boot_rom", start := 0x00000000, size := 0x10000, access := .ro,
     fillKind := .constant, fill := 0x55 },
   { name := "boot_backup", start := 0x00010000, size := 0x10000, access := .ro,
     fillKind := .constant, fill := 0x55 },
   { name := "app_a", start := 0x00100000, size := 0x80000, fillKind := .addressHigh },
   { name := "app_b", start := 0x00180000, size := 0x80000, fillKind := .addressHigh },
   { name := "config", start := 0x00200000, size := 0x20000, fillKind := .constant,
     fill := 0xAA },
   { name := "scratch_ram", start := 0x20000000, size := 0x40000, fillKind := .addressXor },
   { name := "aocs_gains", start := 0x20100000, size := 12,
     binding := some torqueGainBinding }]

theorem defaultRegions_disjoint : defaultRegions.Pairwise MemoryRegion.Apart := by decide

theorem torqueGainBinding_fits : torqueGainBinding.Fits 12 where
  inside := by decide
  apart := by decide
  target := fun _ => by decide

theorem defaultRegions_fit :
    ∀ r ∈ defaultRegions, ∀ b, r.binding = some b → b.Fits r.size := by
  intro r hr b hb
  simp only [defaultRegions, List.mem_cons, List.not_mem_nil, or_false] at hr
  rcases hr with rfl | rfl | rfl | rfl | rfl | rfl | rfl <;> cases hb
  exact torqueGainBinding_fits

/-- `MemoryMap.default`. -/
def defaultMap : MemoryMap where
  regions := defaultRegions
  limits := {}
  disjoint := defaultRegions_disjoint
  fits := defaultRegions_fit

/-! ### Live models -/

/-- Access to the attributes of the live subsystem models held in `M`: which models have
a state, what `getattr` finds there and what `setattr` leaves. -/
structure LiveModels (M : Type) where
  hasState : M → String → Bool
  getattr : M → String → String → Option Value
  setattr : M → String → String → Value → M
  hasTorqueGain : String → Bool
  hasState_setattr : ∀ m model attr value model',
    hasState (setattr m model attr value) model' = hasState m model'
  getattr_setattr : ∀ m model attr value, hasState m model →
    getattr (setattr m model attr value) model attr = some value
  getattr_setattr_ne : ∀ m model attr value model' attr', (model', attr') ≠ (model, attr) →
    getattr (setattr m model attr value) model' attr' = getattr m model' attr'

variable {M : Type} (live : LiveModels M)

/-- Models that hold plain attributes. -/
def plainModels (names : List String) (hasTorqueGain : String → Bool) :
    LiveModels (Dict (String × String) Value) where
  hasState := fun _ model => names.contains model
  getattr := fun m model attr => m.get? (model, attr)
  setattr := fun m model attr value => m.set (model, attr) value
  hasTorqueGain := hasTorqueGain
  hasState_setattr := fun _ _ _ _ _ => rfl
  getattr_setattr := fun m model attr value _ => Dict.get?_set_same m (model, attr) value
  getattr_setattr_ne := fun m _ _ value _ _ hne => Dict.get?_set_ne m hne value

/-- The value a field's octets stand for. -/
def BindingField.decode (f : BindingField) (raw : Bytes) : Value :=
  match f.type with
  | .float32 => .float (unpackFloat raw)
  | .uint32 => .int (unpackU32 raw)
  | .uint16 => .int (unpackU16 raw)
  | .uint8 => .int (unpackU8 raw)

/-- A field's octets for an attribute's value. -/
def BindingField.encode (f : BindingField) (value : Value) : Except PyError Bytes :=
  match f.type with
  | .float32 => value.toFloat >>= packFloat
  | _ => value.toInt >>= packUnsigned f.size

/-- One field's current octets: `none` where the binding gives up and the store is read
instead.  An overflow is not caught and leaves the read. -/
def renderField (m : M) (b : RegionBinding) (f : BindingField) : Except PyError (Option Bytes) :=
  match live.getattr m b.model f.attr with
  | none | some .none => .ok none
  | some value =>
      match f.encode value with
      | .ok packed => .ok (some packed)
      | .error .structError | .error .typeError | .error .valueError => .ok none
      | .error e => .error e

/-- `image[offset:offset + len(packed)] = packed`. -/
def splice (image : Bytes) (offset : Nat) (packed : Bytes) : Bytes :=
  image.take offset ++ packed ++ image.drop (offset + packed.length)

/-- Lay the fields over an image, in order, until one gives up. -/
def renderFields (render : BindingField → Except PyError (Option Bytes)) :
    List BindingField → Bytes → Except PyError (Option Bytes)
  | [], image => .ok (some image)
  | f :: rest, image =>
      match render f with
      | .error e => .error e
      | .ok none => .ok none
      | .ok (some packed) => renderFields render rest (splice image f.offset packed)

/-- `MemoryImage._binding_image`. -/
def bindingImage (m : M) (r : MemoryRegion) (b : RegionBinding) : Except PyError (Option Bytes) :=
  if live.hasState m b.model then
    renderFields (renderField live m b) b.fields (List.replicate r.size 0)
  else
    .ok none

/-- `set_torque_gain(axis, value)`. -/
def setTorqueGain (model axis : String) (value : Value) : EStateM PyError M Unit := do
  let m ← get
  match live.getattr m model (torqueGainAttr axis) with
  | none => throw .valueError
  | some _ =>
      let gain ← fromExcept value.toFloat
      set (live.setattr m model (torqueGainAttr axis) (.float gain))

/-- The field lies wholly in `length` octets from `offset` of its region. -/
def BindingField.Covered (f : BindingField) (offset length : Nat) : Prop :=
  offset ≤ f.offset ∧ f.offset + f.size ≤ offset + length

instance (f : BindingField) (offset length : Nat) : Decidable (f.Covered offset length) :=
  inferInstanceAs (Decidable (_ ∧ _))

/-- The octets of `payload`, loaded at `offset`, that fall on the field. -/
def BindingField.part (f : BindingField) (offset : Nat) (payload : Bytes) : Bytes :=
  slice payload (f.offset - offset) (f.offset - offset + f.size)

/-- One round of `_binding_write`: assign the field if the patch covers it. -/
def writeField (b : RegionBinding) (offset : Nat) (payload : Bytes) (f : BindingField) :
    EStateM PyError M Unit :=
  if f.Covered offset payload.length then
    let value := f.decode (f.part offset payload)
    if b.setter = "set_torque_gain" ∧ live.hasTorqueGain b.model then
      setTorqueGain live b.model f.setterKey value
    else
      modify fun m => live.setattr m b.model f.attr value
  else
    pure ()

/-- `MemoryImage._binding_write`. -/
def bindingWrite (r : MemoryRegion) (b : RegionBinding) (addr : Nat) (payload : Bytes) :
    EStateM PyError M Unit := do
  let m ← get
  if live.hasState m b.model then
    b.fields.forM (writeField live b (addr - r.start) payload)
  else
    pure ()

/-! ### The image -/

/-- One materialised page. -/
abbrev Page := Vector UInt8 pageSize

/-- Sparse memory: the map, and the pages written so far by their number. -/
structure MemoryImage where
  map : MemoryMap
  pages : Dict Nat Page

theorem mod_pageSize_lt (cur : Nat) : cur % pageSize < pageSize := Nat.mod_lt _ (by decide)

/-- A page's initial content: the fill of the region at its base, else of the region at
the address being written. -/
def freshPage (map : MemoryMap) (cur : Nat) : Page :=
  let base := cur / pageSize * pageSize
  let region := (map.regionAt base 1).or (map.regionAt cur 1)
  Vector.ofFn fun k =>
    match region with
    | some r => r.fillByte (base + k)
    | none => 0

/-- Store one octet, materialising its page. -/
def writeOctet (map : MemoryMap) (pages : Dict Nat Page) (cur : Nat) (byte : UInt8) :
    Dict Nat Page :=
  let page := (pages.get? (cur / pageSize)).getD (freshPage map cur)
  pages.set (cur / pageSize) (page.set (cur % pageSize) byte (mod_pageSize_lt cur))

/-- Store octets from an address on. -/
def writePages (map : MemoryMap) : Dict Nat Page → Nat → Bytes → Dict Nat Page
  | pages, _, [] => pages
  | pages, cur, byte :: rest => writePages map (writeOctet map pages cur byte) (cur + 1) rest

/-- `MemoryImage.write`. -/
def MemoryImage.write (addr : Nat) (payload : Bytes) :
    EStateM PyError (MemoryImage × M) Unit := do
  let (image, _) ← get
  let intoPages : EStateM PyError (MemoryImage × M) Unit :=
    modify fun (image, m) => ({ image with pages := writePages image.map image.pages addr payload }, m)
  match image.map.regionAt addr payload.length with
  | some r =>
      match r.binding with
      | some b => zoom Prod.snd (fun m s => (s.1, m)) (bindingWrite live r b addr payload)
      | none => intoPages
  | none => intoPages

/-- The octet a materialised page holds. -/
def pageOctet (pages : Dict Nat Page) (cur : Nat) : Option UInt8 :=
  (pages.get? (cur / pageSize)).map fun page => page[(⟨cur % pageSize, mod_pageSize_lt cur⟩ : Fin pageSize)]

/-- The octet of the store: a patched page over the region's fill. -/
def MemoryImage.stored (image : MemoryImage) (cur : Nat) : UInt8 :=
  match pageOctet image.pages cur with
  | some byte => byte
  | none =>
      match image.map.regionAt cur 1 with
      | some r => r.fillByte cur
      | none => 0

/-- One octet as memory reads it. -/
def MemoryImage.readOctet (image : MemoryImage) (m : M) (cur : Nat) : Except PyError UInt8 :=
  match image.map.regionAt cur 1 with
  | some r =>
      match r.binding with
      | some b =>
          match bindingImage live m r b with
          | .error e => .error e
          | .ok (some shown) => .ok (shown.getD (cur - r.start) 0)
          | .ok none => .ok (image.stored cur)
      | none => .ok (image.stored cur)
  | none => .ok (image.stored cur)

/-- `MemoryImage.read`. -/
def MemoryImage.read (image : MemoryImage) (m : M) (addr length : Nat) : Except PyError Bytes :=
  (List.range length).mapM fun i => image.readOctet live m (addr + i)

end Memory
