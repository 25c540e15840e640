import MissionSim.Binary32
import MissionSim.Octets

/-!
# The language of the source

The parts of Python the on-board software relies on, as documented: the
exceptions its arithmetic and its packing raise, numbers and their conversions,
big-endian packing with range checks, and dictionaries that remember the order
of insertion.
-/

namespace Python

open Octets Binary32 List

/-- The exceptions the modelled code meets. -/
inductive PyError where
  | structError
  | overflowError
  | valueError
  | typeError
  | recursionError
  | other (text : String)
  deriving DecidableEq, Repr

/-- A value held in a parameter or an attribute.  `other` is one that neither `float`
nor `int` accepts. -/
inductive Value where
  | none
  | int (n : Int)
  | float (x : FloatValue)
  | other
  deriving DecidableEq, Repr

/-- `float(value)`. -/
def Value.toFloat : Value → Except PyError FloatValue
  | .int n =>
      match FloatValue.ofInt n with
      | some x => .ok x
      | Option.none => .error .overflowError
  | .float x => .ok x
  | .none | .other => .error .typeError

/-- `int(value)`. -/
def Value.toInt : Value → Except PyError Int
  | .int n => .ok n
  | .float (.finite negative m e) => .ok (truncate negative m e)
  | .float (.infinite _) => .error .overflowError
  | .float (.nan _ _) => .error .valueError
  | .none | .other => .error .typeError

/-- `bool(value)` of a floating-point value: only a zero is false. -/
def truthy : FloatValue → Bool
  | .finite _ m _ => m != 0
  | _ => true

/-- `bool(value)`. -/
def Value.truthy : Value → Bool
  | .none => false
  | .int n => n != 0
  | .float x => Python.truthy x
  | .other => true

/-- `round(x)`. -/
def roundInt : FloatValue → Except PyError Int
  | .finite negative m e => .ok (nearest negative m e)
  | .infinite _ => .error .overflowError
  | .nan _ _ => .error .valueError

/-- A number in upper-case hexadecimal, filled with zeros to a width. -/
def hexUpper (width n : Nat) : String :=
  let digits := (Nat.toDigits 16 n).map Char.toUpper
  String.ofList (List.replicate (width - digits.length) '0' ++ digits)

/-! ### Exceptions -/

/-- What a sequence of two steps returns. -/
theorem bind_eq_ok {ε α β : Type} {x : Except ε α} {f : α → Except ε β} {b : β} :
    (x >>= f) = .ok b ↔ ∃ a, x = .ok a ∧ f a = .ok b := by
  cases x with
  | error e => exact ⟨nofun, fun ⟨_, h, _⟩ => nomatch h⟩
  | ok a => exact ⟨fun h => ⟨a, rfl, h⟩, fun ⟨_, ha, h⟩ => Except.ok.inj ha ▸ h⟩

/-! ### `struct` -/

/-- Pack an unsigned field of the given number of octets. -/
def packUnsigned (octets : Nat) (n : Int) : Except PyError Bytes :=
  if 0 ≤ n ∧ n < 2 ^ (8 * octets) then
    .ok ((List.range octets).map fun i => UInt8.ofNat (n.toNat / 2 ^ (8 * (octets - 1 - i))))
  else
    .error .structError

/-- Pack a field of the given number of octets in two's complement. -/
def packSigned (octets : Nat) (n : Int) : Except PyError Bytes :=
  if -2 ^ (8 * octets - 1) ≤ n ∧ n < 2 ^ (8 * octets - 1) then
    packUnsigned octets (n % 2 ^ (8 * octets))
  else
    .error .structError

/-- Pack a single-precision field. -/
def packFloat (x : FloatValue) : Except PyError Bytes :=
  match x.toBits with
  | some bits => .ok (packU32 bits)
  | none => .error .overflowError

/-- Read a single-precision field. -/
def unpackFloat (bs : Bytes) : FloatValue := FloatValue.ofBits (unpackU32 bs)

theorem packUnsigned_one {n : Nat} (h : n < 2 ^ 8) : packUnsigned 1 n = .ok (packU8 n) := by
  have hrange : 0 ≤ (n : Int) ∧ (n : Int) < 2 ^ (8 * 1) := by omega
  rw [packUnsigned, if_pos hrange]
  simp [packU8]

theorem packUnsigned_two {n : Nat} (h : n < 2 ^ 16) : packUnsigned 2 n = .ok (packU16 n) := by
  have hrange : 0 ≤ (n : Int) ∧ (n : Int) < 2 ^ (8 * 2) := by omega
  rw [packUnsigned, if_pos hrange]
  simp [packU16, packU8, range_succ]

theorem packUnsigned_four {n : Nat} (h : n < 2 ^ 32) : packUnsigned 4 n = .ok (packU32 n) := by
  have hrange : 0 ≤ (n : Int) ∧ (n : Int) < 2 ^ (8 * 4) := by omega
  rw [packUnsigned, if_pos hrange]
  simp [packU32, packU16, packU8, range_succ, Nat.div_div_eq_div_mul]

theorem packUnsigned_length {octets : Nat} {n : Int} {bs : Bytes}
    (h : packUnsigned octets n = .ok bs) : bs.length = octets := by
  unfold packUnsigned at h
  split at h
  · cases h
    rw [length_map, length_range]
  · cases h

theorem packFloat_length {x : FloatValue} {bs : Bytes} (h : packFloat x = .ok bs) :
    bs.length = 4 := by
  unfold packFloat at h
  split at h
  · exact Except.ok.inj h ▸ packU32_length _
  · cases h

/-! ### Dictionaries -/

/-- A dictionary: its items in the order in which their keys were first inserted. -/
@[ext]
structure Dict (κ ν : Type) where
  items : List (κ × ν)
  nodup : (items.map Prod.fst).Nodup

namespace Dict

variable {κ ν : Type}

/-- The dictionary without items. -/
def empty : Dict κ ν := ⟨[], List.nodup_nil⟩

instance : Inhabited (Dict κ ν) := ⟨empty⟩

/-- The keys, oldest first. -/
def keys (d : Dict κ ν) : List κ := d.items.map Prod.fst

/-- The values, in the order of their keys. -/
def values (d : Dict κ ν) : List ν := d.items.map Prod.snd

/-- The number of items. -/
def size (d : Dict κ ν) : Nat := d.items.length

theorem size_eq_keys (d : Dict κ ν) : d.size = d.keys.length := (length_map _).symm

variable {items : List (κ × ν)}

theorem nodup_filter (p : κ × ν → Bool) (h : (items.map Prod.fst).Nodup) :
    ((items.filter p).map Prod.fst).Nodup :=
  h.sublist (filter_sublist.map _)

theorem nodup_mapItems {ν' : Type} (f : κ → ν → ν') (h : (items.map Prod.fst).Nodup) :
    ((items.map fun item => (item.1, f item.1 item.2)).map Prod.fst).Nodup := by
  rw [map_map]
  exact h

/-- The values made anew from each item. -/
def mapItems {ν' : Type} (f : κ → ν → ν') (d : Dict κ ν) : Dict κ ν' :=
  ⟨d.items.map fun item => (item.1, f item.1 item.2), nodup_mapItems f d.nodup⟩

variable [DecidableEq κ]

/-- `d.get(key)`. -/
def get? (d : Dict κ ν) (key : κ) : Option ν := d.items.lookup key

/-- `key in d`. -/
def contains (d : Dict κ ν) (key : κ) : Bool := (d.get? key).isSome

/-- The items after `d[key] = value`: in place, or at the end for a new key. -/
def assign (key : κ) (value : ν) : List (κ × ν) → List (κ × ν)
  | [] => [(key, value)]
  | item :: rest => if item.1 = key then (key, value) :: rest else item :: assign key value rest

theorem mem_keys_assign {key other : κ} {value : ν}
    (h : other ∈ (assign key value items).map Prod.fst) :
    other = key ∨ other ∈ items.map Prod.fst := by
  induction items with
  | nil => simpa [assign] using h
  | cons item rest ih =>
      unfold assign at h
      split at h
      · rename_i heq
        rcases mem_cons.mp h with hhead | htail
        · exact .inl hhead
        · exact .inr (mem_cons_of_mem _ htail)
      · rcases mem_cons.mp h with hhead | htail
        · exact .inr (hhead ▸ mem_cons_self)
        · exact (ih htail).imp_right (mem_cons_of_mem _)

theorem nodup_assign (key : κ) (value : ν) (h : (items.map Prod.fst).Nodup) :
    ((assign key value items).map Prod.fst).Nodup := by
  induction items with
  | nil => simp [assign]
  | cons item rest ih =>
      have hparts := nodup_cons.mp h
      unfold assign
      split
      · rename_i heq
        exact nodup_cons.mpr ⟨heq ▸ hparts.1, hparts.2⟩
      · rename_i hne
        refine nodup_cons.mpr ⟨fun hmem => ?_, ih hparts.2⟩
        rcases mem_keys_assign hmem with heq | hold
        · exact hne heq
        · exact hparts.1 hold

/-- `d[key] = value`. -/
def set (d : Dict κ ν) (key : κ) (value : ν) : Dict κ ν :=
  ⟨assign key value d.items, nodup_assign key value d.nodup⟩

/-- `d.pop(key, None)`. -/
def erase (d : Dict κ ν) (key : κ) : Dict κ ν :=
  ⟨d.items.filter fun item => item.1 ≠ key, nodup_filter _ d.nodup⟩

@[simp] theorem get?_empty (key : κ) : (empty : Dict κ ν).get? key = none := rfl

theorem lookup_assign_same (key : κ) (value : ν) (items : List (κ × ν)) :
    (assign key value items).lookup key = some value := by
  induction items with
  | nil => simp [assign]
  | cons item rest ih =>
      unfold assign
      split
      · simp
      · rename_i hne
        have hkey : (key == item.1) = false := by simpa using Ne.symm hne
        rw [lookup_cons, hkey]
        exact ih

theorem lookup_assign_ne {key other : κ} (hne : other ≠ key) (value : ν)
    (items : List (κ × ν)) : (assign key value items).lookup other = items.lookup other := by
  have hkey : (other == key) = false := by simpa using hne
  induction items with
  | nil => simp [assign, lookup_cons, hkey]
  | cons item rest ih =>
      obtain ⟨first, old⟩ := item
      unfold assign
      split
      · rename_i heq
        have hfirst : first = key := heq
        simp only [lookup_cons, hfirst, hkey]
      · simp only [lookup_cons, ih]

@[simp] theorem get?_set_same (d : Dict κ ν) (key : κ) (value : ν) :
    (d.set key value).get? key = some value := lookup_assign_same key value d.items

theorem get?_set_ne (d : Dict κ ν) {key other : κ} (hne : other ≠ key) (value : ν) :
    (d.set key value).get? other = d.get? other := lookup_assign_ne hne value d.items

variable {key : κ}

theorem lookup_eq_some_iff {value : ν} (h : (items.map Prod.fst).Nodup) :
    items.lookup key = some value ↔ (key, value) ∈ items := by
  induction items with
  | nil => simp
  | cons item rest ih =>
      obtain ⟨first, old⟩ := item
      have hparts := nodup_cons.mp h
      by_cases heq : key = first
      · subst heq
        have habsent : (key, value) ∉ rest := by
          intro hmem
          have hkey : (key, value).1 ∈ rest.map Prod.fst := mem_map_of_mem hmem
          exact hparts.1 hkey
        simp [habsent, eq_comm]
      · have hkey : (key == first) = false := by simpa using heq
        simp [lookup_cons, hkey, heq, ih hparts.2]

variable {d : Dict κ ν}

/-- Looking up finds exactly the items. -/
theorem get?_eq_some_iff {value : ν} :
    d.get? key = some value ↔ (key, value) ∈ d.items := lookup_eq_some_iff d.nodup

theorem get?_erase (d : Dict κ ν) (key other : κ) :
    (d.erase key).get? other = if other = key then none else d.get? other := by
  refine Option.ext fun value => ?_
  rw [get?_eq_some_iff, erase, mem_filter, ← get?_eq_some_iff]
  by_cases heq : other = key
  · simp [heq]
  · simp [heq]

theorem assign_of_not_mem (value : ν) (h : key ∉ items.map Prod.fst) :
    assign key value items = items ++ [(key, value)] := by
  induction items with
  | nil => rfl
  | cons item rest ih =>
      have hne : item.1 ≠ key := fun heq => h (heq ▸ mem_cons_self)
      rw [assign, if_neg hne, ih fun hmem => h (mem_cons_of_mem _ hmem)]
      rfl

/-- A new key goes to the end. -/
theorem keys_set_of_not_mem (h : key ∉ d.keys) (value : ν) :
    (d.set key value).keys = d.keys ++ [key] := by
  show (assign key value d.items).map Prod.fst = d.keys ++ [key]
  rw [assign_of_not_mem value h, map_append]
  rfl

/-- The keys after assigning to a key that is there. -/
theorem assign_keys_of_mem (value : ν) (h : key ∈ items.map Prod.fst) :
    (assign key value items).map Prod.fst = items.map Prod.fst := by
  induction items with
  | nil => cases h
  | cons item rest ih =>
      unfold assign
      split
      · rename_i heq
        simp [heq]
      · rename_i hne
        rcases mem_cons.mp h with hhead | htail
        · exact absurd hhead.symm hne
        · exact congrArg (item.1 :: ·) (ih htail)

theorem keys_erase_sublist (d : Dict κ ν) (key : κ) : (d.erase key).keys.Sublist d.keys :=
  filter_sublist.map _

theorem mem_keys_iff : key ∈ d.keys ↔ ∃ value, d.get? key = some value := by
  rw [keys, mem_map]
  constructor
  · intro ⟨item, hmem, heq⟩
    exact ⟨item.2, get?_eq_some_iff.mpr (heq ▸ hmem)⟩
  · intro ⟨value, hget⟩
    exact ⟨(key, value), get?_eq_some_iff.mp hget, rfl⟩

theorem contains_iff_mem_keys : d.contains key = true ↔ key ∈ d.keys := by
  rw [mem_keys_iff, contains, Option.isSome_iff_exists]

/-- The size after an assignment. -/
theorem size_set (d : Dict κ ν) (key : κ) (value : ν) :
    (d.set key value).size = if d.contains key then d.size else d.size + 1 := by
  rw [size_eq_keys, size_eq_keys]
  by_cases hmem : d.contains key = true
  · rw [if_pos hmem]
    exact congrArg length (assign_keys_of_mem value (contains_iff_mem_keys.mp hmem))
  · rw [if_neg hmem, keys_set_of_not_mem (fun hkey => hmem (contains_iff_mem_keys.mpr hkey)) value]
    simp

theorem size_erase_le (d : Dict κ ν) (key : κ) : (d.erase key).size ≤ d.size :=
  length_filter_le _ _

theorem contains_eq_false_iff : d.contains key = false ↔ d.get? key = none := by
  unfold contains
  cases d.get? key <;> simp

theorem assign_lookup {value : ν} (h : items.lookup key = some value) :
    assign key value items = items := by
  induction items with
  | nil => cases h
  | cons item rest ih =>
      obtain ⟨first, old⟩ := item
      unfold assign
      rw [lookup_cons] at h
      by_cases heq : first = key
      · subst heq
        rw [beq_self_eq_true] at h
        rw [if_pos rfl, Option.some.inj h]
      · have hkey : (key == first) = false := by simpa using Ne.symm heq
        rw [hkey] at h
        rw [if_neg heq, ih h]

/-- Assigning what is there changes nothing. -/
theorem set_get? {value : ν} (h : d.get? key = some value) : d.set key value = d := by
  obtain ⟨items, nodup⟩ := d
  have hitems : assign key value items = items := assign_lookup h
  simp only [set, hitems]

theorem get?_mapItems {ν' : Type} (f : κ → ν → ν') (d : Dict κ ν) (key : κ) :
    (d.mapItems f).get? key = (d.get? key).map (f key) := by
  obtain ⟨items, nodup⟩ := d
  show (items.map fun item => (item.1, f item.1 item.2)).lookup key =
    (items.lookup key).map (f key)
  clear nodup
  induction items with
  | nil => rfl
  | cons item rest ih =>
      obtain ⟨first, value⟩ := item
      simp only [map_cons, lookup_cons]
      cases heq : key == first with
      | true =>
          rw [eq_of_beq heq]
          rfl
      | false => exact ih

theorem get?_erase_all (keys : List κ) (d : Dict κ ν) (key : κ) :
    (keys.foldl erase d).get? key = if key ∈ keys then none else d.get? key := by
  induction keys generalizing d with
  | nil => rw [foldl_nil, if_neg not_mem_nil]
  | cons first rest ih =>
      rw [foldl_cons, ih, get?_erase]
      by_cases heq : key = first
      · simp [heq]
      · simp [heq]

/-- Every value is replaced by what `f` makes of it, or dropped. -/
theorem get?_sweep (f : ν → Option ν) (d : Dict κ ν) (key : κ) :
    (((d.items.filter fun item => (f item.2).isNone).map Prod.fst).foldl erase
      (d.mapItems fun _ value => (f value).getD value)).get? key = (d.get? key).bind f := by
  rw [get?_erase_all, get?_mapItems]
  cases hget : d.get? key with
  | none =>
      split_ifs
      · rfl
      · rfl
  | some value =>
      have hmem : key ∈ (d.items.filter fun item => (f item.2).isNone).map Prod.fst ↔
          f value = none := by
        rw [mem_map]
        constructor
        · rintro ⟨⟨_, other⟩, hfilter, rfl⟩
          obtain ⟨hitem, hnone⟩ := mem_filter.mp hfilter
          obtain rfl := Option.some.inj ((get?_eq_some_iff.mpr hitem).symm.trans hget)
          exact Option.isNone_iff_eq_none.mp hnone
        · intro hnone
          exact ⟨(key, value), mem_filter.mpr ⟨get?_eq_some_iff.mp hget,
            Option.isNone_iff_eq_none.mpr hnone⟩, rfl⟩
      rw [Option.map_some, Option.bind_some]
      split_ifs with hdropped
      · exact (hmem.mp hdropped).symm
      · cases hvalue : f value with
        | none => exact absurd (hmem.mpr hvalue) hdropped
        | some value' => rfl

end Dict

end Python
