import Mathlib.Data.List.Basic
import Mathlib.Data.Nat.Bitwise
import Mathlib.Tactic.Common

/-!
# Octet strings and big-endian fields

Every protocol unit of the mission is an octet string whose fields are packed
big-endian, most significant octet first.  This file fixes the two directions
used everywhere: `packN` writes an unsigned number that already fits its field,
`unpackN` reads one back from the front of a string.  Both are total; a caller
that can overflow a field checks the range before it packs.

Bit masks and shifts are kept as the protocols state them; `mask_eq_mod` and
`shiftRight_eq_div` turn them into arithmetic for `omega`.
-/

namespace Octets

/-- An octet string. -/
abbrev Bytes := List UInt8

/-- One octet holding `n` modulo 256. -/
def packU8 (n : Nat) : Bytes := [UInt8.ofNat n]

/-- Two octets, big-endian. -/
def packU16 (n : Nat) : Bytes := packU8 (n / 2 ^ 8) ++ packU8 n

/-- Four octets, big-endian. -/
def packU32 (n : Nat) : Bytes := packU16 (n / 2 ^ 16) ++ packU16 n

/-- The octet at the front, zero on the empty string. -/
def unpackU8 : Bytes → Nat
  | a :: _ => a.toNat
  | [] => 0

/-- The big-endian number in the first two octets. -/
def unpackU16 : Bytes → Nat
  | a :: b :: _ => a.toNat * 2 ^ 8 + b.toNat
  | _ => 0

/-- The big-endian number in the first four octets. -/
def unpackU32 : Bytes → Nat
  | a :: b :: c :: d :: _ =>
      ((a.toNat * 2 ^ 8 + b.toNat) * 2 ^ 8 + c.toNat) * 2 ^ 8 + d.toNat
  | _ => 0

/-- The octets from position `i` up to, not including, position `j`. -/
def slice (bs : Bytes) (i j : Nat) : Bytes := (bs.take j).drop i

/-- The slices of `size` elements of a list, the last one possibly shorter. -/
def blocksOf {α : Type} (size : Nat) (data : List α) : List (List α) :=
  (List.range ((data.length + (size - 1)) / size)).map fun i => (data.drop (size * i)).take size

variable (n : Nat)

@[simp] theorem packU8_length : (packU8 n).length = 1 := rfl

@[simp] theorem packU16_length : (packU16 n).length = 2 := rfl

@[simp] theorem packU32_length : (packU32 n).length = 4 := rfl

theorem toNat_ofNat : (UInt8.ofNat n).toNat = n % 2 ^ 8 := by
  simp

open List

/-- Reading a packed sixteen-bit field gives the number modulo the field. -/
@[simp] theorem unpackU16_packU16_append (rest : Bytes) :
    unpackU16 (packU16 n ++ rest) = n % 2 ^ 16 := by
  simp only [packU16, packU8, cons_append, nil_append, unpackU16, toNat_ofNat]
  omega

@[simp] theorem unpackU16_packU16 : unpackU16 (packU16 n) = n % 2 ^ 16 := by
  simpa using unpackU16_packU16_append n []

/-- Reading a packed thirty-two-bit field gives the number modulo the field. -/
@[simp] theorem unpackU32_packU32_append (rest : Bytes) :
    unpackU32 (packU32 n ++ rest) = n % 2 ^ 32 := by
  simp only [packU32, packU16, packU8, cons_append, nil_append, unpackU32,
    toNat_ofNat]
  omega

/-- Reading a packed octet gives the number modulo the octet. -/
theorem unpackU8_packU8_append (rest : Bytes) :
    unpackU8 (packU8 n ++ rest) = n % 2 ^ 8 := toNat_ofNat n

/-! What lies behind a packed field. -/

theorem drop_packU8 (k n : Nat) (rest : Bytes) : (packU8 n ++ rest).drop (k + 1) = rest.drop k := rfl

theorem drop_packU16 (k n : Nat) (rest : Bytes) :
    (packU16 n ++ rest).drop (k + 2) = rest.drop k := rfl

theorem drop_packU32 (k n : Nat) (rest : Bytes) :
    (packU32 n ++ rest).drop (k + 4) = rest.drop k := rfl

theorem unpackU16_append {bs : Bytes} (more : Bytes) (h : 2 ≤ bs.length) :
    unpackU16 (bs ++ more) = unpackU16 bs := by
  match bs, h with
  | _ :: _ :: _, _ => rfl

theorem slice_append {bs : Bytes} (more : Bytes) {i j : Nat} (h : j ≤ bs.length) :
    slice (bs ++ more) i j = slice bs i j := by
  rw [slice, slice, take_append_of_le_length h]

theorem unpackU16_lt (bs : Bytes) : unpackU16 bs < 2 ^ 16 := by
  unfold unpackU16
  split
  · rename_i a b _
    have ha := a.toNat_lt
    have hb := b.toNat_lt
    omega
  · decide

theorem unpackU32_lt (bs : Bytes) : unpackU32 bs < 2 ^ 32 := by
  unfold unpackU32
  split
  · rename_i a b c d _
    have ha := a.toNat_lt
    have hb := b.toNat_lt
    have hc := c.toNat_lt
    have hd := d.toNat_lt
    omega
  · decide

theorem unpackU8_lt (bs : Bytes) : unpackU8 bs < 2 ^ 8 := by
  unfold unpackU8
  split
  · rename_i a _
    exact a.toNat_lt
  · decide

theorem ofNat_eq_of_mod {n : Nat} {a : UInt8} (h : n % 2 ^ 8 = a.toNat) : UInt8.ofNat n = a :=
  UInt8.toNat_inj.mp ((toNat_ofNat n).trans h)

/-- What holds of every number below 256 holds of every octet. -/
theorem forall_octet {P : UInt8 → Prop} (h : ∀ n < 256, P (UInt8.ofNat n)) (byte : UInt8) :
    P byte := by
  have hbyte := h byte.toNat byte.toNat_lt
  rwa [UInt8.ofNat_toNat] at hbyte

theorem packU8_unpackU8 {raw : Bytes} (h : raw.length = 1) : packU8 (unpackU8 raw) = raw := by
  match raw, h with
  | [a], _ => simp [packU8, unpackU8]

theorem packU16_unpackU16 {raw : Bytes} (h : raw.length = 2) : packU16 (unpackU16 raw) = raw := by
  match raw, h with
  | [a, b], _ =>
      have ha := a.toNat_lt
      have hb := b.toNat_lt
      simp only [packU16, packU8, unpackU16, cons_append, nil_append, cons.injEq,
        and_true]
      exact ⟨ofNat_eq_of_mod (by omega), ofNat_eq_of_mod (by omega)⟩

theorem packU32_unpackU32 {raw : Bytes} (h : raw.length = 4) : packU32 (unpackU32 raw) = raw := by
  match raw, h with
  | [a, b, c, d], _ =>
      have ha := a.toNat_lt
      have hb := b.toNat_lt
      have hc := c.toNat_lt
      have hd := d.toNat_lt
      simp only [packU32, packU16, packU8, unpackU32, cons_append, nil_append,
        cons.injEq, and_true]
      exact ⟨ofNat_eq_of_mod (by omega), ofNat_eq_of_mod (by omega), ofNat_eq_of_mod (by omega),
        ofNat_eq_of_mod (by omega)⟩

/-- Masking with `2 ^ k - 1` keeps the residue modulo `2 ^ k`. -/
theorem mask_eq_mod {m : Nat} (k : Nat) (h : m + 1 = 2 ^ k) (n : Nat) :
    n &&& m = n % 2 ^ k := by
  rw [← Nat.and_two_pow_sub_one_eq_mod, ← h, Nat.add_sub_cancel]

theorem shiftRight_eq_div (n k : Nat) : n >>> k = n / 2 ^ k :=
  Nat.shiftRight_eq_div_pow n k

/-- A field placed above lower bits that do not reach it is their sum. -/
theorem shiftLeft_or_eq_add {low : Nat} (k high : Nat) (h : low < 2 ^ k) :
    high <<< k ||| low = high * 2 ^ k + low := by
  rw [← Nat.shiftLeft_add_eq_or_of_lt h, Nat.shiftLeft_eq]

/-! ### Blocks -/

section Blocks

variable {α : Type} {size : Nat}

@[simp] theorem blocksOf_length (data : List α) :
    (blocksOf size data).length = (data.length + (size - 1)) / size := by
  simp [blocksOf]

theorem blocksOf_short {data : List α} (hne : data ≠ []) (h : data.length ≤ size) :
    blocksOf size data = [data] := by
  have hpos := length_pos_iff.mpr hne
  have hcount : (data.length + (size - 1)) / size = 1 :=
    Nat.div_eq_of_lt_le (by omega) (by omega)
  simp [blocksOf, hcount, take_of_length_le h]

theorem blocksOf_append (hpos : 0 < size) {block : List α} (h : block.length = size)
    (rest : List α) : blocksOf size (block ++ rest) = block :: blocksOf size rest := by
  have hcount : ((block ++ rest).length + (size - 1)) / size =
      (rest.length + (size - 1)) / size + 1 := by
    rw [length_append, h, ← Nat.add_div_right _ hpos]
    congr 1
    omega
  rw [blocksOf, hcount, range_succ_eq_map, map_cons, map_map]
  congr 1
  · rw [Nat.mul_zero, drop_zero, take_left' h]
  · refine map_congr_left fun i _ => ?_
    simp only [Function.comp_apply, Nat.succ_eq_add_one]
    have hskip : size * (i + 1) = block.length + size * i := by
      rw [h, Nat.mul_add, Nat.mul_one, Nat.add_comm]
    rw [hskip, ← drop_drop, drop_left]

/-- **Induction over blocks.**  A list is empty, a short last block, or a full block and
a rest. -/
theorem block_induction (hpos : 0 < size) {P : List α → Prop} (nil : P [])
    (short : ∀ block, block ≠ [] → block.length < size → P block)
    (full : ∀ block rest, block.length = size → P rest → P (block ++ rest))
    (data : List α) : P data := by
  induction hn : data.length using Nat.strong_induction_on generalizing data with
  | _ n ih =>
      by_cases hfull : size ≤ data.length
      · rw [← take_append_drop size data]
        refine full _ _ (length_take_of_le hfull) ?_
        refine ih (data.drop size).length ?_ _ rfl
        rw [length_drop]
        omega
      · by_cases hnil : data = []
        · exact hnil ▸ nil
        · exact short data hnil (Nat.not_le.mp hfull)

/-- The blocks of a whole number of blocks are full. -/
theorem length_of_mem_blocksOf (hpos : 0 < size) {data : List α} (h : size ∣ data.length) :
    ∀ block ∈ blocksOf size data, block.length = size := by
  induction data using block_induction hpos with
  | nil =>
      intro block hblock
      simp [blocksOf, Nat.div_eq_of_lt (Nat.sub_lt hpos Nat.one_pos)] at hblock
  | short block hne hshort =>
      have := Nat.le_of_dvd (length_pos_iff.mpr hne) h
      omega
  | full first rest hfirst ih =>
      rw [length_append, hfirst] at h
      rw [blocksOf_append hpos hfirst]
      intro block hblock
      cases mem_cons.mp hblock with
      | inl heq => rw [heq, hfirst]
      | inr hrest => exact ih ((Nat.dvd_add_right (Nat.dvd_refl size)).mp h) block hrest

/-- Blocks put together again. -/
theorem flatten_blocksOf (hpos : 0 < size) (data : List α) :
    (blocksOf size data).flatten = data := by
  induction data using block_induction hpos with
  | nil => simp [blocksOf, Nat.div_eq_of_lt (Nat.sub_lt hpos Nat.one_pos)]
  | short block hne hshort => simp [blocksOf_short hne hshort.le]
  | full first rest hfirst ih => rw [blocksOf_append hpos hfirst, flatten_cons, ih]

theorem length_flatten_of_full {blocks : List (List α)}
    (h : ∀ block ∈ blocks, block.length = size) :
    blocks.flatten.length = blocks.length * size := by
  induction blocks with
  | nil => exact (Nat.zero_mul size).symm
  | cons block blocks ih =>
      rw [flatten_cons, length_append, h block mem_cons_self,
        ih fun b hb => h b (mem_cons_of_mem _ hb), length_cons, Nat.succ_mul,
        Nat.add_comm]

/-- Full blocks taken apart again. -/
theorem blocksOf_flatten (hpos : 0 < size) {blocks : List (List α)}
    (h : ∀ block ∈ blocks, block.length = size) : blocksOf size blocks.flatten = blocks := by
  induction blocks with
  | nil => simp [blocksOf, Nat.div_eq_of_lt (Nat.sub_lt hpos Nat.one_pos)]
  | cons block blocks ih =>
      rw [flatten_cons, blocksOf_append hpos (h block mem_cons_self),
        ih fun b hb => h b (mem_cons_of_mem _ hb)]

end Blocks

end Octets
