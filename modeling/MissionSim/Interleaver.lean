import MissionSim.Octets
import Mathlib.Data.List.Flatten
import Mathlib.Tactic.Linarith
import Mathlib.Tactic.Ring

/-!
# The block interleaver

The interleaver fills its data up with zeros to a matrix of as many rows as its depth, reads the
matrix by columns, and cuts what it read to the length of the data.  The deinterleaver fills up what
it received, and reads the transposed matrix.

What the cut takes off is the fill only where the fill is read last.  Elsewhere it takes off data,
and the deinterleaver has zeros in their places.
-/

namespace Ccsds

open Octets List

/-! ### The interleaver -/

structure BlockInterleaver where
  depth : Nat
  positive : 1 ≤ depth

namespace BlockInterleaver

/-- `__init__(depth)`. -/
def create (depth : Int) : BlockInterleaver where
  depth := (max 1 depth).toNat
  positive := by omega

/-- `np.frombuffer(padded).reshape(rows, cols).T.flatten()`. -/
def readColumns (rows cols : Nat) (padded : Bytes) : Bytes :=
  (List.range cols).flatMap fun c => (List.range rows).map fun r => padded.getD (r * cols + c) 0

variable (b : BlockInterleaver)

/-- Columns of the matrix for a number of bytes. -/
def width (n : Nat) : Nat := (n + b.depth - 1) / b.depth

/-- Data and zeros that complete the matrix. -/
def padded (data : Bytes) : Bytes :=
  data ++ List.replicate (b.width data.length * b.depth - data.length) 0

def interleave (data : Bytes) : Bytes :=
  if b.depth ≤ 1 then data
  else (readColumns b.depth (b.width data.length) (b.padded data)).take data.length

def deinterleave (data : Bytes) : Bytes :=
  if b.depth ≤ 1 then data
  else (readColumns (b.width data.length) b.depth (b.padded data)).take data.length

/-! ### Places -/

/-- Where the interleaver puts a byte of `n`. -/
def place (n i : Nat) : Nat := i % b.width n * b.depth + i / b.width n

/-- The matrix holds all bytes, and one row less does not. -/
theorem width_spec (n : Nat) : n ≤ b.width n * b.depth ∧ b.width n * b.depth < n + b.depth := by
  have hpos := b.positive
  have hdiv := Nat.div_add_mod (n + b.depth - 1) b.depth
  have hmod := Nat.mod_lt (n + b.depth - 1) hpos
  unfold width
  rw [Nat.mul_comm]
  omega

theorem width_pos {n : Nat} (h : 0 < n) : 0 < b.width n := by
  have hspec := b.width_spec n
  rcases Nat.eq_zero_or_pos (b.width n) with hzero | hpos
  · rw [hzero, Nat.zero_mul] at hspec
    omega
  · exact hpos

variable {n i : Nat}

/-- Row and column of a byte. -/
theorem row_lt (h : i < n) : i / b.width n < b.depth := by
  have hspec := b.width_spec n
  exact Nat.div_lt_of_lt_mul (by omega)

/-- A place has its row and its column. -/
theorem place_parts (h : i < n) :
    b.place n i % b.depth = i / b.width n ∧ b.place n i / b.depth = i % b.width n := by
  have hrow := b.row_lt h
  unfold place
  refine ⟨Nat.mul_add_mod_of_lt hrow, ?_⟩
  rw [Nat.mul_comm, Nat.mul_add_div b.positive, Nat.div_eq_of_lt hrow, Nat.add_zero]

/-- The byte at a place is the one that was put there. -/
theorem place_inverse (h : i < n) :
    b.place n i % b.depth * b.width n + b.place n i / b.depth = i := by
  obtain ⟨hmod, hdiv⟩ := b.place_parts h
  rw [hmod, hdiv, Nat.mul_comm]
  exact Nat.div_add_mod i (b.width n)

theorem place_lt (h : i < n) : b.place n i < b.width n * b.depth := by
  have hcol : i % b.width n < b.width n := Nat.mod_lt _ (b.width_pos (by omega))
  have hrow := b.row_lt h
  calc b.place n i < i % b.width n * b.depth + b.depth := Nat.add_lt_add_left hrow _
    _ = (i % b.width n + 1) * b.depth := (Nat.succ_mul _ _).symm
    _ ≤ b.width n * b.depth := Nat.mul_le_mul_right _ hcol

/-! ### Reading by columns -/

theorem flatMap_range {α : Type} (f : Nat → Nat → α) {rows : Nat} (hrows : 0 < rows) (cols : Nat) :
    ((range cols).flatMap fun c => (range rows).map (f c)) =
      (range (cols * rows)).map fun k => f (k / rows) (k % rows) := by
  induction cols with
  | zero => rw [Nat.zero_mul, range_zero, flatMap_nil, map_nil]
  | succ cols ih =>
      rw [range_succ, flatMap_append, ih, Nat.succ_mul, range_add, map_append,
        flatMap_singleton, map_map]
      refine congrArg _ (map_congr_left fun r hr => ?_)
      have hr' := mem_range.mp hr
      show f cols r = f ((cols * rows + r) / rows) ((cols * rows + r) % rows)
      rw [Nat.mul_add_mod_of_lt hr', Nat.mul_comm, Nat.mul_add_div hrows, Nat.div_eq_of_lt hr',
        Nat.add_zero]

theorem readColumns_get {rows cols k : Nat} (hrows : 0 < rows) (h : k < cols * rows)
    (padded : Bytes) :
    (readColumns rows cols padded)[k]? = some (padded.getD (k % rows * cols + k / rows) 0) := by
  unfold readColumns
  rw [flatMap_range (fun c r => padded.getD (r * cols + c) 0) hrows, getElem?_map,
    getElem?_range h, Option.map_some]

theorem readColumns_length (rows cols : Nat) (padded : Bytes) :
    (readColumns rows cols padded).length = cols * rows := by
  unfold readColumns
  simp

/-- Beyond the data there are zeros. -/
theorem padded_getD (data : Bytes) (i : Nat) : (b.padded data).getD i 0 = data.getD i 0 := by
  unfold padded
  rw [getD_eq_getElem?_getD, getD_eq_getElem?_getD, getElem?_append]
  split
  · rfl
  · rename_i hout
    rw [getElem?_replicate, getElem?_eq_none (Nat.le_of_not_lt hout)]
    split <;> rfl

variable {b}

theorem interleave_length (data : Bytes) : (b.interleave data).length = data.length := by
  have hspec := b.width_spec data.length
  unfold interleave
  split
  · rfl
  · rw [length_take, readColumns_length, Nat.min_eq_left hspec.1]

/-- At depth one every byte stays in its place. -/
theorem place_of_shallow (hdepth : b.depth ≤ 1) (h : i < n) : b.place n i = i := by
  have hone : b.depth = 1 := Nat.le_antisymm hdepth b.positive
  have hwidth : b.width n = n := by
    unfold width
    rw [hone, Nat.add_sub_cancel, Nat.div_one]
  unfold place
  rw [hwidth, hone, Nat.mul_one, Nat.mod_eq_of_lt h, Nat.div_eq_of_lt h, Nat.add_zero]

/-- The interleaver puts a byte in its place, or takes it off. -/
theorem interleave_get {data : Bytes} {i : Nat} (h : i < data.length) :
    (b.interleave data).getD (b.place data.length i) 0 =
      if b.place data.length i < data.length then data.getD i 0 else 0 := by
  by_cases hin : b.place data.length i < data.length
  · rw [if_pos hin, getD_eq_getElem?_getD]
    by_cases hdepth : b.depth ≤ 1
    · rw [interleave, if_pos hdepth, place_of_shallow hdepth h, getD_eq_getElem?_getD]
    · rw [interleave, if_neg hdepth, getElem?_take_of_lt hin,
        readColumns_get b.positive (b.place_lt h), b.place_inverse h, Option.getD_some, padded_getD]
  · have hlength := interleave_length (b := b) data
    rw [if_neg hin, getD_eq_getElem?_getD,
      getElem?_eq_none (by rw [hlength]; exact Nat.le_of_not_lt hin)]
    rfl

/-- **What comes back of a byte.** -/
theorem deinterleave_get {data : Bytes} {i : Nat} (h : i < data.length) :
    (b.deinterleave (b.interleave data))[i]? =
      some (if b.place data.length i < data.length then data.getD i 0 else 0) := by
  have hlength := interleave_length (b := b) data
  by_cases hdepth : b.depth ≤ 1
  · have hplace := place_of_shallow hdepth h
    rw [deinterleave, if_pos hdepth, interleave, if_pos hdepth, hplace, if_pos h,
      getElem?_eq_getElem h, getD_eq_getElem _ _ h]
  · have hspec := b.width_spec data.length
    have hcell : i < b.depth * b.width data.length := by
      rw [Nat.mul_comm]
      exact Nat.lt_of_lt_of_le h hspec.1
    rw [deinterleave, if_neg hdepth, hlength, getElem?_take_of_lt h,
      readColumns_get (b.width_pos (by omega)) hcell, padded_getD]
    exact congrArg some (interleave_get h)

theorem deinterleave_length (data : Bytes) :
    (b.deinterleave (b.interleave data)).length = data.length := by
  have hspec := b.width_spec data.length
  have hlength := interleave_length (b := b) data
  unfold deinterleave
  split
  · exact hlength
  · rw [hlength, length_take, readColumns_length, Nat.mul_comm, Nat.min_eq_left hspec.1]

/-- The data comes back exactly when every byte taken off is zero. -/
theorem deinterleave_interleave_eq (data : Bytes) :
    b.deinterleave (b.interleave data) = data ↔
      ∀ i < data.length, data.length ≤ b.place data.length i → data.getD i 0 = 0 := by
  constructor
  · intro hsame i hi hout
    have hget := deinterleave_get (b := b) hi
    rw [hsame, if_neg (Nat.not_lt.mpr hout), getElem?_eq_getElem hi] at hget
    rw [getD_eq_getElem _ _ hi]
    exact Option.some.inj hget
  · intro hzero
    refine ext_getElem? fun i => ?_
    by_cases hi : i < data.length
    · rw [deinterleave_get hi, getElem?_eq_getElem hi, ← getD_eq_getElem data 0 hi]
      by_cases hin : b.place data.length i < data.length
      · rw [if_pos hin]
      · rw [if_neg hin, hzero i hi (Nat.le_of_not_lt hin)]
    · rw [getElem?_eq_none (by rw [deinterleave_length]; omega),
        getElem?_eq_none (by omega)]

/-! ### Lengths -/

variable (b) in
/-- The fill is read last. -/
def Fits (n : Nat) : Prop := n ≤ b.depth ∨ n % b.depth = 0 ∨ n % b.depth + 1 = b.depth

instance (n : Nat) : Decidable (b.Fits n) := inferInstanceAs (Decidable (_ ∨ _ ∨ _))

/-- **No byte is taken off where the fill is read last.** -/
theorem place_lt_of_fits (hfits : b.Fits n) (h : i < n) : b.place n i < n := by
  have hspec := b.width_spec n
  have hplace := b.place_lt h
  have hdivision := Nat.div_add_mod n b.depth
  rcases hfits with hshallow | hwhole | hshort
  · have hone : b.width n = 1 := by
      have hpos := b.width_pos (n := n) (by omega)
      have htwo : b.width n < 2 := by
        refine Nat.lt_of_mul_lt_mul_right (a := b.depth) ?_
        omega
      omega
    unfold place
    rw [hone, Nat.mod_one, Nat.zero_mul, Nat.zero_add, Nat.div_one]
    exact h
  · have hfull : b.width n ≤ n / b.depth := by
      refine Nat.le_of_lt_succ (Nat.lt_of_mul_lt_mul_right (a := b.depth) ?_)
      rw [Nat.succ_mul, Nat.mul_comm (n / b.depth)]
      omega
    have hcells := Nat.mul_le_mul_right b.depth hfull
    rw [Nat.mul_comm (n / b.depth)] at hcells
    omega
  · have hfull : b.width n ≤ n / b.depth + 1 := by
      refine Nat.le_of_lt_succ (Nat.lt_of_mul_lt_mul_right (a := b.depth) ?_)
      rw [Nat.succ_mul, Nat.succ_mul, Nat.mul_comm (n / b.depth)]
      omega
    have hcells := Nat.mul_le_mul_right b.depth hfull
    rw [Nat.succ_mul, Nat.mul_comm (n / b.depth)] at hcells
    -- the last place of all is that of the fill
    have hlast : b.place n i ≠ n := by
      intro heq
      have hinverse := b.place_inverse h
      rw [heq] at hinverse
      have hcols : (n % b.depth + 1) * b.width n = n + 1 := by
        rw [hshort, Nat.mul_comm]
        omega
      rw [Nat.succ_mul] at hcols
      omega
    omega

/-- **Elsewhere some byte is taken off.** -/
theorem exists_place_ge {n : Nat} (hfits : ¬ b.Fits n) : ∃ i < n, n ≤ b.place n i := by
  obtain ⟨hdeep, hfits⟩ := not_or.mp hfits
  obtain ⟨hrest, hshort⟩ := not_or.mp hfits
  have hspec := b.width_spec n
  have hdivision := Nat.div_add_mod n b.depth
  have hmod := Nat.mod_lt n b.positive
  have hcols : 1 ≤ n / b.depth := (Nat.one_le_div_iff b.positive).mpr (by omega)
  have hwidth : b.width n = n / b.depth + 1 := by
    refine Nat.le_antisymm (Nat.le_of_lt_succ (Nat.lt_of_mul_lt_mul_right (a := b.depth) ?_))
      (Nat.lt_of_mul_lt_mul_right (a := b.depth) ?_)
    · rw [Nat.succ_mul, Nat.succ_mul, Nat.mul_comm (n / b.depth)]
      omega
    · rw [Nat.mul_comm (n / b.depth)]
      omega
  -- the byte in the first row that the last column has filled up
  refine ⟨n % b.depth * b.width n + n / b.depth, ?_, ?_⟩
  · have hless : (n % b.depth + 1) * (n / b.depth) < b.depth * (n / b.depth) :=
      Nat.mul_lt_mul_of_pos_right (by omega) (by omega)
    rw [Nat.succ_mul] at hless
    rw [hwidth, Nat.mul_succ]
    omega
  · have hlt : n / b.depth < b.width n := by omega
    unfold place
    rw [Nat.mul_add_mod_of_lt hlt, Nat.mul_comm (n % b.depth),
      Nat.mul_add_div (by omega), Nat.div_eq_of_lt hlt, Nat.add_zero, Nat.mul_comm (n / b.depth)]
    omega

/-- **The data comes back exactly when its length fits, or what is taken off is all zeros.** -/
theorem deinterleave_interleave_iff (b : BlockInterleaver) (data : Bytes) :
    b.deinterleave (b.interleave data) = data ↔
      b.Fits data.length ∨
        ∀ i < data.length, data.length ≤ b.place data.length i → data.getD i 0 = 0 := by
  rw [deinterleave_interleave_eq]
  constructor
  · exact Or.inr
  · rintro (hfits | hzero)
    · intro i hi hout
      exact absurd (place_lt_of_fits hfits hi) (Nat.not_lt.mpr hout)
    · exact hzero

/-- **Every string of a length comes back exactly when the length fits.** -/
theorem comes_back_iff (n : Nat) :
    (∀ data : Bytes, data.length = n → b.deinterleave (b.interleave data) = data) ↔ b.Fits n := by
  constructor
  · intro hall
    by_contra hfits
    obtain ⟨i, hi, hout⟩ := exists_place_ge hfits
    have hback := hall (replicate n 1) length_replicate
    rw [deinterleave_interleave_eq, length_replicate] at hback
    have hzero := hback i hi hout
    rw [getD_eq_getElem _ _ (by rwa [length_replicate]), getElem_replicate] at hzero
    cases hzero
  · rintro hfits data rfl
    exact (deinterleave_interleave_iff b data).mpr (Or.inl hfits)

/-- Six bytes at the default depth of five. -/
theorem six_not_back :
    (create 5).deinterleave ((create 5).interleave [1, 2, 3, 4, 5, 6]) ≠ [1, 2, 3, 4, 5, 6] := by
  decide

end BlockInterleaver

end Ccsds
