import Mathlib.Algebra.Order.BigOperators.Group.List
import Mathlib.Algebra.Order.Group.Defs
import Mathlib.Data.List.Nodup
import Mathlib.Tactic.Abel

/-!
# Books of a store

A store files entries of a key and a size, and keeps two totals beside them: what is used, and how
many there are.  The totals may count more than the entries, by a *surplus* of space and an *excess*
of number.

Filing and withdrawing keep surplus and excess.  Dropping an entry without its totals adds to both.
-/

namespace Ledger

variable {κ ν : Type}

/-- The entries of a store, and its totals. -/
@[ext]
structure Books (κ ν : Type) where
  used : ν
  count : Int
  entries : List (κ × ν)

namespace Books

/-- The keys, oldest first. -/
def keys (b : Books κ ν) : List κ := b.entries.map Prod.fst

/-- What is counted beyond the entries. -/
def excess (b : Books κ ν) : Int := b.count - b.entries.length

/-- The oldest entry is dropped, and still counts. -/
def dropOldest (b : Books κ ν) : Books κ ν := { b with entries := b.entries.tail }

open List

theorem dropOldest_excess {b : Books κ ν} (h : b.entries ≠ []) :
    b.dropOldest.excess = b.excess + 1 := by
  have hpos : 0 < b.entries.length := length_pos_iff.mpr h
  simp only [dropOldest, excess, length_tail]
  omega

section Entries

variable [DecidableEq κ]

/-- The entry of a key. -/
def entryOf (key : κ) (b : Books κ ν) : Option (κ × ν) :=
  b.entries.find? fun e => e.1 = key

/-- The entry of a key stands somewhere among the entries, and goes from there. -/
theorem entryOf_split {key : κ} {e : κ × ν} {b : Books κ ν} (h : b.entryOf key = some e) :
    ∃ older newer, b.entries = older ++ e :: newer ∧
      (b.entries.eraseP fun e => e.1 = key) = older ++ newer := by
  obtain ⟨hkey, older, newer, hentries, hother⟩ := find?_eq_some_iff_append.mp h
  refine ⟨older, newer, hentries, ?_⟩
  rw [hentries, eraseP_append_right _ fun a ha => by simpa using hother a ha]
  exact congrArg (older ++ ·) (eraseP_cons_of_pos hkey)

end Entries

variable [AddCommGroup ν]

/-- What the entries take. -/
def total (b : Books κ ν) : ν := (b.entries.map Prod.snd).sum

/-- What is used beyond the entries. -/
def surplus (b : Books κ ν) : ν := b.used - b.total

/-! ### Filing -/

/-- One more entry. -/
def file (key : κ) (size : ν) (b : Books κ ν) : Books κ ν :=
  ⟨b.used + size, b.count + 1, b.entries ++ [(key, size)]⟩

@[simp] theorem file_surplus (key : κ) (size : ν) (b : Books κ ν) :
    (b.file key size).surplus = b.surplus := by
  simp [file, surplus, total]

@[simp] theorem file_excess (key : κ) (size : ν) (b : Books κ ν) :
    (b.file key size).excess = b.excess := by
  simp [file, excess]

theorem file_nodup {key : κ} {size : ν} {b : Books κ ν} :
    (b.file key size).keys.Nodup ↔ b.keys.Nodup ∧ key ∉ b.keys := by
  unfold keys file
  rw [map_append, map_singleton, ← concat_eq_append, nodup_concat]
  exact and_comm

/-! ### Withdrawing -/

section Withdraw

variable [LinearOrder ν] [DecidableEq κ]

/-- The space of an entry is freed, and the entry stays. -/
def free (size : ν) (b : Books κ ν) : Books κ ν := { b with used := max 0 (b.used - size) }

/-- The space of an entry is freed, and the entry goes. -/
def withdraw (key : κ) (size : ν) (b : Books κ ν) : Books κ ν :=
  ⟨max 0 (b.used - size), max 0 (b.count - 1), b.entries.eraseP fun e => e.1 = key⟩

variable {b : Books κ ν}

theorem withdraw_nodup (key : κ) (size : ν) (h : b.keys.Nodup) : (b.withdraw key size).keys.Nodup :=
  h.sublist (eraseP_sublist.map _)

theorem withdraw_excess {key : κ} {e : κ × ν} {b : Books κ ν} (h : b.entryOf key = some e)
    (hexcess : 0 ≤ b.excess) : (b.withdraw key e.2).excess = b.excess := by
  obtain ⟨older, newer, hentries, herase⟩ := entryOf_split h
  have hlength := congrArg length hentries
  have hlength' := congrArg length herase
  simp only [length_append, length_cons] at hlength hlength'
  unfold excess at hexcess ⊢
  unfold withdraw
  simp only [hlength']
  omega

variable [IsOrderedAddMonoid ν]

/-- An entry takes no more than is used. -/
theorem entry_le_used {key : κ} {e : κ × ν} (h : b.entryOf key = some e) (hsurplus : 0 ≤ b.surplus)
    (hsizes : ∀ e ∈ b.entries, 0 ≤ e.2) : e.2 ≤ b.used := by
  have htotal : e.2 ≤ b.total := by
    refine single_le_sum ?_ _ (mem_map_of_mem (mem_of_find?_eq_some h))
    intro size hsize
    obtain ⟨e', he', rfl⟩ := mem_map.mp hsize
    exact hsizes e' he'
  exact htotal.trans (sub_nonneg.mp hsurplus)

theorem withdraw_surplus {key : κ} {e : κ × ν} (h : b.entryOf key = some e)
    (hsurplus : 0 ≤ b.surplus) (hsizes : ∀ e ∈ b.entries, 0 ≤ e.2) :
    (b.withdraw key e.2).surplus = b.surplus := by
  have hused : 0 ≤ b.used - e.2 := sub_nonneg.mpr (entry_le_used h hsurplus hsizes)
  obtain ⟨older, newer, hentries, herase⟩ := entryOf_split h
  unfold surplus total withdraw
  simp only [herase]
  rw [max_eq_right hused, hentries]
  simp only [map_append, map_cons, sum_append, sum_cons]
  abel

/-- To free the space of an entry that stays takes it from the surplus. -/
theorem free_surplus {key : κ} {e : κ × ν} (h : b.entryOf key = some e) (hsurplus : 0 ≤ b.surplus)
    (hsizes : ∀ e ∈ b.entries, 0 ≤ e.2) : (b.free e.2).surplus = b.surplus - e.2 := by
  have hused : 0 ≤ b.used - e.2 := sub_nonneg.mpr (entry_le_used h hsurplus hsizes)
  unfold surplus total free
  simp only
  rw [max_eq_right hused]
  abel

end Withdraw

end Books

end Ledger
