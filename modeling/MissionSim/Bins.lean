import Mathlib.Algebra.Order.BigOperators.Group.List
import Mathlib.Algebra.Order.Group.Defs

/-!
# Loads of bins

Entries are put into bins, one after the other, each with a size.  The load of a bin is the total
size of its entries.  Taking entries away never raises a load, and one more entry raises the load
of its bin alone.
-/

namespace Bins

variable {κ ν : Type} [DecidableEq κ]

section Load

variable [AddCommMonoid ν]

/-- What is in a bin. -/
def load (bin : κ) (entries : List (κ × ν)) : ν :=
  ((entries.filter fun e => e.1 = bin).map Prod.snd).sum

theorem load_append (bin : κ) (xs ys : List (κ × ν)) :
    load bin (xs ++ ys) = load bin xs + load bin ys := by
  unfold load
  rw [List.filter_append, List.map_append, List.sum_append]

theorem load_concat_same (bin : κ) (size : ν) (entries : List (κ × ν)) :
    load bin (entries ++ [(bin, size)]) = load bin entries + size := by
  simp [load]

theorem load_concat_other {bin other : κ} (h : other ≠ bin) (size : ν) (entries : List (κ × ν)) :
    load bin (entries ++ [(other, size)]) = load bin entries := by
  simp [load, h]

end Load

section Capacity

variable [AddCommMonoid ν] [PartialOrder ν]

/-- No bin holds more than it can. -/
def Within (capacity : κ → ν) (entries : List (κ × ν)) : Prop :=
  ∀ bin, load bin entries ≤ capacity bin

/-- One more entry is within what the bins can hold exactly when its own bin has the space. -/
theorem within_concat_iff {capacity : κ → ν} {entries : List (κ × ν)}
    (h : Within capacity entries) (bin : κ) (size : ν) :
    Within capacity (entries ++ [(bin, size)]) ↔ load bin entries + size ≤ capacity bin := by
  constructor
  · intro hwithin
    rw [← load_concat_same]
    exact hwithin bin
  · intro hspace other
    by_cases hsame : bin = other
    · subst hsame
      rw [load_concat_same]
      exact hspace
    · rw [load_concat_other hsame]
      exact h other

variable [IsOrderedAddMonoid ν]

/-- Taking entries away does not raise a load. -/
theorem load_sublist {xs ys : List (κ × ν)} (h : xs.Sublist ys) (hsizes : ∀ e ∈ ys, 0 ≤ e.2)
    (bin : κ) : load bin xs ≤ load bin ys := by
  apply List.Sublist.sum_le_sum ((h.filter _).map _)
  intro size hsize
  obtain ⟨e, he, rfl⟩ := List.mem_map.mp hsize
  exact hsizes e (List.mem_of_mem_filter he)

theorem Within.sublist {capacity : κ → ν} {xs ys : List (κ × ν)} (hys : Within capacity ys)
    (h : xs.Sublist ys) (hsizes : ∀ e ∈ ys, 0 ≤ e.2) : Within capacity xs :=
  fun bin => (load_sublist h hsizes bin).trans (hys bin)

end Capacity

end Bins
