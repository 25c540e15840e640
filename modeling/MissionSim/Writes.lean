import Mathlib.Data.List.Nodup
import Mathlib.Logic.Function.Basic
import Mathlib.Tactic.Common

/-!
# Writing several entries

Entries are written into a store one after another.  A write may stop short: it leaves its entry
as it was or with something else, and nothing after it is written.  Over entries that differ the
store is as before just where everything written was there already.
-/

namespace Writes

variable {κ ν : Type}

/-- How a write ends. -/
inductive Outcome (ν : Type) where
  | done
  | stopped (left : Option ν)
  deriving DecidableEq

/-- Is every write done? -/
def Complete (ends : κ → Outcome ν) (writes : List (κ × ν)) : Prop :=
  ∀ entry ∈ writes, ends entry.1 = .done

/-- What is really written: everything up to the first write that stops, and what that one
leaves. -/
def stored (ends : κ → Outcome ν) : List (κ × ν) → List (κ × ν)
  | [] => []
  | entry :: rest =>
      match ends entry.1 with
      | .done => entry :: stored ends rest
      | .stopped (some left) => [(entry.1, left)]
      | .stopped none => []

variable {ends : κ → Outcome ν} {writes : List (κ × ν)}

theorem complete_cons {entry : κ × ν} :
    Complete ends (entry :: writes) ↔ ends entry.1 = .done ∧ Complete ends writes :=
  List.forall_mem_cons

theorem stored_of_complete (h : Complete ends writes) : stored ends writes = writes := by
  induction writes with
  | nil => rfl
  | cons entry rest ih =>
      obtain ⟨hentry, hrest⟩ := complete_cons.mp h
      simp only [stored, hentry, ih hrest]

theorem keys_stored_sublist (ends : κ → Outcome ν) (writes : List (κ × ν)) :
    ((stored ends writes).map Prod.fst).Sublist (writes.map Prod.fst) := by
  induction writes with
  | nil => exact List.Sublist.slnil
  | cons entry rest ih =>
      unfold stored
      split
      · exact ih.cons_cons entry.1
      · exact (List.nil_sublist _).cons_cons entry.1
      · exact List.nil_sublist _

variable [DecidableEq κ]

/-- The store after writing entries. -/
def put (store : κ → Option ν) (writes : List (κ × ν)) : κ → Option ν :=
  writes.foldl (fun store entry => Function.update store entry.1 (some entry.2)) store

theorem put_cons (store : κ → Option ν) (entry : κ × ν) (writes : List (κ × ν)) :
    put store (entry :: writes) = put (Function.update store entry.1 (some entry.2)) writes := rfl

/-- What is not written stays. -/
theorem put_of_not_mem {store : κ → Option ν} {k : κ} (h : k ∉ writes.map Prod.fst) :
    put store writes k = store k := by
  induction writes generalizing store with
  | nil => rfl
  | cons entry rest ih =>
      obtain ⟨hne, hrest⟩ := List.ne_and_not_mem_of_not_mem_cons h
      rw [put_cons, ih hrest, Function.update_of_ne hne]

/-- What is written is there. -/
theorem put_of_mem {store : κ → Option ν} {entry : κ × ν} (hnodup : (writes.map Prod.fst).Nodup)
    (h : entry ∈ writes) : put store writes entry.1 = some entry.2 := by
  induction writes generalizing store with
  | nil => cases h
  | cons first rest ih =>
      obtain ⟨hfirst, hrest⟩ := List.nodup_cons.mp hnodup
      rw [put_cons]
      rcases List.mem_cons.mp h with rfl | hmem
      · rw [put_of_not_mem hfirst, Function.update_self]
      · exact ih hrest hmem

/-- **Nothing changes just where everything written was there.** -/
theorem put_eq_iff {store : κ → Option ν} (hnodup : (writes.map Prod.fst).Nodup) :
    put store writes = store ↔ ∀ entry ∈ writes, store entry.1 = some entry.2 := by
  constructor
  · intro h entry hentry
    rw [← h]
    exact put_of_mem hnodup hentry
  · intro h
    funext k
    by_cases hmem : k ∈ writes.map Prod.fst
    · obtain ⟨entry, hentry, rfl⟩ := List.mem_map.mp hmem
      rw [put_of_mem hnodup hentry, h entry hentry]
    · exact put_of_not_mem hmem

end Writes
