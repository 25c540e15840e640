import Mathlib.Data.List.Basic

/-!
# Maximal runs

A walk over a list opens a value at the first element of a run of good elements, extends it at each
further one and closes it at the first that is not good, or at the end of the list.

The values that are closed are those of the maximal runs of good elements (`mem_walk_iff`).
-/

namespace MaximalRuns

variable {α β : Type}

/-- A part of a list whose elements are good, and which cannot be continued on either side. -/
structure IsMaximalRun (good : α → Bool) (whole run : List α) : Prop where
  ne_nil : run ≠ []
  all_good : ∀ x ∈ run, good x = true
  bounded : ∃ pre post, whole = pre ++ run ++ post ∧ (∀ x ∈ pre.getLast?, good x = false) ∧
    ∀ x ∈ post.head?, good x = false

/-- The value of a run. -/
def value (start : α → β) (extend : α → β → β) : List α → Option β
  | [] => none
  | x :: rest => some (rest.foldl (fun b y => extend y b) (start x))

/-- What is open after an element. -/
def slot (good : α → Bool) (start : α → β) (extend : α → β → β) (s : Option β) (x : α) : Option β :=
  if good x then
    match s with
    | none => some (start x)
    | some b => some (extend x b)
  else none

/-- What is closed at an element. -/
def closed (good : α → Bool) (s : Option β) (x : α) : List β := if good x then [] else s.toList

/-- What is closed from a value that may be open on, up to the end. -/
def walk (good : α → Bool) (start : α → β) (extend : α → β → β) : Option β → List α → List β
  | s, [] => s.toList
  | s, x :: rest => closed good s x ++ walk good start extend (slot good start extend s x) rest

variable {good : α → Bool} {start : α → β} {extend : α → β → β} {x : α} {ys zs run cur : List α}

/-! ### Runs -/

theorem IsMaximalRun.append_bad (hx : good x = false) (h : IsMaximalRun good ys run) :
    IsMaximalRun good (ys ++ x :: zs) run := by
  obtain ⟨pre, post, rfl, hpre, hpost⟩ := h.bounded
  refine ⟨h.ne_nil, h.all_good, pre, post ++ x :: zs, by simp, hpre, ?_⟩
  cases post with
  | nil =>
      intro y hy
      cases hy
      exact hx
  | cons z rest => exact hpost

open List

theorem IsMaximalRun.after_bad (hx : good x = false) (h : IsMaximalRun good zs run) :
    IsMaximalRun good (ys ++ x :: zs) run := by
  obtain ⟨pre, post, rfl, hpre, hpost⟩ := h.bounded
  refine ⟨h.ne_nil, h.all_good, ys ++ x :: pre, post, by simp, ?_, hpost⟩
  intro y hy
  rw [getLast?_append_cons] at hy
  cases pre with
  | nil =>
      cases hy
      exact hx
  | cons z rest =>
      exact hpre y hy

/-- A maximal run lies on one side of an element that is not good. -/
theorem isMaximalRun_append_bad_iff (hx : good x = false) :
    IsMaximalRun good (ys ++ x :: zs) run ↔
      IsMaximalRun good ys run ∨ IsMaximalRun good zs run := by
  constructor
  · intro h
    have hnotin : x ∉ run := by
      intro hmem
      rw [h.all_good x hmem] at hx
      cases hx
    obtain ⟨pre, post, hwhole, hpre, hpost⟩ := h.bounded
    rcases append_eq_append_iff.mp hwhole with ⟨bs, hleft, hright⟩ | ⟨as, hleft, hright⟩
    · -- the element comes at or before the end of the run
      cases bs with
      | nil =>
          left
          refine ⟨h.ne_nil, h.all_good, pre, [], ?_, hpre, by simp⟩
          rw [append_nil] at hleft ⊢
          exact hleft.symm
      | cons b bs =>
          obtain ⟨rfl, rfl⟩ := cons.inj hright
          rcases append_eq_append_iff.mp hleft with ⟨cs, hys, hrun⟩ | ⟨cs, hprecs, hrun⟩
          · exact absurd (hrun ▸ mem_append_right cs mem_cons_self) hnotin
          · cases cs with
            | nil =>
                rw [nil_append] at hrun
                exact absurd (hrun ▸ mem_cons_self) hnotin
            | cons c cs =>
                obtain ⟨rfl, rfl⟩ := cons.inj hrun
                right
                refine ⟨h.ne_nil, h.all_good, cs, post, rfl, ?_, hpost⟩
                intro y hy
                apply hpre y
                rw [hprecs, getLast?_append_cons]
                cases cs with
                | nil => cases hy
                | cons d ds => rwa [getLast?_cons_cons]
    · left
      refine ⟨h.ne_nil, h.all_good, pre, as, hleft, hpre, ?_⟩
      cases as with
      | nil => simp
      | cons a as =>
          rw [hright] at hpost
          exact hpost
  · rintro (h | h)
    · exact h.append_bad hx
    · exact h.after_bad hx

/-- Where all elements are good, the whole is the only maximal run. -/
theorem isMaximalRun_of_all_good (hgood : ∀ y ∈ cur, good y = true) :
    IsMaximalRun good cur run ↔ run = cur ∧ cur ≠ [] := by
  constructor
  · intro h
    obtain ⟨pre, post, rfl, hpre, hpost⟩ := h.bounded
    obtain rfl : pre = [] := by
      cases hlast : pre.getLast? with
      | none => exact getLast?_eq_none_iff.mp hlast
      | some y =>
          have hy := hgood y (by simp [mem_of_getLast? hlast])
          rw [hpre y hlast] at hy
          cases hy
    obtain rfl : post = [] := by
      cases post with
      | nil => rfl
      | cons y rest =>
          have hy := hgood y (by simp)
          rw [hpost y rfl] at hy
          cases hy
    have hrun : [] ++ run ++ [] = run := by simp
    rw [hrun]
    exact ⟨rfl, h.ne_nil⟩
  · rintro ⟨rfl, hne⟩
    exact ⟨hne, hgood, [], [], by simp, by simp, by simp⟩

/-! ### The walk -/

theorem slot_of_good (hx : good x = true) (hgood : ∀ y ∈ cur, good y = true) :
    slot good start extend (value start extend cur) x = value start extend (cur ++ [x]) := by
  unfold slot
  rw [if_pos hx]
  cases cur with
  | nil => rfl
  | cons y rest => simp [value, foldl_append]

theorem slot_of_bad (hx : good x = false) (s : Option β) : slot good start extend s x = none := by
  unfold slot
  rw [hx]
  rfl

/-- From an open run on, what is closed are the values of the maximal runs of this run and the rest. -/
theorem mem_walk_open_iff (xs : List α) (hgood : ∀ y ∈ cur, good y = true) {b : β} :
    b ∈ walk good start extend (value start extend cur) xs ↔
      ∃ run, IsMaximalRun good (cur ++ xs) run ∧ value start extend run = some b := by
  induction xs generalizing cur with
  | nil =>
      rw [walk, Option.mem_toList, append_nil]
      constructor
      · intro h
        have hne : cur ≠ [] := by
          intro heq
          rw [heq] at h
          cases h
        exact ⟨cur, (isMaximalRun_of_all_good hgood).mpr ⟨rfl, hne⟩, h⟩
      · rintro ⟨run, hrun, hvalue⟩
        obtain ⟨rfl, -⟩ := (isMaximalRun_of_all_good hgood).mp hrun
        exact hvalue
  | cons x rest ih =>
      rw [walk, mem_append]
      cases hx : good x with
      | true =>
          have hnext : ∀ y ∈ cur ++ [x], good y = true := by
            intro y hy
            rcases mem_append.mp hy with hy | hy
            · exact hgood y hy
            · rwa [mem_singleton.mp hy]
          have hclosed : closed good (value start extend cur) x = [] := by
            rw [closed, hx]
            rfl
          rw [hclosed, slot_of_good hx hgood, ih hnext, append_assoc]
          exact or_iff_right not_mem_nil
      | false =>
          have hclosed : closed good (value start extend cur) x =
              (value start extend cur).toList := by
            rw [closed, hx]
            rfl
          have hnone : slot good start extend (value start extend cur) x =
              value start extend [] := slot_of_bad hx _
          have hnil : ∀ y ∈ ([] : List α), good y = true := fun y hy => nomatch hy
          rw [hclosed, hnone, ih hnil, nil_append]
          constructor
          · rintro (h | ⟨run, hrun, hvalue⟩)
            · have hvalue := Option.mem_toList.mp h
              have hne : cur ≠ [] := by
                intro heq
                rw [heq] at hvalue
                cases hvalue
              have hcur := (isMaximalRun_of_all_good hgood).mpr ⟨rfl, hne⟩
              exact ⟨cur, hcur.append_bad hx, hvalue⟩
            · exact ⟨run, hrun.after_bad hx, hvalue⟩
          · rintro ⟨run, hrun, hvalue⟩
            rcases (isMaximalRun_append_bad_iff hx).mp hrun with hrun | hrun
            · obtain ⟨rfl, -⟩ := (isMaximalRun_of_all_good hgood).mp hrun
              exact Or.inl (Option.mem_toList.mpr hvalue)
            · exact Or.inr ⟨run, hrun, hvalue⟩

/-- **What is closed are the values of the maximal runs.** -/
theorem mem_walk_iff (xs : List α) {b : β} :
    b ∈ walk good start extend none xs ↔
      ∃ run, IsMaximalRun good xs run ∧ value start extend run = some b :=
  mem_walk_open_iff xs fun _ hy => absurd hy not_mem_nil

end MaximalRuns
