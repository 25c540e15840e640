import Mathlib.Data.List.Sort

/-!
# Neighbours in a list

Every element of a list is paired with the one after it.  When elements are left out of the list,
some pairs go and others arise.  For the pairs that satisfy a condition to stay the same, none of
them may have an element that is left out, and none may arise over one.
-/

namespace Neighbours

variable {α : Type}

/-- Every element of a list with the one after it. -/
def consecutive (l : List α) : List (α × α) := l.zip l.tail

/-- An element with the first of some elements. -/
def pairWith (a : α) (next : Option α) : List (α × α) := (next.map fun b => (a, b)).toList

theorem consecutive_cons (a : α) (rest : List α) :
    consecutive (a :: rest) = pairWith a rest.head? ++ consecutive rest := by
  cases rest <;> rfl

open List

theorem mem_of_mem_consecutive {l : List α} {q : α × α} (h : q ∈ consecutive l) :
    q.1 ∈ l ∧ q.2 ∈ l := by
  have hzip := of_mem_zip h
  exact ⟨hzip.1, mem_of_mem_tail hzip.2⟩

section Filter

variable (p : α → Bool) (f : α × α → Bool)

/-- No pair of neighbours that satisfies the condition has an element that is left out. -/
def Within (l : List α) : Prop := ∀ q ∈ consecutive l, f q → p q.1 ∧ p q.2

/-- No pair that satisfies the condition has left-out elements between its two. -/
def Adjacent (l : List α) : Prop :=
  ∀ a rest, (a :: rest) <:+ l → p a → ∀ b, rest.find? p = some b → f (a, b) → rest.head? = some b

variable {p f}

theorem Within.tail {a : α} {rest : List α} (h : Within p f (a :: rest)) : Within p f rest := by
  intro q hq
  refine h q ?_
  rw [consecutive_cons]
  exact mem_append_right _ hq

theorem adjacent_cons {a : α} {rest : List α} :
    Adjacent p f (a :: rest) ↔
      (p a → ∀ b, rest.find? p = some b → f (a, b) → rest.head? = some b) ∧ Adjacent p f rest := by
  constructor
  · intro h
    exact ⟨h a rest suffix_rfl, fun x xs hx => h x xs (hx.trans (suffix_cons a rest))⟩
  · rintro ⟨ha, hrest⟩ x xs hx
    rcases suffix_cons_iff.mp hx with heq | hsuffix
    · obtain ⟨rfl, rfl⟩ := cons.inj heq
      exact ha
    · exact hrest x xs hsuffix

theorem filter_consecutive_cons (a : α) (rest : List α) :
    (consecutive ((a :: rest).filter p)).filter f =
      (if p a then (pairWith a (rest.find? p)).filter f else []) ++
        (consecutive (rest.filter p)).filter f := by
  by_cases ha : p a
  · rw [filter_cons_of_pos ha, consecutive_cons, filter_append, head?_filter,
      if_pos ha]
  · rw [filter_cons_of_neg ha, if_neg ha, nil_append]

/-- The pair that an element begins is among those of the list without what is left out. -/
theorem head_sublist {a : α} {rest : List α} (h : Within p f (a :: rest)) :
    ((pairWith a rest.head?).filter f).Sublist
      (if p a then (pairWith a (rest.find? p)).filter f else []) := by
  cases rest with
  | nil => exact nil_sublist _
  | cons c rest =>
      by_cases hf : f (a, c)
      · have hp := h (a, c) (by rw [consecutive_cons]; exact mem_cons_self) hf
        rw [if_pos hp.1, find?_cons_of_pos hp.2]
        exact List.Sublist.refl _
      · have hnone : (pairWith a (c :: rest).head?).filter f = [] :=
          filter_eq_nil_iff.mpr fun q hq => by
            obtain rfl := mem_singleton.mp hq
            exact hf
        rw [hnone]
        exact nil_sublist _

/-- It is the same pair just if nothing that is left out is between its two. -/
theorem head_eq_iff {a : α} {rest : List α} (h : Within p f (a :: rest)) :
    (pairWith a rest.head?).filter f =
        (if p a then (pairWith a (rest.find? p)).filter f else []) ↔
      (p a → ∀ b, rest.find? p = some b → f (a, b) → rest.head? = some b) := by
  constructor
  · intro heq ha b hb hf
    rw [if_pos ha, hb] at heq
    have hmem : (a, b) ∈ (pairWith a rest.head?).filter f := by
      rw [heq]
      exact mem_filter.mpr ⟨mem_cons_self, hf⟩
    obtain ⟨c, hc, heq⟩ := Option.map_eq_some_iff.mp
      (Option.mem_toList.mp (mem_filter.mp hmem).1)
    rw [hc, (Prod.mk.inj heq).2]
  · intro hnext
    refine (head_sublist h).eq_of_length_le ?_
    by_cases ha : p a
    · rw [if_pos ha]
      cases hb : rest.find? p with
      | none => exact Nat.zero_le _
      | some b =>
          by_cases hf : f (a, b)
          · rw [hnext ha b hb hf]
          · have hnone : (pairWith a (some b)).filter f = [] :=
              filter_eq_nil_iff.mpr fun q hq => by
                obtain rfl := mem_singleton.mp hq
                exact hf
            rw [hnone]
            exact Nat.zero_le _
    · rw [if_neg ha]
      exact Nat.zero_le _

theorem filter_consecutive_sublist {l : List α} (h : Within p f l) :
    ((consecutive l).filter f).Sublist ((consecutive (l.filter p)).filter f) := by
  induction l with
  | nil => exact List.Sublist.refl _
  | cons a rest ih =>
      rw [consecutive_cons, filter_append, filter_consecutive_cons]
      exact (head_sublist h).append (ih h.tail)

/-- **The pairs of a list stay the same when elements are left out of it just if none has such an
element, in it or between its two.** -/
theorem filter_consecutive_eq_iff {l : List α} :
    (consecutive l).filter f = (consecutive (l.filter p)).filter f ↔
      Within p f l ∧ Adjacent p f l := by
  constructor
  · intro heq
    have hwithin : Within p f l := by
      intro q hq hf
      have hmem : q ∈ (consecutive (l.filter p)).filter f := heq ▸ mem_filter.mpr ⟨hq, hf⟩
      obtain ⟨hfirst, hsecond⟩ := mem_of_mem_consecutive (mem_filter.mp hmem).1
      exact ⟨(mem_filter.mp hfirst).2, (mem_filter.mp hsecond).2⟩
    refine ⟨hwithin, ?_⟩
    induction l with
    | nil => exact fun a rest hsuffix => absurd (suffix_nil.mp hsuffix) (cons_ne_nil _ _)
    | cons a rest ih =>
        rw [consecutive_cons, filter_append, filter_consecutive_cons] at heq
        have hhead := (head_sublist hwithin).length_le
        have htail := (filter_consecutive_sublist hwithin.tail).length_le
        have hlength := congrArg length heq
        rw [length_append, length_append] at hlength
        obtain ⟨hh, ht⟩ := append_inj heq (by omega)
        exact adjacent_cons.mpr ⟨(head_eq_iff hwithin).mp hh, ih ht hwithin.tail⟩
  · rintro ⟨hwithin, hadjacent⟩
    induction l with
    | nil => rfl
    | cons a rest ih =>
        obtain ⟨hnext, hrest⟩ := adjacent_cons.mp hadjacent
        rw [consecutive_cons, filter_append, filter_consecutive_cons,
          (head_eq_iff hwithin).mpr hnext, ih hwithin.tail hrest]

end Filter

/-! ### Sorting -/

section Sorted

variable {r : α → α → Prop} [DecidableRel r] [Std.Total r] [IsTrans α r]

omit [Std.Total r] [IsTrans α r] in
theorem orderedInsert_of_forall_rel {a : α} {l : List α} (h : ∀ b ∈ l, r a b) :
    l.orderedInsert r a = a :: l := by
  cases l with
  | nil => rfl
  | cons b l => exact orderedInsert_cons_of_le r l (h b mem_cons_self)

omit [Std.Total r] in
theorem filter_orderedInsert (p : α → Bool) (a : α) {l : List α} (h : l.Pairwise r) :
    (l.orderedInsert r a).filter p =
      if p a then (l.filter p).orderedInsert r a else l.filter p := by
  induction l with
  | nil => by_cases ha : p a <;> simp [ha]
  | cons b l ih =>
      obtain ⟨hb, hl⟩ := pairwise_cons.mp h
      by_cases hab : r a b
      · have hall : ∀ c ∈ (b :: l).filter p, r a c := by
          intro c hc
          rcases mem_cons.mp (mem_filter.mp hc).1 with rfl | hmem
          · exact hab
          · exact IsTrans.trans a b c hab (hb c hmem)
        rw [orderedInsert_cons_of_le r l hab, orderedInsert_of_forall_rel hall,
          filter_cons]
      · rw [orderedInsert_of_not_le r l hab, filter_cons, filter_cons, ih hl]
        by_cases ha : p a <;> by_cases hpb : p b <;> simp [ha, hpb, hab]

/-- **What is left out before a stable sort is left out after it.** -/
theorem insertionSort_filter (p : α → Bool) (l : List α) :
    (l.filter p).insertionSort r = (l.insertionSort r).filter p := by
  induction l with
  | nil => rfl
  | cons a l ih =>
      rw [insertionSort_cons, filter_orderedInsert p a (pairwise_insertionSort r l),
        filter_cons]
      by_cases ha : p a
      · rw [if_pos ha, if_pos ha, insertionSort_cons, ih]
      · rw [if_neg ha, if_neg ha, ih]

end Sorted

end Neighbours
