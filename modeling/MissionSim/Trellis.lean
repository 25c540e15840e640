import Mathlib.Algebra.Ring.Nat
import Mathlib.Data.List.Basic
import Mathlib.Logic.Function.Basic

/-!
# Trellis codes and survivor decoding

A trellis code is a finite machine that turns each input bit into an output symbol
and a new state.  The Viterbi decoder keeps, for every state, the cheapest input
sequence leading there and its cost, the distance of its outputs from the symbols
received.

On symbols received without error the true input costs nothing.  If in every state
the two inputs give distinguishable outputs, every other sequence ends in another
state or costs something, so the survivor of the true state is the input itself.
-/

namespace Trellis

variable {γ : Type*}

structure Code (γ : Type*) where
  numStates : Nat
  next : Nat → Bool → Nat
  out : Nat → Bool → γ

/-- Symbols put out for an input sequence. -/
def Code.outputs (c : Code γ) : Nat → List Bool → List γ
  | _, [] => []
  | s, b :: bits => c.out s b :: c.outputs (c.next s b) bits

/-- State reached by an input sequence. -/
def Code.final (c : Code γ) : Nat → List Bool → Nat
  | s, [] => s
  | s, b :: bits => c.final (c.next s b) bits

theorem Code.outputs_append (c : Code γ) (s : Nat) (xs ys : List Bool) :
    c.outputs s (xs ++ ys) = c.outputs s xs ++ c.outputs (c.final s xs) ys := by
  induction xs generalizing s with
  | nil => rfl
  | cons b xs ih => simp [outputs, final, ih]

theorem Code.final_append (c : Code γ) (s : Nat) (xs ys : List Bool) :
    c.final s (xs ++ ys) = c.final (c.final s xs) ys := by
  induction xs generalizing s with
  | nil => rfl
  | cons b xs ih => exact ih _

/-- For each state reached, its cost and its survivor. -/
abbrev Table := Nat → Option (Nat × List Bool)

/-- Cost of a state, unreached states costing more than any other. -/
def cheaper (table : Table) (s t : Nat) : Bool :=
  match table s, table t with
  | some (m, _), some (n, _) => decide (m < n)
  | some _, none => true
  | none, _ => false

section Decoder

variable (dist : γ → γ → Nat) (c : Code γ)

/-- Offer the extension of a survivor along one transition. -/
def relax (table : Table) (symbol : γ) (acc : Table) (transition : Nat × Bool) : Table :=
  match table transition.1 with
  | none => acc
  | some (cost, path) =>
      let target := c.next transition.1 transition.2
      let candidate :=
        (cost + dist symbol (c.out transition.1 transition.2), path ++ [transition.2])
      match acc target with
      | none => Function.update acc target (some candidate)
      | some (best, _) =>
          if candidate.1 < best then Function.update acc target (some candidate) else acc

def Code.transitions : List (Nat × Bool) :=
  (List.range c.numStates).flatMap fun s => [(s, false), (s, true)]

/-- Add, compare and select over all transitions. -/
def step (table : Table) (symbol : γ) : Table :=
  c.transitions.foldl (relax dist c table symbol) fun _ => none

/-- Only state zero, at no cost. -/
def start : Table := Function.update (fun _ => none) 0 (some (0, []))

def survivors (symbols : List γ) : Table := symbols.foldl (step dist c) start

/-- The first state no other undercuts. -/
def bestState (table : Table) : Nat :=
  (List.range c.numStates).foldl (fun best s => if cheaper table s best then s else best) 0

/-- Survivor of the best state. -/
def decode (symbols : List γ) : List Bool :=
  let table := survivors dist c symbols
  match table (bestState c table) with
  | some (_, path) => path
  | none => []

end Decoder

/-- Outputs that a distance tells apart: none from itself, and in every state the
outputs for the two inputs from each other. -/
structure Code.Separates (c : Code γ) (dist : γ → γ → Nat) : Prop where
  self : ∀ x, dist x x = 0
  apart : ∀ s < c.numStates, ∀ b, 0 < dist (c.out s b) (c.out s (!b))
  closed : ∀ s < c.numStates, ∀ b, c.next s b < c.numStates

/-- No state is reached free of cost. -/
def Costly (table : Table) : Prop := ∀ t m p, table t = some (m, p) → 0 < m

/-- State `s` alone is reached free of cost, by `path`. -/
def Clean (table : Table) (s : Nat) (path : List Bool) : Prop :=
  table s = some (0, path) ∧ ∀ t m p, t ≠ s → table t = some (m, p) → 0 < m

variable {dist : γ → γ → Nat} {c : Code γ}

open Function List

theorem start_clean : Clean start 0 [] := by
  refine ⟨by simp [start], fun t m p ht h => ?_⟩
  rw [start, update_of_ne ht] at h
  exact absurd h (by simp)

variable {path : List Bool} {table : Table}

/-- A wrong transition offers a candidate that costs something. -/
theorem candidate_pos (hc : c.Separates dist) {s : Nat} (h : Clean table s path)
    (hs : s < c.numStates) {u : Bool} {x : Nat × Bool} (hx : x ≠ (s, u)) {m : Nat} {p : List Bool}
    (hm : table x.1 = some (m, p)) : 0 < m + dist (c.out s u) (c.out x.1 x.2) := by
  by_cases hstate : x.1 = s
  · have hbit : x.2 = !u := by
      have : x.2 ≠ u := fun heq => hx (Prod.ext hstate heq)
      cases hb : x.2 <;> cases u <;> simp_all
    have := hc.apart s hs u
    rw [hstate, hbit]
    omega
  · have := h.2 x.1 m p hstate hm
    omega

/-- Wrong transitions never bring in a costless state. -/
theorem relax_costly (hc : c.Separates dist) {s : Nat} (h : Clean table s path)
    (hs : s < c.numStates) {u : Bool} {x : Nat × Bool} (hx : x ≠ (s, u)) {acc : Table}
    (hacc : Costly acc) : Costly (relax dist c table (c.out s u) acc x) := by
  have hupdate : ∀ m p, table x.1 = some (m, p) → Costly (update acc (c.next x.1 x.2)
      (some (m + dist (c.out s u) (c.out x.1 x.2), p ++ [x.2]))) := by
    intro m p hm t n q ht
    by_cases heq : t = c.next x.1 x.2
    · subst heq
      rw [update_self] at ht
      obtain ⟨rfl, _⟩ := Prod.mk.inj (Option.some.inj ht)
      exact candidate_pos hc h hs hx hm
    · rw [update_of_ne heq] at ht
      exact hacc t n q ht
  unfold relax
  split
  · exact hacc
  · rename_i m p hm
    dsimp only
    split
    · exact hupdate m p hm
    · split
      · exact hupdate m p hm
      · exact hacc

/-- The true transition reaches its state at no cost. -/
theorem relax_true (hc : c.Separates dist) {s : Nat} (h : Clean table s path) {u : Bool}
    {acc : Table} (hacc : Costly acc) :
    Clean (relax dist c table (c.out s u) acc (s, u)) (c.next s u) (path ++ [u]) := by
  have hupdate : Clean (update acc (c.next s u) (some (0, path ++ [u])))
      (c.next s u) (path ++ [u]) := by
    refine ⟨update_self _ _ _, fun t m p ht hm => ?_⟩
    rw [update_of_ne ht] at hm
    exact hacc t m p hm
  simp only [relax, h.1, hc.self, Nat.zero_add]
  split
  · exact hupdate
  · rename_i best q hbest
    rw [if_pos (hacc _ best q hbest)]
    exact hupdate

/-- Nothing displaces a costless survivor, and nothing joins it. -/
theorem relax_clean (hc : c.Separates dist) {s : Nat} (h : Clean table s path)
    (hs : s < c.numStates) {u : Bool} (x : Nat × Bool) {acc : Table}
    (hacc : Clean acc (c.next s u) (path ++ [u])) :
    Clean (relax dist c table (c.out s u) acc x) (c.next s u) (path ++ [u]) := by
  unfold relax
  split
  · exact hacc
  · rename_i m p hm
    dsimp only
    by_cases htarget : c.next x.1 x.2 = c.next s u
    · rw [htarget, hacc.1]
      simpa using hacc
    · have hx : x ≠ (s, u) := by
        rintro rfl
        exact htarget rfl
      have hpos := candidate_pos hc h hs hx hm
      have hupdate : Clean (update acc (c.next x.1 x.2)
          (some (m + dist (c.out s u) (c.out x.1 x.2), p ++ [x.2])))
          (c.next s u) (path ++ [u]) := by
        refine ⟨by rw [update_of_ne (Ne.symm htarget)]; exact hacc.1,
          fun t n q ht hn => ?_⟩
        by_cases heq : t = c.next x.1 x.2
        · subst heq
          rw [update_self] at hn
          obtain ⟨rfl, _⟩ := Prod.mk.inj (Option.some.inj hn)
          exact hpos
        · rw [update_of_ne heq] at hn
          exact hacc.2 t n q ht hn
      split
      · exact hupdate
      · split
        · exact hupdate
        · exact hacc

/-- **One symbol.** -/
theorem step_clean (hc : c.Separates dist) {s : Nat} (h : Clean table s path) (hs : s < c.numStates)
    (u : Bool) : Clean (step dist c table (c.out s u)) (c.next s u) (path ++ [u]) := by
  have hfold : ∀ (l : List (Nat × Bool)) (acc : Table),
      (Costly acc ∧ (s, u) ∈ l) ∨ Clean acc (c.next s u) (path ++ [u]) →
      Clean (l.foldl (relax dist c table (c.out s u)) acc) (c.next s u) (path ++ [u]) := by
    intro l
    induction l with
    | nil =>
        rintro acc (⟨_, hmem⟩ | hclean)
        · simp at hmem
        · exact hclean
    | cons x l ih =>
        rintro acc (⟨hcostly, hmem⟩ | hclean)
        · refine ih _ ?_
          by_cases hx : x = (s, u)
          · subst hx
            exact Or.inr (relax_true hc h hcostly)
          · exact Or.inl ⟨relax_costly hc h hs hx hcostly,
              (mem_cons.mp hmem).resolve_left (Ne.symm hx)⟩
        · exact ih _ (Or.inr (relax_clean hc h hs x hclean))
  refine hfold c.transitions _ (Or.inl ⟨fun t m p ht => absurd ht (by simp), ?_⟩)
  refine mem_flatMap.mpr ⟨s, mem_range.mpr hs, ?_⟩
  cases u <;> simp

/-- **Whole sequences.** -/
theorem survivors_clean (hc : c.Separates dist) {s : Nat} (h : Clean table s path)
    (hs : s < c.numStates) (bits : List Bool) :
    Clean ((c.outputs s bits).foldl (step dist c) table) (c.final s bits) (path ++ bits) := by
  induction bits generalizing table s path with
  | nil => simpa [Code.outputs, Code.final] using h
  | cons b bits ih =>
      have := ih (step_clean hc h hs b) (hc.closed s hs b)
      simpa [Code.outputs, Code.final, append_assoc] using this

/-- **Decoding without errors.**  The outputs of an input that leads back to state zero
decode to that input. -/
theorem decode_outputs (hc : c.Separates dist) (hpos : 0 < c.numStates) {bits : List Bool}
    (hfinal : c.final 0 bits = 0) : decode dist c (c.outputs 0 bits) = bits := by
  have hclean := survivors_clean hc start_clean hpos bits
  rw [hfinal, nil_append] at hclean
  have hbest : ∀ l : List Nat, l.foldl (fun best s =>
      if cheaper (survivors dist c (c.outputs 0 bits)) s best then s else best) 0 = 0 := by
    intro l
    induction l with
    | nil => rfl
    | cons s l ih =>
        have hnot : cheaper (survivors dist c (c.outputs 0 bits)) s 0 = false := by
          unfold cheaper
          rw [survivors, hclean.1]
          cases (c.outputs 0 bits).foldl (step dist c) start s with
          | none => rfl
          | some entry => simp
        rw [foldl_cons, hnot]
        exact ih
  unfold decode bestState
  simp only [hbest]
  rw [survivors, hclean.1]

/-! ### Maximum likelihood -/

section Likelihood

/-- Distance of symbols received from symbols put out. -/
def distance (dist : γ → γ → Nat) (symbols expected : List γ) : Nat :=
  (List.zipWith dist symbols expected).sum

/-- A state is reached at no more than a cost. -/
def Reaches (table : Table) (t cost : Nat) : Prop := ∃ m p, table t = some (m, p) ∧ m ≤ cost

theorem Reaches.mono {table : Table} {t cost cost' : Nat} (h : Reaches table t cost)
    (hle : cost ≤ cost') : Reaches table t cost' := by
  obtain ⟨m, p, hentry, hm⟩ := h
  exact ⟨m, p, hentry, Nat.le_trans hm hle⟩

/-- Every survivor is an input that leads to its state at its cost, and every input is undercut by
the survivor of the state that it leads to. -/
structure Survives (dist : γ → γ → Nat) (c : Code γ) (symbols : List γ) (table : Table) : Prop where
  sound : ∀ t m p, table t = some (m, p) →
    p.length = symbols.length ∧ c.final 0 p = t ∧ m = distance dist symbols (c.outputs 0 p)
  best : ∀ bits : List Bool, bits.length = symbols.length →
    Reaches table (c.final 0 bits) (distance dist symbols (c.outputs 0 bits))

/-- The code stays within its states. -/
def Code.Closed (c : Code γ) : Prop := ∀ s < c.numStates, ∀ b, c.next s b < c.numStates

theorem Code.outputs_length (c : Code γ) (s : Nat) (bits : List Bool) :
    (c.outputs s bits).length = bits.length := by
  induction bits generalizing s with
  | nil => rfl
  | cons b bits ih => rw [Code.outputs, length_cons, length_cons, ih]

theorem Code.Closed.final_lt (hc : c.Closed) {s : Nat} (hs : s < c.numStates) (bits : List Bool) :
    c.final s bits < c.numStates := by
  induction bits generalizing s with
  | nil => exact hs
  | cons b bits ih => exact ih (hc s hs b)

/-- One symbol more adds the distance of its output. -/
theorem distance_concat {symbols : List γ} {bits : List Bool} (h : bits.length = symbols.length)
    (symbol : γ) (b : Bool) :
    distance dist (symbols ++ [symbol]) (c.outputs 0 (bits ++ [b])) =
      distance dist symbols (c.outputs 0 bits) + dist symbol (c.out (c.final 0 bits) b) := by
  have hlength : symbols.length = (c.outputs 0 bits).length := by rw [c.outputs_length, h]
  unfold distance
  rw [Code.outputs_append, zipWith_append hlength, sum_append]
  rfl

theorem start_survives : Survives dist c [] start := by
  constructor
  · intro t m p h
    by_cases ht : t = 0
    · subst ht
      obtain ⟨rfl, rfl⟩ := Prod.mk.inj (Option.some.inj h)
      exact ⟨rfl, rfl, rfl⟩
    · rw [start, update_of_ne ht] at h
      cases h
  · intro bits hbits
    obtain rfl := eq_nil_of_length_eq_zero hbits
    exact ⟨0, [], by rw [start, Code.final, update_self], Nat.zero_le _⟩

section Step

variable {table acc : Table} {symbol : γ} {x : Nat × Bool}

theorem relax_none (h : table x.1 = none) : relax dist c table symbol acc x = acc := by
  rw [relax, h]

variable (dist c symbol acc) in
/-- An extension is taken where it costs less, and else costs no less than what is there. -/
theorem relax_cases {m : Nat} {p : List Bool} (h : table x.1 = some (m, p)) :
    (relax dist c table symbol acc x = update acc (c.next x.1 x.2)
        (some (m + dist symbol (c.out x.1 x.2), p ++ [x.2])) ∧
      ∀ best q, acc (c.next x.1 x.2) = some (best, q) →
        m + dist symbol (c.out x.1 x.2) ≤ best) ∨
    (relax dist c table symbol acc x = acc ∧
      ∃ best q, acc (c.next x.1 x.2) = some (best, q) ∧
        best ≤ m + dist symbol (c.out x.1 x.2)) := by
  rw [relax, h]
  dsimp only
  cases hacc : acc (c.next x.1 x.2) with
  | none =>
      refine Or.inl ⟨rfl, ?_⟩
      intro best q hnone
      cases hnone
  | some entry =>
      obtain ⟨best, q⟩ := entry
      by_cases hless : m + dist symbol (c.out x.1 x.2) < best
      · refine Or.inl ⟨if_pos hless, ?_⟩
        intro best' q' hentry
        obtain ⟨rfl, rfl⟩ := Prod.mk.inj (Option.some.inj hentry)
        exact Nat.le_of_lt hless
      · exact Or.inr ⟨if_neg hless, best, q, rfl, Nat.le_of_not_lt hless⟩

/-- An entry was there before, or is the extension along the transition. -/
theorem relax_some {x : Nat × Bool} {t m : Nat} {p : List Bool}
    (h : relax dist c table symbol acc x t = some (m, p)) :
    acc t = some (m, p) ∨ ∃ m' p', table x.1 = some (m', p') ∧ c.next x.1 x.2 = t ∧
      m = m' + dist symbol (c.out x.1 x.2) ∧ p = p' ++ [x.2] := by
  cases hx : table x.1 with
  | none =>
      rw [relax_none hx] at h
      exact Or.inl h
  | some entry =>
      obtain ⟨m', p'⟩ := entry
      rcases relax_cases dist c acc symbol hx with ⟨htaken, -⟩ | ⟨hkept, -⟩
      · rw [htaken] at h
        by_cases heq : t = c.next x.1 x.2
        · rw [heq, update_self] at h
          obtain ⟨hm, hp⟩ := Prod.mk.inj (Option.some.inj h)
          exact Or.inr ⟨m', p', rfl, heq.symm, hm.symm, hp.symm⟩
        · rw [update_of_ne heq] at h
          exact Or.inl h
      · rw [hkept] at h
        exact Or.inl h

/-- A transition reaches its state at no more than it offers. -/
theorem relax_offers {m : Nat} {p : List Bool} (h : table x.1 = some (m, p)) :
    Reaches (relax dist c table symbol acc x) (c.next x.1 x.2)
      (m + dist symbol (c.out x.1 x.2)) := by
  rcases relax_cases dist c acc symbol h with
    ⟨htaken, -⟩ | ⟨hkept, hentry⟩
  · rw [htaken]
    exact ⟨_, _, update_self _ _ _, Nat.le_refl _⟩
  · rw [hkept]
    exact hentry

/-- What is reached stays reached. -/
theorem relax_reaches {t cost : Nat} (h : Reaches acc t cost) :
    Reaches (relax dist c table symbol acc x) t cost := by
  cases hx : table x.1 with
  | none => rwa [relax_none hx]
  | some entry =>
      obtain ⟨m, p⟩ := entry
      rcases relax_cases dist c acc symbol hx with
        ⟨htaken, hless⟩ | ⟨hkept, -⟩
      · rw [htaken]
        obtain ⟨best, q, hbest, hcost⟩ := h
        by_cases heq : t = c.next x.1 x.2
        · subst heq
          exact ⟨_, _, update_self _ _ _, Nat.le_trans (hless best q hbest) hcost⟩
        · exact ⟨best, q, by rw [update_of_ne heq, hbest], hcost⟩
      · rwa [hkept]

/-- Every entry is the extension of a survivor. -/
theorem step_some {t m : Nat} {p : List Bool} (h : step dist c table symbol t = some (m, p)) :
    ∃ (x : Nat × Bool) (m' : Nat) (p' : List Bool), table x.1 = some (m', p') ∧
      c.next x.1 x.2 = t ∧ m = m' + dist symbol (c.out x.1 x.2) ∧ p = p' ++ [x.2] := by
  have hfold : ∀ (l : List (Nat × Bool)) (acc : Table),
      l.foldl (relax dist c table symbol) acc t = some (m, p) →
      acc t = some (m, p) ∨ ∃ (x : Nat × Bool) (m' : Nat) (p' : List Bool),
        table x.1 = some (m', p') ∧ c.next x.1 x.2 = t ∧
          m = m' + dist symbol (c.out x.1 x.2) ∧ p = p' ++ [x.2] := by
    intro l
    induction l with
    | nil => exact fun acc hacc => Or.inl hacc
    | cons x l ih =>
        intro acc hacc
        rcases ih _ hacc with hrelaxed | hfound
        · rcases relax_some hrelaxed with hold | hnew
          · exact Or.inl hold
          · exact Or.inr ⟨x, hnew⟩
        · exact Or.inr hfound
  rcases hfold _ _ h with hnone | hfound
  · cases hnone
  · exact hfound

variable (dist symbol) in
/-- Every extension of a survivor is undercut. -/
theorem step_reaches {s m : Nat} {p : List Bool} (hs : s < c.numStates)
    (h : table s = some (m, p)) (b : Bool) :
    Reaches (step dist c table symbol) (c.next s b) (m + dist symbol (c.out s b)) := by
  have hkept : ∀ (l : List (Nat × Bool)) (acc : Table), Reaches acc (c.next s b)
      (m + dist symbol (c.out s b)) → Reaches (l.foldl (relax dist c table symbol) acc)
      (c.next s b) (m + dist symbol (c.out s b)) := by
    intro l
    induction l with
    | nil => exact fun acc hacc => hacc
    | cons x l ih => exact fun acc hacc => ih _ (relax_reaches hacc)
  have hmem : (s, b) ∈ c.transitions := by
    refine mem_flatMap.mpr ⟨s, mem_range.mpr hs, ?_⟩
    cases b with
    | false => exact mem_cons_self
    | true => exact mem_cons_of_mem _ mem_cons_self
  obtain ⟨before, after, hsplit⟩ := append_of_mem hmem
  unfold step
  rw [hsplit, foldl_append, foldl_cons]
  exact hkept after _ (relax_offers h)

variable (symbol) in
/-- **One symbol keeps the best survivors.** -/
theorem step_survives (hc : c.Closed) (hpos : 0 < c.numStates) {symbols : List γ}
    (h : Survives dist c symbols table) :
    Survives dist c (symbols ++ [symbol]) (step dist c table symbol) := by
  constructor
  · intro t m p hentry
    obtain ⟨x, m', p', hold, hnext, rfl, rfl⟩ := step_some hentry
    obtain ⟨hlength, hfinal, rfl⟩ := h.sound _ _ _ hold
    refine ⟨by rw [length_append, length_append, hlength]; rfl, ?_, ?_⟩
    · rw [Code.final_append, hfinal]
      exact hnext
    · rw [distance_concat hlength, hfinal]
  · intro bits hbits
    rcases eq_nil_or_concat' bits with rfl | ⟨front, b, rfl⟩
    · rw [length_append, length_singleton] at hbits
      cases hbits
    · have hfront : front.length = symbols.length := by
        simpa using hbits
      obtain ⟨m, p, hentry, hm⟩ := h.best front hfront
      have hstep := step_reaches dist symbol (hc.final_lt hpos front) hentry b
      rw [Code.final_append, distance_concat hfront]
      exact hstep.mono (Nat.add_le_add_right hm _)

end Step

variable (dist) in
/-- **All symbols.** -/
theorem survivors_survive (hc : c.Closed) (hpos : 0 < c.numStates) (symbols : List γ) :
    Survives dist c symbols (survivors dist c symbols) := by
  have hrun : ∀ (rest seen : List γ) (table : Table), Survives dist c seen table →
      Survives dist c (seen ++ rest) (rest.foldl (step dist c) table) := by
    intro rest
    induction rest with
    | nil =>
        intro seen table h
        rw [append_nil]
        exact h
    | cons symbol rest ih =>
        intro seen table h
        have hrest := ih _ _ (step_survives symbol hc hpos h)
        rwa [append_assoc] at hrest
  exact hrun symbols [] start start_survives

theorem Reaches.of_cheaper {table : Table} {s t cost : Nat} (h : cheaper table s t = true)
    (ht : Reaches table t cost) : Reaches table s cost := by
  obtain ⟨n, q, htable, hcost⟩ := ht
  unfold cheaper at h
  cases hs : table s with
  | none =>
      rw [hs] at h
      cases h
  | some entry =>
      rw [hs, htable] at h
      exact ⟨entry.1, entry.2, hs, Nat.le_trans (Nat.le_of_lt (of_decide_eq_true h)) hcost⟩

theorem Reaches.of_not_cheaper {table : Table} {s t cost : Nat} (h : ¬ cheaper table s t = true)
    (hs : Reaches table s cost) : Reaches table t cost := by
  obtain ⟨m, p, htable, hcost⟩ := hs
  unfold cheaper at h
  cases ht : table t with
  | none =>
      rw [htable, ht] at h
      exact absurd rfl h
  | some entry =>
      rw [htable, ht] at h
      have hless : ¬ m < entry.1 := fun hless => h (decide_eq_true hless)
      exact ⟨entry.1, entry.2, ht, Nat.le_trans (Nat.le_of_not_lt hless) hcost⟩

/-- The best state is reached at no more than any other. -/
theorem bestState_reaches {table : Table} {s cost : Nat} (hs : s < c.numStates)
    (h : Reaches table s cost) : Reaches table (bestState c table) cost := by
  have hchoice (best x : Nat) (hone : Reaches table best cost ∨ Reaches table x cost) :
      Reaches table (if cheaper table x best then x else best) cost := by
    by_cases hcheaper : cheaper table x best
    · rw [if_pos hcheaper]
      rcases hone with hbest | hx
      · exact hbest.of_cheaper hcheaper
      · exact hx
    · rw [if_neg hcheaper]
      rcases hone with hbest | hx
      · exact hbest
      · exact hx.of_not_cheaper hcheaper
  have hfold : ∀ (l : List Nat) (best : Nat), Reaches table best cost ∨ s ∈ l →
      Reaches table (l.foldl (fun best s => if cheaper table s best then s else best) best)
        cost := by
    intro l
    induction l with
    | nil =>
        intro best hone
        rcases hone with hbest | hmem
        · exact hbest
        · cases hmem
    | cons x l ih =>
        intro best hone
        refine ih _ ?_
        rcases hone with hbest | hmem
        · exact Or.inl (hchoice best x (Or.inl hbest))
        · rcases mem_cons.mp hmem with rfl | hrest
          · exact Or.inl (hchoice best s (Or.inr h))
          · exact Or.inr hrest
  exact hfold _ 0 (Or.inr (mem_range.mpr hs))

variable (dist) in
/-- **Maximum likelihood.**  No input of that length has outputs nearer to the symbols received. -/
theorem decode_optimal (hc : c.Closed) (hpos : 0 < c.numStates) (symbols : List γ) :
    (decode dist c symbols).length = symbols.length ∧
      ∀ bits : List Bool, bits.length = symbols.length →
        distance dist symbols (c.outputs 0 (decode dist c symbols)) ≤
          distance dist symbols (c.outputs 0 bits) := by
  have hsurvive := survivors_survive dist hc hpos symbols
  have hreach (bits : List Bool) (hbits : bits.length = symbols.length) :=
    bestState_reaches (hc.final_lt hpos bits) (hsurvive.best bits hbits)
  obtain ⟨m, p, hentry, -⟩ := hreach (replicate symbols.length false) length_replicate
  obtain ⟨hlength, -, hm⟩ := hsurvive.sound _ _ _ hentry
  have hdecode : decode dist c symbols = p := by
    unfold decode
    dsimp only
    rw [hentry]
  rw [hdecode]
  refine ⟨hlength, fun bits hbits => ?_⟩
  obtain ⟨m', p', hentry', hcost⟩ := hreach bits hbits
  rw [hentry] at hentry'
  obtain ⟨rfl, rfl⟩ := Prod.mk.inj (Option.some.inj hentry')
  exact hm ▸ hcost

end Likelihood

end Trellis
