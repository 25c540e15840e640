import Mathlib.Data.List.Basic
import Mathlib.Tactic.Common

/-!
# Division registers

A cyclic code is checked by a shift register that divides the bits fed to it, highest
power first, by a generator polynomial.  The register holds the remainder; `taps` are the
coefficients of the generator below its leading one.

The register is linear over exclusive or, so what an error does to it does not depend
on the word it is added to.  Where the generator has a constant term, no burst of at
most as many bits as the register leaves it empty.
-/

namespace CyclicCode

variable {w : Nat} (taps : BitVec w)

/-- One bit into the register. -/
def feed (c : BitVec w) (bit : Bool) : BitVec w :=
  if c.msb ^^ bit then (c <<< 1) ^^^ taps else c <<< 1

/-- The register after a sequence of bits. -/
def register (c : BitVec w) (bits : List Bool) : BitVec w := bits.foldl (feed taps) c

/-- The bits of a register, the highest first. -/
def remainderBits (c : BitVec w) : List Bool := (List.range w).map c.getMsbD

/-- Bits added bit by bit. -/
def addBits (x y : List Bool) : List Bool := List.zipWith xor x y

open List

@[simp] theorem remainderBits_length (c : BitVec w) : (remainderBits c).length = w := by simp [remainderBits]

@[simp] theorem addBits_length (x y : List Bool) :
    (addBits x y).length = min x.length y.length := length_zipWith

theorem remainderBits_injective {c d : BitVec w} (h : remainderBits c = remainderBits d) :
    c = d := by
  refine BitVec.eq_of_getMsbD_eq fun i hi => ?_
  have hbit := congrArg (fun bits => bits[i]?) h
  simpa [remainderBits, hi] using hbit

theorem addBits_append {x y : List Bool} (h : x.length = y.length) (x' y' : List Bool) :
    addBits (x ++ x') (y ++ y') = addBits x y ++ addBits x' y' :=
  zipWith_append h

theorem addBits_comm (x y : List Bool) : addBits x y = addBits y x :=
  zipWith_comm_of_comm Bool.xor_comm

theorem addBits_self (x : List Bool) : addBits x x = replicate x.length false := by
  induction x with
  | nil => rfl
  | cons b x ih =>
      rw [length_cons, replicate_succ, ← ih]
      simp [addBits]

/-- Nothing is added where the second word is clear. -/
theorem addBits_clear {x e : List Bool} (h : e.length = x.length)
    (hclear : ∀ bit ∈ e, bit = false) : addBits x e = x := by
  induction x generalizing e with
  | nil => rfl
  | cons b x ih =>
      cases e with
      | nil => cases h
      | cons bit e =>
          have hbit := hclear bit mem_cons_self
          subst hbit
          have htail := ih (Nat.succ.inj h) fun b hb => hclear b (mem_cons_of_mem _ hb)
          simp only [addBits, zipWith_cons_cons, Bool.xor_false] at htail ⊢
          rw [htail]

theorem addBits_cons (a b : Bool) (x y : List Bool) :
    addBits (a :: x) (b :: y) = (a ^^ b) :: addBits x y := rfl

theorem addBits_assoc (x y z : List Bool) :
    addBits (addBits x y) z = addBits x (addBits y z) := by
  induction x generalizing y z with
  | nil => rfl
  | cons a x ih =>
      cases y with
      | nil => rfl
      | cons b y =>
          cases z with
          | nil => rfl
          | cons c z => rw [addBits_cons, addBits_cons, addBits_cons, addBits_cons, ih, Bool.xor_assoc]

/-- Words that add up to nothing are the same. -/
theorem eq_of_addBits_clear {x y : List Bool} (h : x.length = y.length)
    (hclear : true ∉ addBits x y) : x = y := by
  induction x generalizing y with
  | nil => exact (eq_nil_of_length_eq_zero h.symm).symm
  | cons a x ih =>
      cases y with
      | nil => cases h
      | cons b y =>
          rw [addBits_cons, mem_cons, not_or] at hclear
          rw [ih (Nat.succ.inj h) hclear.2]
          have hbit := hclear.1
          cases a <;> cases b <;> first | rfl | simp at hbit

/-- Adding does not add up more ones than there are. -/
theorem count_addBits_le (x y : List Bool) :
    (addBits x y).count true ≤ x.count true + y.count true := by
  induction x generalizing y with
  | nil => exact Nat.zero_le _
  | cons a x ih =>
      cases y with
      | nil => exact Nat.zero_le _
      | cons b y =>
          have htail := ih y
          rw [addBits_cons]
          cases a <;> cases b <;> simp <;> omega

/-! ### Linearity -/

variable {taps}

theorem xor_swap (a b c d : BitVec w) : (a ^^^ b) ^^^ (c ^^^ d) = (a ^^^ c) ^^^ (b ^^^ d) := by
  rw [BitVec.xor_assoc, ← BitVec.xor_assoc b c d, BitVec.xor_comm b c, BitVec.xor_assoc c b d,
    ← BitVec.xor_assoc]

theorem feed_xor (c d : BitVec w) (a b : Bool) :
    feed taps (c ^^^ d) (a ^^ b) = feed taps c a ^^^ feed taps d b := by
  have hshift : (c ^^^ d) <<< 1 = (c <<< 1) ^^^ (d <<< 1) := BitVec.shiftLeft_xor_distrib c d 1
  have hswap : ((c ^^^ d).msb ^^ (a ^^ b)) = ((c.msb ^^ a) ^^ (d.msb ^^ b)) := by
    rw [BitVec.msb_xor]
    cases c.msb <;> cases d.msb <;> cases a <;> cases b <;> rfl
  rw [feed, feed, feed, hshift, hswap]
  cases c.msb ^^ a <;> cases d.msb ^^ b
  · rfl
  · exact (BitVec.xor_assoc _ _ _)
  · simp only [Bool.xor_false, if_true, Bool.false_eq_true, if_false]
    rw [BitVec.xor_assoc, BitVec.xor_assoc, BitVec.xor_comm taps]
  · simp only [Bool.xor_self, Bool.false_eq_true, if_false, if_true]
    rw [xor_swap, BitVec.xor_self, BitVec.xor_zero]

/-- **Linearity.**  An error is added to the register as it is added to the word. -/
theorem register_addBits (taps c d : BitVec w) {x y : List Bool} (h : x.length = y.length) :
    register taps (c ^^^ d) (addBits x y) = register taps c x ^^^ register taps d y := by
  induction x generalizing y c d with
  | nil =>
      have : y = [] := eq_nil_of_length_eq_zero h.symm
      subst this
      rfl
  | cons b x ih =>
      cases y with
      | nil => cases h
      | cons b' y =>
          have htail := ih (feed taps c b) (feed taps d b') (Nat.succ.inj h)
          rw [← feed_xor] at htail
          exact htail

theorem register_append (c : BitVec w) (x y : List Bool) :
    register taps c (x ++ y) = register taps (register taps c x) y := foldl_append

/-! ### The remainder as a trailer -/

/-- **A word followed by its own remainder leaves the register empty.** -/
theorem register_remainderBits (c : BitVec w) : register taps c (remainderBits c) = 0#w := by
  have hfront : ∀ k ≤ w, register taps c ((range k).map c.getMsbD) = c <<< k := by
    intro k hk
    induction k with
    | zero => simp [register]
    | succ k ih =>
        have hmsb : (c <<< k).msb = c.getMsbD k := by
          rw [BitVec.msb_shiftLeft]
        rw [range_succ, map_append, register_append, ih (by omega)]
        simp only [register, map_cons, map_nil, foldl_cons, foldl_nil]
        rw [feed, hmsb, Bool.xor_self, if_neg (by decide), ← BitVec.shiftLeft_add]
  rw [remainderBits, hfront w (Nat.le_refl w)]
  exact BitVec.shiftLeft_eq_zero (Nat.le_refl w)

/-! ### Bursts -/

/-- A number of consecutive bits among others that are not touched. -/
structure Burst (most : Nat) where
  before : Nat
  window : List Bool
  after : Nat
  short : window.length ≤ most
  nonzero : true ∈ window

/-- The bits a burst turns over. -/
def Burst.pattern {most : Nat} (burst : Burst most) : List Bool :=
  List.replicate burst.before false ++ burst.window ++ List.replicate burst.after false

/-- Nothing is turned over beside the window. -/
theorem Burst.pattern_clear {most : Nat} (burst : Burst most) {i j : Nat}
    (hmiss : burst.before + burst.window.length ≤ i ∨ j ≤ burst.before) :
    ∀ bit ∈ (burst.pattern.take j).drop i, bit = false := by
  intro bit hbit
  rw [pattern] at hbit
  cases hmiss with
  | inl hbefore =>
      rw [drop_take, drop_append, drop_eq_nil_of_le, nil_append] at hbit
      · exact eq_of_mem_replicate (mem_of_mem_drop (mem_of_mem_take hbit))
      · simpa using hbefore
  | inr hafter =>
      rw [append_assoc, take_append_of_le_length (by simpa using hafter)] at hbit
      exact eq_of_mem_replicate (mem_of_mem_take (mem_of_mem_drop hbit))

theorem feed_zero_false : feed taps 0#w false = 0#w := by
  simp [feed]

theorem register_zeros (n : Nat) : register taps 0#w (replicate n false) = 0#w := by
  induction n with
  | zero => rfl
  | succ n ih =>
      rw [replicate_succ, register, foldl_cons, feed_zero_false]
      exact ih

section ConstantTerm

variable (htaps : taps.getLsbD 0 = true)

include htaps in
theorem feed_false_ne_zero {c : BitVec w} (h : c ≠ 0#w) : feed taps c false ≠ 0#w := by
  intro hzero
  rw [feed, Bool.xor_false] at hzero
  cases hmsb : c.msb with
  | true =>
      rw [hmsb, if_pos rfl] at hzero
      have hlow := congrArg (fun x => x.getLsbD 0) hzero
      simp [htaps] at hlow
  | false =>
      rw [hmsb, if_neg (by decide)] at hzero
      refine h (BitVec.eq_of_getLsbD_eq fun i hi => ?_)
      rw [BitVec.getLsbD_zero]
      by_cases htop : i + 1 < w
      · have hbit := congrArg (fun x => x.getLsbD (i + 1)) hzero
        simpa [htop, BitVec.getLsbD_eq_getElem hi] using hbit
      · have hi' : i = w - 1 := by omega
        rw [BitVec.msb_eq_getLsbD_last] at hmsb
        rw [hi']
        exact hmsb

include htaps in
/-- A register that is not empty does not empty itself. -/
theorem register_zeros_ne_zero {c : BitVec w} (h : c ≠ 0#w) (n : Nat) :
    register taps c (replicate n false) ≠ 0#w := by
  induction n generalizing c with
  | zero => exact h
  | succ n ih => exact ih (feed_false_ne_zero htaps h)

include htaps in
/-- After a step some low bit of the register is set if one was before, or the bit fed is
not the one shifted out. -/
theorem feed_low {c : BitVec w} {bit : Bool} {i : Nat} (hi : i + 1 < w)
    (hlow : (∃ k ≤ i, c.getLsbD k = true)) :
    ∃ k ≤ i + 1, (feed taps c bit).getLsbD k = true := by
  obtain ⟨k, hk, hbit⟩ := hlow
  cases hfeedback : c.msb ^^ bit with
  | true =>
      refine ⟨0, Nat.zero_le _, ?_⟩
      rw [feed, hfeedback, if_pos rfl]
      simp [htaps]
  | false =>
      refine ⟨k + 1, by omega, ?_⟩
      rw [feed, hfeedback, if_neg (by decide)]
      simp [hbit]
      omega

include htaps in
theorem register_low {c : BitVec w} {bits : List Bool} {i : Nat} (hi : i + bits.length < w)
    (hlow : (∃ k ≤ i, c.getLsbD k = true)) :
    ∃ k ≤ i + bits.length, (register taps c bits).getLsbD k = true := by
  induction bits generalizing c i with
  | nil => exact hlow
  | cons bit bits ih =>
      rw [length_cons] at hi
      obtain ⟨k, hk, hbit⟩ := ih (by omega)
        (feed_low htaps (by omega) hlow)
      exact ⟨k, by rw [length_cons]; omega, hbit⟩

include htaps in
/-- No window as short as the register leaves an empty register empty. -/
theorem register_window_ne_zero {window : List Bool} (hshort : window.length ≤ w)
    (hnonzero : true ∈ window) : register taps 0#w window ≠ 0#w := by
  induction window with
  | nil => cases hnonzero
  | cons bit bits ih =>
      rw [length_cons] at hshort
      cases bit with
      | false =>
          have hrest := ih (by omega) (by simpa using hnonzero)
          rw [register, foldl_cons, feed_zero_false]
          exact hrest
      | true =>
          -- the taps come in, and with them the constant term
          have hfirst : (feed taps 0#w true).getLsbD 0 = true := by
            simp [feed, htaps]
          obtain ⟨k, _, hbit⟩ := register_low htaps (show 0 + bits.length < w by omega)
            ⟨0, Nat.le_refl 0, hfirst⟩
          intro hzero
          have hreg : register taps (feed taps 0#w true) bits = 0#w := hzero
          rw [hreg, BitVec.getLsbD_zero] at hbit
          cases hbit

include htaps in
/-- **Bursts are seen.**  A burst no longer than the register does not leave it empty. -/
theorem register_burst_ne_zero (burst : Burst w) : register taps 0#w burst.pattern ≠ 0#w := by
  rw [Burst.pattern, register_append, register_append, register_zeros]
  exact register_zeros_ne_zero htaps
    (register_window_ne_zero htaps burst.short burst.nonzero) burst.after

include htaps in
/-- **The trailer decides.**  The register is empty after a trailer exactly when the trailer
is what the register held. -/
theorem register_eq_zero_iff (c : BitVec w) {trailer : List Bool} (h : trailer.length = w) :
    register taps c trailer = 0#w ↔ trailer = remainderBits c := by
  constructor
  · intro hzero
    have hlength : (remainderBits c).length = trailer.length := by rw [remainderBits_length, h]
    have hdifference := register_addBits taps c c hlength
    rw [register_remainderBits, hzero, BitVec.xor_self, BitVec.xor_zero] at hdifference
    by_contra hne
    have hshort : (addBits (remainderBits c) trailer).length ≤ w := by simp [h]
    refine register_window_ne_zero htaps hshort ?_ hdifference
    by_contra hclear
    exact hne (eq_of_addBits_clear hlength hclear).symm
  · intro htrailer
    rw [htrailer]
    exact register_remainderBits c

end ConstantTerm

/-! ### Few errors -/

/-- One bit among `n`. -/
def single (n i : Nat) : List Bool := (List.replicate n false).set i true

@[simp] theorem single_length (n i : Nat) : (single n i).length = n := by simp [single]

theorem single_zero (n : Nat) : single (n + 1) 0 = true :: replicate n false := rfl

theorem single_succ (n i : Nat) : single (n + 1) (i + 1) = false :: single n i := rfl

theorem single_count {n i : Nat} (h : i < n) : (single n i).count true = 1 := by
  induction n generalizing i with
  | zero => cases h
  | succ n ih =>
      cases i with
      | zero => simp [single_zero, count_replicate]
      | succ i => simp [single_succ, ih (Nat.lt_of_succ_lt_succ h)]

theorem single_injective {n i j : Nat} (hi : i < n) (hj : j < n) (h : single n i = single n j) :
    i = j := by
  induction n generalizing i j with
  | zero => cases hi
  | succ n ih =>
      cases i with
      | zero =>
          cases j with
          | zero => rfl
          | succ j =>
              cases h
      | succ i =>
          cases j with
          | zero =>
              cases h
          | succ j =>
              have htail := ih (Nat.lt_of_succ_lt_succ hi) (Nat.lt_of_succ_lt_succ hj)
                (cons.inj h).2
              rw [htail]

/-- One error is at some place. -/
theorem eq_single {bits : List Bool} (h : bits.count true = 1) :
    ∃ i < bits.length, bits = single bits.length i := by
  induction bits with
  | nil => cases h
  | cons bit bits ih =>
      cases bit with
      | true =>
          rw [count_cons_self] at h
          have hclear : ∀ b ∈ bits, b = false := by
            intro b hb
            cases b with
            | false => rfl
            | true =>
                have hpos := count_pos_iff.mpr hb
                omega
          refine ⟨0, by simp, ?_⟩
          rw [length_cons, single_zero, eq_replicate_iff.mpr ⟨rfl, hclear⟩]
          simp
      | false =>
          obtain ⟨i, hi, hbits⟩ := ih (by simpa using h)
          refine ⟨i + 1, by simpa using hi, ?_⟩
          rw [length_cons, single_succ, ← hbits]

/-- Two errors are at two places. -/
theorem eq_two {bits : List Bool} (h : bits.count true = 2) :
    ∃ i < bits.length, ∃ j < bits.length, i ≠ j ∧
      bits = addBits (single bits.length i) (single bits.length j) := by
  induction bits with
  | nil => cases h
  | cons bit bits ih =>
      cases bit with
      | true =>
          rw [count_cons_self] at h
          obtain ⟨j, hj, hbits⟩ := eq_single (show bits.count true = 1 by omega)
          refine ⟨0, by simp, j + 1, by simpa using hj, by omega, ?_⟩
          rw [length_cons, single_zero, single_succ, addBits_cons]
          have hzero : addBits (replicate bits.length false) (single bits.length j) =
              single bits.length j := by
            rw [addBits_comm]
            exact addBits_clear (by simp) fun b hb => eq_of_mem_replicate hb
          rw [hzero, ← hbits]
          rfl
      | false =>
          obtain ⟨i, hi, j, hj, hne, hbits⟩ := ih (by simpa using h)
          refine ⟨i + 1, by simpa using hi, j + 1, by simpa using hj, by omega, ?_⟩
          rw [length_cons, single_succ, single_succ, addBits_cons, ← hbits]
          rfl

section Light

variable (odd : BitVec w → Bool) (hodd : ∀ c bit, odd (feed taps c bit) = (odd c ^^ bit))

include hodd in
/-- With an even number of terms in the generator, the register knows whether an odd number of
ones went in. -/
theorem odd_register (c : BitVec w) (bits : List Bool) :
    odd (register taps c bits) = (odd c ^^ decide (bits.count true % 2 = 1)) := by
  induction bits generalizing c with
  | nil => simp [register]
  | cons bit bits ih =>
      have hrest := ih (feed taps c bit)
      rw [hodd] at hrest
      refine hrest.trans ?_
      cases bit with
      | false => simp
      | true =>
          have hparity : decide ((bits.count true + 1) % 2 = 1) =
              !decide (bits.count true % 2 = 1) := by
            by_cases hc : bits.count true % 2 = 1
            · simp [hc]
              omega
            · simp [hc]
              omega
          rw [count_cons_self, hparity]
          cases odd c <;> simp

include hodd in
/-- **Distance four.**  Where no two places leave the same remainder, one, two or three errors
do not leave the register empty. -/
theorem register_light_ne_zero (hzero : odd 0#w = false) {n : Nat}
    (hplaces : ∀ i < n, ∀ j < n,
      register taps 0#w (single n i) = register taps 0#w (single n j) → i = j)
    {bits : List Bool} (hlength : bits.length = n) (hnonzero : true ∈ bits)
    (hlight : bits.count true ≤ 3) : register taps 0#w bits ≠ 0#w := by
  have hpos := count_pos_iff.mpr hnonzero
  intro hempty
  have hparity := odd_register odd hodd 0#w bits
  rw [hempty, hzero, Bool.false_xor] at hparity
  have heven : ¬ bits.count true % 2 = 1 := by simpa using hparity.symm
  obtain ⟨i, hi, j, hj, hne, hbits⟩ := eq_two (show bits.count true = 2 by omega)
  rw [hlength] at hi hj hbits
  have hadded := register_addBits taps 0#w 0#w
    (show (single n i).length = (single n j).length by simp)
  rw [BitVec.xor_zero, ← hbits, hempty] at hadded
  exact hne (hplaces i hi j hj (BitVec.xor_eq_zero_iff.mp hadded.symm))

end Light

end CyclicCode
