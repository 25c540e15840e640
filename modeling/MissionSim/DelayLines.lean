import MissionSim.Streaming
import Mathlib.Algebra.Order.Ring.Int
import Mathlib.Data.List.GetD
import Mathlib.Tactic.Linarith
import Mathlib.Tactic.Ring

/-!
# Banks of delay lines

A commutator hands the symbols of a stream to a number of lines in turn.  A line gives back, for
each symbol, the one it has held longest.

A line of `d` places among `n` lines delays its symbols by `d * n` positions of the stream
(`run_fresh`).  Two banks whose lines complement each other to the same number of places delay every
symbol alike (`run_run_fresh`).
-/

namespace DelayLines

open List

variable {α : Type}

/-! ### Banks -/

/-- A symbol goes into a line, and what it has held longest comes out; a line without places lets
the symbol through. -/
def pass (line : List α) (x : α) : α × List α :=
  match line with
  | [] => (x, [])
  | held :: rest => (held, rest ++ [x])

/-- The lines, and the one whose turn it is. -/
structure Bank (α : Type) where
  lines : List (List α)
  turn : Nat
  turn_lt : turn < lines.length

namespace Bank

/-- The line whose turn it is. -/
def line (b : Bank α) : List α := b.lines.get ⟨b.turn, b.turn_lt⟩

/-- One symbol. -/
def step (b : Bank α) (x : α) : α × Bank α :=
  ((pass b.line x).1,
    { lines := b.lines.set b.turn (pass b.line x).2
      turn := (b.turn + 1) % b.lines.length
      turn_lt := by
        rw [List.length_set]
        exact Nat.mod_lt _ (Nat.zero_lt_of_lt b.turn_lt) })

/-- A string of symbols. -/
def run : Bank α → List α → List α × Bank α
  | b, [] => ([], b)
  | b, x :: xs => ((b.step x).1 :: ((b.step x).2.run xs).1, ((b.step x).2.run xs).2)

theorem run_append (b : Bank α) (xs ys : List α) :
    b.run (xs ++ ys) = ((b.run xs).1 ++ ((b.run xs).2.run ys).1, ((b.run xs).2.run ys).2) := by
  induction xs generalizing b with
  | nil => rfl
  | cons x xs ih =>
      rw [cons_append, run, ih]
      rfl

theorem run_length (b : Bank α) (xs : List α) : (b.run xs).1.length = xs.length := by
  induction xs generalizing b with
  | nil => rfl
  | cons x xs ih => exact congrArg Nat.succ (ih _)

end Bank

/-! ### Lines over a signal -/

/-- The last `d` of the first `m` symbols that line `j` of `n` is given of a signal. -/
def window (signal : Int → α) (n j m d : Nat) : List α :=
  (List.range d).map fun k : Nat => signal (((m : Int) + (k : Int) - d) * n + j)

theorem pass_window (signal : Int → α) (n j m d : Nat) :
    pass (window signal n j m d) (signal ((m : Int) * n + j)) =
      (signal (((m : Int) - d) * n + j), window signal n j (m + 1) d) := by
  cases d with
  | zero =>
      rfl
  | succ d =>
      have hfirst : window signal n j m (d + 1) = signal (((m : Int) - (d + 1 : Nat)) * n + j) ::
          (range d).map fun k : Nat => signal (((m : Int) + (k : Int) - d) * n + j) := by
        unfold window
        rw [range_succ_eq_map, map_cons, map_map]
        congr 1
        refine map_congr_left fun k _ => ?_
        show signal _ = signal _
        congr 3
        push_cast
        ring
      have hlast : window signal n j (m + 1) (d + 1) =
          ((range d).map fun k : Nat => signal (((m : Int) + (k : Int) - d) * n + j)) ++
            [signal ((m : Int) * n + j)] := by
        unfold window
        rw [range_succ, map_append, map_singleton]
        congr 1
        · refine map_congr_left fun k _ => ?_
          congr 3
          push_cast
          ring
        · congr 4
          push_cast
          ring
      rw [hfirst, hlast]
      rfl

namespace Bank

/-- The bank after `q` turns of all `n` lines and some more, where line `j` has `delay j`
places. -/
structure Holds (b : Bank α) (n : Nat) (signal : Int → α) (delay : Nat → Nat) (q : Nat) :
    Prop where
  length : b.lines.length = n
  lines : ∀ j < n, b.lines[j]? =
    some (window signal n j (if j < b.turn then q + 1 else q) (delay j))

/-- The position of the next symbol. -/
def position (b : Bank α) (n q : Nat) : Nat := q * n + b.turn

variable {b : Bank α} {n : Nat} {signal : Int → α} {delay : Nat → Nat} {q : Nat}

theorem Holds.pass_line (h : b.Holds n signal delay q) :
    pass b.line (signal (b.position n q)) =
      (signal ((b.position n q : Int) - delay b.turn * n),
        window signal n b.turn (q + 1) (delay b.turn)) := by
  have hline : b.line = window signal n b.turn q (delay b.turn) := by
    have hlines := h.lines b.turn (h.length ▸ b.turn_lt)
    rw [if_neg (Nat.lt_irrefl _), getElem?_eq_getElem b.turn_lt] at hlines
    exact Option.some.inj hlines
  have hposition : (b.position n q : Int) = (q : Int) * n + b.turn := by
    rfl
  rw [hline, hposition, pass_window]
  congr 2
  ring

/-- Every line but one is as it was, and that one has one symbol more. -/
theorem Holds.step_lines (h : b.Holds n signal delay q) {j : Nat} (hj : j < n) :
    (b.step (signal (b.position n q))).2.lines[j]? =
      some (window signal n j (if j < b.turn + 1 then q + 1 else q) (delay j)) := by
  show (b.lines.set b.turn (pass b.line (signal (b.position n q))).2)[j]? = _
  rw [getElem?_set, h.pass_line]
  by_cases hturn : b.turn = j
  · rw [if_pos hturn, if_pos b.turn_lt, if_pos (by omega), hturn]
  · rw [if_neg hturn, h.lines j hj]
    congr 2
    split_ifs <;> omega

/-- **One symbol of the signal** comes out delayed by its line. -/
theorem Holds.step (h : b.Holds n signal delay q) :
    (b.step (signal (b.position n q))).1 =
        signal ((b.position n q : Int) - delay (b.position n q % n) * n) ∧
      ∃ q', (b.step (signal (b.position n q))).2.position n q' = b.position n q + 1 ∧
        (b.step (signal (b.position n q))).2.Holds n signal delay q' := by
  have hturn : b.turn < n := h.length ▸ b.turn_lt
  have hlength : (b.step (signal (b.position n q))).2.lines.length = n :=
    length_set.trans h.length
  refine ⟨?_, ?_⟩
  · show (pass b.line (signal (b.position n q))).1 = _
    have hmod : b.position n q % n = b.turn := Nat.mul_add_mod_of_lt hturn
    rw [h.pass_line, hmod]
  · have hnext : (b.step (signal (b.position n q))).2.turn = (b.turn + 1) % n :=
      congrArg ((b.turn + 1) % ·) h.length
    by_cases hlast : b.turn + 1 = n
    · have hzero : (b.step (signal (b.position n q))).2.turn = 0 := by
        rw [hnext, hlast, Nat.mod_self]
      refine ⟨q + 1, ?_, hlength, fun j hj => ?_⟩
      · unfold position at *
        rw [hzero, Nat.succ_mul]
        omega
      · rw [h.step_lines hj, hzero, if_pos (by omega), if_neg (Nat.not_lt_zero j)]
    · have hsucc : (b.step (signal (b.position n q))).2.turn = b.turn + 1 := by
        rw [hnext, Nat.mod_eq_of_lt (by omega)]
      refine ⟨q, ?_, hlength, fun j hj => ?_⟩
      · unfold position at *
        omega
      · rw [h.step_lines hj, hsucc]

/-- **A run over the signal.** -/
theorem Holds.run (h : b.Holds n signal delay q) (xs : List α)
    (hxs : ∀ i (hi : i < xs.length), xs[i] = signal ((b.position n q + i : Nat) : Int)) :
    (b.run xs).1 = (range xs.length).map fun i =>
      signal ((b.position n q + i : Nat) - (delay ((b.position n q + i) % n) * n : Nat)) := by
  induction xs generalizing b q with
  | nil => rfl
  | cons x xs ih =>
      have hx : x = signal (b.position n q) := hxs 0 (Nat.zero_lt_succ _)
      obtain ⟨hout, q', hposition, hholds⟩ := h.step
      have hrest := ih hholds fun i hi => by
        rw [hposition, Nat.add_assoc, Nat.add_comm 1 i]
        exact hxs (i + 1) (Nat.succ_lt_succ hi)
      rw [Bank.run, hx, hrest, hout, length_cons, range_succ_eq_map, map_cons,
        map_map, hposition]
      refine congrArg₂ cons ?_ (map_congr_left fun i _ => ?_)
      · rfl
      · show _ = signal (((b.position n q + (i + 1) : Nat) : Int) -
          (delay ((b.position n q + (i + 1)) % n) * n : Nat))
        rw [Nat.add_assoc, Nat.add_comm 1 i]

end Bank

/-! ### Fresh banks -/

section Fresh

variable (fill : α) {n : Nat} (hn : 0 < n) (delay : Nat → Nat)

/-- Lines filled up with the same symbol. -/
def fresh : Bank α where
  lines := (List.range n).map fun j => List.replicate (delay j) fill
  turn := 0
  turn_lt := by rwa [List.length_map, List.length_range]

/-- A string as a signal: before it there is the fill. -/
def past (xs : List α) (t : Int) : α := if t < 0 then fill else xs.getD t.toNat fill

theorem past_of_neg (xs : List α) {t : Int} (h : t < 0) : past fill xs t = fill := if_pos h

theorem past_getElem (xs : List α) {i : Nat} (h : i < xs.length) : past fill xs i = xs[i] := by
  unfold past
  rw [if_neg (by omega), Int.toNat_natCast, getD_eq_getElem _ _ h]

theorem fresh_holds (xs : List α) :
    (fresh fill hn delay).Holds n (past fill xs) delay 0 := by
  refine ⟨length_map _ |>.trans length_range, fun j hj => ?_⟩
  show ((range n).map _)[j]? = _
  rw [getElem?_map, getElem?_range hj, Option.map_some]
  congr 1
  refine (eq_replicate_iff.mpr ⟨?_, fun x hx => ?_⟩).symm
  · unfold window
    rw [length_map, length_range]
  · obtain ⟨k, hk, rfl⟩ := mem_map.mp hx
    have hk' := mem_range.mp hk
    refine past_of_neg fill xs ?_
    have hnone : (if j < (fresh fill hn delay).turn then 0 + 1 else 0) = 0 :=
      if_neg (Nat.not_lt_zero j)
    rw [hnone, Nat.cast_zero, Int.zero_add]
    have hback : ((k : Int) - delay j) * n ≤ -1 * n :=
      Int.mul_le_mul_of_nonneg_right (by omega) (Int.natCast_nonneg n)
    omega

/-- **A fresh bank** delays each position by the places of its line. -/
theorem run_fresh (xs : List α) :
    ((fresh fill hn delay).run xs).1 = (range xs.length).map fun i : Nat =>
      past fill xs ((i : Int) - (delay (i % n) * n : Nat)) := by
  have hposition : (fresh fill hn delay).position n 0 = 0 := by
    show 0 * n + 0 = 0
    rw [Nat.zero_mul]
  have hrun := (fresh_holds fill hn delay xs).run xs fun i hi => by
    rw [hposition, Nat.zero_add, past_getElem fill xs hi]
  rw [hrun, hposition]
  simp only [Nat.zero_add]

/-- **Complementary banks**, one after the other, delay every position alike. -/
theorem run_run_fresh {delay' : Nat → Nat} {places : Nat}
    (hplaces : ∀ j < n, delay j + delay' j = places) (xs : List α) :
    ((fresh fill hn delay').run ((fresh fill hn delay).run xs).1).1 =
      (range xs.length).map fun i : Nat => past fill xs ((i : Int) - (places * n : Nat)) := by
  rw [run_fresh fill hn delay', Bank.run_length]
  refine map_congr_left fun i hi => ?_
  have hi' := mem_range.mp hi
  have hsum : delay' (i % n) * n + delay (i % n) * n = places * n := by
    rw [← Nat.add_mul, Nat.add_comm, hplaces _ (Nat.mod_lt i hn)]
  by_cases hlate : delay' (i % n) * n ≤ i
  · -- the second bank looks back at the same line of the first
    have hback : ((i : Int) - (delay' (i % n) * n : Nat)) = (i - delay' (i % n) * n : Nat) := by
      omega
    have hline : (i - delay' (i % n) * n) % n = i % n := by
      rw [Nat.mul_comm]
      exact Nat.sub_mul_mod (by rwa [Nat.mul_comm] at hlate)
    rw [hback, past_getElem fill _ (by rw [Bank.run_length]; omega)]
    simp only [run_fresh, getElem_map, getElem_range, hline]
    congr 1
    omega
  · rw [past_of_neg fill _ (by omega), past_of_neg fill _ (by omega)]

end Fresh

end DelayLines
