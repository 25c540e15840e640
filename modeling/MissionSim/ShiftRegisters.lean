import Mathlib.Algebra.LinearRecurrence

/-!
# Shift registers

A register with linear feedback holds a window of a solution of its recurrence, and each shift moves
the window on by one (`tupleSucc_iterate`).  So what a register puts out is the solution that starts
with its seed.
-/

namespace LinearRecurrence

variable {R : Type} [CommSemiring R] (E : LinearRecurrence R) (seed : Fin E.order → R)

/-- **The register after some shifts** holds a window of the solution. -/
theorem tupleSucc_iterate (n : Nat) (i : Fin E.order) :
    (E.tupleSucc^[n] seed) i = E.mkSol seed (n + i) := by
  induction n generalizing i with
  | zero =>
      rw [Nat.zero_add]
      exact (E.mkSol_eq_init seed i).symm
  | succ n ih =>
      rw [Function.iterate_succ_apply']
      show (if h : (i : Nat) + 1 < E.order then (E.tupleSucc^[n] seed) ⟨i + 1, h⟩
        else ∑ k, E.coeffs k * (E.tupleSucc^[n] seed) k) = _
      split_ifs with h
      · rw [ih, Nat.add_assoc, Nat.add_comm 1]
      · have hlast : n + 1 + (i : Nat) = n + E.order := by
          omega
        rw [hlast, E.is_sol_mkSol seed n]
        exact Finset.sum_congr rfl fun k _ => by rw [ih]

end LinearRecurrence
