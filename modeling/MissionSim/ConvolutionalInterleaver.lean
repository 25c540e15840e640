import MissionSim.DelayLines
import MissionSim.Octets

/-!
# The convolutional interleaver

The interleaver spreads a stream over branches with more and more delay, the deinterleaver has the
complementary delays.  Both go round their branches with one and the same index.

An instance that interleaves and another that deinterleaves delay the stream together, whatever the
chunks (`deinterleave_interleave`).  Without a branch there are no lines, and this is left out.
-/

namespace Ccsds

open Octets DelayLines

structure ConvolutionalInterleaver where
  branches : Nat
  unitDelay : Nat
  interleaveLines : List Bytes
  deinterleaveLines : List Bytes
  branchIdx : Nat
  branchIdx_lt : branchIdx < branches
  interleaveLines_length : interleaveLines.length = branches
  deinterleaveLines_length : deinterleaveLines.length = branches

namespace ConvolutionalInterleaver

/-- The places of a branch of the interleaver. -/
def interleaveDelay (unitDelay i : Nat) : Nat := i * unitDelay

/-- The places of a branch of the deinterleaver. -/
def deinterleaveDelay (branches unitDelay i : Nat) : Nat := (branches - 1 - i) * unitDelay

/-- `__init__(branches, unit_delay)`. -/
def create {branches : Nat} (h : 1 ≤ branches) (unitDelay : Nat) : ConvolutionalInterleaver where
  branches := branches
  unitDelay := max 1 unitDelay
  interleaveLines :=
    (List.range branches).map fun i => List.replicate (interleaveDelay unitDelay i) 0
  deinterleaveLines :=
    (List.range branches).map fun i => List.replicate (deinterleaveDelay branches unitDelay i) 0
  branchIdx := 0
  branchIdx_lt := h
  interleaveLines_length := List.length_map _ |>.trans List.length_range
  deinterleaveLines_length := List.length_map _ |>.trans List.length_range

variable (c : ConvolutionalInterleaver)

/-- The branches with which a stream is interleaved. -/
def interleaveBank : Bank UInt8 where
  lines := c.interleaveLines
  turn := c.branchIdx
  turn_lt := by rw [c.interleaveLines_length]; exact c.branchIdx_lt

/-- The branches with which a stream is deinterleaved. -/
def deinterleaveBank : Bank UInt8 where
  lines := c.deinterleaveLines
  turn := c.branchIdx
  turn_lt := by rw [c.deinterleaveLines_length]; exact c.branchIdx_lt

/-- The number of lines stays. -/
theorem run_lines (b : Bank UInt8) (data : Bytes) :
    (b.run data).2.lines.length = b.lines.length := by
  induction data generalizing b with
  | nil => rfl
  | cons byte rest ih => exact (ih _).trans List.length_set

/-- `interleave(data)`. -/
def interleave (data : Bytes) : Bytes × ConvolutionalInterleaver :=
  ((c.interleaveBank.run data).1,
    { c with
      interleaveLines := (c.interleaveBank.run data).2.lines
      branchIdx := (c.interleaveBank.run data).2.turn
      branchIdx_lt := by
        have hlines := run_lines c.interleaveBank data
        have hturn := (c.interleaveBank.run data).2.turn_lt
        rw [hlines] at hturn
        exact c.interleaveLines_length ▸ hturn
      interleaveLines_length := (run_lines _ _).trans c.interleaveLines_length })

/-- `deinterleave(data)`. -/
def deinterleave (data : Bytes) : Bytes × ConvolutionalInterleaver :=
  ((c.deinterleaveBank.run data).1,
    { c with
      deinterleaveLines := (c.deinterleaveBank.run data).2.lines
      branchIdx := (c.deinterleaveBank.run data).2.turn
      branchIdx_lt := by
        have hlines := run_lines c.deinterleaveBank data
        have hturn := (c.deinterleaveBank.run data).2.turn_lt
        rw [hlines] at hturn
        exact c.deinterleaveLines_length ▸ hturn
      deinterleaveLines_length := (run_lines _ _).trans c.deinterleaveLines_length })

/-! ### Streams -/

theorem feedAll_interleave (chunks : List Bytes) :
    Streaming.feedAll interleave c chunks = (c.interleaveBank.run chunks.flatten).1 :=
  Streaming.feedAll_flatten (fun _ => rfl)
    (fun c xs ys => congrArg Prod.fst (c.interleaveBank.run_append xs ys)) c chunks

theorem feedAll_deinterleave (chunks : List Bytes) :
    Streaming.feedAll deinterleave c chunks = (c.deinterleaveBank.run chunks.flatten).1 :=
  Streaming.feedAll_flatten (fun _ => rfl)
    (fun c xs ys => congrArg Prod.fst (c.deinterleaveBank.run_append xs ys)) c chunks

/-- The delays of a branch on both sides add up. -/
theorem delays_add {branches i : Nat} (unitDelay : Nat) (h : i < branches) :
    interleaveDelay unitDelay i + deinterleaveDelay branches unitDelay i =
      (branches - 1) * unitDelay := by
  unfold interleaveDelay deinterleaveDelay
  rw [← Nat.add_mul]
  congr 1
  omega

/-- **A pure delay.**  A stream cut into chunks is interleaved, what comes out is cut anew and
deinterleaved; then at every position there is the byte that was `branches * (branches - 1) *
unitDelay` positions before, and zero where there was none. -/
theorem deinterleave_interleave {branches : Nat} (h : 1 ≤ branches) (unitDelay : Nat)
    (chunks : List Bytes) {received : List Bytes}
    (hreceived : received.flatten = Streaming.feedAll interleave (create h unitDelay) chunks) :
    Streaming.feedAll deinterleave (create h unitDelay) received =
      (List.range chunks.flatten.length).map fun n =>
        if n < branches * (branches - 1) * unitDelay then 0
        else chunks.flatten.getD (n - branches * (branches - 1) * unitDelay) 0 := by
  rw [feedAll_deinterleave, hreceived, feedAll_interleave]
  have hdelay : (branches - 1) * unitDelay * branches = branches * (branches - 1) * unitDelay := by
    ring
  have hsum : ∀ j < branches, interleaveDelay unitDelay j + deinterleaveDelay branches unitDelay j =
      (branches - 1) * unitDelay := fun j => delays_add unitDelay
  have hrun := run_run_fresh 0 h (interleaveDelay unitDelay) hsum chunks.flatten
  refine hrun.trans (List.map_congr_left fun n _ => ?_)
  rw [hdelay]
  by_cases hearly : n < branches * (branches - 1) * unitDelay
  · rw [past_of_neg _ _ (by omega), if_pos hearly]
  · have hback : (n : Int) - (branches * (branches - 1) * unitDelay : Nat) =
        (n - branches * (branches - 1) * unitDelay : Nat) := by
      omega
    rw [hback, if_neg hearly]
    unfold past
    rw [if_neg (by omega), Int.toNat_natCast]

/-- Eight bytes over two branches with a unit delay of one, cut anew after the first. -/
theorem eight_delayed :
    Streaming.feedAll deinterleave (create (by decide : 1 ≤ 2) 1) [[1], [0, 3, 2, 5, 4, 7, 6]] =
      [0, 0, 1, 2, 3, 4, 5, 6] :=
  deinterleave_interleave (by decide) 1 [[1, 2, 3], [4, 5, 6, 7], [8]] (by decide)

end ConvolutionalInterleaver

end Ccsds
