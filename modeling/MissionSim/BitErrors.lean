import MissionSim.Convolutional
import MissionSim.CyclicCode

/-!
# Bit errors

Octets received with some of their bits turned over.  A pattern says which: it has one bit
for each bit sent.
-/

namespace Ccsds

open Octets CyclicCode

/-- Turn over the bits of a pattern. -/
def corrupt (raw : Bytes) (pattern : List Bool) : Bytes := packBits (addBits (bitsOf raw) pattern)

section Corruption

variable {raw : Bytes} {pattern : List Bool} (hpattern : pattern.length = 8 * raw.length)

include hpattern in
theorem bitsOf_corrupt : bitsOf (corrupt raw pattern) = addBits (bitsOf raw) pattern := by
  have hbits := bitsOf_packBits (show 0 < 8 by decide) (addBits (bitsOf raw) pattern)
    (by simp [hpattern])
  simpa [corrupt] using hbits

include hpattern in
theorem corrupt_length : (corrupt raw pattern).length = raw.length := by
  have hlength := congrArg List.length (bitsOf_corrupt hpattern)
  simp only [bitsOf_length, addBits_length, hpattern] at hlength
  omega

/-- Where the pattern is clear, the octets are as they were. -/
theorem corrupt_slice (hpattern : pattern.length = 8 * raw.length) {i j : Nat}
    (hclear : ∀ bit ∈ (pattern.take (8 * j)).drop (8 * i), bit = false) :
    slice (corrupt raw pattern) i j = slice raw i j := by
  refine bitsOf_injective ?_
  rw [slice, slice, bitsOf_drop, bitsOf_drop, bitsOf_take, bitsOf_take,
    bitsOf_corrupt hpattern, addBits, List.take_zipWith, List.drop_zipWith]
  refine addBits_clear ?_ hclear
  simp [hpattern]

/-- Errors in two parts of the octets. -/
theorem corrupt_append {raw' : Bytes} {pattern' : List Bool}
    (hpattern : pattern.length = 8 * raw.length) (hpattern' : pattern'.length = 8 * raw'.length) :
    corrupt (raw ++ raw') (pattern ++ pattern') = corrupt raw pattern ++ corrupt raw' pattern' := by
  have hwhole : (pattern ++ pattern').length = 8 * (raw ++ raw').length := by
    rw [List.length_append, List.length_append]
    omega
  refine bitsOf_injective ?_
  rw [bitsOf_corrupt hwhole, bitsOf_append, bitsOf_append, bitsOf_corrupt hpattern,
    bitsOf_corrupt hpattern', addBits_append (by rw [bitsOf_length, hpattern])]

/-- No errors. -/
theorem corrupt_none (raw : Bytes) {n : Nat} (h : n = 8 * raw.length) :
    corrupt raw (List.replicate n false) = raw := by
  refine bitsOf_injective ?_
  rw [bitsOf_corrupt (by rw [List.length_replicate, h])]
  refine addBits_clear ?_ fun bit hbit => List.eq_of_mem_replicate hbit
  rw [List.length_replicate, bitsOf_length, h]

end Corruption

end Ccsds
