import MissionSim.Streaming

/-!
# Length-prefixed records

A file of records, each with a header of fixed width that says how long the body is.  There is no
checksum and no count: what a reader finds in a file that was cut is decided by the lengths alone.

The reader takes one record after the other from the front.  A cut leaves the records that are whole
and a torn one, which the reader does not take.
-/

namespace Records

open Streaming List

variable {α : Type*}

/-- A header that says how long a body is, below a limit. -/
structure LengthPrefix (α : Type*) where
  width : Nat
  limit : Nat
  header : Nat → List α
  size : List α → Nat
  header_length : ∀ n, (header n).length = width
  size_header : ∀ n < limit, size (header n) = n

variable (p : LengthPrefix α)

namespace LengthPrefix

/-- A body behind its header. -/
def record (body : List α) : List α := p.header body.length ++ body

/-- A file of records. -/
def concat (bodies : List (List α)) : List α := bodies.flatMap p.record

/-- The record at the front, if it is whole, and what is behind it. -/
def next (data : List α) : Option (List (List α) × List α) :=
  let n := p.size (data.take p.width)
  if data.length < p.width + n then none
  else some ([(data.drop p.width).take n], data.drop (p.width + n))

/-- How many records of a file are whole in its first `k` items. -/
def whole : List (List α) → Nat → Nat
  | [], _ => 0
  | body :: bodies, k =>
      if (p.record body).length ≤ k then whole bodies (k - (p.record body).length) + 1 else 0

variable {p}

theorem record_length (body : List α) : (p.record body).length = p.width + body.length := by
  rw [record, length_append, p.header_length]

theorem concat_cons (body : List α) (bodies : List (List α)) :
    p.concat (body :: bodies) = p.record body ++ p.concat bodies := flatMap_cons

/-- The header is read as soon as it is there. -/
theorem size_take {body : List α} (h : body.length < p.limit) {data rest : List α}
    (hdata : data = p.header body.length ++ rest) : p.size (data.take p.width) = body.length := by
  rw [hdata, ← p.header_length body.length, take_left, p.size_header _ h]

theorem next_record {body : List α} (h : body.length < p.limit) (rest : List α) :
    p.next (p.record body ++ rest) = some ([body], rest) := by
  have hsize := size_take h (append_assoc (p.header body.length) body rest)
  have hbody : ((p.record body ++ rest).drop p.width).take body.length = body := by
    rw [record, append_assoc, ← p.header_length body.length, drop_left, take_left]
  have hrest : (p.record body ++ rest).drop (p.width + body.length) = rest := by
    rw [← record_length, drop_left]
  unfold next
  rw [record, hsize, ← record, if_neg ?_, hbody, hrest]
  rw [length_append, record_length]
  omega

/-- A torn record is not taken, wherever it was cut. -/
theorem next_torn {body : List α} (h : body.length < p.limit) {k : Nat}
    (hk : k < (p.record body).length) : p.next ((p.record body).take k) = none := by
  have hlength : ((p.record body).take k).length = k := by
    rw [length_take, Nat.min_eq_left (Nat.le_of_lt hk)]
  unfold next
  by_cases hheader : k < p.width
  · exact if_pos (by omega)
  · have htorn : (p.record body).take k =
        p.header body.length ++ body.take (k - p.width) := by
      rw [record, take_append, p.header_length, take_of_length_le]
      rw [p.header_length]
      omega
    rw [size_take h htorn]
    rw [record_length] at hk
    exact if_pos (by omega)

/-- What a reader finds in the first `k` items of a file are the records that are whole in them. -/
theorem drains_take (hpos : 0 < p.width) {bodies : List (List α)}
    (h : ∀ body ∈ bodies, body.length < p.limit) (k : Nat) :
    ∃ torn, Drains p.next ((p.concat bodies).take k) (bodies.take (p.whole bodies k)) torn := by
  induction bodies generalizing k with
  | nil =>
      refine ⟨[], ?_⟩
      rw [concat, flatMap_nil, take_nil, take_nil]
      apply Drains.stop
      exact if_pos (Nat.lt_of_lt_of_le hpos (Nat.le_add_right _ _))
  | cons body bodies ih =>
      have hbody := h body mem_cons_self
      rw [concat_cons]
      unfold whole
      by_cases hwhole : (p.record body).length ≤ k
      · obtain ⟨torn, hrest⟩ := ih (fun b hb => h b (mem_cons_of_mem _ hb))
          (k - (p.record body).length)
        refine ⟨torn, ?_⟩
        rw [if_pos hwhole, take_append, take_of_length_le hwhole, take_succ_cons]
        exact Drains.more (next_record hbody _) hrest
      · refine ⟨(p.record body).take k, ?_⟩
        rw [if_neg hwhole, take_zero,
          take_append_of_le_length (Nat.le_of_lt (Nat.lt_of_not_le hwhole))]
        exact Drains.stop (next_torn hbody (Nat.lt_of_not_le hwhole))

/-- A record is whole when the cut is not before its end. -/
theorem lt_whole_iff {bodies : List (List α)} {i : Nat} (hi : i < bodies.length) (k : Nat) :
    i < p.whole bodies k ↔ (p.concat (bodies.take (i + 1))).length ≤ k := by
  induction bodies generalizing i k with
  | nil => exact absurd hi (Nat.not_lt_zero i)
  | cons body bodies ih =>
      rw [take_succ_cons, concat_cons, length_append]
      unfold whole
      cases i with
      | zero =>
          split_ifs with hwhole
          · simpa [concat] using hwhole
          · simpa [concat] using hwhole
      | succ i =>
          have hrest := ih (Nat.lt_of_succ_lt_succ hi) (k - (p.record body).length)
          split_ifs with hwhole
          · omega
          · omega

theorem whole_le (bodies : List (List α)) (k : Nat) : p.whole bodies k ≤ bodies.length := by
  induction bodies generalizing k with
  | nil => exact Nat.le_refl 0
  | cons body bodies ih =>
      unfold whole
      split_ifs
      · exact Nat.succ_le_succ (ih _)
      · exact Nat.zero_le _

theorem whole_all (bodies : List (List α)) :
    p.whole bodies (p.concat bodies).length = bodies.length := by
  induction bodies with
  | nil => rfl
  | cons body bodies ih =>
      unfold whole
      rw [concat_cons, length_append, if_pos (Nat.le_add_right _ _), Nat.add_sub_cancel_left,
        ih, length_cons]

end LengthPrefix

end Records
