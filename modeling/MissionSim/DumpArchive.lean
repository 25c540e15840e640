import Mathlib.Data.List.TakeWhile
import MissionSim.Effects
import MissionSim.Python
import MissionSim.Records

/-!
# The archive of a dump

A dump of stored telemetry is written to a file, packet after packet, each with its length in four
octets before it.  The reader of the file takes packets as long as they are whole.

The file may end anywhere, as it does when the writer is cut short: what is read are the packets
whose records are complete, and nothing raises.
-/

namespace DumpArchive

open Octets Python Effects Streaming Records

/-! ### Writing -/

/-- `f.write(octets)`. -/
def write (octets : Bytes) : EStateM PyError Bytes PUnit := modify (· ++ octets)

/-- One packet of the loop that writes the archive. -/
def writePacket (pkt : Bytes) : EStateM PyError Bytes PUnit := do
  let length ← fromExcept (packUnsigned 4 pkt.length)
  write length
  write pkt

/-- The file that is left: what was written before a packet too long for its length field, whose
exception ends the writing. -/
def archived (packets : List Bytes) : Bytes := finalState (packets.forM writePacket) []

/-- The packets that are written. -/
def written (packets : List Bytes) : List Bytes := packets.takeWhile fun pkt => pkt.length < 2 ^ 32

/-! ### Reading -/

/-- `struct.unpack(">I", data)`. -/
def unpackWord (data : Bytes) : Except PyError Nat :=
  if data.length = 4 then .ok (unpackU32 data) else .error .structError

/-- The loop of `iter_packets` from the offset `off`. -/
def iterFrom (data : Bytes) (off : Nat) : Except PyError (List Bytes) :=
  if off + 4 ≤ data.length then do
    let n ← unpackWord (slice data off (off + 4))
    -- a truncated trailer ends the loop
    if data.length < off + 4 + n then pure []
    else do
      let rest ← iterFrom data (off + 4 + n)
      pure (slice data (off + 4) (off + 4 + n) :: rest)
  else pure []
termination_by data.length - off

/-- `iter_packets(data)`. -/
def iterPackets (data : Bytes) : Except PyError (List Bytes) := iterFrom data 0

/-! ### The file as records -/

/-- Four octets of length, most significant first. -/
def wordPrefix : LengthPrefix UInt8 where
  width := 4
  limit := 2 ^ 32
  header := packU32
  size := unpackU32
  header_length := packU32_length
  size_header n hn := by
    have hword := unpackU32_packU32_append n []
    rwa [List.append_nil, Nat.mod_eq_of_lt hn] at hword

variable {pkt : Bytes}

theorem writePacket_ok (h : pkt.length < 2 ^ 32) (file : Bytes) :
    writePacket pkt file = .ok ⟨⟩ (file ++ wordPrefix.record pkt) := by
  unfold writePacket
  rw [packUnsigned_four h, LengthPrefix.record, ← List.append_assoc]
  rfl

theorem writePacket_error (h : ¬ pkt.length < 2 ^ 32) (file : Bytes) :
    writePacket pkt file = .error .structError file := by
  have hrange : ¬ (0 ≤ (pkt.length : Int) ∧ (pkt.length : Int) < 2 ^ (8 * 4)) := by omega
  unfold writePacket packUnsigned
  rw [if_neg hrange]
  rfl

theorem written_cons (h : pkt.length < 2 ^ 32) (packets : List Bytes) :
    written (pkt :: packets) = pkt :: written packets :=
  List.takeWhile_cons_of_pos (decide_eq_true h)

theorem written_cons_long (h : ¬ pkt.length < 2 ^ 32) (packets : List Bytes) :
    written (pkt :: packets) = [] := by
  apply List.takeWhile_cons_of_neg
  simpa using h

/-- What the loop leaves behind what was there: the records of the packets that are written. -/
theorem finalState_writePackets (packets : List Bytes) (file : Bytes) :
    finalState (packets.forM writePacket) file = file ++ wordPrefix.concat (written packets) := by
  induction packets generalizing file with
  | nil =>
      exact (List.append_nil file).symm
  | cons pkt packets ih =>
      rw [forM_cons]
      by_cases hfits : pkt.length < 2 ^ 32
      · rw [finalState_bind_of_ok (writePacket_ok hfits file), ih, written_cons hfits,
          LengthPrefix.concat_cons, List.append_assoc]
      · rw [finalState_bind_of_error (writePacket_error hfits file), written_cons_long hfits]
        exact (List.append_nil file).symm

theorem archived_eq (packets : List Bytes) :
    archived packets = wordPrefix.concat (written packets) := finalState_writePackets packets []

theorem written_short {packets : List Bytes} (h : pkt ∈ written packets) : pkt.length < 2 ^ 32 := by
  simpa using List.mem_takeWhile_imp h

/-- What fits is written. -/
theorem written_eq_self {packets : List Bytes} (h : ∀ pkt ∈ packets, pkt.length < 2 ^ 32) :
    written packets = packets := by
  apply List.takeWhile_eq_self_iff.mpr
  intro pkt hpkt
  simpa using h pkt hpkt

theorem slice_drop (data : Bytes) (off n : Nat) :
    slice data off (off + n) = (data.drop off).take n := by
  rw [slice, List.drop_take, Nat.add_sub_cancel_left]

/-- One turn of the loop, with the record at its offset. -/
theorem iterFrom_next (data : Bytes) (off : Nat) :
    iterFrom data off =
      if off + 4 + unpackU32 ((data.drop off).take 4) ≤ data.length then
        (slice data (off + 4) (off + 4 + unpackU32 ((data.drop off).take 4)) :: ·) <$>
          iterFrom data (off + 4 + unpackU32 ((data.drop off).take 4))
      else .ok [] := by
  rw [iterFrom, slice_drop]
  by_cases hheader : off + 4 ≤ data.length
  · have hword : unpackWord ((data.drop off).take 4) =
        .ok (unpackU32 ((data.drop off).take 4)) := by
      apply if_pos
      rw [List.length_take, List.length_drop]
      omega
    rw [if_pos hheader, hword]
    by_cases hbody : off + 4 + unpackU32 ((data.drop off).take 4) ≤ data.length
    · rw [if_pos hbody]
      show (if data.length < _ then _ else _) = _
      rw [if_neg (not_lt.mpr hbody)]
      rfl
    · rw [if_neg hbody]
      exact if_pos (not_le.mp hbody)
  · rw [if_neg hheader, if_neg (by omega)]
    rfl

/-- The record that the loop finds, or the condition on which it ends. -/
theorem next_drop (data : Bytes) (off : Nat) :
    wordPrefix.next (data.drop off) =
      if off + 4 + unpackU32 ((data.drop off).take 4) ≤ data.length then
        some ([slice data (off + 4) (off + 4 + unpackU32 ((data.drop off).take 4))],
          data.drop (off + 4 + unpackU32 ((data.drop off).take 4)))
      else none := by
  show (if (data.drop off).length < 4 + unpackU32 ((data.drop off).take 4) then none
    else some ([((data.drop off).drop 4).take (unpackU32 ((data.drop off).take 4))],
      (data.drop off).drop (4 + unpackU32 ((data.drop off).take 4)))) = _
  rw [List.length_drop, List.drop_drop, List.drop_drop, slice_drop, ← Nat.add_assoc]
  by_cases hbody : off + 4 + unpackU32 ((data.drop off).take 4) ≤ data.length
  · rw [if_neg (by omega), if_pos hbody]
  · rw [if_pos (by omega), if_neg hbody]

/-- The loop takes the records from the front of what is behind its offset. -/
theorem iterFrom_drains {data : Bytes} {outs : List Bytes} {torn : Bytes} {off : Nat}
    (h : Drains wordPrefix.next (data.drop off) outs torn) : iterFrom data off = .ok outs := by
  generalize hinput : data.drop off = input at h
  induction h generalizing off with
  | stop hnext =>
      subst hinput
      rw [next_drop] at hnext
      rw [iterFrom_next]
      split_ifs at hnext ⊢
      rfl
  | more hnext tail ih =>
      subst hinput
      rw [next_drop] at hnext
      rw [iterFrom_next]
      split_ifs at hnext ⊢
      cases hnext
      rw [ih rfl]
      rfl

/-- **The archive reads back.**  The packets that were written are read, all of the packets when each
fits its length field, and from the first `k` octets of the file exactly those whose records end
there or before; nothing raises. -/
theorem archive_reads_back (packets : List Bytes) :
    ((∀ pkt ∈ packets, pkt.length < 2 ^ 32) → written packets = packets) ∧
    iterPackets (archived packets) = .ok (written packets) ∧
    ∀ k, ∃ m ≤ (written packets).length,
      iterPackets ((archived packets).take k) = .ok ((written packets).take m) ∧
        ∀ i < (written packets).length,
          i < m ↔ (archived ((written packets).take (i + 1))).length ≤ k := by
  have hshort : ∀ pkt ∈ written packets, pkt.length < wordPrefix.limit := fun _ => written_short
  have hread : ∀ k, iterPackets ((archived packets).take k) =
      .ok ((written packets).take (wordPrefix.whole (written packets) k)) := by
    intro k
    obtain ⟨torn, hdrains⟩ := LengthPrefix.drains_take (by decide) hshort k
    rw [archived_eq, iterPackets]
    exact iterFrom_drains hdrains
  refine ⟨written_eq_self, ?_, ?_⟩
  · have hall := hread (archived packets).length
    have hwhole : wordPrefix.whole (written packets) (archived packets).length =
        (written packets).length := by rw [archived_eq, LengthPrefix.whole_all]
    rwa [hwhole, List.take_length, List.take_length] at hall
  · intro k
    refine ⟨_, LengthPrefix.whole_le _ k, hread k, ?_⟩
    intro i hi
    have hprefix : written ((written packets).take (i + 1)) = (written packets).take (i + 1) :=
      written_eq_self fun pkt hpkt => written_short (List.mem_of_mem_take hpkt)
    rw [LengthPrefix.lt_whole_iff hi, archived_eq, hprefix]

end DumpArchive
