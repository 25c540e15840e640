import MissionSim.TcCltu

/-!
# What follows a packet

The octets of a packet are followed by those of the next one.  `decommutatePacket` takes the packet
from its declared length, but it looks for the secondary header, and for eight octets at all, in
everything it is given.  A packet that declares less is read with octets of its successor.
-/

namespace Ccsds

open Octets Ecss

/-- The lengths that the parser holds against all of the octets. -/
def lengthChecks (s : Bytes) : List Nat :=
  let primary := PrimaryHeader.unpack (s.take 6)
  8 :: if primary.secHdrFlag = 0 then [] else [if primary.packetType = packetTypeTC then 9 else 14]

variable {s : Bytes}

/-- What is parsed holds the packet that it declares. -/
theorem announcedTotal_of_some {pkt : DecommutatedPacket} (h : decommutatePacket s = some pkt) :
    announcedTotal s ≤ s.length := by
  by_contra hshort
  rw [decommutatePacket_short (.inr (by omega))] at h
  exact nomatch h

theorem take_announced_length (h : announcedTotal s ≤ s.length) :
    (s.take (announcedTotal s)).length = announcedTotal s := by
  rw [List.length_take, Nat.min_eq_left h]

/-- The packet alone has the header of all the octets. -/
theorem take_announced_header (t : Bytes) (h : announcedTotal s ≤ s.length) :
    (s.take (announcedTotal s) ++ t).take 6 = s.take 6 := by
  have hlength := take_announced_length h
  have hseven : 7 ≤ announcedTotal s := by
    unfold announcedTotal
    omega
  rw [List.take_append_of_le_length (by omega), List.take_take, Nat.min_eq_left (by omega)]

theorem announcedTotal_take (h : announcedTotal s ≤ s.length) :
    announcedTotal (s.take (announcedTotal s)) = announcedTotal s := by
  have hheader := take_announced_header [] h
  rw [List.append_nil] at hheader
  unfold announcedTotal slice at hheader ⊢
  rw [hheader]

/-- Besides the check for eight octets there is at most the one for the secondary header. -/
theorem headerFits_of_checks {raw : Bytes} (hheader : raw.take 6 = s.take 6) :
    HeaderFits raw ↔ ∀ k ∈ (lengthChecks s).tail, k ≤ raw.length := by
  unfold HeaderFits lengthChecks
  rw [hheader]
  by_cases hflag : (PrimaryHeader.unpack (s.take 6)).secHdrFlag = 0
  · simp [hflag]
  · by_cases htc : (PrimaryHeader.unpack (s.take 6)).packetType = packetTypeTC
    · simp [hflag, htc]
    · simp [hflag, htc, Nat.lt_iff_add_one_le]

theorem lengthChecks_cases (s : Bytes) :
    lengthChecks s = [8] ∨ ∃ k, lengthChecks s = [8, k] := by
  unfold lengthChecks
  by_cases hflag : (PrimaryHeader.unpack (s.take 6)).secHdrFlag = 0
  · exact .inl (by simp [hflag])
  · exact .inr ⟨if (PrimaryHeader.unpack (s.take 6)).packetType = packetTypeTC then 9 else 14,
      by simp only [hflag, if_false]⟩

/-- A suffix is ignored when every check that the packet passes with it, it passes alone. -/
theorem suffix_ignored (h : announcedTotal s ≤ s.length) (t : Bytes) :
    decommutatePacket (s.take (announcedTotal s) ++ t) =
        decommutatePacket (s.take (announcedTotal s)) ↔
      ∀ k ∈ lengthChecks s, k ≤ announcedTotal s + t.length → k ≤ announcedTotal s := by
  have hlength := take_announced_length h
  have halone := headerFits_of_checks
    (by simpa using take_announced_header [] h)
  have hfollowed := headerFits_of_checks (take_announced_header t h)
  rw [decommutatePacket_append_iff t (by rw [announcedTotal_take h, hlength]), halone, hfollowed,
    List.length_append, hlength]
  cases lengthChecks_cases s with
  | inl hone => simp [hone]
  | inr htwo =>
      obtain ⟨k, htwo⟩ := htwo
      simp [htwo]

/-- **The parser looks only at the packet** as long as each of its checks that some of what follows
would pass is passed by the declared length alone: whatever follows is ignored when the packet
passes them all. -/
theorem suffix_ignored_iff {pkt : DecommutatedPacket} (h : decommutatePacket s = some pkt) :
    (∀ t, decommutatePacket (s.take (announcedTotal s) ++ t) =
        decommutatePacket (s.take (announcedTotal s)) ↔
      ∀ k ∈ lengthChecks s, k ≤ announcedTotal s + t.length → k ≤ announcedTotal s) ∧
    ((∀ t, decommutatePacket (s.take (announcedTotal s) ++ t) =
        decommutatePacket (s.take (announcedTotal s))) ↔
      ∀ k ∈ lengthChecks s, k ≤ announcedTotal s) := by
  have hheld := announcedTotal_of_some h
  refine ⟨suffix_ignored hheld, ?_⟩
  constructor
  · intro hall k hk
    have hsuffix := (suffix_ignored hheld (List.replicate k 0)).mp (hall _) k hk
    rw [List.length_replicate] at hsuffix
    apply hsuffix
    omega
  · intro hchecks t
    rw [suffix_ignored hheld t]
    intro k hk _
    exact hchecks k hk

/-- A report with a time and no data, and the first octet of the next packet. -/
def shortReport : Bytes :=
  [0x08, 0x01, 0xC0, 0x00, 0x00, 0x08, 0x12, 0x11, 0x02, 0x00, 0x00, 0x00, 0x00, 0x5A, 0x5A, 0x08]

theorem suffix_ignored_report :
    decommutatePacket (shortReport.take (announcedTotal shortReport) ++ [0x08]) =
      decommutatePacket (shortReport.take (announcedTotal shortReport)) := by
  have hparsed : (decommutatePacket shortReport).isSome := by decide
  obtain ⟨pkt, hpkt⟩ := Option.isSome_iff_exists.mp hparsed
  exact (suffix_ignored_iff hpkt).2.mpr (by decide) [0x08]

/-- A telecommand that declares two octets behind its header: with one more octet behind it, the
parser takes those two for the CRC and for the secondary header as well, and finds the subtype in
the octet that follows. -/
theorem suffix_read_as_header :
    ¬ ∀ (s : Bytes) (pkt : DecommutatedPacket), decommutatePacket s = some pkt → ∀ t,
      decommutatePacket (s.take (announcedTotal s) ++ t) =
        decommutatePacket (s.take (announcedTotal s)) := by
  intro hall
  have hsame := hall [0x18, 0x01, 0xC0, 0x00, 0x00, 0x01, 0x10, 0x02] _
    (show decommutatePacket _ = some _ by rfl) [0x11]
  revert hsame
  decide

end Ccsds
