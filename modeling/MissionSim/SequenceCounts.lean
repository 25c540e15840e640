import MissionSim.TmBuilder
import MissionSim.Runs
import Mathlib.Data.List.Chain

/-!
# Sequence counts of telemetry

The builder has one counter, whatever the APID.  Every packet takes its next value, and a change
of the APID sets it back to zero.  So the packets of an APID count on from one another as long as
the APID is not taken up again, and no packet that turns out too long has taken a count.

The main result follows any sequence of the builder's operations.
-/

namespace TmBuilder

open Octets Ecss Python Effects

/-! ### The operations -/

/-- `set_apid(apid)`. -/
def Builder.setApid (b : Builder) (apid : Int) : Builder :=
  let newApid := (apid % 2 ^ 11).toNat
  if newApid ≠ b.apid then { apid := newApid, seqCount := 0 } else b

/-- The methods of the builder with their arguments; `cuc` is the time at which a packet is
built. -/
inductive Operation where
  | setApid (apid : Int)
  | hkPacket (sid : Nat) (params : Dict Nat Value) (hkStructure : Option (List HkParameter))
      (cuc : Int)
  | eventPacket (eventId severity : Nat) (auxText : String) (cuc : Int)
  | verificationAcceptance (tcApid tcSeq : Nat)
  | verificationCompletion (tcApid tcSeq : Nat)
  | verificationFailure (tcApid tcSeq : Nat) (errorCode : Int) (reason : String)
  | executionFailure (tcApid tcSeq : Nat) (errorCode : Int) (reason : String)
  | timeReport (cuc : Int)
  | connectionTestReport (cuc : Int)
  | paramValueReport (paramId : Nat) (value : Binary32.FloatValue) (cuc : Int)
  | packTm (service subtype : Nat) (data : Bytes) (cuc : Int)

def Operation.build : Operation → EStateM PyError Builder (Option TmPacket)
  | .setApid apid => (fun _ => none) <$> modify fun b => b.setApid apid
  | .hkPacket sid params hkStructure cuc => buildHkPacket sid params hkStructure cuc
  | .eventPacket eventId severity auxText cuc =>
      some <$> buildEventPacket eventId severity auxText cuc
  | .verificationAcceptance tcApid tcSeq => some <$> buildVerificationAcceptance tcApid tcSeq
  | .verificationCompletion tcApid tcSeq => some <$> buildVerificationCompletion tcApid tcSeq
  | .verificationFailure tcApid tcSeq errorCode reason =>
      some <$> buildVerificationFailure tcApid tcSeq errorCode reason
  | .executionFailure tcApid tcSeq errorCode reason =>
      some <$> buildExecutionFailure tcApid tcSeq errorCode reason
  | .timeReport cuc => some <$> buildTimeReport cuc
  | .connectionTestReport cuc => some <$> buildConnectionTestReport cuc
  | .paramValueReport paramId value cuc => some <$> buildParamValueReport paramId value cuc
  | .packTm service subtype data cuc => some <$> TmBuilder.packTm service subtype data cuc

/-- A builder and the packets built so far. -/
structure Downlink where
  builder : Builder
  built : List TmPacket := []
  deriving DecidableEq, Repr

/-- One operation; one that raises builds nothing. -/
def Downlink.step (d : Downlink) (op : Operation) : Downlink :=
  match op.build d.builder with
  | .ok (some pkt) b => { builder := b, built := d.built ++ [pkt] }
  | .ok none b => { d with builder := b }
  | .error _ b => { d with builder := b }

/-! ### Continuity -/

/-- The APID in the packet's header. -/
def wireApid (apid : Nat) : Nat := apid &&& 0x7FF

/-- The sequence counts of the packets with an APID, in the order they were built. -/
def countsOf (built : List TmPacket) (apid : Nat) : List Nat :=
  (built.filter fun pkt => wireApid pkt.apid = apid).map TmPacket.sequenceCount

/-- The counts of each APID are consecutive modulo `2 ^ 14`. -/
def ConsecutiveCounts (built : List TmPacket) : Prop :=
  ∀ apid, (countsOf built apid).IsChain fun n n' => n' = (n + 1) % 2 ^ 14

/-- The packet takes a sequence count and is then too long for its length field. -/
def TooLong (data : Bytes) (cuc : Int) : Prop :=
  (0 ≤ cuc ∧ cuc < 2 ^ 32) ∧ 2 ^ 16 ≤ data.length + 8

/-- The operation takes a sequence count for a packet that is too long. -/
def Operation.LosesCount : Operation → Prop
  | .hkPacket sid params (some parameters) cuc =>
      ∃ packed, (parameters.mapM fun p => p.pack ((params.get? p.paramId).getD (.int 0))) =
        .ok packed ∧ TooLong (packU16 sid ++ packed.flatten) cuc
  | .packTm _ _ data cuc => TooLong data cuc
  | _ => False

/-- The step that breaks the count of an APID with packets: its counter is set back, unless the
last packet has the count zero, or a count is lost. -/
def Breaks (d : Downlink) (op : Operation) : Prop :=
  (∃ apid, op = .setApid apid ∧ (apid % 2 ^ 11).toNat ≠ d.builder.apid ∧
    ∃ n ∈ (countsOf d.built (apid % 2 ^ 11).toNat).getLast?, n ≠ 0) ∨
  (op.LosesCount ∧ countsOf d.built (wireApid d.builder.apid) ≠ [])

/-- How an operation that builds ends: nothing is built and no count is taken, or a packet takes
the next count, or a count is lost. -/
structure CountsOnce (losesCount : Prop) (x : EStateM PyError Builder (Option TmPacket)) :
    Prop where
  ends : ∀ b, wp x
    (fun result b' => (result = none ∧ b' = b) ∨
      ∃ pkt, result = some pkt ∧ pkt.apid = b.apid ∧ pkt.sequenceCount = b.next.seqCount ∧
        b' = b.next)
    (fun _ b' => b' = b ∨ (losesCount ∧ b' = b.next)) b

theorem countsOnce_packTm (service subtype : Nat) (data : Bytes) (cuc : Int) :
    CountsOnce (TooLong data cuc) (some <$> packTm service subtype data cuc) := by
  constructor
  intro b
  unfold packTm
  rw [wp_map, wp_bind, wp_fromExcept]
  refine ⟨fun octets hcuc => ?_, fun _ _ => .inl rfl⟩
  rw [wp_bind, wp_modify, wp_bind, wp_get]
  have hrange : 0 ≤ cuc ∧ cuc < 2 ^ 32 := by
    unfold packUnsigned at hcuc
    split at hcuc
    · assumption
    · cases hcuc
  by_cases hfits : data.length + 8 < 2 ^ 16
  · rw [if_pos hfits]
    exact .inr ⟨_, rfl, rfl, rfl, rfl⟩
  · rw [if_neg hfits]
    exact .inr ⟨⟨hrange, Nat.not_lt.mp hfits⟩, rfl⟩

/-- A packet that fits loses no count. -/
theorem countsOnce_short (service subtype : Nat) {data : Bytes} (h : data.length + 8 < 2 ^ 16)
    (cuc : Int) : CountsOnce False (some <$> packTm service subtype data cuc) where
  ends b := wp_mono ((countsOnce_packTm service subtype data cuc).ends b)
    (fun _ _ hresult => hresult)
    fun _ _ herror => herror.imp_right fun hlost => absurd hlost.1.2 (Nat.not_le.mpr h)

/-- Fields are packed before the packet takes its count. -/
theorem countsOnce_fromExcept {α : Type} {losesCount : Prop} {field : Except PyError α}
    {rest : α → EStateM PyError Builder TmPacket}
    (h : ∀ a, field = .ok a → CountsOnce losesCount (some <$> rest a)) :
    CountsOnce losesCount (some <$> (fromExcept field >>= rest)) := by
  constructor
  intro b
  rw [wp_map, wp_bind, wp_fromExcept]
  refine ⟨fun a ha => ?_, fun _ _ => .inl rfl⟩
  have hrest := (h a ha).ends b
  rwa [wp_map] at hrest

theorem countsOnce_failure (subtype tcApid tcSeq : Nat) (errorCode : Int) (reason : String) :
    CountsOnce False (some <$> buildFailure subtype tcApid tcSeq errorCode reason) := by
  refine countsOnce_fromExcept fun code hcode => countsOnce_short 1 subtype ?_ 0
  have hreason := encodeFailureReason_length reason
  simp only [List.length_append, packU32_length, packUnsigned_length hcode,
    failureReasonMaxBytes] at *
  omega

theorem countsOnce_event (eventId severity : Nat) (auxText : String) (cuc : Int) :
    CountsOnce False (some <$> buildEventPacket eventId severity auxText cuc) := by
  refine countsOnce_fromExcept fun id hid => ?_
  refine countsOnce_fromExcept fun level hlevel => ?_
  refine countsOnce_fromExcept fun time htime => countsOnce_short 5 severity ?_ cuc
  have haux : (encodeAuxText auxText).length ≤ eventAuxTextMax := by
    rw [encodeAuxText, List.length_take]
    exact Nat.min_le_left _ _
  simp only [List.length_append, packU8_length, packUnsigned_length hid,
    packUnsigned_length hlevel, packUnsigned_length htime, eventAuxTextMax] at *
  omega

/-- **An operation takes one count, or none**, but for one that loses a count. -/
theorem countsOnce_build {op : Operation} (h : ∀ apid, op ≠ .setApid apid) :
    CountsOnce op.LosesCount op.build := by
  cases op with
  | setApid apid => exact absurd rfl (h apid)
  | hkPacket sid params hkStructure cuc =>
      cases hkStructure with
      | none => exact ⟨fun b => .inl ⟨rfl, rfl⟩⟩
      | some parameters =>
          constructor
          intro b
          unfold Operation.build buildHkPacket
          rw [wp_bind, wp_fromExcept]
          refine ⟨fun packed hpacked => ?_, fun _ _ => .inl rfl⟩
          exact wp_mono ((countsOnce_packTm 3 25 (packU16 sid ++ packed.flatten) cuc).ends b)
            (fun _ _ hresult => hresult)
            fun _ _ herror => herror.imp_right fun hlost => ⟨⟨packed, hpacked, hlost.1⟩, hlost.2⟩
  | eventPacket eventId severity auxText cuc => exact countsOnce_event eventId severity auxText cuc
  | verificationAcceptance tcApid tcSeq =>
      exact @countsOnce_short 1 1 (packU32 (requestId tcApid tcSeq))
        (by rw [packU32_length]; decide) 0
  | verificationCompletion tcApid tcSeq =>
      exact @countsOnce_short 1 7 (packU32 (requestId tcApid tcSeq))
        (by rw [packU32_length]; decide) 0
  | verificationFailure tcApid tcSeq errorCode reason =>
      exact countsOnce_failure 2 tcApid tcSeq errorCode reason
  | executionFailure tcApid tcSeq errorCode reason =>
      exact countsOnce_failure 8 tcApid tcSeq errorCode reason
  | timeReport cuc =>
      refine countsOnce_fromExcept fun time htime => countsOnce_short 9 2 ?_ cuc
      rw [packUnsigned_length htime]
      decide
  | connectionTestReport cuc => exact @countsOnce_short 17 2 [] (by decide) cuc
  | paramValueReport paramId value cuc =>
      refine countsOnce_fromExcept fun packed hpacked => countsOnce_short 20 2 ?_ cuc
      simp only [List.length_append, packU16_length, packU8_length, packFloat_length hpacked]
      decide
  | packTm service subtype data cuc => exact countsOnce_packTm service subtype data cuc

/-! ### Runs -/

theorem countsOf_concat (built : List TmPacket) (pkt : TmPacket) (apid : Nat) :
    countsOf (built ++ [pkt]) apid =
      countsOf built apid ++ if wireApid pkt.apid = apid then [pkt.sequenceCount] else [] := by
  unfold countsOf
  split_ifs with h <;> simp [h]

/-- An APID that is set goes into the header whole. -/
theorem wireApid_setApid (apid : Int) :
    wireApid (apid % 2 ^ 11).toNat = (apid % 2 ^ 11).toNat := by
  unfold wireApid
  rw [show (0x7FF : Nat) = 2 ^ 11 - 1 from rfl, Nat.and_two_pow_sub_one_eq_mod]
  omega

/-- The counts are consecutive, and the counter is at the last packet of its APID. -/
structure Continuous (d : Downlink) : Prop where
  consecutive : ConsecutiveCounts d.built
  last : ∀ n ∈ (countsOf d.built (wireApid d.builder.apid)).getLast?, n = d.builder.seqCount

theorem Continuous.setApid {d : Downlink} (h : Continuous d) {apid : Int}
    (hok : ¬ Breaks d (.setApid apid)) : Continuous (d.step (.setApid apid)) := by
  change Continuous { d with builder := d.builder.setApid apid }
  unfold Builder.setApid
  by_cases hnew : (apid % 2 ^ 11).toNat ≠ d.builder.apid
  · rw [if_pos hnew]
    refine ⟨h.consecutive, fun n hn => ?_⟩
    rw [wireApid_setApid] at hn
    by_contra hzero
    exact hok (.inl ⟨apid, rfl, hnew, n, hn, hzero⟩)
  · rw [if_neg hnew]
    exact h

/-- A packet of the builder's APID takes up where the last one was. -/
theorem Continuous.concat {d : Downlink} (h : Continuous d) {pkt : TmPacket}
    (hapid : pkt.apid = d.builder.apid) (hcount : pkt.sequenceCount = d.builder.next.seqCount) :
    Continuous { builder := d.builder.next, built := d.built ++ [pkt] } := by
  have hnext : d.builder.next.seqCount = (d.builder.seqCount + 1) % 2 ^ 14 := by
    rw [Builder.next, show (0x3FFF : Nat) = 2 ^ 14 - 1 from rfl, Nat.and_two_pow_sub_one_eq_mod]
  constructor
  · intro apid
    rw [countsOf_concat, hapid]
    by_cases hsame : wireApid d.builder.apid = apid
    · subst hsame
      rw [if_pos rfl, List.isChain_append]
      refine ⟨h.consecutive _, List.isChain_singleton _, fun n hn n' hn' => ?_⟩
      obtain rfl := h.last n hn
      cases hn'
      rw [hcount, hnext]
    · rw [if_neg hsame, List.append_nil]
      exact h.consecutive apid
  · intro n hn
    change n ∈ (countsOf (d.built ++ [pkt]) (wireApid d.builder.apid)).getLast? at hn
    rw [countsOf_concat, hapid, if_pos rfl, List.getLast?_append] at hn
    cases hn
    exact hcount

/-- A count lost before the first packet of an APID does not show. -/
theorem Continuous.lost {d : Downlink} (h : Continuous d)
    (hnone : countsOf d.built (wireApid d.builder.apid) = []) :
    Continuous { d with builder := d.builder.next } := by
  refine ⟨h.consecutive, fun n hn => ?_⟩
  change n ∈ (countsOf d.built (wireApid d.builder.apid)).getLast? at hn
  rw [hnone] at hn
  cases hn

/-- **One operation** that breaks no count keeps the counts continuous. -/
theorem Continuous.step {d : Downlink} {op : Operation} (h : Continuous d)
    (hok : ¬ Breaks d op) : Continuous (d.step op) := by
  by_cases hset : ∃ apid, op = .setApid apid
  · obtain ⟨apid, rfl⟩ := hset
    exact h.setApid hok
  · have hends := (countsOnce_build fun apid heq => hset ⟨apid, heq⟩).ends d.builder
    unfold wp at hends
    unfold Downlink.step
    cases hbuild : op.build d.builder with
    | ok result b =>
        rw [hbuild] at hends
        rcases hends with ⟨rfl, rfl⟩ | ⟨pkt, rfl, hapid, hcount, rfl⟩
        · exact h
        · exact h.concat hapid hcount
    | error e b =>
        rw [hbuild] at hends
        rcases hends with rfl | ⟨hlost, rfl⟩
        · exact h
        · refine h.lost ?_
          by_contra hsome
          exact hok (.inr ⟨hlost, hsome⟩)

/-- **The counts of every APID are consecutive** throughout a run of which no step breaks them. -/
theorem counts_consecutive {apid : Nat} {ops : List Operation}
    (hnever : ∀ i, ¬ Runs.HappensAt Downlink.step { builder := { apid } } ops Breaks i) (i : Nat) :
    ConsecutiveCounts
      (Runs.after Downlink.step { builder := { apid } } (ops.take i)).built := by
  have hstart : Continuous { builder := { apid } } :=
    ⟨fun _ => List.isChain_nil, fun n hn => nomatch hn⟩
  exact (Runs.invariant_unless (fun _ _ => Continuous.step) hstart hnever i).consecutive

/-- Two packets of each of two APIDs, one APID after the other. -/
theorem counts_consecutive_two :
    ConsecutiveCounts (Runs.after Downlink.step { builder := { apid := 1 } }
      ([.timeReport 0, .timeReport 0, .setApid 2, .timeReport 0, .timeReport 0].take 5)).built := by
  have hempty : (countsOf (Runs.after Downlink.step { builder := { apid := 1 } }
      [.timeReport 0, .timeReport 0]).built 2).getLast? = none := by
    decide +kernel
  refine counts_consecutive (fun i hbreaks => ?_) 5
  obtain ⟨op, hop, ⟨apid, rfl, -, n, hn, -⟩ | ⟨hlost, -⟩⟩ := hbreaks
  · rcases i with _ | _ | _ | _ | _ | i
    · cases hop
    · cases hop
    · cases hop
      exact Option.not_mem_none n (hempty ▸ hn)
    · cases hop
    · cases hop
    · cases hop
  · have hmem := List.mem_of_getElem? hop
    simp only [List.mem_cons, List.not_mem_nil, or_false] at hmem
    rcases hmem with rfl | rfl | rfl | rfl | rfl <;> exact hlost

/-- Taking an APID up again starts its counts anew. -/
theorem counts_set_back :
    countsOf (Runs.after Downlink.step { builder := { apid := 1 } }
      [.timeReport 0, .timeReport 0, .setApid 2, .setApid 1, .timeReport 0]).built 1 = [1, 2, 1] ∧
    ¬ ConsecutiveCounts (Runs.after Downlink.step { builder := { apid := 1 } }
      [.timeReport 0, .timeReport 0, .setApid 2, .setApid 1, .timeReport 0]).built := by
  have hcounts : countsOf (Runs.after Downlink.step { builder := { apid := 1 } }
      [.timeReport 0, .timeReport 0, .setApid 2, .setApid 1, .timeReport 0]).built 1 =
        [1, 2, 1] := by
    decide +kernel
  refine ⟨hcounts, fun hall => ?_⟩
  have hone := hall 1
  rw [hcounts] at hone
  exact absurd hone (by decide)

end TmBuilder
