import MissionSim.PusReports
import MissionSim.Utf8

/-!
# Verification reports on ground

The ground attributes an outcome to a telecommand through the data field of the report, read as
`VerificationData`.  The reports of acceptance, completion and failure come back as they were built;
the reason of a failure is cut between two characters where it takes too many octets.

The field of an execution start and of its progress is shorter than what is read.
-/

namespace VerificationReports

open Octets Python Effects TmBuilder Spacecraft PusReports List
open Utf8 (fitting encode)

/-! ### Failure notices -/

/-- What the field of a reason holds of it. -/
def cutReason (reason : String) : String :=
  String.ofList (fitting failureReasonMaxBytes reason.toList)

/-- Dropping octets until what is left decodes leaves the longest prefix that fits. -/
theorem dropPartial_take {chars : List Char} {n room : Nat} (hroom : room ≤ n)
    (hlong : room ≤ (encode chars).length) :
    dropPartial n ((encode chars).take room) = encode (fitting room chars) := by
  induction n generalizing room with
  | zero =>
      obtain rfl : room = 0 := Nat.le_zero.mp hroom
      have hempty := Utf8.fitting_length 0 chars
      rw [dropPartial, take_zero, eq_nil_of_length_eq_zero (Nat.le_zero.mp hempty)]
  | succ n ih =>
      unfold dropPartial
      by_cases hvalid : ByteArray.validateUTF8 ⟨((encode chars).take room).toArray⟩ = true
      · rw [if_pos hvalid]
        exact (Utf8.wellFormed_take hlong).mp ((Utf8.validateUTF8_iff _).mp hvalid)
      · rw [if_neg hvalid]
        have hill : (encode chars).take room ≠ encode (fitting room chars) := by
          intro heq
          exact hvalid ((Utf8.validateUTF8_iff _).mpr ⟨_, heq⟩)
        cases room with
        | zero => exact absurd ((Utf8.validateUTF8_iff _).mpr ⟨[], rfl⟩) hvalid
        | succ room =>
            have hless : (encode (fitting (room + 1) chars)).length ≤ room := by
              have hbound := Utf8.fitting_length (room + 1) chars
              have hne : (encode (fitting (room + 1) chars)).length ≠ room + 1 := by
                intro hall
                apply hill
                have hinitial := Utf8.encode_initial (Utf8.fitting_initial (room + 1) chars)
                rw [prefix_iff_eq_take.mp hinitial, hall]
              omega
            have hshorter : ((encode chars).take (room + 1)).dropLast = (encode chars).take room := by
              rw [dropLast_eq_take, length_take, Nat.min_eq_left hlong,
                Nat.add_sub_cancel, take_take, Nat.min_eq_left (Nat.le_succ room)]
            rw [hshorter, ih (Nat.le_of_succ_le_succ hroom) (Nat.le_of_succ_le hlong),
              Utf8.fitting_succ hless]

/-- The field of a reason: nothing, or its length and its octets. -/
theorem encodeFailureReason_eq (reason : String) :
    encodeFailureReason reason =
      if (encode (cutReason reason).toList).isEmpty then []
      else packU8 (encode (cutReason reason).toList).length ++ encode (cutReason reason).toList := by
  have hcut : (if failureReasonMaxBytes < (encodeUtf8 reason).length then
      dropPartial failureReasonMaxBytes ((encodeUtf8 reason).take failureReasonMaxBytes)
      else encodeUtf8 reason) = encode (cutReason reason).toList := by
    unfold cutReason
    rw [String.toList_ofList]
    split_ifs with hlong
    · exact dropPartial_take (le_refl _) hlong.le
    · rw [Utf8.fitting_eq_self (not_lt.mp hlong)]
      rfl
  unfold encodeFailureReason
  simp only [hcut]

/-- `decode_failure_reason(data, offset)`. -/
def decodeFailureReason (data : Bytes) (offset : Nat) : String :=
  match data.drop offset with
  | [] => ""
  | length :: text =>
      if length.toNat = 0 ∨ text.length < length.toNat then ""
      else String.ofList (Utf8.decode (text.take length.toNat))

/-- The reason is read behind the fields that come before it. -/
theorem decodeFailureReason_encode (front : Bytes) (reason : String) :
    decodeFailureReason (front ++ encodeFailureReason reason) front.length = cutReason reason := by
  have hcut : (encode (cutReason reason).toList).length ≤ failureReasonMaxBytes := by
    rw [cutReason, String.toList_ofList]
    exact Utf8.fitting_length _ _
  unfold decodeFailureReason
  rw [drop_left, encodeFailureReason_eq]
  by_cases hempty : (encode (cutReason reason).toList).isEmpty
  · rw [if_pos hempty]
    cases hchars : (cutReason reason).toList with
    | nil => rw [← String.ofList_toList (s := cutReason reason), hchars]
    | cons c chars =>
        rw [hchars, List.isEmpty_iff] at hempty
        exact absurd hempty (Utf8.encode_ne_nil c chars)
  · rw [if_neg hempty]
    have hlength : (UInt8.ofNat (encode (cutReason reason).toList).length).toNat =
        (encode (cutReason reason).toList).length := by
      rw [toNat_ofNat, Nat.mod_eq_of_lt (lt_of_le_of_lt hcut (by decide))]
    have hpos : (encode (cutReason reason).toList).length ≠ 0 := by
      intro hzero
      exact hempty (List.isEmpty_iff.mpr (eq_nil_of_length_eq_zero hzero))
    simp only [packU8, cons_append, nil_append, hlength]
    rw [if_neg (by simp [hpos]), take_length, Utf8.decode_encode, String.ofList_toList]

/-! ### Reading a report -/

/-- What a verification report says. -/
structure VerificationData where
  requestId : Nat := 0
  tcApid : Nat := 0
  tcSeq : Nat := 0
  errorCode : Nat := 0
  reason : String := ""
  deriving DecidableEq, Repr

/-- `VerificationData.parse(data, subtype)`. -/
def VerificationData.parse (data : Bytes) (subtype : Nat) : VerificationData :=
  if data.length < 4 then {}
  else if subtype = 4 then
    { requestId := unpackU16 data
      tcSeq := unpackU16 data &&& 0x3FFF
      errorCode := unpackU16 (data.drop 2)
      reason := decodeFailureReason data 4 }
  else
    let requestId := unpackU32 data
    let failure := (subtype = 2 ∨ subtype = 8) ∧ 6 ≤ data.length
    { requestId := requestId
      tcApid := requestId >>> 14 &&& 0x7FF
      tcSeq := requestId &&& 0x3FFF
      errorCode := if failure then unpackU16 (data.drop 4) else 0
      reason := if failure then decodeFailureReason data 6 else "" }

/-! ### The fixed fields of a failure -/

/-- The longest prefix of a text, in whole characters, that takes at most so many octets. -/
structure LongestPrefix (room : Nat) (text kept : String) : Prop where
  initial : kept.toList <+: text.toList
  fits : (encode kept.toList).length ≤ room
  longest : ∀ other, other <+: text.toList → (encode other).length ≤ room → other <+: kept.toList

theorem longestPrefix_cutReason (reason : String) :
    LongestPrefix failureReasonMaxBytes reason (cutReason reason) := by
  unfold cutReason
  constructor
  · rw [String.toList_ofList]
    exact Utf8.fitting_initial _ _
  · rw [String.toList_ofList]
    exact Utf8.fitting_length _ _
  · intro other hinitial hfits
    rw [String.toList_ofList]
    exact Utf8.initial_fitting hinitial hfits

/-- The octets of a failure report that come before its reason. -/
structure FailurePrefix where
  subtype : Nat
  octets : Bytes
  laidOut : (subtype = 2 ∨ subtype = 8) ∧ octets.length = 6 ∨ subtype = 4 ∧ octets.length = 4

/-- What follows the fixed fields is the reason and nothing else. -/
theorem FailurePrefix.parse_append (p : FailurePrefix) (notice : Bytes) :
    VerificationData.parse (p.octets ++ notice) p.subtype =
      { VerificationData.parse p.octets p.subtype with
        reason := decodeFailureReason (p.octets ++ notice) p.octets.length } := by
  have hword : ∀ {front : Bytes}, 4 ≤ front.length →
      unpackU32 (front ++ notice) = unpackU32 front := by
    intro front hlong
    match front, hlong with
    | _ :: _ :: _ :: _ :: _, _ => rfl
  have hcode : ∀ {offset : Nat}, offset + 2 ≤ p.octets.length →
      unpackU16 ((p.octets ++ notice).drop offset) = unpackU16 (p.octets.drop offset) := by
    intro offset hroom
    rw [drop_append_of_le_length (by omega)]
    apply unpackU16_append
    rw [length_drop]
    omega
  have hroom : p.octets.length ≤ (p.octets ++ notice).length := by
    rw [length_append]
    omega
  have hown : ¬ p.octets.length < 4 := by
    cases p.laidOut with
    | inl | inr => omega
  have hall : ¬ (p.octets ++ notice).length < 4 := by omega
  unfold VerificationData.parse
  rw [if_neg hown, if_neg hall]
  cases p.laidOut with
  | inl hlate =>
      obtain ⟨hsubtype, hlength⟩ := hlate
      have hfour : p.subtype ≠ 4 := by omega
      have hheld : 6 ≤ (p.octets ++ notice).length := by omega
      rw [if_neg hfour, if_neg hfour, hword (by omega), hcode (by omega)]
      simp only [hsubtype, hheld, hlength, le_refl, and_self, if_true]
  | inr hearly =>
      obtain ⟨hsubtype, hlength⟩ := hearly
      have hfront : unpackU16 (p.octets ++ notice) = unpackU16 p.octets :=
        unpackU16_append notice (by omega)
      rw [if_pos hsubtype, if_pos hsubtype, hcode (by omega), hfront, hlength]

/-- **A reason survives the downlink.**  The ground reads the longest prefix that takes at most 160
octets, wherever the field begins, and the fixed fields before it as if there were no reason. -/
theorem failure_reason_downlinked (p : FailurePrefix) (reason : String) :
    (∀ front, LongestPrefix 160 reason
      (decodeFailureReason (front ++ encodeFailureReason reason) front.length)) ∧
    ∃ kept, LongestPrefix 160 reason kept ∧
      VerificationData.parse (p.octets ++ encodeFailureReason reason) p.subtype =
        { VerificationData.parse p.octets p.subtype with reason := kept } := by
  have hread : ∀ front, LongestPrefix 160 reason
      (decodeFailureReason (front ++ encodeFailureReason reason) front.length) := by
    intro front
    rw [decodeFailureReason_encode]
    exact longestPrefix_cutReason reason
  exact ⟨hread, _, hread p.octets, p.parse_append _⟩

/-! ### The reports that are built -/

/-- A report of service 1. -/
inductive Verification where
  | acceptance
  | acceptanceFailure (errorCode : Nat) (reason : String)
  | executionStart
  | startFailure (errorCode : Nat) (reason : String)
  | progress (step : Nat)
  | completion
  | executionFailure (errorCode : Nat) (reason : String)

def Verification.subtype : Verification → Nat
  | .acceptance => 1
  | .acceptanceFailure _ _ => 2
  | .executionStart => 3
  | .startFailure _ _ => 4
  | .progress _ => 5
  | .completion => 7
  | .executionFailure _ _ => 8

/-- The code and the reason of a failure. -/
def Verification.failure? : Verification → Option (Nat × String)
  | .acceptanceFailure errorCode reason | .startFailure errorCode reason
  | .executionFailure errorCode reason => some (errorCode, reason)
  | .acceptance | .executionStart | .progress _ | .completion => none

variable {M : Type}

/-- The report about the telecommand `tcSeq` of `tcApid`, as the engine and the dispatcher build
it. -/
def Verification.send (tcApid tcSeq : Nat) : Verification → Program M (List TmPacket)
  | .acceptance => (fun pkt => [pkt]) <$> building (buildVerificationAcceptance tcApid tcSeq)
  | .acceptanceFailure errorCode reason =>
      (fun pkt => [pkt]) <$> building (buildVerificationFailure tcApid tcSeq errorCode reason)
  | .executionStart => generateS1Reports tcSeq
  | .startFailure errorCode reason => do
      updateOutcome fun o => { o with requestId := tcSeq }
      generateS1ExecFail errorCode reason
  | .progress step => generateS1Progress tcSeq step
  | .completion => (fun pkt => [pkt]) <$> building (buildVerificationCompletion tcApid tcSeq)
  | .executionFailure errorCode reason =>
      (fun pkt => [pkt]) <$> building (buildExecutionFailure tcApid tcSeq errorCode reason)

/-! ### What the ground reads -/

/-- A report names the telecommand, and tells its failure. -/
def Verification.Identified (r : Verification) (tcSeq : Nat) (data : VerificationData) : Prop :=
  data.tcSeq = tcSeq ∧ ∀ errorCode reason, r.failure? = some (errorCode, reason) →
    data.errorCode = errorCode ∧ data.reason = cutReason reason

/-- The failure codes that fit their field. -/
def Verification.Coded (r : Verification) : Prop :=
  ∀ errorCode reason, r.failure? = some (errorCode, reason) → errorCode < 2 ^ 16

theorem requestId_lt (tcApid tcSeq : Nat) : requestId tcApid tcSeq < 2 ^ 32 := by
  have hseq : tcSeq &&& 0x3FFF < 2 ^ 14 := Nat.and_lt_two_pow tcSeq (by decide)
  have hapid : tcApid &&& 0x7FF < 2 ^ 11 := Nat.and_lt_two_pow tcApid (by decide)
  unfold requestId
  rw [shiftLeft_or_eq_add 14 _ hseq]
  omega

theorem requestId_seq {tcSeq : Nat} (tcApid : Nat) (h : tcSeq < 2 ^ 14) :
    requestId tcApid tcSeq &&& 0x3FFF = tcSeq := by
  unfold requestId
  rw [mask_eq_mod 14 rfl tcSeq, Nat.mod_eq_of_lt h, shiftLeft_or_eq_add 14 _ h,
    mask_eq_mod 14 rfl, Nat.mul_add_mod', Nat.mod_eq_of_lt h]

theorem parse_requestId {tcSeq : Nat} (tcApid : Nat) (h : tcSeq < 2 ^ 14) (rest : Bytes)
    {subtype : Nat} (hsubtype : subtype ≠ 4) :
    (VerificationData.parse (packU32 (requestId tcApid tcSeq) ++ rest) subtype).tcSeq = tcSeq := by
  unfold VerificationData.parse
  rw [if_neg (by simp), if_neg hsubtype]
  simp only [unpackU32_packU32_append, Nat.mod_eq_of_lt (requestId_lt tcApid tcSeq),
    requestId_seq tcApid h]

/-- The failure of an acceptance or of an execution. -/
theorem parse_failure (requestId : Nat) {errorCode subtype : Nat} (hcode : errorCode < 2 ^ 16)
    (reason : String) (hsubtype : subtype = 2 ∨ subtype = 8) :
    (VerificationData.parse (packU32 requestId ++ packU16 errorCode ++ encodeFailureReason reason)
        subtype).errorCode = errorCode ∧
      (VerificationData.parse (packU32 requestId ++ packU16 errorCode ++ encodeFailureReason reason)
        subtype).reason = cutReason reason := by
  have hfour : subtype ≠ 4 := by omega
  have hreason := decodeFailureReason_encode (packU32 requestId ++ packU16 errorCode) reason
  unfold VerificationData.parse
  rw [if_neg (by simp), if_neg hfour]
  simp only [length_append, packU32_length, packU16_length] at hreason ⊢
  rw [if_pos ⟨hsubtype, by omega⟩, if_pos ⟨hsubtype, by omega⟩, append_assoc,
    drop_packU32 0, drop_zero, unpackU16_packU16_append, Nat.mod_eq_of_lt hcode]
  exact ⟨rfl, by rw [← append_assoc]; exact hreason⟩

open Verification

/-- The failure of a start. -/
theorem parse_startFailure {tcSeq errorCode : Nat} (hseq : tcSeq < 2 ^ 14)
    (hcode : errorCode < 2 ^ 16) (reason : String) :
    (startFailure errorCode reason).Identified tcSeq
      (VerificationData.parse (packU16 tcSeq ++ packU16 errorCode ++ encodeFailureReason reason)
        4) := by
  have hreason := decodeFailureReason_encode (packU16 tcSeq ++ packU16 errorCode) reason
  have hwide : tcSeq % 2 ^ 16 = tcSeq := Nat.mod_eq_of_lt (by omega)
  unfold VerificationData.parse
  rw [if_neg (by simp only [length_append, packU16_length]; omega), if_pos rfl]
  simp only [append_assoc, unpackU16_packU16_append, drop_packU16 0, drop_zero, hwide,
    Nat.mod_eq_of_lt hcode, mask_eq_mod 14 rfl]
  refine ⟨Nat.mod_eq_of_lt hseq, fun code text heq => ?_⟩
  cases heq
  refine ⟨rfl, ?_⟩
  exact hreason

/-- A report that is sent, and what it holds. -/
def Sent (x : Program M (List TmPacket)) (e : Engine M) (subtype : Nat) (data : Bytes) : Prop :=
  wp x (fun pkts _ => ∃ pkt, pkts = [pkt] ∧ pkt.service = 1 ∧ pkt.subtype = subtype ∧
    pkt.data = data) (fun _ _ => False) e

theorem sent_building (subtype : Nat) {data : Bytes} (h : data.length + 8 < 2 ^ 16)
    (e : Engine M) :
    Sent ((fun pkt => [pkt]) <$> building (packTm 1 subtype data)) e subtype data := by
  unfold Sent building
  rw [wp_map, wp_zoom]
  have hkind := packTm_short 1 subtype h e.tmBuilder
  have hdata := packTm_data 1 subtype h e.tmBuilder
  unfold wp at hkind hdata ⊢
  cases hrun : packTm 1 subtype data 0 e.tmBuilder with
  | ok pkt b =>
      rw [hrun] at hkind hdata
      exact ⟨pkt, rfl, hkind.1, hkind.2, hdata⟩
  | error error b =>
      rw [hrun] at hkind
      exact hkind

/-- A report with a field that has to be packed. -/
theorem sent_packed {subtype : Nat} {packed : Except PyError Bytes} {front field notice : Bytes}
    (hpacked : packed = .ok field) (h : (front ++ field ++ notice).length + 8 < 2 ^ 16)
    (e : Engine M) :
    Sent ((fun pkt => [pkt]) <$> building (do
        let code ← fromExcept packed
        packTm 1 subtype (front ++ code ++ notice))) e subtype (front ++ field ++ notice) := by
  rw [hpacked]
  exact sent_building subtype h e

/-- The data field of a report. -/
def Verification.field (tcApid tcSeq : Nat) : Verification → Bytes
  | .acceptance | .completion => packU32 (requestId tcApid tcSeq)
  | .acceptanceFailure errorCode reason | .executionFailure errorCode reason =>
      packU32 (requestId tcApid tcSeq) ++ packU16 errorCode ++ encodeFailureReason reason
  | .executionStart => packU16 tcSeq
  | .startFailure errorCode reason =>
      packU16 tcSeq ++ packU16 errorCode ++ encodeFailureReason reason
  | .progress step => packU16 tcSeq ++ packU8 step

theorem field_short (r : Verification) (tcApid tcSeq : Nat) :
    (r.field tcApid tcSeq).length + 8 < 2 ^ 16 := by
  have hnotice : ∀ reason, (encodeFailureReason reason).length ≤ 161 := encodeFailureReason_length
  cases r with
  | acceptanceFailure errorCode reason | executionFailure errorCode reason
  | startFailure errorCode reason =>
      have hreason := hnotice reason
      simp only [field, length_append, packU32_length, packU16_length]
      omega
  | acceptance | completion | executionStart | progress step =>
      simp [field]

/-- Every report is sent, with its data field. -/
theorem sent_field (r : Verification) (hcoded : r.Coded) (hstep : ∀ step, r = .progress step →
    step < 2 ^ 8) (tcApid tcSeq : Nat) (e : Engine M) :
    Sent (r.send tcApid tcSeq) e r.subtype (r.field tcApid tcSeq) := by
  have hshort := field_short r tcApid tcSeq
  cases r with
  | acceptance | completion | executionStart => exact sent_building _ hshort e
  | acceptanceFailure errorCode reason =>
      have hpacked := packUnsigned_two (hcoded errorCode reason rfl)
      simp only [send, buildVerificationFailure, buildFailure]
      generalize packUnsigned 2 (errorCode : Int) = packed at hpacked ⊢
      exact sent_packed hpacked hshort e
  | executionFailure errorCode reason =>
      have hpacked := packUnsigned_two (hcoded errorCode reason rfl)
      simp only [send, buildExecutionFailure, buildFailure]
      generalize packUnsigned 2 (errorCode : Int) = packed at hpacked ⊢
      exact sent_packed hpacked hshort e
  | startFailure errorCode reason =>
      unfold Sent send generateS1ExecFail updateOutcome updateDispatcher
      rw [wp_bind, wp_modify, wp_bind, wp_modify, wp_bind, wp_get]
      exact sent_building 4 hshort _
  | progress step =>
      have hpacked := packUnsigned_one (hstep step rfl)
      unfold Sent send generateS1Progress
      rw [wp_bind, hpacked, wp_fromExcept]
      refine ⟨fun field heq => ?_, fun _ herror => nomatch herror⟩
      cases heq
      exact sent_building 5 hshort e

/-- The reports of acceptance, completion and failure are read as they were meant. -/
theorem identified_field (r : Verification) (hr : r.subtype ≠ 3 ∧ r.subtype ≠ 5)
    (hcoded : r.Coded) {tcSeq : Nat} (hseq : tcSeq < 2 ^ 14) (tcApid : Nat) :
    r.Identified tcSeq (VerificationData.parse (r.field tcApid tcSeq) r.subtype) := by
  cases r with
  | acceptance | completion =>
      refine ⟨?_, fun _ _ hnone => nomatch hnone⟩
      rw [← append_nil (field _ _ _)]
      exact parse_requestId tcApid hseq [] (by decide)
  | acceptanceFailure errorCode reason =>
      refine ⟨?_, fun code text heq => ?_⟩
      · exact parse_requestId tcApid hseq _ nofun
      · cases heq
        exact parse_failure _ (hcoded errorCode reason rfl) reason (Or.inl rfl)
  | executionFailure errorCode reason =>
      refine ⟨?_, fun code text heq => ?_⟩
      · exact parse_requestId tcApid hseq _ nofun
      · cases heq
        exact parse_failure _ (hcoded errorCode reason rfl) reason (Or.inr rfl)
  | startFailure errorCode reason =>
      exact parse_startFailure hseq (hcoded errorCode reason rfl) reason
  | executionStart => exact absurd rfl hr.1
  | progress step => exact absurd rfl hr.2

theorem exists_of_sent {x : Program M (List TmPacket)} {e : Engine M} {subtype : Nat} {data : Bytes}
    (h : Sent x e subtype data) :
    ∃ pkt e', x e = .ok [pkt] e' ∧ pkt.service = 1 ∧ pkt.subtype = subtype ∧ pkt.data = data := by
  unfold Sent wp at h
  cases hrun : x e with
  | ok pkts e' =>
      rw [hrun] at h
      obtain ⟨pkt, rfl, hparts⟩ := h
      exact ⟨pkt, e', rfl, hparts⟩
  | error error e' =>
      rw [hrun] at h
      exact h.elim

/-- Every report but that of a start and of progress is sent, names its telecommand on ground, and
tells the code of its failure and as much of the reason as its field holds. -/
theorem verification_parsed (r : Verification) (hr : r.subtype ≠ 3 ∧ r.subtype ≠ 5)
    (hcoded : r.Coded) {tcSeq : Nat} (hseq : tcSeq < 2 ^ 14) (tcApid : Nat) (e : Engine M) :
    ∃ pkt e', r.send tcApid tcSeq e = .ok [pkt] e' ∧ pkt.service = 1 ∧ pkt.subtype = r.subtype ∧
      r.Identified tcSeq (VerificationData.parse pkt.data pkt.subtype) := by
  have hstep : ∀ step, r = .progress step → step < 2 ^ 8 := by
    intro step heq
    exact absurd (congrArg Verification.subtype heq) hr.2
  obtain ⟨pkt, e', hrun, hservice, hsubtype, hdata⟩ :=
    exists_of_sent (sent_field r hcoded hstep tcApid tcSeq e)
  refine ⟨pkt, e', hrun, hservice, hsubtype, ?_⟩
  rw [hsubtype, hdata]
  exact identified_field r hr hcoded hseq tcApid

/-- A refusal with a reason that is not plain ASCII. -/
def refusal : Verification := .executionFailure 7 "élévation < 10°"

theorem refusal_parsed :
    ∃ pkt e', refusal.send 1 0x1234 plainEngine = .ok [pkt] e' ∧ pkt.service = 1 ∧
      pkt.subtype = 8 ∧
      refusal.Identified 0x1234 (VerificationData.parse pkt.data pkt.subtype) := by
  apply verification_parsed refusal
  · exact ⟨nofun, nofun⟩
  · intro errorCode reason heq
    cases heq
    decide
  · decide

/-- A refusal with a long reason. -/
def longRefusal : Verification := .executionFailure 7 (String.ofList (List.replicate 161 'a'))

/-- The report of a start is too short to be read, and names telecommand 0; a long reason is cut. -/
theorem start_not_identified :
    (∃ pkt e', Verification.executionStart.send 1 5 plainEngine = .ok [pkt] e' ∧
      (VerificationData.parse pkt.data pkt.subtype).tcSeq = 0) ∧
    ∃ pkt e', longRefusal.send 1 5 plainEngine = .ok [pkt] e' ∧
      (VerificationData.parse pkt.data pkt.subtype).reason =
        String.ofList (List.replicate 160 'a') := by
  constructor
  · obtain ⟨pkt, e', hrun, -, hsubtype, hdata⟩ :=
      exists_of_sent (sent_field .executionStart nofun nofun 1 5 plainEngine)
    refine ⟨pkt, e', hrun, ?_⟩
    rw [hsubtype, hdata]
    decide
  · unfold longRefusal
    have hcut : cutReason (String.ofList (List.replicate 161 'a')) =
        String.ofList (List.replicate 160 'a') := by decide +kernel
    generalize String.ofList (List.replicate 161 'a') = text at hcut ⊢
    have hcoded : (Verification.executionFailure 7 text).Coded := by
      intro errorCode reason heq
      cases heq
      decide
    obtain ⟨pkt, e', hrun, -, hsubtype, hdata⟩ :=
      exists_of_sent (sent_field (.executionFailure 7 text) hcoded nofun 1 5 plainEngine)
    refine ⟨pkt, e', hrun, ?_⟩
    rw [hsubtype, hdata, ← hcut]
    exact (parse_failure (requestId 1 5) (hcoded 7 text rfl) text (Or.inr rfl)).2

end VerificationReports
