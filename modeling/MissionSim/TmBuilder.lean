import MissionSim.EcssPacket
import MissionSim.Effects
import MissionSim.Python

/-!
# Building telemetry packets

The builder of the spacecraft's telemetry.  A packet takes the next sequence count of the
builder, also when it then turns out to be too long for its length field.

The verification reports of service 1 name the telecommand they are about; a failure report
adds an error code and, where there is one, the reason as text.
-/

namespace TmBuilder

open Octets Ecss Binary32 Python Effects

/-- A telemetry packet. -/
structure TmPacket where
  apid : Nat
  sequenceCount : Nat
  service : Nat
  subtype : Nat
  cuc : Nat
  data : Bytes
  deriving DecidableEq, Repr

/-- The packet as it is sent: both headers, the data field and the CRC. -/
def TmPacket.octets (p : TmPacket) : Bytes :=
  let packet := packU16 (1 <<< 11 ||| (p.apid &&& 0x7FF)) ++
    packU16 (0b11 <<< 14 ||| p.sequenceCount) ++ packU16 (p.data.length + 8) ++
    packU8 0x10 ++ packU8 p.service ++ packU8 p.subtype ++ packU32 p.cuc ++ p.data
  packet ++ packU16 (crc16Ccitt packet)

/-- `TMBuilder`: its APID, and the sequence count of its last packet. -/
structure Builder where
  apid : Nat
  seqCount : Nat := 0
  deriving DecidableEq, Repr

/-- Take the next sequence count. -/
def Builder.next (b : Builder) : Builder := { b with seqCount := (b.seqCount + 1) &&& 0x3FFF }

/-- `_pack_tm(service, subtype, data, cuc)`. -/
def packTm (service subtype : Nat) (data : Bytes) (cuc : Int := 0) :
    EStateM PyError Builder TmPacket := do
  let _ ← fromExcept (packUnsigned 4 cuc)
  modify Builder.next
  let b ← get
  if data.length + 8 < 2 ^ 16 then
    pure { apid := b.apid, sequenceCount := b.seqCount, service := service, subtype := subtype,
           cuc := cuc.toNat, data := data }
  else
    throw .structError

/-- A packet that is built is of the service and subtype asked for. -/
theorem packTm_kind (service subtype : Nat) (data : Bytes) (cuc : Int) (b : Builder) :
    wp (packTm service subtype data cuc) (fun pkt _ => pkt.service = service ∧ pkt.subtype = subtype)
      (fun _ _ => True) b := by
  unfold packTm
  simp only [wp_bind, wp_fromExcept, wp_modify, wp_get, implies_true, and_true]
  intro _ _
  split_ifs
  · exact ⟨rfl, rfl⟩
  · trivial

/-- A packet without a time and with little data is built in any case. -/
theorem packTm_short (service subtype : Nat) {data : Bytes} (h : data.length + 8 < 2 ^ 16)
    (b : Builder) :
    wp (packTm service subtype data) (fun pkt _ => pkt.service = service ∧ pkt.subtype = subtype)
      (fun _ _ => False) b := by
  unfold packTm
  simp only [wp_bind, wp_fromExcept, wp_modify, wp_get, if_pos h, wp_pure, and_self, implies_true,
    true_and]
  intro error herror
  simp [packUnsigned] at herror

/-- A packet in range takes the next sequence count. -/
theorem packTm_eq_ok (service subtype : Nat) {data : Bytes} {cuc : Nat} (hcuc : cuc < 2 ^ 32)
    (h : data.length + 8 < 2 ^ 16) (b : Builder) :
    packTm service subtype data cuc b =
      .ok { apid := b.apid, sequenceCount := b.next.seqCount, service := service,
            subtype := subtype, cuc := cuc, data := data } b.next := by
  rw [packTm, packUnsigned_four hcuc]
  refine Effects.bind_eq_ok.mpr ⟨_, b, rfl, Effects.bind_eq_ok.mpr ⟨_, b.next, rfl, ?_⟩⟩
  refine Effects.bind_eq_ok.mpr ⟨b.next, b.next, rfl, ?_⟩
  rw [if_pos h]
  rfl

/-! ### Service 1 -/

/-- `FAILURE_REASON_MAX_BYTES`. -/
def failureReasonMaxBytes : Nat := 160

/-- The octets of a text in UTF-8. -/
def encodeUtf8 (text : String) : Bytes := text.toList.flatMap String.utf8EncodeChar

/-- Drop the last octets until what is left decodes. -/
def dropPartial : Nat → Bytes → Bytes
  | 0, raw => raw
  | n + 1, raw =>
      if ByteArray.validateUTF8 ⟨raw.toArray⟩ then raw else dropPartial n raw.dropLast

/-- `encode_failure_reason(reason)`. -/
def encodeFailureReason (reason : String) : Bytes :=
  let raw := encodeUtf8 reason
  let raw :=
    if failureReasonMaxBytes < raw.length then
      dropPartial failureReasonMaxBytes (raw.take failureReasonMaxBytes)
    else raw
  if raw.isEmpty then [] else packU8 raw.length ++ raw

theorem dropPartial_length (n : Nat) (raw : Bytes) : (dropPartial n raw).length ≤ raw.length := by
  induction n generalizing raw with
  | zero => exact le_refl _
  | succ n ih =>
      unfold dropPartial
      split_ifs
      · exact le_refl _
      · exact (ih raw.dropLast).trans (by simp)

theorem encodeFailureReason_length (reason : String) :
    (encodeFailureReason reason).length ≤ failureReasonMaxBytes + 1 := by
  have hcut : ∀ raw : Bytes, raw.length ≤ failureReasonMaxBytes →
      (if raw.isEmpty then [] else packU8 raw.length ++ raw).length ≤ failureReasonMaxBytes + 1 := by
    intro raw hraw
    split_ifs
    · exact Nat.zero_le _
    · simp only [List.length_append, packU8_length]
      omega
  refine hcut _ ?_
  split_ifs with hlong
  · refine (dropPartial_length _ _).trans ?_
    exact List.length_take_le _ _
  · exact not_lt.mp hlong

/-- How a report names a telecommand. -/
def requestId (tcApid tcSeq : Nat) : Nat := ((tcApid &&& 0x7FF) <<< 14) ||| (tcSeq &&& 0x3FFF)

/-- `build_verification_acceptance(tc_apid, tc_seq)`. -/
def buildVerificationAcceptance (tcApid tcSeq : Nat) : EStateM PyError Builder TmPacket :=
  packTm 1 1 (packU32 (requestId tcApid tcSeq))

/-- `build_verification_completion(tc_apid, tc_seq)`. -/
def buildVerificationCompletion (tcApid tcSeq : Nat) : EStateM PyError Builder TmPacket :=
  packTm 1 7 (packU32 (requestId tcApid tcSeq))

/-- What the two failure reports of the engine share. -/
def buildFailure (subtype tcApid tcSeq : Nat) (errorCode : Int) (reason : String) :
    EStateM PyError Builder TmPacket := do
  let code ← fromExcept (packUnsigned 2 errorCode)
  packTm 1 subtype (packU32 (requestId tcApid tcSeq) ++ code ++ encodeFailureReason reason)

/-- `build_verification_failure(tc_apid, tc_seq, error_code, reason)`. -/
def buildVerificationFailure (tcApid tcSeq : Nat) (errorCode : Int) (reason : String) :
    EStateM PyError Builder TmPacket :=
  buildFailure 2 tcApid tcSeq errorCode reason

/-- `build_execution_failure(tc_apid, tc_seq, error_code, reason)`. -/
def buildExecutionFailure (tcApid tcSeq : Nat) (errorCode : Int) (reason : String) :
    EStateM PyError Builder TmPacket :=
  buildFailure 8 tcApid tcSeq errorCode reason

/-! ### The other services -/

/-- `EVENT_AUX_TEXT_MAX`. -/
def eventAuxTextMax : Nat := 120

/-- `aux_text.encode('ascii', errors='ignore')[:EVENT_AUX_TEXT_MAX]`. -/
def encodeAuxText (text : String) : Bytes :=
  ((text.toList.filter fun c => c.toNat < 128).map fun c => UInt8.ofNat c.toNat).take
    eventAuxTextMax

/-- `build_event_packet(event_id, severity, aux_text, params)` at the given on-board time. -/
def buildEventPacket (eventId severity : Nat) (auxText : String) (cuc : Int) :
    EStateM PyError Builder TmPacket := do
  let aux := encodeAuxText auxText
  let id ← fromExcept (packUnsigned 2 eventId)
  let level ← fromExcept (packUnsigned 1 severity)
  let time ← fromExcept (packUnsigned 4 cuc)
  packTm 5 severity (id ++ level ++ time ++ packU8 aux.length ++ aux) cuc

/-- The `struct` formats of housekeeping parameters. -/
inductive PackFormat where
  | b | B | h | H | i | I | f
  deriving DecidableEq, Repr

/-- `struct.pack('>' + fmt, n)`. -/
def PackFormat.pack (n : Int) : PackFormat → Except PyError Bytes
  | .b => packSigned 1 n
  | .B => packUnsigned 1 n
  | .h => packSigned 2 n
  | .H => packUnsigned 2 n
  | .i => packSigned 4 n
  | .I => packUnsigned 4 n
  | .f => Value.toFloat (.int n) >>= packFloat

/-- One parameter of a housekeeping structure. -/
structure HkParameter where
  paramId : Nat
  packFormat : PackFormat
  scale : FloatValue
  deriving DecidableEq, Repr

/-- One parameter's octets; an overflow or a value that is no number packs as zero, a NaN
raises. -/
def HkParameter.pack (p : HkParameter) (value : Value) : Except PyError Bytes :=
  match value.toFloat >>= fun x => roundInt (x.mul p.scale) >>= p.packFormat.pack with
  | .error .structError | .error .overflowError | .error .typeError => p.packFormat.pack 0
  | packed => packed

/-- `build_hk_packet(sid, params, hk_structure)` at the given on-board time. -/
def buildHkPacket (sid : Nat) (params : Dict Nat Value) (hkStructure : Option (List HkParameter))
    (cuc : Int) : EStateM PyError Builder (Option TmPacket) :=
  match hkStructure with
  | none => pure none
  | some parameters => do
      let packed ← fromExcept (parameters.mapM fun p => p.pack ((params.get? p.paramId).getD (.int 0)))
      some <$> packTm 3 25 (packU16 sid ++ packed.flatten) cuc

/-- `build_time_report(cuc)`. -/
def buildTimeReport (cuc : Int) : EStateM PyError Builder TmPacket := do
  let time ← fromExcept (packUnsigned 4 cuc)
  packTm 9 2 time cuc

/-- `build_connection_test_report()` at the given on-board time. -/
def buildConnectionTestReport (cuc : Int) : EStateM PyError Builder TmPacket := packTm 17 2 [] cuc

/-- `build_param_value_report(param_id, value)` at the given on-board time. -/
def buildParamValueReport (paramId : Nat) (value : FloatValue) (cuc : Int) :
    EStateM PyError Builder TmPacket := do
  let packed ← fromExcept (packFloat value)
  packTm 20 2 (packU16 paramId ++ packU8 1 ++ packed) cuc

end TmBuilder
