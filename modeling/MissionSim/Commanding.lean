import MissionSim.StructFields
import Mathlib.Algebra.Order.Floor.Ring
import Mathlib.Data.Rat.Floor

/-!
# The telecommand argument codec

The argument schema of the catalogue: a command has fields of fixed width, or one of variable
length at its end, and a calibration between the raw and the engineering value of a field.
`encodeArgs` goes from engineering values to octets and `decodeArgs` back; each walks the
schema by itself.

The arithmetic of the calibrations is exact.  A value of a floating-point field is its
`FloatValue`; every other number is a rational.
-/

namespace Commanding

open Octets Binary32 Python List

/-! ### The schema -/

/-- The types of a field; `variable` is any of `bytes`, `string` and `blob`, and `unknown` any
other text. -/
inductive FieldType where
  | uint8 | int8 | uint16 | int16 | uint32 | int32 | float32 | float64
  | variable
  | unknown
  deriving DecidableEq, Repr

/-- `field_width(ftype)`. -/
def FieldType.width : FieldType → Option Nat
  | .uint8 | .int8 => some 1
  | .uint16 | .int16 => some 2
  | .uint32 | .int32 | .float32 => some 4
  | .float64 => some 8
  | .variable | .unknown => none

/-- `ftype.startswith("float")`. -/
def FieldType.isFloat : FieldType → Bool
  | .float32 | .float64 => true
  | _ => false

/-- `ftype.startswith("int")`. -/
def FieldType.isSigned : FieldType → Bool
  | .int8 | .int16 | .int32 => true
  | _ => false

/-- `TCFieldCalibration`: without one, and for a text that is none of these, the raw number is
the engineering value. -/
inductive Calibration where
  | none
  | linear (scale offset : Rat)
  | polynomial (coefficients : List Rat)
  | enum
  | bitfield
  deriving DecidableEq, Repr

/-- `TCFieldBitDef`. -/
structure BitDef where
  bit : Nat
  reserved : Bool := false
  deriving DecidableEq, Repr

/-- `TCFieldDef`: what the codec reads of it. -/
structure Field where
  name : String
  type : FieldType := .uint8
  littleEndian : Bool := false
  calibration : Calibration := .none
  range : Option (Rat × Rat) := .none
  rawRange : Option (Rat × Rat) := .none
  default : Option Rat := .none
  enum : List Int := []
  bits : List BitDef := []
  deriving DecidableEq, Repr

/-- An engineering value. -/
inductive EngValue where
  | number (q : Rat)
  | float (x : FloatValue)
  | text (s : String)
  deriving DecidableEq, Repr

/-- A raw value. -/
inductive Raw where
  | int (n : Int)
  | float (x : FloatValue)
  deriving DecidableEq, Repr

/-- What an `EncodeError` is about. -/
inductive EncodeFault where
  | scaleZero
  | notReversible
  | slopeZero
  | outsideRange
  | notEnumerated
  | reservedBits
  | doesNotFit
  | outsideRawRange
  | unknownType
  deriving DecidableEq, Repr

/-- The exceptions of the codec. -/
inductive CodecError where
  | encode (field : String) (fault : EncodeFault)
  | unknownArguments (names : List String)
  | notLast (field : String)
  | tooShort (field : String)
  | trailing (octets : Nat)
  | python (error : PyError)
  deriving DecidableEq, Repr

/-- An exception of the language. -/
def raising {α : Type} (x : Except PyError α) : Except CodecError α := x.mapError .python

/-! ### Numbers -/

/-- `round(x)`, ties to even. -/
def roundHalfEven (q : Rat) : Int :=
  let rest := q - q.floor
  if rest < 1 / 2 ∨ rest = 1 / 2 ∧ q.floor % 2 = 0 then q.floor else q.floor + 1

theorem roundHalfEven_intCast (n : Int) : roundHalfEven n = n := by
  unfold roundHalfEven
  have hfloor : ((n : Rat)).floor = n := Rat.floor_intCast n
  simp

/-- The value of a hexadecimal digit. -/
def hexDigit (c : Char) : Option Nat :=
  if c.isDigit then some (c.toNat - 48)
  else if 'a' ≤ c ∧ c ≤ 'f' then some (c.toNat - 87)
  else if 'A' ≤ c ∧ c ≤ 'F' then some (c.toNat - 55)
  else none

/-- One character of a run of digits, between which there may be single underscores: the
number, how many digits, and whether a digit must follow. -/
def digitStep (base : Nat) (c : Char) : Nat × Nat × Bool → Option (Nat × Nat × Bool)
  | (value, count, needed) =>
      match (hexDigit c).filter fun d => d < base with
      | some d => some (value * base + d, count + 1, false)
      | none => if c = '_' ∧ !needed then some (value, count, true) else none

/-- The number a run of digits is, and how many digits it has. -/
def digitRun (base : Nat) (cs : List Char) : Option (Nat × Nat) :=
  match cs.foldlM (fun state c => digitStep base c state) (0, 0, true) with
  | some (value, count, false) => some (value, count)
  | _ => none

/-- A sign and what follows it. -/
def signed : List Char → Bool × List Char
  | '-' :: cs => (true, cs)
  | '+' :: cs => (false, cs)
  | cs => (false, cs)

/-- The digits before and behind a point, either of which may be missing. -/
def decimalOf (cs : List Char) : Option Rat :=
  let whole := cs.takeWhile fun c => c ≠ '.'
  let behind := (cs.dropWhile fun c => c ≠ '.').drop 1
  match digitRun 10 whole, digitRun 10 behind with
  | some (n, _), some (m, places) => some (n + m / 10 ^ places)
  | some (n, _), none => if behind.isEmpty then some n else none
  | none, some (m, places) => if whole.isEmpty then some (m / 10 ^ places) else none
  | none, none => none

/-- `float(text)`. -/
def floatOfText (text : String) : Except PyError EngValue :=
  let (negative, body) := signed text.trimAscii.toString.toLower.toList
  if body = "inf".toList ∨ body = "infinity".toList then .ok (.float (.infinite negative))
  else if body = "nan".toList then .ok (.float (.nan negative 0))
  else
    let mantissa := body.takeWhile fun c => c ≠ 'e'
    let power := body.dropWhile fun c => c ≠ 'e'
    let exponent : Option Int := match power with
      | [] => some 0
      | _ :: cs => (digitRun 10 (signed cs).2).map fun run => if (signed cs).1 then -run.1 else run.1
    match decimalOf mantissa, exponent with
    | some q, some e => .ok (.number ((if negative then -q else q) * 10 ^ e))
    | _, _ => .error .valueError

/-- `float(value)`. -/
def EngValue.toFloat : EngValue → Except PyError EngValue
  | .text s => floatOfText s
  | value => .ok value

/-- The exact number that a value is, as `round` needs one. -/
def EngValue.exact : EngValue → Except PyError Rat
  | .number q => .ok q
  | .float (.finite negative m e) => .ok (dyadic negative m e)
  | .float (.infinite _) => .error .overflowError
  | .float (.nan _ _) => .error .valueError
  | .text _ => .error .valueError

/-- `int(raw)`. -/
def Raw.toInt : Raw → Except PyError Int
  | .int n => .ok n
  | .float x => (Value.float x).toInt

/-! ### Conversion -/

/-- `eng_to_raw(field, eng)`. -/
def engToRaw (f : Field) (eng : EngValue) : Except CodecError Raw :=
  if f.type.isFloat then do
    match ← raising eng.toFloat with
    | .float x => pure (.float x)
    | .number q => pure (.float (quotient q.num q.den))
    | .text _ => raising (.error .valueError)
  else
    match f.calibration with
    | .linear scale offset => do
        if scale = 0 then throw (.encode f.name .scaleZero)
        let x ← raising (eng.toFloat >>= EngValue.exact)
        pure (.int (roundHalfEven ((x - offset) / scale)))
    | .polynomial coefficients => do
        if 2 < coefficients.length then throw (.encode f.name .notReversible)
        let c0 := coefficients.getD 0 0
        let c1 := coefficients.getD 1 1
        if c1 = 0 then throw (.encode f.name .slopeZero)
        let x ← raising (eng.toFloat >>= EngValue.exact)
        pure (.int (roundHalfEven ((x - c0) / c1)))
    | _ => do
        let x ← raising (eng.toFloat >>= EngValue.exact)
        pure (.int (roundHalfEven x))

/-- `raw_to_eng(field, raw)` for a field whose raw value is an integer. -/
def engOfInt (f : Field) (n : Int) : Rat :=
  match f.calibration with
  | .linear scale offset => n * scale + offset
  | .polynomial coefficients => (coefficients.mapIdx fun i c => c * (n : Rat) ^ i).sum
  | _ => n

/-- `raw_to_eng(field, raw)`. -/
def rawToEng (f : Field) : Raw → EngValue
  | .int n => .number (engOfInt f n)
  | .float x => .float x

/-! ### Validation -/

/-- `lo <= x <= hi`. -/
def EngValue.within (lo hi : Rat) : EngValue → Bool
  | .number q => decide (lo ≤ q ∧ q ≤ hi)
  | .float (.finite negative m e) => decide (lo ≤ dyadic negative m e ∧ dyadic negative m e ≤ hi)
  | _ => false

/-- `_int_bounds(ftype)`. -/
def intBounds (type : FieldType) : Int × Int :=
  let bits := (type.width.getD 1) * 8
  if type.isSigned then (-2 ^ (bits - 1), 2 ^ (bits - 1) - 1) else (0, 2 ^ bits - 1)

/-- The bits that are not reserved. -/
def allowedMask (bits : List BitDef) : Nat :=
  bits.foldl (fun mask b => if b.reserved then mask else mask ||| 1 <<< b.bit) 0

/-- `raw & ~mask`. -/
def setsOther (mask : Nat) (n : Int) : Bool := decide (n < 0 ∨ n.toNat &&& mask ≠ n.toNat)

/-- Raise an `EncodeError` unless a condition holds. -/
def require (f : Field) (fault : EncodeFault) (c : Bool) : Except CodecError Unit :=
  if c then .ok () else .error (.encode f.name fault)

/-- `_validate(field, eng, raw)`. -/
def validate (f : Field) (eng : EngValue) (raw : Raw) : Except CodecError Unit := do
  match f.range with
  | some (lo, hi) => do
      let x ← raising eng.toFloat
      require f .outsideRange (x.within lo hi)
  | none => pure ()
  if f.calibration = .enum ∧ f.enum ≠ [] then do
    let n ← raising raw.toInt
    require f .notEnumerated (f.enum.contains n)
  if f.calibration = .bitfield ∧ f.bits ≠ [] then do
    let n ← raising raw.toInt
    require f .reservedBits (!setsOther (allowedMask f.bits) n)
  if f.type.isFloat = false then do
    let n ← raising raw.toInt
    require f .doesNotFit (decide ((intBounds f.type).1 ≤ n ∧ n ≤ (intBounds f.type).2))
    match f.rawRange with
    | some (lo, hi) => require f .outsideRawRange (decide (lo ≤ n ∧ n ≤ hi))
    | none => pure ()

/-- `field_default(field)`. -/
def fieldDefault (f : Field) : EngValue :=
  match f.default, f.range, f.enum with
  | some q, _, _ => .number q
  | none, some (lo, _), _ => .number lo
  | none, none, n :: _ => .number n
  | none, none, [] => .number 0

/-! ### The octets of a field -/

/-- `bytes.fromhex(text)`. -/
def fromHex : List Char → Except PyError Bytes
  | [] => .ok []
  | [_] => .error .valueError
  | high :: low :: rest =>
      match hexDigit high, hexDigit low with
      | some h, some l => (UInt8.ofNat (16 * h + l) :: ·) <$> fromHex rest
      | _, _ => .error .valueError

/-- `data.hex()`. -/
def hexText (bs : Bytes) : String :=
  String.ofList (bs.flatMap fun octet =>
    [Nat.digitChar (octet.toNat / 16), Nat.digitChar (octet.toNat % 16)])

/-- The octets of a raw value, most significant first. -/
def packRaw (type : FieldType) (raw : Raw) : Except PyError Bytes :=
  match type, raw with
  | .variable, .int n => fromHex (toString n).toList
  | .variable, .float _ => .error .valueError
  | .float32, .float x => packFloat x
  | .float32, .int n => (Value.int n).toFloat >>= packFloat
  | .float64, .float x => packDouble x
  | .float64, .int n => (Value.int n).toFloat >>= packDouble
  | type, raw => do
      let n ← raw.toInt
      if type.isSigned then packSigned (type.width.getD 0) n
      else packUnsigned (type.width.getD 0) n

/-- The octets in the order of the wire. -/
def ordered (f : Field) (bs : Bytes) : Bytes := if f.littleEndian then bs.reverse else bs

/-- `_pack_field(field, raw)`. -/
def packField (f : Field) (raw : Raw) : Except CodecError Bytes :=
  match f.type with
  | .unknown => throw (.encode f.name .unknownType)
  | .variable => raising (packRaw .variable raw)
  | type => ordered f <$> raising (packRaw type raw)

/-- The raw value of a field of fixed width. -/
def unpackRaw (type : FieldType) (bs : Bytes) : Raw :=
  match type with
  | .float32 => .float (unpackFloat bs)
  | .float64 => .float (unpackDouble bs)
  | type => .int (if type.isSigned then unpackSigned bs else unpackUnsigned bs)

/-! ### The codec -/

/-- The value of a field: the argument of its name, or its default. -/
def argument (args : Dict String EngValue) (f : Field) : EngValue :=
  (args.get? f.name).getD (fieldDefault f)

/-- One field's octets. -/
def encodeField (validating : Bool) (f : Field) (eng : EngValue) : Except CodecError Bytes := do
  let raw ← engToRaw f eng
  if validating then validate f eng raw
  packField f raw

/-- The loop over the fields: their octets, and the arguments that are left. -/
def encodeFields (validating : Bool) :
    List Field → Dict String EngValue → Except CodecError (Bytes × Dict String EngValue)
  | [], args => .ok ([], args)
  | f :: rest, args => do
      let octets ← encodeField validating f (argument args f)
      let more ← encodeFields validating rest (args.erase f.name)
      pure (octets ++ more.1, more.2)

/-- `encode_args(cmd, args, validate)`. -/
def encodeArgs (fields : List Field) (args : Dict String EngValue) (validating : Bool) :
    Except CodecError Bytes := do
  let out ← encodeFields validating fields args
  if out.2.items.isEmpty then pure out.1 else throw (.unknownArguments out.2.keys)

/-- The loop over the fields: the values, and the octets that are left. -/
def decodeFields :
    List Field → Bytes → Dict String EngValue → Except CodecError (Dict String EngValue × Bytes)
  | [], data, out => .ok (out, data)
  | f :: rest, data, out =>
      if f.type = .variable then
        if rest = [] then .ok (out.set f.name (.text (hexText data)), [])
        else throw (.notLast f.name)
      else
        match f.type.width with
        | none => throw (.tooShort f.name)
        | some width =>
            if data.length < width then throw (.tooShort f.name)
            else
              decodeFields rest (data.drop width)
                (out.set f.name (rawToEng f (unpackRaw f.type (ordered f (data.take width)))))

/-- `decode_args(cmd, data)`. -/
def decodeArgs (fields : List Field) (data : Bytes) : Except CodecError (Dict String EngValue) := do
  let out ← decodeFields fields data .empty
  if out.2.isEmpty then pure out.1 else throw (.trailing out.2.length)

/-! ### Slots -/

/-- No signalling NaN: it turns quiet when it is read. -/
def Quiet (type : FieldType) (bs : Bytes) : Prop :=
  match type with
  | .float32 => ¬ SignallingNaN (unpackU32 bs)
  | .float64 => ¬ SignallingDouble (unpackUnsigned bs)
  | _ => True

/-- Octets that a field of fixed width can hold. -/
structure Slot (f : Field) (bs : Bytes) : Prop where
  width : f.type.width = some bs.length
  quiet : Quiet f.type bs

/-- No field of the data holds a signalling NaN. -/
def QuietData : List Field → Bytes → Prop
  | [], _ => True
  | f :: rest, data =>
      match f.type.width with
      | none => True
      | some width => Quiet f.type (ordered f (data.take width)) ∧ QuietData rest (data.drop width)

/-- The engineering value that octets hold. -/
def valueOf (f : Field) (bs : Bytes) : EngValue := rawToEng f (unpackRaw f.type bs)

/-- The number that a value is. -/
def EngValue.rational : EngValue → Option Rat
  | .number q => some q
  | .float (.finite negative m e) => some (dyadic negative m e)
  | _ => none

/-- `a == b`, and a NaN is itself: numbers are equal however they are given. -/
def EngValue.Same (a b : EngValue) : Prop := a = b ∨ ∃ q, a.rational = some q ∧ b.rational = some q

/-- A value that a field can hold exactly. -/
def Representable (f : Field) (eng : EngValue) : Prop := ∃ bs, Slot f bs ∧ eng.Same (valueOf f bs)

/-- A calibration with a slope: its conversion can be undone. -/
def Calibration.Reversible : Calibration → Prop
  | .linear scale _ => scale ≠ 0
  | .polynomial coefficients => coefficients.length = 2 ∧ coefficients.getD 1 1 ≠ 0
  | .none | .enum | .bitfield => True

instance : (c : Calibration) → Decidable c.Reversible
  | .linear _ _ => inferInstanceAs (Decidable (_ ≠ _))
  | .polynomial _ => inferInstanceAs (Decidable (_ ∧ _ ≠ _))
  | .none | .enum | .bitfield => inferInstanceAs (Decidable True)

/-- A field of fixed width whose calibration can be undone; a floating-point field has none. -/
def Reversible (f : Field) : Prop :=
  f.type ≠ .variable ∧ (f.type.isFloat = true ∨ f.calibration.Reversible)

instance (f : Field) : Decidable (Reversible f) := inferInstanceAs (Decidable (_ ∧ (_ ∨ _)))

theorem ordered_ordered (f : Field) (bs : Bytes) : ordered f (ordered f bs) = bs := by
  unfold ordered
  split_ifs
  · exact reverse_reverse bs
  · rfl

theorem ordered_length (f : Field) (bs : Bytes) : (ordered f bs).length = bs.length := by
  unfold ordered
  split_ifs
  · exact length_reverse
  · rfl

variable {type : FieldType}

theorem packRaw_unsigned {k : Nat} (hwidth : type.width = some k) (hfloat : type.isFloat = false)
    (hsigned : type.isSigned = false) (n : Int) : packRaw type (.int n) = packUnsigned k n := by
  cases type <;> cases hwidth <;>
    first | rfl | exact absurd hfloat (by decide) | cases hsigned

theorem packRaw_signed {k : Nat} (hwidth : type.width = some k) (hsigned : type.isSigned = true)
    (n : Int) : packRaw type (.int n) = packSigned k n := by
  cases type <;> cases hwidth <;> first | rfl | cases hsigned

theorem unpackRaw_int (h : type.isFloat = false) (bs : Bytes) :
    unpackRaw type bs =
      .int (if type.isSigned then unpackSigned bs else unpackUnsigned bs) := by
  cases type <;> first | rfl | cases h

variable {bs : Bytes}

theorem packRaw_unpackRaw (hwidth : type.width = some bs.length) (hquiet : Quiet type bs) :
    packRaw type (unpackRaw type bs) = .ok bs := by
  cases hfloat : type.isFloat with
  | true =>
      cases type <;> cases hfloat
      · exact packFloat_read (Option.some.inj hwidth).symm hquiet
      · exact packDouble_unpackDouble (Option.some.inj hwidth).symm hquiet
  | false =>
      rw [unpackRaw_int hfloat]
      cases hsigned : type.isSigned with
      | true =>
          have hpos : 0 < bs.length := by
            cases type <;> cases hsigned <;> simp [FieldType.width] at hwidth <;> omega
          rw [packRaw_signed hwidth hsigned]
          exact (packSigned_unpackSigned hpos).2
      | false =>
          rw [packRaw_unsigned hwidth hfloat hsigned]
          exact packUnsigned_unpackUnsigned bs

variable {f : Field}

/-- What is read of a slot is written as it was. -/
theorem packField_unpackRaw (h : Slot f bs) :
    packField f (unpackRaw f.type bs) = .ok (ordered f bs) := by
  have hraw := packRaw_unpackRaw h.width h.quiet
  have hwidth := h.width
  unfold packField
  cases htype : f.type <;> rw [htype] at hraw hwidth <;>
    simp only [FieldType.width, reduceCtorEq] at hwidth <;> dsimp only <;> rw [hraw] <;> rfl

theorem engOfInt_inverse {f : Field} (h : f.calibration.Reversible) (hfloat : f.type.isFloat = false)
    (n : Int) : engToRaw f (.number (engOfInt f n)) = .ok (.int n) := by
  unfold engToRaw
  rw [if_neg (by simp [hfloat])]
  unfold engOfInt
  cases hcalibration : f.calibration with
  | linear scale offset =>
      rw [hcalibration] at h
      have hscale : scale ≠ 0 := h
      have hback : (((n : Rat) * scale + offset) - offset) / scale = n := by
        rw [add_sub_cancel_right, mul_div_cancel_right₀ _ hscale]
      dsimp only
      rw [if_neg hscale]
      show Except.ok (Raw.int (roundHalfEven (((n * scale + offset) - offset) / scale))) = _
      rw [hback, roundHalfEven_intCast]
  | polynomial coefficients =>
      rw [hcalibration] at h
      obtain ⟨hlength, hslope⟩ := h
      obtain ⟨c0, c1, rfl⟩ := length_eq_two.mp hlength
      have hc1 : c1 ≠ 0 := hslope
      have hvalue : ([c0, c1].mapIdx fun i c => c * (n : Rat) ^ i).sum = c0 + c1 * n := by
        simp
      have hback : ((c0 + c1 * n) - c0) / c1 = (n : Rat) := by
        rw [add_sub_cancel_left, mul_div_cancel_left₀ _ hc1]
      dsimp only
      rw [if_neg (show ¬ 2 < [c0, c1].length from lt_irrefl 2), hvalue,
        if_neg (show ¬ [c0, c1].getD 1 1 = 0 from hc1)]
      show Except.ok (Raw.int (roundHalfEven (((c0 + c1 * n) - c0) / c1))) = _
      rw [hback, roundHalfEven_intCast]
  | none | enum | bitfield =>
      show Except.ok (Raw.int (roundHalfEven n)) = _
      rw [roundHalfEven_intCast]

/-- The raw value of what a slot holds is the slot's. -/
theorem engToRaw_valueOf (hf : Reversible f) :
    engToRaw f (valueOf f bs) = .ok (unpackRaw f.type bs) := by
  cases hfloat : f.type.isFloat with
  | true =>
      obtain ⟨x, hx⟩ : ∃ x, unpackRaw f.type bs = .float x := by
        cases htype : f.type <;> rw [htype] at hfloat <;> first | exact ⟨_, rfl⟩ | cases hfloat
      unfold engToRaw valueOf
      rw [if_pos hfloat, hx]
      rfl
  | false =>
      have hcalibration := hf.2.resolve_left (by simp [hfloat])
      rw [valueOf, unpackRaw_int hfloat]
      exact engOfInt_inverse hcalibration hfloat _

theorem encodeField_plain (f : Field) (eng : EngValue) :
    encodeField false f eng = engToRaw f eng >>= packField f := rfl

theorem packField_float32 (h : f.type = .float32) (x : FloatValue) :
    packField f (.float x) = ordered f <$> raising (packFloat x) := by
  unfold packField
  rw [h]
  rfl

theorem packField_float64 (h : f.type = .float64) (x : FloatValue) :
    packField f (.float x) = ordered f <$> raising (packDouble x) := by
  unfold packField
  rw [h]
  rfl

/-- What a slot holds is written as it was. -/
theorem encodeField_valueOf (hslot : Slot f bs) (hrev : Reversible f) :
    encodeField false f (valueOf f bs) = .ok (ordered f bs) := by
  rw [encodeField_plain, engToRaw_valueOf hrev]
  exact packField_unpackRaw hslot

variable {eng : EngValue}

/-- An integer field takes a number however it is given. -/
theorem engToRaw_rational {q : Rat} (hfloat : f.type.isFloat = false) (h : eng.rational = some q) :
    engToRaw f eng = engToRaw f (.number q) := by
  cases eng with
  | number q' =>
      obtain rfl : q' = q := Option.some.inj h
      rfl
  | float x =>
      cases x with
      | finite negative m e =>
          obtain rfl : dyadic negative m e = q := Option.some.inj h
          unfold engToRaw
          rw [if_neg (by simp [hfloat]), if_neg (by simp [hfloat])]
          rfl
      | infinite | nan => cases h
  | text s => cases h

/-- A floating-point field takes a number of double precision as it is. -/
theorem engToRaw_float {negative : Bool} {m : Nat} {e : Int} (hfloat : f.type.isFloat = true)
    (h : eng.rational = some (dyadic negative m e)) (hm : m < 2 ^ 53) (he : -1074 ≤ e)
    (hbig : e ≤ 971) :
    ∃ s m' e', engToRaw f eng = .ok (.float (.finite s m' e')) ∧
      dyadic s m' e' = dyadic negative m e := by
  unfold engToRaw
  rw [if_pos hfloat]
  cases eng with
  | number q =>
      obtain rfl : q = dyadic negative m e := Option.some.inj h
      obtain ⟨s, m', e', hquotient, hvalue⟩ := @quotient_exact negative m e hm he hbig
      refine ⟨s, m', e', ?_, hvalue⟩
      rw [← hquotient]
      rfl
  | float x =>
      cases x with
      | finite s m' e' => exact ⟨s, m', e', rfl, Option.some.inj h⟩
      | infinite | nan => cases h
  | text s => cases h

/-- A number that a slot of single precision holds is written to such a slot. -/
theorem encodeField_float32 {q : Rat} (htype : f.type = .float32) (hslot : Slot f bs)
    (hq : eng.rational = some q) (hread : (valueOf f bs).rational = some q) :
    ∃ bs', Slot f bs' ∧ (valueOf f bs').rational = some q ∧
      encodeField false f eng = .ok (ordered f bs') := by
  have hvalueOf : ∀ octets, valueOf f octets = .float (unpackFloat octets) := by
    intro octets
    unfold valueOf
    rw [htype]
    rfl
  have hlength : bs.length = 4 := by
    have hwidth := hslot.width
    rw [htype] at hwidth
    exact (Option.some.inj hwidth).symm
  rw [hvalueOf] at hread
  cases hx : unpackFloat bs with
  | finite s m e =>
      rw [hx] at hread
      obtain rfl : dyadic s m e = q := Option.some.inj hread
      obtain ⟨-, hm, he, hbig⟩ := ofBits_finite hx
      obtain ⟨s', m', e', hraw, hsame⟩ := engToRaw_float (by rw [htype]; rfl) hq hm he hbig
      obtain ⟨bs', hpack, hlength', s₂, m₂, e₂, hread', hvalue⟩ := packFloat_exact hlength hx hsame
      refine ⟨bs', ⟨?_, ?_⟩, ?_, ?_⟩
      · rw [htype, hlength']
        rfl
      · rw [htype]
        exact (ofBits_finite hread').1
      · rw [hvalueOf, hread', ← hvalue]
        rfl
      · have hfield := packField_float32 htype (.finite s' m' e')
        rw [hpack] at hfield
        rw [encodeField_plain, hraw]
        exact hfield
  | infinite | nan =>
      rw [hx] at hread
      cases hread

/-- A number that a slot of double precision holds is written to such a slot. -/
theorem encodeField_float64 {q : Rat} (htype : f.type = .float64) (hslot : Slot f bs)
    (hq : eng.rational = some q) (hread : (valueOf f bs).rational = some q) :
    ∃ bs', Slot f bs' ∧ (valueOf f bs').rational = some q ∧
      encodeField false f eng = .ok (ordered f bs') := by
  have hvalueOf : ∀ octets, valueOf f octets = .float (unpackDouble octets) := by
    intro octets
    unfold valueOf
    rw [htype]
    rfl
  have hlength : bs.length = 8 := by
    have hwidth := hslot.width
    rw [htype] at hwidth
    exact (Option.some.inj hwidth).symm
  rw [hvalueOf] at hread
  cases hx : unpackDouble bs with
  | finite s m e =>
      rw [hx] at hread
      obtain rfl : dyadic s m e = q := Option.some.inj hread
      obtain ⟨-, hm, he, hbig⟩ := ofDoubleBits_finite hx
      obtain ⟨s', m', e', hraw, hsame⟩ := engToRaw_float (by rw [htype]; rfl) hq hm he hbig
      obtain ⟨bs', hpack, hlength', s₂, m₂, e₂, hread', hvalue⟩ := packDouble_exact hlength hx hsame
      refine ⟨bs', ⟨?_, ?_⟩, ?_, ?_⟩
      · rw [htype, hlength']
        rfl
      · rw [htype]
        exact (ofDoubleBits_finite hread').1
      · rw [hvalueOf, hread', ← hvalue]
        rfl
      · have hfield := packField_float64 htype (.finite s' m' e')
        rw [hpack] at hfield
        rw [encodeField_plain, hraw]
        exact hfield
  | infinite | nan =>
      rw [hx] at hread
      cases hread

/-- **A value that a field can hold exactly** is written to a slot that holds it. -/
theorem encodeField_representable (hrev : Reversible f) (h : Representable f eng) :
    ∃ bs, Slot f bs ∧ eng.Same (valueOf f bs) ∧ encodeField false f eng = .ok (ordered f bs) := by
  obtain ⟨bs, hslot, rfl | ⟨q, hq, hread⟩⟩ := h
  · exact ⟨bs, hslot, .inl rfl, encodeField_valueOf hslot hrev⟩
  · cases hfloat : f.type.isFloat with
    | true =>
        obtain ⟨bs', hslot', hvalue, hwritten⟩ : ∃ bs', Slot f bs' ∧
            (valueOf f bs').rational = some q ∧ encodeField false f eng = .ok (ordered f bs') := by
          cases htype : f.type <;> rw [htype] at hfloat <;> cases hfloat
          · exact encodeField_float32 htype hslot hq hread
          · exact encodeField_float64 htype hslot hq hread
        exact ⟨bs', hslot', .inr ⟨q, hq, hvalue⟩, hwritten⟩
    | false =>
        refine ⟨bs, hslot, .inr ⟨q, hq, hread⟩, ?_⟩
        rw [encodeField_plain, engToRaw_rational hfloat hq, ← engToRaw_rational hfloat hread]
        exact encodeField_valueOf hslot hrev

/-- The octets of an integer field that hold a number. -/
theorem exists_octets {k : Nat} {n : Int} (hwidth : type.width = some k)
    (hfloat : type.isFloat = false) (h : (intBounds type).1 ≤ n ∧ n ≤ (intBounds type).2) :
    ∃ bs : Bytes, bs.length = k ∧ unpackRaw type bs = .int n := by
  have hpos : 0 < k := by
    cases type <;> simp [FieldType.width] at hwidth <;> omega
  unfold intBounds at h
  rw [hwidth] at h
  cases hsigned : type.isSigned with
  | true =>
      rw [hsigned] at h
      have hbits : k * 8 - 1 = 8 * k - 1 := by omega
      have hfits : FitsSigned k n := by
        unfold FitsSigned
        dsimp only [Option.getD_some] at h
        rw [hbits, if_pos rfl] at h
        omega
      obtain ⟨bs, -, hlength, hread⟩ := packSigned_eq hpos hfits
      refine ⟨bs, hlength, ?_⟩
      rw [unpackRaw_int hfloat, hsigned, if_pos rfl, hread]
  | false =>
      rw [hsigned] at h
      obtain ⟨m, rfl⟩ := Int.eq_ofNat_of_zero_le h.1
      have hlt : m < 2 ^ (8 * k) := by
        have hle := h.2
        dsimp only [Option.getD_some] at hle
        rw [Nat.mul_comm k 8] at hle
        have hint : (m : Int) < 2 ^ (8 * k) := by
          simpa using Int.lt_of_le_sub_one hle
        exact_mod_cast hint
      refine ⟨octetsOf k m, octetsOf_length k m, ?_⟩
      rw [unpackRaw_int hfloat, hsigned, if_neg Bool.false_ne_true, unpackUnsigned_octetsOf hlt]

/-- The engineering value of every raw number that fits an integer field is one it can hold. -/
theorem representable_int {k : Nat} {n : Int} (hwidth : f.type.width = some k)
    (hfloat : f.type.isFloat = false) (h : (intBounds f.type).1 ≤ n ∧ n ≤ (intBounds f.type).2) :
    Representable f (.number (engOfInt f n)) := by
  obtain ⟨bs, hlength, hread⟩ := exists_octets hwidth hfloat h
  refine ⟨bs, ⟨by rw [hlength, hwidth], ?_⟩, .inl ?_⟩
  · cases htype : f.type <;> rw [htype] at hfloat <;> trivial
  · rw [valueOf, hread]
    rfl

/-! ### The two walks -/

/-- The octets of a command whose fields hold the given slots. -/
def wire : List Field → List Bytes → Bytes
  | f :: fields, bs :: slots => ordered f bs ++ wire fields slots
  | _, _ => []

/-- The values that are read of the slots. -/
def assigned : List Field → List Bytes → Dict String EngValue → Dict String EngValue
  | f :: fields, bs :: slots, out => assigned fields slots (out.set f.name (valueOf f bs))
  | _, _, out => out

/-- The arguments that are left after the fields have taken theirs. -/
def unused (fields : List Field) (args : Dict String EngValue) : Dict String EngValue :=
  fields.foldl (fun d f => d.erase f.name) args

theorem Slot.not_variable (h : Slot f bs) : f.type ≠ .variable := by
  intro htype
  have hwidth := h.width
  rw [htype] at hwidth
  cases hwidth

variable {fields : List Field} {slots : List Bytes}

/-- Decoding reads the slots. -/
theorem decodeFields_wire (h : List.Forall₂ Slot fields slots) (out : Dict String EngValue) :
    decodeFields fields (wire fields slots) out = .ok (assigned fields slots out, []) := by
  induction h generalizing out with
  | nil => rfl
  | @cons f bs fields slots hslot _ ih =>
      have hlength := ordered_length f bs
      have hlong : ¬ (ordered f bs ++ wire fields slots).length < bs.length := by
        rw [length_append]
        omega
      unfold decodeFields wire
      rw [if_neg hslot.not_variable, hslot.width]
      dsimp only
      rw [if_neg hlong, take_left' hlength, drop_left' hlength, ordered_ordered]
      exact ih _

/-- What decoding reads are slots. -/
theorem wire_of_decodeFields {data : Bytes} {out out' : Dict String EngValue}
    (hfixed : ∀ f ∈ fields, f.type ≠ .variable) (hquiet : QuietData fields data)
    (h : decodeFields fields data out = .ok (out', [])) :
    ∃ slots, List.Forall₂ Slot fields slots ∧ data = wire fields slots ∧
      out' = assigned fields slots out := by
  induction fields generalizing data out with
  | nil =>
      obtain ⟨rfl, rfl⟩ := Prod.mk.inj (Except.ok.inj h)
      exact ⟨[], .nil, rfl, rfl⟩
  | cons f rest ih =>
      unfold decodeFields at h
      unfold QuietData at hquiet
      rw [if_neg (hfixed f mem_cons_self)] at h
      cases hwidth : f.type.width with
      | none =>
          rw [hwidth] at h
          cases h
      | some width =>
          rw [hwidth] at h hquiet
          dsimp only at h hquiet
          by_cases hshort : data.length < width
          · rw [if_pos hshort] at h
            cases h
          · rw [if_neg hshort] at h
            obtain ⟨slots, hslots, hdata, hout⟩ :=
              ih (fun g hg => hfixed g (mem_cons_of_mem f hg)) hquiet.2 h
            have hlength : (ordered f (data.take width)).length = width := by
              rw [ordered_length, length_take]
              omega
            refine ⟨ordered f (data.take width) :: slots, .cons ⟨?_, hquiet.1⟩ hslots, ?_, hout⟩
            · rw [hlength, hwidth]
            · rw [wire, ordered_ordered, ← hdata, take_append_drop]

variable {args : Dict String EngValue}

theorem argument_erase {f g : Field} (h : g.name ≠ f.name) :
    argument (args.erase f.name) g = argument args g := by
  unfold argument
  rw [Dict.get?_erase, if_neg h]

/-- Encoding writes the slots. -/
theorem encodeFields_wire {fields : List Field} {slots : List Bytes} {args : Dict String EngValue}
    {value : Field → EngValue} (hnodup : (fields.map Field.name).Nodup)
    (hargs : ∀ f ∈ fields, argument args f = value f)
    (h : List.Forall₂ (fun f bs => encodeField false f (value f) = .ok (ordered f bs)) fields slots) :
    encodeFields false fields args = .ok (wire fields slots, unused fields args) := by
  induction h generalizing args with
  | nil => rfl
  | @cons f bs fields slots hwritten _ ih =>
      obtain ⟨hfresh, hrest⟩ := nodup_cons.mp hnodup
      have htail : ∀ g ∈ fields, argument (args.erase f.name) g = value g := by
        intro g hg
        rw [argument_erase fun heq => hfresh (heq ▸ mem_map_of_mem hg)]
        exact hargs g (mem_cons_of_mem f hg)
      have hmore := ih hrest htail
      unfold encodeFields
      rw [hargs f mem_cons_self, hwritten]
      rw [hmore]
      rfl

/-- The values of the slots, in the order of the fields. -/
theorem assigned_items {out : Dict String EngValue} (h : List.Forall₂ Slot fields slots)
    (hnodup : (fields.map Field.name).Nodup) (hfresh : ∀ f ∈ fields, f.name ∉ out.keys) :
    (assigned fields slots out).items =
      out.items ++ zipWith (fun f bs => (f.name, valueOf f bs)) fields slots := by
  induction h generalizing out with
  | nil => exact (append_nil _).symm
  | @cons f bs fields slots _ _ ih =>
      obtain ⟨hnew, hrest⟩ := nodup_cons.mp hnodup
      have hset : (out.set f.name (valueOf f bs)).items = out.items ++ [(f.name, valueOf f bs)] :=
        Dict.assign_of_not_mem _ (hfresh f mem_cons_self)
      have hlater : ∀ g ∈ fields, g.name ∉ (out.set f.name (valueOf f bs)).keys := by
        intro g hg hmem
        rw [Dict.keys_set_of_not_mem (hfresh f mem_cons_self)] at hmem
        rcases mem_append.mp hmem with hold | hsame
        · exact hfresh g (mem_cons_of_mem f hg) hold
        · exact hnew (mem_singleton.mp hsame ▸ mem_map_of_mem hg)
      rw [assigned, ih hrest hlater, hset, append_assoc]
      rfl

/-- Each field finds the value of its slot. -/
theorem argument_assigned (h : List.Forall₂ Slot fields slots)
    (hnodup : (fields.map Field.name).Nodup) :
    List.Forall₂ (fun f bs => argument (assigned fields slots .empty) f = valueOf f bs)
      fields slots := by
  refine forall₂_iff_zip.mpr ⟨h.length_eq, fun {f bs} hpair => ?_⟩
  have hitem : (f.name, valueOf f bs) ∈ (assigned fields slots .empty).items := by
    rw [assigned_items h hnodup fun g _ => not_mem_nil, ← map_uncurry_zip_eq_zipWith]
    exact mem_append_right _ (mem_map_of_mem hpair)
  unfold argument
  rw [Dict.get?_eq_some_iff.mpr hitem]
  rfl

/-! ### Validation -/

/-- Every raw value of an engineering value passes the validation. -/
def Valid (f : Field) (eng : EngValue) : Prop :=
  ∀ raw, engToRaw f eng = .ok raw → validate f eng raw = .ok ⟨⟩

/-- With validation a field is written as without, or refused. -/
theorem encodeField_validating {octets : Bytes} (h : encodeField true f eng = .ok octets) :
    encodeField false f eng = .ok octets := by
  unfold encodeField at h ⊢
  cases hraw : engToRaw f eng with
  | error e =>
      rw [hraw] at h
      cases h
  | ok raw =>
      rw [hraw] at h
      change (validate f eng raw >>= fun _ => packField f raw) = _ at h
      cases hvalid : validate f eng raw with
      | error e =>
          rw [hvalid] at h
          cases h
      | ok u =>
          rw [hvalid] at h
          exact h

theorem encodeField_valid (h : Valid f eng) : encodeField true f eng = encodeField false f eng := by
  unfold encodeField
  cases hraw : engToRaw f eng with
  | error e => rfl
  | ok raw =>
      change (validate f eng raw >>= fun _ => packField f raw) = packField f raw
      rw [h raw hraw]
      rfl

theorem encodeFields_validating {result : Bytes × Dict String EngValue}
    (h : encodeFields true fields args = .ok result) :
    encodeFields false fields args = .ok result := by
  induction fields generalizing args result with
  | nil => exact h
  | cons f rest ih =>
      unfold encodeFields at h ⊢
      cases hfirst : encodeField true f (argument args f) with
      | error e =>
          rw [hfirst] at h
          cases h
      | ok octets =>
          rw [hfirst] at h
          rw [encodeField_validating hfirst]
          cases hmore : encodeFields true rest (args.erase f.name) with
          | error e =>
              rw [hmore] at h
              cases h
          | ok more =>
              rw [hmore] at h
              rw [ih hmore]
              exact h

theorem encodeFields_valid (hnodup : (fields.map Field.name).Nodup)
    (h : ∀ f ∈ fields, Valid f (argument args f)) :
    encodeFields true fields args = encodeFields false fields args := by
  induction fields generalizing args with
  | nil => rfl
  | cons f rest ih =>
      obtain ⟨hfresh, hrest⟩ := nodup_cons.mp hnodup
      have htail : ∀ g ∈ rest, Valid g (argument (args.erase f.name) g) := by
        intro g hg
        rw [argument_erase fun heq => hfresh (heq ▸ mem_map_of_mem hg)]
        exact h g (mem_cons_of_mem f hg)
      unfold encodeFields
      rw [encodeField_valid (h f mem_cons_self), ih hrest htail]

/-! ### The two directions -/

theorem unused_of_known (h : ∀ name ∈ args.keys, name ∈ fields.map Field.name) :
    (unused fields args).items = [] := by
  induction fields generalizing args with
  | nil =>
      refine eq_nil_iff_forall_not_mem.mpr fun item hitem => ?_
      cases h item.1 (mem_map_of_mem hitem)
  | cons f rest ih =>
      refine @ih (args.erase f.name) fun name hname => ?_
      obtain ⟨value, hvalue⟩ := Dict.mem_keys_iff.mp hname
      rw [Dict.get?_erase] at hvalue
      split_ifs at hvalue with heq
      have hmem := h name (Dict.mem_keys_iff.mpr ⟨value, hvalue⟩)
      exact (mem_cons.mp hmem).resolve_left heq

theorem encodeArgs_of_fields {validating : Bool} {data : Bytes}
    (h : encodeFields validating fields args = .ok (data, unused fields args))
    (hknown : ∀ name ∈ args.keys, name ∈ fields.map Field.name) :
    encodeArgs fields args validating = .ok data := by
  unfold encodeArgs
  rw [h]
  show (if (unused fields args).items.isEmpty then _ else _) = _
  rw [unused_of_known hknown]
  rfl

theorem encodeArgs_validating {data : Bytes} (h : encodeArgs fields args true = .ok data) :
    encodeArgs fields args false = .ok data := by
  unfold encodeArgs at h ⊢
  cases hfields : encodeFields true fields args with
  | error e =>
      rw [hfields] at h
      cases h
  | ok result =>
      rw [hfields] at h
      rw [encodeFields_validating hfields]
      exact h

variable {value : Field → EngValue}

/-- The slots of values that the fields can hold. -/
theorem slots_of_representable (hrev : ∀ f ∈ fields, Reversible f)
    (h : ∀ f ∈ fields, Representable f (value f)) :
    ∃ slots, List.Forall₂ Slot fields slots ∧
      List.Forall₂ (fun f bs => (value f).Same (valueOf f bs)) fields slots ∧
      List.Forall₂ (fun f bs => encodeField false f (value f) = .ok (ordered f bs)) fields slots := by
  induction fields with
  | nil => exact ⟨[], .nil, .nil, .nil⟩
  | cons f rest ih =>
      obtain ⟨bs, hslot, hsame, hwritten⟩ :=
        encodeField_representable (hrev f mem_cons_self) (h f mem_cons_self)
      obtain ⟨slots, hslots, hsames, hwrittens⟩ :=
        ih (fun g hg => hrev g (mem_cons_of_mem f hg)) fun g hg => h g (mem_cons_of_mem f hg)
      exact ⟨bs :: slots, .cons hslot hslots, .cons hsame hsames, .cons hwritten hwrittens⟩

theorem decodeArgs_wire (h : List.Forall₂ Slot fields slots) :
    decodeArgs fields (wire fields slots) = .ok (assigned fields slots .empty) := by
  unfold decodeArgs
  rw [decodeFields_wire h]
  rfl

theorem slots_of_decodeArgs {data : Bytes} {out : Dict String EngValue}
    (hfixed : ∀ f ∈ fields, f.type ≠ .variable) (hquiet : QuietData fields data)
    (h : decodeArgs fields data = .ok out) :
    ∃ slots, List.Forall₂ Slot fields slots ∧ data = wire fields slots ∧
      out = assigned fields slots .empty := by
  unfold decodeArgs at h
  cases hfields : decodeFields fields data .empty with
  | error e =>
      rw [hfields] at h
      cases h
  | ok result =>
      obtain ⟨out', rest⟩ := result
      rw [hfields] at h
      cases rest with
      | nil =>
          obtain rfl : out' = out := Except.ok.inj h
          exact wire_of_decodeFields hfixed hquiet hfields
      | cons octet rest => cases h

theorem values_forall₂ (h : List.Forall₂ (fun f bs => (value f).Same (valueOf f bs)) fields slots) :
    List.Forall₂ (fun f item => item.1 = f.name ∧ (value f).Same item.2) fields
      (zipWith (fun f bs => (f.name, valueOf f bs)) fields slots) := by
  induction h with
  | nil => exact .nil
  | cons hvalue _ ih => exact .cons ⟨rfl, hvalue⟩ ih

/-- The values read of slots are written to them. -/
theorem written_of_slots (h : List.Forall₂ Slot fields slots) (hrev : ∀ f ∈ fields, Reversible f)
    (hvalues : List.Forall₂ (fun f bs => value f = valueOf f bs) fields slots) :
    List.Forall₂ (fun f bs => encodeField false f (value f) = .ok (ordered f bs)) fields slots := by
  induction h with
  | nil => exact .nil
  | @cons f bs fields slots hslot _ ih =>
      obtain ⟨hvalue, hvalues⟩ := forall₂_cons.mp hvalues
      refine .cons ?_ (ih (fun g hg => hrev g (mem_cons_of_mem f hg)) hvalues)
      rw [hvalue]
      exact encodeField_valueOf hslot (hrev f mem_cons_self)

theorem assigned_known {fields : List Field} {slots : List Bytes}
    (h : List.Forall₂ Slot fields slots) (hnodup : (fields.map Field.name).Nodup) :
    ∀ name ∈ (assigned fields slots .empty).keys, name ∈ fields.map Field.name := by
  intro name hname
  unfold Dict.keys at hname
  rw [assigned_items h hnodup fun g _ => not_mem_nil] at hname
  obtain ⟨item, hitem, rfl⟩ := mem_map.mp hname
  rw [Dict.empty, nil_append, ← map_uncurry_zip_eq_zipWith] at hitem
  obtain ⟨pair, hpair, rfl⟩ := mem_map.mp hitem
  exact mem_map_of_mem (of_mem_zip hpair).1

/-- **The codec is an inverse pair** on commands of fixed width whose calibrations can be undone. -/
theorem codec_inverse {fields : List Field} (hnodup : (fields.map Field.name).Nodup)
    (hrev : ∀ f ∈ fields, Reversible f) :
    (∀ args : Dict String EngValue, (∀ f ∈ fields, Representable f (argument args f)) →
      (∀ name ∈ args.keys, name ∈ fields.map Field.name) →
      ∃ data out, encodeArgs fields args false = .ok data ∧ decodeArgs fields data = .ok out ∧
        List.Forall₂ (fun f item => item.1 = f.name ∧ (argument args f).Same item.2)
          fields out.items ∧
        (∀ data', encodeArgs fields args true = .ok data' → data' = data) ∧
        ((∀ f ∈ fields, Valid f (argument args f)) → encodeArgs fields args true = .ok data)) ∧
    ∀ data out, decodeArgs fields data = .ok out → QuietData fields data →
      encodeArgs fields out false = .ok data ∧
        (∀ data', encodeArgs fields out true = .ok data' → data' = data) ∧
        ((∀ f ∈ fields, Valid f (argument out f)) → encodeArgs fields out true = .ok data) := by
  refine ⟨fun args hargs hknown => ?_, fun data out hdecode hquiet => ?_⟩
  · obtain ⟨slots, hslots, hsames, hwrittens⟩ := slots_of_representable hrev hargs
    have hfields := @encodeFields_wire fields slots args _ hnodup (fun _ _ => rfl) hwrittens
    have hencode := encodeArgs_of_fields hfields hknown
    refine ⟨wire fields slots, assigned fields slots .empty, hencode, decodeArgs_wire hslots, ?_,
      fun data' h => ?_, fun hvalid => ?_⟩
    · rw [assigned_items hslots hnodup fun g _ => List.not_mem_nil]
      exact values_forall₂ hsames
    · exact Except.ok.inj ((encodeArgs_validating h).symm.trans hencode)
    · exact encodeArgs_of_fields ((encodeFields_valid hnodup hvalid).trans hfields) hknown
  · obtain ⟨slots, hslots, rfl, rfl⟩ :=
      slots_of_decodeArgs (fun f hf => (hrev f hf).1) hquiet hdecode
    have harguments := argument_assigned hslots hnodup
    have hwrittens := written_of_slots hslots hrev harguments
    have hfields := @encodeFields_wire fields slots _ _ hnodup (fun _ _ => rfl) hwrittens
    have hknown := assigned_known hslots hnodup
    have hencode := encodeArgs_of_fields hfields hknown
    refine ⟨hencode, fun data' h => ?_, fun hvalid => ?_⟩
    · exact Except.ok.inj ((encodeArgs_validating h).symm.trans hencode)
    · exact encodeArgs_of_fields ((encodeFields_valid hnodup hvalid).trans hfields) hknown

/-- The set-point of the cooler, in hundredths of a kelvin. -/
def coolerSetpoint : Field where
  name := "setpoint"
  type := .uint16
  calibration := .linear (1 / 100) (-27315 / 100)
  range := some (-20, 0)
  rawRange := some (25315, 27315)
  default := some (-15)

/-- The cooler's default set-point, which is sent as 64 D7, and back. -/
theorem codec_inverse_setpoint :
    (∃ data out, encodeArgs [coolerSetpoint] .empty false = .ok data ∧
      decodeArgs [coolerSetpoint] data = .ok out ∧
      ∀ data', encodeArgs [coolerSetpoint] .empty true = .ok data' → data' = data) ∧
    ∃ out, decodeArgs [coolerSetpoint] [0x64, 0xD7] = .ok out ∧
      encodeArgs [coolerSetpoint] out false = .ok [0x64, 0xD7] := by
  have hrev : ∀ f ∈ [coolerSetpoint], Reversible f := by decide +kernel
  obtain ⟨hargs, hdata⟩ := @codec_inverse [coolerSetpoint] (by decide) hrev
  constructor
  · have hvalue : ∀ f ∈ [coolerSetpoint], Representable f (argument .empty f) := by
      intro f hf
      obtain rfl := List.mem_singleton.mp hf
      have hdefault : argument .empty coolerSetpoint =
          .number (engOfInt coolerSetpoint 25815) := by decide +kernel
      rw [hdefault]
      exact @representable_int coolerSetpoint 2 25815 rfl rfl (by decide)
    obtain ⟨data, out, hencode, hdecode, -, hsame, -⟩ := hargs .empty hvalue nofun
    exact ⟨data, out, hencode, hdecode, hsame⟩
  · refine ⟨_, rfl, (hdata _ _ rfl ?_).1⟩
    exact ⟨trivial, trivial⟩

/-- A square has no conversion back: 2 is decoded to 4, and 4 is not encoded. -/
theorem square_not_encoded :
    ∃ (f : Field) (out : Dict String EngValue), decodeArgs [f] [2] = .ok out ∧
      encodeArgs [f] out false = .error (.encode f.name .notReversible) :=
  ⟨{ name := "level", calibration := .polynomial [0, 0, 1] }, _, rfl, rfl⟩

end Commanding
