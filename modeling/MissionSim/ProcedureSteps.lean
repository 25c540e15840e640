import MissionSim.Commanding
import Mathlib.Data.List.DropRight

/-!
# The steps of ground procedures

A step that is a command comes in one of several encodings: service and subtype with packed
octets, a function with parameters, the identifier of an object, a named command with
engineering arguments.  `executeCommand` makes the telecommand of a step.

A step is its keys that this or the conversion to the canonical form reads; a telecommand is
made of nothing else.  Steps of other kinds than a command make none.
-/

namespace Procedures

open Octets Binary32 Python Commanding List

/-! ### Values -/

/-- A value in a step; `other` is a list or a dictionary. -/
inductive Scalar where
  | null
  | bool (b : Bool)
  | int (n : Int)
  | float (x : FloatValue)
  | text (s : String)
  | other
  deriving DecidableEq, Repr

/-- White space. -/
def isSpace (c : Char) : Bool :=
  c.isWhitespace || [0x0B, 0x0C, 0x1C, 0x1D, 0x1E, 0x1F].contains c.toNat

/-- `text.strip()`. -/
def strip (cs : List Char) : List Char := (cs.dropWhile isSpace).rdropWhile isSpace

/-- `text.lower().startswith("0x")`. -/
def hexPrefixed : List Char → Bool
  | '0' :: 'x' :: _ | '0' :: 'X' :: _ => true
  | _ => false

/-- The digits behind the prefix that base sixteen allows. -/
def unprefixed : List Char → List Char
  | '0' :: 'x' :: '_' :: cs | '0' :: 'X' :: '_' :: cs => cs
  | '0' :: 'x' :: cs | '0' :: 'X' :: cs => cs
  | cs => cs

/-- A number without white space around it. -/
def intOfStripped (base : Nat) (cs : List Char) : Option Int :=
  let digits := if base = 16 then unprefixed (signed cs).2 else (signed cs).2
  (digitRun base digits).map fun run => if (signed cs).1 then -run.1 else run.1

/-- `int(text, base)`. -/
def intOfText (base : Nat) (cs : List Char) : Option Int := intOfStripped base (strip cs)

/-- `int(value)`. -/
def Scalar.toInt : Scalar → Except PyError Int
  | .bool b => .ok b.toNat
  | .int n => .ok n
  | .float x => (Value.float x).toInt
  | .text s =>
      match intOfText 10 s.toList with
      | some n => .ok n
      | none => .error .valueError
  | .null | .other => .error .typeError

/-- `float(value)`. -/
def Scalar.toFloat : Scalar → Except PyError FloatValue
  | .bool b => (Value.int b.toNat).toFloat
  | .int n => (Value.int n).toFloat
  | .float x => .ok x
  | .text s => do
      match ← floatOfText s with
      | .number q => pure (quotient q.num q.den)
      | .float x => pure x
      | .text _ => throw .valueError
  | .null | .other => .error .typeError

/-- `_as_int(value)`: the three forms of a number; an infinity raises. -/
def asInt : Scalar → Except PyError (Option Int)
  | .int n => .ok (some n)
  | .text s =>
      let text := strip s.toList
      .ok (if hexPrefixed text then intOfText 16 text else intOfText 10 text)
  | .float x =>
      match (Value.float x).toInt with
      | .error .overflowError => .error .overflowError
      | .error _ => .ok none
      | .ok n => .ok (some n)
  | .null | .bool _ | .other => .ok none

/-- `_as_int(raw.get(key))`. -/
def asIntAt : Option Scalar → Except PyError (Option Int)
  | some value => asInt value
  | none => .ok none

/-- The kinds of step. -/
inductive StepType where
  | command | wait | tlmCheck | goNogo | note
  deriving DecidableEq, Repr

/-- `STEP_TYPES`. -/
def StepType.ofText : String → Option StepType
  | "command" => some .command
  | "wait" => some .wait
  | "tlm_check" => some .tlmCheck
  | "go_nogo" => some .goNogo
  | "note" => some .note
  | _ => none

/-- The keys of a step that are read to make its telecommand; of some only whether they are
there.  A `data_hex` that is `None` is as good as none. -/
structure Step where
  type : String := ""
  hasWaitS : Bool := false
  hasWaitFor : Bool := false
  hasText : Bool := false
  service : Option Scalar := none
  subtype : Option Scalar := none
  dataHex : Option String := none
  command : Option String := none
  args : Option (Dict String EngValue) := none
  funcId : Option Scalar := none
  params : Option (List Scalar) := none
  sid : Option Scalar := none
  storeId : Option Scalar := none
  address : Option Scalar := none
  data : Option Scalar := none
  paramId : Option Scalar := none
  value : Option Scalar := none

/-! ### The catalogue -/

/-- A command of the catalogue. -/
structure Command where
  name : String
  aliases : List String := []
  service : Int
  subtype : Int
  funcId : Option Int := none
  fields : List Field := []

/-- `Catalog.by_name`: a name takes its entry over from an alias, an alias does not. -/
def byName (catalog : List Command) : Dict String Command :=
  catalog.foldl (fun index c =>
    c.aliases.foldl (fun index a => if index.contains a then index else index.set a c)
      (index.set c.name c)) .empty

/-- `Catalog.by_func`: the first command of its service, subtype and function. -/
def byFunc (catalog : List Command) (service subtype : Int) (funcId : Option Int) :
    Option Command :=
  catalog.find? fun c => c.service = service ∧ c.subtype = subtype ∧ c.funcId = funcId

/-- `n & 0xFF` as an octet. -/
def octet (n : Int) : UInt8 := UInt8.ofNat (n % 256).toNat

/-- `encode(command, args)`. -/
def encode (c : Command) (args : Dict String EngValue) : Except CodecError Bytes := do
  let body ← encodeArgs c.fields args true
  match c.funcId with
  | some n => pure (if c.service = 8 ∧ c.subtype = 1 then octet n :: body else body)
  | none => pure body

/-! ### The telecommand of a step -/

/-- The function identifier of a step, before it is masked. -/
def funcIdOf : Scalar → Except PyError Int
  | .text s =>
      let base := if "0x".toList.isPrefixOf s.toList then 16 else 10
      match intOfText base s.toList with
      | some n => .ok n
      | none => .error .valueError
  | .int n => .ok n
  | .bool b => .ok b.toNat
  | .null | .float _ | .other => .error .typeError

/-- The function identifier a command is looked up with: numbers that are equal are one key. -/
def funcKey : Option Scalar → Except PyError (Option Int)
  | none | some .null => .ok none
  | some (.float x) => do
      let n ← (Value.float x).toInt
      if FloatValue.ofInt n = some x then pure (some n) else throw (.other "KeyError")
  | some value => some <$> funcIdOf value

/-- The command the arguments of a step are encoded for. -/
def commandOf (catalog : List Command) (s : Step) : Except PyError (Option Command) :=
  match s.command with
  | some (name : String) =>
      if name = "" then byKey else .ok ((byName catalog).get? name)
  | none => byKey
where
  byKey : Except PyError (Option Command) := do
    let service ← (s.service.getD (.int 8)).toInt
    let subtype ← (s.subtype.getD (.int 1)).toInt
    let funcId ← funcKey s.funcId
    pure (byFunc catalog service subtype funcId)

/-- What the catalogue encodes of the arguments of a step; an exception is logged, and there is
nothing. -/
def encodeNamed (catalog : List Command) (s : Step) : Option Bytes :=
  match s.args with
  | some args =>
      if s.service.isSome ∨ s.command.isSome then
        match commandOf catalog s with
        | .ok (some c) => (encode c args).toOption
        | _ => none
      else none
  | none => none

/-- `bytes.fromhex(text)`: white space between the octets is skipped. -/
def octetsOfHex : List Char → Except PyError Bytes
  | [] => .ok []
  | [c] => if isSpace c then .ok [] else .error .valueError
  | c :: d :: rest =>
      if isSpace c then octetsOfHex (d :: rest)
      else
        match hexDigit c, hexDigit d with
        | some h, some l => (UInt8.ofNat (16 * h + l) :: ·) <$> octetsOfHex rest
        | _, _ => .error .valueError

/-- `bytes.fromhex(value)`. -/
def Scalar.octets : Scalar → Except PyError Bytes
  | .text s => octetsOfHex s.toList
  | _ => .error .typeError

/-- A function and its parameters. -/
def packFunction (fid : Scalar) (params : List Scalar) : Except PyError Bytes := do
  let n ← funcIdOf fid
  let numbers ← params.mapM Scalar.toInt
  pure (octet n :: numbers.map octet)

/-- The octets of a key that may be missing. -/
def packOptional (pack : Scalar → Except PyError Bytes) : Option Scalar → Except PyError Bytes
  | some value => pack value
  | none => .ok []

/-- The keys a step has without a function: the first that is there. -/
def packKeys (s : Step) : Except PyError Bytes :=
  match s.sid, s.storeId, s.address, s.paramId with
  | some sid, _, _, _ => do packUnsigned 2 (← sid.toInt)
  | none, some storeId, _, _ => do packUnsigned 2 (← storeId.toInt)
  | none, none, some address, _ => do
      let octets ← packUnsigned 4 (← address.toInt)
      let more ← packOptional Scalar.octets s.data
      pure (octets ++ more)
  | none, none, none, some paramId => do
      let octets ← packUnsigned 2 (← paramId.toInt)
      let more ← packOptional (fun value => do packFloat (← value.toFloat)) s.value
      pure (octets ++ more)
  | none, none, none, none => .ok []

variable {v : Scalar}

theorem packKeys_sid {s : Step} (h : s.sid = some v) :
    packKeys s = v.toInt >>= fun n => packUnsigned 2 n := by
  unfold packKeys
  rw [h]

theorem packKeys_storeId {s : Step} (hsid : s.sid = none) (h : s.storeId = some v) :
    packKeys s = v.toInt >>= fun n => packUnsigned 2 n := by
  unfold packKeys
  rw [hsid, h]

theorem packKeys_address {s : Step} (hsid : s.sid = none) (hstore : s.storeId = none)
    (h : s.address = some v) :
    packKeys s = v.toInt >>= fun n => packUnsigned 4 n >>= fun octets =>
      packOptional Scalar.octets s.data >>= fun more => pure (octets ++ more) := by
  unfold packKeys
  rw [hsid, hstore, h]

theorem packKeys_paramId {s : Step} (hsid : s.sid = none) (hstore : s.storeId = none)
    (haddress : s.address = none) (h : s.paramId = some v) :
    packKeys s = v.toInt >>= fun n => packUnsigned 2 n >>= fun octets =>
      packOptional (fun value => value.toFloat >>= packFloat) s.value >>= fun more =>
        pure (octets ++ more) := by
  unfold packKeys
  rw [hsid, hstore, haddress, h]

/-- The positional packing of `_build_data_hex`. -/
def packPositional (s : Step) : Except PyError Bytes :=
  match s.funcId with
  | some fid => packFunction fid (s.params.getD [])
  | none => packKeys s

/-- `_build_data_hex(step)`. -/
def buildDataHex (catalog : List Command) (s : Step) : Except PyError String :=
  match encodeNamed catalog s with
  | some octets => .ok (hexText octets)
  | none => hexText <$> packPositional s

/-- What the runner hands over to be sent. -/
structure Telecommand where
  service : Int
  subtype : Int
  dataHex : String
  deriving DecidableEq, Repr

/-- `int(step[key])`. -/
def intAt : Option Scalar → Except PyError Int
  | some value => value.toInt
  | none => .error (.other "KeyError")

/-- The data field of a step: as it is given, or built. -/
def dataFieldOf (catalog : List Command) (s : Step) : Except PyError String :=
  if s.dataHex.getD "" = "" then buildDataHex catalog s else pure (s.dataHex.getD "")

/-- `_execute_command(step)` up to the sending. -/
def executeCommand (catalog : List Command) (s : Step) : Except PyError Telecommand := do
  let service ← intAt s.service
  let subtype ← intAt s.subtype
  let dataHex ← dataFieldOf catalog s
  pure { service := service, subtype := subtype, dataHex := dataHex }

/-- Whether `_execute_step(step)` takes the step for a command. -/
def Step.isCommand (s : Step) : Bool :=
  s.type = "command" ||
    !(["wait", "go_nogo", "tlm_check"].contains s.type) && !s.hasWaitS && !s.hasWaitFor &&
      s.service.isSome

/-- The telecommand of a step that is one for the runner. -/
def telecommandOf (catalog : List Command) (s : Step) : Except PyError (Option Telecommand) :=
  if s.isCommand then some <$> executeCommand catalog s else pure none

/-! ### Texts of numbers -/

theorem rdropWhile_cons {p : Char → Bool} {c : Char} (h : p c = false) (cs : List Char) :
    (c :: cs).rdropWhile p = c :: cs.rdropWhile p := by
  unfold rdropWhile
  rw [reverse_cons, dropWhile_append]
  split_ifs with hnil
  · have hempty : cs.reverse.dropWhile p = [] := isEmpty_iff.mp hnil
    simp [hempty, h]
  · simp

theorem strip_cons {c : Char} (h : isSpace c = false) (cs : List Char) :
    strip (c :: cs) = c :: cs.rdropWhile isSpace := by
  unfold strip
  rw [dropWhile_cons_of_neg (by simp [h]), rdropWhile_cons h]

theorem strip_strip (cs : List Char) : strip (strip cs) = strip cs := by
  cases hdrop : cs.dropWhile isSpace with
  | nil =>
      have hnil : strip cs = [] := by rw [strip, hdrop, rdropWhile_nil]
      rw [hnil]
      rfl
  | cons c rest =>
      have hc : isSpace c = false := by
        have hhead := head_dropWhile_not isSpace (by rw [hdrop]; exact cons_ne_nil c rest)
        simpa [hdrop] using hhead
      have hstrip : strip cs = c :: rest.rdropWhile isSpace := by
        rw [strip, hdrop, rdropWhile_cons hc]
      rw [hstrip, strip_cons hc, rdropWhile_idempotent]

theorem intOfText_strip (base : Nat) (cs : List Char) :
    intOfText base (strip cs) = intOfText base cs := by
  rw [intOfText, strip_strip, intOfText]

/-- A decimal number has no prefix. -/
theorem decimal_unprefixed {cs : List Char} {n : Int} (h : intOfText 10 cs = some n) :
    hexPrefixed (strip cs) = false := by
  unfold intOfText at h
  generalize strip cs = text at h
  by_contra hprefixed
  unfold hexPrefixed at hprefixed
  split at hprefixed
  · cases h
  · cases h
  · exact hprefixed rfl

/-- White space behind a number does not hide its prefix. -/
theorem hexPrefixed_strip {cs : List Char} (h : "0x".toList.isPrefixOf cs = true) :
    hexPrefixed (strip cs) = true := by
  obtain ⟨rest, rfl⟩ := isPrefixOf_iff_prefix.mp h
  show hexPrefixed (strip ('0' :: 'x' :: rest)) = true
  rw [strip_cons (by decide), rdropWhile_cons (by decide)]
  rfl

/-- A number that both conversions read is the same for both. -/
theorem toInt_eq_asInt {n m : Int} (h : v.toInt = .ok n) (has : asInt v = .ok (some m)) :
    n = m := by
  cases v with
  | null | bool | other => cases has
  | int k => exact (Except.ok.inj h).symm.trans (Option.some.inj (Except.ok.inj has))
  | float x =>
      dsimp only [Scalar.toInt] at h
      dsimp only [asInt] at has
      rw [h] at has
      exact Option.some.inj (Except.ok.inj has)
  | text s =>
      dsimp only [Scalar.toInt] at h
      cases hdecimal : intOfText 10 s.toList with
      | none =>
          rw [hdecimal] at h
          cases h
      | some k =>
          rw [hdecimal] at h
          have hread := Except.ok.inj has
          rw [if_neg (by simp [decimal_unprefixed hdecimal]), intOfText_strip, hdecimal] at hread
          exact (Except.ok.inj h).symm.trans (Option.some.inj hread)

/-- A function identifier that the runner reads is the one the schema reads. -/
theorem funcIdOf_eq_asInt {n m : Int} (h : funcIdOf v = .ok n) (has : asInt v = .ok (some m)) :
    n = m := by
  cases v with
  | null | bool | other | float => first | cases has | cases h
  | int k => exact (Except.ok.inj h).symm.trans (Option.some.inj (Except.ok.inj has))
  | text s =>
      have hread := Except.ok.inj has
      unfold funcIdOf at h
      dsimp only at h
      by_cases hprefix : "0x".toList.isPrefixOf s.toList = true
      · rw [if_pos hprefix] at h
        rw [if_pos (hexPrefixed_strip hprefix), intOfText_strip] at hread
        rw [hread] at h
        exact (Except.ok.inj h).symm
      · rw [if_neg hprefix] at h
        cases hdecimal : intOfText 10 s.toList with
        | none =>
            rw [hdecimal] at h
            cases h
        | some k =>
            rw [hdecimal] at h
            rw [if_neg (by simp [decimal_unprefixed hdecimal]), intOfText_strip, hdecimal] at hread
            exact (Except.ok.inj h).symm.trans (Option.some.inj hread)

/-! ### Texts of octets -/

theorem digitChar_spec {d : Nat} (h : d < 16) :
    hexDigit (Nat.digitChar d) = some d ∧ isSpace (Nat.digitChar d) = false := by
  revert h
  revert d
  decide

/-- The octets that are written are read. -/
theorem octetsOfHex_hexText (bs : Bytes) : octetsOfHex (hexText bs).toList = .ok bs := by
  unfold hexText
  rw [String.toList_ofList]
  induction bs with
  | nil => rfl
  | cons octet rest ih =>
      have hoctet := octet.toNat_lt
      obtain ⟨hhigh, hspace⟩ := @digitChar_spec (octet.toNat / 16) (by omega)
      obtain ⟨hlow, -⟩ := @digitChar_spec (octet.toNat % 16) (by omega)
      have hvalue : UInt8.ofNat (16 * (octet.toNat / 16) + octet.toNat % 16) = octet := by
        rw [Nat.div_add_mod]
        exact UInt8.ofNat_toNat
      rw [flatMap_cons, cons_append, cons_append, nil_append, octetsOfHex]
      rw [if_neg (by simp [hspace]), hhigh, hlow]
      dsimp only
      rw [ih, hvalue]
      rfl

theorem hexText_injective {bs bs' : Bytes} (h : hexText bs = hexText bs') : bs = bs' :=
  Except.ok.inj ((octetsOfHex_hexText bs).symm.trans (h ▸ octetsOfHex_hexText bs'))

theorem space_not_mem_hexText (bs : Bytes) : ' ' ∉ (hexText bs).toList := by
  unfold hexText
  rw [String.toList_ofList]
  intro hmem
  obtain ⟨octet, -, hchar⟩ := mem_flatMap.mp hmem
  have hoctet := octet.toNat_lt
  rcases mem_pair.mp hchar with heq | heq
  · have hspec := (@digitChar_spec (octet.toNat / 16) (by omega)).2
    rw [← heq] at hspec
    cases hspec
  · have hspec := (@digitChar_spec (octet.toNat % 16) (by omega)).2
    rw [← heq] at hspec
    cases hspec

end Procedures
