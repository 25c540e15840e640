import MissionSim.PythonFloats

/-!
# Objects of the language of the source

A command is a dictionary of objects of any type, and a model looks at an object with the built-in
functions only.  Of those, a conversion may raise.
-/

namespace Python

open Binary32

/-- What the built-in functions make of an object. -/
class Object (V : Type) where
  /-- `int(v)`. -/
  toInt : V → Except PyError Int
  /-- `float(v)`. -/
  toFloat : V → Except PyError FloatValue
  /-- `bool(v)`. -/
  toBool : V → Bool
  /-- The number it is, where `isinstance(v, int)`. -/
  asInt : V → Option Int
  /-- The number it is, where `isinstance(v, float)`. -/
  asFloat : V → Option FloatValue
  /-- The truth value it is, where `isinstance(v, bool)`. -/
  asBool : V → Option Bool
  /-- The text it is, where `isinstance(v, str)`. -/
  asText : V → Option String
  /-- `str(v)`. -/
  str : V → String
  /-- `v.lower()`. -/
  lower : V → Except PyError String
  /-- `str(v).upper()`. -/
  upper : V → String
  /-- `list(v)`. -/
  toList : V → Except PyError (List V)
  /-- `len(v)`. -/
  length : V → Except PyError Nat
  /-- `v is None`. -/
  isNone : V → Bool
  /-- It may be the key of a dictionary. -/
  hashable : V → Bool

/-- Simple objects.  A word is a text that is no number. -/
inductive Scalar where
  | bool (b : Bool)
  | int (n : Int)
  | float (x : FloatValue)
  | word (s : String)
  deriving DecidableEq

/-- The number that a simple object is. -/
def Scalar.number : Scalar → Option Value
  | .bool b => some (.int b.toNat)
  | .int n => some (.int n)
  | .float x => some (.float x)
  | .word _ => none

/-- A conversion of a simple object, which a word does not survive. -/
def Scalar.convert {α : Type} (f : Value → Except PyError α) (v : Scalar) : Except PyError α :=
  v.number.elim (.error .valueError) f

instance : Object Scalar where
  toInt := Scalar.convert Value.toInt
  toFloat := Scalar.convert Value.toFloat
  toBool
    | .bool b => b
    | .int n => n != 0
    | .float x => truthy x
    | .word s => s != ""
  asInt
    | .bool b => some b.toNat
    | .int n => some n
    | _ => none
  asFloat
    | .float x => some x
    | _ => none
  asBool
    | .bool b => some b
    | _ => none
  asText
    | .word s => some s
    | _ => none
  str
    | .bool b => if b then "True" else "False"
    | .int n => toString n
    | .float _ => "<float>"
    | .word s => s
  lower
    | .word s => .ok s.toLower
    | _ => .error (.other "no attribute 'lower'")
  upper
    | .word s => s.toUpper
    | _ => "<number>"
  toList
    | .word s => .ok (s.toList.map fun c => .word c.toString)
    | _ => .error .typeError
  length
    | .word s => .ok s.length
    | _ => .error .typeError
  isNone := fun _ => false
  hashable := fun _ => true

/-- A command dictionary. -/
abbrev Arguments (V : Type) := Dict String V

variable {V : Type} [Object V]

/-- The name of the command, where it is a text. -/
def Arguments.command (cmd : Arguments V) : Option String :=
  (cmd.get? "command").bind Object.asText

/-- `int(cmd.get(key, default))`. -/
def Arguments.int (cmd : Arguments V) (key : String) (default : Int) : Except PyError Int :=
  (cmd.get? key).elim (.ok default) Object.toInt

/-- `float(cmd.get(key, default))`. -/
def Arguments.float (cmd : Arguments V) (key : String) (default : FloatValue) :
    Except PyError FloatValue :=
  (cmd.get? key).elim (.ok default) Object.toFloat

/-- `bool(cmd.get(key, default))`. -/
def Arguments.bool (cmd : Arguments V) (key : String) (default : Bool) : Bool :=
  (cmd.get? key).elim default Object.toBool

end Python
