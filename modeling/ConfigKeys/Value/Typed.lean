import ConfigKeys.Name.Fault
import ConfigKeys.Number.Binary
import ConfigKeys.Value.Basic

/-!
# Typed values

Values are kept as texts; a type says which texts it reads and how it writes.

## Main definitions

* `ValueType` — the types that a value can be read as.
* `TypedValue` — a value of one of them, and `TypedValue.text`, the text it is kept as.
* `ValueType.read?` — the value that a text stands for.
* `Value.get` — a key's value read as a type.
-/

namespace ConfigKeys

/-- The text of truth. -/
def trueToken : String := "true"

/-- The text of falsehood. -/
def falseToken : String := "false"

/-- The number of bits of a signed integer. -/
inductive IntWidth
  | bits8
  | bits16
  | bits32
  | bits64
  deriving DecidableEq

namespace IntWidth

/-- The number of bits. -/
def bits : IntWidth → Nat
  | .bits8 => 8
  | .bits16 => 16
  | .bits32 => 32
  | .bits64 => 64

/-- Whether a number fits into two's complement of this width. -/
def admits (w : IntWidth) (n : Int) : Bool :=
  -(twoTo (w.bits - 1) : Nat) ≤ n && n ≤ (twoTo (w.bits - 1) : Nat) - 1

end IntWidth

/-- The two floating-point formats that values come in. -/
inductive FloatKind
  | single
  | double
  deriving DecidableEq

/-- The format of a kind. -/
def FloatKind.format : FloatKind → BinaryFormat
  | .single => .single
  | .double => .double

/-- A type that a value can be read as. -/
inductive ValueType
  | boolean
  | integer (width : IntWidth)
  | float (kind : FloatKind)
  deriving DecidableEq

/-- The name of a type in error texts. -/
def ValueType.title : ValueType → String
  | .boolean => "boolean"
  | .integer .bits8 => "i8"
  | .integer .bits16 => "i16"
  | .integer .bits32 => "i32"
  | .integer .bits64 => "i64"
  | .float .single => "f32"
  | .float .double => "f64"

/-- A value of one of the types. -/
inductive TypedValue
  | boolean (value : Bool)
  | integer (width : IntWidth) (value : Int)
  /-- A floating-point number, as its bit pattern. -/
  | float (kind : FloatKind) (bits : Nat)
  deriving DecidableEq

/-- The text that a value is kept as. -/
def TypedValue.text : TypedValue → String
  | .boolean value => if value then trueToken else falseToken
  | .integer _ value => toString value
  | .float kind bits => kind.format.write bits

/-- The value that a text stands for.  Every text is a boolean: the one for truth is true, and any
other is false. -/
def ValueType.read? (t : ValueType) (text : String) : Option TypedValue :=
  match t with
  | .boolean => some (.boolean (text = trueToken))
  | .integer width => do
    let n ← Decimal.integer? text.toList
    if width.admits n then some (.integer width n) else none
  | .float kind => (kind.format.read? text.toList).map (.float kind)

/-- A value read as a type. -/
def Value.get (v : Value) (t : ValueType) : Except KeyError TypedValue :=
  match t.read? v.text with
  | some value => .ok value
  | none => .error (.conversion t.title v.text)

end ConfigKeys
