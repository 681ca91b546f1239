import ConfigKeys.Text.Utf8

/-!
# Values of keys

A value is a sequence of bytes with a flag that tells binary values from texts.

## Main definitions

* `Value` — bytes and flag.
* `Value.ofText`, `Value.text` — the value of a text, and the text of a value.
* `Value.size` — the size that hosts are told.
-/

namespace ConfigKeys

/-- The value of a key. -/
@[ext] structure Value where
  /-- The stored bytes. -/
  bytes : List UInt8 := []
  /-- Whether the bytes were stored as such, and not as a text. -/
  binary : Bool := false
  deriving DecidableEq, Inhabited

namespace Value

/-- The value of a text. -/
def ofText (text : String) : Value := ⟨Utf8.encode text.toList, false⟩

/-- A text in some other encoding than UTF-8. -/
def encoded (bytes : List UInt8) : Value := ⟨bytes, false⟩

/-- A value of bytes. -/
def ofBytes (bytes : List UInt8) : Value := ⟨bytes, true⟩

/-- The value read as UTF-8; what is malformed is replaced. -/
def text (v : Value) : String := .ofList (Utf8.decodeLossy v.bytes)

/-- The size that hosts are told: a text counts one terminator. -/
def size (v : Value) : Nat := if v.binary then v.bytes.length else v.bytes.length + 1

end Value

end ConfigKeys
