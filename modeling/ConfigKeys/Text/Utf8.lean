/-!
# UTF-8

Texts as byte sequences.  Decoding cuts a sequence into *units*: each unit is a character, or a
malformed part that is as long as a beginning of some character could be.  Strict decoding wants
every unit to be a character; lossy decoding puts U+FFFD in the place of each malformed unit.

## Main definitions

* `Utf8.encode` — the bytes of a text.
* `Utf8.units` — the units of a byte sequence.
* `Utf8.decode?`, `Utf8.decodeLossy` — strict and lossy decoding.
* `unitsOf` — cutting a sequence into units with any reader of one unit.
-/

namespace ConfigKeys

/-- A reader of one unit: given the first byte of a sequence and the rest, it answers with the
character that was read (`none` for a malformed unit) and the bytes after the unit. -/
abbrev UnitReader := UInt8 → List UInt8 → Option Char × List UInt8

/-- Cuts at most `n` units off a sequence; `acc` holds those already cut, the last one first. -/
def unitsOfUpTo (read : UnitReader) : Nat → List (Option Char) → List UInt8 → List (Option Char)
  | 0, acc, _ => acc.reverse
  | _ + 1, acc, [] => acc.reverse
  | n + 1, acc, b :: rest => unitsOfUpTo read n ((read b rest).1 :: acc) (read b rest).2

/-- The units of a byte sequence.  A unit takes at least one byte, so the length of the sequence
bounds their number. -/
def unitsOf (read : UnitReader) (bytes : List UInt8) : List (Option Char) :=
  unitsOfUpTo read bytes.length [] bytes

/-- The text that units spell, when every one of them is a character. -/
def spelled? (units : List (Option Char)) : Option (List Char) :=
  if units.all Option.isSome then some (units.filterMap id) else none

namespace Utf8

/-- The bytes of one character. -/
def encodeChar (c : Char) : List UInt8 :=
  let v := c.toNat
  if v < 0x80 then [.ofNat v]
  else if v < 0x800 then [.ofNat (0xC0 + v / 0x40), .ofNat (0x80 + v % 0x40)]
  else if v < 0x10000 then
    [.ofNat (0xE0 + v / 0x1000), .ofNat (0x80 + v / 0x40 % 0x40), .ofNat (0x80 + v % 0x40)]
  else
    [.ofNat (0xF0 + v / 0x40000), .ofNat (0x80 + v / 0x1000 % 0x40),
      .ofNat (0x80 + v / 0x40 % 0x40), .ofNat (0x80 + v % 0x40)]

/-- The bytes of a text. -/
def encode (text : List Char) : List UInt8 := text.flatMap encodeChar

/-- Reads `n` continuation bytes after the value `v` of the bytes before them.  The next one lies
between `lo` and `hi`; the ones after it may be any continuation byte. -/
def readTail : Nat → Nat → Nat → Nat → List UInt8 → Option Char × List UInt8
  | 0, v, _, _, rest => (some (Char.ofNat v), rest)
  | _ + 1, _, _, _, [] => (none, [])
  | n + 1, v, lo, hi, b :: rest =>
    if lo ≤ b.toNat ∧ b.toNat ≤ hi then readTail n (v * 0x40 + b.toNat % 0x40) 0x80 0xBF rest
    else (none, b :: rest)

/-- Reads one unit.  The bounds on the second byte rule out spellings that are longer than they
need be, surrogates, and values above U+10FFFF. -/
def readUnit : UnitReader := fun b rest =>
  let v := b.toNat
  if v < 0x80 then (some (Char.ofNat v), rest)
  else if v < 0xC2 then (none, rest)
  else if v < 0xE0 then readTail 1 (v - 0xC0) 0x80 0xBF rest
  else if v = 0xE0 then readTail 2 0 0xA0 0xBF rest
  else if v = 0xED then readTail 2 0xD 0x80 0x9F rest
  else if v < 0xF0 then readTail 2 (v - 0xE0) 0x80 0xBF rest
  else if v = 0xF0 then readTail 3 0 0x90 0xBF rest
  else if v < 0xF4 then readTail 3 (v - 0xF0) 0x80 0xBF rest
  else if v = 0xF4 then readTail 3 4 0x80 0x8F rest
  else (none, rest)

/-- The units of a byte sequence. -/
def units (bytes : List UInt8) : List (Option Char) := unitsOf readUnit bytes

/-- The text of a byte sequence, if it holds no malformed part. -/
def decode? (bytes : List UInt8) : Option (List Char) := spelled? (units bytes)

/-- The character that stands for a malformed part. -/
def replacement : Char := '\uFFFD'

/-- The text of a byte sequence, with `replacement` for every malformed part. -/
def decodeLossy (bytes : List UInt8) : List Char := (units bytes).map (·.getD replacement)

end Utf8

end ConfigKeys
