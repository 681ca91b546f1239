import ConfigKeys.Text.Utf8

/-!
# Codings

A coding turns texts into bytes, and cuts bytes into units that are characters or malformed.
Conversion is strict in both directions: one malformed unit, or one character without bytes, and
there is no result.  Most codings go character by character, whatever stands before.

## Main definitions

* `Coding` — whole texts, with `Coding.decode?`.
* `UnitCoding` — a reader of one unit and a writer of one character, with `UnitCoding.coding`.
* `encodeWith?` — a text written character by character.
* `Coding.utf16`, `Coding.replacement` — codings that are only read.
* `UnitCoding.utf8`, `UnitCoding.ofBytes`, `UnitCoding.userDefined` — simple codings.
* `Grid` — characters in rows of equal width, and their numbers.
-/

namespace ConfigKeys

/-- How texts are written as bytes. -/
structure Coding where
  /-- The units of a byte sequence: its characters, with `none` for each malformed part. -/
  units : List UInt8 → List (Option Char)
  /-- The bytes of a text of which every character has some. -/
  encode? : List Char → Option (List UInt8)

namespace Coding

/-- The text of a byte sequence that holds no malformed unit. -/
def decode? (c : Coding) (bytes : List UInt8) : Option (List Char) := spelled? (c.units bytes)

end Coding

/-- The bytes of a text of which every character has some, written one after another. -/
def encodeWith? (write? : Char → Option (List UInt8)) (text : List Char) : Option (List UInt8) :=
  let written := text.map write?
  if written.all Option.isSome then some (written.flatMap (·.getD [])) else none

/-- How characters are written as bytes, one at a time. -/
structure UnitCoding where
  /-- Reads one unit. -/
  read : UnitReader
  /-- The bytes of a character, if it has any. -/
  write? : Char → Option (List UInt8)

namespace UnitCoding

/-- The bytes of a text of which every character has some. -/
def encode? (c : UnitCoding) (text : List Char) : Option (List UInt8) := encodeWith? c.write? text

/-- The coding of texts that goes character by character. -/
def coding (c : UnitCoding) : Coding := ⟨unitsOf c.read, c.encode?⟩

/-- Every character is written in UTF-8. -/
def utf8 : UnitCoding := ⟨Utf8.readUnit, fun c => some (Utf8.encodeChar c)⟩

/-- Every unit is one byte. -/
def ofBytes (char? : UInt8 → Option Char) (byte? : Char → Option UInt8) : UnitCoding :=
  ⟨fun b rest => (char? b, rest), fun c => (byte? c).map ([·])⟩

/-- The byte of an ASCII character. -/
def asciiByte? (c : Char) : Option UInt8 := if c.toNat < 0x80 then some (.ofNat c.toNat) else none

/-- ASCII, and the bytes from `0x80` on for private characters from U+F780 on. -/
def userDefined : UnitCoding :=
  ofBytes
    (fun b => some (.ofNat (if b.toNat < 0x80 then b.toNat else 0xF700 + b.toNat)))
    (fun c =>
      if 0xF780 ≤ c.toNat ∧ c.toNat ≤ 0xF7FF then some (.ofNat (c.toNat - 0xF700))
      else asciiByte? c)

end UnitCoding

namespace Coding

/-- The number of two bytes, of which the first is the high one if `bigEndian`. -/
def codeUnit (bigEndian : Bool) (a b : UInt8) : Nat :=
  if bigEndian then a.toNat * 0x100 + b.toNat else b.toNat * 0x100 + a.toNat

/-- The units of a byte sequence in UTF-16: two bytes for each character of the basic plane, and two
surrogates of two bytes for any other. -/
def utf16Units (bigEndian : Bool) : List UInt8 → List (Option Char)
  | [] => []
  | [_] => [none]
  | a :: b :: rest =>
    let code := codeUnit bigEndian a b
    if 0xD800 ≤ code ∧ code < 0xDC00 then
      match rest with
      | c :: d :: rest =>
        let low := codeUnit bigEndian c d
        if 0xDC00 ≤ low ∧ low < 0xE000 then
          some (.ofNat (0x10000 + (code - 0xD800) * 0x400 + (low - 0xDC00)))
            :: utf16Units bigEndian rest
        else none :: utf16Units bigEndian (c :: d :: rest)
      | _ => [none]
    else if 0xDC00 ≤ code ∧ code < 0xE000 then none :: utf16Units bigEndian rest
    else some (.ofNat code) :: utf16Units bigEndian rest

/-- UTF-16.  Texts are written in UTF-8 instead. -/
def utf16 (bigEndian : Bool) : Coding := ⟨utf16Units bigEndian, UnitCoding.utf8.encode?⟩

/-- A coding whose bytes are malformed as a whole.  Texts are written in UTF-8 instead. -/
def replacement : Coding :=
  ⟨fun bytes => if bytes.isEmpty then [] else [none], UnitCoding.utf8.encode?⟩

end Coding

/-- Rows of cells; a blank is an empty cell, and so is each cell missing at the end of a row. -/
structure Grid where
  /-- The number of cells of a row. -/
  width : Nat
  /-- The rows. -/
  rows : List String

namespace Grid

/-- The character in the cell of a number, where cells are numbered row by row. -/
def char? (g : Grid) (cell : Nat) : Option Char :=
  ((g.rows[cell / g.width]?).bind fun row => row.toList[cell % g.width]?).filter (· != ' ')

/-- The first cell with a character, among rows of which the first one begins with cell `cell`. -/
def cellFrom? (width : Nat) (c : Char) : Nat → List String → Option Nat
  | _, [] => none
  | cell, row :: rest =>
    match row.toList.idxOf? c with
    | some i => some (cell + i)
    | none => cellFrom? width c (cell + width) rest

/-- The first cell with a character. -/
def cell? (g : Grid) (c : Char) : Option Nat :=
  if c = ' ' then none else cellFrom? g.width c 0 g.rows

end Grid

end ConfigKeys
