import ConfigKeys.Charset.Big5
import ConfigKeys.Charset.Coding
import ConfigKeys.Charset.Gb18030

/-!
# The Chinese charsets

GBK and GB 18030 read the same byte sequences: ASCII in one byte, the cells of a grid in two, and all
other characters in four bytes, counted in order.  GBK writes no more than two bytes, and the euro
sign in one.  Big5 has ASCII and a grid as well, with four cells that hold two characters each.

## Main definitions

* `UnitCoding.gbk`, `UnitCoding.gb18030`, `Coding.big5`.
-/

namespace ConfigKeys

namespace Gb18030

/-- The two-byte part. -/
def grid : Grid := ⟨190, rows⟩

/-- The number of the first character beyond the basic plane. -/
def astralStart : Nat := 189000

/-- The character of a number among those of four bytes. -/
def ranked? (number : Nat) : Option Char :=
  if number = 7457 then some '\uE7C7'
  else if astralStart ≤ number then
    if number < astralStart + 0x100000 then some (.ofNat (0x10000 + (number - astralStart)))
    else none
  else if 39419 < number then none
  else (ranges.reverse.find? fun r => r.1 ≤ number).map fun r => .ofNat (r.2 + (number - r.1))

/-- The number of a character among those of four bytes. -/
def rank (c : Char) : Nat :=
  if c = '\uE7C7' then 7457
  else if 0x10000 ≤ c.toNat then astralStart + (c.toNat - 0x10000)
  else
    match ranges.reverse.find? fun r => r.2 ≤ c.toNat with
    | some r => r.1 + (c.toNat - r.2)
    | none => 0

/-- The character of the four bytes of which `a`, `b` and what follows them are the first. -/
def readFour (a b : UInt8) : List UInt8 → Option Char × List UInt8
  | c :: d :: rest =>
    if 0x81 ≤ c.toNat ∧ c.toNat ≤ 0xFE ∧ 0x30 ≤ d.toNat ∧ d.toNat ≤ 0x39 then
      (ranked? ((((a.toNat - 0x81) * 10 + (b.toNat - 0x30)) * 126 + (c.toNat - 0x81)) * 10
        + (d.toNat - 0x30)), rest)
    else (none, rest)
  | rest => (none, rest)

/-- Reads one unit. -/
def readUnit : UnitReader := fun lead rest =>
  if lead.toNat < 0x80 then (some (.ofNat lead.toNat), rest)
  else if lead.toNat = 0x80 then (some '€', rest)
  else if lead.toNat = 0xFF then (none, rest)
  else
    match rest with
    | [] => (none, [])
    | t :: rest =>
      let trail := t.toNat
      if 0x30 ≤ trail ∧ trail ≤ 0x39 then readFour lead t rest
      else if (0x40 ≤ trail ∧ trail ≤ 0x7E) ∨ (0x80 ≤ trail ∧ trail ≤ 0xFE) then
        (grid.char? ((lead.toNat - 0x81) * 190
          + (trail - if trail < 0x7F then 0x40 else 0x41)), rest)
      else (none, rest)

/-- The two bytes of a character that has a cell, or that had one. -/
def pair? (c : Char) : Option (List UInt8) :=
  match privateForms.find? fun form => form.1 = c.toNat with
  | some form => some [.ofNat (form.2 / 0x100), .ofNat (form.2 % 0x100)]
  | none =>
    (grid.cell? c).map fun cell =>
      let trail := cell % 190
      [.ofNat (0x81 + cell / 190), .ofNat (trail + if trail < 0x3F then 0x40 else 0x41)]

/-- The four bytes of a number. -/
def four (number : Nat) : List UInt8 :=
  [.ofNat (0x81 + number / 12600), .ofNat (0x30 + number / 1260 % 10),
    .ofNat (0x81 + number / 10 % 126), .ofNat (0x30 + number % 10)]

end Gb18030

namespace Big5

/-- The table. -/
def grid : Grid := ⟨157, rows⟩

/-- The first cell that is written in, which is the first one of a row. -/
def firstWritten : Nat := 5024

/-- The rows that are written in. -/
def writtenGrid : Grid := ⟨157, rows.drop 32⟩

/-- The number of the cell that two bytes stand for. -/
def cell? (lead trail : UInt8) : Option Nat :=
  let before := (lead.toNat - 0x81) * 157
  if 0x40 ≤ trail.toNat ∧ trail.toNat ≤ 0x7E then some (before + (trail.toNat - 0x40))
  else if 0xA1 ≤ trail.toNat ∧ trail.toNat ≤ 0xFE then some (before + (trail.toNat - 0x62))
  else none

/-- The characters of a cell. -/
def chars? (cell : Nat) : Option (List Char) :=
  match composed.lookup cell with
  | some text => some text
  | none => (grid.char? cell).map ([·])

/-- The units of a byte sequence.  After a lead byte that nothing can be read with, a byte of ASCII
is read by itself. -/
def units : List UInt8 → List (Option Char)
  | [] => []
  | [b] => [if b.toNat < 0x80 then some (.ofNat b.toNat) else none]
  | b :: t :: rest =>
    if b.toNat < 0x80 then some (.ofNat b.toNat) :: units (t :: rest)
    else if b.toNat = 0x80 ∨ b.toNat = 0xFF then none :: units (t :: rest)
    else
      match (cell? b t).bind chars? with
      | some text => text.map some ++ units rest
      | none => if t.toNat < 0x80 then none :: units (t :: rest) else none :: units rest

/-- The cell in which a character is written. -/
def writtenCell? (c : Char) : Option Nat :=
  match lastCells.lookup c with
  | some cell => some cell
  | none => (writtenGrid.cell? c).map (firstWritten + ·)

/-- The bytes of a character. -/
def write? (c : Char) : Option (List UInt8) :=
  match UnitCoding.asciiByte? c with
  | some b => some [b]
  | none =>
    (writtenCell? c).map fun cell =>
      let trail := cell % 157
      [.ofNat (0x81 + cell / 157), .ofNat (trail + if trail < 0x3F then 0x40 else 0x62)]

end Big5

/-- Big5. -/
def Coding.big5 : Coding := ⟨Big5.units, encodeWith? Big5.write?⟩

namespace UnitCoding

/-- GB 18030.  One private character is never written. -/
def gb18030 : UnitCoding where
  read := Gb18030.readUnit
  write? c :=
    match asciiByte? c with
    | some b => some [b]
    | none =>
      if c = '\uE5E5' then none
      else
        match Gb18030.pair? c with
        | some bytes => some bytes
        | none => some (Gb18030.four (Gb18030.rank c))

/-- GBK. -/
def gbk : UnitCoding where
  read := Gb18030.readUnit
  write? c :=
    match asciiByte? c with
    | some b => some [b]
    | none => if c = '€' then some [0x80] else if c = '\uE5E5' then none else Gb18030.pair? c

end UnitCoding

end ConfigKeys
