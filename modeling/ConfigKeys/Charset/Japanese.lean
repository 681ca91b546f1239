import ConfigKeys.Charset.Coding
import ConfigKeys.Charset.JisX0208
import ConfigKeys.Charset.JisX0212

/-!
# The Japanese charsets

Shift_JIS and EUC-JP write ASCII in one byte, and the ideographs of JIS X 0208 in two.  Both write
the yen sign and the overline like backslash and tilde, and the minus sign like its wide form.
ISO-2022-JP writes all in bytes of ASCII, and escapes tell which set of characters they stand for.

## Main definitions

* `UnitCoding.shiftJis`, `UnitCoding.eucJp`.
* `Iso2022Jp.CharSet` — the sets of characters of ISO-2022-JP.
* `Coding.iso2022Jp`.
-/

namespace ConfigKeys

namespace JisX0208

/-- The standard rows. -/
def standardGrid : Grid := ⟨94, standard⟩

/-- The standard rows and the selected ones. -/
def mainGrid : Grid := ⟨94, standard ++ selected⟩

/-- The extension rows. -/
def extensionGrid : Grid := ⟨94, extension⟩

end JisX0208

/-- The table of JIS X 0212. -/
def JisX0212.grid : Grid := ⟨94, JisX0212.rows⟩

namespace UnitCoding

/-- The half-width Katakana of a byte from `0xA1` to `0xDF`. -/
def halfwidth (b : Nat) : Char := .ofNat (0xFF61 + (b - 0xA1))

/-- The byte of a half-width Katakana. -/
def halfwidthByte? (c : Char) : Option UInt8 :=
  if 0xFF61 ≤ c.toNat ∧ c.toNat ≤ 0xFF9F then some (.ofNat (c.toNat - 0xFF61 + 0xA1)) else none

/-- The byte of an ASCII character, and of the two that share one with an ASCII character. -/
def romanByte? (c : Char) : Option UInt8 :=
  if c = '¥' then some 0x5C else if c = '‾' then some 0x7E else asciiByte? c

/-- The wide form of the minus sign; any other character is left as it is. -/
def widenMinus (c : Char) : Char := if c = '\u2212' then '\uFF0D' else c

/-- The first private cell of Shift_JIS, and the first cell after the private ones. -/
def privateCells : Nat × Nat := (94 * 94, 114 * 94)

/-- The character in a cell of Shift_JIS: the standard rows and the selected ones, twenty rows of
private characters, and the extension rows. -/
def shiftJisChar? (cell : Nat) : Option Char :=
  if cell < privateCells.1 then JisX0208.mainGrid.char? cell
  else if cell < privateCells.2 then some (.ofNat (0xE000 + (cell - privateCells.1)))
  else JisX0208.extensionGrid.char? (cell - privateCells.2)

/-- The cell in which Shift_JIS writes a character: a standard one, else one of the extension. -/
def shiftJisCell? (c : Char) : Option Nat :=
  match JisX0208.standardGrid.cell? c with
  | some cell => some cell
  | none => (JisX0208.extensionGrid.cell? c).map (privateCells.2 + ·)

/-- Shift_JIS. -/
def shiftJis : UnitCoding where
  read b rest :=
    let lead := b.toNat
    if lead ≤ 0x80 then (some (.ofNat lead), rest)
    else if 0xA1 ≤ lead ∧ lead ≤ 0xDF then (some (halfwidth lead), rest)
    else if lead = 0xA0 ∨ 0xFC < lead then (none, rest)
    else
      match rest with
      | [] => (none, [])
      | t :: rest =>
        let trail := t.toNat
        if (0x40 ≤ trail ∧ trail ≤ 0x7E) ∨ (0x80 ≤ trail ∧ trail ≤ 0xFC) then
          (shiftJisChar? ((lead - if lead < 0xA0 then 0x81 else 0xC1) * 188
            + (trail - if trail < 0x7F then 0x40 else 0x41)), rest)
        else (none, rest)
  write? c :=
    if c.toNat = 0x80 then some [0x80]
    else
      match romanByte? c with
      | some b => some [b]
      | none =>
        match halfwidthByte? c with
        | some b => some [b]
        | none =>
          (shiftJisCell? (widenMinus c)).map fun cell =>
            let lead := cell / 188
            let trail := cell % 188
            [.ofNat (lead + if lead < 0x1F then 0x81 else 0xC1),
              .ofNat (trail + if trail < 0x3F then 0x40 else 0x41)]

/-- The number of the cell that two bytes from `0xA1` to `0xFE` stand for. -/
def eucCell? (lead trail : UInt8) : Option Nat :=
  if 0xA1 ≤ lead.toNat ∧ lead.toNat ≤ 0xFE ∧ 0xA1 ≤ trail.toNat ∧ trail.toNat ≤ 0xFE then
    some ((lead.toNat - 0xA1) * 94 + (trail.toNat - 0xA1))
  else none

/-- EUC-JP.  The ideographs of JIS X 0212 are read but never written. -/
def eucJp : UnitCoding where
  read b rest :=
    if b.toNat < 0x80 then (some (.ofNat b.toNat), rest)
    else
      match rest with
      | [] => (none, [])
      | t :: rest =>
        if b = 0x8E then
          (if 0xA1 ≤ t.toNat ∧ t.toNat ≤ 0xDF then some (halfwidth t.toNat) else none, rest)
        else if b = 0x8F then
          match rest with
          | [] => (none, [])
          | u :: rest => ((eucCell? t u).bind JisX0212.grid.char?, rest)
        else ((eucCell? b t).bind JisX0208.mainGrid.char?, rest)
  write? c :=
    match romanByte? c with
    | some b => some [b]
    | none =>
      match halfwidthByte? c with
      | some b => some [0x8E, b]
      | none =>
        (JisX0208.mainGrid.cell? (widenMinus c)).map fun cell =>
          [.ofNat (0xA1 + cell / 94), .ofNat (0xA1 + cell % 94)]

end UnitCoding

namespace Iso2022Jp

/-- A set of characters that an escape calls in. -/
inductive CharSet
  | ascii
  /-- ASCII with the yen sign and the overline in the places of backslash and tilde. -/
  | roman
  /-- The half-width Katakana. -/
  | katakana
  /-- The ideographs of JIS X 0208, of two bytes each. -/
  | ideographs
  deriving DecidableEq

namespace CharSet

/-- The escape that is written for a set. -/
def escape : CharSet → List UInt8
  | .ascii => [0x1B, 0x28, 0x42]
  | .roman => [0x1B, 0x28, 0x4A]
  | .katakana => [0x1B, 0x28, 0x49]
  | .ideographs => [0x1B, 0x24, 0x42]

/-- The set that is called in by an escape with two bytes. -/
def ofEscape? (a b : UInt8) : Option CharSet :=
  if a = 0x28 then
    if b = 0x42 then some .ascii
    else if b = 0x4A then some .roman
    else if b = 0x49 then some .katakana
    else none
  else if a = 0x24 ∧ (b = 0x40 ∨ b = 0x42) then some .ideographs
  else none

end CharSet

/-- Whether a code of ASCII is kept for calling in sets of characters. -/
def isControl (code : Nat) : Bool := code = 0x0E || code = 0x0F || code = 0x1B

/-- The character of a byte in a set. -/
def char? (s : CharSet) (b : UInt8) : Option Char :=
  match s with
  | .ideographs => none
  | .katakana =>
    if 0x21 ≤ b.toNat ∧ b.toNat ≤ 0x5F then some (UnitCoding.halfwidth (b.toNat + 0x80)) else none
  | _ =>
    if s = .roman ∧ b = 0x5C then some '¥'
    else if s = .roman ∧ b = 0x7E then some '‾'
    else if b.toNat < 0x80 ∧ !isControl b.toNat then some (.ofNat b.toNat)
    else none

/-- The character of two bytes. -/
def ideograph? (lead trail : UInt8) : Option Char :=
  if 0x21 ≤ trail.toNat ∧ trail.toNat ≤ 0x7E then
    JisX0208.mainGrid.char? ((lead.toNat - 0x21) * 94 + (trail.toNat - 0x21))
  else none

/-- The units of a byte sequence while the set `s` is called in; `escaped` tells that an escape
stands right before it.  No escape may follow another one, and one that calls in no set is read as
the characters that it is made of. -/
def unitsFrom : CharSet → Bool → List UInt8 → List (Option Char)
  | _, _, [] => []
  | s, _, [b] => [char? s b]
  | s, escaped, b :: t :: rest =>
    if b = 0x1B then
      match rest with
      | [] => none :: unitsFrom s false [t]
      | d :: rest =>
        match CharSet.ofEscape? t d with
        | none => none :: unitsFrom s false (t :: d :: rest)
        | some s =>
          let units := unitsFrom s true rest
          if escaped then none :: units else units
    else if s = .ideographs then
      if b.toNat < 0x21 ∨ 0x7E < b.toNat ∨ t = 0x1B then none :: unitsFrom s false (t :: rest)
      else ideograph? b t :: unitsFrom s false rest
    else char? s b :: unitsFrom s false (t :: rest)

/-- The full-width forms of the half-width Katakana. -/
def fullwidth : String :=
  "。「」、・ヲァィゥェォャュョッーアイウエオカキクケコサシスセソタチツテトナニヌネノハヒフヘホマミムメモヤユヨラリルレロワン゛゜"

/-- The full-width form of a character that has one. -/
def widen (c : Char) : Char :=
  if 0xFF61 ≤ c.toNat then fullwidth.toList.getD (c.toNat - 0xFF61) c
  else UnitCoding.widenMinus c

/-- The bytes of a character, and the set that they are in, while the set `s` is called in. -/
def write? (s : CharSet) (c : Char) : Option (CharSet × List UInt8) :=
  if c = '¥' then some (.roman, [0x5C])
  else if c = '‾' then some (.roman, [0x7E])
  else
    match UnitCoding.asciiByte? c with
    | some b =>
      if isControl b.toNat then none
      else if s = .roman ∧ b ≠ 0x5C ∧ b ≠ 0x7E then some (.roman, [b])
      else some (.ascii, [b])
    | none =>
      (JisX0208.mainGrid.cell? (widen c)).map fun cell =>
        (.ideographs, [.ofNat (0x21 + cell / 94), .ofNat (0x21 + cell % 94)])

/-- The bytes of a text while the set `s` is called in.  In the end ASCII is called in again. -/
def encodeFrom? (s : CharSet) : List Char → Option (List UInt8)
  | [] => some (if s = .ascii then [] else CharSet.ascii.escape)
  | c :: rest => do
    let (s', bytes) ← write? s c
    let more ← encodeFrom? s' rest
    some ((if s' = s then [] else s'.escape) ++ bytes ++ more)

end Iso2022Jp

/-- ISO-2022-JP.  The half-width Katakana are read, and written in their full width. -/
def Coding.iso2022Jp : Coding :=
  ⟨Iso2022Jp.unitsFrom .ascii false, Iso2022Jp.encodeFrom? .ascii⟩

end ConfigKeys
