import ConfigKeys.Charset.Coding
import ConfigKeys.Charset.KsX1001

/-!
# EUC-KR

ASCII in one byte, and the cells of KS X 1001 in two.

## Main definitions

* `UnitCoding.eucKr`.
-/

namespace ConfigKeys

/-- The table of KS X 1001. -/
def KsX1001.grid : Grid := ⟨190, KsX1001.rows⟩

namespace UnitCoding

/-- EUC-KR. -/
def eucKr : UnitCoding where
  read b rest :=
    if b.toNat < 0x80 then (some (.ofNat b.toNat), rest)
    else if b.toNat = 0x80 ∨ b.toNat = 0xFF then (none, rest)
    else
      match rest with
      | [] => (none, [])
      | t :: rest =>
        let read :=
          if 0x41 ≤ t.toNat ∧ t.toNat ≤ 0xFE then
            KsX1001.grid.char? ((b.toNat - 0x81) * 190 + (t.toNat - 0x41))
          else none
        -- a byte of ASCII that belongs to no character is read by itself
        if read.isNone ∧ t.toNat < 0x80 then (none, t :: rest) else (read, rest)
  write? c :=
    match asciiByte? c with
    | some b => some [b]
    | none =>
      (KsX1001.grid.cell? c).map fun cell =>
        [.ofNat (0x81 + cell / 190), .ofNat (0x41 + cell % 190)]

end UnitCoding

end ConfigKeys
