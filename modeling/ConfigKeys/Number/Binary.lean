import ConfigKeys.Number.Decimal

/-!
# Binary floating-point numbers

A format is a number of fraction bits and a number of exponent bits; everything else follows.  The
value of a number is `m · 2 ^ e` for whole `m` and `e`, so reading and writing are exact arithmetic
on whole numbers.

## Main definitions

* `BinaryFormat` — a format, with `BinaryFormat.single` and `BinaryFormat.double`.
* `BinaryFormat.decode` — the value of a bit pattern.
* `BinaryFormat.round` — the bit pattern nearest to a fraction, ties to the even one.
* `BinaryFormat.read?` — the bit pattern nearest to the number in a text.
* `BinaryFormat.write` — the shortest decimal text that reads back.
-/

namespace ConfigKeys

/-- A binary floating-point format: a sign bit, the bits of the exponent, those of the fraction. -/
structure BinaryFormat where
  /-- The number of exponent bits. -/
  exponentBits : Nat
  /-- The number of fraction bits. -/
  fractionBits : Nat
  deriving DecidableEq

/-- What a bit pattern stands for. -/
inductive BinaryValue
  /-- No number. -/
  | nan
  /-- An infinity. -/
  | infinite (negative : Bool)
  /-- The number `m · 2 ^ e`, negated or not. -/
  | finite (negative : Bool) (m : Nat) (e : Int)
  deriving DecidableEq

namespace BinaryFormat

/-- Single precision. -/
def single : BinaryFormat := ⟨8, 23⟩

/-- Double precision. -/
def double : BinaryFormat := ⟨11, 52⟩

/-- The exponent field of infinities and of what is no number. -/
def topField (f : BinaryFormat) : Nat := twoTo f.exponentBits - 1

/-- The pattern of positive infinity. -/
def infinity (f : BinaryFormat) : Nat := f.topField * twoTo f.fractionBits

/-- A pattern for what is no number. -/
def quietNan (f : BinaryFormat) : Nat := f.infinity + twoTo (f.fractionBits - 1)

/-- The sign bit. -/
def signBit (f : BinaryFormat) : Nat := twoTo (f.exponentBits + f.fractionBits)

/-- The exponent of the last bit of the smallest numbers. -/
def leastExponent (f : BinaryFormat) : Int :=
  2 - (twoTo (f.exponentBits - 1) : Nat) - f.fractionBits

/-- The value of a bit pattern. -/
def decode (f : BinaryFormat) (bits : Nat) : BinaryValue :=
  let negative := bits / f.signBit % 2 = 1
  let field := bits / twoTo f.fractionBits % twoTo f.exponentBits
  let fraction := bits % twoTo f.fractionBits
  if field = f.topField then if fraction = 0 then .infinite negative else .nan
  else if field = 0 then .finite negative fraction f.leastExponent
  else .finite negative (twoTo f.fractionBits + fraction) (f.leastExponent + field - 1)

/-- The whole number nearest to a fraction; a tie goes to the even one. -/
def nearest (num den : Nat) : Nat :=
  let q := num / den
  let r := num % den
  if 2 * r < den then q else if den < 2 * r then q + 1 else q + q % 2

/-- The exponent that the last bit of a positive fraction has in the format, as if there were no
greatest exponent. -/
def lastExponent (f : BinaryFormat) (num den : Nat) : Int :=
  let l : Int := (Nat.log2 num : Int) - Nat.log2 den
  let below := if 0 ≤ l then num < den * twoTo l.toNat else num * twoTo (-l).toNat < den
  max f.leastExponent ((if below then l - 1 else l) - f.fractionBits)

/-- The pattern nearest to the fraction `num / den`; a tie goes to the even pattern, and a fraction
beyond the greatest number becomes infinity. -/
def round (f : BinaryFormat) (num den : Nat) : Nat :=
  if num = 0 then 0
  else
    let e := f.lastExponent num den
    let m :=
      if 0 ≤ e then nearest num (den * twoTo e.toNat) else nearest (num * twoTo (-e).toNat) den
    min f.infinity ((e - f.leastExponent).toNat * twoTo f.fractionBits + m)

/-- The pattern nearest to `digits · 10 ^ exponent`.  Far outside the range of the format the answer
is plain, and no large power is taken. -/
def ofDecimal (f : BinaryFormat) (digits : Nat) (exponent : Int) : Nat :=
  let point := exponent + (toString digits).length
  if digits = 0 then 0
  else if point < -(twoTo f.exponentBits : Nat) then 0
  else if (twoTo f.exponentBits : Nat) < point then f.infinity
  else if 0 ≤ exponent then f.round (digits * tenTo exponent.toNat) 1
  else f.round digits (tenTo (-exponent).toNat)

/-- The pattern nearest to the number that a text spells. -/
def read? (f : BinaryFormat) (text : List Char) : Option Nat :=
  (Decimal.spelling? text).map fun (negative, size) =>
    let bits := match size with
      | .infinite => f.infinity
      | .nan => f.quietNan
      | .finite digits exponent => f.ofDecimal digits exponent
    if negative then bits + f.signBit else bits

/-- Looks on the grid of the multiples of `10 ^ k`, and on finer ones after it, for a number that
reads back as `m · 2 ^ e`.  All numbers are counted in quarters of the last bit, `2 ^ (e - 2)`: the
numbers between `low` and `high` read back, the two ends exactly when `m` is even.  Of two hits
beside each other the nearer one wins, and a tie goes up. -/
def searchGrids (m : Nat) (e : Int) (low high : Nat) : Nat → Int → Nat × Int
  | 0, k => (0, k)
  | fuel + 1, k =>
    let num := twoTo (e - 2).toNat * tenTo (-k).toNat
    let den := twoTo (2 - e).toNat * tenTo k.toNat
    let hits (c : Nat) : Bool :=
      if m % 2 = 0 then low * num ≤ c * den && c * den ≤ high * num
      else low * num < c * den && c * den < high * num
    let down := 4 * m * num / den
    let rest := 4 * m * num % den
    if hits down && hits (down + 1) then (if 2 * rest < den then down else down + 1, k)
    else if hits down then (down, k)
    else if hits (down + 1) then (down + 1, k)
    else searchGrids m e low high fuel (k - 1)

/-- The fewest digits, with their exponent, that read back as the positive number `m · 2 ^ e`. -/
def shortest (f : BinaryFormat) (m : Nat) (e : Int) : Nat × Int :=
  let low := if m = twoTo f.fractionBits && f.leastExponent < e then 4 * m - 1 else 4 * m - 2
  let top := ((Nat.log2 m : Int) + 1 + e) * 30103 / 100000 + 1
  searchGrids m e low (4 * m + 2) (f.fractionBits + 4) top

/-- The text of a bit pattern: the fewest digits that read back, written out in full. -/
def write (f : BinaryFormat) (bits : Nat) : String :=
  match f.decode bits with
  | .nan => "NaN"
  | .infinite negative => if negative then "-inf" else "inf"
  | .finite negative m e =>
    let size := if m = 0 then "0" else
      let (digits, k) := f.shortest m e
      Decimal.positional digits k
    if negative then "-" ++ size else size

/-- Whether a bit pattern stands for no number. -/
def isNan (f : BinaryFormat) (bits : Nat) : Bool := f.decode bits = .nan

end BinaryFormat

end ConfigKeys
