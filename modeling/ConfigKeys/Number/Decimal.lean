import ConfigKeys.Number.Power

/-!
# Decimal numbers in texts

## Main definitions

* `Decimal.natural?` — a sequence of digits as a number.
* `Decimal.integer?` — a sequence of digits behind at most one sign.
* `Decimal.Spelling` — what a text says about a number with a fraction, and `Decimal.spelling?`,
  which reads it.
* `Decimal.positional` — digits and an exponent, written out without an exponent.
-/

namespace ConfigKeys.Decimal

/-- Whether a character is one of the ten digits. -/
def isDigit (c : Char) : Bool := 48 ≤ c.toNat && c.toNat ≤ 57

/-- The value of a digit. -/
def digitValue (c : Char) : Nat := c.toNat - 48

/-- The number that digits spell after those that spell `n`. -/
def digitsFrom (n : Nat) (digits : List Char) : Nat :=
  digits.foldl (fun n c => 10 * n + digitValue c) n

/-- The number that a text of one or more digits spells. -/
def natural? (text : List Char) : Option Nat :=
  if !text.isEmpty && text.all isDigit then some (digitsFrom 0 text) else none

/-- The sign in front of a text — `true` for minus — and what follows it. -/
def splitSign : List Char → Bool × List Char
  | '-' :: rest => (true, rest)
  | '+' :: rest => (false, rest)
  | text => (false, text)

/-- The number that a text of one or more digits, with or without a sign in front, spells. -/
def integer? (text : List Char) : Option Int :=
  let (negative, digits) := splitSign text
  (natural? digits).map fun n => if negative then -(n : Int) else n

/-- What a text says about the size of a number. -/
inductive Spelling
  /-- Larger than every number. -/
  | infinite
  /-- Not a number. -/
  | nan
  /-- The number `digits · 10 ^ exponent`. -/
  | finite (digits : Nat) (exponent : Int)
  deriving DecidableEq

/-- The value of the digits of an exponent.  An exponent beyond `65535` is as good as any larger
one, so further digits are not counted. -/
def exponentValue (digits : List Char) : Nat :=
  digits.foldl (fun n c => if n < 65536 then 10 * n + digitValue c else n) 0

/-- The exponent at the end of a number: nothing at all, or the letter `e`, a sign and digits. -/
def exponent? : List Char → Option Int
  | [] => some 0
  | e :: rest =>
    let (negative, digits) := splitSign rest
    if (e = 'e' || e = 'E') && !digits.isEmpty && digits.all isDigit then
      some (if negative then -(exponentValue digits : Int) else exponentValue digits)
    else none

/-- Reads a number without a sign: digits, with a point before, between or after them, and then an
exponent; or one of the words for infinity and for no number, in any case. -/
def magnitude? (text : List Char) : Option Spelling :=
  let word := text.map Char.toLower
  if word = ['i', 'n', 'f'] ∨ word = ['i', 'n', 'f', 'i', 'n', 'i', 't', 'y'] then some .infinite
  else if word = ['n', 'a', 'n'] then some .nan
  else
    let whole := text.takeWhile isDigit
    let afterWhole := text.dropWhile isDigit
    let hasPoint := afterWhole.head? = some '.'
    let part := if hasPoint then afterWhole.tail.takeWhile isDigit else []
    let afterPart := if hasPoint then afterWhole.tail.dropWhile isDigit else afterWhole
    if whole.isEmpty && part.isEmpty then none
    else (exponent? afterPart).map fun e =>
      .finite (digitsFrom 0 (whole ++ part)) (e - part.length)

/-- Reads a number with or without a sign. -/
def spelling? (text : List Char) : Option (Bool × Spelling) :=
  let (negative, rest) := splitSign text
  (magnitude? rest).map fun size => (negative, size)

/-- The number `digits · 10 ^ exponent`, written out in full. -/
def positional (digits : Nat) (exponent : Int) : String :=
  let shown := (toString digits).toList
  if 0 ≤ exponent then .ofList (shown ++ List.replicate exponent.toNat '0')
  else
    let places := (-exponent).toNat
    if places < shown.length then
      .ofList (shown.take (shown.length - places) ++ '.' :: shown.drop (shown.length - places))
    else .ofList ('0' :: '.' :: List.replicate (places - shown.length) '0' ++ shown)

end ConfigKeys.Decimal
