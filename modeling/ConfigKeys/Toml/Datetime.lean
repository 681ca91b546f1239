import ConfigKeys.Number.Decimal

/-!
# Dates and times

A date, a time of day, both, or both with an offset from universal time.  Reading checks that the
day exists; writing gives the normal form.  A date and time in a document has a strict form; one
that is the whole of a text may also use the 24th hour, and minutes past the hour in its offset.

## Main definitions

* `Toml.Datetime` — a date and a time, each of which may be missing.
* `Toml.Datetime.read?` — reads one at the beginning of a text.
* `Toml.Datetime.ofText?` — reads one that is the whole of a text.
* `Toml.Datetime.text` — the normal form.
-/

namespace ConfigKeys.Toml

/-- A day. -/
structure Date where
  /-- The year, of four digits. -/
  year : Nat
  /-- The month, from 1. -/
  month : Nat
  /-- The day of the month, from 1. -/
  day : Nat
  deriving DecidableEq

/-- A time of day. -/
structure Time where
  /-- The hour; 24 is the end of a day. -/
  hour : Nat
  /-- The minute. -/
  minute : Nat
  /-- The second, up to 60 for a leap second. -/
  second : Nat
  /-- The billionths of a second. -/
  nanosecond : Nat
  deriving DecidableEq

/-- The offset of a local time from universal time. -/
inductive Offset
  /-- None: the time is universal. -/
  | universal
  /-- This many minutes ahead. -/
  | minutes (ahead : Int)
  deriving DecidableEq

/-- A date and a time, each of which may be missing, and the offset of the two. -/
structure Datetime where
  /-- The day. -/
  date : Option Date := none
  /-- The time of day. -/
  time : Option Time := none
  /-- The offset from universal time. -/
  offset : Option Offset := none
  deriving DecidableEq

/-- A number in decimal, with zeros in front up to the given width. -/
def padded (width n : Nat) : String :=
  let digits := toString n
  .ofList (List.replicate (width - digits.length) '0') ++ digits

/-- The number of days of a month. -/
def daysIn (year month : Nat) : Nat :=
  let leap := year % 4 = 0 && (year % 100 ≠ 0 || year % 400 = 0)
  if month = 2 then if leap then 29 else 28
  else if month = 4 ∨ month = 6 ∨ month = 9 ∨ month = 11 then 30
  else 31

/-- Reads exactly `n` digits. -/
def readDigits? (n : Nat) (text : List Char) : Option (Nat × List Char) :=
  let digits := text.take n
  if digits.length = n ∧ digits.all Decimal.isDigit then
    some (Decimal.digitsFrom 0 digits, text.drop n)
  else none

/-- Reads two digits for a number between `low` and `high`. -/
def readField? (low high : Nat) (text : List Char) : Option (Nat × List Char) := do
  let (n, rest) ← readDigits? 2 text
  if low ≤ n ∧ n ≤ high then some (n, rest) else none

/-- Reads one given character. -/
def readChar? (c : Char) : List Char → Option (List Char)
  | [] => none
  | d :: rest => if c = d then some rest else none

namespace Date

/-- Reads a date. -/
def read? (text : List Char) : Option (Date × List Char) := do
  let (year, rest) ← readDigits? 4 text
  let rest ← readChar? '-' rest
  let (month, rest) ← readField? 1 12 rest
  let rest ← readChar? '-' rest
  let (day, rest) ← readField? 1 (daysIn year month) rest
  some (⟨year, month, day⟩, rest)

/-- The normal form of a date. -/
def text (d : Date) : String := s!"{padded 4 d.year}-{padded 2 d.month}-{padded 2 d.day}"

end Date

namespace Time

/-- The billionths that the digits of a fraction stand for; digits after the ninth do not count. -/
def nanosecondOf (digits : List Char) : Nat :=
  let kept := digits.take 9
  Decimal.digitsFrom 0 kept * tenTo (9 - kept.length)

/-- Reads a time of day, down to the second or to a fraction of it.  Its hour is at most
`lastHour`. -/
def read? (lastHour : Nat) (text : List Char) : Option (Time × List Char) := do
  let (hour, rest) ← readField? 0 lastHour text
  let rest ← readChar? ':' rest
  let (minute, rest) ← readField? 0 59 rest
  let rest ← readChar? ':' rest
  let (second, rest) ← readField? 0 60 rest
  match rest with
  | '.' :: fraction =>
    let digits := fraction.takeWhile Decimal.isDigit
    if digits.isEmpty then some (⟨hour, minute, second, 0⟩, rest)
    else some (⟨hour, minute, second, nanosecondOf digits⟩, fraction.dropWhile Decimal.isDigit)
  | _ => some (⟨hour, minute, second, 0⟩, rest)

/-- The digits of a fraction of a second, without the zeros at their end. -/
def fractionText (nanosecond : Nat) : String :=
  .ofList ((padded 9 nanosecond).toList.reverse.dropWhile (· = '0')).reverse

/-- The normal form of a time of day. -/
def text (t : Time) : String :=
  let seconds := s!"{padded 2 t.hour}:{padded 2 t.minute}:{padded 2 t.second}"
  if t.nanosecond = 0 then seconds else s!"{seconds}.{fractionText t.nanosecond}"

end Time

namespace Offset

/-- Reads an offset. -/
def read? : List Char → Option (Offset × List Char)
  | [] => none
  | c :: rest =>
    if c = 'Z' ∨ c = 'z' then some (.universal, rest)
    else if c = '+' ∨ c = '-' then do
      let (hours, rest) ← readField? 0 23 rest
      let rest ← readChar? ':' rest
      let (past, rest) ← readField? 0 59 rest
      let ahead : Int := (hours * 60 + past : Nat)
      some (.minutes (if c = '-' then -ahead else ahead), rest)
    else none

/-- Reads a text that is an offset.  The minutes may be more than an hour has, but hours and minutes
together are at most a day. -/
def ofText? : List Char → Option Offset
  | [] => none
  | c :: rest =>
    if (c = 'Z' ∨ c = 'z') ∧ rest.isEmpty then some .universal
    else if c = '+' ∨ c = '-' then do
      let (hours, rest) ← readDigits? 2 rest
      let rest ← readChar? ':' rest
      let (past, rest) ← readDigits? 2 rest
      let total := hours * 60 + past
      if rest.isEmpty ∧ total ≤ 24 * 60 then
        some (.minutes (if c = '-' then -(total : Int) else total))
      else none
    else none

/-- The normal form of an offset. -/
def text : Offset → String
  | .universal => "Z"
  | .minutes ahead =>
    let sign := if ahead < 0 then "-" else "+"
    s!"{sign}{padded 2 (ahead.natAbs / 60)}:{padded 2 (ahead.natAbs % 60)}"

end Offset

namespace Datetime

/-- Reads a time of day, and an offset if one follows it. -/
def readTime? (text : List Char) : Option ((Time × Option Offset) × List Char) := do
  let (time, rest) ← Time.read? 23 text
  match Offset.read? rest with
  | some (offset, rest) => some ((time, some offset), rest)
  | none => some ((time, none), rest)

/-- Reads a date, alone or with a time behind a `T` or one blank, or a time alone. -/
def read? (text : List Char) : Option (Datetime × List Char) :=
  match Date.read? text with
  | none => (Time.read? 23 text).map fun (time, rest) => (⟨none, some time, none⟩, rest)
  | some (date, rest) =>
    let behind := match rest with
      | [] => none
      | c :: more => if c = 'T' ∨ c = 't' ∨ c = ' ' then readTime? more else none
    match behind with
    | some ((time, offset), rest) => some (⟨some date, some time, offset⟩, rest)
    | none => some (⟨some date, none, none⟩, rest)

/-- Reads a text that is a time of day, and an offset if more follows it. -/
def timeOfText? (text : List Char) : Option (Time × Option Offset) := do
  let (time, rest) ← Time.read? 24 text
  if rest.isEmpty then some (time, none)
  else (Offset.ofText? rest).map fun offset => (time, some offset)

/-- Reads a text that is a date, alone or with a time behind a `T` or one blank, or a time alone.
Only a date with a time takes an offset. -/
def ofText? (text : String) : Option Datetime :=
  match text.toList with
  | a :: b :: ':' :: rest =>
    match timeOfText? (a :: b :: ':' :: rest) with
    | some (time, none) => some ⟨none, some time, none⟩
    | _ => none
  | cs => do
    let (date, rest) ← Date.read? cs
    match rest with
    | [] => some ⟨some date, none, none⟩
    | c :: rest =>
      if c = 'T' ∨ c = 't' ∨ c = ' ' then
        (timeOfText? rest).map fun (time, offset) => ⟨some date, some time, offset⟩
      else none

/-- The normal form of a date and time. -/
def text (d : Datetime) : String :=
  let date := (d.date.map Date.text).getD ""
  let time := (d.time.map Time.text).getD ""
  let offset := (d.offset.map Offset.text).getD ""
  let between := if d.date.isSome && d.time.isSome then "T" else ""
  date ++ between ++ time ++ offset

end Datetime

end ConfigKeys.Toml
