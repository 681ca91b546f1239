import ConfigKeys.Number.Binary
import ConfigKeys.Text.Hex
import ConfigKeys.Toml.Value

/-!
# Scalars and keys of TOML

The readers of this module take what they know from the beginning of a text and answer with it and
with the rest of the text, or with `none` where the text is not well formed.

## Main definitions

* `Toml.readString?` — the four kinds of strings.
* `Toml.readFloat?`, `Toml.readInteger?` — numbers.
* `Toml.readScalar?` — any value but an array or a table.
* `Toml.readKey?` — a key, as the list of its parts.
-/

namespace ConfigKeys.Toml

/-- Blanks inside a line. -/
def isBlank (c : Char) : Bool := c = ' ' || c = '\t'

/-- Whether a character may stand in a comment, or unescaped in a string: tabs, and everything but
control characters. -/
def isPlain (c : Char) : Bool := c = '\t' || (32 ≤ c.toNat && c.toNat ≠ 127)

/-- The text after the blanks at its beginning. -/
def skipBlanks (text : List Char) : List Char := text.dropWhile isBlank

/-- The text after the end of a line, if it begins with one. -/
def newline? : List Char → Option (List Char)
  | '\n' :: rest => some rest
  | '\r' :: '\n' :: rest => some rest
  | _ => none

/-- The character whose code point is spelled by `n` hexadecimal digits. -/
def scalarOf? (n : Nat) (digits : List Char) : Option Char := do
  let code ← Hex.number? digits
  if digits.length = n ∧ code.isValidChar then some (.ofNat code) else none

/-- Reads what follows an escape character in a string. -/
def readEscape? : List Char → Option (Char × List Char)
  | 'b' :: rest => some ('\x08', rest)
  | 't' :: rest => some ('\t', rest)
  | 'n' :: rest => some ('\n', rest)
  | 'f' :: rest => some ('\x0c', rest)
  | 'r' :: rest => some ('\r', rest)
  | '"' :: rest => some ('"', rest)
  | '\\' :: rest => some ('\\', rest)
  | 'u' :: rest => (scalarOf? 4 (rest.take 4)).map fun c => (c, rest.drop 4)
  | 'U' :: rest => (scalarOf? 8 (rest.take 8)).map fun c => (c, rest.drop 8)
  | _ => none

/-- Reads a string on one line, after its opening quote.  `fuel` bounds the number of characters,
and `acc` holds those read, the last one first. -/
def readBasic? : Nat → List Char → List Char → Option (List Char × List Char)
  | _ + 1, acc, '"' :: rest => some (acc.reverse, rest)
  | fuel + 1, acc, '\\' :: rest => do
    let (c, rest) ← readEscape? rest
    readBasic? fuel (c :: acc) rest
  | fuel + 1, acc, c :: rest => if isPlain c then readBasic? fuel (c :: acc) rest else none
  | _, _, _ => none

/-- Reads a string without escapes on one line, after its opening quote. -/
def readLiteral? (acc : List Char) : List Char → Option (List Char × List Char)
  | '\'' :: rest => some (acc.reverse, rest)
  | c :: rest => if isPlain c then readLiteral? (c :: acc) rest else none
  | [] => none

/-- The text after blanks and ends of lines. -/
def skipEmptyLines : List Char → List Char
  | '\r' :: '\n' :: rest => skipEmptyLines rest
  | c :: rest => if isBlank c || c = '\n' then skipEmptyLines rest else c :: rest
  | [] => []

/-- Reads a string over several lines, after its opening quotes.  It ends at the first three quotes
in a row, and up to two more quotes right before the last three belong to the text.  An escape
character at the end of a line joins what follows the blanks and empty lines after it. -/
def readMultiBasic? : Nat → List Char → List Char → Option (List Char × List Char)
  | _ + 1, acc, '"' :: '"' :: '"' :: '"' :: '"' :: rest => some (('"' :: '"' :: acc).reverse, rest)
  | _ + 1, acc, '"' :: '"' :: '"' :: '"' :: rest => some (('"' :: acc).reverse, rest)
  | _ + 1, acc, '"' :: '"' :: '"' :: rest => some (acc.reverse, rest)
  | fuel + 1, acc, '\\' :: rest =>
    if (newline? (skipBlanks rest)).isSome then readMultiBasic? fuel acc (skipEmptyLines rest)
    else do
      let (c, rest) ← readEscape? rest
      readMultiBasic? fuel (c :: acc) rest
  | fuel + 1, acc, c :: rest =>
    match newline? (c :: rest) with
    | some rest => readMultiBasic? fuel ('\n' :: acc) rest
    | none => if isPlain c then readMultiBasic? fuel (c :: acc) rest else none
  | _, _, _ => none

/-- Reads a string without escapes over several lines, after its opening quotes. -/
def readMultiLiteral? : Nat → List Char → List Char → Option (List Char × List Char)
  | _ + 1, acc, '\'' :: '\'' :: '\'' :: '\'' :: '\'' :: rest =>
    some (('\'' :: '\'' :: acc).reverse, rest)
  | _ + 1, acc, '\'' :: '\'' :: '\'' :: '\'' :: rest => some (('\'' :: acc).reverse, rest)
  | _ + 1, acc, '\'' :: '\'' :: '\'' :: rest => some (acc.reverse, rest)
  | fuel + 1, acc, c :: rest =>
    match newline? (c :: rest) with
    | some rest => readMultiLiteral? fuel ('\n' :: acc) rest
    | none => if isPlain c then readMultiLiteral? fuel (c :: acc) rest else none
  | _, _, _ => none

/-- Reads a string of any kind.  An end of line right after three opening quotes does not count. -/
def readString? (text : List Char) : Option (String × List Char) :=
  let read := match text with
    | '"' :: '"' :: '"' :: rest =>
      readMultiBasic? (text.length + 1) [] ((newline? rest).getD rest)
    | '\'' :: '\'' :: '\'' :: rest =>
      readMultiLiteral? (text.length + 1) [] ((newline? rest).getD rest)
    | '"' :: rest => readBasic? (text.length + 1) [] rest
    | '\'' :: rest => readLiteral? [] rest
    | _ => none
  read.map fun (cs, rest) => (.ofList cs, rest)

/-- Reads on after a digit: more digits, each of which may have one underscore before it. -/
def readDigitRun? (isDigit : Char → Bool) (acc : List Char) :
    List Char → Option (List Char × List Char)
  | ['_'] => none
  | '_' :: c :: rest => if isDigit c then readDigitRun? isDigit (c :: acc) rest else none
  | c :: rest =>
    if isDigit c then readDigitRun? isDigit (c :: acc) rest else some (acc.reverse, c :: rest)
  | [] => some (acc.reverse, [])

/-- Reads digits with single underscores between them. -/
def readDigitGroup? (isDigit : Char → Bool) : List Char → Option (List Char × List Char)
  | c :: rest => if isDigit c then readDigitRun? isDigit [c] rest else none
  | [] => none

/-- Reads the sign of a number, as the characters to keep. -/
def readSign : List Char → List Char × List Char
  | '+' :: rest => (['+'], rest)
  | '-' :: rest => (['-'], rest)
  | text => ([], text)

/-- Reads a whole decimal number: a sign and digits, of which the first is zero only when it is the
only one. -/
def readWhole? (text : List Char) : Option (List Char × List Char) :=
  let (sign, rest) := readSign text
  match rest with
  | '0' :: rest => some (sign ++ ['0'], rest)
  | _ => (readDigitGroup? Decimal.isDigit rest).map fun (digits, rest) => (sign ++ digits, rest)

/-- Reads the exponent of a number. -/
def readExponent? : List Char → Option (List Char × List Char)
  | e :: rest =>
    if e = 'e' ∨ e = 'E' then
      let (sign, rest) := readSign rest
      (readDigitGroup? Decimal.isDigit rest).map fun (digits, rest) => ('e' :: sign ++ digits, rest)
    else none
  | [] => none

/-- Reads the spelling of a number with a fraction, an exponent or both. -/
def readDecimal? (text : List Char) : Option (List Char × List Char) := do
  let (whole, rest) ← readWhole? text
  match rest with
  | '.' :: rest =>
    let (part, rest) ← readDigitGroup? Decimal.isDigit rest
    match rest with
    | c :: _ =>
      if c = 'e' ∨ c = 'E' then
        let (exponent, rest) ← readExponent? rest
        some (whole ++ '.' :: part ++ exponent, rest)
      else some (whole ++ '.' :: part, rest)
    | [] => some (whole ++ '.' :: part, rest)
  | _ =>
    let (exponent, rest) ← readExponent? rest
    some (whole ++ exponent, rest)

/-- Reads one of the words for a number that has no digits. -/
def readSpecial? (text : List Char) : Option (List Char × List Char) :=
  let (sign, rest) := readSign text
  match rest with
  | 'i' :: 'n' :: 'f' :: rest => some (sign ++ ['i', 'n', 'f'], rest)
  | 'n' :: 'a' :: 'n' :: rest => some (sign ++ ['n', 'a', 'n'], rest)
  | _ => none

/-- Reads a number in double precision.  Digits that spell more than the greatest number are
refused, but far below the least one they are not. -/
def readFloat? (text : List Char) : Option (Nat × List Char) :=
  match readDecimal? text with
  | some (spelling, rest) => do
    let bits ← BinaryFormat.double.read? spelling
    if bits = BinaryFormat.double.infinity then none else some (bits, rest)
  | none => do
    let (spelling, rest) ← readSpecial? text
    let bits ← BinaryFormat.double.read? spelling
    some (bits, rest)

/-- Reads digits of the given base, to a number that fits into 64 bits with a sign. -/
def readBase? (base : Nat) (text : List Char) : Option (Int × List Char) := do
  let isDigit (c : Char) : Bool := (Hex.value? c).any (· < base)
  let (digits, rest) ← readDigitGroup? isDigit text
  let n := digits.foldl (fun n c => base * n + (Hex.value? c).getD 0) 0
  if n < twoTo 63 then some (n, rest) else none

/-- Reads a whole number that fits into 64 bits with a sign. -/
def readInteger? (text : List Char) : Option (Int × List Char) :=
  match text with
  | '0' :: 'x' :: rest => readBase? 16 rest
  | '0' :: 'o' :: rest => readBase? 8 rest
  | '0' :: 'b' :: rest => readBase? 2 rest
  | _ => do
    let (spelling, rest) ← readWhole? text
    let n ← Decimal.integer? spelling
    if -(twoTo 63 : Nat) ≤ n ∧ n < (twoTo 63 : Nat) then some (n, rest) else none

/-- Reads a value that is neither an array nor a table. -/
def readScalar? (text : List Char) : Option (Value × List Char) :=
  match text with
  | 't' :: 'r' :: 'u' :: 'e' :: rest => some (.boolean true, rest)
  | 'f' :: 'a' :: 'l' :: 's' :: 'e' :: rest => some (.boolean false, rest)
  | '"' :: _ | '\'' :: _ => (readString? text).map fun (s, rest) => (.text s, rest)
  | _ =>
    match Datetime.read? text with
    | some (d, rest) => some (.datetime d, rest)
    | none =>
      match readFloat? text with
      | some (bits, rest) => some (.float bits, rest)
      | none => (readInteger? text).map fun (n, rest) => (.integer n, rest)

/-- Whether a character may stand in a key without quotes. -/
def isBare (c : Char) : Bool :=
  Decimal.isDigit c || (65 ≤ c.toNat && c.toNat ≤ 90) || (97 ≤ c.toNat && c.toNat ≤ 122) ||
    c = '-' || c = '_'

/-- Reads one part of a key: bare, or a string on one line. -/
def readKeyPart? (text : List Char) : Option (String × List Char) :=
  match text with
  | '"' :: rest => (readBasic? (text.length + 1) [] rest).map fun (cs, rest) => (.ofList cs, rest)
  | '\'' :: rest => (readLiteral? [] rest).map fun (cs, rest) => (.ofList cs, rest)
  | _ =>
    let bare := text.takeWhile isBare
    if bare.isEmpty then none else some (.ofList bare, text.dropWhile isBare)

/-- The greatest depth that nested values, and the parts of one key, stay below. -/
def depthLimit : Nat := 80

/-- Reads the parts of a key, with points between them and blanks around each; `parts` holds those
already read, the last one first. -/
def readKeyParts? : Nat → List String → List Char → Option (List String × List Char)
  | 0, _, _ => none
  | fuel + 1, parts, text => do
    let (part, rest) ← readKeyPart? (skipBlanks text)
    match skipBlanks rest with
    | '.' :: rest => readKeyParts? fuel (part :: parts) rest
    | rest => some ((part :: parts).reverse, rest)

/-- Reads a key; a key has fewer than `depthLimit` parts. -/
def readKey? (text : List Char) : Option (List String × List Char) :=
  readKeyParts? (depthLimit - 1) [] text

end ConfigKeys.Toml
