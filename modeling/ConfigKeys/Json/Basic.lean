import ConfigKeys.Number.Decimal
import ConfigKeys.Text.Hex

/-!
# JSON texts

Hosts keep some settings as JSON.  A text is read into a tree that keeps what a reader of settings
may still object to: a number stays as it is spelled, and a string that names half of a surrogate
pair has no text.  Settings that nobody asks for are passed over, so such strings do no harm there.

## Main definitions

* `Json` — the tree of a text.
* `Json.parse?` — reads a whole text.
* `Json.fields?` — the fields of a record, given by name or in order.
* `Json.quote` — a string as a JSON text.
-/

namespace ConfigKeys

/-- A JSON value. -/
inductive Json
  | null
  | boolean (value : Bool)
  /-- A number, as it is spelled. -/
  | number (spelling : List Char)
  /-- A string; it has no text if an escape in it names half of a surrogate pair. -/
  | string (text : Option String)
  | array (items : List Json)
  | object (members : List (Option String × Json))

namespace Json

/-- White space between the parts of a text. -/
def isBlank (c : Char) : Bool := c = ' ' || c = '\n' || c = '\r' || c = '\t'

/-- The text after the white space at its beginning. -/
def skipBlanks (text : List Char) : List Char := text.dropWhile isBlank

/-- The number that four hexadecimal digits spell. -/
def codeUnit? (a b c d : Char) : Option Nat := Hex.number? [a, b, c, d]

/-- A string in the middle of being read. -/
structure StringState where
  /-- The characters so far, the last one first. -/
  chars : List Char := []
  /-- The first half of a surrogate pair, if it came just before. -/
  half : Option Nat := none
  /-- Whether some half of a pair was left alone. -/
  broken : Bool := false

namespace StringState

/-- Takes a character. -/
def push (s : StringState) (c : Char) : StringState :=
  ⟨c :: s.chars, none, s.broken || s.half.isSome⟩

/-- Takes a unit of two bytes from an escape. -/
def pushUnit (s : StringState) (u : Nat) : StringState :=
  if 0xD800 ≤ u ∧ u < 0xDC00 then ⟨s.chars, some u, s.broken || s.half.isSome⟩
  else if 0xDC00 ≤ u ∧ u < 0xE000 then
    match s.half with
    | some high =>
      ⟨.ofNat (0x10000 + (high - 0xD800) * 0x400 + (u - 0xDC00)) :: s.chars, none, s.broken⟩
    | none => ⟨s.chars, none, true⟩
  else s.push (.ofNat u)

/-- The text of the whole string. -/
def text? (s : StringState) : Option String :=
  if s.broken || s.half.isSome then none else some (.ofList s.chars.reverse)

end StringState

/-- Reads on in a string, to its closing quote. -/
def readString? (s : StringState) : List Char → Option (Option String × List Char)
  | '"' :: rest => some (s.text?, rest)
  | '\\' :: 'u' :: a :: b :: c :: d :: rest =>
    match codeUnit? a b c d with
    | some u => readString? (s.pushUnit u) rest
    | none => none
  | '\\' :: c :: rest =>
    match c with
    | '"' => readString? (s.push '"') rest
    | '\\' => readString? (s.push '\\') rest
    | '/' => readString? (s.push '/') rest
    | 'b' => readString? (s.push '\x08') rest
    | 'f' => readString? (s.push '\x0c') rest
    | 'n' => readString? (s.push '\n') rest
    | 'r' => readString? (s.push '\r') rest
    | 't' => readString? (s.push '\t') rest
    | _ => none
  | c :: rest => if c.toNat < 32 then none else readString? (s.push c) rest
  | [] => none

/-- Whether a text spells a number: a whole part that begins with zero only when it is zero, and
perhaps a fraction and an exponent. -/
def isNumber (text : List Char) : Bool :=
  let unsigned := if text.head? = some '-' then text.tail else text
  let whole := unsigned.takeWhile Decimal.isDigit
  let rest := unsigned.dropWhile Decimal.isDigit
  let wholeFits := !whole.isEmpty && (whole.length = 1 || whole.head? ≠ some '0')
  let hasPoint := rest.head? = some '.'
  let part := if hasPoint then rest.tail.takeWhile Decimal.isDigit else []
  let rest := if hasPoint then rest.tail.dropWhile Decimal.isDigit else rest
  wholeFits && (!hasPoint || !part.isEmpty) && (Decimal.exponent? rest).isSome

/-- Whether a character may stand in a number. -/
def isNumberChar (c : Char) : Bool :=
  Decimal.isDigit c || c = '-' || c = '+' || c = '.' || c = 'e' || c = 'E'

mutual

/-- Reads a value. -/
def readValue? : Nat → List Char → Option (Json × List Char)
  | 0, _ => none
  | fuel + 1, text =>
    match skipBlanks text with
    | 'n' :: 'u' :: 'l' :: 'l' :: rest => some (.null, rest)
    | 't' :: 'r' :: 'u' :: 'e' :: rest => some (.boolean true, rest)
    | 'f' :: 'a' :: 'l' :: 's' :: 'e' :: rest => some (.boolean false, rest)
    | '"' :: rest => (readString? {} rest).map fun (s, rest) => (.string s, rest)
    | '[' :: rest =>
      match skipBlanks rest with
      | ']' :: rest => some (.array [], rest)
      | rest => readItems? fuel [] rest
    | '{' :: rest =>
      match skipBlanks rest with
      | '}' :: rest => some (.object [], rest)
      | rest => readMembers? fuel [] rest
    | text =>
      let spelling := text.takeWhile isNumberChar
      if isNumber spelling then some (.number spelling, text.dropWhile isNumberChar) else none

/-- Reads on in an array, at an item; `items` holds those read, the last one first. -/
def readItems? : Nat → List Json → List Char → Option (Json × List Char)
  | 0, _, _ => none
  | fuel + 1, items, text => do
    let (item, rest) ← readValue? fuel text
    match skipBlanks rest with
    | ']' :: rest => some (.array (item :: items).reverse, rest)
    | ',' :: rest => readItems? fuel (item :: items) rest
    | _ => none

/-- Reads on in an object, at a member; `members` holds those read, the last one first. -/
def readMembers? : Nat → List (Option String × Json) → List Char → Option (Json × List Char)
  | 0, _, _ => none
  | fuel + 1, members, text =>
    match skipBlanks text with
    | '"' :: rest => do
      let (name, rest) ← readString? {} rest
      match skipBlanks rest with
      | ':' :: rest => do
        let (v, rest) ← readValue? fuel rest
        match skipBlanks rest with
        | '}' :: rest => some (.object ((name, v) :: members).reverse, rest)
        | ',' :: rest => readMembers? fuel ((name, v) :: members) rest
        | _ => none
      | _ => none
    | _ => none

end

/-- The value of a whole text. -/
def parse? (text : String) : Option Json := do
  let (v, rest) ← readValue? (2 * text.length + 2) text.toList
  if (skipBlanks rest).isEmpty then some v else none

/-- The member of a name in an object, `none` inside if there is none.  Several members of the name
are too many. -/
def member? (members : List (Option String × Json)) (name : String) : Option (Option Json) :=
  match members.filter fun m => m.1 = some name with
  | [] => some none
  | [m] => some (some m.2)
  | _ => none

/-- The fields of a record.  An object gives them by name, each at most once, and may hold others;
an array gives them in order, and may stop early. -/
def fields? (names : List String) : Json → Option (List (Option Json))
  | .object members =>
    if members.any fun m => m.1.isNone then none else names.mapM (member? members)
  | .array items =>
    if items.length ≤ names.length then
      some (items.map some ++ List.replicate (names.length - items.length) none)
    else none
  | _ => none

/-- The text of a string. -/
def text? : Json → Option String
  | .string text => text
  | _ => none

/-- The value of a number without sign, fraction and exponent that fits into 64 bits. -/
def size? : Json → Option Nat
  | .number spelling => do
    let n ← Decimal.natural? spelling
    if n < twoTo 64 then some n else none
  | _ => none

/-- The items of an array, each read in the same way. -/
def list? {α : Type} (read? : Json → Option α) : Json → Option (List α)
  | .array items => items.mapM read?
  | _ => none

/-- A field read in the given way, or its default where it is missing. -/
def orDefault? {α : Type} (default : α) (read? : Json → Option α) : Option Json → Option α
  | none => some default
  | some v => read? v

/-- A character as it stands inside a quoted string. -/
def quoteChar (c : Char) : List Char :=
  match c with
  | '"' => ['\\', '"']
  | '\\' => ['\\', '\\']
  | '\x08' => ['\\', 'b']
  | '\x0c' => ['\\', 'f']
  | '\n' => ['\\', 'n']
  | '\r' => ['\\', 'r']
  | '\t' => ['\\', 't']
  | _ =>
    if c.toNat < 32 then '\\' :: 'u' :: Hex.ofNat 4 c.toNat else [c]

/-- A string as a JSON text. -/
def quote (text : String) : String := .ofList ('"' :: text.toList.flatMap quoteChar ++ ['"'])

end Json

end ConfigKeys
