import ConfigKeys.Name.Fault

/-!
# Segments and their escaped form

A segment is any text.  In a written name a separator or an escape character inside a segment
carries an escape character in front of it.  Four segments are written in a way of their own,
because their plain spelling means something else: the empty segment is `%`, and the segments `%`,
`.` and `..` carry one escape character in front.

## Main definitions

* `Segment.escape` — the written form of a segment.
* `Segment.unescape` — the segment of a written form, or what is wrong with it.
* `Segment.split` — a written path, cut at the separators that are not escaped.
-/

namespace ConfigKeys

namespace Segment

/-- One character inside a written segment. -/
def escapeChar (c : Char) : List Char := if c = '/' ∨ c = '\\' then ['\\', c] else [c]

/-- The written form of a segment, as characters. -/
def escapeChars : List Char → List Char
  | [] => ['%']
  | ['%'] => ['\\', '%']
  | ['.'] => ['\\', '.']
  | ['.', '.'] => ['\\', '.', '.']
  | cs => cs.flatMap escapeChar

/-- The written form of a segment. -/
def escape (segment : String) : String := .ofList (escapeChars segment.toList)

/-- Undoes the escapes of characters.  `position` is the byte where the text begins, and `acc`
holds what came before it, the last character first. -/
def unescapeFrom (position : Nat) (acc : List Char) : List Char → Except NameFault (List Char)
  | [] => .ok acc.reverse
  | ['\\'] => .error (.danglingEscape position)
  | '\\' :: c :: rest =>
    if c = '/' ∨ c = '\\' then unescapeFrom (position + 1 + c.utf8Size) (c :: acc) rest
    else .error (.invalidEscape position)
  | c :: rest => unescapeFrom (position + c.utf8Size) (c :: acc) rest

/-- The segment that a written form stands for.  `position` is the byte where the form begins. -/
def unescapeAt (position : Nat) : List Char → Except NameFault (List Char)
  | ['%'] => .ok []
  | ['\\', '%'] => .ok ['%']
  | ['\\', '.'] => .ok ['.']
  | ['\\', '.', '.'] => .ok ['.', '.']
  | cs => unescapeFrom position [] cs

/-- The segment that a written form stands for. -/
def unescape (escaped : String) : Except KeyError String :=
  match unescapeAt 0 escaped.toList with
  | .ok segment => .ok (.ofList segment)
  | .error fault => .error (.invalidName escaped fault)

/-- A part of a written path between two separators. -/
structure Part where
  /-- The byte where the part begins. -/
  position : Nat
  /-- The part as it is written. -/
  text : List Char
  deriving DecidableEq

/-- Cuts a written path.  `position` is the byte that is read next, `start` the one where the part
in hand begins; `part` and `parts` hold what was read, the last of each first. -/
def splitFrom (position start : Nat) (part : List Char) (parts : List Part) :
    List Char → Except NameFault (List Part)
  | [] => .ok (⟨start, part.reverse⟩ :: parts).reverse
  | ['\\'] => .error (.danglingEscape position)
  | '\\' :: c :: rest =>
    splitFrom (position + 1 + c.utf8Size) start (c :: '\\' :: part) parts rest
  | '/' :: rest =>
    splitFrom (position + 1) (position + 1) [] (⟨start, part.reverse⟩ :: parts) rest
  | c :: rest => splitFrom (position + c.utf8Size) start (c :: part) parts rest

/-- The parts of a written path that begins at byte `position`. -/
def split (position : Nat) (path : List Char) : Except NameFault (List Part) :=
  splitFrom position position [] [] path

end Segment

end ConfigKeys
