/-!
# White space

## Main definitions

* `Blank.isBlank` — the characters with the Unicode property `White_Space`.
* `Blank.words` — the words of a text.
* `Blank.trim` — a text without the white space at its ends.
-/

namespace ConfigKeys.Blank

/-- The code points with the property `White_Space`, as ranges. -/
def ranges : List (Nat × Nat) :=
  [(0x09, 0x0D), (0x20, 0x20), (0x85, 0x85), (0xA0, 0xA0), (0x1680, 0x1680), (0x2000, 0x200A),
    (0x2028, 0x2029), (0x202F, 0x202F), (0x205F, 0x205F), (0x3000, 0x3000)]

/-- Whether a character is white space. -/
def isBlank (c : Char) : Bool := ranges.any fun r => r.1 ≤ c.toNat && c.toNat ≤ r.2

/-- The words of a text, from a word of which `word` was read, the last character first, and after
the words `found`, the last one first. -/
def wordsFrom (word : List Char) (found : List String) : List Char → List String
  | [] => (if word.isEmpty then found else .ofList word.reverse :: found).reverse
  | c :: rest =>
    if isBlank c then
      wordsFrom [] (if word.isEmpty then found else .ofList word.reverse :: found) rest
    else wordsFrom (c :: word) found rest

/-- The words of a text: its longest parts without white space. -/
def words (text : String) : List String := wordsFrom [] [] text.toList

/-- A text without the white space at its ends. -/
def trim (text : List Char) : List Char :=
  ((text.dropWhile isBlank).reverse.dropWhile isBlank).reverse

end ConfigKeys.Blank
