import ConfigKeys.Text.Hex
import ConfigKeys.Text.Unprintable

/-!
# Quoted texts

For people who look for a fault, a text is shown between quotation marks, with all that cannot be
seen written out.

## Main definitions

* `Quoted.quoteChar` — a character as it stands between quotation marks.
* `Quoted.quote` — a text between quotation marks.
-/

namespace ConfigKeys.Quoted

/-- The hexadecimal digits of a code point, without leading zeros. -/
def digits (code : Nat) : List Char :=
  match (Hex.ofNat 6 code).dropWhile (· = '0') with
  | [] => ['0']
  | found => found

/-- A character as it stands between quotation marks. -/
def quoteChar (c : Char) : List Char :=
  match c with
  | '"' => ['\\', '"']
  | '\\' => ['\\', '\\']
  | '\n' => ['\\', 'n']
  | '\r' => ['\\', 'r']
  | '\t' => ['\\', 't']
  | '\x00' => ['\\', '0']
  | _ => if isPrintable c then [c] else ['\\', 'u', '{'] ++ digits c.toNat ++ ['}']

/-- A text between quotation marks. -/
def quote (text : String) : String := .ofList ('"' :: text.toList.flatMap quoteChar ++ ['"'])

end ConfigKeys.Quoted
