import ConfigKeys.Name.Relation
import ConfigKeys.Toml.Datetime

/-!
# TOML values

The tree that a configuration text stands for.  As it is written, a table has its members in the
order of the text; when it is resolved, it has them in the order of their names.

A table inside another value may also stand for a date and time: it does if the first of its members
as written is named `datetimeName`, and spells the date and time.  The members after that one do not
count, whatever they are.

## Main definitions

* `Toml.Value` — the tree.
* `Toml.sortMembers` — the members of a table in order.
* `Toml.Value.resolve?` — what a tree as it is written stands for.
-/

namespace ConfigKeys.Toml

/-- A value of a configuration text. -/
inductive Value
  | text (value : String)
  | integer (value : Int)
  /-- A number in double precision, as its bit pattern. -/
  | float (bits : Nat)
  | boolean (value : Bool)
  | datetime (value : Datetime)
  | array (items : List Value)
  | table (members : List (String × Value))

/-- Members in the order of their names. -/
def sortMembers (members : List (String × Value)) : List (String × Value) :=
  members.mergeSort fun a b => (compareChars a.1.toList b.1.toList).isLE

/-- The name of the member by which a table stands for a date and time. -/
def datetimeName : String := "$__toml_private_datetime"

/-- Whether a table, with its members as written, stands for a date and time. -/
def spellsDatetime (members : List (String × Value)) : Bool :=
  members.head?.any fun m => m.1 = datetimeName

/-- The date and time that the first member spells. -/
def spelledDatetime? : List (String × Value) → Option Datetime
  | (_, .text spelling) :: _ => Datetime.ofText? spelling
  | _ => none

mutual

/-- What a value as it is written stands for, unless a date and time in it is misspelled. -/
def Value.resolve? : Value → Option Value
  | .array items => (resolveItems? items).map .array
  | .table members =>
    if spellsDatetime members then (spelledDatetime? members).map .datetime
    else (resolveMembers? members).map fun members => .table (sortMembers members)
  | v => some v

/-- What the items of an array stand for. -/
def resolveItems? : List Value → Option (List Value)
  | [] => some []
  | item :: items => do
    let item ← item.resolve?
    let items ← resolveItems? items
    some (item :: items)

/-- What the members of a table stand for, in the order in which they are written. -/
def resolveMembers? : List (String × Value) → Option (List (String × Value))
  | [] => some []
  | (name, v) :: members => do
    let v ← v.resolve?
    let members ← resolveMembers? members
    some ((name, v) :: members)

end

end ConfigKeys.Toml
