import ConfigKeys.Name.Basic

/-!
# Order and kinship of names

Names are ordered segment by segment, and a name comes before all that lies below it.  Two names
are related when the segments of one begin with those of the other.

## Main definitions

* `Name.compare`, `Name.sort` — the order of names.
* `Relation` — how one name lies to another, with its code, its inverse and its label.
* `Name.relation` — the relation of two names.
* `Name.isBelow`, `Name.isBelowOrSame`, `Name.isDirectBelow`.
-/

namespace ConfigKeys

/-- The order of texts: by code point, and a text comes before its continuations. -/
def compareChars : List Char → List Char → Ordering
  | [], [] => .eq
  | [], _ :: _ => .lt
  | _ :: _, [] => .gt
  | a :: s, b :: t =>
    if a.toNat < b.toNat then .lt else if b.toNat < a.toNat then .gt else compareChars s t

/-- The order of paths: segment by segment, and a path comes before its continuations. -/
def compareSegments : List String → List String → Ordering
  | [], [] => .eq
  | [], _ :: _ => .lt
  | _ :: _, [] => .gt
  | a :: s, b :: t =>
    match compareChars a.toList b.toList with
    | .eq => compareSegments s t
    | decided => decided

/-- How one name lies to another. -/
inductive Relation
  /-- Two or more levels up. -/
  | ancestor
  /-- One level up. -/
  | directParent
  /-- The same name. -/
  | same
  /-- One level down. -/
  | directChild
  /-- Two or more levels down. -/
  | descendant
  /-- Neither lies below the other. -/
  | unrelated
  deriving DecidableEq

namespace Relation

/-- The code that hosts exchange. -/
def code : Relation → Int
  | .ancestor => -2
  | .directParent => -1
  | .same => 0
  | .directChild => 1
  | .descendant => 2
  | .unrelated => -3

/-- The relation of a code. -/
def ofCode? (code : Int) : Option Relation :=
  [.ancestor, .directParent, .same, .directChild, .descendant, .unrelated].find?
    fun r : Relation => r.code = code

/-- The relation as the other name sees it. -/
def inverse : Relation → Relation
  | .ancestor => .descendant
  | .directParent => .directChild
  | .same => .same
  | .directChild => .directParent
  | .descendant => .ancestor
  | .unrelated => .unrelated

/-- Whether the other name lies further down. -/
def isBelow : Relation → Bool
  | .directChild | .descendant => true
  | _ => false

/-- The relation in words. -/
def label : Relation → String
  | .ancestor => "ancestor"
  | .directParent => "direct parent"
  | .same => "same"
  | .directChild => "direct child"
  | .descendant => "descendant"
  | .unrelated => "unrelated"

@[simp] theorem inverse_inverse (r : Relation) : r.inverse.inverse = r := by cases r <;> rfl

@[simp] theorem ofCode?_code (r : Relation) : ofCode? r.code = some r := by cases r <;> decide

/-- The relation of the path `t` to the path `s`: what is left of each once the common beginning
is gone decides it. -/
def ofSegments : List String → List String → Relation
  | [], [] => .same
  | [], [_] => .directChild
  | [], _ :: _ :: _ => .descendant
  | [_], [] => .directParent
  | _ :: _ :: _, [] => .ancestor
  | a :: s, b :: t => if a = b then ofSegments s t else .unrelated

end Relation

namespace Name

/-- The order of names. -/
def compare (a b : Name) : Ordering := compareSegments a.segments b.segments

/-- Names in their order; equal ones stay side by side. -/
def sort (names : List Name) : List Name := names.mergeSort fun a b => a.compare b != .gt

/-- The relation of `b` to `a`. -/
def relation (a b : Name) : Relation := .ofSegments a.segments b.segments

/-- Whether `a` lies below `b`. -/
def isBelow (a b : Name) : Bool := (relation b a).isBelow

/-- Whether `a` is `b` or lies below it. -/
def isBelowOrSame (a b : Name) : Bool := (relation b a).isBelow || relation b a = .same

/-- Whether `a` lies one level below `b`. -/
def isDirectBelow (a b : Name) : Bool := relation b a = .directChild

end Name

end ConfigKeys
