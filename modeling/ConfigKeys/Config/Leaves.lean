import ConfigKeys.Name.Parse
import ConfigKeys.Toml.Value
import ConfigKeys.Value.Typed

/-!
# The entries of a configuration text

A configuration text is a tree; its entries are the leaves, each under the name that the path to it
spells.  A member of a table is a segment as it is, and the item of an array at place `i` is the
segment `#i`.

## Main definitions

* `Toml.Value.leaves` — the leaves at or below a value, in order, or the first name that does not
  keep within the limits on names.
-/

namespace ConfigKeys.Toml

/-- The segment of a place in an array. -/
def placeSegment (i : Nat) : String := s!"#{i}"

mutual

/-- The leaves of a value that stands under a name, after those in `found`, the last one first. -/
def Value.leavesAfter (found : List (Name × String)) (n : Name) :
    Value → Except KeyError (List (Name × String))
  | .text value => .ok ((n, value) :: found)
  | .integer value => .ok ((n, toString value) :: found)
  | .float bits => .ok ((n, BinaryFormat.double.write bits) :: found)
  | .boolean value => .ok ((n, (TypedValue.boolean value).text) :: found)
  | .datetime value => .ok ((n, value.text) :: found)
  | .array items => itemLeavesAfter found n 0 items
  | .table members => memberLeavesAfter found n members

/-- The leaves of the items of an array from place `i` on. -/
def itemLeavesAfter (found : List (Name × String)) (n : Name) (i : Nat) :
    List Value → Except KeyError (List (Name × String))
  | [] => .ok found
  | v :: rest =>
    match n.child (placeSegment i) with
    | .error e => .error e
    | .ok inner =>
      match v.leavesAfter found inner with
      | .error e => .error e
      | .ok found => itemLeavesAfter found n (i + 1) rest

/-- The leaves of the members of a table. -/
def memberLeavesAfter (found : List (Name × String)) (n : Name) :
    List (String × Value) → Except KeyError (List (Name × String))
  | [] => .ok found
  | (name, v) :: rest =>
    match n.child name with
    | .error e => .error e
    | .ok inner =>
      match v.leavesAfter found inner with
      | .error e => .error e
      | .ok found => memberLeavesAfter found n rest

end

/-- The leaves of a tree that stands under a name. -/
def Value.leaves (n : Name) (v : Value) : Except KeyError (List (Name × String)) :=
  (v.leavesAfter [] n).map List.reverse

end ConfigKeys.Toml
