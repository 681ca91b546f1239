import ConfigKeys.Pool.Basic

/-!
# What keys say, without sharing

A *tree* is all that a key says — name, value, and the same of each key of its metadata, in order —
with no record behind it.  Two keys say the same exactly when their trees are equal, and a copy of a
key is made by reading its tree and planting it.

## Main definitions

* `KeyTree` — a tree.
* `Pool.tree` — the tree of a record.
* `Pool.plant` — makes records for a tree.
* `Pool.copy` — an independent copy of a record.
* `KeyView`, `Pool.view` — what hosts are shown of a key.
-/

namespace ConfigKeys

/-- What a key says. -/
inductive KeyTree
  | node (name : Name) (value : Value) (entries : List KeyTree)

namespace KeyTree

/-- The name at the top. -/
def name : KeyTree → Name
  | .node name _ _ => name

/-- The value at the top. -/
def value : KeyTree → Value
  | .node _ value _ => value

/-- The trees of the metadata. -/
def entries : KeyTree → List KeyTree
  | .node _ _ entries => entries

end KeyTree

/-- What hosts are shown of a key. -/
inductive KeyView
  | mk (name : Name) (value : Value) (locked : Bool) (entries : List KeyView)

namespace Pool

/-- Sums a record up, from what its metadata sums up to.  A chain of metadata is no longer than the
number `fuel` of its records. -/
def foldUpTo {α : Type} (p : Pool) (f : Record → List α → α) : Nat → RecordId → α
  | 0, id => f (p.record id) []
  | fuel + 1, id => f (p.record id) ((p.record id).entries.map fun e => p.foldUpTo f fuel e.id)

/-- The tree of a record. -/
def tree (p : Pool) (id : RecordId) : KeyTree :=
  p.foldUpTo (fun r entries => .node r.name r.value entries) p.nextId id

/-- What hosts are shown of a record. -/
def view (p : Pool) (id : RecordId) : KeyView :=
  p.foldUpTo (fun r entries => .mk r.name r.value (0 < r.locks) entries) p.nextId id

/-- Puts a record at the end of another one's metadata. -/
def addEntry (p : Pool) (owner id : RecordId) : Pool :=
  (p.lock id).modify owner fun r => { r with entries := r.entries ++ [⟨id, {}⟩] }

mutual

/-- Makes records for a tree; the one at its top takes the next number, and nobody holds it yet. -/
def plant (p : Pool) : KeyTree → Pool
  | .node name value entries => plantEntries (p.alloc { name, value }) p.nextId entries

/-- Makes records for trees, and puts them at the end of the metadata of `owner`. -/
def plantEntries (p : Pool) (owner : RecordId) : List KeyTree → Pool
  | [] => p
  | t :: rest => plantEntries ((p.plant t).addEntry owner p.nextId) owner rest

end

/-- Copies a record and its metadata; the copy takes the next number, and nobody holds it yet. -/
def copy (p : Pool) (id : RecordId) : Pool := p.plant (p.tree id)

end Pool

end ConfigKeys
