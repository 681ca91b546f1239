import ConfigKeys.Key.Basic

/-!
# Key sets

A key set holds keys of different names in the order of the names, and a cursor for a walk along
them.  Because of the order, a key is found by halving, and the keys at or below a name stand side
by side.

## Main definitions

* `KeySet` — the keys and the cursor.
* `KeySet.lowerBound`, `KeySet.find?` — search by name.
* `KeySet.append`, `KeySet.remove`, `KeySet.cut`, `KeySet.below` — the set as keys come and go.
* `KeySet.next`, `KeySet.current` — the walk, which keeps its place while keys come and go.
-/

namespace ConfigKeys

/-- Keys in the order of their names, and a place among them. -/
structure KeySet where
  /-- The keys. -/
  keys : Array Key := #[]
  /-- The place of a walk. -/
  cursor : Cursor := {}
  deriving Inhabited

namespace KeySet

/-- The number of keys. -/
def size (s : KeySet) : Nat := s.keys.size

/-- The keys as a list. -/
def toList (s : KeySet) : List Key := s.keys.toList

/-! ### Search -/

/-- Halves the interval from `lo` up to `hi` until it is empty: the keys before it come before the
name, those from its end on do not.  Each step halves at least once, so `fuel` keys are enough. -/
def lowerBoundIn (p : Pool) (keys : Array Key) (n : Name) : Nat → Nat → Nat → Nat
  | 0, lo, _ => lo
  | fuel + 1, lo, hi =>
    if lo < hi then
      let mid := lo + (hi - lo) / 2
      if (p.name (keys.getD mid default)).compare n = .lt then
        lowerBoundIn p keys n fuel (mid + 1) hi
      else lowerBoundIn p keys n fuel lo mid
    else lo

/-- The number of keys that come before a name. -/
def lowerBound (p : Pool) (s : KeySet) (n : Name) : Nat :=
  lowerBoundIn p s.keys n s.size 0 s.size

/-- The key of a name. -/
def find? (p : Pool) (s : KeySet) (n : Name) : Option Key :=
  (s.keys[s.lowerBound p n]?).filter fun k => p.name k = n

/-- Whether there is a key of a name. -/
def contains (p : Pool) (s : KeySet) (n : Name) : Bool := (s.find? p n).isSome

/-- The keys that stand in a relation to a name. -/
def related (p : Pool) (s : KeySet) (n : Name) (r : Relation) : List Key :=
  s.toList.filter fun k => n.relation (p.name k) = r

/-- Where the keys at or below a name begin, and how many they are. -/
def span (p : Pool) (s : KeySet) (n : Name) : Nat × Nat :=
  let start := s.lowerBound p n
  (start, ((s.toList.drop start).takeWhile fun k => (p.name k).isBelowOrSame n).length)

/-- The keys at or below a name. -/
def subtree (p : Pool) (s : KeySet) (n : Name) : Array Key :=
  let (start, count) := s.span p n
  s.keys.extract start (start + count)

/-! ### The cursor as keys come and go -/

/-- The cursor after a key was inserted at `index`: it stays with its key. -/
def cursorAfterInsert (c : Cursor) (index : Nat) : Cursor :=
  ⟨c.position.map fun i => if index ≤ i then i + 1 else i⟩

/-- The cursor after `count` keys from `start` on were removed: it stays with its key, and if that
is gone it steps back, so that the walk goes on with the key after the gap. -/
def cursorAfterRemoval (c : Cursor) (start count : Nat) : Cursor :=
  ⟨c.position.bind fun i =>
    if start + count ≤ i then some (i - count)
    else if start ≤ i then if start = 0 then none else some (start - 1)
    else some i⟩

/-! ### Keys come and go -/

/-- Inserts a key; it takes the place of the key of its name.  A record that is already there stays
as it is. -/
def append (p : Pool) (s : KeySet) (k : Key) : Pool × KeySet :=
  let index := s.lowerBound p (p.name k)
  match s.find? p (p.name k) with
  | some old =>
    if old.id = k.id then (p, s)
    else ((p.lock k.id).detach old.id, { s with keys := s.keys.setIfInBounds index k })
  | none =>
    (p.lock k.id,
      { keys := s.keys.insertIdxIfInBounds index k, cursor := cursorAfterInsert s.cursor index })

/-- Inserts keys one after the other. -/
def appendAll (p : Pool) (s : KeySet) (keys : List Key) : Pool × KeySet :=
  keys.foldl (fun (p, s) k => append p s k) (p, s)

/-- The set of keys, of which later ones take the place of earlier ones. -/
def ofList (p : Pool) (keys : List Key) : Pool × KeySet := appendAll p {} keys

/-- Removes the key of a name and hands it over: it is no longer counted here, and not dropped. -/
def remove (p : Pool) (s : KeySet) (n : Name) : Option Key × Pool × KeySet :=
  let index := s.lowerBound p n
  match s.find? p n with
  | none => (none, p, s)
  | some k =>
    (some k, p.unlock k.id,
      { keys := s.keys.eraseIdxIfInBounds index, cursor := cursorAfterRemoval s.cursor index 1 })

/-- A set of the keys at or below a name, which shares the records. -/
def below (p : Pool) (s : KeySet) (n : Name) : Pool × KeySet :=
  let keys := s.subtree p n
  (p.lockAll keys.toList, { keys })

/-- Moves the keys at or below a name to a set of their own, which stands first in the answer. -/
def cut (p : Pool) (s : KeySet) (n : Name) : KeySet × KeySet :=
  let (start, count) := s.span p n
  ({ keys := s.keys.extract start (start + count) },
    { keys := s.keys.extract 0 start ++ s.keys.extract (start + count),
      cursor := cursorAfterRemoval s.cursor start count })

/-- Gives up a set. -/
def drop (p : Pool) (s : KeySet) : Pool := p.detachAll s.toList

/-- Another set of the same keys, at the same place. -/
def share (p : Pool) (s : KeySet) : Pool × KeySet := (p.lockAll s.toList, s)

/-- A set of copies. -/
def copy (p : Pool) (s : KeySet) : Pool × KeySet :=
  s.toList.foldl (fun (p, copies) k => append (p.copy k.id) copies ⟨p.nextId, {}⟩) (p, {})

/-- Gives the keys of one set up for those of another. -/
def replace (p : Pool) (s other : KeySet) : Pool × KeySet := (s.drop p, { keys := other.keys })

/-! ### The walk -/

/-- Goes back to the place before the first key. -/
def rewind (s : KeySet) : KeySet := { s with cursor := {} }

/-- The key one place further, and the set there. -/
def next (s : KeySet) : Option Key × KeySet :=
  let cursor := s.cursor.advance s.size
  (cursor.item? s.toList, { s with cursor })

/-- The key at the cursor. -/
def current (s : KeySet) : Option Key := s.cursor.item? s.toList

end KeySet

end ConfigKeys
