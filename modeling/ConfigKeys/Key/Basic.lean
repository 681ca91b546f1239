import ConfigKeys.Pool.Registry
import ConfigKeys.Name.Relation
import ConfigKeys.Value.Typed

/-!
# Operations on keys

## Main definitions

* `Pool.setName`, `Pool.setBase`, `Pool.addBase` — renaming, which a container forbids.
* `Pool.setValue` — storing a value.
* `Pool.meta?`, `Pool.setMeta`, `Pool.removeMeta` — one entry of the metadata.
* `Pool.copyMeta`, `Pool.copyAllMeta` — entries from another key.
* `Pool.currentMeta`, `Pool.nextMeta` — walking along the metadata.
* `Pool.sameContent` — equality of keys but for their metadata.
-/

namespace ConfigKeys

namespace Pool

/-! ### Names -/

/-- Changes the name of a key, unless a container pins it. -/
def rename (p : Pool) (k : Key) (change : Name → Except KeyError Name) : Except KeyError Pool :=
  if p.isLocked k then .error (.nameLocked (p.name k).canonical)
  else
    match change (p.name k) with
    | .error e => .error e
    | .ok n => .ok (p.modify k.id fun r => { r with name := n })

/-- Gives a key another name. -/
def setName (p : Pool) (k : Key) (raw : String) : Except KeyError Pool :=
  match Name.parse raw with
  | .error e => .error e
  | .ok n => p.rename k fun _ => .ok n

/-- Gives a key another last segment. -/
def setBase (p : Pool) (k : Key) (segment : String) : Except KeyError Pool :=
  p.rename k fun n => n.withBase segment

/-- Moves a key further along a written path. -/
def addBase (p : Pool) (k : Key) (relative : String) : Except KeyError Pool :=
  p.rename k fun n => n.extend relative

/-! ### Values -/

/-- Stores a value. -/
def setValue (p : Pool) (k : Key) (v : Value) : Pool := p.modify k.id fun r => { r with value := v }

/-- The value of a key as a text. -/
def text (p : Pool) (k : Key) : String := (p.value k).text

/-! ### Metadata -/

/-- Inserts a key into the metadata of another; the entry whose place it takes is let go. -/
def insertEntry (p : Pool) (owner : RecordId) (k : Key) : Pool :=
  let entries : Registry := (p.record owner).entries
  ((p.lock k.id).modify owner fun r => { r with entries := entries.put p k }).detachAll
    (entries.get? p (p.name k)).toList

/-- Puts a new entry into the metadata of a key. -/
def setEntry (p : Pool) (k : Key) (n : Name) (v : Value) : Pool :=
  (p.alloc { name := n, value := v }).insertEntry k.id ⟨p.nextId, {}⟩

/-- Removes an entry from the metadata of a key and hands it over. -/
def removeEntry (p : Pool) (k : Key) (n : Name) : Option Key × Pool :=
  let entries : Registry := p.entries k
  match entries.get? p n with
  | none => (none, p)
  | some e =>
    (some e, (p.modify k.id fun r => { r with entries := entries.without p n }).unlock e.id)

/-- Puts a copy of an entry that nobody holds yet into the metadata of a key. -/
def plantEntry (p : Pool) (k : Key) (t : KeyTree) : Pool :=
  (p.plant t).insertEntry k.id ⟨p.nextId, {}⟩

/-- The entry of a name in the metadata of a key.  What is not a name finds nothing. -/
def meta? (p : Pool) (k : Key) (raw : String) : Option Key :=
  match metaName raw with
  | .error _ => none
  | .ok n => Registry.get? p (p.entries k) n

/-- The text of an entry. -/
def metaText? (p : Pool) (k : Key) (raw : String) : Option String := (p.meta? k raw).map p.text

/-- Sets an entry to a text. -/
def setMeta (p : Pool) (k : Key) (raw text : String) : Except KeyError Pool :=
  match metaName raw with
  | .error e => .error e
  | .ok n => .ok (p.setEntry k n (.ofText text))

/-- Removes an entry and hands it over. -/
def removeMeta (p : Pool) (k : Key) (raw : String) : Except KeyError (Option Key × Pool) :=
  match metaName raw with
  | .error e => .error e
  | .ok n => .ok (p.removeEntry k n)

/-- Drops what was handed over, if nobody else holds it. -/
def dropHanded (handed : Option Key × Pool) : Pool :=
  match handed.1 with
  | none => handed.2
  | some k => handed.2.reclaim k.id

/-- Copies the entry of a name from another key; an entry that is missing there goes here too. -/
def copyMeta (p : Pool) (k source : Key) (raw : String) : Except KeyError Pool :=
  match metaName raw with
  | .error e => .error e
  | .ok n =>
    match Registry.get? p (p.entries source) n with
    | some e => .ok (p.plantEntry k (p.tree e.id))
    | none => .ok (dropHanded (p.removeEntry k n))

/-- Copies every entry from another key. -/
def copyAllMeta (p : Pool) (k source : Key) : Pool :=
  ((p.entries source).map fun e => p.tree e.id).foldl (fun p t => p.plantEntry k t) p

/-- The entry at the place of a handle, and the handle.  The place before the first entry becomes
that of the first entry. -/
def currentMeta (p : Pool) (k : Key) : Option Key × Key :=
  let cursor := k.cursor.settle (p.entries k).length
  (cursor.item? (p.entries k), { k with cursor })

/-- The entry one place further, and the handle there. -/
def nextMeta (p : Pool) (k : Key) : Option Key × Key :=
  let cursor := k.cursor.advance (p.entries k).length
  (cursor.item? (p.entries k), { k with cursor })

/-! ### Comparison -/

/-- Whether two keys have the same name and value; metadata does not count. -/
def sameContent (p : Pool) (a b : Key) : Bool :=
  a.id = b.id || (p.name a = p.name b && p.value a = p.value b)

end Pool

end ConfigKeys
