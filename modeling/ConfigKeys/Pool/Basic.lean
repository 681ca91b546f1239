import ConfigKeys.Name.Parse
import ConfigKeys.Value.Basic

/-!
# Records of keys

Keys are shared: many handles may stand for one *record*, and every handle sees what is done through
another.  All records live in a *pool*, where a record is known by its number.

A record counts who holds it.  A *lock* is a place in a container — a key set, a registry, or the
metadata of another record — and pins the record's name, since containers are kept by name.  A
*handle* is any other hold.  A record that nobody holds is dropped, and what its metadata held is
let go.

## Main definitions

* `Key` — a handle on a record, with a place in the record's metadata.
* `Record` — name, value, metadata and the two counts.
* `Pool` — the records.
* `Pool.reclaim` — drops records that nobody holds, and those that then nobody holds.
* `Pool.lock`, `Pool.unlock`, `Pool.retain`, `Pool.release`, `Pool.detach` — the counts.
-/

namespace ConfigKeys

/-- A place in an enumeration; `none` is the place before the first item. -/
structure Cursor where
  /-- The index of the place, which may lie behind the last item. -/
  position : Option Nat := none
  deriving DecidableEq, Inhabited

namespace Cursor

/-- One place further, but no further than behind the last of `size` items. -/
def advance (c : Cursor) (size : Nat) : Cursor :=
  ⟨some (min (match c.position with | none => 0 | some i => i + 1) size)⟩

/-- The same place, except that the place before the first item becomes that of the first item. -/
def settle (c : Cursor) (size : Nat) : Cursor :=
  if c.position.isNone && 0 < size then ⟨some 0⟩ else c

/-- The item at the place. -/
def item? {α : Type} (c : Cursor) (items : List α) : Option α :=
  c.position.bind fun i => items[i]?

end Cursor

/-- The number of a record in its pool. -/
abbrev RecordId := Nat

/-- A handle on a record. -/
structure Key where
  /-- The record. -/
  id : RecordId
  /-- A place in the record's metadata; each handle has its own. -/
  cursor : Cursor := {}
  deriving DecidableEq, Inhabited

/-- What a pool keeps about a key. -/
structure Record where
  /-- The name. -/
  name : Name
  /-- The value. -/
  value : Value := {}
  /-- The metadata: keys of different names, in the order in which their names came. -/
  entries : List Key := []
  /-- The number of places in containers. -/
  locks : Nat := 0
  /-- The number of handles outside of containers. -/
  handles : Nat := 0
  deriving DecidableEq, Inhabited

/-- Whether nobody holds a record. -/
def Record.isFree (r : Record) : Bool := r.locks = 0 && r.handles = 0

/-- The records, by number; a number is never used again. -/
structure Pool where
  /-- The records, with `none` for those that were dropped. -/
  records : Array (Option Record) := #[]
  /-- How often a place in a container was given up that was not counted. -/
  overdrafts : Nat := 0
  deriving Inhabited

namespace Pool

/-- The record of a number, if it is there. -/
def find? (p : Pool) (id : RecordId) : Option Record := (p.records[id]?).join

/-- The record of a number. -/
def record (p : Pool) (id : RecordId) : Record := (p.find? id).getD default

/-- The number that the next new record gets. -/
def nextId (p : Pool) : RecordId := p.records.size

/-- Adds a record. -/
def alloc (p : Pool) (r : Record) : Pool := { p with records := p.records.push (some r) }

/-- Changes a record that is there. -/
def modify (p : Pool) (id : RecordId) (change : Record → Record) : Pool :=
  { p with records := p.records.modify id (·.map change) }

/-- Takes a record out. -/
def erase (p : Pool) (id : RecordId) : Pool :=
  { p with records := p.records.modify id fun _ => none }

/-- Counts one more place in a container. -/
def lock (p : Pool) (id : RecordId) : Pool := p.modify id fun r => { r with locks := r.locks + 1 }

/-- Counts one place in a container less, and drops nothing.  A place that was not counted leaves the
count at nothing, and the pool takes note of it. -/
def unlock (p : Pool) (id : RecordId) : Pool :=
  { p.modify id (fun r => { r with locks := r.locks - 1 }) with
    overdrafts := if (p.record id).locks = 0 then p.overdrafts + 1 else p.overdrafts }

/-- Counts one more handle. -/
def retain (p : Pool) (id : RecordId) : Pool :=
  p.modify id fun r => { r with handles := r.handles + 1 }

/-- Counts one handle less, and drops nothing. -/
def forget (p : Pool) (id : RecordId) : Pool :=
  p.modify id fun r => { r with handles := r.handles - 1 }

/-- Drops a record if nobody holds it; what its metadata held is then let go, and dropped in turn if
nobody holds it.  A chain of metadata is no longer than the number `fuel` of its records. -/
def reclaimUpTo : Nat → RecordId → Pool → Pool
  | 0, _, p => p
  | fuel + 1, id, p =>
    match p.find? id with
    | none => p
    | some r =>
      if r.isFree then
        r.entries.foldl (fun p entry => reclaimUpTo fuel entry.id (p.unlock entry.id)) (p.erase id)
      else p

/-- Drops a record if nobody holds it, and what then nobody holds. -/
def reclaim (p : Pool) (id : RecordId) : Pool := reclaimUpTo p.nextId id p

/-- Gives a handle up. -/
def release (p : Pool) (id : RecordId) : Pool := (p.forget id).reclaim id

/-- Gives a place in a container up. -/
def detach (p : Pool) (id : RecordId) : Pool := (p.unlock id).reclaim id

/-- Counts one more place in a container for each key. -/
def lockAll (p : Pool) (keys : List Key) : Pool := keys.foldl (fun p k => p.lock k.id) p

/-- Gives the places of keys in a container up. -/
def detachAll (p : Pool) (keys : List Key) : Pool := keys.foldl (fun p k => p.detach k.id) p

/-- The name of a key. -/
def name (p : Pool) (k : Key) : Name := (p.record k.id).name

/-- The value of a key. -/
def value (p : Pool) (k : Key) : Value := (p.record k.id).value

/-- The metadata of a key. -/
def entries (p : Pool) (k : Key) : List Key := (p.record k.id).entries

/-- Whether a container pins the name of a key. -/
def isLocked (p : Pool) (k : Key) : Bool := 0 < (p.record k.id).locks

end Pool

end ConfigKeys
