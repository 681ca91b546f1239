import ConfigKeys.Session.Basic

/-!
# Steps on registries

## Main definitions

* `Session.insertEntry`, `Session.removeEntry`, `Session.walkRegistry`, … — steps on registries and
  on places in them.
-/

namespace ConfigKeys

namespace Session

/-- A registry without keys. -/
def newRegistry (s : Session) (slot : String) : Option (Reply × Session) :=
  some (.done, s.storeRegistry slot [])

/-- Inserts a key into a registry. -/
def insertEntry (s : Session) (slot key : String) : Option (Reply × Session) := do
  let r ← s.registries.get? slot
  let k ← s.keys.get? key
  let (p, r) := r.insert s.pool k
  some (.done, { s with pool := p, registries := s.registries.put slot r })

/-- Removes the key of a key's name from a registry. -/
def removeEntry (s : Session) (slot key : String) (into : Option String) :
    Option (Reply × Session) := do
  let r ← s.registries.get? slot
  let k ← s.keys.get? key
  let (handed, p, r) := r.remove s.pool (s.pool.name k)
  some ({ s with pool := p, registries := s.registries.put slot r }.hand handed into)

/-- Gives up a registry. -/
def dropRegistry (s : Session) (slot : String) : Option (Reply × Session) := do
  let r ← s.registries.get? slot
  some (.done, { s with pool := s.pool.detachAll r, registries := s.registries.clear slot })

/-- The cursor of a slot, which is made when it is first asked for. -/
def cursor (s : Session) (slot : String) : Cursor := (s.cursors.get? slot).getD {}

/-- Takes a cursor back before the first key. -/
def rewindCursor (s : Session) (slot : String) : Option (Reply × Session) :=
  some (.done, { s with cursors := s.cursors.put slot {} })

/-- Moves a cursor along a registry by the given step, which is told how many keys there are. -/
def walkRegistry (s : Session) (slot registry : String) (into : Option String)
    (step : Cursor → Nat → Cursor) : Option (Reply × Session) := do
  let r ← s.registries.get? registry
  let c := step (s.cursor slot) r.length
  some ({ s with cursors := s.cursors.put slot c }.fetch (c.item? r) into)

end Session

end ConfigKeys
