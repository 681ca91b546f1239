import ConfigKeys.Session.Basic

/-!
# Steps on key sets

## Main definitions

* `Session.fill`, `Session.append`, `Session.remove`, `Session.cut`, … — steps on key sets.
-/

namespace ConfigKeys

namespace Session

/-- A set without keys. -/
def newSet (s : Session) (slot : String) : Option (Reply × Session) :=
  some (.done, s.storeSet slot {})

/-- A set of keys. -/
def collect (s : Session) (slot : String) (keys : List String) : Option (Reply × Session) := do
  let keys ← keys.mapM s.keys.get?
  let (p, ks) := KeySet.ofList s.pool keys
  some (.done, { s with pool := p }.storeSet slot ks)

/-- A set of new keys with texts as their values. -/
def fill (s : Session) (slot : String) (texts : List (String × String)) :
    Option (Reply × Session) :=
  match texts.mapM fun (raw, text) => (Name.parse raw).map fun n => (n, text) with
  | .error e => some (.failed e, s)
  | .ok texts =>
    let (p, ks) := KeySet.ofTexts s.pool texts
    some (.done, { s with pool := p }.storeSet slot ks)

/-- Inserts keys into a set. -/
def extend (s : Session) (slot : String) (keys : List String) : Option (Reply × Session) := do
  let ks ← s.sets.get? slot
  let keys ← keys.mapM s.keys.get?
  let (p, ks) := ks.appendAll s.pool keys
  some (.done, { s with pool := p, sets := s.sets.put slot ks })

/-- Inserts a key into a set. -/
def append (s : Session) (slot key : String) : Option (Reply × Session) := do
  let ks ← s.sets.get? slot
  let k ← s.keys.get? key
  let (p, ks) := ks.append s.pool k
  some (.count ks.size, { s with pool := p, sets := s.sets.put slot ks })

/-- Inserts the keys of one set into another. -/
def appendAll (s : Session) (slot source : String) : Option (Reply × Session) := do
  let ks ← s.sets.get? slot
  let source ← s.sets.get? source
  let (p, ks) := ks.appendAll s.pool source.toList
  some (.count ks.size, { s with pool := p, sets := s.sets.put slot ks })

/-- Removes the key of a name from a set. -/
def removeName (s : Session) (slot : String) (n : Name) (into : Option String) :
    Option (Reply × Session) := do
  let ks ← s.sets.get? slot
  let (handed, p, ks) := ks.remove s.pool n
  some ({ s with pool := p, sets := s.sets.put slot ks }.hand handed into)

/-- Removes the key of a written name from a set. -/
def remove (s : Session) (slot raw : String) (into : Option String) : Option (Reply × Session) :=
  match Name.parse raw with
  | .error e => some (.failed e, s)
  | .ok n => s.removeName slot n into

/-- Removes the key of a key's name from a set. -/
def removeKey (s : Session) (slot key : String) (into : Option String) :
    Option (Reply × Session) := do
  let k ← s.keys.get? key
  s.removeName slot (s.pool.name k) into

/-- A set of the keys at or below the name of a key. -/
def below (s : Session) (slot key into : String) : Option (Reply × Session) := do
  let ks ← s.sets.get? slot
  let k ← s.keys.get? key
  let (p, taken) := ks.below s.pool (s.pool.name k)
  some (.names (names p taken), { s with pool := p }.storeSet into taken)

/-- Moves the keys at or below the name of a key to a set of their own. -/
def cut (s : Session) (slot key into : String) : Option (Reply × Session) := do
  let ks ← s.sets.get? slot
  let k ← s.keys.get? key
  let (taken, rest) := ks.cut s.pool (s.pool.name k)
  some (.parted (names s.pool taken) (names s.pool rest),
    { s with sets := s.sets.put slot rest }.storeSet into taken)

/-- Gives the keys of a set up for those of another, which is used up. -/
def replace (s : Session) (slot source : String) : Option (Reply × Session) := do
  let other ← s.sets.get? source
  let ks ← (s.sets.clear source).get? slot
  let (p, ks) := ks.replace s.pool other
  some (.done, { s with pool := p, sets := (s.sets.clear source).put slot ks })

/-- Removes all keys from a set. -/
def clear (s : Session) (slot : String) : Option (Reply × Session) := do
  let ks ← s.sets.get? slot
  let (p, ks) := ks.replace s.pool {}
  some (.done, { s with pool := p, sets := s.sets.put slot ks })

/-- Another set of the same keys. -/
def shareSet (s : Session) (slot into : String) : Option (Reply × Session) := do
  let ks ← s.sets.get? slot
  let (p, ks) := ks.share s.pool
  some (.done, { s with pool := p }.storeSet into ks)

/-- A set of copies. -/
def copySet (s : Session) (slot into : String) : Option (Reply × Session) := do
  let ks ← s.sets.get? slot
  let (p, ks) := ks.copy s.pool
  some (.done, { s with pool := p }.storeSet into ks)

/-- Gives up a set. -/
def dropSet (s : Session) (slot : String) : Option (Reply × Session) := do
  let ks ← s.sets.get? slot
  some (.done, { s with pool := ks.drop s.pool, sets := s.sets.clear slot })

/-- Takes the walk of a set back before the first key. -/
def rewind (s : Session) (slot : String) : Option (Reply × Session) := do
  let ks ← s.sets.get? slot
  some (.done, { s with sets := s.sets.put slot ks.rewind })

/-- Goes one key further in a set. -/
def next (s : Session) (slot : String) (into : Option String) : Option (Reply × Session) := do
  let ks ← s.sets.get? slot
  let (found, ks) := ks.next
  some ({ s with sets := s.sets.put slot ks }.fetch found into)

end Session

end ConfigKeys
