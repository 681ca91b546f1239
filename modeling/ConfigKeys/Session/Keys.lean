import ConfigKeys.Key.Draft
import ConfigKeys.Session.Basic

/-!
# Steps on keys

## Main definitions

* `Renaming` — the ways to change a name.
* `Session.build`, `Session.shareKey`, `Session.copyKey`, … — steps on keys and their metadata.
-/

namespace ConfigKeys

/-- A way to change the name of a key. -/
inductive Renaming
  /-- Another name altogether. -/
  | whole (raw : String)
  /-- Another last segment. -/
  | base (segment : String)
  /-- A written path to go further. -/
  | further (relative : String)

/-- Changes the name of a key. -/
def Renaming.apply (p : Pool) (k : Key) : Renaming → Except KeyError Pool
  | .whole raw => p.setName k raw
  | .base segment => p.setBase k segment
  | .further relative => p.addBase k relative

namespace Session

/-- The answer of an operation that changes records or fails. -/
def settle (s : Session) : Except KeyError Pool → Reply × Session
  | .ok p => (.done, { s with pool := p })
  | .error e => (.failed e, s)

/-- Makes a key. -/
def build (s : Session) (slot raw : String) (options : List KeyOption) : Option (Reply × Session) :=
  match s.pool.create raw options with
  | .error e => some (.failed e, s)
  | .ok (k, p) => some (.done, { s with pool := p }.storeKey slot k)

/-- Another handle on a key, at the same place in its metadata. -/
def shareKey (s : Session) (slot into : String) : Option (Reply × Session) := do
  let k ← s.keys.get? slot
  some (s.fetch (some k) (some into))

/-- Another handle on a key, before the first entry of its metadata. -/
def wrap (s : Session) (slot into : String) : Option (Reply × Session) := do
  let k ← s.keys.get? slot
  some (s.fetch (some ⟨k.id, {}⟩) (some into))

/-- A copy of a key. -/
def copyKey (s : Session) (slot into : String) : Option (Reply × Session) := do
  let k ← s.keys.get? slot
  some ({ s with pool := s.pool.copy k.id }.fetch (some ⟨s.pool.nextId, {}⟩) (some into))

/-- Empties a slot of a key. -/
def forgetKey (s : Session) (slot : String) : Option (Reply × Session) := do
  let k ← s.keys.get? slot
  some (.done, { s with pool := s.pool.release k.id, keys := s.keys.clear slot })

/-- Changes the name of a key. -/
def rename (s : Session) (slot : String) (how : Renaming) : Option (Reply × Session) := do
  let k ← s.keys.get? slot
  some (s.settle (how.apply s.pool k))

/-- Stores a value. -/
def setValue (s : Session) (slot : String) (v : Value) : Option (Reply × Session) := do
  let k ← s.keys.get? slot
  some (.done, { s with pool := s.pool.setValue k v })

/-- Sets an entry of the metadata to a text. -/
def setMeta (s : Session) (slot raw text : String) : Option (Reply × Session) := do
  let k ← s.keys.get? slot
  some (s.settle (s.pool.setMeta k raw text))

/-- Removes an entry of the metadata. -/
def removeMeta (s : Session) (slot raw : String) (into : Option String) :
    Option (Reply × Session) := do
  let k ← s.keys.get? slot
  match s.pool.removeMeta k raw with
  | .error e => some (.failed e, s)
  | .ok (handed, p) => some ({ s with pool := p }.hand handed into)

/-- Copies an entry of the metadata from another key. -/
def copyMeta (s : Session) (slot source raw : String) : Option (Reply × Session) := do
  let k ← s.keys.get? slot
  let source ← s.keys.get? source
  some (s.settle (s.pool.copyMeta k source raw))

/-- Copies the metadata from another key. -/
def copyAllMeta (s : Session) (slot source : String) : Option (Reply × Session) := do
  let k ← s.keys.get? slot
  let source ← s.keys.get? source
  some (.done, { s with pool := s.pool.copyAllMeta k source })

/-- Goes back before the first entry of the metadata. -/
def rewindMeta (s : Session) (slot : String) : Option (Reply × Session) := do
  let k ← s.keys.get? slot
  some (.done, { s with keys := s.keys.put slot { k with cursor := {} } })

/-- Goes along the metadata by the given step. -/
def walkMeta (s : Session) (slot : String) (into : Option String)
    (step : Pool → Key → Option Key × Key) : Option (Reply × Session) := do
  let k ← s.keys.get? slot
  let (found, k) := step s.pool k
  some ({ s with keys := s.keys.put slot k }.fetch found into)

/-- Records an error on a key. -/
def setError (s : Session) (slot : String) (r : Report) : Option (Reply × Session) := do
  let k ← s.keys.get? slot
  some (s.settle (r.setError s.pool k))

/-- Takes the error off a key. -/
def clearError (s : Session) (slot : String) : Option (Reply × Session) := do
  let k ← s.keys.get? slot
  some (s.settle (Report.clearError s.pool k))

/-- Adds warnings to a key, after those with the indices `found`, the last one first. -/
def addWarningsAfter (p : Pool) (k : Key) (found : List Nat) :
    List Report → Except KeyError (List Nat × Pool)
  | [] => .ok (found.reverse, p)
  | r :: rest => do
    let (index, p) ← Report.addWarning p k r
    addWarningsAfter p k (index :: found) rest

/-- Adds warnings to a key. -/
def addWarnings (s : Session) (slot : String) (reports : List Report) :
    Option (Reply × Session) := do
  let k ← s.keys.get? slot
  match addWarningsAfter s.pool k [] reports with
  | .error e => some (.failed e, s)
  | .ok (indices, p) => some (.indices indices, { s with pool := p })

end Session

end ConfigKeys
