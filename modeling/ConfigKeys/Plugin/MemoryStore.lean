import ConfigKeys.Plugin.Info

/-!
# The memory store

A plugin that keeps keys in a set, which several instances may share.  The keys that it keeps are
copies, so no caller holds one of them.

Reading copies the kept keys at or below a parent into the caller's set; writing puts copies of the
caller's keys at or below a parent in the place of the kept ones, which an instance remembers until
the next write, and brings back when it is asked to take the write back.  With them it remembers the
parent, which is a copy too.

## Main definitions

* `MemoryStore` — an instance.
* `Snapshot` — what it remembers of its last write.
* `MemoryStore.Outcome` — what a stage leaves behind.
* `MemoryStore.onOpen`, `MemoryStore.onGet`, `MemoryStore.onSet`, `MemoryStore.onError`,
  `MemoryStore.onClose` — the stages.
-/

namespace ConfigKeys

/-- Whether the metadata of two keys has the same names and values in the same order. -/
def Pool.sameMeta (p : Pool) (a b : Key) : Bool :=
  (p.entries a).map (fun e => (p.name e, (p.value e).bytes))
    = (p.entries b).map fun e => (p.name e, (p.value e).bytes)

/-- What a write replaced. -/
structure Snapshot where
  /-- A handle on a copy of the parent of the write. -/
  parent : Key
  /-- The keys that were kept at or below it. -/
  keys : KeySet

namespace Snapshot

/-- Remembers keys that a write replaced, with a copy of its parent. -/
def take (p : Pool) (parent : Key) (keys : KeySet) : Pool × Snapshot :=
  ((p.copy parent.id).retain p.nextId, ⟨⟨p.nextId, {}⟩, keys⟩)

/-- Gives up the copy of the parent, and the keys. -/
def drop (p : Pool) (s : Snapshot) : Pool := s.keys.drop (p.release s.parent.id)

end Snapshot

/-- An instance of the memory store. -/
structure MemoryStore where
  /-- How it is set up. -/
  config : Config := {}
  /-- Whether it refuses to write. -/
  readonly : Bool := false
  /-- Whether it is open. -/
  isOpen : Bool := false
  /-- What its last write replaced. -/
  snapshot : Option Snapshot := none

namespace MemoryStore

/-- The name of the plugin. -/
def pluginName : String := "memory"

/-- What the plugin says about itself. -/
def info : PluginInfo :=
  { PluginInfo.named pluginName with
    licence := "BSD"
    description := "Stores keys in a shared in-process key set"
    version := "0.1.0"
    provides := ["storage"] }

/-- What a stage leaves behind. -/
structure Outcome where
  /-- How it went. -/
  status : Status
  /-- The records. -/
  pool : Pool
  /-- The instance. -/
  plugin : MemoryStore
  /-- The kept keys. -/
  store : KeySet
  /-- The caller's keys. -/
  keys : KeySet

/-- Gives up what the last write replaced. -/
def dropSnapshot (p : Pool) (m : MemoryStore) : Pool :=
  match m.snapshot with
  | none => p
  | some s => s.drop p

/-- A stage that fails with a report on the key that it was given. -/
def fail (p : Pool) (m : MemoryStore) (store keys : KeySet) (parent : Key) (r : Report) : Outcome :=
  ⟨.error, r.attach p parent, m, store, keys⟩

/-- The report of a write that the set-up forbids. -/
def writeForbidden : Report := .resource pluginName "store is configured readonly"

/-- Warns about a set-up that is neither the text of truth nor that of falsehood. -/
def warnReadonly (p : Pool) (k : Key) (text : String) : Pool :=
  match Report.addWarning p k
      (.validation pluginName s!"readonly must be true or false, got '{text}'") with
  | .ok (_, p) => p
  | .error _ => p

/-- Gets ready. -/
def onOpen (p : Pool) (m : MemoryStore) (store keys : KeySet) (k : Key) : Outcome :=
  match m.config.get? p "readonly" with
  | none => ⟨.success, p, { m with readonly := false, isOpen := true }, store, keys⟩
  | some text =>
    if text = trueToken then
      ⟨.success, p, { m with readonly := true, isOpen := true }, store, keys⟩
    else
      ⟨.success, if text = falseToken then p else warnReadonly p k text,
        { m with readonly := false, isOpen := true }, store, keys⟩

/-- Copies a kept key into the caller's set, unless the caller has one that says the same; `count`
copies were made before. -/
def refresh (p : Pool) (keys : KeySet) (count : Nat) (k : Key) : Pool × KeySet × Nat :=
  match keys.find? p (p.name k) with
  | some mine =>
    if p.sameContent mine k && p.sameMeta mine k then (p, keys, count)
    else
      let (p, keys) := keys.append (p.copy k.id) ⟨p.nextId, {}⟩
      (p, keys, count + 1)
  | none =>
    let (p, keys) := keys.append (p.copy k.id) ⟨p.nextId, {}⟩
    (p, keys, count + 1)

/-- Copies the kept keys at or below the parent into the caller's set. -/
def onGet (p : Pool) (m : MemoryStore) (store keys : KeySet) (parent : Key) : Outcome :=
  if m.isOpen then
    let (p, keys, count) := (store.subtree p (p.name parent)).toList.foldl
      (fun (p, keys, count) k => refresh p keys count k) (p, keys, 0)
    ⟨.ofCount count, p, m, store, keys⟩
  else fail p m store keys parent (.tooEarly pluginName .get)

/-- Puts copies of the caller's keys at or below the parent in the place of the kept ones. -/
def onSet (p : Pool) (m : MemoryStore) (store keys : KeySet) (parent : Key) : Outcome :=
  if m.isOpen then
    if m.readonly then fail p m store keys parent writeForbidden
    else
      let n := p.name parent
      let (p, incoming) := KeySet.copy p { keys := keys.subtree p n }
      let (replaced, rest) := store.cut p n
      let (p, store) := rest.appendAll p incoming.toList
      let (p, snapshot) := Snapshot.take p parent replaced
      ⟨.success, incoming.drop (m.dropSnapshot p), { m with snapshot := some snapshot }, store,
        keys⟩
  else fail p m store keys parent (.tooEarly pluginName .set)

/-- Brings back the keys that the last write replaced. -/
def onError (p : Pool) (m : MemoryStore) (store keys : KeySet) : Outcome :=
  match m.snapshot with
  | none => ⟨.noUpdate, p, m, store, keys⟩
  | some s =>
    let (discarded, rest) := store.cut p (p.name s.parent)
    let (p, store) := rest.appendAll p s.keys.toList
    ⟨.success, s.drop (discarded.drop p), { m with snapshot := none }, store, keys⟩

/-- Lets go what it holds. -/
def onClose (p : Pool) (m : MemoryStore) (store keys : KeySet) : Outcome :=
  ⟨.success, m.dropSnapshot p, { m with isOpen := false, snapshot := none }, store, keys⟩

/-- Runs a stage; the key is the parent, or the key for reports. -/
def run (stage : Stage) (p : Pool) (m : MemoryStore) (store keys : KeySet) (k : Key) : Outcome :=
  match stage with
  | .opening => m.onOpen p store keys k
  | .get => m.onGet p store keys k
  | .set => m.onSet p store keys k
  | .error => m.onError p store keys
  | .close => m.onClose p store keys

/-- Gives up an instance, with its set-up but not the kept keys. -/
def drop (p : Pool) (m : MemoryStore) : Pool := m.config.drop (m.dropSnapshot p)

end MemoryStore

end ConfigKeys
