import ConfigKeys.Plugin.Basic
import ConfigKeys.Session.Slots

/-!
# Sessions

In a session a host works with keys, key sets, registries, cursors, configurations and plugins,
which it keeps in slots.  What a slot held is given up when something else is put there, but only
then, so that one may be made from the other.

## Main definitions

* `Session` — the records, the slots, and the kept keys of memory stores.
* `Session.storeKey`, `Session.storeSet`, `Session.storeRegistry`, `Session.storeConfig`,
  `Session.storePlugin` — putting something into a slot.
* `Session.hand`, `Session.fetch` — keys that an operation hands over, or finds.
* `Reply` — what the host is told.
-/

namespace ConfigKeys

/-- The state of a session. -/
structure Session where
  /-- The records. -/
  pool : Pool := {}
  /-- Handles. -/
  keys : Slots Key := {}
  /-- Key sets. -/
  sets : Slots KeySet := {}
  /-- Registries that belong to no key. -/
  registries : Slots Registry := {}
  /-- Places in registries. -/
  cursors : Slots Cursor := {}
  /-- Configurations. -/
  configs : Slots Config := {}
  /-- Plugins. -/
  plugins : Slots Plugin := {}
  /-- The kept keys of memory stores. -/
  stores : Array KeySet := #[]

/-- What the host is told about a step. -/
inductive Reply
  /-- The step is done. -/
  | done
  /-- The key that was found, if any. -/
  | key (found : Option KeyView)
  /-- The step failed. -/
  | failed (cause : KeyError)
  /-- No configuration could be loaded. -/
  | notConfigured (cause : ConfigError)
  /-- A number of keys. -/
  | count (n : Nat)
  /-- The indices of warnings. -/
  | indices (list : List Nat)
  /-- The names of a set, and the one at its cursor. -/
  | names (list : List Name × Option Name)
  /-- The names of a set that was taken from another, and of the other one, each with the name at
  its cursor. -/
  | parted (taken rest : List Name × Option Name)
  /-- The keys of a set. -/
  | keys (list : List KeyView)
  /-- How a stage went. -/
  | status (status : Status)

namespace Session

/-! ### What slots hold -/

/-- The kept keys of a number. -/
def store (s : Session) (id : StoreId) : KeySet := s.stores.getD id {}

/-- The names of a set, and the one at its cursor. -/
def names (p : Pool) (ks : KeySet) : List Name × Option Name :=
  (ks.toList.map p.name, ks.current.map p.name)

/-- What hosts are shown of the keys of a set. -/
def views (p : Pool) (ks : KeySet) : List KeyView := ks.toList.map fun k => p.view k.id

/-! ### Putting something into a slot -/

/-- Puts a handle into a slot. -/
def storeKey (s : Session) (slot : String) (k : Key) : Session :=
  let p := s.pool.retain k.id
  { s with
    pool := match s.keys.get? slot with | none => p | some old => p.release old.id
    keys := s.keys.put slot k }

/-- Puts a set, of which the places are counted, into a slot. -/
def storeSet (s : Session) (slot : String) (ks : KeySet) : Session :=
  { s with
    pool := match s.sets.get? slot with | none => s.pool | some old => old.drop s.pool
    sets := s.sets.put slot ks }

/-- Puts a registry, of which the places are counted, into a slot. -/
def storeRegistry (s : Session) (slot : String) (r : Registry) : Session :=
  { s with
    pool := match s.registries.get? slot with | none => s.pool | some old => s.pool.detachAll old
    registries := s.registries.put slot r }

/-- Puts a configuration, of which the places are counted, into a slot. -/
def storeConfig (s : Session) (slot : String) (c : Config) : Session :=
  { s with
    pool := match s.configs.get? slot with | none => s.pool | some old => old.drop s.pool
    configs := s.configs.put slot c }

/-- Gives up the kept keys of a number, unless some plugin still works on them. -/
def dropStore (s : Session) (id : StoreId) : Session :=
  if s.plugins.contents.any fun plugin => plugin.store? = some id then s
  else { s with pool := (s.store id).drop s.pool, stores := s.stores.setIfInBounds id {} }

/-- Gives up a plugin that is in no slot any more. -/
def dropPlugin (s : Session) (plugin : Plugin) : Session :=
  let s := { s with pool := plugin.drop s.pool }
  match plugin.store? with
  | none => s
  | some id => s.dropStore id

/-- Puts a plugin into a slot. -/
def storePlugin (s : Session) (slot : String) (plugin : Plugin) : Session :=
  let stored := { s with plugins := s.plugins.put slot plugin }
  match s.plugins.get? slot with
  | none => stored
  | some old => stored.dropPlugin old

/-! ### Keys that an operation finds or hands over -/

/-- Shows a key that was found, and puts it into the slot that was given for it. -/
def fetch (s : Session) (found : Option Key) (into : Option String) : Reply × Session :=
  (.key (found.map fun k => s.pool.view k.id),
    match found, into with
    | some k, some slot => s.storeKey slot k
    | _, _ => s)

/-- Shows a key that is no longer counted where it was, and puts it into the slot that was given for
it, or drops it if nobody holds it. -/
def hand (s : Session) (handed : Option Key) (into : Option String) : Reply × Session :=
  (.key (handed.map fun k => s.pool.view k.id),
    match handed, into with
    | some k, some slot => s.storeKey slot k
    | some k, none => { s with pool := s.pool.reclaim k.id }
    | none, _ => s)

end Session

end ConfigKeys
