import ConfigKeys.Plugin.CharsetFilter
import ConfigKeys.Plugin.MemoryStore

/-!
# Plugins

## Main definitions

* `Plugin` — an instance of any plugin.
* `Plugin.name`, `Plugin.info` — what it says about itself.
* `Plugin.run` — a stage.
* `Plugin.drop` — gives an instance up.
-/

namespace ConfigKeys

/-- The number of a set of kept keys, which instances of the memory store may share. -/
abbrev StoreId := Nat

/-- An instance of a plugin. -/
inductive Plugin
  /-- A memory store over the kept keys of a number. -/
  | memory (store : StoreId) (plugin : MemoryStore)
  /-- A charset filter. -/
  | charsetFilter (filter : CharsetFilter)
  /-- A plugin of some name that neither reads nor writes. -/
  | plain (name : String)

namespace Plugin

/-- What a stage leaves behind. -/
structure Outcome where
  /-- How it went. -/
  status : Status
  /-- The records. -/
  pool : Pool
  /-- The instance. -/
  plugin : Plugin
  /-- The kept keys. -/
  store : KeySet
  /-- The caller's keys. -/
  keys : KeySet

/-- The name of a plugin. -/
def name : Plugin → String
  | .memory _ _ => MemoryStore.pluginName
  | .charsetFilter _ => CharsetFilter.pluginName
  | .plain name => name

/-- What a plugin says about itself. -/
def info : Plugin → PluginInfo
  | .memory _ _ => MemoryStore.info
  | .charsetFilter _ => CharsetFilter.info
  | .plain name => .named name

/-- The number of the kept keys that an instance works on. -/
def store? : Plugin → Option StoreId
  | .memory store _ => some store
  | _ => none

/-- How a stage of a plugin goes that neither reads nor writes. -/
def plainStatus : Stage → Status
  | .get | .set => .noUpdate
  | _ => .success

/-- Runs a stage; the key is the parent, or the key for reports. -/
def run (stage : Stage) (p : Pool) (plugin : Plugin) (store keys : KeySet) (k : Key) : Outcome :=
  match plugin with
  | .memory id m =>
    let o := m.run stage p store keys k
    ⟨o.status, o.pool, .memory id o.plugin, o.store, o.keys⟩
  | .charsetFilter f =>
    let (status, p, f) := f.run stage p keys k
    ⟨status, p, .charsetFilter f, store, keys⟩
  | .plain name => ⟨plainStatus stage, p, .plain name, store, keys⟩

/-- Gives an instance up, but not the kept keys. -/
def drop (p : Pool) : Plugin → Pool
  | .memory _ m => m.drop p
  | .charsetFilter f => f.config.drop p
  | .plain _ => p

end Plugin

end ConfigKeys
