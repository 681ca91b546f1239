import ConfigKeys.Session.Basic

/-!
# Steps on configurations and plugins

## Main definitions

* `ConfigSource`, `Session.configure` — where a configuration comes from.
* `PluginKind`, `Session.plug` — the plugins that a host can make.
* `Session.run` — a stage.
-/

namespace ConfigKeys

/-- Where a configuration comes from. -/
inductive ConfigSource
  /-- It is empty. -/
  | nothing
  /-- It is read from a text. -/
  | text (toml : String)
  /-- It is the set of a slot, which is used up. -/
  | set (slot : String)

/-- A plugin that a host can make. -/
inductive PluginKind
  /-- A memory store with kept keys of its own. -/
  | memory
  /-- A memory store that shares the kept keys of the one in a slot. -/
  | sharing (slot : String)
  /-- A memory store that keeps the set of a slot, which is used up. -/
  | keeping (slot : String)
  /-- A charset filter. -/
  | charsetFilter
  /-- A plugin that neither reads nor writes. -/
  | plain (name : String)

namespace Session

/-! ### Configurations -/

/-- Makes a configuration. -/
def configure (s : Session) (slot : String) : ConfigSource → Option (Reply × Session)
  | .nothing => some (.done, s.storeConfig slot {})
  | .text toml =>
    match Config.ofToml s.pool toml with
    | .error e => some (.notConfigured e, s)
    | .ok (p, c) => some (.done, { s with pool := p }.storeConfig slot c)
  | .set source => do
    let ks ← s.sets.get? source
    some (.done, { s with sets := s.sets.clear source }.storeConfig slot ⟨ks⟩)

/-- Sets an entry of a configuration to a text. -/
def setConfig (s : Session) (slot raw text : String) : Option (Reply × Session) := do
  let c ← s.configs.get? slot
  match c.set s.pool raw text with
  | .error e => some (.failed e, s)
  | .ok (p, c) => some (.done, { s with pool := p, configs := s.configs.put slot c })

/-- Takes the set out of a configuration, which is used up. -/
def configToSet (s : Session) (slot set : String) : Option (Reply × Session) := do
  let c ← s.configs.get? slot
  some (.done, { s with configs := s.configs.clear slot }.storeSet set c.entries)

/-! ### Plugins -/

/-- The set-up of a new plugin: another configuration of the same keys as the one in a slot, or an
empty one. -/
def setUp (s : Session) : Option String → Option (Pool × Config)
  | none => some (s.pool, {})
  | some slot => do
    let c ← s.configs.get? slot
    some (c.share s.pool)

/-- Makes a plugin. -/
def plug (s : Session) (slot : String) (kind : PluginKind) (config : Option String) :
    Option (Reply × Session) := do
  let (p, config) ← s.setUp config
  let s := { s with pool := p }
  match kind with
  | .memory =>
    some (.done, { s with stores := s.stores.push {} }.storePlugin slot
      (.memory s.stores.size { config }))
  | .sharing other =>
    match ← s.plugins.get? other with
    | .memory id _ => some (.done, s.storePlugin slot (.memory id { config }))
    | _ => none
  | .keeping set =>
    let ks ← s.sets.get? set
    some (.done, { s with sets := s.sets.clear set, stores := s.stores.push ks }.storePlugin slot
      (.memory s.stores.size { config }))
  | .charsetFilter => some (.done, s.storePlugin slot (.charsetFilter { config }))
  | .plain name =>
    -- it holds no set-up
    some (.done, { s with pool := config.drop s.pool }.storePlugin slot (.plain name))

/-- Gives up a plugin. -/
def unplug (s : Session) (slot : String) : Option (Reply × Session) := do
  let plugin ← s.plugins.get? slot
  some (.done, { s with plugins := s.plugins.clear slot }.dropPlugin plugin)

/-- Runs a stage of a plugin on the set of a slot, or on a set of its own that is given up after the
stage, and the key of a slot. -/
def run (s : Session) (slot : String) (stage : Stage) (set : Option String) (key : String) :
    Option (Reply × Session) := do
  let plugin ← s.plugins.get? slot
  let k ← s.keys.get? key
  let ks ← match set with
    | none => some {}
    | some set => s.sets.get? set
  let o := plugin.run stage s.pool ((plugin.store?.map s.store).getD {}) ks k
  some (.status o.status,
    { s with
      pool := match set with
        | none => o.keys.drop o.pool
        | some _ => o.pool
      plugins := s.plugins.put slot o.plugin
      sets := match set with
        | none => s.sets
        | some set => s.sets.put set o.keys
      stores := match plugin.store? with
        | none => s.stores
        | some id => s.stores.setIfInBounds id o.store })

/-- Shows what a plugin says about itself as keys, and puts their set into the slot that was given
for it. -/
def describe (s : Session) (slot : String) (into : Option String) : Option (Reply × Session) := do
  let plugin ← s.plugins.get? slot
  match plugin.info.toKeySet s.pool with
  | .error e => some (.failed e, s)
  | .ok (p, ks) =>
    let s := { s with pool := p }
    some (.keys (views p ks),
      match into with
      | some slot => s.storeSet slot ks
      | none => { s with pool := ks.drop p })

end Session

end ConfigKeys
