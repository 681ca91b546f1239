import ConfigKeys.Session.Keys
import ConfigKeys.Session.Plugins
import ConfigKeys.Session.Registries
import ConfigKeys.Session.Sets

/-!
# The steps of a session

## Main definitions

* `KeySource` — where a host can fetch a key from.
* `Command` — what a host can do.
* `Session.exec` — a step; it is undefined where a slot is empty that should not be.
-/

namespace ConfigKeys

/-- Where a key is fetched from. -/
inductive KeySource
  /-- The metadata of a key, by written name. -/
  | entry (key raw : String)
  /-- A registry, by the name of a key. -/
  | registered (registry key : String)
  /-- A registry, by place. -/
  | registeredAt (registry : String) (index : Nat)
  /-- A set, by the name of a key. -/
  | member (set key : String)
  /-- A set, by written name. -/
  | named (set raw : String)
  /-- A set, by place. -/
  | memberAt (set : String) (index : Nat)
  /-- The first key of a set. -/
  | first (set : String)
  /-- The last key of a set. -/
  | last (set : String)
  /-- The key at the cursor of a set. -/
  | current (set : String)
  /-- A configuration, by written name. -/
  | configured (config raw : String)

/-- What a host can do in a session.  Slots are given by name, those that take a result last. -/
inductive Command
  | build (key raw : String) (options : List KeyOption)
  | shareKey (key into : String)
  | wrap (key into : String)
  | copyKey (key into : String)
  | forgetKey (key : String)
  | rename (key : String) (how : Renaming)
  | setValue (key : String) (value : Value)
  | setMeta (key raw text : String)
  | removeMeta (key raw : String) (into : Option String)
  | copyMeta (key source raw : String)
  | copyAllMeta (key source : String)
  | rewindMeta (key : String)
  | currentMeta (key : String) (into : Option String)
  | nextMeta (key : String) (into : Option String)
  | setError (key : String) (report : Report)
  | clearError (key : String)
  | addWarnings (key : String) (reports : List Report)
  | newRegistry (registry : String)
  | insertEntry (registry key : String)
  | removeEntry (registry key : String) (into : Option String)
  | dropRegistry (registry : String)
  | rewindCursor (cursor : String)
  | currentEntry (cursor registry : String) (into : Option String)
  | nextEntry (cursor registry : String) (into : Option String)
  | newSet (set : String)
  | collect (set : String) (keys : List String)
  | fill (set : String) (texts : List (String × String))
  | extend (set : String) (keys : List String)
  | append (set key : String)
  | appendAll (set source : String)
  | remove (set raw : String) (into : Option String)
  | removeKey (set key : String) (into : Option String)
  | below (set key into : String)
  | cut (set key into : String)
  | replace (set source : String)
  | clear (set : String)
  | shareSet (set into : String)
  | copySet (set into : String)
  | dropSet (set : String)
  | rewind (set : String)
  | next (set : String) (into : Option String)
  | fetch (source : KeySource) (into : Option String)
  | configure (config : String) (source : ConfigSource)
  | setConfig (config raw text : String)
  | configToSet (config set : String)
  | plug (plugin : String) (kind : PluginKind) (config : Option String)
  | unplug (plugin : String)
  | run (plugin : String) (stage : Stage) (set : Option String) (key : String)
  | describe (plugin : String) (into : Option String)

namespace Session

/-- The key of a written name in a set. -/
def findNamed (p : Pool) (ks : KeySet) (raw : String) : Except KeyError (Option Key) :=
  (Name.parse raw).map (ks.find? p)

/-- Looks for a key. -/
def find (s : Session) : KeySource → Option (Except KeyError (Option Key))
  | .entry key raw => do
    let k ← s.keys.get? key
    some (.ok (s.pool.meta? k raw))
  | .registered registry key => do
    let r ← s.registries.get? registry
    let k ← s.keys.get? key
    some (.ok (r.get? s.pool (s.pool.name k)))
  | .registeredAt registry index => do
    let r ← s.registries.get? registry
    some (.ok r[index]?)
  | .member set key => do
    let ks ← s.sets.get? set
    let k ← s.keys.get? key
    some (.ok (ks.find? s.pool (s.pool.name k)))
  | .named set raw => do
    let ks ← s.sets.get? set
    some (findNamed s.pool ks raw)
  | .memberAt set index => do
    let ks ← s.sets.get? set
    some (.ok ks.keys[index]?)
  | .first set => do
    let ks ← s.sets.get? set
    some (.ok ks.keys[0]?)
  | .last set => do
    let ks ← s.sets.get? set
    some (.ok ks.keys.back?)
  | .current set => do
    let ks ← s.sets.get? set
    some (.ok ks.current)
  | .configured config raw => do
    let c ← s.configs.get? config
    some (findNamed s.pool c.entries raw)

/-- Fetches a key. -/
def fetchFrom (s : Session) (source : KeySource) (into : Option String) :
    Option (Reply × Session) := do
  match ← s.find source with
  | .error e => some (.failed e, s)
  | .ok found => some (s.fetch found into)

/-- Carries a command out. -/
def exec (s : Session) : Command → Option (Reply × Session)
  | .build key raw options => s.build key raw options
  | .shareKey key into => s.shareKey key into
  | .wrap key into => s.wrap key into
  | .copyKey key into => s.copyKey key into
  | .forgetKey key => s.forgetKey key
  | .rename key how => s.rename key how
  | .setValue key value => s.setValue key value
  | .setMeta key raw text => s.setMeta key raw text
  | .removeMeta key raw into => s.removeMeta key raw into
  | .copyMeta key source raw => s.copyMeta key source raw
  | .copyAllMeta key source => s.copyAllMeta key source
  | .rewindMeta key => s.rewindMeta key
  | .currentMeta key into => s.walkMeta key into Pool.currentMeta
  | .nextMeta key into => s.walkMeta key into Pool.nextMeta
  | .setError key report => s.setError key report
  | .clearError key => s.clearError key
  | .addWarnings key reports => s.addWarnings key reports
  | .newRegistry registry => s.newRegistry registry
  | .insertEntry registry key => s.insertEntry registry key
  | .removeEntry registry key into => s.removeEntry registry key into
  | .dropRegistry registry => s.dropRegistry registry
  | .rewindCursor cursor => s.rewindCursor cursor
  | .currentEntry cursor registry into => s.walkRegistry cursor registry into Cursor.settle
  | .nextEntry cursor registry into => s.walkRegistry cursor registry into Cursor.advance
  | .newSet set => s.newSet set
  | .collect set keys => s.collect set keys
  | .fill set texts => s.fill set texts
  | .extend set keys => s.extend set keys
  | .append set key => s.append set key
  | .appendAll set source => s.appendAll set source
  | .remove set raw into => s.remove set raw into
  | .removeKey set key into => s.removeKey set key into
  | .below set key into => s.below set key into
  | .cut set key into => s.cut set key into
  | .replace set source => s.replace set source
  | .clear set => s.clear set
  | .shareSet set into => s.shareSet set into
  | .copySet set into => s.copySet set into
  | .dropSet set => s.dropSet set
  | .rewind set => s.rewind set
  | .next set into => s.next set into
  | .fetch source into => s.fetchFrom source into
  | .configure config source => s.configure config source
  | .setConfig config raw text => s.setConfig config raw text
  | .configToSet config set => s.configToSet config set
  | .plug plugin kind config => s.plug plugin kind config
  | .unplug plugin => s.unplug plugin
  | .run plugin stage set key => s.run plugin stage set key
  | .describe plugin into => s.describe plugin into

end Session

end ConfigKeys
