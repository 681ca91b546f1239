import ConfigKeys.Config.Basic
import ConfigKeys.Json.Basic
import ConfigKeys.Key.Report
import ConfigKeys.Plugin.Status
import ConfigKeys.Text.Blank

/-!
# What plugins say about themselves

The description of a plugin is kept as keys below a place of its own, and hosts also exchange it as
JSON.

## Main definitions

* `PluginInfo` — the description.
* `PluginInfo.texts`, `PluginInfo.toKeySet` — its keys.
* `PluginInfo.ofKeySet?` — the description that keys give of a plugin.
* `PluginInfo.ofJson?` — the description that a JSON text gives.
-/

namespace ConfigKeys

/-- The report of a stage that comes before the plugin is open. -/
def Report.tooEarly (plugin : String) (stage : Stage) : Report :=
  .interface plugin s!"{stage.text} called before open"

/-- The description of a plugin. -/
structure PluginInfo where
  /-- The name of the plugin. -/
  name : String := ""
  /-- Who made it. -/
  author : String := ""
  /-- The terms of its use. -/
  licence : String := ""
  /-- What it does. -/
  description : String := ""
  /-- Its version. -/
  version : String := ""
  /-- What it can be asked for. -/
  provides : List String := []
  /-- What it asks for. -/
  needs : List String := []
  /-- The stages that it takes part in. -/
  exports : List Stage := []
  deriving DecidableEq

namespace PluginInfo

/-- A plugin that takes part in every stage, and of which nothing else is known. -/
def named (name : String) : PluginInfo := { name, exports := Stage.all }

/-- The name of a key below the place of a plugin. -/
def place (plugin : String) (path : List String) : Except KeyError Name :=
  Name.ofSegments ("system" :: "elektra" :: "modules" :: plugin :: path)

/-- The texts of a description, with the names of their keys. -/
def infos (i : PluginInfo) : List (String × String) :=
  [("author", i.author), ("licence", i.licence), ("description", i.description),
    ("version", i.version), ("provides", " ".intercalate i.provides),
    ("needs", " ".intercalate i.needs)]

/-- The keys of a description: the place itself, one for each stage, and one for each text. -/
def texts (i : PluginInfo) : Except KeyError (List (Name × String)) := do
  let root ← place i.name []
  let exports ← i.exports.mapM fun stage => do
    .ok (← place i.name ["exports", stage.text], trueToken)
  let infos ← i.infos.mapM fun info => do .ok (← place i.name ["infos", info.1], info.2)
  .ok ((root, i.name) :: exports ++ infos)

/-- A description as a set of new keys. -/
def toKeySet (p : Pool) (i : PluginInfo) : Except KeyError (Pool × KeySet) :=
  i.texts.map (KeySet.ofTexts p)

/-- The key below the place of a plugin. -/
def find? (p : Pool) (s : KeySet) (plugin : String) (path : List String) : Option Key :=
  (place plugin path).toOption.bind (s.find? p)

/-- A text of the description that keys give of a plugin; a missing one is empty. -/
def info (p : Pool) (s : KeySet) (plugin field : String) : String :=
  ((find? p s plugin ["infos", field]).map p.text).getD ""

/-- The description that keys give of a plugin, if they name its place. -/
def ofKeySet? (p : Pool) (s : KeySet) (plugin : String) : Option PluginInfo :=
  (find? p s plugin []).map fun _ => {
    name := plugin
    author := info p s plugin "author"
    licence := info p s plugin "licence"
    description := info p s plugin "description"
    version := info p s plugin "version"
    provides := Blank.words (info p s plugin "provides")
    needs := Blank.words (info p s plugin "needs")
    exports := Stage.all.filter fun stage => (find? p s plugin ["exports", stage.text]).isSome }

/-- The stage that a JSON value names, as a string or as the only member of an object. -/
def stageOfJson? : Json → Option Stage
  | .string (some text) => Stage.ofText? text
  | .object [(some text, .null)] => Stage.ofText? text
  | _ => none

/-- The description that a JSON text gives; what is missing in it is empty. -/
def ofJson? (text : String) : Option PluginInfo := do
  match ← (← Json.parse? text).fields?
      ["name", "author", "licence", "description", "version", "provides", "needs", "exports"] with
  | [name, author, licence, description, version, provides, needs, exports] =>
    some {
      name := ← Json.orDefault? "" Json.text? name
      author := ← Json.orDefault? "" Json.text? author
      licence := ← Json.orDefault? "" Json.text? licence
      description := ← Json.orDefault? "" Json.text? description
      version := ← Json.orDefault? "" Json.text? version
      provides := ← Json.orDefault? [] (Json.list? Json.text?) provides
      needs := ← Json.orDefault? [] (Json.list? Json.text?) needs
      exports := ← Json.orDefault? [] (Json.list? stageOfJson?) exports }
  | _ => none

end PluginInfo

end ConfigKeys
