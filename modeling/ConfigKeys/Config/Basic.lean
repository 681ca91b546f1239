import ConfigKeys.Config.Leaves
import ConfigKeys.KeySet.Basic
import ConfigKeys.Toml.Document

/-!
# Configurations

A configuration is a key set of texts under cascading names.

## Main definitions

* `ConfigError` — why a configuration could not be loaded.
* `Config` — the key set of a configuration.
* `Config.ofTree`, `Config.ofToml`, `Config.ofFile` — the configuration of a tree, of a text and of
  a file.
* `Config.get?`, `Config.getBool`, `Config.set` — entries.
-/

namespace ConfigKeys

/-- Why a configuration could not be loaded. -/
inductive ConfigError
  /-- There is no file, or it is not a text. -/
  | unreadable
  /-- The text is not well formed. -/
  | malformed
  /-- An entry has no fit name. -/
  | key (cause : KeyError)
  deriving DecidableEq

/-- What a failure about a name is told as, when it concerns a configuration. -/
def ConfigError.keyMessage (cause : KeyError) : String := "invalid config key: " ++ cause.message

/-- A set of new keys with texts as their values. -/
def KeySet.ofTexts (p : Pool) (texts : List (Name × String)) : Pool × KeySet :=
  texts.foldl (fun (p, s) (n, text) =>
    KeySet.append (p.alloc { name := n, value := .ofText text }) s ⟨p.nextId, {}⟩) (p, {})

/-- A configuration. -/
structure Config where
  /-- The entries. -/
  entries : KeySet := {}
  deriving Inhabited

namespace Config

/-- The configuration of a tree: its leaves, below the cascading root. -/
def ofTree (p : Pool) (v : Toml.Value) : Except ConfigError (Pool × Config) :=
  match v.leaves (.ofRoot .cascading) with
  | .error e => .error (.key e)
  | .ok leaves =>
    let (p, entries) := KeySet.ofTexts p leaves
    .ok (p, ⟨entries⟩)

/-- The configuration of a text. -/
def ofToml (p : Pool) (text : String) : Except ConfigError (Pool × Config) :=
  match Toml.parse? text with
  | none => .error .malformed
  | some members => ofTree p (.table members)

/-- The configuration of a file with the given bytes, or of a file that is not there. -/
def ofFile (p : Pool) (bytes : Option (List UInt8)) : Except ConfigError (Pool × Config) :=
  match bytes.bind Utf8.decode? with
  | none => .error .unreadable
  | some text => ofToml p (.ofList text)

/-- The text of an entry.  A name without a root is taken below the cascading one. -/
def get? (p : Pool) (c : Config) (raw : String) : Option String :=
  match metaName raw with
  | .error _ => none
  | .ok n => (c.entries.find? p n).map p.text

/-- Whether an entry is the text of truth. -/
def getBool (p : Pool) (c : Config) (raw : String) : Bool := c.get? p raw = some trueToken

/-- Sets an entry to a text. -/
def set (p : Pool) (c : Config) (raw text : String) : Except KeyError (Pool × Config) :=
  match metaName raw with
  | .error e => .error e
  | .ok n =>
    let (p, entries) :=
      c.entries.append (p.alloc { name := n, value := .ofText text }) ⟨p.nextId, {}⟩
    .ok (p, ⟨entries⟩)

/-- Another configuration of the same keys. -/
def share (p : Pool) (c : Config) : Pool × Config :=
  let (p, entries) := c.entries.share p
  (p, ⟨entries⟩)

/-- Gives up a configuration. -/
def drop (p : Pool) (c : Config) : Pool := c.entries.drop p

end Config

end ConfigKeys
