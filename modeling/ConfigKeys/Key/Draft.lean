import ConfigKeys.Key.Basic

/-!
# Making keys from options

A key is made from a name and a list of options; what stands after an end mark does not count.

## Main definitions

* `KeyOption` — an option, and `KeyOption.ofTag`, which reads one from a tag and a text.
* `Draft` — a name and options that are collected one by one.
* `Draft.tree` — what the key is to say.
* `Pool.build` — the key.
-/

namespace ConfigKeys

/-- An option for making a key. -/
inductive KeyOption
  /-- The value, a text. -/
  | text (value : String)
  /-- The value, bytes. -/
  | binary (bytes : List UInt8)
  /-- An entry of the metadata. -/
  | entry (name value : String)
  /-- The entry `comment` of the metadata. -/
  | comment (value : String)
  /-- The end of the options. -/
  | stop
  deriving DecidableEq

/-- The option of a tag, with its text. -/
def KeyOption.ofTag (tag value : String) : Except KeyError KeyOption :=
  if tag = "value" then .ok (.text value)
  else if tag = "binary" then .ok (.binary (Utf8.encode value.toList))
  else if tag = "comment" then .ok (.comment value)
  else if tag = "end" then .ok .stop
  else
    match tag.toList with
    | 'm' :: 'e' :: 't' :: 'a' :: ':' :: c :: rest => .ok (.entry (.ofList (c :: rest)) value)
    | _ => .error (.unknownOption tag)

/-- A key that is being described. -/
structure Draft where
  /-- The name, or why it is none. -/
  name : Except KeyError Name
  /-- The options, in order. -/
  options : List KeyOption

namespace Draft

/-- Begins a description. -/
def start (raw : String) : Draft := ⟨Name.parse raw, []⟩

/-- Adds an option. -/
def option (d : Draft) (o : KeyOption) : Draft := { d with options := d.options ++ [o] }

/-- A tree with an entry of its metadata set to a text. -/
def setEntry (t : KeyTree) (raw text : String) : Except KeyError KeyTree := do
  let n ← metaName raw
  let entry : KeyTree := .node n (.ofText text) []
  .ok (.node t.name t.value (upsert (fun old => old.name = n) entry t.entries))

/-- What a tree becomes by the options. -/
def apply (t : KeyTree) : List KeyOption → Except KeyError KeyTree
  | [] => .ok t
  | .text value :: rest => apply (.node t.name (.ofText value) t.entries) rest
  | .binary bytes :: rest => apply (.node t.name (.ofBytes bytes) t.entries) rest
  | .entry name value :: rest =>
    match setEntry t name value with
    | .error e => .error e
    | .ok t => apply t rest
  | .comment value :: rest =>
    match setEntry t "comment" value with
    | .error e => .error e
    | .ok t => apply t rest
  | .stop :: _ => .ok t

/-- What the key is to say. -/
def tree (d : Draft) : Except KeyError KeyTree := do
  let n ← d.name
  apply (.node n {} []) d.options

end Draft

namespace Pool

/-- Makes the key of a description. -/
def build (p : Pool) (d : Draft) : Except KeyError (Key × Pool) := do
  let t ← d.tree
  .ok (⟨p.nextId, {}⟩, p.plant t)

/-- Makes a key from a name and options. -/
def create (p : Pool) (raw : String) (options : List KeyOption) : Except KeyError (Key × Pool) :=
  p.build (options.foldl Draft.option (Draft.start raw))

/-- Makes a key with an empty value. -/
def new (p : Pool) (raw : String) : Except KeyError (Key × Pool) := p.create raw []

end Pool

end ConfigKeys
