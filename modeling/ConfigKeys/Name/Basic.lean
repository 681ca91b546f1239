import ConfigKeys.Name.Segment

/-!
# Key names

A name is a root — cascading, or one of the namespaces — and a path of segments below it.  Every
name has one written form, its *canonical* form, in which segments are escaped.

## Main definitions

* `Namespace` — the roots, with their markers.
* `Name` — a root and a path.
* `Name.segments` — the segments as a host sees them, the root's marker first.
* `Name.canonical` — the written form.
-/

namespace ConfigKeys

/-- The root of a name. -/
inductive Namespace
  /-- No namespace: the name stands for the same path in any of them. -/
  | cascading
  /-- Specifications. -/
  | spec
  /-- The running process. -/
  | proc
  /-- The current directory. -/
  | dir
  /-- The user. -/
  | user
  /-- The whole system. -/
  | system
  deriving DecidableEq, Inhabited

namespace Namespace

/-- Every root, the cascading one first. -/
def all : List Namespace := [.cascading, .spec, .proc, .dir, .user, .system]

/-- The segment that stands for the root. -/
def marker : Namespace → String
  | .cascading => ""
  | .spec => "spec"
  | .proc => "proc"
  | .dir => "dir"
  | .user => "user"
  | .system => "system"

/-- The root that a segment stands for. -/
def ofMarker? (marker : String) : Option Namespace := all.find? fun root => root.marker = marker

/-- The root as it is written on its own. -/
def text : Namespace → String
  | .cascading => "/"
  | root => root.marker

@[simp] theorem ofMarker?_marker (root : Namespace) : ofMarker? root.marker = some root := by
  cases root <;> decide

end Namespace

/-- The name of a key. -/
structure Name where
  /-- Where the path begins. -/
  root : Namespace
  /-- The segments below the root, as they are meant and not as they are escaped. -/
  path : List String
  deriving DecidableEq, Inhabited

namespace Name

/-- The name of a root itself. -/
def ofRoot (root : Namespace) : Name := ⟨root, []⟩

/-- The segments of a name, the marker of its root first. -/
def segments (n : Name) : List String := n.root.marker :: n.path

/-- The number of segments, the root's marker included. -/
def depth (n : Name) : Nat := n.path.length + 1

/-- Whether nothing stands below the root. -/
def isRoot (n : Name) : Bool := n.path.isEmpty

/-- Whether the name has no namespace. -/
def isCascading (n : Name) : Bool := n.root = .cascading

/-- The last segment; a root has none and answers with the empty text. -/
def base (n : Name) : String := n.path.getLast?.getD ""

/-- The written form: the root, then each segment escaped behind a separator.  The cascading root
is written as a separator only where nothing follows it. -/
def canonical (n : Name) : String :=
  if n.path.isEmpty then n.root.text
  else n.root.marker ++ String.join (n.path.map fun segment => "/" ++ Segment.escape segment)

/-- The length of the written form in bytes. -/
def byteLength (n : Name) : Nat := n.canonical.utf8ByteSize

/-- The size that hosts are told: the written form and one terminator. -/
def size (n : Name) : Nat := n.byteLength + 1

@[simp] theorem segments_length (n : Name) : n.segments.length = n.depth := rfl

@[simp] theorem canonical_ofRoot (root : Namespace) : (ofRoot root).canonical = root.text := rfl

end Name

end ConfigKeys
