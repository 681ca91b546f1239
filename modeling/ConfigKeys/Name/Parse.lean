import ConfigKeys.Name.Limits

/-!
# Reading and editing names

A raw name begins with a separator (a cascading name) or with the marker of a namespace.  The path
after the root is cut into parts: empty parts and `.` are dropped, `..` takes back the segment
before it but never the root, and any other part is a segment in its written form.

## Main definitions

* `Name.parse` — the name that a raw text stands for.
* `Name.ofSegments` — the name of a list of segments, the root's marker first.
* `Name.withBase`, `Name.extend` — a name with another last segment, and one that goes further.
* `metaName` — the reading for names of metadata, where a missing root means the cascading one.
-/

namespace ConfigKeys

/-- The root of a raw name, the path after it, and the byte where that path begins. -/
def splitRoot? (raw : List Char) : Option (Namespace × List Char × Nat) :=
  match raw with
  | '/' :: rest => some (.cascading, rest, 1)
  | _ =>
    let head := String.ofList (raw.takeWhile (· != '/'))
    match Namespace.ofMarker? head with
    | none | some .cascading => none
    | some root => some (root, (raw.dropWhile (· != '/')).drop 1,
        if raw.contains '/' then head.utf8ByteSize + 1 else head.utf8ByteSize)

namespace Name

/-- Walks one part further.  The segments walked so far stand in `path`, the last one first. -/
def walkPart (path : List String) (part : Segment.Part) : Except NameFault (List String) :=
  match part.text with
  | [] | ['.'] => .ok path
  | ['.', '.'] => .ok path.tail
  | text => do
    let segment ← Segment.unescapeAt part.position text
    .ok (String.ofList segment :: path)

/-- Walks a written path that begins at byte `position`, from the segments `path`. -/
def walk (path : List String) (position : Nat) (relative : List Char) :
    Except NameFault (List String) := do
  let parts ← Segment.split position relative
  let walked ← parts.foldlM walkPart path.reverse
  .ok walked.reverse

/-- The name that a raw text stands for, or its first fault. -/
def parse? (limits : Limits) (raw : String) : Except NameFault Name := do
  if raw.isEmpty then .error .empty
  limits.checkLength raw.utf8ByteSize
  match splitRoot? raw.toList with
  | none => .error .missingRoot
  | some (root, rest, position) =>
    let path ← walk [] position rest
    let n : Name := ⟨root, path⟩
    limits.checkDepth n.depth
    .ok n

/-- The name that a raw text stands for. -/
def parse (raw : String) (limits : Limits := {}) : Except KeyError Name :=
  match parse? limits raw with
  | .ok n => .ok n
  | .error fault => .error (.invalidName raw fault)

/-- The name of a list of segments, the root's marker first. -/
def ofSegments (segments : List String) : Except KeyError Name :=
  match segments with
  | [] => .error (.invalidName "" .missingRoot)
  | marker :: path =>
    match Namespace.ofMarker? marker with
    | none => .error (.invalidName ("/".intercalate segments) .missingRoot)
    | some root => within {} ⟨root, path⟩

/-- The name one segment further, the segment taken as it is. -/
def child (n : Name) (segment : String) : Except KeyError Name :=
  within {} { n with path := n.path ++ [segment] }

/-- The name with another last segment, the segment taken as it is. -/
def withBase (n : Name) (segment : String) (limits : Limits := {}) : Except KeyError Name :=
  if n.isRoot then .error (.invalidName n.canonical .rootOnly)
  else within limits { n with path := n.path.dropLast ++ [segment] }

/-- The name further along a written path, which may also lead back. -/
def extend (n : Name) (relative : String) (limits : Limits := {}) : Except KeyError Name :=
  match walk n.path 0 relative.toList with
  | .error fault => .error (.invalidName relative fault)
  | .ok path => within limits { n with path := path }

end Name

/-- The name that a raw text stands for among metadata: a text without a root is read as a path
below the cascading root. -/
def metaName (raw : String) : Except KeyError Name :=
  match Name.parse raw with
  | .error (.invalidName _ .missingRoot) => Name.parse ("/" ++ raw)
  | result => result

end ConfigKeys
