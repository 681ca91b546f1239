import ConfigKeys.Toml.Scalar

/-!
# TOML documents

A document is a sequence of lines: headers, which say what table the lines after them belong to,
and entries.  Tables may be defined piece by piece, but none of them twice; `Node` keeps track of
how each table came about.

## Main definitions

* `Toml.Node` — a document in the making.
* `Toml.insert?` — an entry under a dotted key.
* `Toml.openTable?`, `Toml.openElement?` — the two kinds of headers.
* `Toml.parse?` — the members of the document's top table, in order.
-/

namespace ConfigKeys.Toml

/-- How a table came about. -/
inductive TableKind
  /-- By a header that leads through it. -/
  | implicit
  /-- By a dotted key that leads through it. -/
  | dotted
  /-- By a header of its own. -/
  | explicit
  deriving DecidableEq

/-- A part of a document in the making. -/
inductive Node
  /-- A value that is complete. -/
  | value (v : Value)
  /-- A table to which entries may still be added. -/
  | table (kind : TableKind) (members : List (String × Node))
  /-- A list of tables that grows by headers; the last one is the one in hand, and it is kept
  apart. -/
  | tables (earlier : List (List (String × Node))) (last : List (String × Node))

/-- The members of a table in the making. -/
abbrev Members := List (String × Node)

namespace Members

/-- The member of a name. -/
def find? (members : Members) (name : String) : Option Node :=
  (List.find? (fun m => m.1 = name) members).map Prod.snd

/-- The members with one of them replaced, or added at the end if it is new. -/
def put (members : Members) (name : String) (node : Node) : Members :=
  if members.any fun m => m.1 = name then
    members.map fun m => if m.1 = name then (name, node) else m
  else members ++ [(name, node)]

/-- The members with one of them replaced, or added if it is new, and in either case at the end. -/
def putLast (members : Members) (name : String) (node : Node) : Members :=
  members.filter (fun m => m.1 ≠ name) ++ [(name, node)]

end Members

mutual

/-- The value that a part of a document has become, as it is written. -/
def Node.toValue : Node → Value
  | .value v => v
  | .table _ members => .table (Members.toValues members)
  | .tables earlier last =>
    .array (Members.listToValues earlier ++ [.table (Members.toValues last)])

/-- The values that members have become. -/
def Members.toValues : List (String × Node) → List (String × Value)
  | [] => []
  | (name, node) :: rest => (name, node.toValue) :: Members.toValues rest

/-- The values that tables have become. -/
def Members.listToValues : List (List (String × Node)) → List Value
  | [] => []
  | members :: rest => .table (Members.toValues members) :: Members.listToValues rest

end

/-- Adds an entry under a dotted key, of which `key` is the last part.  The parts before it lead
through tables that dotted keys have made, and make them where they are missing; a table that was
defined otherwise may be passed, but takes no entry by a dotted key. -/
def insert? (key : String) (v : Value) : List String → Members → Option Members
  | [], members =>
    if (members.find? key).isSome then none else some (members ++ [(key, .value v)])
  | part :: parts, members =>
    match members.find? part with
    | none => do
      let inner ← insert? key v parts []
      some (members.put part (.table .dotted inner))
    | some (.table .dotted inner) => do
      let inner ← insert? key v parts inner
      some (members.put part (.table .dotted inner))
    | some (.table .implicit inner) =>
      if parts.isEmpty then none else do
        let inner ← insert? key v parts inner
        some (members.put part (.table .implicit inner))
    | some (.tables earlier last) =>
      if parts.isEmpty then none else do
        let last ← insert? key v parts last
        some (members.put part (.tables earlier last))
    | some (.table .explicit _) => none
    | some (.value _) => none

/-- Changes the table that a header's path leads to.  The path makes the tables that are missing,
passes every table, and of a list of tables takes the last one. -/
def descend? (change : Members → Option Members) : List String → Members → Option Members
  | [], members => change members
  | part :: parts, members =>
    match members.find? part with
    | none => do
      let inner ← descend? change parts []
      some (members.put part (.table .implicit inner))
    | some (.table kind inner) => do
      let inner ← descend? change parts inner
      some (members.put part (.table kind inner))
    | some (.tables earlier last) => do
      let last ← descend? change parts last
      some (members.put part (.tables earlier last))
    | some (.value _) => none

/-- Begins the table of a header.  It may exist already only because other headers led through it,
and takes its place among its neighbours from this header, not from those. -/
def openTable? (path : List String) (root : Members) : Option Members :=
  let change (name : String) (members : Members) : Option Members :=
    match members.find? name with
    | none => some (members.put name (.table .explicit []))
    | some (.table .implicit inner) => some (members.putLast name (.table .explicit inner))
    | some _ => none
  match path.getLast? with
  | none => none
  | some name => descend? (change name) path.dropLast root

/-- Begins another table in the list of a header. -/
def openElement? (path : List String) (root : Members) : Option Members :=
  let change (name : String) (members : Members) : Option Members :=
    match members.find? name with
    | none => some (members.put name (.tables [] []))
    | some (.tables earlier last) => some (members.put name (.tables (earlier ++ [last]) []))
    | some _ => none
  match path.getLast? with
  | none => none
  | some name => descend? (change name) path.dropLast root

/-- Adds an entry to a table. -/
def enter? (key : List String) (v : Value) (members : Members) : Option Members :=
  match key.getLast? with
  | none => none
  | some name => insert? name v key.dropLast members

/-- The text after blanks, ends of lines and comments; `commented` says that it begins inside a
comment. -/
def skipLines (commented : Bool) : List Char → List Char
  | '\n' :: rest => skipLines false rest
  | '\r' :: '\n' :: rest => skipLines false rest
  | c :: rest =>
    if commented then if isPlain c then skipLines true rest else c :: rest
    else if isBlank c then skipLines false rest
    else if c = '#' then skipLines true rest
    else c :: rest
  | [] => []

mutual

/-- Reads a value inside `depth` others. -/
def readValue? : Nat → Nat → List Char → Option (Value × List Char)
  | 0, _, _ => none
  | fuel + 1, depth, text =>
    match text with
    | '[' :: rest => if depth + 1 < depthLimit then readItems? fuel (depth + 1) [] rest else none
    | '{' :: rest =>
      if depth + 1 < depthLimit then
        match skipBlanks rest with
        | '}' :: rest => some (.table [], rest)
        | _ => readPairs? fuel (depth + 1) [] rest
      else none
    | _ => readScalar? text

/-- Reads on in an array; `items` holds what was read, the last item first. -/
def readItems? : Nat → Nat → List Value → List Char → Option (Value × List Char)
  | 0, _, _, _ => none
  | fuel + 1, depth, items, text =>
    match skipLines false text with
    | ']' :: rest => some (.array items.reverse, rest)
    | text => do
      let (v, rest) ← readValue? fuel depth text
      match skipLines false rest with
      | ']' :: rest => some (.array (v :: items).reverse, rest)
      | ',' :: rest => readItems? fuel depth (v :: items) rest
      | _ => none

/-- Reads on in a table on one line, at an entry. -/
def readPairs? : Nat → Nat → Members → List Char → Option (Value × List Char)
  | 0, _, _, _ => none
  | fuel + 1, depth, members, text => do
    let (key, rest) ← readKey? text
    let rest ← readChar? '=' rest
    let (v, rest) ← readValue? fuel depth (skipBlanks rest)
    let members ← enter? key v members
    match skipBlanks rest with
    | '}' :: rest => some ((Node.table .explicit members).toValue, rest)
    | ',' :: rest => readPairs? fuel depth members rest
    | _ => none

end

/-- The text after the end of a line: blanks, a comment, and the end of the line or of the text. -/
def endLine? (text : List Char) : Option (List Char) :=
  let rest := match skipBlanks text with
    | '#' :: rest => rest.dropWhile isPlain
    | rest => rest
  if rest.isEmpty then some [] else newline? rest

/-- Reads the lines of a document, each into the table at `path`, the one of the last header. -/
def readLines? : Nat → List String → Members → List Char → Option Members
  | 0, _, _, _ => none
  | fuel + 1, path, root, text =>
    match skipBlanks text with
    | [] => some root
    | '[' :: '[' :: rest => do
      let (key, rest) ← readKey? rest
      let rest ← readChar? ']' rest
      let rest ← readChar? ']' rest
      let rest ← endLine? rest
      readLines? fuel key (← openElement? key root) rest
    | '[' :: rest => do
      let (key, rest) ← readKey? rest
      let rest ← readChar? ']' rest
      let rest ← endLine? rest
      readLines? fuel key (← openTable? key root) rest
    | '#' :: rest => do readLines? fuel path root (← endLine? ('#' :: rest))
    | text =>
      match newline? text with
      | some rest => readLines? fuel path root rest
      | none => do
        let (key, rest) ← readKey? text
        let rest ← readChar? '=' rest
        let (v, rest) ← readValue? (2 * rest.length + 2) 0 (skipBlanks rest)
        let rest ← endLine? rest
        readLines? fuel path (← descend? (enter? key v) path root) rest

/-- The members of a document's top table, in the order of their names.  The top table itself never
stands for a date and time.  A byte order mark at the beginning does not count. -/
def parse? (text : String) : Option (List (String × Value)) := do
  let lines := match text.toList with
    | '\uFEFF' :: rest => rest
    | cs => cs
  let root ← readLines? (lines.length + 1) [] [] lines
  let members ← resolveMembers? (Members.toValues root)
  some (sortMembers members)

end ConfigKeys.Toml
