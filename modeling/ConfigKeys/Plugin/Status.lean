/-!
# Stages and their outcome

A plugin is driven through five stages, and answers each with a status code.

## Main definitions

* `Stage` — the stages, with `Stage.text`.
* `Status` — a status code, with `Status.isSuccess` and `Status.text`.
-/

namespace ConfigKeys

/-- A stage in the life of a plugin. -/
inductive Stage
  /-- The plugin gets ready. -/
  | opening
  /-- Keys are read. -/
  | get
  /-- Keys are written. -/
  | set
  /-- What was written is taken back, since something else failed. -/
  | error
  /-- The plugin lets go what it holds. -/
  | close
  deriving DecidableEq

namespace Stage

/-- The stages in the order in which they come. -/
def all : List Stage := [.opening, .get, .set, .error, .close]

/-- The name of a stage. -/
def text : Stage → String
  | .opening => "open"
  | .get => "get"
  | .set => "set"
  | .error => "error"
  | .close => "close"

/-- The stage of a name. -/
def ofText? (text : String) : Option Stage := all.find? fun stage => stage.text = text

/-- The place of a stage in their order. -/
def index (stage : Stage) : Nat := all.idxOf stage

@[simp] theorem ofText?_text (stage : Stage) : ofText? stage.text = some stage := by
  cases stage <;> decide

end Stage

/-- The outcome of a stage. -/
structure Status where
  /-- The code that hosts exchange. -/
  code : Int
  deriving DecidableEq

namespace Status

/-- The stage changed something. -/
def success : Status := ⟨1⟩

/-- The stage had nothing to change. -/
def noUpdate : Status := ⟨0⟩

/-- The stage failed. -/
def error : Status := ⟨-1⟩

/-- Whether a stage did its work. -/
def isSuccess (s : Status) : Bool := 0 ≤ s.code

/-- Whether a stage failed. -/
def isError (s : Status) : Bool := s.code < 0

/-- A status in words. -/
def text (s : Status) : String :=
  if s = success then "success"
  else if s = noUpdate then "no update"
  else if s.isError then s!"error ({s.code})"
  else s!"success ({s.code})"

/-- The outcome of a stage that changed `count` items. -/
def ofCount (count : Nat) : Status := if 0 < count then success else noUpdate

end Status

end ConfigKeys
