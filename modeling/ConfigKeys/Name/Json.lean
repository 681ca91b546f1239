import ConfigKeys.Json.Basic
import ConfigKeys.Name.Parse

/-!
# Names and limits in JSON

## Main definitions

* `Name.ofJson?` — a name, written as a string in its raw form.
* `Limits.ofJson?` — limits, of which any that is missing takes its default.
-/

namespace ConfigKeys

/-- The name that a JSON text holds. -/
def Name.ofJson? (text : String) : Option Name := do
  let raw ← (← Json.parse? text).text?
  (Name.parse raw).toOption

/-- A name as a JSON text. -/
def Name.toJson (n : Name) : String := Json.quote n.canonical

/-- The limits that a JSON text holds. -/
def Limits.ofJson? (text : String) : Option Limits := do
  match ← (← Json.parse? text).fields? ["max_name_bytes", "max_depth"] with
  | [bytes, depth] =>
    let defaults : Limits := {}
    some {
      maxNameBytes := ← Json.orDefault? defaults.maxNameBytes Json.size? bytes
      maxDepth := ← Json.orDefault? defaults.maxDepth Json.size? depth }
  | _ => none

end ConfigKeys
