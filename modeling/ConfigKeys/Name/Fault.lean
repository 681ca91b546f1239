/-!
# What can go wrong

Every failure is a cause with the data that belongs to it; the texts that people read are made
from the cause in one place.

## Main definitions

* `NameFault` — why a text is no name, with `NameFault.code` and `NameFault.message`.
* `KeyError` — why an operation on keys failed, with `KeyError.message`.
-/

namespace ConfigKeys

/-- Why a text is not a name, or a name not a fit one. -/
inductive NameFault
  /-- There is no text. -/
  | empty
  /-- The text begins neither with a separator nor with a namespace. -/
  | missingRoot
  /-- The text ends in an escape character, at this byte. -/
  | danglingEscape (position : Nat)
  /-- The escape character at this byte stands before something that is never escaped. -/
  | invalidEscape (position : Nat)
  /-- The text takes `actual` bytes, more than `max`. -/
  | tooLong (actual max : Nat)
  /-- The name has `actual` segments, more than `max`. -/
  | tooDeep (actual max : Nat)
  /-- A last segment is needed, but nothing stands below the root. -/
  | rootOnly
  deriving DecidableEq

namespace NameFault

/-- The code that hosts compare. -/
def code : NameFault → String
  | .empty => "empty_name"
  | .missingRoot => "missing_root"
  | .danglingEscape _ => "dangling_escape"
  | .invalidEscape _ => "invalid_escape"
  | .tooLong _ _ => "name_too_long"
  | .tooDeep _ _ => "name_too_deep"
  | .rootOnly => "root_only"

/-- The text that people read. -/
def message : NameFault → String
  | .empty => "name cannot be empty"
  | .missingRoot => "name must start with '/' or a namespace"
  | .danglingEscape position => s!"dangling escape character at byte {position}"
  | .invalidEscape position => s!"invalid escape sequence at byte {position}"
  | .tooLong actual max => s!"name too long: {actual} bytes exceeds maximum {max}"
  | .tooDeep actual max => s!"name too deep: {actual} segments exceeds maximum {max}"
  | .rootOnly => "name has no base name below its root"

end NameFault

/-- Why an operation on keys failed. -/
inductive KeyError
  /-- The text `name` is not a fit name. -/
  | invalidName (name : String) (fault : NameFault)
  /-- The text `value` does not spell a value of the type `target`. -/
  | conversion (target : String) (value : String)
  /-- The key of this name is held by a container, so its name stays. -/
  | nameLocked (name : String)
  /-- No option for making a key has this tag. -/
  | unknownOption (tag : String)
  deriving DecidableEq

namespace KeyError

/-- The text that people read. -/
def message : KeyError → String
  | .invalidName name fault => s!"Invalid key name '{name}': {fault.message}"
  | .conversion target value => s!"Cannot convert value '{value}' to {target}"
  | .nameLocked name => s!"Key name is locked while the key is in a key set: {name}"
  | .unknownOption tag => s!"Unknown key option: {tag}"

end KeyError

end ConfigKeys
