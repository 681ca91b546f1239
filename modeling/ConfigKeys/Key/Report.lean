import ConfigKeys.Key.Basic

/-!
# Reports on keys

Where an operation can only say that it failed, the details stand in the metadata of the key that it
was given: one error, and a ring of the last hundred warnings.

## Main definitions

* `Report` — the details of a failure.
* `Report.setError`, `Report.error?`, `Report.clearError` — the error of a key.
* `Report.addWarning`, `Report.warnings` — the warnings of a key.
-/

namespace ConfigKeys

/-- The details of a failure. -/
structure Report where
  /-- The code of the class of failures. -/
  number : String
  /-- The class in words. -/
  description : String
  /-- Who reports. -/
  module : String
  /-- What went wrong. -/
  reason : String
  deriving DecidableEq

namespace Report

/-- A resource could not be used. -/
def resource (module reason : String) : Report := ⟨"C01100", "Resource", module, reason⟩

/-- The configuration of a plugin is not fit. -/
def installation (module reason : String) : Report := ⟨"C01310", "Installation", module, reason⟩

/-- A stage was called out of order. -/
def interface (module reason : String) : Report := ⟨"C01330", "Interface", module, reason⟩

/-- A value is not fit. -/
def validation (module reason : String) : Report := ⟨"C03200", "Validation", module, reason⟩

/-- The fields of a report, with the names of their entries. -/
def fields (r : Report) : List (String × String) :=
  [("number", r.number), ("description", r.description), ("module", r.module),
    ("reason", r.reason)]

/-- The names of the entries of the fields. -/
def fieldNames : List String := ["number", "description", "module", "reason"]

/-- Writes the fields below a place in the metadata of a key. -/
def write (p : Pool) (k : Key) (place : String) (r : Report) : Except KeyError Pool :=
  r.fields.foldlM (fun p field => p.setMeta k (place ++ "/" ++ field.1) field.2) p

/-- Reads the fields below a place in the metadata of a key.  A report has at least a number. -/
def read? (p : Pool) (k : Key) (place : String) : Option Report := do
  let field (name : String) := p.metaText? k (place ++ "/" ++ name)
  let number ← field "number"
  some ⟨number, (field "description").getD "", (field "module").getD "",
    (field "reason").getD ""⟩

/-! ### The error -/

/-- Records the error of a key in the place of an earlier one. -/
def setError (p : Pool) (k : Key) (r : Report) : Except KeyError Pool := do
  let p ← p.setMeta k "error" r.number
  r.write p k "error"

/-- Records the error of a key, and leaves the key as it is where that fails. -/
def attach (p : Pool) (k : Key) (r : Report) : Pool :=
  match r.setError p k with
  | .ok p => p
  | .error _ => p

/-- Whether a key carries an error. -/
def hasError (p : Pool) (k : Key) : Bool := (p.meta? k "error").isSome

/-- The error of a key. -/
def error? (p : Pool) (k : Key) : Option Report := read? p k "error"

/-- Removes an entry and drops it. -/
def dropMeta (p : Pool) (k : Key) (raw : String) : Except KeyError Pool :=
  (p.removeMeta k raw).map Pool.dropHanded

/-- Takes the error off a key; its warnings stay. -/
def clearError (p : Pool) (k : Key) : Except KeyError Pool := do
  let p ← dropMeta p k "error"
  fieldNames.foldlM (fun p name => dropMeta p k ("error/" ++ name)) p

/-! ### Warnings -/

/-- The number of warnings that are kept. -/
def ringSize : Nat := 100

/-- The mark of a warning: its index in at least two digits. -/
def mark (index : Nat) : String := if index < 10 then s!"#0{index}" else s!"#{index}"

/-- The place of a warning in the metadata. -/
def place (index : Nat) : String := "warnings/" ++ mark index

/-- The greatest index that a mark can stand for. -/
def maxIndex : UInt64 := .ofNat (twoTo 64 - 1)

/-- The index that a mark stands for, a machine word. -/
def indexOf? (mark : String) : Option UInt64 :=
  match mark.toList with
  | '#' :: digits => do
    let n ← Decimal.natural? (if digits.head? = some '+' then digits.tail else digits)
    if n < twoTo 64 then some (.ofNat n) else none
  | _ => none

/-- The index of the last warning of a key. -/
def lastWarning? (p : Pool) (k : Key) : Option UInt64 := (p.metaText? k "warnings").bind indexOf?

/-- The index of a warning after one with this index.  Behind the greatest index there is no word: a
checked sum fails there, and this one goes on from zero. -/
def indexAfter (last : UInt64) : UInt64 := (last + 1) % .ofNat ringSize

/-- Adds a warning to a key, after the last one in the ring, and tells its index. -/
def addWarning (p : Pool) (k : Key) (r : Report) : Except KeyError (Nat × Pool) := do
  let index := match lastWarning? p k with
    | none => 0
    | some last => (indexAfter last).toNat
  let p ← r.write p k (place index)
  let p ← p.setMeta k "warnings" (mark index)
  .ok (index, p)

/-- The warnings of a key, by index. -/
def warnings (p : Pool) (k : Key) : List Report :=
  if (lastWarning? p k).isNone then []
  else (List.range ringSize).filterMap fun index => read? p k (place index)

end Report

end ConfigKeys
