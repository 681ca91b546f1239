import ConfigKeys.Name.Basic

/-!
# Limits on names

A name has a greatest length in bytes and a greatest depth.  The raw text of a name is measured
before it is read, and its depth after; a name that grows is measured in its canonical form.

## Main definitions

* `Limits` — the two bounds, with `Limits.small` beside the default ones.
* `Limits.check` — a name against both bounds.
-/

namespace ConfigKeys

/-- Bounds on the size of a name. -/
structure Limits where
  /-- The greatest length in bytes. -/
  maxNameBytes : Nat := 65536
  /-- The greatest number of segments, the root's marker included. -/
  maxDepth : Nat := 1024
  deriving DecidableEq, Inhabited

namespace Limits

/-- Tight bounds, for small hosts. -/
def small : Limits := ⟨64, 8⟩

/-- A length in bytes against its bound. -/
def checkLength (limits : Limits) (bytes : Nat) : Except NameFault Unit :=
  if bytes > limits.maxNameBytes then .error (.tooLong bytes limits.maxNameBytes) else .ok ()

/-- A number of segments against its bound. -/
def checkDepth (limits : Limits) (depth : Nat) : Except NameFault Unit :=
  if depth > limits.maxDepth then .error (.tooDeep depth limits.maxDepth) else .ok ()

/-- A name against both bounds, the length of its canonical form first. -/
def check (limits : Limits) (n : Name) : Except NameFault Unit := do
  limits.checkLength n.byteLength
  limits.checkDepth n.depth

end Limits

/-- A name that keeps within the limits; one that does not is shown in its canonical form. -/
def Name.within (limits : Limits) (n : Name) : Except KeyError Name :=
  match limits.check n with
  | .ok () => .ok n
  | .error fault => .error (.invalidName n.canonical fault)

end ConfigKeys
