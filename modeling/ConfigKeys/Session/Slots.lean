import ConfigKeys.Pool.Registry

/-!
# Slots

A host keeps what it works with in slots, which it names itself.

## Main definitions

* `Slots` — the contents of slots.
* `Slots.get?`, `Slots.put`, `Slots.clear`.
-/

namespace ConfigKeys

/-- The contents of slots, each slot at most once. -/
structure Slots (α : Type) where
  /-- The slots with what they hold. -/
  entries : List (String × α) := []

namespace Slots

variable {α : Type}

/-- What a slot holds. -/
def get? (s : Slots α) (slot : String) : Option α :=
  (s.entries.find? fun e => e.1 = slot).map Prod.snd

/-- Puts something into a slot, in the place of what it held. -/
def put (s : Slots α) (slot : String) (a : α) : Slots α :=
  ⟨upsert (fun e => e.1 = slot) (slot, a) s.entries⟩

/-- Empties a slot. -/
def clear (s : Slots α) (slot : String) : Slots α := ⟨s.entries.eraseP fun e => e.1 = slot⟩

/-- What the slots hold. -/
def contents (s : Slots α) : List α := s.entries.map Prod.snd

end Slots

end ConfigKeys
