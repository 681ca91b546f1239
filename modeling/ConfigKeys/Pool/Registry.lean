import ConfigKeys.Pool.Tree

/-!
# Registries

A registry holds keys of different names, in the order in which the names came.  The metadata of a
record is one; a host may keep others.

## Main definitions

* `Registry` — the keys of a registry.
* `Registry.get?` — the key of a name.
* `Registry.put`, `Registry.without` — the keys after an insertion or a removal.
* `Registry.insert`, `Registry.remove` — the same with the counts that go with it.
-/

namespace ConfigKeys

/-- The list with `a` in the place of the first item that is `same`, or at the end if there is
none. -/
def upsert {α : Type} (same : α → Bool) (a : α) : List α → List α
  | [] => [a]
  | x :: rest => if same x then a :: rest else x :: upsert same a rest

/-- Keys of different names, in the order in which the names came. -/
abbrev Registry := List Key

namespace Registry

/-- The key of a name. -/
def get? (p : Pool) (r : Registry) (n : Name) : Option Key := r.find? fun k => p.name k = n

/-- The keys with one more, which takes the place of the key of its name. -/
def put (p : Pool) (r : Registry) (k : Key) : Registry :=
  upsert (fun old => p.name old = p.name k) k r

/-- The keys without the one of a name. -/
def without (p : Pool) (r : Registry) (n : Name) : Registry := r.eraseP fun k => p.name k = n

/-- Inserts a key; the one whose place it takes is let go. -/
def insert (p : Pool) (r : Registry) (k : Key) : Pool × Registry :=
  ((p.lock k.id).detachAll (r.get? p (p.name k)).toList, r.put p k)

/-- Removes the key of a name and hands it over: it is no longer counted here, and not dropped. -/
def remove (p : Pool) (r : Registry) (n : Name) : Option Key × Pool × Registry :=
  match r.get? p n with
  | none => (none, p, r)
  | some k => (some k, p.unlock k.id, r.without p n)

end Registry

end ConfigKeys
