import ConfigKeys.Config.Basic
import ConfigKeys.Proofs.KeySet.Change
import ConfigKeys.Proofs.Pool.Frame

/-!
# What operations on containers leave alone

To put keys into a container, or to take them out, writes to no record.  What is in a container
afterwards was there before, came in, or is new.

## Main results

* `Pool.Evolves.append`, `Pool.Evolves.appendAll`, `Pool.Evolves.removeName`, `Pool.Evolves.copySet`
  — key sets.
* `Pool.Evolves.insertRegistered`, `Pool.Evolves.removeRegistered` — registries.
* `Pool.Evolves.ofTexts`, `Pool.Evolves.ofTree`, `Pool.Evolves.ofToml`, `Pool.Evolves.setConfig` —
  configurations.
* `KeySet.mem_append`, `KeySet.mem_appendAll`, `KeySet.mem_cut` — what is in a set.
-/

namespace ConfigKeys

/-! ### What is in a set -/

namespace KeySet

variable {p : Pool} {s : KeySet} {n : Name} {k x : Key}

theorem mem_append (hx : x ∈ (s.append p k).2.toList) : x = k ∨ x ∈ s.toList := by
  rw [append] at hx
  split at hx
  · split at hx
    · exact .inr hx
    · exact (List.mem_or_eq_of_mem_set (by simpa [toList] using hx)).symm
  · rw [toList, Array.insertIdxIfInBounds] at hx
    split at hx
    · rw [Array.toList_insertIdx] at hx
      exact (List.mem_insertIdx (by simpa using ‹_›)).mp hx
    · exact .inr hx

theorem mem_appendAll {keys : List Key} (hx : x ∈ (s.appendAll p keys).2.toList) :
    x ∈ keys ∨ x ∈ s.toList := by
  induction keys generalizing p s with
  | nil => exact .inr hx
  | cons k keys ih =>
    rcases ih hx with hmem | hmem
    · exact .inl (List.mem_cons_of_mem k hmem)
    · rcases mem_append hmem with rfl | hmem
      · exact .inl List.mem_cons_self
      · exact .inr hmem

theorem mem_remove (hx : x ∈ (s.remove p n).2.2.toList) : x ∈ s.toList := by
  rw [remove] at hx
  split at hx
  · exact hx
  · rw [toList, Array.toList_eraseIdxIfInBounds] at hx
    exact List.mem_of_mem_eraseIdx hx

theorem mem_of_removed (hk : (s.remove p n).1 = some k) : k ∈ s.toList := by
  rw [remove] at hk
  split at hk
  · cases hk
  · next hfind =>
    cases hk
    exact mem_of_find? hfind

theorem mem_of_mem_subtree (hx : x ∈ (s.subtree p n).toList) : x ∈ s.toList := by
  rw [subtree_toList] at hx
  exact List.mem_of_mem_drop (List.mem_of_mem_take hx)

theorem mem_cut (hx : x ∈ (s.cut p n).1.toList ∨ x ∈ (s.cut p n).2.toList) : x ∈ s.toList :=
  (cut_perm p s n).mem_iff.mp (List.mem_append.mpr hx)

end KeySet

/-- What is left in a registry, and what is handed over, was in it. -/
theorem Registry.mem_of_remove (p : Pool) (r : Registry) (n : Name) :
    (∀ x ∈ (r.remove p n).2.2, x ∈ r) ∧ ∀ x, (r.remove p n).1 = some x → x ∈ r := by
  rw [remove]
  rcases hget : r.get? p n with _ | k
  · exact ⟨fun x hx => hx, fun x hx => by cases hx⟩
  · refine ⟨fun x hx => List.mem_of_mem_eraseP hx, ?_⟩
    rintro x ⟨⟩
    exact List.mem_of_find?_eq_some hget

namespace Pool.Evolves

variable {N W : Set RecordId} {p q q' : Pool} {s : KeySet} {k : Key} {keys : List Key} {n : Name}

/-! ### Key sets -/

theorem append (h : p.Evolves N W q) (s : KeySet) (k : Key) : p.Evolves N W (s.append q k).1 := by
  rw [KeySet.append]
  split
  · split
    · exact h
    · exact (h.lock k.id).detach _
  · exact h.lock k.id

theorem appendAll (h : p.Evolves N W q) (s : KeySet) (keys : List Key) :
    p.Evolves N W (s.appendAll q keys).1 := by
  induction keys generalizing q s with
  | nil => exact h
  | cons k keys ih => exact ih (h.append s k) (s.append q k).2

theorem removeName (h : p.Evolves N W q) (s : KeySet) (n : Name) :
    p.Evolves N W (s.remove q n).2.1 := by
  rw [KeySet.remove]
  split
  · exact h
  · exact h.unlock _

theorem drop (h : p.Evolves N W q) (s : KeySet) : p.Evolves N W (s.drop q) :=
  h.detachAll s.toList

/-- **A set of copies is new.** -/
theorem copySet (h : p.Evolves N W q) (s : KeySet) :
    p.Evolves N W (s.copy q).1 ∧ ∀ x ∈ (s.copy q).2.toList, p.nextId ≤ x.id := by
  refine List.foldlRecOn (motive := fun done : Pool × KeySet =>
    p.Evolves N W done.1 ∧ ∀ x ∈ done.2.toList, p.nextId ≤ x.id) s.toList _
    ⟨h, fun x hx => absurd hx List.not_mem_nil⟩ ?_
  intro done hdone k _
  refine ⟨(hdone.1.copy k.id).append done.2 _, ?_⟩
  intro x hx
  rcases KeySet.mem_append hx with rfl | hx
  · exact hdone.1.grows
  · exact hdone.2 x hx

/-! ### Registries -/

theorem insertRegistered (h : p.Evolves N W q) (r : Registry) (k : Key) :
    p.Evolves N W (r.insert q k).1 :=
  (h.lock k.id).detachAll _

theorem removeRegistered (h : p.Evolves N W q) (r : Registry) (n : Name) :
    p.Evolves N W (r.remove q n).2.1 := by
  rw [Registry.remove]
  split
  · exact h
  · exact h.unlock _

/-! ### Configurations -/

/-- A new key with a text goes into a set. -/
theorem appendText (h : p.Evolves N W q) (s : KeySet) (n : Name) (v : Value) :
    let done := s.append (q.alloc { name := n, value := v }) ⟨q.nextId, {}⟩
    p.Evolves N W done.1 ∧ ∀ x ∈ done.2.toList, p.nextId ≤ x.id ∨ x ∈ s.toList := by
  refine ⟨(h.alloc rfl).append s _, ?_⟩
  intro x hx
  rcases KeySet.mem_append hx with rfl | hx
  · exact .inl h.grows
  · exact .inr hx

/-- **A set of new keys is new.** -/
theorem ofTexts (h : p.Evolves N W q) (texts : List (Name × String)) :
    p.Evolves N W (KeySet.ofTexts q texts).1 ∧
      ∀ x ∈ (KeySet.ofTexts q texts).2.toList, p.nextId ≤ x.id := by
  refine List.foldlRecOn (motive := fun done : Pool × KeySet =>
    p.Evolves N W done.1 ∧ ∀ x ∈ done.2.toList, p.nextId ≤ x.id) texts _
    ⟨h, fun x hx => absurd hx List.not_mem_nil⟩ ?_
  intro done hdone text _
  obtain ⟨hev, hmem⟩ := hdone.1.appendText done.2 text.1 (.ofText text.2)
  exact ⟨hev, fun x hx => (hmem x hx).elim id (hdone.2 x)⟩

theorem ofTree {v : Toml.Value} {c : Config} (h : p.Evolves N W q)
    (hload : Config.ofTree q v = .ok (q', c)) :
    p.Evolves N W q' ∧ ∀ x ∈ c.entries.toList, p.nextId ≤ x.id := by
  rw [Config.ofTree] at hload
  split at hload
  · cases hload
  · next leaves _ =>
    cases hload
    exact h.ofTexts leaves

theorem ofToml {text : String} {c : Config} (h : p.Evolves N W q)
    (hload : Config.ofToml q text = .ok (q', c)) :
    p.Evolves N W q' ∧ ∀ x ∈ c.entries.toList, p.nextId ≤ x.id := by
  rw [Config.ofToml] at hload
  split at hload
  · cases hload
  · exact h.ofTree hload

theorem setConfig {c c' : Config} {raw text : String} (h : p.Evolves N W q)
    (hset : c.set q raw text = .ok (q', c')) :
    p.Evolves N W q' ∧ ∀ x ∈ c'.entries.toList, p.nextId ≤ x.id ∨ x ∈ c.entries.toList := by
  rw [Config.set] at hset
  rcases hn : metaName raw with e | n
  · simp [hn] at hset
  · simp only [hn, Except.ok.injEq] at hset
    cases hset
    exact h.appendText c.entries n (.ofText text)

end Pool.Evolves
end ConfigKeys
