import ConfigKeys.Pool.Registry
import ConfigKeys.Proofs.Pool.Reclaim

/-!
# Registries as keys come and go

## Main results

* `first_cases` — search, removal and insertion in a list agree on the item that they are about.
* `Pool.Balanced.insertRegistered`, `Pool.Balanced.removeRegistered` — the operations balance.
-/

namespace ConfigKeys

/-- **Search, removal and insertion agree**: all of them are about the first item that is the same,
if there is one. -/
theorem first_cases {α : Type} (same : α → Bool) (l : List α) :
    (∃ l₁ x l₂, l = l₁ ++ x :: l₂ ∧ same x = true ∧ l.find? same = some x ∧
      l.eraseP same = l₁ ++ l₂ ∧ ∀ a, upsert same a l = l₁ ++ a :: l₂) ∨
    ((∀ x ∈ l, same x = false) ∧ l.find? same = none ∧ l.eraseP same = l ∧
      ∀ a, upsert same a l = l ++ [a]) := by
  induction l with
  | nil => exact .inr ⟨by simp, rfl, rfl, fun _ => rfl⟩
  | cons x l ih =>
    rcases hx : same x with _ | _
    · rcases ih with ⟨l₁, y, l₂, hl, hy, hfind, herase, hupsert⟩ | ⟨hall, hfind, herase, hupsert⟩
      · refine .inl ⟨x :: l₁, y, l₂, by rw [hl]; rfl, hy, ?_, ?_, ?_⟩
        · rw [List.find?_cons_of_neg (by simp [hx]), hfind]
        · rw [List.eraseP_cons_of_neg (by simp [hx]), herase]
          rfl
        · intro a
          rw [upsert, hx, hupsert a]
          rfl
      · refine .inr ⟨?_, ?_, ?_, ?_⟩
        · intro y hy
          rcases List.mem_cons.mp hy with rfl | hy
          · exact hx
          · exact hall y hy
        · rw [List.find?_cons_of_neg (by simp [hx]), hfind]
        · rw [List.eraseP_cons_of_neg (by simp [hx]), herase]
        · intro a
          rw [upsert, hx, hupsert a]
          rfl
    · refine .inl ⟨[], x, l, rfl, hx, List.find?_cons_of_pos hx, List.eraseP_cons_of_pos hx, ?_⟩
      intro a
      rw [upsert, hx]
      rfl

namespace Registry

variable {p : Pool} {r : Registry} {n : Name} {k : Key}

/-- The key of a name in a registry, with what stands before and after it, or none. -/
theorem get?_cases (p : Pool) (r : Registry) (n : Name) :
    (∃ l₁ old l₂, r = l₁ ++ old :: l₂ ∧ p.name old = n ∧ r.get? p n = some old ∧
      r.without p n = l₁ ++ l₂ ∧ ∀ k, p.name k = n → r.put p k = l₁ ++ k :: l₂) ∨
    ((∀ x ∈ r, p.name x ≠ n) ∧ r.get? p n = none ∧ r.without p n = r ∧
      ∀ k, p.name k = n → r.put p k = r ++ [k]) := by
  rcases first_cases (fun x => decide (p.name x = n)) r with
    ⟨l₁, old, l₂, hr, hold, hfind, herase, hupsert⟩ | ⟨hall, hfind, herase, hupsert⟩
  · refine .inl ⟨l₁, old, l₂, hr, of_decide_eq_true hold, hfind, herase, ?_⟩
    rintro k rfl
    exact hupsert k
  · refine .inr ⟨fun x hx => of_decide_eq_false (hall x hx), hfind, herase, ?_⟩
    rintro k rfl
    exact hupsert k

/-- What takes part in an insertion is there afterwards, or let go. -/
theorem put_perm (p : Pool) (r : Registry) (k : Key) :
    ((r.put p k).map Key.id ++ (r.get? p (p.name k)).toList.map Key.id).Perm
      (r.map Key.id ++ [k.id]) := by
  rw [List.perm_iff_count]
  intro i
  rcases get?_cases p r (p.name k) with
    ⟨l₁, old, l₂, hr, -, hget, -, hput⟩ | ⟨-, hget, -, hput⟩
  · rw [hput k rfl, hget, hr]
    simp only [List.map_append, List.map_cons, List.count_append, List.count_cons,
      Option.toList_some, List.map_nil, List.count_nil]
    omega
  · rw [hput k rfl, hget]
    simp

theorem put_distinct (hdist : p.Distinct r) (k : Key) : p.Distinct (r.put p k) := by
  rcases get?_cases p r (p.name k) with
    ⟨l₁, old, l₂, hr, hold, -, -, hput⟩ | ⟨hall, -, -, hput⟩
  · rw [Pool.Distinct, hr, List.map_append, List.map_cons, hold] at hdist
    rw [hput k rfl, Pool.Distinct, List.map_append, List.map_cons]
    exact hdist
  · rw [hput k rfl, Pool.Distinct, List.map_append, List.map_singleton]
    refine List.nodup_append.mpr ⟨hdist, List.nodup_singleton _, ?_⟩
    intro a ha b hb heq
    rw [List.mem_singleton] at hb
    obtain ⟨x, hx, rfl⟩ := List.mem_map.mp ha
    exact hall x hx (heq.trans hb)

theorem without_distinct (hdist : p.Distinct r) (n : Name) : p.Distinct (r.without p n) :=
  hdist.sublist (List.eraseP_sublist.map p.name)

/-- What takes part in a removal is there afterwards, or handed over. -/
theorem without_perm (p : Pool) (r : Registry) (n : Name) :
    ((r.without p n).map Key.id ++ (r.get? p n).toList.map Key.id).Perm (r.map Key.id) := by
  rw [List.perm_iff_count]
  intro i
  rcases get?_cases p r n with ⟨l₁, old, l₂, hr, -, hget, hwithout, -⟩ | ⟨-, hget, hwithout, -⟩
  · rw [hwithout, hget, hr]
    simp only [List.map_append, List.map_cons, List.count_append, List.count_cons,
      Option.toList_some, List.map_nil, List.count_nil]
    omega
  · rw [hwithout, hget]
    simp

end Registry

namespace Pool.Balanced

variable {p : Pool} {S R : List (List Key)} {P H L : List RecordId} {r : Registry} {k : Key}

/-- A new registry is empty. -/
theorem newRegistry (h : p.Balanced S R P H L) : p.Balanced S ([] :: R) P H L :=
  putRegistry h List.nodup_nil

/-- **Inserting a key into a registry balances.** -/
theorem insertRegistered {rec : Record} (h : p.Balanced S (r :: R) P H (k.id :: L))
    (hrec : p.find? k.id = some rec) :
    (r.insert p k).1.Balanced S ((r.insert p k).2 :: R) P H L := by
  -- the key is counted first, then it takes its place, and what stood there is let go
  have hlock := h.lock_new hrec
  have hdist : p.Distinct (r.put p k) :=
    Registry.put_distinct (h.distinct r List.mem_cons_self) k
  refine detachAll (hlock.changeRegistry (hdist.congr fun x _ => name_lock p k.id x) ?_)
  rw [← List.append_assoc]
  exact ((Registry.put_perm p r k).append_right P).trans (by rw [List.append_assoc]; exact .refl _)

/-- **Removing a name from a registry balances**; the key that is handed over need not be held any
more. -/
theorem removeRegistered (h : p.Balanced S (r :: R) P H L) (n : Name) :
    (r.remove p n).2.1.Balanced S ((r.remove p n).2.2 :: R) P H
      ((r.remove p n).1.toList.map Key.id ++ L) := by
  have hdist := Registry.without_distinct (h.distinct r List.mem_cons_self) n
  have hperm := Registry.without_perm p r n
  rw [Registry.remove]
  rcases hget : r.get? p n with _ | old
  · exact h
  · rw [hget] at hperm
    refine unlock (h.changeRegistry hdist ?_)
    rw [List.append_cons]
    exact hperm.append_right P

theorem exists_of_unregistered (h : p.Balanced S (r :: R) P H L) {n : Name}
    (hk : (r.remove p n).1 = some k) : ∃ rec, (r.remove p n).2.1.find? k.id = some rec := by
  rw [Registry.remove] at hk ⊢
  rcases hget : r.get? p n with _ | old
  · simp [hget] at hk
  · rw [hget] at hk
    obtain rfl : old = k := by simpa using hk
    have hmem : old ∈ r := List.mem_of_find?_eq_some hget
    obtain ⟨rec, hrec⟩ := h.exists_of_mem_registry List.mem_cons_self hmem
    exact ⟨{ rec with locks := rec.locks - 1 }, by simp [hrec]⟩

end Pool.Balanced
end ConfigKeys
