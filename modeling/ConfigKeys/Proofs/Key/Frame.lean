import ConfigKeys.Proofs.Key.Metadata
import ConfigKeys.Proofs.Pool.Frame

/-!
# What operations on keys leave alone

An operation on a key writes to its record and to no other.  What it puts into the metadata is new.

## Main results

* `Pool.Evolves.setMeta`, `Pool.Evolves.removeMeta`, `Pool.Evolves.copyMeta`,
  `Pool.Evolves.copyAllMeta` — the metadata of a key.
* `Pool.Evolves.setError`, `Pool.Evolves.clearError`, `Pool.Evolves.addWarning` — reports.
* `Pool.Evolves.create` — a new key.
* `Renaming.evolves` — a new name.
-/

namespace ConfigKeys

theorem Registry.mem_put {p : Pool} {r : Registry} {k e : Key} (h : e ∈ r.put p k) :
    e = k ∨ e ∈ r := by
  rcases Registry.get?_cases p r (p.name k) with ⟨l₁, old, l₂, hr, -, -, -, hput⟩ | ⟨-, -, -, hput⟩
  · rw [hput k rfl, List.mem_append, List.mem_cons] at h
    rw [hr, List.mem_append, List.mem_cons]
    tauto
  · rw [hput k rfl, List.mem_append, List.mem_singleton] at h
    tauto

/-- What is handed over was in the metadata. -/
theorem Pool.mem_of_removeMeta {p p' : Pool} {k e : Key} {raw : String}
    (h : p.removeMeta k raw = .ok (some e, p')) : e ∈ p.entries k := by
  rw [removeMeta] at h
  rcases hn : metaName raw with cause | n
  · simp [hn] at h
  · rcases hget : Registry.get? p (p.entries k) n with _ | e'
    · simp [hn, removeEntry, hget] at h
    · simp only [hn, removeEntry, hget, Except.ok.injEq, Prod.mk.injEq, Option.some.injEq] at h
      rw [← h.1]
      exact List.mem_of_find?_eq_some hget

namespace Pool.Evolves

variable {N W : Set RecordId} {p q q' : Pool} {k : Key}

/-! ### One entry -/

/-- A key that is new, newer than the owner and in no metadata goes into the owner's metadata. -/
theorem insertEntry {owner : RecordId} (h : p.Evolves N W q) (howner : owner ∈ W)
    (hnew : p.nextId ≤ k.id) (hafter : owner < k.id) (hlt : k.id < q.nextId)
    (hfree : p.Forward → q.Unentered k.id) : p.Evolves N W (q.insertEntry owner k) := by
  rw [Pool.insertEntry]
  refine detachAll (write (h.lock k.id) (fun _ => howner) ?_ ?_) _
  · exact fun _ => rfl
  intro r hr e he
  rcases Registry.mem_put he with rfl | hold
  · rw [nextId_lock]
    exact .inr ⟨⟨hnew, hafter, hlt⟩, fun hp => (hfree hp).lock e.id⟩
  · -- to lock the key that goes in has changed nobody's metadata
    refine .inl ?_
    rw [find?_lock] at hr
    split at hr
    · obtain ⟨o, ho, rfl⟩ := Option.map_eq_some_iff.mp hr
      rw [record_of_find? ho] at hold
      exact hold
    · rw [record_of_find? hr] at hold
      exact hold

theorem setEntry (h : p.Evolves N W q) (hk : k.id < p.nextId) (hW : k.id ∈ W) (n : Name)
    (v : Value) : p.Evolves N W (q.setEntry k n v) := by
  refine (h.alloc rfl).insertEntry hW h.grows (Nat.lt_of_lt_of_le hk h.grows) ?_ ?_
  · rw [nextId_alloc]
    exact Nat.lt_succ_self _
  · exact fun hp => ((refl ∅ ∅ q).alloc rfl).unentered_new (h.forward hp)

theorem plantEntry (h : p.Evolves N W q) (hk : k.id < p.nextId) (hW : k.id ∈ W) (t : KeyTree) :
    p.Evolves N W (q.plantEntry k t) :=
  (h.plant t).1.insertEntry hW h.grows (Nat.lt_of_lt_of_le hk h.grows) (h.plant t).2 fun hp =>
    ((refl ∅ ∅ q).plant t).1.unentered_new (h.forward hp)

theorem removeEntry (h : p.Evolves N W q) (hW : k.id ∈ W) (n : Name) :
    p.Evolves N W (q.removeEntry k n).2 := by
  rw [Pool.removeEntry]
  rcases hget : Registry.get? q (q.entries k) n with _ | e
  · exact h
  · refine unlock (write h (fun _ => hW) ?_ ?_) e.id
    · exact fun _ => rfl
    intro r hr e' he'
    have hmem : e' ∈ (q.record k.id).entries := List.mem_of_mem_eraseP he'
    rw [record_of_find? hr] at hmem
    exact .inl hmem

theorem dropHanded {handed : Option Key × Pool} (h : p.Evolves N W handed.2) :
    p.Evolves N W (Pool.dropHanded handed) := by
  obtain ⟨_ | k, q⟩ := handed
  · exact h
  · exact h.reclaim k.id

/-! ### The operations of hosts -/

theorem storeValue (h : p.Evolves N W q) (hW : k.id ∈ W) (v : Value) :
    p.Evolves N W (q.setValue k v) :=
  h.setValue (fun _ => hW) fun _ => ⟨rfl, rfl⟩

theorem setMeta {raw text : String} (h : p.Evolves N W q) (hk : k.id < p.nextId) (hW : k.id ∈ W)
    (hset : q.setMeta k raw text = .ok q') : p.Evolves N W q' := by
  rw [Pool.setMeta] at hset
  rcases hn : metaName raw with e | n
  · simp [hn] at hset
  · simp only [hn, Except.ok.injEq] at hset
    rw [← hset]
    exact h.setEntry hk hW n _

theorem removeMeta {raw : String} {handed : Option Key × Pool} (h : p.Evolves N W q)
    (hW : k.id ∈ W) (hremove : q.removeMeta k raw = .ok handed) : p.Evolves N W handed.2 := by
  rw [Pool.removeMeta] at hremove
  rcases hn : metaName raw with e | n
  · simp [hn] at hremove
  · simp only [hn, Except.ok.injEq] at hremove
    rw [← hremove]
    exact h.removeEntry hW n

theorem copyMeta {source : Key} {raw : String} (h : p.Evolves N W q) (hk : k.id < p.nextId)
    (hW : k.id ∈ W) (hcopy : q.copyMeta k source raw = .ok q') : p.Evolves N W q' := by
  rw [Pool.copyMeta] at hcopy
  rcases hn : metaName raw with e | n
  · simp [hn] at hcopy
  · rcases hget : Registry.get? q (q.entries source) n with _ | e
    · simp only [hn, hget, Except.ok.injEq] at hcopy
      rw [← hcopy]
      exact (h.removeEntry hW n).dropHanded
    · simp only [hn, hget, Except.ok.injEq] at hcopy
      rw [← hcopy]
      exact h.plantEntry hk hW _

theorem copyAllMeta (h : p.Evolves N W q) (hk : k.id < p.nextId) (hW : k.id ∈ W) (source : Key) :
    p.Evolves N W (q.copyAllMeta k source) :=
  List.foldlRecOn (motive := fun q : Pool => p.Evolves N W q) _ _ h
    fun _ hq t _ => hq.plantEntry hk hW t

/-! ### Reports -/

theorem writeReport {place : String} {r : Report} (h : p.Evolves N W q) (hk : k.id < p.nextId)
    (hW : k.id ∈ W) (hwrite : r.write q k place = .ok q') : p.Evolves N W q' :=
  foldlM_keeps (fun _ _ _ hb hset => setMeta hb hk hW hset) r.fields h hwrite

theorem setError {r : Report} (h : p.Evolves N W q) (hk : k.id < p.nextId) (hW : k.id ∈ W)
    (hset : r.setError q k = .ok q') : p.Evolves N W q' := by
  rw [Report.setError, bind_eq_ok] at hset
  obtain ⟨q₁, hnumber, hwrite⟩ := hset
  exact (h.setMeta hk hW hnumber).writeReport hk hW hwrite

theorem attach (h : p.Evolves N W q) (hk : k.id < p.nextId) (hW : k.id ∈ W) (r : Report) :
    p.Evolves N W (r.attach q k) := by
  unfold Report.attach
  rcases hset : r.setError q k with e | q'
  · exact h
  · exact h.setError hk hW hset

theorem dropMeta {raw : String} (h : p.Evolves N W q) (hW : k.id ∈ W)
    (hdrop : Report.dropMeta q k raw = .ok q') : p.Evolves N W q' := by
  rw [Report.dropMeta] at hdrop
  rcases hremove : q.removeMeta k raw with e | handed
  · rw [hremove] at hdrop
    cases hdrop
  · rw [hremove] at hdrop
    cases hdrop
    exact (h.removeMeta hW hremove).dropHanded

theorem clearError (h : p.Evolves N W q) (hW : k.id ∈ W)
    (hclear : Report.clearError q k = .ok q') : p.Evolves N W q' := by
  rw [Report.clearError, bind_eq_ok] at hclear
  obtain ⟨q₁, hdrop, hrest⟩ := hclear
  exact foldlM_keeps (fun _ _ _ hb hd => dropMeta hb hW hd) Report.fieldNames
    (h.dropMeta hW hdrop) hrest

theorem addWarning {r : Report} {index : Nat} (h : p.Evolves N W q) (hk : k.id < p.nextId)
    (hW : k.id ∈ W) (hadd : r.addWarning q k = .ok (index, q')) : p.Evolves N W q' := by
  simp only [Report.addWarning, bind_eq_ok] at hadd
  obtain ⟨q₁, hwrite, q₂, hset, hdone⟩ := hadd
  cases hdone
  exact (h.writeReport hk hW hwrite).setMeta hk hW hset

theorem addWarningsAfter {found indices : List Nat} (h : p.Evolves N W q) (hk : k.id < p.nextId)
    (hW : k.id ∈ W) (reports : List Report)
    (hadd : Session.addWarningsAfter q k found reports = .ok (indices, q')) :
    p.Evolves N W q' := by
  induction reports generalizing q found with
  | nil =>
    cases hadd
    exact h
  | cons r reports ih =>
    rw [Session.addWarningsAfter, bind_eq_ok] at hadd
    obtain ⟨⟨index, q₁⟩, hfirst, hrest⟩ := hadd
    exact ih (h.addWarning hk hW hfirst) hrest

/-! ### New keys and new names -/

theorem create {raw : String} {options : List KeyOption} (h : p.Evolves N W q)
    (hcreate : q.create raw options = .ok (k, q')) : p.Evolves N W q' ∧ p.nextId ≤ k.id := by
  rw [Pool.create, build, bind_eq_ok] at hcreate
  obtain ⟨t, -, hdone⟩ := hcreate
  cases hdone
  exact ⟨(h.plant t).1, h.grows⟩

end Pool.Evolves

theorem Renaming.evolves {N W : Set RecordId} {p q q' : Pool} {k : Key} {how : Renaming}
    (h : p.Evolves N W q) (hN : k.id ∈ N) (happly : how.apply q k = .ok q') :
    p.Evolves N W q' := by
  obtain ⟨change, hrename⟩ := apply_ok happly
  obtain ⟨-, n, -, rfl⟩ := Pool.rename_ok hrename
  exact h.rename (fun _ => hN) fun _ => ⟨rfl, rfl⟩

end ConfigKeys
