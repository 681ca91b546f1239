import ConfigKeys.Pool.Tree
import ConfigKeys.Proofs.Pool.Reclaim

/-!
# Copies of keys

A copy is planted from a tree, entry by entry; the record at its top is new and nobody holds it yet.

## Main definitions

* `KeyTree.Distinct` — at every node of a tree the names of the entries differ.

## Main results

* `Pool.Balanced.tree_distinct` — so it is with the trees of a pool that balances.
* `Pool.Balanced.plant`, `Pool.Balanced.copy` — planting such a tree balances.
-/

namespace ConfigKeys

/-- At every node the entries have different names. -/
inductive KeyTree.Distinct : KeyTree → Prop
  | node {name : Name} {value : Value} {entries : List KeyTree} :
      (entries.map KeyTree.name).Nodup → (∀ t ∈ entries, t.Distinct) →
        KeyTree.Distinct (.node name value entries)

theorem KeyTree.Distinct.leaf (n : Name) (v : Value) : (KeyTree.node n v []).Distinct :=
  .node List.nodup_nil fun _ ht => absurd ht List.not_mem_nil

namespace Pool

variable {p : Pool} {S R : List (List Key)} {P H L : List RecordId} {id : RecordId}

/-! ### Trees -/

theorem name_foldUpTo_node (p : Pool) (fuel : Nat) (id : RecordId) :
    (p.foldUpTo (fun r entries => KeyTree.node r.name r.value entries) fuel id).name
      = (p.record id).name := by
  cases fuel <;> rfl

/-- The trees of a pool that balances have entries of different names. -/
theorem Balanced.foldUpTo_distinct (h : p.Balanced S R P H L) (fuel : Nat) (id : RecordId) :
    (p.foldUpTo (fun r entries => KeyTree.node r.name r.value entries) fuel id).Distinct := by
  induction fuel generalizing id with
  | zero => exact .leaf _ _
  | succ fuel ih =>
    refine .node ?_ ?_
    · -- the tree of an entry has the name of its record, whatever fuel is left
      rw [List.map_map]
      have hnames : ((p.record id).entries.map p.name).Nodup := by
        rcases hr : p.find? id with _ | r
        · rw [record_of_find?_none hr]
          exact List.nodup_nil
        · rw [record_of_find? hr]
          exact h.entries r (mem_live.mpr ⟨id, hr⟩)
      rw [List.map_congr_left (g := p.name)]
      · exact hnames
      · intro e _
        exact name_foldUpTo_node p fuel e.id
    · intro t ht
      obtain ⟨e, -, rfl⟩ := List.mem_map.mp ht
      exact ih e.id

theorem Balanced.tree_distinct (h : p.Balanced S R P H L) (id : RecordId) :
    (p.tree id).Distinct :=
  h.foldUpTo_distinct p.nextId id

/-! ### Planting -/

/-- The records below a number are the same. -/
def Agrees (p p' : Pool) (n : Nat) : Prop := ∀ i, i < n → p'.find? i = p.find? i

theorem Agrees.name {p' : Pool} {n : Nat} (h : p.Agrees p' n) {k : Key} (hk : k.id < n) :
    p'.name k = p.name k := by
  rw [Pool.name, Pool.name, record, record, h k.id hk]

/-- A new record of the name `n` stands in `p'` beside the records of `p`; nobody holds it yet. -/
structure Planted (p p' : Pool) (S R : List (List Key)) (P H L : List RecordId) (n : Name) :
    Prop where
  /-- The counts balance. -/
  balanced : p'.Balanced S R P H (p.nextId :: L)
  /-- The record is there. -/
  found : ∃ r, p'.find? p.nextId = some r ∧ r.name = n
  /-- The other records are as they were. -/
  agrees : p.Agrees p' p.nextId
  /-- Its number is used up. -/
  grows : p.nextId < p'.nextId

theorem find?_addEntry_of_ne {owner i : RecordId} (hid : i ≠ id) (howner : i ≠ owner) :
    (p.addEntry owner id).find? i = p.find? i := by
  rw [addEntry, find?_modify, if_neg howner, find?_lock, if_neg hid]

theorem find?_addEntry_owner {owner : RecordId} {o : Record} (hne : owner ≠ id)
    (ho : p.find? owner = some o) :
    (p.addEntry owner id).find? owner = some { o with entries := o.entries ++ [⟨id, {}⟩] } := by
  rw [addEntry, find?_modify, if_pos rfl, find?_lock, if_neg hne, ho]
  rfl

theorem nextId_addEntry (p : Pool) (owner id : RecordId) :
    (p.addEntry owner id).nextId = p.nextId := by
  rw [addEntry, nextId_modify, nextId_lock]

theorem name_addEntry (p : Pool) (owner id : RecordId) (k : Key) :
    (p.addEntry owner id).name k = p.name k := by
  have hname : ∀ r : Record,
      { r with entries := r.entries ++ ([⟨id, {}⟩] : List Key) }.name = r.name := fun _ => rfl
  rw [addEntry, name_modify_of_keeps hname, name_lock]

/-- A new record goes to the end of the metadata of another one. -/
theorem Balanced.addEntry {owner : RecordId} {r o : Record} (h : p.Balanced S R P H (id :: L))
    (hr : p.find? id = some r) (ho : p.find? owner = some o) (hne : owner ≠ id)
    (hname : r.name ∉ o.entries.map p.name) : (p.addEntry owner id).Balanced S R P H L := by
  have hlock := h.lock_new hr
  have ho' : (p.lock id).find? owner = some o := by
    rw [find?_lock, if_neg hne, ho]
  refine hlock.setEntries ho' (fun _ => rfl) ?_ ?_
  · have hid : (p.lock id).name ⟨id, {}⟩ = r.name := by
      rw [name_lock, name, record_of_find? hr]
    have hdist : (p.lock id).Distinct o.entries :=
      (h.entries o (mem_live.mpr ⟨owner, ho⟩)).congr fun k _ => name_lock p id k
    rw [Distinct, List.map_append, List.map_singleton, hid]
    refine List.nodup_append.mpr ⟨hdist, List.nodup_singleton _, ?_⟩
    intro a ha b hb heq
    rw [List.mem_singleton] at hb
    subst hb heq
    rw [List.map_congr_left fun k _ => name_lock p id k] at ha
    exact hname ha
  · rw [List.map_append, List.append_assoc]
    exact List.Perm.refl _

/-- Planting the entries of a record, if planting each of them does what it should. -/
theorem Balanced.plantEntries {owner : RecordId} {o : Record} (ts : List KeyTree)
    (hplant : ∀ t ∈ ts, ∀ (p : Pool) (L : List RecordId), p.Balanced S R P H L →
      Planted p (p.plant t) S R P H L t.name)
    (h : p.Balanced S R P H L) (ho : p.find? owner = some o)
    (hnames : (o.entries.map p.name ++ ts.map KeyTree.name).Nodup) :
    (p.plantEntries owner ts).Balanced S R P H L ∧
      (∃ o', (p.plantEntries owner ts).find? owner = some o' ∧ o'.name = o.name) ∧
      (∀ i, i < p.nextId → i ≠ owner → (p.plantEntries owner ts).find? i = p.find? i) ∧
      p.nextId ≤ (p.plantEntries owner ts).nextId := by
  induction ts generalizing p o with
  | nil => exact ⟨h, ⟨o, ho, rfl⟩, fun _ _ _ => rfl, Nat.le_refl _⟩
  | cons t ts ih =>
    obtain ⟨hbal, ⟨r, hr, hname⟩, hagree, hgrow⟩ := hplant t List.mem_cons_self p L h
    have hlt : owner < p.nextId := find?_lt ho
    have ho' : (p.plant t).find? owner = some o := by
      rw [hagree owner hlt, ho]
    -- the entries that are there have kept their names
    have hentries : o.entries.map (p.plant t).name = o.entries.map p.name := by
      refine List.map_congr_left fun k hk => hagree.name ?_
      obtain ⟨rk, hrk⟩ := h.exists_of_mem_entries (mem_live.mpr ⟨owner, ho⟩) hk
      exact find?_lt hrk
    have hne : owner ≠ p.nextId := Nat.ne_of_lt hlt
    have hnew : (p.plant t).name ⟨p.nextId, {}⟩ = t.name := by
      rw [name, record_of_find? hr, hname]
    rw [List.map_cons] at hnames
    have hfresh : r.name ∉ o.entries.map (p.plant t).name := by
      rw [hentries, hname]
      intro hmem
      exact (List.nodup_append.mp hnames).2.2 _ hmem _ List.mem_cons_self rfl
    -- the first tree is planted and entered; the rest go on from there
    have hadd := hbal.addEntry hr ho' hne hfresh
    have ho₁ := find?_addEntry_owner hne ho'
    obtain ⟨hbal₂, ⟨o₂, ho₂, hname₂⟩, hkeep₂, hgrow₂⟩ :=
      ih (fun t' ht' => hplant t' (List.mem_cons_of_mem t ht')) hadd ho₁ (by
        simp only [List.map_append, List.map_singleton, name_addEntry, hnew]
        rw [List.map_congr_left fun k _ => name_addEntry _ owner p.nextId k, hentries,
          List.append_assoc]
        exact hnames)
    rw [nextId_addEntry] at hkeep₂ hgrow₂
    refine ⟨hbal₂, ⟨o₂, ho₂, hname₂⟩, ?_, Nat.le_trans (Nat.le_of_lt hgrow) hgrow₂⟩
    intro i hi hio
    rw [Pool.plantEntries, hkeep₂ i (Nat.lt_trans hi hgrow) hio,
      find?_addEntry_of_ne (Nat.ne_of_lt hi) hio, hagree i hi]

/-- **Planting a tree balances**, if the names at each of its nodes differ. -/
theorem Balanced.plant {t : KeyTree} (ht : t.Distinct) (p : Pool) (L : List RecordId)
    (h : p.Balanced S R P H L) : Planted p (p.plant t) S R P H L t.name := by
  induction ht generalizing p L with
  | @node name value entries hnames _ ih =>
    have hnew : (p.alloc { name, value }).find? p.nextId = some { name, value } := by
      rw [find?_alloc, if_pos rfl]
    obtain ⟨hbal, ⟨o, ho, hname⟩, hkeep, hgrow⟩ :=
      (h.alloc (r := { name, value }) rfl rfl).plantEntries entries ih hnew hnames
    rw [nextId_alloc] at hkeep hgrow
    refine ⟨hbal, ⟨o, ho, hname⟩, ?_, hgrow⟩
    intro i hi
    rw [Pool.plant, hkeep i (Nat.lt_succ_of_lt hi) (Nat.ne_of_lt hi), find?_alloc,
      if_neg (Nat.ne_of_lt hi)]

/-- **Copying a key balances.** -/
theorem Balanced.copy (h : p.Balanced S R P H L) (id : RecordId) :
    Planted p (p.copy id) S R P H L (p.record id).name := by
  have hplant := Balanced.plant (h.tree_distinct id) p L h
  rw [tree, name_foldUpTo_node] at hplant
  exact hplant

end Pool
end ConfigKeys
