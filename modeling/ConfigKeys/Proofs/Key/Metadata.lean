import ConfigKeys.Key.Report
import ConfigKeys.Proofs.Fallible
import ConfigKeys.Proofs.Pool.Copy
import ConfigKeys.Proofs.Pool.Registry
import ConfigKeys.Session.Keys

/-!
# Operations on keys balance

The metadata of a record is a registry whose places the record holds, so its operations are those of
registries, with the record in the role of the container.

## Main results

* `Pool.Balanced.insertEntry`, `Pool.Balanced.removeEntry` — one entry of the metadata.
* `Pool.Balanced.setMeta`, `Pool.Balanced.copyMeta`, `Pool.Balanced.copyAllMeta` — the operations of
  hosts.
* `Pool.Balanced.setError`, `Pool.Balanced.clearError`, `Pool.Balanced.addWarning` — reports.
* `Pool.Balanced.create` — a new key.
* `Renaming.balanced` — a new name.
-/

namespace ConfigKeys

namespace Pool.Balanced

variable {p : Pool} {S R : List (List Key)} {P H L : List RecordId} {k : Key} {n : Name}

/-! ### One entry -/

/-- **Inserting an entry balances**, be it that only the metadata is going to hold its record. -/
theorem insertEntry {owner : RecordId} {r o : Record} (h : p.Balanced S R P H (k.id :: L))
    (hr : p.find? k.id = some r) (ho : p.find? owner = some o) :
    (p.insertEntry owner k).Balanced S R P H L := by
  have hlock := h.lock_new hr
  have hentries : (p.record owner).entries = o.entries := by rw [record_of_find? ho]
  -- the owner may be the record that goes in, so to lock it may have changed the owner
  obtain ⟨o', ho', heq⟩ : ∃ o', (p.lock k.id).find? owner = some o' ∧ o'.entries = o.entries := by
    rw [find?_lock, ho]
    split
    · exact ⟨_, rfl, rfl⟩
    · exact ⟨_, rfl, rfl⟩
  have hdist : p.Distinct (Registry.put p o.entries k) :=
    Registry.put_distinct (h.entries o (mem_live.mpr ⟨owner, ho⟩)) k
  rw [Pool.insertEntry, hentries]
  refine detachAll (hlock.setEntries ho' (fun _ => rfl) ?_ ?_)
  · exact hdist.congr fun x _ => name_lock p k.id x
  rw [heq, ← List.append_assoc]
  exact ((Registry.put_perm p o.entries k).append_right P).trans
    (by rw [List.append_assoc]; exact .refl _)

/-- **Removing an entry balances**; the key that is handed over need not be held any more. -/
theorem removeEntry (h : p.Balanced S R P H L) (k : Key) (n : Name) :
    (p.removeEntry k n).2.Balanced S R P H ((p.removeEntry k n).1.toList.map Key.id ++ L) := by
  rw [Pool.removeEntry]
  rcases hget : Registry.get? p (p.entries k) n with _ | e
  · exact h
  · rcases hr : p.find? k.id with _ | r
    · -- a record that is not there has no entries
      rw [Pool.entries, record_of_find?_none hr] at hget
      cases hget
    · have hentries : p.entries k = r.entries := by rw [Pool.entries, record_of_find? hr]
      have hdist := Registry.without_distinct (h.entries r (mem_live.mpr ⟨k.id, hr⟩)) n
      have hperm := Registry.without_perm p r.entries n
      rw [hentries] at hget
      rw [hget] at hperm
      refine unlock (h.setEntries hr (fun _ => rfl) (hentries ▸ hdist) ?_)
      rw [hentries, List.append_cons]
      exact hperm.append_right P

theorem exists_of_entry_removed (h : p.Balanced S R P H L) {k e : Key} {n : Name}
    (he : (p.removeEntry k n).1 = some e) : ∃ r, (p.removeEntry k n).2.find? e.id = some r := by
  rw [Pool.removeEntry] at he ⊢
  rcases hget : Registry.get? p (p.entries k) n with _ | e'
  · simp [hget] at he
  · simp only [hget, Option.some.injEq] at he
    subst he
    have hmem : e' ∈ (p.record k.id).entries := List.mem_of_find?_eq_some hget
    have hlive : ∃ r, p.find? k.id = some r := by
      rcases hr : p.find? k.id with _ | r
      · rw [record_of_find?_none hr] at hmem
        cases hmem
      · exact ⟨r, rfl⟩
    obtain ⟨r, hr⟩ := hlive
    rw [record_of_find? hr] at hmem
    obtain ⟨re, hre⟩ := h.exists_of_mem_entries (mem_live.mpr ⟨k.id, hr⟩) hmem
    refine Option.isSome_iff_exists.mp ?_
    simp only [find?_unlock, find?_modify, if_true]
    split <;> simp [hre]

/-- Dropping what was handed over. -/
theorem dropHanded {handed : Option Key × Pool}
    (h : handed.2.Balanced S R P H (handed.1.toList.map Key.id ++ L)) :
    (Pool.dropHanded handed).Balanced S R P H L := by
  obtain ⟨_ | k, p⟩ := handed
  · exact h
  · exact h.reclaim

/-! ### The operations of hosts -/

theorem setEntry (h : p.Balanced S R P H L) (hk : k.id ∈ H) (n : Name) (v : Value) :
    (p.setEntry k n v).Balanced S R P H L := by
  have hnew := h.alloc (r := { name := n, value := v }) rfl rfl
  obtain ⟨o, ho, -⟩ := hnew.exists_of_handle hk
  exact hnew.insertEntry (by rw [find?_alloc, if_pos rfl]) ho

theorem plantEntry (h : p.Balanced S R P H L) (hk : k.id ∈ H) {t : KeyTree} (ht : t.Distinct) :
    (p.plantEntry k t).Balanced S R P H L := by
  obtain ⟨hnew, ⟨r, hr, -⟩, -, -⟩ := Balanced.plant ht p L h
  obtain ⟨o, ho, -⟩ := hnew.exists_of_handle hk
  exact hnew.insertEntry hr ho

theorem setMeta {p' : Pool} {raw text : String} (h : p.Balanced S R P H L) (hk : k.id ∈ H)
    (hset : p.setMeta k raw text = .ok p') : p'.Balanced S R P H L := by
  rw [Pool.setMeta] at hset
  rcases hn : metaName raw with e | n
  · simp [hn] at hset
  · simp only [hn, Except.ok.injEq] at hset
    rw [← hset]
    exact h.setEntry hk n _

theorem removeMeta {raw : String} {handed : Option Key × Pool} (h : p.Balanced S R P H L)
    (hremove : p.removeMeta k raw = .ok handed) :
    handed.2.Balanced S R P H (handed.1.toList.map Key.id ++ L) ∧
      ∀ e, handed.1 = some e → ∃ r, handed.2.find? e.id = some r := by
  rw [Pool.removeMeta] at hremove
  rcases hn : metaName raw with e | n
  · simp [hn] at hremove
  · simp only [hn, Except.ok.injEq] at hremove
    rw [← hremove]
    exact ⟨h.removeEntry k n, fun e he => h.exists_of_entry_removed he⟩

theorem copyMeta {p' : Pool} {source : Key} {raw : String} (h : p.Balanced S R P H L)
    (hk : k.id ∈ H) (hcopy : p.copyMeta k source raw = .ok p') : p'.Balanced S R P H L := by
  rw [Pool.copyMeta] at hcopy
  rcases hn : metaName raw with e | n
  · simp [hn] at hcopy
  · rcases hget : Registry.get? p (p.entries source) n with _ | e
    · simp only [hn, hget, Except.ok.injEq] at hcopy
      rw [← hcopy]
      exact (h.removeEntry k n).dropHanded
    · simp only [hn, hget, Except.ok.injEq] at hcopy
      rw [← hcopy]
      exact h.plantEntry hk (h.tree_distinct e.id)

theorem copyAllMeta (h : p.Balanced S R P H L) (hk : k.id ∈ H) (source : Key) :
    (p.copyAllMeta k source).Balanced S R P H L := by
  refine List.foldlRecOn (motive := fun p : Pool => p.Balanced S R P H L) _ _ h ?_
  -- every tree was read from the records as they were before the first was planted
  intro p' hp' t ht
  obtain ⟨e, -, rfl⟩ := List.mem_map.mp ht
  exact hp'.plantEntry hk (h.tree_distinct e.id)

/-! ### Reports -/

theorem write {p' : Pool} {place : String} {r : Report} (h : p.Balanced S R P H L) (hk : k.id ∈ H)
    (hwrite : r.write p k place = .ok p') : p'.Balanced S R P H L :=
  foldlM_keeps (fun _ _ _ hb hset => setMeta hb hk hset) r.fields h hwrite

theorem setError {p' : Pool} {r : Report} (h : p.Balanced S R P H L) (hk : k.id ∈ H)
    (hset : r.setError p k = .ok p') : p'.Balanced S R P H L := by
  rw [Report.setError, bind_eq_ok] at hset
  obtain ⟨p₁, hnumber, hwrite⟩ := hset
  exact (h.setMeta hk hnumber).write hk hwrite

theorem attach {r : Report} (h : p.Balanced S R P H L) (hk : k.id ∈ H) :
    (r.attach p k).Balanced S R P H L := by
  unfold Report.attach
  rcases hset : r.setError p k with e | p'
  · exact h
  · exact h.setError hk hset

theorem dropMeta {p' : Pool} {raw : String} (h : p.Balanced S R P H L)
    (hdrop : Report.dropMeta p k raw = .ok p') : p'.Balanced S R P H L := by
  rw [Report.dropMeta] at hdrop
  rcases hremove : p.removeMeta k raw with e | handed
  · rw [hremove] at hdrop
    cases hdrop
  · rw [hremove] at hdrop
    cases hdrop
    exact (h.removeMeta hremove).1.dropHanded

theorem clearError {p' : Pool} (h : p.Balanced S R P H L)
    (hclear : Report.clearError p k = .ok p') : p'.Balanced S R P H L := by
  rw [Report.clearError, bind_eq_ok] at hclear
  obtain ⟨p₁, hdrop, hrest⟩ := hclear
  exact foldlM_keeps (fun _ _ _ hb hd => dropMeta hb hd) Report.fieldNames (h.dropMeta hdrop) hrest

theorem addWarning {r : Report} {index : Nat} {p' : Pool} (h : p.Balanced S R P H L)
    (hk : k.id ∈ H) (hadd : r.addWarning p k = .ok (index, p')) : p'.Balanced S R P H L := by
  simp only [Report.addWarning, bind_eq_ok] at hadd
  obtain ⟨p₁, hwrite, p₂, hset, hdone⟩ := hadd
  cases hdone
  exact (h.write hk hwrite).setMeta hk hset

theorem addWarningsAfter {p' : Pool} {found indices : List Nat} (h : p.Balanced S R P H L)
    (hk : k.id ∈ H) (reports : List Report)
    (hadd : Session.addWarningsAfter p k found reports = .ok (indices, p')) :
    p'.Balanced S R P H L := by
  induction reports generalizing p found with
  | nil =>
    cases hadd
    exact h
  | cons r reports ih =>
    rw [Session.addWarningsAfter, bind_eq_ok] at hadd
    obtain ⟨⟨index, p₁⟩, hfirst, hrest⟩ := hadd
    exact ih (h.addWarning hk hfirst) hrest

end Pool.Balanced

/-! ### New keys -/

theorem KeyTree.Distinct.upsert {entries : List KeyTree} {entry : KeyTree}
    (hnames : (entries.map KeyTree.name).Nodup) (hrec : ∀ t ∈ entries, t.Distinct)
    (hentry : entry.Distinct) :
    ((ConfigKeys.upsert (fun old => old.name = entry.name) entry entries).map KeyTree.name).Nodup ∧
      ∀ t ∈ ConfigKeys.upsert (fun old => old.name = entry.name) entry entries, t.Distinct := by
  rcases first_cases (fun old : KeyTree => decide (old.name = entry.name)) entries with
    ⟨l₁, old, l₂, hl, hold, -, -, hupsert⟩ | ⟨hall, -, -, hupsert⟩
  · have hname : old.name = entry.name := of_decide_eq_true hold
    rw [hupsert entry]
    rw [hl, List.map_append, List.map_cons, hname] at hnames
    refine ⟨by rw [List.map_append, List.map_cons]; exact hnames, ?_⟩
    intro t ht
    rw [List.mem_append, List.mem_cons] at ht
    rcases ht with ht | rfl | ht
    · exact hrec t (by rw [hl]; simp [ht])
    · exact hentry
    · exact hrec t (by rw [hl]; simp [ht])
  · rw [hupsert entry]
    constructor
    · rw [List.map_append, List.map_singleton]
      refine List.nodup_append.mpr ⟨hnames, List.nodup_singleton _, ?_⟩
      intro a ha b hb heq
      rw [List.mem_singleton] at hb
      obtain ⟨t, ht, rfl⟩ := List.mem_map.mp ha
      exact of_decide_eq_false (hall t ht) (heq.trans hb)
    · intro t ht
      rw [List.mem_append, List.mem_singleton] at ht
      rcases ht with ht | rfl
      · exact hrec t ht
      · exact hentry

namespace Draft

theorem setEntry_distinct {t t' : KeyTree} {raw text : String} (ht : t.Distinct)
    (hset : setEntry t raw text = .ok t') : t'.Distinct := by
  obtain ⟨hnames, hrec⟩ := ht
  rw [setEntry, bind_eq_ok] at hset
  obtain ⟨n, -, hdone⟩ := hset
  cases hdone
  obtain ⟨hnames', hrec'⟩ := KeyTree.Distinct.upsert hnames hrec (.leaf n (.ofText text))
  exact .node hnames' hrec'

theorem apply_distinct (options : List KeyOption) {t t' : KeyTree} (ht : t.Distinct)
    (happly : apply t options = .ok t') : t'.Distinct := by
  induction options generalizing t with
  | nil =>
    cases happly
    exact ht
  | cons o options ih =>
    cases o with
    | text value =>
      obtain ⟨hnames, hrec⟩ := ht
      exact ih (.node hnames hrec) happly
    | binary bytes =>
      obtain ⟨hnames, hrec⟩ := ht
      exact ih (.node hnames hrec) happly
    | entry name value =>
      rw [apply] at happly
      rcases hset : setEntry t name value with e | t₁
      · simp [hset] at happly
      · rw [hset] at happly
        exact ih (setEntry_distinct ht hset) happly
    | comment value =>
      rw [apply] at happly
      rcases hset : setEntry t "comment" value with e | t₁
      · simp [hset] at happly
      · rw [hset] at happly
        exact ih (setEntry_distinct ht hset) happly
    | stop =>
      cases happly
      exact ht

theorem tree_distinct {d : Draft} {t : KeyTree} (htree : d.tree = .ok t) : t.Distinct := by
  rw [tree, bind_eq_ok] at htree
  obtain ⟨n, -, happly⟩ := htree
  exact apply_distinct d.options (.leaf n {}) happly

end Draft

namespace Pool

variable {p p' : Pool} {S R : List (List Key)} {P H L : List RecordId} {k : Key}

/-- **Making a key balances**; nobody holds the new record yet. -/
theorem Balanced.create {raw : String} {options : List KeyOption} (h : p.Balanced S R P H L)
    (hcreate : p.create raw options = .ok (k, p')) :
    p'.Balanced S R P H (k.id :: L) ∧ ∃ r, p'.find? k.id = some r := by
  rw [Pool.create, build, bind_eq_ok] at hcreate
  obtain ⟨t, htree, hdone⟩ := hcreate
  cases hdone
  obtain ⟨hbal, ⟨r, hr, -⟩, -, -⟩ := Balanced.plant (Draft.tree_distinct htree) p L h
  exact ⟨hbal, r, hr⟩

/-! ### Names -/

/-- A change of name succeeds only where no container pins the name, and it changes nothing else. -/
theorem rename_ok {change : Name → Except KeyError Name} (hrename : p.rename k change = .ok p') :
    (p.record k.id).locks = 0 ∧
      ∃ n, change (p.name k) = .ok n ∧ p' = p.modify k.id fun r => { r with name := n } := by
  rw [rename] at hrename
  split at hrename
  · cases hrename
  · next hlocked =>
    have hzero : (p.record k.id).locks = 0 := by
      simpa [isLocked] using hlocked
    rcases hchange : change (p.name k) with e | n
    · simp [hchange] at hrename
    · simp only [hchange, Except.ok.injEq] at hrename
      exact ⟨hzero, n, rfl, hrename.symm⟩

end Pool

/-- Every way to change a name is a change of name. -/
theorem Renaming.apply_ok {p p' : Pool} {k : Key} {how : Renaming}
    (happly : how.apply p k = .ok p') : ∃ change, p.rename k change = .ok p' := by
  cases how with
  | whole raw =>
    rw [apply, Pool.setName] at happly
    rcases hn : Name.parse raw with e | n
    · simp [hn] at happly
    · rw [hn] at happly
      exact ⟨_, happly⟩
  | base segment =>
    rw [apply, Pool.setBase] at happly
    exact ⟨_, happly⟩
  | further relative =>
    rw [apply, Pool.addBase] at happly
    exact ⟨_, happly⟩

/-- **Changing a name balances**: it succeeds only where no container pins the name. -/
theorem Renaming.balanced {p p' : Pool} {S R : List (List Key)} {P H L : List RecordId} {k : Key}
    {how : Renaming} (h : p.Balanced S R P H L) (happly : how.apply p k = .ok p') :
    p'.Balanced S R P H L := by
  obtain ⟨change, hrename⟩ := apply_ok happly
  obtain ⟨hzero, n, -, rfl⟩ := Pool.rename_ok hrename
  exact h.rename hzero

end ConfigKeys
