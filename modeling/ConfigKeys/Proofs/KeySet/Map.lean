import Mathlib.Data.Finmap
import Mathlib.Data.List.Sort
import ConfigKeys.Proofs.KeySet.Frame

/-!
# Key sets as maps

A key set stands for a finite map from names to records, and lists the entries of that map in the
order of their names.  To insert a key, to remove a name and to look a name up are what they are for
the map, whatever else happens to the records.

## Main definitions

* `NameMap` — a finite map from names to records.
* `Pool.pairs`, `KeySet.toMap` — the entries of keys in order, and the map of a set.
* `KeySet.Lists` — a set lists the entries of a map in order.
* `NameMap.insertAll` — a map with many keys inserted.

## Main results

* `KeySet.lookup_toMap` — a search in the set is a lookup in the map.
* `KeySet.toMap_append`, `KeySet.toMap_appendAll`, `KeySet.toMap_remove` — the map after an
  operation.
* `NameMap.lookup_insertAll`, `KeySet.insertAll_toList` — insertion of many keys.
-/

namespace ConfigKeys

/-- Records by name. -/
abbrev NameMap := Finmap fun _ : Name => RecordId

namespace Pool

variable {p q : Pool} {keys : List Key} {n : Name} {id : RecordId} {k : Key}

/-- The names of keys with their records. -/
def pairs (p : Pool) (keys : List Key) : List (Name × RecordId) :=
  keys.map fun k => (p.name k, k.id)

theorem mem_pairs : (n, id) ∈ p.pairs keys ↔ ∃ k ∈ keys, p.name k = n ∧ k.id = id := by
  simp [pairs]

theorem pairs_congr (h : ∀ k ∈ keys, q.name k = p.name k) : q.pairs keys = p.pairs keys :=
  List.map_congr_left fun k hk => by rw [h k hk]

theorem ascending_iff_pairs :
    p.Ascending keys ↔ (p.pairs keys).Pairwise fun a b => a.1.compare b.1 = .lt := by
  rw [Ascending, pairs, List.pairwise_map, List.pairwise_map]

/-- Entries in order are known when it is known which they are. -/
theorem eq_of_mem_iff {l l' : List (Name × RecordId)}
    (hl : l.Pairwise fun a b => a.1.compare b.1 = .lt)
    (hl' : l'.Pairwise fun a b => a.1.compare b.1 = .lt) (h : ∀ e, e ∈ l ↔ e ∈ l') : l = l' := by
  have hne : ∀ a b : Name × RecordId, a.1.compare b.1 = .lt → a ≠ b :=
    fun a b hab heq => Name.ne_of_compare_lt hab (congrArg Prod.fst heq)
  have hperm := (List.perm_ext_iff_of_nodup (hl.imp (hne _ _)) (hl'.imp (hne _ _))).mpr h
  refine hperm.eq_of_pairwise (fun a b _ _ hab hba => ?_) hl hl'
  -- neither of two entries comes before the other one in both lists
  have hself := Name.compare_lt_trans hab hba
  rw [Name.compare_self] at hself
  cases hself

/-- Among keys in order, the others have other names. -/
theorem Ascending.ne_of_mem_others {l₁ l₂ : List Key} (h : p.Ascending (l₁ ++ k :: l₂))
    (hmem : (n, id) ∈ p.pairs (l₁ ++ l₂)) : n ≠ p.name k := by
  obtain ⟨x, hx, rfl, -⟩ := mem_pairs.mp hmem
  have hdist := h.distinct
  rw [Distinct, List.map_append, List.map_cons, List.nodup_middle] at hdist
  intro heq
  refine (List.nodup_cons.mp hdist).1 ?_
  rw [← List.map_append, ← heq]
  exact List.mem_map_of_mem hx

/-- Among keys in order, the entry of one is the only one of its name. -/
theorem Ascending.mem_pairs_middle {l₁ l₂ : List Key} (h : p.Ascending (l₁ ++ k :: l₂)) :
    (n, id) ∈ p.pairs (l₁ ++ k :: l₂) ↔
      (n = p.name k ∧ id = k.id) ∨ (n ≠ p.name k ∧ (n, id) ∈ p.pairs (l₁ ++ l₂)) := by
  have hothers : (n, id) ∈ p.pairs (l₁ ++ l₂) → n ≠ p.name k := h.ne_of_mem_others
  have hsplit : (n, id) ∈ p.pairs (l₁ ++ k :: l₂) ↔
      (n = p.name k ∧ id = k.id) ∨ (n, id) ∈ p.pairs (l₁ ++ l₂) := by
    simp only [pairs, List.map_append, List.map_cons, List.mem_append, List.mem_cons, Prod.mk.injEq]
    tauto
  rw [hsplit]
  tauto

/-- Names that are kept keep the entries. -/
theorem Evolves.name_members {N W : Set RecordId} (h : p.Evolves N W q)
    (hold : ∀ k ∈ keys, k.id < p.nextId ∧ k.id ∉ N)
    (hthere : ∀ k ∈ keys, ∃ r, q.find? k.id = some r) : ∀ k ∈ keys, q.name k = p.name k :=
  fun k hk => h.name_eq (hold k hk).1 (hold k hk).2 (hthere k hk)

end Pool

/-! ### Insertion of many keys -/

namespace NameMap

variable {p q : Pool} {keys : List Key}

/-- A map with a key inserted for each of a list, one after the other. -/
def insertAll (p : Pool) (m : NameMap) (keys : List Key) : NameMap :=
  keys.foldl (fun m k => m.insert (p.name k) k.id) m

theorem insertAll_cons (p : Pool) (m : NameMap) (k : Key) (keys : List Key) :
    insertAll p m (k :: keys) = insertAll p (m.insert (p.name k) k.id) keys := rfl

theorem insertAll_congr (h : ∀ k ∈ keys, q.name k = p.name k) (m : NameMap) :
    insertAll q m keys = insertAll p m keys := by
  induction keys generalizing m with
  | nil => rfl
  | cons k keys ih =>
    rw [insertAll_cons, insertAll_cons, h k List.mem_cons_self]
    exact ih (fun k' hk' => h k' (List.mem_cons_of_mem k hk')) _

/-- **Of the keys of a name, the one that comes last is in the map.** -/
theorem lookup_insertAll (p : Pool) (m : NameMap) (keys : List Key) (n : Name) :
    (insertAll p m keys).lookup n =
      ((keys.reverse.find? fun k => p.name k = n).map Key.id).or (m.lookup n) := by
  induction keys generalizing m with
  | nil => rfl
  | cons k keys ih =>
    rw [insertAll_cons, ih, List.reverse_cons, List.find?_append]
    rcases keys.reverse.find? fun k => decide (p.name k = n) with _ | last
    · by_cases hk : p.name k = n
      · subst hk
        simp [Finmap.lookup_insert]
      · simp [hk, Finmap.lookup_insert_of_ne _ (Ne.symm hk)]
    · rfl

theorem union_self (m : NameMap) : m ∪ m = m := by
  refine Finmap.ext_lookup fun n => ?_
  by_cases hn : n ∈ m
  · rw [Finmap.lookup_union_left hn]
  · rw [Finmap.lookup_union_right hn]

end NameMap

namespace KeySet

variable {p q : Pool} {s : KeySet} {n : Name} {id : RecordId} {k : Key}

/-- The map of a set. -/
def toMap (p : Pool) (s : KeySet) : NameMap := ((p.pairs s.toList).map Prod.toSigma).toFinmap

/-- A set lists the entries of a map in the order of their names. -/
structure Lists (p : Pool) (s : KeySet) (m : NameMap) : Prop where
  /-- Each entry comes before those that stand after it. -/
  ascending : (p.pairs s.toList).Pairwise fun a b => a.1.compare b.1 = .lt
  /-- The entries are those of the map. -/
  entries : ((p.pairs s.toList).map Prod.toSigma : Multiset (Σ _ : Name, RecordId)) = m.entries

/-! ### Lookup -/

theorem nodupKeys (h : p.Ascending s.toList) :
    ((p.pairs s.toList).map Prod.toSigma).NodupKeys := by
  have hnames : ((p.pairs s.toList).map Prod.toSigma).keys = s.toList.map p.name := by
    simp [Pool.pairs, List.keys]
  rw [List.NodupKeys, hnames]
  exact h.distinct

theorem lookup_toMap_iff (h : p.Ascending s.toList) :
    (s.toMap p).lookup n = some id ↔ (n, id) ∈ p.pairs s.toList := by
  rw [toMap, Finmap.dlookup_list_toFinmap, ← Option.mem_def, List.mem_dlookup_iff (nodupKeys h)]
  constructor
  · intro hmem
    obtain ⟨e, he, heq⟩ := List.mem_map.mp hmem
    obtain rfl : e = (n, id) := Prod.toSigma_inj.mp heq
    exact he
  · exact fun hmem => List.mem_map.mpr ⟨(n, id), hmem, rfl⟩

/-- **A search in the set is a lookup in the map.** -/
theorem lookup_toMap (h : p.Ascending s.toList) (n : Name) :
    (s.toMap p).lookup n = (s.find? p n).map Key.id := by
  refine Option.ext fun id => ?_
  rw [← Option.mem_def, ← Option.mem_def, Option.mem_def, lookup_toMap_iff h, Pool.mem_pairs,
    Option.mem_map]
  simp only [Option.mem_def, find?_eq_some_iff h, and_assoc]

theorem mem_toMap_iff (h : p.Ascending s.toList) : n ∈ s.toMap p ↔ n ∈ s.toList.map p.name := by
  rw [← Finmap.lookup_isSome, Option.isSome_iff_exists, List.mem_map]
  simp only [lookup_toMap_iff h, Pool.mem_pairs]
  grind

theorem contains_iff (h : p.Ascending s.toList) (n : Name) :
    s.contains p n = true ↔ n ∈ s.toMap p := by
  rw [← Finmap.lookup_isSome, lookup_toMap h, contains, Option.isSome_map]

/-- **A set in order lists the entries of its map.** -/
theorem lists_toMap (h : p.Ascending s.toList) : s.Lists p (s.toMap p) := by
  refine ⟨Pool.ascending_iff_pairs.mp h, Multiset.coe_eq_coe.mpr ?_⟩
  refine List.lookup_ext (nodupKeys h) (List.nodupKeys_dedupKeys _) fun n id => ?_
  exact iff_of_eq (congrArg (id ∈ ·) (List.dlookup_dedupKeys n _).symm)

theorem card_keys_toMap (h : p.Ascending s.toList) : (s.toMap p).keys.card = s.size := by
  have hentries := congrArg (fun entries => (Multiset.keys entries).card) (lists_toMap h).entries
  simp only [Multiset.coe_keys, Multiset.coe_card, List.keys, List.length_map, Pool.pairs]
    at hentries
  rw [Finmap.keys, Finset.card_mk, ← hentries]
  rfl

theorem toMap_congr (h : ∀ k ∈ s.toList, q.name k = p.name k) : s.toMap q = s.toMap p := by
  rw [toMap, Pool.pairs_congr h, toMap]

/-- What is known of the entries is known of the map. -/
theorem toMap_eq {m : NameMap} (h : p.Ascending s.toList)
    (hmem : ∀ n id, (n, id) ∈ p.pairs s.toList ↔ m.lookup n = some id) : s.toMap p = m := by
  refine Finmap.ext_lookup fun n => Option.ext fun id => ?_
  rw [lookup_toMap_iff h, hmem]

/-- To insert all keys of a set gives the union, in which the keys of the set come first. -/
theorem insertAll_toList (h : p.Ascending s.toList) (m : NameMap) :
    NameMap.insertAll p m s.toList = s.toMap p ∪ m := by
  refine Finmap.ext_lookup fun n => ?_
  rw [NameMap.lookup_insertAll]
  rcases hlast : s.toList.reverse.find? fun k => p.name k = n with _ | k
  · have hnone : n ∉ s.toMap p := by
      rw [← Finmap.lookup_eq_none, Option.eq_none_iff_forall_ne_some]
      intro id hid
      obtain ⟨k, hk, hname, -⟩ := Pool.mem_pairs.mp ((lookup_toMap_iff h).mp hid)
      have hne := List.find?_eq_none.mp hlast k (List.mem_reverse.mpr hk)
      exact hne (decide_eq_true hname)
    rw [Finmap.lookup_union_right hnone]
    rfl
  · have hk : k ∈ s.toList := List.mem_reverse.mp (List.mem_of_find?_eq_some hlast)
    have hname : p.name k = n := by simpa using List.find?_some hlast
    have hsome : (s.toMap p).lookup n = some k.id :=
      (lookup_toMap_iff h).mpr (Pool.mem_pairs.mpr ⟨k, hk, hname, rfl⟩)
    rw [Finmap.lookup_union_left (Finmap.mem_of_lookup_eq_some hsome), hsome]
    rfl

/-! ### The map after an operation -/

/-- The entries after a key was appended. -/
theorem mem_pairs_append (h : p.Ascending s.toList) (k : Key) :
    (n, id) ∈ p.pairs (s.append p k).2.toList ↔
      (n = p.name k ∧ id = k.id) ∨ (n ≠ p.name k ∧ (n, id) ∈ p.pairs s.toList) := by
  rcases append_cases h k with
    ⟨l₁, old, l₂, hs, hname, hid, heq⟩ | ⟨l₁, old, l₂, s', hs, hname, -, heq, hs', -⟩ |
      ⟨l₁, l₂, s', hs, hbefore, hafter, heq, hs', -⟩
  · rw [hs] at h
    rw [heq, hs, h.mem_pairs_middle, hname, hid]
    tauto
  · rw [hs] at h
    rw [heq, hs', hs, (h.replace hname).mem_pairs_middle, h.mem_pairs_middle, hname]
    tauto
  · rw [hs] at h
    rw [heq, hs', hs, (h.insert hbefore hafter).mem_pairs_middle]

/-- The entries after a name was removed. -/
theorem mem_pairs_remove (h : p.Ascending s.toList) (n' : Name) :
    (n, id) ∈ p.pairs (s.remove p n').2.2.toList ↔ n ≠ n' ∧ (n, id) ∈ p.pairs s.toList := by
  rcases remove_cases h n' with ⟨hnone, heq⟩ | ⟨l₁, k, l₂, s', hs, rfl, heq, hs', -⟩
  · rw [heq, iff_and_self]
    intro hmem
    obtain ⟨k, hk, rfl, -⟩ := Pool.mem_pairs.mp hmem
    exact hnone k hk
  · rw [hs] at h
    have hothers : (n, id) ∈ p.pairs (l₁ ++ l₂) → n ≠ p.name k := h.ne_of_mem_others
    rw [heq, hs', hs, h.mem_pairs_middle]
    tauto

section Balanced

variable {S R : List (List Key)} {P H L : List RecordId}

/-- The members of a set that balances have their names after whatever writes no names. -/
theorem names_kept {keys : List Key} (hev : p.Evolves ∅ ∅ q)
    (hold : ∀ x ∈ keys, ∃ r, p.find? x.id = some r) (hq : q.Balanced S R P H L)
    (hkeys : keys ∈ S) : ∀ x ∈ keys, q.name x = p.name x := by
  refine hev.name_members (fun x hx => ⟨?_, Set.notMem_empty _⟩)
    fun x hx => hq.exists_of_mem_set hkeys hx
  obtain ⟨r, hr⟩ := hold x hx
  exact Pool.find?_lt hr

theorem names_append {r : Record} (h : p.Balanced (s.toList :: S) R P H (k.id :: L))
    (hr : p.find? k.id = some r) :
    ∀ x ∈ (s.append p k).2.toList, (s.append p k).1.name x = p.name x := by
  refine names_kept ((Pool.Evolves.refl ∅ ∅ p).append s k) (fun x hx => ?_) (h.append hr)
    List.mem_cons_self
  rcases mem_append hx with rfl | hx
  · exact ⟨r, hr⟩
  · exact h.exists_of_mem_set List.mem_cons_self hx

/-- A search finds a key that was appended, if its record is new to the set, and the others as
before. -/
theorem find?_append {r : Record} (h : p.Balanced (s.toList :: S) R P H (k.id :: L))
    (hr : p.find? k.id = some r) (hnew : ∀ x ∈ s.toList, x.id ≠ k.id) (n : Name) :
    (s.append p k).2.find? (s.append p k).1 n = if n = p.name k then some k else s.find? p n := by
  have hasc := h.ascending_set
  have hnames := names_append h hr
  have hasc' := (h.append hr).ascending_set
  -- the key stands in the set, and the keys of other names are those that stood there
  obtain ⟨hself, hothers⟩ : k ∈ (s.append p k).2.toList ∧
      ∀ x, p.name x ≠ p.name k → (x ∈ (s.append p k).2.toList ↔ x ∈ s.toList) := by
    rcases append_cases hasc k with
      ⟨l₁, old, l₂, hs, -, hid, -⟩ | ⟨l₁, old, l₂, s', hs, hname, -, heq, hs', -⟩ |
        ⟨l₁, l₂, s', hs, -, -, heq, hs', -⟩
    · exact absurd hid (hnew old (by simp [hs]))
    · rw [heq, hs, hs']
      refine ⟨by simp, fun x hx => ?_⟩
      have hk : x ≠ k := fun heq => hx (heq ▸ rfl)
      have hold : x ≠ old := fun heq => hx (heq ▸ hname)
      simp [hk, hold]
    · rw [heq, hs, hs']
      refine ⟨by simp, fun x hx => ?_⟩
      have hk : x ≠ k := fun heq => hx (heq ▸ rfl)
      simp [hk]
  split
  · next hn => exact (find?_eq_some_iff hasc').mpr ⟨hself, (hnames k hself).trans hn.symm⟩
  · next hn =>
    refine Option.ext fun x => ?_
    rw [find?_eq_some_iff hasc', find?_eq_some_iff hasc]
    constructor
    · rintro ⟨hx, rfl⟩
      rw [hnames x hx] at hn ⊢
      exact ⟨(hothers x hn).mp hx, rfl⟩
    · rintro ⟨hx, rfl⟩
      have hx' := (hothers x hn).mpr hx
      exact ⟨hx', hnames x hx'⟩

/-- **Appending inserts**, or overwrites the entry of the name. -/
theorem toMap_append {r : Record} (h : p.Balanced (s.toList :: S) R P H (k.id :: L))
    (hr : p.find? k.id = some r) :
    (s.append p k).2.toMap (s.append p k).1 = (s.toMap p).insert (p.name k) k.id := by
  have hasc := h.ascending_set
  have hnames := names_append h hr
  have hasc' := (h.append hr).ascending_set.congr fun x hx => (hnames x hx).symm
  rw [toMap_congr hnames]
  refine toMap_eq hasc' fun n id => ?_
  rw [mem_pairs_append hasc]
  by_cases hn : n = p.name k
  · subst hn
    simp [Finmap.lookup_insert, eq_comm]
  · rw [Finmap.lookup_insert_of_ne _ hn, lookup_toMap_iff hasc]
    simp [hn]

/-- **Appending keys inserts them**, one after the other. -/
theorem toMap_appendAll {keys : List Key} (h : p.Balanced (s.toList :: S) R P H L)
    (hheld : ∀ k ∈ keys, k.id ∈ Pool.placeIds S R P ++ H) :
    (s.appendAll p keys).2.toMap (s.appendAll p keys).1 = NameMap.insertAll p (s.toMap p) keys := by
  induction keys generalizing p s with
  | nil => rfl
  | cons k keys ih =>
    obtain ⟨r, hr⟩ := h.exists_of_held_cons (hheld k List.mem_cons_self)
    have hweak := h.weaken fun _ hi => List.mem_cons_of_mem k.id hi
    have happ := hweak.append hr
    rw [appendAll_cons, ih happ fun x hx => hheld x (List.mem_cons_of_mem k hx),
      toMap_append hweak hr, NameMap.insertAll_cons]
    -- the keys that are still to come are held elsewhere, so they have their names
    refine NameMap.insertAll_congr ?_ _
    refine ((Pool.Evolves.refl ∅ ∅ p).append s k).name_members (fun x hx => ?_) fun x hx => ?_
    · obtain ⟨r', hr'⟩ := h.exists_of_held_cons (hheld x (List.mem_cons_of_mem k hx))
      exact ⟨Pool.find?_lt hr', Set.notMem_empty _⟩
    · exact happ.exists_of_held_cons (hheld x (List.mem_cons_of_mem k hx))

/-- **Removing a name erases its entry**, and hands it over. -/
theorem toMap_remove (h : p.Balanced (s.toList :: S) R P H L) (n : Name) :
    (s.remove p n).2.2.toMap (s.remove p n).2.1 = (s.toMap p).erase n ∧
      (s.remove p n).1.map Key.id = (s.toMap p).lookup n := by
  have hasc := h.ascending_set
  have hafter := h.removeMember n
  have hnames := names_kept ((Pool.Evolves.refl ∅ ∅ p).removeName s n)
    (fun x hx => h.exists_of_mem_set List.mem_cons_self (mem_remove hx)) hafter List.mem_cons_self
  have hasc' := hafter.ascending_set.congr fun x hx => (hnames x hx).symm
  constructor
  · rw [toMap_congr hnames]
    refine toMap_eq hasc' fun n' id => ?_
    rw [mem_pairs_remove hasc]
    by_cases hn : n' = n
    · subst hn
      simp [Finmap.lookup_erase]
    · rw [Finmap.lookup_erase_ne hn, lookup_toMap_iff hasc]
      simp [hn]
  · rw [lookup_toMap hasc, remove]
    rcases s.find? p n with _ | k <;> rfl

end Balanced
end KeySet
end ConfigKeys
