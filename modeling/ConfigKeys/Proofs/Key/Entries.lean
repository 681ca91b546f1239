import ConfigKeys.Proofs.Key.Frame
import ConfigKeys.Proofs.Pool.Forest

/-!
# Metadata as a map that keeps its order

The metadata of a key is a map from names to keys that knows in which order the names came.  To put
an entry into it replaces the one of its name in place, or adds a new name behind all others; to
take a name out keeps the order of the rest.  Entries of other names are the same records as before
and say what they said.

## Main definitions

* `supplant` — a list with another item in the place of one, or without it.
* `Pool.metaNames`, `Pool.metaTrees` — the names of the entries, and what they say, in order.
* `Registry.Around` — what stands before and behind the place of a name.
* `Pool.Replaces` — the entry of a name gave way to another one, or to none.

## Main results

* `supplant_around`, `Registry.exists_around` — search, insertion and removal are about one place.
* `Pool.Balanced.replaces` — what an operation has to do to the entries to replace one.
* `Pool.Balanced.owner_plantEntry`, `Pool.entries_removeEntry` — what the operations do.
* `Pool.Balanced.replaces_plantEntry`, `Pool.Balanced.replaces_removeEntry` — so they replace one.
* `Pool.Replaces.get?_self`, `Pool.Replaces.get?_of_ne` — which entries the names stand for.
* `Pool.Replaces.metaTrees` — what the entries say afterwards.
-/

namespace ConfigKeys

/-! ### Around the place of a name -/

/-- The list with another item in the place of the first one that is the same, or without it. -/
def supplant {α : Type} (same : α → Bool) : Option α → List α → List α
  | some a, l => upsert same a l
  | none, l => l.eraseP same

section Supplant

variable {α β : Type} {same : α → Bool} {l : List α} {new : Option α}

/-- **What is put at a place stands between what stood around it.**  The place of an item that is
missing is at the end. -/
theorem supplant_around {before after : List α} {old : Option α}
    (hbefore : ∀ x ∈ before, same x = false) (hold : ∀ x, old = some x → same x = true)
    (hlast : old = none → after = []) :
    supplant same new (before ++ (old.toList ++ after)) = before ++ (new.toList ++ after) := by
  induction before with
  | nil =>
    rcases old with _ | x
    · rw [hlast rfl]
      cases new <;> rfl
    · rcases new with _ | a <;> simp [supplant, upsert, hold x rfl]
  | cons x before ih =>
    have hrest := ih fun y hy => hbefore y (List.mem_cons_of_mem x hy)
    have hx := hbefore x List.mem_cons_self
    rcases new with _ | a
    · rw [supplant] at hrest ⊢
      rw [List.cons_append, List.eraseP_cons_of_neg (by simp [hx]), hrest]
      rfl
    · rw [supplant] at hrest ⊢
      rw [List.cons_append, upsert, hx, hrest]
      rfl

/-- A map that keeps apart what is looked for. -/
theorem map_supplant {same' : β → Bool} (f : α → β) (new : Option α)
    (h : ∀ x ∈ l, same x = same' (f x)) :
    (supplant same new l).map f = supplant same' (new.map f) (l.map f) := by
  induction l with
  | nil => cases new <;> rfl
  | cons x l ih =>
    have hrest := ih fun y hy => h y (List.mem_cons_of_mem x hy)
    rcases new with _ | a
    · simp only [supplant, Option.map_none, List.map_cons, List.eraseP_cons] at hrest ⊢
      rw [← h x List.mem_cons_self]
      rcases same x with _ | _
      · exact congrArg (f x :: ·) hrest
      · rfl
    · simp only [supplant, Option.map_some, List.map_cons, upsert] at hrest ⊢
      rw [← h x List.mem_cons_self]
      rcases same x with _ | _
      · exact congrArg (f x :: ·) hrest
      · rfl

theorem supplant_congr {same' : α → Bool} (new : Option α) (h : ∀ x ∈ l, same x = same' x) :
    supplant same new l = supplant same' new l := by
  simpa using map_supplant id new h

end Supplant

namespace Registry

/-- Keys of different names divide at the place of a name: what stands before the key of the name,
that key, and what stands behind it.  A name that is missing has its place at the end. -/
structure Around (p : Pool) (r : Registry) (n : Name) (before : List Key) (old : Option Key)
    (after : List Key) : Prop where
  /-- These are all keys. -/
  eq : r = before ++ (old.toList ++ after)
  /-- The key at the place has the name. -/
  name : ∀ e, old = some e → p.name e = n
  /-- No other has it. -/
  others : ∀ e ∈ before ++ after, p.name e ≠ n
  /-- Behind the last key there is nothing. -/
  last : old = none → after = []

/-- The keys with another one, or with none, at the place of a name. -/
def replaced (p : Pool) (r : Registry) (n : Name) (new : Option Key) : Registry :=
  supplant (fun old => decide (p.name old = n)) new r

variable {p : Pool} {r : Registry} {n : Name} {before after : List Key} {old : Option Key}

theorem Around.replaced (h : Around p r n before old after) (new : Option Key) :
    r.replaced p n new = before ++ (new.toList ++ after) := by
  rw [Registry.replaced, h.eq]
  refine supplant_around (fun e he => ?_) (fun e he => decide_eq_true (h.name e he)) h.last
  exact decide_eq_false (h.others e (List.mem_append_left _ he))

theorem Around.mem_others {e : Key} (h : Around p r n before old after) :
    e ∈ before ++ after ↔ e ∈ r ∧ p.name e ≠ n := by
  refine ⟨fun he => ⟨?_, h.others e he⟩, fun ⟨he, hne⟩ => ?_⟩
  · rw [h.eq]
    rcases List.mem_append.mp he with he | he
    · exact List.mem_append_left _ he
    · exact List.mem_append_right _ (List.mem_append_right _ he)
  · rw [h.eq] at he
    rcases List.mem_append.mp he with he | he
    · exact List.mem_append_left _ he
    · rcases List.mem_append.mp he with he | he
      · exact absurd (h.name e (Option.mem_toList.mp he)) hne
      · exact List.mem_append_right _ he

theorem Around.mem_iff {e : Key} (h : Around p r n before old after) (new : Option Key) :
    e ∈ before ++ (new.toList ++ after) ↔ new = some e ∨ e ∈ r ∧ p.name e ≠ n := by
  rw [← h.mem_others]
  simp only [List.mem_append, Option.mem_toList]
  tauto

/-- Whatever becomes of the entry at the place, those that are looked for under other names stay, in
their order. -/
theorem Around.filter_eq {q : Pool} {f : Name → Bool} (h : Around p r n before old after)
    (new : Option Key) (hf : f n = false) (hnew : ∀ e, new = some e → q.name e = n)
    (hkept : ∀ e ∈ before ++ after, q.name e = p.name e) :
    (before ++ (new.toList ++ after)).filter (fun e => f (q.name e))
      = r.filter fun e => f (p.name e) := by
  have hput : new.toList.filter (fun e => f (q.name e)) = [] :=
    List.filter_eq_nil_iff.mpr fun e he => by
      rw [hnew e (Option.mem_toList.mp he), hf]
      exact Bool.false_ne_true
  have hgone : old.toList.filter (fun e => f (p.name e)) = [] :=
    List.filter_eq_nil_iff.mpr fun e he => by
      rw [h.name e (Option.mem_toList.mp he), hf]
      exact Bool.false_ne_true
  have hsame : ∀ l ⊆ before ++ after,
      l.filter (fun e => f (q.name e)) = l.filter fun e => f (p.name e) := fun l hl =>
    List.filter_congr fun e he => by rw [hkept e (hl he)]
  rw [h.eq, List.filter_append, List.filter_append, List.filter_append, List.filter_append, hput,
    hgone, hsame before (List.subset_append_left _ _), hsame after (List.subset_append_right _ _)]

/-- **Every name has a place among keys of different names**, and a search finds what is there. -/
theorem exists_around (hdist : p.Distinct r) (n : Name) :
    ∃ before after, Around p r n before (r.get? p n) after := by
  rcases get?_cases p r n with ⟨before, old, after, rfl, hname, hget, -, -⟩ | ⟨hall, hget, -, -⟩
  · rw [Pool.Distinct, List.map_append, List.map_cons, hname] at hdist
    obtain ⟨-, hafter, hbefore⟩ := List.nodup_append.mp hdist
    refine ⟨before, after, ?_⟩
    rw [hget]
    refine ⟨rfl, fun e he => Option.some.inj he ▸ hname, fun e he heq => ?_, fun hnone => ?_⟩
    · rcases List.mem_append.mp he with he | he
      · exact hbefore _ (List.mem_map_of_mem he) _ List.mem_cons_self heq
      · exact (List.nodup_cons.mp hafter).1 (List.mem_map.mpr ⟨e, he, heq⟩)
    · cases hnone
  · refine ⟨r, [], ?_⟩
    rw [hget]
    refine ⟨(List.append_nil r).symm, fun e he => ?_, ?_, fun _ => rfl⟩
    · cases he
    · rwa [List.append_nil]

end Registry

namespace Pool

/-- The names of the entries of a key, in order. -/
def metaNames (p : Pool) (k : Key) : List Name := (p.entries k).map p.name

/-- What the entries of a key say, in order. -/
def metaTrees (p : Pool) (k : Key) : List KeyTree := (p.entries k).map fun e => p.tree e.id

/-- Of the metadata of a key, the entry of a name gave way to another one, or to none, and all other
entries stayed. -/
structure Replaces (p : Pool) (k : Key) (n : Name) (new : Option Key) (q : Pool) : Prop where
  /-- What stood before and behind the entry still does. -/
  places : ∃ before after,
    Registry.Around p (p.entries k) n before (Registry.get? p (p.entries k) n) after ∧
      q.entries k = before ++ (new.toList ++ after)
  /-- The new entry has the name. -/
  name : ∀ e, new = some e → q.name e = n
  /-- The entries of other names say what they said. -/
  others : ∀ e ∈ p.entries k, p.name e ≠ n → q.name e = p.name e ∧ q.tree e.id = p.tree e.id
  /-- The entry that gave way lost the one place that it had in metadata. -/
  released : ∀ e ∈ p.entries k, p.name e = n →
    e ∉ q.entries k ∧ (q.record e.id).locks + 1 = (p.record e.id).locks

variable {N W : Set RecordId} {p q q' : Pool} {S R : List (List Key)} {P H H' L L' : List RecordId}
variable {id i : RecordId} {k e : Key} {n : Name} {t : KeyTree} {new : Option Key}

/-! ### What a key holds -/

theorem Forward.entries_tree (h : p.Forward) (k : Key) : (p.tree k.id).entries = p.metaTrees k := by
  rw [h.tree_eq]
  rfl

theorem names_metaTrees (p : Pool) (k : Key) :
    (p.metaTrees k).map KeyTree.name = p.metaNames k := by
  rw [metaTrees, metaNames, List.map_map]
  exact List.map_congr_left fun e _ => p.name_tree e.id

/-- The metadata of a key that is there and is not written stays as it is. -/
theorem Evolves.entries_eq (h : p.Evolves N W q) (hk : k.id < p.nextId) (hW : k.id ∉ W)
    (hthere : ∃ r, q.find? k.id = some r) : q.entries k = p.entries k := by
  obtain ⟨r', hr'⟩ := hthere
  obtain ⟨r, hr, -, hsame, -⟩ := h.kept k.id r' hk hr'
  rw [entries, entries, record_of_find? hr, record_of_find? hr', (hsame hW).2]

theorem Balanced.distinct_entries (h : p.Balanced S R P H L) (k : Key) :
    p.Distinct (p.entries k) := by
  rcases hr : p.find? k.id with _ | r
  · rw [Pool.entries, record_of_find?_none hr]
    exact List.nodup_nil
  · rw [Pool.entries, record_of_find? hr]
    exact h.entries r (mem_live.mpr ⟨_, hr⟩)

theorem Balanced.exists_of_mem (h : p.Balanced S R P H L) (he : e ∈ p.entries k) :
    ∃ r, p.find? e.id = some r := by
  obtain ⟨o, ho, hmem⟩ := mem_entries_iff.mp he
  exact h.exists_of_mem_entries (mem_live.mpr ⟨_, ho⟩) hmem

/-- **An entry that stays says what it said**: to write to its owner writes to nothing that it
holds. -/
theorem Balanced.entry_eq (hq : q.Balanced S R P H L) (h : p.Evolves ∅ {k.id} q) (hp : p.Forward)
    (he : e ∈ p.entries k) (hthere : ∃ r, q.find? e.id = some r) :
    q.name e = p.name e ∧ q.tree e.id = p.tree e.id := by
  obtain ⟨hafter, hlt⟩ := hp.entry he
  refine ⟨h.name_eq hlt (Set.notMem_empty _) hthere, ?_⟩
  refine hq.tree_eq h hp hthere hlt fun i hi => ⟨Set.notMem_empty i, ?_⟩
  exact fun heq => absurd (hi.le hp) (Nat.not_le.mpr ((Set.mem_singleton_iff.mp heq) ▸ hafter))

/-! ### Places in metadata -/

theorem count_entryIds_of_unentered (h : p.Unentered id) : p.entryIds.count id = 0 := by
  refine List.count_eq_zero.mpr fun hin => ?_
  obtain ⟨o, ho, hin⟩ := List.mem_flatMap.mp hin
  obtain ⟨e, he, heq⟩ := List.mem_map.mp hin
  obtain ⟨i, hi⟩ := mem_live.mp ho
  exact h i e (mem_entries_iff.mpr ⟨o, hi, he⟩) heq

/-- An entry has one place in metadata. -/
theorem Balanced.count_entryIds_of_mem (h : p.Balanced S R P H L) (hsingle : p.Single)
    (he : e ∈ p.entries k) : p.entryIds.count e.id = 1 := by
  obtain ⟨o, ho, hmem⟩ := mem_entries_iff.mp he
  have hnodup := (h.distinct_entries k).nodup_ids
  rw [Pool.entries, record_of_find? ho] at hnodup
  have hothers : (p.erase k.id).Unentered e.id := by
    intro j e' he' heq
    by_cases hj : j = k.id
    · rw [hj, record_erase_self] at he'
      cases he'
    · rw [record_erase_of_ne hj] at he'
      exact hj (hsingle j k.id e' he' e he heq)
  rw [(entryIds_perm_erase ho).count_eq, List.count_append, count_entryIds_of_unentered hothers,
    List.count_eq_one_of_mem hnodup (List.mem_map_of_mem hmem)]

/-- **An entry that goes out loses one place**: it was in no other metadata, and comes into none. -/
theorem Balanced.released (h : p.Balanced S R P H L) (hq : q.Balanced S R P H' L')
    (hsingle : p.Single) (hp : p.Forward) (hev : p.Evolves N W q) (he : e ∈ p.entries k)
    (hout : e ∉ q.entries k) : (q.record e.id).locks + 1 = (p.record e.id).locks := by
  have hfree : q.Unentered e.id := by
    intro j e' he' heq
    have hold := hev.entry_old he' (heq ▸ (hp.entry he).2)
    obtain rfl := hsingle j k.id e' hold e he heq
    have hsame := List.inj_on_of_nodup_map (h.distinct_entries k).nodup_ids hold he heq
    exact hout (hsame ▸ he')
  rw [hq.locks, h.locks, count_entryIds_of_unentered hfree, h.count_entryIds_of_mem hsingle he]

/-! ### Replacing an entry -/

/-- **An operation that puts a new entry into the place of a name, or none, replaces it.** -/
theorem Balanced.replaces (h : p.Balanced S R P H L) (hq : q.Balanced S R P H' L')
    (hp : p.Forward) (hsingle : p.Single) (hev : p.Evolves ∅ {k.id} q)
    (hentries : q.entries k = Registry.replaced p (p.entries k) n new)
    (hnew : ∀ e, new = some e → p.nextId ≤ e.id ∧ q.name e = n) : p.Replaces k n new q := by
  obtain ⟨before, after, haround⟩ := Registry.exists_around (h.distinct_entries k) n
  have hsplit := hentries.trans (haround.replaced new)
  have hmem : ∀ e, e ∈ q.entries k ↔ new = some e ∨ e ∈ p.entries k ∧ p.name e ≠ n := fun e =>
    hsplit ▸ haround.mem_iff new
  refine ⟨⟨before, after, haround, hsplit⟩, fun e he => (hnew e he).2, ?_, ?_⟩
  · intro e he hne
    exact hq.entry_eq hev hp he (hq.exists_of_mem ((hmem e).mpr (.inr ⟨he, hne⟩)))
  · intro e he hname
    have hout : e ∉ q.entries k := fun hin => by
      rcases (hmem e).mp hin with hin | ⟨-, hne⟩
      · exact absurd (hp.entry he).2 (Nat.not_lt.mpr (hnew e hin).1)
      · exact hne hname
    exact ⟨hout, h.released hq hsingle hp hev he hout⟩

/-- A search finds what is there, of names that differ. -/
theorem Balanced.get?_eq_some_iff (h : p.Balanced S R P H L) :
    Registry.get? p (p.entries k) n = some e ↔ e ∈ p.entries k ∧ p.name e = n := by
  obtain ⟨before, after, haround⟩ := Registry.exists_around (h.distinct_entries k) n
  constructor
  · exact fun hget => ⟨List.mem_of_find?_eq_some hget, haround.name e hget⟩
  · rintro ⟨he, hname⟩
    rw [haround.eq] at he
    rcases List.mem_append.mp he with he | he
    · exact absurd hname (haround.others e (List.mem_append_left _ he))
    · rcases List.mem_append.mp he with he | he
      · exact Option.mem_toList.mp he
      · exact absurd hname (haround.others e (List.mem_append_right _ he))

namespace Replaces

/-- Beside the new entry, the entries of other names are there, and no others. -/
theorem mem_iff (h : p.Replaces k n new q) :
    e ∈ q.entries k ↔ new = some e ∨ e ∈ p.entries k ∧ p.name e ≠ n := by
  obtain ⟨before, after, haround, hsplit⟩ := h.places
  exact hsplit ▸ haround.mem_iff new

/-- The name stands for the new entry. -/
theorem get?_self (h : p.Replaces k n new q) (hq : q.Balanced S R P H L) :
    Registry.get? q (q.entries k) n = new := by
  refine Option.ext fun e => ?_
  rw [hq.get?_eq_some_iff, h.mem_iff]
  constructor
  · rintro ⟨hnew | ⟨he, hne⟩, hname⟩
    · exact hnew
    · exact absurd ((h.others e he hne).1.symm.trans hname) hne
  · exact fun hnew => ⟨.inl hnew, h.name e hnew⟩

/-- Every other name stands for the entry that it stood for. -/
theorem get?_of_ne {m : Name} (h : p.Replaces k n new q) (hp : p.Balanced S R P H' L')
    (hq : q.Balanced S R P H L) (hne : m ≠ n) :
    Registry.get? q (q.entries k) m = Registry.get? p (p.entries k) m := by
  refine Option.ext fun e => ?_
  rw [hq.get?_eq_some_iff, hp.get?_eq_some_iff, h.mem_iff]
  constructor
  · rintro ⟨hnew | ⟨he, hother⟩, rfl⟩
    · exact absurd (h.name e hnew) hne
    · exact ⟨he, (h.others e he hother).1.symm⟩
  · rintro ⟨he, rfl⟩
    exact ⟨.inr ⟨he, hne⟩, (h.others e he hne).1⟩

/-- **What the entries say afterwards**: the new one in the place of the name, and the others what
they said. -/
theorem metaTrees (h : p.Replaces k n new q) :
    q.metaTrees k = supplant (fun t => decide (t.name = n)) (new.map fun e => q.tree e.id)
      (p.metaTrees k) := by
  obtain ⟨before, after, haround, hsplit⟩ := h.places
  have hsame : ∀ l : List Key, l ⊆ before ++ after →
      l.map (fun e => q.tree e.id) = l.map fun e => p.tree e.id := fun l hl =>
    List.map_congr_left fun e he =>
      (h.others e (haround.mem_others.mp (hl he)).1 (haround.others e (hl he))).2
  have heq := haround.eq
  rw [Pool.metaTrees, Pool.metaTrees, hsplit]
  generalize Registry.get? p (p.entries k) n = old at haround heq
  simp only [heq, List.map_append, ← Option.toList_map]
  rw [hsame before (List.subset_append_left _ _), hsame after (List.subset_append_right _ _)]
  refine (supplant_around (fun t ht => ?_) (fun t ht => ?_) fun hnone => ?_).symm
  · obtain ⟨e, he, rfl⟩ := List.mem_map.mp ht
    rw [name_tree]
    exact decide_eq_false (haround.others e (List.mem_append_left _ he))
  · obtain ⟨e, he, rfl⟩ := Option.map_eq_some_iff.mp ht
    rw [name_tree]
    exact decide_eq_true (haround.name e he)
  · rw [haround.last (Option.map_eq_none_iff.mp hnone)]
    rfl

end Replaces

/-! ### The operations -/

/-- A key is in the metadata of another one, and what it took the place of is not let go yet. -/
def enter (p : Pool) (owner : RecordId) (k : Key) : Pool :=
  (p.lock k.id).modify owner fun r =>
    { r with entries := Registry.put p (p.record owner).entries k }

theorem insertEntry_evolves (p : Pool) (owner : RecordId) (k : Key) :
    (p.enter owner k).Evolves ∅ ∅ (p.insertEntry owner k) :=
  (Evolves.refl ∅ ∅ (p.enter owner k)).detachAll _

theorem nextId_enter (p : Pool) (owner : RecordId) (k : Key) :
    (p.enter owner k).nextId = p.nextId := by
  rw [enter, nextId_modify, nextId_lock]

theorem record_enter_of_ne {owner : RecordId} (p : Pool) (k : Key) (h : i ≠ owner) :
    ((p.enter owner k).record i).name = (p.record i).name ∧
      ((p.enter owner k).record i).value = (p.record i).value ∧
      ((p.enter owner k).record i).entries = (p.record i).entries := by
  rw [enter, record_modify_of_ne _ h]
  exact record_lock p k.id i

theorem find?_enter_owner {owner : RecordId} {o : Record} (ho : p.find? owner = some o) (k : Key) :
    ∃ r, (p.enter owner k).find? owner = some r ∧ r.value = o.value ∧
      r.entries = Registry.put p o.entries k := by
  obtain ⟨o', ho'⟩ : ∃ o', (p.lock k.id).find? owner = some o' := by
    rw [find?_lock, ho]
    split <;> exact ⟨_, rfl⟩
  have hvalue := (record_lock p k.id owner).2.1
  rw [record_of_find? ho, record_of_find? ho'] at hvalue
  rw [enter, find?_modify, if_pos rfl, ho', record_of_find? ho]
  exact ⟨_, rfl, hvalue, rfl⟩

/-- To set an entry is to plant a tree without metadata. -/
theorem setEntry_eq (p : Pool) (k : Key) (n : Name) (v : Value) :
    p.setEntry k n v = p.plantEntry k (.node n v []) := by
  rw [setEntry, plantEntry, plant, plantEntries]

/-- **What a planted tree does to the key**: its record takes the place of its name, and the key
keeps its value. -/
theorem Balanced.owner_plantEntry (h : p.Balanced S R P H L) (hk : k.id ∈ H) (ht : t.Distinct) :
    (p.plantEntry k t).value k = p.value k ∧
      (p.plantEntry k t).entries k
        = Registry.replaced p (p.entries k) t.name (some ⟨p.nextId, {}⟩) := by
  obtain ⟨o, ho, -⟩ := h.exists_of_handle hk
  obtain ⟨o', ho', -⟩ := (h.plantEntry hk ht).exists_of_handle hk
  obtain ⟨-, ⟨top, htop, hname⟩, hagree, -⟩ := Balanced.plant ht p L h
  have hplanted : (p.plant t).find? k.id = some o := (hagree k.id (find?_lt ho)).trans ho
  obtain ⟨r, hr, hvalue, hput⟩ := find?_enter_owner hplanted ⟨p.nextId, {}⟩
  obtain ⟨r', hr', -, hkept, -⟩ :=
    (insertEntry_evolves (p.plant t) k.id ⟨p.nextId, {}⟩).kept k.id o' (find?_lt hr) ho'
  obtain rfl : r = r' := Option.some.inj (hr.symm.trans hr')
  obtain ⟨hvalue', hentries'⟩ := hkept (Set.notMem_empty _)
  have hnew : (p.plant t).name ⟨p.nextId, {}⟩ = t.name := by
    rw [Pool.name, record_of_find? htop, hname]
  -- the new record is in no place yet when the place of its name is looked for
  have hsame : ∀ e ∈ o.entries, decide ((p.plant t).name e = (p.plant t).name ⟨p.nextId, {}⟩)
      = decide (p.name e = t.name) := by
    intro e he
    obtain ⟨r, hr⟩ := h.exists_of_mem (k := k) (by rwa [Pool.entries, record_of_find? ho])
    rw [hagree.name (find?_lt hr), hnew]
  rw [Pool.value, Pool.value, Pool.entries, Pool.entries, record_of_find? ho, record_of_find? ho']
  exact ⟨hvalue'.trans hvalue, (hentries'.trans hput).trans
    (supplant_congr (some (⟨p.nextId, {}⟩ : Key)) hsame)⟩

/-- **The planted tree is what the new entry says.** -/
theorem Balanced.tree_plantEntry (h : p.Balanced S R P H L) (hp : p.Forward) (hk : k.id ∈ H)
    (ht : t.Distinct) (hthere : ∃ r, (p.plantEntry k t).find? p.nextId = some r) :
    (p.plantEntry k t).tree p.nextId = t := by
  obtain ⟨o, ho, -⟩ := h.exists_of_handle hk
  have hlt := find?_lt ho
  have hafter := h.plantEntry hk ht
  have hforward := ((Evolves.refl ∅ ∅ p).plant t).1.forward hp
  have hforward' := ((Evolves.refl ∅ {k.id} p).plantEntry hlt rfl t).forward hp
  -- no record of the tree is the owner, so none of them was written
  have hsame : ∀ i, p.nextId ≤ i → i < (p.plant t).nextId →
      ∀ r, (p.plantEntry k t).find? i = some r →
      ((p.plantEntry k t).record i).name = ((p.plant t).record i).name ∧
        ((p.plantEntry k t).record i).value = ((p.plant t).record i).value ∧
        ((p.plantEntry k t).record i).entries = ((p.plant t).record i).entries := by
    intro i hi hold r hr
    obtain ⟨r₁, hr₁, hname, hkept, -⟩ :=
      (insertEntry_evolves (p.plant t) k.id ⟨p.nextId, {}⟩).kept i r (by rwa [nextId_enter]) hr
    have hentered := record_enter_of_ne (p.plant t) ⟨p.nextId, {}⟩
      (Nat.ne_of_gt (Nat.lt_of_lt_of_le hlt hi))
    rw [record_of_find? hr₁] at hentered
    obtain ⟨hvalue, hentries⟩ := hkept (Set.notMem_empty i)
    rw [record_of_find? hr, hname (Set.notMem_empty i), hvalue, hentries]
    exact hentered
  refine (tree_congr hforward hforward' (F := { i | p.nextId ≤ i ∧ i < (p.plant t).nextId ∧
    ∃ r, (p.plantEntry k t).find? i = some r }) ?_ ?_ ⟨Nat.le_refl _,
    Evolves.nextId_lt_plant p t, hthere⟩).trans (tree_plant hp t)
  · rintro i ⟨hi, hold, r, hr⟩
    exact hsame i hi hold r hr
  · rintro i ⟨hi, hold, r, hr⟩ e he
    obtain ⟨hbehind, hbound⟩ := hforward.entry he
    refine ⟨Nat.le_trans hi (Nat.le_of_lt hbehind), hbound, ?_⟩
    rw [← (hsame i hi hold r hr).2.2] at he
    exact hafter.exists_of_mem (k := ⟨i, {}⟩) he

/-- **What a removal does to the entries**, and what it hands over. -/
theorem entries_removeEntry (n : Name) (hthere : ∃ r, p.find? k.id = some r) :
    (p.removeEntry k n).1 = Registry.get? p (p.entries k) n ∧
      (p.removeEntry k n).2.entries k = Registry.replaced p (p.entries k) n none := by
  obtain ⟨r, hr⟩ := hthere
  rw [removeEntry]
  rcases Registry.get?_cases p (p.entries k) n with
    ⟨before, old, after, -, -, hget, hwithout, -⟩ | ⟨-, hget, hwithout, -⟩
  · rw [hget]
    refine ⟨rfl, ?_⟩
    have hunlock := (Evolves.refl ∅ ∅ (p.modify k.id fun r =>
      { r with entries := Registry.without p (p.entries k) n })).unlock old.id
    refine (hunlock.entries_eq ?_ (Set.notMem_empty _) ?_).trans ?_
    · rw [nextId_modify]
      exact find?_lt hr
    · rw [find?_unlock, find?_modify, if_pos rfl, hr]
      split <;> exact ⟨_, rfl⟩
    · rw [Pool.entries, record_modify_self _ hr]
      rfl
  · rw [hget]
    exact ⟨rfl, hwithout.symm⟩

/-! ### What the operations replace -/

/-- **A planted tree takes the place of its name**, and the new entry says what the tree says. -/
theorem Balanced.replaces_plantEntry (h : p.Balanced S R P H L) (hp : p.Forward)
    (hsingle : p.Single) (hk : k.id ∈ H) (ht : t.Distinct) :
    p.Replaces k t.name (some ⟨p.nextId, {}⟩) (p.plantEntry k t) ∧
      (p.plantEntry k t).tree p.nextId = t := by
  obtain ⟨o, ho, -⟩ := h.exists_of_handle hk
  have hafter := h.plantEntry hk ht
  have hentries := (h.owner_plantEntry hk ht).2
  have hmem : ⟨p.nextId, {}⟩ ∈ (p.plantEntry k t).entries k := by
    obtain ⟨before, after, haround⟩ := Registry.exists_around (h.distinct_entries k) t.name
    rw [hentries, haround.replaced]
    exact List.mem_append_right _ List.mem_cons_self
  have htree := h.tree_plantEntry hp hk ht (hafter.exists_of_mem hmem)
  have hev := (Evolves.refl ∅ {k.id} p).plantEntry (find?_lt ho) rfl t
  refine ⟨h.replaces hafter hp hsingle hev hentries fun e he => ?_, htree⟩
  cases he
  exact ⟨Nat.le_refl _, (name_tree _ _).symm.trans (congrArg KeyTree.name htree)⟩

/-- **A removal takes the entry of the name out**, whatever becomes of the entry then. -/
theorem Balanced.replaces_removeEntry (h : p.Balanced S R P H L) (hq : q.Balanced S R P H' L')
    (hp : p.Forward) (hsingle : p.Single) (hk : k.id < p.nextId)
    (hev : (p.removeEntry k n).2.Evolves ∅ ∅ q) (hthere : ∃ r, q.find? k.id = some r) :
    p.Replaces k n none q := by
  have hremove := (Evolves.refl ∅ {k.id} p).removeEntry rfl n
  have hboth := hremove.trans (hev.mono (Set.empty_subset ∅) (Set.empty_subset {k.id}))
  obtain ⟨r', hr'⟩ := hthere
  obtain ⟨r, hr, -⟩ := hboth.kept k.id r' hk hr'
  have hsame := hev.entries_eq (Nat.lt_of_lt_of_le hk hremove.grows) (Set.notMem_empty _) ⟨r', hr'⟩
  exact h.replaces hq hp hsingle hboth (hsame.trans (entries_removeEntry n ⟨r, hr⟩).2) nofun

end Pool
end ConfigKeys
