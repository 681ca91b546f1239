import ConfigKeys.Proofs.Pool.Copy
import ConfigKeys.Proofs.Pool.Frame

/-!
# Trees of records

The tree of a record unfolds into its name, its value and the trees of its metadata, at every level:
the number of records bounds the depth, because entries come after the record that holds them.  So a
tree changes only where a record of it is written, and a planted tree is the tree it was planted
from.

## Main definitions

* `Pool.Holds` — a record belongs to the tree of another one.

## Main results

* `Pool.Forward.tree_eq` — a tree unfolds.
* `Pool.tree_congr`, `Pool.Balanced.tree_eq` — what a tree depends on.
* `Pool.tree_plant`, `Pool.tree_copy` — a copy says what the original says.
-/

namespace ConfigKeys
namespace Pool

variable {N W : Set RecordId} {p q : Pool} {id : RecordId}

/-! ### Unfolding -/

/-- A number that is not used yet stands for no metadata. -/
theorem entries_of_le (h : p.nextId ≤ id) : (p.record id).entries = [] := by
  rcases hr : p.find? id with _ | r
  · rw [record_of_find?_none hr]
    rfl
  · exact absurd (find?_lt hr) (Nat.not_lt.mpr h)

/-- What has metadata is there. -/
theorem lt_of_mem_entries {e : Key} (he : e ∈ (p.record id).entries) : id < p.nextId := by
  by_contra hnew
  rw [entries_of_le (Nat.not_lt.mp hnew)] at he
  cases he

/-- Fuel that suffices for a record suffices for what comes after it, with one less. -/
theorem le_fuel_of_lt {n fuel i j : Nat} (h : n ≤ fuel + 1 + i) (hij : i < j) : n ≤ fuel + j := by
  omega

/-- Once it suffices, more fuel makes no difference. -/
theorem Forward.foldUpTo_succ {α : Type} (h : p.Forward) (f : Record → List α → α) (fuel : Nat)
    (id : RecordId) (hfuel : p.nextId ≤ fuel + id) :
    p.foldUpTo f (fuel + 1) id = p.foldUpTo f fuel id := by
  induction fuel generalizing id with
  | zero =>
    rw [Nat.zero_add] at hfuel
    simp [foldUpTo, entries_of_le hfuel]
  | succ fuel ih =>
    rw [foldUpTo, foldUpTo]
    refine congrArg (f (p.record id)) (List.map_congr_left fun e he => ih e.id ?_)
    exact le_fuel_of_lt hfuel (h.entry he).1

/-- **A tree unfolds** into what its record says and the trees of the metadata. -/
theorem Forward.tree_eq (h : p.Forward) (id : RecordId) :
    p.tree id = .node (p.record id).name (p.record id).value
      ((p.record id).entries.map fun e => p.tree e.id) := by
  have hmore := h.foldUpTo_succ (fun r entries => KeyTree.node r.name r.value entries) p.nextId id
    (Nat.le_add_right _ _)
  rw [tree, ← hmore]
  rfl

theorem name_tree (p : Pool) (id : RecordId) : (p.tree id).name = (p.record id).name :=
  name_foldUpTo_node p p.nextId id

theorem Forward.value_tree (h : p.Forward) (id : RecordId) :
    (p.tree id).value = (p.record id).value := by
  rw [h.tree_eq]
  rfl

/-- The values in metadata are those of the tree. -/
theorem Forward.get?_tree (h : p.Forward) (id : RecordId) (n : Name) :
    (Registry.get? p (p.record id).entries n).map p.value
      = ((p.tree id).entries.find? fun t => t.name = n).map KeyTree.value := by
  rw [h.tree_eq, Registry.get?, KeyTree.entries, List.find?_map, Option.map_map]
  simp only [Function.comp_def, name_tree, h.value_tree]
  rfl

/-! ### What a tree depends on -/

/-- **A tree depends on what its records say**: it is the same in two pools that agree on a set of
records which holds the metadata of its members. -/
theorem tree_congr (hp : p.Forward) (hq : q.Forward) {F : Set RecordId}
    (hsame : ∀ id ∈ F, (q.record id).name = (p.record id).name ∧
      (q.record id).value = (p.record id).value ∧ (q.record id).entries = (p.record id).entries)
    (hclosed : ∀ id ∈ F, ∀ e ∈ (p.record id).entries, e.id ∈ F) (hid : id ∈ F) :
    q.tree id = p.tree id := by
  -- the induction is on how many numbers lie beyond that of the record
  obtain ⟨n, hn⟩ : ∃ n, p.nextId ≤ n + id := ⟨p.nextId, Nat.le_add_right _ _⟩
  induction n generalizing id with
  | zero =>
    rw [Nat.zero_add] at hn
    obtain ⟨hname, hvalue, hentries⟩ := hsame id hid
    rw [hq.tree_eq, hp.tree_eq, hname, hvalue, hentries, entries_of_le hn]
    rfl
  | succ n ih =>
    obtain ⟨hname, hvalue, hentries⟩ := hsame id hid
    rw [hq.tree_eq, hp.tree_eq, hname, hvalue, hentries]
    refine congrArg _ (List.map_congr_left fun e he => ih (hclosed id hid e he) ?_)
    exact le_fuel_of_lt hn (hp.entry he).1

/-- **A tree stays as it is** as long as its records are there and none of them is written. -/
theorem Evolves.tree_eq (h : p.Evolves N W q) (hp : p.Forward) {F : Set RecordId}
    (hold : ∀ id ∈ F, id < p.nextId ∧ id ∉ N ∧ id ∉ W)
    (hclosed : ∀ id ∈ F, ∃ r, q.find? id = some r ∧ ∀ e ∈ r.entries, e.id ∈ F) (hid : id ∈ F) :
    q.tree id = p.tree id := by
  have hsame : ∀ i ∈ F, ∃ r r', p.find? i = some r ∧ q.find? i = some r' ∧ r'.name = r.name ∧
      r'.value = r.value ∧ r'.entries = r.entries := by
    intro i hi
    obtain ⟨r', hr', -⟩ := hclosed i hi
    obtain ⟨r, hr, hname, hsame, -⟩ := h.kept i r' (hold i hi).1 hr'
    exact ⟨r, r', hr, hr', hname (hold i hi).2.1, hsame (hold i hi).2.2⟩
  refine tree_congr hp (h.forward hp) ?_ ?_ hid
  · intro i hi
    obtain ⟨r, r', hr, hr', hall⟩ := hsame i hi
    rw [record_of_find? hr, record_of_find? hr']
    exact hall
  · intro i hi e he
    obtain ⟨r, r', hr, hr', -, -, hentries⟩ := hsame i hi
    obtain ⟨r'', hr'', hmem⟩ := hclosed i hi
    obtain rfl : r' = r'' := Option.some.inj (hr'.symm.trans hr'')
    rw [record_of_find? hr, ← hentries] at he
    exact hmem e he

/-- A record is another one, or belongs to its metadata, at any level. -/
inductive Holds (p : Pool) (id : RecordId) : RecordId → Prop
  | self : Holds p id id
  | entry {i : RecordId} {e : Key} : Holds p id i → e ∈ (p.record i).entries → Holds p id e.id

theorem Holds.le {i : RecordId} (hp : p.Forward) (h : p.Holds id i) : id ≤ i := by
  induction h with
  | self => exact Nat.le_refl _
  | entry _ he ih => exact Nat.le_trans ih (Nat.le_of_lt (hp.entry he).1)

theorem Holds.lt {i : RecordId} (hp : p.Forward) (h : p.Holds id i) (hid : id < p.nextId) :
    i < p.nextId := by
  induction h with
  | self => exact hid
  | entry _ he _ => exact (hp.entry he).2

/-- What is not written holds what it held. -/
theorem Evolves.holds_of_holds (h : p.Evolves N W q) (hp : p.Forward) {i : RecordId}
    (hid : id < p.nextId) (hout : ∀ i, p.Holds id i → i ∉ W) (hi : q.Holds id i) :
    p.Holds id i := by
  induction hi with
  | self => exact .self
  | @entry i e _ he ih => exact ih.entry (h.entry_kept (ih.lt hp hid) (hout i ih) he)

/-- **A tree that is there stays as it is**, if none of its records is written: what a record holds
is there with it. -/
theorem Balanced.tree_eq {S R : List (List Key)} {P H L : List RecordId}
    (hq : q.Balanced S R P H L) (h : p.Evolves N W q) (hp : p.Forward)
    (hthere : ∃ r, q.find? id = some r) (hid : id < p.nextId)
    (hold : ∀ i, p.Holds id i → i ∉ N ∧ i ∉ W) : q.tree id = p.tree id := by
  refine h.tree_eq hp (F := { i | p.Holds id i ∧ ∃ r, q.find? i = some r }) ?_ ?_ ⟨.self, hthere⟩
  · intro i hi
    exact ⟨hi.1.lt hp hid, hold i hi.1⟩
  · rintro i ⟨hi, r', hr'⟩
    refine ⟨r', hr', fun e he => ⟨?_, hq.exists_of_mem_entries (mem_live.mpr ⟨i, hr'⟩) he⟩⟩
    obtain ⟨r, hr, -, hsame, -⟩ := h.kept i r' (hi.lt hp hid) hr'
    rw [(hsame (hold i hi).2).2, ← record_of_find? hr] at he
    exact hi.entry he

/-- What writes nothing changes no tree that is there. -/
theorem Balanced.tree_eq_of_evolves {S R : List (List Key)} {P H L : List RecordId}
    (hq : q.Balanced S R P H L) (h : p.Evolves ∅ ∅ q) (hp : p.Forward)
    (hthere : ∃ r, q.find? id = some r) (hid : id < p.nextId) : q.tree id = p.tree id :=
  hq.tree_eq h hp hthere hid fun i _ => ⟨Set.notMem_empty i, Set.notMem_empty i⟩

/-- What writes no metadata brings no record into any that was there before. -/
theorem Evolves.unentered (h : p.Evolves N ∅ q) (hid : id < p.nextId) (hfree : p.Unentered id) :
    q.Unentered id := by
  intro i e he heq
  rcases Nat.lt_or_ge i p.nextId with hi | hi
  · exact hfree i e (h.entry_kept hi (Set.notMem_empty i) he) heq
  · have hafter : i < id := heq ▸ h.entry_new hi he
    exact absurd (Nat.lt_trans hafter hid) (Nat.not_lt.mpr hi)

theorem tree_lock (h : p.Forward) (id i : RecordId) : (p.lock id).tree i = p.tree i :=
  tree_congr h (((Evolves.refl ∅ ∅ p).lock id).forward h) (F := Set.univ)
    (fun i _ => record_lock p id i) (fun _ _ _ _ => trivial) trivial

/-! ### Planting -/

mutual

theorem find?_plant {p : Pool} : (t : KeyTree) →
    ∀ i, i < p.nextId → (p.plant t).find? i = p.find? i
  | .node name value entries => by
    intro i hi
    have hne : i ≠ p.nextId := Nat.ne_of_lt hi
    rw [plant, find?_plantEntries entries i (by rw [nextId_alloc]; exact Nat.lt_succ_of_lt hi) hne,
      find?_alloc, if_neg hne]

theorem find?_plantEntries {p : Pool} {owner : RecordId} : (ts : List KeyTree) →
    ∀ i, i < p.nextId → i ≠ owner → (p.plantEntries owner ts).find? i = p.find? i
  | [] => by
    intro i _ _
    rw [plantEntries]
  | t :: ts => by
    intro i hi hne
    have hi' : i < ((p.plant t).addEntry owner p.nextId).nextId := by
      rw [nextId_addEntry]
      exact Nat.lt_trans hi (Evolves.nextId_lt_plant p t)
    rw [plantEntries, find?_plantEntries ts i hi' hne,
      find?_addEntry_of_ne (Nat.ne_of_lt hi) hne, find?_plant t i hi]

end

/-- What enters the metadata of a record changes no tree but that of the record, and of those that
hold it. -/
theorem tree_addEntry {owner i : RecordId} (hp : p.Forward) (hq : (p.addEntry owner id).Forward)
    (hi : owner < i) : (p.addEntry owner id).tree i = p.tree i := by
  refine tree_congr hp hq (F := { i | owner < i }) ?_ ?_ hi
  · intro j hj
    rw [addEntry, record_modify_of_ne _ (Nat.ne_of_gt hj)]
    exact record_lock p id j
  · intro j hj e he
    exact Nat.lt_trans hj (hp.entry he).1

mutual

/-- **A planted tree is the tree of its record.** -/
theorem tree_plant {p : Pool} (h : p.Forward) : (t : KeyTree) → (p.plant t).tree p.nextId = t
  | .node name value entries => by
    have hnew : (p.alloc { name, value }).find? p.nextId = some { name, value } := by
      rw [find?_alloc, if_pos rfl]
    have halloc : (p.alloc { name, value }).Forward :=
      ((Evolves.refl ∅ ∅ p).alloc rfl).forward h
    have hforward := ((Evolves.refl ∅ ∅ p).plant (.node name value entries)).1.forward h
    obtain ⟨o, ho, hname, hvalue, hentries⟩ := tree_plantEntries halloc hnew entries
    rw [plant] at hforward ⊢
    rw [hforward.tree_eq, record_of_find? ho, hname, hvalue, hentries]
    rfl

/-- The trees that are planted below a record follow those that its metadata has. -/
theorem tree_plantEntries {p : Pool} {owner : RecordId} {o : Record} (h : p.Forward)
    (ho : p.find? owner = some o) : (ts : List KeyTree) →
      ∃ o', (p.plantEntries owner ts).find? owner = some o' ∧ o'.name = o.name ∧
        o'.value = o.value ∧ o'.entries.map (fun e => (p.plantEntries owner ts).tree e.id)
          = o.entries.map (fun e => p.tree e.id) ++ ts
  | [] => by
    rw [plantEntries, List.append_nil]
    exact ⟨o, ho, rfl, rfl, rfl⟩
  | t :: ts => by
    have hlt : owner < p.nextId := find?_lt ho
    have hplant := (Evolves.refl ∅ {owner} p).plant t
    have hforward₁ := hplant.1.forward h
    have hforward₂ : ((p.plant t).addEntry owner p.nextId).Forward :=
      (hplant.1.addEntry (fun _ => rfl) (Nat.le_refl _) hlt hplant.2 fun hp =>
        ((Evolves.refl ∅ ∅ p).plant t).1.unentered_new hp).forward h
    have ho₂ : ((p.plant t).addEntry owner p.nextId).find? owner = some _ :=
      find?_addEntry_owner (Nat.ne_of_lt hlt) ((find?_plant t owner hlt).trans ho)
    obtain ⟨o', ho', hname, hvalue, hentries⟩ := tree_plantEntries hforward₂ ho₂ ts
    rw [plantEntries]
    refine ⟨o', ho', hname, hvalue, hentries.trans ?_⟩
    -- the trees that were there before are still the same, and the new one stands behind them
    have hold : ∀ e ∈ o.entries,
        ((p.plant t).addEntry owner p.nextId).tree e.id = p.tree e.id := by
      intro e he
      obtain ⟨hafter, hbound⟩ := h owner o ho e he
      rw [tree_addEntry hforward₁ hforward₂ hafter]
      refine tree_congr h hforward₁ (F := { i | i < p.nextId }) ?_ ?_ hbound
      · intro i hi
        rw [record, record, find?_plant t i hi]
        exact ⟨rfl, rfl, rfl⟩
      · intro i _ e' he'
        exact (h.entry he').2
    have hnew : ((p.plant t).addEntry owner p.nextId).tree p.nextId = t := by
      rw [tree_addEntry hforward₁ hforward₂ hlt, tree_plant h t]
    rw [List.map_append, List.map_congr_left hold, List.map_singleton, hnew, List.append_assoc]
    rfl

end

/-- **A copy says what the original says.** -/
theorem tree_copy (h : p.Forward) (id : RecordId) : (p.copy id).tree p.nextId = p.tree id :=
  tree_plant h (p.tree id)

end Pool
end ConfigKeys
