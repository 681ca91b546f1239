import ConfigKeys.Proofs.Pool.Tree

/-!
# Metadata is a forest

A record enters metadata when it is new, and never again: it is in the metadata of one record at
most, once, and came after it.  So two records that hold a common one hold each other, in one way or
the other; and a copy, of which all records are new, has no record in common with any key that was
there before, however both change.

## Main definitions

* `Pool.Single` — no record has two owners.
* `Pool.Forest` — metadata is a forest.
* `Pool.IsPlanted` — a record is new and says a tree, down to the last entry.
* `Pool.IsCopyOf` — a record is a copy of another one, down to the last entry.

## Main results

* `Pool.Balanced.forest` — in a pool that balances, single owners make a forest.
* `Pool.Evolves.single` — every operation keeps owners single.
* `Pool.Single.holds_or_holds` — of two records that hold a common one, one holds the other.
* `Pool.Balanced.isPlanted` — what is planted is new at every level.
-/

namespace ConfigKeys
namespace Pool

variable {N W : Set RecordId} {p q : Pool} {S R : List (List Key)} {P H L : List RecordId}
variable {id a b i j : RecordId}

/-! ### Owners -/

/-- No record is in the metadata of two records. -/
def Single (p : Pool) : Prop :=
  ∀ i j, ∀ e ∈ (p.record i).entries, ∀ e' ∈ (p.record j).entries, e.id = e'.id → i = j

/-- **Every operation keeps owners single**: what was in metadata keeps its owner, and what is new
has one at most. -/
theorem Evolves.single (h : p.Evolves N W q) (hp : p.Forward) (hsingle : p.Single) : q.Single := by
  intro i j e he e' he' heq
  rcases Nat.lt_or_ge e.id p.nextId with hold | hnew
  · exact hsingle i j e (h.entry_old he hold) e' (h.entry_old he' (heq ▸ hold)) heq
  · exact h.placed hp i j e he e' he' heq hnew

/-- Metadata is a forest. -/
structure Forest (p : Pool) : Prop where
  /-- A record is in the metadata of one record at most. -/
  single : p.Single
  /-- It is there once. -/
  nodup : ∀ i, ((p.record i).entries.map Key.id).Nodup
  /-- It does not hold the record that it is in. -/
  acyclic : ∀ i, ∀ e ∈ (p.record i).entries, ¬ p.Holds e.id i
  /-- There is an end to the entries of entries. -/
  wellFounded : WellFounded fun j i => ∃ e ∈ (p.record i).entries, e.id = j

theorem Forward.wellFounded (h : p.Forward) :
    WellFounded fun j i => ∃ e ∈ (p.record i).entries, e.id = j := by
  -- an entry has a larger number than its owner, and no number is as large as the next one
  refine Subrelation.wf ?_ (measure fun i => p.nextId - i).wf
  rintro j i ⟨e, he, rfl⟩
  obtain ⟨hafter, hlt⟩ := h.entry he
  exact Nat.sub_lt_sub_left (Nat.lt_trans hafter hlt) hafter

/-- **In a pool that balances, single owners make a forest.** -/
theorem Balanced.forest (h : p.Balanced S R P H L) (hp : p.Forward) (hsingle : p.Single) :
    p.Forest where
  single := hsingle
  nodup i := by
    rcases hr : p.find? i with _ | r
    · rw [record_of_find?_none hr]
      exact List.nodup_nil
    · rw [record_of_find? hr]
      exact (h.entries r (mem_live.mpr ⟨i, hr⟩)).nodup_ids
  acyclic i e he hholds := absurd (hholds.le hp) (Nat.not_le.mpr (hp.entry he).1)
  wellFounded := hp.wellFounded

/-- A record that is held is held by its owner, unless it is the one that holds it. -/
theorem Holds.eq_or_entry (h : p.Holds a i) :
    i = a ∨ ∃ j, p.Holds a j ∧ ∃ e ∈ (p.record j).entries, e.id = i := by
  cases h with
  | self => exact .inl rfl
  | entry hj he => exact .inr ⟨_, hj, _, he, rfl⟩

/-- **Of two records that hold a common one, one holds the other.** -/
theorem Single.holds_or_holds (h : p.Single) (ha : p.Holds a i) (hb : p.Holds b i) :
    p.Holds a b ∨ p.Holds b a := by
  induction ha with
  | self => exact .inr hb
  | @entry j e hj he ih =>
    rcases hb.eq_or_entry with heq | ⟨j', hj', e', he', heq⟩
    · exact .inl (heq ▸ hj.entry he)
    · -- both ways lead over the one owner
      obtain rfl := h j j' e he e' he' heq.symm
      exact ih hj'

/-! ### What is held, before and after -/

/-- What a record holds and was there was held before. -/
theorem Evolves.holds_old (h : p.Evolves N W q) (hp : p.Forward) (hi : q.Holds a i)
    (hold : i < p.nextId) : p.Holds a i := by
  induction hi with
  | self => exact .self
  | @entry j e _ he ih =>
    have hafter := ((h.forward hp).entry he).1
    exact (ih (Nat.lt_trans hafter hold)).entry (h.entry_old he hold)

/-- **Records that are apart stay apart**: what one of them held once, the other never holds. -/
theorem Evolves.not_holds (h : p.Evolves N W q) (hp : p.Forward) (hsingle : p.Single)
    (hab : ¬ p.Holds a b) (hba : ¬ p.Holds b a) (ha : p.Holds a i) (hlt : a < p.nextId) :
    ¬ q.Holds b i := by
  intro hb
  rcases hsingle.holds_or_holds ha (h.holds_old hp hb (ha.lt hp hlt)) with hholds | hholds
  · exact hab hholds
  · exact hba hholds

/-! ### Copies -/

theorem locks_modify {f : Record → Record} (hf : ∀ r, (f r).locks = r.locks) (i : RecordId) :
    ((p.modify id f).record i).locks = (p.record i).locks := by
  rw [record, find?_modify]
  split
  · rw [record]
    rcases p.find? i with _ | r
    · rfl
    · exact hf r
  · rfl

theorem locks_addEntry {r : Record} {owner : RecordId} (hr : p.find? id = some r) (i : RecordId) :
    ((p.addEntry owner id).record i).locks =
      if i = id then (p.record i).locks + 1 else (p.record i).locks := by
  rw [addEntry, locks_modify (f := fun r => { r with entries := r.entries ++ [⟨id, {}⟩] })
    fun _ => rfl, lock]
  split
  · next heq => rw [heq, record_modify_self _ hr, record_of_find? hr]
  · next hne => rw [record_modify_of_ne _ hne]

mutual

/-- Of the records that are planted, the one at the top is in no place, and each other is in one. -/
theorem locks_plant {p : Pool} : (t : KeyTree) →
    (∃ r, (p.plant t).find? p.nextId = some r ∧ r.locks = 0) ∧
      ∀ i, p.nextId < i → i < (p.plant t).nextId → ((p.plant t).record i).locks = 1
  | .node name value entries => by
    have hnew : (p.alloc { name, value }).find? p.nextId = some { name, value } := by
      rw [find?_alloc, if_pos rfl]
    obtain ⟨htop, hbelow⟩ := locks_plantEntries hnew entries
    rw [nextId_alloc] at hbelow
    rw [plant]
    exact ⟨htop, hbelow⟩

theorem locks_plantEntries {p : Pool} {owner : RecordId} {o : Record}
    (ho : p.find? owner = some o) : (ts : List KeyTree) →
      (∃ o', (p.plantEntries owner ts).find? owner = some o' ∧ o'.locks = o.locks) ∧
      ∀ i, p.nextId ≤ i → i < (p.plantEntries owner ts).nextId →
        ((p.plantEntries owner ts).record i).locks = 1
  | [] => by
    rw [plantEntries]
    exact ⟨⟨o, ho, rfl⟩, fun i hi hlt => absurd hlt (Nat.not_lt.mpr hi)⟩
  | t :: ts => by
    have howner : owner < p.nextId := find?_lt ho
    have ho' : ((p.plant t).addEntry owner p.nextId).find? owner = some _ :=
      find?_addEntry_owner (Nat.ne_of_lt howner) ((find?_plant t owner howner).trans ho)
    obtain ⟨⟨top, htop, hfree⟩, hbelow⟩ := locks_plant (p := p) t
    obtain ⟨hkept, hrest⟩ := locks_plantEntries ho' ts
    rw [plantEntries]
    refine ⟨hkept, fun i hi hlt => ?_⟩
    rcases Nat.lt_or_ge i (p.plant t).nextId with hfirst | hlater
    · -- the record came with the first tree, and the others leave it alone
      have hne : i ≠ owner := Nat.ne_of_gt (Nat.lt_of_lt_of_le howner hi)
      rw [record, find?_plantEntries ts i (by rwa [nextId_addEntry]) hne, ← record,
        locks_addEntry htop]
      split
      · next heq => rw [heq, record_of_find? htop, hfree]
      · next hne => exact hbelow i (Nat.lt_of_le_of_ne hi (Ne.symm hne)) hfirst
    · exact hrest i (by rwa [nextId_addEntry]) hlt

end

/-- A record of `q` is new since `p` and says a tree, down to the last entry. -/
structure IsPlanted (p : Pool) (t : KeyTree) (q : Pool) (top : RecordId) : Prop where
  /-- It says the tree: name, value and metadata, at every level. -/
  tree_eq : q.tree top = t
  /-- All of it is new. -/
  new : ∀ i, q.Holds top i → p.nextId ≤ i
  /-- Nothing that was there before has a record in common with it. -/
  apart : ∀ x < p.nextId, ∀ i, q.Holds top i → ¬ q.Holds x i
  /-- The name at the top is not pinned. -/
  unlocked : (q.record top).locks = 0
  /-- Each entry is in one place. -/
  once : ∀ i, q.Holds top i → i ≠ top → (q.record i).locks = 1

/-- **What is planted is new**, and it stays so as long as its records are left alone. -/
theorem Balanced.isPlanted {t : KeyTree} (hq : q.Balanced S R P H L) (hp : p.Forward)
    (hev : (p.plant t).Evolves ∅ ∅ q) (hthere : ∃ r, q.find? p.nextId = some r)
    (hlocks : ∀ i, p.nextId ≤ i → i < (p.plant t).nextId →
      (q.record i).locks = ((p.plant t).record i).locks) : p.IsPlanted t q p.nextId := by
  have hplant := ((Evolves.refl ∅ ∅ p).plant t).1
  have hforward := hplant.forward hp
  have hlt : p.nextId < (p.plant t).nextId := Evolves.nextId_lt_plant p t
  have hnew : ∀ i, q.Holds p.nextId i → p.nextId ≤ i := fun i hi => hi.le (hev.forward hforward)
  have hheld : ∀ i, q.Holds p.nextId i → i < (p.plant t).nextId := fun i hi =>
    (hev.holds_of_holds hforward hlt (fun i _ => Set.notMem_empty i) hi).lt hforward hlt
  obtain ⟨⟨top, htop, hfree⟩, hbelow⟩ := locks_plant (p := p) t
  refine ⟨?_, hnew, ?_, ?_, fun i hi hne => ?_⟩
  · rw [hq.tree_eq_of_evolves hev hforward hthere hlt, tree_plant hp]
  · intro x hx i hi hholds
    have hold := (hplant.trans hev).holds_of_holds hp hx (fun i _ => Set.notMem_empty i) hholds
    exact absurd (hold.lt hp hx) (Nat.not_lt.mpr (hnew i hi))
  · rw [hlocks _ (Nat.le_refl _) hlt, record_of_find? htop, hfree]
  · rw [hlocks i (hnew i hi) (hheld i hi)]
    exact hbelow i (Nat.lt_of_le_of_ne (hnew i hi) hne.symm) (hheld i hi)

/-- A record of `q` is a copy of a record of `p`, down to the last entry. -/
structure IsCopyOf (p : Pool) (id : RecordId) (q : Pool) (copy : RecordId) : Prop where
  /-- It says the same: name, value and metadata, at every level. -/
  tree_eq : q.tree copy = p.tree id
  /-- All of it is new. -/
  new : ∀ i, q.Holds copy i → p.nextId ≤ i
  /-- Nothing that was there before has a record in common with it. -/
  apart : ∀ x < p.nextId, ∀ i, q.Holds copy i → ¬ q.Holds x i
  /-- The name at the top is not pinned. -/
  unlocked : (q.record copy).locks = 0
  /-- Each entry is in one place. -/
  once : ∀ i, q.Holds copy i → i ≠ copy → (q.record i).locks = 1

/-- **What says the tree of a record is a copy of it.** -/
theorem IsPlanted.isCopyOf {top : RecordId} (h : p.IsPlanted (p.tree id) q top) :
    p.IsCopyOf id q top :=
  ⟨h.tree_eq, h.new, h.apart, h.unlocked, h.once⟩

end Pool
end ConfigKeys
