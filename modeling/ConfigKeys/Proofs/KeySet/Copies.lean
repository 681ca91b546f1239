import ConfigKeys.Plugin.MemoryStore
import ConfigKeys.Proofs.KeySet.Map
import ConfigKeys.Proofs.Pool.Tree

/-!
# Sets of copies

Keys that are copied in order come into the set of copies one behind the other, so the copies stand
in the place of the keys they were made of, and say what those say.

## Main definitions

* `KeySet.Copies` — a set of copies of keys.

## Main results

* `KeySet.copy_copies` — what a set of copies is.
* `KeySet.refresh_copies` — to read kept keys into an empty set is to copy them.
-/

namespace ConfigKeys
namespace KeySet

variable {p q : Pool} {s copies : KeySet} {done : List Key} {k : Key}

/-- From `p` to `q` the keys `done` were copied, in order, and nothing was written. -/
structure Copies (p : Pool) (done : List Key) (q : Pool) (copies : KeySet) : Prop where
  evolves : p.Evolves ∅ ∅ q
  /-- The records that were there are as they were. -/
  kept : ∀ i, i < p.nextId → q.find? i = p.find? i
  /-- The copies are new. -/
  new : ∀ k ∈ copies.toList, p.nextId ≤ k.id ∧ k.id < q.nextId
  names : copies.toList.map q.name = done.map p.name
  /-- They say what the keys say. -/
  trees : (copies.toList.map fun k => q.tree k.id) = done.map fun k => p.tree k.id

namespace Copies

/-- Nothing was copied yet; where the walk of the empty set stands makes no difference. -/
theorem start (p : Pool) (hempty : copies.toList = []) : Copies p [] p copies where
  evolves := .refl _ _ _
  kept _ _ := rfl
  new k hk := absurd (hempty ▸ hk) List.not_mem_nil
  names := by rw [hempty]
  trees := by rw [hempty]

/-- The record of a key that is still to be copied says what it said. -/
theorem record_eq (h : Copies p done q copies) {i : RecordId} (hi : i < p.nextId) :
    q.record i = p.record i := by
  rw [Pool.record, Pool.record, h.kept i hi]

theorem ascending (h : Copies p done q copies) (hasc : p.Ascending done) :
    q.Ascending copies.toList := by
  rw [Pool.Ascending, h.names]
  exact hasc

/-- What was copied before comes before the next key. -/
theorem before (h : Copies p done q copies) (hasc : p.Ascending (done ++ [k])) :
    ∀ x ∈ copies.toList, (q.name x).compare (p.name k) = .lt := by
  intro x hx
  rw [Pool.Ascending, List.map_append] at hasc
  have hmem : q.name x ∈ done.map p.name := by
    rw [← h.names]
    exact List.mem_map_of_mem hx
  exact (List.pairwise_append.mp hasc).2.2 _ hmem _ List.mem_cons_self

/-- **One more key is copied.** -/
theorem step (h : Copies p done q copies) (hp : p.Forward) (hasc : p.Ascending (done ++ [k]))
    (hk : k.id < p.nextId) :
    ∃ copies', copies.append (q.copy k.id) ⟨q.nextId, {}⟩ = ((q.copy k.id).lock q.nextId, copies') ∧
      Copies p (done ++ [k]) ((q.copy k.id).lock q.nextId) copies' := by
  have hq := h.evolves.forward hp
  have hrecord : ∀ i, i < q.nextId → (q.copy k.id).record i = q.record i := fun i hi => by
    rw [Pool.record, Pool.record, Pool.copy, Pool.find?_plant _ i hi]
  have hcopied : (q.copy k.id).Forward := ((Pool.Evolves.refl ∅ ∅ q).copy k.id).forward hq
  have hnames : ∀ x ∈ copies.toList, (q.copy k.id).name x = q.name x :=
    fun x hx => congrArg Record.name (hrecord x.id (h.new x hx).2)
  have htree : (q.copy k.id).tree q.nextId = p.tree k.id := by
    rw [Pool.tree_copy hq]
    exact Pool.tree_congr hp hq (F := { i | i < p.nextId })
      (fun i hi => by rw [h.record_eq hi]; exact ⟨rfl, rfl, rfl⟩)
      (fun i _ e he => (hp.entry he).2) hk
  have hname : (q.copy k.id).name ⟨q.nextId, {}⟩ = p.name k := by
    rw [Pool.name, ← Pool.name_tree, htree, Pool.name_tree]
    rfl
  have hdone := h.ascending (hasc.sublist (List.sublist_append_left _ _))
  -- what was copied before comes before the key, and so before its copy
  obtain ⟨copies', heq, hcopies', -⟩ := append_last (k := ⟨q.nextId, {}⟩) (hdone.congr hnames)
    (fun x hx => by rw [hnames x hx, hname]; exact h.before hasc x hx)
  refine ⟨copies', heq, ?_, ?_, ?_, ?_, ?_⟩
  · exact (h.evolves.copy k.id).lock q.nextId
  · intro i hi
    have hlt : i < q.nextId := Nat.lt_of_lt_of_le hi h.evolves.grows
    rw [Pool.find?_lock, if_neg (Nat.ne_of_lt hlt), Pool.copy, Pool.find?_plant _ i hlt,
      h.kept i hi]
  · have hgrows : q.nextId < (q.copy k.id).nextId := Pool.Evolves.nextId_lt_plant q _
    intro x hx
    rw [Pool.nextId_lock]
    rw [hcopies', List.mem_append, List.mem_singleton] at hx
    rcases hx with hx | rfl
    · exact ⟨(h.new x hx).1, Nat.lt_trans (h.new x hx).2 hgrows⟩
    · exact ⟨h.evolves.grows, hgrows⟩
  · have hlock : ((q.copy k.id).lock q.nextId).name = (q.copy k.id).name :=
      funext fun x => Pool.name_lock _ _ x
    rw [hcopies', hlock, List.map_append, List.map_append, List.map_congr_left hnames, h.names]
    exact congrArg _ (congrArg (fun n => [n]) hname)
  · have hlock : ∀ i, ((q.copy k.id).lock q.nextId).tree i = (q.copy k.id).tree i :=
      fun i => Pool.tree_lock hcopied q.nextId i
    have hbefore : ∀ x ∈ copies.toList, (q.copy k.id).tree x.id = q.tree x.id := by
      intro x hx
      exact Pool.tree_congr hq hcopied (F := { i | i < q.nextId })
        (fun i hi => by rw [hrecord i hi]; exact ⟨rfl, rfl, rfl⟩)
        (fun i _ e he => (hq.entry he).2) (h.new x hx).2
    simp only [hlock]
    rw [hcopies', List.map_append, List.map_append, List.map_congr_left hbefore, h.trees]
    exact congrArg _ (congrArg (fun t => [t]) htree)

/-- The copies have the names of the keys, each of them that of the key it was made of. -/
theorem toMap (h : Copies p s.toList q copies) (hasc : p.Ascending s.toList) :
    (copies.toMap q).keys = (s.toMap p).keys ∧
      ∀ n id id', (s.toMap p).lookup n = some id → (copies.toMap q).lookup n = some id' →
        p.nextId ≤ id' ∧ id' < q.nextId ∧ q.tree id' = p.tree id := by
  have hasc' := h.ascending hasc
  constructor
  · ext n
    rw [Finmap.mem_keys, Finmap.mem_keys, mem_toMap_iff hasc', mem_toMap_iff hasc, h.names]
  · intro n id id' hid hid'
    obtain ⟨k, hk, hname, rfl⟩ := Pool.mem_pairs.mp ((lookup_toMap_iff hasc).mp hid)
    obtain ⟨k', hk', hname', rfl⟩ := Pool.mem_pairs.mp ((lookup_toMap_iff hasc').mp hid')
    refine ⟨(h.new k' hk').1, (h.new k' hk').2, ?_⟩
    obtain ⟨i, hi, rfl⟩ := List.mem_iff_getElem.mp hk
    obtain ⟨j, hj, rfl⟩ := List.mem_iff_getElem.mp hk'
    have hlen : copies.toList.length = s.toList.length := by
      simpa using congrArg List.length h.names
    have hj' : j < s.toList.length := hlen ▸ hj
    have hat : (copies.toList.map q.name)[j]? = (s.toList.map p.name)[j]? :=
      congrArg (·[j]?) h.names
    have htree : (copies.toList.map fun k => q.tree k.id)[j]?
        = (s.toList.map fun k => p.tree k.id)[j]? := congrArg (·[j]?) h.trees
    simp only [List.getElem?_map, List.getElem?_eq_getElem hj, List.getElem?_eq_getElem hj',
      Option.map_some, Option.some.injEq] at hat htree
    -- no two keys have one name, so the copy stands where the key stands
    have hdist : (s.toList.map p.name).Nodup := hasc.distinct
    have hij : j = i := by
      refine (List.getElem?_inj (by rwa [List.length_map]) hdist).mp ?_
      rw [List.getElem?_map, List.getElem?_map, List.getElem?_eq_getElem hj',
        List.getElem?_eq_getElem hi, Option.map_some, Option.map_some, hname, ← hat, hname']
    subst hij
    exact htree

end Copies

/-- The copies of keys that follow those that were copied before. -/
theorem foldl_copies (h : Copies p done q copies) (hp : p.Forward) (rest : List Key)
    (hasc : p.Ascending (done ++ rest)) (hrest : ∀ k ∈ rest, k.id < p.nextId) :
    let after := rest.foldl (fun (q, copies) k => append (q.copy k.id) copies ⟨q.nextId, {}⟩)
      (q, copies)
    Copies p (done ++ rest) after.1 after.2 := by
  induction rest generalizing done q copies with
  | nil =>
    rw [List.append_nil]
    exact h
  | cons k rest ih =>
    rw [List.append_cons] at hasc ⊢
    obtain ⟨copies', heq, hstep⟩ := h.step hp (hasc.sublist (List.sublist_append_left _ _))
      (hrest k List.mem_cons_self)
    simp only [List.foldl_cons, heq]
    exact ih hstep hasc fun k' hk' => hrest k' (List.mem_cons_of_mem k hk')

/-- **A set of copies** has the names of the keys, and says what they say. -/
theorem copy_copies (hp : p.Forward) (hasc : p.Ascending s.toList)
    (hs : ∀ k ∈ s.toList, k.id < p.nextId) : Copies p s.toList (s.copy p).1 (s.copy p).2 :=
  foldl_copies (.start p rfl) hp s.toList hasc hs

/-- Kept keys that are read in order, and come behind all that were read before, are copied. -/
theorem foldl_refresh (h : Copies p done q copies) (hp : p.Forward) (rest : List Key)
    (hasc : p.Ascending (done ++ rest)) (hrest : ∀ k ∈ rest, k.id < p.nextId) (count : Nat) :
    rest.foldl (fun (q, copies, count) k => MemoryStore.refresh q copies count k)
        (q, copies, count)
      = ((rest.foldl (fun (q, copies) k => append (q.copy k.id) copies ⟨q.nextId, {}⟩)
          (q, copies)).1,
        (rest.foldl (fun (q, copies) k => append (q.copy k.id) copies ⟨q.nextId, {}⟩)
          (q, copies)).2, count + rest.length) := by
  induction rest generalizing done q copies count with
  | nil => rfl
  | cons k rest ih =>
    rw [List.append_cons] at hasc
    have hfirst : p.Ascending (done ++ [k]) := hasc.sublist (List.sublist_append_left _ _)
    have hk := hrest k List.mem_cons_self
    -- there is no copy of the name yet, so the key is not one that the caller has already
    have hnone : copies.find? q (q.name k) = none := by
      rw [Option.eq_none_iff_forall_ne_some]
      intro x hx
      obtain ⟨hmem, hname⟩ := (find?_eq_some_iff (h.ascending
        (hfirst.sublist (List.sublist_append_left _ _)))).mp hx
      refine Name.ne_of_compare_lt (h.before hfirst x hmem) (hname.trans ?_)
      rw [Pool.name, h.record_eq hk, Pool.name]
    obtain ⟨copies', heq, hstep⟩ := h.step hp hfirst hk
    have hrefresh : MemoryStore.refresh q copies count k
        = ((q.copy k.id).lock q.nextId, copies', count + 1) := by
      rw [MemoryStore.refresh, hnone]
      simp only [heq]
    simp only [List.foldl_cons, hrefresh, heq]
    rw [ih hstep hasc (fun k' hk' => hrest k' (List.mem_cons_of_mem k hk')) (count + 1),
      List.length_cons, Nat.add_assoc, Nat.add_comm 1]

/-- **To read kept keys into an empty set is to copy them**, and each of them counts. -/
theorem refresh_copies {rest : List Key} (hp : p.Forward) (hempty : copies.toList = [])
    (hasc : p.Ascending rest) (hrest : ∀ k ∈ rest, k.id < p.nextId) :
    ∃ q copies', rest.foldl (fun (q, copies, count) k => MemoryStore.refresh q copies count k)
      (p, copies, 0) = (q, copies', rest.length) ∧ Copies p rest q copies' := by
  refine ⟨_, _, ?_, foldl_copies (.start p hempty) hp rest hasc hrest⟩
  rw [foldl_refresh (.start p hempty) hp rest hasc hrest 0, Nat.zero_add]

end KeySet
end ConfigKeys
