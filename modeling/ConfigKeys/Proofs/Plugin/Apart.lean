import ConfigKeys.Proofs.Plugin.Stored

/-!
# Records apart from what is kept

A write puts copies among the kept keys, and gives up what it replaced.  All that it touches is kept
or new, so that any other record stays exactly what it is: what it says, and how often it is held.

## Main definitions

* `Pool.Spares` — records outside of a set are left alone.

## Main results

* `Pool.Spares.reclaim`, `Pool.Spares.copy`, `Pool.Spares.append` — operations within the set.
* `Pool.Spares.onSet`, `Pool.Spares.onError`, `Pool.Spares.runWrite` — a write, and what takes it
  back.
-/

namespace ConfigKeys
namespace Pool

/-- The records outside of `U` are in `q` what they were in `p`.  Those of `U` hold none outside of
it, and whatever is new is going to be one of them. -/
structure Spares (U : Set RecordId) (p q : Pool) : Prop where
  /-- A record outside is the same, with all its counts. -/
  kept : ∀ id ∉ U, q.find? id = p.find? id
  /-- Metadata does not lead outside. -/
  closed : ∀ id ∈ U, ∀ e ∈ (q.record id).entries, e.id ∈ U
  /-- No number outside is given to a new record. -/
  new : ∀ id, q.nextId ≤ id → id ∈ U

namespace Spares

variable {U : Set RecordId} {p q q' : Pool} {id : RecordId} {s keys store : KeySet} {k : Key}
variable {m : MemoryStore}

theorem refl (hclosed : ∀ id ∈ U, ∀ e ∈ (p.record id).entries, e.id ∈ U)
    (hnew : ∀ id, p.nextId ≤ id → id ∈ U) : p.Spares U p :=
  ⟨fun _ _ => rfl, hclosed, hnew⟩

/-! ### Records -/

/-- A step that drops records of `U`, or changes no more than their counts. -/
theorem shrink (h : p.Spares U q) (hnext : q'.nextId = q.nextId)
    (hkept : ∀ i ∉ U, q'.find? i = q.find? i)
    (hentries : ∀ i r', q'.find? i = some r' → ∃ r, q.find? i = some r ∧ r'.entries = r.entries) :
    p.Spares U q' where
  kept i hi := (hkept i hi).trans (h.kept i hi)
  closed i hi e he := by
    rcases hr' : q'.find? i with _ | r'
    · rw [record_of_find?_none hr'] at he
      cases he
    · obtain ⟨r, hr, heq⟩ := hentries i r' hr'
      refine h.closed i hi e ?_
      rwa [record_of_find? hr, ← heq, ← record_of_find? hr']
  new i hi := h.new i (hnext ▸ hi)

theorem modify {f : Record → Record} (h : p.Spares U q) (hid : id ∈ U)
    (hf : ∀ r, (f r).entries = r.entries) : p.Spares U (q.modify id f) := by
  refine h.shrink (nextId_modify q id f) (fun i hi => ?_) fun i r' hr' => ?_
  · rw [find?_modify, if_neg (ne_of_mem_of_not_mem hid hi).symm]
  · rw [find?_modify] at hr'
    split at hr'
    · obtain ⟨r, hr, rfl⟩ := Option.map_eq_some_iff.mp hr'
      exact ⟨r, hr, hf r⟩
    · exact ⟨r', hr', rfl⟩

theorem lock (h : p.Spares U q) (hid : id ∈ U) : p.Spares U (q.lock id) :=
  h.modify hid fun _ => rfl

theorem unlock (h : p.Spares U q) (hid : id ∈ U) : p.Spares U (q.unlock id) := by
  have hdown : p.Spares U (q.modify id fun r => { r with locks := r.locks - 1 }) :=
    h.modify hid fun _ => rfl
  exact hdown.shrink rfl (fun _ _ => rfl) fun i r' hr' => ⟨r', hr', rfl⟩

theorem erase (h : p.Spares U q) (hid : id ∈ U) : p.Spares U (q.erase id) := by
  refine h.shrink (by simp [nextId, Pool.erase]) (fun i hi => ?_) fun i r' hr' => ?_
  · rw [find?_erase, if_neg (ne_of_mem_of_not_mem hid hi).symm]
  · rw [find?_erase] at hr'
    split at hr'
    · cases hr'
    · exact ⟨r', hr', rfl⟩

theorem reclaimUpTo (fuel : Nat) (h : p.Spares U q) (hid : id ∈ U) :
    p.Spares U (Pool.reclaimUpTo fuel id q) := by
  induction fuel generalizing id q with
  | zero => exact h
  | succ fuel ih =>
    rw [Pool.reclaimUpTo]
    rcases hr : q.find? id with _ | r
    · exact h
    · show p.Spares U (if r.isFree then _ else q)
      split
      · -- the record goes, and its entries, which belong to `U` with it
        refine List.foldlRecOn (motive := fun q : Pool => p.Spares U q) r.entries _
          (h.erase hid) ?_
        intro q' hq' e he
        have hentry : e.id ∈ U := h.closed id hid e (by rwa [record_of_find? hr])
        exact ih (hq'.unlock hentry) hentry
      · exact h

/-- **What is given up takes nothing outside with it.** -/
theorem reclaim (h : p.Spares U q) (hid : id ∈ U) : p.Spares U (q.reclaim id) :=
  h.reclaimUpTo q.nextId hid

theorem release (h : p.Spares U q) (hid : id ∈ U) : p.Spares U (q.release id) := by
  have hdown : p.Spares U (q.forget id) := h.modify hid fun _ => rfl
  exact hdown.reclaim hid

theorem detach (h : p.Spares U q) (hid : id ∈ U) : p.Spares U (q.detach id) :=
  (h.unlock hid).reclaim hid

theorem drop (h : p.Spares U q) (hs : ∀ x ∈ s.toList, x.id ∈ U) : p.Spares U (s.drop q) :=
  List.foldlRecOn (motive := fun q : Pool => p.Spares U q) s.toList _ h
    fun _ hq x hx => hq.detach (hs x hx)

/-- **A copy is new.** -/
theorem copy (h : p.Spares U q) (id : RecordId) : p.Spares U (q.copy id) := by
  have hev := (Evolves.refl ∅ ∅ q).copy id
  have hold : ∀ i, i < q.nextId → (q.copy id).find? i = q.find? i := fun i hi =>
    find?_plant (q.tree id) i hi
  refine ⟨fun i hi => ?_, fun i hi e he => ?_, fun i hi => h.new i (Nat.le_trans hev.grows hi)⟩
  · have hlt : i < q.nextId := Nat.lt_of_not_le fun hle => hi (h.new i hle)
    rw [hold i hlt, h.kept i hi]
  · rcases Nat.lt_or_ge i q.nextId with hlt | hge
    · rw [Pool.record, hold i hlt] at he
      exact h.closed i hi e he
    · exact h.new e.id (Nat.le_trans hge (Nat.le_of_lt (hev.entry_new hge he)))

/-! ### Key sets -/

theorem append (h : p.Spares U q) (hk : k.id ∈ U) (hs : ∀ x ∈ s.toList, x.id ∈ U) :
    p.Spares U (s.append q k).1 := by
  rw [KeySet.append]
  split
  · next old hfind =>
    split
    · exact h
    · exact (h.lock hk).detach (hs old (KeySet.mem_of_find? hfind))
  · exact h.lock hk

theorem appendAll {list : List Key} (h : p.Spares U q) (hlist : ∀ x ∈ list, x.id ∈ U)
    (hs : ∀ x ∈ s.toList, x.id ∈ U) : p.Spares U (s.appendAll q list).1 := by
  induction list generalizing q s with
  | nil => exact h
  | cons k list ih =>
    have hk := hlist k List.mem_cons_self
    refine ih (h.append hk hs) (fun x hx => hlist x (List.mem_cons_of_mem k hx)) fun x hx => ?_
    rcases KeySet.mem_append hx with rfl | hx
    · exact hk
    · exact hs x hx

theorem copySet (h : p.Spares U q) (s : KeySet) :
    p.Spares U (s.copy q).1 ∧ ∀ x ∈ (s.copy q).2.toList, x.id ∈ U := by
  refine List.foldlRecOn (motive := fun done : Pool × KeySet =>
    p.Spares U done.1 ∧ ∀ x ∈ done.2.toList, x.id ∈ U) s.toList _
    ⟨h, fun x hx => absurd hx List.not_mem_nil⟩ ?_
  rintro done ⟨hdone, hcopies⟩ k -
  have hnew : done.1.nextId ∈ U := hdone.new _ (Nat.le_refl _)
  refine ⟨(hdone.copy k.id).append hnew hcopies, fun x hx => ?_⟩
  rcases KeySet.mem_append hx with rfl | hx
  · exact hnew
  · exact hcopies x hx

/-! ### Stages of a memory store -/

theorem takeSnapshot (h : p.Spares U q) (parent : Key) (keys : KeySet) :
    p.Spares U (Snapshot.take q parent keys).1 :=
  (h.copy parent.id).modify (h.new _ (Nat.le_refl _)) fun _ => rfl

theorem dropOneSnapshot {sn : Snapshot} (h : p.Spares U q) (hsn : ∀ i ∈ sn.ids, i ∈ U) :
    p.Spares U (sn.drop q) :=
  (h.release (hsn _ sn.parent_mem_ids)).drop fun _ hx => hsn _ (sn.mem_ids_of_key hx)

theorem dropSnapshot (h : p.Spares U q)
    (hm : ∀ sn, m.snapshot = some sn → ∀ i ∈ sn.ids, i ∈ U) : p.Spares U (m.dropSnapshot q) := by
  rw [MemoryStore.dropSnapshot]
  rcases hsn : m.snapshot with _ | sn
  · exact h
  · exact h.dropOneSnapshot (hm sn hsn)

/-- **A write works on what is kept**, and on copies. -/
theorem onSet {parent : Key} (h : p.Spares U p) (hopen : m.isOpen = true)
    (hwrite : m.readonly = false) (hstore : ∀ x ∈ store.toList, x.id ∈ U)
    (hm : ∀ sn, m.snapshot = some sn → ∀ i ∈ sn.ids, i ∈ U) :
    p.Spares U (m.onSet p store keys parent).pool := by
  rw [Balanced.onSet_eq hopen hwrite]
  obtain ⟨hcopied, hcopies⟩ := h.copySet { keys := keys.subtree p (p.name parent) }
  refine (((hcopied.appendAll hcopies fun x hx => ?_).takeSnapshot parent _).dropSnapshot hm).drop
    hcopies
  exact hstore x (KeySet.mem_cut (.inr hx))

/-- **To take a write back works on what is kept**, and on what was replaced. -/
theorem onError {sn : Snapshot} (h : p.Spares U p) (hsnapshot : m.snapshot = some sn)
    (hstore : ∀ x ∈ store.toList, x.id ∈ U) (hsn : ∀ i ∈ sn.ids, i ∈ U) :
    p.Spares U (m.onError p store keys).pool := by
  rw [Balanced.onError_eq hsnapshot]
  have hkeys : ∀ x ∈ sn.keys.toList, x.id ∈ U := fun x hx => hsn _ (sn.mem_ids_of_key hx)
  refine ((h.appendAll hkeys fun x hx => ?_).drop fun x hx => ?_).dropOneSnapshot hsn
  · exact hstore x (KeySet.mem_cut (.inr hx))
  · exact hstore x (KeySet.mem_cut (.inl hx))

/-- **A write that is not refused, and what takes one back**, work on what is kept and
remembered. -/
theorem runWrite {stage : Stage} (h : p.Spares U p) (hstage : stage = .set ∨ stage = .error)
    (hstatus : (m.run stage p store keys k).status ≠ .error)
    (hstore : ∀ x ∈ store.toList, x.id ∈ U)
    (hm : ∀ sn, m.snapshot = some sn → ∀ i ∈ sn.ids, i ∈ U) :
    p.Spares U (m.run stage p store keys k).pool := by
  rcases hstage with rfl | rfl
  · rcases hopen : m.isOpen with _ | _
    · refine absurd ?_ hstatus
      simp [MemoryStore.run, MemoryStore.onSet, MemoryStore.fail, hopen]
    · rcases hreadonly : m.readonly with _ | _
      · exact h.onSet hopen hreadonly hstore hm
      · refine absurd ?_ hstatus
        simp [MemoryStore.run, MemoryStore.onSet, MemoryStore.fail, hopen, hreadonly]
  · rcases hsn : m.snapshot with _ | sn
    · simpa only [MemoryStore.run, MemoryStore.onError, hsn] using h
    · exact h.onError hsn hstore (hm sn hsn)

end Spares
end Pool
end ConfigKeys
