import ConfigKeys.Proofs.Name.Order
import ConfigKeys.Proofs.Pool.Records

/-!
# Counts that balance

A record counts the places in containers and the handles that hold it.  A pool *balances* with what
is outside of it when every such count is right.  Outside there are key sets and registries,
handles, and single places on their way: counted, but taken out of one container and not yet put
into another, or about to be given up.  A record that is neither in a container nor held by a handle
is there only on sufferance, while an operation is still at work on it.

Every operation takes a pool that balances to a pool that balances, and it may be asked to do so
beside any number of other containers, whose order it keeps because they pin the names of their
keys.

## Main definitions

* `Pool.Ascending`, `Pool.Distinct` — what key sets and registries keep to.
* `Pool.Balanced` — the counts of a pool balance.

## Main results

* `Pool.Balanced.of_keeps` — a change that keeps the names of locked records keeps the containers.
* `Pool.Balanced.regroup` — places may move between containers.
* `Pool.Balanced.lock`, `Pool.Balanced.unlock`, `Pool.Balanced.retain`, `Pool.Balanced.forget`,
  `Pool.Balanced.erase`, `Pool.Balanced.alloc` — the changes of counts.
-/

namespace ConfigKeys
namespace Pool

/-- Keys in the strict order of their names. -/
def Ascending (p : Pool) (keys : List Key) : Prop :=
  (keys.map p.name).Pairwise fun a b => a.compare b = .lt

/-- Keys of different names. -/
def Distinct (p : Pool) (keys : List Key) : Prop := (keys.map p.name).Nodup

theorem Ascending.congr {p p' : Pool} {keys : List Key} (h : p.Ascending keys)
    (hname : ∀ k ∈ keys, p'.name k = p.name k) : p'.Ascending keys := by
  rw [Ascending, List.map_congr_left hname]
  exact h

theorem Distinct.congr {p p' : Pool} {keys : List Key} (h : p.Distinct keys)
    (hname : ∀ k ∈ keys, p'.name k = p.name k) : p'.Distinct keys := by
  rw [Distinct, List.map_congr_left hname]
  exact h

/-- Keys of different names are of different records. -/
theorem Distinct.nodup_ids {p : Pool} {keys : List Key} (h : p.Distinct keys) :
    (keys.map Key.id).Nodup := by
  have hnames : keys.map p.name = (keys.map Key.id).map fun id => (p.record id).name := by
    rw [List.map_map]
    rfl
  rw [Distinct, hnames] at h
  exact h.of_map

/-- Keys in strict order have different names. -/
theorem Ascending.distinct {p : Pool} {keys : List Key} (h : p.Ascending keys) :
    p.Distinct keys :=
  h.imp Name.ne_of_compare_lt

theorem Ascending.sublist {p : Pool} {keys keys' : List Key} (h : p.Ascending keys)
    (hsub : keys'.Sublist keys) : p.Ascending keys' :=
  List.Pairwise.sublist (hsub.map p.name) h

/-- The numbers that key sets, registries and places on their way hold, one for each place. -/
def placeIds (S R : List (List Key)) (P : List RecordId) : List RecordId :=
  S.flatten.map Key.id ++ R.flatten.map Key.id ++ P

theorem mem_placeIds_of_set {S R : List (List Key)} {P : List RecordId} {keys : List Key} {k : Key}
    (hkeys : keys ∈ S) (hk : k ∈ keys) : k.id ∈ placeIds S R P := by
  simp only [placeIds, List.mem_append, List.mem_map, List.mem_flatten]
  exact .inl (.inl ⟨k, ⟨keys, hkeys, hk⟩, rfl⟩)

theorem mem_placeIds_of_registry {S R : List (List Key)} {P : List RecordId} {keys : List Key}
    {k : Key} (hkeys : keys ∈ R) (hk : k ∈ keys) : k.id ∈ placeIds S R P := by
  simp only [placeIds, List.mem_append, List.mem_map, List.mem_flatten]
  exact .inl (.inr ⟨k, ⟨keys, hkeys, hk⟩, rfl⟩)

/-- The counts of a pool balance with key sets `S`, registries `R`, places `P` on their way and
handles `H`; the records in `L` need not be held. -/
structure Balanced (p : Pool) (S R : List (List Key)) (P H L : List RecordId) : Prop where
  /-- A lock is a place outside, or one in the metadata of a record that is there. -/
  locks : ∀ id, (p.record id).locks = (placeIds S R P).count id + p.entryIds.count id
  /-- Every handle is counted. -/
  handles : ∀ id, (p.record id).handles = H.count id
  /-- Key sets are in order. -/
  ascending : ∀ keys ∈ S, p.Ascending keys
  /-- Registries hold keys of different names. -/
  distinct : ∀ keys ∈ R, p.Distinct keys
  /-- So does the metadata of every record. -/
  entries : ∀ r ∈ p.live, p.Distinct r.entries
  /-- A record that nobody holds is one of `L`. -/
  held : ∀ id r, p.find? id = some r → r.isFree = true → id ∈ L
  /-- No place was given up that was not counted. -/
  settled : p.overdrafts = 0

namespace Balanced

/-- Nobody holds anything in a pool without records. -/
theorem empty : ({} : Pool).Balanced [] [] [] [] [] where
  locks _ := rfl
  handles _ := rfl
  ascending _ hkeys := absurd hkeys List.not_mem_nil
  distinct _ hkeys := absurd hkeys List.not_mem_nil
  entries _ hr := absurd hr List.not_mem_nil
  held id r hr _ := by simp [find?] at hr
  settled := rfl

variable {p p' : Pool} {S S' R R' : List (List Key)} {P P' H H' L L' : List RecordId}
variable {id : RecordId} {keys : List Key} {k : Key}

/-! ### What is held is there -/

theorem locked_of_mem_placeIds (h : p.Balanced S R P H L) (hid : id ∈ placeIds S R P) :
    0 < (p.record id).locks := by
  have hpos := List.count_pos_iff.mpr hid
  rw [h.locks id]
  omega

theorem locked_of_mem_set (h : p.Balanced S R P H L) (hkeys : keys ∈ S) (hk : k ∈ keys) :
    0 < (p.record k.id).locks :=
  h.locked_of_mem_placeIds (mem_placeIds_of_set hkeys hk)

theorem locked_of_mem_registry (h : p.Balanced S R P H L) (hkeys : keys ∈ R) (hk : k ∈ keys) :
    0 < (p.record k.id).locks :=
  h.locked_of_mem_placeIds (mem_placeIds_of_registry hkeys hk)

theorem locked_of_mem_entries (h : p.Balanced S R P H L) {r : Record} (hr : r ∈ p.live)
    (hk : k ∈ r.entries) : 0 < (p.record k.id).locks := by
  have hmem : k.id ∈ p.entryIds :=
    List.mem_flatMap.mpr ⟨r, hr, List.mem_map.mpr ⟨k, hk, rfl⟩⟩
  have hpos := List.count_pos_iff.mpr hmem
  rw [h.locks k.id]
  omega

theorem exists_of_locked (hlocks : 0 < (p.record id).locks) :
    ∃ r, p.find? id = some r ∧ 0 < r.locks := by
  rcases hf : p.find? id with _ | r
  · rw [record_of_find?_none hf] at hlocks
    exact absurd hlocks (Nat.lt_irrefl 0)
  · rw [record_of_find? hf] at hlocks
    exact ⟨r, rfl, hlocks⟩

theorem exists_of_mem_set (h : p.Balanced S R P H L) (hkeys : keys ∈ S) (hk : k ∈ keys) :
    ∃ r, p.find? k.id = some r := by
  obtain ⟨r, hr, -⟩ := exists_of_locked (h.locked_of_mem_set hkeys hk)
  exact ⟨r, hr⟩

theorem exists_of_mem_registry (h : p.Balanced S R P H L) (hkeys : keys ∈ R) (hk : k ∈ keys) :
    ∃ r, p.find? k.id = some r := by
  obtain ⟨r, hr, -⟩ := exists_of_locked (h.locked_of_mem_registry hkeys hk)
  exact ⟨r, hr⟩

theorem exists_of_mem_entries (h : p.Balanced S R P H L) {r : Record} (hr : r ∈ p.live)
    (hk : k ∈ r.entries) : ∃ e, p.find? k.id = some e := by
  obtain ⟨e, he, -⟩ := exists_of_locked (h.locked_of_mem_entries hr hk)
  exact ⟨e, he⟩

theorem exists_of_handle (h : p.Balanced S R P H L) (hid : id ∈ H) :
    ∃ r, p.find? id = some r ∧ 0 < r.handles := by
  have hpos := List.count_pos_iff.mpr hid
  rw [← h.handles id] at hpos
  rcases hf : p.find? id with _ | r
  · rw [record_of_find?_none hf] at hpos
    exact absurd hpos (Nat.lt_irrefl 0)
  · rw [record_of_find? hf] at hpos
    exact ⟨r, rfl, hpos⟩

/-- What is held outside is there. -/
theorem exists_of_held (h : p.Balanced S R P H L) (hid : id ∈ placeIds S R P ++ H) :
    ∃ r, p.find? id = some r ∧ r.isFree = false := by
  rcases List.mem_append.mp hid with hid | hid
  · obtain ⟨r, hr, hpos⟩ := exists_of_locked (h.locked_of_mem_placeIds hid)
    exact ⟨r, hr, by simp [Record.isFree]; omega⟩
  · obtain ⟨r, hr, hpos⟩ := h.exists_of_handle hid
    exact ⟨r, hr, by simp [Record.isFree]; omega⟩

/-- What is held elsewhere is there, whatever else a set holds. -/
theorem exists_of_held_cons (h : p.Balanced (keys :: S) R P H L)
    (hid : id ∈ placeIds S R P ++ H) : ∃ r, p.find? id = some r := by
  have hin : id ∈ placeIds (keys :: S) R P ++ H := by
    simp only [placeIds, List.flatten_cons, List.map_append, List.mem_append] at hid ⊢
    tauto
  obtain ⟨r, hr, -⟩ := h.exists_of_held hin
  exact ⟨r, hr⟩

/-! ### Containers are kept -/

/-- **A change that keeps the names of locked records keeps the containers**, so that only the
counts remain to be settled. -/
theorem of_keeps (h : p.Balanced S R P H L)
    (hname : ∀ k, 0 < (p.record k.id).locks → p'.name k = p.name k)
    (hentries : ∀ r' ∈ p'.live, (∃ r ∈ p.live, r'.entries = r.entries) ∨ p'.Distinct r'.entries)
    (hlocks : ∀ id, (p'.record id).locks = (placeIds S R P').count id + p'.entryIds.count id)
    (hhandles : ∀ id, (p'.record id).handles = H'.count id)
    (hheld : ∀ id r, p'.find? id = some r → r.isFree = true → id ∈ L')
    (hsettled : p'.overdrafts = 0) : p'.Balanced S R P' H' L' where
  locks := hlocks
  handles := hhandles
  ascending keys hkeys := by
    -- a key set pins the names of its keys, so the change has kept them
    refine (h.ascending keys hkeys).congr ?_
    intro k hk
    exact hname k (h.locked_of_mem_set hkeys hk)
  distinct keys hkeys := by
    refine (h.distinct keys hkeys).congr ?_
    intro k hk
    exact hname k (h.locked_of_mem_registry hkeys hk)
  entries r' hr' := by
    rcases hentries r' hr' with ⟨r, hr, heq⟩ | hd
    · rw [heq]
      refine (h.entries r hr).congr ?_
      intro k hk
      exact hname k (h.locked_of_mem_entries hr hk)
    · exact hd
  held := hheld
  settled := hsettled

/-- **Places may move between containers**, as long as these are fit. -/
theorem regroup (h : p.Balanced S R P H L)
    (hplaces : (placeIds S' R' P').Perm (placeIds S R P))
    (hasc : ∀ keys ∈ S', p.Ascending keys) (hdist : ∀ keys ∈ R', p.Distinct keys) :
    p.Balanced S' R' P' H L where
  locks id := by rw [hplaces.count_eq id]; exact h.locks id
  handles := h.handles
  ascending := hasc
  distinct := hdist
  entries := h.entries
  held := h.held
  settled := h.settled

/-- Which records need not be held is told by those that are not. -/
theorem of_held (h : p.Balanced S R P H L)
    (hheld : ∀ id r, p.find? id = some r → r.isFree = true → id ∈ L') :
    p.Balanced S R P H L' where
  locks := h.locks
  handles := h.handles
  ascending := h.ascending
  distinct := h.distinct
  entries := h.entries
  held := hheld
  settled := h.settled

theorem weaken (h : p.Balanced S R P H L) (hL : ∀ id ∈ L, id ∈ L') : p.Balanced S R P H L' :=
  h.of_held fun id r hr hfree => hL id (h.held id r hr hfree)

/-- A record that is gone, or held after all, need not be listed. -/
theorem unlist (h : p.Balanced S R P H (id :: L))
    (hid : ∀ r, p.find? id = some r → r.isFree = false) : p.Balanced S R P H L := by
  refine h.of_held ?_
  intro i r hr hfree
  rcases List.mem_cons.mp (h.held i r hr hfree) with rfl | hmem
  · simp [hid r hr] at hfree
  · exact hmem

theorem perm_handles (h : p.Balanced S R P H L) (hH : H'.Perm H) : p.Balanced S R P H' L where
  locks := h.locks
  handles id := by rw [hH.count_eq id]; exact h.handles id
  ascending := h.ascending
  distinct := h.distinct
  entries := h.entries
  held := h.held
  settled := h.settled

theorem perm_sets (h : p.Balanced S R P H L) (hS : S'.Perm S) : p.Balanced S' R P H L := by
  refine h.regroup ?_ (fun keys hkeys => h.ascending keys (hS.mem_iff.mp hkeys)) h.distinct
  exact ((hS.flatten.map Key.id).append_right _).append_right _

theorem perm_registries (h : p.Balanced S R P H L) (hR : R'.Perm R) : p.Balanced S R' P H L := by
  refine h.regroup ?_ h.ascending (fun keys hkeys => h.distinct keys (hR.mem_iff.mp hkeys))
  exact ((hR.flatten.map Key.id).append_left _).append_right _

/-! ### The changes of counts -/

/-- What is locked is another record than one that is not. -/
theorem ne_of_locked (hzero : (p.record id).locks = 0) (hk : 0 < (p.record k.id).locks) :
    k.id ≠ id := by
  rintro rfl
  rw [hzero] at hk
  exact absurd hk (Nat.lt_irrefl 0)

theorem mem_live_modify_entries {f : Record → Record} (hf : ∀ r, (f r).entries = r.entries)
    {r' : Record} (hr' : r' ∈ (p.modify id f).live) : ∃ r ∈ p.live, r'.entries = r.entries := by
  rcases mem_live_modify hr' with hmem | ⟨r, hr, rfl⟩
  · exact ⟨r', hmem, rfl⟩
  · exact ⟨r, mem_live.mpr ⟨id, hr⟩, hf r⟩

/-- A change of one record that leaves its name and metadata alone balances if its own counts do. -/
theorem recount {f : Record → Record} {r : Record} (h : p.Balanced S R P H L)
    (hr : p.find? id = some r) (hname : ∀ r, (f r).name = r.name)
    (hentries : ∀ r, (f r).entries = r.entries)
    (hlocks : (f r).locks + P.count id = r.locks + P'.count id)
    (hP : ∀ i, i ≠ id → P'.count i = P.count i)
    (hhandles : (f r).handles = H'.count id) (hH : ∀ i, i ≠ id → H'.count i = H.count i)
    (hheld : (f r).isFree = true → id ∈ L') (hL : ∀ i ∈ L, i ≠ id → i ∈ L') :
    (p.modify id f).Balanced S R P' H' L' := by
  refine h.of_keeps (fun k _ => name_modify_of_keeps hname k)
    (fun r' hr' => .inl (mem_live_modify_entries hentries hr')) ?_ ?_ ?_ h.settled
  · intro i
    -- the places in metadata are what they were, so the places on their way have to make it up
    have hold := h.locks i
    rw [(entryIds_modify_of_keeps hentries).count_eq i]
    simp only [placeIds, List.count_append] at hold ⊢
    by_cases hi : i = id
    · subst hi
      rw [record_of_find? hr] at hold
      rw [record_modify_self f hr]
      omega
    · rw [record_modify_of_ne f hi, hP i hi]
      exact hold
  · intro i
    by_cases hi : i = id
    · subst hi
      rw [record_modify_self f hr, hhandles]
    · rw [record_modify_of_ne f hi, hH i hi]
      exact h.handles i
  · intro i r' hr' hfree
    by_cases hi : i = id
    · subst hi
      obtain rfl : f r = r' := by simpa [hr] using hr'
      exact hheld hfree
    · rw [find?_modify, if_neg hi] at hr'
      exact hL i (h.held i r' hr' hfree) hi

/-- A record that is put into a container need not be held otherwise. -/
theorem lock_new {r : Record} (h : p.Balanced S R P H (id :: L)) (hr : p.find? id = some r) :
    (p.lock id).Balanced S R (id :: P) H L := by
  have hhandles := h.handles id
  rw [record_of_find? hr] at hhandles
  refine h.recount hr (fun _ => rfl) (fun _ => rfl) ?_ ?_ hhandles (fun _ _ => rfl) ?_ ?_
  · simp only [List.count_cons_self]
    omega
  · intro i hi
    exact List.count_cons_of_ne hi.symm
  · simp [Record.isFree]
  · intro i hmem hi
    exact (List.mem_cons.mp hmem).resolve_left hi

theorem lock {r : Record} (h : p.Balanced S R P H L) (hr : p.find? id = some r) :
    (p.lock id).Balanced S R (id :: P) H L :=
  (h.weaken fun _ hi => List.mem_cons_of_mem id hi).lock_new hr

/-- A place that is given up may be the last hold on its record. -/
theorem unlock (h : p.Balanced S R (id :: P) H L) : (p.unlock id).Balanced S R P H (id :: L) := by
  have hlocked : 0 < (p.record id).locks := h.locked_of_mem_placeIds (by simp [placeIds])
  obtain ⟨r, hr, hpos⟩ := exists_of_locked hlocked
  have hhandles := h.handles id
  rw [record_of_find? hr] at hhandles
  -- the place was counted, so giving it up overdraws nothing
  rw [unlock_of_locked hlocked]
  refine h.recount hr (fun _ => rfl) (fun _ => rfl) ?_ ?_ hhandles (fun _ _ => rfl) ?_ ?_
  · simp only [List.count_cons_self]
    omega
  · intro i hi
    exact (List.count_cons_of_ne hi.symm).symm
  · intro _
    exact List.mem_cons_self
  · intro i hmem _
    exact List.mem_cons_of_mem id hmem

/-- A record that is given a handle need not be held otherwise. -/
theorem retain {r : Record} (h : p.Balanced S R P H (id :: L)) (hr : p.find? id = some r) :
    (p.retain id).Balanced S R P (id :: H) L := by
  have hhandles := h.handles id
  rw [record_of_find? hr] at hhandles
  refine h.recount hr (fun _ => rfl) (fun _ => rfl) rfl (fun _ _ => rfl) ?_ ?_ ?_ ?_
  · rw [List.count_cons_self, ← hhandles]
  · intro i hi
    exact List.count_cons_of_ne hi.symm
  · simp [Record.isFree]
  · intro i hmem hi
    exact (List.mem_cons.mp hmem).resolve_left hi

/-- A handle that is given up may be the last hold on its record. -/
theorem forget (h : p.Balanced S R P (id :: H) L) : (p.forget id).Balanced S R P H (id :: L) := by
  obtain ⟨r, hr, hpos⟩ := h.exists_of_handle List.mem_cons_self
  have hhandles := h.handles id
  rw [record_of_find? hr, List.count_cons_self] at hhandles
  refine h.recount hr (fun _ => rfl) (fun _ => rfl) rfl (fun _ _ => rfl) ?_ ?_ ?_ ?_
  · show r.handles - 1 = _
    omega
  · intro i hi
    exact (List.count_cons_of_ne hi.symm).symm
  · intro _
    exact List.mem_cons_self
  · intro i hmem _
    exact List.mem_cons_of_mem id hmem

/-- A change that leaves the counts of a record alone leaves all counts alone. -/
theorem counts_modify (p : Pool) (id : RecordId) {f : Record → Record}
    (hf : ∀ r, (f r).locks = r.locks ∧ (f r).handles = r.handles) (i : RecordId) :
    ((p.modify id f).record i).locks = (p.record i).locks ∧
      ((p.modify id f).record i).handles = (p.record i).handles := by
  rcases hr : p.find? id with _ | r
  · rw [modify_of_find?_none f hr]
    exact ⟨rfl, rfl⟩
  · by_cases hi : i = id
    · subst hi
      rw [record_modify_self f hr, record_of_find? hr]
      exact hf r
    · rw [record_modify_of_ne f hi]
      exact ⟨rfl, rfl⟩

/-- So it makes no record one that nobody holds. -/
theorem held_modify {f : Record → Record} {r : Record} {i : RecordId} (h : p.Balanced S R P H L)
    (hf : ∀ r, (f r).locks = r.locks ∧ (f r).handles = r.handles)
    (hr : (p.modify id f).find? i = some r) (hfree : r.isFree = true) : i ∈ L := by
  rw [find?_modify] at hr
  split at hr
  · next hi =>
    subst hi
    obtain ⟨old, hold, rfl⟩ := Option.map_eq_some_iff.mp hr
    rw [Record.isFree, (hf old).1, (hf old).2] at hfree
    exact h.held i old hold hfree
  · exact h.held i r hr hfree

theorem setValue {v : Value} (h : p.Balanced S R P H L) :
    (p.modify id fun r => { r with value := v }).Balanced S R P H L := by
  rcases hr : p.find? id with _ | r
  · rw [modify_of_find?_none _ hr]
    exact h
  · have hhandles := h.handles id
    rw [record_of_find? hr] at hhandles
    exact h.recount hr (fun _ => rfl) (fun _ => rfl) rfl (fun _ _ => rfl) hhandles
      (fun _ _ => rfl) (h.held id r hr) (fun _ hmem _ => hmem)

/-- Changing the metadata of a record, where what comes in was on its way and what goes out is. -/
theorem setEntries {f : Record → Record} {r : Record} (h : p.Balanced S R P H L)
    (hr : p.find? id = some r) (hf : ∀ r, f r = { r with entries := (f r).entries })
    (hdistinct : p.Distinct (f r).entries)
    (hplaces : ((f r).entries.map Key.id ++ P').Perm (r.entries.map Key.id ++ P)) :
    (p.modify id f).Balanced S R P' H L := by
  have hname : ∀ r, (f r).name = r.name := fun r => by rw [hf r]
  have hcounts : ∀ r, (f r).locks = r.locks ∧ (f r).handles = r.handles := by
    intro r
    rw [hf r]
    exact ⟨rfl, rfl⟩
  refine h.of_keeps (fun k _ => name_modify_of_keeps hname k) ?_ ?_ ?_ ?_ h.settled
  · intro r' hr'
    rcases mem_live_modify hr' with hmem | ⟨r₀, hr₀, rfl⟩
    · exact .inl ⟨r', hmem, rfl⟩
    · obtain rfl : r = r₀ := by simpa [hr] using hr₀
      exact .inr (hdistinct.congr fun k _ => name_modify_of_keeps hname k)
  · intro i
    have hold := h.locks i
    have hcount := hplaces.count_eq i
    -- the metadata of this record is set apart from that of the others, before and after
    rw [(counts_modify p id hcounts i).1, (entryIds_modify_perm hr f).count_eq i]
    rw [(entryIds_perm_erase hr).count_eq i] at hold
    simp only [placeIds, List.count_append] at hold hcount ⊢
    omega
  · intro i
    rw [(counts_modify p id hcounts i).2]
    exact h.handles i
  · intro i r' hr' hfree
    exact h.held_modify hcounts hr' hfree

/-- A record that nobody holds goes; what its metadata held is on its way. -/
theorem erase {r : Record} (h : p.Balanced S R P H (id :: L)) (hr : p.find? id = some r)
    (hfree : r.isFree = true) :
    (p.erase id).Balanced S R (r.entries.map Key.id ++ P) H L := by
  obtain ⟨hzero, hnone⟩ : r.locks = 0 ∧ r.handles = 0 := by simpa [Record.isFree] using hfree
  refine h.of_keeps ?_ ?_ ?_ ?_ ?_ h.settled
  · intro k hk
    rw [← record_of_find? hr] at hzero
    rw [name, name, record_erase_of_ne (ne_of_locked hzero hk)]
  · intro r' hr'
    obtain ⟨i, hi⟩ := mem_live.mp hr'
    rw [find?_erase] at hi
    split at hi
    · exact absurd hi (by simp)
    · exact .inl ⟨r', mem_live.mpr ⟨i, hi⟩, rfl⟩
  · intro i
    have hold := h.locks i
    rw [(entryIds_perm_erase hr).count_eq i] at hold
    simp only [placeIds, List.count_append] at hold ⊢
    by_cases hi : i = id
    · -- no place is left anywhere that holds the record, nor does its own metadata
      subst hi
      rw [record_of_find? hr, hzero] at hold
      rw [record_erase_self]
      show 0 = _
      omega
    · rw [record_erase_of_ne hi]
      omega
  · intro i
    by_cases hi : i = id
    · subst hi
      rw [record_erase_self, ← h.handles i, record_of_find? hr, hnone]
      rfl
    · rw [record_erase_of_ne hi]
      exact h.handles i
  · intro i r' hr' hfree'
    rw [find?_erase] at hr'
    split at hr'
    · exact absurd hr' (by simp)
    · next hi => exact (List.mem_cons.mp (h.held i r' hr' hfree')).resolve_left hi

/-- A new record without metadata is there before anybody holds it. -/
theorem alloc {r : Record} (h : p.Balanced S R P H L) (hfree : r.isFree = true)
    (hentries : r.entries = []) : (p.alloc r).Balanced S R P H (p.nextId :: L) := by
  obtain ⟨hzero, hnone⟩ : r.locks = 0 ∧ r.handles = 0 := by simpa [Record.isFree] using hfree
  have hnew : p.record p.nextId = default := record_of_find?_none (find?_nextId p)
  refine h.of_keeps ?_ ?_ ?_ ?_ ?_ h.settled
  · intro k hk
    have hunused : (p.record p.nextId).locks = 0 := by
      rw [hnew]
      rfl
    rw [name, name, record_alloc_of_ne r (ne_of_locked hunused hk)]
  · intro r' hr'
    rw [live_alloc, List.mem_append, List.mem_singleton] at hr'
    rcases hr' with hmem | rfl
    · exact .inl ⟨r', hmem, rfl⟩
    · right
      rw [hentries]
      exact List.nodup_nil
  · intro i
    have hold := h.locks i
    rw [entryIds_alloc, hentries, List.map_nil, List.append_nil, ← hold]
    by_cases hi : i = p.nextId
    · rw [hi, record_alloc_self, hnew, hzero]
      rfl
    · rw [record_alloc_of_ne r hi]
  · intro i
    rw [← h.handles i]
    by_cases hi : i = p.nextId
    · rw [hi, record_alloc_self, hnew, hnone]
      rfl
    · rw [record_alloc_of_ne r hi]
  · intro i r' hr' hfree'
    rw [find?_alloc] at hr'
    split at hr'
    · next hi => exact hi ▸ List.mem_cons_self
    · exact List.mem_cons_of_mem _ (h.held i r' hr' hfree')

/-- A record in no container may change its name. -/
theorem rename {n : Name} (h : p.Balanced S R P H L) (hlocks : (p.record id).locks = 0) :
    (p.modify id fun r => { r with name := n }).Balanced S R P H L := by
  have hcounts : ∀ r : Record, { r with name := n }.locks = r.locks ∧
      { r with name := n }.handles = r.handles := fun _ => ⟨rfl, rfl⟩
  have hids : (p.modify id fun r => { r with name := n }).entryIds.Perm p.entryIds :=
    entryIds_modify_of_keeps fun _ => rfl
  refine h.of_keeps ?_ ?_ ?_ ?_ ?_ h.settled
  · intro k hk
    rw [name, name, record_modify_of_ne _ (ne_of_locked hlocks hk)]
  · intro r' hr'
    exact .inl (mem_live_modify_entries (f := fun r => { r with name := n }) (fun _ => rfl) hr')
  · intro i
    rw [(counts_modify p id hcounts i).1, hids.count_eq i]
    exact h.locks i
  · intro i
    rw [(counts_modify p id hcounts i).2]
    exact h.handles i
  · intro i r hr hfree
    exact h.held_modify hcounts hr hfree

end Balanced
end Pool
end ConfigKeys
