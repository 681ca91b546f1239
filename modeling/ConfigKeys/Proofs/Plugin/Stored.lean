import ConfigKeys.Proofs.KeySet.Copies
import ConfigKeys.Proofs.KeySet.Subtree
import ConfigKeys.Proofs.Plugin.Balance
import ConfigKeys.Proofs.Plugin.Frame

/-!
# What a memory store keeps

Kept keys lie at or below a name, or beside it.  To write, and to take a write back, puts other keys
in the place of those below the parent, and leaves those beside it alone.

## Main definitions

* `Pool.pairsBelow`, `Pool.pairsBeside` — the entries at or below a name, and the others.
* `Pool.Stored` — what a write makes of the kept keys.

## Main results

* `Pool.Balanced.pairs_swapIn` — keys take the place of those at or below a name.
* `Pool.Stored.later` — what a write left lasts as long as nothing is written.
* `Pool.Balanced.onSet_stored`, `Pool.Balanced.onError_stored` — what is kept after a write, and
  after it was taken back.
* `Pool.Balanced.onGet_empty` — to read into an empty set fills it with copies of what is kept.
* `MemoryStore.onGet_unentered` — to read brings in no key that is in some metadata.
-/

namespace ConfigKeys
namespace Pool

/-- The entries of keys at or below a name. -/
def pairsBelow (p : Pool) (keys : List Key) (n : Name) : List (Name × RecordId) :=
  (p.pairs keys).filter fun e => e.1.isBelowOrSame n

/-- The entries of the other keys. -/
def pairsBeside (p : Pool) (keys : List Key) (n : Name) : List (Name × RecordId) :=
  (p.pairs keys).filter fun e => !e.1.isBelowOrSame n

/-- Copies of keys at or below a parent are in the place of those that were kept there.  What they
replaced is remembered, with a copy of the parent. -/
structure Stored (p : Pool) (store keys : KeySet) (parent : Key) (sn : Snapshot) (q : Pool)
    (after : KeySet) : Prop where
  /-- No key is written, or gets another name. -/
  evolves : p.Evolves ∅ ∅ q
  /-- What was kept at or below the parent is remembered. -/
  replaced : q.pairs sn.keys.toList = p.pairsBelow store.toList (p.name parent)
  /-- The copy of the parent says what the parent said. -/
  parent_tree : q.tree sn.parent.id = p.tree parent.id
  /-- It is a new record. -/
  parent_new : p.nextId ≤ sn.parent.id ∧ sn.parent.id < q.nextId
  /-- What was kept beside the parent is kept. -/
  beside : q.pairsBeside after.toList (p.name parent)
    = p.pairsBeside store.toList (p.name parent)
  /-- What is kept at or below the parent says what the keys said. -/
  trees : (q.pairsBelow after.toList (p.name parent)).map (fun e => q.tree e.2)
    = (p.pairsBelow keys.toList (p.name parent)).map fun e => p.tree e.2
  /-- It is made of new records. -/
  new : ∀ e ∈ q.pairsBelow after.toList (p.name parent), p.nextId ≤ e.2 ∧ e.2 < q.nextId

variable {p₀ p q : Pool} {store keys incoming : KeySet} {n : Name} {parent : Key}
variable {S R : List (List Key)} {P H L : List RecordId} {m : MemoryStore} {sn : Snapshot}

theorem mem_pairsBelow {list : List Key} {e : Name × RecordId} :
    e ∈ p.pairsBelow list n ↔ e ∈ p.pairs list ∧ e.1.isBelowOrSame n = true := List.mem_filter

theorem mem_pairsBeside {list : List Key} {e : Name × RecordId} :
    e ∈ p.pairsBeside list n ↔ e ∈ p.pairs list ∧ e.1.isBelowOrSame n = false := by
  rw [pairsBeside, List.mem_filter, Bool.not_eq_true']

theorem pairsBelow_congr {list : List Key} (h : ∀ k ∈ list, q.name k = p.name k) (n : Name) :
    q.pairsBelow list n = p.pairsBelow list n := by
  rw [pairsBelow, pairs_congr h, pairsBelow]

theorem pairsBeside_congr {list : List Key} (h : ∀ k ∈ list, q.name k = p.name k) (n : Name) :
    q.pairsBeside list n = p.pairsBeside list n := by
  rw [pairsBeside, pairs_congr h, pairsBeside]

/-- The keys at or below a name. -/
theorem Ascending.pairs_subtree (h : p.Ascending store.toList) (n : Name) :
    p.pairs (store.subtree p n).toList = p.pairsBelow store.toList n := by
  rw [KeySet.subtree_eq_filter h, pairs, pairsBelow, pairs, List.filter_map]
  rfl

/-- What cutting takes, and what it leaves. -/
theorem Ascending.pairs_cut (h : p.Ascending store.toList) (n : Name) :
    p.pairs (store.cut p n).1.toList = p.pairsBelow store.toList n ∧
      p.pairs (store.cut p n).2.toList = p.pairsBeside store.toList n := by
  obtain ⟨htaken, hrest⟩ := KeySet.cut_eq_filter h n
  rw [htaken, hrest, pairs, pairs, pairsBelow, pairsBeside, pairs, List.filter_map, List.filter_map]
  exact ⟨rfl, rfl⟩

/-- **What a write left lasts** as long as nothing is written. -/
theorem Stored.later {q' : Pool} {S' R' : List (List Key)} {P' H' L' : List RecordId}
    {after : KeySet} (h : p.Stored store keys parent sn q after) (hp : p.Forward)
    (hq : q.Balanced S R P H L) (hafter : after.toList ∈ S) (hkeys : sn.keys.toList ∈ S)
    (hq' : q'.Balanced S' R' P' H' L') (hafter' : after.toList ∈ S')
    (hkeys' : sn.keys.toList ∈ S') (hparent : sn.parent.id ∈ H') (hev : q.Evolves ∅ ∅ q') :
    p.Stored store keys parent sn q' after := by
  have hforward := h.evolves.forward hp
  have hnames := KeySet.names_kept hev (fun k hk => hq.exists_of_mem_set hafter hk) hq' hafter'
  have hbelow := pairsBelow_congr hnames (p.name parent)
  have hreplaced := KeySet.names_kept hev (fun k hk => hq.exists_of_mem_set hkeys hk) hq' hkeys'
  refine ⟨h.evolves.trans hev, (pairs_congr hreplaced).trans h.replaced, ?_,
    h.parent_new.imp_right fun hlt => Nat.lt_of_lt_of_le hlt hev.grows,
    (pairsBeside_congr hnames _).trans h.beside, ?_, ?_⟩
  · obtain ⟨r, hr, -⟩ := hq'.exists_of_handle hparent
    rw [← h.parent_tree]
    exact hq'.tree_eq_of_evolves hev hforward ⟨r, hr⟩ h.parent_new.2
  · rw [hbelow, ← h.trees]
    refine List.map_congr_left fun e he => ?_
    obtain ⟨k, hk, -, heq⟩ := mem_pairs.mp (mem_pairsBelow.mp he).1
    have hthere := hq'.exists_of_mem_set hafter' hk
    exact hq'.tree_eq_of_evolves hev hforward (heq ▸ hthere) (h.new e he).2
  · rw [hbelow]
    exact fun e he => (h.new e he).imp_right fun hlt => Nat.lt_of_lt_of_le hlt hev.grows

namespace Balanced

/-- **Keys take the place of those at or below a name**, and the others stay. -/
theorem pairs_swapIn (h : p.Balanced (incoming.toList :: store.toList :: S) R P H L)
    (hbelow : ∀ k ∈ incoming.toList, (p.name k).isBelowOrSame n = true) :
    let done := (store.cut p n).2.appendAll p incoming.toList
    done.1.pairsBelow done.2.toList n = p.pairs incoming.toList ∧
      done.1.pairsBeside done.2.toList n = p.pairsBeside store.toList n := by
  intro done
  have hincoming := h.ascending_set
  have hstore : p.Ascending store.toList := h.ascending _ (by simp)
  have hcut := ((h.perm_sets (.swap _ _ _)).cut n).perm_sets (.swap _ _ _)
  have hheld : ∀ k ∈ incoming.toList,
      k.id ∈ placeIds ((store.cut p n).1.toList :: incoming.toList :: S) R P ++ H :=
    fun k hk => List.mem_append_left H (mem_placeIds_of_set (by simp) hk)
  have hdone := hcut.appendAll hheld
  have hrest := hcut.ascending_set
  have hbelow' : ∀ e ∈ p.pairs incoming.toList, e.1.isBelowOrSame n = true := by
    rintro ⟨n', id⟩ he
    obtain ⟨k, hk, rfl, -⟩ := mem_pairs.mp he
    exact hbelow k hk
  have hmem : ∀ n' id, (n', id) ∈ done.1.pairs done.2.toList ↔
      (n', id) ∈ p.pairs incoming.toList ∨ (n', id) ∈ p.pairsBeside store.toList n := by
    intro n' id
    rw [← (hstore.pairs_cut n).2, ← KeySet.lookup_toMap_iff hdone.ascending_set,
      KeySet.toMap_appendAll hcut hheld, KeySet.insertAll_toList hincoming, ← Option.mem_def,
      Finmap.mem_lookup_union, Option.mem_def, Option.mem_def, KeySet.lookup_toMap_iff hincoming,
      KeySet.lookup_toMap_iff hrest, (hstore.pairs_cut n).2]
    refine or_congr_right (and_iff_right_of_imp fun he hin => ?_)
    -- a name beside is none of those that come in
    obtain ⟨id', hid'⟩ := Finmap.mem_iff.mp hin
    have hin' := hbelow' _ ((KeySet.lookup_toMap_iff hincoming).mp hid')
    rw [(mem_pairsBeside.mp he).2] at hin'
    cases hin'
  have horder := ascending_iff_pairs.mp hdone.ascending_set
  constructor
  · refine eq_of_mem_iff (horder.filter _) (ascending_iff_pairs.mp hincoming) fun e => ?_
    rw [mem_pairsBelow, hmem]
    constructor
    · rintro ⟨he | he, hebelow⟩
      · exact he
      · rw [(mem_pairsBeside.mp he).2] at hebelow
        cases hebelow
    · exact fun he => ⟨.inl he, hbelow' e he⟩
  · refine eq_of_mem_iff (horder.filter _) ((ascending_iff_pairs.mp hstore).filter _) fun e => ?_
    rw [mem_pairsBeside, hmem]
    constructor
    · rintro ⟨he | he, hebeside⟩
      · rw [hbelow' e he] at hebeside
        cases hebeside
      · exact he
    · exact fun he => ⟨.inr he, (mem_pairsBeside.mp he).2⟩

/-! ### Stages -/

/-- The keys of a set at or below a name are in order, and there. -/
theorem subtree_facts (h : p.Balanced S R P H L) (hkeys : keys.toList ∈ S) (n : Name) :
    p.Ascending (keys.subtree p n).toList ∧ ∀ k ∈ (keys.subtree p n).toList,
      (p.name k).isBelowOrSame n = true ∧ k.id < p.nextId := by
  have hasc := h.ascending _ hkeys
  rw [KeySet.subtree_eq_filter hasc]
  refine ⟨hasc.sublist List.filter_sublist, fun k hk => ?_⟩
  obtain ⟨hmem, hbelow⟩ := List.mem_filter.mp hk
  exact ⟨hbelow, Pool.find?_lt (h.exists_of_mem_set hkeys hmem).choose_spec⟩

theorem onSet_eq (hopen : m.isOpen = true) (hwrite : m.readonly = false) :
    m.onSet p store keys parent =
      let copied := KeySet.copy p { keys := keys.subtree p (p.name parent) }
      let cut := store.cut copied.1 (p.name parent)
      let done := cut.2.appendAll copied.1 copied.2.toList
      let taken := Snapshot.take done.1 parent cut.1
      ⟨.success, copied.2.drop (m.dropSnapshot taken.1), { m with snapshot := some taken.2 },
        done.2, keys⟩ := by
  simp only [MemoryStore.onSet, hopen, hwrite, if_true, Bool.false_eq_true, if_false]

/-- Copies that take the place of what is kept at or below a name say what their originals say, and
nothing else is changed. -/
theorem swapIn_copies {kept : List Key} {done : Pool × KeySet} {S' : List (List Key)}
    {H' : List RecordId}
    (h : p.Balanced (incoming.toList :: store.toList :: S) R P H L) (hp : p.Forward)
    (hcopies : KeySet.Copies p₀ kept p incoming)
    (hkept : ∀ k ∈ kept, (p₀.name k).isBelowOrSame n = true)
    (hdone : (store.cut p n).2.appendAll p incoming.toList = done)
    (hev : done.1.Evolves ∅ ∅ q) (hq : q.Balanced (done.2.toList :: S') R P H' L) :
    p.Evolves ∅ ∅ q ∧ q.pairsBelow done.2.toList n = p.pairs incoming.toList ∧
      q.pairsBeside done.2.toList n = p.pairsBeside store.toList n ∧
      (q.pairsBelow done.2.toList n).map (fun e => q.tree e.2)
        = kept.map (fun k => p₀.tree k.id) := by
  subst hdone
  have hbelow : ∀ k ∈ incoming.toList, (p.name k).isBelowOrSame n = true := by
    intro k hk
    obtain ⟨x, hx, heq⟩ := List.mem_map.mp (hcopies.names ▸ List.mem_map_of_mem hk)
    rw [← heq]
    exact hkept x hx
  obtain ⟨hin, hbeside⟩ := h.pairs_swapIn hbelow
  have hnames := KeySet.names_kept hev
    (fun k hk => (h.swapIn n).exists_of_mem_set List.mem_cons_self hk) hq List.mem_cons_self
  rw [pairsBelow_congr hnames, pairsBeside_congr hnames, hin, hbeside]
  have hevolves : p.Evolves ∅ ∅ q := ((Evolves.refl ∅ ∅ p).appendAll _ _).trans hev
  refine ⟨hevolves, rfl, rfl, ?_⟩
  have htree : ∀ k ∈ incoming.toList, q.tree k.id = p.tree k.id := by
    intro k hk
    have hmem : (p.name k, k.id) ∈ q.pairs
        ((store.cut p n).2.appendAll p incoming.toList).2.toList := by
      have hmem : (p.name k, k.id) ∈ p.pairs incoming.toList := mem_pairs.mpr ⟨k, hk, rfl, rfl⟩
      rw [← hin, ← pairsBelow_congr hnames] at hmem
      exact (mem_pairsBelow.mp hmem).1
    obtain ⟨x, hx, -, hid⟩ := mem_pairs.mp hmem
    obtain ⟨r, hr⟩ := hq.exists_of_mem_set List.mem_cons_self hx
    exact hq.tree_eq_of_evolves hevolves hp ⟨r, hid ▸ hr⟩ (hcopies.new k hk).2
  rw [pairs, List.map_map, ← hcopies.trees]
  exact List.map_congr_left htree

/-- The copy of a parent that is remembered says what the parent said. -/
theorem tree_taken {S' R' : List (List Key)} {P' H' L' : List RecordId} {replaced : KeySet}
    (hp : p.Forward) (hev : (Snapshot.take p parent replaced).1.Evolves ∅ ∅ q)
    (hq : q.Balanced S' R' P' (p.nextId :: H') L') : q.tree p.nextId = p.tree parent.id := by
  have hcopy : (p.copy parent.id).Evolves ∅ ∅ q :=
    ((Evolves.refl ∅ ∅ (p.copy parent.id)).retain p.nextId).trans hev
  have hforward := ((Evolves.refl ∅ ∅ p).copy parent.id).forward hp
  obtain ⟨r, hr, -⟩ := hq.exists_of_handle List.mem_cons_self
  rw [hq.tree_eq_of_evolves hcopy hforward ⟨r, hr⟩ (Evolves.nextId_lt_plant p _), tree_copy hp]

/-- **What a write leaves**: copies of the caller's keys below the parent, beside what was kept
beside it.  The instance remembers what was kept below it, and a new copy of the parent. -/
theorem onSet_stored (h : p.Balanced (stageSets store keys m.sets S) R P (m.handles ++ H) L)
    (hp : p.Forward) (hparent : parent.id ∈ H) (hopen : m.isOpen = true)
    (hwrite : m.readonly = false) :
    let o := m.onSet p store keys parent
    o.status = .success ∧ o.keys = keys ∧ ∃ sn, o.plugin = { m with snapshot := some sn } ∧
      p.Stored store keys parent sn o.pool o.store := by
  intro o
  let n := p.name parent
  have hbal : o.pool.Balanced (stageSets o.store o.keys o.plugin.sets S) R P
      (o.plugin.handles ++ H) L := h.onSet hparent
  -- the keys at or below the parent are copied, and go into the kept keys
  let copied := KeySet.copy p { keys := keys.subtree p n }
  let done := (store.cut copied.1 n).2.appendAll copied.1 copied.2.toList
  have hcopied : copied.1.Balanced (copied.2.toList :: stageSets store keys m.sets S) R P
      (m.handles ++ H) L := h.copySet { keys := keys.subtree p n }
  have hkeys : keys.toList ∈ stageSets store keys m.sets S := by simp [stageSets]
  obtain ⟨hasc, hfacts⟩ := h.subtree_facts hkeys n
  have hcopies : KeySet.Copies p (keys.subtree p n).toList copied.1 copied.2 :=
    KeySet.copy_copies (s := { keys := keys.subtree p n }) hp hasc fun k hk => (hfacts k hk).2
  have heq : o = _ := onSet_eq hopen hwrite
  clear_value o
  subst heq
  have hforward := hcopies.evolves.forward hp
  have hdone : p.Evolves ∅ ∅ done.1 :=
    hcopies.evolves.trans ((Evolves.refl ∅ ∅ copied.1).appendAll _ _)
  -- then what is not needed any more is given up
  have hrest : ∀ q : Pool, q.Evolves ∅ ∅ (copied.2.drop (m.dropSnapshot q)) := fun q =>
    ((Evolves.refl ∅ ∅ q).dropSnapshot m).drop copied.2
  obtain ⟨hev, hin, hbeside, htrees⟩ := hcopied.swapIn_copies (n := n) hforward hcopies
    (fun k hk => (hfacts k hk).1) rfl
    (((Evolves.refl ∅ ∅ _).takeSnapshot parent _).trans (hrest _)) hbal
  -- the names of what was kept are those that they were
  have hstore : store.toList ∈ stageSets store keys m.sets S := by simp [stageSets]
  have hstored := KeySet.names_kept hcopies.evolves (fun k hk => h.exists_of_mem_set hstore hk)
    hcopied (.tail _ hstore)
  have hasc' := h.ascending _ hstore
  refine ⟨rfl, rfl, _, rfl, hcopies.evolves.trans hev, ?_, ?_, ⟨hdone.grows, ?_⟩, ?_, ?_, ?_⟩
  · have htaken := KeySet.names_kept hev
      (fun k hk => hcopied.exists_of_mem_set (.tail _ hstore) (KeySet.mem_cut (.inl hk))) hbal
      (.tail _ (.tail _ (List.mem_append_left _ (.tail _ (.head _)))))
    refine (pairs_congr htaken).trans ?_
    rw [((hasc'.congr hstored).pairs_cut n).1, pairsBelow_congr hstored]
  · -- the parent says what it said when it is copied
    have hswap := hcopied.swapIn n
    obtain ⟨r, hr, -⟩ := h.exists_of_handle (List.mem_append_right _ hparent)
    obtain ⟨r', hr', -⟩ := hswap.exists_of_handle (List.mem_append_right _ hparent)
    refine (tree_taken (hdone.forward hp) (hrest _) hbal).trans ?_
    exact hswap.tree_eq_of_evolves hdone hp ⟨r', hr'⟩ (Pool.find?_lt hr)
  · obtain ⟨r, hr, -⟩ := hbal.exists_of_handle List.mem_cons_self
    exact Pool.find?_lt hr
  · rw [hbeside, pairsBeside_congr hstored]
  · rw [htrees, ← (h.ascending _ hkeys).pairs_subtree, pairs, List.map_map]
    rfl
  · intro e he
    rw [hin] at he
    obtain ⟨k, hk, -, hid⟩ := mem_pairs.mp he
    rw [← hid]
    exact ⟨(hcopies.new k hk).1, Nat.lt_of_lt_of_le (hcopies.new k hk).2 hev.grows⟩

theorem onError_eq (hsnapshot : m.snapshot = some sn) :
    m.onError p store keys =
      let cut := store.cut p (p.name sn.parent)
      let done := cut.2.appendAll p sn.keys.toList
      ⟨.success, sn.drop (cut.1.drop done.1), { m with snapshot := none }, done.2, keys⟩ := by
  simp only [MemoryStore.onError, hsnapshot]

/-- **What is left when a write is taken back**: what was kept below its parent then, and what is
kept beside it now. -/
theorem onError_stored (h : p.Balanced (stageSets store keys m.sets S) R P (m.handles ++ H) L)
    (hsnapshot : m.snapshot = some sn)
    (hbelow : ∀ k ∈ sn.keys.toList, (p.name k).isBelowOrSame (p.name sn.parent) = true) :
    let o := m.onError p store keys
    let n := p.name sn.parent
    o.status = .success ∧ p.Evolves ∅ ∅ o.pool ∧ o.plugin = { m with snapshot := none } ∧
      o.pool.pairsBelow o.store.toList n = p.pairs sn.keys.toList ∧
      o.pool.pairsBeside o.store.toList n = p.pairsBeside store.toList n := by
  intro o n
  have hbal : o.pool.Balanced (stageSets o.store o.keys o.plugin.sets S) R P
      (o.plugin.handles ++ H) L := h.onError
  have hlast : (sn.keys.toList :: store.toList :: keys.toList :: m.config.entries.toList :: S).Perm
      (stageSets store keys m.sets S) := by
    rw [stageSets, MemoryStore.sets, hsnapshot]
    exact (@List.perm_middle _ _ [_, _, _] _).symm
  have hswap := (h.perm_sets hlast).swapIn n
  obtain ⟨hin, hbeside⟩ := (h.perm_sets hlast).pairs_swapIn hbelow
  have heq : o = _ := onError_eq hsnapshot
  clear_value o
  subst heq
  -- to give up what was written, and what was remembered, changes no name
  have hnames := KeySet.names_kept (((Evolves.refl ∅ ∅ _).drop _).dropOneSnapshot sn)
    (fun k hk => hswap.exists_of_mem_set List.mem_cons_self hk) hbal List.mem_cons_self
  refine ⟨rfl, (((Evolves.refl ∅ ∅ p).appendAll _ _).drop _).dropOneSnapshot _, rfl, ?_, ?_⟩
  · rw [pairsBelow_congr hnames, hin]
  · rw [pairsBeside_congr hnames, hbeside]

/-- **Reading into an empty set** fills it with copies of what is kept at or below the parent. -/
theorem onGet_empty (parent : Key) (h : p.Balanced (stageSets store keys m.sets S) R P H L)
    (hp : p.Forward) (hopen : m.isOpen = true) (hempty : keys.toList = []) :
    let o := m.onGet p store keys parent
    let kept := p.pairsBelow store.toList (p.name parent)
    o.status = .ofCount kept.length ∧
      (o.keys.toList.map fun k => o.pool.tree k.id) = kept.map fun e => p.tree e.2 := by
  intro o kept
  have hstore : store.toList ∈ stageSets store keys m.sets S := by simp [stageSets]
  obtain ⟨hasc, hfacts⟩ := h.subtree_facts hstore (p.name parent)
  obtain ⟨q, copies, hread, hcopies⟩ :=
    KeySet.refresh_copies hp hempty hasc fun k hk => (hfacts k hk).2
  have hkept : kept = p.pairs (store.subtree p (p.name parent)).toList :=
    ((h.ascending _ hstore).pairs_subtree _).symm
  have heq : o = ⟨.ofCount kept.length, q, m, store, copies⟩ := by
    rw [hkept, pairs, List.length_map]
    simp only [o, MemoryStore.onGet, hopen, if_true, hread]
  rw [heq, hkept, pairs, List.map_map]
  exact ⟨rfl, hcopies.trees⟩

end Balanced
end Pool

namespace MemoryStore

/-- The caller's keys are in no metadata after a kept key was read, if they were in none before. -/
theorem refresh_unentered {p : Pool} {keys : KeySet} (hp : p.Forward)
    (hkeys : ∀ x ∈ keys.toList, x.id < p.nextId ∧ p.Unentered x.id) (count : Nat) (k : Key) :
    let o := refresh p keys count k
    o.1.Forward ∧ ∀ x ∈ o.2.1.toList, x.id < o.1.nextId ∧ o.1.Unentered x.id := by
  intro o
  rcases refresh_cases p keys count k with hsame | hcopy
  · simp only [o, hsame]
    exact ⟨hp, hkeys⟩
  · have hev : p.Evolves ∅ ∅ (keys.append (p.copy k.id) ⟨p.nextId, {}⟩).1 :=
      ((Pool.Evolves.refl ∅ ∅ p).copy k.id).append keys _
    have hgrows : p.nextId < (keys.append (p.copy k.id) ⟨p.nextId, {}⟩).1.nextId :=
      Nat.lt_of_lt_of_le (Pool.Evolves.nextId_lt_plant p _)
        ((Pool.Evolves.refl ∅ ∅ (p.copy k.id)).append keys _).grows
    simp only [o, hcopy]
    refine ⟨hev.forward hp, fun x hx => ?_⟩
    rcases KeySet.mem_append hx with rfl | hx
    · exact ⟨hgrows, hev.unentered_new hp⟩
    · obtain ⟨hlt, hfree⟩ := hkeys x hx
      exact ⟨Nat.lt_trans hlt hgrows, hev.unentered hlt hfree⟩

/-- **To read into an empty set** brings in no key that is in some metadata. -/
theorem onGet_unentered {p : Pool} {m : MemoryStore} {store keys : KeySet} {parent : Key}
    (hp : p.Forward) (hopen : m.isOpen = true) (hempty : keys.toList = []) :
    let o := m.onGet p store keys parent
    ∀ x ∈ o.keys.toList, o.pool.Unentered x.id := by
  simp only [onGet, hopen, if_true]
  have hread := List.foldlRecOn (motive := fun done : Pool × KeySet × Nat =>
      done.1.Forward ∧ ∀ x ∈ done.2.1.toList, x.id < done.1.nextId ∧ done.1.Unentered x.id)
    (store.subtree p (p.name parent)).toList
    (fun (done : Pool × KeySet × Nat) k => refresh done.1 done.2.1 done.2.2 k)
    (b := (p, keys, 0)) ⟨hp, fun x hx => absurd (hempty ▸ hx) List.not_mem_nil⟩
    fun done hdone k _ => refresh_unentered hdone.1 hdone.2 done.2.2 k
  exact fun x hx => (hread.2 x hx).2

end MemoryStore
end ConfigKeys
