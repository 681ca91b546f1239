import ConfigKeys.Proofs.KeySet.Walk
import ConfigKeys.Proofs.Plugin.Reading

/-!
# What a read touches

To read brings copies of kept keys into the caller's set, of those only that are news to the caller.
Each takes the place of the caller's key of its name, if there is one.  All other keys of the caller
stay the records that they are, no name goes out, and a walk along the set stays at its name.  So
what the caller then has under a name depends on what is kept there and on what the caller had, and
on nothing else.  What has been read is no news, and to read once more does nothing.

## Main definitions

* `KeySet.lacks` — whether a kept key is news to a caller.
* `KeySet.Refreshed` — what has been read so far.

## Main results

* `KeySet.Refreshed.step`, `KeySet.Refreshed.foldl` — one kept key is read, and a run of them.
* `KeySet.Refreshed.stays`, `KeySet.Refreshed.comes`, `KeySet.Refreshed.only` — what the caller has
  then.
* `KeySet.Refreshed.treeAt?_read` — what the caller then has under each name.
* `KeySet.Refreshed.lacks_none` — **what has been read is no news.**
* `Pool.Balanced.onGet_refreshed`, `Pool.Balanced.onGet_reads` — **what a read touches, and what it
  leaves.**
* `Pool.Balanced.onGet_again` — **a read of what has been read does nothing.**
-/

namespace ConfigKeys

variable {p q : Pool} {keys read store : KeySet} {done rest : List Key} {k x : Key}
variable {m : MemoryStore}
variable {S S' R R' : List (List Key)} {P P' H H' L L' : List RecordId}

/-- A copy comes into a set without a name going out, and a walk stays at its name. -/
theorem Pool.Balanced.names_append_copy (h : p.Balanced (keys.toList :: S) R P H L) (k : Key) :
    let done := keys.append (p.copy k.id) ⟨p.nextId, {}⟩
    keys.names p ⊆ done.2.names done.1 ∧
      done.2.current.map done.1.name = keys.current.map p.name := by
  intro done
  obtain ⟨hcopy, ⟨r, hr, -⟩, -, -⟩ := h.copy k.id
  have hnames : keys.names (p.copy k.id) = keys.names p :=
    List.map_congr_left (KeySet.names_kept ((Pool.Evolves.refl ∅ ∅ p).copy k.id)
      (fun x hx => h.exists_of_mem_set List.mem_cons_self hx) hcopy List.mem_cons_self)
  have hgrows := KeySet.grows_append (k := ⟨p.nextId, {}⟩) hcopy hr
  have hcurrent := KeySet.current_append (k := ⟨p.nextId, {}⟩) hcopy hr
  rw [KeySet.current_name (p.copy k.id), hnames, ← KeySet.current_name] at hcurrent
  exact ⟨hnames ▸ hgrows.subset, hcurrent⟩

namespace KeySet

/-- Whether a kept key is news to a caller with these keys. -/
def lacks (p : Pool) (keys : KeySet) (k : Key) : Bool :=
  (p.tree k.id).isNews (keys.treeAt? p (p.name k))

/-- A caller lacks nothing that one of the keys says. -/
theorem lacks_eq_false_iff (hp : p.Forward) (hasc : p.Ascending keys.toList) :
    keys.lacks p k = false ↔
      ∃ mine ∈ keys.toList, p.name mine = p.name k ∧ p.Unchanged mine k := by
  unfold lacks KeyTree.isNews treeAt?
  rw [Bool.not_eq_false', Option.any_map]
  cases hfind : keys.find? p (p.name k) with
  | none =>
    simp only [Option.any_none, Bool.false_eq_true, false_iff]
    rintro ⟨mine, hmem, hname, -⟩
    rw [(find?_eq_some_iff hasc).mpr ⟨hmem, hname⟩] at hfind
    cases hfind
  | some mine =>
    obtain ⟨hmem, hname⟩ := (find?_eq_some_iff hasc).mp hfind
    show (p.tree mine.id).agrees (p.tree k.id) = true ↔ _
    rw [hp.agrees_tree_iff]
    constructor
    · intro hsame
      exact ⟨mine, hmem, hname, hsame⟩
    · rintro ⟨y, hy, hyname, hsame⟩
      have hy' := (find?_eq_some_iff hasc).mpr ⟨hy, hyname⟩
      obtain rfl : mine = y := Option.some.inj (hfind.symm.trans hy')
      exact hsame

/-- A caller lacks what every key of its name differs from. -/
theorem lacks_eq_true_iff (hp : p.Forward) (hasc : p.Ascending keys.toList) :
    keys.lacks p k = true ↔
      ∀ mine ∈ keys.toList, p.name mine = p.name k → ¬ p.Unchanged mine k := by
  rw [← Bool.not_eq_false, lacks_eq_false_iff hp hasc]
  simp only [not_exists, not_and]

/-- What has been read of kept keys, from the caller's keys in `p` to those in `q`. -/
structure Refreshed (p : Pool) (keys : KeySet) (done : List Key) (q : Pool) (read : KeySet) :
    Prop where
  /-- Nothing is written. -/
  evolves : p.Evolves ∅ ∅ q
  /-- No name goes out. -/
  names : keys.names p ⊆ read.names q
  /-- A walk stays at its name. -/
  current : read.current.map q.name = keys.current.map p.name
  /-- Where nothing is news, the caller's key stays. -/
  kept : ∀ n, (∀ k ∈ done, p.name k = n → keys.lacks p k = false) →
    read.find? q n = keys.find? p n
  /-- What is news comes in as a copy, of which all records are new. -/
  news : ∀ k ∈ done, keys.lacks p k = true → ∃ copy, read.find? q (p.name k) = some copy ∧
    p.nextId ≤ copy.id ∧ q.tree copy.id = p.tree k.id

namespace Refreshed

theorem start (p : Pool) (keys : KeySet) : Refreshed p keys [] p keys where
  evolves := .refl ∅ ∅ p
  names := List.Subset.refl _
  current := rfl
  kept _ _ := rfl
  news _ hk := absurd hk List.not_mem_nil

/-- A kept key that is news comes in as a copy of new records, the one key of its name. -/
theorem comes (h : Refreshed p keys done q read) (hp : p.Forward)
    (hasc : q.Ascending read.toList) (hk : k ∈ done) (hnews : keys.lacks p k = true) :
    ∃ copy ∈ read.toList, q.tree copy.id = p.tree k.id ∧
      (∀ i, q.Holds copy.id i → p.nextId ≤ i) ∧
      ∀ x ∈ read.toList, q.name x = p.name k → x = copy := by
  obtain ⟨copy, hcopy, hid, hsays⟩ := h.news k hk hnews
  refine ⟨copy, mem_of_find? hcopy, hsays, fun i hi => ?_, fun x hx hname => ?_⟩
  · exact Nat.le_trans hid (hi.le (h.evolves.forward hp))
  · rw [(find?_eq_some_iff hasc).mpr ⟨hx, hname⟩] at hcopy
    exact Option.some.inj hcopy

/-- Nothing else comes in. -/
theorem only (h : Refreshed p keys done q read) (hasc : q.Ascending read.toList)
    (hx : x ∈ read.toList) :
    x ∈ keys.toList ∨ ∃ k ∈ done, q.name x = p.name k ∧ keys.lacks p k = true := by
  by_cases hnews : ∃ k ∈ done, q.name x = p.name k ∧ keys.lacks p k = true
  · exact .inr hnews
  · have hfind := h.kept (q.name x) fun k hk hname => by
      rw [← Bool.not_eq_true]
      exact fun hlacks => hnews ⟨k, hk, hname.symm, hlacks⟩
    rw [(find?_eq_some_iff hasc).mpr ⟨hx, rfl⟩] at hfind
    exact .inl (mem_of_find? hfind.symm)

variable (hp : p.Forward) (hbal : p.Balanced (keys.toList :: store.toList :: S) R P H L)
  (hq : q.Balanced (read.toList :: store.toList :: S') R' P' H' L')

include hp hbal hq

/-- What is found where it was found says what it said. -/
theorem treeAt?_eq (h : Refreshed p keys done q read) {n : Name}
    (hfind : read.find? q n = keys.find? p n) : read.treeAt? q n = keys.treeAt? p n := by
  unfold treeAt?
  rw [hfind]
  refine Option.map_congr fun mine hmine => ?_
  exact (hbal.says_kept hp h.evolves hq (.head _) (.head _) (mem_of_find? hmine)
    (mem_of_find? (hfind.trans hmine))).1

/-- What is still to be read is news if it was. -/
theorem lacks_eq (h : Refreshed p keys done q read) (hk : k ∈ store.toList)
    (hfind : read.find? q (p.name k) = keys.find? p (p.name k)) :
    read.lacks q k = keys.lacks p k := by
  obtain ⟨htree, hname⟩ := hbal.says_kept hp h.evolves hq (.tail _ (.head _)) (.tail _ (.head _))
    hk hk
  unfold lacks
  rw [htree, hname, treeAt?_eq hp hbal hq h hfind]

/-- **One kept key is read.** -/
theorem step (h : Refreshed p keys done q read) (hk : k ∈ store.toList)
    (hnew : p.name k ∉ done.map p.name) (count : Nat) :
    let out := MemoryStore.refresh q read count k
    Refreshed p keys (done ++ [k]) out.1 out.2.1 ∧
      out.2.2 = count + if keys.lacks p k then 1 else 0 := by
  intro out
  have hout : out = MemoryStore.refresh q read count k := rfl
  -- no key of the name was read before, so the caller has what was there at first
  have hfind : read.find? q (p.name k) = keys.find? p (p.name k) := by
    refine h.kept _ fun k' hk' hname => absurd ?_ hnew
    exact hname ▸ List.mem_map_of_mem hk'
  have hlacks := lacks_eq hp hbal hq h hk hfind
  obtain ⟨htree, hname⟩ := hbal.says_kept hp h.evolves hq (.tail _ (.head _)) (.tail _ (.head _))
    hk hk
  have hforward := h.evolves.forward hp
  rw [hq.refresh_eq hforward] at hout
  change out = if read.lacks q k = true then _ else _ at hout
  rw [hlacks] at hout
  by_cases hnews : keys.lacks p k = true
  · rw [if_pos hnews] at hout
    rw [hout, if_pos hnews]
    obtain ⟨hnames, hcurrent⟩ := hq.names_append_copy k
    have hfound := fun n => hq.find?_append_copy k n
    simp only [hname] at hfound
    have hev : q.Evolves ∅ ∅ (read.append (q.copy k.id) ⟨q.nextId, {}⟩).1 :=
      ((Pool.Evolves.refl ∅ ∅ q).copy k.id).append read _
    refine ⟨⟨h.evolves.trans hev, ?_, hcurrent.trans h.current, fun n hn => ?_, ?_⟩, rfl⟩
    · exact List.Subset.trans h.names hnames
    · -- the caller's keys of other names stay
      have hne : n ≠ p.name k := by
        rintro rfl
        have hnone := hn k (List.mem_append_right done List.mem_cons_self) rfl
        rw [hnews] at hnone
        cases hnone
      rw [hfound, if_neg hne]
      exact h.kept n fun k' hk' => hn k' (List.mem_append_left _ hk')
    · intro k' hk' hnews'
      rcases List.mem_append.mp hk' with hk' | hk'
      · -- what was read before has another name, and says what it said
        have hne : p.name k' ≠ p.name k := fun heq => hnew (heq ▸ List.mem_map_of_mem hk')
        obtain ⟨copy, hcopy, hid, hsays⟩ := h.news k' hk' hnews'
        have hcopy' := (hfound (p.name k')).trans (if_neg hne)
        rw [hcopy] at hcopy'
        refine ⟨copy, hcopy', hid, ?_⟩
        rw [(hq.says_kept hforward hev (hq.append_copy k) (.head _) (.head _) (mem_of_find? hcopy)
          (mem_of_find? hcopy')).1, hsays]
      · obtain rfl := List.mem_singleton.mp hk'
        refine ⟨⟨q.nextId, {}⟩, (hfound _).trans (if_pos rfl), h.evolves.grows, ?_⟩
        rw [← htree]
        exact hq.tree_append_copy hforward k'
  · rw [if_neg hnews] at hout
    rw [hout, if_neg hnews]
    refine ⟨⟨h.evolves, h.names, h.current, fun n hn => h.kept n fun k' hk' => ?_, ?_⟩, rfl⟩
    · exact hn k' (List.mem_append_left _ hk')
    · intro k' hk' hnews'
      rcases List.mem_append.mp hk' with hk' | hk'
      · exact h.news k' hk' hnews'
      · obtain rfl := List.mem_singleton.mp hk'
        exact absurd hnews' hnews

/-- **Kept keys of different names are read**, one after the other. -/
theorem foldl (h : Refreshed p keys done q read) (hrest : ∀ k ∈ rest, k ∈ store.toList)
    (hdist : p.Distinct (done ++ rest)) (count : Nat) :
    let out := rest.foldl (fun (q, read, count) k => MemoryStore.refresh q read count k)
      (q, read, count)
    Refreshed p keys (done ++ rest) out.1 out.2.1 ∧
      out.1.Balanced (out.2.1.toList :: store.toList :: S') R' P' H' L' ∧
      out.2.2 = count + (rest.filter (keys.lacks p)).length := by
  induction rest generalizing done q read count with
  | nil =>
    rw [List.append_nil]
    exact ⟨h, hq, rfl⟩
  | cons k rest ih =>
    have hnew : p.name k ∉ done.map p.name := by
      rw [Pool.Distinct, List.map_append, List.map_cons, List.nodup_middle] at hdist
      exact fun hmem => (List.nodup_cons.mp hdist).1 (List.mem_append_left _ hmem)
    obtain ⟨hstep, hcount⟩ := step hp hbal hq h (hrest k List.mem_cons_self) hnew count
    rw [List.append_cons] at hdist ⊢
    obtain ⟨hdone, hbal', hcount'⟩ := ih (hq.refresh count k) hstep
      (fun x hx => hrest x (List.mem_cons_of_mem k hx)) hdist
      (MemoryStore.refresh q read count k).2.2
    refine ⟨hdone, hbal', hcount'.trans ?_⟩
    rw [hcount, List.filter_cons, Nat.add_assoc]
    cases keys.lacks p k with
    | false => simp
    | true => simp [Nat.add_comm]

/-- **What a caller has after a read**: under every name what was read there, if it was news, and
what the caller had otherwise. -/
theorem treeAt?_read (h : Refreshed p keys done q read) (hdist : p.Distinct done) (n : Name) :
    read.treeAt? q n = KeyTree.readInto
      ((done.map fun k => p.tree k.id).find? fun t => t.name = n) (keys.treeAt? p n) := by
  rw [p.find?_trees done n]
  cases hread : done.find? fun k => p.name k = n with
  | none =>
    have hnone := List.find?_eq_none.mp hread
    exact treeAt?_eq hp hbal hq h
      (h.kept n fun k hk hname => absurd (decide_eq_true hname) (hnone k hk))
  | some k =>
    have hk := List.mem_of_find?_eq_some hread
    obtain rfl : p.name k = n := by simpa using List.find?_some hread
    show _ = if keys.lacks p k then some (p.tree k.id) else keys.treeAt? p (p.name k)
    by_cases hnews : keys.lacks p k = true
    · obtain ⟨copy, hcopy, -, hsays⟩ := h.news k hk hnews
      rw [if_pos hnews, treeAt?, hcopy, Option.map_some, hsays]
    · rw [if_neg hnews]
      refine treeAt?_eq hp hbal hq h (h.kept _ fun k' hk' hname => ?_)
      rw [List.inj_on_of_nodup_map hdist hk' hk hname]
      exact Bool.eq_false_iff.mpr hnews

/-- **What has been read is no news.** -/
theorem lacks_none (h : Refreshed p keys done q read) (hdone : ∀ k ∈ done, k ∈ store.toList)
    (hdist : p.Distinct done) (hk : k ∈ done) : read.lacks q k = false := by
  obtain ⟨htree, hname⟩ := hbal.says_kept hp h.evolves hq (.tail _ (.head _)) (.tail _ (.head _))
    (hdone k hk) (hdone k hk)
  unfold lacks
  rw [htree, hname, treeAt?_read hp hbal hq h hdist, p.find?_trees done,
    find?_of_nodup_map hdist hk]
  exact KeyTree.isNews_readInto _ _

/-- A key of the caller stays, with what it says, if no kept key of its name is news. -/
theorem stays (h : Refreshed p keys done q read) (hx : x ∈ keys.toList)
    (hsame : ∀ k ∈ done, p.name k = p.name x → keys.lacks p k = false) :
    x ∈ read.toList ∧ q.name x = p.name x ∧ q.tree x.id = p.tree x.id := by
  have hfind := h.kept (p.name x) hsame
  rw [(find?_eq_some_iff (hbal.ascending _ (.head _))).mpr ⟨hx, rfl⟩] at hfind
  obtain ⟨hmem, hname⟩ := (find?_eq_some_iff (hq.ascending _ (.head _))).mp hfind
  exact ⟨hmem, hname, (hbal.says_kept hp h.evolves hq (.head _) (.head _) hx hmem).1⟩

end Refreshed
end KeySet

namespace Pool.Balanced

/-- Kept keys that are no news are not read. -/
theorem foldl_refresh_same (h : p.Balanced (keys.toList :: S) R P H L) (hp : p.Forward)
    (hrest : ∀ k ∈ rest, keys.lacks p k = false) (count : Nat) :
    rest.foldl (fun (q, read, count) k => MemoryStore.refresh q read count k) (p, keys, count)
      = (p, keys, count) := by
  induction rest with
  | nil => rfl
  | cons k rest ih =>
    have hk : (p.tree k.id).isNews (keys.treeAt? p (p.name k)) = false :=
      hrest k List.mem_cons_self
    have hsame : MemoryStore.refresh p keys count k = (p, keys, count) := by
      rw [h.refresh_eq hp, hk]
      rfl
    show rest.foldl _ (MemoryStore.refresh p keys count k) = _
    rw [hsame]
    exact ih fun x hx => hrest x (List.mem_cons_of_mem k hx)

/-- **What a read touches**: the kept keys at or below the parent are read. -/
theorem onGet_refreshed (parent : Key) (h : p.Balanced (stageSets store keys m.sets S) R P H L)
    (hp : p.Forward) (hopen : m.isOpen = true) :
    let o := m.onGet p store keys parent
    let below := store.toList.filter fun k => (p.name k).isBelowOrSame (p.name parent)
    keys.Refreshed p below o.pool o.keys ∧
      o.pool.Balanced (o.keys.toList :: store.toList :: (m.sets ++ S)) R P H L ∧
      o = ⟨.ofCount (below.filter (keys.lacks p)).length, o.pool, m, store, o.keys⟩ := by
  intro o below
  have hstore : store.toList ∈ stageSets store keys m.sets S := by simp [stageSets]
  have hasc := h.ascending _ hstore
  have hbelow : (store.subtree p (p.name parent)).toList = below :=
    KeySet.subtree_eq_filter hasc (p.name parent)
  have hdist : p.Distinct ([] ++ below) := (hasc.sublist List.filter_sublist).distinct
  have hpool := h.perm_sets (.swap _ _ _)
  obtain ⟨hdone, hbal, hcount⟩ := KeySet.Refreshed.foldl hp hpool hpool (.start p keys)
    (fun k hk => (List.mem_filter.mp hk).1) hdist 0
  have ho : o = m.onGet p store keys parent := rfl
  rw [MemoryStore.onGet, if_pos hopen, hbelow] at ho
  rw [Nat.zero_add] at hcount
  rw [ho, ← hcount]
  exact ⟨hdone, hbal, rfl⟩

/-- **What a caller has after a read**: under every name what is kept there at or below the parent,
if it is news, and what the caller had otherwise.  The news are counted. -/
theorem onGet_reads (parent : Key) (h : p.Balanced (stageSets store keys m.sets S) R P H L)
    (hp : p.Forward) (hopen : m.isOpen = true) :
    let o := m.onGet p store keys parent
    let kept := (p.pairsBelow store.toList (p.name parent)).map fun e => p.tree e.2
    o.status = .ofCount (kept.filter fun t => t.isNews (keys.treeAt? p t.name)).length ∧
      ∀ n, o.keys.treeAt? o.pool n
        = KeyTree.readInto (kept.find? fun t => t.name = n) (keys.treeAt? p n) := by
  intro o kept
  obtain ⟨hdone, hbal, ho⟩ := h.onGet_refreshed parent hp hopen
  have hasc : p.Ascending store.toList := h.ascending _ (by simp [stageSets])
  have hkept : kept = (store.toList.filter fun k =>
      (p.name k).isBelowOrSame (p.name parent)).map fun k => p.tree k.id := by
    simp only [kept, pairsBelow, pairs, List.filter_map, List.map_map]
    rfl
  rw [hkept]
  refine ⟨?_, hdone.treeAt?_read hp (h.perm_sets (.swap _ _ _)) hbal
    (hasc.sublist List.filter_sublist).distinct⟩
  rw [show o.status = _ from congrArg MemoryStore.Outcome.status ho, List.filter_map,
    List.length_map]
  simp only [Function.comp_def, name_tree]
  rfl

/-- **A read of what has been read does nothing.** -/
theorem onGet_again (parent : Key) (h : p.Balanced (stageSets store keys m.sets S) R P H L)
    (hp : p.Forward) (hopen : m.isOpen = true)
    (hnone : ∀ k ∈ store.toList, (p.name k).isBelowOrSame (p.name parent) = true →
      keys.lacks p k = false) :
    m.onGet p store keys parent = ⟨.noUpdate, p, m, store, keys⟩ := by
  have hstore : store.toList ∈ stageSets store keys m.sets S := by simp [stageSets]
  have hbelow := KeySet.subtree_eq_filter (h.ascending _ hstore) (p.name parent)
  have hrest : ∀ k ∈ (store.subtree p (p.name parent)).toList, keys.lacks p k = false := by
    intro k hk
    rw [hbelow] at hk
    obtain ⟨hmem, hname⟩ := List.mem_filter.mp hk
    exact hnone k hmem hname
  unfold MemoryStore.onGet
  rw [if_pos hopen, (h.perm_sets (.swap _ _ _)).foldl_refresh_same hp hrest 0]
  rfl

end Pool.Balanced
end ConfigKeys
