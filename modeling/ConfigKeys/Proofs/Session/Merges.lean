import ConfigKeys.Proofs.Session.Metadata

/-!
# Metadata merged into other metadata

To copy all metadata of a key into that of another one plants the trees of its entries there, one
after the other, as they were read before the first of them came in.  It does not matter for this
whether the two keys are one, or one is in the metadata of the other.  Names that were there keep
their places, and the others come behind them in the order of the source.  Where the source does not
hold the key that is written, it stays what it was, and to copy once more changes nothing.

## Main definitions

* `KeyTree.merge` — trees with others put into the places of their names.
* `Pool.Merges` — the metadata of a key was merged with trees.

## Main results

* `KeyTree.names_merge`, `KeyTree.mem_merge`, `KeyTree.merge_of_mem` — which names there are then
  and in which order, what they stand for, and when nothing changes.
* `Pool.Balanced.merges` — to plant trees one after the other merges them.
* `Session.Reachable.merges_metadata` — **all metadata of a key is merged in order, and deeply.**
-/

namespace ConfigKeys

/-! ### Trees -/

namespace KeyTree

variable {l ts : List KeyTree} {t u : KeyTree}

/-- Trees with others put into the places of their names, one after the other. -/
def merge (l ts : List KeyTree) : List KeyTree :=
  ts.foldl (fun l t => rewrite l (t.name, some t)) l

theorem names_rewrite (l : List KeyTree) (t : KeyTree) :
    (rewrite l (t.name, some t)).map name
      = if t.name ∈ l.map name then l.map name else l.map name ++ [t.name] := by
  have hnames : (rewrite l (t.name, some t)).map name
      = supplant (fun n => decide (n = t.name)) (some t.name) (l.map name) :=
    map_supplant name (some t) fun _ _ => rfl
  exact hnames.trans (upsert_name t.name (l.map name))

theorem mem_rewrite_self (l : List KeyTree) (t : KeyTree) : t ∈ rewrite l (t.name, some t) := by
  rcases first_cases (fun u : KeyTree => decide (u.name = t.name)) l with
    ⟨before, old, after, -, -, -, -, hput⟩ | ⟨-, -, -, hput⟩
  · rw [rewrite, supplant, hput]
    exact List.mem_append_right _ List.mem_cons_self
  · rw [rewrite, supplant, hput]
    exact List.mem_append_right _ List.mem_cons_self

theorem mem_rewrite_of_ne (hu : u ∈ l) (hne : u.name ≠ t.name) :
    u ∈ rewrite l (t.name, some t) := by
  rcases first_cases (fun u : KeyTree => decide (u.name = t.name)) l with
    ⟨before, old, after, rfl, hold, -, -, hput⟩ | ⟨-, -, -, hput⟩
  · rw [rewrite, supplant, hput]
    rcases List.mem_append.mp hu with hu | hu
    · exact List.mem_append_left _ hu
    · rcases List.mem_cons.mp hu with rfl | hu
      · exact absurd (of_decide_eq_true hold) hne
      · exact List.mem_append_right _ (List.mem_cons_of_mem _ hu)
  · rw [rewrite, supplant, hput]
    exact List.mem_append_left _ hu

/-- A tree that is there already is put where it is. -/
theorem rewrite_of_mem (hl : (l.map name).Nodup) (ht : t ∈ l) : rewrite l (t.name, some t) = l := by
  rcases first_cases (fun u : KeyTree => decide (u.name = t.name)) l with
    ⟨before, old, after, rfl, hold, -, -, hput⟩ | ⟨hall, -, -, -⟩
  · have hsame : t = old := List.inj_on_of_nodup_map hl ht
      (List.mem_append_right _ List.mem_cons_self) (of_decide_eq_true hold).symm
    rw [rewrite, supplant, hput, hsame]
  · exact absurd rfl (of_decide_eq_false (hall t ht))

/-- **The names that were there come first**, in their order, and then the new ones, in theirs. -/
theorem names_merge (hts : (ts.map name).Nodup) :
    (merge l ts).map name = l.map name ++ (ts.map name).filter fun n => n ∉ l.map name := by
  induction ts generalizing l with
  | nil => exact (List.append_nil _).symm
  | cons t ts ih =>
    obtain ⟨hnew, hrest⟩ := List.nodup_cons.mp hts
    have hstep := ih (l := rewrite l (t.name, some t)) hrest
    rw [names_rewrite] at hstep
    refine hstep.trans ?_
    rw [List.map_cons, List.filter_cons]
    by_cases hin : t.name ∈ l.map name
    · rw [if_pos hin, if_neg (by simpa using hin)]
    · rw [if_neg hin, if_pos (by simpa using hin), List.append_assoc, List.singleton_append]
      refine congrArg (fun names => l.map name ++ t.name :: names)
        (List.filter_congr fun n hn => ?_)
      -- the name that came in is none of those that are still to come
      have hne : n ≠ t.name := fun heq => hnew (heq ▸ hn)
      simp [hne]

theorem mem_merge_of_notMem (hu : u ∈ l) (hname : u.name ∉ ts.map name) : u ∈ merge l ts := by
  induction ts generalizing l with
  | nil => exact hu
  | cons t ts ih =>
    rw [List.map_cons, List.mem_cons, not_or] at hname
    exact ih (mem_rewrite_of_ne hu hname.1) hname.2

/-- **Every tree that is put is there in the end.** -/
theorem mem_merge (hts : (ts.map name).Nodup) (ht : t ∈ ts) : t ∈ merge l ts := by
  induction ts generalizing l with
  | nil => cases ht
  | cons t' ts ih =>
    obtain ⟨hnew, hrest⟩ := List.nodup_cons.mp hts
    rcases List.mem_cons.mp ht with rfl | ht
    · exact mem_merge_of_notMem (l := rewrite l (t.name, some t)) (mem_rewrite_self l t) hnew
    · exact ih hrest ht

/-- **To put what is there changes nothing.** -/
theorem merge_of_mem (hl : (l.map name).Nodup) (hts : ∀ t ∈ ts, t ∈ l) : merge l ts = l := by
  induction ts with
  | nil => rfl
  | cons t ts ih =>
    have hrest := ih fun u hu => hts u (List.mem_cons_of_mem t hu)
    rw [merge, List.foldl_cons, rewrite_of_mem hl (hts t List.mem_cons_self)]
    exact hrest

end KeyTree

/-! ### Entries -/

namespace Pool

/-- The metadata of a key was merged with trees: an entry of a name of theirs is new, and the
entries of other names are those that were there. -/
structure Merges (p : Pool) (k : Key) (ts : List KeyTree) (q : Pool) : Prop where
  /-- The key itself has its value. -/
  value : q.value k = p.value k
  /-- What the entries say was merged. -/
  trees : q.metaTrees k = KeyTree.merge (p.metaTrees k) ts
  /-- The entries of other names are there, and say what they said. -/
  kept : ∀ e ∈ p.entries k, p.name e ∉ ts.map KeyTree.name →
    e ∈ q.entries k ∧ q.name e = p.name e ∧ q.tree e.id = p.tree e.id
  /-- No other entries are there, but new ones. -/
  origin : ∀ e ∈ q.entries k, (e ∈ p.entries k ∧ p.name e ∉ ts.map KeyTree.name) ∨
    p.nextId ≤ e.id ∧ q.name e ∈ ts.map KeyTree.name

variable {p q : Pool} {S R : List (List Key)} {P H H' L L' : List RecordId} {k source : Key}
variable {ts : List KeyTree}

/-- **To plant trees one after the other merges them.** -/
theorem Balanced.merges (h : p.Balanced S R P H L) (hp : p.Forward) (hsingle : p.Single)
    (hk : k.id ∈ H) (hts : ∀ t ∈ ts, t.Distinct) :
    p.Merges k ts (ts.foldl (fun p t => p.plantEntry k t) p) := by
  induction ts generalizing p with
  | nil =>
    exact ⟨rfl, rfl, fun e he _ => ⟨he, rfl, rfl⟩, fun e he => .inl ⟨he, List.not_mem_nil⟩⟩
  | cons t ts ih =>
    have ht := hts t List.mem_cons_self
    obtain ⟨o, ho, -⟩ := h.exists_of_handle hk
    have hev := (Evolves.refl ∅ {k.id} p).plantEntry (find?_lt ho) rfl t
    obtain ⟨hreplaces, htree⟩ := h.replaces_plantEntry hp hsingle hk ht
    obtain ⟨hvalue, htrees, hkept, horigin⟩ := ih (h.plantEntry hk ht) (hev.forward hp)
      (hev.single hp hsingle) fun u hu => hts u (List.mem_cons_of_mem t hu)
    rw [List.foldl_cons]
    refine ⟨hvalue.trans (h.owner_plantEntry hk ht).1, ?_, fun e he hname => ?_, fun e he => ?_⟩
    · rw [htrees, hreplaces.metaTrees, Option.map_some, htree]
      rfl
    · rw [List.map_cons, List.mem_cons, not_or] at hname
      obtain ⟨hsame, hsame'⟩ := hreplaces.others e he hname.1
      obtain ⟨hmem, hrest, hrest'⟩ := hkept e (hreplaces.mem_iff.mpr (.inr ⟨he, hname.1⟩))
        (hsame ▸ hname.2)
      exact ⟨hmem, hrest.trans hsame, hrest'.trans hsame'⟩
    · rw [List.map_cons, List.mem_cons, List.mem_cons]
      rcases horigin e he with ⟨hmem, hname⟩ | ⟨hnew, hname⟩
      · rcases hreplaces.mem_iff.mp hmem with heq | ⟨hold, hne⟩
        · -- the entry of this tree, which no later one has replaced
          have hsame := hreplaces.name e heq
          obtain ⟨-, hrest, -⟩ := hkept e hmem hname
          cases heq
          exact .inr ⟨Nat.le_refl _, .inl (hrest.trans hsame)⟩
        · rw [(hreplaces.others e hold hne).1] at hname
          exact .inl ⟨hold, not_or.mpr ⟨hne, hname⟩⟩
      · exact .inr ⟨Nat.le_trans hev.grows hnew, .inr hname⟩

/-- **To copy all metadata merges it**, with the trees as they were read at the call. -/
theorem Balanced.merges_copyAllMeta (h : p.Balanced S R P H L) (hp : p.Forward)
    (hsingle : p.Single) (hk : k.id ∈ H) (source : Key) :
    p.Merges k (p.metaTrees source) (p.copyAllMeta k source) := by
  refine h.merges hp hsingle hk fun t ht => ?_
  obtain ⟨e, -, rfl⟩ := List.mem_map.mp ht
  exact h.tree_distinct e.id

namespace Merges

variable {e : Key}

/-- **The names keep their order**, and those that come in are behind them. -/
theorem metaNames (h : p.Merges k ts q) (hts : (ts.map KeyTree.name).Nodup) :
    q.metaNames k = p.metaNames k ++ (ts.map KeyTree.name).filter fun n => n ∉ p.metaNames k := by
  rw [← names_metaTrees, ← names_metaTrees, h.trees]
  exact KeyTree.names_merge hts

/-- **Each tree is what a new entry says.** -/
theorem exists_new {t : KeyTree} (h : p.Merges k ts q) (hts : (ts.map KeyTree.name).Nodup)
    (ht : t ∈ ts) : ∃ e ∈ q.entries k, q.tree e.id = t ∧ p.nextId ≤ e.id := by
  have hmem : t ∈ q.metaTrees k := by
    rw [h.trees]
    exact KeyTree.mem_merge hts ht
  obtain ⟨e, he, heq⟩ := List.mem_map.mp hmem
  refine ⟨e, he, heq, ?_⟩
  rcases h.origin e he with ⟨hold, hname⟩ | ⟨hnew, -⟩
  · -- an entry that was there before has none of the names
    refine absurd ?_ hname
    rw [← (h.kept e hold hname).2.1]
    refine List.mem_map.mpr ⟨t, ht, ?_⟩
    rw [← heq, name_tree]
    rfl
  · exact hnew

/-- **An entry whose name comes in goes out**, and loses its place. -/
theorem released (h : p.Merges k ts q) (hp : p.Balanced S R P H L) (hq : q.Balanced S R P H' L')
    (hforward : p.Forward) (hsingle : p.Single) (hev : p.Evolves ∅ {k.id} q)
    (he : e ∈ p.entries k) (hname : p.name e ∈ ts.map KeyTree.name) :
    e ∉ q.entries k ∧ (q.record e.id).locks + 1 = (p.record e.id).locks := by
  have hout : e ∉ q.entries k := fun hin => by
    rcases h.origin e hin with ⟨-, hnot⟩ | ⟨hnew, -⟩
    · exact hnot hname
    · exact absurd (hforward.entry he).2 (Nat.not_lt.mpr hnew)
  exact ⟨hout, hp.released hq hsingle hforward hev he hout⟩

/-- **To merge once more changes nothing.** -/
theorem tree_eq (h : p.Merges k ts q) (hname : q.name k = p.name k) (hp : p.Forward)
    (hq : q.Forward) (hdist : (p.metaNames k).Nodup) (hts : ∀ t ∈ ts, t ∈ p.metaTrees k) :
    q.tree k.id = p.tree k.id := by
  have htrees : q.metaTrees k = p.metaTrees k := by
    rw [h.trees]
    exact KeyTree.merge_of_mem (by rwa [names_metaTrees]) hts
  rw [hq.tree_eq, hp.tree_eq]
  exact congr (congrArg₂ KeyTree.node hname h.value) htrees

end Merges
end Pool

/-! ### The command -/

namespace Session

variable {s : Session} {slot source : String} {k k' : Key}

/-- What the command does to the records.  A source that does not hold the key stays as it is, and
goes on not to hold it. -/
theorem Reachable.merges_exec (h : s.Reachable) (hk : s.keys.get? slot = some k)
    (hk' : s.keys.get? source = some k') :
    ∃ s', s.exec (.copyAllMeta slot source) = some (.done, s') ∧ s'.keys = s.keys ∧
      s'.Reachable ∧ s.pool.Evolves ∅ {k.id} s'.pool ∧
      s'.pool.Balanced s.keySets s.registries.contents [] s.handleIds [] ∧
      s.pool.Merges k (s.pool.metaTrees k') s'.pool ∧
      (¬ s.pool.Holds k'.id k.id →
        ¬ s'.pool.Holds k'.id k.id ∧ s'.pool.tree k'.id = s.pool.tree k'.id) := by
  have hbal := h.sound.balanced
  have hmem := Sound.mem_handleIds hk
  have hlt := Stays.key_lt h.sound hk
  have hstep : s.exec (.copyAllMeta slot source)
      = some (.done, { s with pool := s.pool.copyAllMeta k k' }) :=
    Option.bind_eq_some_iff.mpr ⟨k, hk, Option.bind_eq_some_iff.mpr ⟨k', hk', rfl⟩⟩
  have hev := (Pool.Evolves.refl ∅ {k.id} s.pool).copyAllMeta hlt rfl k'
  refine ⟨_, hstep, rfl, h.step hstep, hev, hbal.copyAllMeta hmem k',
    hbal.merges_copyAllMeta h.forward h.single hmem k', fun hout => ⟨fun hin => ?_, ?_⟩⟩
  · exact hout (hev.holds_old h.forward hin hlt)
  · -- nothing was written to what the source holds
    exact (h.step hstep).sound.balanced.tree_eq hev h.forward
      ((h.step hstep).sound.exists_of_key hk') (Stays.key_lt h.sound hk') fun i hi =>
        ⟨Set.notMem_empty i, fun heq => hout (Set.mem_singleton_iff.mp heq ▸ hi)⟩

/-- **All metadata of a key is merged in order, and deeply**, whether the two keys are one, or one
is in the metadata of the other, or they have nothing to do with each other.  The command succeeds.
The names that were there come first, in their order, and behind them those of the source that are
new, in theirs.  For each entry of the source there is a new one that says what it said at the call,
of records that are all new.  The entries of other names are the same records as before, and say
what they said.  A source that is another record keeps its entries.  An entry that was replaced is
in the metadata no more and loses that one lock, so that its name is pinned only where a key set or
a registry holds it.  And where the source does not hold the key, to copy once more leaves the key
as it is: its name, its value, and all metadata at every level. -/
theorem Reachable.merges_metadata (h : s.Reachable) (hk : s.keys.get? slot = some k)
    (hk' : s.keys.get? source = some k') :
    ∃ s', s.exec (.copyAllMeta slot source) = some (.done, s') ∧ s'.keys = s.keys ∧
      s'.pool.metaNames k = s.pool.metaNames k
        ++ (s.pool.metaNames k').filter (fun n => n ∉ s.pool.metaNames k) ∧
      (∀ e ∈ s.pool.entries k', ∃ e' ∈ s'.pool.entries k, s'.pool.name e' = s.pool.name e ∧
        s'.pool.tree e'.id = s.pool.tree e.id ∧
        ∀ i, s'.pool.Holds e'.id i → s.pool.nextId ≤ i) ∧
      (∀ e ∈ s.pool.entries k, s.pool.name e ∉ s.pool.metaNames k' →
        e ∈ s'.pool.entries k ∧ s'.pool.name e = s.pool.name e ∧
          s'.pool.tree e.id = s.pool.tree e.id) ∧
      (k'.id ≠ k.id → s'.pool.entries k' = s.pool.entries k') ∧
      (∀ e ∈ s.pool.entries k, s.pool.name e ∈ s.pool.metaNames k' →
        e ∉ s'.pool.entries k ∧ (s'.pool.record e.id).locks + 1 = (s.pool.record e.id).locks ∧
        (s'.pool.isLocked e = true ↔ (∃ keys ∈ s.keySets, holds e.id keys = true) ∨
          ∃ keys ∈ s.registries.contents, holds e.id keys = true)) ∧
      (¬ s.pool.Holds k'.id k.id →
        ∃ s'', s'.exec (.copyAllMeta slot source) = some (.done, s'') ∧ s''.keys = s.keys ∧
          s''.pool.tree k.id = s'.pool.tree k.id ∧ s''.pool.tree k'.id = s'.pool.tree k'.id) := by
  obtain ⟨s', hstep, hkeys, h', hev, hbal', hmerges, hapart⟩ := h.merges_exec hk hk'
  have hbal := h.sound.balanced
  have hnames : (s.pool.metaTrees k').map KeyTree.name = s.pool.metaNames k' :=
    Pool.names_metaTrees _ _
  have hdist : ((s.pool.metaTrees k').map KeyTree.name).Nodup := hnames ▸ hbal.distinct_entries k'
  have hthere' : ∃ r, s'.pool.find? k'.id = some r :=
    h'.sound.exists_of_key ((congrArg (Slots.get? · source) hkeys).trans hk')
  have hlt' := Stays.key_lt h.sound hk'
  refine ⟨s', hstep, hkeys, ?_, fun e he => ?_, fun e he hname => ?_, fun hne => ?_,
    fun e he hname => ?_, fun hout => ?_⟩
  · rw [hmerges.metaNames hdist, hnames]
  · obtain ⟨e', he', htree, hnew⟩ := hmerges.exists_new hdist (List.mem_map_of_mem he)
    refine ⟨e', he', ?_, htree, fun i hi => Nat.le_trans hnew (hi.le h'.forward)⟩
    have hname := congrArg KeyTree.name htree
    rwa [Pool.name_tree, Pool.name_tree] at hname
  · exact hmerges.kept e he (hnames ▸ hname)
  · exact hev.entries_eq hlt' hne hthere'
  · obtain ⟨hout, hlocks⟩ := hmerges.released hbal hbal' h.forward h.single hev he (hnames ▸ hname)
    refine ⟨hout, hlocks, ?_⟩
    rw [← h.one_lt_locks he, Pool.isLocked, decide_eq_true_iff, ← hlocks]
    exact Nat.succ_lt_succ_iff.symm
  · have hget : s'.keys.get? slot = some k := (congrArg (Slots.get? · slot) hkeys).trans hk
    obtain ⟨s'', hstep', hkeys', h'', hev', -, hmerges', hapart'⟩ :=
      h'.merges_exec hget ((congrArg (Slots.get? · source) hkeys).trans hk')
    obtain ⟨hout', htree⟩ := hapart hout
    have hsame : s'.pool.metaTrees k' = s.pool.metaTrees k' := by
      rw [← h'.forward.entries_tree, htree, h.forward.entries_tree]
    have hname := hev'.name_eq (Stays.key_lt h'.sound hget) (Set.notMem_empty _)
      (h''.sound.exists_of_key ((congrArg (Slots.get? · slot) hkeys').trans hget))
    refine ⟨s'', hstep', hkeys'.trans hkeys, hmerges'.tree_eq hname h'.forward h''.forward
      (h'.sound.balanced.distinct_entries k) ?_, (hapart' hout').2⟩
    rw [hsame, hmerges.trees]
    exact fun t ht => KeyTree.mem_merge hdist ht

/-- The metadata of a key is merged into that of another one that has one name in common with it.
That name keeps its place, the other new one goes behind what was there, and the entry of the name
that only the key has stays the same record. -/
theorem Reachable.merges_metadata_in_place :
    ∃ s s', Session.execAll {} [.build "key" "user/a" [.entry "x" "1", .entry "y" "2"],
        .build "source" "user/b" [.entry "z" "3", .entry "x" "4"]] = some s ∧
      s.exec (.copyAllMeta "key" "source") = some (.done, s') ∧
      s'.pool.metaNames ⟨0, {}⟩
        = [⟨.cascading, ["x"]⟩, ⟨.cascading, ["y"]⟩, ⟨.cascading, ["z"]⟩] ∧
      ⟨2, {}⟩ ∈ s'.pool.entries ⟨0, {}⟩ ∧ ⟨1, {}⟩ ∉ s'.pool.entries ⟨0, {}⟩ ∧
      s'.pool.entries ⟨3, {}⟩ = [⟨4, {}⟩, ⟨5, {}⟩] := by
  have hrun : (Session.execAll {} [.build "key" "user/a" [.entry "x" "1", .entry "y" "2"],
      .build "source" "user/b" [.entry "z" "3", .entry "x" "4"]]).map (fun s => decide (
        s.keys.get? "key" = some ⟨0, {}⟩ ∧ s.keys.get? "source" = some ⟨3, {}⟩ ∧
        s.pool.entries ⟨0, {}⟩ = [⟨1, {}⟩, ⟨2, {}⟩] ∧ s.pool.entries ⟨3, {}⟩ = [⟨4, {}⟩, ⟨5, {}⟩] ∧
        s.pool.name ⟨1, {}⟩ = ⟨.cascading, ["x"]⟩ ∧ s.pool.name ⟨2, {}⟩ = ⟨.cascading, ["y"]⟩ ∧
        s.pool.name ⟨4, {}⟩ = ⟨.cascading, ["z"]⟩ ∧ s.pool.name ⟨5, {}⟩ = ⟨.cascading, ["x"]⟩))
      = some true := by
    decide +kernel
  obtain ⟨s, hs, hfacts⟩ := Option.map_eq_some_iff.mp hrun
  obtain ⟨hk, hk', hentries, hentries', hx, hy, hz, hx'⟩ := of_decide_eq_true hfacts
  have hnames : s.pool.metaNames ⟨0, {}⟩ = [⟨.cascading, ["x"]⟩, ⟨.cascading, ["y"]⟩] := by
    rw [Pool.metaNames, hentries, List.map_cons, List.map_singleton, hx, hy]
  have hnames' : s.pool.metaNames ⟨3, {}⟩ = [⟨.cascading, ["z"]⟩, ⟨.cascading, ["x"]⟩] := by
    rw [Pool.metaNames, hentries', List.map_cons, List.map_singleton, hz, hx']
  obtain ⟨s', hstep, -, hmerged, -, hkept, hsource, hout, -⟩ :=
    (Reachable.start.execAll hs).merges_metadata hk hk'
  refine ⟨s, s', hs, hstep, ?_, ?_, ?_, (hsource (by decide)).trans hentries'⟩
  · rw [hmerged, hnames, hnames']
    rfl
  · refine (hkept ⟨2, {}⟩ (by rw [hentries]; decide) ?_).1
    rw [hy, hnames']
    decide
  · refine (hout ⟨1, {}⟩ (by rw [hentries]; decide) ?_).1
    rw [hx, hnames']
    decide

end Session
end ConfigKeys
