import ConfigKeys.Proofs.Session.Maps
import ConfigKeys.Proofs.Session.Stores

/-!
# Subtrees of key sets

A host shares the subtree below a key with another set, moves it there, or asks for the keys that
stand in some relation to the key.  The first two look for the ends of a run of keys and the last
one at every key, and in every session that a host reaches they agree.

## Main definitions

* `KeySet.ByRelation` — what a set gives of a subtree is what the relations of its keys say.

## Main results

* `Session.exec_below`, `Session.exec_cut` — the sessions after a subtree was shared, or moved.
* `Session.Reachable.subtrees_by_relation` — every set gives of a subtree what relations say.
-/

namespace ConfigKeys

/-- What a set gives of the subtree at a name is what the relations of its keys to the name say. -/
structure KeySet.ByRelation (p : Pool) (s : KeySet) (n : Name) : Prop where
  /-- The keys that are shared are those at or below the name. -/
  below : (s.below p n).2.toList = s.toList.filter fun k => (p.name k).isBelowOrSame n
  /-- To share them writes nothing. -/
  shared : ∀ i, ((s.below p n).1.record i).name = (p.record i).name ∧
    ((s.below p n).1.record i).value = (p.record i).value ∧
    ((s.below p n).1.record i).entries = (p.record i).entries
  /-- So are the keys that are moved. -/
  taken : (s.cut p n).1.toList = s.toList.filter fun k => (p.name k).isBelowOrSame n
  /-- The keys that are left are the others. -/
  rest : (s.cut p n).2.toList = s.toList.filter fun k => !(p.name k).isBelowOrSame n
  /-- Both are in order. -/
  order : p.Ascending (s.cut p n).1.toList ∧ p.Ascending (s.cut p n).2.toList
  /-- No key is lost. -/
  whole : ((s.cut p n).1.toList ++ (s.cut p n).2.toList).Perm s.toList
  /-- No record comes twice. -/
  distinct : (((s.cut p n).1.toList ++ (s.cut p n).2.toList).map Key.id).Nodup
  /-- The keys that are moved stay locked. -/
  locked : ∀ k ∈ (s.cut p n).1.toList, 0 < (p.record k.id).locks
  /-- A selection by relation is in order, and holds the keys that stand in the relation. -/
  selected : ∀ r, (s.related p n r).Sublist s.toList ∧
    ∀ k, k ∈ s.related p n r ↔ k ∈ s.toList ∧ n.relation (p.name k) = r
  /-- No record is in two selections. -/
  disjoint : ∀ r r', ∀ k ∈ s.related p n r, ∀ k' ∈ s.related p n r', k.id = k'.id → r = r'
  /-- Every key is in one selection, and comes there once. -/
  all : (Relation.all.flatMap (s.related p n)).Perm s.toList
  /-- The selections of the name itself, of its children and of the names further down make up what
  is shared. -/
  merged : ([Relation.same, Relation.directChild, Relation.descendant].flatMap
    (s.related p n)).Perm (s.below p n).2.toList

/-- To lock keys changes nothing that records say. -/
theorem Pool.record_lockAll (p : Pool) (keys : List Key) (i : RecordId) :
    ((p.lockAll keys).record i).name = (p.record i).name ∧
      ((p.lockAll keys).record i).value = (p.record i).value ∧
      ((p.lockAll keys).record i).entries = (p.record i).entries := by
  refine List.foldlRecOn (motive := fun q : Pool => (q.record i).name = (p.record i).name ∧
    (q.record i).value = (p.record i).value ∧ (q.record i).entries = (p.record i).entries)
    keys _ ⟨rfl, rfl, rfl⟩ ?_
  rintro q ⟨hname, hvalue, hentries⟩ k -
  obtain ⟨hname', hvalue', hentries'⟩ := Pool.record_lock q k.id i
  exact ⟨hname'.trans hname, hvalue'.trans hvalue, hentries'.trans hentries⟩

/-- **A set that balances gives of a subtree what relations say.** -/
theorem Pool.Balanced.byRelation {p : Pool} {S R : List (List Key)} {P H L : List RecordId}
    {ks : KeySet} (h : p.Balanced S R P H L) (hks : ks.toList ∈ S) (n : Name) :
    ks.ByRelation p n := by
  have hasc := h.ascending _ hks
  have hbelow : (ks.below p n).2.toList
      = ks.toList.filter fun k => (p.name k).isBelowOrSame n := KeySet.subtree_eq_filter hasc n
  obtain ⟨htaken, hrest⟩ := KeySet.cut_eq_filter hasc n
  have hwhole := KeySet.cut_perm p ks n
  constructor
  case below => exact hbelow
  case shared => exact p.record_lockAll _
  case taken => exact htaken
  case rest => exact hrest
  case order =>
    rw [htaken, hrest]
    exact ⟨hasc.sublist List.filter_sublist, hasc.sublist List.filter_sublist⟩
  case whole => exact hwhole
  case distinct => exact (hwhole.map Key.id).nodup_iff.mpr hasc.distinct.nodup_ids
  case locked =>
    intro k hk
    exact h.locked_of_mem_set hks (KeySet.mem_cut (.inl hk))
  case selected => exact fun r => ⟨List.filter_sublist, fun k => KeySet.mem_related⟩
  case disjoint => exact fun r r' k hk k' hk' => KeySet.related_disjoint hk hk'
  case all =>
    refine (KeySet.flatMap_related_perm p ks n (by decide)).trans (.of_eq ?_)
    exact List.filter_eq_self.mpr fun k _ => decide_eq_true (Relation.mem_all _)
  case merged =>
    refine (KeySet.flatMap_related_perm p ks n (by decide)).trans (.of_eq ?_)
    rw [hbelow]
    exact List.filter_congr fun k _ => (Name.isBelowOrSame_eq_decide _ _).symm

namespace Session

variable {s s' : Session} {set key into slot : String} {ks : KeySet} {k : Key}

theorem exec_below (into : String) (hks : s.sets.get? set = some ks)
    (hk : s.keys.get? key = some k) :
    s.exec (.below set key into) = some
      (.names (names (ks.below s.pool (s.pool.name k)).1 (ks.below s.pool (s.pool.name k)).2),
        { s with pool := (ks.below s.pool (s.pool.name k)).1 }.storeSet into
          (ks.below s.pool (s.pool.name k)).2) :=
  Option.bind_eq_some_iff.mpr ⟨ks, hks, Option.bind_eq_some_iff.mpr ⟨k, hk, rfl⟩⟩

theorem exec_cut (into : String) (hks : s.sets.get? set = some ks)
    (hk : s.keys.get? key = some k) :
    s.exec (.cut set key into) = some
      (.parted (names s.pool (ks.cut s.pool (s.pool.name k)).1)
          (names s.pool (ks.cut s.pool (s.pool.name k)).2),
        { s with sets := s.sets.put set (ks.cut s.pool (s.pool.name k)).2 }.storeSet into
          (ks.cut s.pool (s.pool.name k)).1) :=
  Option.bind_eq_some_iff.mpr ⟨ks, hks, Option.bind_eq_some_iff.mpr ⟨k, hk, rfl⟩⟩

theorem get?_storeSet_of_ne (s : Session) (ks : KeySet) (hne : slot ≠ into) :
    (s.storeSet into ks).sets.get? slot = s.sets.get? slot :=
  Slots.get?_put_of_ne _ _ hne

/-- The keys of a set in a slot say what they said before a step that writes nothing, and are
locked. -/
theorem Reachable.members_kept (h : s.Reachable) (h' : s'.Reachable)
    (hev : s.pool.Evolves ∅ ∅ s'.pool) (hget : s'.sets.get? slot = some ks)
    (hold : ∀ k ∈ ks.toList, ∃ r, s.pool.find? k.id = some r) :
    ∀ k ∈ ks.toList, s'.pool.tree k.id = s.pool.tree k.id ∧ 0 < (s'.pool.record k.id).locks := by
  intro k hk
  have hmem : ks.toList ∈ s'.keySets := Sound.mem_keySets (S := []) hget
  obtain ⟨r, hr⟩ := hold k hk
  exact ⟨h'.sound.balanced.tree_eq_of_evolves hev h.forward
    (h'.sound.balanced.exists_of_mem_set hmem hk) (Pool.find?_lt hr),
    h'.sound.balanced.locked_of_mem_set hmem hk⟩

/-- **Every set gives of a subtree what relations say**, in every session that a host reaches.  A
subtree that is shared or moved ends up in its slot with the records as they were, all of them
locked; the set that it is shared with stays as it is, and a set from which it is moved keeps the
other keys. -/
theorem Reachable.subtrees_by_relation (h : s.Reachable) :
    (∀ ks : KeySet, ks.toList ∈ s.keySets → ∀ n, ks.ByRelation s.pool n) ∧
    ∀ (set key into : String) (ks : KeySet) (k : Key), s.sets.get? set = some ks →
      s.keys.get? key = some k →
      (∃ reply s₁ taken, s.exec (.below set key into) = some (reply, s₁) ∧
        s₁.sets.get? into = some taken ∧
        taken.toList = (ks.toList.filter fun x => (s.pool.name x).isBelowOrSame (s.pool.name k)) ∧
        (∀ x ∈ taken.toList, s₁.pool.tree x.id = s.pool.tree x.id ∧
          0 < (s₁.pool.record x.id).locks) ∧
        (into ≠ set → s₁.sets.get? set = some ks ∧
          ∀ x ∈ ks.toList, s₁.pool.tree x.id = s.pool.tree x.id)) ∧
      ∃ reply s₁ taken rest, s.exec (.cut set key into) = some (reply, s₁) ∧
        s₁.sets.get? into = some taken ∧
        taken.toList = (ks.toList.filter fun x => (s.pool.name x).isBelowOrSame (s.pool.name k)) ∧
        (∀ x ∈ taken.toList, s₁.pool.tree x.id = s.pool.tree x.id ∧
          0 < (s₁.pool.record x.id).locks) ∧
        rest.toList = (ks.toList.filter fun x => !(s.pool.name x).isBelowOrSame (s.pool.name k)) ∧
        (into ≠ set → s₁.sets.get? set = some rest ∧
          ∀ x ∈ rest.toList, s₁.pool.tree x.id = s.pool.tree x.id) := by
  refine ⟨fun ks hks n => h.sound.balanced.byRelation hks n, fun set key into ks k hks hk => ?_⟩
  have hmem : ks.toList ∈ s.keySets := Sound.mem_keySets (S := []) hks
  have hby := h.sound.balanced.byRelation hmem (s.pool.name k)
  have hthere : ∀ x ∈ ks.toList, ∃ r, s.pool.find? x.id = some r :=
    fun x hx => h.sound.exists_of_member hks hx
  constructor
  · have hstep := exec_below into hks hk
    have hev := ((Pool.Evolves.refl ∅ ∅ s.pool).lockAll _).trans (Sound.storeSet_evolves
      { s with pool := (ks.below s.pool (s.pool.name k)).1 } into
      (ks.below s.pool (s.pool.name k)).2)
    have htaken := Sound.get?_storeSet { s with pool := (ks.below s.pool (s.pool.name k)).1 } into
      (ks.below s.pool (s.pool.name k)).2
    refine ⟨_, _, _, hstep, htaken, hby.below, ?_, fun hne => ?_⟩
    · refine h.members_kept (.step h hstep) hev htaken fun x hx => hthere x ?_
      rw [hby.below] at hx
      exact List.mem_of_mem_filter hx
    · have hset := (get?_storeSet_of_ne { s with pool := (ks.below s.pool (s.pool.name k)).1 }
        (ks.below s.pool (s.pool.name k)).2 hne.symm).trans hks
      exact ⟨hset, fun x hx => (h.members_kept (.step h hstep) hev hset hthere x hx).1⟩
  · have hstep := exec_cut into hks hk
    have hev := Sound.storeSet_evolves
      { s with sets := s.sets.put set (ks.cut s.pool (s.pool.name k)).2 } into
      (ks.cut s.pool (s.pool.name k)).1
    have htaken := Sound.get?_storeSet
      { s with sets := s.sets.put set (ks.cut s.pool (s.pool.name k)).2 } into
      (ks.cut s.pool (s.pool.name k)).1
    refine ⟨_, _, _, _, hstep, htaken, hby.taken, ?_, hby.rest, fun hne => ?_⟩
    · exact h.members_kept (.step h hstep) hev htaken fun x hx =>
        hthere x (KeySet.mem_cut (.inl hx))
    · have hset := (get?_storeSet_of_ne
        { s with sets := s.sets.put set (ks.cut s.pool (s.pool.name k)).2 }
        (ks.cut s.pool (s.pool.name k)).1 hne.symm).trans (Slots.get?_put_self _ _ _)
      exact ⟨hset, fun x hx => (h.members_kept (.step h hstep) hev hset
        (fun x hx => hthere x (KeySet.mem_cut (.inr hx))) x hx).1⟩

/-- A subtree is moved, of which the top is in the set and named by another key; a name that begins
with the text of its name stays. -/
theorem Reachable.subtrees_by_relation_moved :
    ∃ s reply s₁ taken rest, Session.execAll {} [.build "key" "user/app" [],
        .build "child" "user/app/a" [], .build "other" "user/app-data" [],
        .collect "set" ["key", "child", "other"], .build "top" "user/app" []] = some s ∧
      s.exec (.cut "set" "top" "part") = some (reply, s₁) ∧
      s₁.sets.get? "part" = some taken ∧ s₁.sets.get? "set" = some rest ∧
      taken.toList.map s.pool.name = [⟨.user, ["app"]⟩, ⟨.user, ["app", "a"]⟩] ∧
      rest.toList.map s.pool.name = [⟨.user, ["app-data"]⟩] := by
  have hrun : (Session.execAll {} [.build "key" "user/app" [],
      .build "child" "user/app/a" [], .build "other" "user/app-data" [],
      .collect "set" ["key", "child", "other"], .build "top" "user/app" []]).map (fun s =>
        ((s.sets.get? "set").map fun ks =>
          ((ks.toList.filter fun x => (s.pool.name x).isBelowOrSame ⟨.user, ["app"]⟩).map
              s.pool.name,
            (ks.toList.filter fun x => !(s.pool.name x).isBelowOrSame ⟨.user, ["app"]⟩).map
              s.pool.name), (s.keys.get? "top").map s.pool.name))
      = some (some ([⟨.user, ["app"]⟩, ⟨.user, ["app", "a"]⟩], [⟨.user, ["app-data"]⟩]),
          some ⟨.user, ["app"]⟩) := by decide +kernel
  obtain ⟨s, hs, hfacts⟩ := Option.map_eq_some_iff.mp hrun
  obtain ⟨hset, htop⟩ := Prod.mk.inj hfacts
  obtain ⟨ks, hks, hnames⟩ := Option.map_eq_some_iff.mp hset
  obtain ⟨k, hk, hname⟩ := Option.map_eq_some_iff.mp htop
  obtain ⟨hinside, houtside⟩ := Prod.mk.inj hnames
  obtain ⟨-, hslots⟩ := (Reachable.start.execAll hs).subtrees_by_relation
  obtain ⟨-, reply, s₁, taken, rest, hstep, hpart, htaken, -, hrest, hleft⟩ :=
    hslots "set" "top" "part" ks k hks hk
  rw [hname] at htaken hrest
  refine ⟨s, reply, s₁, taken, rest, hs, hstep, hpart, (hleft (by decide)).1, ?_, ?_⟩
  · rw [htaken]
    exact hinside
  · rw [hrest]
    exact houtside

end Session
end ConfigKeys
