import ConfigKeys.Proofs.Plugin.Guard
import ConfigKeys.Proofs.Session.Independence

/-!
# What a read leaves stale

To read replaces those of the caller's keys that do not say what the kept key of their name says.
The comparison sees the name and the value of a key, and the names and bytes in its metadata.  It
does not see whether an entry of the metadata is binary, nor what metadata the entry has, so a key
that differs there only stays as it is.

## Main results

* `KeyTree.readInto_eq_iff` — when a read leaves what is kept.
* `Session.Reachable.get_refreshes` — what is fresh after a read, and when all of it is.
* `Session.get_leaves_stale` — an entry that was made binary, and has a note, stays so.
-/

namespace ConfigKeys

/-! ### The comparison -/

namespace KeyTree

variable {mine kept : KeyTree} {caller : Option KeyTree}

/-- After a read the caller has a key that agrees with the kept one. -/
theorem exists_readInto (kept : KeyTree) (caller : Option KeyTree) :
    ∃ t, readInto (some kept) caller = some t ∧ t.agrees kept = true := by
  rw [readInto, isNews]
  cases caller with
  | none => exact ⟨kept, rfl, kept.agrees_self⟩
  | some mine =>
    rw [Option.any_some]
    cases hagrees : mine.agrees kept with
    | false => exact ⟨kept, rfl, kept.agrees_self⟩
    | true => exact ⟨mine, rfl, hagrees⟩

/-- **A read leaves what is kept**, unless the caller had another key that agrees with it. -/
theorem readInto_eq_iff : readInto (some kept) caller = some kept ↔
    ∀ mine, caller = some mine → mine.agrees kept = true → mine = kept := by
  rw [readInto, isNews]
  cases caller with
  | none => exact ⟨fun _ _ h => absurd h (Option.some_ne_none _).symm, fun _ => rfl⟩
  | some mine =>
    rw [Option.any_some]
    cases hagrees : mine.agrees kept with
    | false =>
      refine ⟨fun _ t ht h => ?_, fun _ => rfl⟩
      cases ht
      rw [hagrees] at h
      cases h
    | true =>
      constructor
      · intro h t ht _
        cases ht
        exact Option.some.inj h
      · intro h
        exact congrArg some (h mine rfl hagrees)

end KeyTree

namespace Session

variable {s s' : Session} {id : StoreId} {slot key set : String} {m : MemoryStore} {k : Key}
variable {ks : KeySet}

/-- What is kept has different names. -/
theorem Sound.nodup_keptTrees (h : s.Sound [] [] []) (hid : id < s.stores.size) (n : Name) :
    ((s.keptTrees id n).map KeyTree.name).Nodup := by
  have hdist := (h.balanced.ascending _ (mem_keySets_of_store hid)).distinct
  have hpairs : (s.pool.pairs (s.store id).toList).map Prod.fst
      = (s.store id).toList.map s.pool.name := by
    rw [Pool.pairs, List.map_map]
    rfl
  have hnames : (s.keptTrees id n).map KeyTree.name = (s.storedBelow id n).map Prod.fst := by
    rw [keptTrees, List.map_map]
    refine List.map_congr_left fun e he => ?_
    obtain ⟨k, -, hname, hk⟩ := Pool.mem_pairs.mp (Pool.mem_pairsBelow.mp he).1
    rw [Function.comp_apply, Pool.name_tree, ← hk, ← hname]
    rfl
  rw [hnames]
  exact List.Nodup.sublist (List.filter_sublist.map Prod.fst) (hpairs ▸ hdist)

theorem Sound.find?_keptTrees (h : s.Sound [] [] []) (hid : id < s.stores.size) {n : Name}
    {t : KeyTree} (ht : t ∈ s.keptTrees id n) :
    (s.keptTrees id n).find? (fun u => u.name = t.name) = some t :=
  find?_of_nodup_map (h.nodup_keptTrees hid n) ht

/-- What is found under a name in a set has that name. -/
theorem Sound.name_treeAt? (h : s.Sound [] [] []) (hks : s.sets.get? set = some ks) {n : Name}
    {t : KeyTree} (ht : ks.treeAt? s.pool n = some t) : t.name = n := by
  obtain ⟨k, hk, rfl⟩ := Option.map_eq_some_iff.mp ht
  have hasc := h.balanced.ascending _ (Sound.mem_keySets (S := []) hks)
  rw [Pool.name_tree]
  exact ((KeySet.find?_eq_some_iff hasc).mp hk).2

/-- A key that stays in a set says what it said, if nothing is written that it holds. -/
theorem Reachable.tree_kept {W : Set RecordId} {keys : List Key} {x : Key} (h : s.Reachable)
    (h' : s'.Reachable) (hev : s.pool.Evolves ∅ W s'.pool) (hkeys : keys ∈ s.keySets)
    (hkeys' : keys ∈ s'.keySets) (hx : x ∈ keys) (hout : ∀ i ∈ W, ¬ s.pool.Holds x.id i) :
    s'.pool.tree x.id = s.pool.tree x.id := by
  obtain ⟨r, hr⟩ := h.sound.balanced.exists_of_mem_set hkeys hx
  have hthere := h'.sound.balanced.exists_of_mem_set hkeys' hx
  exact h'.sound.balanced.tree_eq hev h.forward hthere (Pool.find?_lt hr) fun i hi =>
    ⟨Set.notMem_empty i, fun hW => hout i hW hi⟩

/-- A step that writes nothing, and leaves the kept keys, leaves what they say. -/
theorem Reachable.keptTrees_eq (h : s.Reachable) (h' : s'.Reachable)
    (hev : s.pool.Evolves ∅ ∅ s'.pool) (hid : id < s.stores.size) (hid' : id < s'.stores.size)
    (hstore : s'.store id = s.store id) (n : Name) : s'.keptTrees id n = s.keptTrees id n := by
  have hkeys := mem_keySets_of_store hid
  have hkeys' : (s.store id).toList ∈ s'.keySets := hstore ▸ mem_keySets_of_store hid'
  have hnames := KeySet.names_kept hev (fun x hx => h.sound.balanced.exists_of_mem_set hkeys hx)
    h'.sound.balanced hkeys'
  have hbelow : s'.storedBelow id n = s.storedBelow id n := by
    rw [storedBelow, hstore, Pool.pairsBelow_congr hnames, storedBelow]
  rw [keptTrees, hbelow, keptTrees]
  refine List.map_congr_left fun e he => ?_
  obtain ⟨x, hx, -, heq⟩ := Pool.mem_pairs.mp (Pool.mem_pairsBelow.mp he).1
  rw [← heq]
  exact h.tree_kept h' hev hkeys hkeys' hx fun i hi => absurd hi (Set.notMem_empty i)

/-- **A read leaves little stale.**  It leaves the kept keys alone, and whatever the caller had,
the caller has a key for each that is kept at or below the parent, with its name, its value and in
its metadata the same names and bytes in the same order.  All of it is what is kept if the caller
had no key that differs from the kept one of its name only where the comparison does not look, and
only then. -/
theorem Reachable.get_refreshes (h : s.Reachable)
    (hplugin : s.plugins.get? slot = some (.memory id m)) (hopen : m.isOpen = true)
    (hk : s.keys.get? key = some k) (hks : s.sets.get? set = some ks) :
    ∃ status s' read, s.exec (.run slot .get (some set) key) = some (.status status, s') ∧
      status ≠ .error ∧ s'.sets.get? set = some read ∧
      (∀ n, s'.keptTrees id n = s.keptTrees id n) ∧
      (∀ kept ∈ s.keptTrees id (s.pool.name k), ∃ t, read.treeAt? s'.pool kept.name = some t ∧
        t.name = kept.name ∧ t.value = kept.value ∧
        t.entries.map (fun e => (e.name, e.value.bytes))
          = kept.entries.map fun e => (e.name, e.value.bytes)) ∧
      ((∀ kept ∈ s.keptTrees id (s.pool.name k),
          read.treeAt? s'.pool kept.name = some kept) ↔
        ∀ kept ∈ s.keptTrees id (s.pool.name k), ∀ mine,
          ks.treeAt? s.pool kept.name = some mine → mine.agrees kept = true → mine = kept) := by
  have hid := h.sound.store_lt hplugin
  have hcaller : s.callerSet (some set) = some ks := hks
  obtain ⟨s', read, hexec, hread, hnamed⟩ :=
    h.sound.exec_get_reads h.forward hplugin hopen hk hks
  have h' := h.step hexec
  -- the stage leaves the kept keys, and writes nothing
  have hsame := exec_run hplugin hk hcaller .get
  obtain ⟨-, hafter⟩ := Prod.mk.inj (Option.some.inj (hexec.symm.trans hsame))
  have hstore : s'.store id = s.store id := by
    rw [hafter, store_afterStage hid]
    simp only [MemoryStore.run, MemoryStore.onGet, hopen, if_true]
  have hev : s.pool.Evolves ∅ ∅ s'.pool := by
    rw [hafter]
    exact ((Pool.Evolves.refl ∅ ∅ s.pool).onGet hopen).trans (pool_afterStage _ _ _ _ _)
  have hid' : id < s'.stores.size := by
    rw [hafter]
    simpa [afterStage] using hid
  have hfound : ∀ kept ∈ s.keptTrees id (s.pool.name k), read.treeAt? s'.pool kept.name
      = KeyTree.readInto (some kept) (ks.treeAt? s.pool kept.name) := by
    intro kept hkept
    rw [hnamed, h.sound.find?_keptTrees hid hkept]
  refine ⟨_, s', read, hexec, ?_, hread, h.keptTrees_eq h' hev hid hid' hstore, ?_, ?_⟩
  · unfold Status.ofCount
    split <;> decide
  · intro kept hkept
    obtain ⟨t, ht, hagrees⟩ := KeyTree.exists_readInto kept (ks.treeAt? s.pool kept.name)
    rw [← hfound kept hkept] at ht
    obtain ⟨hvalue, hentries⟩ := KeyTree.agrees_iff.mp hagrees
    exact ⟨t, ht, h'.sound.name_treeAt? hread ht, hvalue, hentries⟩
  · refine forall₂_congr fun kept hkept => ?_
    rw [hfound kept hkept]
    exact KeyTree.readInto_eq_iff

/-- A caller has changed the value of a key that was read, and reads it again. -/
theorem Reachable.get_refreshes_changed :
    ∃ s s' read kept status, Session.exec s (.run "store" .get (some "read") "parent")
        = some (.status status, s') ∧ status ≠ .error ∧ s'.sets.get? "read" = some read ∧
      s.keptTrees 0 ⟨.user, ["a"]⟩ = [kept] ∧ s'.keptTrees 0 ⟨.user, ["a"]⟩ = [kept] ∧
      read.treeAt? s'.pool kept.name = some kept := by
  have hrun : ((Session.execAll {} [.plug "store" .memory none, .build "parent" "user/a" [],
      .build "key" "user/a/b" [.text "kept"], .collect "set" ["key"],
      .run "store" .opening none "parent", .run "store" .set (some "set") "parent",
      .newSet "read", .run "store" .get (some "read") "parent",
      .fetch (.memberAt "read" 0) (some "got"), .setValue "got" (.ofText "changed")]).map
        fun s => decide (s.writableStore? "store" = some 0 ∧
          s.keys.get? "parent" = some ⟨0, {}⟩ ∧ s.pool.name ⟨0, {}⟩ = ⟨.user, ["a"]⟩ ∧
          (s.keptTrees 0 ⟨.user, ["a"]⟩).map (fun t => (t.name, t.value))
            = [(⟨.user, ["a", "b"]⟩, .ofText "kept")] ∧
          (s.sets.get? "read").map (fun ks =>
            (ks.treeAt? s.pool ⟨.user, ["a", "b"]⟩).map KeyTree.value)
              = some (some (.ofText "changed")))) = some true := by decide +kernel
  obtain ⟨s, hs, hfacts⟩ := Option.map_eq_some_iff.mp hrun
  obtain ⟨hstore, hk, hname, hkept, hread⟩ := of_decide_eq_true hfacts
  obtain ⟨ks, hks, hmine⟩ := Option.map_eq_some_iff.mp hread
  obtain ⟨m, hplugin, hopen, -⟩ := exists_of_writableStore? hstore
  obtain ⟨kept, hkept, htree⟩ := List.map_eq_singleton_iff.mp hkept
  obtain ⟨hkname, hkvalue⟩ := Prod.mk.inj htree
  obtain ⟨status, s', read, hget, hstatus, hread, hsame, -, hfresh⟩ :=
    (Reachable.start.execAll hs).get_refreshes hplugin hopen hk hks
  rw [hname, hkept] at hfresh
  refine ⟨s, s', read, kept, status, hget, hstatus, hread, hkept, (hsame _).trans hkept, ?_⟩
  -- the two differ in their values, which the comparison sees
  refine hfresh.mpr (fun t ht mine hfound hagrees => ?_) kept List.mem_cons_self
  obtain rfl := List.mem_singleton.mp ht
  rw [hkname] at hfound
  rw [hfound, Option.map_some] at hmine
  have hvalue := (KeyTree.agrees_iff.mp hagrees).1
  rw [Option.some.inj hmine, hkvalue] at hvalue
  exact absurd hvalue (by decide +kernel)

/-- **A read leaves an entry stale** that the caller made binary and gave a note: the bytes are
those of the kept entry, and the comparison looks no further. -/
theorem get_leaves_stale :
    ∃ s s' read kept mine, Reachable s ∧ s.writableStore? "store" = some 0 ∧
      s.exec (.run "store" .get (some "read") "parent") = some (.status .noUpdate, s') ∧
      s'.sets.get? "read" = some read ∧ s'.keptTrees 0 ⟨.user, ["a"]⟩ = [kept] ∧
      read.treeAt? s'.pool kept.name = some mine ∧
      kept.entries.map KeyTree.value = [⟨[0x31], false⟩] ∧
      mine.entries.map KeyTree.value = [⟨[0x31], true⟩] ∧
      kept.entries.map (fun e => e.entries.length) = [0] ∧
      mine.entries.map (fun e => e.entries.length) = [1] := by
  have hrun : ((Session.execAll {} [.plug "store" .memory none, .build "parent" "user/a" [],
      .build "key" "user/a/b" [.entry "mode" "1"], .collect "set" ["key"],
      .run "store" .opening none "parent", .run "store" .set (some "set") "parent",
      .newSet "read", .run "store" .get (some "read") "parent",
      .fetch (.memberAt "read" 0) (some "got"), .fetch (.entry "got" "mode") (some "entry"),
      .setValue "entry" (.ofBytes [0x31]), .setMeta "entry" "note" "2"]).bind fun s =>
        (s.exec (.run "store" .get (some "read") "parent")).bind fun o =>
        (o.2.sets.get? "read").map fun read => decide (s.writableStore? "store" = some 0 ∧
          s.status? (.run "store" .get (some "read") "parent") = some .noUpdate ∧
          (o.2.keptTrees 0 ⟨.user, ["a"]⟩).map (fun t => (t.name, t.entries.map KeyTree.value,
            t.entries.map fun e => e.entries.length))
              = [(⟨.user, ["a", "b"]⟩, [⟨[0x31], false⟩], [0])] ∧
          (read.treeAt? o.2.pool ⟨.user, ["a", "b"]⟩).map (fun t => (t.entries.map KeyTree.value,
            t.entries.map fun e => e.entries.length))
              = some ([⟨[0x31], true⟩], [1]))) = some true := by decide +kernel
  obtain ⟨s, hs, hrun⟩ := Option.bind_eq_some_iff.mp hrun
  obtain ⟨⟨reply, s'⟩, hget, hrun⟩ := Option.bind_eq_some_iff.mp hrun
  obtain ⟨read, hread, hfacts⟩ := Option.map_eq_some_iff.mp hrun
  obtain ⟨hstore, hstatus, hkept, hmine⟩ := of_decide_eq_true hfacts
  obtain rfl := reply_eq hstatus hget
  obtain ⟨kept, hkept, htree⟩ := List.map_eq_singleton_iff.mp hkept
  simp only [Prod.mk.injEq] at htree
  obtain ⟨hname, hvalues, hnotes⟩ := htree
  obtain ⟨mine, hfound, htree⟩ := Option.map_eq_some_iff.mp hmine
  obtain ⟨hvalues', hnotes'⟩ := Prod.mk.inj htree
  exact ⟨s, s', read, kept, mine, Reachable.start.execAll hs, hstore, hget, hread, hkept,
    hname ▸ hfound, hvalues, hvalues', hnotes, hnotes'⟩

end Session
end ConfigKeys
