import ConfigKeys.Proofs.Plugin.News
import ConfigKeys.Proofs.Session.Writes

/-!
# A read touches what is news

A host reads with a store that is open, whatever the store keeps, whatever the caller's set holds
and wherever a walk along the set is.

## Main definitions

* `Session.ReadsNews` — what a read does to the caller's set, and what it leaves alone.

## Main results

* `Session.Reachable.get_touches_news` — **a read touches what is news, and only the first time.**
-/

namespace ConfigKeys
namespace Session

variable {s : Session} {id : StoreId} {slot key set : String} {m : MemoryStore} {k : Key}
variable {ks : KeySet}

/-- From the caller's keys `ks` in `s` to the keys `read` in `s'`, what is kept at or below a parent
was read, as far as it was news. -/
structure ReadsNews (s : Session) (id : StoreId) (parent : Name) (ks : KeySet) (s' : Session)
    (read : KeySet) : Prop where
  /-- No name goes out. -/
  names : ks.names s.pool ⊆ read.names s'.pool
  /-- A key of the caller stays the record that it is and says what it said, unless a kept key of
  its name differs from it. -/
  stays : ∀ mine ∈ ks.toList,
    (∀ kept ∈ (s.store id).toList, (s.pool.name kept).isBelowOrSame parent = true →
      s.pool.name mine = s.pool.name kept → s.pool.Unchanged mine kept) →
    mine ∈ read.toList ∧ s'.pool.name mine = s.pool.name mine ∧
      s'.pool.tree mine.id = s.pool.tree mine.id
  /-- Any other kept key comes in as a copy, down to the last entry, of new records; no other key of
  its name is left. -/
  comes : ∀ kept ∈ (s.store id).toList, (s.pool.name kept).isBelowOrSame parent = true →
    (∀ mine ∈ ks.toList, s.pool.name mine = s.pool.name kept → ¬ s.pool.Unchanged mine kept) →
    ∃ copy ∈ read.toList, s'.pool.tree copy.id = s.pool.tree kept.id ∧
      (∀ i, s'.pool.Holds copy.id i → s.pool.nextId ≤ i) ∧
      ∀ x ∈ read.toList, s'.pool.name x = s.pool.name kept → x = copy
  /-- Nothing else comes in. -/
  only : ∀ x ∈ read.toList, x ∈ ks.toList ∨ ∃ kept ∈ (s.store id).toList,
    (s.pool.name kept).isBelowOrSame parent = true ∧ s'.pool.name x = s.pool.name kept ∧
      ∀ mine ∈ ks.toList, s.pool.name mine = s.pool.name kept → ¬ s.pool.Unchanged mine kept
  /-- The kept keys are the same records, and say what they said. -/
  store : s'.store id = s.store id ∧ ∀ kept ∈ (s.store id).toList,
    s'.pool.name kept = s.pool.name kept ∧ s'.pool.tree kept.id = s.pool.tree kept.id
  /-- A walk along the caller's set stays at its name. -/
  current : read.current.map s'.pool.name = ks.current.map s.pool.name

/-- The caller's keys and the kept keys are among the key sets of the session. -/
theorem Sound.read_balanced (h : s.Sound [] [] [])
    (hplugin : s.plugins.get? slot = some (.memory id m)) (hks : s.sets.get? set = some ks) :
    ∃ S H, s.pool.Balanced (ks.toList :: (s.store id).toList :: S) s.registries.contents [] H
      [] := by
  have hcaller : s.callerSet (some set) = some ks := hks
  obtain ⟨S, hbal⟩ := h.stage_balanced hplugin hcaller
  exact ⟨_, _, hbal.perm_sets (.swap _ _ _)⟩

/-- **What a read does to a session**: it puts the keys that were read in the place of the caller's,
and leaves the store. -/
theorem Reachable.exec_get_refreshed (h : s.Reachable)
    (hplugin : s.plugins.get? slot = some (.memory id m)) (hopen : m.isOpen = true)
    (hk : s.keys.get? key = some k) (hks : s.sets.get? set = some ks) :
    let below := (s.store id).toList.filter fun x => (s.pool.name x).isBelowOrSame (s.pool.name k)
    ∃ s' read, s.exec (.run slot .get (some set) key) = some
        (.status (.ofCount (below.filter (ks.lacks s.pool)).length), s') ∧
      s'.plugins.get? slot = some (.memory id m) ∧ s'.keys.get? key = some k ∧
      s'.sets.get? set = some read ∧ s'.store id = s.store id ∧
      ks.Refreshed s.pool below s'.pool read := by
  intro below
  have hcaller : s.callerSet (some set) = some ks := hks
  obtain ⟨S, hbal⟩ := h.sound.stage_balanced hplugin hcaller
  obtain ⟨hdone, -, ho⟩ := hbal.onGet_refreshed k h.forward hopen
  have hexec := exec_run hplugin hk hcaller .get
  rw [MemoryStore.run, ho] at hexec
  refine ⟨_, _, hexec, plugin_afterStage _ _ _ _ _, hk, Slots.get?_put_self _ _ _, ?_, hdone⟩
  exact store_afterStage (h.sound.store_lt hplugin)

/-- A read does nothing if the caller lacks nothing that is kept at or below the parent. -/
theorem Reachable.exec_get_same (h : s.Reachable)
    (hplugin : s.plugins.get? slot = some (.memory id m)) (hopen : m.isOpen = true)
    (hk : s.keys.get? key = some k) (hks : s.sets.get? set = some ks)
    (hnone : ∀ kept ∈ (s.store id).toList,
      (s.pool.name kept).isBelowOrSame (s.pool.name k) = true → ks.lacks s.pool kept = false) :
    s.exec (.run slot .get (some set) key) = some (.status .noUpdate, s) := by
  have hcaller : s.callerSet (some set) = some ks := hks
  obtain ⟨S, hbal⟩ := h.sound.stage_balanced hplugin hcaller
  have hexec := exec_run hplugin hk hcaller .get
  rw [MemoryStore.run, hbal.onGet_again k h.forward hopen hnone] at hexec
  rw [hexec]
  simp only [afterStage_same hplugin hcaller]

/-- What was read, as the caller sees it. -/
theorem Reachable.readsNews {s' : Session} {read : KeySet} {n : Name} (h : s.Reachable)
    (h' : s'.Reachable) (hplugin : s.plugins.get? slot = some (.memory id m))
    (hplugin' : s'.plugins.get? slot = some (.memory id m)) (hks : s.sets.get? set = some ks)
    (hread : s'.sets.get? set = some read) (hstore : s'.store id = s.store id)
    (hdone : ks.Refreshed s.pool
      ((s.store id).toList.filter fun x => (s.pool.name x).isBelowOrSame n) s'.pool read) :
    s.ReadsNews id n ks s' read := by
  have hp := h.forward
  obtain ⟨S, H, hpool⟩ := h.sound.read_balanced hplugin hks
  obtain ⟨S', H', hpool'⟩ := h'.sound.read_balanced hplugin' hread
  rw [hstore] at hpool'
  have hasc := hpool.ascending _ (.head _)
  have hasc' := hpool'.ascending _ (.head _)
  refine ⟨hdone.names, fun mine hmine hsame => ?_, fun kept hkept hbelow hdiffers => ?_,
    fun x hx => ?_, ⟨hstore, fun kept hkept => ?_⟩, hdone.current⟩
  · refine hdone.stays hp hpool hpool' hmine fun kept hkept hname => ?_
    obtain ⟨hmem, hbelow⟩ := List.mem_filter.mp hkept
    exact (KeySet.lacks_eq_false_iff hp hasc).mpr
      ⟨mine, hmine, hname.symm, hsame kept hmem hbelow hname.symm⟩
  · exact hdone.comes hp hasc' (List.mem_filter.mpr ⟨hkept, hbelow⟩)
      ((KeySet.lacks_eq_true_iff hp hasc).mpr hdiffers)
  · refine (hdone.only hasc' hx).imp_right ?_
    rintro ⟨kept, hkept, hname, hlacks⟩
    obtain ⟨hmem, hbelow⟩ := List.mem_filter.mp hkept
    exact ⟨kept, hmem, hbelow, hname, (KeySet.lacks_eq_true_iff hp hasc).mp hlacks⟩
  · obtain ⟨htree, hname⟩ := hpool.says_kept hp hdone.evolves hpool' (.tail _ (.head _))
      (.tail _ (.head _)) hkept hkept
    exact ⟨hname, htree⟩

/-- **A read touches what is news**, and only the first time.  Whatever is kept and whatever the
caller has, no name goes out of the caller's set and a walk along it stays at its name.  The kept
keys at or below the parent that the caller lacks, or has with another value or other metadata, come
in as copies of new records, and all other keys of the caller stay the records that they are.  The
store keeps what it kept.  The read succeeds if there was news, and only then; otherwise, as at a
second read, nothing is there to update and nothing happens. -/
theorem Reachable.get_touches_news (h : s.Reachable)
    (hplugin : s.plugins.get? slot = some (.memory id m)) (hopen : m.isOpen = true)
    (hk : s.keys.get? key = some k) (hks : s.sets.get? set = some ks) :
    ∃ status s' read, s.exec (.run slot .get (some set) key) = some (.status status, s') ∧
      s'.sets.get? set = some read ∧ s.ReadsNews id (s.pool.name k) ks s' read ∧
      ((status = .success ∧ ∃ x ∈ read.toList, x ∉ ks.toList) ∨
        (status = .noUpdate ∧ s' = s)) ∧
      s'.exec (.run slot .get (some set) key) = some (.status .noUpdate, s') := by
  obtain ⟨s', read, hexec, hplugin', hk', hread, hstore, hdone⟩ :=
    h.exec_get_refreshed hplugin hopen hk hks
  have h' := h.step hexec
  have hnews := h.readsNews h' hplugin hplugin' hks hread hstore hdone
  refine ⟨_, s', read, hexec, hread, hnews, ?_, ?_⟩
  · cases hlacked : ((s.store id).toList.filter fun x =>
      (s.pool.name x).isBelowOrSame (s.pool.name k)).filter (ks.lacks s.pool) with
    | nil =>
      have hsame := h.exec_get_same hplugin hopen hk hks fun kept hkept hbelow =>
        Bool.eq_false_iff.mpr
          (List.filter_eq_nil_iff.mp hlacked kept (List.mem_filter.mpr ⟨hkept, hbelow⟩))
      rw [hsame] at hexec
      exact .inr ⟨rfl, (Prod.mk.inj (Option.some.inj hexec)).2.symm⟩
    | cons kept others =>
      -- the first of the news comes in under a new number
      have hkept : kept ∈ kept :: others := List.mem_cons_self
      rw [← hlacked] at hkept
      obtain ⟨hbelow, hlacks⟩ := List.mem_filter.mp hkept
      have hasc' := h'.sound.balanced.ascending _ (Sound.mem_keySets (S := []) hread)
      obtain ⟨copy, hcopy, -, hnew, -⟩ := hdone.comes h.forward hasc' hbelow hlacks
      refine .inl ⟨if_pos (Nat.succ_pos _), copy, hcopy, fun hmem => ?_⟩
      obtain ⟨r, hr⟩ := h.sound.exists_of_member hks hmem
      exact Nat.not_le_of_lt (Pool.find?_lt hr) (hnew copy.id .self)
  · -- what was read is no news, and the parent has its name
    obtain ⟨S, H, hpool⟩ := h.sound.read_balanced hplugin hks
    obtain ⟨S', H', hpool'⟩ := h'.sound.read_balanced hplugin' hread
    refine h'.exec_get_same hplugin' hopen hk' hread fun kept hkept hbelow => ?_
    rw [hstore] at hkept hpool'
    obtain ⟨r, hr⟩ := h.sound.exists_of_key hk
    have hparent := hdone.evolves.name_eq (Pool.find?_lt hr) (Set.notMem_empty k.id)
      (h'.sound.exists_of_key hk')
    rw [(hnews.store.2 kept hkept).1, hparent] at hbelow
    have hasc := hpool.ascending _ (.tail _ (.head _))
    exact hdone.lacks_none h.forward hpool hpool' (fun x hx => (List.mem_filter.mp hx).1)
      (hasc.sublist List.filter_sublist).distinct (List.mem_filter.mpr ⟨hkept, hbelow⟩)

/-- In the middle of a walk a caller has changed one of the keys that were read, lost another and
got one of its own.  To read succeeds, the caller's own key and the place of the walk stay, and to
read once more does nothing. -/
theorem Reachable.get_touches_news_mixed :
    ∃ (s s' : Session) (ks read : KeySet) (own : Key),
      s.sets.get? "read" = some ks ∧ own ∈ ks.toList ∧
      s.exec (.run "store" .get (some "read") "parent") = some (.status .success, s') ∧
      s'.sets.get? "read" = some read ∧ own ∈ read.toList ∧
      read.current.map s'.pool.name = some ⟨.user, ["a", "b"]⟩ ∧
      s'.exec (.run "store" .get (some "read") "parent") = some (.status .noUpdate, s') := by
  have hrun : ((Session.execAll {} [.plug "store" .memory none, .build "parent" "user/a" [],
      .build "b" "user/a/b" [.text "kept"], .build "c" "user/a/c" [], .collect "set" ["b", "c"],
      .run "store" .opening none "parent", .run "store" .set (some "set") "parent",
      .newSet "read", .run "store" .get (some "read") "parent", .remove "read" "user/a/c" none,
      .build "own" "user/a/own" [], .append "read" "own", .next "read" (some "got"),
      .setValue "got" (.ofText "changed")]).bind fun s =>
        (s.sets.get? "read").map fun ks => decide (s.writableStore? "store" = some 0 ∧
          s.keys.get? "parent" = some ⟨0, {}⟩ ∧
          s.status? (.run "store" .get (some "read") "parent") = some .success ∧
          ks.toList.map s.pool.name = [⟨.user, ["a", "b"]⟩, ⟨.user, ["a", "own"]⟩] ∧
          (s.store 0).toList.map s.pool.name = [⟨.user, ["a", "b"]⟩, ⟨.user, ["a", "c"]⟩] ∧
          ks.current.map s.pool.name = some ⟨.user, ["a", "b"]⟩)) = some true := by
    decide +kernel
  obtain ⟨s, hs, hrun⟩ := Option.bind_eq_some_iff.mp hrun
  obtain ⟨ks, hks, hfacts⟩ := Option.map_eq_some_iff.mp hrun
  obtain ⟨hstore, hk, hstatus, hnames, hkept, hcurrent⟩ := of_decide_eq_true hfacts
  obtain ⟨m, hplugin, hopen, -⟩ := exists_of_writableStore? hstore
  obtain ⟨status, s', read, hget, hread, hnews, -, hagain⟩ :=
    (Reachable.start.execAll hs).get_touches_news hplugin hopen hk hks
  obtain ⟨⟩ := reply_eq hstatus hget
  obtain ⟨own, hown, hname⟩ : ∃ own ∈ ks.toList, s.pool.name own = ⟨.user, ["a", "own"]⟩ := by
    refine List.mem_map.mp ?_
    rw [hnames]
    decide
  refine ⟨s, s', ks, read, own, hks, hown, hget, hread, ?_, hnews.current.trans hcurrent, hagain⟩
  -- nothing is kept under the name of the caller's own key
  have hnone : ⟨.user, ["a", "own"]⟩ ∉ (s.store 0).toList.map s.pool.name := by
    rw [hkept]
    decide
  refine (hnews.stays own hown fun kept hmem _ heq => absurd ?_ hnone).1
  exact List.mem_map.mpr ⟨kept, hmem, heq.symm.trans hname⟩

end Session
end ConfigKeys
