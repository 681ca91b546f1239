import ConfigKeys.Proofs.Plugin.News
import ConfigKeys.Proofs.Session.Isolation

/-!
# Memory stores and callers do not change each other's keys

Since a memory store shares no record with callers, nothing that they do to their keys changes what
is read from the store, or what an instance brings back when it takes a write back; and neither a
write nor what takes it back changes a key of theirs.  There is one exception: a write that is
refused leaves a report in the metadata of the key that names the parent, and callers may have read
that key from the store.

## Main definitions

* `Session.keptTrees` — what the kept keys at or below a name say.
* `Session.keptRecords` — what the stages of a memory store work on.

## Main results

* `Session.Sound.exec_get_reads` — what a read leaves depends on what is kept and on what the caller
  has.
* `Session.Isolated.keptTrees_kept` — until the next write what is kept says what it said.
* `Session.Isolated.error_brings_back` — to take a write back brings back what it replaced.
* `Session.Isolated.spares_callers` — a write, and what takes it back, leaves callers alone.
* `Session.Reachable.stores_isolated` — memory stores share no record with callers.
* `Session.refused_set_changes_key` — a refused write changes a key that was read.
-/

namespace ConfigKeys

/-- Only to read puts keys among those of the caller. -/
theorem MemoryStore.run_keys {p : Pool} {store keys : KeySet} {k : Key} {m : MemoryStore}
    {stage : Stage} (hstage : stage ≠ .get) : (m.run stage p store keys k).keys = keys := by
  cases stage with
  | opening =>
    simp only [run, onOpen]
    split
    · rfl
    · split <;> rfl
  | get => exact absurd rfl hstage
  | set =>
    simp only [run, onSet]
    split
    · split <;> rfl
    · rfl
  | error =>
    simp only [run, onError]
    split <;> rfl
  | close => rfl

namespace Session

/-- What the kept keys at or below a name say. -/
def keptTrees (s : Session) (id : StoreId) (n : Name) : List KeyTree :=
  (s.storedBelow id n).map fun e => s.pool.tree e.2

variable {s s' : Session} {id : StoreId} {slot key : String} {set : Option String}
variable {m : MemoryStore} {sn : Snapshot} {k : Key} {ks : KeySet} {stage : Stage} {i : RecordId}

/-! ### What is read, and what is brought back -/

/-- **What a read leaves** under every name depends on what is kept and on what the caller has. -/
theorem Sound.exec_get_reads {set : String} (h : s.Sound [] [] []) (hforward : s.pool.Forward)
    (hplugin : s.plugins.get? slot = some (.memory id m)) (hopen : m.isOpen = true)
    (hk : s.keys.get? key = some k) (hks : s.sets.get? set = some ks) :
    let kept := s.keptTrees id (s.pool.name k)
    ∃ s' read, s.exec (.run slot .get (some set) key) = some (.status (.ofCount
        (kept.filter fun t => t.isNews (ks.treeAt? s.pool t.name)).length), s') ∧
      s'.sets.get? set = some read ∧ ∀ n, read.treeAt? s'.pool n
        = KeyTree.readInto (kept.find? fun t => t.name = n) (ks.treeAt? s.pool n) := by
  have hcaller : s.callerSet (some set) = some ks := hks
  obtain ⟨S, hbal⟩ := h.stage_balanced hplugin hcaller
  obtain ⟨hstatus, hnamed⟩ := hbal.onGet_reads k hforward hopen
  have hexec : s.exec (.run slot .get (some set) key) = some
      (.status (m.onGet s.pool (s.store id) ks k).status,
        s.afterStage slot (some set) id (m.onGet s.pool (s.store id) ks k)) :=
    exec_run hplugin hk hcaller .get
  rw [hstatus] at hexec
  exact ⟨s.afterStage slot (some set) id (m.onGet s.pool (s.store id) ks k),
    (m.onGet s.pool (s.store id) ks k).keys, hexec, Slots.get?_put_self _ _ _, hnamed⟩

theorem keeps_of_mem_pairs {e : Name × RecordId} (he : e ∈ s.pool.pairs (s.store id).toList) :
    s.Keeps id e.2 := by
  obtain ⟨k, hk, -, heq⟩ := Pool.mem_pairs.mp he
  exact .inl ⟨k, hk, heq⟩

/-- **Until the next write what is kept says what it said**, whatever callers do. -/
theorem Isolated.keptTrees_kept (h : s.Isolated id) (hs : s.Reachable) (hid : id < s.stores.size)
    (hrun : s.Runs (fun t c => ¬ c.Changes t id) s') (n : Name) :
    s'.keptTrees id n = s.keptTrees id n := by
  have hkeeps : ∀ e ∈ s.storedBelow id n, s.Keeps id e.2 := fun e he =>
    keeps_of_mem_pairs (Pool.mem_pairsBelow.mp he).1
  refine hrun.stored_trees_kept hs hid (h.sealed hs hid hkeeps) fun e he => ?_
  obtain ⟨r, hr⟩ := hs.sound.exists_of_keeps hid (hkeeps e he)
  exact Pool.find?_lt hr

/-- **To take a write back brings back what it replaced**, as it was, whatever callers did; and it
does so below the name that the parent had, for the copy of the parent says what it said. -/
theorem Isolated.error_brings_back (h : s.Isolated id) (hs : s.Reachable)
    (hid : id < s.stores.size) (hplugin : s.plugins.get? slot = some (.memory id m))
    (hsn : m.snapshot = some sn)
    (hrun : s.Runs (fun _ c => slot ∉ c.plugins) s') (hk : s'.keys.get? key = some k)
    (hks : s'.callerSet set = some ks) :
    s'.pool.tree sn.parent.id = s.pool.tree sn.parent.id ∧
      ∃ s₁, s'.exec (.run slot .error set key) = some (.status .success, s₁) ∧
        s₁.keptTrees id (s.pool.name sn.parent)
          = sn.keys.toList.map fun x => s.pool.tree x.id := by
  have hs' := hrun.reachable hs
  have hremembers : s.Remembers id sn := ⟨m, Slots.mem_contents hplugin, hsn⟩
  have hplugin' := (hrun.plugin_kept hs).trans hplugin
  have hremembers' : s'.Remembers id sn := ⟨m, Slots.mem_contents hplugin', hsn⟩
  obtain ⟨s₁, herror, hev, hplugin₁, hin, -⟩ :=
    hs'.sound.exec_error hplugin' hsn (hs'.remembered_below hremembers') hk hks
  rw [hs.name_parent hremembers hrun hremembers'] at hin
  have hs₁ := hs'.step herror
  have hkeeps : ∀ e ∈ s.pool.pairs sn.keys.toList, s.Keeps id e.2 := by
    intro e he
    obtain ⟨x, hx, -, heq⟩ := Pool.mem_pairs.mp he
    exact .inr ⟨sn, hremembers, heq ▸ sn.mem_ids_of_key hx⟩
  refine ⟨hs.tree_parent hremembers hrun hremembers', s₁, herror, ?_⟩
  rw [keptTrees, hin, Pool.pairs, List.map_map]
  refine List.map_congr_left fun x hx => ?_
  have hpair : (s.pool.name x, x.id) ∈ s.pool.pairs sn.keys.toList :=
    Pool.mem_pairs.mpr ⟨x, hx, rfl, rfl⟩
  have hthere' : ∃ r, s'.pool.find? x.id = some r :=
    hs'.sound.balanced.exists_of_mem_set (mem_keySets_of_remembers hremembers') hx
  have hthere₁ : ∃ r, s₁.pool.find? x.id = some r := by
    have hmem : (s'.pool.name x, x.id) ∈ s₁.storedBelow id (s.pool.name sn.parent) :=
      hin ▸ Pool.mem_pairs.mpr ⟨x, hx, rfl, rfl⟩
    exact hs₁.sound.exists_of_stored (hs₁.sound.store_lt hplugin₁) (Pool.mem_pairsBelow.mp hmem).1
  have hback : s₁.pool.tree x.id = s'.pool.tree x.id :=
    hs₁.sound.balanced.tree_eq_of_evolves hev hs'.forward hthere₁
      (Pool.find?_lt hthere'.choose_spec)
  have hkept : s'.pool.tree x.id = s.pool.tree x.id := by
    refine (h.sealed hs hid hkeeps).trees_kept hs hrun (fun e he => ?_) (fun e he => ?_) _ hpair
    · exact Pool.find?_lt (hs.sound.exists_of_keeps hid (hkeeps e he)).choose_spec
    · obtain ⟨y, hy, -, heq⟩ := Pool.mem_pairs.mp he
      exact heq ▸ hs'.sound.balanced.exists_of_mem_set (mem_keySets_of_remembers hremembers') hy
  exact hback.trans hkept

/-! ### The keys of callers -/

theorem pool_afterStage_of_keys {o : MemoryStore.Outcome} (hks : s.callerSet set = some ks)
    (hkeys : o.keys = ks) : (s.afterStage slot set id o).pool = o.pool := by
  rcases set with _ | set
  · cases hks
    show o.keys.drop o.pool = o.pool
    rw [hkeys]
    rfl
  · rfl

theorem heldKeys_afterStage {o : MemoryStore.Outcome} (hks : s.callerSet set = some ks)
    (hkeys : o.keys = ks) : (s.afterStage slot set id o).heldKeys = s.heldKeys := by
  rcases set with _ | set
  · rfl
  · have hsets : s.sets.put set o.keys = s.sets := by
      rw [hkeys]
      exact Slots.put_self hks
    rw [heldKeys, afterStage, hsets]
    rfl

/-- What the stages of a memory store work on: what is kept, with its metadata, and new records. -/
def keptRecords (s : Session) (id : StoreId) : Set RecordId :=
  { i | (∃ j, s.Keeps id j ∧ s.pool.Holds j i) ∨ s.pool.nextId ≤ i }

theorem Keeps.mem_keptRecords (h : s.Keeps id i) : i ∈ s.keptRecords id := .inl ⟨i, h, .self⟩

theorem spares_keptRecords (s : Session) (id : StoreId) :
    s.pool.Spares (s.keptRecords id) s.pool := by
  refine .refl ?_ fun i hi => .inr hi
  rintro i (⟨j, hj, hholds⟩ | hnew) e he
  · exact .inl ⟨j, hj, hholds.entry he⟩
  · exact absurd (Pool.lt_of_mem_entries he) (Nat.not_lt.mpr hnew)

theorem Isolated.notMem_keptRecords (h : s.Isolated id) (hs : s.Reachable) (hi : s.Reaches i) :
    i ∉ s.keptRecords id := by
  rintro (⟨j, hj, hholds⟩ | hnew)
  · exact h i hi j hj hholds
  · exact Nat.not_lt.mpr hnew (hs.sound.lt_of_reaches hs.forward hi)

/-- **A write, and what takes it back, leaves callers alone**: every record that they can reach is
exactly what it was. -/
theorem Isolated.spares_callers (h : s.Isolated id) (hs : s.Reachable)
    (hplugin : s.plugins.get? slot = some (.memory id m)) (hstage : stage = .set ∨ stage = .error)
    {status : Status} (hstep : s.exec (.run slot stage set key) = some (.status status, s'))
    (hstatus : status ≠ .error) (hi : s.Reaches i) : s'.pool.find? i = s.pool.find? i := by
  obtain ⟨plugin, k, ks, -, hk, hks, -⟩ := exec_run_cases hstep
  have hnotget : stage ≠ .get := by rcases hstage with rfl | rfl <;> decide
  have hexec := exec_run hplugin hk hks stage
  obtain ⟨⟨rfl⟩, rfl⟩ := Prod.mk.inj (Option.some.inj (hstep.symm.trans hexec))
  rw [pool_afterStage_of_keys hks (MemoryStore.run_keys hnotget)]
  have hspares : s.pool.Spares (s.keptRecords id)
      (m.run stage s.pool (s.store id) ks k).pool := by
    refine (s.spares_keptRecords id).runWrite hstage hstatus (fun x hx => ?_) fun sn hsn i hi => ?_
    · exact Keeps.mem_keptRecords (.inl ⟨x, hx, rfl⟩)
    · exact Keeps.mem_keptRecords (.inr ⟨sn, ⟨m, Slots.mem_contents hplugin, hsn⟩, hi⟩)
  exact hspares.kept i (h.notMem_keptRecords hs hi)

/-- **A stage writes to no key of callers but the one that it is given**, and the keys that have it
in their metadata. -/
theorem Reachable.stage_writes_parent (hs : s.Reachable)
    (hplugin : s.plugins.get? slot = some (.memory id m)) (hstage : stage = .set ∨ stage = .error)
    {reply : Reply} (hstep : s.exec (.run slot stage set key) = some (reply, s'))
    (hk : s.keys.get? key = some k) {x : Key} (hx : x ∈ s.heldKeys)
    (hout : ¬ s.pool.Holds x.id k.id) : s'.pool.tree x.id = s.pool.tree x.id := by
  obtain ⟨plugin, k', ks, -, hk', hks, -⟩ := exec_run_cases hstep
  obtain rfl := Option.some.inj (hk.symm.trans hk')
  have hnotget : stage ≠ .get := by rcases hstage with rfl | rfl <;> decide
  have hexec := exec_run hplugin hk hks stage
  obtain ⟨-, rfl⟩ := Prod.mk.inj (Option.some.inj (hstep.symm.trans hexec))
  obtain ⟨r, hr⟩ := hs.sound.exists_of_heldKeys hx
  obtain ⟨rk, hrk⟩ := hs.sound.exists_of_key hk
  have hev : s.pool.Evolves ∅ {k.id} (m.run stage s.pool (s.store id) ks k).pool :=
    ((Pool.Evolves.refl ∅ {k.id} s.pool).runMemoryStore m stage (Pool.find?_lt hrk) rfl).1
  have hkeys : (m.run stage s.pool (s.store id) ks k).keys = ks := MemoryStore.run_keys hnotget
  have hthere := (hs.step hexec).sound.exists_of_heldKeys (heldKeys_afterStage hks hkeys ▸ hx)
  rw [← pool_afterStage_of_keys hks hkeys] at hev
  refine (hs.step hexec).sound.balanced.tree_eq hev hs.forward hthere (Pool.find?_lt hr) ?_
  intro i hi
  refine ⟨Set.notMem_empty i, ?_⟩
  rintro rfl
  exact hout hi

/-- **Memory stores share no record with callers**, in any session that a run leads to from one in
which they share none.  So what is kept is read as it was written, whatever callers do to their
keys, and what an instance remembers is brought back as it was, below the parent that it remembers;
and a write, or what takes it back, changes no key of callers, but for the report that a refused
write leaves in the metadata of the key that it is given. -/
theorem Reachable.stores_isolated (h : s.Reachable) (hid : id < s.stores.size)
    (hisolated : s.Isolated id) (hrun : s.Runs (fun _ _ => True) s') :
    s'.Isolated id ∧
    (∀ s₁, s'.Runs (fun t c => ¬ c.Changes t id) s₁ →
      (∀ n, s₁.keptTrees id n = s'.keptTrees id n) ∧
      ∀ a m key k set ks, s₁.plugins.get? a = some (.memory id m) → m.isOpen = true →
        s₁.keys.get? key = some k → s₁.sets.get? set = some ks →
        let kept := s'.keptTrees id (s₁.pool.name k)
        ∃ s₂ read, s₁.exec (.run a .get (some set) key) = some (.status (.ofCount
            (kept.filter fun t => t.isNews (ks.treeAt? s₁.pool t.name)).length), s₂) ∧
          s₂.sets.get? set = some read ∧ ∀ n, read.treeAt? s₂.pool n
            = KeyTree.readInto (kept.find? fun t => t.name = n) (ks.treeAt? s₁.pool n)) ∧
    (∀ a m sn, s'.plugins.get? a = some (.memory id m) → m.snapshot = some sn →
      ∀ s₁, s'.Runs (fun _ c => a ∉ c.plugins) s₁ → ∀ key k set ks,
        s₁.keys.get? key = some k → s₁.callerSet set = some ks →
        s₁.pool.tree sn.parent.id = s'.pool.tree sn.parent.id ∧
          ∃ s₂, s₁.exec (.run a .error set key) = some (.status .success, s₂) ∧
            s₂.keptTrees id (s'.pool.name sn.parent)
              = sn.keys.toList.map fun x => s'.pool.tree x.id) ∧
    ∀ a m stage set key k status s₁, s'.plugins.get? a = some (.memory id m) →
      stage = .set ∨ stage = .error → s'.keys.get? key = some k →
      s'.exec (.run a stage set key) = some (.status status, s₁) →
      (status ≠ .error → ∀ i, s'.Reaches i → s₁.pool.find? i = s'.pool.find? i) ∧
      ∀ x ∈ s'.heldKeys, ¬ s'.pool.Holds x.id k.id → s₁.pool.tree x.id = s'.pool.tree x.id := by
  obtain ⟨hisolated', hid'⟩ := hisolated.runs h hid hrun
  have h' := hrun.reachable h
  refine ⟨hisolated', fun s₁ hrun₁ => ?_, ?_, ?_⟩
  · have hkept := hisolated'.keptTrees_kept h' hid' hrun₁
    have h₁ := hrun₁.reachable h'
    refine ⟨hkept, fun a m key k set ks hplugin hopen hk hks => ?_⟩
    rw [← hkept]
    exact h₁.sound.exec_get_reads h₁.forward hplugin hopen hk hks
  · intro a m sn hplugin hsn s₁ hrun₁ key k set ks hk hks
    exact hisolated'.error_brings_back h' hid' hplugin hsn hrun₁ hk hks
  · intro a m stage set key k status s₁ hplugin hstage hk hstep
    exact ⟨fun hstatus i hi => hisolated'.spares_callers h' hplugin hstage hstep hstatus hi,
      fun x hx hout => h'.stage_writes_parent hplugin hstage hstep hk hx hout⟩

/-- A key is written, and changes at the caller's.  What is read is what was written. -/
theorem Reachable.stores_isolated_changed :
    ∃ reply s s' s₁ s₂ read, Session.exec {} (.plug "store" .memory none) = some (reply, s) ∧
      s.execAll [.build "parent" "user/a" [], .build "key" "user/a/b" [.text "written"],
        .collect "set" ["key"], .run "store" .opening none "parent",
        .run "store" .set (some "set") "parent"] = some s' ∧
      s'.Isolated 0 ∧
      s'.execAll [.setValue "key" (.ofText "changed"), .newSet "read"] = some s₁ ∧
      s₁.exec (.run "store" .get (some "read") "parent") = some (.status .success, s₂) ∧
      s₂.sets.get? "read" = some read ∧
      (read.treeAt? s₂.pool ⟨.user, ["a", "b"]⟩).map KeyTree.value = some (.ofText "written") := by
  have hrun : ((Session.exec {} (.plug "store" .memory none)).bind fun o =>
      (o.2.execAll [.build "parent" "user/a" [], .build "key" "user/a/b" [.text "written"],
        .collect "set" ["key"], .run "store" .opening none "parent",
        .run "store" .set (some "set") "parent"]).bind fun s' =>
      (s'.execAll [.setValue "key" (.ofText "changed"), .newSet "read"]).map fun s₁ =>
        decide ((s'.keptTrees 0 ⟨.user, ["a"]⟩).map (fun t => (t.name, t.value))
            = [(⟨.user, ["a", "b"]⟩, .ofText "written")] ∧
          s₁.writableStore? "store" = some 0 ∧ s₁.keys.get? "parent" = some ⟨0, {}⟩ ∧
          s₁.pool.name ⟨0, {}⟩ = ⟨.user, ["a"]⟩ ∧
          (s₁.sets.get? "read").map KeySet.toList = some [])) = some true := by decide +kernel
  obtain ⟨⟨reply, s⟩, hplug, hrun⟩ := Option.bind_eq_some_iff.mp hrun
  obtain ⟨s', hs', hrun⟩ := Option.bind_eq_some_iff.mp hrun
  obtain ⟨s₁, hs₁, hfacts⟩ := Option.map_eq_some_iff.mp hrun
  obtain ⟨hkept, hstore, hk, hname, hread⟩ := of_decide_eq_true hfacts
  obtain ⟨ks, hks, hempty⟩ := Option.map_eq_some_iff.mp hread
  obtain ⟨m, hplugin, hopen, -⟩ := exists_of_writableStore? hstore
  obtain ⟨t, hkept, ht⟩ := List.map_eq_singleton_iff.mp hkept
  obtain ⟨htname, htvalue⟩ := Prod.mk.inj ht
  -- the store shares nothing when it is made
  have hisolated : s.Isolated 0 := (Reachable.start.isolated_plug hplug).1
  have hid : 0 < s.stores.size := (Reachable.start.isolated_plug hplug).2
  obtain ⟨hisolated', hreads, -, -⟩ := (Reachable.start.step hplug).stores_isolated hid hisolated
    (Runs.execAll (fun _ _ _ => trivial) hs')
  obtain ⟨-, hget⟩ := hreads s₁ (Runs.execAll (by simp [Command.Changes]) hs₁)
  obtain ⟨s₂, read, hexec, hinto, hnamed⟩ :=
    hget "store" m "parent" ⟨0, {}⟩ "read" ks hplugin hopen hk hks
  simp only [hname] at hexec hnamed
  have hread : read.treeAt? s₂.pool ⟨.user, ["a", "b"]⟩ = some t := by
    have hfind : [t].find? (fun t => t.name = ⟨.user, ["a", "b"]⟩) = some t :=
      List.find?_cons_of_pos (decide_eq_true htname)
    rw [hnamed, hkept, KeySet.treeAt?_of_empty hempty, hfind]
    rfl
  refine ⟨reply, s, s', s₁, s₂, read, hplug, hs', hisolated', hs₁, hexec.trans ?_, hinto, ?_⟩
  · simp only [hkept, KeySet.treeAt?_of_empty hempty]
    rfl
  · rw [hread, Option.map_some, htvalue]

/-- **A refused write changes a key that was read from the store**: an instance that is closed
leaves its report in the metadata of the key that it is given. -/
theorem refused_set_changes_key :
    ∃ reply s s₁ s₂ k, Session.exec {} (.plug "store" .memory none) = some (reply, s) ∧
      s.Isolated 0 ∧
      s.execAll [.build "parent" "user/a" [], .build "key" "user/a/b" [],
        .collect "set" ["key"], .run "store" .opening none "parent",
        .run "store" .set (some "set") "parent", .newSet "read",
        .run "store" .get (some "read") "parent", .fetch (.memberAt "read" 0) (some "got"),
        .run "store" .close none "parent"] = some s₁ ∧
      s₁.keys.get? "got" = some k ∧
      s₁.exec (.run "store" .set (some "set") "got") = some (.status .error, s₂) ∧
      s₁.pool.entries k = [] ∧ s₂.pool.entries k ≠ [] := by
  have hrun : ((Session.exec {} (.plug "store" .memory none)).bind fun o =>
      (o.2.execAll [.build "parent" "user/a" [], .build "key" "user/a/b" [],
        .collect "set" ["key"], .run "store" .opening none "parent",
        .run "store" .set (some "set") "parent", .newSet "read",
        .run "store" .get (some "read") "parent", .fetch (.memberAt "read" 0) (some "got"),
        .run "store" .close none "parent"]).bind fun s₁ =>
      (s₁.exec (.run "store" .set (some "set") "got")).bind fun o₂ =>
      (s₁.keys.get? "got").map fun k => decide (
        s₁.status? (.run "store" .set (some "set") "got") = some .error ∧
        s₁.pool.entries k = [] ∧ o₂.2.pool.entries k ≠ [])) = some true := by decide +kernel
  obtain ⟨⟨reply, s⟩, hplug, hrun⟩ := Option.bind_eq_some_iff.mp hrun
  obtain ⟨s₁, hs₁, hrun⟩ := Option.bind_eq_some_iff.mp hrun
  obtain ⟨⟨reply₂, s₂⟩, hset, hrun⟩ := Option.bind_eq_some_iff.mp hrun
  obtain ⟨k, hk, hfacts⟩ := Option.map_eq_some_iff.mp hrun
  obtain ⟨hstatus, hbefore, hafter⟩ := of_decide_eq_true hfacts
  obtain rfl := reply_eq hstatus hset
  exact ⟨reply, s, s₁, s₂, k, hplug, (Reachable.start.isolated_plug hplug).1, hs₁, hk, hset,
    hbefore, hafter⟩

end Session
end ConfigKeys
