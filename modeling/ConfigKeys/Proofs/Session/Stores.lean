import ConfigKeys.Proofs.Plugin.Stored
import ConfigKeys.Proofs.Session.Frame

/-!
# Stages of memory stores in a session

A stage works on a set of the caller and on the keys that are kept under the number of an instance.
It leaves all else in the session as it was, so what is known of the stage by itself is known of the
step.  What was made among the records and not handed to callers stays as it is from then on.

## Main definitions

* `Session.storedBelow`, `Session.storedBeside` — the kept keys at or below a name, and the others.
* `Session.afterStage`, `Session.status?` — the session after a stage, and how it goes.
* `Session.writableStore?` — where an instance writes to.
* `Session.Written` — the session after a write.
* `Session.Sealed` — callers can reach none of some records.
* `Session.heldKeys` — the keys of callers.

## Main results

* `Session.Sound.exec_set`, `Session.Sound.exec_error`, `Session.Sound.exec_get` — what is kept, and
  what is read, after a write, after it was taken back, and by a read.
* `Session.Runs.names_kept` — keys that stay in a set keep their names along a run.
* `Session.Sealed.trees_kept` — what callers cannot reach says what it said.
* `Session.Written.sealed` — callers cannot reach what a write made.
-/

namespace ConfigKeys

namespace Session

/-- The kept keys at or below a name. -/
def storedBelow (s : Session) (id : StoreId) (n : Name) : List (Name × RecordId) :=
  s.pool.pairsBelow (s.store id).toList n

/-- The other kept keys. -/
def storedBeside (s : Session) (id : StoreId) (n : Name) : List (Name × RecordId) :=
  s.pool.pairsBeside (s.store id).toList n

/-- The session after a stage of an instance in a slot that works on the kept keys of a number. -/
def afterStage (s : Session) (slot : String) (set : Option String) (id : StoreId)
    (o : MemoryStore.Outcome) : Session :=
  { s with
    pool := match set with
      | none => o.keys.drop o.pool
      | some _ => o.pool
    plugins := s.plugins.put slot (.memory id o.plugin)
    sets := match set with
      | none => s.sets
      | some set => s.sets.put set o.keys
    stores := s.stores.setIfInBounds id o.store }

/-- How a step goes, if it is a stage. -/
def status? (s : Session) (c : Command) : Option Status :=
  match s.exec c with
  | some (.status status, _) => some status
  | _ => none

theorem reply_eq {s s' : Session} {c : Command} {status : Status} {reply : Reply}
    (h : s.status? c = some status) (hexec : s.exec c = some (reply, s')) :
    reply = .status status := by
  rw [status?, hexec] at h
  cases reply with
  | status status' => exact congrArg _ (Option.some.inj h)
  | _ => cases h

/-- The number under which an instance keeps keys, if it may write to them. -/
def writableStore? (s : Session) (slot : String) : Option StoreId :=
  match s.plugins.get? slot with
  | some (.memory id m) => if m.isOpen && !m.readonly then some id else none
  | _ => none

theorem exists_of_writableStore? {s : Session} {slot : String} {id : StoreId}
    (h : s.writableStore? slot = some id) :
    ∃ m, s.plugins.get? slot = some (.memory id m) ∧ m.isOpen = true ∧ m.readonly = false := by
  unfold writableStore? at h
  split at h
  · next id' m hget =>
    simp only [Option.ite_none_right_eq_some, Bool.and_eq_true, Bool.not_eq_true'] at h
    obtain ⟨⟨hopen, hwrite⟩, ⟨⟩⟩ := h
    exact ⟨m, hget, hopen, hwrite⟩
  · cases h

theorem mem_keySets_of_store {s : Session} {id : StoreId} (hid : id < s.stores.size) :
    (s.store id).toList ∈ s.keySets := by
  obtain ⟨others, hkept, -⟩ := keySets_store hid
  exact hkept.mem_iff.mpr List.mem_cons_self

theorem mem_keySets_of_plugin {s : Session} {slot : String} {plugin : Plugin} {keys : List Key}
    (hplugin : s.plugins.get? slot = some plugin) (hkeys : keys ∈ plugin.sets) :
    keys ∈ s.keySets :=
  (keySets_clearPlugin hplugin).mem_iff.mpr (List.mem_append_left _ hkeys)

theorem mem_handleIds_of_plugin {s : Session} {slot : String} {plugin : Plugin} {i : RecordId}
    (hplugin : s.plugins.get? slot = some plugin) (hi : i ∈ plugin.handles) : i ∈ s.handleIds :=
  (handleIds_clearPlugin hplugin).mem_iff.mpr (List.mem_append_left _ hi)

theorem Sound.store_lt {s : Session} {slot : String} {id : StoreId} {m : MemoryStore}
    (h : s.Sound [] [] []) (hplugin : s.plugins.get? slot = some (.memory id m)) :
    id < s.stores.size :=
  h.stored _ (Slots.mem_contents hplugin) id rfl

/-- What is kept is there. -/
theorem Sound.exists_of_stored {s : Session} {id : StoreId} (h : s.Sound [] [] [])
    (hid : id < s.stores.size) {e : Name × RecordId} (he : e ∈ s.pool.pairs (s.store id).toList) :
    ∃ r, s.pool.find? e.2 = some r := by
  obtain ⟨k, hk, -, heq⟩ := Pool.mem_pairs.mp he
  exact heq ▸ h.balanced.exists_of_mem_set (mem_keySets_of_store hid) hk

/-- What is kept beside a name after a step that writes nothing says what it said. -/
theorem Reachable.trees_beside {s s' : Session} {id : StoreId} {n : Name} (h : s.Reachable)
    (h' : s'.Reachable) (hev : s.pool.Evolves ∅ ∅ s'.pool) (hid : id < s.stores.size)
    (hid' : id < s'.stores.size) (hbeside : s'.storedBeside id n = s.storedBeside id n) :
    ∀ e ∈ s.storedBeside id n, s'.pool.tree e.2 = s.pool.tree e.2 := by
  intro e he
  obtain ⟨r, hr⟩ := h.sound.exists_of_stored hid (Pool.mem_pairsBeside.mp he).1
  exact h'.sound.balanced.tree_eq_of_evolves hev h.forward
    (h'.sound.exists_of_stored hid' (Pool.mem_pairsBeside.mp (hbeside.symm ▸ he)).1)
    (Pool.find?_lt hr)

/-! ### A stage -/

section Stage

variable {s : Session} {slot key : String} {set : Option String} {id : StoreId} {m : MemoryStore}
variable {k : Key} {ks : KeySet} {stage : Stage} {o : MemoryStore.Outcome}

theorem exec_run (hplugin : s.plugins.get? slot = some (.memory id m))
    (hk : s.keys.get? key = some k) (hks : s.callerSet set = some ks) (stage : Stage) :
    s.exec (.run slot stage set key) = some (.status (m.run stage s.pool (s.store id) ks k).status,
      s.afterStage slot set id (m.run stage s.pool (s.store id) ks k)) := by
  refine Option.bind_eq_some_iff.mpr ⟨_, hplugin, Option.bind_eq_some_iff.mpr ⟨k, hk, ?_⟩⟩
  rcases set with _ | set
  · cases hks
    rfl
  · exact Option.bind_eq_some_iff.mpr ⟨ks, hks, rfl⟩

theorem plugin_afterStage (s : Session) (slot : String) (set : Option String) (id : StoreId)
    (o : MemoryStore.Outcome) :
    (s.afterStage slot set id o).plugins.get? slot = some (.memory id o.plugin) :=
  Slots.get?_put_self _ _ _

theorem store_afterStage (hid : id < s.stores.size) :
    (s.afterStage slot set id o).store id = o.store := by
  have hput := store_setIfInBounds s id o.store id
  rw [if_pos ⟨rfl, hid⟩] at hput
  exact hput

theorem pool_afterStage (s : Session) (slot : String) (set : Option String) (id : StoreId)
    (o : MemoryStore.Outcome) : o.pool.Evolves ∅ ∅ (s.afterStage slot set id o).pool := by
  rcases set with _ | set
  · exact (Pool.Evolves.refl ∅ ∅ o.pool).drop o.keys
  · exact .refl _ _ _

/-- A stage that changes nothing leaves the session as it was. -/
theorem afterStage_same {status : Status} (hplugin : s.plugins.get? slot = some (.memory id m))
    (hks : s.callerSet set = some ks) :
    s.afterStage slot set id ⟨status, s.pool, m, s.store id, ks⟩ = s := by
  have hstores : s.stores.setIfInBounds id (s.store id) = s.stores := by
    refine Array.ext (Array.size_setIfInBounds ..) fun i hi hi' => ?_
    rw [Array.getElem_setIfInBounds hi']
    split
    · next heq =>
      subst heq
      rw [store, Array.getD_eq_getD_getElem?, Array.getElem?_eq_getElem hi', Option.getD_some]
    · rfl
  unfold afterStage
  rw [Slots.put_self hplugin, hstores]
  rcases set with _ | set
  · cases hks
    rfl
  · simp only
    rw [Slots.put_self hks]

/-- The key sets at work in a stage are among those of the session. -/
theorem Sound.stage_balanced (h : s.Sound [] [] [])
    (hplugin : s.plugins.get? slot = some (.memory id m)) (hks : s.callerSet set = some ks) :
    ∃ S, s.pool.Balanced (stageSets (s.store id) ks m.sets S) s.registries.contents []
      (m.handles ++ { s with plugins := s.plugins.clear slot }.handleIds) [] := by
  have hwork : ∀ s' : Session, s'.Sound [ks.toList] [] [] →
      s'.plugins.get? slot = some (.memory id m) → ∃ S, s'.pool.Balanced
        (stageSets (s'.store id) ks m.sets S) s'.registries.contents []
        (m.handles ++ { s' with plugins := s'.plugins.clear slot }.handleIds) [] := by
    intro s' hs' hplugin'
    have hhandles := handleIds_clearPlugin hplugin'
    have hthere := hs'.stored _ (Slots.mem_contents hplugin') id rfl
    obtain ⟨others, hkept, -⟩ :=
      keySets_store (s := { s' with plugins := s'.plugins.clear slot }) hthere
    have hsets := (keySets_clearPlugin hplugin').trans (hkept.append_left _)
    exact ⟨[] ++ others, (hs'.balanced.perm_handles hhandles.symm).perm_sets
      (stageSets_perm [] m.sets (s'.store id) ks hsets)⟩
  rcases set with _ | set
  · cases hks
    exact hwork s h.withEmptySet hplugin
  · exact hwork { s with sets := s.sets.clear set } (h.takeSet hks) hplugin

/-- What is kept has, after a stage, the names that the stage left it. -/
theorem Sound.names_afterStage {S R : List (List Key)} {P H L : List RecordId}
    (h : (s.afterStage slot set id o).Sound [] [] []) (hid : id < s.stores.size)
    (hbal : o.pool.Balanced (stageSets o.store o.keys o.plugin.sets S) R P H L) :
    ∀ k ∈ o.store.toList, (s.afterStage slot set id o).pool.name k = o.pool.name k := by
  have hmem := mem_keySets_of_store (h.store_lt (plugin_afterStage s slot set id o))
  rw [store_afterStage hid] at hmem
  exact KeySet.names_kept (pool_afterStage s slot set id o)
    (fun k hk => hbal.exists_of_mem_set (.head _) hk) h.balanced hmem

/-- A write of an instance in a slot leaves callers alone, and puts copies of the keys of a set in
the place of those that were kept at or below a parent. -/
structure Written (s : Session) (slot : String) (id : StoreId) (m : MemoryStore) (k : Key)
    (ks : KeySet) (sn : Snapshot) (s' : Session) : Prop where
  /-- Callers have what they had. -/
  callers : ∃ p plugins stores, s' = { s with pool := p, plugins, stores }
  /-- The instance remembers what it replaced. -/
  plugins : s'.plugins = s.plugins.put slot (.memory id { m with snapshot := some sn })
  /-- The copies are kept. -/
  stored : s.pool.Stored (s.store id) ks k sn s'.pool (s'.store id)

/-- **A write** of an instance that is open and not readonly goes through. -/
theorem Sound.exec_set (h : s.Sound [] [] []) (hforward : s.pool.Forward)
    (hplugin : s.plugins.get? slot = some (.memory id m)) (hopen : m.isOpen = true)
    (hwrite : m.readonly = false) (hk : s.keys.get? key = some k)
    (hks : s.callerSet set = some ks) :
    ∃ sn s', s.exec (.run slot .set set key) = some (.status .success, s') ∧
      s.Written slot id m k ks sn s' := by
  obtain ⟨S, hbal⟩ := h.stage_balanced hplugin hks
  have hparent : k.id ∈ { s with plugins := s.plugins.clear slot }.handleIds := mem_handleIds hk
  obtain ⟨hstatus, hkeys, sn, hafter, hstored⟩ :=
    hbal.onSet_stored hforward hparent hopen hwrite
  have hdone := hbal.onSet hparent
  have hexec : s.exec (.run slot .set set key) = some
      (.status (m.onSet s.pool (s.store id) ks k).status,
        s.afterStage slot set id (m.onSet s.pool (s.store id) ks k)) :=
    exec_run hplugin hk hks .set
  generalize m.onSet s.pool (s.store id) ks k = o at *
  have hsound := h.exec hexec
  have hplugin' := plugin_afterStage s slot set id o
  have hstore : (s.afterStage slot set id o).store id = o.store :=
    store_afterStage (h.store_lt hplugin)
  have hmem := mem_keySets_of_store (hsound.store_lt hplugin')
  rw [hstore] at hmem
  rw [hafter] at hplugin'
  refine ⟨sn, s.afterStage slot set id o, hstatus ▸ hexec, ?_, ?_, ?_⟩
  · rcases set with _ | set
    · exact ⟨_, _, _, rfl⟩
    · refine ⟨o.pool, s.plugins.put slot (.memory id o.plugin),
        s.stores.setIfInBounds id o.store, ?_⟩
      simp only [afterStage]
      rw [hkeys, Slots.put_self hks]
  · rw [← hafter]
    rfl
  · rw [hstore]
    refine hstored.later hforward hdone (.head _) ?_ hsound.balanced hmem
      (mem_keySets_of_plugin hplugin' (.tail _ (.head _)))
      (mem_handleIds_of_plugin hplugin' (.head _)) (pool_afterStage s slot set id o)
    simp [stageSets, MemoryStore.sets, hafter]

section Written

variable {sn : Snapshot} {s' : Session}

theorem Written.plugin (h : s.Written slot id m k ks sn s') :
    s'.plugins.get? slot = some (.memory id { m with snapshot := some sn }) := by
  rw [h.plugins, Slots.get?_put_self]

theorem Written.replaced (h : s.Written slot id m k ks sn s') :
    s'.pool.pairs sn.keys.toList = s.storedBelow id (s.pool.name k) := h.stored.replaced

theorem Written.beside (h : s.Written slot id m k ks sn s') :
    s'.storedBeside id (s.pool.name k) = s.storedBeside id (s.pool.name k) := h.stored.beside

theorem Written.new (h : s.Written slot id m k ks sn s') :
    ∀ e ∈ s'.storedBelow id (s.pool.name k), s.pool.nextId ≤ e.2 ∧ e.2 < s'.pool.nextId :=
  h.stored.new

/-- The copy of the parent has its name. -/
theorem Written.name_parent (h : s.Written slot id m k ks sn s') :
    s'.pool.name sn.parent = s.pool.name k := by
  rw [Pool.name, ← Pool.name_tree, h.stored.parent_tree, Pool.name_tree, Pool.name]

end Written

/-- **A write is taken back**: what the instance remembers takes the place of what is kept below the
parent of the write, and the instance forgets it. -/
theorem Sound.exec_error {sn : Snapshot} (h : s.Sound [] [] [])
    (hplugin : s.plugins.get? slot = some (.memory id m)) (hsnapshot : m.snapshot = some sn)
    (hbelow : ∀ x ∈ sn.keys.toList,
      (s.pool.name x).isBelowOrSame (s.pool.name sn.parent) = true)
    (hk : s.keys.get? key = some k) (hks : s.callerSet set = some ks) :
    ∃ s', s.exec (.run slot .error set key) = some (.status .success, s') ∧
      s.pool.Evolves ∅ ∅ s'.pool ∧
      s'.plugins.get? slot = some (.memory id { m with snapshot := none }) ∧
      s'.storedBelow id (s.pool.name sn.parent) = s.pool.pairs sn.keys.toList ∧
      s'.storedBeside id (s.pool.name sn.parent) = s.storedBeside id (s.pool.name sn.parent) := by
  obtain ⟨S, hbal⟩ := h.stage_balanced hplugin hks
  obtain ⟨hstatus, hev, hafter, hin, hbeside⟩ := hbal.onError_stored hsnapshot hbelow
  have hdone := hbal.onError
  have hid := h.store_lt hplugin
  have hexec : s.exec (.run slot .error set key) = some
      (.status (m.onError s.pool (s.store id) ks).status,
        s.afterStage slot set id (m.onError s.pool (s.store id) ks)) :=
    exec_run hplugin hk hks .error
  generalize m.onError s.pool (s.store id) ks = o at *
  have hnames := (h.exec hexec).names_afterStage hid hdone
  refine ⟨_, hstatus ▸ hexec, hev.trans (pool_afterStage s slot set id o), ?_, ?_, ?_⟩
  · rw [plugin_afterStage, hafter]
  · rw [storedBelow, store_afterStage hid, Pool.pairsBelow_congr hnames, hin]
  · rw [storedBeside, store_afterStage hid, Pool.pairsBeside_congr hnames, hbeside]
    rfl

/-- Without a write to take back, nothing is done. -/
theorem exec_error_nothing (hplugin : s.plugins.get? slot = some (.memory id m))
    (hsnapshot : m.snapshot = none) (hk : s.keys.get? key = some k)
    (hks : s.callerSet set = some ks) :
    s.exec (.run slot .error set key) = some (.status .noUpdate, s) := by
  have hexec := exec_run hplugin hk hks .error
  have hnothing : m.run .error s.pool (s.store id) ks k
      = ⟨.noUpdate, s.pool, m, s.store id, ks⟩ := by
    simp only [MemoryStore.run, MemoryStore.onError, hsnapshot]
  rw [hnothing, afterStage_same hplugin hks] at hexec
  exact hexec

/-- **A read into an empty set** fills it with copies of what is kept at or below the parent. -/
theorem Sound.exec_get {set : String} (h : s.Sound [] [] []) (hforward : s.pool.Forward)
    (hplugin : s.plugins.get? slot = some (.memory id m)) (hopen : m.isOpen = true)
    (hk : s.keys.get? key = some k) (hks : s.sets.get? set = some ks) (hempty : ks.toList = []) :
    ∃ s' read, s.exec (.run slot .get (some set) key)
        = some (.status (.ofCount (s.storedBelow id (s.pool.name k)).length), s') ∧
      s'.sets.get? set = some read ∧
      (read.toList.map fun k => s'.pool.tree k.id)
        = (s.storedBelow id (s.pool.name k)).map fun e => s.pool.tree e.2 := by
  have hcaller : s.callerSet (some set) = some ks := hks
  obtain ⟨S, hbal⟩ := h.stage_balanced hplugin hcaller
  obtain ⟨hstatus, htrees⟩ := hbal.onGet_empty k hforward hopen hempty
  have hexec : s.exec (.run slot .get (some set) key) = some
      (.status (m.onGet s.pool (s.store id) ks k).status,
        s.afterStage slot (some set) id (m.onGet s.pool (s.store id) ks k)) :=
    exec_run hplugin hk hcaller .get
  exact ⟨_, _, hstatus ▸ hexec, Slots.get?_put_self _ _ _, htrees⟩

end Stage

/-! ### Along a run -/

theorem Runs.trans {allowed : Session → Command → Prop} {s s' s'' : Session}
    (h : s.Runs allowed s') (h' : s'.Runs allowed s'') : s.Runs allowed s'' := by
  induction h' with
  | refl => exact h
  | step _ hc hstep ih => exact .step ih hc hstep

theorem Runs.mono {allowed allowed' : Session → Command → Prop} {s s' : Session}
    (h : s.Runs allowed s') (hle : ∀ s c, allowed s c → allowed' s c) : s.Runs allowed' s' := by
  induction h with
  | refl => exact .refl _
  | step _ hc hstep ih => exact .step ih (hle _ _ hc) hstep

/-- Keys that stay in some set keep their names. -/
theorem Runs.names_kept {allowed : Session → Command → Prop} {s s' : Session} {keys : List Key}
    (h : s.Runs allowed s') (hs : s.Reachable)
    (hkeys : ∀ s', s.Runs allowed s' → keys ∈ s'.keySets) :
    ∀ k ∈ keys, s'.pool.name k = s.pool.name k := by
  induction h with
  | refl => exact fun k _ => rfl
  | step hrun hc hstep ih =>
    intro k hk
    have hsound := (hrun.reachable hs).sound
    rw [← ih k hk]
    exact hsound.name_exec hstep (hsound.balanced.locked_of_mem_set (hkeys _ hrun) hk)
      ((hsound.exec hstep).balanced.exists_of_mem_set (hkeys _ (.step hrun hc hstep)) hk)

theorem Runs.execAll {allowed : Session → Command → Prop} {s s' : Session}
    {commands : List Command} (hallowed : ∀ c ∈ commands, ∀ s, allowed s c)
    (hrun : s.execAll commands = some s') : s.Runs allowed s' := by
  induction commands generalizing s with
  | nil =>
    cases hrun
    exact .refl _
  | cons c rest ih =>
    obtain ⟨⟨reply, s₁⟩, hstep, hrest⟩ := Option.bind_eq_some_iff.mp hrun
    have hfirst : s.Runs allowed s₁ := (Runs.refl s).step (hallowed c List.mem_cons_self s) hstep
    exact hfirst.trans (ih (fun c hc => hallowed c (List.mem_cons_of_mem _ hc)) hrest)

/-- An instance on which nothing but reads is run stays as it is. -/
theorem Runs.plugin_kept {s s' : Session} {slot : String}
    (h : s.Runs (fun _ c => slot ∉ c.plugins) s') (hs : s.Reachable) :
    s'.plugins.get? slot = s.plugins.get? slot := by
  have hstays := h.stays (t := ⟨Set.univ, Set.univ, Set.univ, Set.univ, {slot}ᶜ, Set.univ⟩) hs
    (Confined.univ s) fun s' c _ hc => ⟨fun _ _ => trivial, fun _ _ => trivial,
      fun _ _ => trivial, fun _ hmem heq => hc (heq ▸ hmem), fun _ _ => trivial⟩
  exact hstays.plugins slot fun hmem => hmem rfl

/-- Kept keys that no command changes stay as they are. -/
theorem Runs.store_kept {s s' : Session} {id : StoreId}
    (h : s.Runs (fun s' c => ¬ c.Changes s' id) s') (hs : s.Reachable) (hid : id < s.stores.size) :
    s'.store id = s.store id ∧ id < s'.stores.size := by
  have hstays := h.stays (t := ⟨Set.univ, Set.univ, Set.univ, Set.univ, Set.univ, {id}ᶜ⟩) hs
    (Confined.univ s) fun s' c _ hc => ⟨fun _ _ => trivial, fun _ _ => trivial,
      fun _ _ => trivial, fun _ _ => trivial, fun _ hmem heq => hc (heq ▸ hmem)⟩
  exact ⟨hstays.stores id (fun hmem => hmem rfl) hid, Nat.lt_of_lt_of_le hid hstays.size⟩

/-- They are kept under the names that they had. -/
theorem Runs.storedBelow_kept {s s' : Session} {id : StoreId}
    (h : s.Runs (fun s' c => ¬ c.Changes s' id) s') (hs : s.Reachable) (hid : id < s.stores.size)
    (n : Name) : s'.storedBelow id n = s.storedBelow id n := by
  have hnames := h.names_kept hs fun s' h' => by
    obtain ⟨hstore, hid'⟩ := h'.store_kept hs hid
    exact hstore ▸ mem_keySets_of_store hid'
  rw [storedBelow, (h.store_kept hs hid).1, Pool.pairsBelow_congr hnames, storedBelow]

/-- **A run writes to nothing but what callers can reach.** -/
theorem Runs.stays_confined {allowed : Session → Command → Prop} {s s' : Session}
    {Q : Set RecordId} (h : s.Runs allowed s') (hs : s.Reachable) (hQ : s.Confined Q) :
    s.Stays ⟨Q, Q, Q, Set.univ, Set.univ, Set.univ⟩ s' := by
  refine h.stays hs hQ fun s' c hstays _ => ⟨?_, ?_, ?_, ?_, ?_⟩
  · -- only what a handle leads to gets another name
    intro id hrenames
    cases c with
    | rename key how =>
      obtain ⟨k, hk, rfl⟩ := hrenames
      exact hstays.mem_key hk
    | _ => cases hrenames
  · exact fun id hedits => hstays.mem_edited hedits
  all_goals exact fun _ _ => trivial

/-- Callers can reach none of the records of these entries, nor what these hold. -/
def Sealed (s : Session) (entries : List (Name × RecordId)) : Prop :=
  ∃ Q, s.Confined Q ∧ ∀ e ∈ entries, ∀ i, s.pool.Holds e.2 i → i ∉ Q

/-- **What callers cannot reach says what it said**, as long as it is there. -/
theorem Sealed.trees_kept {allowed : Session → Command → Prop} {s s' : Session}
    {entries : List (Name × RecordId)} (h : s.Sealed entries) (hs : s.Reachable)
    (hrun : s.Runs allowed s') (hold : ∀ e ∈ entries, e.2 < s.pool.nextId)
    (hthere : ∀ e ∈ entries, ∃ r, s'.pool.find? e.2 = some r) :
    ∀ e ∈ entries, s'.pool.tree e.2 = s.pool.tree e.2 := by
  obtain ⟨Q, hconfined, hout⟩ := h
  have hstays := hrun.stays_confined hs hconfined
  intro e he
  exact (hrun.reachable hs).sound.balanced.tree_eq hstays.pool hs.forward (hthere e he)
    (hold e he) fun i hi => ⟨hout e he i hi, hout e he i hi⟩

/-- What is kept says what it said, until it changes, as long as callers cannot reach it. -/
theorem Runs.stored_trees_kept {s s' : Session} {id : StoreId} {n : Name}
    (h : s.Runs (fun s' c => ¬ c.Changes s' id) s') (hs : s.Reachable) (hid : id < s.stores.size)
    (hsealed : s.Sealed (s.storedBelow id n))
    (hold : ∀ e ∈ s.storedBelow id n, e.2 < s.pool.nextId) :
    (s'.storedBelow id n).map (fun e => s'.pool.tree e.2)
      = (s.storedBelow id n).map fun e => s.pool.tree e.2 := by
  have hbelow := h.storedBelow_kept hs hid n
  rw [hbelow]
  refine List.map_congr_left (hsealed.trees_kept hs h hold fun e he => ?_)
  exact (h.reachable hs).sound.exists_of_stored (h.store_kept hs hid).2
    (Pool.mem_pairsBelow.mp (hbelow.symm ▸ he)).1

/-- The keys of callers: their handles, and those in their sets, registries and configurations. -/
def heldKeys (s : Session) : List Key :=
  s.keys.contents ++ (s.sets.contents.flatMap KeySet.toList ++
    (s.registries.contents.flatten ++ s.configs.contents.flatMap fun c => c.entries.toList))

theorem mem_heldKeys {s : Session} {k : Key} :
    k ∈ s.heldKeys ↔ k ∈ s.keys.contents ∨ (∃ ks ∈ s.sets.contents, k ∈ ks.toList) ∨
      (∃ r ∈ s.registries.contents, k ∈ r) ∨ ∃ c ∈ s.configs.contents, k ∈ c.entries.toList := by
  simp only [heldKeys, List.mem_append, List.mem_flatMap, List.mem_flatten]

/-- The keys of callers are there. -/
theorem Sound.exists_of_heldKeys {s : Session} {k : Key} (h : s.Sound [] [] [])
    (hk : k ∈ s.heldKeys) : ∃ r, s.pool.find? k.id = some r := by
  rcases mem_heldKeys.mp hk with hk | ⟨ks, hks, hk⟩ | ⟨r, hr, hk⟩ | ⟨c, hc, hk⟩
  · obtain ⟨r, hr, -⟩ := h.balanced.exists_of_handle
      (List.mem_append_left _ (List.mem_map_of_mem hk))
    exact ⟨r, hr⟩
  · have hset : ks.toList ∈ s.keySets := by
      simp only [keySets, List.mem_append, List.mem_map]
      exact .inl (.inl (.inl ⟨ks, hks, rfl⟩))
    exact h.balanced.exists_of_mem_set hset hk
  · exact h.balanced.exists_of_mem_registry hr hk
  · have hset : c.entries.toList ∈ s.keySets := by
      simp only [keySets, List.mem_append, List.mem_map]
      exact .inl (.inl (.inr ⟨c, hc, rfl⟩))
    exact h.balanced.exists_of_mem_set hset hk

theorem Confined.of_heldKeys {s : Session} {Q : Set RecordId} (hkeys : ∀ k ∈ s.heldKeys, k.id ∈ Q)
    (hentries : ∀ id ∈ Q, ∀ e ∈ (s.pool.record id).entries, e.id ∈ Q)
    (hnew : ∀ id, s.pool.nextId ≤ id → id ∈ Q) : s.Confined Q where
  keys k hk := hkeys k (mem_heldKeys.mpr (.inl hk))
  sets ks hks k hk := hkeys k (mem_heldKeys.mpr (.inr (.inl ⟨ks, hks, hk⟩)))
  registries r hr k hk := hkeys k (mem_heldKeys.mpr (.inr (.inr (.inl ⟨r, hr, hk⟩))))
  configs c hc k hk := hkeys k (mem_heldKeys.mpr (.inr (.inr (.inr ⟨c, hc, hk⟩))))
  entries := hentries
  new := hnew

/-- Callers cannot reach what a step makes among the records, unless it hands it to them. -/
theorem Sound.confined_evolves {s : Session} {p : Pool} (h : s.Sound [] [] [])
    (hforward : s.pool.Forward) (hev : s.pool.Evolves ∅ ∅ p) (plugins : Slots Plugin)
    (stores : Array KeySet) :
    { s with pool := p, plugins, stores }.Confined
      { i | i < s.pool.nextId ∨ p.nextId ≤ i } := by
  refine .of_heldKeys (fun k hk => ?_) (fun id hid e he => ?_) fun id hid => .inr hid
  · obtain ⟨r, hr⟩ := h.exists_of_heldKeys hk
    exact .inl (Pool.find?_lt hr)
  · change e ∈ (p.record id).entries at he
    rcases hid with hold | hnew
    · rcases hr' : p.find? id with _ | r'
      · rw [Pool.record_of_find?_none hr'] at he
        cases he
      · obtain ⟨r, hr, -, hsame, -⟩ := hev.kept id r' hold hr'
        rw [Pool.record_of_find? hr', (hsame (Set.notMem_empty id)).2] at he
        exact .inl (hforward id r hr e he).2
    · exact absurd (Pool.lt_of_mem_entries he) (Nat.not_lt.mpr hnew)

/-- What a step made among the records, and kept to itself, is sealed. -/
theorem Sound.sealed_of_new {s : Session} {p : Pool} (h : s.Sound [] [] [])
    (hforward : s.pool.Forward) (hev : s.pool.Evolves ∅ ∅ p) (plugins : Slots Plugin)
    (stores : Array KeySet) {entries : List (Name × RecordId)}
    (hnew : ∀ e ∈ entries, s.pool.nextId ≤ e.2 ∧ e.2 < p.nextId) :
    { s with pool := p, plugins, stores }.Sealed entries := by
  refine ⟨_, h.confined_evolves hforward hev plugins stores, fun e he i hi hout => ?_⟩
  obtain ⟨hle, hlt⟩ := hnew e he
  have hforward' := hev.forward hforward
  rcases hout with hold | hlater
  · exact absurd hold (Nat.not_lt.mpr (Nat.le_trans hle (hi.le hforward')))
  · exact absurd (hi.lt hforward' hlt) (Nat.not_lt.mpr hlater)

/-- **Callers have no handle to what a write made.** -/
theorem Written.sealed {s s' : Session} {slot : String} {id : StoreId} {m : MemoryStore} {k : Key}
    {ks : KeySet} {sn : Snapshot} (h : s.Written slot id m k ks sn s') (hs : s.Reachable)
    {entries : List (Name × RecordId)}
    (hnew : ∀ e ∈ entries, s.pool.nextId ≤ e.2 ∧ e.2 < s'.pool.nextId) : s'.Sealed entries := by
  obtain ⟨hev, p, plugins, stores, rfl⟩ := And.intro h.stored.evolves h.callers
  exact hs.sound.sealed_of_new hs.forward hev plugins stores hnew

end Session
end ConfigKeys
