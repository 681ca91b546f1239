import ConfigKeys.Proofs.Plugin.Apart
import ConfigKeys.Proofs.Session.Stores

/-!
# Memory stores share no record with callers

What a memory store keeps came in as a copy, and goes out as one.  A record that is kept under some
number, or that an instance remembers, can so not be reached by callers, who have handles, key sets,
registries and configurations, and the metadata of all these keys.  Of the parent of a write an
instance remembers a copy of its own, which nobody can reach in any session.

What holds before a command holds after it, because a command that does not write keeps no record
that was not kept before, and writes to nothing but what callers can reach; and a write keeps new
records.

## Main definitions

* `Session.Reaches`, `Session.Apart` — callers can reach a record, or nothing of it.
* `Session.Remembers`, `Session.Keeps` — what is kept under a number.
* `Session.Isolated` — callers can reach nothing of what is kept under a number.
* `Command.Writes` — a command writes to what is kept under a number.
* `Session.KeepsNoMore` — a command keeps nothing more.

## Main results

* `Session.Reachable.keeps_of_exec` — what is kept after a command was kept before, or is new.
* `Session.Isolated.exec`, `Session.Isolated.runs` — commands share no record.
* `Session.Reachable.apart_parent` — callers can reach no parent that an instance remembers.
* `Session.Reachable.remembered_below` — what an instance remembers lies below the parent of its
  write.
-/

namespace ConfigKeys

/-! ### Reach of callers, and what is kept -/

/-- A command writes to what is kept under a number: the instance that it runs is open, and not
readonly. -/
def Command.Writes (s : Session) (id : StoreId) : Command → Prop
  | .run slot .set _ _ => s.writableStore? slot = some id
  | _ => False

namespace Session

/-- Callers can reach a record: it belongs to one of their keys, or to its metadata at any level. -/
def Reaches (s : Session) (i : RecordId) : Prop := ∃ k ∈ s.heldKeys, s.pool.Holds k.id i

/-- Callers can reach nothing of a record: neither the record nor its metadata at any level. -/
def Apart (s : Session) (j : RecordId) : Prop := ∀ i, s.Reaches i → ¬ s.pool.Holds j i

/-- An instance over the kept keys of a number remembers what its last write replaced. -/
def Remembers (s : Session) (id : StoreId) (sn : Snapshot) : Prop :=
  ∃ m, .memory id m ∈ s.plugins.contents ∧ m.snapshot = some sn

/-- A record is kept under a number, or some instance over the kept keys remembers it: it is one of
the keys that a write replaced, or the copy of the parent of that write. -/
def Keeps (s : Session) (id : StoreId) (i : RecordId) : Prop :=
  (∃ k ∈ (s.store id).toList, k.id = i) ∨ ∃ sn, s.Remembers id sn ∧ i ∈ sn.ids

/-- Callers can reach no record of what is kept under a number, and none of its metadata. -/
def Isolated (s : Session) (id : StoreId) : Prop :=
  ∀ i, s.Reaches i → ∀ j, s.Keeps id j → ¬ s.pool.Holds j i

variable {s s' : Session} {id : StoreId} {i j : RecordId} {c : Command} {out : Reply × Session}
variable {slot key : String} {set : Option String} {m : MemoryStore} {sn : Snapshot}

theorem Sound.lt_of_reaches (h : s.Sound [] [] []) (hforward : s.pool.Forward)
    (hi : s.Reaches i) : i < s.pool.nextId := by
  obtain ⟨k, hk, hholds⟩ := hi
  obtain ⟨r, hr⟩ := h.exists_of_heldKeys hk
  exact hholds.lt hforward (Pool.find?_lt hr)

/-- Where callers are confined to, there is all that they can reach. -/
theorem Confined.reaches {Q : Set RecordId} (h : s.Confined Q) (hi : s.Reaches i) : i ∈ Q := by
  obtain ⟨k, hk, hholds⟩ := hi
  refine h.holds ?_ hholds
  rcases mem_heldKeys.mp hk with hk | ⟨ks, hks, hk⟩ | ⟨r, hr, hk⟩ | ⟨c, hc, hk⟩
  · exact h.keys k hk
  · exact h.sets ks hks k hk
  · exact h.registries r hr k hk
  · exact h.configs c hc k hk

/-- Callers are confined to what they can reach, and to what is going to be new. -/
theorem confined_reaches (s : Session) : s.Confined { i | s.Reaches i ∨ s.pool.nextId ≤ i } := by
  refine .of_heldKeys (fun k hk => .inl ⟨k, hk, .self⟩) (fun id hid e he => ?_) fun id hid =>
    .inr hid
  rcases hid with ⟨k, hk, hholds⟩ | hnew
  · exact .inl ⟨k, hk, hholds.entry he⟩
  · exact absurd (Pool.lt_of_mem_entries he) (Nat.not_lt.mpr hnew)

theorem mem_keySets_of_remembers (h : s.Remembers id sn) : sn.keys.toList ∈ s.keySets := by
  obtain ⟨m, hplugin, hsn⟩ := h
  have hmem : sn.keys.toList ∈ (Plugin.memory id m).sets := by
    simp [Plugin.sets, MemoryStore.sets, hsn]
  simp only [keySets, List.mem_append, List.mem_flatMap]
  exact .inl (.inr ⟨_, hplugin, hmem⟩)

theorem mem_handleIds_of_remembers (h : s.Remembers id sn) : sn.parent.id ∈ s.handleIds := by
  obtain ⟨m, hplugin, hsn⟩ := h
  have hmem : sn.parent.id ∈ (Plugin.memory id m).handles := by
    simp [Plugin.handles, MemoryStore.handles, hsn]
  exact List.mem_append_right _ (List.mem_flatMap.mpr ⟨_, hplugin, hmem⟩)

/-- What an instance remembers is there. -/
theorem Sound.exists_of_remembers (h : s.Sound [] [] []) (hsn : s.Remembers id sn)
    (hi : i ∈ sn.ids) : ∃ r, s.pool.find? i = some r := by
  rcases List.mem_cons.mp hi with rfl | hi
  · obtain ⟨r, hr, -⟩ := h.balanced.exists_of_handle (mem_handleIds_of_remembers hsn)
    exact ⟨r, hr⟩
  · obtain ⟨k, hk, rfl⟩ := List.mem_map.mp hi
    exact h.balanced.exists_of_mem_set (mem_keySets_of_remembers hsn) hk

/-- What is kept is there. -/
theorem Sound.exists_of_keeps (h : s.Sound [] [] []) (hid : id < s.stores.size)
    (hi : s.Keeps id i) : ∃ r, s.pool.find? i = some r := by
  rcases hi with ⟨k, hk, rfl⟩ | ⟨sn, hsn, hmem⟩
  · exact h.balanced.exists_of_mem_set (mem_keySets_of_store hid) hk
  · exact h.exists_of_remembers hsn hmem

/-- Where nothing is kept, nothing is shared. -/
theorem isolated_of_empty (hstore : (s.store id).toList = []) (hsn : ∀ sn, ¬ s.Remembers id sn) :
    s.Isolated id := by
  rintro i - j (⟨k, hk, -⟩ | ⟨sn, hremembers, -⟩)
  · rw [hstore] at hk
    cases hk
  · exact absurd hremembers (hsn sn)

end Session

/-! ### A stage -/

namespace MemoryStore

variable {p : Pool} {store keys : KeySet} {k : Key} {m : MemoryStore} {stage : Stage}

/-- **A stage that does not write** keeps nothing that was not kept, or remembered. -/
theorem run_of_not_writes (hwrites : stage = .set → m.isOpen = true → m.readonly = true) :
    let o := m.run stage p store keys k
    (∀ sn, o.plugin.snapshot = some sn → m.snapshot = some sn) ∧
      ∀ x ∈ o.store.toList,
        x ∈ store.toList ∨ ∃ sn, m.snapshot = some sn ∧ x ∈ sn.keys.toList := by
  cases stage with
  | opening =>
    simp only [run, onOpen]
    split
    · exact ⟨fun sn h => h, fun x hx => .inl hx⟩
    · split <;> exact ⟨fun sn h => h, fun x hx => .inl hx⟩
  | get =>
    simp only [run, onGet]
    split <;> exact ⟨fun sn h => h, fun x hx => .inl hx⟩
  | set =>
    simp only [run, onSet]
    split
    · next hopen =>
      rw [if_pos (hwrites rfl hopen)]
      exact ⟨fun sn h => h, fun x hx => .inl hx⟩
    · exact ⟨fun sn h => h, fun x hx => .inl hx⟩
  | error =>
    simp only [run, onError]
    rcases hsn : m.snapshot with _ | sn
    · exact ⟨fun sn h => hsn ▸ h, fun x hx => .inl hx⟩
    · refine ⟨fun sn hsn => absurd hsn.symm (Option.some_ne_none sn), fun x hx => ?_⟩
      rcases KeySet.mem_appendAll hx with hx | hx
      · exact .inr ⟨sn, rfl, hx⟩
      · exact .inl (KeySet.mem_cut (.inr hx))
  | close =>
    exact ⟨fun sn hsn => absurd hsn.symm (Option.some_ne_none sn), fun x hx => .inl hx⟩

end MemoryStore

namespace Session

variable {s s' : Session} {id : StoreId} {i j : RecordId} {c : Command} {out : Reply × Session}
variable {slot key : String} {set : Option String} {m : MemoryStore} {sn : Snapshot}

/-! ### Instances and kept keys after a command -/

theorem store_of_stores {stores : Array KeySet} (h : s'.stores = stores) (id : StoreId) :
    s'.store id = { s with stores }.store id := by
  rw [store, store, h]

/-- A command that changes no slot of plugins leaves all instances as they are. -/
theorem Sound.plugins_exec (h : s.Sound [] [] []) (hstep : s.exec c = some out)
    (hc : c.plugins = []) : out.2.plugins = s.plugins := by
  refine (h.stays_exec hstep).instances ?_
  rw [Command.scope, hc]
  exact Set.eq_empty_of_forall_notMem fun slot hslot => List.not_mem_nil hslot

/-- The instances and the kept keys after a stage. -/
theorem exec_run_cases {stage : Stage} (hstep : s.exec (.run slot stage set key) = some out) :
    ∃ plugin k ks, s.plugins.get? slot = some plugin ∧ s.keys.get? key = some k ∧
      s.callerSet set = some ks ∧
      let o := plugin.run stage s.pool ((plugin.store?.map s.store).getD {}) ks k
      out.1 = .status o.status ∧ out.2.plugins = s.plugins.put slot o.plugin ∧
        out.2.stores = match plugin.store? with
          | none => s.stores
          | some id => s.stores.setIfInBounds id o.store := by
  obtain ⟨plugin, hplugin, hstep⟩ := Option.bind_eq_some_iff.mp hstep
  obtain ⟨k, hk, hstep⟩ := Option.bind_eq_some_iff.mp hstep
  rcases set with _ | set
  · cases hstep
    exact ⟨plugin, k, {}, hplugin, hk, rfl, rfl, rfl, rfl⟩
  · obtain ⟨ks, hks, ⟨⟩⟩ := Option.bind_eq_some_iff.mp hstep
    exact ⟨plugin, k, ks, hplugin, hk, hks, rfl, rfl, rfl⟩

theorem plugins_dropPlugin (s : Session) (plugin : Plugin) :
    (s.dropPlugin plugin).plugins = s.plugins := by
  rw [dropPlugin]
  rcases plugin.store? with _ | id
  · rfl
  · simp only [dropStore]
    split <;> rfl

theorem store_dropStore {x : Key} {dropped : StoreId}
    (hx : x ∈ ((s.dropStore dropped).store id).toList) : x ∈ (s.store id).toList := by
  rw [dropStore] at hx
  split at hx
  · exact hx
  · have hput : { s with
        pool := (s.store dropped).drop s.pool
        stores := s.stores.setIfInBounds dropped {} }.store id
        = if id = dropped ∧ dropped < s.stores.size then {} else s.store id :=
      store_setIfInBounds { s with pool := (s.store dropped).drop s.pool } dropped {} id
    rw [hput] at hx
    split at hx
    · cases hx
    · exact hx

/-- To give up a plugin keeps nothing more. -/
theorem store_dropPlugin {x : Key} {plugin : Plugin}
    (hx : x ∈ ((s.dropPlugin plugin).store id).toList) : x ∈ (s.store id).toList := by
  rw [dropPlugin] at hx
  rcases hstore : plugin.store? with _ | dropped
  · rw [hstore] at hx
    exact hx
  · rw [hstore] at hx
    exact store_dropStore (s := { s with pool := plugin.drop s.pool }) hx

theorem plugins_storePlugin (s : Session) (slot : String) (plugin : Plugin) :
    (s.storePlugin slot plugin).plugins = s.plugins.put slot plugin := by
  rw [storePlugin]
  rcases s.plugins.get? slot with _ | old
  · rfl
  · exact plugins_dropPlugin _ old

theorem store_storePlugin {x : Key} {plugin : Plugin}
    (hx : x ∈ ((s.storePlugin slot plugin).store id).toList) : x ∈ (s.store id).toList := by
  rw [storePlugin] at hx
  rcases hold : s.plugins.get? slot with _ | old
  · rw [hold] at hx
    exact hx
  · rw [hold] at hx
    exact store_dropPlugin (s := { s with plugins := s.plugins.put slot plugin }) hx

/-- A new instance goes into its slot, closed and without anything to remember. -/
theorem plug_cases {kind : PluginKind} {config : Option String}
    (hstep : s.plug slot kind config = some out) :
    ∃ (s₁ : Session) (plugin : Plugin), out.2 = s₁.storePlugin slot plugin ∧
      s₁.plugins = s.plugins ∧ (∀ id, id < s.stores.size → s₁.store id = s.store id) ∧
      ∀ id m, plugin = .memory id m → m.snapshot = none ∧ m.isOpen = false := by
  obtain ⟨⟨p, c⟩, -, hstep⟩ := Option.bind_eq_some_iff.mp hstep
  cases kind with
  | memory =>
    cases hstep
    exact ⟨_, _, rfl, rfl, fun id hid => store_push _ _ hid, by rintro id m ⟨⟩; exact ⟨rfl, rfl⟩⟩
  | sharing other =>
    obtain ⟨plugin, -, hstep⟩ := Option.bind_eq_some_iff.mp hstep
    cases plugin with
    | memory id m =>
      cases hstep
      exact ⟨_, _, rfl, rfl, fun id hid => rfl, by rintro id m ⟨⟩; exact ⟨rfl, rfl⟩⟩
    | charsetFilter f => cases hstep
    | plain name => cases hstep
  | keeping set =>
    obtain ⟨ks, -, ⟨⟩⟩ := Option.bind_eq_some_iff.mp hstep
    exact ⟨_, _, rfl, rfl, fun id hid => store_push _ _ hid, by rintro id m ⟨⟩; exact ⟨rfl, rfl⟩⟩
  | charsetFilter =>
    cases hstep
    exact ⟨_, _, rfl, rfl, fun id hid => rfl, nofun⟩
  | plain name =>
    cases hstep
    exact ⟨_, _, rfl, rfl, fun id hid => rfl, nofun⟩

/-- An instance that a command writes with is open, and not readonly. -/
theorem exists_of_writes (h : c.Writes s id) :
    ∃ slot set key m, c = .run slot .set set key ∧ s.plugins.get? slot = some (.memory id m) ∧
      m.isOpen = true ∧ m.readonly = false := by
  cases c with
  | run slot stage set key =>
    cases stage with
    | set =>
      obtain ⟨m, hm⟩ := exists_of_writableStore? h
      exact ⟨slot, set, key, m, rfl, hm⟩
    | _ => cases h
  | _ => cases h

/-- Nothing is kept under a number, and remembered over it, but what was kept or remembered. -/
structure KeepsNoMore (s : Session) (id : StoreId) (s' : Session) : Prop where
  /-- No instance remembers anything new. -/
  remembers : ∀ sn, s'.Remembers id sn → s.Remembers id sn
  /-- What is kept was kept, or remembered. -/
  store : id < s.stores.size → ∀ x ∈ (s'.store id).toList, s.Keeps id x.id

theorem keepsNoMore_run {stage : Stage} (hc : ¬ (Command.run slot stage set key).Writes s id)
    (hstep : s.exec (.run slot stage set key) = some out) : s.KeepsNoMore id out.2 := by
  obtain ⟨plugin, k, ks, hget, -, -, -, hplugins, hstores⟩ := exec_run_cases hstep
  cases plugin with
  | memory id' m =>
    have hwrites : id' = id → stage = .set → m.isOpen = true → m.readonly = true := by
      rintro rfl rfl hopen
      by_contra hreadonly
      exact hc (by simp [Command.Writes, writableStore?, hget, hopen, hreadonly])
    refine ⟨fun sn hsn => ?_, fun hid x hx => ?_⟩
    · obtain ⟨m', hmem, hsn⟩ := hsn
      rw [hplugins] at hmem
      rcases Slots.mem_put hmem with heq | hold
      · obtain ⟨rfl, rfl⟩ := Plugin.memory.inj heq
        exact ⟨m, Slots.mem_contents hget, (MemoryStore.run_of_not_writes (hwrites rfl)).1 sn hsn⟩
      · exact ⟨m', hold, hsn⟩
    · have hput : out.2.stores
          = s.stores.setIfInBounds id' (m.run stage s.pool (s.store id') ks k).store := hstores
      rw [store_of_stores hput, store_setIfInBounds] at hx
      split at hx
      · next heq =>
        obtain ⟨rfl, -⟩ := heq
        rcases (MemoryStore.run_of_not_writes (hwrites rfl)).2 x hx with hold | ⟨sn, hsn, hmem⟩
        · exact .inl ⟨x, hold, rfl⟩
        · exact .inr ⟨sn, ⟨m, Slots.mem_contents hget, hsn⟩, sn.mem_ids_of_key hmem⟩
      · exact .inl ⟨x, hx, rfl⟩
  | _ =>
    -- a plugin that keeps nothing changes its own slot
    refine ⟨fun sn hsn => ?_, fun hid x hx => .inl ⟨x, ?_, rfl⟩⟩
    · obtain ⟨m, hmem, hsn⟩ := hsn
      rw [hplugins] at hmem
      exact ⟨m, (Slots.mem_put hmem).resolve_left nofun, hsn⟩
    · rwa [store_of_stores (s := s) hstores] at hx

theorem keepsNoMore_plug {kind : PluginKind} {config : Option String}
    (hstep : s.plug slot kind config = some out) : s.KeepsNoMore id out.2 := by
  obtain ⟨s₁, plugin, hout, hplugins, hsame, hnone⟩ := plug_cases hstep
  refine ⟨fun sn hsn => ?_, fun hid x hx => .inl ⟨x, ?_, rfl⟩⟩
  · obtain ⟨m, hmem, hsn⟩ := hsn
    rw [hout, plugins_storePlugin, hplugins] at hmem
    rcases Slots.mem_put hmem with rfl | hold
    · rw [(hnone id m rfl).1] at hsn
      cases hsn
    · exact ⟨m, hold, hsn⟩
  · rw [hout] at hx
    rw [← hsame id hid]
    exact store_storePlugin hx

theorem keepsNoMore_unplug (hstep : s.unplug slot = some out) : s.KeepsNoMore id out.2 := by
  obtain ⟨plugin, -, ⟨⟩⟩ := Option.bind_eq_some_iff.mp hstep
  refine ⟨fun sn hsn => ?_, fun hid x hx => .inl ⟨x, ?_, rfl⟩⟩
  · obtain ⟨m, hmem, hsn⟩ := hsn
    rw [plugins_dropPlugin] at hmem
    exact ⟨m, Slots.mem_clear hmem, hsn⟩
  · exact store_dropPlugin (s := { s with plugins := s.plugins.clear slot }) hx

/-- **A command that does not write** lets no instance remember anything new, and keeps nothing that
was not kept, or remembered. -/
theorem Sound.exec_of_not_writes (h : s.Sound [] [] []) (hstep : s.exec c = some out)
    (hc : ¬ c.Writes s id) : s.KeepsNoMore id out.2 := by
  cases c with
  | run slot stage set key => exact keepsNoMore_run hc hstep
  | plug slot kind config => exact keepsNoMore_plug hstep
  | unplug slot => exact keepsNoMore_unplug hstep
  | _ =>
    refine ⟨fun sn hsn => ?_, fun hid x hx => .inl ⟨x, ?_, rfl⟩⟩
    · obtain ⟨m, hmem, hsn⟩ := hsn
      exact ⟨m, h.plugins_exec hstep rfl ▸ hmem, hsn⟩
    · rwa [(h.stays_exec hstep).stores id (fun hchanges => hchanges) hid] at hx

/-- **A command that writes** does so below a parent. -/
theorem Reachable.exec_of_writes (h : s.Reachable) (hstep : s.exec c = some out)
    (hc : c.Writes s id) : ∃ slot m k ks sn, s.Written slot id m k ks sn out.2 := by
  obtain ⟨slot, set, key, m, rfl, hplugin, hopen, hwrite⟩ := exists_of_writes hc
  obtain ⟨plugin, k, ks, -, hk, hks, -⟩ := exec_run_cases hstep
  obtain ⟨sn, s', hset, hwritten⟩ := h.sound.exec_set h.forward hplugin hopen hwrite hk hks
  obtain rfl := Option.some.inj (hstep.symm.trans hset)
  exact ⟨slot, m, k, ks, sn, hwritten⟩

/-- Nothing is remembered after a write that was not, but what it replaced. -/
theorem Written.remembers {k : Key} {ks : KeySet} {id' : StoreId} {sn' : Snapshot}
    (h : s.Written slot id m k ks sn s') (hsn' : s'.Remembers id' sn') :
    s.Remembers id' sn' ∨ id' = id ∧ sn' = sn := by
  obtain ⟨m', hmem, hsn'⟩ := hsn'
  rw [h.plugins] at hmem
  rcases Slots.mem_put hmem with heq | hold
  · obtain ⟨rfl, rfl⟩ := Plugin.memory.inj heq
    exact .inr ⟨rfl, (Option.some.inj hsn').symm⟩
  · exact .inl ⟨m', hold, hsn'⟩

/-- **What is kept after a command** was kept before, or it was written just then and is new. -/
theorem Reachable.keeps_of_exec (h : s.Reachable) (hid : id < s.stores.size)
    (hstep : s.exec c = some out) (hi : out.2.Keeps id i) :
    s.Keeps id i ∨ c.Writes s id ∧ s.pool.nextId ≤ i ∧ i < out.2.pool.nextId := by
  have hkept : ∀ n, (n, i) ∈ s.pool.pairs (s.store id).toList → s.Keeps id i := by
    intro n hmem
    obtain ⟨k, hk, -, rfl⟩ := Pool.mem_pairs.mp hmem
    exact .inl ⟨k, hk, rfl⟩
  by_cases hc : c.Writes s id
  · obtain ⟨slot, m, k, ks, written, hwritten⟩ := h.exec_of_writes hstep hc
    rcases hi with ⟨x, hx, rfl⟩ | ⟨sn, hsn, hi⟩
    · have hmem : (out.2.pool.name x, x.id) ∈ out.2.pool.pairs (out.2.store id).toList :=
        Pool.mem_pairs.mpr ⟨x, hx, rfl, rfl⟩
      rcases hbelow : (out.2.pool.name x).isBelowOrSame (s.pool.name k) with _ | _
      · have hin : (out.2.pool.name x, x.id) ∈ out.2.storedBeside id (s.pool.name k) :=
          Pool.mem_pairsBeside.mpr ⟨hmem, hbelow⟩
        rw [hwritten.beside] at hin
        exact .inl (hkept _ (Pool.mem_pairsBeside.mp hin).1)
      · exact .inr ⟨hc, hwritten.new _ (Pool.mem_pairsBelow.mpr ⟨hmem, hbelow⟩)⟩
    · rcases hwritten.remembers hsn with hold | ⟨-, rfl⟩
      · exact .inl (.inr ⟨sn, hold, hi⟩)
      · -- the parent was copied just then, and what was replaced was kept before
        rcases List.mem_cons.mp hi with rfl | hi
        · exact .inr ⟨hc, hwritten.stored.parent_new⟩
        · obtain ⟨x, hx, rfl⟩ := List.mem_map.mp hi
          have hmem : (out.2.pool.name x, x.id) ∈ out.2.pool.pairs sn.keys.toList :=
            Pool.mem_pairs.mpr ⟨x, hx, rfl, rfl⟩
          rw [hwritten.replaced] at hmem
          exact .inl (hkept _ (Pool.mem_pairsBelow.mp hmem).1)
  · have hmore := h.sound.exec_of_not_writes hstep hc
    rcases hi with ⟨k, hk, rfl⟩ | ⟨sn, hsn, hmem⟩
    · exact .inl (hmore.store hid k hk)
    · exact .inl (.inr ⟨sn, hmore.remembers sn hsn, hmem⟩)

/-! ### Records apart from callers -/

/-- **What callers cannot reach stays out of reach**, whatever a command does. -/
theorem Apart.exec (h : s.Apart j) (hs : s.Reachable) (hthere : ∃ r, s.pool.find? j = some r)
    {reply : Reply} (hstep : s.exec c = some (reply, s')) : s'.Apart j := by
  have hrun : s.Runs (fun _ _ => True) s' := (Runs.refl s).step trivial hstep
  have hstays := hrun.stays_confined hs s.confined_reaches
  obtain ⟨r, hr⟩ := hthere
  have hout : ∀ i, s.pool.Holds j i → i ∉ { i | s.Reaches i ∨ s.pool.nextId ≤ i } := by
    rintro i hi (hreach | hnew)
    · exact h i hreach hi
    · exact Nat.not_lt.mpr hnew (hi.lt hs.forward (Pool.find?_lt hr))
  -- it is not written, and so it holds what it held
  intro i hi hholds
  exact hout i (hstays.pool.holds_of_holds hs.forward (Pool.find?_lt hr) hout hholds)
    (hstays.confined.reaches hi)

/-- What is sealed is apart from callers. -/
theorem Sealed.apart {entries : List (Name × RecordId)} (h : s.Sealed entries)
    {e : Name × RecordId} (he : e ∈ entries) : s.Apart e.2 := by
  obtain ⟨Q, hconfined, hout⟩ := h
  exact fun i hi hholds => hout e he i hholds (hconfined.reaches hi)

/-- **What a write makes is out of reach.** -/
theorem Written.apart {k : Key} {ks : KeySet} (h : s.Written slot id m k ks sn s')
    (hs : s.Reachable) (hj : s.pool.nextId ≤ j ∧ j < s'.pool.nextId) : s'.Apart j := by
  have hsealed : s'.Sealed [(s.pool.name k, j)] := h.sealed hs (by simpa using hj)
  exact hsealed.apart List.mem_cons_self

/-- Callers can reach none of the records that are apart from them. -/
theorem Reachable.sealed_of_apart (hs : s.Reachable) {entries : List (Name × RecordId)}
    (hentries : ∀ e ∈ entries, s.Apart e.2 ∧ ∃ r, s.pool.find? e.2 = some r) :
    s.Sealed entries := by
  refine ⟨_, s.confined_reaches, fun e he i hi => ?_⟩
  obtain ⟨hapart, r, hr⟩ := hentries e he
  rintro (hreach | hnew)
  · exact hapart i hreach hi
  · exact Nat.not_lt.mpr hnew (hi.lt hs.forward (Pool.find?_lt hr))

/-- **The parent that an instance remembers is out of reach**, in any session, since it is a copy
that only the instance has a handle to. -/
theorem Reachable.apart_parent (h : s.Reachable) (hsn : s.Remembers id sn) :
    s.Apart sn.parent.id := by
  induction h generalizing id sn with
  | start =>
    obtain ⟨m, hmem, -⟩ := hsn
    cases hmem
  | @step s s' c reply hreach hstep ih =>
    have hold : s.Remembers id sn → s'.Apart sn.parent.id := fun hbefore =>
      (ih hbefore).exec hreach (hreach.sound.exists_of_remembers hbefore sn.parent_mem_ids) hstep
    by_cases hc : c.Writes s id
    · obtain ⟨slot, m, k, ks, written, hwritten⟩ := hreach.exec_of_writes hstep hc
      rcases hwritten.remembers hsn with hbefore | ⟨-, rfl⟩
      · exact hold hbefore
      · exact hwritten.apart hreach hwritten.stored.parent_new
    · exact hold ((hreach.sound.exec_of_not_writes hstep hc).remembers sn hsn)

/-- **It says what it said** as long as it is remembered, whatever becomes of the key that it was
copied from. -/
theorem Reachable.tree_parent {allowed : Session → Command → Prop} (h : s.Reachable)
    (hsn : s.Remembers id sn) (hrun : s.Runs allowed s') (hsn' : s'.Remembers id sn) :
    s'.pool.tree sn.parent.id = s.pool.tree sn.parent.id := by
  have hthere := h.sound.exists_of_remembers hsn sn.parent_mem_ids
  have hsealed : s.Sealed [(s.pool.name sn.parent, sn.parent.id)] :=
    h.sealed_of_apart (by simpa using ⟨h.apart_parent hsn, hthere⟩)
  obtain ⟨r, hr⟩ := hthere
  have hthere' := (hrun.reachable h).sound.exists_of_remembers hsn' sn.parent_mem_ids
  exact hsealed.trees_kept h hrun (by simpa using Pool.find?_lt hr) (by simpa using hthere') _
    List.mem_cons_self

theorem Reachable.name_parent {allowed : Session → Command → Prop} (h : s.Reachable)
    (hsn : s.Remembers id sn) (hrun : s.Runs allowed s') (hsn' : s'.Remembers id sn) :
    s'.pool.name sn.parent = s.pool.name sn.parent := by
  rw [Pool.name, ← Pool.name_tree, h.tree_parent hsn hrun hsn', Pool.name_tree, Pool.name]

/-! ### Isolation -/

theorem Isolated.apart (h : s.Isolated id) (hj : s.Keeps id j) : s.Apart j := fun i hi =>
  h i hi j hj

/-- **A command shares no record.** -/
theorem Isolated.exec (h : s.Isolated id) (hs : s.Reachable) (hid : id < s.stores.size)
    {reply : Reply} (hstep : s.exec c = some (reply, s')) :
    s'.Isolated id ∧ id < s'.stores.size := by
  have hrun : s.Runs (fun _ _ => True) s' := (Runs.refl s).step trivial hstep
  have hstays := hrun.stays_confined hs s.confined_reaches
  refine ⟨fun i hi j hj => ?_, Nat.lt_of_lt_of_le hid hstays.size⟩
  rcases hs.keeps_of_exec hid hstep hj with hold | ⟨hwrites, hnew⟩
  · exact (h.apart hold).exec hs (hs.sound.exists_of_keeps hid hold) hstep i hi
  · obtain ⟨slot, m, k, ks, sn, hwritten⟩ := hs.exec_of_writes hstep hwrites
    exact hwritten.apart hs hnew i hi

/-- **No run shares a record**, whatever callers do and however often stages are run. -/
theorem Isolated.runs {allowed : Session → Command → Prop} (h : s.Isolated id) (hs : s.Reachable)
    (hid : id < s.stores.size) (hrun : s.Runs allowed s') :
    s'.Isolated id ∧ id < s'.stores.size := by
  induction hrun with
  | refl => exact ⟨h, hid⟩
  | step hrun _ hstep ih => exact ih.1.exec (hrun.reachable hs) ih.2 hstep

/-- **A new memory store shares nothing**: it keeps nothing yet. -/
theorem Reachable.isolated_plug (h : s.Reachable) {config : Option String}
    {reply : Reply} (hstep : s.exec (.plug slot .memory config) = some (reply, s')) :
    s'.Isolated s.stores.size ∧ s.stores.size < s'.stores.size := by
  have h' := h.step hstep
  obtain ⟨⟨p, c⟩, -, ⟨⟩⟩ := Option.bind_eq_some_iff.mp hstep
  have hplugins := plugins_storePlugin { s with pool := p, stores := s.stores.push {} } slot
    (.memory s.stores.size { config := c })
  refine ⟨isolated_of_empty ?_ ?_, h'.sound.store_lt
    ((congrArg (fun slots => slots.get? slot) hplugins).trans (Slots.get?_put_self _ _ _))⟩
  · refine List.eq_nil_iff_forall_not_mem.mpr fun x hx => ?_
    have hmem := store_storePlugin hx
    simp [store, KeySet.toList] at hmem
  · rintro sn ⟨m, hmem, hsn⟩
    rw [hplugins] at hmem
    rcases Slots.mem_put hmem with heq | hold
    · obtain ⟨-, rfl⟩ := Plugin.memory.inj heq
      cases hsn
    · -- the instances that were there work on other kept keys
      exact absurd (h.sound.stored _ hold _ rfl) (Nat.lt_irrefl _)

/-- Callers can reach nothing of what is isolated. -/
theorem Isolated.sealed (h : s.Isolated id) (hs : s.Reachable) (hid : id < s.stores.size)
    {entries : List (Name × RecordId)} (hentries : ∀ e ∈ entries, s.Keeps id e.2) :
    s.Sealed entries :=
  hs.sealed_of_apart fun e he =>
    ⟨h.apart (hentries e he), hs.sound.exists_of_keeps hid (hentries e he)⟩

/-! ### What instances remember -/

/-- **What an instance remembers lies at or below the parent of its write**, for names are pinned as
long as it does. -/
theorem Reachable.remembered_below (h : s.Reachable) (hsn : s.Remembers id sn) :
    ∀ k ∈ sn.keys.toList, (s.pool.name k).isBelowOrSame (s.pool.name sn.parent) = true := by
  induction h generalizing id sn with
  | start =>
    obtain ⟨m, hmem, -⟩ := hsn
    cases hmem
  | @step s s' c reply hreach hstep ih =>
    intro k hk
    have hold : s.Remembers id sn →
        (s'.pool.name k).isBelowOrSame (s'.pool.name sn.parent) = true := by
      intro hbefore
      have hname := hreach.sound.name_exec hstep
        (hreach.sound.balanced.locked_of_mem_set (mem_keySets_of_remembers hbefore) hk)
        ((hreach.step hstep).sound.balanced.exists_of_mem_set (mem_keySets_of_remembers hsn) hk)
      have hrun : s.Runs (fun _ _ => True) s' := (Runs.refl s).step trivial hstep
      rw [hname, hreach.name_parent hbefore hrun hsn]
      exact ih hbefore k hk
    by_cases hc : c.Writes s id
    · obtain ⟨slot, m, parent, ks, written, hwritten⟩ := hreach.exec_of_writes hstep hc
      rcases hwritten.remembers hsn with hbefore | ⟨-, rfl⟩
      · exact hold hbefore
      · have hmem : (s'.pool.name k, k.id) ∈ s'.pool.pairs sn.keys.toList :=
          Pool.mem_pairs.mpr ⟨k, hk, rfl, rfl⟩
        rw [hwritten.replaced] at hmem
        rw [hwritten.name_parent]
        exact (Pool.mem_pairsBelow.mp hmem).2
    · exact hold ((hreach.sound.exec_of_not_writes hstep hc).remembers sn hsn)

end Session
end ConfigKeys
