import ConfigKeys.Plugin.Basic
import ConfigKeys.Proofs.Config.Balance
import ConfigKeys.Proofs.Key.Metadata

/-!
# Plugins balance

A plugin holds key sets of its own — its set-up and, in a memory store, what its last write
replaced — and a memory store has a handle on a copy of the parent of that write.  A stage works on
these, on the kept keys and on the caller's keys, and balances with all of them.

## Main definitions

* `MemoryStore.sets`, `CharsetFilter.sets`, `Plugin.sets` — the key sets of an instance.
* `MemoryStore.handles`, `Plugin.handles` — the handles of an instance.
* `Snapshot.ids` — the records that an instance remembers.
* `stageSets` — those at work in a stage.

## Main results

* `Pool.Balanced.runMemoryStore`, `Pool.Balanced.runCharsetFilter` — the stages of either plugin.
* `Pool.Balanced.runPlugin` — a stage of any plugin.
* `Pool.Balanced.dropPlugin` — giving an instance up.
-/

namespace ConfigKeys

/-- The key sets of an instance of the memory store: its set-up, and what its last write
replaced. -/
def MemoryStore.sets (m : MemoryStore) : List (List Key) :=
  m.config.entries.toList :: m.snapshot.toList.map fun s => s.keys.toList

/-- The records of what a write replaced: the copy of the parent, and the keys. -/
def Snapshot.ids (s : Snapshot) : List RecordId := s.parent.id :: s.keys.toList.map Key.id

theorem Snapshot.parent_mem_ids (s : Snapshot) : s.parent.id ∈ s.ids := List.mem_cons_self

theorem Snapshot.mem_ids_of_key {k : Key} (s : Snapshot) (hk : k ∈ s.keys.toList) : k.id ∈ s.ids :=
  List.mem_cons_of_mem _ (List.mem_map_of_mem hk)

/-- The handles of an instance of the memory store: the one on the copy of the parent of its last
write. -/
def MemoryStore.handles (m : MemoryStore) : List RecordId :=
  m.snapshot.toList.map fun s => s.parent.id

/-- The key sets of an instance of the charset filter: its set-up. -/
def CharsetFilter.sets (f : CharsetFilter) : List (List Key) := [f.config.entries.toList]

/-- The key sets of an instance of a plugin. -/
def Plugin.sets : Plugin → List (List Key)
  | .memory _ m => m.sets
  | .charsetFilter f => f.sets
  | .plain _ => []

/-- The handles of an instance of a plugin. -/
def Plugin.handles : Plugin → List RecordId
  | .memory _ m => m.handles
  | _ => []

/-- The key sets at work in a stage: the kept keys, the caller's keys, what the instance holds of
its `own`, and any others. -/
def stageSets (store keys : KeySet) (own S : List (List Key)) : List (List Key) :=
  store.toList :: keys.toList :: (own ++ S)

namespace Pool.Balanced

variable {p : Pool} {S R : List (List Key)} {P H L : List RecordId}
variable {store keys : KeySet} {parent : Key}

/-! ### The memory store -/

/-- A copy of the parent is remembered, which nobody else holds. -/
theorem takeSnapshot (h : p.Balanced S R P H L) (parent : Key) (keys : KeySet) :
    (Snapshot.take p parent keys).1.Balanced S R P (p.nextId :: H) L := by
  obtain ⟨hcopy, ⟨r, hr, -⟩, -, -⟩ := h.copy parent.id
  exact hcopy.retain hr

theorem dropOneSnapshot {s : Snapshot}
    (h : p.Balanced (s.keys.toList :: S) R P (s.parent.id :: H) L) :
    (s.drop p).Balanced S R P H L :=
  h.release.dropSet

theorem dropSnapshot {m : MemoryStore} (others : List (List Key))
    (h : p.Balanced (others ++ (m.sets ++ S)) R P (m.handles ++ H) L) :
    (m.dropSnapshot p).Balanced (others ++ m.config.entries.toList :: S) R P H L := by
  rw [MemoryStore.dropSnapshot]
  rw [MemoryStore.sets, MemoryStore.handles] at h
  rcases hs : m.snapshot with _ | s
  · rw [hs] at h
    exact h
  · rw [hs] at h
    have hlast : (s.keys.toList :: (others ++ m.config.entries.toList :: S)).Perm
        (others ++ (m.config.entries.toList :: s.keys.toList :: S)) := by
      have hmiddle := @List.perm_middle _ s.keys.toList (others ++ [m.config.entries.toList]) S
      simpa using hmiddle.symm
    exact (h.perm_sets hlast).dropOneSnapshot

/-- A key that is read takes its place among the caller's keys. -/
theorem refresh (h : p.Balanced (keys.toList :: S) R P H L) (count : Nat) (k : Key) :
    (MemoryStore.refresh p keys count k).1.Balanced
      ((MemoryStore.refresh p keys count k).2.1.toList :: S) R P H L := by
  obtain ⟨hnew, ⟨r, hr, -⟩, -, -⟩ := h.copy k.id
  have happ := hnew.append (k := ⟨p.nextId, {}⟩) hr
  rw [MemoryStore.refresh]
  rcases keys.find? p (p.name k) with _ | mine
  · exact happ
  · by_cases hsame : (p.sameContent mine k && p.sameMeta mine k) = true
    · simp only [hsame, if_true]
      exact h
    · simp only [hsame, Bool.false_eq_true, if_false]
      exact happ

theorem warnReadonly {text : String} (h : p.Balanced S R P H L) (hparent : parent.id ∈ H) :
    (MemoryStore.warnReadonly p parent text).Balanced S R P H L := by
  unfold MemoryStore.warnReadonly
  generalize Report.validation _ _ = r
  generalize hadd : r.addWarning p parent = done
  rcases done with e | ⟨index, p'⟩
  · exact h
  · exact h.addWarning hparent hadd

theorem failStage {m : MemoryStore}
    (h : p.Balanced (stageSets store keys m.sets S) R P (m.handles ++ H) L)
    (hparent : parent.id ∈ H) (r : Report) :
    let o := m.fail p store keys parent r
    o.pool.Balanced (stageSets o.store o.keys o.plugin.sets S) R P (o.plugin.handles ++ H) L := by
  simp only [MemoryStore.fail]
  exact h.attach (List.mem_append_right _ hparent)

theorem onOpen {m : MemoryStore}
    (h : p.Balanced (stageSets store keys m.sets S) R P (m.handles ++ H) L)
    (hparent : parent.id ∈ H) :
    let o := m.onOpen p store keys parent
    o.pool.Balanced (stageSets o.store o.keys o.plugin.sets S) R P (o.plugin.handles ++ H) L := by
  simp only [MemoryStore.onOpen]
  split
  · exact h
  · next text _ =>
    split
    · exact h
    · show Pool.Balanced (if text = falseToken then p else _) _ R P (m.handles ++ H) L
      split
      · exact h
      · exact h.warnReadonly (List.mem_append_right _ hparent)

theorem onGet {m : MemoryStore}
    (h : p.Balanced (stageSets store keys m.sets S) R P (m.handles ++ H) L)
    (hparent : parent.id ∈ H) :
    let o := m.onGet p store keys parent
    o.pool.Balanced (stageSets o.store o.keys o.plugin.sets S) R P (o.plugin.handles ++ H) L := by
  rw [MemoryStore.onGet]
  by_cases hopen : m.isOpen = true
  · -- the caller's keys come first, since they are the set that changes
    simp only [hopen, if_true]
    refine perm_sets (S := _ :: store.toList :: (m.sets ++ S)) ?_ (.swap _ _ _)
    refine List.foldlRecOn (motive := fun done : Pool × KeySet × Nat =>
      done.1.Balanced (done.2.1.toList :: store.toList :: (m.sets ++ S)) R P (m.handles ++ H) L)
      (store.subtree p (p.name parent)).toList _ (h.perm_sets (.swap _ _ _)) ?_
    intro done hdone k _
    exact hdone.refresh done.2.2 k
  · simp only [hopen, Bool.false_eq_true, if_false]
    exact h.failStage hparent _

/-- The keys of a set go into another one, from which room was made for them. -/
theorem swapIn {incoming : KeySet} (h : p.Balanced (incoming.toList :: store.toList :: S) R P H L)
    (n : Name) :
    let done := (store.cut p n).2.appendAll p incoming.toList
    done.1.Balanced (done.2.toList :: (store.cut p n).1.toList :: incoming.toList :: S) R P H
      L := by
  have hcut := (h.perm_sets (.swap _ _ _)).cut n
  have hheld : ∀ k ∈ incoming.toList, k.id ∈ placeIds ((store.cut p n).1.toList ::
      incoming.toList :: S) R P ++ H := by
    intro k hk
    exact List.mem_append_left H (mem_placeIds_of_set (by simp) hk)
  exact (hcut.perm_sets (.swap _ _ _)).appendAll hheld

/-- What is written replaces what was kept, which the instance then holds in the place of what its
write before had replaced. -/
theorem onSet {m : MemoryStore}
    (h : p.Balanced (stageSets store keys m.sets S) R P (m.handles ++ H) L)
    (hparent : parent.id ∈ H) :
    let o := m.onSet p store keys parent
    o.pool.Balanced (stageSets o.store o.keys o.plugin.sets S) R P (o.plugin.handles ++ H) L := by
  rw [MemoryStore.onSet]
  by_cases hopen : m.isOpen = true
  · simp only [hopen, if_true]
    by_cases hreadonly : m.readonly = true
    · simp only [hreadonly, if_true]
      exact h.failStage hparent _
    · simp only [hreadonly, Bool.false_eq_true, if_false]
      -- a set of copies is made and goes into the kept keys
      have hcopied := h.copySet { keys := keys.subtree p (p.name parent) }
      generalize KeySet.copy p { keys := keys.subtree p (p.name parent) } = copied at hcopied ⊢
      have hin := hcopied.swapIn (p.name parent)
      -- the instance holds what it replaced, and a copy of the parent
      have htaken := hin.takeSnapshot parent (store.cut copied.1 (p.name parent)).1
      replace htaken := htaken.perm_handles List.perm_middle
      have hdone := dropSnapshot [_, _, _, _] htaken
      refine dropSet (hdone.perm_sets ?_)
      rw [List.perm_iff_count]
      intro set
      simp only [stageSets, MemoryStore.sets, Snapshot.take, Option.toList_some, List.map_cons,
        List.map_nil, List.count_append, List.count_cons, List.count_nil]
      omega
  · simp only [hopen, Bool.false_eq_true, if_false]
    exact h.failStage hparent _

/-- A write that is taken back puts what it had replaced in the place of what is kept. -/
theorem onError {m : MemoryStore}
    (h : p.Balanced (stageSets store keys m.sets S) R P (m.handles ++ H) L) :
    let o := m.onError p store keys
    o.pool.Balanced (stageSets o.store o.keys o.plugin.sets S) R P (o.plugin.handles ++ H) L := by
  rw [MemoryStore.onError]
  rcases hs : m.snapshot with _ | s
  · exact h
  · rw [stageSets, MemoryStore.sets, MemoryStore.handles, hs] at h
    have hlast : List.Perm (s.keys.toList :: store.toList :: keys.toList ::
        m.config.entries.toList :: S)
        (store.toList :: keys.toList :: m.config.entries.toList :: s.keys.toList :: S) :=
      (@List.perm_middle _ _ [_, _, _] _).symm
    have hput := (h.perm_sets hlast).swapIn (p.name s.parent)
    -- what was written is given up, and then what the instance remembers
    exact ((hput.perm_sets (.swap _ _ _)).dropSet.perm_sets (.swap _ _ _)).dropOneSnapshot

theorem onClose {m : MemoryStore}
    (h : p.Balanced (stageSets store keys m.sets S) R P (m.handles ++ H) L) :
    let o := m.onClose p store keys
    o.pool.Balanced (stageSets o.store o.keys o.plugin.sets S) R P (o.plugin.handles ++ H) L :=
  dropSnapshot [store.toList, keys.toList] h

/-- **A stage of a memory store balances.** -/
theorem runMemoryStore {m : MemoryStore} (stage : Stage)
    (h : p.Balanced (stageSets store keys m.sets S) R P (m.handles ++ H) L)
    (hparent : parent.id ∈ H) :
    let o := m.run stage p store keys parent
    o.pool.Balanced (stageSets o.store o.keys o.plugin.sets S) R P (o.plugin.handles ++ H) L := by
  cases stage with
  | opening => exact h.onOpen hparent
  | get => exact h.onGet hparent
  | set => exact h.onSet hparent
  | error => exact h.onError
  | close => exact h.onClose

/-! ### The charset filter -/

theorem storeText (h : p.Balanced S R P H L) (count : Nat) (k : Key) (bytes : List UInt8) :
    (CharsetFilter.store p count k bytes).1.Balanced S R P H L := by
  rw [CharsetFilter.store]
  split
  · exact h
  · exact h.setValue

theorem convert {source target : Charset} (h : p.Balanced S R P H L) (hparent : parent.id ∈ H) :
    (CharsetFilter.convert p keys parent source target).2.Balanced S R P H L := by
  rw [CharsetFilter.convert]
  by_cases hsame : source = target
  · simp only [hsame, if_true]
    exact h
  · simp only [hsame, if_false]
    rcases CharsetFilter.plan p source target keys.toList with report | planned
    · exact h.attach hparent
    · refine List.foldlRecOn (motive := fun done : Pool × Nat => done.1.Balanced S R P H L)
        planned _ h ?_
      intro done hdone text _
      exact hdone.storeText done.2 text.1 text.2

theorem onKeys {f : CharsetFilter} {stage : Stage} (h : p.Balanced S R P H L)
    (hparent : parent.id ∈ H) : (f.onKeys stage p keys parent).2.Balanced S R P H L := by
  rw [CharsetFilter.onKeys]
  rcases f.charsets with _ | c
  · exact h.attach hparent
  · cases stage <;> exact h.convert hparent

theorem openFilter {f : CharsetFilter} (h : p.Balanced S R P H L) (hparent : parent.id ∈ H) :
    (f.onOpen p parent).2.1.Balanced S R P H L ∧ (f.onOpen p parent).2.2.config = f.config := by
  unfold CharsetFilter.onOpen
  rcases CharsetFilter.resolvePair p f.config with reason | charsets
  · simp only [CharsetFilter.fail]
    exact ⟨h.attach hparent, trivial⟩
  · exact ⟨h, rfl⟩

/-- **A stage of a charset filter balances**, and it leaves the set-up alone. -/
theorem runCharsetFilter (f : CharsetFilter) (stage : Stage) (keys : KeySet)
    (h : p.Balanced S R P H L) (hparent : parent.id ∈ H) :
    (f.run stage p keys parent).2.1.Balanced S R P H L ∧
      (f.run stage p keys parent).2.2.config = f.config := by
  cases stage <;> simp only [CharsetFilter.run]
  case opening => exact h.openFilter hparent
  case close => exact ⟨h, trivial⟩
  all_goals exact ⟨h.onKeys hparent, trivial⟩

/-! ### Any plugin -/

/-- **A stage of a plugin balances.** -/
theorem runPlugin (plugin : Plugin) (stage : Stage)
    (h : p.Balanced (stageSets store keys plugin.sets S) R P (plugin.handles ++ H) L)
    (hparent : parent.id ∈ H) :
    let o := plugin.run stage p store keys parent
    o.pool.Balanced (stageSets o.store o.keys o.plugin.sets S) R P (o.plugin.handles ++ H) L := by
  cases plugin with
  | memory id m => exact runMemoryStore stage h hparent
  | charsetFilter f =>
    obtain ⟨hbal, hconfig⟩ := runCharsetFilter f stage keys h hparent
    show (f.run stage p keys parent).2.1.Balanced
      (stageSets store keys (f.run stage p keys parent).2.2.sets S) R P H L
    rw [CharsetFilter.sets, hconfig]
    exact hbal
  | plain name => exact h

/-- **Giving an instance up balances.** -/
theorem dropPlugin (plugin : Plugin)
    (h : p.Balanced (plugin.sets ++ S) R P (plugin.handles ++ H) L) :
    (plugin.drop p).Balanced S R P H L := by
  cases plugin with
  | memory id m => exact (dropSnapshot [] h).dropSet
  | charsetFilter f => exact h.dropSet
  | plain name => exact h

end Pool.Balanced
end ConfigKeys
