import ConfigKeys.Proofs.Plugin.Frame
import ConfigKeys.Proofs.Pool.Tree
import ConfigKeys.Proofs.Session.Reachable

/-!
# What a run leaves alone

A run that keeps within a *scope* gives other names only to certain records, writes only to certain
records, and changes only certain slots and kept keys.  What callers can reach is any set of records
that holds their keys, their containers and, with a record, its metadata; whatever is new belongs to
it, so that a run cannot lead out of it.

## Main definitions

* `Session.Confined` — callers can reach the records of a set, and no others.
* `Scope`, `Session.Stays` — what a run may touch, and that it did not touch anything else.

## Main results

* `Session.Stays.storeKey`, `Session.Stays.storeSet`, … — the scope as slots are filled.
-/

namespace ConfigKeys

namespace Session

/-- What is kept under a number, after another number was given other keys. -/
theorem store_setIfInBounds (s : Session) (id : StoreId) (ks : KeySet) (i : StoreId) :
    { s with stores := s.stores.setIfInBounds id ks }.store i =
      if i = id ∧ id < s.stores.size then ks else s.store i := by
  simp only [store, Array.getD_eq_getD_getElem?, Array.getElem?_setIfInBounds]
  by_cases hi : i = id
  · subst hi
    by_cases hlt : i < s.stores.size
    · simp [hlt]
    · simp [hlt]
  · simp [hi, Ne.symm hi]

theorem store_push (s : Session) (ks : KeySet) {i : StoreId} (hi : i < s.stores.size) :
    { s with stores := s.stores.push ks }.store i = s.store i := by
  have hi' : i < s.stores.size + 1 := Nat.lt_succ_of_lt hi
  simp [store, Array.getElem_push, hi, hi']

/-! ### Reach -/

/-- The keys and containers of callers hold records of `Q` only, and so does the metadata of those;
what is new is going to be one of them. -/
structure Confined (Q : Set RecordId) (s : Session) : Prop where
  keys : ∀ k ∈ s.keys.contents, k.id ∈ Q
  sets : ∀ ks ∈ s.sets.contents, ∀ k ∈ ks.toList, k.id ∈ Q
  registries : ∀ r ∈ s.registries.contents, ∀ k ∈ r, k.id ∈ Q
  configs : ∀ c ∈ s.configs.contents, ∀ k ∈ c.entries.toList, k.id ∈ Q
  entries : ∀ id ∈ Q, ∀ e ∈ (s.pool.record id).entries, e.id ∈ Q
  new : ∀ id, s.pool.nextId ≤ id → id ∈ Q

theorem Confined.univ (s : Session) : s.Confined Set.univ where
  keys _ _ := trivial
  sets _ _ _ _ := trivial
  registries _ _ _ _ := trivial
  configs _ _ _ _ := trivial
  entries _ _ _ _ := trivial
  new _ _ := trivial

/-- What callers can reach leads nowhere else. -/
theorem Confined.holds {Q : Set RecordId} {s : Session} {i j : RecordId} (h : s.Confined Q)
    (hi : i ∈ Q) (hj : s.pool.Holds i j) : j ∈ Q := by
  induction hj with
  | self => exact hi
  | entry _ he ih => exact h.entries _ ih _ he

/-- The caller's keys in a stage. -/
def callerSet (s : Session) : Option String → Option KeySet
  | none => some {}
  | some set => s.sets.get? set

end Session

/-- What a run may touch. -/
structure Scope where
  /-- The records that may get other names. -/
  named : Set RecordId
  /-- The records that may be written. -/
  written : Set RecordId
  /-- The records that callers can reach. -/
  reach : Set RecordId
  /-- The slots of key sets. -/
  sets : Set String
  /-- The slots of plugins. -/
  plugins : Set String
  /-- The kept keys. -/
  stores : Set StoreId

namespace Session

/-- From `s₀` to `s` nothing was touched that is not in the scope. -/
structure Stays (t : Scope) (s₀ s : Session) : Prop where
  /-- Other records say what they said. -/
  pool : s₀.pool.Evolves t.named t.written s.pool
  /-- Callers can reach no more than that. -/
  confined : s.Confined t.reach
  /-- Other key sets are as they were. -/
  sets : ∀ slot ∉ t.sets, s.sets.get? slot = s₀.sets.get? slot
  /-- Other instances of plugins are as they were. -/
  plugins : ∀ slot ∉ t.plugins, s.plugins.get? slot = s₀.plugins.get? slot
  /-- Without a slot of theirs in the scope, all of them are. -/
  instances : t.plugins = ∅ → s.plugins = s₀.plugins
  /-- What is kept stays. -/
  size : s₀.stores.size ≤ s.stores.size
  /-- Other kept keys are as they were. -/
  stores : ∀ id ∉ t.stores, id < s₀.stores.size → s.store id = s₀.store id

namespace Stays

variable {t : Scope} {s₀ s : Session} {p : Pool} {slot : String} {k : Key} {ks : KeySet}

theorem refl (h : s.Confined t.reach) : s.Stays t s where
  pool := .refl _ _ _
  confined := h
  sets _ _ := rfl
  plugins _ _ := rfl
  instances _ := rfl
  size := Nat.le_refl _
  stores _ _ _ := rfl

/-! ### What callers can reach -/

theorem mem_key (h : s₀.Stays t s) (hget : s.keys.get? slot = some k) : k.id ∈ t.reach :=
  h.confined.keys k (Slots.mem_contents hget)

theorem mem_member (h : s₀.Stays t s) (hget : s.sets.get? slot = some ks) :
    ∀ k ∈ ks.toList, k.id ∈ t.reach :=
  h.confined.sets ks (Slots.mem_contents hget)

theorem mem_registered {r : Registry} (h : s₀.Stays t s)
    (hget : s.registries.get? slot = some r) : ∀ k ∈ r, k.id ∈ t.reach :=
  h.confined.registries r (Slots.mem_contents hget)

theorem mem_configured {c : Config} (h : s₀.Stays t s) (hget : s.configs.get? slot = some c) :
    ∀ k ∈ c.entries.toList, k.id ∈ t.reach :=
  h.confined.configs c (Slots.mem_contents hget)

theorem mem_entry (h : s₀.Stays t s) (hget : s.keys.get? slot = some k) {e : Key}
    (he : e ∈ s.pool.entries k) : e.id ∈ t.reach :=
  h.confined.entries k.id (h.mem_key hget) e he

theorem mem_new (h : s₀.Stays t s) {id : RecordId} (hid : s.pool.nextId ≤ id) : id ∈ t.reach :=
  h.confined.new id hid

/-! ### Records -/

/-- **Operations on records within the scope** lead nowhere else: what they put into metadata is
new. -/
theorem changePool (h : s₀.Stays t s) (hp : s.pool.Evolves t.named t.written p) :
    s₀.Stays t { s with pool := p } where
  pool := h.pool.trans hp
  confined := {
    keys := h.confined.keys
    sets := h.confined.sets
    registries := h.confined.registries
    configs := h.confined.configs
    entries := by
      intro id hid e he
      rcases hr' : p.find? id with _ | r'
      · rw [Pool.record_of_find?_none hr'] at he
        cases he
      · rw [Pool.record_of_find? hr'] at he
        rcases Nat.lt_or_ge id s.pool.nextId with hlt | hge
        · obtain ⟨r, hr, -, -, hentries⟩ := hp.kept id r' hlt hr'
          rcases hentries e he with hold | ⟨hnew, -⟩
          · refine h.confined.entries id hid e ?_
            rw [Pool.record_of_find? hr]
            exact hold
          · exact h.mem_new hnew
        · obtain ⟨hafter, -⟩ := hp.new id r' hge hr' e he
          exact h.mem_new (Nat.le_trans hge (Nat.le_of_lt hafter))
    new := fun id hid => h.mem_new (Nat.le_trans hp.grows hid) }
  sets := h.sets
  plugins := h.plugins
  instances := h.instances
  size := h.size
  stores := h.stores

/-- An operation on records that fails changes nothing. -/
theorem settle {result : Except KeyError Pool} (h : s₀.Stays t s)
    (hok : ∀ p, result = .ok p → s.pool.Evolves t.named t.written p) :
    s₀.Stays t (s.settle result).2 := by
  rcases result with e | p
  · exact h
  · exact h.changePool (hok p rfl)

/-! ### Handles -/

theorem putKey (h : s₀.Stays t s) (hk : k.id ∈ t.reach) (slot : String) :
    s₀.Stays t { s with keys := s.keys.put slot k } where
  pool := h.pool
  confined := { h.confined with
    keys := by
      intro k' hk'
      rcases Slots.mem_put hk' with rfl | hk'
      · exact hk
      · exact h.confined.keys k' hk' }
  sets := h.sets
  plugins := h.plugins
  instances := h.instances
  size := h.size
  stores := h.stores

theorem clearKey (h : s₀.Stays t s) (slot : String) :
    s₀.Stays t { s with keys := s.keys.clear slot } where
  pool := h.pool
  confined := { h.confined with
    keys := fun k hk => h.confined.keys k (Slots.mem_clear hk) }
  sets := h.sets
  plugins := h.plugins
  instances := h.instances
  size := h.size
  stores := h.stores

theorem storeKey (h : s₀.Stays t s) (hk : k.id ∈ t.reach) (slot : String) :
    s₀.Stays t (s.storeKey slot k) := by
  have hretain := (Pool.Evolves.refl t.named t.written s.pool).retain k.id
  rw [Session.storeKey]
  rcases s.keys.get? slot with _ | old
  · exact (h.changePool hretain).putKey hk slot
  · exact (h.changePool (hretain.release old.id)).putKey hk slot

/-- A key that is found goes into a slot. -/
theorem fetch {found : Option Key} (h : s₀.Stays t s)
    (hfound : ∀ k, found = some k → k.id ∈ t.reach) (into : Option String) :
    s₀.Stays t (s.fetch found into).2 := by
  rcases found with _ | k
  · exact h
  · rcases into with _ | slot
    · exact h
    · exact h.storeKey (hfound k rfl) slot

/-- A key that is handed over goes into a slot, or it is dropped. -/
theorem hand {handed : Option Key} (h : s₀.Stays t s)
    (hhanded : ∀ k, handed = some k → k.id ∈ t.reach) (into : Option String) :
    s₀.Stays t (s.hand handed into).2 := by
  rcases handed with _ | k
  · exact h
  · rcases into with _ | slot
    · exact h.changePool ((Pool.Evolves.refl _ _ _).reclaim k.id)
    · exact h.storeKey (hhanded k rfl) slot

/-! ### Key sets -/

theorem putSet (h : s₀.Stays t s) (hslot : slot ∈ t.sets) (hks : ∀ k ∈ ks.toList, k.id ∈ t.reach) :
    s₀.Stays t { s with sets := s.sets.put slot ks } where
  pool := h.pool
  confined := { h.confined with
    sets := by
      intro ks' hks'
      rcases Slots.mem_put hks' with rfl | hks'
      · exact hks
      · exact h.confined.sets ks' hks' }
  sets other hother :=
    (Slots.get?_put_of_ne _ _ (ne_of_mem_of_not_mem hslot hother).symm).trans
      (h.sets other hother)
  plugins := h.plugins
  instances := h.instances
  size := h.size
  stores := h.stores

theorem clearSet (h : s₀.Stays t s) (hslot : slot ∈ t.sets) :
    s₀.Stays t { s with sets := s.sets.clear slot } where
  pool := h.pool
  confined := { h.confined with
    sets := fun ks hks => h.confined.sets ks (Slots.mem_clear hks) }
  sets other hother :=
    (Slots.get?_clear_of_ne _ (ne_of_mem_of_not_mem hslot hother).symm).trans
      (h.sets other hother)
  plugins := h.plugins
  instances := h.instances
  size := h.size
  stores := h.stores

theorem storeSet (h : s₀.Stays t s) (hslot : slot ∈ t.sets)
    (hks : ∀ k ∈ ks.toList, k.id ∈ t.reach) : s₀.Stays t (s.storeSet slot ks) := by
  rw [Session.storeSet]
  rcases s.sets.get? slot with _ | old
  · exact h.putSet hslot hks
  · exact (h.changePool ((Pool.Evolves.refl _ _ _).drop old)).putSet hslot hks

/-! ### Registries, cursors and configurations -/

theorem putRegistry {r : Registry} (h : s₀.Stays t s) (hr : ∀ k ∈ r, k.id ∈ t.reach)
    (slot : String) : s₀.Stays t { s with registries := s.registries.put slot r } where
  pool := h.pool
  confined := { h.confined with
    registries := by
      intro r' hr'
      rcases Slots.mem_put hr' with rfl | hr'
      · exact hr
      · exact h.confined.registries r' hr' }
  sets := h.sets
  plugins := h.plugins
  instances := h.instances
  size := h.size
  stores := h.stores

theorem clearRegistry (h : s₀.Stays t s) (slot : String) :
    s₀.Stays t { s with registries := s.registries.clear slot } where
  pool := h.pool
  confined := { h.confined with
    registries := fun r hr => h.confined.registries r (Slots.mem_clear hr) }
  sets := h.sets
  plugins := h.plugins
  instances := h.instances
  size := h.size
  stores := h.stores

theorem storeRegistry {r : Registry} (h : s₀.Stays t s) (hr : ∀ k ∈ r, k.id ∈ t.reach)
    (slot : String) : s₀.Stays t (s.storeRegistry slot r) := by
  rw [Session.storeRegistry]
  rcases s.registries.get? slot with _ | old
  · exact h.putRegistry hr slot
  · exact (h.changePool ((Pool.Evolves.refl _ _ _).detachAll old)).putRegistry hr slot

theorem putCursor (h : s₀.Stays t s) (slot : String) (c : Cursor) :
    s₀.Stays t { s with cursors := s.cursors.put slot c } where
  pool := h.pool
  confined := { h.confined with }
  sets := h.sets
  plugins := h.plugins
  instances := h.instances
  size := h.size
  stores := h.stores

theorem putConfig {c : Config} (h : s₀.Stays t s) (hc : ∀ k ∈ c.entries.toList, k.id ∈ t.reach)
    (slot : String) : s₀.Stays t { s with configs := s.configs.put slot c } where
  pool := h.pool
  confined := { h.confined with
    configs := by
      intro c' hc'
      rcases Slots.mem_put hc' with rfl | hc'
      · exact hc
      · exact h.confined.configs c' hc' }
  sets := h.sets
  plugins := h.plugins
  instances := h.instances
  size := h.size
  stores := h.stores

theorem clearConfig (h : s₀.Stays t s) (slot : String) :
    s₀.Stays t { s with configs := s.configs.clear slot } where
  pool := h.pool
  confined := { h.confined with
    configs := fun c hc => h.confined.configs c (Slots.mem_clear hc) }
  sets := h.sets
  plugins := h.plugins
  instances := h.instances
  size := h.size
  stores := h.stores

theorem storeConfig {c : Config} (h : s₀.Stays t s) (hc : ∀ k ∈ c.entries.toList, k.id ∈ t.reach)
    (slot : String) : s₀.Stays t (s.storeConfig slot c) := by
  rw [Session.storeConfig]
  rcases s.configs.get? slot with _ | old
  · exact h.putConfig hc slot
  · exact (h.changePool ((Pool.Evolves.refl _ _ _).drop old.entries)).putConfig hc slot

/-! ### Plugins and what they keep -/

theorem putPlugin (h : s₀.Stays t s) (hslot : slot ∈ t.plugins) (plugin : Plugin) :
    s₀.Stays t { s with plugins := s.plugins.put slot plugin } where
  pool := h.pool
  confined := { h.confined with }
  sets := h.sets
  plugins other hother :=
    (Slots.get?_put_of_ne _ _ (ne_of_mem_of_not_mem hslot hother).symm).trans
      (h.plugins other hother)
  instances hnone := absurd (hnone ▸ hslot) (Set.notMem_empty slot)
  size := h.size
  stores := h.stores

theorem clearPlugin (h : s₀.Stays t s) (hslot : slot ∈ t.plugins) :
    s₀.Stays t { s with plugins := s.plugins.clear slot } where
  pool := h.pool
  confined := { h.confined with }
  sets := h.sets
  plugins other hother :=
    (Slots.get?_clear_of_ne _ (ne_of_mem_of_not_mem hslot hother).symm).trans
      (h.plugins other hother)
  instances hnone := absurd (hnone ▸ hslot) (Set.notMem_empty slot)
  size := h.size
  stores := h.stores

/-- Kept keys of a new number. -/
theorem pushStore (h : s₀.Stays t s) (ks : KeySet) :
    s₀.Stays t { s with stores := s.stores.push ks } where
  pool := h.pool
  confined := { h.confined with }
  sets := h.sets
  plugins := h.plugins
  instances := h.instances
  size := by
    rw [Array.size_push]
    exact Nat.le_succ_of_le h.size
  stores id hid hlt := by
    rw [store_push _ _ (Nat.lt_of_lt_of_le hlt h.size)]
    exact h.stores id hid hlt

/-- Kept keys that change are in the scope. -/
theorem putStore {id : StoreId} (h : s₀.Stays t s) (hks : id ∈ t.stores ∨ ks = s.store id) :
    s₀.Stays t { s with stores := s.stores.setIfInBounds id ks } where
  pool := h.pool
  confined := { h.confined with }
  sets := h.sets
  plugins := h.plugins
  instances := h.instances
  size := by
    rw [Array.size_setIfInBounds]
    exact h.size
  stores i hi hlt := by
    rw [store_setIfInBounds]
    split
    · next heq =>
      rcases hks with hid | rfl
      · exact absurd (heq.1 ▸ hid) hi
      · rw [← heq.1]
        exact h.stores i hi hlt
    · exact h.stores i hi hlt

/-- Kept keys on which some plugin still works are not given up. -/
theorem dropStore {id : StoreId} (h : s₀.Stays t s)
    (hid : id ∈ t.stores ∨ ∃ plugin ∈ s.plugins.contents, plugin.store? = some id) :
    s₀.Stays t (s.dropStore id) := by
  rw [Session.dropStore]
  split
  · exact h
  · next hnone =>
    rcases hid with hid | ⟨plugin, hplugin, hstore⟩
    · exact putStore (s := { s with pool := (s.store id).drop s.pool })
        (h.changePool ((Pool.Evolves.refl _ _ _).drop _)) (.inl hid)
    · refine absurd (List.any_eq_true.mpr ⟨plugin, hplugin, ?_⟩) hnone
      rw [hstore]
      exact decide_eq_true rfl

theorem dropPlugin {plugin : Plugin} (h : s₀.Stays t s)
    (hstore : ∀ id, plugin.store? = some id →
      id ∈ t.stores ∨ ∃ other ∈ s.plugins.contents, other.store? = some id) :
    s₀.Stays t (s.dropPlugin plugin) := by
  have hdrop := h.changePool ((Pool.Evolves.refl t.named t.written s.pool).dropPlugin plugin)
  rw [Session.dropPlugin]
  rcases hid : plugin.store? with _ | id
  · exact hdrop
  · exact hdrop.dropStore (hstore id hid)

end Stays
end Session
end ConfigKeys
