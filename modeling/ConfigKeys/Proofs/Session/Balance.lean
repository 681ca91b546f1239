import ConfigKeys.Proofs.Plugin.Balance
import ConfigKeys.Session.Command

/-!
# Sessions that balance

A session is sound when its records balance with what its slots hold.  An operation takes containers
out of their slots, works on them, and puts them back; what is out in between is named beside the
session, so that every operation is a walk from one such state to the next.

## Main definitions

* `Session.keySets`, `Session.handleIds` — every key set and every handle that something in a
  session holds.
* `Session.Sound` — a session balances with what its slots hold and what is out of them.

## Main results

* `Slots.put_perm`, `Slots.clear_perm` — the contents of slots, up to order.
* `Slots.get?_put`, `Slots.get?_clear_of_ne` — slots beside each other.
* `Session.Sound.storeKey`, `Session.Sound.storeSet`, … — putting something new into a slot.
* `Session.Sound.takeSet`, `Session.Sound.returnSet`, … — working on what a slot holds.
* `Session.Sound.dropPlugin`, `Session.Sound.clearPlugin` — giving up an instance.
-/

namespace ConfigKeys

/-! ### Slots -/

namespace Slots

variable {α : Type} {s : Slots α} {slot : String}

/-- What a slot holds, and the contents when it is emptied or filled. -/
theorem contents_cases (s : Slots α) (slot : String) :
    (∃ l₁ old l₂, s.contents = l₁ ++ old :: l₂ ∧ s.get? slot = some old ∧
      (s.clear slot).contents = l₁ ++ l₂ ∧ ∀ a, (s.put slot a).contents = l₁ ++ a :: l₂) ∨
    (s.get? slot = none ∧ (s.clear slot).contents = s.contents ∧
      ∀ a, (s.put slot a).contents = s.contents ++ [a]) := by
  rcases first_cases (fun e : String × α => decide (e.1 = slot)) s.entries with
    ⟨l₁, old, l₂, hs, -, hfind, herase, hupsert⟩ | ⟨-, hfind, herase, hupsert⟩
  · refine .inl ⟨l₁.map Prod.snd, old.2, l₂.map Prod.snd, ?_, ?_, ?_, ?_⟩
    · rw [contents, hs, List.map_append, List.map_cons]
    · rw [get?, hfind, Option.map_some]
    · rw [contents, clear, herase, List.map_append]
    · intro a
      rw [contents, put, hupsert, List.map_append, List.map_cons]
  · refine .inr ⟨?_, ?_, ?_⟩
    · rw [get?, hfind, Option.map_none]
    · rw [contents, clear, herase, contents]
    · intro a
      rw [contents, put, hupsert, List.map_append, List.map_singleton, contents]

/-- What is put into a slot stands beside what the other slots hold. -/
theorem put_perm (s : Slots α) (slot : String) (a : α) :
    (s.put slot a).contents.Perm (a :: (s.clear slot).contents) := by
  rcases contents_cases s slot with ⟨l₁, old, l₂, -, -, hclear, hput⟩ | ⟨-, hclear, hput⟩
  · rw [hput, hclear]
    exact List.perm_middle
  · rw [hput, hclear]
    exact List.perm_append_comm

/-- What a slot holds stands beside what the other slots hold. -/
theorem clear_perm {a : α} (h : s.get? slot = some a) :
    s.contents.Perm (a :: (s.clear slot).contents) := by
  rcases contents_cases s slot with ⟨l₁, old, l₂, hs, hget, hclear, -⟩ | ⟨hget, -, -⟩
  · obtain rfl : old = a := by simpa [hget] using h
    rw [hs, hclear]
    exact List.perm_middle
  · rw [hget] at h
    cases h

theorem clear_of_none (h : s.get? slot = none) : (s.clear slot).contents = s.contents := by
  rcases contents_cases s slot with ⟨l₁, old, l₂, -, hget, -, -⟩ | ⟨-, hclear, -⟩
  · rw [hget] at h
    cases h
  · exact hclear

/-- What is put into an empty slot stands beside what was there. -/
theorem put_perm_of_none (h : s.get? slot = none) (a : α) :
    (s.put slot a).contents.Perm (a :: s.contents) := by
  have hput := put_perm s slot a
  rw [clear_of_none h] at hput
  exact hput

/-- What is put into a slot takes the place of what it held. -/
theorem put_perm_of_some {old : α} (h : s.get? slot = some old) (a : α) :
    (old :: (s.put slot a).contents).Perm (a :: s.contents) :=
  ((put_perm s slot a).cons old).trans ((List.Perm.swap a old _).trans ((clear_perm h).symm.cons a))

theorem mem_contents {a : α} (h : s.get? slot = some a) : a ∈ s.contents :=
  (clear_perm h).mem_iff.mpr List.mem_cons_self

theorem mem_put {a b : α} (h : b ∈ (s.put slot a).contents) : b = a ∨ b ∈ s.contents := by
  rcases contents_cases s slot with ⟨l₁, old, l₂, hs, -, -, hput⟩ | ⟨-, -, hput⟩
  · rw [hput, List.mem_append, List.mem_cons] at h
    rw [hs, List.mem_append, List.mem_cons]
    tauto
  · rw [hput, List.mem_append, List.mem_singleton] at h
    tauto

theorem mem_clear {b : α} (h : b ∈ (s.clear slot).contents) : b ∈ s.contents := by
  rcases contents_cases s slot with ⟨l₁, old, l₂, hs, -, hclear, -⟩ | ⟨-, hclear, -⟩
  · rw [hclear, List.mem_append] at h
    rw [hs, List.mem_append, List.mem_cons]
    tauto
  · rwa [hclear] at h

/-! ### Slots beside each other -/

section Others

variable {other : String}

theorem get?_put (s : Slots α) (slot other : String) (a : α) :
    (s.put slot a).get? other = if other = slot then some a else s.get? other := by
  obtain ⟨entries⟩ := s
  induction entries with
  | nil =>
    by_cases h : other = slot
    · simp [put, get?, upsert, h]
    · simp [put, get?, upsert, h, Ne.symm h]
  | cons e entries ih =>
    simp only [put, get?] at ih ⊢
    rw [upsert]
    by_cases he : e.1 = slot
    · by_cases h : other = slot
      · simp [he, h]
      · have hne : e.1 ≠ other := fun heq => h (heq.symm.trans he)
        simp [he, h, Ne.symm h]
    · by_cases hother : e.1 = other
      · have hne : other ≠ slot := fun heq => he (hother.trans heq)
        simp [hother, hne]
      · simpa [he, hother] using ih

theorem get?_put_self (s : Slots α) (slot : String) (a : α) :
    (s.put slot a).get? slot = some a := by
  rw [get?_put, if_pos rfl]

theorem get?_put_of_ne (s : Slots α) (a : α) (h : other ≠ slot) :
    (s.put slot a).get? other = s.get? other := by
  rw [get?_put, if_neg h]

/-- To put back what a slot holds changes nothing. -/
theorem put_self {a : α} (h : s.get? slot = some a) : s.put slot a = s := by
  obtain ⟨entries⟩ := s
  refine congrArg Slots.mk ?_
  induction entries with
  | nil => cases h
  | cons e entries ih =>
    simp only [get?] at h ih
    rw [upsert]
    by_cases he : e.1 = slot
    · simp only [he, decide_true, List.find?_cons_of_pos, Option.map_some, Option.some.injEq] at h
      simp only [he, decide_true, if_true]
      rw [← h, ← he]
    · simp only [he, decide_false, Bool.false_eq_true, if_false]
      rw [ih (by simpa [he] using h)]

theorem get?_clear_of_ne (s : Slots α) (h : other ≠ slot) :
    (s.clear slot).get? other = s.get? other := by
  obtain ⟨entries⟩ := s
  induction entries with
  | nil => rfl
  | cons e entries ih =>
    simp only [clear, get?] at ih ⊢
    by_cases he : e.1 = slot
    · have hne : e.1 ≠ other := fun heq => h (heq.symm.trans he)
      simp [he, Ne.symm h]
    · by_cases hother : e.1 = other
      · simp [hother, h]
      · simpa [he, hother] using ih

end Others

end Slots

/-! ### Sound sessions -/

namespace Session

/-- Every key set that something in a session holds. -/
def keySets (s : Session) : List (List Key) :=
  s.sets.contents.map KeySet.toList ++ (s.configs.contents.map fun c => c.entries.toList)
    ++ s.plugins.contents.flatMap Plugin.sets ++ s.stores.toList.map KeySet.toList

/-- The numbers of the handles of a session: those in slots, and those of instances. -/
def handleIds (s : Session) : List RecordId :=
  s.keys.contents.map Key.id ++ s.plugins.contents.flatMap Plugin.handles

/-- The records balance with what the slots hold, with key sets `S` and registries `R` that are in
no slot, and with records `L` that need not be held; and every plugin works on kept keys that are
there. -/
structure Sound (s : Session) (S R : List (List Key)) (L : List RecordId) : Prop where
  /-- The counts balance. -/
  balanced : s.pool.Balanced (S ++ s.keySets) (R ++ s.registries.contents) [] s.handleIds L
  /-- The kept keys of every plugin are there. -/
  stored : ∀ plugin ∈ s.plugins.contents, ∀ id, plugin.store? = some id → id < s.stores.size

/-! ### The key sets of a session, up to order -/

/-- What comes in and what goes out change places beside what stays. -/
theorem exchange_perm (S new old : List (List Key)) {before after kept : List (List Key)}
    (hafter : after.Perm (new ++ kept)) (hbefore : before.Perm (old ++ kept)) :
    (old ++ (S ++ after)).Perm (new ++ S ++ before) := by
  rw [List.perm_iff_count] at hafter hbefore ⊢
  intro keys
  have hcount := hafter keys
  have hcount' := hbefore keys
  simp only [List.count_append] at hcount hcount' ⊢
  omega

theorem keySets_putSet (s : Session) (slot : String) (ks : KeySet) :
    { s with sets := s.sets.put slot ks }.keySets.Perm
      (ks.toList :: { s with sets := s.sets.clear slot }.keySets) :=
  (((s.sets.put_perm slot ks).map KeySet.toList).append_right _).append_right _ |>.append_right _

theorem keySets_clearSet {s : Session} {slot : String} {ks : KeySet}
    (hget : s.sets.get? slot = some ks) :
    s.keySets.Perm (ks.toList :: { s with sets := s.sets.clear slot }.keySets) :=
  (((Slots.clear_perm hget).map KeySet.toList).append_right _).append_right _ |>.append_right _

theorem keySets_putConfig (s : Session) (slot : String) (c : Config) :
    { s with configs := s.configs.put slot c }.keySets.Perm
      (c.entries.toList :: { s with configs := s.configs.clear slot }.keySets) := by
  have hput := (s.configs.put_perm slot c).map fun c => c.entries.toList
  rw [List.perm_iff_count] at hput ⊢
  intro keys
  have hkeys := hput keys
  simp only [keySets, List.map_cons, List.count_append, List.count_cons] at hkeys ⊢
  omega

theorem keySets_clearConfig {s : Session} {slot : String} {c : Config}
    (hget : s.configs.get? slot = some c) :
    s.keySets.Perm (c.entries.toList :: { s with configs := s.configs.clear slot }.keySets) := by
  have hclear := (Slots.clear_perm hget).map fun c => c.entries.toList
  rw [List.perm_iff_count] at hclear ⊢
  intro keys
  have hkeys := hclear keys
  simp only [keySets, List.map_cons, List.count_append, List.count_cons] at hkeys ⊢
  omega

theorem keySets_putPlugin (s : Session) (slot : String) (plugin : Plugin) :
    { s with plugins := s.plugins.put slot plugin }.keySets.Perm
      (plugin.sets ++ { s with plugins := s.plugins.clear slot }.keySets) := by
  have hput := (s.plugins.put_perm slot plugin).flatMap_right Plugin.sets
  rw [List.perm_iff_count] at hput ⊢
  intro keys
  have hkeys := hput keys
  simp only [keySets, List.flatMap_cons, List.count_append] at hkeys ⊢
  omega

theorem keySets_clearPlugin {s : Session} {slot : String} {plugin : Plugin}
    (hget : s.plugins.get? slot = some plugin) :
    s.keySets.Perm (plugin.sets ++ { s with plugins := s.plugins.clear slot }.keySets) := by
  have hclear := (Slots.clear_perm hget).flatMap_right Plugin.sets
  rw [List.perm_iff_count] at hclear ⊢
  intro keys
  have hkeys := hclear keys
  simp only [keySets, List.flatMap_cons, List.count_append] at hkeys ⊢
  omega

/-! ### The handles of a session, up to order -/

theorem handleIds_putPlugin (s : Session) (slot : String) (plugin : Plugin) :
    { s with plugins := s.plugins.put slot plugin }.handleIds.Perm
      (plugin.handles ++ { s with plugins := s.plugins.clear slot }.handleIds) := by
  have hput := (s.plugins.put_perm slot plugin).flatMap_right Plugin.handles
  rw [List.perm_iff_count] at hput ⊢
  intro i
  have hcount := hput i
  simp only [handleIds, List.flatMap_cons, List.count_append] at hcount ⊢
  omega

theorem handleIds_clearPlugin {s : Session} {slot : String} {plugin : Plugin}
    (hget : s.plugins.get? slot = some plugin) :
    s.handleIds.Perm
      (plugin.handles ++ { s with plugins := s.plugins.clear slot }.handleIds) := by
  have hclear := (Slots.clear_perm hget).flatMap_right Plugin.handles
  rw [List.perm_iff_count] at hclear ⊢
  intro i
  have hcount := hclear i
  simp only [handleIds, List.flatMap_cons, List.count_append] at hcount ⊢
  omega

theorem keySets_pushStore (s : Session) (ks : KeySet) :
    { s with stores := s.stores.push ks }.keySets.Perm (ks.toList :: s.keySets) := by
  rw [keySets, Array.toList_push, List.map_append, ← List.append_assoc]
  exact List.perm_append_comm

/-- The kept keys of a number stand beside the other key sets, whatever they become. -/
theorem keySets_store {s : Session} {id : StoreId} (hid : id < s.stores.size) :
    ∃ others, s.keySets.Perm ((s.store id).toList :: others) ∧
      ∀ ks,
        { s with stores := s.stores.setIfInBounds id ks }.keySets.Perm (ks.toList :: others) := by
  have hlen : id < s.stores.toList.length := by simpa using hid
  have hold : s.store id = s.stores.toList[id] := by simp [store, Array.getD, hid]
  refine ⟨s.sets.contents.map KeySet.toList ++ (s.configs.contents.map fun c => c.entries.toList)
    ++ s.plugins.contents.flatMap Plugin.sets
    ++ (s.stores.toList.eraseIdx id).map KeySet.toList, ?_, ?_⟩
  · rw [hold]
    exact (((List.getElem_cons_eraseIdx_perm hlen).symm.map KeySet.toList).append_left _).trans
      List.perm_middle
  · intro ks
    rw [keySets, Array.toList_setIfInBounds]
    exact (((List.set_perm_cons_eraseIdx hlen ks).map KeySet.toList).append_left _).trans
      List.perm_middle

namespace Sound

variable {s : Session} {S R : List (List Key)} {L L' : List RecordId} {slot : String}
variable {p : Pool} {k : Key} {ks ks' : KeySet}

/-! ### Handles -/

/-- A handle in a slot stands for a record. -/
theorem exists_of_key (h : s.Sound S R L) (hget : s.keys.get? slot = some k) :
    ∃ r, s.pool.find? k.id = some r := by
  have hmem : k.id ∈ s.handleIds :=
    List.mem_append_left _ (List.mem_map_of_mem (Slots.mem_contents hget))
  obtain ⟨r, hr, -⟩ := h.balanced.exists_of_handle hmem
  exact ⟨r, hr⟩

/-- **A handle goes into a slot**, be it that only the handle is going to hold its record. -/
theorem storeKey {r : Record} (h : s.Sound S R (k.id :: L)) (hr : s.pool.find? k.id = some r)
    (slot : String) : (s.storeKey slot k).Sound S R L := by
  have hretain := h.balanced.retain hr
  refine ⟨?_, h.stored⟩
  rw [Session.storeKey]
  rcases hget : s.keys.get? slot with _ | old
  · exact hretain.perm_handles (((Slots.put_perm_of_none hget k).map Key.id).append_right _)
  · refine (hretain.perm_handles ?_).release
    exact ((Slots.put_perm_of_some hget k).map Key.id).append_right _

/-- A key that is found goes into a slot. -/
theorem fetch {found : Option Key} (h : s.Sound S R L)
    (hfound : ∀ k, found = some k → ∃ r, s.pool.find? k.id = some r) (into : Option String) :
    (s.fetch found into).2.Sound S R L := by
  rcases found with _ | k
  · exact h
  · rcases into with _ | slot
    · exact h
    · obtain ⟨r, hr⟩ := hfound k rfl
      have hweak := h.balanced.weaken fun i hi => List.mem_cons_of_mem k.id hi
      exact storeKey ⟨hweak, h.stored⟩ hr slot

/-- A key that is handed over goes into a slot, or it is dropped. -/
theorem hand {handed : Option Key} (h : s.Sound S R (handed.toList.map Key.id ++ L))
    (hhanded : ∀ k, handed = some k → ∃ r, s.pool.find? k.id = some r) (into : Option String) :
    (s.hand handed into).2.Sound S R L := by
  rcases handed with _ | k
  · exact h
  · rcases into with _ | slot
    · exact ⟨h.balanced.reclaim, h.stored⟩
    · obtain ⟨r, hr⟩ := hhanded k rfl
      exact storeKey h hr slot

/-! ### Key sets -/

/-- A new set is empty. -/
theorem withEmptySet (h : s.Sound S R L) : s.Sound (KeySet.toList {} :: S) R L :=
  ⟨h.balanced.newSet, h.stored⟩

theorem takeSet (h : s.Sound S R L) (hget : s.sets.get? slot = some ks) :
    { s with sets := s.sets.clear slot }.Sound (ks.toList :: S) R L := by
  refine ⟨h.balanced.perm_sets ?_, h.stored⟩
  exact List.perm_middle.symm.trans ((keySets_clearSet hget).symm.append_left S)

theorem returnSet (h : { s with sets := s.sets.clear slot }.Sound (ks.toList :: S) R L) :
    { s with sets := s.sets.put slot ks }.Sound S R L := by
  refine ⟨h.balanced.perm_sets ?_, h.stored⟩
  exact ((keySets_putSet s slot ks).append_left S).trans List.perm_middle

/-- **A set goes into a slot**, and the one that stood there is given up. -/
theorem storeSet (h : s.Sound (ks.toList :: S) R L) (slot : String) :
    (s.storeSet slot ks).Sound S R L := by
  refine ⟨?_, h.stored⟩
  rw [Session.storeSet]
  rcases hget : s.sets.get? slot with _ | old
  · have hclear : s.keySets.Perm ([] ++ { s with sets := s.sets.clear slot }.keySets) := by
      rw [keySets, keySets, Slots.clear_of_none hget, List.nil_append]
    have hperm := exchange_perm S [ks.toList] [] (keySets_putSet s slot ks) hclear
    exact h.balanced.perm_sets hperm
  · -- the new set comes in, and the old one is out of its slot before it is given up
    have hperm := exchange_perm S [ks.toList] [old.toList] (keySets_putSet s slot ks)
      (keySets_clearSet hget)
    exact (h.balanced.perm_sets hperm).dropSet

/-- **Working on a set in its slot**, if the work balances beside all else. -/
theorem changeSet (h : s.Sound S R L) (hget : s.sets.get? slot = some ks)
    (hchange : s.pool.Balanced (ks.toList :: (S ++ { s with sets := s.sets.clear slot }.keySets))
        (R ++ s.registries.contents) [] s.handleIds L →
      p.Balanced (ks'.toList :: (S ++ { s with sets := s.sets.clear slot }.keySets))
        (R ++ s.registries.contents) [] s.handleIds L') :
    { s with pool := p, sets := s.sets.put slot ks' }.Sound S R L' :=
  returnSet (s := { s with pool := p }) ⟨hchange (h.takeSet hget).balanced, h.stored⟩

/-! ### Registries -/

theorem takeRegistry {r : Registry} (h : s.Sound S R L)
    (hget : s.registries.get? slot = some r) :
    { s with registries := s.registries.clear slot }.Sound S (r :: R) L := by
  refine ⟨h.balanced.perm_registries ?_, h.stored⟩
  exact List.perm_middle.symm.trans ((Slots.clear_perm hget).symm.append_left R)

theorem returnRegistry {r : Registry}
    (h : { s with registries := s.registries.clear slot }.Sound S (r :: R) L) :
    { s with registries := s.registries.put slot r }.Sound S R L := by
  refine ⟨h.balanced.perm_registries ?_, h.stored⟩
  exact ((s.registries.put_perm slot r).append_left R).trans List.perm_middle

/-- **A registry goes into a slot**, and the one that stood there is given up. -/
theorem storeRegistry {r : Registry} (h : s.Sound S (r :: R) L) (slot : String) :
    (s.storeRegistry slot r).Sound S R L := by
  refine ⟨?_, h.stored⟩
  rw [Session.storeRegistry]
  rcases hget : s.registries.get? slot with _ | old
  · refine h.balanced.perm_registries ?_
    exact ((Slots.put_perm_of_none hget r).append_left R).trans List.perm_middle
  · refine (h.balanced.perm_registries ?_).dropRegistry
    refine List.perm_middle.symm.trans (((Slots.put_perm_of_some hget r).append_left R).trans ?_)
    exact List.perm_middle

/-- **Working on a registry in its slot**, if the work balances beside all else. -/
theorem changeRegistry {r r' : Registry} (h : s.Sound S R L)
    (hget : s.registries.get? slot = some r)
    (hchange : s.pool.Balanced (S ++ s.keySets) (r :: (R ++ (s.registries.clear slot).contents))
        [] s.handleIds L →
      p.Balanced (S ++ s.keySets) (r' :: (R ++ (s.registries.clear slot).contents))
        [] s.handleIds L') :
    { s with pool := p, registries := s.registries.put slot r' }.Sound S R L' :=
  returnRegistry (s := { s with pool := p }) ⟨hchange (h.takeRegistry hget).balanced, h.stored⟩

/-! ### Configurations -/

theorem takeConfig {c : Config} (h : s.Sound S R L) (hget : s.configs.get? slot = some c) :
    { s with configs := s.configs.clear slot }.Sound (c.entries.toList :: S) R L := by
  refine ⟨h.balanced.perm_sets ?_, h.stored⟩
  exact List.perm_middle.symm.trans ((keySets_clearConfig hget).symm.append_left S)

theorem returnConfig {c : Config}
    (h : { s with configs := s.configs.clear slot }.Sound (c.entries.toList :: S) R L) :
    { s with configs := s.configs.put slot c }.Sound S R L := by
  refine ⟨h.balanced.perm_sets ?_, h.stored⟩
  exact ((keySets_putConfig s slot c).append_left S).trans List.perm_middle

/-- **A configuration goes into a slot**, and the one that stood there is given up. -/
theorem storeConfig {c : Config} (h : s.Sound (c.entries.toList :: S) R L) (slot : String) :
    (s.storeConfig slot c).Sound S R L := by
  refine ⟨?_, h.stored⟩
  rw [Session.storeConfig]
  rcases hget : s.configs.get? slot with _ | old
  · have hclear : s.keySets.Perm ([] ++ { s with configs := s.configs.clear slot }.keySets) := by
      rw [keySets, keySets, Slots.clear_of_none hget, List.nil_append]
    have hperm := exchange_perm S [c.entries.toList] [] (keySets_putConfig s slot c) hclear
    exact h.balanced.perm_sets hperm
  · have hperm := exchange_perm S [c.entries.toList] [old.entries.toList]
      (keySets_putConfig s slot c) (keySets_clearConfig hget)
    exact (h.balanced.perm_sets hperm).dropSet

/-! ### Plugins -/

/-- Kept keys that no plugin works on are given up. -/
theorem dropStore (h : s.Sound S R L) {id : StoreId} (hid : id < s.stores.size) :
    (s.dropStore id).Sound S R L := by
  rw [Session.dropStore]
  split
  · exact h
  · -- the kept keys are taken out, given up, and an empty set is left in their place
    obtain ⟨others, hkept, hset⟩ := keySets_store hid
    refine ⟨?_, ?_⟩
    · have hold := h.balanced.perm_sets ((hkept.append_left S).trans List.perm_middle).symm
      exact hold.dropSet.newSet.perm_sets (((hset {}).append_left S).trans List.perm_middle)
    · intro plugin hplugin i hi
      rw [Array.size_setIfInBounds]
      exact h.stored plugin hplugin i hi

/-- **An instance that is in no slot is given up.** -/
theorem dropPlugin {plugin : Plugin}
    (hbal : s.pool.Balanced (plugin.sets ++ (S ++ s.keySets)) (R ++ s.registries.contents) []
      (plugin.handles ++ s.handleIds) L)
    (hstored : ∀ other ∈ s.plugins.contents, ∀ id, other.store? = some id → id < s.stores.size)
    (hstore : ∀ id, plugin.store? = some id → id < s.stores.size) :
    (s.dropPlugin plugin).Sound S R L := by
  have hdrop : { s with pool := plugin.drop s.pool }.Sound S R L :=
    ⟨hbal.dropPlugin plugin, hstored⟩
  rw [Session.dropPlugin]
  rcases hid : plugin.store? with _ | id
  · exact hdrop
  · exact hdrop.dropStore (hstore id hid)

/-- An instance is taken out of its slot and given up. -/
theorem clearPlugin {plugin : Plugin} (h : s.Sound S R L)
    (hget : s.plugins.get? slot = some plugin) :
    ({ s with plugins := s.plugins.clear slot }.dropPlugin plugin).Sound S R L := by
  refine dropPlugin ((h.balanced.perm_sets ?_).perm_handles ?_)
    (fun other hother => h.stored other (Slots.mem_clear hother))
    (h.stored plugin (Slots.mem_contents hget))
  · rw [List.perm_iff_count]
    intro keys
    have hcount := (keySets_clearPlugin hget).count_eq keys
    simp only [List.count_append] at hcount ⊢
    omega
  · exact (handleIds_clearPlugin hget).symm

/-- **A new instance goes into a slot**, and the one that stood there is given up. -/
theorem storePlugin {plugin : Plugin} (h : s.Sound (plugin.sets ++ S) R L)
    (hnew : plugin.handles = [])
    (hstore : ∀ id, plugin.store? = some id → id < s.stores.size) (slot : String) :
    (s.storePlugin slot plugin).Sound S R L := by
  have hput := keySets_putPlugin s slot plugin
  have hstored : ∀ other ∈ (s.plugins.put slot plugin).contents, ∀ id,
      other.store? = some id → id < s.stores.size := by
    intro other hother id hid
    rcases Slots.mem_put hother with rfl | hother
    · exact hstore id hid
    · exact h.stored other hother id hid
  have hhandles := handleIds_putPlugin s slot plugin
  rw [hnew, List.nil_append] at hhandles
  rw [Session.storePlugin]
  rcases hget : s.plugins.get? slot with _ | old
  · have hclear : s.keySets.Perm ([] ++ { s with plugins := s.plugins.clear slot }.keySets) := by
      rw [keySets, keySets, Slots.clear_of_none hget, List.nil_append]
    have hperm := exchange_perm S plugin.sets [] hput hclear
    refine ⟨(h.balanced.perm_sets hperm).perm_handles (hhandles.trans ?_), hstored⟩
    rw [handleIds, handleIds, Slots.clear_of_none hget]
  · have hperm := exchange_perm S plugin.sets old.sets hput (keySets_clearPlugin hget)
    refine dropPlugin ((h.balanced.perm_sets hperm).perm_handles ?_) hstored
      (h.stored old (Slots.mem_contents hget))
    exact (hhandles.append_left _).trans (handleIds_clearPlugin hget).symm

end Sound
end Session
end ConfigKeys
