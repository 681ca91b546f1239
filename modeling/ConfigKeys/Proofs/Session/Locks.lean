import ConfigKeys.Proofs.Session.Reachable

/-!
# Locks

The lock of a record counts the containers that hold it, however its handles were come by; so the
names in containers stay as they are, and with them the order of key sets and the difference of
names in registries.

## Main definitions

* `Session.holds` — whether a container holds a record.

## Main results

* `Session.Reachable.locks_exact` — a lock counts containers, and forbids to change the name.
* `Session.Reachable.containers_in_order` — key sets are in order, registries without repetition.
-/

namespace ConfigKeys
namespace Session

variable {s : Session}

/-- Whether a container holds a record. -/
def holds (id : RecordId) (keys : List Key) : Bool := keys.any fun k => k.id = id

theorem holds_iff {id : RecordId} {keys : List Key} :
    holds id keys = true ↔ id ∈ keys.map Key.id := by
  simp [holds]

/-- Containers without repetition hold a record as often as there are containers that hold it. -/
theorem count_flatten (id : RecordId) {containers : List (List Key)}
    (hnodup : ∀ keys ∈ containers, (keys.map Key.id).Nodup) :
    (containers.flatten.map Key.id).count id = containers.countP (holds id) := by
  induction containers with
  | nil => rfl
  | cons keys containers ih =>
    have hrest := ih fun keys' hkeys' => hnodup keys' (List.mem_cons_of_mem keys hkeys')
    have hfirst := (hnodup keys List.mem_cons_self).count (a := id)
    rw [List.flatten_cons, List.map_append, List.count_append, List.countP_cons, hrest, hfirst]
    simp only [holds_iff]
    exact Nat.add_comm _ _

theorem entryIds_eq (p : Pool) : p.entryIds = (p.live.map Record.entries).flatten.map Key.id := by
  rw [Pool.entryIds, List.flatMap_def, List.map_flatten, List.map_map]
  rfl

/-- The lock of a record counts its containers. -/
theorem Sound.locks_eq (h : s.Sound [] [] []) (id : RecordId) :
    (s.pool.record id).locks = s.keySets.countP (holds id)
      + s.registries.contents.countP (holds id)
      + s.pool.live.countP fun owner => holds id owner.entries := by
  -- no container holds a record twice, so there are as many containers as places
  have hsets : ∀ keys ∈ s.keySets, (keys.map Key.id).Nodup :=
    fun keys hkeys => (h.balanced.ascending keys hkeys).distinct.nodup_ids
  have hregistries : ∀ keys ∈ s.registries.contents, (keys.map Key.id).Nodup :=
    fun keys hkeys => (h.balanced.distinct keys hkeys).nodup_ids
  have hentries : ∀ keys ∈ s.pool.live.map Record.entries, (keys.map Key.id).Nodup := by
    intro keys hkeys
    obtain ⟨r, hr, rfl⟩ := List.mem_map.mp hkeys
    exact (h.balanced.entries r hr).nodup_ids
  have hlocks := h.balanced.locks id
  rw [Pool.placeIds, List.append_nil, List.count_append, entryIds_eq, count_flatten id hentries,
    List.countP_map] at hlocks
  rw [hlocks]
  exact congrArg₂ (· + ·) (congrArg₂ (· + ·) (count_flatten id hsets)
    (count_flatten id hregistries)) rfl

theorem exec_rename {slot : String} {how : Renaming} {out : Reply × Session}
    (hstep : s.exec (.rename slot how) = some out) :
    ∃ k, s.keys.get? slot = some k ∧
      ((∃ e, how.apply s.pool k = .error e ∧ out = (.failed e, s)) ∨
        ∃ p, how.apply s.pool k = .ok p ∧ out = (.done, { s with pool := p })) := by
  obtain ⟨k, hk, hdone⟩ := Option.bind_eq_some_iff.mp hstep
  refine ⟨k, hk, ?_⟩
  rcases happly : how.apply s.pool k with e | p
  · rw [happly] at hdone
    cases hdone
    exact .inl ⟨e, rfl, rfl⟩
  · rw [happly] at hdone
    cases hdone
    exact .inr ⟨p, rfl, rfl⟩

/-- Some key set, some registry, or the metadata of some record that is there, holds a record. -/
def InContainer (s : Session) (id : RecordId) : Prop :=
  (∃ keys ∈ s.keySets, holds id keys = true) ∨
    (∃ keys ∈ s.registries.contents, holds id keys = true) ∨
      ∃ owner ∈ s.pool.live, holds id owner.entries = true

theorem Sound.locked_iff (h : s.Sound [] [] []) (id : RecordId) :
    0 < (s.pool.record id).locks ↔ s.InContainer id := by
  rw [h.locks_eq id, InContainer, ← List.countP_pos_iff, ← List.countP_pos_iff,
    ← List.countP_pos_iff]
  omega

/-- **Locks are exact.**  The lock of every record that is there is the number of key sets, of
registries and of records with metadata that hold it.  No place was ever given up that was not
counted, a name is pinned where some container holds the key, and only there, and to change a name
succeeds only where none does; where it fails, nothing changes. -/
theorem Reachable.locks_exact (h : s.Reachable) :
    (∀ id r, s.pool.find? id = some r →
      r.locks = s.keySets.countP (holds id) + s.registries.contents.countP (holds id)
        + s.pool.live.countP fun owner => holds id owner.entries) ∧
    s.pool.overdrafts = 0 ∧
    (∀ k, s.pool.isLocked k = true ↔ s.InContainer k.id) ∧
    ∀ slot how out, s.exec (.rename slot how) = some out →
      ∃ k, s.keys.get? slot = some k ∧
        ((∃ e, how.apply s.pool k = .error e ∧ out = (.failed e, s)) ∨
          ∃ p, how.apply s.pool k = .ok p ∧ out = (.done, { s with pool := p }) ∧
            ¬ s.InContainer k.id) := by
  have hsound := h.sound
  refine ⟨?_, hsound.balanced.settled, ?_, ?_⟩
  · intro id r hr
    have hlocks := hsound.locks_eq id
    rw [Pool.record_of_find? hr] at hlocks
    exact hlocks
  · intro k
    rw [← hsound.locked_iff, Pool.isLocked, decide_eq_true_iff]
  · intro slot how out hstep
    obtain ⟨k, hk, herror | ⟨p, hp, hout⟩⟩ := exec_rename hstep
    · exact ⟨k, hk, .inl herror⟩
    · -- a name was changed, so the record was not locked
      obtain ⟨change, hrename⟩ := Renaming.apply_ok hp
      obtain ⟨hzero, -⟩ := Pool.rename_ok hrename
      refine ⟨k, hk, .inr ⟨p, hp, hout, ?_⟩⟩
      rw [← hsound.locked_iff, hzero]
      exact Nat.lt_irrefl 0

/-- An entry of the metadata of a key is put into a key set and into a registry as well.  Three
containers hold it then, and its name cannot be changed. -/
theorem Reachable.locks_exact_shared :
    ∃ s, Session.execAll {} [.build "key" "user/a" [], .setMeta "key" "x" "1",
        .fetch (.entry "key" "x") (some "entry"), .newSet "set", .append "set" "entry",
        .newRegistry "registry", .insertEntry "registry" "entry"] = some s ∧
      s.keySets.countP (holds 1) + s.registries.contents.countP (holds 1)
        + s.pool.live.countP (fun owner => holds 1 owner.entries) = 3 ∧
      s.InContainer 1 ∧ ∃ e, s.exec (.rename "entry" (.whole "user/b")) = some (.failed e, s) := by
  have hrun : (Session.execAll {} [.build "key" "user/a" [], .setMeta "key" "x" "1",
      .fetch (.entry "key" "x") (some "entry"), .newSet "set", .append "set" "entry",
      .newRegistry "registry", .insertEntry "registry" "entry"]).map
        (fun s => ((s.pool.find? 1).map Record.locks, s.keys.get? "entry"))
          = some (some 3, some ⟨1, {}⟩) := by decide +kernel
  obtain ⟨s, hs, hboth⟩ := Option.map_eq_some_iff.mp hrun
  obtain ⟨hlocks, hget⟩ := Prod.mk.inj hboth
  obtain ⟨r, hr, hthree⟩ := Option.map_eq_some_iff.mp hlocks
  obtain ⟨hcount, -, hiff, hrename⟩ := (Reachable.start.execAll hs).locks_exact
  have hpinned : s.pool.isLocked ⟨1, {}⟩ = true := by
    rw [Pool.isLocked, Pool.record_of_find? hr, hthree]
    rfl
  have hcontainer := (hiff ⟨1, {}⟩).mp hpinned
  obtain ⟨out, hstep⟩ : ∃ out, s.exec (.rename "entry" (.whole "user/b")) = some out :=
    Option.isSome_iff_exists.mp (by rw [exec, rename, hget]; rfl)
  refine ⟨s, hs, (hcount 1 r hr).symm.trans hthree, hcontainer, ?_⟩
  obtain ⟨k, hk, ⟨e, -, rfl⟩ | ⟨p, -, -, hfree⟩⟩ := hrename _ _ out hstep
  · exact ⟨e, hstep⟩
  · rw [hget] at hk
    cases hk
    exact absurd hcontainer hfree

/-! ### Order -/

/-- **Order survives sharing.**  Whatever commands were carried out, by whatever handles on the
records, the names in every key set are in strict order, and so without repetition, and the names in
every registry and in the metadata of every record that is there differ. -/
theorem Reachable.containers_in_order (h : s.Reachable) :
    (∀ keys ∈ s.keySets, (keys.map s.pool.name).Pairwise (fun a b => a.compare b = .lt) ∧
      (keys.map s.pool.name).Nodup) ∧
    (∀ keys ∈ s.registries.contents, (keys.map s.pool.name).Nodup) ∧
    ∀ owner ∈ s.pool.live, (owner.entries.map s.pool.name).Nodup := by
  have hbalanced := h.sound.balanced
  refine ⟨?_, hbalanced.distinct, hbalanced.entries⟩
  intro keys hkeys
  have hascending := hbalanced.ascending keys hkeys
  exact ⟨hascending, hascending.distinct⟩

/-- A name is changed by one handle on a record before the record goes into a set by another; to
change it once more fails, and the set stays in order. -/
theorem Reachable.containers_in_order_renamed :
    ∃ s, Session.execAll {} [.build "first" "user/b" [], .build "second" "user/a" [],
        .wrap "first" "alias", .newSet "set", .append "set" "first", .remove "set" "user/b" none,
        .rename "alias" (.whole "user/0"), .append "set" "second", .append "set" "first",
        .rename "alias" (.whole "user/c")] = some s ∧
      s.keySets = [[⟨0, {}⟩, ⟨1, {}⟩]] ∧
      (s.pool.name ⟨0, {}⟩).compare (s.pool.name ⟨1, {}⟩) = .lt := by
  have hrun : (Session.execAll {} [.build "first" "user/b" [], .build "second" "user/a" [],
      .wrap "first" "alias", .newSet "set", .append "set" "first", .remove "set" "user/b" none,
      .rename "alias" (.whole "user/0"), .append "set" "second", .append "set" "first",
      .rename "alias" (.whole "user/c")]).map Session.keySets
        = some [[⟨0, {}⟩, ⟨1, {}⟩]] := by decide +kernel
  obtain ⟨s, hs, hsets⟩ := Option.map_eq_some_iff.mp hrun
  obtain ⟨horder, -, -⟩ := (Reachable.start.execAll hs).containers_in_order
  have hpair := (horder _ (by rw [hsets]; exact List.mem_cons_self)).1
  refine ⟨s, hs, hsets, ?_⟩
  simpa using hpair

end Session
end ConfigKeys
