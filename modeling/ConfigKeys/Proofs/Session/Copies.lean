import ConfigKeys.Proofs.Pool.Forest
import ConfigKeys.Proofs.Session.Isolation

/-!
# Copies of keys are deep

In every session that a host reaches, metadata is a forest.  A copy of a key says what the key
says, down to the last entry, and has no record in common with anything that was there before.  As
metadata gains new records only, the two never have one in common, whatever is done to them: a
record that belonged to one of them once never belongs to the other, and what is done to the one
leaves the other as it is.

## Main definitions

* `Session.Belongs` — a record belonged to another one at some point of a run.
* `Session.Untouched` — what is done to one record does not change another one.

## Main results

* `Session.Reachable.forest` — metadata is a forest.
* `Session.Reachable.untouched` — what is done to one of two records that are apart does not change
  the other.
* `Session.Reachable.copies_are_deep` — a copy is deep, and stays apart.
-/

namespace ConfigKeys

namespace Session

/-- A record was `id`, or in its metadata at any level, at some point of a run from `s` to `t`. -/
def Belongs (s : Session) (id : RecordId) (t : Session) (i : RecordId) : Prop :=
  ∃ u, s.Runs (fun _ _ => True) u ∧ u.Runs (fun _ _ => True) t ∧ u.pool.Holds id i

/-- However a run goes on from `s`, what is done to the record `a` does not change the record
`b`. -/
structure Untouched (s : Session) (a b : RecordId) : Prop where
  /-- No record that belonged to `a` once belongs to `b`. -/
  apart : ∀ t, s.Runs (fun _ _ => True) t → ∀ i, s.Belongs a t i → ¬ t.pool.Holds b i
  /-- A command that edits and renames such records only leaves what `b` says. -/
  tree_eq : ∀ t, s.Runs (fun _ _ => True) t → ∀ cmd reply u, t.exec cmd = some (reply, u) →
    (∀ i, cmd.Edits t i ∨ cmd.Renames t i → s.Belongs a t i) →
    (∃ r, u.pool.find? b = some r) → u.pool.tree b = t.pool.tree b

variable {s s' t u : Session} {slot key into : String} {k : Key} {cmd : Command} {reply : Reply}
variable {a b i : RecordId} {U : Set RecordId} {p : Pool}

/-! ### A forest -/

theorem Reachable.single (h : s.Reachable) : s.pool.Single := by
  induction h with
  | start =>
    intro i j e he
    obtain ⟨r, hr, -⟩ := Pool.mem_entries_iff.mp he
    simp [Pool.find?] at hr
  | step hreach hstep ih =>
    exact (hreach.sound.stays_exec hstep).pool.single hreach.forward ih

/-- **Metadata is a forest** in every session that a host reaches. -/
theorem Reachable.forest (h : s.Reachable) : s.pool.Forest :=
  h.sound.balanced.forest h.forward h.single

/-! ### Apart -/

theorem Runs.evolves {allowed : Session → Command → Prop} (h : s.Runs allowed t)
    (hs : s.Reachable) : s.pool.Evolves Set.univ Set.univ t.pool :=
  (h.stays_confined hs (Confined.univ s)).pool

/-- **What is done to one of two records that are apart** never changes the other. -/
theorem Reachable.untouched (h : s.Reachable) (ha : a < s.pool.nextId) (hb : b < s.pool.nextId)
    (hab : ¬ s.pool.Holds a b) (hba : ¬ s.pool.Holds b a) : s.Untouched a b := by
  have hapart : ∀ t, s.Runs (fun _ _ => True) t → ∀ i, s.Belongs a t i → ¬ t.pool.Holds b i := by
    rintro t - i ⟨u, hrun, hlater, hholds⟩
    have hu := hrun.reachable h
    have hev := hrun.evolves h
    -- neither has come to hold the other until then
    refine (hlater.evolves hu).not_holds hu.forward hu.single ?_ ?_ hholds
      (Nat.lt_of_lt_of_le ha hev.grows)
    · exact fun hold => hab (hev.holds_old h.forward hold hb)
    · exact fun hold => hba (hev.holds_old h.forward hold ha)
  refine ⟨hapart, fun t hrun cmd reply u hstep hcmd hthere => ?_⟩
  have ht := hrun.reachable h
  have hev := (ht.sound.stays_exec hstep).pool
  have hlt := Nat.lt_of_lt_of_le hb (hrun.evolves h).grows
  refine (ht.step hstep).sound.balanced.tree_eq hev ht.forward hthere hlt fun i hi => ⟨?_, ?_⟩
  · exact fun hrenames => hapart t hrun i (hcmd i (.inr hrenames)) hi
  · exact fun hedits => hapart t hrun i (hcmd i (.inl hedits)) hi

/-! ### Copies -/

theorem evolves_storeKey (s : Session) (slot : String) (k : Key) :
    s.pool.Evolves ∅ ∅ (s.storeKey slot k).pool := by
  have hretain := (Pool.Evolves.refl ∅ ∅ s.pool).retain k.id
  rw [storeKey]
  rcases s.keys.get? slot with _ | old
  · exact hretain
  · exact hretain.release old.id

/-- To fill a slot of a key touches, beside the key, only what the key holds that leaves it. -/
theorem spares_storeKey (h : p.Spares U (s.pool.retain k.id))
    (hold : ∀ old, s.keys.get? slot = some old → old.id ∈ U) :
    p.Spares U (s.storeKey slot k).pool := by
  rw [storeKey]
  rcases hget : s.keys.get? slot with _ | old
  · exact h
  · exact h.release (hold old hget)

/-- It locks and unlocks nothing else. -/
theorem locks_storeKey (hclosed : ∀ i ∈ U, ∀ e ∈ (s.pool.record i).entries, e.id ∈ U)
    (hnew : ∀ i, s.pool.nextId ≤ i → i ∈ U)
    (hold : ∀ old, s.keys.get? slot = some old → old.id ∈ U) (hi : i ∉ U) :
    ((s.storeKey slot k).pool.record i).locks = (s.pool.record i).locks := by
  have hretain := (Pool.Evolves.refl ∅ ∅ s.pool).retain k.id
  have hnext : (s.pool.retain k.id).nextId = s.pool.nextId := Pool.nextId_modify _ _ _
  have hspares : (s.pool.retain k.id).Spares U (s.storeKey slot k).pool := by
    refine spares_storeKey (.refl (fun j hj e he => ?_) fun j hj => hnew j (hnext ▸ hj)) hold
    have hlt := hnext ▸ Pool.lt_of_mem_entries he
    exact hclosed j hj e (hretain.entry_kept hlt (Set.notMem_empty j) he)
  have hsame : (s.storeKey slot k).pool.record i = (s.pool.retain k.id).record i := by
    rw [Pool.record, hspares.kept i hi, Pool.record]
  rw [hsame]
  exact Pool.locks_modify (f := fun r => { r with handles := r.handles + 1 }) (fun _ => rfl) i

/-- **A planted tree that goes into a slot** is new at every level. -/
theorem Reachable.isPlanted_storeKey {t : KeyTree} (h : s.Reachable) (slot : String)
    (hstored : ({ s with pool := s.pool.plant t }.storeKey slot ⟨s.pool.nextId, {}⟩).Sound
      [] [] []) :
    s.pool.IsPlanted t ({ s with pool := s.pool.plant t }.storeKey slot ⟨s.pool.nextId, {}⟩).pool
      s.pool.nextId := by
  have hplant := ((Pool.Evolves.refl ∅ ∅ s.pool).plant t).1
  have hstore := evolves_storeKey { s with pool := s.pool.plant t } slot ⟨s.pool.nextId, {}⟩
  have hget : ({ s with pool := s.pool.plant t }.storeKey slot ⟨s.pool.nextId, {}⟩).keys.get? slot
      = some ⟨s.pool.nextId, {}⟩ := Slots.get?_put_self _ _ _
  have hold : ∀ old, s.keys.get? slot = some old → old.id < s.pool.nextId := fun old hold =>
    Stays.key_lt h.sound hold
  refine hstored.balanced.isPlanted h.forward hstore (hstored.exists_of_key hget) ?_
  intro i hnew hlt
  -- the tree is not among what was there, and not behind what is new
  refine locks_storeKey (U := { i | i < s.pool.nextId ∨ (s.pool.plant t).nextId ≤ i }) ?_
    (fun i hi => .inr hi) (fun old hget => .inl (hold old hget)) ?_
  · rintro j (hj | hj) e he
    · exact .inl (h.forward.entry (hplant.entry_kept hj (Set.notMem_empty j) he)).2
    · exact absurd (Pool.lt_of_mem_entries he) (Nat.not_lt.mpr hj)
  · exact fun hmem => hmem.elim (Nat.not_lt.mpr hnew) (Nat.not_le.mpr hlt)

/-- **What a copy leaves**: the copy is in its slot, and of what was there before nothing is touched
but what the key holds that leaves the slot. -/
theorem Reachable.exec_copyKey (h : s.Reachable) (hk : s.keys.get? key = some k) (into : String) :
    ∃ reply s', s.exec (.copyKey key into) = some (reply, s') ∧
      s'.keys = s.keys.put into ⟨s.pool.nextId, {}⟩ ∧
      s.pool.IsCopyOf k.id s'.pool s.pool.nextId ∧ s.pool.Evolves ∅ ∅ s'.pool ∧
      ∀ i < s.pool.nextId, (∀ old, s.keys.get? into = some old → ¬ s.pool.Holds old.id i) →
        s'.pool.find? i = s.pool.find? i := by
  have hexec : s.exec (.copyKey key into) = some
      ({ s with pool := s.pool.copy k.id }.fetch (some ⟨s.pool.nextId, {}⟩) (some into)) :=
    Option.bind_eq_some_iff.mpr ⟨k, hk, rfl⟩
  have hcopy := (Pool.Evolves.refl ∅ ∅ s.pool).copy k.id
  have hstore := evolves_storeKey { s with pool := s.pool.copy k.id } into ⟨s.pool.nextId, {}⟩
  refine ⟨_, _, hexec, rfl, ?_, hcopy.trans hstore, fun i hi hout => ?_⟩
  · exact (h.isPlanted_storeKey into (h.step hexec).sound).isCopyOf
  · -- what the old key holds and what is new does not lead back
    have hrefl : s.pool.Spares { i | (∃ old, s.keys.get? into = some old ∧ s.pool.Holds old.id i) ∨
        s.pool.nextId ≤ i } s.pool := by
      refine .refl ?_ fun i hi => .inr hi
      rintro j (⟨old, hget, hholds⟩ | hj) e he
      · exact .inl ⟨old, hget, hholds.entry he⟩
      · exact absurd (Pool.lt_of_mem_entries he) (Nat.not_lt.mpr hj)
    have hretained := (hrefl.copy k.id).modify (f := fun r => { r with handles := r.handles + 1 })
      (.inr (Nat.le_refl _)) fun _ => rfl
    refine (spares_storeKey hretained fun old hget => .inl ⟨old, hget, .self⟩).kept i ?_
    rintro (⟨old, hget, hholds⟩ | hge)
    · exact hout old hget hholds
    · exact absurd hi (Nat.not_lt.mpr hge)

/-- **Metadata is a forest, and copies are deep.**  In every session that a host reaches, metadata
is a forest, and the tree of a record unfolds into the trees of its entries.  To copy a key
succeeds; the copy says what the key says, all its records are new, and no handle and no container
that was there before reaches one of them; its name is not pinned, and each of its entries is in one
place.  The key stays as it is, unless the copy takes its slot and nothing else holds it.  From then
on, nothing that is done to the key changes the copy, and nothing that is done to the copy changes
the key. -/
theorem Reachable.copies_are_deep (h : s.Reachable) :
    s.pool.Forest ∧
    (∀ id, s.pool.tree id = .node (s.pool.record id).name (s.pool.record id).value
      ((s.pool.record id).entries.map fun e => s.pool.tree e.id)) ∧
    ∀ key k into, s.keys.get? key = some k →
      ∃ reply s', s.exec (.copyKey key into) = some (reply, s') ∧
        s'.keys = s.keys.put into ⟨s.pool.nextId, {}⟩ ∧
        s.pool.IsCopyOf k.id s'.pool s.pool.nextId ∧
        (∀ x, (x ∈ s.heldKeys ∨ ∃ keys ∈ s.keySets, x ∈ keys) →
          ∀ i, s'.pool.Holds s.pool.nextId i → ¬ s'.pool.Holds x.id i) ∧
        (∀ i < s.pool.nextId, (∀ old, s.keys.get? into = some old → ¬ s.pool.Holds old.id i) →
          s'.pool.find? i = s.pool.find? i) ∧
        (into ≠ key ∨ (∃ r, s'.pool.find? k.id = some r) →
          s'.pool.tree k.id = s.pool.tree k.id) ∧
        s'.Untouched k.id s.pool.nextId ∧ s'.Untouched s.pool.nextId k.id := by
  refine ⟨h.forest, h.forward.tree_eq, fun key k into hk => ?_⟩
  obtain ⟨reply, s', hexec, hkeys, hcopy, hev, hsame⟩ := h.exec_copyKey hk into
  have h' := h.step hexec
  have hget : s'.keys.get? into = some ⟨s.pool.nextId, {}⟩ := by
    rw [hkeys, Slots.get?_put_self]
  have hlt := Stays.key_lt h.sound hk
  have hnew := Stays.key_lt h'.sound hget
  have hout := hcopy.apart k.id hlt s.pool.nextId .self
  have hback : ¬ s'.pool.Holds s.pool.nextId k.id := fun hholds =>
    absurd hlt (Nat.not_lt.mpr (hcopy.new k.id hholds))
  have hlt' := Nat.lt_of_lt_of_le hlt hev.grows
  refine ⟨reply, s', hexec, hkeys, hcopy, fun x hx i hi => ?_, hsame, fun hstays => ?_,
    h'.untouched hlt' hnew hout hback, h'.untouched hnew hlt' hback hout⟩
  · have hthere : ∃ r, s.pool.find? x.id = some r := by
      rcases hx with hx | ⟨keys, hkeys, hx⟩
      · exact h.sound.exists_of_heldKeys hx
      · exact h.sound.balanced.exists_of_mem_set hkeys hx
    exact hcopy.apart x.id (Pool.find?_lt hthere.choose_spec) i hi
  · have hthere : ∃ r, s'.pool.find? k.id = some r := by
      rcases hstays with hne | hthere
      · have hstill : s'.keys.get? key = some k := by
          rw [hkeys, Slots.get?_put_of_ne _ _ hne.symm, hk]
        exact h'.sound.exists_of_key hstill
      · exact hthere
    exact h'.sound.balanced.tree_eq_of_evolves hev h.forward hthere hlt

/-- A key is copied, and the copy gets another text for an entry.  The key has the one that it
had. -/
theorem Reachable.copies_are_deep_changed :
    ∃ (s s' u : Session) (reply reply' : Reply),
      s.exec (.copyKey "key" "copy") = some (reply, s') ∧ s'.pool.tree 2 = s.pool.tree 0 ∧
      s'.exec (.setMeta "copy" "mode" "2") = some (reply', u) ∧
      u.pool.tree 0 = s.pool.tree 0 ∧
      (u.pool.tree 0).entries.map KeyTree.value = [.ofText "1"] ∧
      (u.pool.tree 2).entries.map KeyTree.value = [.ofText "2"] := by
  have hrun : ((Session.execAll {} [.build "key" "user/a" [.entry "mode" "1"]]).bind fun s =>
      (s.exec (.copyKey "key" "copy")).bind fun o =>
      (o.2.exec (.setMeta "copy" "mode" "2")).map fun o' => decide (
        s.pool.nextId = 2 ∧ s.keys.get? "key" = some ⟨0, {}⟩ ∧ (o'.2.pool.find? 0).isSome = true ∧
        (o'.2.pool.tree 0).entries.map KeyTree.value = [.ofText "1"] ∧
        (o'.2.pool.tree 2).entries.map KeyTree.value = [.ofText "2"])) = some true := by
    decide +kernel
  obtain ⟨s, hs, hrun⟩ := Option.bind_eq_some_iff.mp hrun
  obtain ⟨⟨reply, s'⟩, hcopy, hrun⟩ := Option.bind_eq_some_iff.mp hrun
  obtain ⟨⟨reply', u⟩, hset, hfacts⟩ := Option.map_eq_some_iff.mp hrun
  obtain ⟨hnext, hk, hthere, hold, hchanged⟩ := of_decide_eq_true hfacts
  obtain ⟨-, -, hcopies⟩ := (Reachable.start.execAll hs).copies_are_deep
  obtain ⟨_, _, hcopy', hkeys, hdeep, -, -, hsame, -, hfree⟩ := hcopies "key" ⟨0, {}⟩ "copy" hk
  obtain ⟨rfl, rfl⟩ := Prod.mk.inj (Option.some.inj (hcopy.symm.trans hcopy'))
  rw [hnext] at hkeys hdeep hfree
  refine ⟨s, s', u, reply, reply', hcopy, hdeep.tree_eq, hset, ?_, hold, hchanged⟩
  refine (hfree.tree_eq s' (.refl s') _ reply' u hset ?_ (Option.isSome_iff_exists.mp hthere)).trans
    (hsame (.inl (by decide)))
  rintro i (⟨k, hget, rfl⟩ | hrenames)
  · -- the slot holds the copy
    rw [hkeys, Slots.get?_put_self] at hget
    cases hget
    exact ⟨s', .refl s', .refl s', .self⟩
  · cases hrenames

end Session
end ConfigKeys
