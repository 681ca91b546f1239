import ConfigKeys.Proofs.Session.Keys

/-!
# Steps on key sets keep sessions sound

## Main results

* `Session.exec_collect`, `Session.exec_append`, `Session.exec_next`, … — the sessions after steps
  on key sets that find what they work on.
* `Session.Sound.append`, `Session.Sound.appendAll`, `Session.Sound.remove`, `Session.Sound.cut`,
  `Session.Sound.replace`, … — steps on key sets.
-/

namespace ConfigKeys
namespace Session

/-! ### The commands on sets, when they find what they work on -/

section Steps

variable {s : Session} {set source key into : String} {maybe : Option String} {ks other : KeySet}
variable {k : Key}

theorem exec_collect (set : String) {keys : List String} {list : List Key}
    (hlist : keys.mapM s.keys.get? = some list) :
    s.exec (.collect set keys) = some (.done, { s with pool := (KeySet.ofList s.pool list).1
      }.storeSet set (KeySet.ofList s.pool list).2) :=
  Option.bind_eq_some_iff.mpr ⟨list, hlist, rfl⟩

theorem exec_extend {keys : List String} {list : List Key} (hks : s.sets.get? set = some ks)
    (hlist : keys.mapM s.keys.get? = some list) :
    s.exec (.extend set keys) = some (.done, { s with
      pool := (ks.appendAll s.pool list).1
      sets := s.sets.put set (ks.appendAll s.pool list).2 }) :=
  Option.bind_eq_some_iff.mpr ⟨ks, hks, Option.bind_eq_some_iff.mpr ⟨list, hlist, rfl⟩⟩

theorem exec_append (hks : s.sets.get? set = some ks) (hk : s.keys.get? key = some k) :
    s.exec (.append set key) = some (.count (ks.append s.pool k).2.size, { s with
      pool := (ks.append s.pool k).1
      sets := s.sets.put set (ks.append s.pool k).2 }) :=
  Option.bind_eq_some_iff.mpr ⟨ks, hks, Option.bind_eq_some_iff.mpr ⟨k, hk, rfl⟩⟩

theorem exec_appendAll (hks : s.sets.get? set = some ks)
    (hother : s.sets.get? source = some other) :
    s.exec (.appendAll set source) = some (.count (ks.appendAll s.pool other.toList).2.size,
      { s with
        pool := (ks.appendAll s.pool other.toList).1
        sets := s.sets.put set (ks.appendAll s.pool other.toList).2 }) :=
  Option.bind_eq_some_iff.mpr ⟨ks, hks, Option.bind_eq_some_iff.mpr ⟨other, hother, rfl⟩⟩

theorem exec_next (hks : s.sets.get? set = some ks) :
    s.exec (.next set maybe) = some ({ s with
      sets := s.sets.put set ks.next.2 }.fetch ks.next.1 maybe) :=
  Option.bind_eq_some_iff.mpr ⟨ks, hks, rfl⟩

theorem removeName_eq (maybe : Option String) (hks : s.sets.get? set = some ks) (n : Name) :
    s.removeName set n maybe = some ({ s with
      pool := (ks.remove s.pool n).2.1
      sets := s.sets.put set (ks.remove s.pool n).2.2 }.hand (ks.remove s.pool n).1 maybe) :=
  Option.bind_eq_some_iff.mpr ⟨ks, hks, rfl⟩

theorem exec_clear (hks : s.sets.get? set = some ks) :
    s.exec (.clear set) = some (.done, { s with
      pool := ks.drop s.pool
      sets := s.sets.put set {} }) :=
  Option.bind_eq_some_iff.mpr ⟨ks, hks, rfl⟩

theorem exec_replace (hne : set ≠ source) (hks : s.sets.get? set = some ks)
    (hother : s.sets.get? source = some other) :
    s.exec (.replace set source) = some (.done, { s with
      pool := ks.drop s.pool
      sets := (s.sets.clear source).put set { keys := other.keys } }) :=
  Option.bind_eq_some_iff.mpr ⟨other, hother, Option.bind_eq_some_iff.mpr
    ⟨ks, (Slots.get?_clear_of_ne _ hne).trans hks, rfl⟩⟩

theorem exec_shareSet (into : String) (hks : s.sets.get? set = some ks) :
    s.exec (.shareSet set into) = some (.done, { s with pool := s.pool.lockAll ks.toList
      }.storeSet into ks) :=
  Option.bind_eq_some_iff.mpr ⟨ks, hks, rfl⟩

theorem exec_copySet (into : String) (hks : s.sets.get? set = some ks) :
    s.exec (.copySet set into) = some (.done, { s with pool := (ks.copy s.pool).1
      }.storeSet into (ks.copy s.pool).2) :=
  Option.bind_eq_some_iff.mpr ⟨ks, hks, rfl⟩

/-- To show a key leaves the sets as they are. -/
theorem sets_fetch (s : Session) (found : Option Key) (maybe : Option String) :
    (s.fetch found maybe).2.sets = s.sets := by
  rcases found with _ | k
  · rfl
  · rcases maybe with _ | slot <;> rfl

theorem sets_hand (s : Session) (handed : Option Key) (maybe : Option String) :
    (s.hand handed maybe).2.sets = s.sets := by
  rcases handed with _ | k
  · rfl
  · rcases maybe with _ | slot <;> rfl

end Steps

namespace Sound

variable {s : Session} {S R : List (List Key)} {L : List RecordId} {ks : KeySet} {k : Key}
variable {slot source key into raw : String} {maybe : Option String} {out : Reply × Session}

/-! ### What is held -/

/-- A set in a slot is one of the sets that the session holds. -/
theorem mem_keySets (hget : s.sets.get? slot = some ks) : ks.toList ∈ S ++ s.keySets :=
  List.mem_append_right S ((keySets_clearSet hget).mem_iff.mpr List.mem_cons_self)

/-- A record in a set is there. -/
theorem exists_of_member (h : s.Sound S R L) (hget : s.sets.get? slot = some ks)
    (hk : k ∈ ks.toList) : ∃ r, s.pool.find? k.id = some r :=
  h.balanced.exists_of_mem_set (mem_keySets hget) hk

/-- Each of the handles of slots is in one of them. -/
theorem get?_of_mapM {slots : List String} {keys : List Key}
    (hkeys : slots.mapM s.keys.get? = some keys) (hk : k ∈ keys) :
    ∃ slot, s.keys.get? slot = some k := by
  induction slots generalizing keys with
  | nil =>
    cases hkeys
    cases hk
  | cons first slots ih =>
    rw [List.mapM_cons] at hkeys
    obtain ⟨k₁, hfirst, hrest⟩ := Option.bind_eq_some_iff.mp hkeys
    obtain ⟨keys₁, hkeys₁, ⟨⟩⟩ := Option.bind_eq_some_iff.mp hrest
    rcases List.mem_cons.mp hk with rfl | hk
    · exact ⟨first, hfirst⟩
    · exact ih hkeys₁ hk

/-- The handles of slots are held. -/
theorem held_of_mapM {S' R' : List (List Key)} {P : List RecordId} {slots : List String}
    {keys : List Key} (hkeys : slots.mapM s.keys.get? = some keys) :
    ∀ k ∈ keys, k.id ∈ Pool.placeIds S' R' P ++ s.handleIds := by
  intro k hk
  obtain ⟨slot, hget⟩ := get?_of_mapM hkeys hk
  exact List.mem_append_right _ (mem_handleIds hget)

/-- Keys of a set are held by it: it is the one in a slot, or it is held beside that one. -/
theorem source_cases {other : KeySet} {R' : List (List Key)} {P : List RecordId}
    (hks : s.sets.get? slot = some ks) (hother : s.sets.get? source = some other) :
    other = ks ∨ ∀ k ∈ other.toList,
      k.id ∈ Pool.placeIds (S ++ { s with sets := s.sets.clear slot }.keySets) R' P := by
  have hmem := (Slots.clear_perm hks).mem_iff.mp (Slots.mem_contents hother)
  refine (List.mem_cons.mp hmem).imp_right fun hrest k hk => ?_
  have hset : other.toList ∈ { s with sets := s.sets.clear slot }.keySets := by
    simp only [keySets, List.mem_append, List.mem_map]
    exact .inl (.inl (.inl ⟨other, hrest, rfl⟩))
  exact Pool.mem_placeIds_of_set (List.mem_append_right S hset) hk

/-! ### New sets -/

theorem newSet (h : s.Sound S R L) (hstep : s.newSet slot = some out) : out.2.Sound S R L := by
  cases hstep
  exact h.withEmptySet.storeSet slot

theorem collect {keys : List String} (h : s.Sound S R L)
    (hstep : s.collect slot keys = some out) : out.2.Sound S R L := by
  obtain ⟨list, hlist, ⟨⟩⟩ := Option.bind_eq_some_iff.mp hstep
  have hnew : s.pool.Balanced (KeySet.toList {} :: (S ++ s.keySets)) _ _ _ L := h.balanced.newSet
  exact storeSet (s := { s with pool := (KeySet.ofList s.pool list).1 })
    ⟨hnew.appendAll (held_of_mapM hlist), h.stored⟩ slot

theorem fill {texts : List (String × String)} (h : s.Sound S R L)
    (hstep : s.fill slot texts = some out) : out.2.Sound S R L := by
  rw [Session.fill] at hstep
  split at hstep
  · cases hstep
    exact h
  · next list _ =>
    cases hstep
    exact storeSet (s := { s with pool := (KeySet.ofTexts s.pool list).1 })
      ⟨h.balanced.ofTexts list, h.stored⟩ slot

theorem below (h : s.Sound S R L) (hstep : s.below slot key into = some out) :
    out.2.Sound S R L := by
  obtain ⟨ks, hks, hstep⟩ := Option.bind_eq_some_iff.mp hstep
  obtain ⟨k, -, ⟨⟩⟩ := Option.bind_eq_some_iff.mp hstep
  exact storeSet (s := { s with pool := (ks.below s.pool (s.pool.name k)).1 })
    ⟨h.balanced.below (mem_keySets hks) (s.pool.name k), h.stored⟩ into

theorem cut (h : s.Sound S R L) (hstep : s.cut slot key into = some out) : out.2.Sound S R L := by
  obtain ⟨ks, hks, hstep⟩ := Option.bind_eq_some_iff.mp hstep
  obtain ⟨k, -, ⟨⟩⟩ := Option.bind_eq_some_iff.mp hstep
  have htake := h.takeSet hks
  have hcut := (htake.balanced.cut (s.pool.name k)).perm_sets (.swap _ _ _)
  exact storeSet (returnSet ⟨hcut, h.stored⟩) into

theorem shareSet (h : s.Sound S R L) (hstep : s.shareSet slot into = some out) :
    out.2.Sound S R L := by
  obtain ⟨ks, hks, ⟨⟩⟩ := Option.bind_eq_some_iff.mp hstep
  exact storeSet (s := { s with pool := (ks.share s.pool).1 })
    ⟨h.balanced.share (mem_keySets hks), h.stored⟩ into

theorem copySet (h : s.Sound S R L) (hstep : s.copySet slot into = some out) :
    out.2.Sound S R L := by
  obtain ⟨ks, -, ⟨⟩⟩ := Option.bind_eq_some_iff.mp hstep
  exact storeSet (s := { s with pool := (ks.copy s.pool).1 })
    ⟨h.balanced.copySet ks, h.stored⟩ into

/-! ### Sets that change -/

theorem extend {keys : List String} (h : s.Sound S R L)
    (hstep : s.extend slot keys = some out) : out.2.Sound S R L := by
  obtain ⟨ks, hks, hstep⟩ := Option.bind_eq_some_iff.mp hstep
  obtain ⟨list, hlist, ⟨⟩⟩ := Option.bind_eq_some_iff.mp hstep
  exact h.changeSet hks fun hbal => hbal.appendAll (held_of_mapM hlist)

theorem append (h : s.Sound S R L) (hstep : s.append slot key = some out) :
    out.2.Sound S R L := by
  obtain ⟨ks, hks, hstep⟩ := Option.bind_eq_some_iff.mp hstep
  obtain ⟨k, hk, ⟨⟩⟩ := Option.bind_eq_some_iff.mp hstep
  obtain ⟨r, hr⟩ := h.exists_of_key hk
  refine h.changeSet hks fun hbal => ?_
  exact (hbal.weaken fun i hi => List.mem_cons_of_mem k.id hi).append hr

/-- The keys of another set are held there, and those of the set itself are there already. -/
theorem appendAll (h : s.Sound S R L) (hstep : s.appendAll slot source = some out) :
    out.2.Sound S R L := by
  obtain ⟨ks, hks, hstep⟩ := Option.bind_eq_some_iff.mp hstep
  obtain ⟨other, hother, ⟨⟩⟩ := Option.bind_eq_some_iff.mp hstep
  refine h.changeSet hks fun hbal => ?_
  rcases source_cases (S := S) hks hother with rfl | hheld
  · -- a set that is appended to itself stays as it is
    have hsame := Pool.Balanced.appendAll_self hbal.ascending_set fun _ hk => hk
    show (other.appendAll s.pool other.toList).1.Balanced
      ((other.appendAll s.pool other.toList).2.toList :: _) _ _ _ L
    rw [hsame]
    exact hbal
  · exact hbal.appendAll fun k hk => List.mem_append_left _ (hheld k hk)

theorem removeName {n : Name} (h : s.Sound S R L)
    (hstep : s.removeName slot n maybe = some out) : out.2.Sound S R L := by
  obtain ⟨ks, hks, ⟨⟩⟩ := Option.bind_eq_some_iff.mp hstep
  have hremove := h.changeSet hks fun hbal => hbal.removeMember n
  refine hremove.hand ?_ maybe
  intro k hk
  exact (h.takeSet hks).balanced.exists_of_removed hk

theorem remove (h : s.Sound S R L) (hstep : s.remove slot raw maybe = some out) :
    out.2.Sound S R L := by
  rw [Session.remove] at hstep
  rcases hn : Name.parse raw with e | n
  · rw [hn] at hstep
    cases hstep
    exact h
  · rw [hn] at hstep
    exact h.removeName hstep

theorem removeKey (h : s.Sound S R L) (hstep : s.removeKey slot key maybe = some out) :
    out.2.Sound S R L := by
  obtain ⟨k, -, hstep⟩ := Option.bind_eq_some_iff.mp hstep
  exact h.removeName hstep

/-- The keys of the other set move over with their places. -/
theorem replace (h : s.Sound S R L) (hstep : s.replace slot source = some out) :
    out.2.Sound S R L := by
  obtain ⟨other, hother, hstep⟩ := Option.bind_eq_some_iff.mp hstep
  obtain ⟨ks, hks, ⟨⟩⟩ := Option.bind_eq_some_iff.mp hstep
  have htake := (h.takeSet hother).takeSet hks
  exact returnSet (s := { s with pool := ks.drop s.pool, sets := s.sets.clear source })
    ⟨htake.balanced.dropSet, h.stored⟩

theorem clear (h : s.Sound S R L) (hstep : s.clear slot = some out) : out.2.Sound S R L := by
  obtain ⟨ks, hks, ⟨⟩⟩ := Option.bind_eq_some_iff.mp hstep
  exact h.changeSet hks fun hbal => hbal.dropSet.newSet

theorem dropSet (h : s.Sound S R L) (hstep : s.dropSet slot = some out) : out.2.Sound S R L := by
  obtain ⟨ks, hks, ⟨⟩⟩ := Option.bind_eq_some_iff.mp hstep
  exact ⟨(h.takeSet hks).balanced.dropSet, h.stored⟩

theorem rewind (h : s.Sound S R L) (hstep : s.rewind slot = some out) : out.2.Sound S R L := by
  obtain ⟨ks, hks, ⟨⟩⟩ := Option.bind_eq_some_iff.mp hstep
  exact h.changeSet hks fun hbal => hbal

/-- A walk along a set finds what is there. -/
theorem next (h : s.Sound S R L) (hstep : s.next slot maybe = some out) : out.2.Sound S R L := by
  obtain ⟨ks, hks, ⟨⟩⟩ := Option.bind_eq_some_iff.mp hstep
  have hmove : { s with sets := s.sets.put slot ks.next.2 }.Sound S R L :=
    h.changeSet hks fun hbal => hbal
  exact hmove.fetch (fun k hk => h.exists_of_member hks (mem_of_item? hk)) maybe

end Sound
end Session
end ConfigKeys
