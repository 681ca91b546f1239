import ConfigKeys.Proofs.KeySet.Search
import ConfigKeys.Proofs.Pool.Copy

/-!
# Key sets as keys come and go

What each operation on a key set does to its keys, and that it keeps the set in order and the counts
in balance, beside any other containers.

## Main results

* `KeySet.append_cases`, `KeySet.remove_cases`, `KeySet.cut_toList` — the keys after an operation.
* `KeySet.below_eq_ofList` — a shared subtree is collected key by key.
* `Pool.Balanced.append`, `Pool.Balanced.appendAll`, `Pool.Balanced.removeMember`,
  `Pool.Balanced.cut`, `Pool.Balanced.below`, `Pool.Balanced.share`, `Pool.Balanced.copySet` — the
  operations balance.
-/

namespace ConfigKeys
namespace KeySet

variable {p : Pool} {s : KeySet} {n : Name} {k : Key}

/-! ### The keys after an operation -/

theorem insertIdx_append (l₁ l₂ : List Key) (k : Key) :
    (l₁ ++ l₂).insertIdx l₁.length k = l₁ ++ k :: l₂ := by
  induction l₁ with
  | nil => rfl
  | cons x l₁ ih => rw [List.length_cons, List.cons_append, List.insertIdx_succ_cons, ih]; rfl

theorem toList_insert {l₁ l₂ : List Key} (hs : s.toList = l₁ ++ l₂) (k : Key) :
    (s.keys.insertIdxIfInBounds l₁.length k).toList = l₁ ++ k :: l₂ := by
  have hkeys : s.keys.toList = l₁ ++ l₂ := hs
  have hsize : l₁.length ≤ s.keys.size := by
    rw [← Array.length_toList, hkeys, List.length_append]
    omega
  rw [Array.insertIdxIfInBounds, dif_pos hsize, Array.toList_insertIdx, hkeys, insertIdx_append]

theorem toList_set {l₁ l₂ : List Key} {old : Key} (hs : s.toList = l₁ ++ old :: l₂) (k : Key) :
    (s.keys.setIfInBounds l₁.length k).toList = l₁ ++ k :: l₂ := by
  have hkeys : s.keys.toList = l₁ ++ old :: l₂ := hs
  rw [Array.toList_setIfInBounds, hkeys, List.set_append_right _ _ (Nat.le_refl _), Nat.sub_self,
    List.set_cons_zero]

theorem toList_erase {l₁ l₂ : List Key} {old : Key} (hs : s.toList = l₁ ++ old :: l₂) :
    (s.keys.eraseIdxIfInBounds l₁.length).toList = l₁ ++ l₂ := by
  have hkeys : s.keys.toList = l₁ ++ old :: l₂ := hs
  rw [Array.toList_eraseIdxIfInBounds, hkeys, List.eraseIdx_append_of_length_le (Nat.le_refl _),
    Nat.sub_self, List.eraseIdx_cons_zero]

/-- What appending a key does: nothing, where its record stands already; or it takes the place of
the key of its name; or it comes in between the names around it. -/
theorem append_cases (h : p.Ascending s.toList) (k : Key) :
    (∃ l₁ old l₂, s.toList = l₁ ++ old :: l₂ ∧ p.name old = p.name k ∧ old.id = k.id ∧
      append p s k = (p, s)) ∨
    (∃ l₁ old l₂ s', s.toList = l₁ ++ old :: l₂ ∧ p.name old = p.name k ∧ old.id ≠ k.id ∧
      append p s k = ((p.lock k.id).detach old.id, s') ∧ s'.toList = l₁ ++ k :: l₂ ∧
      s'.cursor = s.cursor) ∨
    ∃ l₁ l₂ s', s.toList = l₁ ++ l₂ ∧ (∀ x ∈ l₁, (p.name x).compare (p.name k) = .lt) ∧
      (∀ x ∈ l₂, (p.name k).compare (p.name x) = .lt) ∧ append p s k = (p.lock k.id, s') ∧
      s'.toList = l₁ ++ k :: l₂ ∧ s'.cursor = cursorAfterInsert s.cursor l₁.length := by
  rcases find?_cases h (p.name k) with
    ⟨l₁, old, l₂, hs, hlen, hname, hfind⟩ | ⟨l₁, l₂, hs, hlen, hbefore, hafter, hfind⟩
  · by_cases hid : old.id = k.id
    · refine .inl ⟨l₁, old, l₂, hs, hname, hid, ?_⟩
      simp [append, hfind, hid]
    · refine .inr (.inl ⟨l₁, old, l₂, { s with keys := s.keys.setIfInBounds l₁.length k }, hs,
        hname, hid, ?_, toList_set hs k, rfl⟩)
      simp [append, hfind, hid, hlen]
  · refine .inr (.inr ⟨l₁, l₂, ⟨s.keys.insertIdxIfInBounds l₁.length k,
      cursorAfterInsert s.cursor l₁.length⟩, hs, hbefore, hafter, ?_, toList_insert hs k, rfl⟩)
    simp [append, hfind, hlen]

theorem appendAll_cons (p : Pool) (s : KeySet) (k : Key) (keys : List Key) :
    s.appendAll p (k :: keys) = (s.append p k).2.appendAll (s.append p k).1 keys := rfl

theorem subtree_toList (p : Pool) (s : KeySet) (n : Name) :
    (s.subtree p n).toList = (s.toList.drop (s.span p n).1).take (s.span p n).2 := by
  rw [subtree, Array.toList_extract, List.extract_eq_take_drop, Nat.add_sub_cancel_left]
  rfl

/-- A key whose name comes behind all others is appended at the end. -/
theorem append_last (h : p.Ascending s.toList)
    (hlast : ∀ x ∈ s.toList, (p.name x).compare (p.name k) = .lt) :
    ∃ s', s.append p k = (p.lock k.id, s') ∧ s'.toList = s.toList ++ [k] ∧
      s'.cursor = cursorAfterInsert s.cursor s.toList.length := by
  rcases append_cases h k with
    ⟨l₁, old, l₂, hs, hname, -⟩ | ⟨l₁, old, l₂, s', hs, hname, -⟩ |
      ⟨l₁, l₂, s', hs, -, hafter, heq, hs', hcursor⟩
  · exact absurd hname (Name.ne_of_compare_lt (hlast old (by simp [hs])))
  · exact absurd hname (Name.ne_of_compare_lt (hlast old (by simp [hs])))
  · rcases l₂ with _ | ⟨x, l₂⟩
    · rw [List.append_nil] at hs
      exact ⟨s', heq, by rw [hs', hs], by rw [hcursor, hs]⟩
    · -- no name comes before the key and behind it
      have hself := Name.compare_lt_trans (hlast x (by simp [hs])) (hafter x List.mem_cons_self)
      rw [Name.compare_self] at hself
      cases hself

/-- **Keys that are in order already are collected as they stand**, and each of them is counted. -/
theorem appendAll_of_ascending {keys : List Key} (h : p.Ascending (s.toList ++ keys))
    (hcursor : s.cursor = {}) :
    s.appendAll p keys = (p.lockAll keys, { keys := s.keys ++ keys.toArray }) := by
  induction keys generalizing p s with
  | nil =>
    obtain ⟨keys, cursor⟩ := s
    obtain rfl : cursor = {} := hcursor
    simp [appendAll, Pool.lockAll]
  | cons k keys ih =>
    have hlast : ∀ x ∈ s.toList, (p.name x).compare (p.name k) = .lt := by
      intro x hx
      rw [Pool.Ascending, List.map_append, List.pairwise_append] at h
      exact h.2.2 _ (List.mem_map_of_mem hx) _ (List.mem_map_of_mem List.mem_cons_self)
    obtain ⟨s', happend, hs', hcursor'⟩ :=
      append_last (h.sublist (List.sublist_append_left _ _)) hlast
    have hrest : (p.lock k.id).Ascending (s'.toList ++ keys) := by
      rw [hs', List.append_assoc]
      exact h.congr fun x _ => Pool.name_lock p k.id x
    have hkeys : s'.keys = s.keys.push k := by
      rw [← Array.toList_inj, Array.toList_push]
      exact hs'
    rw [hcursor] at hcursor'
    rw [appendAll_cons, happend, ih hrest hcursor', hkeys]
    simp [Pool.lockAll]

/-- **A shared subtree is the set that is collected of its keys.** -/
theorem below_eq_ofList (h : p.Ascending s.toList) (n : Name) :
    s.below p n = ofList p (s.subtree p n).toList := by
  have hsub : ((s.subtree p n).toList).Sublist s.toList := by
    rw [subtree_toList]
    exact (List.take_sublist _ _).trans (List.drop_sublist _ _)
  rw [ofList, appendAll_of_ascending (s := {}) (h.sublist hsub) rfl]
  simp [below]

/-- What removing a name does: nothing, where it is missing; or its key goes out and is handed
over. -/
theorem remove_cases (h : p.Ascending s.toList) (n : Name) :
    ((∀ k ∈ s.toList, p.name k ≠ n) ∧ remove p s n = (none, p, s)) ∨
    ∃ l₁ k l₂ s', s.toList = l₁ ++ k :: l₂ ∧ p.name k = n ∧
      remove p s n = (some k, p.unlock k.id, s') ∧ s'.toList = l₁ ++ l₂ ∧
      s'.cursor = cursorAfterRemoval s.cursor l₁.length 1 := by
  rcases find?_cases h n with
    ⟨l₁, k, l₂, hs, hlen, hname, hfind⟩ | ⟨l₁, l₂, hs, -, hbefore, hafter, hfind⟩
  · refine .inr ⟨l₁, k, l₂, ⟨s.keys.eraseIdxIfInBounds l₁.length,
      cursorAfterRemoval s.cursor l₁.length 1⟩, hs, hname, ?_, toList_erase hs, rfl⟩
    simp [remove, hfind, hlen]
  · refine .inl ⟨?_, by simp [remove, hfind]⟩
    intro k hk
    rw [hs, List.mem_append] at hk
    rcases hk with hk | hk
    · exact Name.ne_of_compare_lt (hbefore k hk)
    · exact (Name.ne_of_compare_lt (hafter k hk)).symm

/-- Cutting takes a run of keys out of a set. -/
theorem cut_toList (p : Pool) (s : KeySet) (n : Name) :
    (s.cut p n).1.toList = (s.toList.drop (s.span p n).1).take (s.span p n).2 ∧
      (s.cut p n).2.toList
        = s.toList.take (s.span p n).1 ++ s.toList.drop ((s.span p n).1 + (s.span p n).2) := by
  constructor
  · exact subtree_toList p s n
  · simp [cut, toList, List.extract_eq_take_drop, List.take_of_length_le]

theorem cut_perm (p : Pool) (s : KeySet) (n : Name) :
    ((s.cut p n).1.toList ++ (s.cut p n).2.toList).Perm s.toList := by
  obtain ⟨htaken, hrest⟩ := cut_toList p s n
  rw [htaken, hrest, ← List.drop_drop]
  have hsplit := List.take_append_drop (s.span p n).1 s.toList
  have hsplit' := List.take_append_drop (s.span p n).2 (s.toList.drop (s.span p n).1)
  conv => rhs; rw [← hsplit, ← hsplit']
  rw [← List.append_assoc, ← List.append_assoc]
  exact List.perm_append_comm.append_right _

end KeySet

namespace Pool

variable {p : Pool} {s : KeySet} {n : Name} {k : Key}

theorem Ascending.insert {l₁ l₂ : List Key} (h : p.Ascending (l₁ ++ l₂))
    (hbefore : ∀ x ∈ l₁, (p.name x).compare (p.name k) = .lt)
    (hafter : ∀ x ∈ l₂, (p.name k).compare (p.name x) = .lt) : p.Ascending (l₁ ++ k :: l₂) := by
  rw [Ascending, List.map_append] at h
  obtain ⟨h₁, h₂, h₁₂⟩ := List.pairwise_append.mp h
  rw [Ascending, List.map_append, List.map_cons]
  refine List.pairwise_append.mpr ⟨h₁, List.pairwise_cons.mpr ⟨?_, h₂⟩, ?_⟩
  · intro b hb
    obtain ⟨x, hx, rfl⟩ := List.mem_map.mp hb
    exact hafter x hx
  · intro a ha b hb
    rcases List.mem_cons.mp hb with rfl | hb
    · obtain ⟨x, hx, rfl⟩ := List.mem_map.mp ha
      exact hbefore x hx
    · exact h₁₂ a ha b hb

theorem Ascending.replace {l₁ l₂ : List Key} {old : Key} (h : p.Ascending (l₁ ++ old :: l₂))
    (hname : p.name old = p.name k) : p.Ascending (l₁ ++ k :: l₂) := by
  rw [Ascending, List.map_append, List.map_cons, hname] at h
  rw [Ascending, List.map_append, List.map_cons]
  exact h

namespace Balanced

variable {S R : List (List Key)} {P H L : List RecordId}

theorem ascending_set (h : p.Balanced (s.toList :: S) R P H L) : p.Ascending s.toList :=
  h.ascending _ List.mem_cons_self

/-- **Appending a key balances**, be it that only the set is going to hold its record. -/
theorem append {r : Record} (h : p.Balanced (s.toList :: S) R P H (k.id :: L))
    (hr : p.find? k.id = some r) :
    (s.append p k).1.Balanced ((s.append p k).2.toList :: S) R P H L := by
  have hlock := h.lock_new hr
  have hasc := hlock.ascending_set
  rcases KeySet.append_cases h.ascending_set k with
    ⟨l₁, old, l₂, hs, -, hid, heq⟩ | ⟨l₁, old, l₂, s', hs, hname, -, heq, hs', -⟩ |
      ⟨l₁, l₂, s', hs, hbefore, hafter, heq, hs', -⟩
  · -- the record stands in the set already
    rw [heq]
    refine h.unlist ?_
    have hlocked : 0 < (p.record old.id).locks :=
      h.locked_of_mem_set List.mem_cons_self (by rw [hs]; simp)
    intro r' hr'
    rw [hid, record_of_find? hr'] at hlocked
    simp only [Record.isFree, Bool.and_eq_false_iff, decide_eq_false_iff_not]
    omega
  · -- the key takes over the place, and the one that stood there is let go
    rw [hs] at hlock hasc
    rw [heq, hs']
    refine detach (hlock.changeSet (hasc.replace ?_) ?_)
    · simpa using hname
    · rw [List.perm_iff_count]
      intro i
      simp only [List.map_append, List.map_cons, List.count_append, List.count_cons]
      omega
  · -- the key comes in between
    rw [hs] at hlock hasc
    rw [heq, hs']
    refine hlock.changeSet (hasc.insert ?_ ?_) ?_
    · simpa using hbefore
    · simpa using hafter
    · rw [List.perm_iff_count]
      intro i
      simp only [List.map_append, List.map_cons, List.count_append, List.count_cons]
      omega

/-- Appending keys that are held elsewhere balances. -/
theorem appendAll {keys : List Key} (h : p.Balanced (s.toList :: S) R P H L)
    (hheld : ∀ k ∈ keys, k.id ∈ placeIds S R P ++ H) :
    (s.appendAll p keys).1.Balanced ((s.appendAll p keys).2.toList :: S) R P H L := by
  induction keys generalizing p s with
  | nil => exact h
  | cons k keys ih =>
    -- the keys are held without the set, so they are held whatever the set lets go of
    obtain ⟨r, hr⟩ := h.exists_of_held_cons (hheld k List.mem_cons_self)
    have happ := (h.weaken fun _ hi => List.mem_cons_of_mem k.id hi).append hr
    exact ih happ fun k' hk' => hheld k' (List.mem_cons_of_mem k hk')

/-- Appending keys of the set to itself changes nothing. -/
theorem appendAll_self {keys : List Key} (hasc : p.Ascending s.toList)
    (hmem : ∀ k ∈ keys, k ∈ s.toList) : s.appendAll p keys = (p, s) := by
  induction keys with
  | nil => rfl
  | cons k keys ih =>
    have hfind : s.find? p (p.name k) = some k :=
      (KeySet.find?_eq_some_iff hasc).mpr ⟨hmem k List.mem_cons_self, rfl⟩
    have happ : s.append p k = (p, s) := by
      simp [KeySet.append, hfind]
    rw [KeySet.appendAll_cons, happ]
    exact ih fun k' hk' => hmem k' (List.mem_cons_of_mem k hk')

/-- **Removing a name balances**; the key that is handed over need not be held any more. -/
theorem removeMember (h : p.Balanced (s.toList :: S) R P H L) (n : Name) :
    (s.remove p n).2.1.Balanced ((s.remove p n).2.2.toList :: S) R P H
      ((s.remove p n).1.toList.map Key.id ++ L) := by
  rcases KeySet.remove_cases h.ascending_set n with ⟨-, heq⟩ | ⟨l₁, k, l₂, s', hs, -, heq, hs', -⟩
  · rw [heq]
    exact h
  · have hasc := h.ascending_set
    rw [hs] at h hasc
    rw [heq, hs']
    refine unlock (h.changeSet (hasc.sublist ?_) ?_)
    · exact (List.sublist_cons_self k l₂).append_left l₁
    · rw [List.perm_iff_count]
      intro i
      simp only [List.map_append, List.map_cons, List.count_append, List.count_cons]
      omega

theorem exists_of_removed {k : Key} (h : p.Balanced (s.toList :: S) R P H L) {n : Name}
    (hk : (s.remove p n).1 = some k) : ∃ r, (s.remove p n).2.1.find? k.id = some r := by
  rcases KeySet.remove_cases h.ascending_set n with ⟨-, heq⟩ | ⟨l₁, k', l₂, s', hs, -, heq, -, -⟩
  · simp [heq] at hk
  · obtain rfl : k' = k := by simpa [heq] using hk
    obtain ⟨r, hr⟩ := h.exists_of_mem_set (k := k') List.mem_cons_self (by rw [hs]; simp)
    rw [heq]
    exact ⟨{ r with locks := r.locks - 1 }, by simp [hr]⟩

/-- **Cutting balances**: both parts are in order, and the places move with the keys. -/
theorem cut (h : p.Balanced (s.toList :: S) R P H L) (n : Name) :
    p.Balanced ((s.cut p n).1.toList :: (s.cut p n).2.toList :: S) R P H L := by
  obtain ⟨htaken, hrest⟩ := KeySet.cut_toList p s n
  have hperm := (KeySet.cut_perm p s n).map Key.id
  have hasc := h.ascending_set
  -- what is taken out is in order, and so is what is left around it
  have hsub : ((s.cut p n).1.toList).Sublist s.toList := by
    rw [htaken]
    exact (List.take_sublist _ _).trans (List.drop_sublist _ _)
  have hsub' : ((s.cut p n).2.toList).Sublist s.toList := by
    rw [hrest]
    conv => rhs; rw [← List.take_append_drop (s.span p n).1 s.toList]
    rw [← List.drop_drop]
    exact (List.drop_sublist _ _).append_left _
  refine putSet (h.changeSet (hasc.sublist hsub') ?_) (hasc.sublist hsub)
  rw [List.map_append] at hperm
  rw [← List.append_assoc]
  exact (List.perm_append_comm.trans hperm).append_right P

/-- **A set of the keys at or below a name balances**: it counts places of its own. -/
theorem below (h : p.Balanced S R P H L) (hs : s.toList ∈ S) (n : Name) :
    (s.below p n).1.Balanced ((s.below p n).2.toList :: S) R P H L := by
  have hsub : ((s.subtree p n).toList).Sublist s.toList := by
    rw [KeySet.subtree_toList]
    exact (List.take_sublist _ _).trans (List.drop_sublist _ _)
  refine putSet (h.lockAll ?_) ?_
  · intro k hk
    exact List.mem_append_left H (mem_placeIds_of_set hs (hsub.mem hk))
  · have hasc := (h.ascending _ hs).sublist hsub
    exact hasc.congr fun k _ => name_lockAll p _ k

/-- **Another set of the same keys balances.** -/
theorem share (h : p.Balanced S R P H L) (hs : s.toList ∈ S) :
    (s.share p).1.Balanced ((s.share p).2.toList :: S) R P H L := by
  refine putSet (h.lockAll ?_) ?_
  · intro k hk
    exact List.mem_append_left H (mem_placeIds_of_set hs hk)
  · exact (h.ascending _ hs).congr fun k _ => name_lockAll p _ k

/-- A new set is empty. -/
theorem newSet (h : p.Balanced S R P H L) : p.Balanced ([] :: S) R P H L :=
  putSet h List.Pairwise.nil

/-- **A set of copies balances.** -/
theorem copySet (h : p.Balanced S R P H L) (s : KeySet) :
    (s.copy p).1.Balanced ((s.copy p).2.toList :: S) R P H L := by
  refine List.foldlRecOn (motive := fun done : Pool × KeySet =>
    done.1.Balanced (done.2.toList :: S) R P H L) s.toList _ h.newSet ?_
  intro done hdone k _
  -- the copy is held by nobody until it is in the set
  obtain ⟨hnew, ⟨r, hr, -⟩, -, -⟩ := hdone.copy k.id
  exact hnew.append (k := ⟨done.1.nextId, {}⟩) hr

end Balanced
end Pool
end ConfigKeys
