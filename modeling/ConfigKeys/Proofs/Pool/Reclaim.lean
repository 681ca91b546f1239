import Mathlib.Tactic.Tauto
import ConfigKeys.Proofs.Pool.Balance

/-!
# Records that nobody holds

A record that nobody holds is dropped, and with it what then nobody holds.  The fuel of the
recursion suffices because every level of it drops a record.

## Main results

* `Pool.Balanced.reclaim` — afterwards the record is held, or it is gone with all that hung on it.
* `Pool.Balanced.release`, `Pool.Balanced.detach`, `Pool.Balanced.detachAll` — handles and places
  are given up.
* `Pool.Balanced.takeSet`, `Pool.Balanced.putSet`, `Pool.Balanced.takeRegistry`,
  `Pool.Balanced.putRegistry` — a container is taken apart, or put together.
* `Pool.Balanced.lockAll` — places in a further container.
-/

namespace ConfigKeys
namespace Pool

theorem length_live_le (p : Pool) : p.live.length ≤ p.nextId := by
  simpa [live, nextId] using List.length_filterMap_le id p.records.toList

theorem length_live_erase {p : Pool} {id : RecordId} {r : Record} (h : p.find? id = some r) :
    (p.erase id).live.length + 1 = p.live.length := by
  rw [(live_perm_erase h).length_eq, List.length_cons]

theorem length_live_modify (p : Pool) (id : RecordId) (f : Record → Record) :
    (p.modify id f).live.length = p.live.length := by
  rcases h : p.find? id with _ | r
  · rw [modify_of_find?_none f h]
  · rw [(live_modify_perm h f).length_eq, (live_perm_erase h).length_eq]
    rfl

theorem length_live_unlock (p : Pool) (id : RecordId) :
    (p.unlock id).live.length = p.live.length :=
  length_live_modify p id fun r => { r with locks := r.locks - 1 }

namespace Balanced

variable {p : Pool} {S S' R R' : List (List Key)} {P H L : List RecordId}
variable {id : RecordId} {keys : List Key}

/-- Giving places up one after the other, if giving one up drops no more than it should. -/
theorem foldl_unlock {drop : RecordId → Pool → Pool} {n : Nat}
    (hdrop : ∀ (id : RecordId) (p : Pool) (P : List RecordId), p.live.length ≤ n →
      p.Balanced S R P H (id :: L) →
        (drop id p).Balanced S R P H L ∧ (drop id p).live.length ≤ p.live.length)
    (keys : List Key) (p : Pool) (P : List RecordId) (hn : p.live.length ≤ n)
    (h : p.Balanced S R (keys.map Key.id ++ P) H L) :
    (keys.foldl (fun p k => drop k.id (p.unlock k.id)) p).Balanced S R P H L ∧
      (keys.foldl (fun p k => drop k.id (p.unlock k.id)) p).live.length ≤ p.live.length := by
  induction keys generalizing p with
  | nil => exact ⟨h, Nat.le_refl _⟩
  | cons k keys ih =>
    have hlen := length_live_unlock p k.id
    obtain ⟨hbal, hle⟩ := hdrop k.id (p.unlock k.id) _ (by omega) (h.unlock)
    obtain ⟨hbal', hle'⟩ := ih _ (by omega) hbal
    exact ⟨hbal', by simp only [List.foldl_cons]; omega⟩

theorem reclaimUpTo (fuel : Nat) : ∀ (id : RecordId) (p : Pool) (P : List RecordId),
    p.live.length ≤ fuel → p.Balanced S R P H (id :: L) →
      (reclaimUpTo fuel id p).Balanced S R P H L ∧
        (Pool.reclaimUpTo fuel id p).live.length ≤ p.live.length := by
  induction fuel with
  | zero =>
    intro id p P hfuel h
    refine ⟨h.of_held ?_, Nat.le_refl _⟩
    intro i r hr _
    -- without fuel there is no record left
    have hmem : r ∈ p.live := mem_live.mpr ⟨i, hr⟩
    rw [List.eq_nil_of_length_eq_zero (Nat.le_zero.mp hfuel)] at hmem
    exact absurd hmem List.not_mem_nil
  | succ fuel ih =>
    intro id p P hfuel h
    rw [Pool.reclaimUpTo]
    rcases hr : p.find? id with _ | r
    · refine ⟨h.unlist ?_, Nat.le_refl _⟩
      simp [hr]
    · by_cases hfree : r.isFree = true
      · -- the record goes, and each of its entries in turn
        have hlen := length_live_erase hr
        obtain ⟨hbal, hle⟩ := foldl_unlock ih r.entries (p.erase id) P (by omega)
          (h.erase hr hfree)
        simp only [if_pos hfree]
        exact ⟨hbal, by omega⟩
      · simp only [if_neg hfree]
        refine ⟨h.unlist ?_, Nat.le_refl _⟩
        simpa [hr] using hfree

/-- **A record that was there on sufferance is dropped, or held after all**; what hung on it and
nobody else holds is dropped with it. -/
theorem reclaim (h : p.Balanced S R P H (id :: L)) : (p.reclaim id).Balanced S R P H L :=
  (reclaimUpTo p.nextId id p P (length_live_le p) h).1

theorem release (h : p.Balanced S R P (id :: H) L) : (p.release id).Balanced S R P H L :=
  h.forget.reclaim

theorem detach (h : p.Balanced S R (id :: P) H L) : (p.detach id).Balanced S R P H L :=
  h.unlock.reclaim

theorem detachAll (h : p.Balanced S R (keys.map Key.id ++ P) H L) :
    (p.detachAll keys).Balanced S R P H L := by
  induction keys generalizing p with
  | nil => exact h
  | cons k keys ih => exact ih h.detach

/-! ### Containers are taken apart and put together -/

theorem placeIds_cons_set (keys : List Key) (S R : List (List Key)) (P : List RecordId) :
    (placeIds (keys :: S) R P).Perm (placeIds S R (keys.map Key.id ++ P)) := by
  rw [List.perm_iff_count]
  intro i
  simp only [placeIds, List.flatten_cons, List.map_append, List.count_append]
  omega

theorem placeIds_cons_registry (keys : List Key) (S R : List (List Key)) (P : List RecordId) :
    (placeIds S (keys :: R) P).Perm (placeIds S R (keys.map Key.id ++ P)) := by
  rw [List.perm_iff_count]
  intro i
  simp only [placeIds, List.flatten_cons, List.map_append, List.count_append]
  omega

theorem takeSet (h : p.Balanced (keys :: S) R P H L) :
    p.Balanced S R (keys.map Key.id ++ P) H L :=
  h.regroup (placeIds_cons_set keys S R P).symm
    (fun ks hks => h.ascending ks (List.mem_cons_of_mem _ hks)) h.distinct

theorem putSet (h : p.Balanced S R (keys.map Key.id ++ P) H L) (hasc : p.Ascending keys) :
    p.Balanced (keys :: S) R P H L := by
  refine h.regroup (placeIds_cons_set keys S R P) ?_ h.distinct
  intro ks hks
  rcases List.mem_cons.mp hks with rfl | hks
  · exact hasc
  · exact h.ascending ks hks

theorem takeRegistry (h : p.Balanced S (keys :: R) P H L) :
    p.Balanced S R (keys.map Key.id ++ P) H L :=
  h.regroup (placeIds_cons_registry keys S R P).symm h.ascending
    (fun ks hks => h.distinct ks (List.mem_cons_of_mem _ hks))

theorem putRegistry (h : p.Balanced S R (keys.map Key.id ++ P) H L) (hdist : p.Distinct keys) :
    p.Balanced S (keys :: R) P H L := by
  refine h.regroup (placeIds_cons_registry keys S R P) h.ascending ?_
  intro ks hks
  rcases List.mem_cons.mp hks with rfl | hks
  · exact hdist
  · exact h.distinct ks hks

theorem perm_places {P' : List RecordId} (h : p.Balanced S R P H L) (hP : P'.Perm P) :
    p.Balanced S R P' H L :=
  h.regroup (hP.append_left _) h.ascending h.distinct

/-- A key set takes keys from those on their way, and gives others up to them. -/
theorem changeSet {keys' : List Key} {P' : List RecordId} (h : p.Balanced (keys :: S) R P H L)
    (hasc : p.Ascending keys')
    (hids : (keys'.map Key.id ++ P').Perm (keys.map Key.id ++ P)) :
    p.Balanced (keys' :: S) R P' H L :=
  (h.takeSet.perm_places hids).putSet hasc

/-- A registry takes keys from those on their way, and gives others up to them. -/
theorem changeRegistry {keys' : List Key} {P' : List RecordId} (h : p.Balanced S (keys :: R) P H L)
    (hdist : p.Distinct keys')
    (hids : (keys'.map Key.id ++ P').Perm (keys.map Key.id ++ P)) :
    p.Balanced S (keys' :: R) P' H L :=
  (h.takeRegistry.perm_places hids).putRegistry hdist

theorem dropSet (h : p.Balanced (keys :: S) R P H L) : (p.detachAll keys).Balanced S R P H L :=
  h.takeSet.detachAll

theorem dropRegistry (h : p.Balanced S (keys :: R) P H L) :
    (p.detachAll keys).Balanced S R P H L :=
  h.takeRegistry.detachAll

/-- Containers may share what is held outside. -/
theorem lockAll (h : p.Balanced S R P H L)
    (hheld : ∀ k ∈ keys, k.id ∈ placeIds S R P ++ H) :
    (p.lockAll keys).Balanced S R (keys.map Key.id ++ P) H L := by
  induction keys generalizing p P with
  | nil => exact h
  | cons k keys ih =>
    obtain ⟨r, hr, -⟩ := h.exists_of_held (hheld k List.mem_cons_self)
    have hrest := ih (h.lock hr) ?_
    · exact hrest.perm_places List.perm_middle.symm
    · intro k' hk'
      have hmem := hheld k' (List.mem_cons_of_mem k hk')
      simp only [placeIds, List.mem_append, List.mem_cons] at hmem ⊢
      tauto

end Balanced
end Pool
end ConfigKeys
