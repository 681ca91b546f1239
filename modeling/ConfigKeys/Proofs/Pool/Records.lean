import Mathlib.Data.List.Nodup
import Mathlib.Data.List.Perm.Basic
import ConfigKeys.Pool.Registry

/-!
# Records and numbers

What the basic changes of a pool do to the record of a number, and to the records that are there.

## Main definitions

* `Pool.live` — the records that are there.
* `Pool.entryIds` — the numbers in the metadata of those records, one for each place.

## Main results

* `Pool.record_modify_self`, `Pool.record_erase_self`, `Pool.record_alloc_self` — the record of a
  number.
* `Pool.live_perm_erase`, `Pool.live_modify_perm` — the records that are there, up to order.
-/

namespace ConfigKeys
namespace Pool

/-- The records that are there. -/
def live (p : Pool) : List Record := p.records.toList.filterMap id

/-- The numbers in the metadata of the records that are there, one for each place. -/
def entryIds (p : Pool) : List RecordId := p.live.flatMap fun r => r.entries.map Key.id

/-! ### The record of a number -/

theorem find?_lt {p : Pool} {id : RecordId} {r : Record} (h : p.find? id = some r) :
    id < p.nextId := by
  by_contra hge
  rw [find?, Array.getElem?_eq_none (by simpa [nextId] using hge)] at h
  simp at h

theorem find?_nextId (p : Pool) : p.find? p.nextId = none := by
  rcases h : p.find? p.nextId with _ | r
  · rfl
  · exact absurd (find?_lt h) (Nat.lt_irrefl _)

theorem record_of_find? {p : Pool} {id : RecordId} {r : Record} (h : p.find? id = some r) :
    p.record id = r := by
  rw [record, h, Option.getD_some]

theorem record_of_find?_none {p : Pool} {id : RecordId} (h : p.find? id = none) :
    p.record id = default := by
  rw [record, h, Option.getD_none]

@[simp] theorem find?_modify (p : Pool) (id : RecordId) (f : Record → Record) (i : RecordId) :
    (p.modify id f).find? i = if i = id then (p.find? i).map f else p.find? i := by
  simp only [find?, modify, Array.getElem?_modify]
  by_cases h : i = id
  · subst h
    rcases p.records[i]? with _ | _ | r <;> simp
  · simp [h, Ne.symm h]

@[simp] theorem find?_erase (p : Pool) (id i : RecordId) :
    (p.erase id).find? i = if i = id then none else p.find? i := by
  simp only [find?, erase, Array.getElem?_modify]
  by_cases h : i = id
  · subst h
    rcases p.records[i]? with _ | r <;> simp
  · simp [h, Ne.symm h]

@[simp] theorem find?_alloc (p : Pool) (r : Record) (i : RecordId) :
    (p.alloc r).find? i = if i = p.nextId then some r else p.find? i := by
  by_cases h : i = p.nextId
  · simp [find?, alloc, h, nextId]
  · have hi : i ≠ p.records.size := h
    simp [find?, alloc, h, hi, Array.getElem?_push]

@[simp] theorem find?_lock (p : Pool) (id i : RecordId) :
    (p.lock id).find? i =
      if i = id then (p.find? i).map fun r => { r with locks := r.locks + 1 } else p.find? i :=
  find?_modify p id _ i

@[simp] theorem find?_unlock (p : Pool) (id i : RecordId) :
    (p.unlock id).find? i =
      if i = id then (p.find? i).map fun r => { r with locks := r.locks - 1 } else p.find? i :=
  find?_modify p id _ i

@[simp] theorem nextId_modify (p : Pool) (id : RecordId) (f : Record → Record) :
    (p.modify id f).nextId = p.nextId := by
  simp [nextId, modify]

@[simp] theorem nextId_alloc (p : Pool) (r : Record) : (p.alloc r).nextId = p.nextId + 1 := by
  simp [nextId, alloc]

@[simp] theorem nextId_lock (p : Pool) (id : RecordId) : (p.lock id).nextId = p.nextId :=
  nextId_modify p id _

theorem record_modify_of_ne {p : Pool} {id i : RecordId} (f : Record → Record) (h : i ≠ id) :
    (p.modify id f).record i = p.record i := by
  simp [record, h]

theorem record_modify_self {p : Pool} {id : RecordId} {r : Record} (f : Record → Record)
    (h : p.find? id = some r) : (p.modify id f).record id = f r := by
  simp [record, h]

theorem record_erase_of_ne {p : Pool} {id i : RecordId} (h : i ≠ id) :
    (p.erase id).record i = p.record i := by
  simp [record, h]

theorem record_erase_self (p : Pool) (id : RecordId) : (p.erase id).record id = default := by
  simp [record]

theorem record_alloc_of_ne {p : Pool} {i : RecordId} (r : Record) (h : i ≠ p.nextId) :
    (p.alloc r).record i = p.record i := by
  simp [record, h]

theorem record_alloc_self (p : Pool) (r : Record) : (p.alloc r).record p.nextId = r := by
  simp [record]

/-- A change that leaves the name alone leaves all names alone. -/
theorem name_modify_of_keeps {p : Pool} {id : RecordId} {f : Record → Record}
    (hf : ∀ r, (f r).name = r.name) (k : Key) : (p.modify id f).name k = p.name k := by
  by_cases h : k.id = id
  · rcases hr : p.find? k.id with _ | r
    · simp [name, record, h, h ▸ hr]
    · rw [name, name, ← h, record_modify_self f hr, record_of_find? hr, hf r]
  · rw [name, name, record_modify_of_ne f h]

@[simp] theorem name_lock (p : Pool) (id : RecordId) (k : Key) : (p.lock id).name k = p.name k := by
  have hname : ∀ r : Record, { r with locks := r.locks + 1 }.name = r.name := fun _ => rfl
  rw [lock]
  exact name_modify_of_keeps hname k

@[simp] theorem name_lockAll (p : Pool) (keys : List Key) (k : Key) :
    (p.lockAll keys).name k = p.name k := by
  induction keys generalizing p with
  | nil => rfl
  | cons k' keys ih =>
    have hrest := ih (p.lock k'.id)
    rw [name_lock] at hrest
    exact hrest

/-- A counted place that is given up is only counted down. -/
theorem unlock_of_locked {p : Pool} {id : RecordId} (h : 0 < (p.record id).locks) :
    p.unlock id = p.modify id fun r => { r with locks := r.locks - 1 } := by
  rw [unlock, if_neg (by omega)]
  rfl

/-! ### The records that are there -/

theorem mem_live {p : Pool} {r : Record} : r ∈ p.live ↔ ∃ id, p.find? id = some r := by
  simp only [live, List.mem_filterMap, id_eq, exists_eq_right, find?]
  constructor
  · intro h
    obtain ⟨i, hi⟩ := List.mem_iff_getElem?.mp h
    exact ⟨i, by rw [← Array.getElem?_toList, hi, Option.join_some]⟩
  · rintro ⟨i, hi⟩
    rw [Option.join_eq_some_iff, ← Array.getElem?_toList] at hi
    exact List.mem_of_getElem? hi

theorem mem_live_modify {p : Pool} {id : RecordId} {f : Record → Record} {r' : Record}
    (h : r' ∈ (p.modify id f).live) :
    r' ∈ p.live ∨ ∃ r, p.find? id = some r ∧ r' = f r := by
  obtain ⟨i, hi⟩ := mem_live.mp h
  rw [find?_modify] at hi
  split at hi
  · next heq =>
    obtain ⟨r, hr, rfl⟩ := Option.map_eq_some_iff.mp hi
    exact .inr ⟨r, heq ▸ hr, rfl⟩
  · exact .inl (mem_live.mpr ⟨i, hi⟩)

/-- Putting another option in the place of one: what else is there stays. -/
theorem filterMap_modify_perm {α : Type} {l : List (Option α)} {i : Nat} {x : Option α}
    (h : l[i]? = some x) (f : Option α → Option α) :
    ((l.modify i f).filterMap id).Perm ((f x).toList ++ (l.eraseIdx i).filterMap id) := by
  obtain ⟨hi, rfl⟩ := List.getElem?_eq_some_iff.mp h
  have hset : (l.modify i f).Perm (f l[i] :: l.eraseIdx i) := by
    rw [List.modify_eq_set_getElem? , List.getElem?_eq_getElem hi]
    exact List.set_perm_cons_eraseIdx hi _
  refine (hset.filterMap id).trans ?_
  cases f l[i] <;> simp

theorem getElem?_of_find? {p : Pool} {id : RecordId} {r : Record} (h : p.find? id = some r) :
    p.records.toList[id]? = some (some r) := by
  rw [find?, Option.join_eq_some_iff] at h
  rw [Array.getElem?_toList, h]

/-- Changing a record leaves the others there. -/
theorem live_modify_perm {p : Pool} {id : RecordId} {r : Record} (h : p.find? id = some r)
    (f : Record → Record) : (p.modify id f).live.Perm (f r :: (p.erase id).live) := by
  have hr := getElem?_of_find? h
  -- to change the record and to erase it are two ways to put another option in its place
  have h₁ := filterMap_modify_perm hr (·.map f)
  have h₂ := filterMap_modify_perm hr fun _ => none
  simp only [live, modify, erase, Array.toList_modify]
  exact h₁.trans (h₂.symm.cons (f r))

/-- Erasing a record leaves the others there. -/
theorem live_perm_erase {p : Pool} {id : RecordId} {r : Record} (h : p.find? id = some r) :
    p.live.Perm (r :: (p.erase id).live) := by
  have hr := getElem?_of_find? h
  have h₁ := filterMap_modify_perm hr fun x => x
  have h₂ := filterMap_modify_perm hr fun _ => none
  have hkeep : p.records.toList.modify id (fun x => x) = p.records.toList := List.modify_id _ _
  rw [hkeep] at h₁
  simp only [live, erase, Array.toList_modify]
  exact h₁.trans (h₂.symm.cons r)

@[simp] theorem live_alloc (p : Pool) (r : Record) : (p.alloc r).live = p.live ++ [r] := by
  simp [live, alloc]

/-- A record that is not there cannot be changed. -/
theorem modify_of_find?_none {p : Pool} {id : RecordId} (f : Record → Record)
    (h : p.find? id = none) : p.modify id f = p := by
  have hrec : p.records.modify id (·.map f) = p.records := by
    apply Array.ext_getElem?
    intro i
    rw [Array.getElem?_modify]
    split
    · next hi =>
      subst hi
      rcases hx : p.records[id]? with _ | _ | r
      · rfl
      · rfl
      · simp [find?, hx] at h
    · rfl
  rw [modify, hrec]

theorem entryIds_perm_erase {p : Pool} {id : RecordId} {r : Record} (h : p.find? id = some r) :
    p.entryIds.Perm (r.entries.map Key.id ++ (p.erase id).entryIds) :=
  (live_perm_erase h).flatMap_right _

theorem entryIds_modify_perm {p : Pool} {id : RecordId} {r : Record} (h : p.find? id = some r)
    (f : Record → Record) :
    (p.modify id f).entryIds.Perm ((f r).entries.map Key.id ++ (p.erase id).entryIds) :=
  (live_modify_perm h f).flatMap_right _

@[simp] theorem entryIds_alloc (p : Pool) (r : Record) :
    (p.alloc r).entryIds = p.entryIds ++ r.entries.map Key.id := by
  simp [entryIds]

/-- A change that leaves the metadata alone leaves its places alone. -/
theorem entryIds_modify_of_keeps {p : Pool} {id : RecordId} {f : Record → Record}
    (hf : ∀ r, (f r).entries = r.entries) : (p.modify id f).entryIds.Perm p.entryIds := by
  rcases h : p.find? id with _ | r
  · rw [modify_of_find?_none f h]
  · refine (entryIds_modify_perm h f).trans ?_
    rw [hf r]
    exact (entryIds_perm_erase h).symm

end Pool
end ConfigKeys
