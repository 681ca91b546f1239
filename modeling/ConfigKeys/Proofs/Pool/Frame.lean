import Mathlib.Data.Set.Insert
import ConfigKeys.Pool.Tree
import ConfigKeys.Proofs.Pool.Records

/-!
# What an operation leaves alone

An operation writes to few records, and gives another name to still fewer.  All others keep what
they say, whatever happens to the counts.  The metadata of a record that is written gains new
records only, so a record always comes before the entries of its metadata.

The relation names the pool in which an operation started, so that the frame of a longer operation
is put together step by step: every lemma takes a pool that has evolved so far one step further.

## Main definitions

* `Pool.Evolves N W p q` — the pool `p` became `q`, and among its records only those in `N` got
  other names and only those in `W` were written.
* `Pool.Forward` — entries of metadata have larger numbers than the record that holds them.
* `Pool.Unentered` — a record is in no metadata.

## Main results

* `Pool.Evolves.reclaim`, `Pool.Evolves.detach`, `Pool.Evolves.release` — to give up a hold writes
  nothing.
* `Pool.Evolves.copy` — neither does a copy.
* `Pool.Evolves.forward` — entries stay behind the records that hold them.
-/

namespace ConfigKeys
namespace Pool

/-- The metadata of every record came after it. -/
def Forward (p : Pool) : Prop :=
  ∀ id r, p.find? id = some r → ∀ e ∈ r.entries, id < e.id ∧ e.id < p.nextId

/-- A record is in no metadata. -/
def Unentered (p : Pool) (id : RecordId) : Prop := ∀ i, ∀ e ∈ (p.record i).entries, e.id ≠ id

theorem mem_entries_iff {p : Pool} {id : RecordId} {e : Key} :
    e ∈ (p.record id).entries ↔ ∃ r, p.find? id = some r ∧ e ∈ r.entries := by
  rcases hr : p.find? id with _ | r
  · simp only [record_of_find?_none hr, reduceCtorEq, false_and, exists_false, iff_false]
    exact List.not_mem_nil
  · simp [record_of_find? hr]

theorem Forward.entry {p : Pool} {id : RecordId} (h : p.Forward) {e : Key}
    (he : e ∈ (p.record id).entries) : id < e.id ∧ e.id < p.nextId := by
  obtain ⟨r, hr, he⟩ := mem_entries_iff.mp he
  exact h id r hr e he

/-- To lock a record changes nothing that records say. -/
theorem record_lock (p : Pool) (id i : RecordId) :
    ((p.lock id).record i).name = (p.record i).name ∧
      ((p.lock id).record i).value = (p.record i).value ∧
      ((p.lock id).record i).entries = (p.record i).entries := by
  rw [record, record, find?_lock]
  split
  · rcases p.find? i with _ | r <;> exact ⟨rfl, rfl, rfl⟩
  · exact ⟨rfl, rfl, rfl⟩

theorem Unentered.lock {p : Pool} {id : RecordId} (h : p.Unentered id) (i : RecordId) :
    (p.lock i).Unentered id := by
  intro j e he
  rw [(record_lock p i j).2.2] at he
  exact h j e he

/-- The pool `p` became `q`, and among the records of `p` only those in `N` got other names and
only the values and metadata of those in `W` were written. -/
structure Evolves (N W : Set RecordId) (p q : Pool) : Prop where
  /-- Numbers are used up. -/
  grows : p.nextId ≤ q.nextId
  /-- A record that is there says what it said, as far as it was not written; its metadata has
  gained new records only. -/
  kept : ∀ id r', id < p.nextId → q.find? id = some r' → ∃ r, p.find? id = some r ∧
    (id ∉ N → r'.name = r.name) ∧ (id ∉ W → r'.value = r.value ∧ r'.entries = r.entries) ∧
    ∀ e ∈ r'.entries, e ∈ r.entries ∨ p.nextId ≤ e.id ∧ e.id < q.nextId
  /-- The metadata of a new record came after it. -/
  new : ∀ id r', p.nextId ≤ id → q.find? id = some r' →
    ∀ e ∈ r'.entries, id < e.id ∧ e.id < q.nextId
  /-- A new record has entered the metadata of one record at most. -/
  placed : p.Forward → ∀ i j, ∀ e ∈ (q.record i).entries, ∀ e' ∈ (q.record j).entries,
    e.id = e'.id → p.nextId ≤ e.id → i = j

namespace Evolves

variable {N W : Set RecordId} {p q q' : Pool} {id : RecordId}

theorem refl (N W : Set RecordId) (p : Pool) : p.Evolves N W p where
  grows := Nat.le_refl _
  kept _ r' _ hr' := ⟨r', hr', fun _ => rfl, fun _ => ⟨rfl, rfl⟩, fun _ he => .inl he⟩
  new _ _ hid hr' := absurd (find?_lt hr') (Nat.not_lt.mpr hid)
  placed hp _ _ _ he _ _ _ hnew := absurd (hp.entry he).2 (Nat.not_lt.mpr hnew)

theorem forward (h : p.Evolves N W q) (hp : p.Forward) : q.Forward := by
  intro id r' hr' e he
  rcases Nat.lt_or_ge id p.nextId with hid | hid
  · obtain ⟨r, hr, -, -, hentries⟩ := h.kept id r' hid hr'
    rcases hentries e he with hold | ⟨hnew, hlt⟩
    · obtain ⟨hafter, hlt⟩ := hp id r hr e hold
      exact ⟨hafter, Nat.lt_of_lt_of_le hlt h.grows⟩
    · exact ⟨Nat.lt_of_lt_of_le hid hnew, hlt⟩
  · exact h.new id r' hid hr' e he

/-- What is in metadata and is not new was there before. -/
theorem entry_old (h : p.Evolves N W q) {i : RecordId} {e : Key}
    (he : e ∈ (q.record i).entries) (hold : e.id < p.nextId) : e ∈ (p.record i).entries := by
  obtain ⟨r', hr', he⟩ := mem_entries_iff.mp he
  rcases Nat.lt_or_ge i p.nextId with hi | hi
  · obtain ⟨r, hr, -, -, hentries⟩ := h.kept i r' hi hr'
    rcases hentries e he with hmem | ⟨hnew, -⟩
    · exact mem_entries_iff.mpr ⟨r, hr, hmem⟩
    · exact absurd hold (Nat.not_lt.mpr hnew)
  · exact absurd (Nat.lt_trans (h.new i r' hi hr' e he).1 hold) (Nat.not_lt.mpr hi)

/-- What is in the metadata of a record that was there, and that is not written, was in it. -/
theorem entry_kept (h : p.Evolves N W q) {i : RecordId} {e : Key} (hi : i < p.nextId) (hW : i ∉ W)
    (he : e ∈ (q.record i).entries) : e ∈ (p.record i).entries := by
  obtain ⟨r', hr', he⟩ := mem_entries_iff.mp he
  obtain ⟨r, hr, -, hsame, -⟩ := h.kept i r' hi hr'
  exact mem_entries_iff.mpr ⟨r, hr, (hsame hW).2 ▸ he⟩

/-- What is in the metadata of a new record came after it. -/
theorem entry_new (h : p.Evolves N W q) {i : RecordId} {e : Key} (hi : p.nextId ≤ i)
    (he : e ∈ (q.record i).entries) : i < e.id := by
  obtain ⟨r', hr', he⟩ := mem_entries_iff.mp he
  exact (h.new i r' hi hr' e he).1

/-- The first record that an operation makes which writes no metadata is in none. -/
theorem unentered_new (h : p.Evolves N ∅ q) (hp : p.Forward) : q.Unentered p.nextId := by
  intro i e he heq
  rcases Nat.lt_or_ge i p.nextId with hi | hi
  · exact Nat.ne_of_lt (hp.entry (h.entry_kept hi (Set.notMem_empty i) he)).2 heq
  · exact absurd (heq ▸ h.entry_new hi he) (Nat.not_lt.mpr hi)

/-- One change after another. -/
theorem trans (h : p.Evolves N W q) (h' : q.Evolves N W q') : p.Evolves N W q' where
  grows := Nat.le_trans h.grows h'.grows
  kept id r'' hid hr'' := by
    obtain ⟨r', hr', hname', hsame', hentries'⟩ :=
      h'.kept id r'' (Nat.lt_of_lt_of_le hid h.grows) hr''
    obtain ⟨r, hr, hname, hsame, hentries⟩ := h.kept id r' hid hr'
    refine ⟨r, hr, fun hN => (hname' hN).trans (hname hN), ?_, ?_⟩
    · intro hW
      obtain ⟨hvalue, heq⟩ := hsame hW
      obtain ⟨hvalue', heq'⟩ := hsame' hW
      exact ⟨hvalue'.trans hvalue, heq'.trans heq⟩
    · intro e he
      rcases hentries' e he with hold | ⟨hnew, hlt⟩
      · exact (hentries e hold).imp_right fun hnew => ⟨hnew.1, Nat.lt_of_lt_of_le hnew.2 h'.grows⟩
      · exact .inr ⟨Nat.le_trans h.grows hnew, hlt⟩
  new id r'' hid hr'' e he := by
    rcases Nat.lt_or_ge id q.nextId with hlt | hge
    · obtain ⟨r', hr', -, -, hentries'⟩ := h'.kept id r'' hlt hr''
      rcases hentries' e he with hold | ⟨hnew, hlt'⟩
      · obtain ⟨hafter, hbound⟩ := h.new id r' hid hr' e hold
        exact ⟨hafter, Nat.lt_of_lt_of_le hbound h'.grows⟩
      · exact ⟨Nat.lt_of_lt_of_le hlt hnew, hlt'⟩
    · exact h'.new id r'' hge hr'' e he
  placed hp i j e he e' he' heq hnew := by
    rcases Nat.lt_or_ge e.id q.nextId with hlt | hge
    · exact h.placed hp i j e (h'.entry_old he hlt) e' (h'.entry_old he' (heq ▸ hlt)) heq hnew
    · exact h'.placed (h.forward hp) i j e he e' he' heq hge

/-- More records that may change. -/
theorem mono {N' W' : Set RecordId} (h : p.Evolves N W q) (hN : N ⊆ N') (hW : W ⊆ W') :
    p.Evolves N' W' q where
  grows := h.grows
  kept id r' hid hr' := by
    obtain ⟨r, hr, hname, hsame, hentries⟩ := h.kept id r' hid hr'
    exact ⟨r, hr, fun hout => hname fun hmem => hout (hN hmem),
      fun hout => hsame fun hmem => hout (hW hmem), hentries⟩
  new := h.new
  placed := h.placed

/-- A record that was there and still is has its name, unless it got another one. -/
theorem name_eq (h : p.Evolves N W q) {k : Key} (hk : k.id < p.nextId) (hN : k.id ∉ N)
    (hthere : ∃ r, q.find? k.id = some r) : q.name k = p.name k := by
  obtain ⟨r', hr'⟩ := hthere
  obtain ⟨r, hr, hname, -⟩ := h.kept k.id r' hk hr'
  rw [name, name, record_of_find? hr, record_of_find? hr', hname hN]

/-- A record that was there and still is has its value, unless it was written. -/
theorem value_eq (h : p.Evolves N W q) {k : Key} (hk : k.id < p.nextId) (hW : k.id ∉ W)
    (hthere : ∃ r, q.find? k.id = some r) : q.value k = p.value k := by
  obtain ⟨r', hr'⟩ := hthere
  obtain ⟨r, hr, -, hsame, -⟩ := h.kept k.id r' hk hr'
  rw [value, value, record_of_find? hr, record_of_find? hr', (hsame hW).1]

/-! ### One step further -/

/-- Where metadata gained nothing, nothing was placed. -/
theorem placed_of_sublist (h : p.Evolves N W q)
    (hentries : ∀ i, ∀ e ∈ (q'.record i).entries, e ∈ (q.record i).entries) (hp : p.Forward)
    (i j : RecordId) (e : Key) (he : e ∈ (q'.record i).entries) (e' : Key)
    (he' : e' ∈ (q'.record j).entries) (heq : e.id = e'.id) (hnew : p.nextId ≤ e.id) : i = j :=
  h.placed hp i j e (hentries i e he) e' (hentries j e' he') heq hnew

/-- A step that changes no more than counts, or drops records. -/
theorem shrink (h : p.Evolves N W q) (hnext : q'.nextId = q.nextId)
    (hfind : ∀ id r', q'.find? id = some r' → ∃ r, q.find? id = some r ∧
      r'.name = r.name ∧ r'.value = r.value ∧ r'.entries = r.entries) : p.Evolves N W q' where
  grows := by rw [hnext]; exact h.grows
  kept id r' hid hr' := by
    obtain ⟨r, hr, hname, hvalue, hentries⟩ := hfind id r' hr'
    rw [hname, hvalue, hentries, hnext]
    exact h.kept id r hid hr
  new id r' hid hr' := by
    obtain ⟨r, hr, -, -, hentries⟩ := hfind id r' hr'
    rw [hentries, hnext]
    exact h.new id r hid hr
  placed := by
    refine h.placed_of_sublist fun i e he => ?_
    obtain ⟨r', hr', he⟩ := mem_entries_iff.mp he
    obtain ⟨r, hr, -, -, hentries⟩ := hfind i r' hr'
    exact mem_entries_iff.mpr ⟨r, hr, hentries ▸ he⟩

/-- A change of one record that keeps all that it says. -/
theorem recount {f : Record → Record} (h : p.Evolves N W q)
    (hf : ∀ r, (f r).name = r.name ∧ (f r).value = r.value ∧ (f r).entries = r.entries) :
    p.Evolves N W (q.modify id f) := by
  refine h.shrink (nextId_modify q id f) ?_
  intro i r' hr'
  rw [find?_modify] at hr'
  split at hr'
  · obtain ⟨r, hr, rfl⟩ := Option.map_eq_some_iff.mp hr'
    exact ⟨r, hr, hf r⟩
  · exact ⟨r', hr', rfl, rfl, rfl⟩

/-- A write to a record, of which what comes into the metadata is new, comes after it and is in no
metadata. -/
theorem write {f : Record → Record} (h : p.Evolves N W q) (hid : id < p.nextId → id ∈ W)
    (hname : ∀ r, (f r).name = r.name)
    (hentries : ∀ r, q.find? id = some r → ∀ e ∈ (f r).entries,
      e ∈ r.entries ∨
        (p.nextId ≤ e.id ∧ id < e.id ∧ e.id < q.nextId) ∧ (p.Forward → q.Unentered e.id)) :
    p.Evolves N W (q.modify id f) where
  grows := by rw [nextId_modify]; exact h.grows
  kept i r' hi hr' := by
    rw [nextId_modify]
    rw [find?_modify] at hr'
    split at hr'
    · next heq =>
      subst heq
      obtain ⟨r₁, hr₁, rfl⟩ := Option.map_eq_some_iff.mp hr'
      obtain ⟨r, hr, hname₁, -, hentries₁⟩ := h.kept i r₁ hi hr₁
      refine ⟨r, hr, fun hN => (hname r₁).trans (hname₁ hN), fun hW => absurd (hid hi) hW, ?_⟩
      intro e he
      rcases hentries r₁ hr₁ e he with hold | ⟨⟨hnew, -, hlt⟩, -⟩
      · exact hentries₁ e hold
      · exact .inr ⟨hnew, hlt⟩
    · exact h.kept i r' hi hr'
  new i r' hi hr' := by
    rw [nextId_modify]
    rw [find?_modify] at hr'
    split at hr'
    · next heq =>
      subst heq
      obtain ⟨r₁, hr₁, rfl⟩ := Option.map_eq_some_iff.mp hr'
      intro e he
      rcases hentries r₁ hr₁ e he with hold | ⟨⟨-, hafter⟩, -⟩
      · exact h.new i r₁ hi hr₁ e hold
      · exact hafter
    · exact h.new i r' hi hr'
  placed hp i j e he e' he' heq hnew := by
    -- what came in is in no other metadata, where everything is as it was
    have hbefore : ∀ i, ∀ e ∈ ((q.modify id f).record i).entries,
        e ∈ (q.record i).entries ∨ i = id ∧ q.Unentered e.id := by
      intro i e he
      by_cases hi : i = id
      · subst hi
        obtain ⟨r', hr', he⟩ := mem_entries_iff.mp he
        rw [find?_modify, if_pos rfl] at hr'
        obtain ⟨r, hr, rfl⟩ := Option.map_eq_some_iff.mp hr'
        refine (hentries r hr e he).imp (fun hold => mem_entries_iff.mpr ⟨r, hr, hold⟩) ?_
        exact fun hin => ⟨rfl, hin.2 hp⟩
      · rw [record_modify_of_ne _ hi] at he
        exact .inl he
    rcases hbefore i e he with hold | ⟨rfl, hfree⟩
    · rcases hbefore j e' he' with hold' | ⟨rfl, hfree'⟩
      · exact h.placed hp i j e hold e' hold' heq hnew
      · exact absurd heq (hfree' i e hold)
    · rcases hbefore j e' he' with hold' | ⟨rfl, -⟩
      · exact absurd heq.symm (hfree j e' hold')
      · rfl

/-- A write that leaves the metadata alone. -/
theorem setValue {f : Record → Record} (h : p.Evolves N W q) (hid : id < p.nextId → id ∈ W)
    (hf : ∀ r, (f r).name = r.name ∧ (f r).entries = r.entries) :
    p.Evolves N W (q.modify id f) := by
  refine h.write hid (fun r => (hf r).1) ?_
  intro r _ e he
  rw [(hf r).2] at he
  exact .inl he

/-- Another name. -/
theorem rename {f : Record → Record} (h : p.Evolves N W q) (hid : id < p.nextId → id ∈ N)
    (hf : ∀ r, (f r).value = r.value ∧ (f r).entries = r.entries) :
    p.Evolves N W (q.modify id f) where
  grows := by rw [nextId_modify]; exact h.grows
  kept i r' hi hr' := by
    rw [nextId_modify]
    rw [find?_modify] at hr'
    split at hr'
    · next heq =>
      subst heq
      obtain ⟨r₁, hr₁, rfl⟩ := Option.map_eq_some_iff.mp hr'
      rw [(hf r₁).1, (hf r₁).2]
      obtain ⟨r, hr, -, hrest⟩ := h.kept i r₁ hi hr₁
      exact ⟨r, hr, fun hN => absurd (hid hi) hN, hrest⟩
    · exact h.kept i r' hi hr'
  new i r' hi hr' := by
    rw [nextId_modify]
    rw [find?_modify] at hr'
    split at hr'
    · next heq =>
      subst heq
      obtain ⟨r₁, hr₁, rfl⟩ := Option.map_eq_some_iff.mp hr'
      rw [(hf r₁).2]
      exact h.new i r₁ hi hr₁
    · exact h.new i r' hi hr'
  placed := by
    refine h.placed_of_sublist fun i e he => ?_
    obtain ⟨r', hr', he⟩ := mem_entries_iff.mp he
    rw [find?_modify] at hr'
    split at hr'
    · obtain ⟨r, hr, rfl⟩ := Option.map_eq_some_iff.mp hr'
      rw [(hf r).2] at he
      exact mem_entries_iff.mpr ⟨r, hr, he⟩
    · exact mem_entries_iff.mpr ⟨r', hr', he⟩

/-- A new record without metadata. -/
theorem alloc {r : Record} (h : p.Evolves N W q) (hr : r.entries = []) :
    p.Evolves N W (q.alloc r) where
  grows := by rw [nextId_alloc]; exact Nat.le_succ_of_le h.grows
  kept i r' hi hr' := by
    have hne : i ≠ q.nextId := Nat.ne_of_lt (Nat.lt_of_lt_of_le hi h.grows)
    rw [find?_alloc, if_neg hne] at hr'
    obtain ⟨r₀, hr₀, hname, hsame, hentries⟩ := h.kept i r' hi hr'
    refine ⟨r₀, hr₀, hname, hsame, fun e he => (hentries e he).imp_right fun hnew => ?_⟩
    rw [nextId_alloc]
    exact ⟨hnew.1, Nat.lt_succ_of_lt hnew.2⟩
  new i r' hi hr' e he := by
    rw [find?_alloc] at hr'
    split at hr'
    · cases hr'
      rw [hr] at he
      cases he
    · obtain ⟨hafter, hlt⟩ := h.new i r' hi hr' e he
      rw [nextId_alloc]
      exact ⟨hafter, Nat.lt_succ_of_lt hlt⟩
  placed := by
    refine h.placed_of_sublist fun i e he => ?_
    obtain ⟨r', hr', he⟩ := mem_entries_iff.mp he
    rw [find?_alloc] at hr'
    split at hr'
    · cases hr'
      rw [hr] at he
      cases he
    · exact mem_entries_iff.mpr ⟨r', hr', he⟩

theorem erase (h : p.Evolves N W q) (id : RecordId) : p.Evolves N W (q.erase id) := by
  refine h.shrink (by simp [nextId, Pool.erase]) ?_
  intro i r' hr'
  rw [find?_erase] at hr'
  split at hr'
  · cases hr'
  · exact ⟨r', hr', rfl, rfl, rfl⟩

/-! ### Counts -/

theorem lock (h : p.Evolves N W q) (id : RecordId) : p.Evolves N W (q.lock id) :=
  h.recount fun _ => ⟨rfl, rfl, rfl⟩

theorem unlock (h : p.Evolves N W q) (id : RecordId) : p.Evolves N W (q.unlock id) := by
  have hdown : p.Evolves N W (q.modify id fun r => { r with locks := r.locks - 1 }) :=
    h.recount fun _ => ⟨rfl, rfl, rfl⟩
  -- the note of an overdraft is no part of a record
  exact hdown.shrink rfl fun i r' hr' => ⟨r', hr', rfl, rfl, rfl⟩

theorem retain (h : p.Evolves N W q) (id : RecordId) : p.Evolves N W (q.retain id) :=
  h.recount fun _ => ⟨rfl, rfl, rfl⟩

theorem forget (h : p.Evolves N W q) (id : RecordId) : p.Evolves N W (q.forget id) :=
  h.recount fun _ => ⟨rfl, rfl, rfl⟩

theorem reclaimUpTo (fuel : Nat) (h : p.Evolves N W q) (id : RecordId) :
    p.Evolves N W (Pool.reclaimUpTo fuel id q) := by
  induction fuel generalizing id q with
  | zero => exact h
  | succ fuel ih =>
    rw [Pool.reclaimUpTo]
    rcases q.find? id with _ | r
    · exact h
    · show p.Evolves N W (if r.isFree then _ else q)
      split
      · -- the record goes, and its entries are given up one after the other
        refine List.foldlRecOn (motive := fun q : Pool => p.Evolves N W q) r.entries _
          (h.erase id) ?_
        intro q' hq' entry _
        exact ih (hq'.unlock entry.id) entry.id
      · exact h

theorem reclaim (h : p.Evolves N W q) (id : RecordId) : p.Evolves N W (q.reclaim id) :=
  h.reclaimUpTo q.nextId id

theorem release (h : p.Evolves N W q) (id : RecordId) : p.Evolves N W (q.release id) :=
  (h.forget id).reclaim id

theorem detach (h : p.Evolves N W q) (id : RecordId) : p.Evolves N W (q.detach id) :=
  (h.unlock id).reclaim id

theorem lockAll (h : p.Evolves N W q) (keys : List Key) : p.Evolves N W (q.lockAll keys) :=
  List.foldlRecOn (motive := fun q : Pool => p.Evolves N W q) keys _ h
    fun _ hq k _ => hq.lock k.id

theorem detachAll (h : p.Evolves N W q) (keys : List Key) : p.Evolves N W (q.detachAll keys) :=
  List.foldlRecOn (motive := fun q : Pool => p.Evolves N W q) keys _ h
    fun _ hq k _ => hq.detach k.id

/-! ### Copies -/

/-- A new record goes into the metadata of a record that came before it. -/
theorem addEntry {owner : RecordId} (h : p.Evolves N W q) (howner : owner < p.nextId → owner ∈ W)
    (hnew : p.nextId ≤ id) (hafter : owner < id) (hlt : id < q.nextId)
    (hfree : p.Forward → q.Unentered id) : p.Evolves N W (q.addEntry owner id) := by
  refine (h.lock id).write howner (fun _ => rfl) ?_
  intro r _ e he
  rcases List.mem_append.mp he with he | he
  · exact .inl he
  · rw [List.mem_singleton.mp he, nextId_lock]
    exact .inr ⟨⟨hnew, hafter, hlt⟩, fun hp => (hfree hp).lock id⟩

mutual

theorem plant {N W : Set RecordId} {p q : Pool} (h : p.Evolves N W q) :
    (t : KeyTree) → p.Evolves N W (q.plant t) ∧ q.nextId < (q.plant t).nextId
  | .node name value entries => by
    have hnew := h.alloc (r := { name, value }) rfl
    have hthere : q.nextId < (q.alloc { name, value }).nextId := by
      rw [nextId_alloc]
      exact Nat.lt_succ_self _
    obtain ⟨hev, hle⟩ := plantEntries hnew (fun hlt => absurd hlt (Nat.not_lt.mpr h.grows)) hthere
      entries
    rw [nextId_alloc] at hle
    rw [Pool.plant]
    exact ⟨hev, hle⟩

theorem plantEntries {N W : Set RecordId} {p q : Pool} {owner : RecordId}
    (h : p.Evolves N W q) (howner : owner < p.nextId → owner ∈ W) (hthere : owner < q.nextId) :
    (ts : List KeyTree) →
      p.Evolves N W (q.plantEntries owner ts) ∧ q.nextId ≤ (q.plantEntries owner ts).nextId
  | [] => by
    rw [Pool.plantEntries]
    exact ⟨h, Nat.le_refl _⟩
  | t :: ts => by
    obtain ⟨hplant, hlt⟩ := plant h t
    have hfree : p.Forward → (q.plant t).Unentered q.nextId := fun hp =>
      (plant (refl ∅ ∅ q) t).1.unentered_new (h.forward hp)
    have hadd := hplant.addEntry howner h.grows hthere hlt hfree
    have hnext : ((q.plant t).addEntry owner q.nextId).nextId = (q.plant t).nextId := by
      rw [Pool.addEntry, nextId_modify, nextId_lock]
    obtain ⟨hev, hle⟩ := plantEntries hadd howner (by rw [hnext]; exact Nat.lt_trans hthere hlt) ts
    rw [hnext] at hle
    rw [Pool.plantEntries]
    exact ⟨hev, Nat.le_trans (Nat.le_of_lt hlt) hle⟩

end

/-- **A copy writes nothing.** -/
theorem copy (h : p.Evolves N W q) (id : RecordId) : p.Evolves N W (q.copy id) :=
  (h.plant (q.tree id)).1

theorem nextId_lt_plant (p : Pool) (t : KeyTree) : p.nextId < (p.plant t).nextId :=
  ((refl ∅ ∅ p).plant t).2

end Evolves
end Pool
end ConfigKeys
