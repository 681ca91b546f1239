import ConfigKeys.Proofs.Key.Report
import ConfigKeys.Proofs.Plugin.Stored

/-!
# Instances that may not write

Whether a memory store writes is decided when it opens, by the text of one entry of its set-up.  To
take a write back asks for neither, but there is something to take back only while the instance is
open and may write.  This hangs on the set-up, which no stage changes: all that a stage writes to
records that were there is the metadata of the key that it is given.

## Main definitions

* `MemoryStore.Guarded` — an instance writes as its set-up has it, and remembers a write only while
  it may write.

## Main results

* `Pool.Evolves.onGet` — to read writes nothing.
* `MemoryStore.run_annotates` — a stage keeps all names and values.
* `MemoryStore.Guarded.run` — a stage keeps the guard.
* `MemoryStore.Guarded.run_readonly` — what a stage does that may not write.
-/

namespace ConfigKeys

namespace Pool

variable {p q : Pool} {S R S' R' : List (List Key)} {P H L P' H' L' : List RecordId} {k : Key}
variable {names : Set Name} {id : RecordId} {raw text : String}

/-! ### Names and values that are kept -/

/-- **To read writes nothing.** -/
theorem Evolves.onGet {N W : Set RecordId} {store keys : KeySet} {parent : Key} {m : MemoryStore}
    (h : p.Evolves N W q) (hopen : m.isOpen = true) :
    p.Evolves N W (m.onGet q store keys parent).pool := by
  simp only [MemoryStore.onGet, hopen, if_true]
  exact List.foldlRecOn (motive := fun done : Pool × KeySet × Nat => p.Evolves N W done.1)
    (store.subtree q (q.name parent)).toList _ h
    fun done hdone k _ => (hdone.refresh done.2.1 done.2.2 k).1

/-- What writes nothing keeps all names and values. -/
theorem Evolves.annotates (h : p.Evolves ∅ ∅ q) (id : RecordId) :
    p.Annotates Set.univ id q where
  grows := h.grows
  kept i r' hi hr' := by
    obtain ⟨r, hr, hname, hsame, -⟩ := h.kept i r' hi hr'
    obtain ⟨hvalue, hentries⟩ := hsame (Set.notMem_empty i)
    exact ⟨r, hr, hname (Set.notMem_empty i), hvalue, fun _ => hentries⟩
  others f hf := by
    simp [hf _ (Set.mem_univ _)]

theorem annotates_setMeta (hk : k.id < p.nextId) (hset : p.setMeta k raw text = .ok q) :
    p.Annotates Set.univ k.id q where
  grows := ((Evolves.refl Set.univ Set.univ p).setMeta hk trivial hset).grows
  kept i r' hi hr' := by
    rw [setMeta] at hset
    rcases hn : metaName raw with cause | n
    · simp [hn] at hset
    · simp only [hn, Except.ok.injEq] at hset
      rw [← hset] at hr'
      rcases of_find?_setEntry hk (Nat.le_of_lt hi) hr' with
        ⟨heq, -⟩ | ⟨-, r, hr, hname, hvalue, hentries, -⟩
      · exact absurd heq (Nat.ne_of_lt hi)
      · exact ⟨r, hr, hname, hvalue, hentries⟩
  others f hf := by
    simp [hf _ (Set.mem_univ _)]

namespace Annotates

/-- Once more, on the same key. -/
theorem setMeta (h : p.Annotates Set.univ k.id q) (hk : k.id < p.nextId) {q' : Pool}
    (hset : q.setMeta k raw text = .ok q') : p.Annotates Set.univ k.id q' :=
  h.trans (annotates_setMeta (Nat.lt_of_lt_of_le hk h.grows) hset)

theorem writeReport (h : p.Annotates Set.univ k.id q) (hk : k.id < p.nextId) {place : String}
    {r : Report} {q' : Pool} (hwrite : r.write q k place = .ok q') :
    p.Annotates Set.univ k.id q' :=
  foldlM_keeps (fun _ _ _ hb hset => hb.setMeta hk hset) r.fields h hwrite

theorem attach (hk : k.id < p.nextId) (r : Report) :
    p.Annotates Set.univ k.id (r.attach p k) := by
  unfold Report.attach
  rcases hset : r.setError p k with e | q
  · exact .refl _ _ p
  · rw [Report.setError, bind_eq_ok] at hset
    obtain ⟨q₁, hnumber, hwrite⟩ := hset
    exact ((refl _ _ p).setMeta hk hnumber).writeReport hk hwrite

theorem warnReadonly (hk : k.id < p.nextId) (text : String) :
    p.Annotates Set.univ k.id (MemoryStore.warnReadonly p k text) := by
  unfold MemoryStore.warnReadonly
  generalize Report.validation _ _ = r
  generalize hadd : r.addWarning p k = done
  rcases done with e | ⟨index, q⟩
  · exact .refl _ _ p
  · obtain ⟨q₁, hwrite, hadd⟩ := bind_eq_ok.mp hadd
    obtain ⟨q₂, hlast, ⟨⟩⟩ := bind_eq_ok.mp hadd
    exact ((refl _ _ p).writeReport hk hwrite).setMeta hk hlast

end Annotates
end Pool

/-! ### The text of an entry -/

/-- A set-up of which the keys keep their names and values has the texts that it had. -/
theorem Config.get?_congr {p q : Pool} {c : Config} (hp : p.Ascending c.entries.toList)
    (hnames : ∀ x ∈ c.entries.toList, q.name x = p.name x)
    (hvalues : ∀ x ∈ c.entries.toList, q.value x = p.value x) (raw : String) :
    c.get? q raw = c.get? p raw := by
  rw [get?, get?]
  rcases metaName raw with e | n
  · rfl
  · show (c.entries.find? q n).map q.text = (c.entries.find? p n).map p.text
    rw [KeySet.find?_congr hp hnames]
    refine Option.map_congr fun x hx => ?_
    rw [Pool.text, Pool.text, hvalues x (KeySet.mem_of_find? hx)]

/-! ### The instance -/

namespace MemoryStore

variable {p : Pool} {store keys : KeySet} {k : Key} {m : MemoryStore} {stage : Stage}
variable {readonly : Bool}

/-- A closed instance refuses to read and to write. -/
theorem run_closed (hclosed : m.isOpen = false) (hstage : stage = .get ∨ stage = .set) :
    m.run stage p store keys k = m.fail p store keys k (.tooEarly pluginName stage) := by
  rcases hstage with rfl | rfl
  · simp only [run, onGet, hclosed, Bool.false_eq_true, if_false]
  · simp only [run, onSet, hclosed, Bool.false_eq_true, if_false]

/-- **A stage keeps all names and values** of the records that were there. -/
theorem run_annotates (hk : k.id < p.nextId) (stage : Stage) :
    p.Annotates Set.univ k.id (m.run stage p store keys k).pool := by
  have hrefl := Pool.Evolves.refl ∅ ∅ p
  have hfail : ∀ r, p.Annotates Set.univ k.id (m.fail p store keys k r).pool := fun r =>
    .attach hk r
  cases stage with
  | opening =>
    simp only [run, onOpen]
    split
    · exact .refl _ _ p
    · next text _ =>
      split
      · exact .refl _ _ p
      · show p.Annotates Set.univ k.id (if text = falseToken then p else _)
        split
        · exact .refl _ _ p
        · exact .warnReadonly hk text
  | get =>
    rcases hopen : m.isOpen with _ | _
    · rw [run_closed hopen (.inl rfl)]
      exact hfail _
    · exact (hrefl.onGet hopen).annotates k.id
  | set =>
    simp only [run, onSet]
    split
    · split
      · exact hfail _
      · refine Pool.Evolves.annotates ?_ k.id
        exact ((((hrefl.copySet _).1.appendAll _ _).takeSnapshot k _).dropSnapshot m).drop _
    · exact hfail _
  | error =>
    simp only [run, onError]
    split
    · exact .refl _ _ p
    · exact (((hrefl.appendAll _ _).drop _).dropOneSnapshot _).annotates k.id
  | close => exact (hrefl.dropSnapshot m).annotates k.id

/-- An instance that was opened writes unless it is set up `readonly`, and it remembers a write
only while it may write. -/
structure Guarded (readonly : Bool) (m : MemoryStore) : Prop where
  /-- An open instance is as it was set up. -/
  setUp : m.isOpen = true → m.readonly = readonly
  /-- What is remembered was written by an instance that is open and may write. -/
  snapshot : m.snapshot.isSome = true → m.isOpen = true ∧ m.readonly = false

/-- To open an instance sets it up. -/
theorem plugin_onOpen : (m.onOpen p store keys k).plugin
    = { m with readonly := m.config.getBool p "readonly", isOpen := true } := by
  rw [onOpen, Config.getBool]
  rcases m.config.get? p "readonly" with _ | text
  · rfl
  · by_cases htrue : text = trueToken
    · simp [htrue]
    · simp [htrue]

theorem config_run (stage : Stage) : (m.run stage p store keys k).plugin.config = m.config := by
  cases stage with
  | opening => rw [run, plugin_onOpen]
  | get =>
    simp only [run, onGet]
    split <;> rfl
  | set =>
    simp only [run, onSet]
    split
    · split <;> rfl
    · rfl
  | error =>
    simp only [run, onError]
    split <;> rfl
  | close => rfl

/-- **A stage keeps the guard.** -/
theorem Guarded.run (h : m.Guarded readonly) (hsetUp : m.config.getBool p "readonly" = readonly)
    (stage : Stage) : (m.run stage p store keys k).plugin.Guarded readonly := by
  cases stage with
  | opening =>
    rw [MemoryStore.run, plugin_onOpen, hsetUp]
    refine ⟨fun _ => rfl, fun hsome => ⟨rfl, ?_⟩⟩
    -- who remembers a write was open before, and set up like this
    obtain ⟨hopen, hwrite⟩ := h.snapshot hsome
    rw [← h.setUp hopen, hwrite]
  | get =>
    simp only [MemoryStore.run, onGet]
    split <;> exact h
  | set =>
    simp only [MemoryStore.run, onSet]
    split
    · next hopen =>
      split
      · exact h
      · next hreadonly => exact ⟨h.setUp, fun _ => ⟨hopen, by simpa using hreadonly⟩⟩
    · exact h
  | error =>
    simp only [MemoryStore.run, onError]
    split
    · exact h
    · exact ⟨h.setUp, fun hsome => absurd hsome Bool.false_ne_true⟩
  | close =>
    exact ⟨fun hopen => absurd hopen Bool.false_ne_true,
      fun hsome => absurd hsome Bool.false_ne_true⟩

/-- An instance that is set up readonly remembers nothing. -/
theorem Guarded.snapshot_eq_none (h : m.Guarded true) : m.snapshot = none := by
  by_contra hne
  obtain ⟨hopen, hwrite⟩ := h.snapshot (Option.isSome_iff_ne_none.mpr hne)
  rw [h.setUp hopen] at hwrite
  cases hwrite

/-- A write that fails was not made: the instance was closed, or it may not write. -/
theorem run_set_error (h : (m.run .set p store keys k).status = .error) :
    m.isOpen = true → m.readonly = true := by
  intro hopen
  by_contra hreadonly
  simp only [run, onSet, hopen, hreadonly, if_true, if_false] at h
  exact absurd h (by decide)

/-- An open instance that may not write refuses to. -/
theorem run_forbidden (hopen : m.isOpen = true) (hreadonly : m.readonly = true) :
    m.run .set p store keys k = m.fail p store keys k writeForbidden := by
  simp only [run, onSet, hopen, hreadonly, if_true]

/-- **No stage of an instance that is set up readonly writes**: it fails with a report, or it keeps
the kept keys and writes to no record. -/
theorem Guarded.run_readonly (h : m.Guarded true) (hsetUp : m.config.getBool p "readonly" = true)
    (stage : Stage) : let o := m.run stage p store keys k
    (∃ r, o = m.fail p store keys k r) ∨
      stage ≠ .set ∧ o.status ≠ .error ∧ o.store = store ∧ p.Evolves ∅ ∅ o.pool := by
  intro o
  have hrefl := Pool.Evolves.refl ∅ ∅ p
  have hsuccess : Status.success ≠ Status.error := by decide
  have hnoUpdate : Status.noUpdate ≠ Status.error := by decide
  cases stage with
  | opening =>
    have htext : m.config.get? p "readonly" = some trueToken := of_decide_eq_true hsetUp
    have hdone : o = ⟨.success, p, { m with readonly := true, isOpen := true }, store, keys⟩ := by
      simp only [o, MemoryStore.run, onOpen, htext, if_true]
    rw [hdone]
    exact .inr ⟨by decide, hsuccess, rfl, hrefl⟩
  | get =>
    rcases hopen : m.isOpen with _ | _
    · exact .inl ⟨_, run_closed hopen (.inl rfl)⟩
    · refine .inr ⟨by decide, ?_, ?_, hrefl.onGet hopen⟩
      · simp only [o, MemoryStore.run, onGet, hopen, if_true, Status.ofCount]
        split
        · exact hsuccess
        · exact hnoUpdate
      · simp only [o, MemoryStore.run, onGet, hopen, if_true]
  | set =>
    rcases hopen : m.isOpen with _ | _
    · exact .inl ⟨_, run_closed hopen (.inr rfl)⟩
    · exact .inl ⟨_, run_forbidden hopen (h.setUp hopen)⟩
  | error =>
    have hdone : o = ⟨.noUpdate, p, m, store, keys⟩ := by
      simp only [o, MemoryStore.run, onError, h.snapshot_eq_none]
    rw [hdone]
    exact .inr ⟨by decide, hnoUpdate, rfl, hrefl⟩
  | close => exact .inr ⟨by decide, hsuccess, rfl, hrefl.dropSnapshot m⟩

end MemoryStore
end ConfigKeys
