import ConfigKeys.Plugin.Basic
import ConfigKeys.Proofs.Key.Frame
import ConfigKeys.Proofs.KeySet.Frame

/-!
# What stages of plugins leave alone

A stage of the memory store writes to the key that it is given, where it leaves a report, and to no
other record: what it puts among the caller's keys are copies.  The charset filter writes to the
caller's keys and to entries of their metadata, too.  So a stage never writes to what its caller
cannot reach.

## Main results

* `Pool.Evolves.runMemoryStore`, `Pool.Evolves.runCharsetFilter`, `Pool.Evolves.runPlugin` — what a
  stage writes to, and what it puts among the caller's keys.
* `Plugin.run_get`, `Plugin.run_store` — what a stage leaves of an instance and of the kept keys.
-/

namespace ConfigKeys

/-- To read a kept key is to copy it among the caller's keys, or to find there what it says. -/
theorem MemoryStore.refresh_cases (p : Pool) (keys : KeySet) (count : Nat) (k : Key) :
    MemoryStore.refresh p keys count k = (p, keys, count) ∨
      MemoryStore.refresh p keys count k
        = ((keys.append (p.copy k.id) ⟨p.nextId, {}⟩).1,
          (keys.append (p.copy k.id) ⟨p.nextId, {}⟩).2, count + 1) := by
  rw [MemoryStore.refresh]
  rcases keys.find? p (p.name k) with _ | mine
  · exact .inr rfl
  · by_cases hsame : (p.sameContent mine k && p.sameMeta mine k) = true
    · exact .inl (if_pos hsame)
    · exact .inr (if_neg hsame)

namespace Pool.Evolves

variable {N W : Set RecordId} {p q : Pool} {store keys : KeySet} {parent : Key}

/-! ### The memory store -/

theorem takeSnapshot (h : p.Evolves N W q) (parent : Key) (keys : KeySet) :
    p.Evolves N W (Snapshot.take q parent keys).1 :=
  (h.copy parent.id).retain q.nextId

theorem dropOneSnapshot (h : p.Evolves N W q) (s : Snapshot) : p.Evolves N W (s.drop q) :=
  (h.release s.parent.id).drop s.keys

theorem dropSnapshot (h : p.Evolves N W q) (m : MemoryStore) :
    p.Evolves N W (m.dropSnapshot q) := by
  rw [MemoryStore.dropSnapshot]
  rcases m.snapshot with _ | s
  · exact h
  · exact h.dropOneSnapshot s

/-- What is read goes among the caller's keys as a copy. -/
theorem refresh (h : p.Evolves N W q) (keys : KeySet) (count : Nat) (k : Key) :
    p.Evolves N W (MemoryStore.refresh q keys count k).1 ∧
      ∀ x ∈ (MemoryStore.refresh q keys count k).2.1.toList, p.nextId ≤ x.id ∨ x ∈ keys.toList := by
  rcases MemoryStore.refresh_cases q keys count k with hsame | hcopy
  · rw [hsame]
    exact ⟨h, fun x hx => .inr hx⟩
  · rw [hcopy]
    refine ⟨(h.copy k.id).append keys _, fun x hx => ?_⟩
    rcases KeySet.mem_append hx with rfl | hx
    · exact .inl h.grows
    · exact .inr hx

theorem warnReadonly {text : String} (h : p.Evolves N W q) (hk : parent.id < p.nextId)
    (hW : parent.id ∈ W) : p.Evolves N W (MemoryStore.warnReadonly q parent text) := by
  unfold MemoryStore.warnReadonly
  generalize Report.validation _ _ = r
  generalize hadd : r.addWarning q parent = done
  rcases done with e | ⟨index, q'⟩
  · exact h
  · exact h.addWarning hk hW hadd

/-- **A stage of a memory store** writes to the key that it is given, and puts copies among the
caller's keys. -/
theorem runMemoryStore (m : MemoryStore) (stage : Stage) (h : p.Evolves N W q)
    (hk : parent.id < p.nextId) (hW : parent.id ∈ W) :
    let o := m.run stage q store keys parent
    p.Evolves N W o.pool ∧ ∀ x ∈ o.keys.toList, p.nextId ≤ x.id ∨ x ∈ keys.toList := by
  have hfail : ∀ r, p.Evolves N W (m.fail q store keys parent r).pool ∧
      ∀ x ∈ (m.fail q store keys parent r).keys.toList, p.nextId ≤ x.id ∨ x ∈ keys.toList :=
    fun r => ⟨h.attach hk hW r, fun x hx => .inr hx⟩
  cases stage with
  | opening =>
    simp only [MemoryStore.run, MemoryStore.onOpen]
    split
    · exact ⟨h, fun x hx => .inr hx⟩
    · next text _ =>
      split
      · exact ⟨h, fun x hx => .inr hx⟩
      · refine ⟨?_, fun x hx => .inr hx⟩
        show p.Evolves N W (if text = falseToken then q else _)
        split
        · exact h
        · exact h.warnReadonly hk hW
  | get =>
    simp only [MemoryStore.run, MemoryStore.onGet]
    split
    · refine List.foldlRecOn (motive := fun done : Pool × KeySet × Nat =>
        p.Evolves N W done.1 ∧ ∀ x ∈ done.2.1.toList, p.nextId ≤ x.id ∨ x ∈ keys.toList)
        (store.subtree q (q.name parent)).toList _ ⟨h, fun x hx => .inr hx⟩ ?_
      intro done hdone k _
      obtain ⟨hev, hmem⟩ := hdone.1.refresh done.2.1 done.2.2 k
      exact ⟨hev, fun x hx => (hmem x hx).elim .inl (hdone.2 x)⟩
    · exact hfail _
  | set =>
    simp only [MemoryStore.run, MemoryStore.onSet]
    split
    · split
      · exact hfail _
      · refine ⟨?_, fun x hx => .inr hx⟩
        exact ((((h.copySet _).1.appendAll _ _).takeSnapshot parent _).dropSnapshot m).drop _
    · exact hfail _
  | error =>
    simp only [MemoryStore.run, MemoryStore.onError]
    split
    · exact ⟨h, fun x hx => .inr hx⟩
    · exact ⟨((h.appendAll _ _).drop _).dropOneSnapshot _, fun x hx => .inr hx⟩
  | close => exact ⟨h.dropSnapshot m, fun x hx => .inr hx⟩

/-! ### The charset filter -/

/-- What is converted belongs to the keys: it is one of them, or in the metadata of one. -/
theorem mem_of_planFields {source target : Charset} {k : Key} {fields : List (String × Key)}
    {planned : List (Key × List UInt8)}
    (hplan : CharsetFilter.planFields q source target k fields = .ok planned) :
    ∀ text ∈ planned, ∃ field ∈ fields, text.1 = field.2 := by
  induction fields generalizing planned with
  | nil =>
    cases hplan
    exact fun text htext => absurd htext List.not_mem_nil
  | cons field fields ih =>
    obtain ⟨name, holder⟩ := field
    rw [CharsetFilter.planFields] at hplan
    split at hplan
    · cases hplan
    · obtain ⟨rest, hrest, hdone⟩ := bind_eq_ok.mp hplan
      cases hdone
      intro text htext
      rcases List.mem_cons.mp htext with rfl | htext
      · exact ⟨(name, holder), List.mem_cons_self, rfl⟩
      · obtain ⟨field, hfield, heq⟩ := ih hrest text htext
        exact ⟨field, List.mem_cons_of_mem _ hfield, heq⟩

theorem holder_mem (hclosed : ∀ id ∈ W, ∀ e ∈ (q.record id).entries, e.id ∈ W) {k : Key}
    (hk : k.id ∈ W) {field : String × Key} (hfield : field ∈ CharsetFilter.fields q k) :
    field.2.id ∈ W := by
  rw [CharsetFilter.fields, List.mem_append] at hfield
  rcases hfield with hfield | hfield
  · split at hfield
    · cases hfield
    · rw [List.mem_singleton] at hfield
      rw [hfield]
      exact hk
  · obtain ⟨e, he, rfl⟩ := List.mem_map.mp hfield
    rw [Option.mem_toList, Pool.meta?] at he
    rcases hn : metaName "comment" with _ | n
    · rw [hn] at he
      cases he
    · rw [hn] at he
      exact hclosed k.id hk e (List.mem_of_find?_eq_some he)

theorem mem_of_planAfter (hclosed : ∀ id ∈ W, ∀ e ∈ (q.record id).entries, e.id ∈ W)
    {source target : Charset} {list : List Key} {before planned : List (Key × List UInt8)}
    (hkeys : ∀ k ∈ list, k.id ∈ W) (hbefore : ∀ text ∈ before, text.1.id ∈ W)
    (hplan : CharsetFilter.planAfter q source target before list = .ok planned) :
    ∀ text ∈ planned, text.1.id ∈ W := by
  induction list generalizing before with
  | nil =>
    cases hplan
    exact fun text htext => hbefore text (List.mem_reverse.mp htext)
  | cons k list ih =>
    rw [CharsetFilter.planAfter] at hplan
    split at hplan
    · cases hplan
    · next found hfound =>
      refine ih (fun k' hk' => hkeys k' (List.mem_cons_of_mem k hk')) ?_ hplan
      intro text htext
      rcases List.mem_append.mp htext with htext | htext
      · obtain ⟨field, hfield, heq⟩ := mem_of_planFields hfound text (List.mem_reverse.mp htext)
        rw [heq]
        exact holder_mem hclosed (hkeys k List.mem_cons_self) hfield
      · exact hbefore text htext

theorem convert {source target : Charset} (h : p.Evolves N W q) (hk : parent.id < p.nextId)
    (hW : parent.id ∈ W) (hkeys : ∀ k ∈ keys.toList, k.id ∈ W)
    (hclosed : ∀ id ∈ W, ∀ e ∈ (q.record id).entries, e.id ∈ W) :
    p.Evolves N W (CharsetFilter.convert q keys parent source target).2 := by
  rw [CharsetFilter.convert]
  split
  · exact h
  · rcases hplan : CharsetFilter.plan q source target keys.toList with report | planned
    · exact h.attach hk hW report
    · have hholders := mem_of_planAfter hclosed hkeys
        (fun text htext => absurd htext List.not_mem_nil) hplan
      refine List.foldlRecOn (motive := fun done : Pool × Nat => p.Evolves N W done.1)
        planned _ h ?_
      intro done hdone text htext
      show p.Evolves N W (CharsetFilter.store done.1 done.2 text.1 text.2).1
      rw [CharsetFilter.store]
      split
      · exact hdone
      · exact hdone.storeValue (hholders text htext) _

/-- **A stage of a charset filter** writes to the key that it is given, to the caller's keys and to
their metadata. -/
theorem runCharsetFilter (f : CharsetFilter) (stage : Stage) (h : p.Evolves N W q)
    (hk : parent.id < p.nextId) (hW : parent.id ∈ W) (hkeys : ∀ k ∈ keys.toList, k.id ∈ W)
    (hclosed : ∀ id ∈ W, ∀ e ∈ (q.record id).entries, e.id ∈ W) :
    p.Evolves N W (f.run stage q keys parent).2.1 := by
  have honKeys : ∀ stage, p.Evolves N W (f.onKeys stage q keys parent).2 := by
    intro stage
    rw [CharsetFilter.onKeys]
    rcases f.charsets with _ | c
    · exact h.attach hk hW _
    · cases stage <;> exact h.convert hk hW hkeys hclosed
  cases stage
  case opening =>
    simp only [CharsetFilter.run]
    unfold CharsetFilter.onOpen
    rcases CharsetFilter.resolvePair q f.config with reason | charsets
    · exact h.attach hk hW _
    · exact h
  case close => exact h
  all_goals exact honKeys _

/-! ### Any plugin -/

/-- **A stage of a plugin** writes to nothing that its caller cannot reach, and puts copies among
the caller's keys. -/
theorem runPlugin (store keys : KeySet) (plugin : Plugin) (stage : Stage) (h : p.Evolves N W q)
    (hk : parent.id < p.nextId) (hW : parent.id ∈ W) (hkeys : ∀ k ∈ keys.toList, k.id ∈ W)
    (hclosed : ∀ id ∈ W, ∀ e ∈ (q.record id).entries, e.id ∈ W) :
    let o := plugin.run stage q store keys parent
    p.Evolves N W o.pool ∧ ∀ x ∈ o.keys.toList, p.nextId ≤ x.id ∨ x ∈ keys.toList := by
  cases plugin with
  | memory id m => exact h.runMemoryStore m stage hk hW
  | charsetFilter f =>
    exact ⟨h.runCharsetFilter f stage hk hW hkeys hclosed, fun x hx => .inr hx⟩
  | plain name => exact ⟨h, fun x hx => .inr hx⟩

theorem dropPlugin (h : p.Evolves N W q) (plugin : Plugin) : p.Evolves N W (plugin.drop q) := by
  cases plugin with
  | memory id m => exact (h.dropSnapshot m).drop m.config.entries
  | charsetFilter f => exact h.drop f.config.entries
  | plain name => exact h

end Pool.Evolves

/-! ### What a stage leaves of an instance and of the kept keys -/

namespace Plugin

variable {p : Pool} {store keys : KeySet} {k : Key}

/-- To read leaves an instance as it is. -/
theorem run_get (plugin : Plugin) : (plugin.run .get p store keys k).plugin = plugin := by
  cases plugin with
  | memory id m =>
    simp only [run, MemoryStore.run, MemoryStore.onGet]
    split <;> rfl
  | charsetFilter f => rfl
  | plain name => rfl

/-- Only to write, and to take back what was written, changes what is kept. -/
theorem run_store {stage : Stage} (plugin : Plugin) (hset : stage ≠ .set)
    (herror : stage ≠ .error) : (plugin.run stage p store keys k).store = store := by
  cases plugin with
  | memory id m =>
    cases stage with
    | opening =>
      simp only [run, MemoryStore.run, MemoryStore.onOpen]
      split
      · rfl
      · split <;> rfl
    | get =>
      simp only [run, MemoryStore.run, MemoryStore.onGet]
      split <;> rfl
    | set => exact absurd rfl hset
    | error => exact absurd rfl herror
    | close => rfl
  | charsetFilter f => rfl
  | plain name => rfl

end Plugin
end ConfigKeys
