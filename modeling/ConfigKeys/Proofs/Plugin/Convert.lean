import ConfigKeys.Proofs.Charset.Exact
import ConfigKeys.Proofs.Key.Report
import ConfigKeys.Proofs.Plugin.Frame

/-!
# A filter converts all or nothing

A stage of a charset filter goes along the texts of the keys twice: it first finds out what each of
them becomes, and stores nothing until it has come to the end.  A record that is met more than once
is the same text each time, and the second time there is nothing left to store.

## Main definitions

* `TextField`, `Pool.textFields` — the texts of keys, in order.
* `Charset.recode` — a value converted from one charset to another.
* `Pool.Recodes` — a change was made to the values of some records, and nothing else.

## Main results

* `CharsetFilter.plan_cases` — what texts become, or the first of them that cannot be converted.
* `CharsetFilter.convert_cases` — a stage converts all of them, or leaves a report.
-/

namespace ConfigKeys

/-! ### Texts -/

/-- A text of a key: its value, or the comment in its metadata. -/
structure TextField where
  /-- The key. -/
  key : Key
  /-- How the text is named in reports. -/
  field : String
  /-- The record that holds the text. -/
  holder : Key

namespace Pool

/-- The texts of keys: for each of them its value, unless that is binary, and then its comment. -/
def textFields (p : Pool) (keys : List Key) : List TextField :=
  keys.flatMap fun k =>
    (if (p.value k).binary then [] else [⟨k, "value", k⟩])
      ++ (p.meta? k "comment").toList.map fun e => ⟨k, "comment", e⟩

/-- The records that hold the texts of keys. -/
def textHolders (p : Pool) (keys : List Key) : Set RecordId :=
  { i | ∃ k ∈ keys, (k.id = i ∧ (p.value k).binary = false) ∨
    ∃ e, p.meta? k "comment" = some e ∧ e.id = i }

variable {p : Pool} {keys : List Key}

/-- What is found in the metadata of a key is one of its entries. -/
theorem mem_entries_of_meta? {k e : Key} {raw : String} (h : p.meta? k raw = some e) :
    e ∈ p.entries k := by
  rw [meta?] at h
  rcases hn : metaName raw with cause | n
  · rw [hn] at h
    cases h
  · rw [hn] at h
    exact List.mem_of_find?_eq_some h

theorem mem_textHolders {i : RecordId} :
    i ∈ p.textHolders keys ↔ ∃ t ∈ p.textFields keys, t.holder.id = i := by
  simp only [textHolders, textFields, Set.mem_ofPred_eq, List.mem_flatMap, List.mem_append,
    List.mem_map, Option.mem_toList]
  constructor
  · rintro ⟨k, hk, ⟨rfl, hbinary⟩ | ⟨e, he, rfl⟩⟩
    · exact ⟨⟨k, "value", k⟩, ⟨k, hk, .inl (by simp [hbinary])⟩, rfl⟩
    · exact ⟨⟨k, "comment", e⟩, ⟨k, hk, .inr ⟨e, he, rfl⟩⟩, rfl⟩
  · rintro ⟨t, ⟨k, hk, ht | ⟨e, he, rfl⟩⟩, rfl⟩
    · refine ⟨k, hk, .inl ?_⟩
      split at ht
      · cases ht
      · next hbinary =>
        rw [List.mem_singleton.mp ht]
        exact ⟨rfl, Bool.not_eq_true _ ▸ hbinary⟩
    · exact ⟨k, hk, .inr ⟨e, he, rfl⟩⟩

/-- The texts of keys that are held are there. -/
theorem Balanced.exists_of_textHolders {S R : List (List Key)} {P H L : List RecordId}
    (h : p.Balanced S R P H L)
    (hkeys : ∀ k ∈ keys, ∃ r, p.find? k.id = some r) {i : RecordId} (hi : i ∈ p.textHolders keys) :
    ∃ r, p.find? i = some r := by
  obtain ⟨k, hk, ⟨rfl, -⟩ | ⟨e, he, rfl⟩⟩ := hi
  · exact hkeys k hk
  · obtain ⟨r, hr⟩ := hkeys k hk
    have hmem := mem_entries_of_meta? he
    rw [Pool.entries, record_of_find? hr] at hmem
    exact h.exists_of_mem_entries (mem_live.mpr ⟨k.id, hr⟩) hmem

/-- The texts of the first key come first. -/
theorem textFields_cons (p : Pool) (k : Key) (keys : List Key) :
    p.textFields (k :: keys)
      = (CharsetFilter.fields p k).map (fun f => ⟨k, f.1, f.2⟩) ++ p.textFields keys := by
  rw [textFields, List.flatMap_cons, CharsetFilter.fields, List.map_append, List.map_map]
  refine congrArg (· ++ _) (congrArg (· ++ _) ?_)
  split <;> rfl

end Pool

/-! ### The plan -/

namespace CharsetFilter

variable {p : Pool} {source target : Charset} {k parent : Key}

/-- What stands in a plan: the texts that were gone along, in order, and what each one becomes. -/
structure Plans (p : Pool) (source target : Charset) (texts : List TextField)
    (planned : List (Key × List UInt8)) : Prop where
  holders : planned.map Prod.fst = texts.map TextField.holder
  bytes : ∀ x ∈ planned, source.convert target (p.value x.1).bytes = .ok x.2

/-- A text can be converted. -/
def Converts (p : Pool) (source target : Charset) (t : TextField) : Prop :=
  ∃ bytes, source.convert target (p.value t.holder).bytes = .ok bytes

/-- A text is the first one that cannot be converted. -/
structure FailsFirst (p : Pool) (source target : Charset) (texts : List TextField) (t : TextField)
    (fault : ConversionFault) : Prop where
  first : ∃ before after, texts = before ++ t :: after ∧
    ∀ t' ∈ before, Converts p source target t'
  fault : source.convert target (p.value t.holder).bytes = .error fault

section Parts

variable {texts texts' : List TextField} {planned planned' : List (Key × List UInt8)}
variable {t : TextField} {fault : ConversionFault}

/-- What stands in two plans, one after the other. -/
theorem Plans.append (h : Plans p source target texts planned)
    (h' : Plans p source target texts' planned') :
    Plans p source target (texts ++ texts') (planned ++ planned') where
  holders := by rw [List.map_append, List.map_append, h.holders, h'.holders]
  bytes := List.forall_mem_append.mpr ⟨h.bytes, h'.bytes⟩

/-- What is planned can be converted. -/
theorem Plans.converts (h : Plans p source target texts planned) :
    ∀ t ∈ texts, Converts p source target t := by
  intro t ht
  have hmem : t.holder ∈ planned.map Prod.fst := h.holders ▸ List.mem_map_of_mem ht
  obtain ⟨x, hx, heq⟩ := List.mem_map.mp hmem
  exact ⟨x.2, heq ▸ h.bytes x hx⟩

theorem FailsFirst.append_right (h : FailsFirst p source target texts t fault) :
    FailsFirst p source target (texts ++ texts') t fault := by
  obtain ⟨⟨before, after, rfl, hbefore⟩, hfault⟩ := h
  exact ⟨⟨before, after ++ texts', by rw [List.append_assoc, List.cons_append], hbefore⟩, hfault⟩

theorem FailsFirst.append_left (h : FailsFirst p source target texts t fault)
    (hbefore : ∀ t' ∈ texts', Converts p source target t') :
    FailsFirst p source target (texts' ++ texts) t fault := by
  obtain ⟨⟨before, after, rfl, hpassed⟩, hfault⟩ := h
  exact ⟨⟨texts' ++ before, after, (List.append_assoc ..).symm,
    List.forall_mem_append.mpr ⟨hbefore, hpassed⟩⟩, hfault⟩

end Parts

theorem planFields_cases (p : Pool) (source target : Charset) (k : Key)
    (fields : List (String × Key)) :
    (∃ planned, planFields p source target k fields = .ok planned ∧
      Plans p source target (fields.map fun f => ⟨k, f.1, f.2⟩) planned) ∨
    ∃ t fault, FailsFirst p source target (fields.map fun f => ⟨k, f.1, f.2⟩) t fault ∧
      planFields p source target k fields = .error (fieldReport p t.key t.field fault) := by
  induction fields with
  | nil => exact .inl ⟨[], rfl, rfl, nofun⟩
  | cons f fields ih =>
    obtain ⟨field, holder⟩ := f
    rcases hconvert : source.convert target (p.value holder).bytes with fault | bytes
    · refine .inr ⟨⟨k, field, holder⟩, fault, ⟨⟨[], _, rfl, nofun⟩, hconvert⟩, ?_⟩
      simp only [planFields, hconvert]
    · have hfirst : Plans p source target [⟨k, field, holder⟩] [(holder, bytes)] :=
        ⟨rfl, List.forall_mem_singleton.mpr hconvert⟩
      rcases ih with ⟨planned, hplan, hplans⟩ | ⟨t, fault, hfails, hplan⟩
      · refine .inl ⟨(holder, bytes) :: planned, ?_, hfirst.append hplans⟩
        simp only [planFields, hconvert, hplan]
        rfl
      · refine .inr ⟨t, fault, hfails.append_left hfirst.converts, ?_⟩
        simp only [planFields, hconvert, hplan]
        rfl

theorem planAfter_cases (p : Pool) (source target : Charset) (before : List (Key × List UInt8))
    (keys : List Key) :
    (∃ planned, planAfter p source target before keys = .ok (before.reverse ++ planned) ∧
      Plans p source target (p.textFields keys) planned) ∨
    ∃ t fault, FailsFirst p source target (p.textFields keys) t fault ∧
      planAfter p source target before keys = .error (fieldReport p t.key t.field fault) := by
  induction keys generalizing before with
  | nil => exact .inl ⟨[], by rw [planAfter, List.append_nil], rfl, nofun⟩
  | cons k keys ih =>
    rw [Pool.textFields_cons]
    rcases planFields_cases p source target k (fields p k) with
      ⟨found, hfound, hplans⟩ | ⟨t, fault, hfails, hfound⟩
    · rcases ih (found.reverse ++ before) with ⟨planned, hplan, hrest⟩ | ⟨t, fault, hfails, hplan⟩
      · refine .inl ⟨found ++ planned, ?_, hplans.append hrest⟩
        simp only [planAfter, hfound, hplan, List.reverse_append, List.reverse_reverse,
          List.append_assoc]
      · refine .inr ⟨t, fault, hfails.append_left hplans.converts, ?_⟩
        simp only [planAfter, hfound, hplan]
    · refine .inr ⟨t, fault, hfails.append_right, ?_⟩
      simp only [planAfter, hfound]

/-- **What the texts of keys become, or the first of them that cannot be converted.** -/
theorem plan_cases (p : Pool) (source target : Charset) (keys : List Key) :
    (∃ planned, plan p source target keys = .ok planned ∧
      Plans p source target (p.textFields keys) planned) ∨
    ∃ t fault, FailsFirst p source target (p.textFields keys) t fault ∧
      plan p source target keys = .error (fieldReport p t.key t.field fault) :=
  planAfter_cases p source target [] keys

end CharsetFilter

/-! ### Storing -/

/-- A value converted from one charset to another; one that stays the same, or cannot be converted,
is kept. -/
def Charset.recode (source target : Charset) (v : Value) : Value :=
  match source.convert target v.bytes with
  | .ok bytes => if bytes = v.bytes then v else .encoded bytes
  | .error _ => v

theorem Charset.recode_of_ok {source target : Charset} {v : Value} {bytes : List UInt8}
    (h : source.convert target v.bytes = .ok bytes) :
    source.recode target v = if bytes = v.bytes then v else .encoded bytes := by
  rw [recode, h]

theorem Charset.bytes_recode {source target : Charset} {v : Value} {bytes : List UInt8}
    (h : source.convert target v.bytes = .ok bytes) : (source.recode target v).bytes = bytes := by
  rw [recode_of_ok h]
  split
  · next heq => exact heq.symm
  · rfl

/-- The pool `p` became `q` by a change of the values of some records, and of nothing else. -/
structure Pool.Recodes (f : Value → Value) (ids : Set RecordId) (p q : Pool) : Prop where
  nextId : q.nextId = p.nextId
  inside : ∀ i ∈ ids, q.find? i = (p.find? i).map fun r => { r with value := f r.value }
  outside : ∀ i ∉ ids, q.find? i = p.find? i

namespace Pool.Recodes

variable {f : Value → Value} {ids : Set RecordId} {p q : Pool} {k : Key} {r : Record}

theorem refl (f : Value → Value) (p : Pool) : p.Recodes f ∅ p where
  nextId := rfl
  inside _ hi := absurd hi (Set.notMem_empty _)
  outside _ _ := rfl

theorem record_inside {i : RecordId} (h : p.Recodes f ids q) (hi : i ∈ ids)
    (hthere : ∃ r, p.find? i = some r) :
    q.record i = { p.record i with value := f (p.record i).value } := by
  obtain ⟨r, hr⟩ := hthere
  have hfind := h.inside i hi
  rw [hr, Option.map_some] at hfind
  rw [record_of_find? hfind, record_of_find? hr]

theorem record_outside {i : RecordId} (h : p.Recodes f ids q) (hi : i ∉ ids) :
    q.record i = p.record i := by
  rw [record, h.outside i hi, record]

/-- A record that holds a text has its new value. -/
theorem value_inside (h : p.Recodes f ids q) (hk : k.id ∈ ids)
    (hthere : ∃ r, p.find? k.id = some r) : q.value k = f (p.value k) := by
  rw [value, h.record_inside hk hthere, value]

/-- Any other record has the value that it had. -/
theorem value_outside (h : p.Recodes f ids q) (hk : k.id ∉ ids) : q.value k = p.value k := by
  rw [value, h.record_outside hk, value]

/-- Names and metadata are what they were. -/
theorem record_kept (h : p.Recodes f ids q) (i : RecordId) :
    (q.record i).name = (p.record i).name ∧ (q.record i).entries = (p.record i).entries := by
  by_cases hi : i ∈ ids
  · rcases hr : p.find? i with _ | r
    · have hgone := h.inside i hi
      rw [hr, Option.map_none] at hgone
      rw [record_of_find?_none hgone, record_of_find?_none hr]
      exact ⟨rfl, rfl⟩
    · rw [h.record_inside hi ⟨r, hr⟩]
      exact ⟨rfl, rfl⟩
  · rw [h.record_outside hi]
    exact ⟨rfl, rfl⟩

theorem name_eq (h : p.Recodes f ids q) : q.name = p.name :=
  funext fun k => (h.record_kept k.id).1

/-- The entries of metadata are the same keys. -/
theorem meta?_eq (h : p.Recodes f ids q) : q.meta? = p.meta? := by
  funext k raw
  simp only [meta?, Registry.get?, entries, h.name_eq, (h.record_kept k.id).2]

/-- What was there is there. -/
theorem exists_of_exists {i : RecordId} (h : p.Recodes f ids q)
    (hthere : ∃ r, p.find? i = some r) : ∃ r, q.find? i = some r := by
  obtain ⟨r, hr⟩ := hthere
  by_cases hi : i ∈ ids
  · exact ⟨_, (h.inside i hi).trans (by rw [hr, Option.map_some])⟩
  · exact ⟨r, (h.outside i hi).trans hr⟩

/-- The bytes of some record changed. -/
def Changes (p q : Pool) : Prop := ∃ i, (q.record i).value.bytes ≠ (p.record i).value.bytes

/-- **To store what a text becomes** changes its record, unless that was done before. -/
theorem store {source target : Charset} {bytes : List UInt8} {count : Nat}
    (h : p.Recodes (source.recode target) ids q) (hcount : 0 < count ↔ Changes p q)
    (hr : p.find? k.id = some r) (hconvert : source.convert target r.value.bytes = .ok bytes) :
    let done := CharsetFilter.store q count k bytes
    p.Recodes (source.recode target) (insert k.id ids) done.1 ∧
      (0 < done.2 ↔ Changes p done.1) := by
  intro done
  have hdone : done = CharsetFilter.store q count k bytes := rfl
  rw [CharsetFilter.store] at hdone
  by_cases hid : k.id ∈ ids
  · -- the record has what is to be stored already
    have hsame : (q.value k).bytes = bytes := by
      rw [h.value_inside hid ⟨r, hr⟩, Pool.value, record_of_find? hr,
        Charset.bytes_recode hconvert]
    rw [if_pos hsame] at hdone
    rw [hdone, Set.insert_eq_of_mem hid]
    exact ⟨h, hcount⟩
  have hfind : q.find? k.id = some r := (h.outside k.id hid).trans hr
  have hvalue : q.value k = r.value := by rw [Pool.value, record_of_find? hfind]
  rw [hvalue] at hdone
  by_cases hsame : r.value.bytes = bytes
  · rw [if_pos hsame] at hdone
    have hkept : source.recode target r.value = r.value := by
      rw [Charset.recode_of_ok hconvert, if_pos hsame.symm]
    rw [hdone]
    refine ⟨⟨h.nextId, fun i hi => ?_, fun i hi => h.outside i fun hin => hi (.inr hin)⟩, hcount⟩
    rcases hi with rfl | hi
    · rw [hfind, hr, Option.map_some, hkept]
    · exact h.inside i hi
  · rw [if_neg hsame] at hdone
    have hnew : source.recode target r.value = .encoded bytes := by
      rw [Charset.recode_of_ok hconvert, if_neg fun heq => hsame heq.symm]
    have hstored : (q.setValue k (.encoded bytes)).find? k.id
        = some { r with value := .encoded bytes } := by
      rw [Pool.setValue, find?_modify, if_pos rfl, hfind, Option.map_some]
    have hothers : ∀ i ≠ k.id, (q.setValue k (.encoded bytes)).find? i = q.find? i :=
      fun i hi => by rw [Pool.setValue, find?_modify, if_neg hi]
    rw [hdone]
    refine ⟨⟨(nextId_modify _ _ _).trans h.nextId, fun i hi => ?_, fun i hi => ?_⟩,
      iff_of_true (Nat.succ_pos count) ⟨k.id, ?_⟩⟩
    · rcases hi with rfl | hi
      · rw [hstored, hr, Option.map_some, hnew]
      · exact (hothers i fun heq => hid (heq ▸ hi)).trans (h.inside i hi)
    · exact (hothers i fun heq => hi (.inl heq)).trans (h.outside i fun hin => hi (.inr hin))
    · rw [record_of_find? hstored, record_of_find? hr]
      exact fun heq => hsame heq.symm

/-- Storing what a run of texts becomes. -/
theorem storeAll {source target : Charset} (planned : List (Key × List UInt8)) (count : Nat)
    (h : p.Recodes (source.recode target) ids q) (hcount : 0 < count ↔ Changes p q)
    (hthere : ∀ x ∈ planned, ∃ r, p.find? x.1.id = some r)
    (hconvert : ∀ x ∈ planned, source.convert target (p.value x.1).bytes = .ok x.2) :
    let done := planned.foldl (fun done x => CharsetFilter.store done.1 done.2 x.1 x.2) (q, count)
    p.Recodes (source.recode target) (ids ∪ { i | ∃ x ∈ planned, x.1.id = i }) done.1 ∧
      (0 < done.2 ↔ Changes p done.1) := by
  induction planned generalizing q count ids with
  | nil =>
    have hnone : ids ∪ { i | ∃ x ∈ ([] : List (Key × List UInt8)), x.1.id = i } = ids := by simp
    rw [hnone]
    exact ⟨h, hcount⟩
  | cons x planned ih =>
    obtain ⟨r, hr⟩ := hthere x List.mem_cons_self
    have hfirst := hconvert x List.mem_cons_self
    rw [Pool.value, record_of_find? hr] at hfirst
    obtain ⟨hstored, hcount'⟩ := h.store hcount hr hfirst
    have hids : ids ∪ { i | ∃ y ∈ x :: planned, y.1.id = i }
        = insert x.1.id ids ∪ { i | ∃ y ∈ planned, y.1.id = i } := by
      ext i
      simp only [Set.mem_union, Set.mem_ofPred_eq, Set.mem_insert_iff, List.exists_mem_cons_iff]
      rw [or_left_comm, or_assoc, eq_comm]
    rw [hids]
    exact ih _ hstored hcount' (fun y hy => hthere y (List.mem_cons_of_mem _ hy))
      fun y hy => hconvert y (List.mem_cons_of_mem _ hy)

end Pool.Recodes

namespace CharsetFilter

variable {p : Pool} {source target : Charset}

/-- **A stage converts all texts, or leaves a report.** -/
theorem convert_cases {keys : KeySet} (parent : Key) (hne : source ≠ target)
    (hthere : ∀ i ∈ p.textHolders keys.toList, ∃ r, p.find? i = some r) :
    let done := convert p keys parent source target
    (∃ t fault, FailsFirst p source target (p.textFields keys.toList) t fault ∧
      done = fail p parent (fieldReport p t.key t.field fault)) ∨
    (∀ t ∈ p.textFields keys.toList, Converts p source target t) ∧
      p.Recodes (source.recode target) (p.textHolders keys.toList) done.2 ∧
      ((done.1 = .success ∧ Pool.Recodes.Changes p done.2) ∨
        (done.1 = .noUpdate ∧ ¬ Pool.Recodes.Changes p done.2)) := by
  intro done
  have hdone : done = convert p keys parent source target := rfl
  rw [convert, if_neg hne] at hdone
  rcases plan_cases p source target keys.toList with
    ⟨planned, hplan, hplans⟩ | ⟨t, fault, hfails, hplan⟩
  · have hholders : { i | ∃ x ∈ planned, x.1.id = i } = p.textHolders keys.toList := by
      ext i
      rw [Pool.mem_textHolders, Set.mem_ofPred_eq]
      have hmap := congrArg (fun l => i ∈ l.map Key.id) hplans.holders
      simpa only [List.map_map, List.mem_map, Function.comp, eq_iff_iff] using hmap
    rw [hplan] at hdone
    obtain ⟨hrecodes, hcount⟩ := (Pool.Recodes.refl (source.recode target) p).storeAll
      planned 0 (iff_of_false (Nat.lt_irrefl 0) fun hchanges => hchanges.elim fun _ hi => hi rfl)
      (fun x hx => hthere _ (hholders ▸ ⟨x, hx, rfl⟩)) hplans.bytes
    rw [Set.empty_union, hholders] at hrecodes
    refine .inr ⟨hplans.converts, ?_⟩
    rw [hdone]
    refine ⟨hrecodes, ?_⟩
    simp only [Status.ofCount]
    by_cases hpos : 0 < (planned.foldl (fun done x => store done.1 done.2 x.1 x.2) (p, 0)).2
    · exact .inl ⟨if_pos hpos, hcount.mp hpos⟩
    · exact .inr ⟨if_neg hpos, fun hchanges => hpos (hcount.mpr hchanges)⟩
  · rw [hplan] at hdone
    exact .inl ⟨t, fault, hfails, hdone⟩

end CharsetFilter
end ConfigKeys
