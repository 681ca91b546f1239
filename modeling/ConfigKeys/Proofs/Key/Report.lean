import ConfigKeys.Proofs.Key.Entries
import ConfigKeys.Proofs.Text.Utf8

/-!
# Reports are read as they were written

A report on a key takes the places of an earlier one in the metadata of the key.  All other entries
stay in their order, and no value, name or other metadata is written.

## Main definitions

* `Pool.Annotates` — only entries of some names were written, in the metadata of one record.
* `Report.errorNames` — the names of the entries of an error.

## Main results

* `Pool.Balanced.annotates_setEntry` — writing one entry.
* `Pool.Balanced.write_spec` — writing a report.
* `Pool.Balanced.error?_setError` — an error is read as it was written.
-/

namespace ConfigKeys

namespace Pool

variable {p q q' : Pool} {S R : List (List Key)} {P H L : List RecordId} {k : Key} {n : Name}
variable {names names' : Set Name} {id : RecordId}

/-- The pool `p` became `q`, and among the records of `p` only the metadata of one was written, and
there only entries of some names. -/
structure Annotates (names : Set Name) (id : RecordId) (p q : Pool) : Prop where
  /-- Numbers are used up. -/
  grows : p.nextId ≤ q.nextId
  /-- A record that is there has its name and value, and its metadata if it is another one. -/
  kept : ∀ i r', i < p.nextId → q.find? i = some r' → ∃ r, p.find? i = some r ∧
    r'.name = r.name ∧ r'.value = r.value ∧ (i ≠ id → r'.entries = r.entries)
  /-- Whichever names but those that were written are looked for, the entries are what they were. -/
  others : ∀ f : Name → Bool, (∀ n ∈ names, f n = false) →
    (q.record id).entries.filter (fun e => f (q.name e))
      = (p.record id).entries.filter fun e => f (p.name e)

namespace Annotates

theorem refl (names : Set Name) (id : RecordId) (p : Pool) : p.Annotates names id p where
  grows := Nat.le_refl _
  kept _ r' _ hr' := ⟨r', hr', rfl, rfl, fun _ => rfl⟩
  others _ _ := rfl

theorem mono (h : p.Annotates names id q) (hle : names ⊆ names') : p.Annotates names' id q :=
  ⟨h.grows, h.kept, fun f hf => h.others f fun n hn => hf n (hle hn)⟩

theorem trans (h : p.Annotates names id q) (h' : q.Annotates names id q') :
    p.Annotates names id q' where
  grows := Nat.le_trans h.grows h'.grows
  kept i r'' hi hr'' := by
    obtain ⟨r', hr', hname', hvalue', hentries'⟩ :=
      h'.kept i r'' (Nat.lt_of_lt_of_le hi h.grows) hr''
    obtain ⟨r, hr, hname, hvalue, hentries⟩ := h.kept i r' hi hr'
    exact ⟨r, hr, hname'.trans hname, hvalue'.trans hvalue,
      fun hne => (hentries' hne).trans (hentries hne)⟩
  others f hf := (h'.others f hf).trans (h.others f hf)

/-- An entry of another name is found where it was. -/
theorem get? (h : p.Annotates names k.id q) (hn : n ∉ names) :
    Registry.get? q (q.entries k) n = Registry.get? p (p.entries k) n := by
  have hothers := h.others (fun x => decide (x = n))
    fun x hx => decide_eq_false fun heq => hn (heq ▸ hx)
  rw [Registry.get?, Registry.get?, ← List.head?_filter, ← List.head?_filter]
  exact congrArg List.head? hothers

end Annotates

/-- What the records say after an entry was written. -/
theorem of_find?_setEntry {v : Value} {i : RecordId} {r' : Record} (hk : k.id < p.nextId)
    (hi : i ≤ p.nextId) (h : (p.setEntry k n v).find? i = some r') :
    (i = p.nextId ∧ r'.name = n ∧ r'.value = v) ∨ i < p.nextId ∧ ∃ r, p.find? i = some r ∧
      r'.name = r.name ∧ r'.value = r.value ∧ (i ≠ k.id → r'.entries = r.entries) ∧
      (i = k.id → r'.entries
        = Registry.put (p.alloc { name := n, value := v }) r.entries ⟨p.nextId, {}⟩) := by
  rw [setEntry, insertEntry] at h
  obtain ⟨r₁, hr₁, hname, hsame, -⟩ := ((Evolves.refl ∅ ∅ _).detachAll _).kept i r'
    (by rw [nextId_modify, nextId_lock, nextId_alloc]; exact Nat.lt_succ_of_le hi) h
  obtain ⟨hvalue, hentries⟩ := hsame (Set.notMem_empty i)
  rw [hname (Set.notMem_empty i), hvalue, hentries]
  rw [find?_modify, find?_lock, find?_alloc] at hr₁
  rcases Nat.lt_or_eq_of_le hi with hlt | rfl
  · refine .inr ⟨hlt, ?_⟩
    rw [if_neg (Nat.ne_of_lt hlt), if_neg (Nat.ne_of_lt hlt)] at hr₁
    split at hr₁
    · next heq =>
      subst heq
      obtain ⟨r, hr, rfl⟩ := Option.map_eq_some_iff.mp hr₁
      refine ⟨r, hr, rfl, rfl, fun hne => absurd rfl hne, fun _ => ?_⟩
      show Registry.put _ ((p.alloc _).record k.id).entries _ = _
      rw [record_alloc_of_ne _ (Nat.ne_of_lt hlt), record_of_find? hr]
    · next hne => exact ⟨r₁, hr₁, rfl, rfl, fun _ => rfl, fun heq => absurd heq hne⟩
  · rw [if_neg (Nat.ne_of_gt hk), if_pos rfl, if_pos rfl] at hr₁
    obtain rfl := Option.some.inj hr₁
    exact .inl ⟨rfl, rfl, rfl⟩

/-- **To write an entry annotates**, and the entry is found. -/
theorem Balanced.annotates_setEntry (h : p.Balanced S R P H L) (hk : k.id ∈ H) (n : Name)
    (v : Value) : let q := p.setEntry k n v
    p.Annotates {n} k.id q ∧ Registry.get? q (q.entries k) n = some ⟨p.nextId, {}⟩ ∧
      q.value ⟨p.nextId, {}⟩ = v := by
  intro q
  obtain ⟨o, ho, -⟩ := h.exists_of_handle hk
  have hlt : k.id < p.nextId := find?_lt ho
  have hq : q.Balanced S R P H L := h.setEntry hk n v
  have hev : p.Evolves ∅ {k.id} q := (Evolves.refl ∅ {k.id} p).setEntry hlt rfl n v
  obtain ⟨before, after, haround⟩ := Registry.exists_around (h.distinct_entries k) n
  have hafter : q.entries k = before ++ ⟨p.nextId, {}⟩ :: after :=
    (congrArg (Pool.entries · k) (p.setEntry_eq k n v)).trans
      ((h.owner_plantEntry hk (.leaf n v)).2.trans (haround.replaced _))
  have hmem : ⟨p.nextId, {}⟩ ∈ q.entries k := by
    rw [hafter]
    exact List.mem_append_right _ List.mem_cons_self
  have hkept : ∀ e ∈ before ++ after, q.name e = p.name e := by
    intro e he
    obtain ⟨r, hr⟩ := h.exists_of_mem (haround.mem_others.mp he).1
    refine hev.name_eq (find?_lt hr) (Set.notMem_empty _) (hq.exists_of_mem (k := k) ?_)
    rw [hafter]
    simp only [List.mem_append, List.mem_cons] at he ⊢
    tauto
  have hnew : q.name ⟨p.nextId, {}⟩ = n ∧ q.value ⟨p.nextId, {}⟩ = v := by
    obtain ⟨r', hr'⟩ := hq.exists_of_mem hmem
    rcases of_find?_setEntry hlt (Nat.le_refl _) hr' with ⟨-, hname, hvalue⟩ | ⟨habsurd, -⟩
    · rw [Pool.name, Pool.value, record_of_find? hr']
      exact ⟨hname, hvalue⟩
    · exact absurd habsurd (Nat.lt_irrefl _)
  refine ⟨⟨hev.grows, ?_, ?_⟩, hq.get?_eq_some_iff.mpr ⟨hmem, hnew.1⟩, hnew.2⟩
  · intro i r' hi hr'
    rcases of_find?_setEntry hlt (Nat.le_of_lt hi) hr' with
      ⟨heq, -⟩ | ⟨-, r, hr, hname, hvalue, hentries, -⟩
    · exact absurd heq (Nat.ne_of_lt hi)
    · exact ⟨r, hr, hname, hvalue, hentries⟩
  · intro f hf
    change (q.entries k).filter _ = (p.entries k).filter _
    rw [hafter]
    refine haround.filter_eq (some ⟨p.nextId, {}⟩) (hf n rfl) ?_ hkept
    rintro e ⟨⟩
    exact hnew.1

/-! ### Texts -/

/-- The text of an entry of another name is what it was. -/
theorem Balanced.metaText?_annotates {raw : String} (h : p.Balanced S R P H L)
    (hq : q.Balanced S R P H L) (hannotates : p.Annotates names k.id q)
    (hraw : ∀ n, metaName raw = .ok n → n ∉ names) : q.metaText? k raw = p.metaText? k raw := by
  rw [metaText?, metaText?, meta?, meta?]
  rcases hn : metaName raw with cause | n
  · rfl
  · show (Registry.get? q (q.entries k) n).map q.text = (Registry.get? p (p.entries k) n).map p.text
    rw [hannotates.get? (hraw n hn)]
    rcases hget : Registry.get? p (p.entries k) n with _ | e
    · rfl
    · have hget' := (hannotates.get? (hraw n hn)).trans hget
      obtain ⟨r, hr⟩ := h.exists_of_mem (h.get?_eq_some_iff.mp hget).1
      obtain ⟨r', hr'⟩ := hq.exists_of_mem (hq.get?_eq_some_iff.mp hget').1
      obtain ⟨r₁, hr₁, -, hvalue, -⟩ := hannotates.kept e.id r' (find?_lt hr) hr'
      show some (q.value e).text = some (p.value e).text
      rw [Pool.value, Pool.value, record_of_find? hr', record_of_find? hr₁, hvalue]

theorem Balanced.metaText?_kept {raw : String} (h : p.Balanced S R P H L)
    (hq : q.Balanced S R P H L) (hannotates : p.Annotates names k.id q) (hn : metaName raw = .ok n)
    (hout : n ∉ names) : q.metaText? k raw = p.metaText? k raw := by
  apply h.metaText?_annotates hq hannotates
  intro m hm
  obtain rfl := Except.ok.inj (hn.symm.trans hm)
  exact hout

/-- A name that no entry has has no text. -/
theorem metaText?_eq_none {raw : String} (hn : metaName raw = .ok n) (hout : n ∉ p.metaNames k) :
    p.metaText? k raw = none := by
  rw [metaText?, meta?, hn, Option.map_eq_none_iff]
  apply List.find?_eq_none.mpr
  intro e he heq
  apply hout
  rw [← of_decide_eq_true heq]
  exact List.mem_map_of_mem he

/-- **A text that is written is read.** -/
theorem Balanced.setMeta_spec {raw : String} (h : p.Balanced S R P H L) (hk : k.id ∈ H)
    (hn : metaName raw = .ok n) (text : String) :
    ∃ q, p.setMeta k raw text = .ok q ∧ q.Balanced S R P H L ∧ p.Annotates {n} k.id q ∧
      q.metaText? k raw = some text := by
  obtain ⟨hannotates, hget, hvalue⟩ := h.annotates_setEntry hk n (.ofText text)
  refine ⟨_, ?_, h.setEntry hk n (.ofText text), hannotates, ?_⟩
  · rw [Pool.setMeta, hn]
  · have htext : Value.text _ = text := (congrArg Value.text hvalue).trans (Value.text_ofText text)
    rw [metaText?, meta?, hn]
    show (Registry.get? _ _ n).map _ = _
    rw [hget, Option.map_some, Pool.text, htext]

/-- The names of the entries of texts below a place. -/
def namesBelow (place : String) (texts : List (String × String)) : Set Name :=
  { n | ∃ t ∈ texts, metaName (place ++ "/" ++ t.1) = .ok n }

/-- **Texts that are written below a place**, under different names, are read. -/
theorem Balanced.setMetas_spec (place : String) (texts : List (String × String))
    (h : p.Balanced S R P H L) (hk : k.id ∈ H)
    (hnames : ∀ t ∈ texts, ∃ n, metaName (place ++ "/" ++ t.1) = .ok n)
    (hdist : texts.Pairwise fun t t' =>
      metaName (place ++ "/" ++ t.1) ≠ metaName (place ++ "/" ++ t'.1)) :
    ∃ q, texts.foldlM (fun p t => p.setMeta k (place ++ "/" ++ t.1) t.2) p = .ok q ∧
      q.Balanced S R P H L ∧ p.Annotates (namesBelow place texts) k.id q ∧
      ∀ t ∈ texts, q.metaText? k (place ++ "/" ++ t.1) = some t.2 := by
  induction texts generalizing p with
  | nil => exact ⟨p, rfl, h, .refl _ _ p, nofun⟩
  | cons t texts ih =>
    obtain ⟨hfirst, hdist⟩ := List.pairwise_cons.mp hdist
    obtain ⟨n, hn⟩ := hnames t List.mem_cons_self
    obtain ⟨p₁, hset, h₁, hannotates₁, htext⟩ := h.setMeta_spec hk hn t.2
    obtain ⟨q, hrest, hq, hannotates, htexts⟩ :=
      ih h₁ (fun t ht => hnames t (List.mem_cons_of_mem _ ht)) hdist
    refine ⟨q, ?_, hq, (hannotates₁.mono ?_).trans (hannotates.mono ?_), ?_⟩
    · rw [List.foldlM_cons, bind_eq_ok]
      exact ⟨p₁, hset, hrest⟩
    · rintro _ rfl
      exact ⟨t, List.mem_cons_self, hn⟩
    · rintro n' ⟨t', ht', hn'⟩
      exact ⟨t', List.mem_cons_of_mem _ ht', hn'⟩
    · intro t' ht'
      rcases List.mem_cons.mp ht' with rfl | ht'
      · -- the texts after the first one are written under other names
        rw [h₁.metaText?_annotates hq hannotates, htext]
        rintro n' hn' ⟨t'', ht'', hn''⟩
        exact hfirst t'' ht'' (hn'.trans hn''.symm)
      · exact htexts t' ht'

end Pool

/-! ### Errors -/

namespace Report

/-- The names of the entries of an error: `error` itself, and those of the fields below it. -/
def errorNames : Set Name :=
  { n | n = ⟨.cascading, ["error"]⟩ ∨ ∃ field ∈ fieldNames, n = ⟨.cascading, ["error", field]⟩ }

theorem metaName_error : metaName "error" = .ok ⟨.cascading, ["error"]⟩ := by decide +kernel

theorem metaName_errorField : ∀ field ∈ fieldNames,
    metaName ("error" ++ "/" ++ field) = .ok ⟨.cascading, ["error", field]⟩ := by decide +kernel

/-- A report is read where its fields stand. -/
theorem read?_of_fields {p : Pool} {k : Key} {r : Report} {place : String}
    (h : ∀ t ∈ r.fields, p.metaText? k (place ++ "/" ++ t.1) = some t.2) :
    read? p k place = some r := by
  simp only [fields, List.forall_mem_cons] at h
  obtain ⟨hnumber, hdescription, hmodule, hreason, -⟩ := h
  rw [read?]
  simp only [hnumber, hdescription, hmodule, hreason]
  rfl

/-- A report is read off the texts of its fields. -/
theorem read?_congr {p q : Pool} {k : Key} {place : String}
    (h : ∀ field ∈ fieldNames,
      q.metaText? k (place ++ "/" ++ field) = p.metaText? k (place ++ "/" ++ field)) :
    read? q k place = read? p k place := by
  simp only [fieldNames, List.forall_mem_cons] at h
  obtain ⟨hnumber, hdescription, hmodule, hreason, -⟩ := h
  rw [read?, read?]
  simp only [hnumber, hdescription, hmodule, hreason]

theorem attach_of_setError {p q : Pool} {k : Key} {r : Report} (h : r.setError p k = .ok q) :
    r.attach p k = q := by
  unfold Report.attach
  rw [h]

end Report

namespace Pool.Balanced

variable {p : Pool} {S R : List (List Key)} {P H L : List RecordId} {k : Key}

/-- **A report that is written below a place stands there**, and nothing else is written. -/
theorem write_spec {place : String} {name : String → Name} (h : p.Balanced S R P H L)
    (hk : k.id ∈ H)
    (hnames : ∀ field ∈ Report.fieldNames, metaName (place ++ "/" ++ field) = .ok (name field))
    (hinj : ∀ field ∈ Report.fieldNames, ∀ field' ∈ Report.fieldNames,
      name field = name field' → field = field') (r : Report) :
    ∃ q, r.write p k place = .ok q ∧ q.Balanced S R P H L ∧
      p.Annotates { n | ∃ field ∈ Report.fieldNames, n = name field } k.id q ∧
      ∀ t ∈ r.fields, q.metaText? k (place ++ "/" ++ t.1) = some t.2 := by
  have hfield : ∀ t ∈ r.fields, t.1 ∈ Report.fieldNames := fun t ht => List.mem_map_of_mem ht
  have hdist : r.fields.Pairwise fun t t' => t.1 ≠ t'.1 :=
    List.pairwise_map.mp (show Report.fieldNames.Nodup by decide)
  obtain ⟨q, hwrite, hq, hannotates, htexts⟩ := h.setMetas_spec place r.fields hk
    (fun t ht => ⟨_, hnames t.1 (hfield t ht)⟩) <|
      hdist.imp_of_mem fun ht ht' hne heq => hne <| by
        rw [hnames _ (hfield _ ht), hnames _ (hfield _ ht'), Except.ok.injEq] at heq
        exact hinj _ (hfield _ ht) _ (hfield _ ht') heq
  refine ⟨q, hwrite, hq, hannotates.mono ?_, htexts⟩
  rintro n ⟨t, ht, hn⟩
  rw [hnames t.1 (hfield t ht), Except.ok.injEq] at hn
  exact ⟨t.1, hfield t ht, hn.symm⟩

/-- **To record an error** writes its fields and its number, and nothing else. -/
theorem setError_texts (h : p.Balanced S R P H L) (hk : k.id ∈ H) (r : Report) :
    ∃ q, r.setError p k = .ok q ∧ q.Balanced S R P H L ∧
      p.Annotates Report.errorNames k.id q ∧ q.metaText? k "error" = some r.number ∧
      ∀ t ∈ r.fields, q.metaText? k ("error" ++ "/" ++ t.1) = some t.2 := by
  obtain ⟨p₁, hset, h₁, hannotates₁, htext⟩ := h.setMeta_spec hk Report.metaName_error r.number
  obtain ⟨q, hwrite, hq, hannotates, htexts⟩ := h₁.write_spec hk Report.metaName_errorField
    (fun field _ field' _ heq => by simpa using heq) r
  refine ⟨q, bind_eq_ok.mpr ⟨p₁, hset, hwrite⟩, hq,
    (hannotates₁.mono ?_).trans (hannotates.mono ?_), ?_, htexts⟩
  · rintro _ rfl
    exact .inl rfl
  · exact fun n hn => .inr hn
  · -- the name of a field is longer
    rw [h₁.metaText?_kept hq hannotates Report.metaName_error (by simp), htext]

/-- **An error is read as it was written**, and nothing else is written. -/
theorem error?_setError (h : p.Balanced S R P H L) (hk : k.id ∈ H) (r : Report) :
    ∃ q, r.setError p k = .ok q ∧ q.Balanced S R P H L ∧
      p.Annotates Report.errorNames k.id q ∧ Report.error? q k = some r := by
  obtain ⟨q, hset, hq, hannotates, -, htexts⟩ := h.setError_texts hk r
  exact ⟨q, hset, hq, hannotates, Report.read?_of_fields htexts⟩

end Pool.Balanced

end ConfigKeys
