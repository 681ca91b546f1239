import ConfigKeys.Proofs.Key.Report

/-!
# Errors are written and taken off without side effects

An error is five entries of the metadata of a key.  To record one writes these and no others, and to
take it off removes these and no others, whatever the metadata was before: every other entry is the
same record as before, in the same order, and says what it said.

## Main definitions

* `Report.otherEntries` — the entries of a key that have nothing to do with its error.
* `Report.WritesError` — of a key, only the error was written.
* `Report.Carries` — a key carries an error, or none.

## Main results

* `Pool.Balanced.dropAll_spec` — entries that are dropped one after the other are gone.
* `Pool.Balanced.setError_spec` — **to record an error.**
* `Pool.Balanced.clearError_spec` — **to take an error off.**
-/

namespace ConfigKeys

namespace Pool

variable {p q q' : Pool} {S R : List (List Key)} {P H L : List RecordId} {k e : Key} {n : Name}
variable {names : Set Name} {raw : String} {raws : List String}

/-! ### Dropping entries -/

/-- What the records say after an entry was dropped. -/
theorem of_find?_dropEntry {i : RecordId} {r' : Record} (hi : i < p.nextId)
    (h : (dropHanded (p.removeEntry k n)).find? i = some r') :
    ∃ r, p.find? i = some r ∧ r'.name = r.name ∧ r'.value = r.value ∧
      (i ≠ k.id → r'.entries = r.entries) := by
  rw [removeEntry] at h
  rcases hget : Registry.get? p (p.entries k) n with _ | e
  · simp only [hget] at h
    exact ⟨r', h, rfl, rfl, fun _ => rfl⟩
  · simp only [hget] at h
    -- once the metadata is written, what is let go changes nothing that stays
    have hev := ((Evolves.refl ∅ ∅ (p.modify k.id fun r =>
      { r with entries := Registry.without p (p.entries k) n })).unlock e.id).reclaim e.id
    obtain ⟨r₁, hr₁, hname, hsame, -⟩ := hev.kept i r' (by rwa [nextId_modify]) h
    obtain ⟨hvalue, hentries⟩ := hsame (Set.notMem_empty i)
    rw [hname (Set.notMem_empty i), hvalue, hentries]
    rw [find?_modify] at hr₁
    split at hr₁
    · next heq =>
      obtain ⟨r, hr, rfl⟩ := Option.map_eq_some_iff.mp hr₁
      exact ⟨r, hr, rfl, rfl, fun hne => absurd heq hne⟩
    · exact ⟨r₁, hr₁, rfl, rfl, fun _ => rfl⟩

/-- **To drop an entry annotates**, and the entry is gone. -/
theorem Balanced.dropMeta_spec (h : p.Balanced S R P H L) (hp : p.Forward) (hsingle : p.Single)
    (hk : k.id ∈ H) (hn : metaName raw = .ok n) :
    ∃ q, Report.dropMeta p k raw = .ok q ∧ q.Balanced S R P H L ∧ p.Annotates {n} k.id q ∧
      Registry.get? q (q.entries k) n = none := by
  obtain ⟨o, ho, -⟩ := h.exists_of_handle hk
  have hq : (Pool.dropHanded (p.removeEntry k n)).Balanced S R P H L := (h.removeEntry k n).dropHanded
  have hev : (p.removeEntry k n).2.Evolves ∅ ∅ (Pool.dropHanded (p.removeEntry k n)) :=
    .dropHanded (.refl _ _ _)
  have hall : p.Evolves ∅ {k.id} (Pool.dropHanded (p.removeEntry k n)) :=
    ((Evolves.refl ∅ {k.id} p).removeEntry rfl n).dropHanded
  obtain ⟨o', ho', -⟩ := hq.exists_of_handle hk
  have hreplaces := h.replaces_removeEntry hq hp hsingle (find?_lt ho) hev ⟨o', ho'⟩
  refine ⟨_, ?_, hq, ⟨hall.grows, fun i r' hi => of_find?_dropEntry hi, ?_⟩, hreplaces.get?_self hq⟩
  · rw [Report.dropMeta, Pool.removeMeta, hn]
    rfl
  · intro f hf
    obtain ⟨before, after, haround, hsplit⟩ := hreplaces.places
    change ((Pool.dropHanded (p.removeEntry k n)).entries k).filter _ = (p.entries k).filter _
    rw [hsplit]
    refine haround.filter_eq none (hf n rfl) hreplaces.name fun e he => ?_
    obtain ⟨hmem, hname⟩ := haround.mem_others.mp he
    exact (hreplaces.others e hmem hname).1

/-- The names that texts stand for. -/
def namesOf (raws : List String) : Set Name := { n | ∃ raw ∈ raws, metaName raw = .ok n }

/-- **Entries that are dropped one after the other** are gone, and no others are. -/
theorem Balanced.dropAll_spec (h : p.Balanced S R P H L) (hp : p.Forward) (hsingle : p.Single)
    (hk : k.id ∈ H) (hraws : ∀ raw ∈ raws, ∃ n, metaName raw = .ok n) :
    ∃ q, raws.foldlM (fun p raw => Report.dropMeta p k raw) p = .ok q ∧ q.Balanced S R P H L ∧
      p.Annotates (namesOf raws) k.id q ∧
      ∀ n ∈ namesOf raws, Registry.get? q (q.entries k) n = none := by
  induction raws generalizing p with
  | nil => exact ⟨p, rfl, h, .refl _ _ p, fun n ⟨raw, hraw, _⟩ => absurd hraw List.not_mem_nil⟩
  | cons raw raws ih =>
    obtain ⟨⟨n, hn⟩, hrest⟩ := List.forall_mem_cons.mp hraws
    obtain ⟨p₁, hdrop, h₁, hannotates₁, hgone⟩ := h.dropMeta_spec hp hsingle hk hn
    have hev : p.Evolves ∅ {k.id} p₁ := (Evolves.refl ∅ {k.id} p).dropMeta rfl hdrop
    obtain ⟨q, hdrops, hq, hannotates, hnone⟩ := ih h₁ (hev.forward hp) (hev.single hp hsingle) hrest
    refine ⟨q, ?_, hq, (hannotates₁.mono ?_).trans (hannotates.mono ?_), ?_⟩
    · rw [List.foldlM_cons, bind_eq_ok]
      exact ⟨p₁, hdrop, hdrops⟩
    · rintro _ rfl
      exact ⟨raw, List.mem_cons_self, hn⟩
    · rintro m ⟨raw', hraw', hm⟩
      exact ⟨raw', List.mem_cons_of_mem raw hraw', hm⟩
    · rintro m ⟨raw', hraw', hm⟩
      by_cases hlater : m ∈ namesOf raws
      · exact hnone m hlater
      · -- what was dropped first is not dropped again, and does not come back
        rcases List.mem_cons.mp hraw' with rfl | hraw'
        · obtain rfl := Except.ok.inj (hn.symm.trans hm)
          rw [hannotates.get? hlater, hgone]
        · exact absurd ⟨raw', hraw', hm⟩ hlater

end Pool

/-! ### Errors -/

namespace Report

open Pool

variable {p q q' : Pool} {S R : List (List Key)} {P H L : List RecordId} {k k' e : Key}
variable {r : Report} {names : Set Name}

instance (n : Name) : Decidable (n ∈ errorNames) :=
  inferInstanceAs (Decidable (n = ⟨.cascading, ["error"]⟩ ∨
    ∃ field ∈ fieldNames, n = ⟨.cascading, ["error", field]⟩))

/-- The texts under which an error is taken off stand for the names of its entries. -/
theorem namesOf_error : namesOf ("error" :: fieldNames.map ("error/" ++ ·)) = errorNames := by
  ext n
  constructor
  · rintro ⟨raw, hraw, hn⟩
    rcases List.mem_cons.mp hraw with rfl | hraw
    · rw [metaName_error] at hn
      exact .inl (Except.ok.inj hn).symm
    · obtain ⟨field, hfield, rfl⟩ := List.mem_map.mp hraw
      exact .inr ⟨field, hfield, Except.ok.inj (hn.symm.trans (metaName_errorField field hfield))⟩
  · rintro (rfl | ⟨field, hfield, rfl⟩)
    · exact ⟨"error", List.mem_cons_self, metaName_error⟩
    · exact ⟨"error/" ++ field, List.mem_cons_of_mem _ (List.mem_map_of_mem hfield),
        metaName_errorField field hfield⟩

theorem exists_errorName :
    ∀ raw ∈ "error" :: fieldNames.map ("error/" ++ ·), ∃ n, metaName raw = .ok n := by
  rw [List.forall_mem_cons, List.forall_mem_map]
  exact ⟨⟨_, metaName_error⟩, fun field hfield => ⟨_, metaName_errorField field hfield⟩⟩

/-- The entries of a key that have nothing to do with its error, in order. -/
def otherEntries (p : Pool) (k : Key) : List Key :=
  (p.entries k).filter fun e => decide (p.name e ∉ errorNames)

/-- The pool `p` became `q`, and of a key only the error was written. -/
structure WritesError (p : Pool) (k : Key) (q : Pool) : Prop where
  /-- No name and no value was written, and no other metadata. -/
  annotates : p.Annotates errorNames k.id q
  /-- The other entries are the same records, in the same order. -/
  others : otherEntries q k = otherEntries p k
  /-- They say what they said. -/
  unchanged : ∀ e ∈ otherEntries p k, q.name e = p.name e ∧ q.tree e.id = p.tree e.id

/-- What a key has as its error. -/
structure Carries (p : Pool) (k : Key) (error : Option Report) : Prop where
  /-- The error is read. -/
  error? : Report.error? p k = error
  /-- Whether there is one is told. -/
  hasError : Report.hasError p k = error.isSome

/-- All handles on a record see the same error. -/
theorem Carries.congr {error : Option Report} (h : Carries p k error) (hid : k.id = k'.id) :
    Carries p k' error := by
  obtain ⟨id, cursor⟩ := k
  obtain ⟨id', cursor'⟩ := k'
  obtain rfl : id = id' := hid
  exact ⟨h.error?, h.hasError⟩

/-- What writes nothing else but an error keeps the other entries. -/
theorem writesError (hq : q.Balanced S R P H L) (hp : p.Forward) (hev : p.Evolves ∅ {k.id} q)
    (hannotates : p.Annotates errorNames k.id q) : WritesError p k q := by
  have hothers : otherEntries q k = otherEntries p k :=
    hannotates.others (fun n => decide (n ∉ errorNames)) fun n hn => by simp [hn]
  refine ⟨hannotates, hothers, fun e he => ?_⟩
  have hafter : e ∈ q.entries k := List.mem_of_mem_filter (hothers.symm ▸ he)
  exact hq.entry_eq hev hp (List.mem_of_mem_filter he) (hq.exists_of_mem hafter)

theorem WritesError.trans (h : WritesError p k q) (h' : WritesError q k q') :
    WritesError p k q' where
  annotates := h.annotates.trans h'.annotates
  others := h'.others.trans h.others
  unchanged e he := by
    obtain ⟨hname, htree⟩ := h.unchanged e he
    obtain ⟨hname', htree'⟩ := h'.unchanged e (h.others.symm ▸ he)
    exact ⟨hname'.trans hname, htree'.trans htree⟩

/-- Without an error, all entries are other ones. -/
theorem otherEntries_eq (h : ∀ n ∈ p.metaNames k, n ∉ errorNames) :
    otherEntries p k = p.entries k := by
  apply List.filter_eq_self.mpr
  intro e he
  exact decide_eq_true (h (p.name e) (List.mem_map_of_mem he))

theorem hasError_eq (p : Pool) (k : Key) : hasError p k = (p.metaText? k "error").isSome := by
  rw [hasError, Pool.metaText?, Option.isSome_map]

/-- An error goes out with its number. -/
theorem carries_none (h : ∀ n ∈ p.metaNames k, n ∉ errorNames) : Carries p k none := by
  have hnone : ∀ raw n, metaName raw = .ok n → n ∈ errorNames → p.metaText? k raw = none :=
    fun raw n hn hin => Pool.metaText?_eq_none hn fun hmem => h n hmem hin
  have hnumber := hnone _ _ (metaName_errorField "number" (.head _)) (.inr ⟨_, .head _, rfl⟩)
  constructor
  · rw [error?, read?]
    simp only [hnumber]
    rfl
  · rw [hasError_eq, hnone _ _ metaName_error (.inl rfl)]
    rfl

/-- What is written elsewhere leaves the error alone. -/
theorem Carries.annotates {error : Option Report} (h : Carries p k error)
    (hp : p.Balanced S R P H L) (hq : q.Balanced S R P H L) (hannotates : p.Annotates names k.id q)
    (hout : ∀ n ∈ names, n ∉ errorNames) : Carries q k error := by
  have hsame : ∀ raw n, metaName raw = .ok n → n ∈ errorNames →
      q.metaText? k raw = p.metaText? k raw := fun raw n hn hin =>
    hp.metaText?_kept hq hannotates hn fun hmem => hout n hmem hin
  have hfield : ∀ field ∈ fieldNames,
      q.metaText? k ("error" ++ "/" ++ field) = p.metaText? k ("error" ++ "/" ++ field) :=
    fun field hfield => hsame _ _ (metaName_errorField field hfield) (.inr ⟨field, hfield, rfl⟩)
  constructor
  · rw [← h.error?, Report.error?, Report.error?, read?_congr hfield]
  · rw [hasError_eq, hsame _ _ metaName_error (.inl rfl), ← hasError_eq, h.hasError]

end Report

namespace Pool.Balanced

open Report

variable {p : Pool} {S R : List (List Key)} {P H L : List RecordId} {k : Key}

/-- **To record an error** writes nothing else, and it is read as it was written. -/
theorem setError_spec (h : p.Balanced S R P H L) (hp : p.Forward) (hk : k.id ∈ H) (r : Report) :
    ∃ q, r.setError p k = .ok q ∧ q.Balanced S R P H L ∧ WritesError p k q ∧
      Carries q k (some r) := by
  obtain ⟨o, ho, -⟩ := h.exists_of_handle hk
  obtain ⟨q, hset, hq, hannotates, htext, htexts⟩ := h.setError_texts hk r
  have hev : p.Evolves ∅ {k.id} q := .setError (.refl ∅ {k.id} p) (find?_lt ho) rfl hset
  refine ⟨q, hset, hq, writesError hq hp hev hannotates, read?_of_fields htexts, ?_⟩
  rw [hasError_eq, htext]
  rfl

/-- **To take the error off** removes nothing else, and nothing of it is left. -/
theorem clearError_spec (h : p.Balanced S R P H L) (hp : p.Forward) (hsingle : p.Single)
    (hk : k.id ∈ H) :
    ∃ q, Report.clearError p k = .ok q ∧ q.Balanced S R P H L ∧ WritesError p k q ∧
      q.entries k = otherEntries p k ∧ Carries q k none := by
  obtain ⟨q, hdrops, hq, hannotates, hnone⟩ := h.dropAll_spec hp hsingle hk exists_errorName
  rw [namesOf_error] at hannotates hnone
  have hclear : Report.clearError p k = .ok q := by
    simp only [List.foldlM_cons, List.foldlM_map] at hdrops
    exact hdrops
  have hwrites := writesError hq hp (.clearError (.refl ∅ {k.id} p) rfl hclear) hannotates
  have hgone : ∀ n ∈ q.metaNames k, n ∉ errorNames := by
    intro n hn hin
    obtain ⟨e, he, rfl⟩ := List.mem_map.mp hn
    have hfound := hq.get?_eq_some_iff.mpr ⟨he, rfl⟩
    rw [hnone _ hin] at hfound
    cases hfound
  refine ⟨q, hclear, hq, hwrites, ?_, carries_none hgone⟩
  rw [← hwrites.others, otherEntries_eq hgone]

end Pool.Balanced

end ConfigKeys
