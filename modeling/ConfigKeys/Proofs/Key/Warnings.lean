import ConfigKeys.Proofs.Key.Report
import ConfigKeys.Proofs.Name.Bounds
import ConfigKeys.Proofs.Name.Kinship
import ConfigKeys.Proofs.Name.Rootless

/-!
# Warnings form a ring

The mark of the last warning is all that a key says about the state of its ring: the next warning
goes to the place behind it, in front again after the last place.  So a warning stays until the ring
has gone round once, and then all its fields give way to those of a later one.

## Main definitions

* `Report.lastPlace?` — the place of the last one of some warnings.
* `Report.Rings` — the metadata of a key has the last ones of some warnings, each at its place.
* `Report.Added` — a warning was added at a place.
* `Report.SameWarnings` — two pools say the same of the warnings of a key.
* `Pool.KeepsWarnings` — no text of a warning was written.

## Main results

* `Pool.Balanced.added_addWarning` — what a warning writes, whatever the ring is.
* `Report.Added.rings` — **a warning goes to the next place**, and those before it stay.
* `Pool.Balanced.addWarningsAfter_spec` — so do warnings one after the other.
* `Pool.Balanced.addWarningsAfter_same` — what is the same stays so where the same is added.
* `Report.Rings.warnings` — **the last hundred warnings are read**, each at its place.
-/

namespace ConfigKeys
namespace Report

variable {p q : Pool} {k : Key} {i j n : Nat} {field : String} {r : Report} {reports : List Report}

/-! ### Marks -/

/-- A mark has two digits. -/
theorem toList_mark : ∀ index < ringSize,
    (mark index).toList = ['#', Nat.digitChar (index / 10), Nat.digitChar (index % 10)] := by
  decide +kernel

/-- The index is read off its mark. -/
theorem indexOf?_mark : ∀ index < ringSize, indexOf? (mark index) = some (.ofNat index) := by
  decide +kernel

/-- **The next index** is one more, round the ring, unless there is no word for one more. -/
theorem toNat_indexAfter {last : UInt64} (h : last ≠ maxIndex) :
    (indexAfter last).toNat = (last.toNat + 1) % ringSize := by
  have hlt : last.toNat + 1 < 2 ^ 64 := by
    have hne : last.toNat ≠ 2 ^ 64 - 1 := fun heq => h (UInt64.toNat_inj.mp heq)
    have hbound := last.toNat_lt
    omega
  rw [indexAfter, UInt64.toNat_mod, UInt64.toNat_add]
  show (last.toNat + 1) % 2 ^ 64 % ringSize = _
  rw [Nat.mod_eq_of_lt hlt]

theorem escape_mark : ∀ index < ringSize, Segment.escape (mark index) = mark index := by
  decide +kernel

theorem mark_inj (hi : i < ringSize) (hj : j < ringSize) : mark i = mark j ↔ i = j := by
  constructor
  · intro h
    have hread := indexOf?_mark i hi
    rw [h, indexOf?_mark j hj] at hread
    have hword := congrArg UInt64.toNat (Option.some.inj hread)
    rw [UInt64.toNat_ofNat', UInt64.toNat_ofNat'] at hword
    unfold ringSize at hi hj
    omega
  · rintro rfl
    rfl

/-! ### Names -/

/-- The name of the entry at which the ring stands. -/
def warningsRoot : Name := ⟨.cascading, ["warnings"]⟩

theorem metaName_warnings : metaName "warnings" = .ok warningsRoot := by
  decide +kernel

theorem size_mark : ∀ index < ringSize, (mark index).utf8ByteSize = 3 := by
  decide +kernel

/-- A field of a warning has a name of its own. -/
theorem metaName_warning (hi : i < ringSize) (hfield : field ∈ fieldNames) :
    metaName (place i ++ "/" ++ field) = .ok (warningsRoot.below [mark i, field]) := by
  obtain ⟨hescape, hsize⟩ : Segment.escape field = field ∧ field.utf8ByteSize ≤ 11 := by
    revert field
    decide +kernel
  have hword : Segment.escape "warnings" = "warnings" := by decide +kernel
  have hwritten : Name.rootless ["warnings", mark i, field] = place i ++ "/" ++ field := by
    rw [Name.rootless, List.map_cons, List.map_cons, List.map_singleton, hword, escape_mark i hi,
      hescape, String.intercalate_cons_cons, String.intercalate_cons_cons,
      String.intercalate_singleton, place]
    simp only [String.append_assoc]
    rfl
  have hfits : Name.Fits {} ⟨.cascading, ["warnings", mark i, field]⟩ := by
    refine ⟨?_, Nat.le_of_ble_eq_true rfl⟩
    rw [Name.canonical_cascading, hwritten, place]
    simp only [String.utf8ByteSize_append, size_mark i hi]
    show 1 + (9 + 3 + 1 + field.utf8ByteSize) ≤ 65536
    omega
  rw [← hwritten, metaName_rootless (List.cons_ne_nil _ _) hfits,
    Name.ofRootless_of_notMem (by decide)]
  rfl

theorem warning_inj {field' : String} (hi : i < ringSize) (hj : j < ringSize) :
    warningsRoot.below [mark i, field] = warningsRoot.below [mark j, field'] ↔
      i = j ∧ field = field' := by
  rw [Name.below_inj, List.cons.injEq, mark_inj hi hj, List.cons.injEq, and_iff_left rfl]

/-! ### What a ring is -/

/-- The place of the last one of some warnings. -/
def lastPlace? : Nat → Option Nat
  | 0 => none
  | n + 1 => some (n % ringSize)

/-- The metadata of a key has the last ones of some warnings, each at its place in the ring, and
none else. -/
structure Rings (reports : List Report) (p : Pool) (k : Key) : Prop where
  /-- The key has the mark of the last one. -/
  last : p.metaText? k "warnings" = (lastPlace? reports.length).map mark
  /-- Until the ring has gone round, a warning is at its place, with all fields. -/
  recent : ∀ j r, reports[j]? = some r → reports.length ≤ j + ringSize → ∀ t ∈ r.fields,
    p.metaText? k (place (j % ringSize) ++ "/" ++ t.1) = some t.2
  /-- Behind them the places are empty. -/
  empty : ∀ i, reports.length ≤ i → i < ringSize → ∀ field ∈ fieldNames,
    p.metaText? k (place i ++ "/" ++ field) = none

/-- The place of the next warning of a key. -/
def nextPlace (p : Pool) (k : Key) : Nat :=
  match lastWarning? p k with
  | none => 0
  | some last => (indexAfter last).toNat

/-- A warning was added at a place. -/
structure Added (p : Pool) (k : Key) (i : Nat) (r : Report) (q : Pool) : Prop where
  /-- The key has the mark of the place. -/
  mark : q.metaText? k "warnings" = some (mark i)
  /-- The warning is there, with all fields. -/
  fields : ∀ t ∈ r.fields, q.metaText? k (place i ++ "/" ++ t.1) = some t.2
  /-- The other places are what they were. -/
  others : ∀ j < ringSize, j ≠ i → ∀ field ∈ fieldNames,
    q.metaText? k (place j ++ "/" ++ field) = p.metaText? k (place j ++ "/" ++ field)
  /-- Nothing is written outside of the ring. -/
  annotates : p.Annotates { n | n.isBelowOrSame warningsRoot = true } k.id q

/-- All handles on a record see the same ring. -/
theorem Rings.congr {k' : Key} (h : Rings reports p k) (hid : k.id = k'.id) :
    Rings reports p k' := by
  obtain ⟨id, cursor⟩ := k
  obtain ⟨id', cursor'⟩ := k'
  obtain rfl : id = id' := hid
  exact ⟨h.last, h.recent, h.empty⟩

/-- Where metadata has no name at or below the place of the ring, there are no warnings. -/
theorem Rings.nil (h : ∀ n ∈ p.metaNames k, n.isBelowOrSame warningsRoot = false) :
    Rings [] p k := by
  have hnone : ∀ raw n, metaName raw = .ok n → n.isBelowOrSame warningsRoot = true →
      p.metaText? k raw = none := by
    intro raw n hn hbelow
    apply Pool.metaText?_eq_none hn
    intro hmem
    rw [h n hmem] at hbelow
    cases hbelow
  refine ⟨hnone _ _ metaName_warnings (Name.isBelowOrSame_below _ []), fun j r hr => ?_,
    fun i _ hi field hmem => hnone _ _ (metaName_warning hi hmem) (Name.isBelowOrSame_below _ _)⟩
  rw [List.getElem?_nil] at hr
  cases hr

theorem place_lt (j : Nat) : j % ringSize < ringSize := Nat.mod_lt j (by decide)

theorem nextPlace_lt (p : Pool) (k : Key) : nextPlace p k < ringSize := by
  unfold nextPlace
  split
  · decide
  · rw [indexAfter, UInt64.toNat_mod]
    exact place_lt _

/-- **A warning goes to the place behind the last one**, unless there is no index for one more. -/
theorem nextPlace_of_lastWarning? {last : UInt64} (h : lastWarning? p k = some last)
    (hlast : last ≠ maxIndex) : nextPlace p k = (last.toNat + 1) % ringSize := by
  rw [nextPlace, h]
  exact toNat_indexAfter hlast

theorem addWarning_eq (p : Pool) (k : Key) (r : Report) :
    r.addWarning p k = (do
      let q ← r.write p k (place (nextPlace p k))
      let q ← q.setMeta k "warnings" (mark (nextPlace p k))
      .ok (nextPlace p k, q)) := rfl

theorem lt_of_lastPlace? (h : lastPlace? n = some i) : i < ringSize := by
  cases n with
  | zero => cases h
  | succ n => exact Option.some.inj h ▸ place_lt n

theorem Rings.lastWarning?_eq (h : Rings reports p k) :
    lastWarning? p k = (lastPlace? reports.length).map UInt64.ofNat := by
  rw [lastWarning?, h.last]
  rcases hlast : lastPlace? reports.length with _ | i
  · rfl
  · exact indexOf?_mark i (lt_of_lastPlace? hlast)

/-- The indices of a ring are far from the greatest one. -/
theorem ofNat_ne_maxIndex (hi : i < ringSize) : UInt64.ofNat i ≠ maxIndex := by
  revert i
  decide +kernel

/-- In a ring, a warning goes to the place of its number. -/
theorem Rings.nextPlace_eq (h : Rings reports p k) :
    nextPlace p k = reports.length % ringSize := by
  have hlast := h.lastWarning?_eq
  cases hlength : reports.length with
  | zero =>
    rw [hlength] at hlast
    rw [nextPlace, hlast]
    rfl
  | succ n =>
    rw [hlength] at hlast
    have hword : (UInt64.ofNat (n % ringSize)).toNat = n % ringSize :=
      Nat.mod_eq_of_lt (Nat.lt_trans (place_lt n) (by decide))
    rw [nextPlace_of_lastWarning? hlast (ofNat_ne_maxIndex (place_lt n)), hword, Nat.mod_add_mod]

theorem read?_eq_none {place : String} (h : p.metaText? k (place ++ "/" ++ "number") = none) :
    read? p k place = none := by
  rw [read?]
  simp only [h]
  rfl

/-- **A warning goes to the next place**, and those before it stay until the ring has gone round. -/
theorem Added.rings (h : Added p k (reports.length % ringSize) r q)
    (hrings : Rings reports p k) : Rings (reports ++ [r]) q k := by
  have hi := place_lt reports.length
  refine ⟨?_, ?_, ?_⟩
  · rw [h.mark, List.length_append, List.length_singleton]
    rfl
  · intro j r' hr' hlast t ht
    rw [List.length_append, List.length_singleton] at hlast
    have hmem : t.1 ∈ fieldNames := List.mem_map_of_mem ht
    rcases Nat.lt_or_ge j reports.length with hj | hj
    · -- fewer warnings than there are places came after this one
      have hne : j % ringSize ≠ reports.length % ringSize := by
        unfold ringSize at hlast ⊢
        omega
      rw [List.getElem?_append_left hj] at hr'
      rw [h.others _ (place_lt j) hne t.1 hmem]
      exact hrings.recent j r' hr' (Nat.le_of_succ_le hlast) t ht
    · rw [List.getElem?_append_right hj] at hr'
      obtain ⟨hzero, rfl⟩ := List.getElem?_eq_some_iff.mp hr'
      obtain rfl : j = reports.length :=
        Nat.le_antisymm (Nat.sub_eq_zero_iff_le.mp (Nat.lt_one_iff.mp hzero)) hj
      simp only [Nat.sub_self, List.getElem_singleton] at ht
      exact h.fields t ht
  · intro i hfrom hi' field hmem
    rw [List.length_append, List.length_singleton] at hfrom
    have hne : i ≠ reports.length % ringSize := by
      rw [Nat.mod_eq_of_lt (Nat.lt_of_succ_le (Nat.le_trans hfrom (Nat.le_of_lt hi')))]
      omega
    rw [h.others i hi' hne field hmem]
    exact hrings.empty i (Nat.le_of_succ_le hfrom) hi' field hmem

/-! ### Reading -/

/-- Where there is something for each of the first numbers, and nothing for the others, it is found
in order. -/
theorem filterMap_range {α : Type} {f : Nat → Option α} {m n : Nat} (hle : m ≤ n)
    (hfound : ∀ i < m, (f i).isSome = true) (hnone : ∀ i, m ≤ i → i < n → f i = none) :
    ((List.range n).filterMap f).length = m ∧
      ∀ i < m, ((List.range n).filterMap f)[i]? = f i := by
  induction n, hle using Nat.le_induction with
  | base =>
    clear hnone
    induction m with
    | zero => exact ⟨rfl, nofun⟩
    | succ m ih =>
      obtain ⟨hlength, hplaces⟩ := ih fun i hi => hfound i (Nat.lt_succ_of_lt hi)
      obtain ⟨a, ha⟩ := Option.isSome_iff_exists.mp (hfound m (Nat.lt_succ_self m))
      rw [List.range_succ, List.filterMap_append, List.filterMap_cons_some ha, List.filterMap_nil]
      refine ⟨by rw [List.length_append, hlength, List.length_singleton], fun i hi => ?_⟩
      rcases Nat.lt_succ_iff_lt_or_eq.mp hi with hi | rfl
      · rw [List.getElem?_append_left (hlength.symm ▸ hi), hplaces i hi]
      · rw [List.getElem?_append_right (Nat.le_of_eq hlength), hlength, Nat.sub_self, ha]
        rfl
  | succ n hle ih =>
    rw [List.range_succ, List.filterMap_append,
      List.filterMap_cons_none (hnone n hle (Nat.lt_succ_self n)), List.filterMap_nil,
      List.append_nil]
    exact ih fun i hi hlt => hnone i hi (Nat.lt_succ_of_lt hlt)

/-- Each place that the ring has reached has a warning that is not older than one round. -/
theorem exists_latest {n i : Nat} (hi : i < min n ringSize) :
    ∃ j < n, n ≤ j + ringSize ∧ j % ringSize = i := by
  unfold ringSize at hi ⊢
  refine ⟨i + 100 * ((n - 1 - i) / 100), ?_, ?_, ?_⟩ <;> omega

/-- **The last warnings are read**, each at its place. -/
theorem Rings.warnings (h : Rings reports p k) :
    (Report.warnings p k).length = min reports.length ringSize ∧
      ∀ j r, reports[j]? = some r → reports.length ≤ j + ringSize →
        (Report.warnings p k)[j % ringSize]? = some r := by
  have hread : ∀ j r, reports[j]? = some r → reports.length ≤ j + ringSize →
      read? p k (place (j % ringSize)) = some r :=
    fun j r hr hlast => read?_of_fields (h.recent j r hr hlast)
  have hwarnings : Report.warnings p k
      = (List.range ringSize).filterMap fun index => read? p k (place index) := by
    rw [Report.warnings, h.lastWarning?_eq]
    rcases hn : reports.length with _ | n
    · -- a ring that no warning has reached is empty at all places
      refine (List.filterMap_eq_nil_iff.mpr fun i hi => ?_).symm
      exact read?_eq_none (h.empty i (hn ▸ Nat.zero_le i) (List.mem_range.mp hi) "number" (.head _))
    · rfl
  have hfound : ∀ i < min reports.length ringSize, (read? p k (place i)).isSome = true := by
    intro i hi
    obtain ⟨j, hj, hlast, rfl⟩ := exists_latest hi
    rw [hread j _ (List.getElem?_eq_getElem hj) hlast]
    rfl
  have hnone : ∀ i, min reports.length ringSize ≤ i → i < ringSize →
      read? p k (place i) = none := by
    intro i hfrom hi
    have hout : reports.length ≤ i := (min_le_iff.mp hfrom).resolve_right (Nat.not_le.mpr hi)
    exact read?_eq_none (h.empty i hout hi "number" (.head _))
  obtain ⟨hlength, hplaces⟩ := filterMap_range (Nat.min_le_right _ _) hfound hnone
  rw [hwarnings]
  refine ⟨hlength, fun j r hr hlast => ?_⟩
  obtain ⟨hj, -⟩ := List.getElem?_eq_some_iff.mp hr
  have hreached : j % ringSize < min reports.length ringSize :=
    Nat.lt_min.mpr ⟨Nat.lt_of_le_of_lt (Nat.mod_le j ringSize) hj, place_lt j⟩
  rw [hplaces _ hreached, hread j r hr hlast]

/-! ### The same ring -/

/-- Two pools say the same of the warnings of a key. -/
structure SameWarnings (p q : Pool) (k : Key) : Prop where
  /-- They have the same mark. -/
  mark : q.metaText? k "warnings" = p.metaText? k "warnings"
  /-- They have the same texts at each place. -/
  fields : ∀ i < ringSize, ∀ field ∈ fieldNames,
    q.metaText? k (place i ++ "/" ++ field) = p.metaText? k (place i ++ "/" ++ field)

theorem SameWarnings.refl (p : Pool) (k : Key) : SameWarnings p p k :=
  ⟨rfl, fun _ _ _ _ => rfl⟩

theorem SameWarnings.symm (h : SameWarnings p q k) : SameWarnings q p k :=
  ⟨h.mark.symm, fun i hi field hfield => (h.fields i hi field hfield).symm⟩

theorem SameWarnings.trans {q' : Pool} (h : SameWarnings p q k) (h' : SameWarnings q q' k) :
    SameWarnings p q' k :=
  ⟨h'.mark.trans h.mark, fun i hi field hfield =>
    (h'.fields i hi field hfield).trans (h.fields i hi field hfield)⟩

theorem SameWarnings.congr {k' : Key} (h : SameWarnings p q k) (hid : k.id = k'.id) :
    SameWarnings p q k' := by
  obtain ⟨id, cursor⟩ := k
  obtain ⟨id', cursor'⟩ := k'
  obtain rfl : id = id' := hid
  exact ⟨h.mark, h.fields⟩

theorem SameWarnings.lastWarning?_eq (h : SameWarnings p q k) :
    lastWarning? q k = lastWarning? p k := by
  rw [lastWarning?, lastWarning?, h.mark]

theorem SameWarnings.nextPlace_eq (h : SameWarnings p q k) : nextPlace q k = nextPlace p k := by
  unfold nextPlace
  rw [h.lastWarning?_eq]

/-- Then the same warnings are read. -/
theorem SameWarnings.warnings_eq (h : SameWarnings p q k) :
    Report.warnings q k = Report.warnings p k := by
  have hread : ∀ i ∈ List.range ringSize, read? q k (place i) = read? p k (place i) := by
    intro i hi
    apply read?_congr
    exact h.fields i (List.mem_range.mp hi)
  unfold Report.warnings
  rw [h.lastWarning?_eq, List.filterMap_congr hread]

/-- A warning that is added on both sides keeps them the same. -/
theorem Added.same {p' q' : Pool} (h : Added p k i r p') (h' : Added q k i r q')
    (hsame : SameWarnings p q k) : SameWarnings p' q' k := by
  refine ⟨h'.mark.trans h.mark.symm, fun j hj field hfield => ?_⟩
  by_cases heq : j = i
  · subst heq
    obtain ⟨t, ht, rfl⟩ := List.mem_map.mp (show field ∈ r.fields.map Prod.fst from hfield)
    rw [h'.fields t ht, h.fields t ht]
  · rw [h'.others j hj heq field hfield, h.others j hj heq field hfield,
      hsame.fields j hj field hfield]

end Report

/-! ### Writing -/

namespace Pool

open Report

variable {p q : Pool} {S R : List (List Key)} {P H L : List RecordId} {k : Key}
variable {reports : List Report}

/-- The texts at and below the place of the ring are what they were. -/
def KeepsWarnings (p : Pool) (k : Key) (q : Pool) : Prop :=
  ∀ raw n, metaName raw = .ok n → n.isBelowOrSame warningsRoot = true →
    q.metaText? k raw = p.metaText? k raw

theorem KeepsWarnings.same (h : p.KeepsWarnings k q) : SameWarnings p q k where
  mark := h _ _ metaName_warnings (Name.isBelowOrSame_below _ [])
  fields _ hi _ hfield := h _ _ (metaName_warning hi hfield) (Name.isBelowOrSame_below _ _)

/-- **A ring that is left alone stays.** -/
theorem KeepsWarnings.rings (h : p.KeepsWarnings k q) (hrings : Rings reports p k) :
    Rings reports q k := by
  refine ⟨?_, fun j r hr hlast t ht => ?_, fun i hfrom hi field hmem => ?_⟩
  · rw [h.same.mark, hrings.last]
  · rw [h.same.fields _ (place_lt j) t.1 (List.mem_map_of_mem ht), hrings.recent j r hr hlast t ht]
  · rw [h.same.fields i hi field hmem, hrings.empty i hfrom hi field hmem]

/-- **A warning that is added** goes to the next place, whatever the ring is, and nothing else is
written. -/
theorem Balanced.added_addWarning (h : p.Balanced S R P H L) (hk : k.id ∈ H) (r : Report) :
    ∃ q, r.addWarning p k = .ok (nextPlace p k, q) ∧ q.Balanced S R P H L ∧
      Added p k (nextPlace p k) r q := by
  have hi := nextPlace_lt p k
  obtain ⟨q₁, hwrite, h₁, hannotates₁, htexts⟩ := h.write_spec hk
    (fun field hfield => metaName_warning hi hfield)
    (fun field _ field' _ heq => ((warning_inj hi hi).mp heq).2) r
  obtain ⟨q, hset, hq, hannotates, hmark⟩ :=
    h₁.setMeta_spec hk metaName_warnings (mark (nextPlace p k))
  -- the mark is not the name of a field
  have hfields : ∀ i < ringSize, ∀ field ∈ fieldNames,
      q.metaText? k (place i ++ "/" ++ field) = q₁.metaText? k (place i ++ "/" ++ field) := by
    intro i hi field hmem
    apply h₁.metaText?_kept hq hannotates (metaName_warning hi hmem)
    simp [Name.below, warningsRoot]
  refine ⟨q, ?_, hq, hmark, fun t ht => ?_, fun i hi' hne field hmem => ?_,
    (hannotates₁.mono ?_).trans (hannotates.mono ?_)⟩
  · rw [addWarning_eq, bind_eq_ok]
    exact ⟨q₁, hwrite, bind_eq_ok.mpr ⟨q, hset, rfl⟩⟩
  · rw [hfields _ hi t.1 (List.mem_map_of_mem ht)]
    exact htexts t ht
  · rw [hfields i hi' field hmem]
    apply h.metaText?_kept h₁ hannotates₁ (metaName_warning hi' hmem)
    rintro ⟨field', -, heq⟩
    exact hne ((warning_inj hi' hi).mp heq).1
  · rintro _ ⟨field, -, rfl⟩
    exact Name.isBelowOrSame_below _ _
  · rintro _ rfl
    exact Name.isBelowOrSame_below _ []

/-- **Warnings go to one place after the other.** -/
theorem Balanced.addWarningsAfter_spec (h : p.Balanced S R P H L) (hk : k.id ∈ H)
    (hrings : Rings reports p k) (new : List Report) (found : List Nat) :
    ∃ q, Session.addWarningsAfter p k found new = .ok (found.reverse
        ++ (List.range' reports.length new.length).map (· % ringSize), q) ∧
      q.Balanced S R P H L ∧ Rings (reports ++ new) q k := by
  induction new generalizing p reports found with
  | nil =>
    refine ⟨p, ?_, h, (List.append_nil reports).symm ▸ hrings⟩
    rw [Session.addWarningsAfter, List.length_nil, List.range'_zero, List.map_nil, List.append_nil]
  | cons r new ih =>
    obtain ⟨p₁, hadd, h₁, hadded⟩ := h.added_addWarning hk r
    rw [hrings.nextPlace_eq] at hadd hadded
    obtain ⟨q, hrest, hq, hringsq⟩ := ih h₁ (hadded.rings hrings) (reports.length % ringSize :: found)
    refine ⟨q, ?_, hq, List.append_cons reports r new ▸ hringsq⟩
    rw [Session.addWarningsAfter, bind_eq_ok]
    refine ⟨(reports.length % ringSize, p₁), hadd, hrest.trans ?_⟩
    rw [List.reverse_cons, List.append_assoc, List.length_append, List.length_singleton,
      List.length_cons, List.range'_succ, List.map_cons, List.singleton_append]

/-- **Warnings that are added on both sides** go to the same places, and nothing else is written. -/
theorem Balanced.addWarningsAfter_same {S' R' : List (List Key)} {P' H' L' : List RecordId}
    (hp : p.Balanced S R P H L) (hq : q.Balanced S' R' P' H' L') (hk : k.id ∈ H) (hk' : k.id ∈ H')
    (hsame : SameWarnings p q k) (new : List Report) (found : List Nat) :
    ∃ indices p' q', Session.addWarningsAfter p k found new = .ok (indices, p') ∧
      Session.addWarningsAfter q k found new = .ok (indices, q') ∧ p'.Balanced S R P H L ∧
      p.Annotates { n | n.isBelowOrSame warningsRoot = true } k.id p' ∧ SameWarnings p' q' k := by
  induction new generalizing p q found with
  | nil => exact ⟨found.reverse, p, q, rfl, rfl, hp, .refl _ _ p, hsame⟩
  | cons r new ih =>
    obtain ⟨p₁, hadd, hp₁, hadded⟩ := hp.added_addWarning hk r
    obtain ⟨q₁, hadd', hq₁, hadded'⟩ := hq.added_addWarning hk' r
    rw [hsame.nextPlace_eq] at hadd' hadded'
    obtain ⟨indices, p', q', hrest, hrest', hbal, hannotates, hafter⟩ :=
      ih hp₁ hq₁ (hadded.same hadded' hsame) (nextPlace p k :: found)
    refine ⟨indices, p', q', ?_, ?_, hbal, hadded.annotates.trans hannotates, hafter⟩
    · rw [Session.addWarningsAfter, bind_eq_ok]
      exact ⟨(nextPlace p k, p₁), hadd, hrest⟩
    · rw [Session.addWarningsAfter, bind_eq_ok]
      exact ⟨(nextPlace p k, q₁), hadd', hrest'⟩

end Pool
end ConfigKeys
