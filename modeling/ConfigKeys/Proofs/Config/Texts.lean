import ConfigKeys.Proofs.Config.Balance
import ConfigKeys.Proofs.KeySet.Map
import ConfigKeys.Proofs.Text.Utf8

/-!
# The texts of a set

A set whose keys are read as texts is a map from names to texts.  To put a new text into it takes
the place of the text under its name, and a set of new texts has the last text given for each name.

## Main definitions

* `KeySet.texts`, `KeySet.textAt?` — the names and texts of a set, and the text under a name.

## Main results

* `KeySet.textAt?_eq_some_iff` — a set has one text for each of its names.
* `KeySet.textAt?_kept` — what writes nothing leaves the texts alone.
* `KeySet.textAt?_appendText`, `KeySet.textAt?_ofTexts` — **new texts take the place of those under
  their names.**
-/

namespace ConfigKeys
namespace KeySet

variable {p q : Pool} {s : KeySet} {S R S' R' : List (List Key)} {P H L P' H' L' : List RecordId}
variable {n : Name} {text : String}

/-- The names and texts of the keys of a set, in order. -/
def texts (p : Pool) (s : KeySet) : List (Name × String) :=
  s.toList.map fun k => (p.name k, p.text k)

/-- The text under a name. -/
def textAt? (p : Pool) (s : KeySet) (n : Name) : Option String := (s.find? p n).map p.text

theorem map_fst_texts (p : Pool) (s : KeySet) : (s.texts p).map Prod.fst = s.toList.map p.name := by
  rw [texts, List.map_map]
  rfl

/-- No name has two texts. -/
theorem nodup_texts (h : p.Ascending s.toList) : ((s.texts p).map Prod.fst).Nodup := by
  rw [map_fst_texts]
  exact h.distinct

/-- **The text under a name** is the one that stands there. -/
theorem textAt?_eq_some_iff (h : p.Ascending s.toList) :
    s.textAt? p n = some text ↔ (n, text) ∈ s.texts p := by
  rw [textAt?, texts, Option.map_eq_some_iff, List.mem_map]
  refine exists_congr fun k => ?_
  rw [find?_eq_some_iff h, Prod.mk.injEq, and_assoc]

/-- The text looked up for a name is one given for it. -/
theorem mem_of_lookup {given : List (Name × String)} (h : given.lookup n = some text) :
    (n, text) ∈ given := by
  obtain ⟨l₁, l₂, rfl, -⟩ := List.lookup_eq_some_iff.mp h
  exact List.mem_append_right _ List.mem_cons_self

/-- In a list that gives no name two texts, the text looked up for a name is the one given. -/
theorem lookup_eq_some_iff_mem {given : List (Name × String)}
    (h : ∀ t t', (n, t) ∈ given → (n, t') ∈ given → t = t') :
    given.lookup n = some text ↔ (n, text) ∈ given := by
  refine ⟨mem_of_lookup, fun hmem => ?_⟩
  rcases hfound : given.lookup n with _ | t
  · have hnone := List.lookup_eq_none_iff.mp hfound (n, text) hmem
    simp at hnone
  · rw [h t text (mem_of_lookup hfound) hmem]

/-- A list that gives each name once gives no name two texts. -/
theorem eq_of_nodup {given : List (Name × String)} (h : (given.map Prod.fst).Nodup) (m : Name)
    (t t' : String) (hm : (m, t) ∈ given) (hm' : (m, t') ∈ given) : t = t' :=
  congrArg Prod.snd (List.inj_on_of_nodup_map h hm hm' rfl)

/-! ### What stays -/

/-- The members of a set that balances have their texts after whatever writes nothing. -/
theorem text_kept (h : p.Balanced S R P H L) (hs : s.toList ∈ S) (hev : p.Evolves ∅ ∅ q)
    (hq : q.Balanced S' R' P' H' L') (hs' : s.toList ∈ S') :
    ∀ k ∈ s.toList, q.text k = p.text k := by
  intro k hk
  obtain ⟨r, hr⟩ := h.exists_of_mem_set hs hk
  rw [Pool.text, Pool.text, hev.value_eq (Pool.find?_lt hr) (Set.notMem_empty _)
    (hq.exists_of_mem_set hs' hk)]

theorem texts_kept (h : p.Balanced S R P H L) (hs : s.toList ∈ S) (hev : p.Evolves ∅ ∅ q)
    (hq : q.Balanced S' R' P' H' L') (hs' : s.toList ∈ S') : s.texts q = s.texts p := by
  have hnames := names_kept hev (fun x hx => h.exists_of_mem_set hs hx) hq hs'
  exact List.map_congr_left fun k hk => by rw [hnames k hk, text_kept h hs hev hq hs' k hk]

/-- **What writes nothing leaves the texts alone.** -/
theorem textAt?_kept (h : p.Balanced S R P H L) (hs : s.toList ∈ S) (hev : p.Evolves ∅ ∅ q)
    (hq : q.Balanced S' R' P' H' L') (hs' : s.toList ∈ S') (n : Name) :
    s.textAt? q n = s.textAt? p n := by
  have hnames := names_kept hev (fun x hx => h.exists_of_mem_set hs hx) hq hs'
  rw [textAt?, textAt?, find?_congr (h.ascending _ hs) hnames]
  exact Option.map_congr fun k hk => text_kept h hs hev hq hs' k (mem_of_find? hk)

/-! ### Keys come in -/

/-- **A key that is appended brings its text**, in the place of the one under its name. -/
theorem textAt?_append {k : Key} {r : Record} (h : p.Balanced (s.toList :: S) R P H (k.id :: L))
    (hr : p.find? k.id = some r) (n : Name) :
    (s.append p k).2.textAt? (s.append p k).1 n
      = if n = p.name k then some (p.text k) else s.textAt? p n := by
  have hafter := h.append hr
  -- to append writes nothing, and the keys of the set were there before
  have htext : ∀ x ∈ (s.append p k).2.toList, (s.append p k).1.text x = p.text x := by
    intro x hx
    have hold : x.id < p.nextId := by
      rcases mem_append hx with rfl | hx
      · exact Pool.find?_lt hr
      · obtain ⟨r', hr'⟩ := h.exists_of_mem_set List.mem_cons_self hx
        exact Pool.find?_lt hr'
    rw [Pool.text, Pool.text, ((Pool.Evolves.refl ∅ ∅ p).append s k).value_eq hold
      (Set.notMem_empty _) (hafter.exists_of_mem_set List.mem_cons_self hx)]
  have hlookup : ∀ {q : Pool} {s' : KeySet}, q.Ascending s'.toList →
      (s'.find? q n).map p.text = ((s'.toMap q).lookup n).map fun id => p.text ⟨id, {}⟩ := by
    intro q s' hasc
    rw [lookup_toMap hasc, Option.map_map]
    rfl
  have hfound : (s.append p k).2.textAt? (s.append p k).1 n
      = ((s.append p k).2.find? (s.append p k).1 n).map p.text :=
    Option.map_congr fun x hx => htext x (mem_of_find? hx)
  rw [hfound, hlookup hafter.ascending_set, toMap_append h hr]
  split
  · next hn =>
    rw [hn, Finmap.lookup_insert]
    rfl
  · next hn => rw [Finmap.lookup_insert_of_ne _ hn, ← hlookup h.ascending_set, textAt?]

/-- **Keys that are appended bring their texts**, and later ones take the place of earlier ones. -/
theorem textAt?_appendAll {keys : List Key} (h : p.Balanced (s.toList :: S) R P H L)
    (hheld : ∀ k ∈ keys, k.id ∈ Pool.placeIds S R P ++ H) (n : Name) :
    (s.appendAll p keys).2.textAt? (s.appendAll p keys).1 n
      = ((keys.map fun k => (p.name k, p.text k)).reverse.lookup n).or (s.textAt? p n) := by
  induction keys generalizing p s with
  | nil => rfl
  | cons k keys ih =>
    obtain ⟨r, hr⟩ := h.exists_of_held_cons (hheld k List.mem_cons_self)
    have hweak := h.weaken fun _ hi => List.mem_cons_of_mem k.id hi
    have happ := hweak.append hr
    have hstep := (Pool.Evolves.refl ∅ ∅ p).append s k
    -- the keys that are still to come are held elsewhere, so they say what they said
    have hrest : keys.map (fun x => ((s.append p k).1.name x, (s.append p k).1.text x))
        = keys.map fun x => (p.name x, p.text x) := by
      refine List.map_congr_left fun x hx => ?_
      have hx' := hheld x (List.mem_cons_of_mem k hx)
      obtain ⟨r', hr'⟩ := h.exists_of_held_cons hx'
      have hlt := Pool.find?_lt hr'
      have hthere := happ.exists_of_held_cons hx'
      rw [hstep.name_eq hlt (Set.notMem_empty _) hthere, Pool.text, Pool.text,
        hstep.value_eq hlt (Set.notMem_empty _) hthere]
    rw [appendAll_cons, ih happ fun x hx => hheld x (List.mem_cons_of_mem k hx), hrest,
      textAt?_append hweak hr, List.map_cons, List.reverse_cons, List.lookup_append,
      List.lookup_cons]
    by_cases hn : n = p.name k
    · simp [hn]
    · simp [hn, beq_false_of_ne hn]

/-- **A new text takes the place of the one under its name.** -/
theorem textAt?_appendText (h : p.Balanced (s.toList :: S) R P H L) (n : Name) (text : String)
    (m : Name) :
    let done := s.append (p.alloc { name := n, value := .ofText text }) ⟨p.nextId, {}⟩
    done.2.textAt? done.1 m = if m = n then some text else s.textAt? p m := by
  intro done
  have hnew : (p.alloc { name := n, value := .ofText text }).Balanced (s.toList :: S) R P H
      (p.nextId :: L) := h.alloc rfl rfl
  have hfind : (p.alloc { name := n, value := .ofText text }).find? p.nextId
      = some { name := n, value := .ofText text } := by
    rw [Pool.find?_alloc, if_pos rfl]
  have hkept : s.textAt? (p.alloc { name := n, value := .ofText text }) m = s.textAt? p m :=
    textAt?_kept h List.mem_cons_self ((Pool.Evolves.refl ∅ ∅ p).alloc rfl) hnew
      List.mem_cons_self m
  refine (textAt?_append (k := ⟨p.nextId, {}⟩) hnew hfind m).trans ?_
  rw [hkept, Pool.name, Pool.text, Pool.value, Pool.record_of_find? hfind, Value.text_ofText]

/-- **A set of new texts has the last text for each name.** -/
theorem textAt?_ofTexts (h : p.Balanced S R P H L) (texts : List (Name × String)) (n : Name) :
    (ofTexts p texts).2.textAt? (ofTexts p texts).1 n = texts.reverse.lookup n := by
  induction texts using List.reverseRecOn with
  | nil => rfl
  | append_singleton texts t ih =>
    have hbefore := h.ofTexts texts
    rw [List.reverse_append, List.reverse_singleton, List.singleton_append, List.lookup_cons]
    simp only [ofTexts, List.foldl_append, List.foldl_cons, List.foldl_nil]
    have hstep := textAt?_appendText hbefore t.1 t.2 n
    refine hstep.trans ?_
    rw [ih]
    by_cases hn : n = t.1
    · simp [hn]
    · simp [hn, beq_false_of_ne hn]

end KeySet
end ConfigKeys
