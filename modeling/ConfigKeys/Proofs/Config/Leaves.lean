import Mathlib.Data.List.Nodup
import ConfigKeys.Config.Leaves
import ConfigKeys.Proofs.Name.Bounds
import ConfigKeys.Proofs.Name.Kinship
import ConfigKeys.Proofs.Number.Decimal

/-!
# The leaves of a tree

A tree is flattened into one name and text for each of its leaves.  The names are those of the paths
to the leaves, and every place on the way, be it only an empty table, must have a fit name.

## Main definitions

* `Toml.Value.children` — what stands directly below a value, under which segment.
* `Toml.Value.At`, `Toml.Value.Leaf` — what stands at a path, and the text of a leaf there.
* `Toml.Value.Distinct` — no table names a member twice.
* `Toml.Value.FitsBelow` — every place of a tree has a fit name.
* `Toml.Value.Gathers` — names and texts are those of leaves, each once.

## Main results

* `Toml.Value.leavesAfter_eq` — flattening looks at children only.
* `Toml.Value.leaves_eq_ok` — **each leaf is gathered once**, if all names fit.
* `Toml.Value.fitsBelow_of_leaves` — what is flattened has fit names only.
-/

namespace ConfigKeys

/-- A child is named where the name one segment further fits. -/
theorem Name.child_eq_ok_iff {n m : Name} {segment : String} :
    n.child segment = .ok m ↔ m = n.below [segment] ∧ (n.below [segment]).Fits {} :=
  within_eq_ok_iff

namespace Toml

theorem placeSegment_injective : Function.Injective placeSegment := by
  intro i j h
  have hdigits : i.repr = j.repr := (String.append_right_inj "#").mp h
  rw [← Decimal.placeValue_repr i, hdigits, Decimal.placeValue_repr]

namespace Value

/-! ### Paths in a tree -/

/-- What stands directly below a value: the members of a table under their names, and the items of
an array under their places. -/
def children : Value → List (String × Value)
  | .array items => items.mapIdx fun i item => (placeSegment i, item)
  | .table members => members
  | _ => []

/-- The text of a value that is a leaf. -/
def text? : Value → Option String
  | .text value => some value
  | .integer value => some (toString value)
  | .float bits => some (BinaryFormat.double.write bits)
  | .boolean value => some (if value then "true" else "false")
  | .datetime value => some value.text
  | .array _ | .table _ => none

/-- What stands at a path below a value. -/
inductive At : Value → List String → Value → Prop
  /-- A value stands where no path leads away from it. -/
  | here (v : Value) : At v [] v
  /-- The path leads to a child first. -/
  | child {u v w : Value} {segment : String} {path : List String}
      (hchild : (segment, v) ∈ u.children) (h : At v path w) : At u (segment :: path) w

/-- The text of the leaf at a path below a value. -/
def Leaf (v : Value) (path : List String) (text : String) : Prop :=
  ∃ w, v.At path w ∧ w.text? = some text

/-- No table at or below a value names a member twice. -/
def Distinct (v : Value) : Prop :=
  ∀ path members, v.At path (.table members) → (members.map Prod.fst).Nodup

/-- Every place below a value has a fit name, if the value stands under `n`. -/
def FitsBelow (n : Name) (v : Value) : Prop :=
  ∀ path w, v.At path w → path ≠ [] → (n.below path).Fits {}

variable {u v w : Value} {segment text : String} {path : List String} {n : Name}
  {found leaves : List (Name × String)}

theorem sizeOf_lt_of_mem_children (h : (segment, v) ∈ u.children) : sizeOf v < sizeOf u := by
  cases u with
  | array items =>
    obtain ⟨i, hi, heq⟩ := List.mem_mapIdx.mp h
    obtain rfl : items[i] = v := (Prod.mk.inj heq).2
    have := List.sizeOf_lt_of_mem (List.getElem_mem hi)
    simp only [array.sizeOf_spec]
    omega
  | table members =>
    have := List.sizeOf_lt_of_mem (show (segment, v) ∈ members from h)
    simp only [Prod.mk.sizeOf_spec, table.sizeOf_spec] at this ⊢
    omega
  | _ => exact absurd h List.not_mem_nil

/-- What holds of a value if it holds of all that stands directly below, holds of every value. -/
@[elab_as_elim]
theorem childInduction {motive : Value → Prop}
    (step : ∀ u, (∀ segment v, (segment, v) ∈ u.children → motive v) → motive u) (v : Value) :
    motive v :=
  step v fun _ v h =>
    have := sizeOf_lt_of_mem_children h
    childInduction step v
termination_by sizeOf v

theorem at_cons : u.At (segment :: path) w ↔ ∃ v, (segment, v) ∈ u.children ∧ v.At path w := by
  constructor
  · rintro (_ | ⟨hchild, h⟩)
    exact ⟨_, hchild, h⟩
  · rintro ⟨v, hchild, h⟩
    exact .child hchild h

theorem leaf_nil : v.Leaf [] text ↔ v.text? = some text :=
  ⟨fun ⟨_, hat, hw⟩ => by cases hat; exact hw, fun h => ⟨v, .here v, h⟩⟩

theorem leaf_cons :
    u.Leaf (segment :: path) text ↔ ∃ v, (segment, v) ∈ u.children ∧ v.Leaf path text := by
  simp only [Leaf, at_cons]
  tauto

/-- Nothing stands below a leaf. -/
theorem children_of_text? (h : v.text? = some text) : v.children = [] := by
  cases v with
  | array _ => cases h
  | table _ => cases h
  | _ => rfl

/-- Where the members of tables are distinct, so are all children. -/
theorem Distinct.nodup_children (h : v.Distinct) : (v.children.map Prod.fst).Nodup := by
  cases v with
  | array items =>
    refine List.nodup_iff_injective_getElem.mpr fun i j heq => Fin.ext ?_
    simp only [children, List.getElem_map, List.getElem_mapIdx] at heq
    exact placeSegment_injective heq
  | table members => exact h [] members (.here _)
  | _ => exact List.nodup_nil

theorem Distinct.child (h : u.Distinct) (hchild : (segment, v) ∈ u.children) : v.Distinct :=
  fun path members hat => h (segment :: path) members (.child hchild hat)

theorem distinct_iff : v.Distinct ↔
    (v.children.map Prod.fst).Nodup ∧ ∀ c ∈ v.children, c.2.Distinct := by
  refine ⟨fun h => ⟨h.nodup_children, fun c hc => h.child hc⟩, fun ⟨htop, hbelow⟩ => ?_⟩
  rintro _ members (_ | ⟨hchild, hat⟩)
  · exact htop
  · exact hbelow _ hchild _ members hat

theorem distinct_table {members : List (String × Value)} : (table members).Distinct ↔
    (members.map Prod.fst).Nodup ∧ ∀ m ∈ members, m.2.Distinct :=
  distinct_iff

theorem distinct_array {items : List Value} :
    (array items).Distinct ↔ ∀ item ∈ items, item.Distinct := by
  constructor
  · intro h item hitem
    obtain ⟨i, hi, rfl⟩ := List.mem_iff_getElem.mp hitem
    have hchild : (placeSegment i, items[i]) ∈ (array items).children :=
      List.mem_mapIdx.mpr ⟨i, hi, rfl⟩
    exact h.child hchild
  · rintro h _ members (_ | ⟨hchild, hat⟩)
    obtain ⟨i, hi, heq⟩ := List.mem_mapIdx.mp hchild
    cases heq
    exact h _ (List.getElem_mem hi) _ members hat

/-- No table stands at or below a leaf. -/
theorem Distinct.of_text? (h : v.text? = some text) : v.Distinct := by
  rintro _ members (_ | ⟨hchild, -⟩)
  · cases h
  · rw [children_of_text? h] at hchild
    exact absurd hchild List.not_mem_nil

/-! ### Flattening -/

theorem itemLeavesAfter_eq (n : Name) (i : Nat) (items : List Value) :
    itemLeavesAfter found n i items
      = memberLeavesAfter found n (items.mapIdx fun j item => (placeSegment (i + j), item)) := by
  induction items generalizing i found with
  | nil => rfl
  | cons item items ih =>
    have hrest : (fun j item => (placeSegment (i + 1 + j), item))
        = fun j (item : Value) => (placeSegment (i + (j + 1)), item) := by
      funext j item
      rw [Nat.add_assoc, Nat.add_comm 1]
    rw [itemLeavesAfter, List.mapIdx_cons, memberLeavesAfter]
    simp only [ih, hrest, Nat.add_zero]

/-- **Flattening looks at children only**, unless the value is a leaf. -/
theorem leavesAfter_eq (found : List (Name × String)) (n : Name) (v : Value) :
    v.leavesAfter found n = match v.text? with
      | some text => .ok ((n, text) :: found)
      | none => memberLeavesAfter found n v.children := by
  cases v with
  | array items =>
    rw [leavesAfter, itemLeavesAfter_eq]
    simp only [Nat.zero_add]
    rfl
  | boolean value => cases value <;> rfl
  | _ => rfl

/-- What stands below is fit where the children are, and what stands below them. -/
theorem fitsBelow_iff : v.FitsBelow n ↔ ∀ segment w, (segment, w) ∈ v.children →
    (n.below [segment]).Fits {} ∧ w.FitsBelow (n.below [segment]) := by
  constructor
  · intro h segment w hchild
    refine ⟨h [segment] w (.child hchild (.here w)) (List.cons_ne_nil _ _), ?_⟩
    intro path u hat _
    rw [← Name.below_cons]
    exact h (segment :: path) u (.child hchild hat) (List.cons_ne_nil _ _)
  · rintro h _ u (_ | ⟨hchild, hat⟩) hne
    · exact absurd rfl hne
    · next w segment path =>
      obtain ⟨hfits, hbelow⟩ := h segment w hchild
      rw [Name.below_cons]
      rcases path with _ | ⟨segment', path⟩
      · rwa [Name.below_nil]
      · exact hbelow _ u hat (List.cons_ne_nil _ _)

/-- Flattening goes on with a child where the name of the child fits, and then to the others. -/
theorem memberLeavesAfter_cons_eq_ok_iff {rest : List (String × Value)} :
    memberLeavesAfter found n ((segment, v) :: rest) = .ok leaves ↔
      (n.below [segment]).Fits {} ∧ ∃ found', v.leavesAfter found (n.below [segment]) = .ok found' ∧
        memberLeavesAfter found' n rest = .ok leaves := by
  rw [memberLeavesAfter]
  rcases hchild : n.child segment with e | inner
  · refine iff_of_false (fun h => by cases h) fun ⟨hfits, _⟩ => ?_
    rw [Name.child_eq_ok_iff.mpr ⟨rfl, hfits⟩] at hchild
    cases hchild
  · obtain ⟨rfl, hfits⟩ := Name.child_eq_ok_iff.mp hchild
    dsimp only
    rcases v.leavesAfter found (n.below [segment]) with e | found'
    · simp
    · simp [hfits]

/-- **What is flattened has fit names only.** -/
theorem fitsBelow_of_leavesAfter (h : v.leavesAfter found n = .ok leaves) : v.FitsBelow n := by
  induction v using childInduction generalizing found n leaves with
  | step v ih =>
  refine fitsBelow_iff.mpr ?_
  rw [leavesAfter_eq] at h
  rcases htext : v.text? with _ | text
  · rw [htext] at h
    -- all children are flattened, one after the other
    generalize v.children = children at ih h
    induction children generalizing found with
    | nil => exact fun _ _ hchild => absurd hchild List.not_mem_nil
    | cons c rest ihrest =>
      obtain ⟨hfits, found', hc, hrest⟩ := memberLeavesAfter_cons_eq_ok_iff.mp h
      intro segment w hchild
      rcases List.mem_cons.mp hchild with rfl | hchild
      · exact ⟨hfits, ih _ _ List.mem_cons_self hc⟩
      · exact ihrest (fun _ _ hmem => ih _ _ (List.mem_cons_of_mem c hmem)) hrest segment w hchild
  · intro segment w hchild
    rw [children_of_text? htext] at hchild
    exact absurd hchild List.not_mem_nil

/-! ### What is gathered -/

/-- Names and texts are those of leaves on paths from `n`, each once. -/
structure Gathers (n : Name) (leaf : List String → String → Prop) (new : List (Name × String)) :
    Prop where
  /-- No name comes twice. -/
  nodup : (new.map Prod.fst).Nodup
  /-- There is one for each leaf. -/
  mem_iff : ∀ m text, (m, text) ∈ new ↔ ∃ path, m = n.below path ∧ leaf path text

/-- The leaves below some children. -/
def LeafBelow (children : List (String × Value)) (path : List String) (text : String) : Prop :=
  ∃ segment v rest, (segment, v) ∈ children ∧ path = segment :: rest ∧ v.Leaf rest text

theorem Gathers.congr {leaf leaf' : List String → String → Prop} {new : List (Name × String)}
    (h : Gathers n leaf new) (hleaf : ∀ path text, leaf path text ↔ leaf' path text) :
    Gathers n leaf' new where
  nodup := h.nodup
  mem_iff m text := by
    rw [h.mem_iff]
    exact exists_congr fun path => and_congr_right fun _ => hleaf path text

/-- The leaves below children are those below the first and those below the others. -/
theorem Gathers.cons {rest : List (String × Value)} {first new : List (Name × String)}
    (hfirst : Gathers (n.below [segment]) v.Leaf first) (hrest : Gathers n (LeafBelow rest) new)
    (hsegment : segment ∉ rest.map Prod.fst) :
    Gathers n (LeafBelow ((segment, v) :: rest)) (new ++ first) where
  nodup := by
    rw [List.map_append]
    refine hrest.nodup.append hfirst.nodup fun m hm hm' => hsegment ?_
    -- a name below both would begin with the segments of two children
    obtain ⟨⟨m, text⟩, hmem, rfl⟩ := List.mem_map.mp hm
    obtain ⟨⟨_, text'⟩, hmem', rfl⟩ := List.mem_map.mp hm'
    obtain ⟨_, hm, segment', w, path, hin, rfl, -⟩ := (hrest.mem_iff _ text).mp hmem
    obtain ⟨path', hm', -⟩ := (hfirst.mem_iff _ text').mp hmem'
    rw [← Name.below_cons] at hm'
    obtain ⟨rfl, -⟩ := List.cons.inj (Name.below_inj.mp (hm.symm.trans hm'))
    exact List.mem_map_of_mem hin
  mem_iff m text := by
    rw [List.mem_append, hrest.mem_iff, hfirst.mem_iff]
    constructor
    · rintro (⟨path, rfl, segment', w, path', hin, hpath, hleaf⟩ | ⟨path, rfl, hleaf⟩)
      · exact ⟨path, rfl, segment', w, path', List.mem_cons_of_mem _ hin, hpath, hleaf⟩
      · rw [← Name.below_cons]
        exact ⟨_, rfl, segment, v, path, List.mem_cons_self, rfl, hleaf⟩
    · rintro ⟨_, rfl, segment', w, path, hin, rfl, hleaf⟩
      rcases List.mem_cons.mp hin with heq | hin
      · cases heq
        exact .inr ⟨path, Name.below_cons n segment path, hleaf⟩
      · exact .inl ⟨_, rfl, segment', w, path, hin, rfl, hleaf⟩

/-- A leaf is gathered under the name at which it stands. -/
theorem gathers_of_text? (h : v.text? = some text) : Gathers n v.Leaf [(n, text)] where
  nodup := List.nodup_singleton _
  mem_iff m text' := by
    have hleaf : ∀ path, v.Leaf path text' ↔ path = [] ∧ text' = text := by
      intro path
      rcases path with _ | ⟨segment, path⟩
      · simp [leaf_nil, h, eq_comm]
      · simp [leaf_cons, children_of_text? h]
    simp [hleaf]

/-- The leaves of a value that is none are those below its children. -/
theorem leafBelow_children (h : v.text? = none) :
    LeafBelow v.children path text ↔ v.Leaf path text := by
  rcases path with _ | ⟨segment, path⟩
  · refine iff_of_false (fun ⟨_, _, _, _, heq, _⟩ => by cases heq) ?_
    rintro ⟨_, _ | _, hw⟩
    rw [h] at hw
    cases hw
  · rw [leaf_cons]
    constructor
    · rintro ⟨_, w, _, hin, ⟨⟩, hleaf⟩
      exact ⟨w, hin, hleaf⟩
    · rintro ⟨w, hin, hleaf⟩
      exact ⟨segment, w, path, hin, rfl, hleaf⟩

/-- Where the leaves of each child are gathered, so are those of all children. -/
theorem memberLeavesAfter_of_fits {children : List (String × Value)}
    (hstep : ∀ c ∈ children, ∀ found, ∃ new,
      c.2.leavesAfter found (n.below [c.1]) = .ok (new ++ found) ∧
        Gathers (n.below [c.1]) c.2.Leaf new)
    (hfits : ∀ c ∈ children, (n.below [c.1]).Fits {}) (hnodup : (children.map Prod.fst).Nodup)
    (found : List (Name × String)) :
    ∃ new, memberLeavesAfter found n children = .ok (new ++ found) ∧
      Gathers n (LeafBelow children) new := by
  induction children generalizing found with
  | nil =>
    refine ⟨[], rfl, List.nodup_nil, fun m text => iff_of_false List.not_mem_nil ?_⟩
    rintro ⟨_, _, _, _, _, hin, -⟩
    exact List.not_mem_nil hin
  | cons c rest ih =>
    rw [List.forall_mem_cons] at hstep hfits
    obtain ⟨hc, hrest⟩ := List.nodup_cons.mp hnodup
    obtain ⟨first, hfirst, hgathersFirst⟩ := hstep.1 found
    obtain ⟨new, hnew, hgathers⟩ := ih hstep.2 hfits.2 hrest (first ++ found)
    refine ⟨new ++ first, ?_, hgathersFirst.cons hgathers hc⟩
    rw [List.append_assoc]
    exact memberLeavesAfter_cons_eq_ok_iff.mpr ⟨hfits.1, _, hfirst, hnew⟩

/-- **Each leaf is gathered once**, if all names fit and no table names a member twice. -/
theorem leavesAfter_of_fits (hdistinct : v.Distinct) (hfits : v.FitsBelow n)
    (found : List (Name × String)) :
    ∃ new, v.leavesAfter found n = .ok (new ++ found) ∧ Gathers n v.Leaf new := by
  induction v using childInduction generalizing n found with
  | step v ih =>
  rw [leavesAfter_eq]
  rcases htext : v.text? with _ | text
  · rw [fitsBelow_iff] at hfits
    obtain ⟨new, hnew, hgathers⟩ := memberLeavesAfter_of_fits
      (fun c hc found => ih c.1 c.2 hc (hdistinct.child hc) (hfits c.1 c.2 hc).2 found)
      (fun c hc => (hfits c.1 c.2 hc).1) hdistinct.nodup_children found
    exact ⟨new, hnew, hgathers.congr fun _ _ => leafBelow_children htext⟩
  · exact ⟨[(n, text)], rfl, gathers_of_text? htext⟩

/-- **The leaves of a tree** are flattened, each once and under its path, just if all names fit. -/
theorem leaves_eq_ok (hdistinct : v.Distinct) (hfits : v.FitsBelow n) :
    ∃ leaves, v.leaves n = .ok leaves ∧ Gathers n v.Leaf leaves.reverse := by
  obtain ⟨new, hnew, hgathers⟩ := leavesAfter_of_fits hdistinct hfits []
  refine ⟨new.reverse, ?_, by rwa [List.reverse_reverse]⟩
  rw [leaves, hnew, List.append_nil]
  rfl

theorem fitsBelow_of_leaves (h : v.leaves n = .ok leaves) : v.FitsBelow n := by
  rw [Value.leaves] at h
  rcases hafter : v.leavesAfter [] n with e | found
  · rw [hafter] at h
    cases h
  · exact fitsBelow_of_leavesAfter hafter

end Value
end Toml
end ConfigKeys
