import ConfigKeys.Proofs.KeySet.Change
import ConfigKeys.Proofs.Name.Kinship

/-!
# The keys at or below a name

In a set that is in order the keys at or below a name stand side by side, so that to take as many
as there are, from the place of the name on, takes all of them.  These are the keys that a selection
by relation finds.

## Main definitions

* `Relation.all` — the relations.

## Main results

* `KeySet.span_split` — a set in order, split around the keys at or below a name.
* `KeySet.subtree_eq_filter`, `KeySet.cut_eq_filter` — those keys, and the others, in order.
* `KeySet.flatMap_related_perm` — the keys that stand in some relations to a name.
-/

namespace ConfigKeys

/-- The relations. -/
def Relation.all : List Relation :=
  [.ancestor, .directParent, .same, .directChild, .descendant, .unrelated]

theorem Relation.mem_all (r : Relation) : r ∈ Relation.all := by cases r <;> decide

/-- A name is at or below another one if it is the same, a child or a descendant. -/
theorem Name.isBelowOrSame_eq_decide (a b : Name) :
    a.isBelowOrSame b
      = decide (b.relation a ∈ [Relation.same, Relation.directChild, Relation.descendant]) := by
  unfold isBelowOrSame
  cases b.relation a <;> decide

namespace KeySet

variable {p : Pool} {s : KeySet}

/-- **A set in order, split around the keys at or below a name.** -/
theorem span_split (h : p.Ascending s.toList) (n : Name) :
    ∃ l₁ taken l₂, s.toList = l₁ ++ (taken ++ l₂) ∧ s.span p n = (l₁.length, taken.length) ∧
      (∀ k ∈ l₁, (p.name k).isBelowOrSame n = false) ∧
      (∀ k ∈ taken, (p.name k).isBelowOrSame n = true) ∧
      ∀ k ∈ l₂, (p.name k).isBelowOrSame n = false := by
  obtain ⟨l₁, l, hs, hlen, hbefore, hfrom⟩ := lowerBound_split h n
  refine ⟨l₁, l.takeWhile fun k => (p.name k).isBelowOrSame n,
    l.dropWhile fun k => (p.name k).isBelowOrSame n, ?_, ?_, ?_, ?_, ?_⟩
  · rw [List.takeWhile_append_dropWhile, hs]
  · rw [span, ← hlen, hs, List.drop_left]
  · intro k hk
    rw [Bool.eq_false_iff]
    exact fun hbelow => Name.not_lt_of_isBelowOrSame hbelow (hbefore k hk)
  · exact fun k hk => (List.all_eq_true.mp List.all_takeWhile) k hk
  · -- the first key that is not below the name is not before it, and so none after it is below it
    rcases hrest : l.dropWhile fun k => (p.name k).isBelowOrSame n with _ | ⟨x, l₂⟩
    · exact fun k hk => absurd hk List.not_mem_nil
    · have hx : (p.name x).isBelowOrSame n = false := by
        have hhead := List.head?_dropWhile_not (fun k => (p.name k).isBelowOrSame n) l
        rwa [hrest] at hhead
      have hsuffix : x :: l₂ <:+ l := hrest ▸ List.dropWhile_suffix _
      have hasc : p.Ascending (x :: l₂) := by
        rw [hs] at h
        exact (h.sublist (List.sublist_append_right _ _)).sublist hsuffix.sublist
      have hafter : ∀ k ∈ l₂, (p.name x).compare (p.name k) = .lt := fun k hk =>
        (List.pairwise_cons.mp hasc).1 _ (List.mem_map_of_mem hk)
      intro k hk
      rcases List.mem_cons.mp hk with rfl | hk
      · exact hx
      · rw [Bool.eq_false_iff]
        intro hbelow
        have hnot := hfrom x (hsuffix.mem List.mem_cons_self)
        rw [Name.isBelowOrSame_of_between hnot (hafter k hk) hbelow] at hx
        cases hx

theorem filter_split {α : Type} {f : α → Bool} {l₁ m l₂ : List α} (h₁ : ∀ x ∈ l₁, f x = false)
    (hm : ∀ x ∈ m, f x = true) (h₂ : ∀ x ∈ l₂, f x = false) :
    (l₁ ++ (m ++ l₂)).filter f = m ∧ (l₁ ++ (m ++ l₂)).filter (fun x => !f x) = l₁ ++ l₂ := by
  have hnone : ∀ l : List α, (∀ x ∈ l, f x = false) →
      l.filter f = [] ∧ l.filter (fun x => !f x) = l := fun l hl =>
    ⟨List.filter_eq_nil_iff.mpr fun x hx => by rw [hl x hx]; exact Bool.false_ne_true,
      List.filter_eq_self.mpr fun x hx => by rw [hl x hx]; rfl⟩
  have hall : m.filter f = m ∧ m.filter (fun x => !f x) = [] :=
    ⟨List.filter_eq_self.mpr hm,
      List.filter_eq_nil_iff.mpr fun x hx => by rw [hm x hx]; exact Bool.false_ne_true⟩
  simp only [List.filter_append, (hnone l₁ h₁).1, (hnone l₁ h₁).2, (hnone l₂ h₂).1,
    (hnone l₂ h₂).2, hall.1, hall.2, List.nil_append, List.append_nil, and_self]

/-- **The keys at or below a name are those that are at or below it.** -/
theorem subtree_eq_filter (h : p.Ascending s.toList) (n : Name) :
    (s.subtree p n).toList = s.toList.filter fun k => (p.name k).isBelowOrSame n := by
  obtain ⟨l₁, taken, l₂, hs, hspan, h₁, htaken, h₂⟩ := span_split h n
  rw [subtree_toList, hspan, hs, (filter_split h₁ htaken h₂).1, List.drop_left, List.take_left]

/-- **Cutting takes the keys at or below a name**, and leaves the others. -/
theorem cut_eq_filter (h : p.Ascending s.toList) (n : Name) :
    (s.cut p n).1.toList = (s.toList.filter fun k => (p.name k).isBelowOrSame n) ∧
      (s.cut p n).2.toList = s.toList.filter fun k => !(p.name k).isBelowOrSame n := by
  obtain ⟨l₁, taken, l₂, hs, hspan, h₁, htaken, h₂⟩ := span_split h n
  obtain ⟨-, hrest⟩ := cut_toList p s n
  refine ⟨subtree_eq_filter h n, ?_⟩
  rw [hrest, hspan, hs, (filter_split h₁ htaken h₂).2, List.take_left, ← List.drop_drop,
    List.drop_left, List.drop_left]

/-! ### Selection by relation -/

theorem mem_related {n : Name} {r : Relation} {k : Key} :
    k ∈ s.related p n r ↔ k ∈ s.toList ∧ n.relation (p.name k) = r := by
  rw [related, List.mem_filter, decide_eq_true_iff]

/-- **Some selections together** are the keys that stand in one of their relations. -/
theorem flatMap_related_perm (p : Pool) (s : KeySet) (n : Name) {relations : List Relation}
    (hdist : relations.Nodup) :
    (relations.flatMap (s.related p n)).Perm
      (s.toList.filter fun k => n.relation (p.name k) ∈ relations) := by
  induction relations with
  | nil =>
    rw [List.flatMap_nil, List.filter_eq_nil_iff.mpr]
    intro k _
    simp
  | cons r relations ih =>
    obtain ⟨hr, hdist⟩ := List.nodup_cons.mp hdist
    rw [List.flatMap_cons]
    -- the keys are split into those of the first relation, and those of the others
    refine ((ih hdist).append_left _).trans ?_
    refine .trans (.of_eq ?_)
      (List.filter_append_perm (fun k => decide (n.relation (p.name k) = r)) _)
    rw [List.filter_filter, List.filter_filter, related]
    refine congrArg₂ _ (List.filter_congr fun k _ => ?_) (List.filter_congr fun k _ => ?_)
    · by_cases heq : n.relation (p.name k) = r <;> simp [heq]
    · by_cases heq : n.relation (p.name k) = r <;> simp [heq, hr]

/-- The selections are disjoint: no record stands in two relations to a name. -/
theorem related_disjoint {n : Name} {r r' : Relation} {k k' : Key} (hk : k ∈ s.related p n r)
    (hk' : k' ∈ s.related p n r') (hid : k.id = k'.id) : r = r' := by
  have hname : p.name k = p.name k' := by rw [Pool.name, Pool.name, hid]
  rw [← (mem_related.mp hk).2, ← (mem_related.mp hk').2, hname]

end KeySet
end ConfigKeys
