import ConfigKeys.Proofs.Name.Kinship

/-!
# Relations are the tree of names

Names form a tree, in which a name is above those whose segments begin with its own.  The relation
of two names says where they stand in this tree, one level or more apart, or that neither is above
the other.

## Main definitions

* `Relation.Relates` — what a relation says about two paths.

## Main results

* `Relation.ofSegments_eq_iff` — of two paths, exactly the relation that is computed holds.
* `Name.isBelow_iff` — to be below a name is to have more segments than it, of which the first are
  its own.
* `Name.relation_tree_order` — the laws of relations.
-/

namespace ConfigKeys

/-! ### Paths -/

namespace Relation

/-- What a relation says about the path `t`, as it is seen from the path `s`. -/
def Relates : Relation → List String → List String → Prop
  | .same, s, t => t = s
  | .directChild, s, t => ∃ a, t = s ++ [a]
  | .descendant, s, t => ∃ a b rest, t = s ++ a :: b :: rest
  | .directParent, s, t => ∃ a, s = t ++ [a]
  | .ancestor, s, t => ∃ a b rest, s = t ++ a :: b :: rest
  | .unrelated, s, t => ¬ s <+: t ∧ ¬ t <+: s

/-- A common beginning makes no difference. -/
theorem relates_cons (r : Relation) (a : String) (s t : List String) :
    r.Relates (a :: s) (a :: t) ↔ r.Relates s t := by
  cases r <;> simp [Relates, List.cons_prefix_cons]

theorem relates_cons_of_ne {a b : String} (hab : a ≠ b) (r : Relation) (s t : List String) :
    r.Relates (a :: s) (b :: t) ↔ r = .unrelated := by
  cases r <;> simp [Relates, List.cons_prefix_cons, hab, Ne.symm hab]

/-- **The relation of two paths is the one that holds of them.** -/
theorem ofSegments_eq_iff (r : Relation) (s t : List String) :
    ofSegments s t = r ↔ r.Relates s t := by
  induction s generalizing t with
  | nil =>
    rcases t with _ | ⟨b, _ | ⟨c, t⟩⟩
    all_goals cases r <;> simp [ofSegments, Relates]
  | cons a s ih =>
    cases t with
    | nil =>
      rcases s with _ | ⟨c, s⟩
      all_goals cases r <;> simp [ofSegments, Relates]
    | cons b t =>
      rw [ofSegments]
      by_cases hab : a = b
      · subst hab
        rw [if_pos rfl, ih, relates_cons]
      · rw [if_neg hab, relates_cons_of_ne hab]
        exact eq_comm

theorem relates_inverse (r : Relation) (s t : List String) :
    r.inverse.Relates t s ↔ r.Relates s t := by
  cases r <;> simp [inverse, Relates, and_comm, eq_comm]

theorem ofSegments_swap (s t : List String) : ofSegments t s = (ofSegments s t).inverse := by
  rw [ofSegments_eq_iff, relates_inverse, ← ofSegments_eq_iff]

/-- A path is below another when it goes on from it. -/
theorem isBelow_ofSegments (s t : List String) :
    (ofSegments s t).isBelow = true ↔ ∃ a rest, t = s ++ a :: rest := by
  have hholds := (ofSegments_eq_iff _ s t).mp rfl
  rcases hr : ofSegments s t
  all_goals rw [hr] at hholds
  case directChild =>
    obtain ⟨a, ha⟩ := hholds
    exact iff_of_true rfl ⟨a, [], ha⟩
  case descendant =>
    obtain ⟨a, b, rest, hrest⟩ := hholds
    exact iff_of_true rfl ⟨a, b :: rest, hrest⟩
  case unrelated =>
    refine iff_of_false Bool.false_ne_true ?_
    rintro ⟨a, rest, rfl⟩
    exact hholds.1 (List.prefix_append _ _)
  -- the path is no longer than the other one
  all_goals
    refine iff_of_false Bool.false_ne_true ?_
    rintro ⟨a, rest, rfl⟩
    simp [Relates] at hholds

end Relation

/-! ### Names -/

namespace Name

variable {a b c : Name}

theorem relation_eq_iff (a b : Name) (r : Relation) :
    a.relation b = r ↔ r.Relates a.segments b.segments :=
  Relation.ofSegments_eq_iff r a.segments b.segments

theorem relation_swap (a b : Name) : b.relation a = (a.relation b).inverse :=
  Relation.ofSegments_swap a.segments b.segments

/-- **A name is below another when its segments go on from those of the other one.** -/
theorem isBelow_iff : a.isBelow b = true ↔ ∃ x rest, a.segments = b.segments ++ x :: rest :=
  Relation.isBelow_ofSegments b.segments a.segments

theorem isBelowOrSame_iff_eq_or : a.isBelowOrSame b = true ↔ a = b ∨ a.isBelow b = true := by
  rw [isBelowOrSame, Bool.or_eq_true, decide_eq_true_iff, or_comm, relation_eq_iff]
  refine or_congr_left ⟨segments_injective, ?_⟩
  rintro rfl
  exact rfl

theorem depth_lt_of_isBelow (h : a.isBelow b = true) : b.depth < a.depth := by
  obtain ⟨x, rest, ha⟩ := isBelow_iff.mp h
  rw [← segments_length, ← segments_length, ha]
  simp

theorem isBelow_trans (hab : a.isBelow b = true) (hbc : b.isBelow c = true) :
    a.isBelow c = true := by
  obtain ⟨x, rest, ha⟩ := isBelow_iff.mp hab
  obtain ⟨y, rest', hb⟩ := isBelow_iff.mp hbc
  refine isBelow_iff.mpr ⟨y, rest' ++ x :: rest, ?_⟩
  rw [ha, hb, List.append_assoc, List.cons_append]

theorem isDirectBelow_iff : a.isDirectBelow b = true ↔ ∃ x, a.segments = b.segments ++ [x] := by
  rw [isDirectBelow, decide_eq_true_iff, relation_eq_iff, Relation.Relates]

/-- One level below is below by one more segment. -/
theorem isDirectBelow_iff_depth :
    a.isDirectBelow b = true ↔ a.isBelow b = true ∧ a.depth = b.depth + 1 := by
  rw [isDirectBelow_iff, isBelow_iff]
  constructor
  · rintro ⟨x, ha⟩
    refine ⟨⟨x, [], ha⟩, ?_⟩
    rw [← segments_length, ← segments_length, ha, List.length_append, List.length_singleton]
  · rintro ⟨⟨x, rest, ha⟩, hdepth⟩
    rw [← segments_length, ← segments_length, ha, List.length_append, List.length_cons] at hdepth
    obtain rfl : rest = [] := List.length_eq_zero_iff.mp (by omega)
    exact ⟨x, ha⟩

/-- There is a name one level further down for every segment. -/
theorem exists_segments_append (n : Name) (segment : String) :
    ∃ c : Name, c.segments = n.segments ++ [segment] :=
  ⟨{ n with path := n.path ++ [segment] }, rfl⟩

/-- One level below is below with nothing in between. -/
theorem isDirectBelow_iff_nothing_between :
    a.isDirectBelow b = true ↔
      a.isBelow b = true ∧ ¬ ∃ c : Name, a.isBelow c = true ∧ c.isBelow b = true := by
  rw [isDirectBelow_iff_depth]
  refine and_congr_right fun hab => ⟨?_, ?_⟩
  · rintro hdepth ⟨c, hac, hcb⟩
    have hlt := depth_lt_of_isBelow hac
    have hlt' := depth_lt_of_isBelow hcb
    omega
  · -- from two levels on, the first of them is in between
    intro hnone
    obtain ⟨x, rest, ha⟩ := isBelow_iff.mp hab
    rcases rest with _ | ⟨y, rest⟩
    · rw [← segments_length, ha, List.length_append, segments_length, List.length_singleton]
    · obtain ⟨c, hc⟩ := exists_segments_append b x
      refine absurd ⟨c, isBelow_iff.mpr ⟨y, rest, ?_⟩, isBelow_iff.mpr ⟨x, [], hc⟩⟩ hnone
      rw [ha, hc, List.append_assoc, List.singleton_append]

theorem relation_ne_unrelated_iff (a b : Name) :
    a.relation b ≠ .unrelated ↔ a.segments <+: b.segments ∨ b.segments <+: a.segments := by
  rw [Ne, relation_eq_iff, Relation.Relates, ← not_or, Classical.not_not]

/-- What is at or below two names puts one of them above the other. -/
theorem relation_ne_unrelated_of_isBelowOrSame (hab : a.isBelowOrSame b = true)
    (hac : a.isBelowOrSame c = true) : b.relation c ≠ .unrelated :=
  (relation_ne_unrelated_iff b c).mpr
    (List.prefix_or_prefix_of_prefix (isBelowOrSame_iff.mp hab) (isBelowOrSame_iff.mp hac))

theorem relation_of_root_ne (h : a.root ≠ b.root) : a.relation b = .unrelated := by
  have hmarker : a.root.marker ≠ b.root.marker := fun heq => h (Namespace.marker_injective heq)
  rw [relation, segments, segments, Relation.ofSegments, if_neg hmarker]

/-- Names in different subtrees are unrelated. -/
theorem relation_of_isBelowOrSame {x y : Name} (h : a.relation b = .unrelated)
    (hx : x.isBelowOrSame a = true) (hy : y.isBelowOrSame b = true) :
    x.relation y = .unrelated := by
  refine Decidable.byContradiction fun hne => ?_
  have hx' := isBelowOrSame_iff.mp hx
  have hy' := isBelowOrSame_iff.mp hy
  -- the lower of the two names would be at or below both `a` and `b`
  rcases (relation_ne_unrelated_iff x y).mp hne with hxy | hyx
  · exact (relation_ne_unrelated_iff a b).mpr
      (List.prefix_or_prefix_of_prefix (hx'.trans hxy) hy') h
  · exact (relation_ne_unrelated_iff a b).mpr
      (List.prefix_or_prefix_of_prefix hx' (hy'.trans hyx)) h

/-- **Relations are the tree order of names.**  A relation holds of two names if and only if their
segments say so, and is the inverse of that the other way round; to be below is a strict order, of
which one level below is the step; what is below two names is below one of them by way of the other;
and names below different roots, or in different subtrees, are unrelated. -/
theorem relation_tree_order :
    (∀ (a b : Name) (r : Relation), a.relation b = r ↔ r.Relates a.segments b.segments) ∧
    (∀ a b : Name, a.relation b = .same ↔ a = b) ∧
    (∀ a b : Name, b.relation a = (a.relation b).inverse) ∧
    (∀ a : Name, a.isBelow a = false) ∧
    (∀ a b : Name, a.isBelow b = true → b.isBelow a = false) ∧
    (∀ a b c : Name, a.isBelow b = true → b.isBelow c = true → a.isBelow c = true) ∧
    (∀ a b : Name, a.isBelowOrSame b = true ↔ a = b ∨ a.isBelow b = true) ∧
    (∀ a b : Name, a.isDirectBelow b = true ↔ a.isBelow b = true ∧ a.depth = b.depth + 1) ∧
    (∀ a b : Name, a.isDirectBelow b = true ↔
      a.isBelow b = true ∧ ¬ ∃ c : Name, a.isBelow c = true ∧ c.isBelow b = true) ∧
    (∀ a b c : Name, a.isBelow b = true → a.isBelow c = true → b.relation c ≠ .unrelated) ∧
    (∀ a b : Name, a.root.marker ≠ b.root.marker → a.relation b = .unrelated) ∧
    ∀ a b x y : Name, a.relation b = .unrelated → x.isBelowOrSame a = true →
      y.isBelowOrSame b = true → x.relation y = .unrelated := by
  have hasymm : ∀ a b : Name, a.isBelow b = true → b.isBelow a = false := by
    intro a b hab
    rw [Bool.eq_false_iff]
    exact fun hba => Nat.lt_asymm (depth_lt_of_isBelow hab) (depth_lt_of_isBelow hba)
  refine ⟨relation_eq_iff, ?_, relation_swap, ?_, hasymm, fun a b c => isBelow_trans,
    fun a b => isBelowOrSame_iff_eq_or, fun a b => isDirectBelow_iff_depth,
    fun a b => isDirectBelow_iff_nothing_between, ?_, ?_, fun a b x y => relation_of_isBelowOrSame⟩
  · intro a b
    rw [relation_eq_iff, Relation.Relates]
    exact ⟨fun h => (segments_injective h).symm, fun h => by rw [h]⟩
  · intro a
    rw [Bool.eq_false_iff]
    intro haa
    exact Nat.lt_irrefl _ (depth_lt_of_isBelow haa)
  · intro a b c hab hac
    exact relation_ne_unrelated_of_isBelowOrSame (isBelowOrSame_iff_eq_or.mpr (.inr hab))
      (isBelowOrSame_iff_eq_or.mpr (.inr hac))
  · intro a b hmarker
    exact relation_of_root_ne fun h => hmarker (congrArg Namespace.marker h)

end Name
end ConfigKeys
