import ConfigKeys.Proofs.Name.Relation
import ConfigKeys.Proofs.Name.RoundTrip

/-!
# Subtrees are intervals

The order of names is total, and a name comes before all that lies below it.  Whatever comes between
two names of a subtree belongs to the subtree, so that in names that are sorted a subtree is a run
without gaps, which begins where its top is or would be.

## Main results

* `Name.isLE_trans`, `Name.isLE_antisymm`, `Name.isLE_total` — the order with equality.
* `Name.isBelowOrSame_of_isLE` — a subtree is an interval.
* `Name.sorted_split` — sorted names, split around a subtree.
* `Name.order_of_subtrees` — the laws of the order.
-/

namespace ConfigKeys
namespace Name

variable {a b c p : Name}

/-! ### The order with equality -/

theorem isLE_iff (a b : Name) : (a.compare b).isLE = true ↔ a.compare b = .lt ∨ a = b := by
  rw [← compare_eq_iff]
  cases a.compare b <;> simp

theorem isLE_iff_not_lt (a b : Name) : (a.compare b).isLE = true ↔ b.compare a ≠ .lt := by
  rw [compare_swap a b]
  cases a.compare b <;> simp

theorem isLE_antisymm (hab : (a.compare b).isLE = true) (hba : (b.compare a).isLE = true) :
    a = b := by
  rcases (isLE_iff a b).mp hab with hlt | heq
  · exact absurd hlt ((isLE_iff_not_lt b a).mp hba)
  · exact heq

theorem isLE_trans (hab : (a.compare b).isLE = true) (hbc : (b.compare c).isLE = true) :
    (a.compare c).isLE = true := by
  rcases (isLE_iff a b).mp hab with hlt | rfl
  · rcases (isLE_iff b c).mp hbc with hlt' | rfl
    · exact (isLE_iff a c).mpr (.inl (compare_lt_trans hlt hlt'))
    · exact hab
  · exact hbc

theorem isLE_total (a b : Name) : (a.compare b).isLE = true ∨ (b.compare a).isLE = true := by
  rw [compare_swap a b]
  cases a.compare b <;> simp

theorem compare_lt_of_isLE_of_lt (hab : (a.compare b).isLE = true) (hbc : b.compare c = .lt) :
    a.compare c = .lt := by
  rcases (isLE_iff a b).mp hab with hlt | rfl
  · exact compare_lt_trans hlt hbc
  · exact hbc

/-! ### Subtrees -/

/-- A name comes before what lies below it. -/
theorem compare_gt_of_isBelow (h : a.isBelow p = true) : a.compare p = .gt := by
  have hsame : a.isBelowOrSame p = true := isBelowOrSame_iff_eq_or.mpr (.inr h)
  rcases hcmp : a.compare p with _ | _ | _
  · exact absurd hcmp (not_lt_of_isBelowOrSame hsame)
  · obtain rfl := (compare_eq_iff a p).mp hcmp
    exact absurd (depth_lt_of_isBelow h) (Nat.lt_irrefl _)
  · rfl

/-- **A subtree is an interval**: what comes between two of its names is one of them. -/
theorem isBelowOrSame_of_isLE (hab : (a.compare b).isLE = true) (hbc : (b.compare c).isLE = true)
    (ha : a.isBelowOrSame p = true) (hc : c.isBelowOrSame p = true) :
    b.isBelowOrSame p = true := by
  rcases (isLE_iff b c).mp hbc with hlt | rfl
  · -- `b` does not come before `a`, which does not come before the top of the subtree
    refine isBelowOrSame_of_between (fun hbefore => ?_) hlt hc
    exact not_lt_of_isBelowOrSame ha (compare_lt_of_isLE_of_lt hab hbefore)
  · exact hc

/-- From a name on that is in a subtree, sorted names are in it up to the last one that is. -/
theorem not_isBelowOrSame_of_mem_dropWhile {names : List Name}
    (hsorted : names.Pairwise fun a b => (a.compare b).isLE = true)
    (hfrom : ∀ n ∈ names, n.compare p ≠ .lt) :
    ∀ n ∈ names.dropWhile (isBelowOrSame · p), n.isBelowOrSame p = false := by
  induction names with
  | nil => exact fun n hn => absurd hn List.not_mem_nil
  | cons first names ih =>
    obtain ⟨hfirst, hsorted⟩ := List.pairwise_cons.mp hsorted
    by_cases hin : first.isBelowOrSame p = true
    · rw [List.dropWhile_cons_of_pos (p := (isBelowOrSame · p)) hin]
      exact ih hsorted fun n hn => hfrom n (List.mem_cons_of_mem first hn)
    · -- once a name is outside, and not before the top, none after it is inside
      rw [List.dropWhile_cons_of_neg (p := (isBelowOrSame · p)) hin]
      intro n hn
      rw [Bool.eq_false_iff]
      intro hbelow
      rcases List.mem_cons.mp hn with rfl | hn
      · exact hin hbelow
      · rcases (isLE_iff first n).mp (hfirst n hn) with hlt | rfl
        · exact hin (isBelowOrSame_of_between (hfrom first List.mem_cons_self) hlt hbelow)
        · exact hin hbelow

/-- Sorted names from the first one on that does not come before a name do not come before it. -/
theorem not_lt_of_mem_dropWhile {names : List Name}
    (hsorted : names.Pairwise fun a b => (a.compare b).isLE = true) :
    ∀ n ∈ names.dropWhile (fun n => n.compare p = .lt), n.compare p ≠ .lt := by
  induction names with
  | nil => exact fun n hn => absurd hn List.not_mem_nil
  | cons first names ih =>
    obtain ⟨hfirst, hsorted⟩ := List.pairwise_cons.mp hsorted
    by_cases hlt : first.compare p = .lt
    · rw [List.dropWhile_cons_of_pos (p := fun n : Name => decide (n.compare p = .lt))
        (decide_eq_true hlt)]
      exact ih hsorted
    · rw [List.dropWhile_cons_of_neg (p := fun n : Name => decide (n.compare p = .lt))
        (by simpa using hlt)]
      intro n hn
      rcases List.mem_cons.mp hn with rfl | hn
      · exact hlt
      · exact fun hbefore => hlt (compare_lt_of_isLE_of_lt (hfirst n hn) hbefore)

/-- **Sorted names, split around a subtree**: those that come before its top, those of the subtree,
and the rest. -/
theorem sorted_split {names : List Name}
    (hsorted : names.Pairwise fun a b => (a.compare b).isLE = true) (p : Name) :
    ∃ before inside after, names = before ++ (inside ++ after) ∧
      (∀ n ∈ before, n.compare p = .lt ∧ n.isBelowOrSame p = false) ∧
      (∀ n ∈ inside ++ after, n.compare p ≠ .lt) ∧
      (∀ n ∈ inside, n.isBelowOrSame p = true) ∧ ∀ n ∈ after, n.isBelowOrSame p = false := by
  have hfrom := not_lt_of_mem_dropWhile (p := p) hsorted
  have hrest := hsorted.sublist (List.dropWhile_sublist (fun n => decide (n.compare p = .lt)))
  refine ⟨names.takeWhile fun n => n.compare p = .lt,
    (names.dropWhile fun n => n.compare p = .lt).takeWhile (isBelowOrSame · p),
    (names.dropWhile fun n => n.compare p = .lt).dropWhile (isBelowOrSame · p), ?_, ?_, ?_, ?_,
    not_isBelowOrSame_of_mem_dropWhile hrest hfrom⟩
  · rw [List.takeWhile_append_dropWhile, List.takeWhile_append_dropWhile]
  · intro n hn
    have hlt : n.compare p = .lt :=
      of_decide_eq_true ((List.all_eq_true.mp List.all_takeWhile) n hn)
    exact ⟨hlt, Bool.eq_false_iff.mpr fun hbelow => not_lt_of_isBelowOrSame hbelow hlt⟩
  · rw [List.takeWhile_append_dropWhile]
    exact hfrom
  · exact fun n hn => (List.all_eq_true.mp List.all_takeWhile) n hn

/-- **Names are in a total order, in which every subtree is an interval.**  The order is reflexive,
antisymmetric, transitive and total, says the reverse the other way round, and tells names apart
that are written differently; what lies below a name comes after it, and so does, among names that
are sorted, the whole of its subtree, which begins at the first name that does not come before the
top and has no gaps. -/
theorem order_of_subtrees :
    (∀ a : Name, a.compare a = .eq) ∧
    (∀ a b : Name, (a.compare b).isLE = true → (b.compare a).isLE = true → a = b) ∧
    (∀ a b c : Name, (a.compare b).isLE = true → (b.compare c).isLE = true →
      (a.compare c).isLE = true) ∧
    (∀ a b : Name, (a.compare b).isLE = true ∨ (b.compare a).isLE = true) ∧
    (∀ a b : Name, b.compare a = (a.compare b).swap) ∧
    (∀ a b : Name, a.compare b = .eq ↔ a.canonical = b.canonical) ∧
    (∀ a p : Name, a.isBelow p = true → a.compare p = .gt) ∧
    (∀ p x y z : Name, (x.compare y).isLE = true → (y.compare z).isLE = true →
      x.isBelowOrSame p = true → z.isBelowOrSame p = true → y.isBelowOrSame p = true) ∧
    ∀ (names : List Name) (p : Name),
      (names.Pairwise fun a b => (a.compare b).isLE = true) →
      ∃ before inside after, names = before ++ (inside ++ after) ∧
        (∀ n ∈ before, n.compare p = .lt ∧ n.isBelowOrSame p = false) ∧
        (∀ n ∈ inside ++ after, n.compare p ≠ .lt) ∧
        (∀ n ∈ inside, n.isBelowOrSame p = true) ∧ ∀ n ∈ after, n.isBelowOrSame p = false := by
  refine ⟨compare_self, fun a b => isLE_antisymm, fun a b c => isLE_trans, isLE_total, compare_swap,
    ?_, fun a p => compare_gt_of_isBelow, fun p x y z => isBelowOrSame_of_isLE,
    fun names p hsorted => sorted_split hsorted p⟩
  intro a b
  rw [compare_eq_iff]
  exact ⟨fun h => by rw [h], canonical_injective⟩

end Name
end ConfigKeys
