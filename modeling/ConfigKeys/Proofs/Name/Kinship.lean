import ConfigKeys.Proofs.Name.Order

/-!
# Kinship and the order of names

A name is at or below another when its segments begin with those of the other one.  In the order of
names, all that is at or below a name comes from the name on, without a gap.

## Main definitions

* `Name.below` — the name further along a path.

## Main results

* `Name.isBelowOrSame_iff` — at or below, by segments.
* `Name.not_lt_of_isBelowOrSame` — what is at or below a name does not come before it.
* `Name.isBelowOrSame_of_between` — what is between a name and something below it is below it.
-/

namespace ConfigKeys

/-! ### Paths -/

theorem Relation.isBelow_or_same_iff (s t : List String) :
    ((Relation.ofSegments s t).isBelow || Relation.ofSegments s t = .same) = true ↔ s <+: t := by
  induction s generalizing t with
  | nil => rcases t with _ | ⟨b, _ | ⟨c, t⟩⟩ <;> simp [Relation.ofSegments, Relation.isBelow]
  | cons a s ih =>
    cases t with
    | nil => cases s <;> simp [Relation.ofSegments, Relation.isBelow]
    | cons b t =>
      rw [List.cons_prefix_cons, ← ih, Relation.ofSegments]
      by_cases hab : a = b
      · simp [hab]
      · simp [hab, Relation.isBelow]

theorem compareSegments_of_prefix {s t : List String} (h : s <+: t) :
    compareSegments t s ≠ .lt := by
  induction s generalizing t with
  | nil => cases t <;> simp [compareSegments]
  | cons a s ih =>
    obtain ⟨t, rfl, hst⟩ := List.cons_prefix_iff.mp h
    rw [compareSegments, (compareChars_eq_iff _ _).mpr rfl]
    exact ih hst

/-- A path that does not come before `s`, and comes before one that begins with `s`, begins with `s`
as well. -/
theorem prefix_of_compareSegments {s t u : List String} (hst : compareSegments t s ≠ .lt)
    (htu : compareSegments t u = .lt) (hsu : s <+: u) : s <+: t := by
  induction s generalizing t u with
  | nil => exact List.nil_prefix
  | cons a s ih =>
    obtain ⟨u, rfl, hsu'⟩ := List.cons_prefix_iff.mp hsu
    cases t with
    | nil => exact absurd rfl hst
    | cons b t =>
      rw [compareSegments] at hst htu
      -- the first segment can neither come before that of `s` nor after that of `u`
      rcases hab : compareChars b.toList a.toList with _ | _ | _
      · rw [hab] at hst
        exact absurd rfl hst
      · rw [hab] at hst htu
        rw [String.toList_inj.mp ((compareChars_eq_iff _ _).mp hab)]
        exact List.cons_prefix_cons.mpr ⟨rfl, ih hst htu hsu'⟩
      · rw [hab] at htu
        cases htu

/-! ### Names -/

namespace Name

variable {a b c : Name}

/-- **A name is at or below another when its segments begin with those of the other one.** -/
theorem isBelowOrSame_iff : a.isBelowOrSame b = true ↔ b.segments <+: a.segments :=
  Relation.isBelow_or_same_iff b.segments a.segments

theorem not_lt_of_isBelowOrSame (h : a.isBelowOrSame b = true) : a.compare b ≠ .lt :=
  compareSegments_of_prefix (isBelowOrSame_iff.mp h)

/-- **There are no gaps below a name**: what does not come before it, and comes before something
below it, is below it too. -/
theorem isBelowOrSame_of_between (hac : a.compare c ≠ .lt) (hab : a.compare b = .lt)
    (hbc : b.isBelowOrSame c = true) : a.isBelowOrSame c = true :=
  isBelowOrSame_iff.mpr (prefix_of_compareSegments hac hab (isBelowOrSame_iff.mp hbc))

/-! ### Further along a path -/

/-- The name further along a path. -/
def below (n : Name) (path : List String) : Name := { n with path := n.path ++ path }

@[simp] theorem below_nil (n : Name) : n.below [] = n := by
  rw [below, List.append_nil]

theorem below_cons (n : Name) (segment : String) (path : List String) :
    n.below (segment :: path) = (n.below [segment]).below path := by
  simp [below]

theorem below_inj {path path' : List String} : a.below path = a.below path' ↔ path = path' := by
  simp [below]

/-- What is further along a path is at or below where the path begins. -/
theorem isBelowOrSame_below (n : Name) (path : List String) :
    (n.below path).isBelowOrSame n = true :=
  isBelowOrSame_iff.mpr ⟨path, rfl⟩

end Name
end ConfigKeys
