import ConfigKeys.Name.Relation

/-!
# The order of names is a strict total order

Texts, paths and names are compared item by item, so each of the three orders inherits its laws from
the one before.

## Main results

* `Name.compare_eq_iff` — only a name itself is equal to it.
* `Name.compare_swap` — the comparison the other way round.
* `Name.compare_lt_trans` — transitivity.
-/

namespace ConfigKeys

/-! ### Texts -/

theorem compareChars_eq_iff (s t : List Char) : compareChars s t = .eq ↔ s = t := by
  induction s generalizing t with
  | nil => cases t <;> simp [compareChars]
  | cons a s ih =>
    cases t with
    | nil => simp [compareChars]
    | cons b t =>
      rw [compareChars, List.cons.injEq]
      rcases Nat.lt_trichotomy a.toNat b.toNat with hab | hab | hab
      · have hne : a ≠ b := fun h => Nat.ne_of_lt hab (congrArg Char.toNat h)
        simp [hab, hne]
      · simp [Char.toNat_inj.mp hab, ih]
      · have hne : a ≠ b := fun h => Nat.ne_of_gt hab (congrArg Char.toNat h)
        simp [hab, Nat.lt_asymm hab, hne]

theorem compareChars_swap (s t : List Char) : compareChars t s = (compareChars s t).swap := by
  induction s generalizing t with
  | nil => cases t <;> rfl
  | cons a s ih =>
    cases t with
    | nil => rfl
    | cons b t =>
      rw [compareChars, compareChars]
      rcases Nat.lt_trichotomy a.toNat b.toNat with hab | hab | hab
      · simp [hab, Nat.lt_asymm hab]
      · simp [hab, ih]
      · simp [hab, Nat.lt_asymm hab]

theorem compareChars_lt_trans {s t u : List Char} (hst : compareChars s t = .lt)
    (htu : compareChars t u = .lt) : compareChars s u = .lt := by
  induction s generalizing t u with
  | nil =>
    cases u with
    | nil => cases t <;> simp [compareChars] at htu
    | cons c u => rfl
  | cons a s ih =>
    cases t with
    | nil => simp [compareChars] at hst
    | cons b t =>
      cases u with
      | nil => simp [compareChars] at htu
      | cons c u =>
        rw [compareChars] at hst htu ⊢
        -- the first characters decide unless all three are the same
        rcases Nat.lt_trichotomy a.toNat b.toNat with hab | hab | hab
        · rcases Nat.lt_trichotomy b.toNat c.toNat with hbc | hbc | hbc
          · simp [Nat.lt_trans hab hbc]
          · simp [← hbc, hab]
          · simp [hbc, Nat.lt_asymm hbc] at htu
        · rcases Nat.lt_trichotomy b.toNat c.toNat with hbc | hbc | hbc
          · simp [hab, hbc]
          · simp only [hab, hbc, Nat.lt_irrefl, if_false] at hst htu ⊢
            exact ih hst htu
          · simp [hbc, Nat.lt_asymm hbc] at htu
        · simp [hab, Nat.lt_asymm hab] at hst

/-! ### Paths -/

theorem compareSegments_eq_iff (s t : List String) : compareSegments s t = .eq ↔ s = t := by
  induction s generalizing t with
  | nil => cases t <;> simp [compareSegments]
  | cons a s ih =>
    cases t with
    | nil => simp [compareSegments]
    | cons b t =>
      rw [compareSegments, List.cons.injEq, ← String.toList_inj, ← compareChars_eq_iff]
      cases h : compareChars a.toList b.toList <;> simp [ih]

theorem compareSegments_swap (s t : List String) :
    compareSegments t s = (compareSegments s t).swap := by
  induction s generalizing t with
  | nil => cases t <;> rfl
  | cons a s ih =>
    cases t with
    | nil => rfl
    | cons b t =>
      rw [compareSegments, compareSegments, compareChars_swap a.toList b.toList]
      cases h : compareChars a.toList b.toList <;> simp [ih]

theorem compareSegments_lt_trans {s t u : List String} (hst : compareSegments s t = .lt)
    (htu : compareSegments t u = .lt) : compareSegments s u = .lt := by
  induction s generalizing t u with
  | nil =>
    cases u with
    | nil => cases t <;> simp [compareSegments] at htu
    | cons c u => rfl
  | cons a s ih =>
    cases t with
    | nil => simp [compareSegments] at hst
    | cons b t =>
      cases u with
      | nil => simp [compareSegments] at htu
      | cons c u =>
        rw [compareSegments] at hst htu ⊢
        -- the first segments decide unless all three are the same
        rcases hab : compareChars a.toList b.toList with _ | _ | _
        · rcases hbc : compareChars b.toList c.toList with _ | _ | _
          · rw [compareChars_lt_trans hab hbc]
          · rw [← (compareChars_eq_iff _ _).mp hbc, hab]
          · simp [hbc] at htu
        · rw [hab] at hst
          rw [(compareChars_eq_iff _ _).mp hab]
          rcases hbc : compareChars b.toList c.toList with _ | _ | _
          · rfl
          · rw [hbc] at htu
            exact ih hst htu
          · simp [hbc] at htu
        · simp [hab] at hst

/-! ### Names -/

namespace Namespace

theorem marker_injective {a b : Namespace} (h : a.marker = b.marker) : a = b := by
  have hmarker := congrArg ofMarker? h
  rw [ofMarker?_marker, ofMarker?_marker] at hmarker
  exact Option.some.inj hmarker

end Namespace

namespace Name

theorem segments_injective {a b : Name} (h : a.segments = b.segments) : a = b := by
  obtain ⟨root, path⟩ := a
  obtain ⟨root', path'⟩ := b
  simp only [segments, List.cons.injEq] at h
  rw [Namespace.marker_injective h.1, h.2]

theorem compare_eq_iff (a b : Name) : a.compare b = .eq ↔ a = b := by
  rw [compare, compareSegments_eq_iff]
  exact ⟨segments_injective, fun h => by rw [h]⟩

theorem compare_swap (a b : Name) : b.compare a = (a.compare b).swap :=
  compareSegments_swap a.segments b.segments

theorem compare_lt_trans {a b c : Name} (hab : a.compare b = .lt) (hbc : b.compare c = .lt) :
    a.compare c = .lt :=
  compareSegments_lt_trans hab hbc

theorem compare_self (a : Name) : a.compare a = .eq := (compare_eq_iff a a).mpr rfl

theorem ne_of_compare_lt {a b : Name} (h : a.compare b = .lt) : a ≠ b := by
  rintro rfl
  rw [compare_self] at h
  cases h

theorem compare_gt_iff (a b : Name) : a.compare b = .gt ↔ b.compare a = .lt := by
  rw [compare_swap a b]
  cases a.compare b <;> simp

end Name

end ConfigKeys
