import ConfigKeys.KeySet.Basic
import ConfigKeys.Proofs.Pool.Balance

/-!
# Searching a key set

In a set that is in order, halving finds the place of a name: the keys before it come before the
name, the others do not.

## Main results

* `KeySet.lowerBound_split` — the two halves of a set at a name.
* `KeySet.find?_cases` — what a search finds, and where.
* `KeySet.find?_eq_some_iff` — a search finds just the key of the name.
-/

namespace ConfigKeys
namespace KeySet

variable {p : Pool} {s : KeySet} {n : Name} {k : Key}

/-! ### Halving -/

theorem lowerBoundIn_spec (p : Pool) (keys : Array Key) (n : Name)
    (hmono : ∀ i j, i ≤ j → j < keys.size → (p.name (keys.getD j default)).compare n = .lt →
      (p.name (keys.getD i default)).compare n = .lt) :
    ∀ fuel lo hi, hi - lo ≤ fuel → lo ≤ hi → hi ≤ keys.size →
      (∀ i, i < lo → (p.name (keys.getD i default)).compare n = .lt) →
      (∀ i, hi ≤ i → i < keys.size → (p.name (keys.getD i default)).compare n ≠ .lt) →
      lowerBoundIn p keys n fuel lo hi ≤ keys.size ∧
        (∀ i, i < lowerBoundIn p keys n fuel lo hi →
          (p.name (keys.getD i default)).compare n = .lt) ∧
        ∀ i, lowerBoundIn p keys n fuel lo hi ≤ i → i < keys.size →
          (p.name (keys.getD i default)).compare n ≠ .lt := by
  intro fuel
  induction fuel with
  | zero =>
    intro lo hi hfuel hle hsize hlo hhi
    obtain rfl : lo = hi := by omega
    exact ⟨hsize, hlo, hhi⟩
  | succ fuel ih =>
    -- all before `lo` come before the name, and none from `hi` on does
    intro lo hi hfuel hle hsize hlo hhi
    rw [lowerBoundIn]
    by_cases hlt : lo < hi
    · simp only [hlt, if_true]
      have hmid : lo + (hi - lo) / 2 < hi := by omega
      by_cases hcmp : (p.name (keys.getD (lo + (hi - lo) / 2) default)).compare n = .lt
      · -- the middle comes before the name, and so does all before it
        simp only [hcmp, if_true]
        refine ih _ _ (by omega) (by omega) hsize ?_ hhi
        intro i hi'
        exact hmono i _ (by omega) (by omega) hcmp
      · -- the middle does not, and nothing after it does
        simp only [hcmp, if_false]
        refine ih _ _ (by omega) (by omega) (by omega) hlo ?_
        intro i hmi hi' hbefore
        exact hcmp (hmono _ i hmi hi' hbefore)
    · simp only [hlt, if_false]
      obtain rfl : lo = hi := by omega
      exact ⟨hsize, hlo, hhi⟩

theorem getD_keys {i : Nat} (hi : i < s.toList.length) :
    s.keys.getD i default = s.toList[i] := by
  have hsize : i < s.keys.size := hi
  simp [toList, hsize]

/-- What comes before a key that comes before a name, comes before the name. -/
theorem before_of_le (h : p.Ascending s.toList) (i j : Nat) (hij : i ≤ j) (hj : j < s.keys.size)
    (hbefore : (p.name (s.keys.getD j default)).compare n = .lt) :
    (p.name (s.keys.getD i default)).compare n = .lt := by
  rcases Nat.lt_or_eq_of_le hij with hlt | rfl
  · have hj' : j < s.toList.length := hj
    have hi' : i < s.toList.length := by omega
    rw [getD_keys hj'] at hbefore
    rw [getD_keys hi']
    have hpair := List.pairwise_iff_getElem.mp h i j (by simpa using hi') (by simpa using hj') hlt
    simp only [List.getElem_map] at hpair
    exact Name.compare_lt_trans hpair hbefore
  · exact hbefore

/-- **A set in order splits at a name**: before the place that the search finds stand the keys that
come before the name, and from there on none of those. -/
theorem lowerBound_split (h : p.Ascending s.toList) (n : Name) :
    ∃ l₁ l₂, s.toList = l₁ ++ l₂ ∧ l₁.length = s.lowerBound p n ∧
      (∀ k ∈ l₁, (p.name k).compare n = .lt) ∧ ∀ k ∈ l₂, (p.name k).compare n ≠ .lt := by
  obtain ⟨hsize, hbefore, hafter⟩ := lowerBoundIn_spec p s.keys n (before_of_le h) s.size 0 s.size
    (Nat.le_refl _) (Nat.zero_le _) (Nat.le_refl _) (fun i hi => absurd hi (Nat.not_lt_zero i))
    (fun i hi hi' => absurd hi' (by simpa [size] using hi))
  have hlen : s.lowerBound p n ≤ s.toList.length := hsize
  refine ⟨s.toList.take (s.lowerBound p n), s.toList.drop (s.lowerBound p n),
    (List.take_append_drop _ _).symm, by rw [List.length_take]; omega, ?_, ?_⟩
  · intro k hk
    obtain ⟨i, hi, rfl⟩ := List.mem_iff_getElem.mp hk
    have hib : i < s.lowerBound p n := by
      rw [List.length_take] at hi
      omega
    have hi' : i < s.toList.length := by omega
    rw [List.getElem_take, ← getD_keys hi']
    exact hbefore i hib
  · intro k hk
    obtain ⟨i, hi, rfl⟩ := List.mem_iff_getElem.mp hk
    rw [List.length_drop] at hi
    have hi' : s.lowerBound p n + i < s.toList.length := by omega
    rw [List.getElem_drop, ← getD_keys hi']
    exact hafter _ (by show s.lowerBound p n ≤ _; omega) hi'

/-! ### Finding -/

/-- Whatever the order, what is found is in the set. -/
theorem mem_of_find? (h : s.find? p n = some k) : k ∈ s.toList := by
  obtain ⟨hget, -⟩ := Option.filter_eq_some_iff.mp h
  rw [← Array.getElem?_toList] at hget
  exact List.mem_of_getElem? hget

/-- What a search finds: the key of the name with what stands before and after it, or a gap. -/
theorem find?_cases (h : p.Ascending s.toList) (n : Name) :
    (∃ l₁ k l₂, s.toList = l₁ ++ k :: l₂ ∧ l₁.length = s.lowerBound p n ∧ p.name k = n ∧
      s.find? p n = some k) ∨
    ∃ l₁ l₂, s.toList = l₁ ++ l₂ ∧ l₁.length = s.lowerBound p n ∧
      (∀ k ∈ l₁, (p.name k).compare n = .lt) ∧ (∀ k ∈ l₂, n.compare (p.name k) = .lt) ∧
      s.find? p n = none := by
  obtain ⟨l₁, l₂, hs, hlen, hbefore, hafter⟩ := lowerBound_split h n
  have hget : s.keys[s.lowerBound p n]? = l₂[0]? := by
    rw [← Array.getElem?_toList, show s.keys.toList = l₁ ++ l₂ from hs, ← hlen,
      List.getElem?_append_right (Nat.le_refl _), Nat.sub_self]
  rcases l₂ with _ | ⟨k, l₂⟩
  · refine .inr ⟨l₁, [], hs, hlen, hbefore, by simp, ?_⟩
    rw [find?, hget]
    rfl
  · rw [List.getElem?_cons_zero] at hget
    by_cases hk : p.name k = n
    · refine .inl ⟨l₁, k, l₂, hs, hlen, hk, ?_⟩
      rw [find?, hget]
      simp [hk]
    · refine .inr ⟨l₁, k :: l₂, hs, hlen, hbefore, ?_, by simp [find?, hget, hk]⟩
      -- the first key from the place on is neither before the name nor of the name
      have hnk : n.compare (p.name k) = .lt := by
        rcases hcmp : n.compare (p.name k) with _ | _ | _
        · rfl
        · exact absurd ((Name.compare_eq_iff n (p.name k)).mp hcmp).symm hk
        · exact absurd ((Name.compare_gt_iff _ _).mp hcmp) (hafter k List.mem_cons_self)
      intro x hx
      rcases List.mem_cons.mp hx with rfl | hx
      · exact hnk
      · -- what stands after the key comes after it, and so after the name
        rw [hs, Pool.Ascending, List.map_append, List.map_cons] at h
        have hcons := (List.pairwise_append.mp h).2.1
        exact Name.compare_lt_trans hnk
          ((List.pairwise_cons.mp hcons).1 (p.name x) (List.mem_map_of_mem hx))

/-- **A search finds just the key of the name.** -/
theorem find?_eq_some_iff (h : p.Ascending s.toList) :
    s.find? p n = some k ↔ k ∈ s.toList ∧ p.name k = n := by
  constructor
  · intro hfind
    rcases find?_cases h n with ⟨l₁, k', l₂, hs, -, hname, hsome⟩ | ⟨l₁, l₂, hs, -, -, -, hnone⟩
    · obtain rfl : k' = k := Option.some.inj (hsome.symm.trans hfind)
      exact ⟨by simp [hs], hname⟩
    · rw [hnone] at hfind
      cases hfind
  · rintro ⟨hmem, rfl⟩
    rcases find?_cases h (p.name k) with
      ⟨l₁, k', l₂, hs, -, hname, hsome⟩ | ⟨l₁, l₂, hs, -, hbefore, hafter, -⟩
    · have hmem' : k' ∈ s.toList := by simp [hs]
      rw [hsome, List.inj_on_of_nodup_map h.distinct hmem' hmem hname]
    · rw [hs, List.mem_append] at hmem
      rcases hmem with hmem | hmem
      · exact absurd rfl (Name.ne_of_compare_lt (hbefore k hmem))
      · exact absurd rfl (Name.ne_of_compare_lt (hafter k hmem))

/-- A search looks at names only. -/
theorem find?_congr {q : Pool} (hp : p.Ascending s.toList)
    (hnames : ∀ x ∈ s.toList, q.name x = p.name x) (n : Name) : s.find? q n = s.find? p n := by
  refine Option.ext fun x => ?_
  rw [find?_eq_some_iff (hp.congr hnames), find?_eq_some_iff hp]
  exact and_congr_right fun hx => by rw [hnames x hx]

end KeySet
end ConfigKeys
