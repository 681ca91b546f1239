import ConfigKeys.Proofs.KeySet.Map
import ConfigKeys.Proofs.KeySet.Subtree

/-!
# Walks along lists that change

A place in a list splits the list into what lies behind it and what lies ahead.  As items come and
go, the place is moved so that every item that stays remains on its side, and the item at the place
stays there.  A walk never repeats what lies behind it, and gets to all that lies ahead.

## Main definitions

* `Cursor.behind`, `Cursor.ahead` — the two sides of a place.
* `Cursor.Within`, `Cursor.Done` — a place is not beyond the end of the list; it is there.
* `Cursor.Keeps` — what a change of the list keeps.

## Main results

* `Cursor.item?_advance` — the walk goes on with what comes next.
* `Cursor.item?_insert` — the item at a place stays there.
* `Cursor.keeps_insert`, `Cursor.keeps_remove` — insertion and removal keep the sides.
* `Cursor.head?_ahead` — in a list in order, what comes next is the least beyond the place.
* `KeySet.grows_append`, `KeySet.thins_remove`, `KeySet.thins_cut` — the walk along the names of a
  set.
-/

namespace ConfigKeys

namespace Cursor

open KeySet (cursorAfterInsert cursorAfterRemoval)

section Lists

variable {α : Type} {c c' c'' : Cursor} {l l' l'' l₁ m l₂ : List α} {x y : α}

/-- How many items lie behind a place, the one at the place included. -/
def passed (c : Cursor) : Nat := match c.position with | none => 0 | some i => i + 1

/-- The items behind a place, the one at the place included. -/
def behind (c : Cursor) (l : List α) : List α := l.take c.passed

/-- The items ahead of a place. -/
def ahead (c : Cursor) (l : List α) : List α := l.drop c.passed

theorem behind_append_ahead (c : Cursor) (l : List α) : c.behind l ++ c.ahead l = l :=
  List.take_append_drop _ _

/-- A place is not beyond the end of a list. -/
def Within (c : Cursor) (l : List α) : Prop := ∀ i, c.position = some i → i ≤ l.length

/-- A place is at the end of a list, behind the last item. -/
def Done (c : Cursor) (l : List α) : Prop := c.position = some l.length

/-! ### The item at a place -/

theorem item?_of_done (h : c.Done l) : c.item? l = none := by
  rw [item?, h]
  exact List.getElem?_eq_none (Nat.le_refl _)

/-- The item at a place is the last one behind it. -/
theorem behind_of_item? (h : c.item? l = some y) : ∃ l', c.behind l = l' ++ [y] := by
  obtain ⟨i, hi, hget⟩ := Option.bind_eq_some_iff.mp h
  obtain ⟨hlt, hy⟩ := List.getElem?_eq_some_iff.mp hget
  refine ⟨l.take i, ?_⟩
  rw [behind, passed, hi, ← hy]
  exact List.take_succ_eq_append_getElem hlt

/-! ### The walk -/

theorem within_advance (c : Cursor) (l : List α) : (c.advance l.length).Within l := by
  intro i hi
  obtain rfl := Option.some.inj hi
  exact Nat.min_le_right _ _

theorem advance_position (c : Cursor) (size : Nat) :
    (c.advance size).position = some (min c.passed size) := by
  rcases c with ⟨_ | i⟩ <;> rfl

/-- **The walk goes on with the first item ahead.** -/
theorem item?_advance (c : Cursor) (l : List α) :
    (c.advance l.length).item? l = (c.ahead l).head? := by
  rw [item?, advance_position, ahead, List.head?_drop, Option.bind_some]
  rcases Nat.lt_or_ge c.passed l.length with hlt | hle
  · rw [Nat.min_eq_left (Nat.le_of_lt hlt)]
  · rw [Nat.min_eq_right hle, List.getElem?_eq_none (Nat.le_refl _), List.getElem?_eq_none hle]

theorem behind_advance (c : Cursor) (l : List α) :
    (c.advance l.length).behind l = c.behind l ++ (c.ahead l).head?.toList := by
  rw [behind, behind, ahead, passed, advance_position]
  rcases Nat.lt_or_ge c.passed l.length with hlt | hle
  · rw [Nat.min_eq_left (Nat.le_of_lt hlt), List.head?_drop, List.getElem?_eq_getElem hlt]
    exact List.take_succ_eq_append_getElem hlt
  · rw [Nat.min_eq_right hle, List.drop_eq_nil_of_le hle, List.take_of_length_le hle,
      List.take_of_length_le (Nat.le_succ _)]
    exact (List.append_nil l).symm

/-- When nothing is ahead, the walk comes to the end, and it stays there. -/
theorem done_advance (h : c.ahead l = []) : (c.advance l.length).Done l := by
  rw [Done, advance_position, Nat.min_eq_right (List.drop_eq_nil_iff.mp h)]

theorem ahead_of_done (h : c.Done l) : c.ahead l = [] := by
  rw [ahead, passed, h]
  exact List.drop_eq_nil_of_le (Nat.le_succ _)

/-! ### Removal -/

theorem passed_removal (c : Cursor) (start count : Nat) :
    min (cursorAfterRemoval c start count).passed start = min c.passed start ∧
      (cursorAfterRemoval c start count).passed - start = c.passed - start - count := by
  rw [cursorAfterRemoval, passed, passed]
  rcases c.position with _ | i
  · exact ⟨rfl, by simp⟩
  · rw [Option.bind_some]
    rcases Nat.lt_or_ge i start with hbefore | hle
    · rw [if_neg (by omega), if_neg (Nat.not_le.mpr hbefore)]
      refine ⟨rfl, ?_⟩
      simp only
      omega
    · rcases Nat.lt_or_ge i (start + count) with htaken | hbeyond
      · rw [if_neg (Nat.not_le.mpr htaken), if_pos hle]
        rcases start with _ | start
        · simp only [if_true]
          omega
        · simp only [Nat.succ_ne_zero, if_false]
          omega
      · rw [if_pos hbeyond]
        simp only
        omega

/-- **What is removed goes from its side, and all else stays on its own.** -/
theorem sides_removal {f : α → Bool} (c : Cursor) (h₁ : ∀ x ∈ l₁, f x = true)
    (hm : ∀ x ∈ m, f x = false) (h₂ : ∀ x ∈ l₂, f x = true) :
    (cursorAfterRemoval c l₁.length m.length).behind (l₁ ++ l₂)
        = (c.behind (l₁ ++ (m ++ l₂))).filter f ∧
      (cursorAfterRemoval c l₁.length m.length).ahead (l₁ ++ l₂)
        = (c.ahead (l₁ ++ (m ++ l₂))).filter f := by
  obtain ⟨hmin, hsub⟩ := passed_removal c l₁.length m.length
  have htake : l₁.take (cursorAfterRemoval c l₁.length m.length).passed = l₁.take c.passed := by
    rw [List.take_eq_take_min, hmin, ← List.take_eq_take_min]
  have hdrop : l₁.drop (cursorAfterRemoval c l₁.length m.length).passed = l₁.drop c.passed := by
    rw [List.drop_eq_drop_min, hmin, ← List.drop_eq_drop_min]
  have hall : ∀ {l : List α}, (∀ x ∈ l, f x = true) → l.filter f = l :=
    fun hl => List.filter_eq_self.mpr hl
  have hnone : ∀ {l : List α}, (∀ x ∈ l, f x = false) → l.filter f = [] := fun hl =>
    List.filter_eq_nil_iff.mpr fun x hx => by rw [hl x hx]; exact Bool.false_ne_true
  constructor
  · simp only [behind, List.take_append, List.filter_append, htake, hsub]
    rw [hall fun x hx => h₁ x (List.mem_of_mem_take hx),
      hnone fun x hx => hm x (List.mem_of_mem_take hx),
      hall fun x hx => h₂ x (List.mem_of_mem_take hx), List.nil_append]
  · simp only [ahead, List.drop_append, List.filter_append, hdrop, hsub]
    rw [hall fun x hx => h₁ x (List.mem_of_mem_drop hx),
      hnone fun x hx => hm x (List.mem_of_mem_drop hx),
      hall fun x hx => h₂ x (List.mem_of_mem_drop hx), List.nil_append]

/-- To take an inserted item out again leads back to the place before. -/
theorem cursorAfterRemoval_insert (c : Cursor) (index : Nat) :
    cursorAfterRemoval (cursorAfterInsert c index) index 1 = c := by
  obtain ⟨_ | i⟩ := c
  · rfl
  · rw [cursorAfterInsert, cursorAfterRemoval, Option.map_some, Option.bind_some]
    rcases Nat.lt_or_ge i index with hbefore | hle
    · rw [if_neg (Nat.not_le.mpr hbefore), if_neg (by omega), if_neg (Nat.not_le.mpr hbefore)]
    · rw [if_pos hle, if_pos (Nat.succ_le_succ hle)]
      rfl

/-! ### What a change keeps -/

/-- From the place `c` in `l` to the place `c'` in `l'`, what stays keeps its side and is not
repeated, and the walk does not leave the list. -/
structure Keeps [DecidableEq α] (c : Cursor) (l : List α) (c' : Cursor) (l' : List α) : Prop where
  within : c.Within l → c'.Within l'
  done : c.Done l → c'.Done l'
  item : ∀ y, c.item? l = some y → y ∈ l' → c'.item? l' = some y
  count : ∀ a ∈ l, a ∈ l' → (c'.behind l').count a = (c.behind l).count a

namespace Keeps

variable [DecidableEq α]

theorem refl (c : Cursor) (l : List α) : Keeps c l c l :=
  ⟨id, id, fun _ hy _ => hy, fun _ _ _ => rfl⟩

/-- Changes follow one another, if the second one leaves nothing out that the first one put in
again. -/
theorem trans (h : Keeps c l c' l') (h' : Keeps c' l' c'' l'')
    (hmem : ∀ a ∈ l, a ∈ l'' → a ∈ l') : Keeps c l c'' l'' where
  within hc := h'.within (h.within hc)
  done hc := h'.done (h.done hc)
  item y hy hy'' := by
    obtain ⟨i, -, hi⟩ := Option.bind_eq_some_iff.mp hy
    exact h'.item y (h.item y hy (hmem y (List.mem_of_getElem? hi) hy'')) hy''
  count a ha ha'' := by
    have ha' := hmem a ha ha''
    exact (h'.count a ha' ha'').trans (h.count a ha ha')

end Keeps

/-- **The item at a place stays there** when another one comes in. -/
theorem item?_insert (c : Cursor) (l₁ l₂ : List α) (x : α) :
    (cursorAfterInsert c l₁.length).item? (l₁ ++ x :: l₂) = c.item? (l₁ ++ l₂) := by
  unfold item? cursorAfterInsert
  cases c.position with
  | none => rfl
  | some i =>
    rw [Option.map_some, Option.bind_some, Option.bind_some]
    rcases Nat.lt_or_ge i l₁.length with hbefore | hle
    · rw [if_neg (Nat.not_le.mpr hbefore), List.getElem?_append_left hbefore,
        List.getElem?_append_left hbefore]
    · rw [if_pos hle, List.getElem?_append_right (Nat.le_succ_of_le hle), Nat.succ_sub hle,
        List.getElem?_cons_succ, ← List.getElem?_append_right hle]

/-- **An insertion keeps the sides.** -/
theorem keeps_insert [DecidableEq α] (c : Cursor) (hx : x ∉ l₁ ++ l₂) :
    Keeps c (l₁ ++ l₂) (cursorAfterInsert c l₁.length) (l₁ ++ x :: l₂) where
  within h := by
    intro i' hi'
    obtain ⟨i, hi, rfl⟩ := Option.map_eq_some_iff.mp hi'
    have hle := h i hi
    rw [List.length_append, List.length_cons] at *
    split
    · omega
    · omega
  done h := by
    rw [Done] at h ⊢
    rw [cursorAfterInsert, h, List.length_append, List.length_append, List.length_cons,
      Option.map_some, if_pos (Nat.le_add_right _ _), Nat.add_assoc]
  item y hy _ := by
    rw [item?_insert]
    exact hy
  count a ha _ := by
    -- the sides before are those after with the new item taken out
    have hne : ∀ {l : List α}, (∀ y ∈ l, y ∈ l₁ ++ l₂) → ∀ y ∈ l, (decide (y ≠ x)) = true :=
      fun hl y hy => decide_eq_true fun heq => hx (heq ▸ hl y hy)
    obtain ⟨hbehind, -⟩ := sides_removal (f := fun y => decide (y ≠ x)) (m := [x])
      (cursorAfterInsert c l₁.length) (hne fun y hy => List.mem_append_left l₂ hy)
      (fun y hy => by rw [List.mem_singleton.mp hy]; simp)
      (hne fun y hy => List.mem_append_right l₁ hy)
    rw [List.length_singleton, cursorAfterRemoval_insert] at hbehind
    have hkept : (fun y => decide (y ≠ x)) a = true := hne (fun y hy => hy) a ha
    rw [hbehind, List.count_filter (p := fun y => decide (y ≠ x)) hkept]
    rfl

/-- **A removal keeps the sides** of what stays. -/
theorem keeps_remove [DecidableEq α] {f : α → Bool} (c : Cursor) (h₁ : ∀ x ∈ l₁, f x = true)
    (hm : ∀ x ∈ m, f x = false) (h₂ : ∀ x ∈ l₂, f x = true) :
    Keeps c (l₁ ++ (m ++ l₂)) (cursorAfterRemoval c l₁.length m.length) (l₁ ++ l₂) where
  within h := by
    intro i' hi'
    obtain ⟨i, hi, hi'⟩ := Option.bind_eq_some_iff.mp hi'
    have hle := h i hi
    simp only [List.length_append] at hle ⊢
    split at hi'
    · cases hi'
      omega
    · split at hi'
      · split at hi'
        · cases hi'
        · cases hi'
          omega
      · cases hi'
        omega
  done h := by
    rw [Done] at h ⊢
    simp only [List.length_append] at h ⊢
    rw [cursorAfterRemoval, h, Option.bind_some, if_pos (by omega)]
    exact congrArg some (by omega)
  item y hy hy' := by
    obtain ⟨i, hi, hget⟩ := Option.bind_eq_some_iff.mp hy
    rw [item?, cursorAfterRemoval, hi, Option.bind_some]
    rcases Nat.lt_or_ge i l₁.length with hbefore | hle
    · rw [List.getElem?_append_left hbefore] at hget
      rw [if_neg (by omega), if_neg (Nat.not_le.mpr hbefore), Option.bind_some,
        List.getElem?_append_left hbefore, hget]
    · rw [List.getElem?_append_right hle] at hget
      rcases Nat.lt_or_ge (i - l₁.length) m.length with htaken | hbeyond
      · -- the item is one of those that are taken
        rw [List.getElem?_append_left htaken] at hget
        have hfalse := hm y (List.mem_of_getElem? hget)
        rcases List.mem_append.mp hy' with hy' | hy'
        · rw [h₁ y hy'] at hfalse
          cases hfalse
        · rw [h₂ y hy'] at hfalse
          cases hfalse
      · rw [List.getElem?_append_right hbeyond] at hget
        rw [if_pos (by omega), Option.bind_some, List.getElem?_append_right (by omega), ← hget]
        congr 1
        omega
  count a ha ha' := by
    have hfa : f a = true := by
      rcases List.mem_append.mp ha' with ha' | ha'
      · exact h₁ a ha'
      · exact h₂ a ha'
    rw [(sides_removal c h₁ hm h₂).1, List.count_filter hfa]

end Lists

/-- **In a list in order, what comes next is the least beyond the place**, also where the item at
the place is taken out. -/
theorem head?_ahead {c c' : Cursor} {l l' : List Name} {n : Name} {f : Name → Bool}
    (h : l.Pairwise fun a b => a.compare b = .lt) (hn : c.item? l = some n)
    (hbehind : c'.behind l' = (c.behind l).filter f)
    (hahead : c'.ahead l' = (c.ahead l).filter f) :
    (c'.ahead l').head? = l'.find? fun x => n.compare x = .lt := by
  obtain ⟨before, hlast⟩ := behind_of_item? hn
  rw [← c.behind_append_ahead l, hlast] at h
  obtain ⟨hleft, -, hbeyond⟩ := List.pairwise_append.mp h
  -- nothing behind the place is beyond the name, and all that is ahead is
  have hnone : (c'.behind l').find? (fun x => n.compare x = .lt) = none := by
    rw [List.find?_eq_none]
    intro x hx hlt
    rw [hbehind, hlast] at hx
    have hlt := of_decide_eq_true hlt
    rcases List.mem_append.mp (List.mem_of_mem_filter hx) with hx | hx
    · have hself := Name.compare_lt_trans
        ((List.pairwise_append.mp hleft).2.2 x hx n List.mem_cons_self) hlt
      rw [Name.compare_self] at hself
      cases hself
    · rw [List.mem_singleton.mp hx, Name.compare_self] at hlt
      cases hlt
  conv => rhs; rw [← c'.behind_append_ahead l', List.find?_append, hnone, Option.none_or]
  rcases hrest : c'.ahead l' with _ | ⟨x, rest⟩
  · rfl
  · have hx : x ∈ c.ahead l := by
      have hmem : x ∈ c'.ahead l' := hrest ▸ List.mem_cons_self
      rw [hahead] at hmem
      exact List.mem_of_mem_filter hmem
    have hlt := hbeyond n (List.mem_append_right _ List.mem_cons_self) x hx
    rw [List.find?_cons_of_pos (p := fun x => n.compare x = .lt) (decide_eq_true hlt)]
    rfl

end Cursor

namespace KeySet

variable {p : Pool} {s : KeySet} {n : Name} {k : Key} {S R : List (List Key)}
variable {P H L : List RecordId}

/-- The names along which a walk goes. -/
def names (p : Pool) (s : KeySet) : List Name := s.toList.map p.name

theorem current_name (p : Pool) (s : KeySet) :
    s.current.map p.name = s.cursor.item? (s.names p) := by
  rw [current, Cursor.item?, Cursor.item?, Option.map_bind, names]
  exact congrArg _ (funext fun i => (List.getElem?_map ..).symm)

theorem size_names (p : Pool) (s : KeySet) : (s.names p).length = s.size := List.length_map _

/-- **What `next` finds**, and where it goes. -/
theorem next_name (p : Pool) (s : KeySet) :
    s.next.1.map p.name = (s.cursor.ahead (s.names p)).head? ∧
      s.next.2.cursor = s.cursor.advance (s.names p).length ∧ s.next.2.names p = s.names p := by
  rw [size_names]
  refine ⟨?_, rfl, rfl⟩
  rw [← Cursor.item?_advance, size_names]
  exact current_name p { s with cursor := s.cursor.advance s.size }

/-! ### The walk along the names of a set -/

/-- Keys come in between the others, or take places over, and the walk goes on as it would have. -/
structure Grows (p : Pool) (s : KeySet) (q : Pool) (s' : KeySet) : Prop where
  keeps : s.cursor.Keeps (s.names p) s'.cursor (s'.names q)
  subset : s.names p ⊆ s'.names q

/-- Keys go out, and the walk goes on as it would have. -/
structure Thins (p : Pool) (s : KeySet) (q : Pool) (s' : KeySet) : Prop where
  keeps : s.cursor.Keeps (s.names p) s'.cursor (s'.names q)
  /-- If the key at the place goes out, the walk goes on with what comes after it. -/
  next : ∀ n, s.cursor.item? (s.names p) = some n →
    (s'.cursor.ahead (s'.names q)).head? = (s'.names q).find? fun x => n.compare x = .lt

theorem Grows.trans {q q' : Pool} {s' s'' : KeySet} (h : Grows p s q s') (h' : Grows q s' q' s'') :
    Grows p s q' s'' where
  keeps := h.keeps.trans h'.keeps fun _ ha _ => h.subset ha
  subset := List.Subset.trans h.subset h'.subset

theorem Thins.refl (h : p.Ascending s.toList) : Thins p s p s :=
  ⟨.refl _ _, fun _ hn => Cursor.head?_ahead h hn (List.filter_true _).symm
    (List.filter_true _).symm⟩

/-- **Appending a key.** -/
theorem grows_append {r : Record} (h : p.Balanced (s.toList :: S) R P H (k.id :: L))
    (hr : p.find? k.id = some r) : Grows p s (s.append p k).1 (s.append p k).2 := by
  have hafter : (s.append p k).2.names (s.append p k).1 = (s.append p k).2.names p :=
    List.map_congr_left (names_append h hr)
  suffices hgrows : Grows p s p (s.append p k).2 by
    refine ⟨?_, ?_⟩
    · rw [hafter]
      exact hgrows.keeps
    · rw [hafter]
      exact hgrows.subset
  rcases append_cases h.ascending_set k with
    ⟨l₁, old, l₂, -, -, -, heq⟩ | ⟨l₁, old, l₂, s', hs, hname, -, heq, hs', hcursor⟩ |
      ⟨l₁, l₂, s', hs, hbefore, hafter, heq, hs', hcursor⟩
  · rw [heq]
    exact ⟨.refl _ _, List.Subset.refl _⟩
  · -- the names are the same
    have hnames : s'.names p = s.names p := by
      simp [names, hs, hs', hname]
    rw [heq]
    refine ⟨?_, ?_⟩
    · rw [hnames, hcursor]
      exact .refl _ _
    · rw [hnames]
      exact List.Subset.refl _
  · have hnew : p.name k ∉ l₁.map p.name ++ l₂.map p.name := by
      rw [List.mem_append, List.mem_map, List.mem_map]
      rintro (⟨x, hx, heq⟩ | ⟨x, hx, heq⟩)
      · exact Name.ne_of_compare_lt (hbefore x hx) heq
      · exact Name.ne_of_compare_lt (hafter x hx) heq.symm
    have hkeeps := Cursor.keeps_insert s.cursor hnew
    rw [heq]
    refine ⟨?_, ?_⟩
    · rw [names, names, hs, hs', hcursor, List.map_append, List.map_append, List.map_cons]
      simpa using hkeeps
    · rw [names, names, hs, hs', List.map_append, List.map_append, List.map_cons]
      intro n hn
      exact (List.mem_append.mp hn).elim (List.mem_append_left _)
        fun hn => List.mem_append_right _ (List.mem_cons_of_mem _ hn)

/-- **The walk stays at the same name** when a key is appended. -/
theorem current_append {r : Record} (h : p.Balanced (s.toList :: S) R P H (k.id :: L))
    (hr : p.find? k.id = some r) :
    (s.append p k).2.current.map (s.append p k).1.name = s.current.map p.name := by
  have hnames : (s.append p k).2.names (s.append p k).1 = (s.append p k).2.names p :=
    List.map_congr_left (names_append h hr)
  rw [current_name, current_name, hnames]
  rcases append_cases h.ascending_set k with
    ⟨l₁, old, l₂, -, -, -, heq⟩ | ⟨l₁, old, l₂, s', hs, hname, -, heq, hs', hcursor⟩ |
      ⟨l₁, l₂, s', hs, -, -, heq, hs', hcursor⟩
  · rw [heq]
  · rw [heq, names, names, hs, hs', hcursor]
    simp [hname]
  · have hstays := Cursor.item?_insert s.cursor (l₁.map p.name) (l₂.map p.name) (p.name k)
    rw [heq, names, names, hs, hs', hcursor, List.map_append, List.map_append, List.map_cons]
    simpa using hstays

/-- **Appending keys** that are held elsewhere. -/
theorem grows_appendAll {keys : List Key} (h : p.Balanced (s.toList :: S) R P H L)
    (hheld : ∀ k ∈ keys, k.id ∈ Pool.placeIds S R P ++ H) :
    Grows p s (s.appendAll p keys).1 (s.appendAll p keys).2 := by
  induction keys generalizing p s with
  | nil => exact ⟨.refl _ _, List.Subset.refl _⟩
  | cons k keys ih =>
    have hin : k.id ∈ Pool.placeIds (s.toList :: S) R P ++ H := by
      have hmem := hheld k List.mem_cons_self
      simp only [Pool.placeIds, List.flatten_cons, List.map_append, List.mem_append] at hmem ⊢
      tauto
    obtain ⟨r, hr, -⟩ := h.exists_of_held hin
    have hweak := h.weaken fun _ hi => List.mem_cons_of_mem k.id hi
    rw [appendAll_cons]
    exact (grows_append hweak hr).trans
      (ih (hweak.append hr) fun x hx => hheld x (List.mem_cons_of_mem k hx))

/-- **Keys that go out side by side.** -/
theorem thins_of_split {f : Name → Bool} {l₁ m l₂ : List Key} {s' : KeySet}
    (h : p.Ascending s.toList) (hs : s.toList = l₁ ++ (m ++ l₂)) (hs' : s'.toList = l₁ ++ l₂)
    (hcursor : s'.cursor = cursorAfterRemoval s.cursor l₁.length m.length)
    (h₁ : ∀ k ∈ l₁, f (p.name k) = true) (hm : ∀ k ∈ m, f (p.name k) = false)
    (h₂ : ∀ k ∈ l₂, f (p.name k) = true) : Thins p s p s' := by
  have hnames : s.names p = l₁.map p.name ++ (m.map p.name ++ l₂.map p.name) := by
    rw [names, hs, List.map_append, List.map_append]
  have hnames' : s'.names p = l₁.map p.name ++ l₂.map p.name := by
    rw [names, hs', List.map_append]
  have hforall : ∀ {l : List Key} {b : Bool}, (∀ k ∈ l, f (p.name k) = b) →
      ∀ x ∈ l.map p.name, f x = b := by
    intro l b hl x hx
    obtain ⟨k, hk, rfl⟩ := List.mem_map.mp hx
    exact hl k hk
  have hkeeps := Cursor.keeps_remove s.cursor (hforall h₁) (hforall hm) (hforall h₂)
  obtain ⟨hbehind, hahead⟩ :=
    Cursor.sides_removal s.cursor (hforall h₁) (hforall hm) (hforall h₂)
  rw [List.length_map, List.length_map, ← hcursor, ← hnames, ← hnames'] at hkeeps hbehind hahead
  exact ⟨hkeeps, fun n hn => Cursor.head?_ahead h hn hbehind hahead⟩

/-- **Removing a name.** -/
theorem thins_remove (h : p.Ascending s.toList) (n : Name) : Thins p s p (s.remove p n).2.2 := by
  rcases remove_cases h n with ⟨-, heq⟩ | ⟨l₁, k, l₂, s', hs, rfl, heq, hs', hcursor⟩
  · rw [heq]
    exact .refl h
  · have hne : ∀ x ∈ l₁ ++ l₂, p.name x ≠ p.name k := by
      rw [hs] at h
      exact fun x hx => h.ne_of_mem_others (Pool.mem_pairs.mpr ⟨x, hx, rfl, rfl⟩)
    rw [heq]
    refine thins_of_split (f := fun x => x ≠ p.name k) (m := [k]) h hs hs' hcursor ?_ ?_ ?_
    · exact fun x hx => decide_eq_true (hne x (List.mem_append_left _ hx))
    · exact fun x hx => by rw [List.mem_singleton.mp hx]; exact decide_eq_false (fun hk => hk rfl)
    · exact fun x hx => decide_eq_true (hne x (List.mem_append_right _ hx))

/-- **Cutting.** -/
theorem thins_cut (h : p.Ascending s.toList) (n : Name) : Thins p s p (s.cut p n).2 := by
  obtain ⟨l₁, taken, l₂, hs, hspan, h₁, htaken, h₂⟩ := span_split h n
  obtain ⟨-, hrest⟩ := cut_toList p s n
  refine thins_of_split (f := fun x => !x.isBelowOrSame n) (m := taken) h hs ?_ ?_ ?_ ?_ ?_
  · rw [hrest, hspan, hs, List.take_left, ← List.drop_drop, List.drop_left, List.drop_left]
  · simp only [cut, hspan]
  · exact fun k hk => by rw [h₁ k hk]; rfl
  · exact fun k hk => by rw [htaken k hk]; rfl
  · exact fun k hk => by rw [h₂ k hk]; rfl

end KeySet
end ConfigKeys
