import ConfigKeys.Name.Walk

/-!
# Walks along a name from both ends

A host follows any number of walks along a name: it begins them, visits segments at either end,
starts over, and takes copies that go on by themselves.  The two places of a walk come towards each
other and may meet anywhere, but never pass each other.  What lies between them is to come; what a
walk answered at its ends and what is to come make up the name.

## Main definitions

* `Walk.Side`, `Walk.visit` — the ends of a walk, and a visit at one of them.
* `Walk.drain` — what a walk answers when it is visited at one end until it has nothing to answer.
* `Walk.Trip`, `Walk.trips` — walks with what they answered since they last began, and those that a
  host has after some calls.
* `Walk.Stands` — where a walk along a name stands.

## Main results

* `Walk.visit_cases` — what a visit does to what is to come.
* `Walk.drain_eq` — what is to come is what further visits answer, from either end.
* `Walk.stands_of_mem_trips` — every walk of a host stands along the name.
* `Walk.each_segment_once` — **from either end, a walk answers each segment once.**
-/

namespace ConfigKeys
namespace Walk

/-- One of the two ends of a walk. -/
inductive Side
  /-- Where the segments to come begin. -/
  | front
  /-- Where the segments to come end. -/
  | back
  deriving DecidableEq

/-- Segments in the order in which one comes upon them from an end. -/
def Side.orient : Side → List String → List String
  | .front, segments => segments
  | .back, segments => segments.reverse

@[simp] theorem Side.orient_nil (side : Side) : side.orient [] = [] := by cases side <;> rfl

/-- Visits the segment to come that is nearest to an end. -/
def visit : Side → Walk → Option String × Walk
  | .front, w => w.next
  | .back, w => w.nextBack

/-- A walk whose places have met has nothing to answer, and stays where it is. -/
theorem visit_of_not_lt {w : Walk} (h : ¬ w.front < w.back) (side : Side) :
    w.visit side = (none, w) := by
  cases side with
  | front => exact if_neg h
  | back => exact if_neg h

/-- Every answer leaves fewer segments to come. -/
theorem remaining_visit_lt {side : Side} {w w' : Walk} {s : String}
    (h : w.visit side = (some s, w')) : w'.remaining < w.remaining := by
  by_cases hlt : w.front < w.back
  · obtain rfl : (w.visit side).2 = w' := congrArg Prod.snd h
    unfold remaining
    cases side with
    | front =>
      rw [visit, next, if_pos hlt]
      show w.back - (w.front + 1) < w.back - w.front
      omega
    | back =>
      rw [visit, nextBack, if_pos hlt]
      show w.back - 1 - w.front < w.back - w.front
      omega
  · rw [visit_of_not_lt hlt] at h
    cases h

/-- What a walk answers when it is visited at one end until it has nothing to answer. -/
def drain (side : Side) (w : Walk) : List String :=
  match _h : w.visit side with
  | (some s, w') => s :: drain side w'
  | (none, _) => []
termination_by w.remaining
decreasing_by exact remaining_visit_lt _h

theorem drain_of_some {side : Side} {w w' : Walk} {s : String}
    (h : w.visit side = (some s, w')) : w.drain side = s :: w'.drain side := by
  rw [drain]
  split
  · next hvisit =>
    cases h.symm.trans hvisit
    rfl
  · next hvisit => cases h.symm.trans hvisit

theorem drain_of_none {side : Side} {w w' : Walk} (h : w.visit side = (none, w')) :
    w.drain side = [] := by
  rw [drain]
  split
  · next hvisit => cases h.symm.trans hvisit
  · rfl

/-! ### What a host does -/

/-- A walk, and what it answered at its ends since it last began. -/
structure Trip where
  /-- The walk. -/
  walk : Walk
  /-- Each end that was visited, with the answer. -/
  answers : List (Side × Option String)
  deriving DecidableEq

namespace Trip

/-- A walk that has just begun. -/
def start (n : Name) : Trip := ⟨Walk.start n, []⟩

/-- Visits one end, and keeps the answer. -/
def visit (side : Side) (t : Trip) : Trip :=
  ⟨(t.walk.visit side).2, t.answers ++ [(side, (t.walk.visit side).1)]⟩

/-- Begins again, and forgets the answers. -/
def restart (t : Trip) : Trip := ⟨t.walk.restart, []⟩

/-- The segments that were answered at an end, in the order of the visits. -/
def returned (side : Side) (t : Trip) : List String :=
  t.answers.filterMap fun answer => if answer.1 = side then answer.2 else none

end Trip

/-- What a host may do to its walks along a name, which go by the order in which they came. -/
inductive Call
  /-- Begins another walk. -/
  | start
  /-- Visits a walk at one end. -/
  | visit (i : Nat) (side : Side)
  /-- Lets a walk begin again. -/
  | restart (i : Nat)
  /-- Takes a copy of a walk, which goes on by itself. -/
  | clone (i : Nat)
  deriving DecidableEq

/-- The walks after a call.  A call to a walk that is not there does nothing. -/
def Call.exec (n : Name) (ts : List Trip) : Call → List Trip
  | .start => ts ++ [Trip.start n]
  | .visit i side => ts.modify i (Trip.visit side)
  | .restart i => ts.modify i Trip.restart
  | .clone i => ts ++ ts[i]?.toList

/-- The walks that a host has along a name after some calls. -/
def trips (n : Name) (calls : List Call) : List Trip := calls.foldl (Call.exec n) []

/-! ### Places -/

/-- The places of a walk have not passed each other, and lie within its segments. -/
structure InBounds (w : Walk) : Prop where
  /-- The front has not passed the back. -/
  front_le : w.front ≤ w.back
  /-- The back lies within the segments. -/
  back_le : w.back ≤ w.segments.length

variable {n : Name} {w w' : Walk} {side : Side} {s : String} {t : Trip} {ts : List Trip}

theorem inBounds_start (n : Name) : (start n).InBounds := ⟨Nat.zero_le _, Nat.le_refl _⟩

theorem rest_start (n : Name) : (start n).rest = n.segments := List.take_length

theorem restart_eq_start (h : w.segments = n.segments) : w.restart = start n := by
  rw [restart, start, h]

namespace InBounds

/-- As many segments are to come as the walk counts. -/
theorem length_rest (h : w.InBounds) : w.rest.length = w.remaining := by
  rw [rest, remaining, List.length_drop, List.length_take, Nat.min_eq_left h.back_le]

/-- Nothing is to come exactly if the two places have met. -/
theorem rest_eq_nil_iff (h : w.InBounds) : w.rest = [] ↔ w.front = w.back := by
  rw [← List.length_eq_zero_iff, h.length_rest, remaining, Nat.sub_eq_zero_iff_le]
  exact ⟨fun hle => Nat.le_antisymm h.front_le hle, fun heq => Nat.le_of_eq heq.symm⟩

/-- A visit at the front takes the first segment to come. -/
theorem next_of_lt (h : w.InBounds) (hlt : w.front < w.back) :
    ∃ s w', w.next = (some s, w') ∧ w'.InBounds ∧ w'.segments = w.segments ∧
      w.rest = s :: w'.rest := by
  have hfront : w.front < w.segments.length := Nat.lt_of_lt_of_le hlt h.back_le
  have htake : w.front < (w.segments.take w.back).length := by
    rw [List.length_take]
    exact Nat.lt_min.mpr ⟨hlt, hfront⟩
  refine ⟨w.segments[w.front], { w with front := w.front + 1 }, ?_, ⟨hlt, h.back_le⟩, rfl, ?_⟩
  · rw [next, if_pos hlt, List.getElem?_eq_getElem hfront]
  · rw [rest, List.drop_eq_getElem_cons htake, List.getElem_take]
    rfl

/-- A visit at the back takes the last segment to come. -/
theorem nextBack_of_lt (h : w.InBounds) (hlt : w.front < w.back) :
    ∃ s w', w.nextBack = (some s, w') ∧ w'.InBounds ∧ w'.segments = w.segments ∧
      w.rest = w'.rest ++ [s] := by
  obtain ⟨last, hlast⟩ : ∃ last, w.back = last + 1 :=
    Nat.exists_eq_add_one.mpr (Nat.zero_lt_of_lt hlt)
  have hle : w.front ≤ last := by omega
  have hback : last < w.segments.length := by
    rw [← Nat.succ_le_iff, ← Nat.add_one, ← hlast]
    exact h.back_le
  have htake : w.front ≤ (w.segments.take last).length := by
    rw [List.length_take]
    exact Nat.le_min.mpr ⟨hle, Nat.le_trans hle (Nat.le_of_lt hback)⟩
  refine ⟨w.segments[last], { w with back := last }, ?_, ⟨hle, Nat.le_of_lt hback⟩, rfl, ?_⟩
  · rw [nextBack, if_pos hlt, hlast, Nat.add_sub_cancel, List.getElem?_eq_getElem hback]
  · rw [rest, hlast, List.take_succ_eq_append_getElem hback, List.drop_append_of_le_length htake]
    rfl

end InBounds

/-- **What a visit does to what is to come.**  Either nothing is, or the visit answers the first
segment that one comes upon from its end, and the others are still to come. -/
theorem visit_cases (h : w.InBounds) (side : Side) :
    (w.rest = [] ∧ w.visit side = (none, w)) ∨
      ∃ s w', w.visit side = (some s, w') ∧ w'.InBounds ∧ w'.segments = w.segments ∧
        side.orient w.rest = s :: side.orient w'.rest := by
  rcases Nat.eq_or_lt_of_le h.front_le with heq | hlt
  · have hmet : ¬ w.front < w.back := Nat.not_lt_of_le (Nat.le_of_eq heq.symm)
    exact .inl ⟨h.rest_eq_nil_iff.mpr heq, visit_of_not_lt hmet side⟩
  · right
    cases side with
    | front => exact h.next_of_lt hlt
    | back =>
      obtain ⟨s, w', hvisit, hbounds, hsegments, hrest⟩ := h.nextBack_of_lt hlt
      refine ⟨s, w', hvisit, hbounds, hsegments, ?_⟩
      rw [hrest]
      exact List.reverse_concat

/-- A visit has nothing to answer exactly if nothing is to come. -/
theorem visit_eq_none_iff (h : w.InBounds) (side : Side) :
    (w.visit side).1 = none ↔ w.rest = [] := by
  rcases visit_cases h side with ⟨hrest, hvisit⟩ | ⟨s, w', hvisit, -, -, hrest⟩
  · rw [hvisit]
    exact iff_of_true rfl hrest
  · rw [hvisit]
    refine iff_of_false nofun fun hnil => ?_
    rw [hnil, Side.orient_nil] at hrest
    cases hrest

/-- **What is to come is what further visits answer**, in the order in which one comes upon it from
the end that is visited. -/
theorem drain_eq (h : w.InBounds) (side : Side) : w.drain side = side.orient w.rest := by
  -- by the visits of `drain`, each of which takes the nearest segment away
  induction w using drain.induct side with
  | case1 w s w' hvisit ih =>
    rcases visit_cases h side with ⟨-, hnone⟩ | ⟨s₁, w₁, hsome, hbounds, -, hrest⟩
    · cases hnone.symm.trans hvisit
    · cases hsome.symm.trans hvisit
      rw [drain_of_some hvisit, hrest, ih hbounds]
  | case2 w w' hvisit =>
    have hrest := (visit_eq_none_iff h side).mp (congrArg Prod.fst hvisit)
    rw [drain_of_none hvisit, hrest, Side.orient_nil]

/-! ### Along the calls of a host -/

/-- **Where a walk along a name stands**: between the segments that it answered at the front and
those that it answered at the back. -/
structure Stands (n : Name) (t : Trip) : Prop where
  /-- It is a walk along the name. -/
  segments : t.walk.segments = n.segments
  /-- Its places have not passed each other. -/
  inBounds : t.walk.InBounds
  /-- What it answered and what is to come make up the name. -/
  parts : t.returned .front ++ t.walk.rest ++ (t.returned .back).reverse = n.segments
  /-- If it once had nothing to answer, then nothing is to come. -/
  ended : ∀ side, (side, none) ∈ t.answers → t.walk.rest = []

theorem stands_start (n : Name) : Stands n (Trip.start n) where
  segments := rfl
  inBounds := inBounds_start n
  parts := by
    show [] ++ (start n).rest ++ [] = n.segments
    rw [List.nil_append, List.append_nil, rest_start]
  ended _ h := absurd h List.not_mem_nil

namespace Trip

/-- A visit adds its answer to those of its end. -/
theorem returned_visit_self (t : Trip) (side : Side) :
    (t.visit side).returned side = t.returned side ++ (t.walk.visit side).1.toList := by
  rw [returned, visit, List.filterMap_append, returned]
  congr 1
  rw [List.filterMap_cons, if_pos rfl]
  cases (t.walk.visit side).1 <;> rfl

/-- A visit leaves the answers of the other end alone. -/
theorem returned_visit_of_ne {side other : Side} (t : Trip) (h : side ≠ other) :
    (t.visit side).returned other = t.returned other := by
  rw [returned, visit, List.filterMap_append, returned, List.filterMap_cons, if_neg h]
  exact List.append_nil _

/-- **A visit makes no segment appear or vanish**: the one that it answers was to come, next to
those that were answered at its end. -/
theorem parts_visit (h : t.walk.InBounds) (side : Side) :
    (t.visit side).returned .front ++ (t.visit side).walk.rest
        ++ ((t.visit side).returned .back).reverse
      = t.returned .front ++ t.walk.rest ++ (t.returned .back).reverse := by
  have hself := t.returned_visit_self side
  rcases visit_cases h side with ⟨-, hvisit⟩ | ⟨s, w', hvisit, -, -, hrest⟩
  · have hwalk : (t.visit side).walk = t.walk := congrArg Prod.snd hvisit
    rw [hvisit, Option.toList_none, List.append_nil] at hself
    rw [hwalk]
    cases side <;> rw [hself, t.returned_visit_of_ne (by decide)]
  · have hwalk : (t.visit side).walk = w' := congrArg Prod.snd hvisit
    rw [hvisit, Option.toList_some] at hself
    rw [hwalk]
    cases side with
    | front =>
      have hfirst : t.walk.rest = s :: w'.rest := hrest
      rw [hself, t.returned_visit_of_ne (by decide), hfirst]
      simp
    | back =>
      have hlast : t.walk.rest = w'.rest.reverse.reverse ++ [s] := List.reverse_eq_cons_iff.mp hrest
      rw [hself, t.returned_visit_of_ne (by decide), hlast]
      simp

end Trip

namespace Stands

/-- A walk that begins again stands where it began. -/
theorem restart_eq (h : Stands n t) : t.restart = Trip.start n := by
  rw [Trip.restart, restart_eq_start h.segments, Trip.start]

/-- **A walk still stands along the name after a visit.** -/
theorem visit (h : Stands n t) (side : Side) : Stands n (t.visit side) := by
  have hparts := (Trip.parts_visit h.inBounds side).trans h.parts
  have hwalk : (t.visit side).walk = (t.walk.visit side).2 := rfl
  rcases visit_cases h.inBounds side with
    ⟨hrest, hvisit⟩ | ⟨s, w', hvisit, hbounds, hsegments, hrest⟩
  · have hwalk : (t.visit side).walk = t.walk := congrArg Prod.snd hvisit
    refine ⟨?_, ?_, hparts, fun _ _ => ?_⟩
    · rw [hwalk, h.segments]
    · rw [hwalk]
      exact h.inBounds
    · rw [hwalk, hrest]
  · have hwalk : (t.visit side).walk = w' := congrArg Prod.snd hvisit
    refine ⟨?_, ?_, hparts, ?_⟩
    · rw [hwalk, hsegments, h.segments]
    · rw [hwalk]
      exact hbounds
    · -- a segment was to come, so neither an earlier answer nor this one is missing
      intro other hmem
      rcases List.mem_append.mp hmem with hmem | hmem
      · rw [h.ended other hmem, Side.orient_nil] at hrest
        cases hrest
      · rw [hvisit] at hmem
        cases List.mem_singleton.mp hmem

end Stands

/-- What the walks of a host were before one of them was changed. -/
theorem mem_modify_cases {i : Nat} {f : Trip → Trip} (h : t ∈ ts.modify i f) :
    t ∈ ts ∨ ∃ t₀ ∈ ts, t = f t₀ := by
  obtain ⟨j, hj⟩ := List.mem_iff_getElem?.mp h
  rw [List.getElem?_modify] at hj
  obtain ⟨t₀, ht₀, heq⟩ := Option.map_eq_some_iff.mp hj
  have hmem := List.mem_of_getElem? ht₀
  by_cases hij : i = j
  · rw [if_pos hij] at heq
    exact .inr ⟨t₀, hmem, heq.symm⟩
  · rw [if_neg hij] at heq
    exact .inl (heq ▸ hmem)

/-- **After a call, every walk of a host still stands along the name.** -/
theorem stands_of_mem_exec (hts : ∀ t ∈ ts, Stands n t) {call : Call} (h : t ∈ call.exec n ts) :
    Stands n t := by
  cases call with
  | start =>
    rcases List.mem_append.mp h with h | h
    · exact hts t h
    · obtain rfl := List.mem_singleton.mp h
      exact stands_start n
  | visit i side =>
    rcases mem_modify_cases h with h | ⟨t₀, h₀, rfl⟩
    · exact hts t h
    · exact (hts t₀ h₀).visit side
  | restart i =>
    rcases mem_modify_cases h with h | ⟨t₀, h₀, rfl⟩
    · exact hts t h
    · rw [(hts t₀ h₀).restart_eq]
      exact stands_start n
  | clone i =>
    rcases List.mem_append.mp h with h | h
    · exact hts t h
    · exact hts t (List.mem_of_getElem? (Option.mem_toList.mp h))

/-- **Every walk of a host stands along the name.** -/
theorem stands_of_mem_trips {calls : List Call} (h : t ∈ trips n calls) : Stands n t := by
  refine List.foldlRecOn (motive := fun ts => ∀ t ∈ ts, Stands n t) calls (Call.exec n) ?_ ?_ t h
  · exact fun t h => absurd h List.not_mem_nil
  · exact fun ts hts call _ t h => stands_of_mem_exec hts h

/-- **From either end, a walk answers each segment once.**  Take any walk that a host has along a
name after any calls.  Its front has not passed its back, which lies within the name; a visit finds
a segment at its place unless the two have met.  Since the walk last began, what it answered at the
front, what a copy would go on to answer there, and what it answered at the back, the last answer
first, are the segments of the name.  From the back the copy would answer the same in reverse.  The
walk counts what is to come.  If it once had nothing to answer, it has nothing to answer at either
end; if it begins again, the whole name is to come. -/
theorem each_segment_once {calls : List Call} (h : t ∈ trips n calls) :
    t.walk.front ≤ t.walk.back ∧ t.walk.back ≤ n.depth ∧
    (∀ side, (t.walk.visit side).1 = none ↔ t.walk.front = t.walk.back) ∧
    t.returned .front ++ t.walk.drain .front ++ (t.returned .back).reverse = n.segments ∧
    t.walk.drain .back = (t.walk.drain .front).reverse ∧
    t.walk.remaining = (t.walk.drain .front).length ∧
    (∀ side, (side, none) ∈ t.answers → ∀ other, (t.walk.visit other).1 = none) ∧
    t.walk.restart.drain .front = n.segments ∧ t.walk.restart.remaining = n.depth := by
  have hstands := stands_of_mem_trips h
  have hbounds := hstands.inBounds
  have hfront : t.walk.drain .front = t.walk.rest := drain_eq hbounds .front
  have hrestart : t.walk.restart = start n := restart_eq_start hstands.segments
  refine ⟨hbounds.front_le, ?_, ?_, ?_, ?_, ?_, ?_, ?_, ?_⟩
  · rw [← n.segments_length, ← hstands.segments]
    exact hbounds.back_le
  · intro side
    rw [visit_eq_none_iff hbounds, hbounds.rest_eq_nil_iff]
  · rw [hfront]
    exact hstands.parts
  · rw [hfront]
    exact drain_eq hbounds .back
  · rw [hfront, hbounds.length_rest]
  · intro side hmem other
    rw [visit_eq_none_iff hbounds]
    exact hstands.ended side hmem
  · rw [hrestart, drain_eq (inBounds_start n), rest_start]
    rfl
  · rw [hrestart]
    rfl

/-- A copy is taken after the first visit, and the walk that it was taken of begins again.  The
places of the copy meet at the middle segment, and then it has nothing to answer. -/
theorem each_segment_once_met :
    ∃ t ∈ trips ⟨.user, ["a", "b"]⟩ [.start, .visit 0 .front, .clone 0, .visit 1 .back, .restart 0,
        .visit 1 .front, .visit 0 .back, .visit 1 .back],
      t.answers = [(.front, some "user"), (.back, some "b"), (.front, some "a"), (.back, none)] ∧
      t.returned .front ++ t.walk.drain .front ++ (t.returned .back).reverse = ["user", "a", "b"] ∧
      (t.walk.visit .front).1 = none ∧ t.walk.restart.drain .front = ["user", "a", "b"] := by
  have hmem : (⟨⟨["user", "a", "b"], 2, 2⟩, [(.front, some "user"), (.back, some "b"),
      (.front, some "a"), (.back, none)]⟩ : Trip) ∈ trips ⟨.user, ["a", "b"]⟩ [.start,
        .visit 0 .front, .clone 0, .visit 1 .back, .restart 0, .visit 1 .front, .visit 0 .back,
        .visit 1 .back] := by decide
  obtain ⟨-, -, -, hparts, -, -, hended, hagain, -⟩ := each_segment_once hmem
  exact ⟨_, hmem, rfl, hparts, hended .back (by decide) .front, hagain⟩

end Walk
end ConfigKeys
