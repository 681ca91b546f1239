import ConfigKeys.Name.Basic

/-!
# Walking along a name

A walk visits the segments of a name from both ends towards each other.

## Main definitions

* `Walk` — the segments with the two places that a walk has reached.
* `Walk.next`, `Walk.nextBack`, `Walk.restart`, `Walk.rest`.
-/

namespace ConfigKeys

/-- A walk over the segments of a name: those from `front` on and before `back` are to come. -/
structure Walk where
  /-- All segments of the name. -/
  segments : List String
  /-- How many were visited from the front. -/
  front : Nat
  /-- How many are left when those visited from the back are taken off. -/
  back : Nat
  deriving DecidableEq

namespace Walk

/-- The walk that has visited nothing. -/
def start (n : Name) : Walk := ⟨n.segments, 0, n.segments.length⟩

/-- How many segments are to come. -/
def remaining (w : Walk) : Nat := w.back - w.front

/-- The segments to come, in order. -/
def rest (w : Walk) : List String := (w.segments.take w.back).drop w.front

/-- Visits the first segment to come. -/
def next (w : Walk) : Option String × Walk :=
  if w.front < w.back then (w.segments[w.front]?, { w with front := w.front + 1 }) else (none, w)

/-- Visits the last segment to come. -/
def nextBack (w : Walk) : Option String × Walk :=
  if w.front < w.back then (w.segments[w.back - 1]?, { w with back := w.back - 1 }) else (none, w)

/-- Begins again. -/
def restart (w : Walk) : Walk := { w with front := 0, back := w.segments.length }

end Walk

end ConfigKeys
