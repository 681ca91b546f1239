import ConfigKeys.Proofs.Name.Rootless
import Mathlib.Data.Set.Function

/-!
# Every segment has one spelling

A segment has a written form of its own: no other segment is written so, and the segment is read
back from it.  Written forms are the texts that can stand as one part of a path — no separator cuts
them, they end outside of escapes, and they do not mean to stay or to go back — as far as they can
be read at all.  So a path falls into the parts that it was joined from.

## Main definitions

* `Segment.isUncut` — no separator of a text stands outside of an escape.
* `Segment.IsSpelling` — a text can stand as one part of a path and adds a segment there.

## Main results

* `Segment.isSpelling_escape` — the written form of a segment is such a text.
* `Segment.escape_of_unescape` — a text that is read as a segment is the written form of it.
* `Segment.split_rootless` — a path falls into the parts that it was joined from.
* `Segment.segments_have_one_spelling` — **escaping matches segments and their spellings.**
-/

namespace ConfigKeys
namespace Segment

variable {c : Char} {cs before text : List Char} {e s : String} {path : List String}

/-! ### Parts of a path -/

/-- No separator of a text stands outside of an escape. -/
def isUncut (text : List Char) : Bool := (marks text).all fun m => !m.isCut

theorem isUncut_iff : isUncut text = true ↔ ∀ m ∈ marks text, m.isCut = false := by
  simp [isUncut]

/-- A text that can stand as one part of a path and adds a segment there: it is neither cut, nor
left inside an escape, nor one of the parts that stay or go back. -/
structure IsSpelling (e : String) : Prop where
  /-- No separator cuts it. -/
  uncut : isUncut e.toList = true
  /-- It ends outside of escapes. -/
  closed : oddEscapes e.toList = false
  /-- It is not empty. -/
  ne_empty : e ≠ ""
  /-- It does not mean to stay. -/
  ne_dot : e ≠ "."
  /-- It does not mean to go back. -/
  ne_dots : e ≠ ".."

/-! ### Written forms -/

/-- An escaped character is neither cut nor left inside an escape. -/
theorem uncut_escapeChar (hbefore : oddEscapes before = false) (c : Char) :
    (∀ m ∈ marksFrom before (escapeChar c), m.isCut = false) ∧
      oddEscapes (before ++ escapeChar c) = false := by
  by_cases hc : c = '/' ∨ c = '\\'
  · rw [escapeChar_of_special hc]
    constructor
    · intro m hm
      simp only [marksFrom, List.mem_cons, List.not_mem_nil, or_false] at hm
      rcases hm with rfl | rfl
      · rfl
      · exact isCut_escaped hbefore c
    · simpa using oddEscapes_pair hbefore c
  · obtain ⟨hslash, hback⟩ := not_or.mp hc
    rw [escapeChar_of_plain hback hslash]
    constructor
    · intro m hm
      obtain rfl := List.mem_singleton.mp hm
      exact isCut_plain hslash
    · exact oddEscapes_plain hback before

/-- So is a text of escaped characters. -/
theorem uncut_flatMap (hbefore : oddEscapes before = false) (cs : List Char) :
    (∀ m ∈ marksFrom before (cs.flatMap escapeChar), m.isCut = false) ∧
      oddEscapes (before ++ cs.flatMap escapeChar) = false := by
  induction cs generalizing before with
  | nil =>
    refine ⟨fun m hm => absurd hm List.not_mem_nil, ?_⟩
    simpa using hbefore
  | cons c cs ih =>
    obtain ⟨huncut, hclosed⟩ := uncut_escapeChar hbefore c
    obtain ⟨huncut', hclosed'⟩ := ih hclosed
    rw [List.flatMap_cons]
    constructor
    · rw [marksFrom_append]
      intro m hm
      rcases List.mem_append.mp hm with hm | hm
      · exact huncut m hm
      · exact huncut' m hm
    · rw [← List.append_assoc]
      exact hclosed'

/-- **The written form of a segment can stand as one part of a path.** -/
theorem isSpelling_escape (s : String) : IsSpelling (escape s) := by
  obtain ⟨hnil, hdot, hdots⟩ := escapeChars_ne_special s.toList
  have hparts : isUncut (escapeChars s.toList) = true ∧
      oddEscapes (escapeChars s.toList) = false := by
    -- three segments are written behind an escape character, and one is not written itself
    rcases escapeChars_cases s.toList with ⟨hs, h⟩ | ⟨hs | hs | hs, h⟩ | ⟨-, h⟩
    · rw [h]; decide
    · rw [h, hs]; decide
    · rw [h, hs]; decide
    · rw [h, hs]; decide
    · obtain ⟨huncut, hclosed⟩ := uncut_flatMap (show oddEscapes [] = false from rfl) s.toList
      rw [h, isUncut_iff]
      exact ⟨huncut, hclosed⟩
  rw [← toList_escape] at hnil hdot hdots hparts
  refine ⟨hparts.1, hparts.2, ?_, ?_, ?_⟩
  · intro h
    exact hnil (by rw [h]; rfl)
  · intro h
    exact hdot (by rw [h]; rfl)
  · intro h
    exact hdots (by rw [h]; rfl)

/-! ### Reading -/

theorem unescape_eq_ok : unescape e = .ok s ↔ unescapeAt 0 e.toList = .ok s.toList := by
  unfold unescape
  cases unescapeAt 0 e.toList with
  | error fault => simp
  | ok segment =>
    simp only [Except.ok.injEq]
    constructor
    · rintro rfl
      exact String.toList_ofList.symm
    · rintro rfl
      exact String.ofList_toList

/-- A segment is read back from its written form. -/
theorem unescape_escape (s : String) : unescape (escape s) = .ok s := by
  rw [unescape_eq_ok, toList_escape]
  exact unescapeAt_escapeChars 0 s.toList

/-- **A text that is read as a segment is the written form of it**, if no separator cuts it and it
does not mean to stay or to go back. -/
theorem escape_of_unescape (huncut : isUncut e.toList = true) (hempty : e ≠ "") (hdot : e ≠ ".")
    (hdots : e ≠ "..") (h : unescape e = .ok s) : escape s = e := by
  rw [unescape_eq_ok] at h
  rw [← String.toList_inj, toList_escape]
  apply escapeChars_of_uncut (show oddEscapes [] = false from rfl) (isUncut_iff.mp huncut) h
  · intro heq
    exact hempty (String.toList_inj.mp heq)
  · intro heq
    exact hdot (String.toList_inj.mp heq)
  · intro heq
    exact hdots (String.toList_inj.mp heq)

/-! ### Joined paths -/

/-- **A path falls into the parts that it was joined from.** -/
theorem split_rootless (hpath : path ≠ []) (position : Nat) :
    ∃ ps, split position (Name.rootless path).toList = .ok ps ∧
      ps.map (fun part => String.ofList part.text) = path.map escape := by
  rw [Name.toList_rootless]
  obtain ⟨ps, hsplit, htexts⟩ := split_written hpath position
  refine ⟨ps, hsplit, ?_⟩
  calc ps.map (fun part => String.ofList part.text)
      = (ps.map Part.text).map String.ofList := by rw [List.map_map]; rfl
    _ = (path.map fun s => escapeChars s.toList).map String.ofList := by rw [htexts]
    _ = path.map escape := by rw [List.map_map]; rfl

/-- Of a path without segments only the one part is left that is passed over. -/
theorem split_rootless_nil (position : Nat) :
    split position (Name.rootless []).toList = .ok [⟨position, []⟩] := rfl

/-- **Escaping matches segments and their spellings.**  A segment is read back from its written
form, which is never cut, left inside an escape or taken for a part that stays or goes back.  So the
written forms of any segments, joined by separators, fall into just these parts — of no segments
only an empty part is left, which is passed over — and lead along these segments, from wherever they
are walked.  And a text that no separator cuts, and that neither stays nor goes back, is the written
form of what is read from it: the spellings that can be read are the written forms, one for each
segment. -/
theorem segments_have_one_spelling :
    (∀ s, unescape (escape s) = .ok s) ∧
    (∀ s, IsSpelling (escape s)) ∧
    (∀ (path : List String) (position : Nat),
      ∃ ps, split position ("/".intercalate (path.map escape)).toList = .ok ps ∧
        (path ≠ [] → ps.map (fun part => String.ofList part.text) = path.map escape) ∧
        (ps.map fun part => String.ofList part.text).filter (fun text => text ≠ "")
          = path.map escape) ∧
    (∀ (path : List String) (before : List String) (position : Nat),
      Name.walk before position ("/".intercalate (path.map escape)).toList
        = .ok (before ++ path)) ∧
    (∀ e s, e ≠ "" → e ≠ "." → e ≠ ".." → isUncut e.toList = true → unescape e = .ok s →
      escape s = e) ∧
    Set.BijOn escape Set.univ { e | IsSpelling e ∧ ∃ s, unescape e = .ok s } := by
  refine ⟨unescape_escape, isSpelling_escape, ?_, ?_, ?_, ?_, ?_, ?_⟩
  · intro path position
    rcases path with _ | ⟨s, path⟩
    · refine ⟨_, split_rootless_nil position, ?_, by simp⟩
      intro h
      exact absurd rfl h
    · obtain ⟨ps, hsplit, htexts⟩ := split_rootless (List.cons_ne_nil s path) position
      refine ⟨ps, hsplit, fun _ => htexts, ?_⟩
      rw [htexts, List.filter_eq_self]
      intro text htext
      obtain ⟨s', -, rfl⟩ := List.mem_map.mp htext
      simpa using (isSpelling_escape s').ne_empty
  · intro path before position
    show Name.walk before position (Name.rootless path).toList = _
    rw [Name.toList_rootless, Name.walk_written]
  · intro e s hempty hdot hdots huncut h
    exact escape_of_unescape huncut hempty hdot hdots h
  · intro s _
    exact ⟨isSpelling_escape s, s, unescape_escape s⟩
  · intro s _ s' _ h
    have hread := unescape_escape s
    rw [h, unescape_escape s'] at hread
    exact (Except.ok.inj hread).symm
  · rintro e ⟨he, s, h⟩
    exact ⟨s, Set.mem_univ s, escape_of_unescape he.uncut he.ne_empty he.ne_dot he.ne_dots h⟩

/-- Two escape characters and `%` are the written form of the segment of one escape character and
`%`, though its own plain spelling is the written form of `%`. -/
theorem segments_have_one_spelling_doubled :
    isUncut "\\\\%".toList = true ∧ unescape "\\\\%" = .ok "\\%" ∧ escape "\\%" = "\\\\%" ∧
      unescape "\\%" = .ok "%" := by
  have hread : unescape "\\\\%" = .ok "\\%" := by decide +kernel
  refine ⟨by decide, hread, ?_, by decide +kernel⟩
  exact segments_have_one_spelling.2.2.2.2.1 "\\\\%" "\\%" (by decide) (by decide) (by decide)
    (by decide) hread

end Segment
end ConfigKeys
