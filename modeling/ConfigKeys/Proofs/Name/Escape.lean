import ConfigKeys.Proofs.Name.Root

/-!
# Written names are read back

A segment is escaped so that its written form holds no separator of its own, is none of the parts
with a meaning of their own, and is read back as the segment.

## Main definitions

* `Segment.written` — a path of segments in its written form.

## Main results

* `Segment.unescapeAt_escapeChars` — an escaped segment is read back.
* `Segment.split_written` — a written path is cut where its segments meet.
* `Name.parse?_canonical` — the canonical form of a name is read back within limits that it fits.
-/

namespace ConfigKeys
namespace Segment

open String (utf8Len)

variable {c : Char} {cs rest part acc : List Char} {position start : Nat} {parts : List Part}

/-! ### The steps of the readers -/

theorem unescapeFrom_plain (hc : c ≠ '\\') :
    unescapeFrom position acc (c :: rest)
      = unescapeFrom (position + c.utf8Size) (c :: acc) rest := by
  rw [unescapeFrom]
  · exact fun h => absurd h hc
  · exact fun _ _ h => absurd h hc

theorem unescapeFrom_escaped (hc : c = '/' ∨ c = '\\') :
    unescapeFrom position acc ('\\' :: c :: rest)
      = unescapeFrom (position + 1 + c.utf8Size) (c :: acc) rest := by
  rw [unescapeFrom, if_pos hc]

theorem splitFrom_plain (hc : c ≠ '\\') (hc' : c ≠ '/') :
    splitFrom position start part parts (c :: rest)
      = splitFrom (position + c.utf8Size) start (c :: part) parts rest := by
  rw [splitFrom]
  · exact fun h => absurd h hc
  · exact fun _ _ h => absurd h hc
  · exact hc'

theorem splitFrom_escaped :
    splitFrom position start part parts ('\\' :: c :: rest)
      = splitFrom (position + 1 + c.utf8Size) start (c :: '\\' :: part) parts rest := by
  rw [splitFrom]

theorem splitFrom_separator :
    splitFrom position start part parts ('/' :: rest)
      = splitFrom (position + 1) (position + 1) [] (⟨start, part.reverse⟩ :: parts) rest := by
  rw [splitFrom]

/-! ### Escaped characters -/

theorem escapeChar_of_special (hc : c = '/' ∨ c = '\\') : escapeChar c = ['\\', c] := if_pos hc

theorem escapeChar_of_plain (hc : c ≠ '\\') (hc' : c ≠ '/') : escapeChar c = [c] :=
  if_neg (not_or.mpr ⟨hc', hc⟩)

theorem unescapeFrom_escapeChar (c : Char) (rest acc : List Char) (position : Nat) :
    unescapeFrom position acc (escapeChar c ++ rest)
      = unescapeFrom (position + utf8Len (escapeChar c)) (c :: acc) rest := by
  by_cases hc : c = '/' ∨ c = '\\'
  · have hsize : utf8Len ['\\', c] = 1 + c.utf8Size := by
      rw [String.utf8Len_cons, String.utf8Len_cons, String.utf8Len_nil, Nat.zero_add, Nat.add_comm]
      rfl
    rw [escapeChar_of_special hc, hsize, ← Nat.add_assoc]
    exact unescapeFrom_escaped hc
  · obtain ⟨hslash, hback⟩ := not_or.mp hc
    rw [escapeChar_of_plain hback hslash, String.utf8Len_cons, String.utf8Len_nil, Nat.zero_add]
    exact unescapeFrom_plain hback

theorem unescapeFrom_flatMap (cs rest acc : List Char) (position : Nat) :
    unescapeFrom position acc (cs.flatMap escapeChar ++ rest)
      = unescapeFrom (position + utf8Len (cs.flatMap escapeChar)) (cs.reverse ++ acc) rest := by
  induction cs generalizing position acc with
  | nil => rfl
  | cons c cs ih =>
    rw [List.flatMap_cons, List.append_assoc, unescapeFrom_escapeChar, ih, String.utf8Len_append,
      Nat.add_assoc, List.reverse_cons, List.append_assoc]
    rfl

theorem splitFrom_escapeChar (c : Char) (rest part : List Char) (parts : List Part)
    (position start : Nat) :
    splitFrom position start part parts (escapeChar c ++ rest)
      = splitFrom (position + utf8Len (escapeChar c)) start ((escapeChar c).reverse ++ part) parts
          rest := by
  by_cases hc : c = '/' ∨ c = '\\'
  · have hsize : utf8Len ['\\', c] = 1 + c.utf8Size := by
      rw [String.utf8Len_cons, String.utf8Len_cons, String.utf8Len_nil, Nat.zero_add, Nat.add_comm]
      rfl
    rw [escapeChar_of_special hc, hsize, ← Nat.add_assoc]
    exact splitFrom_escaped
  · obtain ⟨hslash, hback⟩ := not_or.mp hc
    rw [escapeChar_of_plain hback hslash, String.utf8Len_cons, String.utf8Len_nil, Nat.zero_add]
    exact splitFrom_plain hback hslash

theorem splitFrom_flatMap (cs rest part : List Char) (parts : List Part) (position start : Nat) :
    splitFrom position start part parts (cs.flatMap escapeChar ++ rest)
      = splitFrom (position + utf8Len (cs.flatMap escapeChar)) start
          ((cs.flatMap escapeChar).reverse ++ part) parts rest := by
  induction cs generalizing position part with
  | nil => rfl
  | cons c cs ih =>
    rw [List.flatMap_cons, List.append_assoc, splitFrom_escapeChar, ih, String.utf8Len_append,
      Nat.add_assoc, List.reverse_append, List.append_assoc]

theorem flatMap_escapeChar_of_plain (h : ∀ c ∈ cs, c ≠ '\\' ∧ c ≠ '/') :
    cs.flatMap escapeChar = cs := by
  induction cs with
  | nil => rfl
  | cons c cs ih =>
    obtain ⟨hback, hslash⟩ := h c List.mem_cons_self
    rw [List.flatMap_cons, escapeChar_of_plain hback hslash,
      ih fun c' hc' => h c' (List.mem_cons_of_mem c hc')]
    rfl

/-- What is written without an escape is what is meant. -/
theorem eq_of_flatMap_escapeChar {t : List Char} (h : cs.flatMap escapeChar = t)
    (ht : ∀ c ∈ t, c ≠ '\\' ∧ c ≠ '/') : cs = t := by
  have hplain : ∀ c ∈ cs, c ≠ '\\' ∧ c ≠ '/' := by
    -- whether it is escaped or not, a character is among those that are written
    intro c hc
    refine ht c (h ▸ List.mem_flatMap.mpr ⟨c, hc, ?_⟩)
    rw [escapeChar]
    split <;> simp
  rw [← h, flatMap_escapeChar_of_plain hplain]

/-- An escape character stands in front of a separator or of another one. -/
theorem special_of_flatMap_escapeChar {d : Char} {t : List Char}
    (h : cs.flatMap escapeChar = '\\' :: d :: t) : d = '/' ∨ d = '\\' := by
  cases cs with
  | nil => cases h
  | cons c cs =>
    by_cases hc : c = '/' ∨ c = '\\'
    · rw [List.flatMap_cons, escapeChar_of_special hc] at h
      cases h
      exact hc
    · obtain ⟨hslash, hback⟩ := not_or.mp hc
      rw [List.flatMap_cons, escapeChar_of_plain hback hslash] at h
      exact absurd (List.cons.inj h).1 hback

/-! ### Escaped segments -/

/-- How a segment is escaped: as nothing at all, behind an escape character, or character by
character. -/
theorem escapeChars_cases (cs : List Char) :
    (cs = [] ∧ escapeChars cs = ['%']) ∨
    ((cs = ['%'] ∨ cs = ['.'] ∨ cs = ['.', '.']) ∧ escapeChars cs = '\\' :: cs) ∨
    ((cs ≠ [] ∧ cs ≠ ['%'] ∧ cs ≠ ['.'] ∧ cs ≠ ['.', '.']) ∧
      escapeChars cs = cs.flatMap escapeChar) := by
  unfold escapeChars
  split
  · exact .inl ⟨rfl, rfl⟩
  · exact .inr (.inl ⟨.inl rfl, rfl⟩)
  · exact .inr (.inl ⟨.inr (.inl rfl), rfl⟩)
  · exact .inr (.inl ⟨.inr (.inr rfl), rfl⟩)
  · next h₁ h₂ h₃ h₄ => exact .inr (.inr ⟨⟨h₁, h₂, h₃, h₄⟩, rfl⟩)

/-- What has no special meaning is read character by character. -/
theorem unescapeAt_of_not_special {t : List Char} (position : Nat) (h₁ : t ≠ ['%'])
    (h₂ : t ≠ ['\\', '%']) (h₃ : t ≠ ['\\', '.']) (h₄ : t ≠ ['\\', '.', '.']) :
    unescapeAt position t = unescapeFrom position [] t := by
  rw [unescapeAt]
  · exact h₁
  · exact h₂
  · exact h₃
  · exact h₄

/-- **An escaped segment is read back.** -/
theorem unescapeAt_escapeChars (position : Nat) (cs : List Char) :
    unescapeAt position (escapeChars cs) = .ok cs := by
  rcases escapeChars_cases cs with ⟨rfl, h⟩ | ⟨rfl | rfl | rfl, h⟩ | ⟨⟨-, hpercent, -, -⟩, h⟩
  · rw [h]; rfl
  · rw [h]; rfl
  · rw [h]; rfl
  · rw [h]; rfl
  · -- what is escaped character by character never looks like one of the special parts
    rw [h, unescapeAt_of_not_special]
    · have hread := unescapeFrom_flatMap cs [] [] position
      rw [List.append_nil, List.append_nil] at hread
      rw [hread, unescapeFrom, List.reverse_reverse]
    · intro ht
      exact hpercent (eq_of_flatMap_escapeChar ht (by simp))
    · intro ht
      exact absurd (special_of_flatMap_escapeChar ht) (by decide)
    · intro ht
      exact absurd (special_of_flatMap_escapeChar ht) (by decide)
    · intro ht
      exact absurd (special_of_flatMap_escapeChar ht) (by decide)

/-- An escaped segment is none of the parts with a meaning of their own. -/
theorem escapeChars_ne_special (cs : List Char) :
    escapeChars cs ≠ [] ∧ escapeChars cs ≠ ['.'] ∧ escapeChars cs ≠ ['.', '.'] := by
  rcases escapeChars_cases cs with ⟨rfl, h⟩ | ⟨rfl | rfl | rfl, h⟩ | ⟨⟨hnil, -, hdot, hdots⟩, h⟩
  · rw [h]; decide
  · rw [h]; decide
  · rw [h]; decide
  · rw [h]; decide
  · rw [h]
    refine ⟨?_, ?_, ?_⟩
    · intro ht
      exact hnil (eq_of_flatMap_escapeChar ht (by simp))
    · intro ht
      exact hdot (eq_of_flatMap_escapeChar ht (by simp))
    · intro ht
      exact hdots (eq_of_flatMap_escapeChar ht (by simp))

/-- An escaped segment goes into one part as a whole. -/
theorem splitFrom_escapeChars (cs rest part : List Char) (parts : List Part)
    (position start : Nat) :
    splitFrom position start part parts (escapeChars cs ++ rest)
      = splitFrom (position + utf8Len (escapeChars cs)) start ((escapeChars cs).reverse ++ part)
          parts rest := by
  rcases escapeChars_cases cs with ⟨rfl, h⟩ | ⟨rfl | rfl | rfl, h⟩ | ⟨-, h⟩
  · rw [h]; rfl
  · rw [h]; rfl
  · rw [h]; rfl
  · rw [h]; rfl
  · rw [h]
    exact splitFrom_flatMap cs rest part parts position start

theorem toList_escape (s : String) : (escape s).toList = escapeChars s.toList :=
  String.toList_ofList

/-! ### Written paths -/

/-- A path of segments in its written form. -/
def written (path : List String) : List Char :=
  ['/'].intercalate (path.map fun s => escapeChars s.toList)

theorem written_singleton (s : String) : written [s] = escapeChars s.toList :=
  List.intercalate_singleton

theorem written_cons {rest : List String} (s : String) (hrest : rest ≠ []) :
    written (s :: rest) = escapeChars s.toList ++ '/' :: written rest := by
  rw [written, List.map_cons, List.intercalate_cons_of_ne_nil (by simpa using hrest),
    List.append_assoc]
  rfl

theorem splitFrom_written (s : String) (rest : List String) (position : Nat) (parts : List Part) :
    ∃ ps, splitFrom position position [] parts (written (s :: rest)) = .ok (parts.reverse ++ ps) ∧
      ps.map Part.text = (s :: rest).map fun s => escapeChars s.toList := by
  induction rest generalizing s position parts with
  | nil =>
    have hsplit := splitFrom_escapeChars s.toList [] [] parts position position
    rw [List.append_nil, List.append_nil] at hsplit
    refine ⟨[⟨position, escapeChars s.toList⟩], ?_, rfl⟩
    rw [written_singleton, hsplit, splitFrom, List.reverse_reverse, List.reverse_cons]
  | cons s' rest ih =>
    -- the first segment fills the part in hand, and the separator after it ends that part
    obtain ⟨ps, hps, htexts⟩ := ih s' (position + utf8Len (escapeChars s.toList) + 1)
      (⟨position, escapeChars s.toList⟩ :: parts)
    refine ⟨⟨position, escapeChars s.toList⟩ :: ps, ?_, ?_⟩
    · rw [written_cons s (List.cons_ne_nil s' rest), splitFrom_escapeChars, splitFrom_separator,
        List.append_nil, List.reverse_reverse, hps, List.reverse_cons, List.append_assoc]
      rfl
    · rw [List.map_cons, htexts]
      rfl

/-- **A written path is cut where its segments meet.** -/
theorem split_written {path : List String} (hpath : path ≠ []) (position : Nat) :
    ∃ ps, split position (written path) = .ok ps ∧
      ps.map Part.text = path.map fun s => escapeChars s.toList := by
  obtain ⟨s, rest, rfl⟩ := List.exists_cons_of_ne_nil hpath
  obtain ⟨ps, hps, htexts⟩ := splitFrom_written s rest position []
  exact ⟨ps, hps, htexts⟩

end Segment

namespace Name

open Segment

variable {path : List String} {part : Part}

/-! ### Walking -/

/-- What a step does: it stays, it goes back, or it adds the segment that the part stands for. -/
theorem walkPart_cases (path : List String) (part : Part) :
    ((part.text = [] ∨ part.text = ['.']) ∧ walkPart path part = .ok path) ∨
    (part.text = ['.', '.'] ∧ walkPart path part = .ok path.tail) ∨
    ((part.text ≠ [] ∧ part.text ≠ ['.'] ∧ part.text ≠ ['.', '.']) ∧
      walkPart path part = (unescapeAt part.position part.text).map fun segment =>
        String.ofList segment :: path) := by
  unfold walkPart
  split
  · next h => exact .inl ⟨.inl h, rfl⟩
  · next h => exact .inl ⟨.inr h, rfl⟩
  · next h => exact .inr (.inl ⟨h, rfl⟩)
  · next hnil hdot hdots =>
    refine .inr (.inr ⟨⟨hnil, hdot, hdots⟩, ?_⟩)
    rcases unescapeAt part.position part.text with e | segment
    · rfl
    · rfl

theorem walkPart_escaped {s : String} (path : List String)
    (h : part.text = escapeChars s.toList) : walkPart path part = .ok (s :: path) := by
  -- an escaped segment neither stays where it is nor leads back
  obtain ⟨hnil, hdot, hdots⟩ := escapeChars_ne_special s.toList
  rcases walkPart_cases path part with ⟨hstay | hstay, -⟩ | ⟨hback, -⟩ | ⟨-, hstep⟩
  · exact absurd (h.symm.trans hstay) hnil
  · exact absurd (h.symm.trans hstay) hdot
  · exact absurd (h.symm.trans hback) hdots
  · rw [hstep, h, unescapeAt_escapeChars]
    show Except.ok (String.ofList s.toList :: path) = _
    rw [String.ofList_toList]

theorem foldlM_walkPart_escaped {segments : List String} {ps : List Part}
    (h : ps.map Part.text = segments.map fun s => escapeChars s.toList) (path : List String) :
    ps.foldlM walkPart path = .ok (segments.reverse ++ path) := by
  induction segments generalizing ps path with
  | nil =>
    obtain rfl : ps = [] := List.map_eq_nil_iff.mp h
    rfl
  | cons s segments ih =>
    obtain ⟨part, ps, rfl, hpart, hps⟩ := List.map_eq_cons_iff.mp h
    rw [List.foldlM_cons, walkPart_escaped path hpart]
    show ps.foldlM walkPart (s :: path) = _
    rw [ih hps, List.reverse_cons, List.append_assoc]
    rfl

/-- **A written path leads along its segments.** -/
theorem walk_written (path segments : List String) (position : Nat) :
    walk path position (written segments) = .ok (path ++ segments) := by
  rw [walk]
  rcases segments with _ | ⟨s, rest⟩
  · show Except.ok path.reverse.reverse = _
    rw [List.reverse_reverse, List.append_nil]
  · obtain ⟨ps, hps, htexts⟩ := split_written (List.cons_ne_nil s rest) position
    rw [hps]
    show (do let walked ← ps.foldlM walkPart path.reverse; Except.ok walked.reverse) = _
    rw [foldlM_walkPart_escaped htexts]
    show Except.ok _ = _
    rw [List.reverse_append, List.reverse_reverse, List.reverse_reverse]

/-! ### The canonical form -/

theorem toList_join_escape (s : String) (rest : List String) :
    (String.join ((s :: rest).map fun s => "/" ++ escape s)).toList
      = '/' :: written (s :: rest) := by
  induction rest generalizing s with
  | nil => simp [written_singleton, escape]
  | cons s' rest ih =>
    have hrest := ih s'
    rw [String.toList_join] at hrest ⊢
    rw [List.map_cons, List.flatMap_cons, hrest, written_cons s (List.cons_ne_nil s' rest)]
    simp [escape]

theorem canonical_root {n : Name} (hpath : n.path = []) : n.canonical = n.root.text := by
  rw [canonical, hpath]
  rfl

/-- The canonical form of a name below its root. -/
theorem toList_canonical {n : Name} (hpath : n.path ≠ []) :
    n.canonical.toList = n.root.marker.toList ++ '/' :: written n.path := by
  have hempty : n.path.isEmpty = false := by simpa using hpath
  obtain ⟨s, rest, hcons⟩ := List.exists_cons_of_ne_nil hpath
  rw [canonical, hempty, hcons]
  simp only [Bool.false_eq_true, if_false]
  rw [String.toList_append, toList_join_escape]

/-- The canonical form is the root and the written path. -/
theorem canonical_leads (n : Name) : n.root.Leads n.canonical.toList (written n.path) := by
  by_cases hpath : n.path = []
  · rw [canonical_root hpath, hpath]
    cases n.root
    · exact .inl rfl
    all_goals exact .inr ⟨by decide, rfl, rfl⟩
  · exact .inl (toList_canonical hpath)

theorem canonical_ne_empty (n : Name) : n.canonical.isEmpty = false := by
  rw [Bool.eq_false_iff, Ne, String.isEmpty_iff]
  intro hempty
  by_cases hpath : n.path = []
  · rw [canonical_root hpath] at hempty
    cases hroot : n.root <;> simp [hroot, Namespace.text, Namespace.marker] at hempty
  · have hlist := toList_canonical hpath
    rw [hempty] at hlist
    simp at hlist

/-- **The canonical form of a name is read back within any limits that it fits.** -/
theorem parse?_canonical {n : Name} {limits : Limits} (hlength : n.byteLength ≤ limits.maxNameBytes)
    (hdepth : n.depth ≤ limits.maxDepth) : parse? limits n.canonical = .ok n := by
  refine parse?_eq_ok_iff.mpr ⟨canonical_ne_empty n, hlength, ⟨_, canonical_leads n, ?_⟩, hdepth⟩
  rw [walk_written]
  rfl

theorem parse_canonical {n : Name} {limits : Limits} (hlength : n.byteLength ≤ limits.maxNameBytes)
    (hdepth : n.depth ≤ limits.maxDepth) : parse n.canonical limits = .ok n := by
  rw [parse, parse?_canonical hlength hdepth]

end Name
end ConfigKeys
