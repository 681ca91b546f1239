import ConfigKeys.Proofs.Name.Escape

/-!
# Which characters are escaped

Whether a character of a written path is escaped can be told from the text before it alone: an odd
number of escape characters stands right before it.  The readers, which go along the text and take
an escape character together with the one after it, agree with that.

## Main definitions

* `Segment.oddEscapes` — whether a text ends inside an escape.
* `Segment.Mark`, `Segment.marks` — the characters of a text, each with the text before it.
* `Segment.badEscape?`, `Segment.meant` — the first escape that must not be, and what is meant.

## Main results

* `Segment.split_spec` — a path is cut at the separators that are not escaped.
* `Segment.unescapeFrom_spec` — a part means what remains of it without its escapes.
* `Segment.escape_of_unescapeFrom` — what is read is written as it was.
-/

namespace ConfigKeys
namespace Segment

open String (utf8Len)

/-- Whether a text ends inside an escape: in an odd number of escape characters. -/
def oddEscapes (text : List Char) : Bool :=
  (text.reverse.takeWhile fun c => c = '\\').length % 2 = 1

/-- An escape character escapes what comes next, unless it is escaped itself. -/
theorem oddEscapes_snoc (text : List Char) (c : Char) :
    oddEscapes (text ++ [c]) = (decide (c = '\\') && !oddEscapes text) := by
  rw [oddEscapes, oddEscapes, List.reverse_append, List.reverse_singleton, List.singleton_append,
    List.takeWhile_cons]
  by_cases hc : c = '\\'
  · simp only [hc, decide_true, if_true, List.length_cons, Bool.true_and, ← decide_not]
    rw [decide_eq_decide]
    omega
  · simp [hc]

/-- A character of a text, with the text before it. -/
structure Mark where
  /-- The text before the character. -/
  before : List Char
  /-- The character. -/
  char : Char

namespace Mark

/-- Whether the character is escaped. -/
def isEscaped (m : Mark) : Bool := oddEscapes m.before

/-- Whether the character is an active escape character. -/
def isEscape (m : Mark) : Bool := m.char = '\\' && !m.isEscaped

/-- Whether a path is cut at the character. -/
def isCut (m : Mark) : Bool := m.char = '/' && !m.isEscaped

end Mark

/-- The characters of a text that comes after another. -/
def marksFrom (before : List Char) : List Char → List Mark
  | [] => []
  | c :: rest => ⟨before, c⟩ :: marksFrom (before ++ [c]) rest

/-- The characters of a text, each with the text before it. -/
def marks (text : List Char) : List Mark := marksFrom [] text

theorem marksFrom_append (before s t : List Char) :
    marksFrom before (s ++ t) = marksFrom before s ++ marksFrom (before ++ s) t := by
  induction s generalizing before with
  | nil => rw [List.append_nil]; rfl
  | cons c s ih =>
    rw [List.cons_append, marksFrom, ih, marksFrom, List.append_assoc]
    rfl

@[simp] theorem map_char_marksFrom (before text : List Char) :
    (marksFrom before text).map Mark.char = text := by
  induction text generalizing before with
  | nil => rfl
  | cons c text ih => rw [marksFrom, List.map_cons, ih]

/-! ### Parts -/

/-- The first active escape character that does not stand before a separator or an escape
character. -/
def badEscape? : List Mark → Option Mark
  | m :: next :: rest =>
    if m.isEscape && !(next.char = '/' || next.char = '\\') then some m
    else badEscape? (next :: rest)
  | _ => none

/-- What is meant: the characters without the active escape characters. -/
def meant (ms : List Mark) : List Char := (ms.filter fun m => !m.isEscape).map Mark.char

theorem badEscape?_cons {m : Mark} (hm : m.isEscape = false) (ms : List Mark) :
    badEscape? (m :: ms) = badEscape? ms := by
  cases ms with
  | nil => rfl
  | cons next rest => rw [badEscape?, hm]; rfl

theorem badEscape?_cons_cons {m next : Mark} (hm : m.isEscape = true) (ms : List Mark) :
    badEscape? (m :: next :: ms)
      = if next.char = '/' ∨ next.char = '\\' then badEscape? (next :: ms) else some m := by
  rw [badEscape?, hm]
  by_cases hnext : next.char = '/' ∨ next.char = '\\'
  · rw [if_pos hnext]
    rcases hnext with h | h <;> simp [h]
  · rw [if_neg hnext]
    obtain ⟨h, h'⟩ := not_or.mp hnext
    simp [h, h']

theorem meant_cons_escape {m : Mark} (hm : m.isEscape = true) (ms : List Mark) :
    meant (m :: ms) = meant ms := by
  rw [meant, List.filter_cons_of_neg (by simpa using hm), meant]

theorem meant_cons {m : Mark} (hm : m.isEscape = false) (ms : List Mark) :
    meant (m :: ms) = m.char :: meant ms := by
  rw [meant, List.filter_cons_of_pos (by simpa using hm), List.map_cons, meant]

/-! ### Two characters at a time -/

/-- A character that is not an escape character leaves a text outside of escapes. -/
theorem oddEscapes_plain {c : Char} (hc : c ≠ '\\') (text : List Char) :
    oddEscapes (text ++ [c]) = false := by
  rw [oddEscapes_snoc, decide_eq_false hc, Bool.false_and]

/-- So does a character that is escaped. -/
theorem oddEscapes_pair {text : List Char} (h : oddEscapes text = false) (c : Char) :
    oddEscapes (text ++ ['\\'] ++ [c]) = false := by
  rw [oddEscapes_snoc, oddEscapes_snoc, h]
  simp

theorem isEscape_plain {before : List Char} {c : Char} (hc : c ≠ '\\') :
    (Mark.mk before c).isEscape = false := by
  rw [Mark.isEscape, decide_eq_false hc, Bool.false_and]

theorem isEscape_active {before : List Char} (h : oddEscapes before = false) :
    (Mark.mk before '\\').isEscape = true := by
  rw [Mark.isEscape, Mark.isEscaped, h]
  rfl

theorem isEscape_escaped {before : List Char} (h : oddEscapes before = false) (c : Char) :
    (Mark.mk (before ++ ['\\']) c).isEscape = false := by
  rw [Mark.isEscape, Mark.isEscaped, oddEscapes_snoc, h]
  simp

theorem isCut_escaped {before : List Char} (h : oddEscapes before = false) (c : Char) :
    (Mark.mk (before ++ ['\\']) c).isCut = false := by
  rw [Mark.isCut, Mark.isEscaped, oddEscapes_snoc, h]
  simp

theorem isCut_plain {before : List Char} {c : Char} (hc : c ≠ '/') :
    (Mark.mk before c).isCut = false := by
  rw [Mark.isCut, decide_eq_false hc, Bool.false_and]

/-- A separator cuts where a text ends outside of escapes. -/
theorem isCut_separator {before : List Char} (h : oddEscapes before = false) :
    (Mark.mk before '/').isCut = true := by
  rw [Mark.isCut, Mark.isEscaped, h]
  rfl

theorem badEscape?_pair {before : List Char} {c : Char} (h : oddEscapes before = false)
    (hc : c = '/' ∨ c = '\\') (rest : List Char) :
    badEscape? (marksFrom before ('\\' :: c :: rest))
      = badEscape? (marksFrom (before ++ ['\\'] ++ [c]) rest) := by
  rw [marksFrom, marksFrom, badEscape?_cons_cons (isEscape_active h), if_pos hc,
    badEscape?_cons (isEscape_escaped h c)]

theorem meant_pair {before : List Char} (h : oddEscapes before = false) (c : Char)
    (rest : List Char) :
    meant (marksFrom before ('\\' :: c :: rest))
      = c :: meant (marksFrom (before ++ ['\\'] ++ [c]) rest) := by
  rw [marksFrom, marksFrom, meant_cons_escape (isEscape_active h),
    meant_cons (isEscape_escaped h c)]

theorem badEscape?_plain {c : Char} (hc : c ≠ '\\') (before rest : List Char) :
    badEscape? (marksFrom before (c :: rest)) = badEscape? (marksFrom (before ++ [c]) rest) := by
  rw [marksFrom, badEscape?_cons (isEscape_plain hc)]

theorem meant_plain {c : Char} (hc : c ≠ '\\') (before rest : List Char) :
    meant (marksFrom before (c :: rest)) = c :: meant (marksFrom (before ++ [c]) rest) := by
  rw [marksFrom, meant_cons (isEscape_plain hc)]

/-- In the last case of the readers the character is none that escapes. -/
theorem ne_escape {c : Char} {rest : List Char} (hlast : c = '\\' → rest = [] → False)
    (hnext : ∀ c' rest', c = '\\' → rest = c' :: rest' → False) : c ≠ '\\' := by
  intro hc
  cases rest with
  | nil => exact hlast hc rfl
  | cons c' rest => exact hnext c' rest hc rfl

theorem utf8Len_pair (before : List Char) (c : Char) :
    utf8Len (before ++ ['\\'] ++ [c]) = utf8Len before + 1 + c.utf8Size := by
  rw [String.utf8Len_append, String.utf8Len_append, String.utf8Len_cons, String.utf8Len_cons,
    String.utf8Len_nil, Nat.zero_add, Nat.zero_add]
  rfl

theorem utf8Len_snoc (before : List Char) (c : Char) :
    utf8Len (before ++ [c]) = utf8Len before + c.utf8Size := by
  rw [String.utf8Len_append, String.utf8Len_cons, String.utf8Len_nil, Nat.zero_add]

/-! ### Unescaping -/

/-- **A part means what remains of it without its active escape characters**, if each of these
stands before a separator or an escape character.  The part is read after `before`. -/
theorem unescapeFrom_spec {offset position : Nat} {before acc text : List Char}
    (hposition : position = offset + utf8Len before) (hbefore : oddEscapes before = false)
    (hclosed : oddEscapes (before ++ text) = false) :
    unescapeFrom position acc text =
      match badEscape? (marksFrom before text) with
      | some m => .error (.invalidEscape (offset + utf8Len m.before))
      | none => .ok (acc.reverse ++ meant (marksFrom before text)) := by
  fun_induction unescapeFrom position acc text generalizing before with
  | case1 position acc =>
    show _ = Except.ok (acc.reverse ++ [])
    rw [List.append_nil]
  | case2 position acc =>
    -- a part that is cut off does not end inside an escape
    rw [oddEscapes_snoc, hbefore] at hclosed
    cases hclosed
  | case3 position acc c rest hc ih =>
    -- the reader takes two characters at once, and stands outside of escapes after them
    have hposition' : position + 1 + c.utf8Size = offset + utf8Len (before ++ ['\\'] ++ [c]) := by
      rw [utf8Len_pair, hposition]
      omega
    have hread := ih hposition' (oddEscapes_pair hbefore c) (by simpa using hclosed)
    rw [hread, badEscape?_pair hbefore hc, meant_pair hbefore, List.reverse_cons,
      ← List.append_cons acc.reverse c]
  | case4 position acc c rest hc =>
    rw [marksFrom, marksFrom, badEscape?_cons_cons (isEscape_active hbefore), if_neg hc, hposition]
  | case5 position acc c rest hlast hnext ih =>
    have hc := ne_escape hlast hnext
    have hposition' : position + c.utf8Size = offset + utf8Len (before ++ [c]) := by
      rw [utf8Len_snoc, hposition]
      omega
    have hread := ih hposition' (oddEscapes_plain hc before) (by simpa using hclosed)
    rw [hread, badEscape?_plain hc, meant_plain hc, List.reverse_cons,
      ← List.append_cons acc.reverse c]

/-- **What is read is written as it was**, if the part is not cut. -/
theorem escape_of_unescapeFrom {position : Nat} {before acc text segment : List Char}
    (hbefore : oddEscapes before = false)
    (huncut : ∀ m ∈ marksFrom before text, m.isCut = false)
    (hread : unescapeFrom position acc text = .ok segment) :
    ∃ cs, segment = acc.reverse ++ cs ∧ cs.flatMap escapeChar = text := by
  fun_induction unescapeFrom position acc text generalizing before with
  | case1 position acc =>
    cases hread
    exact ⟨[], (List.append_nil _).symm, rfl⟩
  | case2 position acc => cases hread
  | case3 position acc c rest hc ih =>
    obtain ⟨cs, hsegment, hcs⟩ := ih (oddEscapes_pair hbefore c)
      (fun m hm => huncut m (List.mem_cons_of_mem _ (List.mem_cons_of_mem _ hm))) hread
    refine ⟨c :: cs, ?_, ?_⟩
    · rw [hsegment, List.reverse_cons, ← List.append_cons]
    · rw [List.flatMap_cons, hcs, escapeChar_of_special hc]
      rfl
  | case4 position acc c rest hc => cases hread
  | case5 position acc c rest hlast hnext ih =>
    have hc := ne_escape hlast hnext
    -- a separator would have cut the part
    have hslash : c ≠ '/' := by
      rintro rfl
      have hcut := huncut _ List.mem_cons_self
      rw [Mark.isCut, Mark.isEscaped, hbefore] at hcut
      cases hcut
    obtain ⟨cs, hsegment, hcs⟩ := ih (oddEscapes_plain hc before)
      (fun m hm => huncut m (List.mem_cons_of_mem _ hm)) hread
    refine ⟨c :: cs, ?_, ?_⟩
    · rw [hsegment, List.reverse_cons, ← List.append_cons]
    · rw [List.flatMap_cons, hcs, escapeChar_of_plain hc hslash]
      rfl

/-! ### Splitting -/

/-- A part of a path that begins at byte `offset` stands for a run of marks: it is read outside of
escapes, ends outside of escapes, and is not cut. -/
structure Reads (offset : Nat) (part : Part) (ms : List Mark) : Prop where
  /-- The part stands where the text before it ends. -/
  placed : ∃ before, part.position = offset + utf8Len before ∧ oddEscapes before = false ∧
    oddEscapes (before ++ part.text) = false ∧ ms = marksFrom before part.text
  /-- No separator cuts it. -/
  uncut : ∀ m ∈ ms, m.isCut = false

/-- What is known of the part in hand while a path that begins at byte `offset` is cut: `before` is
the path up to the part, and `position` the byte that is read next. -/
structure InHand (offset : Nat) (before : List Char) (position start : Nat) (part : List Char) :
    Prop where
  /-- The part begins after the path before it. -/
  start_eq : start = offset + utf8Len before
  /-- The part was read up to the next byte. -/
  position_eq : position = offset + utf8Len (before ++ part.reverse)
  /-- The part begins outside of escapes. -/
  opened : oddEscapes before = false
  /-- It was read up to a place outside of escapes. -/
  closed : oddEscapes (before ++ part.reverse) = false
  /-- No separator cuts it. -/
  uncut : ∀ m ∈ marksFrom before part.reverse, m.isCut = false

namespace InHand

variable {offset position start : Nat} {before part : List Char}

theorem empty (hposition : position = offset + utf8Len before) (h : oddEscapes before = false) :
    InHand offset before position position [] where
  start_eq := hposition
  position_eq := by rw [List.reverse_nil, List.append_nil, hposition]
  opened := h
  closed := by rw [List.reverse_nil, List.append_nil, h]
  uncut := fun _ hm => absurd hm List.not_mem_nil

/-- An escape character goes into the part together with the one after it. -/
theorem escaped (h : InHand offset before position start part) (c : Char) :
    InHand offset before (position + 1 + c.utf8Size) start (c :: '\\' :: part) := by
  have hjoin : before ++ (c :: '\\' :: part).reverse = before ++ part.reverse ++ ['\\'] ++ [c] := by
    simp
  refine ⟨h.start_eq, ?_, h.opened, ?_, ?_⟩
  · rw [hjoin, utf8Len_pair, h.position_eq]
    omega
  · rw [hjoin]
    exact oddEscapes_pair h.closed c
  · rw [List.reverse_cons, List.reverse_cons, List.append_assoc, marksFrom_append]
    intro m hm
    rcases List.mem_append.mp hm with hm | hm
    · exact h.uncut m hm
    rcases List.mem_cons.mp hm with rfl | hm
    · rfl
    · obtain rfl := List.mem_singleton.mp hm
      exact isCut_escaped h.closed c

/-- Any other character but a separator goes into the part. -/
theorem plain (h : InHand offset before position start part) {c : Char} (hc : c ≠ '\\')
    (hslash : c ≠ '/') : InHand offset before (position + c.utf8Size) start (c :: part) := by
  have hjoin : before ++ (c :: part).reverse = before ++ part.reverse ++ [c] := by simp
  refine ⟨h.start_eq, ?_, h.opened, ?_, ?_⟩
  · rw [hjoin, utf8Len_snoc, h.position_eq]
    omega
  · rw [hjoin]
    exact oddEscapes_plain hc _
  · rw [List.reverse_cons, marksFrom_append]
    intro m hm
    rcases List.mem_append.mp hm with hm | hm
    · exact h.uncut m hm
    · obtain rfl := List.mem_singleton.mp hm
      exact isCut_plain hslash

/-- The next part begins after a separator. -/
theorem next (h : InHand offset before position start part) :
    InHand offset (before ++ part.reverse ++ ['/']) (position + 1) (position + 1) [] := by
  refine .empty ?_ (oddEscapes_plain (by decide) _)
  rw [utf8Len_snoc, h.position_eq]
  rfl

theorem reads (h : InHand offset before position start part) :
    Reads offset ⟨start, part.reverse⟩ (marksFrom before part.reverse) :=
  ⟨⟨before, h.start_eq, h.opened, h.closed, rfl⟩, h.uncut⟩

end InHand

/-- A separator outside of escapes ends a part. -/
theorem splitOnP_separator {offset position start : Nat} {before part : List Char}
    (h : InHand offset before position start part) (rest : List Char) :
    (marksFrom before (part.reverse ++ '/' :: rest)).splitOnP Mark.isCut
      = marksFrom before part.reverse
        :: (marksFrom (before ++ part.reverse ++ ['/']) rest).splitOnP Mark.isCut := by
  rw [marksFrom_append, marksFrom]
  exact List.splitOnP_append_cons_of_forall_mem h.uncut _ (isCut_separator h.closed) _

/-- **A path is cut at the separators that are not escaped**, if it does not end inside an escape.
The path is read after `before` and the part in hand. -/
theorem splitFrom_spec {offset position start : Nat} {before part cs : List Char}
    {parts : List Part} (h : InHand offset before position start part) :
    if oddEscapes (before ++ (part.reverse ++ cs)) then
      splitFrom position start part parts cs
        = .error (.danglingEscape (offset + utf8Len (before ++ (part.reverse ++ cs)) - 1))
    else ∃ ps, splitFrom position start part parts cs = .ok (parts.reverse ++ ps) ∧
      List.Forall₂ (Reads offset) ps
        ((marksFrom before (part.reverse ++ cs)).splitOnP Mark.isCut) := by
  fun_induction splitFrom position start part parts cs generalizing before with
  | case1 position start part parts =>
    rw [List.append_nil, if_neg (by simp [h.closed])]
    refine ⟨[⟨start, part.reverse⟩], by rw [List.reverse_cons], ?_⟩
    rw [List.splitOnP_eq_singleton h.uncut]
    exact .cons h.reads .nil
  | case2 position start part parts =>
    -- the last character of the path is an escape character that escapes nothing
    have hodd : oddEscapes (before ++ (part.reverse ++ ['\\'])) = true := by
      rw [← List.append_assoc, oddEscapes_snoc, h.closed]
      rfl
    rw [if_pos hodd, h.position_eq, ← List.append_assoc, utf8Len_snoc]
    rfl
  | case3 position start part parts c rest ih =>
    have hjoin : (c :: '\\' :: part).reverse ++ rest = part.reverse ++ '\\' :: c :: rest := by simp
    have hrest := ih (h.escaped c)
    rw [hjoin] at hrest
    exact hrest
  | case4 position start part parts rest ih =>
    -- the part in hand is done, and the next one is read after it and the separator
    have hjoin : before ++ (part.reverse ++ '/' :: rest)
        = before ++ part.reverse ++ ['/'] ++ rest := by simp
    have hrest := ih h.next
    rw [List.reverse_nil, List.nil_append] at hrest
    rw [hjoin, splitOnP_separator h]
    split at hrest
    · next hodd => rw [if_pos hodd, hrest]
    · next hodd =>
      obtain ⟨ps, hps, hreads⟩ := hrest
      rw [if_neg hodd]
      refine ⟨⟨start, part.reverse⟩ :: ps, ?_, .cons h.reads hreads⟩
      rw [hps, List.reverse_cons, ← List.append_cons]
  | case5 position start part parts c rest hlast hnext hslash ih =>
    have hjoin : (c :: part).reverse ++ rest = part.reverse ++ c :: rest := by simp
    have hrest := ih (h.plain (ne_escape hlast hnext) hslash)
    rw [hjoin] at hrest
    exact hrest

/-- **A path that begins at byte `offset` is cut at the separators that are not escaped**, if it
does not end inside an escape. -/
theorem split_spec (offset : Nat) (path : List Char) :
    if oddEscapes path then
      split offset path = .error (.danglingEscape (offset + utf8Len path - 1))
    else ∃ ps, split offset path = .ok ps ∧
      List.Forall₂ (Reads offset) ps ((marks path).splitOnP Mark.isCut) :=
  @splitFrom_spec offset offset offset [] [] path [] (.empty rfl rfl)

end Segment
end ConfigKeys
