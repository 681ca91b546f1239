import ConfigKeys.Proofs.Name.Further
import ConfigKeys.Proofs.Name.Grammar

/-!
# Where an escape is at fault

A reader tells the byte of the escape character that is at fault.  What that byte is can be said of
the raw name as a whole, without its root, its parts or the order in which a reader looks at them:
a name that ends inside an escape is at fault at its last byte, and any other at the first active
escape character that stands before something that is never escaped, unless a part begins there
that is written with an escape character of its own.

## Main definitions

* `Grammar.opensPart` — whether a part begins behind a text.
* `Grammar.Misplaced`, `Grammar.WrongEscape` — an escape that must not be.
* `Grammar.Locates` — a fault is told at the first place of its kind.

## Main results

* `Grammar.fault?_locates`, `Grammar.findSome?_locates` — in a part, and in a path.
* `Name.walk_eq_dangling_iff` — only the cut of a path finds that it ends inside an escape.
* `Name.faults_point_at_escapes` — **an escape is told at its byte.**
-/

namespace ConfigKeys

open Segment
open String (utf8Len)

namespace Grammar

/-- Whether a part begins behind a text: the text ends in a separator that is not escaped. -/
def opensPart (before : List Char) : Bool :=
  before.getLast? = some '/' && !oddEscapes before.dropLast

/-- The parts that are written with an escape character of their own. -/
def specialParts : List (List Char) := [['\\', '%'], ['\\', '.'], ['\\', '.', '.']]

/-- Behind `before`, an active escape character stands before a character that is never escaped. -/
structure Misplaced (before rest : List Char) : Prop where
  /-- The escape character is not escaped itself. -/
  active : oddEscapes before = false
  /-- It stands before something else than a separator or an escape character. -/
  stands : ∃ c after, rest = '\\' :: c :: after ∧ c ≠ '/' ∧ c ≠ '\\'

/-- Behind `before`, an active escape character stands where it must not. -/
structure WrongEscape (before rest : List Char) : Prop extends Misplaced before rest where
  /-- It does not begin one of the parts that are written with one. -/
  ordinary : ¬ (opensPart before = true ∧ rest.takeWhile (· ≠ '/') ∈ specialParts)

/-- At this byte of a raw name, an active escape character stands where it must not. -/
def WrongEscapeAt (raw : List Char) (position : Nat) : Prop :=
  ∃ before rest, raw = before ++ rest ∧ utf8Len before = position ∧ WrongEscape before rest

theorem opensPart_iff {before : List Char} :
    opensPart before = true ↔ ∃ text, before = text ++ ['/'] ∧ oddEscapes text = false := by
  unfold opensPart
  constructor
  · intro h
    obtain ⟨hlast, hodd⟩ := (Bool.and_eq_true _ _).mp h
    obtain ⟨text, rfl⟩ := List.getLast?_eq_some_iff.mp (of_decide_eq_true hlast)
    rw [List.dropLast_concat] at hodd
    exact ⟨text, rfl, by simpa using hodd⟩
  · rintro ⟨text, rfl, hodd⟩
    simp [hodd]

theorem oddEscapes_of_opensPart {before : List Char} (h : opensPart before = true) :
    oddEscapes before = false := by
  obtain ⟨text, rfl, -⟩ := opensPart_iff.mp h
  exact oddEscapes_plain (by decide) text

/-! ### The first place of a kind -/

section Locates

variable {P Q : List Char → List Char → Prop} {before text x y rest : List Char} {c : Char}
  {found later : Option NameFault}

/-- No place in a text between `before` and `rest` is of a kind. -/
def Clear (P : List Char → List Char → Prop) (before text rest : List Char) : Prop :=
  ∀ u v, text = u ++ v → v ≠ [] → ¬ P (before ++ u) (v ++ rest)

/-- A fault is found at the first place of a kind in a text between `before` and `rest`, and none
where there is no such place. -/
def Locates (P : List Char → List Char → Prop) (before text rest : List Char) :
    Option NameFault → Prop
  | none => Clear P before text rest
  | some fault => ∃ u v, text = u ++ v ∧ fault = .invalidEscape (utf8Len (before ++ u)) ∧
      P (before ++ u) (v ++ rest) ∧ Clear P before u (v ++ rest)

theorem Clear.nil : Clear P before [] rest := by
  intro u v huv hv
  exact absurd (List.append_eq_nil_iff.mp huv.symm).2 hv

theorem Clear.append (hx : Clear P before x (y ++ rest)) (hy : Clear P (before ++ x) y rest) :
    Clear P before (x ++ y) rest := by
  intro u v huv hv
  rcases List.append_eq_append_iff.mp huv with ⟨w, rfl, rfl⟩ | ⟨w, rfl, rfl⟩
  · -- the place is behind the first text
    have hplace := hy w v rfl hv
    rwa [List.append_assoc] at hplace
  · by_cases hw : w = []
    · subst hw
      have hplace := hy [] y rfl (by simpa using hv)
      simpa using hplace
    · have hplace := hx u w rfl hw
      rwa [← List.append_assoc] at hplace

theorem Clear.cons (hfirst : ¬ P before (c :: text ++ rest))
    (h : Clear P (before ++ [c]) text rest) : Clear P before (c :: text) rest := by
  intro u v huv hv
  cases u with
  | nil =>
    obtain rfl : c :: text = v := huv
    rwa [List.append_nil]
  | cons d u =>
    obtain ⟨rfl, rfl⟩ := List.cons.inj huv
    have hplace := h u v rfl hv
    rwa [← List.append_cons] at hplace

theorem Locates.cons (hfirst : ¬ P before (c :: text ++ rest))
    (h : Locates P (before ++ [c]) text rest found) : Locates P before (c :: text) rest found := by
  cases found with
  | none => exact Clear.cons hfirst h
  | some fault =>
    obtain ⟨u, v, rfl, hfault, hplace, hclear⟩ := h
    rw [← List.cons_append, List.append_assoc] at hfirst
    refine ⟨c :: u, v, rfl, ?_, ?_, Clear.cons hfirst hclear⟩
    · rw [hfault, ← List.append_cons]
    · rwa [← List.append_cons] at hplace

/-- What is found in a text comes before what is found behind it. -/
theorem Locates.append (hx : Locates P before x (y ++ rest) found)
    (hy : Locates P (before ++ x) y rest later) :
    Locates P before (x ++ y) rest (found.or later) := by
  cases found with
  | some fault =>
    obtain ⟨u, v, rfl, hfault, hplace, hclear⟩ := hx
    rw [← List.append_assoc] at hplace hclear
    exact ⟨u, v ++ y, List.append_assoc u v y, hfault, hplace, hclear⟩
  | none =>
    cases later with
    | none => exact Clear.append hx hy
    | some fault =>
      obtain ⟨u, v, rfl, hfault, hplace, hclear⟩ := hy
      rw [List.append_assoc] at hfault hplace
      rw [List.append_assoc] at hx
      exact ⟨x ++ u, v, (List.append_assoc x u v).symm, hfault, hplace, Clear.append hx hclear⟩

/-- A kind may be narrower, if every place in the text that is of the one is of the other. -/
theorem Locates.narrow (hwider : ∀ before rest, Q before rest → P before rest)
    (hplaces : ∀ u v, text = u ++ v → P (before ++ u) (v ++ rest) → Q (before ++ u) (v ++ rest))
    (h : Locates P before text rest found) : Locates Q before text rest found := by
  cases found with
  | none => exact fun u v huv hv hplace => h u v huv hv (hwider _ _ hplace)
  | some fault =>
    obtain ⟨u, v, huv, hfault, hplace, hclear⟩ := h
    exact ⟨u, v, huv, hfault, hplaces u v huv hplace,
      fun u' v' huv' hv' hplace' => hclear u' v' huv' hv' (hwider _ _ hplace')⟩

end Locates

/-! ### Parts -/

variable {before text part rest : List Char}

/-- The first escape character of a text that stands before something never escaped. -/
theorem badEscape?_locates (hclosed : oddEscapes (before ++ part) = false) (rest : List Char) :
    Locates Misplaced before part rest
      ((badEscape? (marksFrom before part)).map fun m =>
        .invalidEscape (0 + utf8Len m.before)) := by
  induction part generalizing before with
  | nil => exact Clear.nil
  | cons c part ih =>
    rw [List.append_cons] at hclosed
    cases hescape : (Mark.mk before c).isEscape with
    | false =>
      rw [marksFrom, badEscape?_cons hescape]
      refine Locates.cons ?_ (ih hclosed)
      rintro ⟨hactive, d, after, hrest, -, -⟩
      obtain ⟨rfl, -⟩ := List.cons.inj hrest
      rw [isEscape_active hactive] at hescape
      cases hescape
    | true =>
      obtain ⟨hchar, hactive⟩ : c = '\\' ∧ oddEscapes before = false := by
        simpa [Mark.isEscape, Mark.isEscaped] using hescape
      subst hchar
      cases part with
      | nil =>
        -- a text does not end in an active escape character
        rw [List.append_nil, oddEscapes_snoc, hactive] at hclosed
        cases hclosed
      | cons d part =>
        rw [marksFrom, marksFrom, badEscape?_cons_cons hescape]
        split
        · next hd =>
          refine Locates.cons ?_ (ih hclosed)
          rintro ⟨-, d', after, hrest, hslash, hback⟩
          obtain ⟨rfl, -⟩ := List.cons.inj (List.cons.inj hrest).2
          exact hd.elim hslash hback
        · next hd =>
          obtain ⟨hslash, hback⟩ := not_or.mp hd
          refine ⟨[], '\\' :: d :: part, rfl, ?_, ?_, Clear.nil⟩
          · show NameFault.invalidEscape (0 + utf8Len before) = _
            rw [List.append_nil, Nat.zero_add]
          · rw [List.append_nil]
            exact ⟨hactive, d, part ++ rest, rfl, hslash, hback⟩

theorem mem_marksFrom (before x y : List Char) (c : Char) :
    ⟨before ++ x, c⟩ ∈ marksFrom before (x ++ c :: y) := by
  rw [marksFrom_append, marksFrom]
  exact List.mem_append_right _ List.mem_cons_self

/-- No part begins inside a part that is not cut. -/
theorem opensPart_of_uncut {u v : List Char} (hu : u ≠ [])
    (huncut : ∀ m ∈ marksFrom before (u ++ v), m.isCut = false) :
    opensPart (before ++ u) = false := by
  rw [Bool.eq_false_iff]
  intro hopens
  obtain ⟨text, hjoin, hodd⟩ := opensPart_iff.mp hopens
  -- the separator that a part would begin behind is one that cuts
  obtain ⟨w, c, rfl⟩ := (List.eq_nil_or_concat u).resolve_left hu
  rw [List.concat_eq_append, ← List.append_assoc] at hjoin
  obtain ⟨rfl, hc⟩ := List.append_inj' hjoin rfl
  obtain rfl : c = '/' := by simpa using hc
  have hmark := mem_marksFrom before w v '/'
  rw [List.append_cons, ← List.concat_eq_append] at hmark
  have hcut := huncut _ hmark
  rw [isCut_separator hodd] at hcut
  cases hcut

theorem mem_specialParts {part : List Char} :
    part ∈ specialParts ↔ part = ['\\', '%'] ∨ part = ['\\', '.'] ∨ part = ['\\', '.', '.'] := by
  simp [specialParts]

/-- A special part is an escape character and others that are none. -/
theorem exists_of_mem_specialParts (h : part ∈ specialParts) :
    ∃ tail, part = '\\' :: tail ∧ '\\' ∉ tail ∧ '/' ∉ part ∧
      oddEscapes (before ++ part) = false := by
  rcases mem_specialParts.mp h with rfl | rfl | rfl
  · refine ⟨['%'], rfl, by decide, by decide, ?_⟩
    rw [List.append_cons]
    exact oddEscapes_plain (by decide) _
  · refine ⟨['.'], rfl, by decide, by decide, ?_⟩
    rw [List.append_cons]
    exact oddEscapes_plain (by decide) _
  · refine ⟨['.', '.'], rfl, by decide, by decide, ?_⟩
    rw [List.append_cons, List.append_cons]
    exact oddEscapes_plain (by decide) _

/-- What ends before a separator and holds none is what stands before the next separator. -/
theorem takeWhile_ne_separator (hslash : '/' ∉ part)
    (hrest : rest = [] ∨ ∃ after, rest = '/' :: after) :
    (part ++ rest).takeWhile (· ≠ '/') = part := by
  have hnone : rest.takeWhile (· ≠ '/') = [] := by
    rcases hrest with rfl | ⟨after, rfl⟩
    · rfl
    · simp
  rw [List.takeWhile_append_of_pos, hnone, List.append_nil]
  intro c hc
  exact decide_eq_true fun h => hslash (h ▸ hc)

/-- A part that is not cut is special, if what stands before the next separator is. -/
theorem mem_specialParts_of_takeWhile (huncut : ∀ m ∈ marksFrom before part, m.isCut = false)
    (hrest : rest = [] ∨ ∃ after, rest = '/' :: after)
    (h : (part ++ rest).takeWhile (· ≠ '/') ∈ specialParts) : part ∈ specialParts := by
  by_cases hslash : '/' ∈ part
  · -- a separator behind a special part is not escaped, so it would cut
    obtain ⟨x, y, rfl, hx⟩ := List.eq_append_cons_of_mem hslash
    rw [List.append_assoc, List.cons_append, takeWhile_ne_separator hx (.inr ⟨_, rfl⟩)] at h
    obtain ⟨-, -, -, -, hodd⟩ := @exists_of_mem_specialParts before x h
    have hcut := huncut _ (mem_marksFrom before x y '/')
    rw [isCut_separator hodd] at hcut
    cases hcut
  · rwa [takeWhile_ne_separator hslash hrest] at h

/-- A special part holds no wrong escape. -/
theorem clear_of_mem_specialParts (hopens : opensPart before = true) (h : part ∈ specialParts)
    (hrest : rest = [] ∨ ∃ after, rest = '/' :: after) : Clear WrongEscape before part rest := by
  intro u v huv hv hwrong
  obtain ⟨tail, htail, hplain, hslash, -⟩ := @exists_of_mem_specialParts before part h
  obtain ⟨c, after, hstands, -, -⟩ := hwrong.stands
  cases u with
  | nil =>
    obtain rfl : part = v := huv
    rw [← takeWhile_ne_separator hslash hrest] at h
    exact hwrong.ordinary ⟨by rwa [List.append_nil], h⟩
  | cons d u =>
    -- behind its first character the part holds no escape character
    rw [htail] at huv
    obtain ⟨-, rfl⟩ := List.cons.inj huv
    obtain ⟨d, v, rfl⟩ := List.exists_cons_of_ne_nil hv
    obtain ⟨rfl, -⟩ := List.cons.inj hstands
    exact hplain (List.mem_append_right u List.mem_cons_self)

theorem clear_of_plain (hplain : '\\' ∉ text) (rest : List Char) :
    Clear WrongEscape before text rest := by
  intro u v huv hv hwrong
  obtain ⟨c, after, hstands, -, -⟩ := hwrong.stands
  obtain ⟨d, v, rfl⟩ := List.exists_cons_of_ne_nil hv
  obtain ⟨rfl, -⟩ := List.cons.inj hstands
  exact hplain (huv ▸ List.mem_append_right u List.mem_cons_self)

/-- **The fault of a part** is told at the first wrong escape in it. -/
theorem fault?_locates (hopens : opensPart before = true)
    (hclosed : oddEscapes (before ++ part) = false)
    (huncut : ∀ m ∈ marksFrom before part, m.isCut = false)
    (hrest : rest = [] ∨ ∃ after, rest = '/' :: after) :
    Locates WrongEscape before part rest (fault? 0 (marksFrom before part)) := by
  have htext : Grammar.text (marksFrom before part) = part := map_char_marksFrom before part
  unfold fault?
  rw [htext]
  split
  · next hspecial => exact clear_of_mem_specialParts hopens hspecial hrest
  · next hspecial =>
    refine Locates.narrow (fun _ _ hwrong => hwrong.toMisplaced) ?_
      (badEscape?_locates hclosed rest)
    intro u v huv hplace
    refine ⟨hplace, ?_⟩
    rintro ⟨hopens', htake⟩
    by_cases hu : u = []
    · subst hu
      obtain rfl : part = v := huv
      exact hspecial (mem_specialParts_of_takeWhile huncut hrest htake)
    · subst huv
      rw [opensPart_of_uncut hu huncut] at hopens'
      cases hopens'

/-- **The first fault of a path** is told at the first wrong escape in it.  The path is read after
`before` and the part in hand. -/
theorem findSome?_locates (hopens : opensPart before = true)
    (huncut : ∀ m ∈ marksFrom before part, m.isCut = false)
    (hclosed : oddEscapes (before ++ (part ++ text)) = false) :
    Locates WrongEscape before (part ++ text) []
      (((marksFrom before (part ++ text)).splitOnP Mark.isCut).findSome? (fault? 0)) := by
  induction text generalizing before part with
  | nil =>
    rw [List.append_nil] at hclosed ⊢
    rw [List.splitOnP_eq_singleton huncut, List.findSome?_singleton]
    exact fault?_locates hopens hclosed huncut (.inl rfl)
  | cons c text ih =>
    cases hcut : (Mark.mk (before ++ part) c).isCut with
    | true =>
      -- the part in hand is done, and the next one begins behind the separator
      obtain ⟨rfl, hpart⟩ : c = '/' ∧ oddEscapes (before ++ part) = false := by
        simpa [Mark.isCut, Mark.isEscaped] using hcut
      rw [marksFrom_append, marksFrom, List.splitOnP_append_cons_of_forall_mem huncut _ hcut]
      have hfirst := fault?_locates hopens hpart huncut (.inr ⟨text, rfl⟩)
      have hlater : Locates WrongEscape (before ++ part) ('/' :: text) [] _ :=
        Locates.cons (by rintro ⟨⟨-, _, _, hstands, -⟩, -⟩; cases hstands)
          (@ih (before ++ part ++ ['/']) [] (opensPart_iff.mpr ⟨_, rfl, hpart⟩)
            (fun _ hm => absurd hm List.not_mem_nil) (by simpa using hclosed))
      rw [← List.append_nil ('/' :: text)] at hfirst
      have hboth := hfirst.append hlater
      rw [List.findSome?_cons]
      cases hfault : fault? 0 (marksFrom before part) with
      | none =>
        rw [hfault] at hboth
        exact hboth
      | some fault =>
        rw [hfault] at hboth
        exact hboth
    | false =>
      -- the character goes into the part in hand
      have hjoin : part ++ c :: text = part ++ [c] ++ text := List.append_cons part c text
      rw [hjoin] at hclosed ⊢
      refine ih hopens ?_ hclosed
      rw [marksFrom_append]
      intro m hm
      rcases List.mem_append.mp hm with hm | hm
      · exact huncut m hm
      · obtain rfl := List.mem_singleton.mp hm
        exact hcut

/-- A text that ends inside an escape ends in a run of escape characters, of odd length and as long
as can be. -/
theorem exists_run_of_oddEscapes (h : oddEscapes text = true) :
    ∃ before length, text = before ++ List.replicate length '\\' ∧
      before.getLast? ≠ some '\\' ∧ length % 2 = 1 := by
  let isEscape : Char → Bool := fun c => c = '\\'
  have hrun : text.reverse.takeWhile isEscape
      = List.replicate (text.reverse.takeWhile isEscape).length '\\' :=
    List.eq_replicate_of_mem fun c hc =>
      of_decide_eq_true (List.all_eq_true.mp List.all_takeWhile c hc)
  refine ⟨(text.reverse.dropWhile isEscape).reverse, _, ?_, ?_, of_decide_eq_true h⟩
  · have hjoin := List.takeWhile_append_dropWhile (p := isEscape) (l := text.reverse)
    rw [← List.reverse_replicate, ← hrun, ← List.reverse_append, hjoin, List.reverse_reverse]
  · rw [List.getLast?_reverse]
    intro hlast
    have hhead := List.head?_dropWhile_not isEscape text.reverse
    rw [hlast] at hhead
    cases hhead

/-- A part is at fault for an escape that must not be, and for nothing else. -/
theorem exists_of_fault? {offset : Nat} {ms : List Mark} {fault : NameFault}
    (h : fault? offset ms = some fault) : ∃ position, fault = .invalidEscape position := by
  unfold fault? at h
  split at h
  · cases h
  · obtain ⟨m, -, rfl⟩ := Option.map_eq_some_iff.mp h
    exact ⟨_, rfl⟩

end Grammar

namespace Name

open Grammar

variable {path : List String} {position : Nat} {cs : List Char} {limits : Limits}
  {raw shown : String} {fault : Nat → NameFault}

/-! ### Paths -/

theorem exists_reads_of_mem {offset : Nat} {parts : List Part} {mss : List (List Mark)}
    {part : Part} (hreads : List.Forall₂ (Reads offset) parts mss) (hpart : part ∈ parts) :
    ∃ ms, Reads offset part ms := by
  induction hreads with
  | nil => cases hpart
  | cons hread _ ih =>
    rcases List.mem_cons.mp hpart with rfl | hpart
    · exact ⟨_, hread⟩
    · exact ih hpart

/-- No part that a path is cut into ends inside an escape. -/
theorem unescapeAt_ne_dangling {parts : List Part} {part : Part}
    (hsplit : split position cs = .ok parts) (hpart : part ∈ parts) (q : Nat) :
    unescapeAt part.position part.text ≠ .error (.danglingEscape q) := by
  have hspec := split_spec position cs
  split at hspec
  · rw [hspec] at hsplit
    cases hsplit
  · obtain ⟨parts', hsplit', hreads⟩ := hspec
    obtain rfl : parts' = parts := Except.ok.inj (hsplit'.symm.trans hsplit)
    obtain ⟨ms, hread⟩ := exists_reads_of_mem hreads hpart
    rw [unescapeAt_spec hread]
    intro herror
    cases hfault : fault? position ms with
    | none =>
      rw [hfault] at herror
      cases herror
    | some fault =>
      obtain ⟨_, rfl⟩ := exists_of_fault? hfault
      rw [hfault] at herror
      cases herror

/-- Only the cut of a path finds that it ends inside an escape. -/
theorem walk_eq_dangling_iff {q : Nat} : walk path position cs = .error (.danglingEscape q) ↔
    split position cs = .error (.danglingEscape q) := by
  unfold walk
  have hspec := split_spec position cs
  split at hspec
  · rw [hspec]
    show Except.error _ = _ ↔ _
    rw [Except.error.injEq, Except.error.injEq]
  · obtain ⟨parts, hsplit, hreads⟩ := hspec
    have hfold := foldlM_walkPart_spec "" path.reverse hreads
    rw [hsplit]
    show (do let walked ← parts.foldlM walkPart path.reverse; Except.ok walked.reverse) = _ ↔ _
    cases hfault : ((marks cs).splitOnP Mark.isCut).findSome? (fault? position) with
    | none =>
      rw [hfault] at hfold
      obtain ⟨walked, hwalk, -⟩ := hfold
      rw [hwalk]
      simp [bind, Except.bind]
    | some fault =>
      rw [hfault] at hfold
      obtain ⟨ms, -, hms⟩ := List.exists_of_findSome?_eq_some hfault
      obtain ⟨_, rfl⟩ := exists_of_fault? hms
      rw [hfold]
      simp [bind, Except.bind]

/-- **The fault of an escape in a raw name** is one of its path, which begins where a part opens,
behind a root without an escape character. -/
theorem exists_walk_of_parse (hfault : fault ∈ escapeFaults)
    (h : parse raw limits = .error (.invalidName shown (fault position))) :
    ∃ front rest, raw.toList = front ++ rest ∧ opensPart front = true ∧ '\\' ∉ front ∧
      walk [] (utf8Len front) rest = .error (fault position) := by
  obtain ⟨-, h⟩ := parse_eq_error_iff.mp h
  unfold parse? at h
  cases hempty : raw.isEmpty with
  | true =>
    rw [hempty] at h
    rcases mem_escapeFaults.mp hfault with rfl | rfl <;> cases h
  | false =>
    rw [hempty] at h
    rcases bind_eq_error.mp h with hlength | ⟨⟨⟩, -, h⟩
    · exact absurd hlength (checkLength_ne_escape hfault)
    split at h
    · rcases mem_escapeFaults.mp hfault with rfl | rfl <;> cases h
    · next root rest start hroot =>
      obtain ⟨hleads, rfl⟩ := splitRoot?_eq_some_iff.mp hroot
      rcases bind_eq_error.mp h with hwalk | ⟨path, -, h⟩
      · rcases hleads with hraw | ⟨-, -, rfl⟩
        · refine ⟨root.marker.toList ++ ['/'], rest, ?_, ?_, ?_, ?_⟩
          · rw [hraw, List.append_cons]
          · cases root <;> decide
          · cases root <;> decide
          · rw [hraw, List.append_cons, String.utf8Len_append, Nat.add_sub_cancel] at hwalk
            exact hwalk
        · -- behind a namespace on its own there is nothing to be at fault
          cases hwalk
      rcases bind_eq_error.mp h with hdepth | ⟨⟨⟩, -, h⟩
      · exact absurd hdepth (checkDepth_ne_escape hfault)
      · cases h

/-- **What an escape is at fault for in a raw name**: the name ends inside an escape, or the fault
is told at the first wrong escape. -/
theorem escape_fault_cases (hfault : fault ∈ escapeFaults)
    (h : parse raw limits = .error (.invalidName shown (fault position))) :
    (fault = .danglingEscape ∧ oddEscapes raw.toList = true ∧
      position = raw.utf8ByteSize - 1) ∨
    (fault = .invalidEscape ∧ ∃ before rest, raw.toList = before ++ rest ∧
      position = utf8Len before ∧ WrongEscape before rest ∧ Clear WrongEscape [] before rest) := by
  obtain ⟨front, rest, hraw, hopens, hfront, hwalk⟩ := exists_walk_of_parse hfault h
  have hspec := @splitFrom_spec 0 (utf8Len front) (utf8Len front) front [] rest []
    (.empty (Nat.zero_add _).symm (oddEscapes_of_opensPart hopens))
  rw [List.reverse_nil, List.nil_append, ← hraw, String.utf8Len_toList, Nat.zero_add] at hspec
  unfold walk split at hwalk
  split at hspec
  · next hodd =>
    rw [hspec] at hwalk
    have hfound := Except.error.inj hwalk
    rcases mem_escapeFaults.mp hfault with rfl | rfl
    · exact .inl ⟨rfl, hodd, (NameFault.danglingEscape.inj hfound).symm⟩
    · cases hfound
  · next hodd =>
    obtain ⟨parts, hsplit, hreads⟩ := hspec
    rw [hsplit] at hwalk
    have hfold := foldlM_walkPart_spec "" [] hreads
    have hlocates := @findSome?_locates front rest [] hopens
      (fun _ hm => absurd hm List.not_mem_nil) (by rw [List.nil_append, ← hraw]; simpa using hodd)
    rw [List.nil_append] at hlocates
    change (do let walked ← parts.foldlM walkPart []; Except.ok walked.reverse) = _ at hwalk
    cases hfound : ((marksFrom front rest).splitOnP Mark.isCut).findSome? (fault? 0) with
    | none =>
      rw [hfound] at hfold
      obtain ⟨walked, hok, -⟩ := hfold
      rw [hok] at hwalk
      cases hwalk
    | some found =>
      rw [hfound] at hfold hlocates
      rw [hfold] at hwalk
      obtain rfl : found = fault position := Except.error.inj hwalk
      obtain ⟨u, v, rfl, hposition, hplace, hclear⟩ := hlocates
      rw [List.append_nil] at hplace hclear
      rcases mem_escapeFaults.mp hfault with rfl | rfl
      · cases hposition
      · refine .inr ⟨rfl, front ++ u, v, ?_, NameFault.invalidEscape.inj hposition, hplace,
          Clear.append (clear_of_plain hfront _) hclear⟩
        rw [hraw, List.append_assoc]

/-! ### Bytes -/

/-- The byte of an escape character is that of a backslash, whatever characters stand before it. -/
theorem byte_escape {before rest : List Char} (hraw : raw.toList = before ++ '\\' :: rest) :
    raw.toByteArray[utf8Len before]? = some 0x5C := by
  have hjoin : raw = String.ofList before ++ String.ofList ['\\'] ++ String.ofList rest := by
    rw [← String.toList_inj, hraw]
    simp
  have hsize : (String.ofList before).toByteArray.size = utf8Len before :=
    String.utf8ByteSize_ofList before
  have hbound : utf8Len before
      < (String.ofList before ++ String.ofList ['\\']).toByteArray.size := by
    rw [String.toByteArray_append, ByteArray.size_append, hsize]
    show _ < utf8Len before + 1
    omega
  rw [hjoin, String.toByteArray_append, getElem?_pos _ _ (by rw [ByteArray.size_append]; omega),
    ByteArray.getElem_append_left hbound]
  simp only [String.toByteArray_append]
  rw [ByteArray.getElem_append_right (Nat.le_of_eq hsize)]
  simp only [hsize, Nat.sub_self]
  rfl

/-- Where no place of a text is wrong, none of its bytes is one. -/
theorem not_wrongEscapeAt_of_clear {before rest : List Char}
    (hclear : Clear WrongEscape [] before rest) {q : Nat} (hq : q < utf8Len before) :
    ¬ WrongEscapeAt (before ++ rest) q := by
  rintro ⟨front, behind, hjoin, rfl, hwrong⟩
  rcases List.append_eq_append_iff.mp hjoin with ⟨w, rfl, rfl⟩ | ⟨w, rfl, rfl⟩
  · rw [String.utf8Len_append] at hq
    omega
  · refine hclear front w rfl ?_ hwrong
    rintro rfl
    rw [List.append_nil] at hq
    exact Nat.lt_irrefl _ hq

theorem dangling_of_parse (h : parse raw limits = .error (.invalidName shown
    (.danglingEscape position))) :
    position + 1 = raw.utf8ByteSize ∧ raw.toByteArray[position]? = some 0x5C ∧
      ∃ before length, raw.toList = before ++ List.replicate length '\\' ∧
        before.getLast? ≠ some '\\' ∧ length % 2 = 1 := by
  rcases escape_fault_cases (mem_escapeFaults.mpr (.inl rfl)) h with
    ⟨-, hodd, hposition⟩ | ⟨hfault, -⟩
  · obtain ⟨before, length, hraw, hbefore, hlength⟩ := exists_run_of_oddEscapes hodd
    obtain ⟨k, rfl⟩ : ∃ k, length = k + 1 := ⟨length - 1, by omega⟩
    -- the last character of the run is the last one of the name
    have hlast : raw.toList = (before ++ List.replicate k '\\') ++ '\\' :: [] := by
      rw [hraw, List.replicate_succ', List.append_assoc]
    have hsize : raw.utf8ByteSize = utf8Len (before ++ List.replicate k '\\') + 1 := by
      rw [← String.utf8Len_toList, hlast, utf8Len_snoc]
      rfl
    obtain rfl : position = utf8Len (before ++ List.replicate k '\\') := by omega
    exact ⟨hsize.symm, byte_escape hlast, before, k + 1, hraw, hbefore, hlength⟩
  · have hposition := congrFun hfault 0
    cases hposition

theorem invalid_of_parse (h : parse raw limits = .error (.invalidName shown
    (.invalidEscape position))) :
    raw.toByteArray[position]? = some 0x5C ∧ WrongEscapeAt raw.toList position ∧
      ∀ q < position, ¬ WrongEscapeAt raw.toList q := by
  rcases escape_fault_cases (mem_escapeFaults.mpr (.inr rfl)) h with
    ⟨hfault, -⟩ | ⟨-, before, rest, hraw, rfl, hwrong, hclear⟩
  · have hposition := congrFun hfault 0
    cases hposition
  · obtain ⟨c, after, rfl, -, -⟩ := hwrong.stands
    refine ⟨byte_escape hraw, ⟨before, _, hraw, rfl, hwrong⟩, ?_⟩
    intro q hq
    rw [hraw]
    exact not_wrongEscapeAt_of_clear hclear hq

/-- **An escape is told at its byte.**  A raw name that ends inside an escape is at fault at its
last byte, where a run of escape characters ends that is of odd length and as long as can be.  Any
other fault of an escape is told at the first byte where an active escape character stands before
something that is never escaped, and does not begin one of the parts that are written with one.  And
whether a path is read as a raw name or from a name onward, only its cut finds that it ends inside
an escape: none of the parts that it is cut into does. -/
theorem faults_point_at_escapes :
    (∀ (raw : String) (limits : Limits) (shown : String) (position : Nat),
      parse raw limits = .error (.invalidName shown (.danglingEscape position)) →
      position + 1 = raw.utf8ByteSize ∧ raw.toByteArray[position]? = some 0x5C ∧
      ∃ before length, raw.toList = before ++ List.replicate length '\\' ∧
        before.getLast? ≠ some '\\' ∧ length % 2 = 1) ∧
    (∀ (raw : String) (limits : Limits) (shown : String) (position : Nat),
      parse raw limits = .error (.invalidName shown (.invalidEscape position)) →
      raw.toByteArray[position]? = some 0x5C ∧ WrongEscapeAt raw.toList position ∧
      ∀ q < position, ¬ WrongEscapeAt raw.toList q) ∧
    (∀ (position : Nat) (path : List Char) (parts : List Part), split position path = .ok parts →
      ∀ part ∈ parts, ∀ q, unescapeAt part.position part.text ≠ .error (.danglingEscape q)) ∧
    ∀ (segments : List String) (position : Nat) (path : List Char) (q : Nat),
      walk segments position path = .error (.danglingEscape q) ↔
        split position path = .error (.danglingEscape q) := by
  refine ⟨?_, ?_, ?_, ?_⟩
  · intro raw limits shown position h
    exact dangling_of_parse h
  · intro raw limits shown position h
    exact invalid_of_parse h
  · intro position path parts hsplit part hpart q
    exact unescapeAt_ne_dangling hsplit hpart q
  · intro segments position path q
    exact walk_eq_dangling_iff

/-- Behind characters of two bytes a name ends in three escape characters; and behind a part that is
written with an escape character, one that must not be is told, although its part is taken back. -/
theorem faults_point_at_escapes_behind :
    parse "user/ä\\\\\\" = .error (.invalidName "user/ä\\\\\\" (.danglingEscape 9)) ∧
    (9 + 1 = "user/ä\\\\\\".utf8ByteSize ∧ "user/ä\\\\\\".toByteArray[9]? = some 0x5C) ∧
    parse "/\\./ä\\b/.." = .error (.invalidName "/\\./ä\\b/.." (.invalidEscape 6)) ∧
    (WrongEscapeAt "/\\./ä\\b/..".toList 6 ∧ ∀ q < 6, ¬ WrongEscapeAt "/\\./ä\\b/..".toList q) ∧
    ∀ q, unescapeAt 4 ['ä', '\\', 'b'] ≠ .error (.danglingEscape q) := by
  obtain ⟨hdangling, hinvalid, hcut, -⟩ := faults_point_at_escapes
  have hodd : parse "user/ä\\\\\\" = .error (.invalidName "user/ä\\\\\\" (.danglingEscape 9)) := by
    decide +kernel
  have hwrong : parse "/\\./ä\\b/.." = .error (.invalidName "/\\./ä\\b/.." (.invalidEscape 6)) := by
    decide +kernel
  have hsplit : split 1 "\\./ä\\b/..".toList
      = .ok [⟨1, ['\\', '.']⟩, ⟨4, ['ä', '\\', 'b']⟩, ⟨9, ['.', '.']⟩] := by decide +kernel
  obtain ⟨hsize, hbyte, -⟩ := hdangling _ _ _ _ hodd
  obtain ⟨-, hat, hfirst⟩ := hinvalid _ _ _ _ hwrong
  exact ⟨hodd, ⟨hsize, hbyte⟩, hwrong, ⟨hat, hfirst⟩,
    hcut _ _ _ hsplit _ (List.mem_cons_of_mem _ List.mem_cons_self)⟩

end Name
end ConfigKeys
