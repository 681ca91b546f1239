import ConfigKeys.Proofs.Name.Bounds

/-!
# Going further is reading the longer text

A name goes further along a written path without being read again.  Where it ends, and what is
wrong with the path, is what a reader finds in the longer text: the canonical form of the name, a
separator, and the path.  The reader walks the segments of the name first, and from there on both
do the same, only that the reader counts its bytes from the beginning of the longer text.

## Main definitions

* `NameFault.shift` — a fault of a text that stands behind some bytes.
* `Name.onward` — the canonical form of a name with a written path behind it.

## Main results

* `Name.walk_shift` — **a walk does the same wherever the path begins.**
* `Name.walk_written_append` — a written path in front of another is walked first.
* `Name.parse?_onward` — **reading the longer text is walking on from the name.**
* `Name.withBase_eq_extend` — another last segment is a step back and the escaped segment.
-/

namespace ConfigKeys

/-- The fault of a text that stands behind `bytes` bytes. -/
def NameFault.shift (bytes : Nat) : NameFault → NameFault
  | .danglingEscape position => .danglingEscape (position + bytes)
  | .invalidEscape position => .invalidEscape (position + bytes)
  | fault => fault

namespace Segment

open String (utf8Len)

variable {bytes position start : Nat} {parts : List Part} {cs rest : List Char}

/-- A part of a text that stands behind `bytes` bytes. -/
def Part.shift (bytes : Nat) (part : Part) : Part :=
  { part with position := part.position + bytes }

/-! ### Texts behind other texts -/

theorem unescapeFrom_shift (bytes position : Nat) (acc text : List Char) :
    unescapeFrom (position + bytes) acc text
      = (unescapeFrom position acc text).mapError (NameFault.shift bytes) := by
  fun_induction unescapeFrom position acc text with
  | case1 position acc => rfl
  | case2 position acc => rfl
  | case3 position acc c rest hc ih =>
    rw [unescapeFrom_escaped hc, ← ih]
    congr 1
    omega
  | case4 position acc c rest hc =>
    rw [unescapeFrom, if_neg hc]
    rfl
  | case5 position acc c rest hlast hnext ih =>
    rw [unescapeFrom_plain (ne_escape hlast hnext), ← ih]
    congr 1
    omega

theorem unescapeAt_shift (bytes position : Nat) (text : List Char) :
    unescapeAt (position + bytes) text
      = (unescapeAt position text).mapError (NameFault.shift bytes) := by
  unfold unescapeAt
  split
  · rfl
  · rfl
  · rfl
  · rfl
  · exact unescapeFrom_shift bytes position [] _

theorem splitFrom_shift (bytes position start : Nat) (part : List Char) (parts : List Part)
    (cs : List Char) :
    splitFrom (position + bytes) (start + bytes) part (parts.map (Part.shift bytes)) cs
      = ((splitFrom position start part parts cs).map (List.map (Part.shift bytes))).mapError
          (NameFault.shift bytes) := by
  fun_induction splitFrom position start part parts cs with
  | case1 position start part parts =>
    show Except.ok _ = Except.ok _
    rw [List.map_reverse]
    rfl
  | case2 position start part parts => rfl
  | case3 position start part parts c rest ih =>
    rw [splitFrom_escaped, ← ih]
    congr 1
    omega
  | case4 position start part parts rest ih =>
    rw [splitFrom_separator, ← ih, Nat.add_right_comm position 1 bytes]
    rfl
  | case5 position start part parts c rest hlast hnext hslash ih =>
    rw [splitFrom_plain (ne_escape hlast hnext) hslash, ← ih]
    congr 1
    omega

theorem split_shift (bytes position : Nat) (path : List Char) :
    split (position + bytes) path
      = ((split position path).map (List.map (Part.shift bytes))).mapError
          (NameFault.shift bytes) :=
  splitFrom_shift bytes position position [] [] path

/-- The parts that were found before a text stay in front of its own. -/
theorem splitFrom_append (position start : Nat) (part : List Char) (parts front : List Part)
    (cs : List Char) :
    splitFrom position start part (parts ++ front) cs
      = (splitFrom position start part parts cs).map (front.reverse ++ ·) := by
  fun_induction splitFrom position start part parts cs with
  | case1 position start part parts =>
    unfold splitFrom
    rw [← List.cons_append, List.reverse_append]
    rfl
  | case2 position start part parts => rfl
  | case3 position start part parts c rest ih =>
    rw [splitFrom_escaped, ih]
  | case4 position start part parts rest ih =>
    rw [splitFrom_separator, ← ih]
    rfl
  | case5 position start part parts c rest hlast hnext hslash ih =>
    rw [splitFrom_plain (ne_escape hlast hnext) hslash, ih]

/-! ### Written paths in front -/

/-- **A written path in front of another is cut where its segments meet**, and after it the other
is cut as if it began there. -/
theorem splitFrom_written_append (s : String) (path : List String) (position : Nat)
    (parts : List Part) (rest : List Char) :
    ∃ ps : List Part, ps.map Part.text = (s :: path).map (fun s => escapeChars s.toList) ∧
      splitFrom position position [] parts (written (s :: path) ++ '/' :: rest)
        = splitFrom (position + utf8Len (written (s :: path)) + 1)
            (position + utf8Len (written (s :: path)) + 1) [] (ps.reverse ++ parts) rest := by
  induction path generalizing s position parts with
  | nil =>
    refine ⟨[⟨position, escapeChars s.toList⟩], rfl, ?_⟩
    rw [written_singleton, splitFrom_escapeChars, splitFrom_separator, List.append_nil,
      List.reverse_reverse]
    rfl
  | cons s' path ih =>
    -- the first segment and its separator are one part, the other segments come after it
    obtain ⟨ps, htexts, hsplit⟩ := ih s' (position + utf8Len (escapeChars s.toList) + 1)
      (⟨position, escapeChars s.toList⟩ :: parts)
    refine ⟨⟨position, escapeChars s.toList⟩ :: ps, ?_, ?_⟩
    · rw [List.map_cons, htexts]
      rfl
    · have hbytes : position + utf8Len (written (s :: s' :: path)) + 1
          = position + utf8Len (escapeChars s.toList) + 1 + utf8Len (written (s' :: path)) + 1 := by
        rw [written_cons s (List.cons_ne_nil s' path), String.utf8Len_append, String.utf8Len_cons]
        show _ + (_ + (_ + 1)) + 1 = _
        omega
      rw [hbytes, written_cons s (List.cons_ne_nil s' path), List.append_assoc,
        splitFrom_escapeChars, List.append_nil, List.cons_append, splitFrom_separator,
        List.reverse_reverse, hsplit, List.reverse_cons, List.append_assoc]
      rfl

end Segment

namespace Name

open Segment
open String (utf8Len)

variable {n m : Name} {path : List String} {position : Nat} {cs rest : List Char}
  {limits wider : Limits} {relative : String}

/-! ### Walks -/

theorem walkPart_shift (bytes : Nat) (path : List String) (part : Part) :
    walkPart path (part.shift bytes) = (walkPart path part).mapError (NameFault.shift bytes) := by
  obtain ⟨position, text⟩ := part
  simp only [walkPart, Part.shift]
  split
  · rfl
  · rfl
  · rfl
  · rw [unescapeAt_shift]
    cases unescapeAt position text with
    | error fault => rfl
    | ok segment => rfl

theorem foldlM_walkPart_shift (bytes : Nat) (path : List String) (parts : List Part) :
    (parts.map (Part.shift bytes)).foldlM walkPart path
      = (parts.foldlM walkPart path).mapError (NameFault.shift bytes) := by
  induction parts generalizing path with
  | nil => rfl
  | cons part parts ih =>
    rw [List.map_cons, List.foldlM_cons, List.foldlM_cons, walkPart_shift]
    cases walkPart path part with
    | error fault => rfl
    | ok path' => exact ih path'

/-- **A walk does the same wherever the path begins**, but for the bytes of its faults. -/
theorem walk_shift (bytes : Nat) (path : List String) (position : Nat) (relative : List Char) :
    walk path (position + bytes) relative
      = (walk path position relative).mapError (NameFault.shift bytes) := by
  unfold walk
  rw [split_shift]
  cases split position relative with
  | error fault => rfl
  | ok parts =>
    show (do let walked ← (parts.map (Part.shift bytes)).foldlM walkPart path.reverse; _) = _
    rw [foldlM_walkPart_shift]
    show _ = Except.mapError _ (do let walked ← parts.foldlM walkPart path.reverse; _)
    cases parts.foldlM walkPart path.reverse with
    | error fault => rfl
    | ok walked => rfl

/-- A separator in front of a path leads nowhere. -/
theorem walk_separator (path : List String) (position : Nat) (rest : List Char) :
    walk path position ('/' :: rest) = walk path (position + 1) rest := by
  unfold walk split
  rw [splitFrom_separator, ← List.nil_append [_], splitFrom_append]
  cases splitFrom (position + 1) (position + 1) [] [] rest with
  | error fault => rfl
  | ok parts => rfl

/-- **A written path in front of another is walked first**, and from where it leads the other is
walked. -/
theorem walk_written_append {segments : List String} (hsegments : segments ≠ [])
    (path : List String) (position : Nat) (rest : List Char) :
    walk path position (written segments ++ '/' :: rest)
      = walk (path ++ segments) (position + utf8Len (written segments) + 1) rest := by
  obtain ⟨s, segments, rfl⟩ := List.exists_cons_of_ne_nil hsegments
  obtain ⟨ps, htexts, hsplit⟩ := splitFrom_written_append s segments position [] rest
  unfold walk split
  rw [hsplit, ← List.nil_append (ps.reverse ++ []), splitFrom_append, List.append_nil,
    List.reverse_reverse]
  cases splitFrom _ _ [] [] rest with
  | error fault => rfl
  | ok parts =>
    -- the parts of the written path lead along its segments
    show (do let walked ← (ps ++ parts).foldlM walkPart path.reverse; Except.ok walked.reverse) = _
    rw [List.foldlM_append, foldlM_walkPart_escaped htexts, List.reverse_append]
    rfl

/-! ### The longer text -/

/-- The canonical form of a name with a written path behind it. -/
def onward (n : Name) (relative : String) : String := n.canonical ++ "/" ++ relative

theorem toList_onward (n : Name) (relative : String) :
    (n.onward relative).toList = n.canonical.toList ++ '/' :: relative.toList := by
  rw [onward, String.toList_append, String.toList_append, List.append_assoc]
  rfl

theorem utf8Len_separator (rest : List Char) : utf8Len ('/' :: rest) = utf8Len rest + 1 :=
  String.utf8Len_cons '/' rest

/-- The longer text has the root of the name, and from there on it is walked as the written path is
from the name. -/
theorem onward_leads (n : Name) (relative : String) :
    ∃ rest, n.root.Leads (n.onward relative).toList rest ∧
      walk [] (utf8Len (n.onward relative).toList - utf8Len rest) rest
        = walk n.path (n.byteLength + 1) relative.toList := by
  rw [toList_onward, byteLength, ← String.utf8Len_toList, String.utf8Len_append, utf8Len_separator]
  by_cases hpath : n.path = []
  · rw [canonical_root hpath, hpath]
    by_cases hroot : n.root = .cascading
    · -- the cascading root is written as a separator, so two of them stand before the path
      refine ⟨'/' :: relative.toList, .inl (by rw [hroot]; rfl), ?_⟩
      rw [walk_separator, utf8Len_separator]
      congr 1
      omega
    · refine ⟨relative.toList, .inl (by rw [Namespace.text_of_ne hroot]), ?_⟩
      congr 1
      omega
  · refine ⟨written n.path ++ '/' :: relative.toList, .inl ?_, ?_⟩
    · rw [toList_canonical hpath, List.append_assoc]
      rfl
    · rw [walk_written_append hpath, List.nil_append, toList_canonical hpath, String.utf8Len_append,
        utf8Len_separator, String.utf8Len_append, utf8Len_separator]
      congr 1
      omega

/-- **Reading the longer text is walking on from the name**, between the two measurements. -/
theorem parse?_onward (n : Name) (relative : String) (limits : Limits) :
    parse? limits (n.onward relative) = (do
      limits.checkLength (n.onward relative).utf8ByteSize
      let path ← walk n.path (n.byteLength + 1) relative.toList
      limits.checkDepth (path.length + 1)
      Except.ok ⟨n.root, path⟩) := by
  have hnonempty : (n.onward relative).isEmpty = false := by
    rw [Bool.eq_false_iff, Ne, String.isEmpty_iff, ← String.toList_eq_nil_iff, toList_onward]
    simp
  obtain ⟨rest, hleads, hwalk⟩ := onward_leads n relative
  unfold parse?
  rw [hnonempty, splitRoot?_of_leads hleads, ← hwalk]
  rfl

theorem parse_eq_error_iff {raw shown : String} {fault : NameFault} :
    parse raw limits = .error (.invalidName shown fault) ↔
      shown = raw ∧ parse? limits raw = .error fault := by
  unfold parse
  cases parse? limits raw with
  | ok n => simp
  | error fault' => simp [eq_comm]

/-- The longer text is accepted where the walk from the name succeeds, the text is short enough and
the name that it leads to is not too deep. -/
theorem parse_onward_eq_ok_iff : parse (n.onward relative) limits = .ok m ↔
    (n.onward relative).utf8ByteSize ≤ limits.maxNameBytes ∧
      walk n.path 0 relative.toList = .ok m.path ∧ m.root = n.root ∧
        m.depth ≤ limits.maxDepth := by
  rw [parse_eq_ok_iff, parse?_onward, ← Nat.zero_add (n.byteLength + 1), walk_shift]
  constructor
  · intro h
    obtain ⟨⟨⟩, hlength, h⟩ := bind_eq_ok.mp h
    obtain ⟨path, hwalk, h⟩ := bind_eq_ok.mp h
    obtain ⟨⟨⟩, hdepth, h⟩ := bind_eq_ok.mp h
    cases h
    exact ⟨Limits.checkLength_eq_ok_iff.mp hlength, mapError_eq_ok.mp hwalk, rfl,
      Limits.checkDepth_eq_ok_iff.mp hdepth⟩
  · rintro ⟨hlength, hwalk, hroot, hdepth⟩
    obtain ⟨root, path⟩ := m
    obtain rfl : root = n.root := hroot
    refine bind_eq_ok.mpr ⟨(), Limits.checkLength_eq_ok_iff.mpr hlength, ?_⟩
    refine bind_eq_ok.mpr ⟨path, mapError_eq_ok.mpr hwalk, ?_⟩
    exact bind_eq_ok.mpr ⟨(), Limits.checkDepth_eq_ok_iff.mpr hdepth, rfl⟩

/-- What is read from the longer text is where the name leads to. -/
theorem extend_of_parse_onward (h : parse (n.onward relative) limits = .ok m) :
    n.extend relative limits = .ok m := by
  obtain ⟨-, hwalk, hroot, -⟩ := parse_onward_eq_ok_iff.mp h
  exact extend_eq_ok_iff.mpr ⟨hwalk, hroot, fits_of_parse h⟩

/-- Where a name leads to is read from the longer text, if this is not too long. -/
theorem parse_onward_of_extend (h : n.extend relative limits = .ok m)
    (hlength : (n.onward relative).utf8ByteSize ≤ wider.maxNameBytes)
    (hdepth : limits.maxDepth ≤ wider.maxDepth) : parse (n.onward relative) wider = .ok m := by
  obtain ⟨hwalk, hroot, hfits⟩ := extend_eq_ok_iff.mp h
  exact parse_onward_eq_ok_iff.mpr ⟨hlength, hwalk, hroot, Nat.le_trans hfits.depth hdepth⟩

/-! ### Faults of escapes -/

/-- The faults that stand at a byte of the text. -/
def escapeFaults : List (Nat → NameFault) := [.danglingEscape, .invalidEscape]

theorem mem_escapeFaults {fault : Nat → NameFault} :
    fault ∈ escapeFaults ↔ fault = .danglingEscape ∨ fault = .invalidEscape := by
  simp [escapeFaults]

variable {fault : Nat → NameFault} {shown : String}

theorem shift_eq_iff (hfault : fault ∈ escapeFaults) {bytes : Nat} {found : NameFault} :
    found.shift bytes = fault (position + bytes) ↔ found = fault position := by
  rcases mem_escapeFaults.mp hfault with rfl | rfl <;> cases found <;> simp [NameFault.shift]

/-- Measuring a name finds no fault of an escape. -/
theorem checkLength_ne_escape (hfault : fault ∈ escapeFaults) {bytes : Nat} :
    limits.checkLength bytes ≠ .error (fault position) := by
  unfold Limits.checkLength
  rcases mem_escapeFaults.mp hfault with rfl | rfl <;> split <;> simp

theorem checkDepth_ne_escape (hfault : fault ∈ escapeFaults) {depth : Nat} :
    limits.checkDepth depth ≠ .error (fault position) := by
  unfold Limits.checkDepth
  rcases mem_escapeFaults.mp hfault with rfl | rfl <;> split <;> simp

theorem check_ne_escape (hfault : fault ∈ escapeFaults) :
    limits.check n ≠ .error (fault position) := by
  unfold Limits.check
  intro h
  rcases bind_eq_error.mp h with hlength | ⟨-, -, hdepth⟩
  · exact checkLength_ne_escape hfault hlength
  · exact checkDepth_ne_escape hfault hdepth

theorem within_ne_escape (hfault : fault ∈ escapeFaults) :
    within limits n ≠ .error (.invalidName shown (fault position)) := by
  unfold within
  intro h
  split at h
  · cases h
  · next hcheck =>
    cases h
    exact check_ne_escape hfault hcheck

/-- A name finds the faults of the written path, and shows the path with them. -/
theorem extend_eq_escape_iff (hfault : fault ∈ escapeFaults) :
    n.extend relative limits = .error (.invalidName shown (fault position)) ↔
      shown = relative ∧ walk n.path 0 relative.toList = .error (fault position) := by
  unfold extend
  cases hwalk : walk n.path 0 relative.toList with
  | error found => simp [eq_comm]
  | ok path => simp [within_ne_escape hfault]

/-- A reader finds the same faults in the longer text, but for the bytes before the path. -/
theorem parse_onward_eq_escape_iff (hfault : fault ∈ escapeFaults)
    (hlength : (n.onward relative).utf8ByteSize ≤ limits.maxNameBytes) :
    parse (n.onward relative) limits
        = .error (.invalidName (n.onward relative) (fault (position + (n.byteLength + 1)))) ↔
      walk n.path 0 relative.toList = .error (fault position) := by
  rw [parse_eq_error_iff, parse?_onward, Limits.checkLength_eq_ok_iff.mpr hlength,
    ← Nat.zero_add (n.byteLength + 1), walk_shift, Nat.zero_add]
  cases walk n.path 0 relative.toList with
  | error found =>
    show _ ∧ Except.error (found.shift (n.byteLength + 1)) = _ ↔ _
    rw [Except.error.injEq, shift_eq_iff hfault]
    simp
  | ok path =>
    -- what is left to do is to measure the depth
    simp only [true_and, reduceCtorEq, iff_false]
    intro h
    rcases bind_eq_error.mp h with h | ⟨-, -, h⟩
    · cases h
    rcases bind_eq_error.mp h with h | ⟨_, -, h⟩
    · cases h
    rcases bind_eq_error.mp h with h | ⟨-, -, h⟩
    · exact checkDepth_ne_escape hfault h
    · cases h

/-! ### Another last segment -/

/-- The step back takes off the last segment, and the escaped segment stands for itself. -/
theorem walk_back_escape (path : List String) (segment : String) :
    walk path 0 ("../" ++ escape segment).toList = .ok (path.dropLast ++ [segment]) := by
  have htext : ("../" ++ escape segment).toList
      = '.' :: '.' :: '/' :: (escapeChars segment.toList ++ []) := by
    rw [String.toList_append, toList_escape, List.append_nil]
    rfl
  -- the path is cut in two, and the second part is the escaped segment as a whole
  have hsplit : split 0 ("../" ++ escape segment).toList
      = .ok [⟨0, ['.', '.']⟩, ⟨3, escapeChars segment.toList⟩] := by
    rw [htext, split]
    show splitFrom 3 3 [] [⟨0, ['.', '.']⟩] _ = _
    rw [splitFrom_escapeChars, splitFrom, List.append_nil, List.reverse_reverse]
    rfl
  have hfold : [⟨0, ['.', '.']⟩, ⟨3, escapeChars segment.toList⟩].foldlM walkPart path.reverse
      = .ok (segment :: path.reverse.tail) := by
    rw [List.foldlM_cons]
    exact @foldlM_walkPart_escaped [segment] [_] rfl path.reverse.tail
  unfold walk
  rw [hsplit]
  show (do let walked ← List.foldlM walkPart path.reverse _; Except.ok walked.reverse) = _
  rw [hfold, List.tail_reverse]
  show Except.ok (segment :: path.dropLast.reverse).reverse = _
  rw [List.reverse_cons, List.reverse_reverse]

/-- **Another last segment is a step back and the escaped segment**, below a root. -/
theorem withBase_eq_extend (hroot : n.isRoot = false) (segment : String) (limits : Limits) :
    n.withBase segment limits = n.extend ("../" ++ escape segment) limits := by
  unfold withBase extend
  rw [walk_back_escape, hroot]
  rfl

/-- What another last segment changes, and what it leaves as it was. -/
theorem withBase_ok {segment : String} (h : n.withBase segment limits = .ok m) :
    m.segments = n.segments.dropLast ++ [segment] ∧ m.base = segment ∧ m.depth = n.depth ∧
      m.root = n.root ∧ parse m.canonical limits = .ok m := by
  obtain ⟨hpath, rfl, hfits⟩ := withBase_eq_ok_iff.mp h
  have hlength : 0 < n.path.length := List.length_pos_of_ne_nil hpath
  refine ⟨?_, ?_, ?_, rfl, parse_canonical hfits.length hfits.depth⟩
  · unfold segments
    rw [List.dropLast_cons_of_ne_nil hpath]
    rfl
  · simp [base]
  · simp only [depth, List.length_append, List.length_dropLast, List.length_singleton]
    omega

end Name
end ConfigKeys
