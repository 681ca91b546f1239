import ConfigKeys.Proofs.Name.Marks

/-!
# The grammar of raw names

Which raw names are accepted, as which segments, and what is wrong with the others, said without
the reader: the path after the root is looked at as a whole, each character with the text before it.

## Main definitions

* `Grammar.root?` — the root of a raw name and the path after it.
* `Grammar.fault?`, `Grammar.content` — what is wrong with a part, and what it stands for.
* `Grammar.step` — how a part changes the segments before it.
* `Grammar.segments` — the segments of a raw name, or its first fault.

## Main results

* `Grammar.walk_spec` — a path is walked part by part, once none of its parts has a fault.
* `Name.parse_eq_segments` — **the reader accepts exactly the grammar.**
-/

namespace ConfigKeys

open Segment
open String (utf8Len)

/-! ### The grammar -/

namespace Grammar

/-- The root of a raw name and the path after it: the marker of a root with a separator behind it,
or a namespace on its own. -/
def root? (raw : List Char) : Option (Namespace × List Char) :=
  Namespace.all.findSome? fun root =>
    if root ≠ .cascading ∧ raw = root.marker.toList then some (root, [])
    else ((root.marker.toList ++ ['/']).isPrefixOf? raw).map fun path => (root, path)

/-- The parts of a path: it is cut at every separator that is not escaped. -/
def parts (path : List Char) : List (List Mark) := (marks path).splitOnP Mark.isCut

/-- A part as it is written. -/
def text (part : List Mark) : List Char := part.map Mark.char

/-- What is wrong with a part of a path that begins at byte `offset`: an escape character that
stands neither before a separator nor before an escape character, unless the whole part is one of
the three that are written with one. -/
def fault? (offset : Nat) (part : List Mark) : Option NameFault :=
  if text part ∈ [['\\', '%'], ['\\', '.'], ['\\', '.', '.']] then none
  else (badEscape? part).map fun m => .invalidEscape (offset + utf8Len m.before)

/-- The segment that a part stands for. -/
def content (part : List Mark) : List Char :=
  match text part with
  | ['%'] => []
  | ['\\', '%'] => ['%']
  | ['\\', '.'] => ['.']
  | ['\\', '.', '.'] => ['.', '.']
  | _ => meant part

/-- The segments after one more part.  The root's marker is never taken back. -/
def step (segments : List String) (part : List Mark) : List String :=
  match text part with
  | [] | ['.'] => segments
  | ['.', '.'] => if segments.length > 1 then segments.dropLast else segments
  | _ => segments ++ [String.ofList (content part)]

/-- The segments of a raw name, the root's marker first, or its first fault. -/
def segments (limits : Limits) (raw : String) : Except NameFault (List String) :=
  if raw = "" then .error .empty
  else if raw.utf8ByteSize > limits.maxNameBytes then
    .error (.tooLong raw.utf8ByteSize limits.maxNameBytes)
  else
    match root? raw.toList with
    | none => .error .missingRoot
    | some (root, path) =>
      if oddEscapes path then .error (.danglingEscape (raw.utf8ByteSize - 1))
      else
        match (parts path).findSome? (fault? (raw.utf8ByteSize - utf8Len path)) with
        | some fault => .error fault
        | none =>
          let segments := (parts path).foldl step [root.marker]
          if segments.length > limits.maxDepth then
            .error (.tooDeep segments.length limits.maxDepth)
          else .ok segments

/-! ### Roots -/

variable {raw rest : List Char} {root : Namespace}

theorem leads_of_root? (h : root? raw = some (root, rest)) : root.Leads raw rest := by
  obtain ⟨root', -, hroot⟩ := List.exists_of_findSome?_eq_some h
  split at hroot
  · next halone =>
    cases hroot
    exact .inr ⟨halone.1, halone.2, rfl⟩
  · obtain ⟨path, hfront, hpath⟩ := Option.map_eq_some_iff.mp hroot
    cases hpath
    rw [List.isPrefixOf?_eq_some_iff_append_eq] at hfront
    exact .inl (by rw [← hfront, List.append_assoc]; rfl)

theorem root?_isSome (h : root.Leads raw rest) : (root? raw).isSome := by
  rw [root?, List.findSome?_isSome_iff]
  refine ⟨root, by cases root <;> decide, ?_⟩
  split
  · rfl
  · next hseparated =>
    rcases h with rfl | ⟨hroot, hraw, -⟩
    · have hfront : (root.marker.toList ++ ['/']).isPrefixOf? (root.marker.toList ++ '/' :: rest)
          = some rest := by
        rw [List.isPrefixOf?_eq_some_iff_append_eq, List.append_assoc]
        rfl
      rw [hfront]
      rfl
    · exact absurd ⟨hroot, hraw⟩ hseparated

/-- The reader finds the same root, and begins the path right after it. -/
theorem splitRoot?_eq (raw : List Char) :
    splitRoot? raw = (root? raw).map fun p => (p.1, p.2, utf8Len raw - utf8Len p.2) := by
  cases h : root? raw with
  | none =>
    rw [Option.map_none, ← Option.not_isSome_iff_eq_none]
    intro hsome
    obtain ⟨root, rest, hleads⟩ := leads_of_isSome hsome
    have hroot := root?_isSome hleads
    rw [h] at hroot
    cases hroot
  | some found =>
    obtain ⟨root, rest⟩ := found
    exact splitRoot?_of_leads (leads_of_root? h)

/-! ### Parts -/

variable {offset position : Nat} {path : List String} {part : Part} {ps : List Part}
  {ms : List Mark} {mss : List (List Mark)}

theorem text_of_reads (hreads : Reads offset part ms) : text ms = part.text := by
  obtain ⟨⟨before, -, -, -, rfl⟩, -⟩ := hreads
  exact map_char_marksFrom before part.text

/-- A part that holds no escape character has no fault. -/
theorem badEscape?_of_plain (h : '\\' ∉ text ms) : badEscape? ms = none := by
  induction ms with
  | nil => rfl
  | cons m ms ih =>
    rw [text, List.map_cons, List.mem_cons, not_or] at h
    rw [badEscape?_cons (isEscape_plain (Ne.symm h.1))]
    exact ih h.2

/-- Any other part stands for what is meant. -/
theorem content_of_plain (h₁ : text ms ≠ ['%']) (h₂ : text ms ≠ ['\\', '%'])
    (h₃ : text ms ≠ ['\\', '.']) (h₄ : text ms ≠ ['\\', '.', '.']) : content ms = meant ms := by
  unfold content
  split
  · next h => exact absurd h h₁
  · next h => exact absurd h h₂
  · next h => exact absurd h h₃
  · next h => exact absurd h h₄
  · rfl

/-- **A part is unescaped** to the segment that it stands for, unless it has a fault. -/
theorem unescapeAt_spec (hreads : Reads offset part ms) :
    unescapeAt part.position part.text =
      match fault? offset ms with
      | some fault => .error fault
      | none => .ok (content ms) := by
  have htext := text_of_reads hreads
  obtain ⟨⟨before, hposition, hbefore, hclosed, hms⟩, -⟩ := hreads
  unfold unescapeAt
  split
  · next h =>
    have hplain : badEscape? ms = none := badEscape?_of_plain (by rw [htext, h]; decide)
    rw [fault?, content, htext, h, hplain]
    rfl
  · next h =>
    rw [fault?, content, htext, h]
    rfl
  · next h =>
    rw [fault?, content, htext, h]
    rfl
  · next h =>
    rw [fault?, content, htext, h]
    rfl
  · next h₁ h₂ h₃ h₄ =>
    -- any other part is read character by character
    have hspecial : text ms ∉ [['\\', '%'], ['\\', '.'], ['\\', '.', '.']] := by
      rw [htext]
      simpa using ⟨h₂, h₃, h₄⟩
    rw [← htext] at h₁ h₂ h₃ h₄
    rw [fault?, if_neg hspecial, content_of_plain h₁ h₂ h₃ h₄,
      unescapeFrom_spec hposition hbefore hclosed, ← hms]
    cases badEscape? ms with
    | none => rfl
    | some m => rfl

/-- A part that is read has no fault. -/
theorem fault?_of_unescapeAt {segment : List Char} (hreads : Reads offset part ms)
    (hread : unescapeAt part.position part.text = .ok segment) : fault? offset ms = none := by
  have hspec := unescapeAt_spec hreads
  cases hfault : fault? offset ms with
  | none => rfl
  | some fault =>
    rw [hread, hfault] at hspec
    cases hspec

/-! ### Steps -/

theorem step_stay (segments : List String) (h : text ms = [] ∨ text ms = ['.']) :
    step segments ms = segments := by
  unfold step
  rcases h with h | h
  · rw [h]
  · rw [h]
    rfl

/-- Going back takes off the last segment, but never the root's marker. -/
theorem step_back (marker : String) (path : List String) (h : text ms = ['.', '.']) :
    step (marker :: path.reverse) ms = marker :: path.tail.reverse := by
  unfold step
  rw [h]
  cases path with
  | nil => rfl
  | cons s path =>
    rw [List.reverse_cons, List.tail_cons, ← List.cons_append, List.dropLast_concat]
    exact if_pos (by simp)

theorem step_segment (segments : List String) (hnil : text ms ≠ []) (hdot : text ms ≠ ['.'])
    (hdots : text ms ≠ ['.', '.']) :
    step segments ms = segments ++ [String.ofList (content ms)] := by
  unfold step
  split
  · next h => exact absurd h hnil
  · next h => exact absurd h hdot
  · next h => exact absurd h hdots
  · rfl

/-- **A step of the walk is a step of the grammar**, unless the part has a fault.  The walk holds
its segments the last one first, and not the root's marker. -/
theorem walkPart_spec (marker : String) (path : List String) (hreads : Reads offset part ms) :
    match fault? offset ms with
    | some fault => Name.walkPart path part = .error fault
    | none => ∃ path', Name.walkPart path part = .ok path' ∧
        marker :: path'.reverse = step (marker :: path.reverse) ms := by
  have htext := text_of_reads hreads
  rcases Name.walkPart_cases path part with
    ⟨hstay, hwalk⟩ | ⟨hback, hwalk⟩ | ⟨⟨hnil, hdot, hdots⟩, hwalk⟩
  · -- a part that is dropped would be read without a fault as well
    obtain ⟨segment, hread⟩ : ∃ segment, unescapeAt part.position part.text = .ok segment := by
      rcases hstay with h | h
      · exact ⟨[], by rw [h]; rfl⟩
      · exact ⟨['.'], by rw [h]; rfl⟩
    rw [fault?_of_unescapeAt hreads hread]
    exact ⟨path, hwalk, (step_stay _ (htext ▸ hstay)).symm⟩
  · have hread : unescapeAt part.position part.text = .ok ['.', '.'] := by rw [hback]; rfl
    rw [fault?_of_unescapeAt hreads hread]
    exact ⟨path.tail, hwalk, (step_back marker path (htext ▸ hback)).symm⟩
  · rw [hwalk, unescapeAt_spec hreads]
    cases fault? offset ms with
    | some fault => rfl
    | none =>
      refine ⟨_, rfl, ?_⟩
      rw [step_segment _ (htext ▸ hnil) (htext ▸ hdot) (htext ▸ hdots), List.reverse_cons]
      rfl

/-- **A walk is a fold of the grammar's steps**, once no part has a fault; else the first fault
stops it. -/
theorem foldlM_walkPart_spec (marker : String) (path : List String)
    (hreads : List.Forall₂ (Reads offset) ps mss) :
    match mss.findSome? (fault? offset) with
    | some fault => ps.foldlM Name.walkPart path = .error fault
    | none => ∃ path', ps.foldlM Name.walkPart path = .ok path' ∧
        marker :: path'.reverse = mss.foldl step (marker :: path.reverse) := by
  induction hreads generalizing path with
  | nil => exact ⟨path, rfl, rfl⟩
  | @cons part ms ps mss hpart _ ih =>
    have hstep := walkPart_spec marker path hpart
    rw [List.findSome?_cons, List.foldlM_cons, List.foldl_cons]
    cases hfault : fault? offset ms with
    | some fault =>
      rw [hfault] at hstep
      rw [hstep]
      rfl
    | none =>
      rw [hfault] at hstep
      obtain ⟨path₁, hwalk, hpath⟩ := hstep
      rw [hwalk, ← hpath]
      exact ih path₁

/-- **How a path is walked**: it must not end inside an escape, none of its parts may have a fault,
and then the parts are folded from the left. -/
theorem walk_spec (marker : String) (position : Nat) (rest : List Char) :
    if oddEscapes rest then
      Name.walk [] position rest = .error (.danglingEscape (position + utf8Len rest - 1))
    else
      match (parts rest).findSome? (fault? position) with
      | some fault => Name.walk [] position rest = .error fault
      | none => ∃ path, Name.walk [] position rest = .ok path ∧
          marker :: path = (parts rest).foldl step [marker] := by
  have hspec := split_spec position rest
  unfold Name.walk
  split
  · next hodd =>
    rw [if_pos hodd] at hspec
    rw [hspec]
    rfl
  · next hodd =>
    rw [if_neg hodd] at hspec
    obtain ⟨ps, hsplit, hreads⟩ := hspec
    have hfold := foldlM_walkPart_spec marker [] hreads
    rw [hsplit, parts]
    cases hfault : ((marks rest).splitOnP Mark.isCut).findSome? (fault? position) with
    | some fault =>
      rw [hfault] at hfold
      show (do let walked ← ps.foldlM Name.walkPart []; _) = _
      rw [hfold]
      rfl
    | none =>
      rw [hfault] at hfold
      obtain ⟨path, hwalk, hpath⟩ := hfold
      refine ⟨path.reverse, ?_, hpath⟩
      show (do let walked ← ps.foldlM Name.walkPart []; _) = _
      rw [hwalk]
      rfl

end Grammar

namespace Name

open Grammar

/-- After the root, a name is read part by part, and its depth is measured at the end. -/
theorem map_segments_walk (limits : Limits) (root : Namespace) (position : Nat)
    (rest : List Char) :
    (do
      let path ← walk [] position rest
      limits.checkDepth (path.length + 1)
      Except.ok (Name.mk root path)).map Name.segments =
    if oddEscapes rest then .error (.danglingEscape (position + utf8Len rest - 1))
    else
      match (parts rest).findSome? (fault? position) with
      | some fault => .error fault
      | none =>
        let segments := (parts rest).foldl step [root.marker]
        if segments.length > limits.maxDepth then
          .error (.tooDeep segments.length limits.maxDepth)
        else .ok segments := by
  have hwalk := walk_spec root.marker position rest
  split at hwalk
  · next hodd =>
    rw [if_pos hodd, hwalk]
    rfl
  · next hodd =>
    rw [if_neg hodd]
    cases hfault : (parts rest).findSome? (fault? position) with
    | some fault =>
      rw [hfault] at hwalk
      rw [hwalk]
      rfl
    | none =>
      rw [hfault] at hwalk
      obtain ⟨path, hpath, hfold⟩ := hwalk
      rw [hpath, ← hfold]
      show (do
        limits.checkDepth (path.length + 1)
        Except.ok (Name.mk root path)).map Name.segments
          = if path.length + 1 > limits.maxDepth then _ else _
      by_cases hdepth : path.length + 1 > limits.maxDepth
      · rw [if_pos hdepth, Limits.checkDepth, if_pos hdepth]
        rfl
      · rw [if_neg hdepth, Limits.checkDepth, if_neg hdepth]
        rfl

/-- The reader accepts exactly the grammar, and finds the same fault in what it does not accept. -/
theorem map_segments_parse? (limits : Limits) (raw : String) :
    (parse? limits raw).map Name.segments = Grammar.segments limits raw := by
  unfold parse? Grammar.segments
  by_cases hempty : raw = ""
  · rw [if_pos hempty, hempty]
    rfl
  rw [if_neg hempty, Bool.eq_false_iff.mpr (mt String.isEmpty_iff.mp hempty)]
  by_cases hlength : raw.utf8ByteSize > limits.maxNameBytes
  · rw [if_pos hlength, Limits.checkLength, if_pos hlength]
    rfl
  rw [if_neg hlength, Limits.checkLength_eq_ok_iff.mpr (Nat.le_of_not_lt hlength), splitRoot?_eq]
  cases hroot : root? raw.toList with
  | none => rfl
  | some found =>
    obtain ⟨root, rest⟩ := found
    -- the path ends where the raw name ends, so an escape is cut off at its last byte
    have hrest := (leads_of_root? hroot).utf8Len_le
    rw [String.utf8Len_toList] at hrest
    have hlast : raw.utf8ByteSize - utf8Len rest + utf8Len rest - 1 = raw.utf8ByteSize - 1 := by
      omega
    have hwalk := map_segments_walk limits root (raw.utf8ByteSize - utf8Len rest) rest
    rw [hlast] at hwalk
    rw [Option.map_some, String.utf8Len_toList]
    exact hwalk

/-- **The reader accepts exactly the grammar.**  A raw name is read as the segments that the grammar
finds in it, and where the grammar finds a fault, that fault is reported with the raw name. -/
theorem parse_eq_segments (raw : String) (limits : Limits) :
    (parse raw limits).map Name.segments
      = (Grammar.segments limits raw).mapError (KeyError.invalidName raw) := by
  rw [← map_segments_parse?, parse]
  cases parse? limits raw with
  | error fault => rfl
  | ok n => rfl

-- an escape that must not be is reported even if the part would be taken back, and before the depth
example : Grammar.segments ⟨64, 1⟩ "user/a\\x/../b" = .error (.invalidEscape 6) := by decide +kernel

end Name

end ConfigKeys
