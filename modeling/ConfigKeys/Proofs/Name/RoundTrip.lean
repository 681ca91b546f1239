import ConfigKeys.Proofs.Name.Marks
import ConfigKeys.Proofs.Name.Order

/-!
# Canonical names round-trip

The canonical form of a name is the written form of its segments.  It is read back as the name, and
two names share it only if they are the same.  A name that was read from a raw text is read back
even within the limits that the raw text was read within: its canonical form is no longer than the
raw text.

## Main definitions

* `Name.render` — segments in their written form, the root's marker first.
* `Name.reformat` — a raw name in its canonical form.

## Main results

* `Name.byteLength_le_of_parse?` — a canonical form is no longer than what was read.
* `Name.canonical_round_trip` — **canonical names round-trip and are unique.**
-/

namespace ConfigKeys
namespace Segment

open String (utf8Len)

variable {offset position start : Nat} {path path' : List String} {part : Part}
  {ps parts : List Part} {ms : List Mark}

/-! ### Bytes -/

/-- The bytes of texts that are written one after the other, each behind a separator. -/
def bytes : List (List Char) → Nat
  | [] => 0
  | text :: texts => 1 + utf8Len text + bytes texts

theorem bytes_append (texts texts' : List (List Char)) :
    bytes (texts ++ texts') = bytes texts + bytes texts' := by
  induction texts with
  | nil => rw [List.nil_append, bytes, Nat.zero_add]
  | cons text texts ih =>
    rw [List.cons_append, bytes, bytes, ih]
    omega

theorem bytes_reverse (texts : List (List Char)) : bytes texts.reverse = bytes texts := by
  induction texts with
  | nil => rfl
  | cons text texts ih =>
    rw [List.reverse_cons, bytes_append, ih, bytes, bytes, bytes]
    omega

/-- The bytes of a path as it is written below a root. -/
def pathBytes (path : List String) : Nat := bytes (path.map fun s => escapeChars s.toList)

/-- The bytes of the parts of a path as they were written. -/
def partsBytes (parts : List Part) : Nat := bytes (parts.map Part.text)

@[simp] theorem pathBytes_nil : pathBytes [] = 0 := rfl

@[simp] theorem pathBytes_cons (s : String) (path : List String) :
    pathBytes (s :: path) = 1 + utf8Len (escapeChars s.toList) + pathBytes path := rfl

@[simp] theorem partsBytes_nil : partsBytes [] = 0 := rfl

@[simp] theorem partsBytes_cons (part : Part) (parts : List Part) :
    partsBytes (part :: parts) = 1 + utf8Len part.text + partsBytes parts := rfl

theorem pathBytes_reverse (path : List String) : pathBytes path.reverse = pathBytes path := by
  rw [pathBytes, List.map_reverse, bytes_reverse, pathBytes]

theorem partsBytes_reverse (parts : List Part) : partsBytes parts.reverse = partsBytes parts := by
  rw [partsBytes, List.map_reverse, bytes_reverse, partsBytes]

theorem pathBytes_tail (path : List String) : pathBytes path.tail ≤ pathBytes path := by
  cases path with
  | nil => exact Nat.le_refl 0
  | cons s path => rw [pathBytes_cons, List.tail_cons]; omega

theorem utf8Len_written (hpath : path ≠ []) : 1 + utf8Len (written path) = pathBytes path := by
  induction path with
  | nil => exact absurd rfl hpath
  | cons s rest ih =>
    rw [pathBytes_cons]
    by_cases hrest : rest = []
    · rw [hrest, written_singleton, pathBytes_nil, Nat.add_zero]
    · rw [written_cons s hrest, String.utf8Len_append, String.utf8Len_cons, ← ih hrest]
      show _ + (_ + (_ + 1)) = _
      omega

/-- Cutting loses no byte but the separators. -/
theorem splitFrom_bytes {part cs : List Char}
    (h : splitFrom position start part parts cs = .ok ps) :
    partsBytes ps = partsBytes parts + (1 + utf8Len part + utf8Len cs) := by
  fun_induction splitFrom position start part parts cs with
  | case1 position start part parts =>
    cases h
    rw [partsBytes_reverse, partsBytes_cons, String.utf8Len_reverse, String.utf8Len_nil]
    omega
  | case2 position start part parts => cases h
  | case3 position start part parts c rest ih =>
    rw [ih h]
    simp only [String.utf8Len_cons]
    omega
  | case4 position start part parts rest ih =>
    rw [ih h]
    simp only [partsBytes_cons, String.utf8Len_reverse, String.utf8Len_cons, String.utf8Len_nil]
    have hslash : '/'.utf8Size = 1 := rfl
    omega
  | case5 position start part parts c rest hlast hnext hslash ih =>
    rw [ih h]
    simp only [String.utf8Len_cons]
    omega

/-- A text that no separator cuts is how the segment is written that is read from it, unless it is a
part that leads elsewhere. -/
theorem escapeChars_of_uncut {before text segment : List Char} (hbefore : oddEscapes before = false)
    (huncut : ∀ m ∈ marksFrom before text, m.isCut = false)
    (hread : unescapeAt position text = .ok segment) (hnil : text ≠ []) (hdot : text ≠ ['.'])
    (hdots : text ≠ ['.', '.']) : escapeChars segment = text := by
  unfold unescapeAt at hread
  split at hread
  · cases hread; rfl
  · cases hread; rfl
  · cases hread; rfl
  · cases hread; rfl
  · next hpercent _ _ _ =>
    -- the part was escaped character by character, and so is what it stands for
    obtain ⟨cs, hsegment, rfl⟩ := escape_of_unescapeFrom hbefore huncut hread
    obtain rfl : segment = cs := hsegment
    rcases escapeChars_cases segment with ⟨rfl, -⟩ | ⟨rfl | rfl | rfl, -⟩ | ⟨-, h⟩
    · exact absurd rfl hnil
    · exact absurd rfl hpercent
    · exact absurd rfl hdot
    · exact absurd rfl hdots
    · exact h

/-- **A segment is written as it was read.** -/
theorem escapeChars_of_unescapeAt {segment : List Char} (hreads : Reads offset part ms)
    (hread : unescapeAt position part.text = .ok segment) (hnil : part.text ≠ [])
    (hdot : part.text ≠ ['.']) (hdots : part.text ≠ ['.', '.']) :
    escapeChars segment = part.text := by
  obtain ⟨⟨before, -, hbefore, -, rfl⟩, huncut⟩ := hreads
  exact escapeChars_of_uncut hbefore huncut hread hnil hdot hdots

end Segment

namespace Name

open Segment
open String (utf8Len)

variable {offset position : Nat} {path path' : List String} {part : Part} {ps : List Part}
  {ms : List Mark} {rest : List Char}

/-- A step adds at most the bytes of its part. -/
theorem walkPart_bytes (hreads : Reads offset part ms) (h : walkPart path part = .ok path') :
    pathBytes path' ≤ pathBytes path + (1 + utf8Len part.text) := by
  rcases walkPart_cases path part with ⟨-, hstay⟩ | ⟨-, hback⟩ | ⟨⟨hnil, hdot, hdots⟩, hstep⟩
  · rw [hstay] at h
    cases h
    omega
  · rw [hback] at h
    cases h
    have htail := pathBytes_tail path
    omega
  · rw [hstep] at h
    cases hread : unescapeAt part.position part.text with
    | error fault =>
      rw [hread] at h
      cases h
    | ok segment =>
      rw [hread] at h
      cases h
      rw [pathBytes_cons, String.toList_ofList,
        escapeChars_of_unescapeAt hreads hread hnil hdot hdots]
      omega

theorem foldlM_walkPart_bytes {mss : List (List Mark)}
    (hreads : List.Forall₂ (Reads offset) ps mss) (h : ps.foldlM walkPart path = .ok path') :
    pathBytes path' ≤ pathBytes path + partsBytes ps := by
  induction hreads generalizing path with
  | nil =>
    cases h
    exact Nat.le_refl _
  | @cons part ms ps mss hpart _ ih =>
    rw [List.foldlM_cons] at h
    obtain ⟨path₁, hstep, hrest⟩ := bind_eq_ok.mp h
    have hbytes := walkPart_bytes hpart hstep
    have hbytes' := ih hrest
    rw [partsBytes_cons]
    omega

/-- A path takes no more bytes than the text it was read from. -/
theorem walk_bytes (h : walk [] position rest = .ok path) : pathBytes path ≤ 1 + utf8Len rest := by
  obtain ⟨ps, hsplit, h⟩ := bind_eq_ok.mp h
  obtain ⟨walked, hfold, h⟩ := bind_eq_ok.mp h
  cases h
  have hspec := split_spec position rest
  split at hspec
  · rw [hspec] at hsplit
    cases hsplit
  · obtain ⟨ps', hsplit', hreads⟩ := hspec
    rw [hsplit'] at hsplit
    cases hsplit
    -- the segments take no more than the parts, and the parts what the text took
    have hbytes := foldlM_walkPart_bytes hreads hfold
    have hparts := splitFrom_bytes hsplit'
    rw [List.reverse_nil, pathBytes_nil] at hbytes
    rw [partsBytes_nil, String.utf8Len_nil] at hparts
    rw [pathBytes_reverse]
    omega

theorem utf8Len_text_le (root : Namespace) :
    utf8Len root.text.toList ≤ utf8Len root.marker.toList + 1 := by
  cases root <;> decide

/-- **A canonical form is no longer than the text it was read from.** -/
theorem byteLength_le_of_parse? {limits : Limits} {raw : String} {n : Name}
    (h : parse? limits raw = .ok n) : n.byteLength ≤ raw.utf8ByteSize := by
  obtain ⟨-, -, ⟨rest, hleads, hwalk⟩, -⟩ := parse?_eq_ok_iff.mp h
  rw [byteLength, ← String.utf8Len_toList, ← String.utf8Len_toList]
  by_cases hpath : n.path = []
  · -- a root on its own is no longer than a root with a separator after it
    rw [canonical_root hpath]
    rcases hleads with hraw | ⟨hroot, hraw, -⟩
    · have htext := utf8Len_text_le n.root
      rw [hraw, String.utf8Len_append, String.utf8Len_cons]
      have hslash : '/'.utf8Size = 1 := rfl
      omega
    · rw [Namespace.text_of_ne hroot, hraw]
  · have hwritten := utf8Len_written hpath
    have hbytes := walk_bytes hwalk
    rcases hleads with hraw | ⟨-, -, rfl⟩
    · rw [toList_canonical hpath, hraw, String.utf8Len_append, String.utf8Len_append,
        String.utf8Len_cons, String.utf8Len_cons]
      omega
    · exact absurd (Except.ok.inj hwalk).symm hpath

/-! ### Rendering -/

/-- Segments in their written form, the root's marker first: each but the marker is escaped, and a
separator stands between any two.  The marker of the cascading root is empty, and on its own it is
written as a separator. -/
def render : List String → String
  | [] => ""
  | marker :: path =>
    if marker = "" then "/" ++ "/".intercalate (path.map escape)
    else "/".intercalate (marker :: path.map escape)

theorem toList_intercalate_escape (path : List String) :
    ("/".intercalate (path.map escape)).toList = written path := by
  rw [String.toList_intercalate, written, List.map_map]
  congr 1
  exact List.map_congr_left fun s _ => toList_escape s

/-- **The canonical form of a name is its segments in their written form.** -/
theorem canonical_eq_render (n : Name) : n.canonical = render n.segments := by
  rw [segments, render]
  by_cases hpath : n.path = []
  · rw [canonical_root hpath, hpath]
    cases n.root <;> rfl
  · rw [← String.toList_inj, toList_canonical hpath]
    split
    · next hmarker =>
      rw [hmarker, String.toList_append, toList_intercalate_escape]
      rfl
    · next hmarker =>
      rw [String.intercalate_cons_of_ne_nil (by simpa using hpath), String.toList_append,
        String.toList_append, toList_intercalate_escape, List.append_assoc]
      rfl

/-! ### Round trips -/

variable {limits : Limits} {raw : String} {n : Name}

theorem parse_eq_ok_iff : parse raw limits = .ok n ↔ parse? limits raw = .ok n := by
  unfold parse
  split
  · next m hm => rw [hm, Except.ok.injEq, Except.ok.injEq]
  · next fault hfault => simp [hfault]

/-- Rendered segments are read back within any limits that they fit. -/
theorem parse_render (hlength : (render n.segments).utf8ByteSize ≤ limits.maxNameBytes)
    (hdepth : n.segments.length ≤ limits.maxDepth) :
    parse (render n.segments) limits = .ok n := by
  rw [← canonical_eq_render] at hlength ⊢
  exact parse_canonical hlength hdepth

/-- A name that was read is read back from its canonical form, within the same limits. -/
theorem parse_canonical_of_parse (h : parse raw limits = .ok n) :
    parse n.canonical limits = .ok n := by
  rw [parse_eq_ok_iff] at h
  have hshorter := byteLength_le_of_parse? h
  obtain ⟨-, hlength, -, hdepth⟩ := parse?_eq_ok_iff.mp h
  exact parse_canonical (Nat.le_trans hshorter hlength) hdepth

/-- Every name is read back within limits of its own. -/
theorem canonical_injective {a b : Name} (h : a.canonical = b.canonical) : a = b := by
  -- within limits that fit both, the one text is read as either
  let limits : Limits := ⟨a.byteLength + b.byteLength, a.depth + b.depth⟩
  have ha : parse a.canonical limits = .ok a :=
    parse_canonical (Nat.le_add_right _ _) (Nat.le_add_right _ _)
  have hb : parse b.canonical limits = .ok b :=
    parse_canonical (Nat.le_add_left _ _) (Nat.le_add_left _ _)
  rw [h, hb] at ha
  exact (Except.ok.inj ha).symm

/-- Two names have the same segments when they have the same canonical form. -/
theorem segments_eq_iff_canonical_eq (a b : Name) :
    a.segments = b.segments ↔ a.canonical = b.canonical := by
  constructor
  · intro h
    rw [segments_injective h]
  · intro h
    rw [canonical_injective h]

theorem check_eq_ok_iff : limits.check n = .ok () ↔
    n.byteLength ≤ limits.maxNameBytes ∧ n.depth ≤ limits.maxDepth := by
  rw [Limits.check, bind_eq_ok]
  constructor
  · rintro ⟨⟨⟩, hlength, hdepth⟩
    exact ⟨Limits.checkLength_eq_ok_iff.mp hlength, Limits.checkDepth_eq_ok_iff.mp hdepth⟩
  · rintro ⟨hlength, hdepth⟩
    exact ⟨(), Limits.checkLength_eq_ok_iff.mpr hlength, Limits.checkDepth_eq_ok_iff.mpr hdepth⟩

/-- A name within the default limits is built again from its segments. -/
theorem ofSegments_segments (h : Limits.check {} n = .ok ()) : ofSegments n.segments = .ok n := by
  rw [segments, ofSegments, Namespace.ofMarker?_marker]
  show within {} n = _
  rw [within, h]

/-- A raw name in its canonical form. -/
def reformat (raw : String) : Except KeyError String := do
  let n ← parse raw
  let m ← ofSegments n.segments
  .ok m.canonical

/-- What can be read can be formatted. -/
theorem reformat_eq (raw : String) : reformat raw = (parse raw).map canonical := by
  rw [reformat]
  cases h : parse raw with
  | error e => rfl
  | ok n =>
    -- the raw text kept within the limits, so the canonical form does
    have hread := parse_eq_ok_iff.mp h
    have hshorter := byteLength_le_of_parse? hread
    obtain ⟨-, hlength, -, hdepth⟩ := parse?_eq_ok_iff.mp hread
    have hcheck : Limits.check {} n = .ok () :=
      check_eq_ok_iff.mpr ⟨Nat.le_trans hshorter hlength, hdepth⟩
    show (do let m ← ofSegments n.segments; Except.ok m.canonical) = _
    rw [ofSegments_segments hcheck]
    rfl

theorem reformat_reformat {text : String} (h : reformat raw = .ok text) :
    reformat text = .ok text := by
  rw [reformat_eq] at h
  cases hread : parse raw with
  | error e =>
    rw [hread] at h
    cases h
  | ok n =>
    rw [hread] at h
    cases h
    rw [reformat_eq, parse_canonical_of_parse hread]
    rfl

/-- **Canonical names round-trip and are unique.**  Any segments below a root marker are read back
from their written form; a name that was read is read back from its canonical form, within the same
limits; and the canonical form of a name, which is its segments in their written form, stands for
these segments only.  So formatting what was read changes nothing the second time, and a name
within the default limits survives as a text. -/
theorem canonical_round_trip :
    (∀ marker ∈ ["", "spec", "proc", "dir", "user", "system"], ∀ (path : List String)
        (limits : Limits),
      (render (marker :: path)).utf8ByteSize ≤ limits.maxNameBytes →
      (marker :: path).length ≤ limits.maxDepth →
      ∃ n, parse (render (marker :: path)) limits = .ok n ∧ n.segments = marker :: path ∧
        n.canonical = render (marker :: path)) ∧
    (∀ (raw : String) (limits : Limits) (n : Name),
      parse raw limits = .ok n → parse n.canonical limits = .ok n) ∧
    (∀ a b : Name, a.segments = b.segments ↔ a.canonical = b.canonical) ∧
    (∀ n : Name, n.canonical = render n.segments) ∧
    (∀ raw, reformat raw = (parse raw).map canonical) ∧
    (∀ raw text, reformat raw = .ok text → reformat text = .ok text) ∧
    (∀ n : Name, Limits.check {} n = .ok () → parse n.canonical = .ok n) := by
  refine ⟨?_, ?_, segments_eq_iff_canonical_eq, canonical_eq_render, reformat_eq, ?_, ?_⟩
  · intro marker hmarker path limits hlength hdepth
    obtain ⟨root, rfl⟩ : ∃ root : Namespace, root.marker = marker := by
      simp only [List.mem_cons, List.not_mem_nil, or_false] at hmarker
      rcases hmarker with rfl | rfl | rfl | rfl | rfl | rfl
      · exact ⟨.cascading, rfl⟩
      · exact ⟨.spec, rfl⟩
      · exact ⟨.proc, rfl⟩
      · exact ⟨.dir, rfl⟩
      · exact ⟨.user, rfl⟩
      · exact ⟨.system, rfl⟩
    have hread := parse_render (n := ⟨root, path⟩) hlength hdepth
    exact ⟨⟨root, path⟩, hread, rfl, canonical_eq_render ⟨root, path⟩⟩
  · intro raw limits n h
    exact parse_canonical_of_parse h
  · intro raw text h
    exact reformat_reformat h
  · intro n h
    obtain ⟨hlength, hdepth⟩ := check_eq_ok_iff.mp h
    exact parse_canonical hlength hdepth

/-- Segments that mean something else in their plain spelling are read back within tight limits,
and so is the name of a raw text with detours. -/
theorem canonical_round_trip_small :
    (∃ n, parse (render ["user", "\\%", "", "a/b\\", ".."]) .small = .ok n ∧
      n.segments = ["user", "\\%", "", "a/b\\", ".."] ∧
      n.canonical = render ["user", "\\%", "", "a/b\\", ".."]) ∧
    parse "/a//./b/../c\\/d/" .small = .ok ⟨.cascading, ["a", "c/d"]⟩ ∧
    parse (canonical ⟨.cascading, ["a", "c/d"]⟩) .small = .ok ⟨.cascading, ["a", "c/d"]⟩ := by
  have hread : parse "/a//./b/../c\\/d/" .small = .ok ⟨.cascading, ["a", "c/d"]⟩ := by
    decide +kernel
  exact ⟨canonical_round_trip.1 "user" (by decide) _ .small (by decide +kernel) (by decide),
    hread, canonical_round_trip.2.1 _ _ _ hread⟩

end Name
end ConfigKeys
