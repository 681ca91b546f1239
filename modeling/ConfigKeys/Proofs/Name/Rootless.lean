import ConfigKeys.Proofs.Name.Further
import ConfigKeys.Proofs.Name.Grammar

/-!
# Names without a root

Where a missing root means the cascading one, a text is read as a name if it has a root, and as a
path below the cascading root if it has none.  A written path has a root of its own just if its
first segment is the marker of a namespace: then the path leads into that namespace, and not below
the cascading root.

## Main definitions

* `Name.rootless` — a path as it is written without a root.
* `Name.ofRootless` — the name as which it is read.

## Main results

* `metaName_canonical`, `metaName_ne_missingRoot` — how the names of metadata are read.
* `Name.marker_of_leads_written` — a written path begins with a namespace just if its first segment
  is its marker.
* `metaName_rootless` — **a path is read without a root** as what its first segment says.
-/

namespace ConfigKeys

open Segment

/-! ### Reading where a root may be missing -/

namespace Name

variable {limits : Limits} {raw shown : String}

/-- **A text lacks a root only if neither a separator nor a namespace begins it.** -/
theorem splitRoot?_of_missingRoot
    (h : parse raw limits = .error (.invalidName shown .missingRoot)) :
    splitRoot? raw.toList = none := by
  have hread := parse_eq_segments raw limits
  rw [h, Grammar.segments] at hread
  rw [Grammar.splitRoot?_eq]
  rcases hroot : Grammar.root? raw.toList with _ | ⟨root, path⟩
  · rfl
  -- a text with a root has other faults
  · exfalso
    rw [hroot] at hread
    split at hread
    · cases hread
    split at hread
    · cases hread
    dsimp only at hread
    split at hread
    · cases hread
    rcases hfault : (Grammar.parts path).findSome?
        (Grammar.fault? (raw.utf8ByteSize - String.utf8Len path)) with _ | fault
    · rw [hfault] at hread
      dsimp only at hread
      split at hread <;> cases hread
    · rw [hfault] at hread
      obtain ⟨part, -, hpart⟩ := List.exists_of_findSome?_eq_some hfault
      cases hread
      rw [Grammar.fault?] at hpart
      split at hpart
      · cases hpart
      · obtain ⟨mark, -, hmark⟩ := Option.map_eq_some_iff.mp hpart
        cases hmark

/-- A text that is short enough, and begins with no root, lacks one. -/
theorem parse_of_splitRoot?_eq_none (hempty : raw.isEmpty = false)
    (hlength : raw.utf8ByteSize ≤ limits.maxNameBytes) (hroot : splitRoot? raw.toList = none) :
    parse raw limits = .error (.invalidName raw .missingRoot) := by
  refine parse_eq_error_iff.mpr ⟨rfl, ?_⟩
  rw [parse?, hempty, Limits.checkLength_eq_ok_iff.mpr hlength, hroot]
  rfl

/-- Behind a separator there is the cascading root. -/
theorem parse_separator_ne_missingRoot (raw shown : String) (limits : Limits) :
    parse ("/" ++ raw) limits ≠ .error (.invalidName shown .missingRoot) := by
  intro h
  have hnone := splitRoot?_of_missingRoot h
  rw [String.toList_append] at hnone
  cases hnone

end Name

theorem metaName_of_rooted {raw : String}
    (h : ∀ shown, Name.parse raw ≠ .error (.invalidName shown .missingRoot)) :
    metaName raw = Name.parse raw := by
  rw [metaName]
  split
  · next shown hread => exact absurd hread (h shown)
  · rfl

theorem metaName_of_rootless {raw shown : String}
    (h : Name.parse raw = .error (.invalidName shown .missingRoot)) :
    metaName raw = Name.parse ("/" ++ raw) := by
  rw [metaName, h]

/-- **A name of metadata needs no root.** -/
theorem metaName_ne_missingRoot (raw shown : String) :
    metaName raw ≠ .error (.invalidName shown .missingRoot) := by
  by_cases h : ∃ shown, Name.parse raw = .error (.invalidName shown .missingRoot)
  · obtain ⟨_, h⟩ := h
    rw [metaName_of_rootless h]
    exact Name.parse_separator_ne_missingRoot raw shown _
  · rw [metaName_of_rooted (not_exists.mp h)]
    exact not_exists.mp h shown

/-- **Every name within limits is read back as a name of metadata.** -/
theorem metaName_canonical {n : Name} (h : n.Fits {}) : metaName n.canonical = .ok n := by
  have hread : Name.parse n.canonical = .ok n := Name.parse_canonical h.length h.depth
  rw [metaName, hread]

/-! ### Written paths -/

namespace Name

variable {root : Namespace} {s : String} {path : List String} {rest : List Char}

/-- A path as it is written without a root. -/
def rootless (path : List String) : String := "/".intercalate (path.map escape)

/-- The name as which a written path without a root is read. -/
def ofRootless : List String → Name
  | [] => ofRoot .cascading
  | marker :: path =>
    match Namespace.ofMarker? marker with
    | none | some .cascading => ⟨.cascading, marker :: path⟩
    | some root => ⟨root, path⟩

theorem toList_rootless (path : List String) : (rootless path).toList = written path :=
  toList_intercalate_escape path

theorem rootless_ne_empty (s : String) (path : List String) :
    (rootless (s :: path)).isEmpty = false := by
  rw [Bool.eq_false_iff, Ne, String.isEmpty_iff]
  intro h
  have hchars := toList_rootless (s :: path)
  rw [h] at hchars
  obtain ⟨hne, -, -⟩ := escapeChars_ne_special s.toList
  rcases path with _ | ⟨s', path⟩
  · exact hne ((written_singleton s).symm.trans hchars.symm)
  · rw [written_cons s (List.cons_ne_nil s' path)] at hchars
    exact hne (List.append_eq_nil_iff.mp hchars.symm).1

/-- The path below the cascading root is written with a separator in front. -/
theorem canonical_cascading (path : List String) :
    (Name.mk .cascading path).canonical = "/" ++ rootless path := by
  rw [canonical_eq_render]
  rfl

/-- Below a namespace, the path is written with the marker as its first segment. -/
theorem canonical_namespace (hroot : root ≠ .cascading) (path : List String) :
    (Name.mk root path).canonical = rootless (root.marker :: path) := by
  have hmarker : escape root.marker = root.marker := by
    cases root <;> first | exact absurd rfl hroot | decide
  have hne : root.marker ≠ "" := by
    cases root <;> first | exact absurd rfl hroot | decide
  rw [canonical_eq_render, segments, render, if_neg hne, rootless, List.map_cons, hmarker]

theorem escapeChars_inj {cs cs' : List Char} (h : escapeChars cs = escapeChars cs') : cs = cs' := by
  have hread := unescapeAt_escapeChars 0 cs
  rw [h, unescapeAt_escapeChars] at hread
  exact (Except.ok.inj hread).symm

/-- **Only the marker of a namespace is read as a root**, when a path begins with it as a
segment. -/
theorem marker_of_leads_written (h : root.Leads (written (s :: path)) rest) :
    s = root.marker ∧ root ≠ .cascading := by
  have hplain : ∀ c ∈ root.marker.toList, c ≠ '\\' ∧ c ≠ '/' := by
    cases root <;> simp [Namespace.marker]
  -- the first part of the written path is the marker, and it is the first segment as well
  have hfirst : escapeChars s.toList = root.marker.toList := by
    obtain ⟨ps, hps, htexts⟩ := split_written (List.cons_ne_nil s path) 0
    have hmarker := splitFrom_flatMap root.marker.toList
    rw [flatMap_escapeChar_of_plain hplain] at hmarker
    rcases h with hw | ⟨-, hw, -⟩
    · rw [hw, split, hmarker, splitFrom_separator, List.append_nil, List.reverse_reverse,
        ← List.nil_append [_], splitFrom_append] at hps
      rcases hrest : splitFrom (0 + String.utf8Len root.marker.toList + 1)
          (0 + String.utf8Len root.marker.toList + 1) [] [] rest with fault | ps'
      · rw [hrest] at hps
        cases hps
      · rw [hrest] at hps
        obtain rfl := Except.ok.inj hps
        exact (List.cons.inj htexts).1.symm
    · rw [hw, split, ← List.append_nil root.marker.toList, hmarker, splitFrom, List.append_nil,
        List.reverse_reverse] at hps
      obtain rfl := Except.ok.inj hps
      exact (List.cons.inj htexts).1.symm
  have hroot : root ≠ .cascading := by
    rintro rfl
    exact (escapeChars_ne_special s.toList).1 hfirst
  have hmarker : escapeChars root.marker.toList = root.marker.toList := by
    cases root <;> first | exact absurd rfl hroot | decide
  exact ⟨String.toList_inj.mp (escapeChars_inj (hfirst.trans hmarker.symm)), hroot⟩

/-- The words that stand for a namespace where they begin a name. -/
def namespaceWords : List String := ["spec", "proc", "dir", "user", "system"]

theorem mem_namespaceWords :
    s ∈ namespaceWords ↔ ∃ root ≠ Namespace.cascading, s = root.marker := by
  constructor
  · intro h
    simp only [namespaceWords, List.mem_cons, List.not_mem_nil, or_false] at h
    rcases h with rfl | rfl | rfl | rfl | rfl
    exacts [⟨.spec, by decide, rfl⟩, ⟨.proc, by decide, rfl⟩, ⟨.dir, by decide, rfl⟩,
      ⟨.user, by decide, rfl⟩, ⟨.system, by decide, rfl⟩]
  · rintro ⟨root, hroot, rfl⟩
    cases root <;> first | exact absurd rfl hroot | decide

theorem ofRootless_marker (hroot : root ≠ .cascading) (path : List String) :
    ofRootless (root.marker :: path) = ⟨root, path⟩ := by
  rw [ofRootless, Namespace.ofMarker?_marker]
  cases root <;> first | exact absurd rfl hroot | rfl

theorem ofRootless_of_notMem (hs : s ∉ namespaceWords) (path : List String) :
    ofRootless (s :: path) = ⟨.cascading, s :: path⟩ := by
  rw [ofRootless]
  split
  · rfl
  · rfl
  · next root hroot hfind =>
    have hmarker := Namespace.marker_of_ofMarker? hfind
    exact absurd (mem_namespaceWords.mpr ⟨root, hroot, hmarker.symm⟩) hs

end Name

open Name in
/-- **A path is read without a root** as a name of the namespace that its first segment stands for,
and where it stands for none, as the name below the cascading root. -/
theorem metaName_rootless {path : List String} (hpath : path ≠ [])
    (hfits : Name.Fits {} ⟨.cascading, path⟩) :
    metaName (rootless path) = .ok (ofRootless path) := by
  obtain ⟨s, path, rfl⟩ := List.exists_cons_of_ne_nil hpath
  have hlength : (rootless (s :: path)).utf8ByteSize + 1 ≤ 65536 := by
    have hwhole := hfits.length
    rw [canonical_cascading, String.utf8ByteSize_append] at hwhole
    exact Nat.add_comm .. ▸ hwhole
  by_cases hs : s ∈ namespaceWords
  · obtain ⟨root, hroot, rfl⟩ := mem_namespaceWords.mp hs
    rw [ofRootless_marker hroot, ← canonical_namespace hroot]
    refine metaName_canonical ⟨?_, ?_⟩
    · rw [canonical_namespace hroot]
      exact Nat.le_of_succ_le hlength
    · exact Nat.le_of_succ_le hfits.depth
  · rw [ofRootless_of_notMem hs]
    -- no root begins the path, so that it is read behind a separator
    have hnone : splitRoot? (rootless (s :: path)).toList = none := by
      by_contra hsome
      obtain ⟨root, rest, hleads⟩ := leads_of_isSome (Option.isSome_iff_ne_none.mpr hsome)
      rw [toList_rootless] at hleads
      obtain ⟨rfl, hroot⟩ := marker_of_leads_written hleads
      exact hs (mem_namespaceWords.mpr ⟨root, hroot, rfl⟩)
    rw [metaName_of_rootless (parse_of_splitRoot?_eq_none (rootless_ne_empty s path)
        (Nat.le_of_succ_le hlength) hnone),
      ← canonical_cascading]
    exact parse_canonical hfits.length hfits.depth

end ConfigKeys
