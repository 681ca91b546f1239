import ConfigKeys.Proofs.Name.RoundTrip

/-!
# What keeps within the limits

Reading measures the raw text and the depth of what was read, editing the canonical form of the
candidate.  Since no text that is read is shorter than its canonical form, both leave names whose
canonical form keeps within the limits, and looser limits refuse nothing that tighter ones take.

## Main definitions

* `Name.Fits` — a name within limits, measured in its canonical form.
* `Limits.Widens` — other limits are at least as wide in both bounds.

## Main results

* `Name.within_eq_ok_iff` — editing accepts the candidates that fit, and nothing else.
* `Name.extend_eq_ok_iff`, `Name.withBase_eq_ok_iff`, `Name.ofSegments_eq_ok_iff` — what editing
  and building accept, and what they answer.
* `Name.limits_sound` — **limits are sound and monotone.**
-/

namespace ConfigKeys

/-- A name whose canonical form and depth keep within the limits. -/
structure Name.Fits (limits : Limits) (n : Name) : Prop where
  /-- The canonical form is short enough. -/
  length : n.canonical.utf8ByteSize ≤ limits.maxNameBytes
  /-- The segments, the root's marker included, are few enough. -/
  depth : n.segments.length ≤ limits.maxDepth

/-- The second limits are at least as wide as the first. -/
structure Limits.Widens (limits wider : Limits) : Prop where
  /-- The bound on bytes is no lower. -/
  length : limits.maxNameBytes ≤ wider.maxNameBytes
  /-- The bound on segments is no lower. -/
  depth : limits.maxDepth ≤ wider.maxDepth

theorem Namespace.marker_of_ofMarker? {marker : String} {root : Namespace}
    (h : ofMarker? marker = some root) : root.marker = marker := by
  simpa using List.find?_some h

namespace Name

variable {limits wider : Limits} {raw segment relative : String} {n m : Name}
  {segments : List String}

/-- A candidate is accepted when it fits, and as it is. -/
theorem within_eq_ok_iff : within limits n = .ok m ↔ m = n ∧ n.Fits limits := by
  rw [within]
  constructor
  · intro h
    split at h
    · next hcheck =>
      cases h
      obtain ⟨hlength, hdepth⟩ := check_eq_ok_iff.mp hcheck
      exact ⟨rfl, hlength, hdepth⟩
    · cases h
  · rintro ⟨rfl, hlength, hdepth⟩
    rw [check_eq_ok_iff.mpr ⟨hlength, hdepth⟩]

/-! ### Reading -/

theorem fits_of_parse (h : parse raw limits = .ok n) : n.Fits limits := by
  rw [parse_eq_ok_iff] at h
  -- the raw text was measured, and the canonical form is no longer
  have hshorter := byteLength_le_of_parse? h
  obtain ⟨-, hlength, -, hdepth⟩ := parse?_eq_ok_iff.mp h
  exact ⟨Nat.le_trans hshorter hlength, hdepth⟩

theorem parse_mono (h : parse raw limits = .ok n) (hwider : limits.Widens wider) :
    parse raw wider = .ok n := by
  rw [parse_eq_ok_iff, parse?_eq_ok_iff] at h ⊢
  obtain ⟨hnonempty, hlength, hread, hdepth⟩ := h
  exact ⟨hnonempty, Nat.le_trans hlength hwider.length, hread,
    Nat.le_trans hdepth hwider.depth⟩

/-! ### Editing -/

theorem withBase_eq_ok_iff : n.withBase segment limits = .ok m ↔
    n.path ≠ [] ∧ m = { n with path := n.path.dropLast ++ [segment] } ∧ m.Fits limits := by
  rw [withBase, isRoot]
  by_cases hpath : n.path = []
  · simp [hpath]
  · rw [if_neg (by simpa using hpath), within_eq_ok_iff]
    constructor
    · rintro ⟨rfl, hfits⟩
      exact ⟨hpath, rfl, hfits⟩
    · rintro ⟨-, rfl, hfits⟩
      exact ⟨rfl, hfits⟩

theorem extend_eq_ok_iff : n.extend relative limits = .ok m ↔
    walk n.path 0 relative.toList = .ok m.path ∧ m.root = n.root ∧ m.Fits limits := by
  rw [extend]
  cases hwalk : walk n.path 0 relative.toList with
  | error fault => simp
  | ok path =>
    show within limits _ = _ ↔ _
    rw [within_eq_ok_iff, Except.ok.injEq]
    constructor
    · rintro ⟨rfl, hfits⟩
      exact ⟨rfl, rfl, hfits⟩
    · rintro ⟨rfl, hroot, hfits⟩
      rw [← hroot]
      exact ⟨rfl, hfits⟩

/-! ### Building from segments -/

theorem ofSegments_eq_ok_iff : ofSegments segments = .ok n ↔ n.segments = segments ∧ n.Fits {} := by
  constructor
  · intro h
    unfold ofSegments at h
    split at h
    · cases h
    · next marker path =>
      split at h
      · cases h
      · next root hroot =>
        obtain ⟨rfl, hfits⟩ := within_eq_ok_iff.mp h
        exact ⟨by rw [Name.segments, Namespace.marker_of_ofMarker? hroot], hfits⟩
  · rintro ⟨rfl, hfits⟩
    exact ofSegments_segments (check_eq_ok_iff.mpr ⟨hfits.length, hfits.depth⟩)

theorem exists_ofSegments_iff : (∃ n, ofSegments segments = .ok n) ↔
    (∃ root : Namespace, segments.head? = some root.marker) ∧
      (render segments).utf8ByteSize ≤ 65536 ∧ segments.length ≤ 1024 := by
  constructor
  · rintro ⟨n, h⟩
    obtain ⟨rfl, hfits⟩ := ofSegments_eq_ok_iff.mp h
    rw [← canonical_eq_render]
    exact ⟨⟨n.root, rfl⟩, hfits.length, hfits.depth⟩
  · rintro ⟨⟨root, hroot⟩, hlength, hdepth⟩
    obtain ⟨path, rfl⟩ := List.head?_eq_some_iff.mp hroot
    -- the segments are those of a name, and rendering them is its canonical form
    have hsegments : root.marker :: path = (⟨root, path⟩ : Name).segments := rfl
    rw [hsegments, ← canonical_eq_render] at hlength
    exact ⟨⟨root, path⟩, ofSegments_eq_ok_iff.mpr ⟨rfl, hlength, hdepth⟩⟩

/-- **Limits are sound and monotone.**  A name that was read keeps within the limits it was read
under, measured in its canonical form although the raw text was; editing under limits accepts
exactly the candidates that keep within them, and so does building a name from segments under the
default ones, provided that the first is the marker of a root; and a text that is read under some
limits is read as the same name under any that are at least as wide.  Where no limits are given,
the default ones are meant. -/
theorem limits_sound :
    (∀ (raw : String) (limits : Limits) (n : Name), parse raw limits = .ok n → n.Fits limits) ∧
    (∀ (n : Name) (segment : String) (limits : Limits) (m : Name),
      n.withBase segment limits = .ok m ↔ n.path ≠ [] ∧
        m = { n with path := n.path.dropLast ++ [segment] } ∧ m.Fits limits) ∧
    (∀ (n : Name) (relative : String) (limits : Limits) (m : Name),
      n.extend relative limits = .ok m ↔
        walk n.path 0 relative.toList = .ok m.path ∧ m.root = n.root ∧ m.Fits limits) ∧
    (∀ (segments : List String) (n : Name),
      ofSegments segments = .ok n ↔ n.segments = segments ∧ n.Fits {}) ∧
    (∀ segments : List String, (∃ n, ofSegments segments = .ok n) ↔
      (∃ root : Namespace, segments.head? = some root.marker) ∧
        (render segments).utf8ByteSize ≤ 65536 ∧ segments.length ≤ 1024) ∧
    (∀ (raw : String) (limits wider : Limits) (n : Name), limits.Widens wider →
      parse raw limits = .ok n → parse raw wider = .ok n) := by
  refine ⟨?_, ?_, ?_, ?_, ?_, ?_⟩
  · intro raw limits n h
    exact fits_of_parse h
  · intro n segment limits m
    exact withBase_eq_ok_iff
  · intro n relative limits m
    exact extend_eq_ok_iff
  · intro segments n
    exact ofSegments_eq_ok_iff
  · intro segments
    exact exists_ofSegments_iff
  · intro raw limits wider n hwider h
    exact parse_mono h hwider

/-- A text with detours and an escape is read under tight limits and so under the default ones, and
what it stands for keeps within both, though the text just fits the first. -/
theorem limits_sound_tight :
    parse "/a//./b/../c\\/d/%" ⟨17, 4⟩ = .ok ⟨.cascading, ["a", "c/d", ""]⟩ ∧
    Fits ⟨17, 4⟩ ⟨.cascading, ["a", "c/d", ""]⟩ ∧
    parse "/a//./b/../c\\/d/%" = .ok ⟨.cascading, ["a", "c/d", ""]⟩ := by
  have hread : parse "/a//./b/../c\\/d/%" ⟨17, 4⟩ = .ok ⟨.cascading, ["a", "c/d", ""]⟩ := by
    decide +kernel
  obtain ⟨hfits, -, -, -, -, hmono⟩ := limits_sound
  exact ⟨hread, hfits _ _ _ hread, hmono _ _ _ _ ⟨by decide, by decide⟩ hread⟩

end Name
end ConfigKeys
