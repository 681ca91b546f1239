import Mathlib.Data.String.Basic
import ConfigKeys.Proofs.Fallible
import ConfigKeys.Name.Parse

/-!
# Roots of raw names

## Main definitions

* `Namespace.Leads` — a raw name is a root and a path after it.

## Main results

* `splitRoot?_eq_some_iff` — the root of a raw name, and where the path after it begins.
* `Name.parse?_eq_ok_iff` — when a raw name is accepted.
-/

namespace ConfigKeys

open String (utf8Len)

variable {raw rest : List Char} {root : Namespace}

/-- A raw name is a root and a path: a separator stands between them, and only a namespace may also
stand on its own. -/
def Namespace.Leads (root : Namespace) (raw rest : List Char) : Prop :=
  raw = root.marker.toList ++ '/' :: rest ∨
    (root ≠ .cascading ∧ raw = root.marker.toList ∧ rest = [])

theorem Namespace.text_of_ne (hroot : root ≠ .cascading) : root.text = root.marker := by
  cases root
  · exact absurd rfl hroot
  all_goals rfl

theorem splitRoot?_separated (root : Namespace) (rest : List Char) :
    splitRoot? (root.marker.toList ++ '/' :: rest)
      = some (root, rest, utf8Len root.marker.toList + 1) := by
  cases root <;> rfl

theorem splitRoot?_alone (hroot : root ≠ .cascading) :
    splitRoot? root.marker.toList = some (root, [], utf8Len root.marker.toList) := by
  cases root
  · exact absurd rfl hroot
  all_goals rfl

/-- A raw name is cut after its root. -/
theorem splitRoot?_of_leads (h : root.Leads raw rest) :
    splitRoot? raw = some (root, rest, utf8Len raw - utf8Len rest) := by
  rcases h with rfl | ⟨hroot, rfl, rfl⟩
  · have hlength : utf8Len (root.marker.toList ++ '/' :: rest) - utf8Len rest
        = utf8Len root.marker.toList + 1 := by
      rw [String.utf8Len_append, String.utf8Len_cons]
      show utf8Len root.marker.toList + (utf8Len rest + 1) - utf8Len rest = _
      omega
    rw [splitRoot?_separated, hlength]
  · rw [splitRoot?_alone hroot]
    rfl

theorem Namespace.Leads.utf8Len_le (h : root.Leads raw rest) : utf8Len rest ≤ utf8Len raw := by
  rcases h with rfl | ⟨-, -, rfl⟩
  · rw [String.utf8Len_append, String.utf8Len_cons]
    omega
  · exact Nat.zero_le _

/-- A name that is cut begins with a root. -/
theorem leads_of_isSome (h : (splitRoot? raw).isSome) :
    ∃ root : Namespace, ∃ rest, root.Leads raw rest := by
  unfold splitRoot? at h
  split at h
  · exact ⟨.cascading, _, .inl rfl⟩
  · -- the text before the first separator is the marker, and the rest of it the path
    have hcut := List.takeWhile_append_dropWhile (p := (· != '/')) (l := raw)
    cases hfind : Namespace.ofMarker? (String.ofList (raw.takeWhile (· != '/'))) with
    | none => simp [hfind] at h
    | some root =>
      have hroot : root ≠ .cascading := by
        rintro rfl
        simp [hfind] at h
      have hmarker : root.marker.toList = raw.takeWhile (· != '/') := by
        have hfound := List.find?_some hfind
        rw [of_decide_eq_true hfound, String.toList_ofList]
      refine ⟨root, (raw.dropWhile (· != '/')).tail, ?_⟩
      have hhead := List.head?_dropWhile_not (· != '/') raw
      cases hdrop : raw.dropWhile (· != '/') with
      | nil =>
        rw [hdrop, List.append_nil, ← hmarker] at hcut
        exact .inr ⟨hroot, hcut.symm, rfl⟩
      | cons c rest =>
        rw [hdrop] at hhead
        obtain rfl : c = '/' := by simpa using hhead
        rw [hdrop, ← hmarker] at hcut
        exact .inl hcut.symm

/-- **The root of a raw name, and where the path after it begins.** -/
theorem splitRoot?_eq_some_iff {position : Nat} :
    splitRoot? raw = some (root, rest, position) ↔
      root.Leads raw rest ∧ position = utf8Len raw - utf8Len rest := by
  constructor
  · intro h
    -- there is one way only to cut what begins with a root
    have hsome : (splitRoot? raw).isSome := by rw [h]; rfl
    obtain ⟨root', rest', hleads⟩ := leads_of_isSome hsome
    rw [splitRoot?_of_leads hleads] at h
    cases h
    exact ⟨hleads, rfl⟩
  · rintro ⟨hleads, rfl⟩
    exact splitRoot?_of_leads hleads

namespace Limits

variable {limits : Limits}

theorem checkLength_eq_ok_iff {bytes : Nat} :
    limits.checkLength bytes = .ok () ↔ bytes ≤ limits.maxNameBytes := by
  unfold checkLength
  split <;> simp <;> omega

theorem checkDepth_eq_ok_iff {depth : Nat} :
    limits.checkDepth depth = .ok () ↔ depth ≤ limits.maxDepth := by
  unfold checkDepth
  split <;> simp <;> omega

end Limits

namespace Name

/-- **When a raw name is accepted**, and as which name. -/
theorem parse?_eq_ok_iff {limits : Limits} {raw : String} {n : Name} :
    parse? limits raw = .ok n ↔
      raw.isEmpty = false ∧ raw.utf8ByteSize ≤ limits.maxNameBytes ∧
        (∃ rest, n.root.Leads raw.toList rest ∧
          walk [] (utf8Len raw.toList - utf8Len rest) rest = .ok n.path) ∧
        n.depth ≤ limits.maxDepth := by
  unfold parse?
  constructor
  · intro h
    cases hempty : raw.isEmpty with
    | true =>
      rw [hempty] at h
      cases h
    | false =>
      rw [hempty] at h
      obtain ⟨⟨⟩, hlength, h⟩ := bind_eq_ok.mp h
      split at h
      · cases h
      · next root rest position hroot =>
        obtain ⟨hleads, rfl⟩ := splitRoot?_eq_some_iff.mp hroot
        obtain ⟨path, hwalk, h⟩ := bind_eq_ok.mp h
        obtain ⟨⟨⟩, hdepth, h⟩ := bind_eq_ok.mp h
        cases h
        exact ⟨rfl, Limits.checkLength_eq_ok_iff.mp hlength, ⟨rest, hleads, hwalk⟩,
          Limits.checkDepth_eq_ok_iff.mp hdepth⟩
  · rintro ⟨hempty, hlength, ⟨rest, hleads, hwalk⟩, hdepth⟩
    rw [hempty, Limits.checkLength_eq_ok_iff.mpr hlength, splitRoot?_of_leads hleads]
    show (do let path ← walk [] _ rest; _) = _
    rw [hwalk]
    show (do limits.checkDepth n.depth; Except.ok n) = _
    rw [Limits.checkDepth_eq_ok_iff.mpr hdepth]
    rfl

end Name

end ConfigKeys
