import ConfigKeys.Proofs.Name.Further
import ConfigKeys.Proofs.Session.Locks

/-!
# Growing a name

A name goes further along a written path, or has its last segment replaced.  Both are said of names
as values, which an edit that fails leaves alone, and of the name of a key, which a host changes
by a command.

## Main results

* `Session.Reachable.exec_edit` — a key has the edited name, or nothing has changed.
* `Session.further_is_reading` — **growing a name is reading the longer text.**
* `Session.base_is_escaped` — **a last segment is replaced as by its escaped form.**
-/

namespace ConfigKeys
namespace Session

open Name

variable {s : Session} {slot : String} {k : Key} {how : Renaming}
  {edit : Name → Except KeyError Name}

/-- A command that edits the name of a key either leaves the edited name, or fails and changes
nothing: because a container pins the name, or because the edit fails. -/
theorem Reachable.exec_edit (h : s.Reachable) (hk : s.keys.get? slot = some k)
    (hhow : how.apply s.pool k = s.pool.rename k edit) :
    (∃ s', s.exec (.rename slot how) = some (.done, s') ∧
      edit (s.pool.name k) = .ok (s'.pool.name k)) ∨
    ∃ e, s.exec (.rename slot how) = some (.failed e, s) ∧
      (s.pool.isLocked k = true ∨ edit (s.pool.name k) = .error e) := by
  have hexec : s.exec (.rename slot how) = some (s.settle (s.pool.rename k edit)) := by
    rw [exec, rename, hk, ← hhow]
    rfl
  rw [hexec]
  cases hrename : s.pool.rename k edit with
  | ok p =>
    obtain ⟨-, n, hedit, rfl⟩ := Pool.rename_ok hrename
    obtain ⟨r, hr⟩ := h.sound.exists_of_key hk
    refine .inl ⟨_, rfl, ?_⟩
    rw [hedit, Pool.name, Pool.record_modify_self _ hr]
  | error e =>
    refine .inr ⟨e, rfl, ?_⟩
    unfold Pool.rename at hrename
    split at hrename
    · next hlocked => exact .inl hlocked
    · cases hedit : edit (s.pool.name k) with
      | error e' =>
        rw [hedit] at hrename
        cases hrename
        exact .inr rfl
      | ok n =>
        rw [hedit] at hrename
        cases hrename

/-- **Growing a name is reading the longer text**: the canonical form of the name, a separator, and
the written path.  What is read from the longer text is where the name leads to, under the same
limits; where the name leads to is read from the longer text, under limits that admit its length
and the depth; an escape is at fault in the path exactly if it is at fault in the longer text, as
many bytes further as there are before the path.  And a key whose name cannot grow keeps it, as
everything else stays as it was. -/
theorem further_is_reading :
    (∀ (n : Name) (relative : String) (limits : Limits) (m : Name),
      parse (n.onward relative) limits = .ok m → n.extend relative limits = .ok m) ∧
    (∀ (n : Name) (relative : String) (limits wider : Limits) (m : Name),
      n.extend relative limits = .ok m →
      (n.onward relative).utf8ByteSize ≤ wider.maxNameBytes → limits.maxDepth ≤ wider.maxDepth →
      parse (n.onward relative) wider = .ok m) ∧
    (∀ (n : Name) (relative : String) (limits wider : Limits),
      (n.onward relative).utf8ByteSize ≤ wider.maxNameBytes →
      ∀ fault ∈ [NameFault.danglingEscape, NameFault.invalidEscape], ∀ (position : Nat) shown,
        n.extend relative limits = .error (.invalidName shown (fault position)) ↔
          shown = relative ∧ parse (n.onward relative) wider = .error (.invalidName
            (n.onward relative) (fault (position + (n.canonical.utf8ByteSize + 1))))) ∧
    ∀ s : Session, s.Reachable → ∀ slot k relative, s.keys.get? slot = some k →
      (∃ s', s.exec (.rename slot (.further relative)) = some (.done, s') ∧
        (s.pool.name k).extend relative = .ok (s'.pool.name k)) ∨
      ∃ e, s.exec (.rename slot (.further relative)) = some (.failed e, s) ∧
        (s.pool.isLocked k = true ∨ (s.pool.name k).extend relative = .error e) := by
  refine ⟨?_, ?_, ?_, ?_⟩
  · intro n relative limits m h
    exact extend_of_parse_onward h
  · intro n relative limits wider m h hlength hdepth
    exact parse_onward_of_extend h hlength hdepth
  · intro n relative limits wider hlength fault hfault position shown
    rw [extend_eq_escape_iff hfault]
    exact and_congr_right fun _ => (parse_onward_eq_escape_iff hfault hlength).symm
  · intro s h slot k relative hk
    have hgrow : Renaming.apply s.pool k (.further relative)
        = s.pool.rename k fun n => n.extend relative := rfl
    exact h.exec_edit hk hgrow

/-- A path that leads back across the end of the name, to a segment with an escape; and a path that
ends inside an escape, which is told at byte 3 and, in the longer text, behind nine bytes more. -/
theorem further_is_reading_back :
    Name.extend ⟨.user, ["a\\"]⟩ "..//b\\/c/" = .ok ⟨.user, ["b/c"]⟩ ∧
    parse (onward ⟨.user, ["a\\"]⟩ "..//b\\/c/") = .ok ⟨.user, ["b/c"]⟩ ∧
    parse (onward ⟨.user, ["a\\"]⟩ "../\\")
      = .error (.invalidName (onward ⟨.user, ["a\\"]⟩ "../\\") (.danglingEscape 12)) ∧
    ∃ s, Session.execAll {} [.build "key" "user/a" []] = some s ∧
      ∃ s', s.exec (.rename "key" (.further "../b")) = some (.done, s') ∧
        s'.pool.name ⟨0, {}⟩ = ⟨.user, ["b"]⟩ := by
  obtain ⟨hread, hback, hfault, hkey⟩ := further_is_reading
  have hparse : parse (onward ⟨.user, ["a\\"]⟩ "..//b\\/c/") = .ok ⟨.user, ["b/c"]⟩ := by
    decide +kernel
  have hdangling : Name.extend ⟨.user, ["a\\"]⟩ "../\\"
      = .error (.invalidName "../\\" (.danglingEscape 3)) := by decide +kernel
  have hextend := hread _ _ {} _ hparse
  have hrun : (Session.execAll {} [.build "key" "user/a" []]).map
      (fun s => (s.keys.get? "key", s.pool.name ⟨0, {}⟩, s.pool.isLocked ⟨0, {}⟩))
        = some (some ⟨0, {}⟩, ⟨.user, ["a"]⟩, false) := by decide +kernel
  obtain ⟨s, hs, hfacts⟩ := Option.map_eq_some_iff.mp hrun
  simp only [Prod.mk.injEq] at hfacts
  obtain ⟨hget, hname, hfree⟩ := hfacts
  refine ⟨hextend, hback _ _ {} {} _ hextend (by decide +kernel) (by decide), ?_, s, hs, ?_⟩
  · exact ((hfault _ _ {} {} (by decide +kernel) _ List.mem_cons_self 3 _).mp hdangling).2
  · have hgrown : Name.extend ⟨.user, ["a"]⟩ "../b" = .ok ⟨.user, ["b"]⟩ := by decide +kernel
    rcases hkey s (Reachable.start.execAll hs) "key" ⟨0, {}⟩ "../b" hget with
      ⟨s', hstep, hnew⟩ | ⟨e, -, hlocked | herror⟩
    · rw [hname, hgrown] at hnew
      exact ⟨s', hstep, (Except.ok.inj hnew).symm⟩
    · rw [hfree] at hlocked
      cases hlocked
    · rw [hname, hgrown] at herror
      cases herror

/-- **A last segment is replaced as by its escaped form.**  Below a root, to replace the last
segment by any text, and to go one step back and along the escaped text, come to the same: the same
name or the same fault.  What they leave are the segments with the text for the last one, under the
same root and as deep, and their canonical form is read back.  A root has no last segment.  And a
key whose name cannot be changed keeps it, as everything else stays as it was. -/
theorem base_is_escaped :
    (∀ (n : Name) (segment : String) (limits : Limits), n.isRoot = false →
      n.withBase segment limits = n.extend ("../" ++ Segment.escape segment) limits) ∧
    (∀ (n : Name) (segment : String) (limits : Limits) (m : Name),
      n.withBase segment limits = .ok m →
      m.segments = n.segments.dropLast ++ [segment] ∧ m.base = segment ∧ m.depth = n.depth ∧
        m.root = n.root ∧ parse m.canonical limits = .ok m) ∧
    (∀ (n : Name) (segment : String) (limits : Limits), n.isRoot = true →
      n.withBase segment limits = .error (.invalidName n.canonical .rootOnly)) ∧
    ∀ s : Session, s.Reachable → ∀ slot k segment, s.keys.get? slot = some k →
      ((∃ s', s.exec (.rename slot (.base segment)) = some (.done, s') ∧
        (s.pool.name k).withBase segment = .ok (s'.pool.name k)) ∨
      ∃ e, s.exec (.rename slot (.base segment)) = some (.failed e, s) ∧
        (s.pool.isLocked k = true ∨ (s.pool.name k).withBase segment = .error e)) ∧
      ((s.pool.name k).isRoot = false → s.exec (.rename slot (.base segment))
        = s.exec (.rename slot (.further ("../" ++ Segment.escape segment)))) := by
  refine ⟨?_, ?_, ?_, ?_⟩
  · intro n segment limits hroot
    exact withBase_eq_extend hroot segment limits
  · intro n segment limits m h
    exact withBase_ok h
  · intro n segment limits hroot
    unfold withBase
    rw [hroot]
    rfl
  · intro s h slot k segment hk
    have hbase : Renaming.apply s.pool k (.base segment)
        = s.pool.rename k fun n => n.withBase segment := rfl
    refine ⟨h.exec_edit hk hbase, ?_⟩
    intro hroot
    -- the one edit of the name is the other
    have hrename : s.pool.setBase k segment
        = s.pool.addBase k ("../" ++ Segment.escape segment) := by
      unfold Pool.setBase Pool.addBase Pool.rename
      simp only [withBase_eq_extend hroot]
    show s.rename slot (.base segment) = s.rename slot (.further _)
    unfold rename
    rw [hk]
    show some (s.settle (s.pool.setBase k segment)) = some (s.settle (s.pool.addBase k _))
    rw [hrename]

/-- A last segment is replaced by one that means a step back in its plain spelling.  A root has no
last segment, and the key of a root keeps its name. -/
theorem base_is_escaped_dots :
    Name.extend ⟨.user, ["a", "b"]⟩ ("../" ++ Segment.escape "..") .small
      = .ok ⟨.user, ["a", ".."]⟩ ∧
    parse (canonical ⟨.user, ["a", ".."]⟩) .small = .ok ⟨.user, ["a", ".."]⟩ ∧
    withBase ⟨.user, []⟩ "b" = .error (.invalidName "user" .rootOnly) ∧
    ∃ s, Session.execAll {} [.build "key" "user" []] = some s ∧
      ∃ e, s.exec (.rename "key" (.base "b")) = some (.failed e, s) := by
  obtain ⟨hequal, hok, hroot, hkey⟩ := base_is_escaped
  have hbase : withBase ⟨.user, ["a", "b"]⟩ ".." .small = .ok ⟨.user, ["a", ".."]⟩ := by
    decide +kernel
  obtain ⟨-, -, -, -, hread⟩ := hok _ _ _ _ hbase
  have hrun : (Session.execAll {} [.build "key" "user" []]).map
      (fun s => (s.keys.get? "key", s.pool.name ⟨0, {}⟩)) = some (some ⟨0, {}⟩, ⟨.user, []⟩) := by
    decide +kernel
  obtain ⟨s, hs, hfacts⟩ := Option.map_eq_some_iff.mp hrun
  obtain ⟨hget, hname⟩ := Prod.mk.inj hfacts
  refine ⟨(hequal _ _ _ rfl).symm.trans hbase, hread, hroot _ _ _ rfl, s, hs, ?_⟩
  obtain ⟨hdone, -⟩ := hkey s (Reachable.start.execAll hs) "key" ⟨0, {}⟩ "b" hget
  rcases hdone with ⟨s', -, hnew⟩ | ⟨e, hstep, -⟩
  · rw [hname, hroot _ _ _ rfl] at hnew
    cases hnew
  · exact ⟨e, hstep⟩

end Session
end ConfigKeys
