import ConfigKeys.Proofs.Session.Plugins

/-!
# What a host can reach

A host starts with nothing and carries out one command after the other, in any order.

## Main definitions

* `Session.Reachable` — a run of commands leads to a session.
* `Session.execAll` — the session that a list of commands leads to.

## Main results

* `Session.Sound.exec` — a command keeps a session sound.
* `Session.Reachable.sound` — so does a run of commands.
-/

namespace ConfigKeys

namespace Session

variable {s : Session} {S R : List (List Key)} {L : List RecordId}

theorem mem_of_findNamed {p : Pool} {ks : KeySet} {raw : String} {k : Key}
    (h : findNamed p ks raw = .ok (some k)) : k ∈ ks.toList := by
  rw [findNamed] at h
  rcases hn : Name.parse raw with e | n
  · rw [hn] at h
    cases h
  · rw [hn] at h
    exact KeySet.mem_of_find? (Except.ok.inj h)

theorem mem_of_getElem? {ks : KeySet} {i : Nat} {k : Key} (h : ks.keys[i]? = some k) :
    k ∈ ks.toList := by
  rw [← Array.getElem?_toList] at h
  exact List.mem_of_getElem? h

namespace Sound

/-! ### Fetching -/

/-- What is found is there. -/
theorem exists_of_find {source : KeySource} {k : Key} (h : s.Sound S R L)
    (hfind : s.find source = some (.ok (some k))) : ∃ r, s.pool.find? k.id = some r := by
  cases source with
  | entry key raw =>
    obtain ⟨owner, -, hfind⟩ := Option.bind_eq_some_iff.mp hfind
    have hget : s.pool.meta? owner raw = some k := Except.ok.inj (Option.some.inj hfind)
    rw [Pool.meta?] at hget
    rcases hn : metaName raw with e | n
    · simp [hn] at hget
    · simp only [hn] at hget
      exact h.exists_of_entry (List.mem_of_find?_eq_some hget)
  | registered registry key =>
    obtain ⟨r, hr, hfind⟩ := Option.bind_eq_some_iff.mp hfind
    obtain ⟨k', -, hfind⟩ := Option.bind_eq_some_iff.mp hfind
    have hget := Except.ok.inj (Option.some.inj hfind)
    exact h.exists_of_registered hr (List.mem_of_find?_eq_some hget)
  | registeredAt registry index =>
    obtain ⟨r, hr, hfind⟩ := Option.bind_eq_some_iff.mp hfind
    have hget := Except.ok.inj (Option.some.inj hfind)
    exact h.exists_of_registered hr (List.mem_of_getElem? hget)
  | member set key =>
    obtain ⟨ks, hks, hfind⟩ := Option.bind_eq_some_iff.mp hfind
    obtain ⟨k', -, hfind⟩ := Option.bind_eq_some_iff.mp hfind
    exact h.exists_of_member hks (KeySet.mem_of_find? (Except.ok.inj (Option.some.inj hfind)))
  | named set raw =>
    obtain ⟨ks, hks, hfind⟩ := Option.bind_eq_some_iff.mp hfind
    exact h.exists_of_member hks (mem_of_findNamed (Option.some.inj hfind))
  | memberAt set index =>
    obtain ⟨ks, hks, hfind⟩ := Option.bind_eq_some_iff.mp hfind
    exact h.exists_of_member hks (mem_of_getElem? (Except.ok.inj (Option.some.inj hfind)))
  | first set =>
    obtain ⟨ks, hks, hfind⟩ := Option.bind_eq_some_iff.mp hfind
    exact h.exists_of_member hks (mem_of_getElem? (Except.ok.inj (Option.some.inj hfind)))
  | last set =>
    obtain ⟨ks, hks, hfind⟩ := Option.bind_eq_some_iff.mp hfind
    exact h.exists_of_member hks (mem_of_getElem? (Except.ok.inj (Option.some.inj hfind)))
  | current set =>
    obtain ⟨ks, hks, hfind⟩ := Option.bind_eq_some_iff.mp hfind
    have hget := Except.ok.inj (Option.some.inj hfind)
    exact h.exists_of_member hks (mem_of_item? hget)
  | configured config raw =>
    obtain ⟨c, hc, hfind⟩ := Option.bind_eq_some_iff.mp hfind
    exact h.exists_of_configured hc (mem_of_findNamed (Option.some.inj hfind))

theorem fetchFrom {source : KeySource} {into : Option String} {out : Reply × Session}
    (h : s.Sound S R L) (hstep : s.fetchFrom source into = some out) : out.2.Sound S R L := by
  obtain ⟨result, hfind, hstep⟩ := Option.bind_eq_some_iff.mp hstep
  rcases result with e | found
  · cases hstep
    exact h
  · cases hstep
    exact h.fetch (fun k hk => h.exists_of_find (hk ▸ hfind)) into

/-! ### A step -/

/-- **A command keeps a session sound.** -/
theorem exec {c : Command} {out : Reply × Session} (h : s.Sound S R L)
    (hstep : s.exec c = some out) : out.2.Sound S R L := by
  cases c with
  | build key raw options => exact h.build hstep
  | shareKey key into => exact h.shareKey hstep
  | wrap key into => exact h.wrap hstep
  | copyKey key into => exact h.copyKey hstep
  | forgetKey key => exact h.forgetKey hstep
  | rename key how => exact h.rename hstep
  | setValue key value => exact h.setValue hstep
  | setMeta key raw text => exact h.setMeta hstep
  | removeMeta key raw into => exact h.removeMeta hstep
  | copyMeta key source raw => exact h.copyMeta hstep
  | copyAllMeta key source => exact h.copyAllMeta hstep
  | rewindMeta key => exact h.rewindMeta hstep
  | currentMeta key into => exact h.walkMeta walks_currentMeta hstep
  | nextMeta key into => exact h.walkMeta walks_nextMeta hstep
  | setError key report => exact h.setError hstep
  | clearError key => exact h.clearError hstep
  | addWarnings key reports => exact h.addWarnings hstep
  | newRegistry registry => exact h.newRegistry hstep
  | insertEntry registry key => exact h.insertEntry hstep
  | removeEntry registry key into => exact h.removeEntry hstep
  | dropRegistry registry => exact h.dropRegistry hstep
  | rewindCursor cursor => exact h.rewindCursor hstep
  | currentEntry cursor registry into => exact h.walkRegistry hstep
  | nextEntry cursor registry into => exact h.walkRegistry hstep
  | newSet set => exact h.newSet hstep
  | collect set keys => exact h.collect hstep
  | fill set texts => exact h.fill hstep
  | extend set keys => exact h.extend hstep
  | append set key => exact h.append hstep
  | appendAll set source => exact h.appendAll hstep
  | remove set raw into => exact h.remove hstep
  | removeKey set key into => exact h.removeKey hstep
  | below set key into => exact h.below hstep
  | cut set key into => exact h.cut hstep
  | replace set source => exact h.replace hstep
  | clear set => exact h.clear hstep
  | shareSet set into => exact h.shareSet hstep
  | copySet set into => exact h.copySet hstep
  | dropSet set => exact h.dropSet hstep
  | rewind set => exact h.rewind hstep
  | next set into => exact h.next hstep
  | fetch source into => exact h.fetchFrom hstep
  | configure config source => exact h.configure hstep
  | setConfig config raw text => exact h.setConfig hstep
  | configToSet config set => exact h.configToSet hstep
  | plug plugin kind config => exact h.plug hstep
  | unplug plugin => exact h.unplug hstep
  | run plugin stage set key => exact h.run hstep
  | describe plugin into => exact h.describe hstep

end Sound

/-! ### A run -/

/-- A run of commands, from a session that holds nothing, leads to the session. -/
inductive Reachable : Session → Prop
  | start : Reachable {}
  | step {s s' : Session} {c : Command} {reply : Reply} :
      Reachable s → s.exec c = some (reply, s') → Reachable s'

/-- Carries commands out one after the other. -/
def execAll (s : Session) : List Command → Option Session
  | [] => some s
  | c :: rest => (s.exec c).bind fun out => out.2.execAll rest

theorem execAll_append (s : Session) (first rest : List Command) :
    s.execAll (first ++ rest) = (s.execAll first).bind fun s' => s'.execAll rest := by
  induction first generalizing s with
  | nil => rfl
  | cons c first ih =>
    rw [List.cons_append, execAll, execAll, Option.bind_assoc]
    exact Option.bind_congr fun out _ => ih out.2

theorem Reachable.execAll {s' : Session} {commands : List Command} (h : s.Reachable)
    (hrun : s.execAll commands = some s') : s'.Reachable := by
  induction commands generalizing s with
  | nil =>
    cases hrun
    exact h
  | cons c rest ih =>
    obtain ⟨⟨reply, s₁⟩, hstep, hrest⟩ := Option.bind_eq_some_iff.mp hrun
    exact ih (.step h hstep) hrest

theorem Sound.start : ({} : Session).Sound [] [] [] where
  balanced := .empty
  stored := fun _ hplugin => absurd hplugin List.not_mem_nil

/-- **Every session that a host reaches is sound.** -/
theorem Reachable.sound (h : s.Reachable) : s.Sound [] [] [] := by
  induction h with
  | start => exact .start
  | step _ hstep ih => exact ih.exec hstep

end Session
end ConfigKeys
