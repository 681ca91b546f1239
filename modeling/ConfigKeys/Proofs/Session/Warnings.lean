import ConfigKeys.Proofs.Key.Errors
import ConfigKeys.Proofs.Key.Warnings
import ConfigKeys.Proofs.Session.Metadata

/-!
# Warnings stay a ring

Hosts record errors, take them off and write metadata of any other name between one warning and the
next.  None of that touches the ring, as long as only warnings are written below its place.

## Main definitions

* `Command.SparesWarnings` — a command writes nothing where the warnings of a record are.
* `Session.WarningRun` — a run in which warnings are added to a record, and nothing else is written
  where they are.

## Main results

* `Session.Reachable.keepsWarnings_exec` — a command that spares the ring keeps it.
* `Session.WarningRun.rings` — what a run makes of the ring.
* `Session.Reachable.warnings_are_ring` — **warnings form a ring of the last hundred.**
-/

namespace ConfigKeys

open Report

namespace Pool

variable {p q : Pool} {S R : List (List Key)} {P H L : List RecordId} {k k' : Key} {n : Name}
variable {names : Set Name} {t : Option KeyTree} {raw : String} {reports : List Report}

/-! ### What leaves the ring alone -/

/-- All handles on a record see the same ring. -/
theorem KeepsWarnings.congr (h : p.KeepsWarnings k q) (hid : k.id = k'.id) :
    p.KeepsWarnings k' q := by
  obtain ⟨id, cursor⟩ := k
  obtain ⟨id', cursor'⟩ := k'
  obtain rfl : id = id' := hid
  exact h

/-- To write entries of other names leaves it alone. -/
theorem Balanced.keepsWarnings_of_annotates (h : p.Balanced S R P H L) (hq : q.Balanced S R P H L)
    (hannotates : p.Annotates names k.id q)
    (hout : ∀ n ∈ names, n.isBelowOrSame warningsRoot = false) : p.KeepsWarnings k q := by
  intro raw n hn hbelow
  apply h.metaText?_kept hq hannotates hn
  intro hmem
  rw [hout n hmem] at hbelow
  cases hbelow

/-- So does another entry of another name, or none. -/
theorem Rewrites.keepsWarnings (h : p.Rewrites k n t q)
    (hout : n.isBelowOrSame warningsRoot = false) : p.KeepsWarnings k q := by
  intro raw m hm hbelow
  refine h.text_other raw fun hn => ?_
  obtain rfl : m = n := Except.ok.inj (hm.symm.trans hn)
  rw [hout] at hbelow
  cases hbelow

/-- The text of a name is read off what the entries say. -/
theorem Forward.metaText?_eq (h : p.Forward) (hn : metaName raw = .ok n) :
    p.metaText? k raw = ((p.metaTrees k).find? fun t => decide (t.name = n)).map
      fun t => t.value.text := by
  rw [metaText?, meta?_of_metaName p k hn, Registry.get?, metaTrees, List.find?_map, Option.map_map]
  have hname : (fun t => decide (t.name = n)) ∘ (fun e : Key => p.tree e.id)
      = fun e => decide (p.name e = n) := by
    funext e
    rw [Function.comp_apply, name_tree]
    rfl
  rw [hname]
  exact Option.map_congr fun e _ => h.text_tree e

/-- Metadata that says the same says the same of warnings. -/
theorem Forward.keepsWarnings (h : p.Forward) (hq : q.Forward)
    (htrees : q.metaTrees k = p.metaTrees k) : p.KeepsWarnings k q := by
  intro raw n hn _
  rw [hq.metaText?_eq hn, htrees, h.metaText?_eq hn]

/-! ### Errors -/

/-- Errors are somewhere else than warnings. -/
theorem errorNames_outside : ∀ n ∈ errorNames, n.isBelowOrSame warningsRoot = false := by
  rintro _ (rfl | ⟨field, hfield, rfl⟩)
  · decide
  · revert field
    decide

/-- What writes an error and nothing else leaves the warnings alone. -/
theorem Balanced.keepsWarnings_of_writesError (h : p.Balanced S R P H L)
    (hq : q.Balanced S R P H L) (hwrites : WritesError p k q) : p.KeepsWarnings k q :=
  h.keepsWarnings_of_annotates hq hwrites.annotates errorNames_outside

/-- **To take the error off a key leaves its warnings alone.** -/
theorem Balanced.keepsWarnings_clearError (h : p.Balanced S R P H L) (hp : p.Forward)
    (hsingle : p.Single) (hk : k.id ∈ H) :
    ∃ q, Report.clearError p k = .ok q ∧ p.KeepsWarnings k q := by
  obtain ⟨q, hclear, hq, hwrites, -⟩ := h.clearError_spec hp hsingle hk
  exact ⟨q, hclear, h.keepsWarnings_of_writesError hq hwrites⟩

/-- **To record an error leaves the warnings alone.** -/
theorem Balanced.keepsWarnings_setError (h : p.Balanced S R P H L) (hk : k.id ∈ H) (r : Report) :
    ∃ q, r.setError p k = .ok q ∧ p.KeepsWarnings k q := by
  obtain ⟨q, hset, hq, hannotates, -⟩ := h.error?_setError hk r
  exact ⟨q, hset, h.keepsWarnings_of_annotates hq hannotates errorNames_outside⟩

end Pool

/-! ### Commands -/

/-- A command writes nothing where the warnings of a record are. -/
inductive Command.SparesWarnings (s : Session) (id : RecordId) : Command → Prop
  /-- It rewrites the entry of another name. -/
  | rewrite {c : Command} {n : Name} {t : Option KeyTree} (hc : c.Rewrites s id n t)
      (hout : n.isBelowOrSame warningsRoot = false) : SparesWarnings s id c
  /-- It records an error. -/
  | setError {slot : String} {k : Key} (hk : s.keys.get? slot = some k) (hid : k.id = id)
      (r : Report) : SparesWarnings s id (.setError slot r)
  /-- It takes an error off. -/
  | clearError {slot : String} {k : Key} (hk : s.keys.get? slot = some k) (hid : k.id = id) :
      SparesWarnings s id (.clearError slot)
  /-- It is about other records. -/
  | other {c : Command} (hc : ∀ i, c.Edits s i ∨ c.Renames s i → ¬ s.pool.Holds id i) :
      SparesWarnings s id c

namespace Session

variable {s s' : Session} {slot slot' : String} {k k' : Key} {c : Command} {reply : Reply}
variable {id : RecordId} {r : Report} {reports old new : List Report} {p : Pool}
  {indices : List Nat}

theorem exec_setError (hk : s.keys.get? slot = some k) (hset : r.setError s.pool k = .ok p) :
    s.exec (.setError slot r) = some (.done, { s with pool := p }) := by
  refine Option.bind_eq_some_iff.mpr ⟨k, hk, ?_⟩
  rw [hset]
  rfl

theorem exec_clearError (hk : s.keys.get? slot = some k)
    (hclear : Report.clearError s.pool k = .ok p) :
    s.exec (.clearError slot) = some (.done, { s with pool := p }) := by
  refine Option.bind_eq_some_iff.mpr ⟨k, hk, ?_⟩
  rw [hclear]
  rfl

theorem exec_addWarnings (hk : s.keys.get? slot = some k)
    (hadd : addWarningsAfter s.pool k [] new = .ok (indices, p)) :
    s.exec (.addWarnings slot new) = some (.indices indices, { s with pool := p }) := by
  refine Option.bind_eq_some_iff.mpr ⟨k, hk, ?_⟩
  rw [hadd]

/-- **A command that spares the warnings of a record keeps them.** -/
theorem Reachable.keepsWarnings_exec (h : s.Reachable) (hc : c.SparesWarnings s k.id)
    (hstep : s.exec c = some (reply, s')) (hlt : k.id < s.pool.nextId)
    (hthere : ∃ r, s'.pool.find? k.id = some r) : s.pool.KeepsWarnings k s'.pool := by
  cases hc with
  | rewrite hc hout => exact (h.rewrites_exec hc hstep hthere).keepsWarnings hout
  | setError hk hid r =>
    obtain ⟨q, hset, hkeeps⟩ :=
      h.sound.balanced.keepsWarnings_setError (Sound.mem_handleIds hk) r
    rw [exec_setError hk hset] at hstep
    cases hstep
    exact hkeeps.congr hid
  | clearError hk hid =>
    obtain ⟨q, hclear, hkeeps⟩ :=
      h.sound.balanced.keepsWarnings_clearError h.forward h.single (Sound.mem_handleIds hk)
    rw [exec_clearError hk hclear] at hstep
    cases hstep
    exact hkeeps.congr hid
  | other hc =>
    have hev := (h.sound.stays_exec hstep).pool
    have hforward := (h.step hstep).forward
    have hsame := (h.step hstep).sound.balanced.tree_eq hev h.forward hthere hlt
      fun i hi => ⟨fun hrenames => hc i (.inr hrenames) hi, fun hedits => hc i (.inl hedits) hi⟩
    refine h.forward.keepsWarnings hforward ?_
    rw [← hforward.entries_tree, hsame, h.forward.entries_tree]

/-- **Warnings go to one place after the other**, by whatever handle they are added. -/
theorem Reachable.addWarnings_exec (h : s.Reachable) (hk : s.keys.get? slot = some k)
    (hrings : Rings reports s.pool k) (new : List Report) :
    ∃ s', s.exec (.addWarnings slot new) = some (.indices ((List.range' reports.length
        new.length).map (· % ringSize)), s') ∧ s'.keys = s.keys ∧
      Rings (reports ++ new) s'.pool k := by
  obtain ⟨q, hadd, -, hafter⟩ :=
    h.sound.balanced.addWarningsAfter_spec (Sound.mem_handleIds hk) hrings new []
  exact ⟨_, exec_addWarnings hk hadd, rfl, hafter⟩

/-! ### Runs -/

/-- A run in which warnings are added to a record, and nothing else is written where they are. -/
inductive WarningRun (id : RecordId) : Session → List Report → Session → Prop
  | refl (s : Session) : WarningRun id s [] s
  /-- Warnings are added, by whatever handle. -/
  | warn {s s' s'' : Session} {reports new : List Report} {slot : String} {k : Key} {reply : Reply}
      (hrun : WarningRun id s reports s') (hk : s'.keys.get? slot = some k) (hid : k.id = id)
      (hstep : s'.exec (.addWarnings slot new) = some (reply, s'')) :
      WarningRun id s (reports ++ new) s''
  /-- Something else is done. -/
  | spare {s s' s'' : Session} {reports : List Report} {c : Command} {reply : Reply}
      (hrun : WarningRun id s reports s') (hc : c.SparesWarnings s' id)
      (hstep : s'.exec c = some (reply, s'')) : WarningRun id s reports s''
  /-- A command fails, or only looks. -/
  | idle {s s' : Session} {reports : List Report} {c : Command} {reply : Reply}
      (hrun : WarningRun id s reports s') (hstep : s'.exec c = some (reply, s')) :
      WarningRun id s reports s'

theorem WarningRun.runs (h : WarningRun id s reports s') : s.Runs (fun _ _ => True) s' := by
  induction h with
  | refl => exact .refl _
  | warn _ _ _ hstep ih | spare _ _ hstep ih | idle _ hstep ih => exact .step ih trivial hstep

/-- **What a run makes of a ring**: the warnings that are added come after those that were there. -/
theorem WarningRun.rings (h : WarningRun k.id s reports s') (hs : s.Reachable)
    (hlt : k.id < s.pool.nextId) (hrings : Rings old s.pool k)
    (hthere : ∃ r, s'.pool.find? k.id = some r) : Rings (old ++ reports) s'.pool k := by
  induction h with
  | refl => exact (List.append_nil old).symm ▸ hrings
  | @warn s' s'' reports new slot k' reply hrun hk hid hstep ih =>
    have hreach := hrun.runs.reachable hs
    have hbefore := ih (hid ▸ hreach.sound.exists_of_key hk)
    obtain ⟨_, hexec, -, hafter⟩ := hreach.addWarnings_exec hk (hbefore.congr hid.symm) new
    rw [hexec] at hstep
    cases hstep
    exact List.append_assoc old reports new ▸ hafter.congr hid
  | @spare s' s'' reports c reply hrun hc hstep ih =>
    have hreach := hrun.runs.reachable hs
    have hlt' := Nat.lt_of_lt_of_le hlt (hrun.runs.evolves hs).grows
    obtain ⟨r, hr⟩ := hthere
    obtain ⟨r', hr', -⟩ := (hreach.sound.stays_exec hstep).pool.kept k.id r hlt' hr
    exact (hreach.keepsWarnings_exec hc hstep hlt' ⟨r, hr⟩).rings (ih ⟨r', hr'⟩)
  | idle _ _ ih => exact ih hthere

/-! ### The ring -/

/-- **Warnings form a ring of the last hundred.**  A key has no warnings at first, and then only
warnings are written where they are, while errors are recorded and taken off and other metadata is
written.  Then the ring has the last warnings, each at the place of its number, with all fields;
they are read in this order; and further warnings never fail, go to the places behind the last one
and leave the mark of the last place. -/
theorem Reachable.warnings_are_ring (h : s.Reachable) (hk : s.keys.get? slot = some k)
    (hnone : ∀ n ∈ s.pool.metaNames k, n.isBelowOrSame warningsRoot = false)
    (hrun : WarningRun k.id s reports s') (hk' : s'.keys.get? slot' = some k')
    (hid : k'.id = k.id) :
    Rings reports s'.pool k' ∧
    ((Report.warnings s'.pool k').length = min reports.length 100 ∧
      ∀ j r, reports[j]? = some r → reports.length ≤ j + 100 →
        (Report.warnings s'.pool k')[j % 100]? = some r) ∧
    (∀ new, ∃ s'', s'.exec (.addWarnings slot' new) = some (.indices ((List.range' reports.length
        new.length).map (· % 100)), s'') ∧
      s''.keys = s'.keys ∧ WarningRun k.id s (reports ++ new) s'' ∧
      (s''.pool.metaText? k' "warnings").map String.toList
        = (lastPlace? (reports.length + new.length)).map fun i =>
          ['#', Nat.digitChar (i / 10), Nat.digitChar (i % 10)]) ∧
    (∀ r, ∃ s'', s'.exec (.setError slot' r) = some (.done, s'') ∧ s''.keys = s'.keys ∧
      WarningRun k.id s reports s'') ∧
    ∃ s'', s'.exec (.clearError slot') = some (.done, s'') ∧ s''.keys = s'.keys ∧
      WarningRun k.id s reports s'' := by
  have hreach := hrun.runs.reachable h
  have hbal := hreach.sound.balanced
  have hrings : Rings reports s'.pool k' := by
    have hstart : Rings [] s.pool k := .nil hnone
    have hthere := hreach.sound.exists_of_key hk'
    exact (hrun.rings h (Stays.key_lt h.sound hk) hstart (hid ▸ hthere)).congr hid.symm
  refine ⟨hrings, hrings.warnings, fun new => ?_, fun r => ?_, ?_⟩
  · obtain ⟨s'', hstep, hkeys, hafter⟩ := hreach.addWarnings_exec hk' hrings new
    refine ⟨s'', hstep, hkeys, hrun.warn hk' hid hstep, ?_⟩
    rw [hafter.last, Option.map_map, List.length_append]
    exact Option.map_congr fun i hi => toList_mark i (lt_of_lastPlace? hi)
  · obtain ⟨q, hset, -⟩ := hbal.keepsWarnings_setError (Sound.mem_handleIds hk') r
    have hstep := exec_setError hk' hset
    exact ⟨_, hstep, rfl, hrun.spare (.setError hk' hid r) hstep⟩
  · obtain ⟨q, hclear, -⟩ := hbal.keepsWarnings_clearError hreach.forward hreach.single
      (Sound.mem_handleIds hk')
    have hstep := exec_clearError hk' hclear
    exact ⟨_, hstep, rfl, hrun.spare (.clearError hk' hid) hstep⟩

/-- After a hundred and one warnings, one error and its end, the last warning is in front. -/
theorem Reachable.warnings_are_ring_wrapped :
    let reports := (List.range 101).map fun i => Report.validation "m" (toString i)
    ∃ s s', Session.execAll {} [.build "key" "user/a" []] = some s ∧
      s.execAll [.addWarnings "key" reports, .setError "key" (.resource "m" "gone"),
        .clearError "key"] = some s' ∧
      (Report.warnings s'.pool ⟨0, {}⟩).length = 100 ∧
      (Report.warnings s'.pool ⟨0, {}⟩)[0]? = some (.validation "m" "100") := by
  intro reports
  have hbuild : (Session.execAll {} [.build "key" "user/a" []]).map (fun s => decide
      (s.keys.get? "key" = some ⟨0, {}⟩ ∧ s.pool.metaNames ⟨0, {}⟩ = [])) = some true := by
    decide +kernel
  obtain ⟨s, hs, hfacts⟩ := Option.map_eq_some_iff.mp hbuild
  obtain ⟨hk, hnames⟩ := of_decide_eq_true hfacts
  have hreach := Reachable.start.execAll hs
  have hnone : ∀ n ∈ s.pool.metaNames ⟨0, {}⟩, n.isBelowOrSame warningsRoot = false := by
    rw [hnames]
    exact fun _ hn => absurd hn List.not_mem_nil
  obtain ⟨s₁, hwarn, hkeys, -⟩ := hreach.addWarnings_exec hk (.nil hnone) reports
  have hk₁ : s₁.keys.get? "key" = some ⟨0, {}⟩ := hkeys ▸ hk
  have hrun₁ := (WarningRun.refl s).warn hk rfl hwarn
  obtain ⟨-, -, -, herror, -⟩ := hreach.warnings_are_ring hk hnone hrun₁ hk₁ rfl
  obtain ⟨s₂, hset, hkeys₂, hrun₂⟩ := herror (.resource "m" "gone")
  have hk₂ : s₂.keys.get? "key" = some ⟨0, {}⟩ := hkeys₂ ▸ hk₁
  obtain ⟨-, -, -, -, s₃, hclear, hkeys₃, hrun₃⟩ :=
    hreach.warnings_are_ring hk hnone hrun₂ hk₂ rfl
  have hk₃ : s₃.keys.get? "key" = some ⟨0, {}⟩ := hkeys₃ ▸ hk₂
  obtain ⟨-, ⟨hlength, hplaces⟩, -⟩ := hreach.warnings_are_ring hk hnone hrun₃ hk₃ rfl
  refine ⟨s, s₃, hs, ?_, hlength, hplaces 100 _ rfl (Nat.le_of_ble_eq_true rfl)⟩
  simp only [Session.execAll, hwarn, hset, hclear, Option.bind_some]

end Session
end ConfigKeys
