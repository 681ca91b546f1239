import ConfigKeys.Proofs.Session.Warnings

/-!
# Errors and warnings do not meet

Hosts record errors on a key, take them off and add warnings in any order.  Whatever the metadata of
the key is, an error that is recorded is the one that is read, and none is read once it is taken
off; all other entries stay.  The warnings are those that there would be without any error.

## Main definitions

* `Command.ReportsOn` — a command is about the reports of a record.
* `Command.addsWarnings` — it is about warnings.
* `Command.errorAfter` — the error that it leaves.

## Main results

* `Session.Reachable.exec_reports` — a run of such commands beside the one without errors.
* `Session.Reachable.errors_leave_no_trace` — **errors are recorded and taken off without side
  effects.**
-/

namespace ConfigKeys

open Report

namespace Command

/-- A command is about the reports of a record, by whatever handle. -/
inductive ReportsOn (keys : Slots Key) (id : RecordId) : Command → Prop
  | setError {slot : String} {k : Key} (hk : keys.get? slot = some k) (hid : k.id = id)
      (r : Report) : ReportsOn keys id (.setError slot r)
  | clearError {slot : String} {k : Key} (hk : keys.get? slot = some k) (hid : k.id = id) :
      ReportsOn keys id (.clearError slot)
  | addWarnings {slot : String} {k : Key} (hk : keys.get? slot = some k) (hid : k.id = id)
      (new : List Report) : ReportsOn keys id (.addWarnings slot new)

/-- Whether a command adds warnings. -/
def addsWarnings : Command → Bool
  | .addWarnings _ _ => true
  | _ => false

/-- The error that a command on reports leaves. -/
def errorAfter (error : Option Report) : Command → Option Report
  | .setError _ r => some r
  | .clearError _ => none
  | _ => error

end Command

namespace Session

variable {s s' t : Session} {slot : String} {k k' : Key} {c : Command} {calls : List Command}
variable {error : Option Report}

/-! ### One command -/

/-- **An error is recorded**, and nothing else is written. -/
theorem Reachable.exec_setError_spec (h : s.Reachable) (hk : s.keys.get? slot = some k)
    (r : Report) :
    ∃ s', s.exec (.setError slot r) = some (.done, s') ∧ s'.keys = s.keys ∧
      Carries s'.pool k (some r) ∧ WritesError s.pool k s'.pool ∧
      SameWarnings s.pool s'.pool k := by
  have hbal := h.sound.balanced
  obtain ⟨q, hset, hq, hwrites, hcarries⟩ :=
    hbal.setError_spec h.forward (Sound.mem_handleIds hk) r
  have hkeeps := hbal.keepsWarnings_of_writesError hq hwrites
  exact ⟨_, exec_setError hk hset, rfl, hcarries, hwrites, hkeeps.same⟩

/-- **The error is taken off**, and nothing else is written. -/
theorem Reachable.exec_clearError_spec (h : s.Reachable) (hk : s.keys.get? slot = some k) :
    ∃ s', s.exec (.clearError slot) = some (.done, s') ∧ s'.keys = s.keys ∧
      Carries s'.pool k none ∧ WritesError s.pool k s'.pool ∧
      s'.pool.entries k = otherEntries s.pool k ∧ SameWarnings s.pool s'.pool k := by
  have hbal := h.sound.balanced
  obtain ⟨q, hclear, hq, hwrites, hentries, hcarries⟩ :=
    hbal.clearError_spec h.forward h.single (Sound.mem_handleIds hk)
  have hkeeps := hbal.keepsWarnings_of_writesError hq hwrites
  exact ⟨_, exec_clearError hk hclear, rfl, hcarries, hwrites, hentries, hkeeps.same⟩

/-- **Warnings are added** here as they are in a session that has the same ones, and the error
stays. -/
theorem Reachable.exec_addWarnings_spec (h : s.Reachable) (ht : t.Reachable)
    (hk : s.keys.get? slot = some k) (hk' : t.keys.get? slot = some k)
    (hsame : SameWarnings s.pool t.pool k) (hcarries : Carries s.pool k error)
    (new : List Report) :
    ∃ indices s' t', s.exec (.addWarnings slot new) = some (.indices indices, s') ∧
      t.exec (.addWarnings slot new) = some (.indices indices, t') ∧ s'.keys = s.keys ∧
      t'.keys = t.keys ∧ Carries s'.pool k error ∧ SameWarnings s'.pool t'.pool k := by
  have hbal := h.sound.balanced
  obtain ⟨indices, p', q', hadd, hadd', hafter, hannotates, hsame'⟩ :=
    hbal.addWarningsAfter_same ht.sound.balanced (Sound.mem_handleIds hk)
      (Sound.mem_handleIds hk') hsame new []
  refine ⟨indices, _, _, exec_addWarnings hk hadd, exec_addWarnings hk' hadd', rfl, rfl, ?_, hsame'⟩
  apply hcarries.annotates hbal hafter hannotates
  intro n hbelow herror
  have hout := Pool.errorNames_outside n herror
  exact Bool.false_ne_true (hout.symm.trans hbelow)

/-- **A command on reports** leaves its error, and changes warnings as it does in a session that has
the same ones and in which nothing is done about errors. -/
theorem Reachable.exec_report (h : s.Reachable) (ht : t.Reachable) (hkeys : t.keys = s.keys)
    (hc : c.ReportsOn s.keys k.id) (hsame : SameWarnings s.pool t.pool k)
    (hcarries : Carries s.pool k error) :
    ∃ reply s' t', s.exec c = some (reply, s') ∧
      t.execAll ([c].filter Command.addsWarnings) = some t' ∧ s'.keys = s.keys ∧
      t'.keys = t.keys ∧ Carries s'.pool k (c.errorAfter error) ∧
      SameWarnings s'.pool t'.pool k := by
  cases hc with
  | setError hk hid r =>
    obtain ⟨s', hstep, hkeys', hcarries', -, hkept⟩ := h.exec_setError_spec hk r
    exact ⟨.done, s', t, hstep, rfl, hkeys', rfl, hcarries'.congr hid,
      (hkept.congr hid).symm.trans hsame⟩
  | clearError hk hid =>
    obtain ⟨s', hstep, hkeys', hcarries', -, -, hkept⟩ := h.exec_clearError_spec hk
    exact ⟨.done, s', t, hstep, rfl, hkeys', rfl, hcarries'.congr hid,
      (hkept.congr hid).symm.trans hsame⟩
  | addWarnings hk hid new =>
    obtain ⟨indices, s', t', hstep, hstep', hkeys', hkeys'', hcarries', hsame'⟩ :=
      h.exec_addWarnings_spec ht hk (hkeys ▸ hk) (hsame.congr hid.symm) (hcarries.congr hid.symm)
        new
    refine ⟨.indices indices, s', t', hstep, ?_, hkeys', hkeys'', hcarries'.congr hid,
      hsame'.congr hid⟩
    rw [List.filter_cons_of_pos rfl, List.filter_nil, Session.execAll, hstep']
    rfl

/-! ### Runs -/

/-- **A run of commands on reports** leaves the error that the last one left, and the warnings of
the run without errors. -/
theorem Reachable.exec_reports (h : s.Reachable) (ht : t.Reachable) (hkeys : t.keys = s.keys)
    (hcalls : ∀ c ∈ calls, c.ReportsOn s.keys k.id) (hsame : SameWarnings s.pool t.pool k)
    (hcarries : Carries s.pool k error) :
    ∃ s' t', s.execAll calls = some s' ∧ t.execAll (calls.filter Command.addsWarnings) = some t' ∧
      Carries s'.pool k (calls.foldl Command.errorAfter error) ∧
      SameWarnings s'.pool t'.pool k := by
  induction calls generalizing s t error with
  | nil => exact ⟨s, t, rfl, rfl, hcarries, hsame⟩
  | cons c calls ih =>
    obtain ⟨hc, hrest⟩ := List.forall_mem_cons.mp hcalls
    obtain ⟨reply, s₁, t₁, hstep, hstep', hkeys₁, hkeys₁', hcarries₁, hsame₁⟩ :=
      h.exec_report ht hkeys hc hsame hcarries
    obtain ⟨s', t', hrun, hrun', hfinal⟩ := ih (h.step hstep) (ht.execAll hstep')
      (hkeys₁'.trans (hkeys.trans hkeys₁.symm)) (hkeys₁ ▸ hrest) hsame₁ hcarries₁
    refine ⟨s', t', ?_, ?_, hfinal⟩
    · rw [Session.execAll, hstep]
      exact hrun
    · rw [← List.singleton_append, List.filter_append, execAll_append, hstep']
      exact hrun'

/-- **Errors leave no trace.**  On any key, whatever its metadata is, to record an error succeeds:
the key then has an error, and it is the one that was recorded; all other entries are the same
records in the same order and say what they said.  To take the error off succeeds: the key then has
no error, and just the other entries are left.  Where there was no error, a key that gets one and
loses it has the entries that it had.  From then on, errors and warnings come and go in any order:
the last command on errors tells the error, and there is one if one is read; and the warnings are
those of the run in which errors are neither recorded nor taken off.  Such a run succeeds, unless
the key begins with the greatest index of a warning: there is no word for the next one, and it is
not said whether a run with warnings then comes to its end. -/
theorem Reachable.errors_leave_no_trace (h : s.Reachable) (hk : s.keys.get? slot = some k) :
    (∀ r, ∃ s', s.exec (.setError slot r) = some (.done, s') ∧ s'.keys = s.keys ∧
      Report.hasError s'.pool k = true ∧ Report.error? s'.pool k = some r ∧
      WritesError s.pool k s'.pool) ∧
    (∃ s', s.exec (.clearError slot) = some (.done, s') ∧ s'.keys = s.keys ∧
      Report.hasError s'.pool k = false ∧ Report.error? s'.pool k = none ∧
      s'.pool.entries k = otherEntries s.pool k ∧ WritesError s.pool k s'.pool) ∧
    ((∀ n ∈ s.pool.metaNames k, n ∉ errorNames) →
      (∀ r, ∃ s', s.execAll [.setError slot r, .clearError slot] = some s' ∧
        s'.pool.entries k = s.pool.entries k ∧ s'.pool.metaTrees k = s.pool.metaTrees k) ∧
      ∀ calls, (∀ c ∈ calls, c.ReportsOn s.keys k.id) →
        (Report.lastWarning? s.pool k ≠ some Report.maxIndex →
          ∃ s', s.execAll calls = some s') ∧
        ∀ s', s.execAll calls = some s' →
          ∃ t, s.execAll (calls.filter Command.addsWarnings) = some t ∧
            Report.error? s'.pool k = calls.foldl Command.errorAfter none ∧
            Report.hasError s'.pool k = (Report.error? s'.pool k).isSome ∧
            Report.warnings s'.pool k = Report.warnings t.pool k) := by
  refine ⟨fun r => ?_, ?_, fun hnone => ⟨fun r => ?_, fun calls hcalls => ?_⟩⟩
  · obtain ⟨s', hstep, hkeys, hcarries, hwrites, -⟩ := h.exec_setError_spec hk r
    exact ⟨s', hstep, hkeys, hcarries.hasError, hcarries.error?, hwrites⟩
  · obtain ⟨s', hstep, hkeys, hcarries, hwrites, hentries, -⟩ := h.exec_clearError_spec hk
    exact ⟨s', hstep, hkeys, hcarries.hasError, hcarries.error?, hentries, hwrites⟩
  · obtain ⟨s₁, hset, hkeys, -, hwrites, -⟩ := h.exec_setError_spec hk r
    obtain ⟨s', hclear, -, -, hwrites', hentries, -⟩ :=
      (h.step hset).exec_clearError_spec (hkeys ▸ hk)
    have hsame : s'.pool.entries k = s.pool.entries k := by
      rw [hentries, hwrites.others, otherEntries_eq hnone]
    refine ⟨s', ?_, hsame, ?_⟩
    · simp only [Session.execAll, hset, hclear, Option.bind_some]
    · rw [Pool.metaTrees, Pool.metaTrees, hsame]
      apply List.map_congr_left
      intro e he
      refine ((hwrites.trans hwrites').unchanged e ?_).2
      rwa [otherEntries_eq hnone]
  · obtain ⟨s', t, hrun, hrun', hcarries, hsame⟩ :=
      h.exec_reports h rfl hcalls (.refl s.pool k) (carries_none hnone)
    refine ⟨fun _ => ⟨s', hrun⟩, fun _ hrun₁ => ?_⟩
    cases hrun.symm.trans hrun₁
    refine ⟨t, hrun', hcarries.error?, ?_, hsame.warnings_eq.symm⟩
    rw [hcarries.hasError, hcarries.error?]

/-- An error comes, a warning after it, and the error goes.  The warning stays, as if there had been
no error. -/
theorem Reachable.errors_leave_no_trace_warned :
    ∃ s s' t, Session.execAll {} [.build "key" "user/a" [.comment "c"]] = some s ∧
      s.execAll [.setError "key" (.resource "m" "gone"), .addWarnings "key" [.validation "m" "odd"],
        .clearError "key"] = some s' ∧
      s.execAll [.addWarnings "key" [.validation "m" "odd"]] = some t ∧
      Report.error? s'.pool ⟨0, {}⟩ = none ∧ Report.hasError s'.pool ⟨0, {}⟩ = false ∧
      Report.warnings s'.pool ⟨0, {}⟩ = Report.warnings t.pool ⟨0, {}⟩ := by
  have hbuild : (Session.execAll {} [.build "key" "user/a" [.comment "c"]]).map (fun s => decide
      (s.keys.get? "key" = some ⟨0, {}⟩ ∧ (∀ n ∈ s.pool.metaNames ⟨0, {}⟩, n ∉ errorNames) ∧
        Report.lastWarning? s.pool ⟨0, {}⟩ = none)) = some true := by
    decide +kernel
  obtain ⟨s, hs, hfacts⟩ := Option.map_eq_some_iff.mp hbuild
  obtain ⟨hk, hnone, hlast⟩ := of_decide_eq_true hfacts
  obtain ⟨-, -, hfree⟩ := (Reachable.start.execAll hs).errors_leave_no_trace hk
  obtain ⟨hsucceeds, hafter⟩ := (hfree hnone).2
    [.setError "key" (.resource "m" "gone"), .addWarnings "key" [.validation "m" "odd"],
      .clearError "key"] (by
    intro c hc
    simp only [List.mem_cons, List.not_mem_nil, or_false] at hc
    rcases hc with rfl | rfl | rfl
    · exact .setError hk rfl _
    · exact .addWarnings hk rfl _
    · exact .clearError hk rfl)
  obtain ⟨s', hrun⟩ := hsucceeds (by rw [hlast]; exact nofun)
  obtain ⟨t, hrun', herror, hhas, hwarnings⟩ := hafter s' hrun
  refine ⟨s, s', t, hs, hrun, hrun', herror, ?_, hwarnings⟩
  rw [hhas, herror]
  rfl

end Session
end ConfigKeys
