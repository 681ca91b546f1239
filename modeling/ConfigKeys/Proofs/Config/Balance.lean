import ConfigKeys.Config.Basic
import ConfigKeys.Proofs.KeySet.Change

/-!
# Configurations balance

## Main results

* `Pool.Balanced.ofTexts`, `Pool.Balanced.ofTree`, `Pool.Balanced.ofToml` — a set of new keys.
* `Pool.Balanced.setConfig` — a new entry.
-/

namespace ConfigKeys
namespace Pool.Balanced

variable {p : Pool} {S R : List (List Key)} {P H L : List RecordId} {s : KeySet}

/-- A new key with a text goes into a set. -/
theorem appendText (h : p.Balanced (s.toList :: S) R P H L) (n : Name) (v : Value) :
    let done := s.append (p.alloc { name := n, value := v }) ⟨p.nextId, {}⟩
    done.1.Balanced (done.2.toList :: S) R P H L := by
  have hnew := h.alloc (r := { name := n, value := v }) rfl rfl
  exact hnew.append (k := ⟨p.nextId, {}⟩) (by rw [find?_alloc, if_pos rfl])

/-- **A set of new keys balances.** -/
theorem ofTexts (h : p.Balanced S R P H L) (texts : List (Name × String)) :
    (KeySet.ofTexts p texts).1.Balanced ((KeySet.ofTexts p texts).2.toList :: S) R P H L := by
  refine List.foldlRecOn (motive := fun done : Pool × KeySet =>
    done.1.Balanced (done.2.toList :: S) R P H L) texts _ h.newSet ?_
  intro done hdone text _
  exact hdone.appendText text.1 (.ofText text.2)

theorem ofTree {v : Toml.Value} {p' : Pool} {c : Config} (h : p.Balanced S R P H L)
    (hload : Config.ofTree p v = .ok (p', c)) :
    p'.Balanced (c.entries.toList :: S) R P H L := by
  rw [Config.ofTree] at hload
  split at hload
  · cases hload
  · next leaves _ =>
    cases hload
    exact h.ofTexts leaves

theorem ofToml {text : String} {p' : Pool} {c : Config} (h : p.Balanced S R P H L)
    (hload : Config.ofToml p text = .ok (p', c)) :
    p'.Balanced (c.entries.toList :: S) R P H L := by
  rw [Config.ofToml] at hload
  split at hload
  · cases hload
  · exact h.ofTree hload

/-- **A new entry balances.** -/
theorem setConfig {c c' : Config} {raw text : String} {p' : Pool}
    (h : p.Balanced (c.entries.toList :: S) R P H L)
    (hset : c.set p raw text = .ok (p', c')) :
    p'.Balanced (c'.entries.toList :: S) R P H L := by
  rw [Config.set] at hset
  rcases hn : metaName raw with e | n
  · simp [hn] at hset
  · simp only [hn, Except.ok.injEq] at hset
    cases hset
    exact h.appendText n (.ofText text)

end Pool.Balanced
end ConfigKeys
