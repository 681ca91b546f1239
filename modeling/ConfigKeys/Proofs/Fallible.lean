/-!
# Runs that may fail

## Main results

* `bind_eq_ok`, `bind_eq_error` — when a run of two steps succeeds, and when it fails.
* `mapError_eq_ok` — a run whose faults are named otherwise succeeds as before.
* `mapM_eq_ok` — what a run over a list computes.
* `foldlM_keeps` — what every step of a run keeps, the run keeps.
-/

namespace ConfigKeys

variable {α β ε : Type}

/-- A run of two steps succeeds when both steps do. -/
theorem bind_eq_ok {x : Except ε α} {f : α → Except ε β} {b : β} :
    (x >>= f) = .ok b ↔ ∃ a, x = .ok a ∧ f a = .ok b := by
  cases x with
  | error e => simp [bind, Except.bind]
  | ok a => simp [bind, Except.bind]

/-- It fails when the first step does, or the second one after it. -/
theorem bind_eq_error {x : Except ε α} {f : α → Except ε β} {e : ε} :
    (x >>= f) = .error e ↔ x = .error e ∨ ∃ a, x = .ok a ∧ f a = .error e := by
  cases x with
  | error e' => simp [bind, Except.bind]
  | ok a => simp [bind, Except.bind]

/-- Naming its faults otherwise lets a run succeed as before. -/
theorem mapError_eq_ok {ε' : Type} {x : Except ε α} {f : ε → ε'} {a : α} :
    x.mapError f = .ok a ↔ x = .ok a := by
  cases x with
  | error e =>
    show Except.error (f e) = _ ↔ _
    simp
  | ok a' =>
    show Except.ok a' = _ ↔ _
    simp

/-- What every step of a run keeps, the run keeps. -/
theorem foldlM_keeps {Q : β → Prop} {f : β → α → Except ε β}
    (hstep : ∀ b a b', Q b → f b a = .ok b' → Q b') (l : List α) {b b' : β} (hb : Q b)
    (hrun : l.foldlM f b = .ok b') : Q b' := by
  induction l generalizing b with
  | nil =>
    cases hrun
    exact hb
  | cons a l ih =>
    rw [List.foldlM_cons, bind_eq_ok] at hrun
    obtain ⟨b₁, hfa, hrest⟩ := hrun
    exact ih (hstep b a b₁ hb hfa) hrest

/-- Where each step that succeeds computes what is known, a run over a list computes it for each
item. -/
theorem mapM_eq_ok {f : α → Except ε β} {g : α → β} {Q : β → Prop}
    (hstep : ∀ a b, f a = .ok b → b = g a ∧ Q b) {l : List α} {l' : List β}
    (h : l.mapM f = .ok l') : l' = l.map g ∧ ∀ b ∈ l', Q b := by
  induction l generalizing l' with
  | nil =>
    cases h
    exact ⟨rfl, fun _ hb => absurd hb List.not_mem_nil⟩
  | cons a l ih =>
    rw [List.mapM_cons, bind_eq_ok] at h
    obtain ⟨b, hb, h⟩ := h
    obtain ⟨rest, hrest, ⟨⟩⟩ := bind_eq_ok.mp h
    obtain ⟨rfl, hQ⟩ := hstep a b hb
    obtain ⟨rfl, hall⟩ := ih hrest
    exact ⟨rfl, List.forall_mem_cons.mpr ⟨hQ, hall⟩⟩

end ConfigKeys
