import ConfigKeys.Proofs.Session.Handles
import ConfigKeys.Proofs.Session.Walk

/-!
# Walks along metadata that came to an end

The place of a handle in the metadata of its key is a number, and nothing changes it but steps of
that handle.  A walk that came to an end stands where the metadata ended at that time.  It gives no
entry as long as the metadata does not reach beyond that place; an entry that comes in later may lie
there, and is found.

## Main definitions

* `Session.metaCount` — the number of entries of the key in a slot.
* `Session.Exhausted` — a walk that came to an end, and what it answered since.

## Main results

* `Session.Exhausted.stays_silent` — **as long as the metadata ends at its place, a walk that came
  to an end gives nothing.**
* `Session.walk_wakes_up` — a walk that came to an end and gives entries again.
-/

namespace ConfigKeys

/-! ### Places -/

theorem Cursor.item?_of_position {α : Type} {c : Cursor} {n : Nat} (items : List α)
    (h : c.position = some n) : c.item? items = items[n]? := by
  rw [item?, h, Option.bind_some]

namespace Pool

variable {p : Pool} {k : Key} {n : Nat}

/-- A look at a place that is set leaves the handle there. -/
theorem currentMeta_of_position (p : Pool) (h : k.cursor.position = some n) :
    p.currentMeta k = ((p.entries k)[n]?, k) := by
  have hsettle : k.cursor.settle (p.entries k).length = k.cursor := by
    rw [Cursor.settle, h]
    rfl
  rw [currentMeta, hsettle, Cursor.item?_of_position _ h]

theorem nextMeta_position (p : Pool) (k : Key) :
    (p.nextMeta k).2.cursor.position
      = some (min (match k.cursor.position with | none => 0 | some i => i + 1)
          (p.entries k).length) := rfl

theorem nextMeta_eq_none_iff (p : Pool) (k : Key) :
    (p.nextMeta k).1 = none ↔ (p.nextMeta k).2.cursor.position = some (p.entries k).length := by
  have hitem := Cursor.item?_of_position (p.entries k) (p.nextMeta_position k)
  have hfound : (p.nextMeta k).1 = (p.nextMeta k).2.cursor.item? (p.entries k) := rfl
  rw [hfound, hitem, nextMeta_position, List.getElem?_eq_none_iff, Option.some.injEq]
  omega

/-- **A step from a place finds an entry exactly if there is one behind it.** -/
theorem nextMeta_of_position (p : Pool) (h : k.cursor.position = some n) :
    (p.nextMeta k).1 = none ↔ (p.entries k).length ≤ n + 1 := by
  rw [nextMeta_eq_none_iff, nextMeta_position, h, Option.some.injEq]
  show min (n + 1) (p.entries k).length = (p.entries k).length ↔ _
  omega

end Pool

namespace Session

variable {s s' : Session} {slot : String} {k : Key} {n : Nat} {maybe : Option String}
variable {reply : Reply} {answers : List Reply}

/-- The number of entries in the metadata of the key in a slot. -/
def metaCount (s : Session) (slot : String) : Nat :=
  ((s.keys.get? slot).map fun k => (s.pool.entries k).length).getD 0

/-- The walk of a handle along its metadata came to an end, and after that the host did whatever it
liked but put another handle into the slot or start over.  The number is the place of the walk: how
many entries there were when it last came to an end.  When the host looked at the place, no more
entries were there, and when it went on, one more at most.  The answers are those since the end. -/
inductive Exhausted (slot : String) : Session → Nat → List Reply → Prop
  | ends {s s' : Session} {maybe : Option String} (hreach : s.Reachable)
      (hstep : s.exec (.nextMeta slot maybe) = some (.key none, s')) :
      Exhausted slot s' (s.metaCount slot) []
  | current {s s' : Session} {n : Nat} {answers : List Reply} {maybe : Option String}
      {reply : Reply} (h : Exhausted slot s n answers) (hends : s.metaCount slot ≤ n)
      (hstep : s.exec (.currentMeta slot maybe) = some (reply, s')) :
      Exhausted slot s' n (answers ++ [reply])
  | next {s s' : Session} {n : Nat} {answers : List Reply} {maybe : Option String}
      {reply : Reply} (h : Exhausted slot s n answers) (hends : s.metaCount slot ≤ n + 1)
      (hstep : s.exec (.nextMeta slot maybe) = some (reply, s')) :
      Exhausted slot s' (s.metaCount slot) (answers ++ [reply])
  | other {s s' : Session} {n : Nat} {answers : List Reply} {c : Command} {reply : Reply}
      (h : Exhausted slot s n answers) (hc : slot ∉ c.keys)
      (hstep : s.exec c = some (reply, s')) :
      Exhausted slot s' n answers

/-! ### Steps -/

theorem metaCount_of_get? (hk : s.keys.get? slot = some k) :
    s.metaCount slot = (s.pool.entries k).length := by
  rw [metaCount, hk]
  rfl

/-- Going along the metadata moves the handle, and shows what is found. -/
theorem walkMeta_eq (step : Pool → Key → Option Key × Key) (maybe : Option String)
    (hk : s.keys.get? slot = some k) :
    s.walkMeta slot maybe step
      = some ({ s with keys := s.keys.put slot (step s.pool k).2 }.fetch
          (step s.pool k).1 maybe) := by
  rw [walkMeta, hk]
  rfl

/-- Going along the metadata answers with no entry exactly if none is found, and then only moves the
handle. -/
theorem walkMeta_none (step : Pool → Key → Option Key × Key) (hk : s.keys.get? slot = some k)
    (hstep : s.walkMeta slot maybe step = some (reply, s')) :
    (reply = .key none ↔ (step s.pool k).1 = none) ∧
      ((step s.pool k).1 = none → s'.keys.get? slot = some (step s.pool k).2) := by
  rw [walkMeta_eq step maybe hk, Option.some.injEq] at hstep
  rcases hfound : (step s.pool k).1 with _ | e <;> rw [hfound] at hstep
  · cases hstep
    exact ⟨⟨fun _ => rfl, fun _ => rfl⟩, fun _ => Slots.get?_put_self _ _ _⟩
  · cases hstep
    exact ⟨⟨nofun, nofun⟩, nofun⟩

/-- Where the answer names no entry, none was found. -/
theorem walkMeta_reply (step : Pool → Key → Option Key × Key)
    (hstep : s.walkMeta slot maybe step = some (reply, s')) (hname : reply.name? = none) :
    reply = .key none := by
  obtain ⟨k, hk, -⟩ := Option.bind_eq_some_iff.mp hstep
  rw [walkMeta_eq step maybe hk, Option.some.injEq] at hstep
  cases hstep
  exact congrArg Reply.key (Option.map_eq_none_iff.mp hname)

/-- What a walk answers at a place. -/
theorem walkMeta_of_position (maybe : Option String) (hk : s.keys.get? slot = some k)
    (hposition : k.cursor.position = some n) :
    (∃ reply s', s.exec (.currentMeta slot maybe) = some (reply, s') ∧
      (reply = .key none ↔ s.metaCount slot ≤ n)) ∧
    ∃ reply s', s.exec (.nextMeta slot maybe) = some (reply, s') ∧
      (reply = .key none ↔ s.metaCount slot ≤ n + 1) := by
  rw [metaCount_of_get? hk]
  constructor
  · have hstep := walkMeta_eq Pool.currentMeta maybe hk
    refine ⟨_, _, hstep, (walkMeta_none Pool.currentMeta hk hstep).1.trans ?_⟩
    rw [s.pool.currentMeta_of_position hposition]
    exact List.getElem?_eq_none_iff
  · have hstep := walkMeta_eq Pool.nextMeta maybe hk
    refine ⟨_, _, hstep, (walkMeta_none Pool.nextMeta hk hstep).1.trans ?_⟩
    exact s.pool.nextMeta_of_position hposition

namespace Exhausted

/-- **The handle stands at the place of the walk.** -/
theorem position (h : Exhausted slot s n answers) :
    ∃ k, s.keys.get? slot = some k ∧ k.cursor.position = some n := by
  induction h with
  | @ends s _ maybe _ hstep =>
    obtain ⟨k, hk, -⟩ := Option.bind_eq_some_iff.mp hstep
    obtain ⟨hreply, hget⟩ := walkMeta_none Pool.nextMeta hk hstep
    have hnone := hreply.mp rfl
    refine ⟨_, hget hnone, ?_⟩
    rw [metaCount_of_get? hk]
    exact (s.pool.nextMeta_eq_none_iff k).mp hnone
  | @current s _ n _ maybe _ _ hends hstep ih =>
    obtain ⟨k, hk, hposition⟩ := ih
    obtain ⟨-, hget⟩ := walkMeta_none Pool.currentMeta hk hstep
    rw [metaCount_of_get? hk] at hends
    rw [s.pool.currentMeta_of_position hposition] at hget
    exact ⟨k, hget (List.getElem?_eq_none hends), hposition⟩
  | @next s _ n _ maybe _ _ hends hstep ih =>
    obtain ⟨k, hk, hposition⟩ := ih
    obtain ⟨-, hget⟩ := walkMeta_none Pool.nextMeta hk hstep
    rw [metaCount_of_get? hk] at hends ⊢
    have hnone := (s.pool.nextMeta_of_position hposition).mpr hends
    exact ⟨_, hget hnone, (s.pool.nextMeta_eq_none_iff k).mp hnone⟩
  | other _ hc hstep ih =>
    obtain ⟨k, hk, hposition⟩ := ih
    exact ⟨k, (handle_exec hc hstep).trans hk, hposition⟩

/-- **Nothing was answered since the end.** -/
theorem answers_none (h : Exhausted slot s n answers) : ∀ reply ∈ answers, reply = .key none := by
  induction h with
  | ends => exact fun _ hmem => absurd hmem List.not_mem_nil
  | @current s _ n _ maybe reply h hends hstep ih =>
    obtain ⟨k, hk, hposition⟩ := h.position
    obtain ⟨⟨reply', s', hexec, hreply⟩, -⟩ := walkMeta_of_position maybe hk hposition
    obtain ⟨rfl, rfl⟩ := Prod.mk.inj (Option.some.inj (hstep.symm.trans hexec))
    exact List.forall_mem_append.mpr ⟨ih, List.forall_mem_singleton.mpr (hreply.mpr hends)⟩
  | @next s _ n _ maybe reply h hends hstep ih =>
    obtain ⟨k, hk, hposition⟩ := h.position
    obtain ⟨-, reply', s', hexec, hreply⟩ := walkMeta_of_position maybe hk hposition
    obtain ⟨rfl, rfl⟩ := Prod.mk.inj (Option.some.inj (hstep.symm.trans hexec))
    exact List.forall_mem_append.mpr ⟨ih, List.forall_mem_singleton.mpr (hreply.mpr hends)⟩
  | other _ _ _ ih => exact ih

/-- **A walk that came to an end gives nothing as long as the metadata ends at its place.**  All
that it answered since is that there is no entry, and it goes on to do so exactly if no more entries
are there than the place says, when it looks, or one more at most, when it goes on. -/
theorem stays_silent (h : Exhausted slot s n answers) (maybe : Option String) :
    (∀ reply ∈ answers, reply = .key none) ∧
    (∃ reply s', s.exec (.currentMeta slot maybe) = some (reply, s') ∧
      (reply = .key none ↔ s.metaCount slot ≤ n)) ∧
    ∃ reply s', s.exec (.nextMeta slot maybe) = some (reply, s') ∧
      (reply = .key none ↔ s.metaCount slot ≤ n + 1) := by
  obtain ⟨k, hk, hposition⟩ := h.position
  exact ⟨h.answers_none, walkMeta_of_position maybe hk hposition⟩

/-- The one entry is replaced after the end, which the walk does not notice.  Another one comes in
and lies at the place: a step passes it by, but a look finds it. -/
theorem stays_silent_replaced :
    ∃ s s' reply, Exhausted "key" s 1 [.key none] ∧ s.metaCount "key" = 2 ∧
      (∃ s'', s.exec (.nextMeta "key" none) = some (.key none, s'')) ∧
      s.exec (.currentMeta "key" none) = some (reply, s') ∧ reply ≠ .key none := by
  have hrun : ((Session.execAll {} [.build "key" "user/a" [.entry "x" "1"],
      .nextMeta "key" none]).bind fun s => (s.exec (.nextMeta "key" none)).bind fun o₁ =>
        (o₁.2.exec (.setMeta "key" "x" "2")).bind fun o₂ =>
        (o₂.2.exec (.currentMeta "key" none)).bind fun o₃ =>
        (o₃.2.exec (.setMeta "key" "y" "3")).map fun o₄ =>
          (s.metaCount "key", o₁.1.name?, o₂.2.metaCount "key", o₃.1.name?, o₄.2.metaCount "key"))
      = some (1, none, 1, none, 2) := by decide +kernel
  obtain ⟨s, hs, hrun⟩ := Option.bind_eq_some_iff.mp hrun
  obtain ⟨⟨r₁, s₁⟩, h₁, hrun⟩ := Option.bind_eq_some_iff.mp hrun
  obtain ⟨⟨r₂, s₂⟩, h₂, hrun⟩ := Option.bind_eq_some_iff.mp hrun
  obtain ⟨⟨r₃, s₃⟩, h₃, hrun⟩ := Option.bind_eq_some_iff.mp hrun
  obtain ⟨⟨r₄, s₄⟩, h₄, hrun⟩ := Option.map_eq_some_iff.mp hrun
  simp only [Prod.mk.injEq] at hrun
  obtain ⟨hcount, hend, hreplaced, hlook, hgrown⟩ := hrun
  obtain rfl := walkMeta_reply Pool.nextMeta h₁ hend
  obtain rfl := walkMeta_reply Pool.currentMeta h₃ hlook
  have hwalk := (((ends (Reachable.start.execAll hs) h₁).other (by decide) h₂).current
    (by rw [hreplaced, hcount]) h₃).other (by decide) h₄
  rw [hcount] at hwalk
  obtain ⟨-, ⟨reply, s', hexec, hreply⟩, reply', s'', hexec', hreply'⟩ := hwalk.stays_silent none
  rw [hgrown] at hreply hreply'
  obtain rfl := hreply'.mpr (Nat.le_refl 2)
  exact ⟨s₄, s', reply, hwalk, hgrown, ⟨s'', hexec'⟩, hexec, fun hnone =>
    absurd (hreply.mp hnone) (by decide)⟩

end Exhausted

/-- **A walk that came to an end wakes up.**  Two entries come in after the end; a look at the place
finds the first one, and a step the other. -/
theorem walk_wakes_up :
    ∃ s s₁ s₂ s₃ s₄ looked stepped, Reachable s ∧
      s.exec (.nextMeta "key" none) = some (.key none, s₁) ∧
      s₁.execAll [.setMeta "key" "y" "2", .setMeta "key" "z" "3"] = some s₂ ∧
      s₂.exec (.currentMeta "key" none) = some (looked, s₃) ∧
      looked.name? = some ⟨.cascading, ["y"]⟩ ∧
      s₃.exec (.nextMeta "key" none) = some (stepped, s₄) ∧
      stepped.name? = some ⟨.cascading, ["z"]⟩ := by
  have hrun : ((Session.execAll {} [.build "key" "user/a" [.entry "x" "1"],
      .nextMeta "key" none]).bind fun s => (s.exec (.nextMeta "key" none)).bind fun o₁ =>
        (o₁.2.execAll [.setMeta "key" "y" "2", .setMeta "key" "z" "3"]).bind fun s₂ =>
        (s₂.exec (.currentMeta "key" none)).bind fun o₃ =>
        (o₃.2.exec (.nextMeta "key" none)).map fun o₄ => (o₁.1.name?, o₃.1.name?, o₄.1.name?))
      = some (none, some ⟨.cascading, ["y"]⟩, some ⟨.cascading, ["z"]⟩) := by decide +kernel
  obtain ⟨s, hs, hrun⟩ := Option.bind_eq_some_iff.mp hrun
  obtain ⟨⟨r₁, s₁⟩, h₁, hrun⟩ := Option.bind_eq_some_iff.mp hrun
  obtain ⟨s₂, h₂, hrun⟩ := Option.bind_eq_some_iff.mp hrun
  obtain ⟨⟨looked, s₃⟩, h₃, hrun⟩ := Option.bind_eq_some_iff.mp hrun
  obtain ⟨⟨stepped, s₄⟩, h₄, hrun⟩ := Option.map_eq_some_iff.mp hrun
  simp only [Prod.mk.injEq] at hrun
  obtain ⟨hend, hlooked, hstepped⟩ := hrun
  obtain rfl := walkMeta_reply Pool.nextMeta h₁ hend
  exact ⟨s, s₁, s₂, s₃, s₄, looked, stepped, Reachable.start.execAll hs, h₁, h₂, h₃, hlooked, h₄,
    hstepped⟩

end Session
end ConfigKeys
