import ConfigKeys.Proofs.Session.Walk

/-!
# The direction of a walk

A walk has no memory of the name that it returned last.  When that key is taken out, the place
steps back to the key before it, and a key that comes in between goes ahead of the place, even when
it is the one that was taken out.  As long as nothing comes into this gap, the walk only goes
forward: what is ahead of the place is above all that was returned.

## Main definitions

* `Name.FillsGap` — keys come in where the key that was returned last was taken out.
* `Cursor.Beyond` — what is ahead of a place is above a name.
* `Session.Course` — a walk, with the answers that it gave and all names that were ever in the set.

## Main results

* `Cursor.Beyond.keeps` — a change that leaves the gap open keeps what is ahead above a name.
* `Session.Course.standing` — where a walk stands after the answers that it gave.
* `Session.Course.only_forward` — what a walk returns ascends, and comes to an end.
-/

namespace ConfigKeys

/-- A change of some names fills the gap that a name left when it was taken out: what comes in is
not above the name, but above all that is left up to it. -/
def Name.FillsGap (r : Name) (before after : List Name) : Prop :=
  ∃ n ∈ after, n ∉ before ∧ r.compare n ≠ .lt ∧
    ∀ m ∈ before, r.compare m ≠ .lt → m.compare n = .lt

/-- A name that is still there left no gap. -/
theorem Name.not_fillsGap_of_mem {r : Name} {before after : List Name} (h : r ∈ before) :
    ¬ r.FillsGap before after := by
  rintro ⟨n, -, -, hnot, hgap⟩
  refine hnot (hgap r h ?_)
  rw [r.compare_self]
  exact nofun

/-- A name that comes in again fills the gap that it left. -/
theorem Name.fillsGap_self {r : Name} {before after : List Name} (h : r ∈ after)
    (hout : r ∉ before) : r.FillsGap before after := by
  refine ⟨r, h, hout, ?_, fun m hm hle => ?_⟩
  · rw [r.compare_self]
    exact nofun
  · have hne : r.compare m ≠ .eq := fun heq => hout (((r.compare_eq_iff m).mp heq) ▸ hm)
    refine (r.compare_gt_iff m).mp ?_
    rcases hcmp : r.compare m with _ | _ | _
    · exact absurd hcmp hle
    · exact absurd hcmp hne
    · rfl

namespace Cursor

variable {c c' : Cursor} {l l' : List Name} {n r : Name}

/-- What is ahead of a place is above a name, and the place is at the name as long as that is
there. -/
structure Beyond (c : Cursor) (l : List Name) (r : Name) : Prop where
  ahead : ∀ n ∈ c.ahead l, r.compare n = .lt
  item : r ∈ l → c.item? l = some r

/-- Where the walk is at a name, what is ahead is above it. -/
theorem beyond_of_item? (h : l.Pairwise fun a b => a.compare b = .lt)
    (hr : c.item? l = some r) : c.Beyond l r where
  ahead n hn := by
    obtain ⟨before, hlast⟩ := behind_of_item? hr
    rw [← c.behind_append_ahead l, hlast] at h
    exact (List.pairwise_append.mp h).2.2 r (List.mem_append_right _ List.mem_cons_self) n hn
  item _ := hr

/-- What stays in a list does not come from behind a place to ahead of it. -/
theorem Keeps.mem_ahead (h : c.Keeps l c' l') (hdist : l'.Nodup) (hn : n ∈ c'.ahead l')
    (hold : n ∈ l) : n ∈ c.ahead l := by
  rw [← c'.behind_append_ahead l'] at hdist
  have hout : n ∉ c'.behind l' := fun hbehind =>
    (List.nodup_append.mp hdist).2.2 n hbehind n hn rfl
  have hin : n ∈ l' := List.mem_of_mem_drop hn
  have hcount := h.count n hold hin
  rw [List.count_eq_zero.mpr hout] at hcount
  rw [← c.behind_append_ahead l] at hold
  exact (List.mem_append.mp hold).resolve_left (List.count_eq_zero.mp hcount.symm)

/-- **A change that leaves the gap open keeps what is ahead above a name.** -/
theorem Beyond.keeps (h : c.Beyond l r) (hkeeps : c.Keeps l c' l')
    (hasc : l'.Pairwise fun a b => a.compare b = .lt) (hway : l ⊆ l' ∨ l' ⊆ l)
    (hgap : ¬ r.FillsGap l l') : c'.Beyond l' r := by
  have hdist : l'.Nodup := hasc.imp Name.ne_of_compare_lt
  by_cases hr : r ∈ l'
  · -- the walk is still at the name
    by_cases hold : r ∈ l
    · exact beyond_of_item? hasc (hkeeps.item r (h.item hold) hr)
    · exact absurd (Name.fillsGap_self hr hold) hgap
  · refine ⟨fun n hn => ?_, fun hin => absurd hin hr⟩
    by_cases hold : n ∈ l
    · exact h.ahead n (hkeeps.mem_ahead hdist hn hold)
    · -- a name that came in, so that all others are still there
      have hin : n ∈ l' := List.mem_of_mem_drop hn
      have hsub : l ⊆ l' := hway.resolve_right fun hsub => hold (hsub hin)
      by_contra hle
      refine hgap ⟨n, hin, hold, hle, fun m hm hmr => ?_⟩
      have hbehind : m ∈ c'.behind l' := by
        have hm' := hsub hm
        rw [← c'.behind_append_ahead l'] at hm'
        exact (List.mem_append.mp hm').resolve_right fun hahead =>
          hmr (h.ahead m (hkeeps.mem_ahead hdist hahead hm))
      rw [← c'.behind_append_ahead l'] at hasc
      exact (List.pairwise_append.mp hasc).2.2 m hbehind n hn

end Cursor

namespace Session

/-- A walk along the set in a slot, from its beginning on, where nothing fills the gap that the name
returned last left: the answers that it gave, and the names that were ever in the set. -/
inductive Course (set : String) : Session → List (Option Name) → Set Name → Prop
  | rewind {s s' : Session} {reply : Reply} (hreach : s.Reachable)
      (hstep : s.exec (.rewind set) = some (reply, s')) :
      Course set s' [] { n | n ∈ s'.memberNames set }
  | next {s s' : Session} {answers : List (Option Name)} {known : Set Name}
      {into : Option String} {reply : Reply} (h : Course set s answers known)
      (hstep : s.exec (.next set into) = some (reply, s')) :
      Course set s' (answers ++ [reply.name?]) known
  | change {s s' : Session} {answers : List (Option Name)} {known : Set Name} {c : Command}
      {reply : Reply} (h : Course set s answers known) (hc : c.KeepsWalk set)
      (hstep : s.exec c = some (reply, s'))
      (hgap : ∀ r, answers.getLast? = some (some r) →
        ¬ r.FillsGap (s.memberNames set) (s'.memberNames set)) :
      Course set s' answers (known ∪ { n | n ∈ s'.memberNames set })

/-- Where a walk stands along some names after the answers that it gave: before the first one, at
the name that it returned last or behind it, or at the end. -/
inductive Standing (c : Cursor) (l : List Name) : List (Option Name) → Prop
  | start : Standing c l []
  | at (returned : List Name) (r : Name)
      (hasc : (returned ++ [r]).Pairwise fun a b => a.compare b = .lt) (hbeyond : c.Beyond l r) :
      Standing c l ((returned ++ [r]).map some)
  | done (returned : List Name) (more : Nat)
      (hasc : returned.Pairwise fun a b => a.compare b = .lt) (hdone : c.Done l) :
      Standing c l (returned.map some ++ List.replicate (more + 1) none)

namespace Standing

variable {c c' : Cursor} {l l' : List Name} {answers : List (Option Name)}

/-- **A walk goes on.** -/
theorem advance (h : Standing c l answers) (hl : l.Pairwise fun a b => a.compare b = .lt) :
    Standing (c.advance l.length) l (answers ++ [(c.ahead l).head?]) := by
  rcases hnext : (c.ahead l).head? with _ | n
  · -- nothing is ahead, and the walk is at the end from now on
    have hdone : (c.advance l.length).Done l :=
      Cursor.done_advance (List.head?_eq_none_iff.mp hnext)
    cases h with
    | start => exact .done [] 0 .nil hdone
    | «at» returned r hasc _ => exact .done (returned ++ [r]) 0 hasc hdone
    | done returned more hasc _ =>
      rw [List.append_assoc, ← List.replicate_succ']
      exact .done returned (more + 1) hasc hdone
  · have hbeyond : (c.advance l.length).Beyond l n :=
      Cursor.beyond_of_item? hl ((c.item?_advance l).trans hnext)
    cases h with
    | start => exact .at [] n (List.pairwise_singleton _ _) hbeyond
    | «at» returned r hasc hold =>
      have hlt : r.compare n = .lt := hold.ahead n (List.mem_of_mem_head? hnext)
      rw [← List.map_singleton, ← List.map_append]
      refine .at (returned ++ [r]) n (List.pairwise_append.mpr ⟨hasc, List.pairwise_singleton _ _,
        fun a ha b hb => ?_⟩) hbeyond
      rw [List.mem_singleton.mp hb]
      rcases List.mem_append.mp ha with ha | ha
      · exact Name.compare_lt_trans
          ((List.pairwise_append.mp hasc).2.2 a ha r List.mem_cons_self) hlt
      · rw [List.mem_singleton.mp ha]
        exact hlt
    | done returned more hasc hdone =>
      rw [Cursor.ahead_of_done hdone] at hnext
      cases hnext

/-- **A change that leaves the gap open** leaves the walk where it stands. -/
theorem keeps (h : Standing c l answers) (hkeeps : c.Keeps l c' l')
    (hl' : l'.Pairwise fun a b => a.compare b = .lt) (hway : l ⊆ l' ∨ l' ⊆ l)
    (hgap : ∀ r, answers.getLast? = some (some r) → ¬ r.FillsGap l l') :
    Standing c' l' answers := by
  cases h with
  | start => exact .start
  | «at» returned r hasc hbeyond =>
    have hlast : ((returned ++ [r]).map some).getLast? = some (some r) := by simp
    exact .at returned r hasc (hbeyond.keeps hkeeps hl' hway (hgap r hlast))
  | done returned more hasc hdone => exact .done returned more hasc (hkeeps.done hdone)

end Standing

/-- The names of a set change in one direction only. -/
theorem Sound.oneway_exec {s : Session} {set : String} {ks ks' : KeySet} {c : Command}
    {out : Reply × Session} (h : s.Sound [] [] []) (hks : s.sets.get? set = some ks)
    (hc : c.KeepsWalk set) (hstep : s.exec c = some out)
    (hks' : out.2.sets.get? set = some ks') :
    ks.names s.pool ⊆ ks'.names out.2.pool ∨ ks'.names out.2.pool ⊆ ks.names s.pool := by
  by_cases htakes : c.Takes set
  · obtain ⟨ks'', hks'', _, hsub⟩ := h.takes_exec hks htakes hstep
    obtain rfl : ks' = ks'' := Option.some.inj (hks'.symm.trans hks'')
    exact .inr hsub
  · obtain ⟨ks'', hks'', -, hsub, _⟩ := h.moves_exec hks hc hstep
    obtain rfl : ks' = ks'' := Option.some.inj (hks'.symm.trans hks'')
    exact .inl (hsub htakes)

namespace Course

variable {set : String} {s : Session} {answers : List (Option Name)} {known : Set Name}

theorem reachable (h : Course set s answers known) : s.Reachable := by
  induction h with
  | rewind hreach hstep => exact .step hreach hstep
  | next _ hstep ih => exact .step ih hstep
  | change _ _ hstep _ ih => exact .step ih hstep

/-- **Where a walk stands** after the answers that it gave. -/
theorem standing (h : Course set s answers known) :
    ∃ ks, s.sets.get? set = some ks ∧ Standing ks.cursor (ks.names s.pool) answers := by
  induction h with
  | @rewind s _ _ _ hstep =>
    obtain ⟨ks, -, ⟨⟩⟩ := Option.bind_eq_some_iff.mp hstep
    exact ⟨ks.rewind, Slots.get?_put_self _ _ _, .start⟩
  | next hcourse hstep ih =>
    obtain ⟨ks, hks, hstanding⟩ := ih
    have hsound := hcourse.reachable.sound
    obtain ⟨hfound, hget, hcursor, hnames⟩ := hsound.next_exec hks hstep
    refine ⟨ks.next.2, hget, ?_⟩
    rw [hnames, hcursor, hfound]
    exact hstanding.advance (hsound.balanced.ascending _ (Sound.mem_keySets (S := []) hks))
  | change hcourse hc hstep hgap ih =>
    obtain ⟨ks, hks, hstanding⟩ := ih
    have hreach := hcourse.reachable
    obtain ⟨ks', hks', hkeeps, -⟩ := hreach.sound.moves_exec hks hc hstep
    rw [memberNames_of_get? hks, memberNames_of_get? hks'] at hgap
    have hasc := (hreach.step hstep).sound.balanced.ascending _ (Sound.mem_keySets (S := []) hks')
    have honeway := hreach.sound.oneway_exec hks hc hstep hks'
    exact ⟨ks', hks', hstanding.keeps hkeeps hasc honeway hgap⟩

/-- All that is in the set is known, and so is all that was returned. -/
theorem knows (h : Course set s answers known) :
    (∀ n ∈ s.memberNames set, n ∈ known) ∧ ∀ n, some n ∈ answers → n ∈ known := by
  induction h with
  | rewind => exact ⟨fun _ hn => hn, nofun⟩
  | next hcourse hstep ih =>
    obtain ⟨ks, hks, -⟩ := hcourse.standing
    obtain ⟨hfound, hget, -, hnames⟩ := hcourse.reachable.sound.next_exec hks hstep
    rw [memberNames_of_get? hks] at ih
    rw [memberNames_of_get? hget, hnames]
    refine ⟨ih.1, fun n hn => ?_⟩
    rcases List.mem_append.mp hn with hn | hn
    · exact ih.2 n hn
    · rw [List.mem_singleton, hfound] at hn
      exact ih.1 n (List.mem_of_mem_drop (List.mem_of_mem_head? hn.symm))
  | change _ _ _ _ ih => exact ⟨fun _ hn => .inr hn, fun n hn => .inl (ih.2 n hn)⟩

/-- **A walk only goes forward.**  As long as nothing comes into the gap that the name returned last
left, the names ascend, they were all in the set, and after the first answer without a name there is
no other one.  So a walk along finitely many names comes to its end. -/
theorem only_forward (h : Course set s answers known) :
    (∃ (returned : List Name) (more : Nat),
      answers = returned.map some ++ List.replicate more none ∧
      (returned.Pairwise fun a b => a.compare b = .lt) ∧ returned.Nodup ∧
      ∀ n ∈ returned, n ∈ known) ∧
    ∀ names : Finset Name, (∀ n ∈ known, n ∈ names) → names.card < answers.length →
      answers.getLast? = some none := by
  obtain ⟨ks, -, hstanding⟩ := h.standing
  obtain ⟨returned, more, hanswers, hasc⟩ : ∃ (returned : List Name) (more : Nat),
      answers = returned.map some ++ List.replicate more none ∧
      returned.Pairwise fun a b => a.compare b = .lt := by
    cases hstanding with
    | start => exact ⟨[], 0, rfl, .nil⟩
    | «at» returned r hasc _ => exact ⟨returned ++ [r], 0, (List.append_nil _).symm, hasc⟩
    | done returned more hasc _ => exact ⟨returned, more + 1, rfl, hasc⟩
  have hdist : returned.Nodup := hasc.imp Name.ne_of_compare_lt
  have hknown : ∀ n ∈ returned, n ∈ known := fun n hn => h.knows.2 n <| by
    rw [hanswers]
    exact List.mem_append_left _ (List.mem_map_of_mem hn)
  refine ⟨⟨returned, more, hanswers, hasc, hdist, hknown⟩, fun names hnames hlt => ?_⟩
  have hle : returned.length ≤ names.card := by
    rw [← List.toFinset_card_of_nodup hdist]
    exact Finset.card_le_card fun n hn => hnames n (hknown n (List.mem_toFinset.mp hn))
  rw [hanswers, List.length_append, List.length_map, List.length_replicate] at hlt
  obtain ⟨more, rfl⟩ : ∃ m, more = m + 1 := ⟨more - 1, by omega⟩
  rw [hanswers, List.replicate_succ', ← List.append_assoc, List.getLast?_concat]

/-- Of two keys the first one is removed when the walk is at it, and one that is above it comes in.
The walk returns the three names in order and comes to the end. -/
theorem only_forward_past_removed :
    ∃ s a b c known, Course "set" s [some a, some b, some c, none] known ∧
      (∃ (returned : List Name) (more : Nat),
        [some a, some b, some c, none] = returned.map some ++ List.replicate more none ∧
        (returned.Pairwise fun x y => x.compare y = .lt) ∧ returned.Nodup ∧
        ∀ n ∈ returned, n ∈ known) ∧
      (∀ n ∈ known, n ∈ ({a, b, c} : Finset Name)) ∧
      [some a, some b, some c, none].getLast? = some none := by
  have hrun : ((Session.execAll {} [.build "first" "user/a" [], .build "other" "user/b" [],
      .build "late" "user/c" [], .collect "set" ["first", "other"]]).bind fun s =>
        (s.exec (.rewind "set")).bind fun o₁ => (o₁.2.exec (.next "set" none)).bind fun o₂ =>
        (o₂.2.exec (.removeKey "set" "first" none)).bind fun o₃ =>
        (o₃.2.exec (.append "set" "late")).bind fun o₄ =>
        (o₄.2.exec (.next "set" none)).bind fun o₅ => (o₅.2.exec (.next "set" none)).bind fun o₆ =>
        (o₆.2.exec (.next "set" none)).map fun o₇ =>
          ([o₁.2, o₂.2, o₃.2, o₄.2].map fun s => s.memberNames "set",
            [o₂, o₅, o₆, o₇].map fun o => o.1.name?))
      = some ([[⟨.user, ["a"]⟩, ⟨.user, ["b"]⟩], [⟨.user, ["a"]⟩, ⟨.user, ["b"]⟩],
            [⟨.user, ["b"]⟩], [⟨.user, ["b"]⟩, ⟨.user, ["c"]⟩]],
          [some ⟨.user, ["a"]⟩, some ⟨.user, ["b"]⟩, some ⟨.user, ["c"]⟩, none]) := by
    decide +kernel
  obtain ⟨s, hs, hrun⟩ := Option.bind_eq_some_iff.mp hrun
  obtain ⟨o₁, h₁, hrun⟩ := Option.bind_eq_some_iff.mp hrun
  obtain ⟨o₂, h₂, hrun⟩ := Option.bind_eq_some_iff.mp hrun
  obtain ⟨o₃, h₃, hrun⟩ := Option.bind_eq_some_iff.mp hrun
  obtain ⟨o₄, h₄, hrun⟩ := Option.bind_eq_some_iff.mp hrun
  obtain ⟨o₅, h₅, hrun⟩ := Option.bind_eq_some_iff.mp hrun
  obtain ⟨o₆, h₆, hrun⟩ := Option.bind_eq_some_iff.mp hrun
  obtain ⟨o₇, h₇, hrun⟩ := Option.map_eq_some_iff.mp hrun
  simp only [List.map_cons, List.map_nil, Prod.mk.injEq, List.cons.injEq] at hrun
  obtain ⟨⟨hm₁, hm₂, hm₃, hm₄, -⟩, ha, hb, hc, hend, -⟩ := hrun
  have htakes : (Command.removeKey "set" "first" none).KeepsWalk "set" := .inr (.inl rfl)
  have hadds : (Command.append "set" "late").KeepsWalk "set" := .inl rfl
  have hlast : ∀ r, ([] ++ [o₂.1.name?]).getLast? = some (some r) → r = ⟨.user, ["a"]⟩ := by
    intro r hr
    rw [ha] at hr
    exact (Option.some.inj (Option.some.inj hr)).symm
  have hcourse := ((((((Course.rewind (Reachable.start.execAll hs) h₁).next h₂).change htakes h₃
    fun r hr => ?_).change hadds h₄ fun r hr => ?_).next h₅).next h₆).next h₇
  · rw [ha, hb, hc, hend] at hcourse
    obtain ⟨hforward, hends⟩ := hcourse.only_forward
    have hknown : ∀ n ∈ { n | n ∈ o₁.2.memberNames "set" } ∪ { n | n ∈ o₃.2.memberNames "set" } ∪
        { n | n ∈ o₄.2.memberNames "set" },
        n ∈ ({⟨.user, ["a"]⟩, ⟨.user, ["b"]⟩, ⟨.user, ["c"]⟩} : Finset Name) := by
      simp only [hm₁, hm₃, hm₄, Set.mem_union, Set.mem_ofPred_eq, List.mem_cons, List.not_mem_nil,
        Finset.mem_insert, Finset.mem_singleton]
      tauto
    exact ⟨_, _, _, _, _, hcourse, hforward, hknown, hends _ hknown (by decide)⟩
  · rw [hm₂, hm₃, hlast r hr]
    exact Name.not_fillsGap_of_mem List.mem_cons_self
  · -- what comes in is above the name that was returned last
    rw [hm₃, hm₄, hlast r hr]
    rintro ⟨n, hn, hout, hnot, -⟩
    rcases List.mem_cons.mp hn with rfl | hn
    · exact hout List.mem_cons_self
    · rw [List.mem_singleton.mp hn] at hnot
      exact hnot (by decide)

end Course

/-- **A walk may return a name again** that was taken out when the walk was at it, if it comes in
again. -/
theorem Walk.returns_again :
    ∃ s n lasting, Walk "set" s [n, n] lasting ∧
      ¬ [n, n].Pairwise fun a b => a.compare b = .lt := by
  have hrun : ((Session.execAll {} [.build "first" "user/a" [], .collect "set" ["first"]]).bind
      fun s => (s.exec (.rewind "set")).bind fun o₁ => (o₁.2.exec (.next "set" none)).bind fun o₂ =>
        (o₂.2.exec (.removeKey "set" "first" none)).bind fun o₃ =>
        (o₃.2.exec (.append "set" "first")).bind fun o₄ =>
        (o₄.2.exec (.next "set" none)).map fun o₅ => (o₂.1.name?, o₅.1.name?))
      = some (some ⟨.user, ["a"]⟩, some ⟨.user, ["a"]⟩) := by decide +kernel
  obtain ⟨s, hs, hrun⟩ := Option.bind_eq_some_iff.mp hrun
  obtain ⟨o₁, h₁, hrun⟩ := Option.bind_eq_some_iff.mp hrun
  obtain ⟨o₂, h₂, hrun⟩ := Option.bind_eq_some_iff.mp hrun
  obtain ⟨o₃, h₃, hrun⟩ := Option.bind_eq_some_iff.mp hrun
  obtain ⟨o₄, h₄, hrun⟩ := Option.bind_eq_some_iff.mp hrun
  obtain ⟨o₅, h₅, hrun⟩ := Option.map_eq_some_iff.mp hrun
  simp only [Prod.mk.injEq] at hrun
  obtain ⟨hfirst, hagain⟩ := hrun
  have htakes : (Command.removeKey "set" "first" none).KeepsWalk "set" := .inr (.inl rfl)
  have hadds : (Command.append "set" "first").KeepsWalk "set" := .inl rfl
  have hwalk := ((((Walk.rewind (Reachable.start.execAll hs) h₁).next h₂).change
    htakes h₃).change hadds h₄).next h₅
  rw [hfirst, hagain] at hwalk
  refine ⟨_, _, _, hwalk, ?_⟩
  rw [List.pairwise_pair, Name.compare_self]
  exact nofun

end Session
end ConfigKeys
