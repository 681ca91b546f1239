import ConfigKeys.Proofs.KeySet.Walk
import ConfigKeys.Proofs.Session.Frame

/-!
# Walks along key sets that change

A host walks along a key set while keys come and go, and while it does whatever else it likes to
other sets.  The walk neither skips nor repeats a key that lasts.

## Main definitions

* `Command.Adds`, `Command.Takes`, `Command.KeepsWalk` — what a host may do to a set along a walk.
* `Session.Walk` — a walk, with the names that it returned and those that lasted.

## Main results

* `Session.Sound.moves_exec` — how the set and the place in it change together.
* `Session.Walk.balance` — a lasting name was returned as often as it lies behind the place.
* `Session.Walk.neither_skips_nor_repeats` — what a walk returns.
-/

namespace ConfigKeys

/-- The name of what hosts are shown. -/
def KeyView.name : KeyView → Name
  | .mk name _ _ _ => name

theorem Pool.name_view (p : Pool) (k : Key) : (p.view k.id).name = p.name k := by
  rw [Pool.view, Pool.name]
  rcases p.nextId with _ | fuel <;> rfl

/-- A name is the least of some names that is above another one, or there is none. -/
def Name.IsLeastAbove (n : Name) (names : List Name) : Option Name → Prop
  | none => ∀ x ∈ names, n.compare x ≠ .lt
  | some x => x ∈ names ∧ n.compare x = .lt ∧
      ∀ y ∈ names, n.compare y = .lt → y = x ∨ x.compare y = .lt

/-- Among names in order, the first one above a name is the least. -/
theorem Name.isLeastAbove_find? {names : List Name} (n : Name)
    (h : names.Pairwise fun a b => a.compare b = .lt) :
    n.IsLeastAbove names (names.find? fun x => n.compare x = .lt) := by
  rcases hfind : names.find? fun x => n.compare x = .lt with _ | x
  · intro x hx hlt
    exact List.find?_eq_none.mp hfind x hx (decide_eq_true hlt)
  · obtain ⟨hlt, before, after, rfl, hbefore⟩ := List.find?_eq_some_iff_append.mp hfind
    refine ⟨List.mem_append_right _ List.mem_cons_self, of_decide_eq_true hlt, ?_⟩
    intro y hy hny
    rcases List.mem_append.mp hy with hy | hy
    · have hnot := hbefore y hy
      rw [decide_eq_true hny] at hnot
      cases hnot
    · rcases List.mem_cons.mp hy with rfl | hy
      · exact .inl rfl
      · exact .inr ((List.pairwise_cons.mp (List.pairwise_append.mp h).2.1).1 y hy)

namespace Command

/-- A command inserts keys into the set in a slot. -/
def Adds (set : String) : Command → Prop
  | .append slot _ | .appendAll slot _ | .extend slot _ => slot = set
  | _ => False

/-- A command takes keys out of the set in a slot. -/
def Takes (set : String) : Command → Prop
  | .remove slot _ _ | .removeKey slot _ _ => slot = set
  | .cut slot _ into => slot = set ∧ into ≠ set
  | _ => False

/-- A command leaves the walk of the set in a slot to go on. -/
def KeepsWalk (set : String) (c : Command) : Prop := c.Adds set ∨ c.Takes set ∨ set ∉ c.sets

end Command

/-- The name of the key that a host is shown. -/
def Reply.name? : Reply → Option Name
  | .key found => found.map KeyView.name
  | _ => none

namespace Session

/-- The names of the set in a slot. -/
def memberNames (s : Session) (slot : String) : List Name :=
  ((s.sets.get? slot).map fun ks => ks.names s.pool).getD []

/-- The name of the key where the walk of the set in a slot is. -/
def currentName (s : Session) (slot : String) : Option Name :=
  (s.sets.get? slot).bind fun ks => ks.current.map s.pool.name

/-- A walk along the set in a slot, from its beginning on: the names that it returned, and the names
that were in the set all the time. -/
inductive Walk (set : String) : Session → List Name → Set Name → Prop
  | rewind {s s' : Session} {reply : Reply} (hreach : s.Reachable)
      (hstep : s.exec (.rewind set) = some (reply, s')) :
      Walk set s' [] { n | n ∈ s'.memberNames set }
  | next {s s' : Session} {returned : List Name} {lasting : Set Name} {into : Option String}
      {reply : Reply} (h : Walk set s returned lasting)
      (hstep : s.exec (.next set into) = some (reply, s')) :
      Walk set s' (returned ++ reply.name?.toList) lasting
  | change {s s' : Session} {returned : List Name} {lasting : Set Name} {c : Command}
      {reply : Reply} (h : Walk set s returned lasting) (hc : c.KeepsWalk set)
      (hstep : s.exec c = some (reply, s')) :
      Walk set s' returned (lasting ∩ { n | n ∈ s'.memberNames set })

/-! ### Steps -/

theorem memberNames_of_get? {s : Session} {slot : String} {ks : KeySet}
    (hget : s.sets.get? slot = some ks) : s.memberNames slot = ks.names s.pool := by
  rw [memberNames, hget, Option.map_some, Option.getD_some]

theorem currentName_of_get? {s : Session} {slot : String} {ks : KeySet}
    (hget : s.sets.get? slot = some ks) :
    s.currentName slot = ks.cursor.item? (ks.names s.pool) := by
  rw [currentName, hget, Option.bind_some, KeySet.current_name]

namespace Sound

variable {s : Session} {set slot : String} {maybe : Option String} {ks ks' : KeySet} {c : Command}
variable {out : Reply × Session}

/-- Members that stay in a set keep their names. -/
theorem names_exec (h : s.Sound [] [] []) (hstep : s.exec c = some out)
    (hks : s.sets.get? slot = some ks) (hks' : out.2.sets.get? slot = some ks')
    (hsub : ∀ k ∈ ks'.toList, k ∈ ks.toList) : ks'.names out.2.pool = ks'.names s.pool :=
  List.map_congr_left fun k hk => h.name_exec hstep
    (h.balanced.locked_of_mem_set (mem_keySets hks) (hsub k hk))
    ((h.exec hstep).exists_of_member hks' hk)

/-- **Keys that come in.** -/
theorem adds_exec (h : s.Sound [] [] []) (hks : s.sets.get? set = some ks) (hc : c.Adds set)
    (hstep : s.exec c = some out) :
    ∃ ks', out.2.sets.get? set = some ks' ∧ KeySet.Grows s.pool ks out.2.pool ks' := by
  have hbal := (h.takeSet hks).balanced
  cases c with
  | append slot key =>
    obtain rfl : slot = set := hc
    obtain ⟨ks₁, hks₁, hstep⟩ := Option.bind_eq_some_iff.mp hstep
    obtain ⟨k, hk, ⟨⟩⟩ := Option.bind_eq_some_iff.mp hstep
    obtain rfl : ks = ks₁ := Option.some.inj (hks.symm.trans hks₁)
    obtain ⟨r, hr⟩ := h.exists_of_key hk
    refine ⟨_, Slots.get?_put_self _ _ _, ?_⟩
    exact KeySet.grows_append (hbal.weaken fun i hi => List.mem_cons_of_mem k.id hi) hr
  | extend slot keys =>
    obtain rfl : slot = set := hc
    obtain ⟨ks₁, hks₁, hstep⟩ := Option.bind_eq_some_iff.mp hstep
    obtain ⟨list, hlist, ⟨⟩⟩ := Option.bind_eq_some_iff.mp hstep
    obtain rfl : ks = ks₁ := Option.some.inj (hks.symm.trans hks₁)
    refine ⟨_, Slots.get?_put_self _ _ _, ?_⟩
    exact KeySet.grows_appendAll hbal (held_of_mapM hlist)
  | appendAll slot source =>
    obtain rfl : slot = set := hc
    obtain ⟨ks₁, hks₁, hstep⟩ := Option.bind_eq_some_iff.mp hstep
    obtain ⟨other, hother, ⟨⟩⟩ := Option.bind_eq_some_iff.mp hstep
    obtain rfl : ks = ks₁ := Option.some.inj (hks.symm.trans hks₁)
    refine ⟨_, Slots.get?_put_self _ _ _, ?_⟩
    rcases source_cases (S := []) hks hother with rfl | hheld
    · -- a set that is appended to itself stays as it is
      have hsame := Pool.Balanced.appendAll_self hbal.ascending_set fun _ hk => hk
      show KeySet.Grows s.pool other (other.appendAll s.pool other.toList).1
        (other.appendAll s.pool other.toList).2
      rw [hsame]
      exact ⟨.refl _ _, List.Subset.refl _⟩
    · exact KeySet.grows_appendAll hbal fun k hk => List.mem_append_left _ (hheld k hk)
  | _ => exact hc.elim

/-- The set after a name was removed. -/
theorem get?_removeName {n : Name} (hks : s.sets.get? set = some ks)
    (hstep : s.removeName set n maybe = some out) :
    out.2.sets.get? set = some (ks.remove s.pool n).2.2 := by
  rw [removeName_eq maybe hks, Option.some.injEq] at hstep
  rw [← hstep, sets_hand]
  exact Slots.get?_put_self _ _ _

/-- Keys that go out of a set leave the others as they were. -/
theorem taken_exec (h : s.Sound [] [] []) (hks : s.sets.get? set = some ks) (hc : c.Takes set)
    (hstep : s.exec c = some out) :
    ∃ ks', out.2.sets.get? set = some ks' ∧ (∀ k ∈ ks'.toList, k ∈ ks.toList) ∧
      KeySet.Thins s.pool ks s.pool ks' := by
  have hasc := h.balanced.ascending _ (mem_keySets hks)
  cases c with
  | remove slot raw into =>
    obtain rfl : slot = set := hc
    have hremove : s.remove slot raw into = some out := hstep
    rw [Session.remove] at hremove
    rcases hn : Name.parse raw with e | n
    · rw [hn] at hremove
      cases hremove
      exact ⟨ks, hks, fun k hk => hk, KeySet.Thins.refl hasc⟩
    · rw [hn] at hremove
      exact ⟨_, get?_removeName hks hremove, fun k hk => KeySet.mem_remove hk,
        KeySet.thins_remove hasc n⟩
  | removeKey slot key into =>
    obtain rfl : slot = set := hc
    obtain ⟨k, -, hremove⟩ := Option.bind_eq_some_iff.mp hstep
    exact ⟨_, get?_removeName hks hremove, fun k hk => KeySet.mem_remove hk,
      KeySet.thins_remove hasc _⟩
  | cut slot key into =>
    obtain ⟨rfl, hinto⟩ := hc
    obtain ⟨ks₁, hks₁, hstep⟩ := Option.bind_eq_some_iff.mp hstep
    obtain ⟨k, -, ⟨⟩⟩ := Option.bind_eq_some_iff.mp hstep
    obtain rfl : ks = ks₁ := Option.some.inj (hks.symm.trans hks₁)
    refine ⟨(ks.cut s.pool (s.pool.name k)).2, ?_, fun k hk => KeySet.mem_cut (.inr hk),
      KeySet.thins_cut hasc _⟩
    exact (Slots.get?_put_of_ne _ _ hinto.symm).trans (Slots.get?_put_self _ _ _)
  | _ => exact hc.elim

/-- **Keys that go out.** -/
theorem takes_exec (h : s.Sound [] [] []) (hks : s.sets.get? set = some ks) (hc : c.Takes set)
    (hstep : s.exec c = some out) :
    ∃ ks', out.2.sets.get? set = some ks' ∧ KeySet.Thins s.pool ks out.2.pool ks' ∧
      ks'.names out.2.pool ⊆ ks.names s.pool := by
  obtain ⟨ks', hks', hsub, hthins⟩ := h.taken_exec hks hc hstep
  have hnames := h.names_exec hstep hks hks' hsub
  refine ⟨ks', hks', ⟨?_, ?_⟩, ?_⟩
  · rw [hnames]
    exact hthins.keeps
  · rw [hnames]
    exact hthins.next
  · rw [hnames]
    exact List.map_subset _ hsub

/-- **A walk goes on with the first name ahead.** -/
theorem next_exec (h : s.Sound [] [] []) (hks : s.sets.get? set = some ks)
    (hstep : s.exec (.next set maybe) = some out) :
    out.1.name? = (ks.cursor.ahead (ks.names s.pool)).head? ∧
      out.2.sets.get? set = some ks.next.2 ∧
      ks.next.2.cursor = ks.cursor.advance (ks.names s.pool).length ∧
      ks.next.2.names out.2.pool = ks.names s.pool := by
  obtain ⟨hnext, hcursor, -⟩ := KeySet.next_name s.pool ks
  have hout := hstep
  rw [exec_next hks, Option.some.injEq] at hout
  have hget : out.2.sets.get? set = some ks.next.2 := by
    rw [← hout, sets_fetch]
    exact Slots.get?_put_self _ _ _
  refine ⟨?_, hget, hcursor, h.names_exec hstep hks hget fun k hk => hk⟩
  rw [← hout, ← hnext]
  show (ks.next.1.map fun k => s.pool.view k.id).map KeyView.name = _
  rw [Option.map_map]
  exact congrArg (fun f => ks.next.1.map f) (funext fun k => s.pool.name_view k)

/-- **The set and the place in it change together.** -/
theorem moves_exec (h : s.Sound [] [] []) (hks : s.sets.get? set = some ks)
    (hc : c.KeepsWalk set) (hstep : s.exec c = some out) :
    ∃ ks', out.2.sets.get? set = some ks' ∧
      ks.cursor.Keeps (ks.names s.pool) ks'.cursor (ks'.names out.2.pool) ∧
      (¬ c.Takes set → ks.names s.pool ⊆ ks'.names out.2.pool) ∧
      ∀ n, ks.cursor.item? (ks.names s.pool) = some n → n ∉ ks'.names out.2.pool →
        (ks'.cursor.ahead (ks'.names out.2.pool)).head?
          = (ks'.names out.2.pool).find? fun x => n.compare x = .lt := by
  have hmem : ∀ n, ks.cursor.item? (ks.names s.pool) = some n → n ∈ ks.names s.pool := by
    intro n hn
    obtain ⟨i, -, hi⟩ := Option.bind_eq_some_iff.mp hn
    exact List.mem_of_getElem? hi
  rcases hc with hc | hc | hc
  · obtain ⟨ks', hks', hgrows⟩ := h.adds_exec hks hc hstep
    exact ⟨ks', hks', hgrows.keeps, fun _ => hgrows.subset,
      fun n hn hout => absurd (hgrows.subset (hmem n hn)) hout⟩
  · obtain ⟨ks', hks', hthins, -⟩ := h.takes_exec hks hc hstep
    exact ⟨ks', hks', hthins.keeps, fun hnot => absurd hc hnot, fun n hn _ => hthins.next n hn⟩
  · have hks' := ((h.stays_exec hstep).sets set hc).trans hks
    have hnames := h.names_exec hstep hks hks' fun k hk => hk
    rw [← hnames] at hmem
    refine ⟨ks, hks', ?_, ?_, ?_⟩
    · rw [hnames]
      exact .refl _ _
    · rw [hnames]
      exact fun _ => List.Subset.refl _
    · rw [← hnames]
      exact fun n hn hout => absurd (hmem n hn) hout

end Sound

/-! ### Runs -/

namespace Walk

variable {set : String} {s s' : Session} {returned : List Name} {lasting : Set Name}

theorem reachable (h : Walk set s returned lasting) : s.Reachable := by
  induction h with
  | rewind hreach hstep => exact .step hreach hstep
  | next _ hstep ih => exact .step ih hstep
  | change _ _ hstep ih => exact .step ih hstep

/-- **A lasting name was returned as often as it lies behind the place**, and the lasting names came
in order. -/
theorem balance (h : Walk set s returned lasting) :
    ∃ ks, s.sets.get? set = some ks ∧ ks.cursor.Within (ks.names s.pool) ∧
      (∀ n ∈ lasting, n ∈ ks.names s.pool ∧
        returned.count n = (ks.cursor.behind (ks.names s.pool)).count n) ∧
      returned.Pairwise fun a b => a ∈ lasting → b ∈ lasting → a.compare b = .lt := by
  induction h with
  | @rewind s _ _ hreach hstep =>
    obtain ⟨ks, hks, ⟨⟩⟩ := Option.bind_eq_some_iff.mp hstep
    have hget : { s with sets := s.sets.put set ks.rewind }.sets.get? set = some ks.rewind :=
      Slots.get?_put_self _ _ _
    refine ⟨ks.rewind, hget, ?_, ?_, .nil⟩
    · intro i hi
      cases hi
    · intro n hn
      exact ⟨(memberNames_of_get? hget) ▸ hn, rfl⟩
  | @next s _ _ _ _ _ hwalk hstep ih =>
    obtain ⟨ks, hks, hwithin, hlasting, horder⟩ := ih
    obtain ⟨hfound, hget, hcursor, hnames⟩ := hwalk.reachable.sound.next_exec hks hstep
    refine ⟨ks.next.2, hget, ?_, ?_, ?_⟩
    · rw [hnames, hcursor]
      exact Cursor.within_advance _ _
    · intro n hn
      rw [hnames, hcursor, Cursor.behind_advance, hfound, List.count_append, List.count_append,
        (hlasting n hn).2]
      exact ⟨(hlasting n hn).1, rfl⟩
    · -- what was returned and lasts lies behind the place, and what is found now was ahead of it
      refine List.pairwise_append.mpr ⟨horder, ?_, ?_⟩
      · rw [hfound]
        rcases (ks.cursor.ahead _).head? with _ | x
        · exact .nil
        · exact List.pairwise_singleton _ _
      · intro a ha b hb halasting _
        have hbehind : a ∈ ks.cursor.behind (ks.names s.pool) := by
          rw [← List.count_pos_iff, ← (hlasting a halasting).2]
          exact List.count_pos_iff.mpr ha
        have hahead : b ∈ ks.cursor.ahead (ks.names s.pool) := by
          rw [hfound, Option.mem_toList] at hb
          exact List.mem_of_mem_head? hb
        have hasc := hwalk.reachable.sound.balanced.ascending _ (Sound.mem_keySets (S := []) hks)
        rw [Pool.Ascending, ← KeySet.names,
          ← ks.cursor.behind_append_ahead (ks.names s.pool)] at hasc
        exact (List.pairwise_append.mp hasc).2.2 a hbehind b hahead
  | change hwalk hc hstep ih =>
    obtain ⟨ks, hks, hwithin, hlasting, horder⟩ := ih
    obtain ⟨ks', hks', hkeeps, -, -⟩ := hwalk.reachable.sound.moves_exec hks hc hstep
    refine ⟨ks', hks', hkeeps.within hwithin, ?_, ?_⟩
    · rintro n ⟨hn, hmem⟩
      obtain ⟨hold, hcount⟩ := hlasting n hn
      have hnew : n ∈ ks'.names _ := (memberNames_of_get? hks') ▸ hmem
      exact ⟨hnew, hcount.trans (hkeeps.count n hold hnew).symm⟩
    · exact horder.imp fun hab ha hb => hab ha.1 hb.1

end Walk

/-! ### The end of a walk -/

/-- At the end a walk finds nothing. -/
theorem next_of_done {s : Session} {set : String} {ks : KeySet} (hks : s.sets.get? set = some ks)
    (hdone : ks.cursor.Done (ks.names s.pool)) (into : Option String) :
    (∃ s', s.exec (.next set into) = some (.key none, s')) ∧
      s.exec (.fetch (.current set) into) = some (.key none, s) := by
  have hnext : ks.next.1 = none := by
    have hname := (KeySet.next_name s.pool ks).1
    rwa [Cursor.ahead_of_done hdone, List.head?_nil, Option.map_eq_none_iff] at hname
  have hcurrent : ks.current = none := by
    have hname := ks.current_name s.pool
    rwa [Cursor.item?_of_done hdone, Option.map_eq_none_iff] at hname
  constructor
  · rw [exec_next hks, hnext]
    exact ⟨_, rfl⟩
  · have hfind : s.find (.current set) = some (.ok none) :=
      Option.bind_eq_some_iff.mpr ⟨ks, hks, by rw [hcurrent]⟩
    exact Option.bind_eq_some_iff.mpr ⟨_, hfind, rfl⟩

/-- **A walk that came to the end stays there.** -/
theorem Runs.done {set : String} {s s' : Session} {ks : KeySet}
    (h : s.Runs (fun _ c => c.KeepsWalk set ∨ ∃ into, c = .next set into) s')
    (hreach : s.Reachable) (hks : s.sets.get? set = some ks)
    (hdone : ks.cursor.Done (ks.names s.pool)) :
    ∃ ks', s'.sets.get? set = some ks' ∧ ks'.cursor.Done (ks'.names s'.pool) := by
  induction h with
  | refl => exact ⟨ks, hks, hdone⟩
  | step hrun hc hstep ih =>
    obtain ⟨ks', hks', hdone'⟩ := ih
    have hsound := (hrun.reachable hreach).sound
    rcases hc with hc | ⟨into, rfl⟩
    · obtain ⟨ks'', hks'', hkeeps, -, -⟩ := hsound.moves_exec hks' hc hstep
      exact ⟨ks'', hks'', hkeeps.done hdone'⟩
    · obtain ⟨-, hget, hcursor, hnames⟩ := hsound.next_exec hks' hstep
      refine ⟨ks'.next.2, hget, ?_⟩
      rw [hnames, hcursor]
      exact Cursor.done_advance (Cursor.ahead_of_done hdone')

/-- **A walk neither skips nor repeats a key that lasts.** -/
theorem Walk.neither_skips_nor_repeats {set : String} {s : Session} {returned : List Name}
    {lasting : Set Name} (h : Walk set s returned lasting) :
    (∃ ks, s.sets.get? set = some ks ∧ ∀ i, ks.cursor.position = some i → i ≤ ks.size) ∧
    (returned.Pairwise fun a b => a ∈ lasting → b ∈ lasting → a.compare b = .lt) ∧
    (∀ n c reply s', s.currentName set = some n → c.KeepsWalk set →
      s.exec c = some (reply, s') →
      ((c.Takes set → n ∈ s'.memberNames set) → s'.currentName set = some n) ∧
      (n ∉ s'.memberNames set → ∀ into, ∃ reply' s'',
        s'.exec (.next set into) = some (reply', s'') ∧
        n.IsLeastAbove (s'.memberNames set) reply'.name?)) ∧
    ∀ into reply s', s.exec (.next set into) = some (reply, s') → reply.name? = none →
      (∀ n ∈ lasting, returned.count n = 1) ∧
      ∀ s'', s'.Runs (fun _ c => c.KeepsWalk set ∨ ∃ into, c = .next set into) s'' → ∀ into,
        (∃ s''', s''.exec (.next set into) = some (.key none, s''')) ∧
        s''.exec (.fetch (.current set) into) = some (.key none, s'') := by
  have hreach := h.reachable
  have hsound := hreach.sound
  obtain ⟨ks, hks, hwithin, hlasting, horder⟩ := h.balance
  refine ⟨⟨ks, hks, ?_⟩, horder, ?_, ?_⟩
  · rw [← ks.size_names s.pool]
    exact hwithin
  · intro n c reply s' hn hc hstep
    obtain ⟨ks', hks', hkeeps, hsubset, hbeyond⟩ := hsound.moves_exec hks hc hstep
    rw [currentName_of_get? hks] at hn
    rw [currentName_of_get? hks', memberNames_of_get? hks']
    constructor
    · intro hstays
      refine hkeeps.item n hn ?_
      by_cases htakes : c.Takes set
      · exact hstays htakes
      · obtain ⟨i, -, hi⟩ := Option.bind_eq_some_iff.mp hn
        exact hsubset htakes (List.mem_of_getElem? hi)
    · intro hgone into
      have hreach' := hreach.step hstep
      obtain ⟨out, hexec⟩ : ∃ out, s'.exec (.next set into) = some out := ⟨_, exec_next hks'⟩
      obtain ⟨hfound, -⟩ := hreach'.sound.next_exec hks' hexec
      refine ⟨out.1, out.2, hexec, ?_⟩
      rw [hfound, hbeyond n hn hgone]
      exact n.isLeastAbove_find?
        (hreach'.sound.balanced.ascending _ (Sound.mem_keySets (S := []) hks'))
  · intro into reply s' hnext hnone
    obtain ⟨hfound, hget, hcursor, hnames⟩ := hsound.next_exec hks hnext
    have hahead : ks.cursor.ahead (ks.names s.pool) = [] :=
      List.head?_eq_none_iff.mp (hfound.symm.trans hnone)
    refine ⟨fun n hn => ?_, fun s'' hrun into => ?_⟩
    · -- nothing is ahead, so that all names lie behind
      have hbehind : ks.cursor.behind (ks.names s.pool) = ks.names s.pool := by
        have hall := ks.cursor.behind_append_ahead (ks.names s.pool)
        rwa [hahead, List.append_nil] at hall
      rw [(hlasting n hn).2, hbehind]
      have hasc := hsound.balanced.ascending _ (Sound.mem_keySets (S := []) hks)
      exact List.count_eq_one_of_mem hasc.distinct (hlasting n hn).1
    · have hdone : ks.next.2.cursor.Done (ks.next.2.names s'.pool) := by
        rw [hnames, hcursor]
        exact Cursor.done_advance hahead
      have hreach' := hreach.step hnext
      obtain ⟨ks', hks', hdone'⟩ := hrun.done hreach' hget hdone
      exact next_of_done hks' hdone' into

/-- Of two keys the first one is removed when the walk is at it.  The walk goes on with the other
one, and comes to the end after it. -/
theorem Walk.neither_skips_nor_repeats_removed :
    ∃ s s' reply a b lasting, Walk "set" s [a, b] lasting ∧ a ∉ lasting ∧ b ∈ lasting ∧
      s.exec (.next "set" none) = some (reply, s') ∧ reply.name? = none ∧
      [a, b].count b = 1 := by
  have hrun : ((Session.execAll {} [.build "first" "user/a" [], .build "other" "user/b" [],
      .collect "set" ["first", "other"]]).bind fun s => (s.exec (.rewind "set")).bind fun o₁ =>
        (o₁.2.exec (.next "set" none)).bind fun o₂ =>
        (o₂.2.exec (.removeKey "set" "first" none)).bind fun o₃ =>
        (o₃.2.exec (.next "set" none)).bind fun o₄ => (o₄.2.exec (.next "set" none)).map fun o₅ =>
          (o₁.2.memberNames "set", o₂.1.name?, o₃.2.memberNames "set", o₄.1.name?, o₅.1.name?))
      = some ([⟨.user, ["a"]⟩, ⟨.user, ["b"]⟩], some ⟨.user, ["a"]⟩,
          [⟨.user, ["b"]⟩], some ⟨.user, ["b"]⟩, none) := by decide +kernel
  obtain ⟨s, hs, hrun⟩ := Option.bind_eq_some_iff.mp hrun
  obtain ⟨o₁, h₁, hrun⟩ := Option.bind_eq_some_iff.mp hrun
  obtain ⟨o₂, h₂, hrun⟩ := Option.bind_eq_some_iff.mp hrun
  obtain ⟨o₃, h₃, hrun⟩ := Option.bind_eq_some_iff.mp hrun
  obtain ⟨o₄, h₄, hrun⟩ := Option.bind_eq_some_iff.mp hrun
  obtain ⟨o₅, h₅, hrun⟩ := Option.map_eq_some_iff.mp hrun
  simp only [Prod.mk.injEq] at hrun
  obtain ⟨hbefore, hfirst, hafter, hother, hend⟩ := hrun
  have hkeeps : (Command.removeKey "set" "first" none).KeepsWalk "set" := .inr (.inl rfl)
  have hwalk := (((Walk.rewind (Reachable.start.execAll hs) h₁).next h₂).change hkeeps h₃).next h₄
  rw [hfirst, hother] at hwalk
  obtain ⟨-, -, -, hdone⟩ := hwalk.neither_skips_nor_repeats
  obtain ⟨honce, -⟩ := hdone none o₅.1 o₅.2 h₅ hend
  have hlasts : (⟨.user, ["b"]⟩ : Name) ∈
      { n | n ∈ o₁.2.memberNames "set" } ∩ { n | n ∈ o₃.2.memberNames "set" } := by
    rw [hbefore, hafter]
    exact ⟨by simp, by simp⟩
  refine ⟨o₄.2, o₅.2, o₅.1, _, _, _, hwalk, ?_, hlasts, h₅, hend, honce _ hlasts⟩
  rw [hafter]
  simp

end Session
end ConfigKeys
