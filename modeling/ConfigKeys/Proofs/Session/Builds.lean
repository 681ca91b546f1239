import ConfigKeys.Proofs.Key.Options
import ConfigKeys.Proofs.Session.Copies

/-!
# Keys are what their options describe

Whatever a host says about a new key, the options count up to the first end mark.  A name that cannot
be read, or else the first name of an entry that cannot, is the error, and nothing changes.
Otherwise the key is a new record with the last value, and its metadata is a map that keeps the
order in which names came first and has the texts that came last.

## Main definitions

* `Pool.IsDescribedBy` — a record is what a name and options describe.

## Main results

* `Pool.IsPlanted.isDescribedBy` — what a planted description says.
* `Session.Reachable.assemble_eq_build` — options may as well act one by one.
* `Session.Reachable.options_describe_key` — **options describe the key up to the first end mark.**
-/

namespace ConfigKeys

namespace Pool

variable {p q : Pool} {k e : Key} {t : KeyTree} {n : Name} {options : List KeyOption}

/-- A record is what a name and options describe, of which all count. -/
structure IsDescribedBy (p : Pool) (k : Key) (n : Name) (options : List KeyOption) : Prop where
  /-- It has the name. -/
  name : p.name k = n
  /-- The last value counts, with its flag. -/
  value : p.value k = Draft.lastValue options
  /-- Every name stands where it came first, under whatever spelling. -/
  names : p.metaNames k = ((Draft.settings options).map Prod.fst).eraseDups
  /-- An entry has the text that its name got last. -/
  text : ∀ e ∈ p.entries k, ∃ text,
    Draft.lastText? (Draft.settings options) (p.name e) = some text ∧ p.value e = .ofText text
  /-- An entry has no metadata. -/
  plain : ∀ e ∈ p.entries k, p.entries e = []
  /-- An entry is in one place. -/
  locked : ∀ e ∈ p.entries k, (p.record e.id).locks = 1
  /-- The key is in none. -/
  unlocked : p.isLocked k = false

/-- An entry of what was planted says one of the trees, and is in one place. -/
theorem IsPlanted.entry (h : p.IsPlanted t q k.id) (hq : q.Forward) (he : e ∈ q.entries k) :
    q.tree e.id ∈ t.entries ∧ (q.record e.id).locks = 1 := by
  constructor
  · rw [← h.tree_eq, hq.entries_tree]
    exact List.mem_map_of_mem he
  · exact h.once e.id (Holds.self.entry he) (Nat.ne_of_gt (hq.entry he).1)

/-- **What a planted description says.** -/
theorem IsPlanted.isDescribedBy (h : p.IsPlanted (Draft.described n options) q k.id)
    (hq : q.Forward) : q.IsDescribedBy k n options := by
  -- what an entry says is what its name got
  have hentry : ∀ e ∈ q.entries k,
      q.name e ∈ (Draft.settings options).map Prod.fst ∧
        q.tree e.id = Draft.entryOf (Draft.settings options) (q.name e) := by
    intro e he
    obtain ⟨m, hm, htree⟩ := List.mem_map.mp (h.entry hq he).1
    have hname : m = q.name e := (congrArg KeyTree.name htree).trans (q.name_tree e.id)
    rw [← hname]
    exact ⟨List.mem_eraseDups.mp hm, htree.symm⟩
  refine ⟨?_, ?_, ?_, ?_, ?_, fun e he => (h.entry hq he).2, ?_⟩
  · rw [Pool.name, ← name_tree, h.tree_eq]
    rfl
  · rw [Pool.value, ← hq.value_tree, h.tree_eq]
    rfl
  · rw [← names_metaTrees, ← hq.entries_tree, h.tree_eq, Draft.described, KeyTree.entries,
      List.map_map]
    exact List.map_id _
  · intro e he
    obtain ⟨hm, htree⟩ := hentry e he
    obtain ⟨text, htext⟩ := Draft.exists_lastText hm
    refine ⟨text, htext, ?_⟩
    rw [Pool.value, ← hq.value_tree, htree, Draft.entryOf, htext]
    rfl
  · intro e he
    have hnone := hq.entries_tree e
    rw [(hentry e he).2] at hnone
    exact List.map_eq_nil_iff.mp hnone.symm
  · rw [isLocked, h.unlocked]
    rfl

end Pool

namespace Session

variable {s : Session} {slot raw : String} {options : List KeyOption} {n : Name} {e : KeyError}

/-- A key could as well be made without options, and then be changed by one after the other. -/
theorem Reachable.assemble_eq_build (h : s.Reachable) (d : Draft) :
    (s.pool.assemble d).map (fun made => made.2.tree made.1.id)
      = (s.pool.build d).map fun made => made.2.tree made.1.id :=
  Pool.Steady.assemble_eq_build ⟨h.sound.balanced, h.forward, h.single⟩ d

/-- **Where nothing is at fault**, the key that is described is made, and stands in its slot. -/
theorem Reachable.exec_build (h : s.Reachable) (slot : String) (hname : Name.parse raw = .ok n)
    (hfault : (Draft.counted options).findSome? KeyOption.fault? = none) :
    ∃ s', s.exec (.build slot raw options) = some (.done, s') ∧
      s'.keys = s.keys.put slot ⟨s.pool.nextId, {}⟩ ∧
      s.pool.IsPlanted (Draft.described n (Draft.counted options)) s'.pool s.pool.nextId ∧
      s'.pool.IsDescribedBy ⟨s.pool.nextId, {}⟩ n (Draft.counted options) := by
  have hexec : s.exec (.build slot raw options) = some (.done,
      { s with pool := s.pool.plant (Draft.described n (Draft.counted options)) }.storeKey slot
        ⟨s.pool.nextId, {}⟩) := by
    show s.build slot raw options = _
    rw [Session.build, s.pool.create_eq_ok hname hfault]
  have hafter := h.step hexec
  have hplanted := h.isPlanted_storeKey slot hafter.sound
  exact ⟨_, hexec, rfl, hplanted, hplanted.isDescribedBy (k := ⟨s.pool.nextId, {}⟩) hafter.forward⟩

/-- **Options describe the key up to the first end mark.**  In every session that a host reaches, and
for every text and all options: the key is the same whether the options are given at once or one by
one, and whether or not those after the first end mark are left out.  It is not made just if the
text is not a name, which is the error then, or else if a name of an entry before the first end mark
cannot be read; the first such name is the error then, and nothing changes.  A key that is made is
new at every level, stands in its slot, and is what the options before the first end mark
describe. -/
theorem Reachable.options_describe_key (h : s.Reachable) (slot raw : String)
    (options : List KeyOption) :
    (∀ d, Draft.Collects raw options d → s.pool.build d = s.pool.create raw options) ∧
    s.pool.create raw (Draft.counted options) = s.pool.create raw options ∧
    s.exec (.build slot raw (Draft.counted options)) = s.exec (.build slot raw options) ∧
    (∀ e, s.pool.create raw options = .error e ↔
      Name.parse raw = .error e ∨ ∃ n, Name.parse raw = .ok n ∧
        (Draft.counted options).findSome? KeyOption.fault? = some e) ∧
    (∀ e, s.pool.create raw options = .error e →
      s.exec (.build slot raw options) = some (.failed e, s)) ∧
    ∀ k p, s.pool.create raw options = .ok (k, p) →
      ∃ s' n, Name.parse raw = .ok n ∧ s.exec (.build slot raw options) = some (.done, s') ∧
        s'.keys.get? slot = some k ∧ k = ⟨s.pool.nextId, {}⟩ ∧
        s.pool.IsPlanted (Draft.described n (Draft.counted options)) s'.pool k.id ∧
        s'.pool.IsDescribedBy k n (Draft.counted options) := by
  have hcut := s.pool.create_counted raw options
  refine ⟨fun d => s.pool.build_collects, hcut, ?_, fun e => s.pool.create_eq_error, ?_, ?_⟩
  · show s.build slot raw (Draft.counted options) = s.build slot raw options
    rw [Session.build, Session.build, hcut]
  · intro e hfail
    show s.build slot raw options = _
    rw [Session.build, hfail]
  · intro k p hmade
    cases hname : Name.parse raw with
    | error e =>
      rw [s.pool.create_eq_error.mpr (.inl hname)] at hmade
      cases hmade
    | ok n =>
      cases hfault : (Draft.counted options).findSome? KeyOption.fault? with
      | some e =>
        rw [s.pool.create_eq_error.mpr (.inr ⟨n, hname, hfault⟩)] at hmade
        cases hmade
      | none =>
        obtain ⟨s', hexec, hkeys, hplanted, hsays⟩ := h.exec_build slot hname hfault
        rw [s.pool.create_eq_ok hname hfault] at hmade
        cases hmade
        refine ⟨s', n, rfl, hexec, ?_, rfl, hplanted, hsays⟩
        rw [hkeys, Slots.get?_put_self]

/-- An entry is set under two spellings of its name, a text gives way to bytes, and what stands after
the end mark could not even be read. -/
theorem Reachable.options_describe_key_ended :
    ∃ s', Session.exec {} (.build "key" "user/a" [.entry "mode" "1", .comment "first", .text "a",
        .entry "/x/../mode" "2", .binary [1], .stop, .text "b", .entry "x\\y" "3"])
          = some (.done, s') ∧
      s'.keys.get? "key" = some ⟨0, {}⟩ ∧ s'.pool.value ⟨0, {}⟩ = .ofBytes [1] ∧
      s'.pool.metaNames ⟨0, {}⟩ = [⟨.cascading, ["mode"]⟩, ⟨.cascading, ["comment"]⟩] ∧
      (s'.pool.metaTrees ⟨0, {}⟩).map KeyTree.value = [.ofText "2", .ofText "first"] ∧
      s'.pool.isLocked ⟨0, {}⟩ = false := by
  obtain ⟨-, -, -, -, -, hmade⟩ := Reachable.start.options_describe_key "key" "user/a"
    [.entry "mode" "1", .comment "first", .text "a", .entry "/x/../mode" "2", .binary [1], .stop,
      .text "b", .entry "x\\y" "3"]
  have hname : Name.parse "user/a" = .ok ⟨.user, ["a"]⟩ := by decide +kernel
  obtain ⟨s', n, hn, hexec, hget, -, hplanted, hsays⟩ :=
    hmade _ _ (Pool.create_eq_ok _ hname (by decide +kernel))
  obtain rfl := Except.ok.inj (hname.symm.trans hn)
  have htrees := (Reachable.start.step hexec).forward.entries_tree ⟨0, {}⟩
  refine ⟨s', hexec, hget, hsays.value.trans (by decide), hsays.names.trans ?_, ?_, hsays.unlocked⟩
  · decide +kernel
  · rw [← htrees]
    refine (congrArg (fun t => t.entries.map KeyTree.value) hplanted.tree_eq).trans ?_
    decide +kernel

end Session
end ConfigKeys
