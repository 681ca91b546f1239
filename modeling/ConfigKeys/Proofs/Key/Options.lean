import ConfigKeys.Proofs.Key.Draft
import ConfigKeys.Proofs.Key.Entries

/-!
# Options act one by one

A key is made at once from the tree that its options come to.  It could as well be made without
options and then be changed by one option after the other, with the operations that hosts have: the
two fail alike, and say the same.

## Main definitions

* `KeyOption.act`, `Draft.act` — what options do to a key that is there.
* `Pool.assemble` — a key that is made without options and then changed by them.
* `Pool.Steady` — a pool in which keys may be changed.

## Main results

* `Pool.Steady.act_change` — one option does to a key what it does to the tree of the key.
* `Pool.Steady.tree_act` — so does a run of them.
* `Pool.Steady.assemble_eq_build` — **the key that is assembled says what the key says that is
  built.**
-/

namespace ConfigKeys

/-- What an option does to a key. -/
def KeyOption.act (p : Pool) (k : Key) : KeyOption → Except KeyError Pool
  | .text value => .ok (p.setValue k (.ofText value))
  | .binary bytes => .ok (p.setValue k (.ofBytes bytes))
  | .entry name value => p.setMeta k name value
  | .comment value => p.setMeta k "comment" value
  | .stop => .ok p

namespace KeyOption

variable {p : Pool} {k : Key} {o : KeyOption} {entry : String × String}

/-- An option that sets an entry does what hosts do that set it. -/
theorem act_eq_setMeta (h : o.entry? = some entry) : o.act p k = p.setMeta k entry.1 entry.2 := by
  cases o with
  | entry name value =>
    obtain rfl := Option.some.inj h
    rfl
  | comment value =>
    obtain rfl := Option.some.inj h
    rfl
  | _ => cases h

/-- An option with a fault fails with it. -/
theorem act_of_fault? {e : KeyError} (h : o.fault? = some e) : o.act p k = .error e := by
  obtain ⟨entry, hentry, hname⟩ := Option.bind_eq_some_iff.mp h
  rw [act_eq_setMeta hentry, Pool.setMeta]
  cases hn : metaName entry.1 with
  | error e' =>
    rw [hn] at hname
    exact congrArg Except.error (Option.some.inj hname)
  | ok n =>
    rw [hn] at hname
    cases hname

/-- An option that sets an entry has no fault if the entry gets a name. -/
theorem exists_of_fault?_eq_none (hentry : o.entry? = some entry) (h : o.fault? = none) :
    ∃ n, metaName entry.1 = .ok n ∧ o.setting? = some (n, entry.2) := by
  rw [fault?, hentry, Option.bind_some] at h
  rw [setting?, hentry, Option.bind_some]
  cases hn : metaName entry.1 with
  | error e =>
    rw [hn] at h
    cases h
  | ok n => exact ⟨n, rfl, rfl⟩

end KeyOption

/-- What options do to a key, up to the first end mark. -/
def Draft.act (p : Pool) (k : Key) : List KeyOption → Except KeyError Pool
  | [] => .ok p
  | o :: rest => if o = .stop then .ok p else o.act p k >>= fun q => Draft.act q k rest

namespace Pool

/-- Makes a key of the name of a description, with a handle on it, and changes it by the options. -/
def assemble (p : Pool) (d : Draft) : Except KeyError (Key × Pool) := do
  let n ← d.name
  let q ← Draft.act ((p.alloc { name := n }).retain p.nextId) ⟨p.nextId, {}⟩ d.options
  .ok (⟨p.nextId, {}⟩, q)

variable {p q : Pool} {S R : List (List Key)} {P H L : List RecordId} {k : Key} {n : Name}
variable {v : Value} {o : KeyOption}

/-- The counts of a pool balance and its metadata is a forest, so that a key in it may be
changed. -/
structure Steady (S R : List (List Key)) (P H L : List RecordId) (q : Pool) : Prop where
  balanced : q.Balanced S R P H L
  forward : q.Forward
  single : q.Single

theorem Steady.write (h : Steady S R P H L p) (hq : q.Balanced S R P H L)
    (hev : p.Evolves ∅ {k.id} q) : Steady S R P H L q :=
  ⟨hq, hev.forward h.forward, hev.single h.forward h.single⟩

/-- A value that is stored is that of the tree. -/
theorem Steady.tree_setValue (h : Steady S R P H L p) (hk : k.id ∈ H) (v : Value) :
    Steady S R P H L (p.setValue k v) ∧
      (p.setValue k v).tree k.id = .node (p.name k) v (p.metaTrees k) := by
  have hev : p.Evolves ∅ {k.id} (p.setValue k v) := (Evolves.refl ∅ {k.id} p).storeValue rfl v
  have hafter : Steady S R P H L (p.setValue k v) := h.write h.balanced.setValue hev
  refine ⟨hafter, ?_⟩
  obtain ⟨r, hr, -⟩ := h.balanced.exists_of_handle hk
  have hrecord : (p.setValue k v).record k.id = { p.record k.id with value := v } := by
    rw [setValue, record_modify_self _ hr, record_of_find? hr]
  have hentries : (p.setValue k v).entries k = p.entries k := by
    rw [entries, hrecord]
    rfl
  rw [hafter.forward.tree_eq, hrecord]
  refine congrArg (KeyTree.node _ v) (List.map_congr_left fun e he => ?_)
  exact (hafter.balanced.entry_eq hev h.forward he
    (hafter.balanced.exists_of_mem (k := k) (hentries.symm ▸ he))).2

/-- An entry that is set is that of the tree, in the place of its name. -/
theorem Steady.tree_setEntry (h : Steady S R P H L p) (hk : k.id ∈ H) (n : Name) (text : String) :
    Steady S R P H L (p.setEntry k n (.ofText text)) ∧
      (p.setEntry k n (.ofText text)).tree k.id
        = .node (p.name k) (p.value k) (Draft.write (p.metaTrees k) (n, text)) := by
  obtain ⟨o, ho, -⟩ := h.balanced.exists_of_handle hk
  have hev := (Evolves.refl ∅ {k.id} p).setEntry (find?_lt ho) rfl n (.ofText text)
  have hafter := h.write (h.balanced.setEntry hk n (.ofText text)) hev
  have hleaf : (KeyTree.node n (.ofText text) []).Distinct := .leaf n (.ofText text)
  obtain ⟨hreplaces, htree⟩ := h.balanced.replaces_plantEntry h.forward h.single hk hleaf
  have hvalue := (h.balanced.owner_plantEntry hk hleaf).1
  rw [← setEntry_eq] at hreplaces htree hvalue
  obtain ⟨r, hr, -⟩ := hafter.balanced.exists_of_handle hk
  have hname := hev.name_eq (find?_lt ho) (Set.notMem_empty _) ⟨r, hr⟩
  have hmeta := hreplaces.metaTrees
  rw [Option.map_some, htree] at hmeta
  refine ⟨hafter, ?_⟩
  rw [hafter.forward.tree_eq]
  show KeyTree.node (name _ k) (value _ k) (metaTrees _ k) = _
  rw [hname, hvalue, hmeta]
  rfl

/-- An entry that hosts set is that of the tree, if they can write its name. -/
theorem Steady.tree_setMeta {raw : String} (h : Steady S R P H L p) (hk : k.id ∈ H)
    (hn : metaName raw = .ok n) (text : String) :
    ∃ q, p.setMeta k raw text = .ok q ∧ Steady S R P H L q ∧
      q.tree k.id = .node (p.name k) (p.value k) (Draft.write (p.metaTrees k) (n, text)) := by
  refine ⟨p.setEntry k n (.ofText text), ?_, h.tree_setEntry hk n text⟩
  rw [setMeta, hn]

/-- **One option** without a fault does to a key what it does to the tree of the key. -/
theorem Steady.act_change (h : Steady S R P H L p) (hk : k.id ∈ H) (ho : o ≠ .stop)
    (hfault : o.fault? = none) :
    ∃ q, o.act p k = .ok q ∧ Steady S R P H L q ∧
      q.tree k.id = Draft.change (p.tree k.id) o := by
  have htree : p.tree k.id = .node (p.name k) (p.value k) (p.metaTrees k) := h.forward.tree_eq _
  rw [htree]
  cases o with
  | text value => exact ⟨_, rfl, h.tree_setValue hk _⟩
  | binary bytes => exact ⟨_, rfl, h.tree_setValue hk _⟩
  | entry raw text =>
    obtain ⟨n, hn, hsetting⟩ := KeyOption.exists_of_fault?_eq_none rfl hfault
    rw [Draft.change, hsetting]
    exact h.tree_setMeta hk hn text
  | comment text =>
    obtain ⟨n, hn, hsetting⟩ := KeyOption.exists_of_fault?_eq_none rfl hfault
    rw [Draft.change, hsetting]
    exact h.tree_setMeta hk hn text
  | stop => exact absurd rfl ho

/-- **A run of options** does to a key what it does to the tree of the key, and fails alike. -/
theorem Steady.tree_act (h : Steady S R P H L p) (hk : k.id ∈ H) (options : List KeyOption) :
    (Draft.act p k options).map (fun q => q.tree k.id) = Draft.apply (p.tree k.id) options := by
  induction options generalizing p with
  | nil => rfl
  | cons o rest ih =>
    rw [Draft.act]
    by_cases ho : o = .stop
    · subst ho
      rfl
    · rw [if_neg ho, Draft.apply_cons _ ho]
      cases hfault : o.fault? with
      | some e =>
        rw [KeyOption.act_of_fault? hfault]
        rfl
      | none =>
        obtain ⟨q, hact, hq, htree⟩ := h.act_change hk ho hfault
        rw [hact]
        exact (ih hq).trans (by rw [htree])

/-- **The key that is assembled says what the key says that is built**, and the two fail alike.
Only the numbers of their records may differ, since an entry that is set twice takes two of them. -/
theorem Steady.assemble_eq_build (h : Steady S R P H L p) (d : Draft) :
    (p.assemble d).map (fun made => made.2.tree made.1.id)
      = (p.build d).map fun made => made.2.tree made.1.id := by
  rw [assemble, build, Draft.tree]
  cases d.name with
  | error e => rfl
  | ok n =>
    have hfind : (p.alloc { name := n }).find? p.nextId = some { name := n } := by
      rw [find?_alloc, if_pos rfl]
    have hstart : Steady S R P (p.nextId :: H) L ((p.alloc { name := n }).retain p.nextId) := by
      have hev := ((Evolves.refl ∅ {p.nextId} p).alloc (r := { name := n }) rfl).retain p.nextId
      exact ⟨(h.balanced.alloc rfl rfl).retain hfind, hev.forward h.forward,
        hev.single h.forward h.single⟩
    have htree : ((p.alloc { name := n }).retain p.nextId).tree p.nextId = .node n {} [] := by
      rw [hstart.forward.tree_eq, retain, record_modify_self _ hfind]
      rfl
    have hrun := hstart.tree_act (k := ⟨p.nextId, {}⟩) List.mem_cons_self d.options
    rw [htree] at hrun
    show ((Draft.act _ _ d.options) >>= fun q => Except.ok ((⟨p.nextId, {}⟩ : Key), q)).map _
      = ((Draft.apply (.node n {} []) d.options) >>= fun t =>
          Except.ok ((⟨p.nextId, {}⟩ : Key), p.plant t)).map _
    rw [← hrun]
    cases Draft.act ((p.alloc { name := n }).retain p.nextId) ⟨p.nextId, {}⟩ d.options with
    | error e => rfl
    | ok q => exact congrArg Except.ok (tree_plant h.forward _).symm

end Pool
end ConfigKeys
