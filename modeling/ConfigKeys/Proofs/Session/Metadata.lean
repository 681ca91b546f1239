import ConfigKeys.Proofs.Key.Entries
import ConfigKeys.Proofs.Name.Rootless
import ConfigKeys.Proofs.Session.Copies
import ConfigKeys.Proofs.Session.Handles
import ConfigKeys.Proofs.Session.Maps
import ConfigKeys.Proofs.Text.Utf8

/-!
# Metadata under written names

Hosts give the names of metadata as texts.  A text is read as a name, and where it has no root, as a
path below the cascading one; all texts that are read as one name stand for one entry.  To set, to
remove and to copy an entry puts a new record into the place of its name, or none, and leaves the
entries of all other names alone.

## Main definitions

* `Pool.MapsNames` — the entries of a key are a map from names.
* `Pool.Rewrites` — in the metadata of a key, the entry of a name became one that says a tree, or
  went away.
* `Command.Rewrites` — a command asks for that.
* `Session.TakesOut` — a removal hands over the entry of a name.
* `Session.MetaRun` — a run in which the metadata of a record is rewritten step by step.

## Main results

* `Session.Reachable.rewrites_exec` — the commands do what they ask for.
* `Session.MetaRun.metaTrees_eq` — what a run makes of the metadata.
* `Session.Reachable.metadata_is_map` — **metadata is a map that keeps its order.**
-/

namespace ConfigKeys

/-! ### Rewriting one entry -/

theorem upsert_name (n : Name) (l : List Name) :
    upsert (fun m => decide (m = n)) n l = if n ∈ l then l else l ++ [n] := by
  rcases first_cases (fun m => decide (m = n)) l with
    ⟨before, old, after, hl, hold, -, -, hput⟩ | ⟨hall, -, -, hput⟩
  · obtain rfl := of_decide_eq_true hold
    rw [hput, if_pos (by rw [hl]; exact List.mem_append_right _ List.mem_cons_self), hl]
  · rw [hput, if_neg fun hin => of_decide_eq_false (hall n hin) rfl]

/-- The trees with another one, or with none, at the place of a name. -/
def KeyTree.rewrite (ts : List KeyTree) (change : Name × Option KeyTree) : List KeyTree :=
  supplant (fun t => decide (t.name = change.1)) change.2 ts

namespace Pool

variable {p q : Pool} {S R : List (List Key)} {P H H' L L' : List RecordId}
variable {k k' e : Key} {n : Name} {t : Option KeyTree} {raw : String}

/-- The entries of a key are a map from names: each name has one entry at most, which all spellings
of the name find, and no other text finds it. -/
structure MapsNames (p : Pool) (k : Key) : Prop where
  /-- No name comes twice. -/
  nodup : (p.metaNames k).Nodup
  /-- There are as many entries as names. -/
  count : (p.entries k).length = (p.metaNames k).toFinset.card
  /-- A text that is read as a name finds the entry of that name. -/
  found : ∀ raw n, metaName raw = .ok n →
    ∀ e, p.meta? k raw = some e ↔ e ∈ p.entries k ∧ p.name e = n
  /-- It finds one if the name is there. -/
  isSome : ∀ raw n, metaName raw = .ok n → ((p.meta? k raw).isSome = true ↔ n ∈ p.metaNames k)
  /-- A text that is not read as a name finds nothing. -/
  unread : ∀ raw cause, metaName raw = .error cause → p.meta? k raw = none

/-- In the metadata of a key, the entry of a name became one that says a tree, or went away, and
nothing else changed. -/
structure Rewrites (p : Pool) (k : Key) (n : Name) (t : Option KeyTree) (q : Pool) : Prop where
  /-- A new record took the place of the name, or none. -/
  replaces : p.Replaces k n (t.map fun _ => ⟨p.nextId, {}⟩) q
  /-- It says what the tree says. -/
  tree : ∀ t', t = some t' → q.tree p.nextId = t'
  /-- Nothing that belongs to it was there before. -/
  fresh : ∀ i, q.Holds p.nextId i → p.nextId ≤ i
  /-- Every spelling of the name finds its text. -/
  text_self : ∀ raw, metaName raw = .ok n → q.metaText? k raw = t.map fun t' => t'.value.text
  /-- Every other text finds what it found. -/
  text_other : ∀ raw, metaName raw ≠ .ok n → q.metaText? k raw = p.metaText? k raw
  /-- A name that comes in keeps its place, and goes behind all others if it has none. -/
  names_put : t.isSome →
    q.metaNames k = if n ∈ p.metaNames k then p.metaNames k else p.metaNames k ++ [n]
  /-- The others keep their order when a name goes out. -/
  names_erase : t = none → q.metaNames k = (p.metaNames k).erase n
  /-- So do all that the entries say. -/
  trees : q.metaTrees k = KeyTree.rewrite (p.metaTrees k) (n, t)

theorem meta?_of_metaName (p : Pool) (k : Key) (h : metaName raw = .ok n) :
    p.meta? k raw = Registry.get? p (p.entries k) n := by
  rw [meta?, h]

theorem Balanced.mapsNames (h : p.Balanced S R P H L) (k : Key) : p.MapsNames k where
  nodup := h.distinct_entries k
  count := by
    have hcard := List.toFinset_card_of_nodup (h.distinct_entries k)
    rw [List.length_map] at hcard
    exact hcard.symm
  found raw n hn e := by
    rw [meta?_of_metaName p k hn, h.get?_eq_some_iff]
  isSome raw n hn := by
    rw [meta?_of_metaName p k hn, Option.isSome_iff_exists, metaNames, List.mem_map]
    exact exists_congr fun e => h.get?_eq_some_iff
  unread raw cause hn := by rw [meta?, hn]

theorem Forward.text_tree (h : p.Forward) (k : Key) : p.text k = (p.tree k.id).value.text := by
  rw [h.value_tree]
  rfl

/-- **To replace an entry by a new one that says a tree, or by none, rewrites the metadata.** -/
theorem Replaces.rewrites (h : p.Replaces k n (t.map fun _ => ⟨p.nextId, {}⟩) q)
    (hp : p.Balanced S R P H L) (hq : q.Balanced S R P H' L') (hforward : p.Forward)
    (hforward' : q.Forward) (htree : ∀ t', t = some t' → q.tree p.nextId = t') :
    p.Rewrites k n t q := by
  have hnew : (t.map fun _ => (⟨p.nextId, {}⟩ : Key)).map (fun e => q.tree e.id) = t := by
    rcases t with _ | t'
    · rfl
    · exact congrArg some (htree t' rfl)
  have htrees : q.metaTrees k = KeyTree.rewrite (p.metaTrees k) (n, t) := by
    rw [h.metaTrees, hnew]
    rfl
  have hnames : q.metaNames k
      = supplant (fun m => decide (m = n)) (t.map KeyTree.name) (p.metaNames k) := by
    rw [← names_metaTrees, ← names_metaTrees, htrees]
    exact map_supplant KeyTree.name t fun _ _ => rfl
  refine ⟨h, htree, fun i hi => hi.le hforward', ?_, ?_, ?_, ?_, htrees⟩
  · intro raw hn
    rw [metaText?, meta?_of_metaName q k hn, h.get?_self hq]
    rcases t with _ | t'
    · rfl
    · exact congrArg some ((hforward'.text_tree ⟨p.nextId, {}⟩).trans
        (congrArg (fun t => t.value.text) (htree t' rfl)))
  · intro raw hne
    rcases hread : metaName raw with cause | m
    · rw [metaText?, metaText?, meta?, meta?, hread]
      rfl
    · have hother : m ≠ n := fun heq => hne (heq ▸ hread)
      rw [metaText?, metaText?, meta?_of_metaName q k hread, meta?_of_metaName p k hread,
        h.get?_of_ne hp hq hother]
      refine Option.map_congr fun e he => ?_
      obtain ⟨hmem, hname⟩ := hp.get?_eq_some_iff.mp he
      rw [hforward'.text_tree, hforward.text_tree, (h.others e hmem (hname ▸ hother)).2]
  · intro hsome
    obtain ⟨t', rfl⟩ := Option.isSome_iff_exists.mp hsome
    have hname : t'.name = n := by
      rw [← htree t' rfl, name_tree]
      exact h.name _ rfl
    rw [hnames, Option.map_some, hname]
    exact upsert_name n _
  · rintro rfl
    have hsame : (fun m => decide (m = n)) = fun m => n == m := by
      funext m
      rw [beq_eq_decide]
      exact decide_eq_decide.mpr eq_comm
    rw [hnames, List.erase_eq_eraseP, hsame]
    rfl

/-- All handles on a record see the same metadata. -/
theorem Rewrites.congr (h : p.Rewrites k n t q) (hid : k.id = k'.id) : p.Rewrites k' n t q := by
  obtain ⟨id, cursor⟩ := k
  obtain ⟨id', cursor'⟩ := k'
  obtain rfl : id = id' := hid
  exact ⟨⟨h.replaces.places, h.replaces.name, h.replaces.others, h.replaces.released⟩, h.tree,
    h.fresh, h.text_self, h.text_other, h.names_put, h.names_erase, h.trees⟩

end Pool

/-! ### The commands -/

/-- A command asks for another entry of a name in the metadata of a record: for one that says a
tree, or for none. -/
inductive Command.Rewrites (s : Session) (id : RecordId) :
    Command → Name → Option KeyTree → Prop
  | set {slot raw text : String} {k : Key} {n : Name} (hk : s.keys.get? slot = some k)
      (hid : k.id = id) (hn : metaName raw = .ok n) :
      Rewrites s id (.setMeta slot raw text) n (some (.node n (.ofText text) []))
  | remove {slot raw : String} {into : Option String} {k : Key} {n : Name}
      (hk : s.keys.get? slot = some k) (hid : k.id = id) (hn : metaName raw = .ok n) :
      Rewrites s id (.removeMeta slot raw into) n none
  /-- The tree is read before anything changes. -/
  | copy {slot source raw : String} {k k' : Key} {n : Name} (hk : s.keys.get? slot = some k)
      (hid : k.id = id) (hk' : s.keys.get? source = some k') (hn : metaName raw = .ok n) :
      Rewrites s id (.copyMeta slot source raw) n
        ((Registry.get? s.pool (s.pool.entries k') n).map fun e => s.pool.tree e.id)

namespace Session

/-- A run in which the metadata of a record is rewritten, one name after the other, and in which
nothing else is done to it or to what it holds. -/
inductive MetaRun (id : RecordId) : Session → List (Name × Option KeyTree) → Session → Prop
  | refl (s : Session) : MetaRun id s [] s
  /-- An entry is set, removed or copied, by whatever handle. -/
  | rewrite {s s' s'' : Session} {changes : List (Name × Option KeyTree)} {c : Command} {n : Name}
      {t : Option KeyTree} {reply : Reply} (hrun : MetaRun id s changes s')
      (hc : c.Rewrites s' id n t) (hstep : s'.exec c = some (reply, s'')) :
      MetaRun id s (changes ++ [(n, t)]) s''
  /-- Something else is changed. -/
  | other {s s' s'' : Session} {changes : List (Name × Option KeyTree)} {c : Command}
      {reply : Reply} (hrun : MetaRun id s changes s')
      (hc : ∀ i, c.Edits s' i ∨ c.Renames s' i → ¬ s'.pool.Holds id i)
      (hstep : s'.exec c = some (reply, s'')) : MetaRun id s changes s''
  /-- A command fails, or only looks. -/
  | idle {s s' : Session} {changes : List (Name × Option KeyTree)} {c : Command} {reply : Reply}
      (hrun : MetaRun id s changes s') (hstep : s'.exec c = some (reply, s')) :
      MetaRun id s changes s'

variable {s s' : Session} {slot source raw text : String} {into : Option String} {k k' : Key}
variable {n : Name} {t : Option KeyTree} {id : RecordId} {changes : List (Name × Option KeyTree)}
variable {cause : KeyError} {c : Command} {reply : Reply}

theorem exec_setMeta (hk : s.keys.get? slot = some k) (hn : metaName raw = .ok n) (text : String) :
    s.exec (.setMeta slot raw text)
      = some (.done, { s with pool := s.pool.plantEntry k (.node n (.ofText text) []) }) := by
  refine Option.bind_eq_some_iff.mpr ⟨k, hk, ?_⟩
  rw [Pool.setMeta, hn, ← Pool.setEntry_eq]
  rfl

theorem exec_removeMeta (hk : s.keys.get? slot = some k) (hn : metaName raw = .ok n)
    (into : Option String) :
    s.exec (.removeMeta slot raw into) = some ({ s with pool := (s.pool.removeEntry k n).2 }.hand
      (s.pool.removeEntry k n).1 into) := by
  refine Option.bind_eq_some_iff.mpr ⟨k, hk, ?_⟩
  rw [Pool.removeMeta, hn]

theorem exec_copyMeta (hk : s.keys.get? slot = some k) (hk' : s.keys.get? source = some k')
    (hn : metaName raw = .ok n) :
    s.exec (.copyMeta slot source raw) = some (.done, { s with
      pool := match Registry.get? s.pool (s.pool.entries k') n with
        | some e => s.pool.plantEntry k (s.pool.tree e.id)
        | none => Pool.dropHanded (s.pool.removeEntry k n) }) := by
  refine Option.bind_eq_some_iff.mpr ⟨k, hk, Option.bind_eq_some_iff.mpr ⟨k', hk', ?_⟩⟩
  rw [Pool.copyMeta, hn]
  dsimp only
  rcases Registry.get? s.pool (s.pool.entries k') n with _ | e <;> rfl

/-- **What cannot be read as a name changes nothing.** -/
theorem exec_unread (hk : s.keys.get? slot = some k) (hn : metaName raw = .error cause) :
    (∀ text, s.exec (.setMeta slot raw text) = some (.failed cause, s)) ∧
    (∀ into, s.exec (.removeMeta slot raw into) = some (.failed cause, s)) ∧
    ∀ source k', s.keys.get? source = some k' →
      s.exec (.copyMeta slot source raw) = some (.failed cause, s) := by
  refine ⟨fun text => ?_, fun into => ?_, fun source k' hk' => ?_⟩
  · refine Option.bind_eq_some_iff.mpr ⟨k, hk, ?_⟩
    rw [Pool.setMeta, hn]
    rfl
  · refine Option.bind_eq_some_iff.mpr ⟨k, hk, ?_⟩
    rw [Pool.removeMeta, hn]
  · refine Option.bind_eq_some_iff.mpr ⟨k, hk, Option.bind_eq_some_iff.mpr ⟨k', hk', ?_⟩⟩
    rw [Pool.copyMeta, hn]
    rfl

/-- To plant a tree into the metadata of a key rewrites it. -/
theorem Reachable.rewrites_plantEntry {t : KeyTree} (h : s.Reachable)
    (hk : s.keys.get? slot = some k) (ht : t.Distinct) :
    s.pool.Rewrites k t.name (some t) (s.pool.plantEntry k t) := by
  have hbal := h.sound.balanced
  have hmem := Sound.mem_handleIds hk
  obtain ⟨hreplaces, htree⟩ := hbal.replaces_plantEntry h.forward h.single hmem ht
  refine hreplaces.rewrites (t := some t) hbal (hbal.plantEntry hmem ht) h.forward ?_
    fun t' heq => ?_
  · exact ((Pool.Evolves.refl ∅ {k.id} s.pool).plantEntry (Stays.key_lt h.sound hk) rfl t).forward
      h.forward
  · cases heq
    exact htree

/-- To remove an entry from the metadata of a key rewrites it, whatever becomes of the entry. -/
theorem Reachable.rewrites_removeEntry {q : Pool} {H L : List RecordId} (h : s.Reachable)
    (hk : s.keys.get? slot = some k) (hq : q.Balanced s.keySets s.registries.contents [] H L)
    (hev : (s.pool.removeEntry k n).2.Evolves ∅ ∅ q) (hthere : ∃ r, q.find? k.id = some r) :
    s.pool.Rewrites k n none q := by
  have hbal := h.sound.balanced
  have hlt := Stays.key_lt h.sound hk
  have hreplaces := hbal.replaces_removeEntry hq h.forward h.single hlt hev hthere
  refine hreplaces.rewrites (t := none) hbal hq h.forward (hev.forward ?_) nofun
  exact ((Pool.Evolves.refl ∅ {k.id} s.pool).removeEntry rfl n).forward h.forward

theorem keySets_hand (s : Session) (handed : Option Key) (into : Option String) :
    (s.hand handed into).2.keySets = s.keySets := by
  cases handed <;> cases into <;> rfl

theorem registries_hand (s : Session) (handed : Option Key) (into : Option String) :
    (s.hand handed into).2.registries = s.registries := by
  cases handed <;> cases into <;> rfl

/-- **The commands do what they ask for.** -/
theorem Reachable.rewrites_exec (h : s.Reachable) (hc : c.Rewrites s k.id n t)
    (hstep : s.exec c = some (reply, s')) (hthere : ∃ r, s'.pool.find? k.id = some r) :
    s.pool.Rewrites k n t s'.pool := by
  have hafter := (h.step hstep).sound.balanced
  cases hc with
  | set hk hid hn =>
    rw [exec_setMeta hk hn] at hstep
    cases hstep
    exact (h.rewrites_plantEntry hk (.leaf _ _)).congr hid
  | @remove _ _ into k' _ hk hid hn =>
    rw [exec_removeMeta hk hn] at hstep
    have hs' := congrArg Prod.snd (Option.some.inj hstep)
    have hev := Sound.hand_evolves { s with pool := (s.pool.removeEntry k' n).2 }
      (s.pool.removeEntry k' n).1 into
    have hsets : s'.keySets = s.keySets := (congrArg keySets hs').symm.trans (keySets_hand _ _ _)
    have hregistries : s'.registries = s.registries :=
      (congrArg Session.registries hs').symm.trans (registries_hand _ _ _)
    rw [hsets, hregistries] at hafter
    rw [hs'] at hev
    exact (h.rewrites_removeEntry hk hafter hev (hid ▸ hthere)).congr hid
  | @copy _ _ _ k₁ k₂ _ hk hid hk' hn =>
    rw [exec_copyMeta hk hk' hn] at hstep
    cases hstep
    rcases hget : Registry.get? s.pool (s.pool.entries k₂) n with _ | e
    · simp only [hget] at hafter hthere ⊢
      exact (h.rewrites_removeEntry hk hafter (.dropHanded (.refl _ _ _)) (hid ▸ hthere)).congr hid
    · -- the tree has the name under which it was found
      have hname : (s.pool.tree e.id).name = n := by
        rw [Pool.name_tree]
        exact (h.sound.balanced.get?_eq_some_iff.mp hget).2
      have hplant := h.rewrites_plantEntry hk (h.sound.balanced.tree_distinct e.id)
      rw [hname] at hplant
      exact hplant.congr hid

/-! ### What is handed over -/

/-- Beside the metadata that it is in, an entry is held by key sets and registries only. -/
theorem Reachable.one_lt_locks {e : Key} (h : s.Reachable) (he : e ∈ s.pool.entries k) :
    1 < (s.pool.record e.id).locks ↔
      (∃ keys ∈ s.keySets, holds e.id keys = true) ∨
        ∃ keys ∈ s.registries.contents, holds e.id keys = true := by
  have hbal := h.sound.balanced
  have hlocks := h.sound.locks_eq e.id
  have hone : s.pool.live.countP (fun owner => holds e.id owner.entries) = 1 := by
    have hcount := hbal.count_entryIds_of_mem h.single he
    rw [entryIds_eq, count_flatten, List.countP_map] at hcount
    · exact hcount
    · intro keys hkeys
      obtain ⟨owner, howner, rfl⟩ := List.mem_map.mp hkeys
      exact (hbal.entries owner howner).nodup_ids
  rw [hlocks, hone, ← List.countP_pos_iff, ← List.countP_pos_iff]
  omega

/-- **An entry that goes out is pinned by key sets and registries only.** -/
theorem Reachable.isLocked_unlock {e : Key} (h : s.Reachable) (he : e ∈ s.pool.entries k) :
    (s.pool.unlock e.id).isLocked e = true ↔
      (∃ keys ∈ s.keySets, holds e.id keys = true) ∨
        ∃ keys ∈ s.registries.contents, holds e.id keys = true := by
  obtain ⟨r, hr⟩ := h.sound.exists_of_entry he
  rw [← h.one_lt_locks he, Pool.isLocked, decide_eq_true_iff, Pool.record_of_find? hr,
    Pool.record_of_find? (r := { r with locks := r.locks - 1 })
      (by rw [Pool.find?_unlock, if_pos rfl, hr]; rfl)]
  exact Nat.sub_pos_iff_lt

end Session

namespace Pool

variable {p q : Pool} {k e : Key} {n : Name} {id : RecordId}

/-- What hosts are shown of a record depends on the records that it holds. -/
theorem view_congr {F : Set RecordId} (hnext : q.nextId = p.nextId)
    (hsame : ∀ i ∈ F, q.record i = p.record i)
    (hclosed : ∀ i ∈ F, ∀ e ∈ (p.record i).entries, e.id ∈ F) (hid : id ∈ F) :
    q.view id = p.view id := by
  rw [view, view, hnext]
  generalize p.nextId = fuel
  induction fuel generalizing id with
  | zero => rw [foldUpTo, foldUpTo, hsame id hid]
  | succ fuel ih =>
    rw [foldUpTo, foldUpTo, hsame id hid]
    exact congrArg _ (List.map_congr_left fun e he => ih (hclosed id hid e he))

/-- An entry that is removed is handed over as it is, with one place less. -/
theorem Forward.view_removeEntry (h : p.Forward)
    (hget : Registry.get? p (p.entries k) n = some e) :
    (p.removeEntry k n).2.view e.id = (p.unlock e.id).view e.id := by
  have hafter := (h.entry (List.mem_of_find?_eq_some hget)).1
  have hforward := ((Evolves.refl ∅ ∅ p).unlock e.id).forward h
  rw [removeEntry, hget]
  -- the owner does not belong to its entry
  refine view_congr (F := { i | k.id < i }) ?_ (fun i hi => ?_) (fun i hi e' he' => ?_) hafter
  · show ((p.modify k.id _).modify e.id _).nextId = (p.modify e.id _).nextId
    rw [nextId_modify, nextId_modify, nextId_modify]
  · rw [record, record, find?_unlock, find?_unlock, find?_modify, if_neg (Nat.ne_of_gt hi)]
  · exact Nat.lt_trans hi (hforward.entry he').1

end Pool

namespace Session

variable {s s' : Session} {slot raw : String} {k : Key} {n : Name} {id : RecordId}
variable {changes : List (Name × Option KeyTree)}

/-! ### Runs -/

theorem MetaRun.runs (h : MetaRun id s changes s') : s.Runs (fun _ _ => True) s' := by
  induction h with
  | refl => exact .refl _
  | rewrite _ _ hstep ih | other _ _ hstep ih | idle _ hstep ih => exact .step ih trivial hstep

/-- **A run makes of the metadata what its changes make of it**, one after the other. -/
theorem MetaRun.metaTrees_eq (h : MetaRun k.id s changes s') (hs : s.Reachable)
    (hlt : k.id < s.pool.nextId) (hthere : ∃ r, s'.pool.find? k.id = some r) :
    s'.pool.metaTrees k = changes.foldl KeyTree.rewrite (s.pool.metaTrees k) := by
  induction h with
  | refl => rfl
  | @rewrite s' s'' changes c n t reply hrun hc hstep ih =>
    have hreach := hrun.runs.reachable hs
    have hlt' := Nat.lt_of_lt_of_le hlt (hrun.runs.evolves hs).grows
    obtain ⟨r, hr⟩ := hthere
    obtain ⟨r', hr', -⟩ := (hreach.sound.stays_exec hstep).pool.kept k.id r hlt' hr
    rw [(hreach.rewrites_exec hc hstep ⟨r, hr⟩).trees, ih ⟨r', hr'⟩, List.foldl_append]
    rfl
  | @other s' s'' changes c reply hrun hc hstep ih =>
    have hreach := hrun.runs.reachable hs
    have hlt' := Nat.lt_of_lt_of_le hlt (hrun.runs.evolves hs).grows
    have hev := (hreach.sound.stays_exec hstep).pool
    obtain ⟨r, hr⟩ := hthere
    obtain ⟨r', hr', -⟩ := hev.kept k.id r hlt' hr
    have hsame := (hreach.step hstep).sound.balanced.tree_eq hev hreach.forward ⟨r, hr⟩ hlt'
      fun i hi => ⟨fun hrenames => hc i (.inr hrenames) hi, fun hedits => hc i (.inl hedits) hi⟩
    rw [← (hreach.step hstep).forward.entries_tree, hsame, hreach.forward.entries_tree,
      ih ⟨r', hr'⟩]
  | idle _ _ ih => exact ih hthere

/-! ### The map -/

/-- The entry of a name is taken out of the metadata of the key in a slot, and handed over. -/
structure TakesOut (s : Session) (slot : String) (k : Key) (n : Name) (into : Option String)
    (s' : Session) : Prop where
  /-- The name of what is handed over is pinned only by key sets and registries that hold it. -/
  locked : ∀ e, Registry.get? s.pool (s.pool.entries k) n = some e →
    ((s.pool.unlock e.id).isLocked e = true ↔ (∃ keys ∈ s.keySets, holds e.id keys = true) ∨
      ∃ keys ∈ s.registries.contents, holds e.id keys = true)
  /-- It goes into the slot that was given for it. -/
  handed : ∀ e other, Registry.get? s.pool (s.pool.entries k) n = some e → into = some other →
    s'.keys.get? other = some e
  /-- The other slots keep their handles. -/
  slots : ∀ other, into ≠ some other → s'.keys.get? other = s.keys.get? other
  /-- As long as the key is there, its metadata has no entry of the name, and is the same else. -/
  rewrites : into ≠ some slot ∨ (∃ r, s'.pool.find? k.id = some r) →
    s.pool.Rewrites k n none s'.pool

/-- **A removal takes the entry out**, and shows it as it was, but for the place that it lost. -/
theorem Reachable.takesOut_removeMeta (h : s.Reachable) (hk : s.keys.get? slot = some k)
    (hn : metaName raw = .ok n) (into : Option String) :
    ∃ s', s.exec (.removeMeta slot raw into) = some (.key ((Registry.get? s.pool
        (s.pool.entries k) n).map fun e => (s.pool.unlock e.id).view e.id), s') ∧
      s.TakesOut slot k n into s' := by
  have hstep := exec_removeMeta hk hn into
  obtain ⟨hhanded, -⟩ := Pool.entries_removeEntry n (h.sound.exists_of_key hk)
  have hslots : ∀ other, into ≠ some other →
      ({ s with pool := (s.pool.removeEntry k n).2 }.hand
        (s.pool.removeEntry k n).1 into).2.keys.get? other = s.keys.get? other := fun other hne =>
    handle_hand { s with pool := (s.pool.removeEntry k n).2 } _ fun hin =>
      hne (Option.mem_toList.mp hin)
  refine ⟨_, hstep.trans (congrArg some (Prod.ext ?_ rfl)), fun e he => ?_,
    fun e other he hinto => ?_, hslots, fun hstays => h.rewrites_exec (.remove hk rfl hn) hstep ?_⟩
  · show Reply.key _ = Reply.key _
    rw [hhanded]
    exact congrArg Reply.key (Option.map_congr fun e he => h.forward.view_removeEntry he)
  · exact h.isLocked_unlock (List.mem_of_find?_eq_some he)
  · rw [hhanded, he, hinto]
    exact Slots.get?_put_self _ _ _
  · rcases hstays with hne | hthere
    · exact (h.step hstep).sound.exists_of_key ((hslots slot hne).trans hk)
    · exact hthere

/-- **Metadata is a map that keeps its order**, under every spelling of its names.  A text is read
as a name, or, where it has no root, as a path below the cascading one, so that no text lacks a
root; and every name within limits is read back.  The entries of a key are a map from names.  A
text that cannot be read is an error that changes nothing.  To set an entry, to remove one and to
copy one succeeds otherwise: a new record that says what was asked for takes the place of the name
or goes behind all others, or the name goes out, and all other entries stay.  What was removed is
handed over as it was, and its name is pinned only by key sets and registries.  A run of such
commands makes of the metadata what they make of it one after the other. -/
theorem Reachable.metadata_is_map (h : s.Reachable) (hk : s.keys.get? slot = some k) :
    (∀ raw, ((∀ shown, Name.parse raw ≠ .error (.invalidName shown .missingRoot)) →
        metaName raw = Name.parse raw) ∧
      (∀ shown, Name.parse raw = .error (.invalidName shown .missingRoot) →
        metaName raw = Name.parse ("/" ++ raw)) ∧
      ∀ shown, metaName raw ≠ .error (.invalidName shown .missingRoot)) ∧
    (∀ n : Name, n.Fits {} → metaName n.canonical = .ok n) ∧
    s.pool.MapsNames k ∧
    (∀ raw cause, metaName raw = .error cause →
      (∀ text, s.exec (.setMeta slot raw text) = some (.failed cause, s)) ∧
      (∀ into, s.exec (.removeMeta slot raw into) = some (.failed cause, s)) ∧
      ∀ source k', s.keys.get? source = some k' →
        s.exec (.copyMeta slot source raw) = some (.failed cause, s)) ∧
    (∀ raw n, metaName raw = .ok n →
      (∀ text, ∃ s', s.exec (.setMeta slot raw text) = some (.done, s') ∧ s'.keys = s.keys ∧
        s.pool.Rewrites k n (some (.node n (.ofText text) [])) s'.pool ∧
        ∀ raw', metaName raw' = .ok n → s'.pool.metaText? k raw' = some text) ∧
      (∀ into, ∃ s', s.exec (.removeMeta slot raw into) = some (.key ((Registry.get? s.pool
          (s.pool.entries k) n).map fun e => (s.pool.unlock e.id).view e.id), s') ∧
        s.TakesOut slot k n into s') ∧
      ∀ source k', s.keys.get? source = some k' →
        ∃ s', s.exec (.copyMeta slot source raw) = some (.done, s') ∧ s'.keys = s.keys ∧
          s.pool.Rewrites k n ((Registry.get? s.pool (s.pool.entries k') n).map fun e =>
            s.pool.tree e.id) s'.pool) ∧
    ∀ changes t, MetaRun k.id s changes t → (∃ r, t.pool.find? k.id = some r) →
      t.pool.metaTrees k = changes.foldl KeyTree.rewrite (s.pool.metaTrees k) := by
  refine ⟨fun raw => ⟨metaName_of_rooted, fun _ => metaName_of_rootless,
    metaName_ne_missingRoot raw⟩, fun n => metaName_canonical, h.sound.balanced.mapsNames k,
    fun raw cause => exec_unread hk, fun raw n hn => ⟨fun text => ?_,
    h.takesOut_removeMeta hk hn, fun source k' hk' => ?_⟩,
    fun changes t hrun => hrun.metaTrees_eq h (Stays.key_lt h.sound hk)⟩
  · have hstep := exec_setMeta hk hn text
    have hrewrites := h.rewrites_exec (.set hk rfl hn) hstep
      ((h.step hstep).sound.exists_of_key hk)
    refine ⟨_, hstep, rfl, hrewrites, fun raw' hn' => ?_⟩
    exact (hrewrites.text_self raw' hn').trans (congrArg some (Value.text_ofText text))
  · have hstep := exec_copyMeta hk hk' hn
    exact ⟨_, hstep, rfl, h.rewrites_exec (.copy hk rfl hk' hn) hstep
      ((h.step hstep).sound.exists_of_key hk)⟩

/-- An entry is set again under another spelling of its name.  It keeps its place, and the entry
behind it keeps its text. -/
theorem Reachable.metadata_is_map_spelled :
    ∃ s s', Session.execAll {} [.build "key" "user/a" [], .setMeta "key" "mode" "1",
        .setMeta "key" "user/b" "2"] = some s ∧
      metaName "/x/../mode" = .ok ⟨.cascading, ["mode"]⟩ ∧
      s.exec (.setMeta "key" "/x/../mode" "3") = some (.done, s') ∧
      s'.pool.metaText? ⟨0, {}⟩ "mode" = some "3" ∧
      s'.pool.metaText? ⟨0, {}⟩ "user/b" = some "2" ∧
      s'.pool.metaNames ⟨0, {}⟩ = [⟨.cascading, ["mode"]⟩, ⟨.user, ["b"]⟩] := by
  have hrun : (Session.execAll {} [.build "key" "user/a" [], .setMeta "key" "mode" "1",
      .setMeta "key" "user/b" "2"]).map (fun s => decide (s.keys.get? "key" = some ⟨0, {}⟩ ∧
        s.pool.metaText? ⟨0, {}⟩ "user/b" = some "2" ∧
        s.pool.metaNames ⟨0, {}⟩ = [⟨.cascading, ["mode"]⟩, ⟨.user, ["b"]⟩])) = some true := by
    decide +kernel
  obtain ⟨s, hs, hfacts⟩ := Option.map_eq_some_iff.mp hrun
  obtain ⟨hk, hother, hnames⟩ := of_decide_eq_true hfacts
  have hn : metaName "/x/../mode" = .ok ⟨.cascading, ["mode"]⟩ := by decide +kernel
  obtain ⟨-, -, -, -, hcommands, -⟩ := (Reachable.start.execAll hs).metadata_is_map hk
  obtain ⟨s', hstep, -, hrewrites, htext⟩ := (hcommands "/x/../mode" _ hn).1 "3"
  refine ⟨s, s', hs, hn, hstep, htext "mode" (by decide +kernel), ?_, ?_⟩
  · exact (hrewrites.text_other "user/b" (by decide +kernel)).trans hother
  · rw [hrewrites.names_put rfl, hnames]
    rfl

end Session
end ConfigKeys
