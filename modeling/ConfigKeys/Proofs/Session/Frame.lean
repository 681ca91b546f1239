import ConfigKeys.Proofs.Session.Locks
import ConfigKeys.Proofs.Session.Scope

/-!
# Commands within a scope

Which slots a command may change can be read off it; which records it gives another name or writes
to, and which kept keys it changes, can be read off it in a session.  All else stays as it is, along
any run of commands.

## Main definitions

* `Command.sets`, `Command.plugins`, `Command.Renames`, `Command.Edits`, `Command.Changes` — what a
  command may touch.
* `Command.Within` — a command keeps within a scope.
* `Session.Runs` — a run of commands that are all allowed.

## Main results

* `Session.Stays.exec`, `Session.Runs.stays` — nothing is touched that is not in the scope.
* `Session.Sound.name_exec` — a name that is pinned is kept.
-/

namespace ConfigKeys

/-! ### What a command may touch -/

namespace Command

/-- The slots of key sets that a command may change. -/
def sets : Command → List String
  | .newSet set | .collect set _ | .fill set _ | .extend set _ | .append set _ | .appendAll set _ =>
    [set]
  | .remove set _ _ | .removeKey set _ _ | .clear set | .dropSet set | .rewind set | .next set _ =>
    [set]
  | .below _ _ into | .shareSet _ into | .copySet _ into => [into]
  | .cut set _ into => [set, into]
  | .replace set source => [set, source]
  | .configure _ (.set source) => [source]
  | .configToSet _ set => [set]
  | .plug _ (.keeping set) _ => [set]
  | .run _ _ (some set) _ => [set]
  | .describe _ (some into) => [into]
  | _ => []

/-- The slots of plugins that a command may change; to read leaves an instance as it is. -/
def plugins : Command → List String
  | .plug plugin _ _ | .unplug plugin => [plugin]
  | .run plugin stage _ _ => if stage = .get then [] else [plugin]
  | _ => []

/-- A command may give the record of a number another name. -/
def Renames (s : Session) (id : RecordId) : Command → Prop
  | .rename key _ => ∃ k, s.keys.get? key = some k ∧ k.id = id
  | _ => False

/-- A command may write to the record of a number: to that of the key that it is about, or, if it is
a stage, to all that the key and the keys that it is given hold. -/
def Edits (s : Session) (id : RecordId) : Command → Prop
  | .setValue key _ | .setMeta key _ _ | .removeMeta key _ _ | .copyMeta key _ _
  | .copyAllMeta key _ | .setError key _ | .clearError key | .addWarnings key _ =>
    ∃ k, s.keys.get? key = some k ∧ k.id = id
  | .run _ _ set key =>
    ∃ k, (s.keys.get? key = some k ∨ ∃ ks, s.callerSet set = some ks ∧ k ∈ ks.toList) ∧
      s.pool.Holds k.id id
  | _ => False

/-- A command may change the kept keys of a number: it writes to them, takes a write to them back,
or gives up the last instance that works on them. -/
def Changes (s : Session) (id : StoreId) : Command → Prop
  | .run plugin stage _ _ => (stage = .set ∨ stage = .error) ∧
      ∃ instance₁, s.plugins.get? plugin = some instance₁ ∧ instance₁.store? = some id
  | .plug plugin _ _ | .unplug plugin =>
    (∃ instance₁, s.plugins.get? plugin = some instance₁ ∧ instance₁.store? = some id) ∧
      ∀ other ≠ plugin, ∀ instance₂, s.plugins.get? other = some instance₂ →
        instance₂.store? ≠ some id
  | _ => False

/-- A command touches nothing that is not in a scope. -/
structure Within (t : Scope) (s : Session) (c : Command) : Prop where
  named : ∀ id, c.Renames s id → id ∈ t.named
  written : ∀ id, c.Edits s id → id ∈ t.written
  sets : ∀ slot ∈ c.sets, slot ∈ t.sets
  plugins : ∀ slot ∈ c.plugins, slot ∈ t.plugins
  stores : ∀ id, c.Changes s id → id ∈ t.stores

/-- What a command may touch in a session, whatever callers can reach there. -/
def scope (s : Session) (c : Command) : Scope where
  named := { id | c.Renames s id }
  written := { id | c.Edits s id }
  reach := Set.univ
  sets := { slot | slot ∈ c.sets }
  plugins := { slot | slot ∈ c.plugins }
  stores := { id | c.Changes s id }

theorem within_scope (s : Session) (c : Command) : c.Within (c.scope s) s :=
  ⟨fun _ h => h, fun _ h => h, fun _ h => h, fun _ h => h, fun _ h => h⟩

end Command

namespace Session

/-! ### Keys -/

namespace Stays

variable {t : Scope} {s₀ s : Session} {S R : List (List Key)} {L : List RecordId}
variable {slot source into set key raw text : String} {maybe : Option String}
variable {out : Reply × Session}

/-- A handle stands for a record, so its number is used up. -/
theorem key_lt (hs : s.Sound S R L) {k : Key} (hget : s.keys.get? slot = some k) :
    k.id < s.pool.nextId := by
  obtain ⟨r, hr⟩ := hs.exists_of_key hget
  exact Pool.find?_lt hr

theorem build {options : List KeyOption} (h : s₀.Stays t s)
    (hstep : s.build slot raw options = some out) : s₀.Stays t out.2 := by
  rw [Session.build] at hstep
  rcases hcreate : s.pool.create raw options with e | ⟨k, p⟩
  · rw [hcreate] at hstep
    cases hstep
    exact h
  · rw [hcreate] at hstep
    cases hstep
    obtain ⟨hev, hnew⟩ := (Pool.Evolves.refl t.named t.written s.pool).create hcreate
    exact (h.changePool hev).storeKey (h.mem_new hnew) slot

theorem shareKey (h : s₀.Stays t s) (hstep : s.shareKey slot into = some out) :
    s₀.Stays t out.2 := by
  obtain ⟨k, hget, ⟨⟩⟩ := Option.bind_eq_some_iff.mp hstep
  refine h.fetch ?_ (some into)
  rintro k' ⟨⟩
  exact h.mem_key hget

theorem wrap (h : s₀.Stays t s) (hstep : s.wrap slot into = some out) : s₀.Stays t out.2 := by
  obtain ⟨k, hget, ⟨⟩⟩ := Option.bind_eq_some_iff.mp hstep
  have hk := h.mem_key hget
  refine h.fetch ?_ (some into)
  rintro k' ⟨⟩
  exact hk

theorem copyKey (h : s₀.Stays t s) (hstep : s.copyKey slot into = some out) :
    s₀.Stays t out.2 := by
  obtain ⟨k, -, ⟨⟩⟩ := Option.bind_eq_some_iff.mp hstep
  refine (h.changePool ((Pool.Evolves.refl _ _ _).copy k.id)).fetch ?_ (some into)
  rintro k' ⟨⟩
  exact h.mem_new (Nat.le_refl _)

theorem forgetKey (h : s₀.Stays t s) (hstep : s.forgetKey slot = some out) :
    s₀.Stays t out.2 := by
  obtain ⟨k, -, ⟨⟩⟩ := Option.bind_eq_some_iff.mp hstep
  exact (h.changePool ((Pool.Evolves.refl _ _ _).release k.id)).clearKey slot

theorem rename {how : Renaming} (h : s₀.Stays t s)
    (hnamed : ∀ k, s.keys.get? slot = some k → k.id ∈ t.named)
    (hstep : s.rename slot how = some out) : s₀.Stays t out.2 := by
  obtain ⟨k, hget, ⟨⟩⟩ := Option.bind_eq_some_iff.mp hstep
  exact h.settle fun p hp => (Pool.Evolves.refl _ _ _ |> how.evolves) (hnamed k hget) hp

theorem setValue {v : Value} (h : s₀.Stays t s)
    (hwritten : ∀ k, s.keys.get? slot = some k → k.id ∈ t.written)
    (hstep : s.setValue slot v = some out) : s₀.Stays t out.2 := by
  obtain ⟨k, hget, ⟨⟩⟩ := Option.bind_eq_some_iff.mp hstep
  exact h.changePool ((Pool.Evolves.refl _ _ _).storeValue (hwritten k hget) v)

/-! ### Metadata -/

theorem setMeta (h : s₀.Stays t s) (hs : s.Sound S R L)
    (hwritten : ∀ k, s.keys.get? slot = some k → k.id ∈ t.written)
    (hstep : s.setMeta slot raw text = some out) : s₀.Stays t out.2 := by
  obtain ⟨k, hget, ⟨⟩⟩ := Option.bind_eq_some_iff.mp hstep
  exact h.settle fun p hp => (Pool.Evolves.refl _ _ _).setMeta (key_lt hs hget) (hwritten k hget) hp

theorem removeMeta (h : s₀.Stays t s)
    (hwritten : ∀ k, s.keys.get? slot = some k → k.id ∈ t.written)
    (hstep : s.removeMeta slot raw maybe = some out) : s₀.Stays t out.2 := by
  obtain ⟨k, hget, hstep⟩ := Option.bind_eq_some_iff.mp hstep
  rcases hremove : s.pool.removeMeta k raw with e | ⟨handed, p⟩
  · rw [hremove] at hstep
    cases hstep
    exact h
  · rw [hremove] at hstep
    cases hstep
    have hev := (Pool.Evolves.refl t.named t.written s.pool).removeMeta (hwritten k hget) hremove
    refine (h.changePool hev).hand ?_ maybe
    rintro e rfl
    exact h.mem_entry hget (Pool.mem_of_removeMeta hremove)

theorem copyMeta (h : s₀.Stays t s) (hs : s.Sound S R L)
    (hwritten : ∀ k, s.keys.get? slot = some k → k.id ∈ t.written)
    (hstep : s.copyMeta slot source raw = some out) : s₀.Stays t out.2 := by
  obtain ⟨k, hget, hstep⟩ := Option.bind_eq_some_iff.mp hstep
  obtain ⟨k', -, ⟨⟩⟩ := Option.bind_eq_some_iff.mp hstep
  exact h.settle fun p hp =>
    (Pool.Evolves.refl _ _ _).copyMeta (key_lt hs hget) (hwritten k hget) hp

theorem copyAllMeta (h : s₀.Stays t s) (hs : s.Sound S R L)
    (hwritten : ∀ k, s.keys.get? slot = some k → k.id ∈ t.written)
    (hstep : s.copyAllMeta slot source = some out) : s₀.Stays t out.2 := by
  obtain ⟨k, hget, hstep⟩ := Option.bind_eq_some_iff.mp hstep
  obtain ⟨k', -, ⟨⟩⟩ := Option.bind_eq_some_iff.mp hstep
  exact h.changePool
    ((Pool.Evolves.refl _ _ _).copyAllMeta (key_lt hs hget) (hwritten k hget) k')

theorem rewindMeta (h : s₀.Stays t s) (hstep : s.rewindMeta slot = some out) :
    s₀.Stays t out.2 := by
  obtain ⟨k, hget, ⟨⟩⟩ := Option.bind_eq_some_iff.mp hstep
  have hk := h.mem_key hget
  exact h.putKey (k := { k with cursor := {} }) hk slot

theorem walkMeta {step : Pool → Key → Option Key × Key}
    (hwalk : ∀ p k, (step p k).2.id = k.id ∧ ∀ e, (step p k).1 = some e → e ∈ p.entries k)
    (h : s₀.Stays t s) (hstep : s.walkMeta slot maybe step = some out) : s₀.Stays t out.2 := by
  obtain ⟨k, hget, ⟨⟩⟩ := Option.bind_eq_some_iff.mp hstep
  obtain ⟨hid, hfound⟩ := hwalk s.pool k
  have hk : (step s.pool k).2.id ∈ t.reach := hid ▸ h.mem_key hget
  exact (h.putKey hk slot).fetch (fun e he => h.mem_entry hget (hfound e he)) maybe

/-! ### Reports -/

theorem setError {r : Report} (h : s₀.Stays t s) (hs : s.Sound S R L)
    (hwritten : ∀ k, s.keys.get? slot = some k → k.id ∈ t.written)
    (hstep : s.setError slot r = some out) : s₀.Stays t out.2 := by
  obtain ⟨k, hget, ⟨⟩⟩ := Option.bind_eq_some_iff.mp hstep
  exact h.settle fun p hp =>
    (Pool.Evolves.refl _ _ _).setError (key_lt hs hget) (hwritten k hget) hp

theorem clearError (h : s₀.Stays t s)
    (hwritten : ∀ k, s.keys.get? slot = some k → k.id ∈ t.written)
    (hstep : s.clearError slot = some out) : s₀.Stays t out.2 := by
  obtain ⟨k, hget, ⟨⟩⟩ := Option.bind_eq_some_iff.mp hstep
  exact h.settle fun p hp => (Pool.Evolves.refl _ _ _).clearError (hwritten k hget) hp

theorem addWarnings {reports : List Report} (h : s₀.Stays t s) (hs : s.Sound S R L)
    (hwritten : ∀ k, s.keys.get? slot = some k → k.id ∈ t.written)
    (hstep : s.addWarnings slot reports = some out) : s₀.Stays t out.2 := by
  obtain ⟨k, hget, hstep⟩ := Option.bind_eq_some_iff.mp hstep
  rcases hwarn : Session.addWarningsAfter s.pool k [] reports with e | ⟨indices, p⟩
  · rw [hwarn] at hstep
    cases hstep
    exact h
  · rw [hwarn] at hstep
    cases hstep
    exact h.changePool ((Pool.Evolves.refl _ _ _).addWarningsAfter (key_lt hs hget)
      (hwritten k hget) reports hwarn)

/-! ### Registries -/

theorem newRegistry (h : s₀.Stays t s) (hstep : s.newRegistry slot = some out) :
    s₀.Stays t out.2 := by
  cases hstep
  exact h.storeRegistry (fun k hk => absurd hk List.not_mem_nil) slot

theorem insertEntry (h : s₀.Stays t s) (hstep : s.insertEntry slot source = some out) :
    s₀.Stays t out.2 := by
  obtain ⟨r, hr, hstep⟩ := Option.bind_eq_some_iff.mp hstep
  obtain ⟨k, hget, ⟨⟩⟩ := Option.bind_eq_some_iff.mp hstep
  refine (h.changePool ((Pool.Evolves.refl _ _ _).insertRegistered r k)).putRegistry ?_ slot
  intro e he
  rcases Registry.mem_put he with rfl | he
  · exact h.mem_key hget
  · exact h.mem_registered hr e he

theorem removeEntry (h : s₀.Stays t s) (hstep : s.removeEntry slot source maybe = some out) :
    s₀.Stays t out.2 := by
  obtain ⟨r, hr, hstep⟩ := Option.bind_eq_some_iff.mp hstep
  obtain ⟨k, -, ⟨⟩⟩ := Option.bind_eq_some_iff.mp hstep
  obtain ⟨hleft, hhanded⟩ := Registry.mem_of_remove s.pool r (s.pool.name k)
  have hev := (Pool.Evolves.refl t.named t.written s.pool).removeRegistered r (s.pool.name k)
  have hput := (h.changePool hev).putRegistry (fun e he => h.mem_registered hr e (hleft e he)) slot
  exact hput.hand (fun e he => h.mem_registered hr e (hhanded e he)) maybe

theorem dropRegistry (h : s₀.Stays t s) (hstep : s.dropRegistry slot = some out) :
    s₀.Stays t out.2 := by
  obtain ⟨r, -, ⟨⟩⟩ := Option.bind_eq_some_iff.mp hstep
  exact (h.changePool ((Pool.Evolves.refl _ _ _).detachAll r)).clearRegistry slot

theorem rewindCursor (h : s₀.Stays t s) (hstep : s.rewindCursor slot = some out) :
    s₀.Stays t out.2 := by
  cases hstep
  exact h.putCursor slot {}

theorem walkRegistry {step : Cursor → Nat → Cursor} (h : s₀.Stays t s)
    (hstep : s.walkRegistry slot source maybe step = some out) : s₀.Stays t out.2 := by
  obtain ⟨r, hr, ⟨⟩⟩ := Option.bind_eq_some_iff.mp hstep
  exact (h.putCursor slot _).fetch
    (fun k hk => h.mem_registered hr k (Sound.mem_of_item? hk)) maybe

/-! ### Key sets -/

theorem newSet (h : s₀.Stays t s) (hset : slot ∈ t.sets) (hstep : s.newSet slot = some out) :
    s₀.Stays t out.2 := by
  cases hstep
  exact h.storeSet hset fun k hk => absurd hk List.not_mem_nil

theorem mem_of_mapM (h : s₀.Stays t s) {slots : List String} {keys : List Key}
    (hkeys : slots.mapM s.keys.get? = some keys) : ∀ k ∈ keys, k.id ∈ t.reach := by
  intro k hk
  obtain ⟨slot, hget⟩ := Sound.get?_of_mapM hkeys hk
  exact h.mem_key hget

theorem collect {keys : List String} (h : s₀.Stays t s) (hset : slot ∈ t.sets)
    (hstep : s.collect slot keys = some out) : s₀.Stays t out.2 := by
  obtain ⟨list, hlist, ⟨⟩⟩ := Option.bind_eq_some_iff.mp hstep
  refine (h.changePool ((Pool.Evolves.refl _ _ _).appendAll {} list)).storeSet hset ?_
  intro k hk
  rcases KeySet.mem_appendAll hk with hk | hk
  · exact h.mem_of_mapM hlist k hk
  · cases hk

theorem fill {texts : List (String × String)} (h : s₀.Stays t s) (hset : slot ∈ t.sets)
    (hstep : s.fill slot texts = some out) : s₀.Stays t out.2 := by
  rw [Session.fill] at hstep
  split at hstep
  · cases hstep
    exact h
  · next list _ =>
    cases hstep
    obtain ⟨hev, hnew⟩ := (Pool.Evolves.refl t.named t.written s.pool).ofTexts list
    exact (h.changePool hev).storeSet hset fun k hk => h.mem_new (hnew k hk)

theorem extend {keys : List String} (h : s₀.Stays t s) (hset : slot ∈ t.sets)
    (hstep : s.extend slot keys = some out) : s₀.Stays t out.2 := by
  obtain ⟨ks, hks, hstep⟩ := Option.bind_eq_some_iff.mp hstep
  obtain ⟨list, hlist, ⟨⟩⟩ := Option.bind_eq_some_iff.mp hstep
  refine (h.changePool ((Pool.Evolves.refl _ _ _).appendAll ks list)).putSet hset ?_
  intro k hk
  rcases KeySet.mem_appendAll hk with hk | hk
  · exact h.mem_of_mapM hlist k hk
  · exact h.mem_member hks k hk

theorem append (h : s₀.Stays t s) (hset : slot ∈ t.sets) (hstep : s.append slot key = some out) :
    s₀.Stays t out.2 := by
  obtain ⟨ks, hks, hstep⟩ := Option.bind_eq_some_iff.mp hstep
  obtain ⟨k, hget, ⟨⟩⟩ := Option.bind_eq_some_iff.mp hstep
  refine (h.changePool ((Pool.Evolves.refl _ _ _).append ks k)).putSet hset ?_
  intro x hx
  rcases KeySet.mem_append hx with rfl | hx
  · exact h.mem_key hget
  · exact h.mem_member hks x hx

theorem appendAll (h : s₀.Stays t s) (hset : slot ∈ t.sets)
    (hstep : s.appendAll slot source = some out) : s₀.Stays t out.2 := by
  obtain ⟨ks, hks, hstep⟩ := Option.bind_eq_some_iff.mp hstep
  obtain ⟨other, hother, ⟨⟩⟩ := Option.bind_eq_some_iff.mp hstep
  refine (h.changePool ((Pool.Evolves.refl _ _ _).appendAll ks other.toList)).putSet hset ?_
  intro x hx
  rcases KeySet.mem_appendAll hx with hx | hx
  · exact h.mem_member hother x hx
  · exact h.mem_member hks x hx

theorem removeName {n : Name} (h : s₀.Stays t s) (hset : slot ∈ t.sets)
    (hstep : s.removeName slot n maybe = some out) : s₀.Stays t out.2 := by
  obtain ⟨ks, hks, ⟨⟩⟩ := Option.bind_eq_some_iff.mp hstep
  have hleft : ∀ x ∈ (ks.remove s.pool n).2.2.toList, x.id ∈ t.reach :=
    fun x hx => h.mem_member hks x (KeySet.mem_remove hx)
  have hput := (h.changePool ((Pool.Evolves.refl _ _ _).removeName ks n)).putSet hset hleft
  exact hput.hand (fun k hk => h.mem_member hks k (KeySet.mem_of_removed hk)) maybe

theorem remove (h : s₀.Stays t s) (hset : slot ∈ t.sets)
    (hstep : s.remove slot raw maybe = some out) : s₀.Stays t out.2 := by
  rw [Session.remove] at hstep
  rcases hn : Name.parse raw with e | n
  · rw [hn] at hstep
    cases hstep
    exact h
  · rw [hn] at hstep
    exact h.removeName hset hstep

theorem removeKey (h : s₀.Stays t s) (hset : slot ∈ t.sets)
    (hstep : s.removeKey slot key maybe = some out) : s₀.Stays t out.2 := by
  obtain ⟨k, -, hstep⟩ := Option.bind_eq_some_iff.mp hstep
  exact h.removeName hset hstep

theorem below (h : s₀.Stays t s) (hset : into ∈ t.sets)
    (hstep : s.below slot key into = some out) : s₀.Stays t out.2 := by
  obtain ⟨ks, hks, hstep⟩ := Option.bind_eq_some_iff.mp hstep
  obtain ⟨k, -, ⟨⟩⟩ := Option.bind_eq_some_iff.mp hstep
  exact (h.changePool ((Pool.Evolves.refl _ _ _).lockAll _)).storeSet hset
    fun x hx => h.mem_member hks x (KeySet.mem_of_mem_subtree hx)

theorem cut (h : s₀.Stays t s) (hset : slot ∈ t.sets) (hinto : into ∈ t.sets)
    (hstep : s.cut slot key into = some out) : s₀.Stays t out.2 := by
  obtain ⟨ks, hks, hstep⟩ := Option.bind_eq_some_iff.mp hstep
  obtain ⟨k, -, ⟨⟩⟩ := Option.bind_eq_some_iff.mp hstep
  refine (h.putSet hset fun x hx => ?_).storeSet hinto fun x hx => ?_
  · exact h.mem_member hks x (KeySet.mem_cut (.inr hx))
  · exact h.mem_member hks x (KeySet.mem_cut (.inl hx))

theorem replace (h : s₀.Stays t s) (hset : slot ∈ t.sets) (hsource : source ∈ t.sets)
    (hstep : s.replace slot source = some out) : s₀.Stays t out.2 := by
  obtain ⟨other, hother, hstep⟩ := Option.bind_eq_some_iff.mp hstep
  obtain ⟨ks, -, ⟨⟩⟩ := Option.bind_eq_some_iff.mp hstep
  have hmem := h.mem_member hother
  exact ((h.changePool ((Pool.Evolves.refl _ _ _).drop ks)).clearSet hsource).putSet hset hmem

theorem clear (h : s₀.Stays t s) (hset : slot ∈ t.sets) (hstep : s.clear slot = some out) :
    s₀.Stays t out.2 := by
  obtain ⟨ks, -, ⟨⟩⟩ := Option.bind_eq_some_iff.mp hstep
  exact (h.changePool ((Pool.Evolves.refl _ _ _).drop ks)).putSet hset
    fun k hk => absurd hk List.not_mem_nil

theorem shareSet (h : s₀.Stays t s) (hset : into ∈ t.sets)
    (hstep : s.shareSet slot into = some out) : s₀.Stays t out.2 := by
  obtain ⟨ks, hks, ⟨⟩⟩ := Option.bind_eq_some_iff.mp hstep
  exact (h.changePool ((Pool.Evolves.refl _ _ _).lockAll _)).storeSet hset (h.mem_member hks)

theorem copySet (h : s₀.Stays t s) (hset : into ∈ t.sets)
    (hstep : s.copySet slot into = some out) : s₀.Stays t out.2 := by
  obtain ⟨ks, -, ⟨⟩⟩ := Option.bind_eq_some_iff.mp hstep
  obtain ⟨hev, hnew⟩ := (Pool.Evolves.refl t.named t.written s.pool).copySet ks
  exact (h.changePool hev).storeSet hset fun k hk => h.mem_new (hnew k hk)

theorem dropSet (h : s₀.Stays t s) (hset : slot ∈ t.sets) (hstep : s.dropSet slot = some out) :
    s₀.Stays t out.2 := by
  obtain ⟨ks, -, ⟨⟩⟩ := Option.bind_eq_some_iff.mp hstep
  exact (h.changePool ((Pool.Evolves.refl _ _ _).drop ks)).clearSet hset

theorem rewind (h : s₀.Stays t s) (hset : slot ∈ t.sets) (hstep : s.rewind slot = some out) :
    s₀.Stays t out.2 := by
  obtain ⟨ks, hks, ⟨⟩⟩ := Option.bind_eq_some_iff.mp hstep
  have hmem := h.mem_member hks
  exact h.putSet hset hmem

theorem next (h : s₀.Stays t s) (hset : slot ∈ t.sets) (hstep : s.next slot maybe = some out) :
    s₀.Stays t out.2 := by
  obtain ⟨ks, hks, ⟨⟩⟩ := Option.bind_eq_some_iff.mp hstep
  have hmem := h.mem_member hks
  have hput : s₀.Stays t { s with sets := s.sets.put slot ks.next.2 } := h.putSet hset hmem
  exact hput.fetch (fun k hk => h.mem_member hks k (Sound.mem_of_item? hk)) maybe

/-! ### Fetching -/

/-- What is found can be reached. -/
theorem mem_of_find {source : KeySource} {k : Key} (h : s₀.Stays t s)
    (hfind : s.find source = some (.ok (some k))) : k.id ∈ t.reach := by
  cases source with
  | entry key raw =>
    obtain ⟨owner, howner, hfind⟩ := Option.bind_eq_some_iff.mp hfind
    have hget : s.pool.meta? owner raw = some k := Except.ok.inj (Option.some.inj hfind)
    rw [Pool.meta?] at hget
    rcases hn : metaName raw with e | n
    · simp [hn] at hget
    · simp only [hn] at hget
      exact h.mem_entry howner (List.mem_of_find?_eq_some hget)
  | registered registry key =>
    obtain ⟨r, hr, hfind⟩ := Option.bind_eq_some_iff.mp hfind
    obtain ⟨k', -, hfind⟩ := Option.bind_eq_some_iff.mp hfind
    have hget := Except.ok.inj (Option.some.inj hfind)
    exact h.mem_registered hr k (List.mem_of_find?_eq_some hget)
  | registeredAt registry index =>
    obtain ⟨r, hr, hfind⟩ := Option.bind_eq_some_iff.mp hfind
    have hget := Except.ok.inj (Option.some.inj hfind)
    exact h.mem_registered hr k (List.mem_of_getElem? hget)
  | member set key =>
    obtain ⟨ks, hks, hfind⟩ := Option.bind_eq_some_iff.mp hfind
    obtain ⟨k', -, hfind⟩ := Option.bind_eq_some_iff.mp hfind
    exact h.mem_member hks k (KeySet.mem_of_find? (Except.ok.inj (Option.some.inj hfind)))
  | named set raw =>
    obtain ⟨ks, hks, hfind⟩ := Option.bind_eq_some_iff.mp hfind
    exact h.mem_member hks k (mem_of_findNamed (Option.some.inj hfind))
  | memberAt set index =>
    obtain ⟨ks, hks, hfind⟩ := Option.bind_eq_some_iff.mp hfind
    exact h.mem_member hks k (mem_of_getElem? (Except.ok.inj (Option.some.inj hfind)))
  | first set =>
    obtain ⟨ks, hks, hfind⟩ := Option.bind_eq_some_iff.mp hfind
    exact h.mem_member hks k (mem_of_getElem? (Except.ok.inj (Option.some.inj hfind)))
  | last set =>
    obtain ⟨ks, hks, hfind⟩ := Option.bind_eq_some_iff.mp hfind
    exact h.mem_member hks k (mem_of_getElem? (Except.ok.inj (Option.some.inj hfind)))
  | current set =>
    obtain ⟨ks, hks, hfind⟩ := Option.bind_eq_some_iff.mp hfind
    have hget := Except.ok.inj (Option.some.inj hfind)
    exact h.mem_member hks k (Sound.mem_of_item? hget)
  | configured config raw =>
    obtain ⟨c, hc, hfind⟩ := Option.bind_eq_some_iff.mp hfind
    exact h.mem_configured hc k (mem_of_findNamed (Option.some.inj hfind))

theorem fetchFrom {source : KeySource} (h : s₀.Stays t s)
    (hstep : s.fetchFrom source maybe = some out) : s₀.Stays t out.2 := by
  obtain ⟨result, hfind, hstep⟩ := Option.bind_eq_some_iff.mp hstep
  rcases result with e | found
  · cases hstep
    exact h
  · cases hstep
    exact h.fetch (fun k hk => h.mem_of_find (hk ▸ hfind)) maybe

/-! ### Configurations -/

theorem configure {source : ConfigSource} (h : s₀.Stays t s)
    (hset : ∀ set, source = .set set → set ∈ t.sets)
    (hstep : s.configure slot source = some out) : s₀.Stays t out.2 := by
  cases source with
  | nothing =>
    cases hstep
    exact h.storeConfig (fun k hk => absurd hk List.not_mem_nil) slot
  | text toml =>
    rw [Session.configure] at hstep
    rcases hload : Config.ofToml s.pool toml with e | ⟨p, c⟩
    · rw [hload] at hstep
      cases hstep
      exact h
    · rw [hload] at hstep
      cases hstep
      obtain ⟨hev, hnew⟩ := (Pool.Evolves.refl t.named t.written s.pool).ofToml hload
      exact (h.changePool hev).storeConfig (fun k hk => h.mem_new (hnew k hk)) slot
  | set source =>
    obtain ⟨ks, hks, ⟨⟩⟩ := Option.bind_eq_some_iff.mp hstep
    exact (h.clearSet (hset source rfl)).storeConfig (c := ⟨ks⟩) (h.mem_member hks) slot

theorem setConfig (h : s₀.Stays t s) (hstep : s.setConfig slot raw text = some out) :
    s₀.Stays t out.2 := by
  obtain ⟨c, hc, hstep⟩ := Option.bind_eq_some_iff.mp hstep
  rcases hset : c.set s.pool raw text with e | ⟨p, c'⟩
  · rw [hset] at hstep
    cases hstep
    exact h
  · rw [hset] at hstep
    cases hstep
    obtain ⟨hev, hmem⟩ := (Pool.Evolves.refl t.named t.written s.pool).setConfig hset
    refine (h.changePool hev).putConfig (fun k hk => ?_) slot
    exact (hmem k hk).elim h.mem_new (h.mem_configured hc k)

theorem configToSet (h : s₀.Stays t s) (hset : into ∈ t.sets)
    (hstep : s.configToSet slot into = some out) : s₀.Stays t out.2 := by
  obtain ⟨c, hc, ⟨⟩⟩ := Option.bind_eq_some_iff.mp hstep
  exact (h.clearConfig slot).storeSet hset (h.mem_configured hc)

/-! ### Plugins -/

theorem other_of_not_changes {plugins plugins' : Slots Plugin} {id : StoreId}
    (hother : ∀ other ≠ slot, plugins'.get? other = plugins.get? other)
    (hstill : ¬ ∀ other ≠ slot, ∀ plugin, plugins.get? other = some plugin →
      plugin.store? ≠ some id) :
    ∃ plugin ∈ plugins'.contents, plugin.store? = some id := by
  push Not at hstill
  obtain ⟨other, hne, plugin, hget, hid⟩ := hstill
  exact ⟨plugin, Slots.mem_contents ((hother other hne).trans hget), hid⟩

theorem setUp {config : Option String} {p : Pool} {c : Config} (h : s₀.Stays t s)
    (hsetUp : s.setUp config = some (p, c)) : s₀.Stays t { s with pool := p } := by
  rcases config with _ | slot
  · cases hsetUp
    exact h
  · obtain ⟨c₀, -, ⟨⟩⟩ := Option.bind_eq_some_iff.mp hsetUp
    exact h.changePool ((Pool.Evolves.refl _ _ _).lockAll _)

/-- An instance leaves its slot, and kept keys are given up only if they are in the scope. -/
theorem storePlugin (h : s₀.Stays t s) (hslot : slot ∈ t.plugins) (plugin : Plugin)
    (hstore : ∀ id, (Command.unplug slot).Changes s id → id ∈ t.stores) :
    s₀.Stays t (s.storePlugin slot plugin) := by
  have hput := h.putPlugin hslot plugin
  rw [Session.storePlugin]
  rcases hget : s.plugins.get? slot with _ | old
  · exact hput
  · refine hput.dropPlugin fun id hid => ?_
    refine (em _).imp_right (other_of_not_changes fun other hne => Slots.get?_put_of_ne _ _ hne)
      |>.imp_left fun hothers => hstore id ⟨⟨old, hget, hid⟩, hothers⟩

theorem plug {kind : PluginKind} {config : Option String} (h : s₀.Stays t s)
    (hslot : slot ∈ t.plugins) (hset : ∀ set, kind = .keeping set → set ∈ t.sets)
    (hstore : ∀ id, (Command.unplug slot).Changes s id → id ∈ t.stores)
    (hstep : s.plug slot kind config = some out) : s₀.Stays t out.2 := by
  obtain ⟨⟨p, c⟩, hsetUp, hstep⟩ := Option.bind_eq_some_iff.mp hstep
  have hup := h.setUp hsetUp
  cases kind with
  | memory =>
    cases hstep
    exact (hup.pushStore {}).storePlugin hslot _ hstore
  | sharing other =>
    obtain ⟨plugin, -, hstep⟩ := Option.bind_eq_some_iff.mp hstep
    cases plugin with
    | memory id m =>
      cases hstep
      exact hup.storePlugin hslot _ hstore
    | charsetFilter f => cases hstep
    | plain name => cases hstep
  | keeping set =>
    obtain ⟨ks, -, ⟨⟩⟩ := Option.bind_eq_some_iff.mp hstep
    exact ((hup.clearSet (hset set rfl)).pushStore ks).storePlugin hslot _ hstore
  | charsetFilter =>
    cases hstep
    exact hup.storePlugin hslot _ hstore
  | plain name =>
    cases hstep
    exact (hup.changePool ((Pool.Evolves.refl _ _ _).drop c.entries)).storePlugin hslot _ hstore

theorem unplug (h : s₀.Stays t s) (hslot : slot ∈ t.plugins)
    (hstore : ∀ id, (Command.unplug slot).Changes s id → id ∈ t.stores)
    (hstep : s.unplug slot = some out) : s₀.Stays t out.2 := by
  obtain ⟨plugin, hget, ⟨⟩⟩ := Option.bind_eq_some_iff.mp hstep
  refine (h.clearPlugin hslot).dropPlugin fun id hid => ?_
  refine (em _).imp_right (other_of_not_changes fun other hne => Slots.get?_clear_of_ne _ hne)
    |>.imp_left fun hothers => hstore id ⟨⟨plugin, hget, hid⟩, hothers⟩

/-- The instance and the kept keys after a stage. -/
theorem putStage {plugin : Plugin} {stage : Stage} {p : Pool} {ks : KeySet} {k : Key}
    (h : s₀.Stays t s) (hget : s.plugins.get? slot = some plugin)
    (hslot : stage ≠ .get → slot ∈ t.plugins)
    (hstore : ∀ id, (Command.run slot stage maybe key).Changes s id → id ∈ t.stores) :
    let o := plugin.run stage p ((plugin.store?.map s.store).getD {}) ks k
    s₀.Stays t { s with
      plugins := s.plugins.put slot o.plugin
      stores := match plugin.store? with
        | none => s.stores
        | some id => s.stores.setIfInBounds id o.store } := by
  intro o
  have hput : s₀.Stays t { s with plugins := s.plugins.put slot o.plugin } := by
    by_cases hstage : stage = .get
    · -- the instance is put back as it was
      have hsame : o.plugin = plugin := by
        subst hstage
        exact plugin.run_get
      rw [hsame, Slots.put_self hget]
      exact h
    · exact h.putPlugin (hslot hstage) o.plugin
  rcases hid : plugin.store? with _ | id
  · exact hput
  · refine hput.putStore ?_
    by_cases hset : stage = .set
    · exact .inl (hstore id ⟨.inl hset, plugin, hget, hid⟩)
    · by_cases herror : stage = .error
      · exact .inl (hstore id ⟨.inr herror, plugin, hget, hid⟩)
      · refine .inr ((plugin.run_store hset herror).trans ?_)
        rw [hid]
        rfl

theorem run {stage : Stage} (h : s₀.Stays t s) (hs : s.Sound S R L)
    (hwritten : ∀ id, (Command.run slot stage maybe key).Edits s id → id ∈ t.written)
    (hset : ∀ set, maybe = some set → set ∈ t.sets) (hslot : stage ≠ .get → slot ∈ t.plugins)
    (hstore : ∀ id, (Command.run slot stage maybe key).Changes s id → id ∈ t.stores)
    (hstep : s.run slot stage maybe key = some out) : s₀.Stays t out.2 := by
  obtain ⟨plugin, hplugin, hstep⟩ := Option.bind_eq_some_iff.mp hstep
  obtain ⟨k, hk, hstep⟩ := Option.bind_eq_some_iff.mp hstep
  have hrefl := Pool.Evolves.refl t.named
    { id | (Command.run slot stage maybe key).Edits s id } s.pool
  have hclosed : ∀ id, (Command.run slot stage maybe key).Edits s id →
      ∀ e ∈ (s.pool.record id).entries, (Command.run slot stage maybe key).Edits s e.id := by
    rintro id ⟨k', hk', hholds⟩ e he
    exact ⟨k', hk', hholds.entry he⟩
  rcases maybe with _ | set
  · cases hstep
    obtain ⟨hev, -⟩ := hrefl.runPlugin ((plugin.store?.map s.store).getD {}) {} plugin stage
      (key_lt hs hk) ⟨k, .inl hk, .self⟩ (fun x hx => absurd hx List.not_mem_nil) hclosed
    exact (h.putStage hplugin hslot hstore).changePool ((hev.mono subset_rfl hwritten).drop _)
  · obtain ⟨ks, hks, ⟨⟩⟩ := Option.bind_eq_some_iff.mp hstep
    obtain ⟨hev, hmem⟩ := hrefl.runPlugin ((plugin.store?.map s.store).getD {}) ks plugin stage
      (key_lt hs hk) ⟨k, .inl hk, .self⟩ (fun x hx => ⟨x, .inr ⟨ks, hks, hx⟩, .self⟩) hclosed
    refine ((h.putStage hplugin hslot hstore).changePool (hev.mono subset_rfl hwritten)).putSet
      (hset set rfl) ?_
    exact fun x hx => (hmem x hx).elim h.mem_new (h.mem_member hks x)

theorem describe (h : s₀.Stays t s) (hset : ∀ set, maybe = some set → set ∈ t.sets)
    (hstep : s.describe slot maybe = some out) : s₀.Stays t out.2 := by
  obtain ⟨plugin, -, hstep⟩ := Option.bind_eq_some_iff.mp hstep
  rcases htexts : plugin.info.texts with e | texts
  · rw [PluginInfo.toKeySet, htexts] at hstep
    cases hstep
    exact h
  · rw [PluginInfo.toKeySet, htexts] at hstep
    cases hstep
    obtain ⟨hev, hnew⟩ := (Pool.Evolves.refl t.named t.written s.pool).ofTexts texts
    rcases maybe with _ | into
    · exact h.changePool (hev.drop _)
    · exact (h.changePool hev).storeSet (hset into rfl) fun k hk => h.mem_new (hnew k hk)

/-! ### A step -/

/-- What a command writes to can be reached. -/
theorem mem_edited {c : Command} {id : RecordId} (h : s₀.Stays t s) (hedits : c.Edits s id) :
    id ∈ t.reach := by
  cases c with
  | run plugin stage set key =>
    obtain ⟨k, hk | ⟨ks, hks, hk⟩, hholds⟩ := hedits
    · exact h.confined.holds (h.mem_key hk) hholds
    · rcases set with _ | set
      · cases hks
        cases hk
      · exact h.confined.holds (h.mem_member hks k hk) hholds
  | setValue | setMeta | removeMeta | copyMeta | copyAllMeta | setError | clearError
  | addWarnings =>
    obtain ⟨k, hk, rfl⟩ := hedits
    exact h.mem_key hk
  | _ => cases hedits

/-- **A command that keeps within a scope touches nothing else.** -/
theorem exec {c : Command} (h : s₀.Stays t s) (hs : s.Sound S R L) (hc : c.Within t s)
    (hstep : s.exec c = some out) : s₀.Stays t out.2 := by
  cases c with
  | build key raw options => exact h.build hstep
  | shareKey key into => exact h.shareKey hstep
  | wrap key into => exact h.wrap hstep
  | copyKey key into => exact h.copyKey hstep
  | forgetKey key => exact h.forgetKey hstep
  | rename key how => exact h.rename (fun k hk => hc.named k.id ⟨k, hk, rfl⟩) hstep
  | setValue key value => exact h.setValue (fun k hk => hc.written k.id ⟨k, hk, rfl⟩) hstep
  | setMeta key raw text =>
    exact h.setMeta hs (fun k hk => hc.written k.id ⟨k, hk, rfl⟩) hstep
  | removeMeta key raw into => exact h.removeMeta (fun k hk => hc.written k.id ⟨k, hk, rfl⟩) hstep
  | copyMeta key source raw =>
    exact h.copyMeta hs (fun k hk => hc.written k.id ⟨k, hk, rfl⟩) hstep
  | copyAllMeta key source =>
    exact h.copyAllMeta hs (fun k hk => hc.written k.id ⟨k, hk, rfl⟩) hstep
  | rewindMeta key => exact h.rewindMeta hstep
  | currentMeta key into => exact h.walkMeta Sound.walks_currentMeta hstep
  | nextMeta key into => exact h.walkMeta Sound.walks_nextMeta hstep
  | setError key report =>
    exact h.setError hs (fun k hk => hc.written k.id ⟨k, hk, rfl⟩) hstep
  | clearError key => exact h.clearError (fun k hk => hc.written k.id ⟨k, hk, rfl⟩) hstep
  | addWarnings key reports =>
    exact h.addWarnings hs (fun k hk => hc.written k.id ⟨k, hk, rfl⟩) hstep
  | newRegistry registry => exact h.newRegistry hstep
  | insertEntry registry key => exact h.insertEntry hstep
  | removeEntry registry key into => exact h.removeEntry hstep
  | dropRegistry registry => exact h.dropRegistry hstep
  | rewindCursor cursor => exact h.rewindCursor hstep
  | currentEntry cursor registry into => exact h.walkRegistry hstep
  | nextEntry cursor registry into => exact h.walkRegistry hstep
  | newSet set => exact h.newSet (hc.sets set List.mem_cons_self) hstep
  | collect set keys => exact h.collect (hc.sets set List.mem_cons_self) hstep
  | fill set texts => exact h.fill (hc.sets set List.mem_cons_self) hstep
  | extend set keys => exact h.extend (hc.sets set List.mem_cons_self) hstep
  | append set key => exact h.append (hc.sets set List.mem_cons_self) hstep
  | appendAll set source => exact h.appendAll (hc.sets set List.mem_cons_self) hstep
  | remove set raw into => exact h.remove (hc.sets set List.mem_cons_self) hstep
  | removeKey set key into => exact h.removeKey (hc.sets set List.mem_cons_self) hstep
  | below set key into => exact h.below (hc.sets into List.mem_cons_self) hstep
  | cut set key into =>
    exact h.cut (hc.sets set List.mem_cons_self) (hc.sets into (by simp [Command.sets])) hstep
  | replace set source =>
    exact h.replace (hc.sets set List.mem_cons_self) (hc.sets source (by simp [Command.sets])) hstep
  | clear set => exact h.clear (hc.sets set List.mem_cons_self) hstep
  | shareSet set into => exact h.shareSet (hc.sets into List.mem_cons_self) hstep
  | copySet set into => exact h.copySet (hc.sets into List.mem_cons_self) hstep
  | dropSet set => exact h.dropSet (hc.sets set List.mem_cons_self) hstep
  | rewind set => exact h.rewind (hc.sets set List.mem_cons_self) hstep
  | next set into => exact h.next (hc.sets set List.mem_cons_self) hstep
  | fetch source into => exact h.fetchFrom hstep
  | configure config source =>
    refine h.configure ?_ hstep
    rintro set rfl
    exact hc.sets set List.mem_cons_self
  | setConfig config raw text => exact h.setConfig hstep
  | configToSet config set => exact h.configToSet (hc.sets set List.mem_cons_self) hstep
  | plug plugin kind config =>
    refine h.plug (hc.plugins plugin List.mem_cons_self) ?_ hc.stores hstep
    rintro set rfl
    exact hc.sets set List.mem_cons_self
  | unplug plugin => exact h.unplug (hc.plugins plugin List.mem_cons_self) hc.stores hstep
  | run plugin stage set key =>
    refine h.run hs hc.written ?_ ?_ hc.stores hstep
    · rintro name rfl
      exact hc.sets name List.mem_cons_self
    · intro hstage
      exact hc.plugins plugin (by simp [Command.plugins, hstage])
  | describe plugin into =>
    refine h.describe ?_ hstep
    rintro set rfl
    exact hc.sets set List.mem_cons_self

end Stays

/-- What a command may not touch is as it was. -/
theorem Sound.stays_exec {s : Session} {S R : List (List Key)} {L : List RecordId} {c : Command}
    {out : Reply × Session} (h : s.Sound S R L) (hstep : s.exec c = some out) :
    s.Stays (c.scope s) out.2 :=
  (Stays.refl (Confined.univ s)).exec h (c.within_scope s) hstep

/-- **A name that is pinned is kept.** -/
theorem Sound.name_exec {s : Session} {S R : List (List Key)} {L : List RecordId} {c : Command}
    {out : Reply × Session} {k : Key} (h : s.Sound S R L) (hstep : s.exec c = some out)
    (hlocked : 0 < (s.pool.record k.id).locks) (hthere : ∃ r, out.2.pool.find? k.id = some r) :
    out.2.pool.name k = s.pool.name k := by
  have hlt : k.id < s.pool.nextId := by
    obtain ⟨r, hr, -⟩ := Pool.Balanced.exists_of_locked hlocked
    exact Pool.find?_lt hr
  by_cases hrenames : c.Renames s k.id
  · -- to change a pinned name fails, and leaves the session as it is
    cases c with
    | rename key how =>
      obtain ⟨k', hk', heq⟩ := hrenames
      obtain ⟨k'', hk'', ⟨e, -, rfl⟩ | ⟨p, hp, -⟩⟩ := exec_rename hstep
      · rfl
      · obtain rfl : k' = k'' := Option.some.inj (hk'.symm.trans hk'')
        obtain ⟨change, hrename⟩ := Renaming.apply_ok hp
        obtain ⟨hzero, -⟩ := Pool.rename_ok hrename
        rw [heq] at hzero
        rw [hzero] at hlocked
        exact absurd hlocked (Nat.lt_irrefl 0)
    | _ => cases hrenames
  · exact (h.stays_exec hstep).pool.name_eq hlt hrenames hthere

/-- In every session that a host reaches, metadata came after the record that holds it. -/
theorem Reachable.forward {s : Session} (h : s.Reachable) : s.pool.Forward := by
  induction h with
  | start =>
    intro id r hr
    simp [Pool.find?] at hr
  | step hreach hstep ih => exact (hreach.sound.stays_exec hstep).pool.forward ih

/-! ### A run -/

/-- A run of commands, each of which is allowed in the session in which it is carried out. -/
inductive Runs (allowed : Session → Command → Prop) : Session → Session → Prop
  | refl (s : Session) : Runs allowed s s
  | step {s s' s'' : Session} {c : Command} {reply : Reply} :
      Runs allowed s s' → allowed s' c → s'.exec c = some (reply, s'') → Runs allowed s s''

theorem Runs.reachable {allowed : Session → Command → Prop} {s s' : Session}
    (h : Runs allowed s s') (hs : s.Reachable) : s'.Reachable := by
  induction h with
  | refl => exact hs
  | step _ _ hstep ih => exact .step ih hstep

/-- **A run that keeps within a scope touches nothing else.** -/
theorem Runs.stays {allowed : Session → Command → Prop} {t : Scope} {s s' : Session}
    (h : Runs allowed s s') (hs : s.Reachable) (hconfined : s.Confined t.reach)
    (hallowed : ∀ s' c, s.Stays t s' → allowed s' c → c.Within t s') : s.Stays t s' := by
  induction h with
  | refl => exact .refl hconfined
  | step hrun hc hstep ih => exact ih.exec (hrun.reachable hs).sound (hallowed _ _ ih hc) hstep

end Session
end ConfigKeys
