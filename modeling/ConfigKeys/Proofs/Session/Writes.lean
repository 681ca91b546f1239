import ConfigKeys.Proofs.Session.Isolation

/-!
# Writes that are taken back, and writes that are read

Between a write and what follows on it a host may do anything else.  What a write replaced stays
with the instance that wrote, and so does a copy of the parent; what it wrote stays in the store.
Callers have no handle to any of these: what an instance brings back is what was there, below the
name that the parent had, and what an instance reads is what was written.

## Main results

* `Session.Reachable.error_restores` — to take a write back restores what it replaced.
* `Session.Reachable.get_returns_set` — to write changes what is kept below the parent only, and
  any instance reads what was written.
-/

namespace ConfigKeys
namespace Session

/-- **To take a write back restores what it replaced**, whatever was done since then with other
instances, keys and sets, and even with the key that named the parent: below the parent the same
records are kept under the same names, and beside it all stays as it is.  What they say is what they
said, unless callers had a handle to them already.  There is nothing left to take back. -/
theorem Reachable.error_restores {s : Session} (h : s.Reachable) {a key : String} {id : StoreId}
    {m : MemoryStore} {k : Key} {set : Option String} {ks : KeySet}
    (hplugin : s.plugins.get? a = some (.memory id m)) (hopen : m.isOpen = true)
    (hwrite : m.readonly = false) (hk : s.keys.get? key = some k)
    (hks : s.callerSet set = some ks) :
    ∃ s₁, s.exec (.run a .set set key) = some (.status .success, s₁) ∧
      ∀ s₂, s₁.Runs (fun _ c => a ∉ c.plugins) s₂ → ∀ key' set',
        (∃ k', s₂.keys.get? key' = some k') → (∃ ks', s₂.callerSet set' = some ks') →
        ∃ s₃, s₂.exec (.run a .error set' key') = some (.status .success, s₃) ∧
          s₃.storedBelow id (s.pool.name k) = s.storedBelow id (s.pool.name k) ∧
          (s.Sealed (s.storedBelow id (s.pool.name k)) →
            ∀ e ∈ s.storedBelow id (s.pool.name k), s₃.pool.tree e.2 = s.pool.tree e.2) ∧
          s₃.storedBeside id (s.pool.name k) = s₂.storedBeside id (s.pool.name k) ∧
          (∀ e ∈ s₂.storedBeside id (s.pool.name k), s₃.pool.tree e.2 = s₂.pool.tree e.2) ∧
          ∀ key'' set'', (∃ k'', s₃.keys.get? key'' = some k'') →
            (∃ ks'', s₃.callerSet set'' = some ks'') →
            s₃.exec (.run a .error set'' key'') = some (.status .noUpdate, s₃) := by
  obtain ⟨sn, s₁, hset, hwritten⟩ := h.sound.exec_set h.forward hplugin hopen hwrite hk hks
  refine ⟨s₁, hset, ?_⟩
  rintro s₂ hrun key' set' ⟨k', hk'⟩ ⟨ks', hks'⟩
  have h₁ := h.step hset
  have h₂ := hrun.reachable h₁
  -- the instance still remembers what it replaced, under the names that it had
  have hplugin₂ := (hrun.plugin_kept h₁).trans hwritten.plugin
  have hremembers₁ : s₁.Remembers id sn := ⟨_, Slots.mem_contents hwritten.plugin, rfl⟩
  have hremembers₂ : s₂.Remembers id sn := ⟨_, Slots.mem_contents hplugin₂, rfl⟩
  have hnames := hrun.names_kept h₁ fun s' hrun =>
    mem_keySets_of_plugin ((hrun.plugin_kept h₁).trans hwritten.plugin) (.tail _ (.head _))
  have hpairs : s₂.pool.pairs sn.keys.toList = s.storedBelow id (s.pool.name k) :=
    (Pool.pairs_congr hnames).trans hwritten.replaced
  -- and the parent, whatever became of the key that named it
  have hname : s₂.pool.name sn.parent = s.pool.name k :=
    (h₁.name_parent hremembers₁ hrun hremembers₂).trans hwritten.name_parent
  obtain ⟨s₃, herror, hev, hplugin₃, hin, hbeside⟩ :=
    h₂.sound.exec_error hplugin₂ rfl (h₂.remembered_below hremembers₂) hk' hks'
  rw [hpairs] at hin
  rw [hname] at hin hbeside
  have h₃ := h₂.step herror
  have hid₃ := h₃.sound.store_lt hplugin₃
  refine ⟨s₃, herror, hin, ?_, hbeside,
    h₂.trees_beside h₃ hev (h₂.sound.store_lt hplugin₂) hid₃ hbeside, ?_⟩
  · intro hsealed
    have hall : s.Runs (fun _ _ => True) s₃ :=
      (((Runs.refl s).step trivial hset).trans (hrun.mono fun _ _ _ => trivial)).step trivial herror
    refine hsealed.trees_kept h hall (fun e he => ?_) fun e he => ?_
    · obtain ⟨r, hr⟩ := h.sound.exists_of_stored (h.sound.store_lt hplugin)
        (Pool.mem_pairsBelow.mp he).1
      exact Pool.find?_lt hr
    · exact h₃.sound.exists_of_stored hid₃ (Pool.mem_pairsBelow.mp (hin.symm ▸ he)).1
  · rintro key'' set'' ⟨k'', hk''⟩ ⟨ks'', hks''⟩
    exact exec_error_nothing hplugin₃ rfl hk'' hks''

/-- A write of nothing takes away the key that is kept below the parent.  The caller's key and the
parent change, and then the write is taken back: the record of the kept key is there again, and says
what it said. -/
theorem Reachable.error_restores_renamed :
    ∃ (s s₁ s₂ s₃ : Session) (n : Name) (e : Name × RecordId),
      s.exec (.run "store" .set none "parent") = some (.status .success, s₁) ∧
      s₁.execAll [.setValue "key" (.ofText "changed"), .rename "parent" (.whole "user/c")]
        = some s₂ ∧
      s₂.exec (.run "store" .error none "parent") = some (.status .success, s₃) ∧
      s.storedBelow 0 n = [e] ∧ s₁.storedBelow 0 n = [] ∧
      s₃.storedBelow 0 n = [e] ∧ s₃.pool.tree e.2 = s.pool.tree e.2 := by
  have hrun : ((Session.execAll {} [.plug "store" .memory none, .build "parent" "user/a" [],
      .build "key" "user/a/b" [], .collect "set" ["key"],
      .run "store" .opening none "parent"]).bind fun s₀ =>
        (s₀.exec (.run "store" .set (some "set") "parent")).bind fun o =>
        (o.2.exec (.run "store" .set none "parent")).bind fun o₁ =>
        (o₁.2.execAll [.setValue "key" (.ofText "changed"), .rename "parent" (.whole "user/c")]).map
          fun s₂ => decide ((s₀.writableStore? "store" = some 0 ∧
              s₀.keys.get? "parent" = some ⟨0, {}⟩ ∧ (s₀.sets.get? "set").isSome) ∧
            (o.2.writableStore? "store" = some 0 ∧ o.2.keys.get? "parent" = some ⟨0, {}⟩ ∧
              o.2.pool.name ⟨0, {}⟩ = s₀.pool.name ⟨0, {}⟩ ∧
              o.2.storedBelow 0 (s₀.pool.name ⟨0, {}⟩) = [(⟨.user, ["a", "b"]⟩, 2)]) ∧
            o₁.2.storedBelow 0 (s₀.pool.name ⟨0, {}⟩) = [] ∧
            s₂.keys.get? "parent" = some ⟨0, {}⟩)) = some true := by decide +kernel
  obtain ⟨s₀, h₀, hrun⟩ := Option.bind_eq_some_iff.mp hrun
  obtain ⟨⟨reply, s⟩, hset, hrun⟩ := Option.bind_eq_some_iff.mp hrun
  obtain ⟨⟨reply₁, s₁⟩, hset₁, hrun⟩ := Option.bind_eq_some_iff.mp hrun
  obtain ⟨s₂, hrun₂, hfacts⟩ := Option.map_eq_some_iff.mp hrun
  obtain ⟨⟨hstore₀, hk₀, hsome⟩, ⟨hstore, hk, hname, hkept⟩, hgone, hk₂⟩ := of_decide_eq_true hfacts
  obtain ⟨ks, hks⟩ := Option.isSome_iff_exists.mp hsome
  have hreach := Reachable.start.execAll h₀
  have hcaller : s₀.callerSet (some "set") = some ks := hks
  -- what is kept came from a write, so that callers cannot reach it
  have hsealed : s.Sealed (s.storedBelow 0 (s.pool.name ⟨0, {}⟩)) := by
    obtain ⟨m, hplugin, hopen, hwrite⟩ := exists_of_writableStore? hstore₀
    obtain ⟨sn, s', hset', hwritten⟩ :=
      hreach.sound.exec_set hreach.forward hplugin hopen hwrite hk₀ hcaller
    rw [hname, (Prod.mk.inj (Option.some.inj (hset.symm.trans hset'))).2]
    exact hwritten.sealed hreach hwritten.new
  obtain ⟨m, hplugin, hopen, hwrite⟩ := exists_of_writableStore? hstore
  have hnone : s.callerSet none = some {} := rfl
  obtain ⟨s₁', hset₁', hrestores⟩ :=
    (hreach.step hset).error_restores hplugin hopen hwrite hk hnone
  obtain rfl : s₁ = s₁' := (Prod.mk.inj (Option.some.inj (hset₁.symm.trans hset₁'))).2
  have hrun' : s₁.Runs (fun _ c => "store" ∉ c.plugins) s₂ :=
    Runs.execAll (by simp [Command.plugins]) hrun₂
  obtain ⟨s₃, herror, hin, htrees, -⟩ := hrestores s₂ hrun' "parent" none ⟨_, hk₂⟩ ⟨_, rfl⟩
  rw [hname, hkept] at hin htrees hsealed
  exact ⟨s, s₁, s₂, s₃, _, _, hset₁', hrun₂, herror, hkept, hgone, hin,
    htrees hsealed _ List.mem_cons_self⟩

/-- **What is written is read.**  A write puts copies of the caller's keys at or below the parent in
the place of what was kept there, and leaves what is kept beside it.  Until the kept keys change
again, any open instance reads these keys into an empty set, as they were when they were written. -/
theorem Reachable.get_returns_set {s : Session} (h : s.Reachable) {a key : String} {id : StoreId}
    {m : MemoryStore} {k : Key} {set : Option String} {ks : KeySet}
    (hplugin : s.plugins.get? a = some (.memory id m)) (hopen : m.isOpen = true)
    (hwrite : m.readonly = false) (hk : s.keys.get? key = some k)
    (hks : s.callerSet set = some ks) :
    ∃ p plugins stores, let s₁ := { s with pool := p, plugins, stores }
      s.exec (.run a .set set key) = some (.status .success, s₁) ∧
      s₁.storedBeside id (s.pool.name k) = s.storedBeside id (s.pool.name k) ∧
      (∀ e ∈ s.storedBeside id (s.pool.name k), p.tree e.2 = s.pool.tree e.2) ∧
      (s₁.storedBelow id (s.pool.name k)).map (fun e => p.tree e.2)
        = (s.pool.pairsBelow ks.toList (s.pool.name k)).map (fun e => s.pool.tree e.2) ∧
      (∀ e ∈ s₁.storedBelow id (s.pool.name k), s.pool.nextId ≤ e.2) ∧
      ∀ s₂, s₁.Runs (fun s' c => ¬ c.Changes s' id) s₂ → ∀ b m' key' k' into ks',
        s₂.plugins.get? b = some (.memory id m') → m'.isOpen = true →
        s₂.keys.get? key' = some k' → s₂.pool.name k' = s.pool.name k →
        s₂.sets.get? into = some ks' → ks'.toList = [] →
        ∃ s₃ read, s₂.exec (.run b .get (some into) key') = some (.status
            (if (s.pool.pairsBelow ks.toList (s.pool.name k)).isEmpty then .noUpdate
              else .success), s₃) ∧
          s₃.sets.get? into = some read ∧
          (read.toList.map fun x => s₃.pool.tree x.id)
            = (s.pool.pairsBelow ks.toList (s.pool.name k)).map fun e => s.pool.tree e.2 := by
  obtain ⟨sn, s', hset, hwritten⟩ := h.sound.exec_set h.forward hplugin hopen hwrite hk hks
  obtain ⟨p, plugins, stores, rfl⟩ := hwritten.callers
  refine ⟨p, plugins, stores, ?_⟩
  intro s₁
  have h₁ : s₁.Reachable := h.step hset
  have hid := h₁.sound.store_lt hwritten.plugin
  have hbeside := h.trees_beside h₁ hwritten.stored.evolves (h.sound.store_lt hplugin) hid
    hwritten.beside
  refine ⟨hset, hwritten.beside, hbeside, hwritten.stored.trees,
    fun e he => (hwritten.new e he).1, ?_⟩
  intro s₂ hrun b m' key' k' into ks' hplugin₂ hopen' hk' hname hks' hempty
  have h₂ := hrun.reachable h₁
  -- the kept keys are those that were written, and callers cannot reach them
  have hbelow := hrun.storedBelow_kept h₁ hid (s.pool.name k)
  have hsealed : s₁.Sealed (s₁.storedBelow id (s.pool.name k)) :=
    hwritten.sealed h hwritten.new
  have htrees₂ : (s₂.storedBelow id (s.pool.name k)).map (fun e => s₂.pool.tree e.2)
      = (s.pool.pairsBelow ks.toList (s.pool.name k)).map fun e => s.pool.tree e.2 := by
    rw [hbelow]
    refine Eq.trans (List.map_congr_left ?_) hwritten.stored.trees
    refine hsealed.trees_kept h₁ hrun (fun e he => (hwritten.new e he).2) fun e he => ?_
    exact h₂.sound.exists_of_stored (h₂.sound.store_lt hplugin₂)
      (Pool.mem_pairsBelow.mp (hbelow.symm ▸ he)).1
  obtain ⟨s₃, read, hget, hread, hcopies⟩ :=
    h₂.sound.exec_get h₂.forward hplugin₂ hopen' hk' hks' hempty
  rw [hname] at hget hcopies
  refine ⟨s₃, read, hget.trans ?_, hread, hcopies.trans htrees₂⟩
  have hlength := congrArg List.length htrees₂
  rw [List.length_map, List.length_map] at hlength
  rw [hlength]
  rcases s.pool.pairsBelow ks.toList (s.pool.name k) with _ | ⟨e, entries⟩ <;> rfl

/-- A key below the parent is written beside one whose name only begins alike.  The caller's key
changes, and then another instance of the store opens and reads what was written. -/
theorem Reachable.get_returns_set_shared :
    ∃ (s s₁ s₂ s₃ : Session) (read : KeySet) (e : Name × RecordId),
      s.exec (.run "store" .set (some "set") "parent") = some (.status .success, s₁) ∧
      s₁.execAll [.setValue "key" (.ofText "changed"), .run "other" .opening none "parent",
        .newSet "read"] = some s₂ ∧
      s₂.exec (.run "other" .get (some "read") "parent") = some (.status .success, s₃) ∧
      s₃.sets.get? "read" = some read ∧
      (read.toList.map fun k => s₃.pool.tree k.id) = [s.pool.tree e.2] := by
  have hrun : ((Session.execAll {} [.plug "store" .memory none,
      .plug "other" (.sharing "store") none, .build "parent" "user/app" [],
      .build "key" "user/app/a" [], .build "beside" "user/app-data" [],
      .collect "set" ["key", "beside"], .run "store" .opening none "parent"]).bind fun s =>
        (s.exec (.run "store" .set (some "set") "parent")).bind fun o =>
        (o.2.execAll [.setValue "key" (.ofText "changed"), .run "other" .opening none "parent",
          .newSet "read"]).map fun s₂ => decide ((s.writableStore? "store" = some 0 ∧
            s.keys.get? "parent" = some ⟨0, {}⟩ ∧
            (s.sets.get? "set").map (fun ks => s.pool.pairsBelow ks.toList (s.pool.name ⟨0, {}⟩))
              = some [(⟨.user, ["app", "a"]⟩, 1)]) ∧
          (s₂.writableStore? "other" = some 0 ∧ s₂.keys.get? "parent" = some ⟨0, {}⟩ ∧
            s₂.pool.name ⟨0, {}⟩ = s.pool.name ⟨0, {}⟩) ∧
          (s₂.sets.get? "read").map KeySet.toList = some [])) = some true := by decide +kernel
  obtain ⟨s, hs, hrun⟩ := Option.bind_eq_some_iff.mp hrun
  obtain ⟨⟨reply, s₁⟩, hset, hrun⟩ := Option.bind_eq_some_iff.mp hrun
  obtain ⟨s₂, hrun₂, hfacts⟩ := Option.map_eq_some_iff.mp hrun
  obtain ⟨⟨hstore, hk, hpairs⟩, ⟨hstore₂, hk₂, hname⟩, hread⟩ := of_decide_eq_true hfacts
  obtain ⟨ks, hks, hpairs⟩ := Option.map_eq_some_iff.mp hpairs
  obtain ⟨ks', hks', hempty⟩ := Option.map_eq_some_iff.mp hread
  obtain ⟨m, hplugin, hopen, hwrite⟩ := exists_of_writableStore? hstore
  obtain ⟨m', hplugin', hopen', -⟩ := exists_of_writableStore? hstore₂
  have hcaller : s.callerSet (some "set") = some ks := hks
  obtain ⟨p, plugins, stores, hset', -, -, -, -, hreads⟩ :=
    (Reachable.start.execAll hs).get_returns_set hplugin hopen hwrite hk hcaller
  obtain rfl : s₁ = { s with pool := p, plugins, stores } :=
    (Prod.mk.inj (Option.some.inj (hset.symm.trans hset'))).2
  have hrun' : Runs (fun s' c => ¬ c.Changes s' 0) _ s₂ :=
    Runs.execAll (by simp [Command.Changes]) hrun₂
  obtain ⟨s₃, read, hget, hread, hcopies⟩ := hreads s₂ hrun' "other" m' "parent" _ "read" ks'
    hplugin' hopen' hk₂ hname hks' hempty
  rw [hpairs] at hget hcopies
  exact ⟨s, _, s₂, s₃, read, _, hset', hrun₂, hget, hread, hcopies⟩

end Session
end ConfigKeys
