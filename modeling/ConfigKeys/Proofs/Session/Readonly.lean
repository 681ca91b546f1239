import ConfigKeys.Proofs.Plugin.Guard
import ConfigKeys.Proofs.Session.Refresh

/-!
# Memory stores that are readonly or closed

An instance that is set up readonly leaves the kept keys alone in every run of its stages, and so
does an instance that is closed, until it is opened.  All that a refused stage writes is a report,
in the metadata of the key that it is given; so a kept key changes if it is that key, or has it in
its metadata, and not otherwise.  There is nothing to take back unless an instance that may write
has written since it was opened.

## Main definitions

* `Command.SparesSetUp` — a command leaves the set-up of an instance alone.
* `Session.Refused` — a stage left a report and nothing else.
* `Session.HasGuarded` — an instance is in its slot, as it was set up.

## Main results

* `Session.Reachable.exec_fail` — what a stage leaves that fails.
* `Session.HasGuarded.exec`, `Session.HasGuarded.runs` — the guard of an instance is kept.
* `Session.readonly_never_writes` — what an instance leaves alone that is readonly or closed.
* `Session.refused_set_changes_store` — a refused write changes a key that is kept.
-/

namespace ConfigKeys

/-- A command neither makes nor gives up the instance in a slot, and unless it is a stage of that
instance, it keeps the values of the keys of its set-up. -/
structure Command.SparesSetUp (slot : String) (c : Config) (s : Session) (cmd : Command) :
    Prop where
  plug : ∀ kind config, cmd ≠ .plug slot kind config
  unplug : cmd ≠ .unplug slot
  /-- Only to set it up again would change what it is. -/
  values : (∃ stage set key, cmd = .run slot stage set key) ∨
    ∀ reply s', s.exec cmd = some (reply, s') →
      ∀ k ∈ c.entries.toList, s'.pool.value k = s.pool.value k

/-- A stage of the instance is none of these. -/
theorem Command.sparesSetUp_run (slot : String) (c : Config) (s : Session) (stage : Stage)
    (set : Option String) (key : String) : (run slot stage set key).SparesSetUp slot c s :=
  ⟨nofun, nofun, .inl ⟨stage, set, key, rfl⟩⟩

namespace Session

/-- A stage left a report on the key that it was given, and nothing else. -/
structure Refused (s : Session) (k : Key) (r : Report) (s' : Session) : Prop where
  /-- All slots and kept keys are as they were. -/
  same : s' = { s with pool := s'.pool }
  /-- The report is read as it was written. -/
  report : Report.error? s'.pool k = some r
  /-- No record was written but for the entries of an error in the metadata of the key. -/
  annotates : s.pool.Annotates Report.errorNames k.id s'.pool
  /-- No key of a set says something else, unless it is the key or has it in its metadata. -/
  others : ∀ keys ∈ s.keySets, ∀ x ∈ keys, ¬ s.pool.Holds x.id k.id →
    s'.pool.tree x.id = s.pool.tree x.id

/-- An instance is in its slot, over the kept keys of a number.  It is set up as it was, and the
text for `readonly` in its set-up is what it was; it writes as that has it. -/
structure HasGuarded (s : Session) (slot : String) (id : StoreId) (c : Config)
    (text : Option String) (m : MemoryStore) : Prop where
  plugin : s.plugins.get? slot = some (.memory id m)
  config : m.config = c
  text_eq : c.get? s.pool "readonly" = text
  guarded : m.Guarded (text = some trueToken)

variable {s s' : Session} {id : StoreId} {slot key : String} {set : Option String} {c : Config}
variable {m m' : MemoryStore} {k : Key} {ks : KeySet} {stage : Stage} {cmd : Command}
variable {reply : Reply} {status : Status} {text : Option String}

/-! ### A stage -/

/-- **A stage that fails** leaves its report, and nothing else. -/
theorem Reachable.exec_fail {r : Report} (h : s.Reachable)
    (hplugin : s.plugins.get? slot = some (.memory id m)) (hk : s.keys.get? key = some k)
    (hks : s.callerSet set = some ks)
    (hfail : m.run stage s.pool (s.store id) ks k = m.fail s.pool (s.store id) ks k r) :
    ∃ s', s.exec (.run slot stage set key) = some (.status .error, s') ∧ s.Refused k r s' := by
  obtain ⟨q, hset, -, hannotates, hreport⟩ :=
    h.sound.balanced.error?_setError (Sound.mem_handleIds hk) r
  have hattach := Report.attach_of_setError hset
  have hev := (Pool.Evolves.refl ∅ {k.id} s.pool).attach (Stays.key_lt h.sound hk) rfl r
  rw [hattach] at hev
  have hexec := exec_run hplugin hk hks stage
  have hsame : s.afterStage slot set id ⟨.error, q, m, s.store id, ks⟩ = { s with pool := q } :=
    afterStage_same (s := { s with pool := q }) hplugin hks
  rw [hfail, MemoryStore.fail, hattach, hsame] at hexec
  refine ⟨{ s with pool := q }, hexec, rfl, hreport, hannotates, fun keys hkeys x hx hout => ?_⟩
  refine h.tree_kept (h.step hexec) hev hkeys hkeys hx ?_
  rintro i rfl
  exact hout

/-- **A closed instance refuses** to read and to write. -/
theorem Reachable.exec_closed (h : s.Reachable)
    (hplugin : s.plugins.get? slot = some (.memory id m)) (hclosed : m.isOpen = false)
    (hstage : stage = .get ∨ stage = .set) (hk : s.keys.get? key = some k)
    (hks : s.callerSet set = some ks) :
    ∃ s', s.exec (.run slot stage set key) = some (.status .error, s') ∧
      s.Refused k (.tooEarly MemoryStore.pluginName stage) s' :=
  h.exec_fail hplugin hk hks (MemoryStore.run_closed hclosed hstage)

/-- **A stage of an instance that is set up readonly** leaves the same keys kept.  They say what
they said, apart from those that hold the key that a failed stage was given. -/
theorem Reachable.exec_readonly (h : s.Reachable)
    (hm : s.HasGuarded slot id c (some trueToken) m) (hk : s.keys.get? key = some k)
    (hstep : s.exec (.run slot stage set key) = some (.status status, s')) :
    s'.store id = s.store id ∧
      (∀ x ∈ (s.store id).toList, (status = .error → ¬ s.pool.Holds x.id k.id) →
        s'.pool.tree x.id = s.pool.tree x.id) ∧
      (status = .error → ∃ r, s.Refused k r s') ∧ (stage = .set → status = .error) := by
  have hid := h.sound.store_lt hm.plugin
  have hkeys := mem_keySets_of_store hid
  obtain ⟨plugin, k', ks, -, hk', hks, -⟩ := exec_run_cases hstep
  obtain rfl := Option.some.inj (hk.symm.trans hk')
  have hsetUp : m.config.getBool s.pool "readonly" = true := by
    rw [Config.getBool, hm.config, hm.text_eq, decide_eq_true rfl]
  have hguard : m.Guarded true := by simpa using hm.guarded
  rcases hguard.run_readonly hsetUp stage with ⟨r, hfail⟩ | ⟨hset, hstatus, hstore, hev⟩
  · obtain ⟨s₁, hexec, hrefused⟩ := h.exec_fail hm.plugin hk hks hfail
    obtain ⟨⟨rfl⟩, rfl⟩ := Prod.mk.inj (Option.some.inj (hstep.symm.trans hexec))
    refine ⟨?_, fun x hx hout => hrefused.others _ hkeys x hx (hout rfl), fun _ => ⟨r, hrefused⟩,
      fun _ => rfl⟩
    rw [hrefused.same]
    rfl
  · have hexec := exec_run hm.plugin hk hks stage
    obtain ⟨⟨rfl⟩, rfl⟩ := Prod.mk.inj (Option.some.inj (hstep.symm.trans hexec))
    have hkept : (s.afterStage slot set id (m.run stage s.pool (s.store id) ks k)).store id
        = s.store id := (store_afterStage hid).trans hstore
    have h' := h.step hstep
    have hkeys' := mem_keySets_of_store (h'.sound.store_lt (plugin_afterStage _ _ _ _ _))
    rw [hkept] at hkeys'
    refine ⟨hkept, fun x hx _ => ?_, fun heq => absurd heq hstatus, fun heq => absurd heq hset⟩
    exact h.tree_kept h' (hev.trans (pool_afterStage _ _ _ _ _)) hkeys hkeys' hx
      fun i hi => absurd hi (Set.notMem_empty i)

/-! ### The guard -/

theorem mem_keySets_of_config (hplugin : s.plugins.get? slot = some (.memory id m)) :
    m.config.entries.toList ∈ s.keySets :=
  mem_keySets_of_plugin hplugin (by simp [Plugin.sets, MemoryStore.sets])

/-- A new instance is guarded. -/
theorem hasGuarded_plug {kind : PluginKind} {config : Option String}
    (hstep : s.exec (.plug slot kind config) = some (reply, s'))
    (hplugin : s'.plugins.get? slot = some (.memory id m)) :
    s'.HasGuarded slot id m.config (m.config.get? s'.pool "readonly") m := by
  obtain ⟨s₁, plugin, hout, -, -, hnew⟩ := plug_cases hstep
  have hslot : s'.plugins.get? slot = some plugin := by
    show (reply, s').2.plugins.get? slot = _
    rw [hout, plugins_storePlugin, Slots.get?_put_self]
  obtain ⟨hsnapshot, hclosed⟩ := hnew id m (Option.some.inj (hslot.symm.trans hplugin))
  exact ⟨hplugin, rfl, rfl, by simp [hclosed], by simp [hsnapshot]⟩

/-- A stage of the instance keeps the values of its set-up. -/
theorem Reachable.values_run (h : s.Reachable) (hplugin : s.plugins.get? slot = some (.memory id m))
    (hstep : s.exec (.run slot stage set key) = some (reply, s'))
    (hin : m.config.entries.toList ∈ s'.keySets) :
    ∀ x ∈ m.config.entries.toList, s'.pool.value x = s.pool.value x := by
  intro x hx
  obtain ⟨plugin, k, ks, -, hk, hks, -⟩ := exec_run_cases hstep
  have hexec := exec_run hplugin hk hks stage
  obtain ⟨-, rfl⟩ := Prod.mk.inj (Option.some.inj (hstep.symm.trans hexec))
  obtain ⟨r', hr'⟩ := (h.step hstep).sound.balanced.exists_of_mem_set hin hx
  obtain ⟨r, hr⟩ := h.sound.balanced.exists_of_mem_set (mem_keySets_of_config hplugin) hx
  have hkept := (MemoryStore.run_annotates (Stays.key_lt h.sound hk) stage).trans
    ((pool_afterStage s slot set id (m.run stage s.pool (s.store id) ks k)).annotates k.id)
  obtain ⟨r₁, hr₁, -, hvalue, -⟩ := hkept.kept x.id r' (Pool.find?_lt hr) hr'
  rw [Pool.value, Pool.value, Pool.record_of_find? hr', Pool.record_of_find? hr₁, hvalue]

/-- What a host does leaves the instance in its slot, if it is no stage of it. -/
theorem Sound.plugin_spared (h : s.Sound [] [] []) (hcmd : cmd.SparesSetUp slot c s)
    (hrun : ∀ stage set key, cmd ≠ .run slot stage set key)
    (hstep : s.exec cmd = some (reply, s')) : s'.plugins.get? slot = s.plugins.get? slot := by
  refine (h.stays_exec hstep).plugins slot fun hmem => ?_
  cases cmd with
  | plug other kind config =>
    obtain rfl := List.mem_singleton.mp hmem
    exact hcmd.plug kind config rfl
  | unplug other =>
    obtain rfl := List.mem_singleton.mp hmem
    exact hcmd.unplug rfl
  | run other stage set key =>
    by_cases hget : stage = .get
    · simp [Command.scope, Command.plugins, hget] at hmem
    · have heq : slot = other := by simpa [Command.scope, Command.plugins, hget] using hmem
      exact hrun stage set key (heq ▸ rfl)
  | _ => cases hmem

/-- **The guard of an instance is kept**, as long as its set-up is left alone.  The instance
remembers nothing that it did not write. -/
theorem HasGuarded.exec (hm : s.HasGuarded slot id c text m) (h : s.Reachable)
    (hcmd : cmd.SparesSetUp slot c s) (hstep : s.exec cmd = some (reply, s')) :
    ∃ m', s'.HasGuarded slot id c text m' ∧
      (m.snapshot = none →
        (∀ set key, cmd = .run slot .set set key → s.status? cmd = some .error) →
        m'.snapshot = none) := by
  obtain ⟨hplugin, rfl, htext, hguard⟩ := hm
  have h' := h.step hstep
  have hbefore := mem_keySets_of_config hplugin
  have hasc := h.sound.balanced.ascending _ hbefore
  -- the names of the set-up are pinned, so that it says what it said if its values are kept
  have hsays : m.config.entries.toList ∈ s'.keySets →
      (∀ x ∈ m.config.entries.toList, s'.pool.value x = s.pool.value x) →
      m.config.get? s'.pool "readonly" = text := by
    intro hin hvalues
    refine (Config.get?_congr hasc (fun x hx => ?_) hvalues "readonly").trans htext
    exact h.sound.name_exec hstep (h.sound.balanced.locked_of_mem_set hbefore hx)
      (h'.sound.balanced.exists_of_mem_set hin hx)
  by_cases hrun : ∃ stage set key, cmd = .run slot stage set key
  · obtain ⟨stage, set, key, rfl⟩ := hrun
    obtain ⟨plugin, k, ks, -, hk, hks, -⟩ := exec_run_cases hstep
    have hexec := exec_run hplugin hk hks stage
    obtain ⟨rfl, rfl⟩ := Prod.mk.inj (Option.some.inj (hstep.symm.trans hexec))
    have hafter := plugin_afterStage s slot set id (m.run stage s.pool (s.store id) ks k)
    have hconfig : (m.run stage s.pool (s.store id) ks k).plugin.config = m.config :=
      MemoryStore.config_run stage
    have hin := mem_keySets_of_config hafter
    rw [hconfig] at hin
    have hsetUp : m.config.getBool s.pool "readonly" = decide (text = some trueToken) := by
      rw [Config.getBool, htext]
    refine ⟨_, ⟨hafter, hconfig, hsays hin (h.values_run hplugin hstep hin),
      hguard.run hsetUp stage⟩, fun hnone hfails => ?_⟩
    refine Option.eq_none_iff_forall_ne_some.mpr fun sn hsn => ?_
    have hold := (MemoryStore.run_of_not_writes ?_).1 sn hsn
    · rw [hnone] at hold
      cases hold
    · rintro rfl
      have hstatus := hfails set key rfl
      rw [status?, hexec] at hstatus
      exact MemoryStore.run_set_error (Option.some.inj hstatus)
  · have hkept := h.sound.plugin_spared hcmd (by simpa using hrun) hstep
    rw [hplugin] at hkept
    have hvalues := hcmd.values.resolve_left hrun reply s' hstep
    exact ⟨m, ⟨hkept, rfl, hsays (mem_keySets_of_config hkept) hvalues, hguard⟩,
      fun hnone _ => hnone⟩

/-- The guard of an instance is kept along a run. -/
theorem HasGuarded.runs {allowed : Session → Command → Prop}
    (hm : s.HasGuarded slot id c text m) (h : s.Reachable)
    (hspares : ∀ t cmd, allowed t cmd → cmd.SparesSetUp slot c t) (hrun : s.Runs allowed s') :
    ∃ m', s'.HasGuarded slot id c text m' ∧
      (m.snapshot = none →
        (∀ t set key, allowed t (.run slot .set set key) →
          t.status? (.run slot .set set key) = some .error) → m'.snapshot = none) := by
  induction hrun with
  | refl => exact ⟨m, hm, fun hnone _ => hnone⟩
  | @step t t' cmd reply hrun hcmd hstep ih =>
    obtain ⟨m₁, hm₁, hsnapshot₁⟩ := ih
    obtain ⟨m', hm', hsnapshot'⟩ := hm₁.exec (hrun.reachable h) (hspares t cmd hcmd) hstep
    refine ⟨m', hm', fun hnone hfails => hsnapshot' (hsnapshot₁ hnone hfails) ?_⟩
    rintro set key rfl
    exact hfails t set key hcmd

/-- Who has closed, or failed to write, remembers nothing. -/
theorem HasGuarded.snapshot_eq_none (hm : s.HasGuarded slot id c text m) (h : s.Reachable)
    (hstage : stage = .close ∨ stage = .set ∧ status = .error)
    (hstep : s.exec (.run slot stage set key) = some (.status status, s')) :
    ∃ m', s'.HasGuarded slot id c text m' ∧ m'.snapshot = none := by
  obtain ⟨m', hm', hsnapshot⟩ :=
    hm.exec h (Command.sparesSetUp_run slot c s stage set key) hstep
  obtain ⟨plugin, k, ks, -, hk, hks, -⟩ := exec_run_cases hstep
  have hexec := exec_run hm.plugin hk hks stage
  obtain ⟨⟨hstatus⟩, rfl⟩ := Prod.mk.inj (Option.some.inj (hstep.symm.trans hexec))
  refine ⟨m', hm', ?_⟩
  rcases hstage with rfl | ⟨rfl, hfails⟩
  · obtain ⟨⟨rfl⟩⟩ := Option.some.inj ((plugin_afterStage _ _ _ _ _).symm.trans hm'.plugin)
    rfl
  · refine hsnapshot ?_ fun set' key' heq => ?_
    · -- who remembers a write is open and may write, and would not fail
      by_contra hne
      obtain ⟨hopen, hwrite⟩ := hm.guarded.snapshot (Option.isSome_iff_ne_none.mpr hne)
      rw [MemoryStore.run_set_error hfails hopen] at hwrite
      cases hwrite
    · rw [status?, hstep, hfails]

/-- **An instance that is closed, or set up readonly, never writes.**

A closed instance refuses to read and to write, and leaves a report on the key that it is given, and
nothing else.  As long as the set-up of a new instance is left alone, whatever else is done, it
remembers a write only while it is open and may write; if it is set up readonly, its stages leave
the same keys kept, which say what they said, apart from those that hold the key that a refused
stage reports on; and once it has closed, or failed to write, there is nothing to take back until it
writes. -/
theorem readonly_never_writes :
    (∀ (s : Session) slot id m, s.Reachable → s.plugins.get? slot = some (.memory id m) →
      m.isOpen = false → ∀ stage set key k ks, stage = .get ∨ stage = .set →
      s.keys.get? key = some k → s.callerSet set = some ks →
      ∃ s', s.exec (.run slot stage set key) = some (.status .error, s') ∧
        s.Refused k (.tooEarly MemoryStore.pluginName stage) s') ∧
    ∀ (s₀ s s' : Session) slot kind config reply id m, s₀.Reachable →
      s₀.exec (.plug slot kind config) = some (reply, s) →
      s.plugins.get? slot = some (.memory id m) →
      s.Runs (fun t cmd => cmd.SparesSetUp slot m.config t) s' →
      ∃ m', s'.plugins.get? slot = some (.memory id m') ∧
        (m'.snapshot.isSome = true → m'.isOpen = true ∧ m'.readonly = false) ∧
        (m.config.get? s.pool "readonly" = some trueToken →
          ∀ stage set key k status s₁, s'.keys.get? key = some k →
          s'.exec (.run slot stage set key) = some (.status status, s₁) →
          s₁.store id = s'.store id ∧
            (∀ x ∈ (s'.store id).toList, (status = .error → ¬ s'.pool.Holds x.id k.id) →
              s₁.pool.tree x.id = s'.pool.tree x.id) ∧
            (status = .error → ∃ r, s'.Refused k r s₁) ∧ (stage = .set → status = .error)) ∧
        ∀ stage set key status s₁, stage = .close ∨ stage = .set ∧ status = .error →
          s'.exec (.run slot stage set key) = some (.status status, s₁) →
          ∀ s₂, s₁.Runs (fun t cmd => cmd.SparesSetUp slot m.config t ∧
            ∀ set key, cmd = .run slot .set set key → t.status? cmd = some .error) s₂ →
          ∀ set key k ks, s₂.keys.get? key = some k → s₂.callerSet set = some ks →
            s₂.exec (.run slot .error set key) = some (.status .noUpdate, s₂) := by
  refine ⟨?_, ?_⟩
  · intro s slot id m h hplugin hclosed stage set key k ks hstage hk hks
    exact h.exec_closed hplugin hclosed hstage hk hks
  · intro s₀ s s' slot kind config reply id m h₀ hplug hplugin hrun
    have h := h₀.step hplug
    have h' := hrun.reachable h
    obtain ⟨m', hm', -⟩ := (hasGuarded_plug hplug hplugin).runs h (fun _ _ hcmd => hcmd) hrun
    refine ⟨m', hm'.plugin, hm'.guarded.snapshot, ?_, ?_⟩
    · intro htext stage set key k status s₁ hk hstep
      rw [htext] at hm'
      exact h'.exec_readonly hm' hk hstep
    · intro stage set key status s₁ hstage hstep s₂ hrun₂ set₂ key₂ k ks hk hks
      obtain ⟨m₁, hm₁, hnone⟩ := hm'.snapshot_eq_none h' hstage hstep
      obtain ⟨m₂, hm₂, hsnapshot⟩ := hm₁.runs (h'.step hstep) (fun _ _ hcmd => hcmd.1) hrun₂
      refine exec_error_nothing hm₂.plugin (hsnapshot hnone fun t set key hcmd => ?_) hk hks
      exact hcmd.2 set key rfl

/-- The number under which an instance keeps keys, if it is set up readonly. -/
def readonlyStore? (s : Session) (slot : String) : Option StoreId :=
  match s.plugins.get? slot with
  | some (.memory id m) => if m.config.getBool s.pool "readonly" then some id else none
  | _ => none

theorem exists_of_readonlyStore? (h : s.readonlyStore? slot = some id) :
    ∃ m, s.plugins.get? slot = some (.memory id m) ∧
      m.config.get? s.pool "readonly" = some trueToken := by
  unfold readonlyStore? at h
  split at h
  · next id' m hget =>
    simp only [Option.ite_none_right_eq_some, Config.getBool, decide_eq_true_iff] at h
    obtain ⟨htext, ⟨⟩⟩ := h
    exact ⟨m, hget, htext⟩
  · cases h

/-- A readonly instance over a kept key refuses to write, closes, refuses to read and is opened
again.  The kept key says what it said, and there is nothing to take back. -/
theorem readonly_never_writes_reopened :
    ∃ (s s₁ s₂ s₃ t : Session) (k x : Key), s.keys.get? "parent" = some k ∧
      (s.store 0).toList = [x] ∧
      s.exec (.run "store" .set none "parent") = some (.status .error, s₁) ∧
      s₁.store 0 = s.store 0 ∧ s₁.pool.tree x.id = s.pool.tree x.id ∧
      s₁.exec (.run "store" .close none "parent") = some (.status .success, s₂) ∧
      s₂.exec (.run "store" .get none "parent") = some (.status .error, t) ∧
      Report.error? t.pool k = some (.tooEarly MemoryStore.pluginName .get) ∧
      s₂.exec (.run "store" .opening none "parent") = some (.status .success, s₃) ∧
      s₃.exec (.run "store" .error none "parent") = some (.status .noUpdate, s₃) := by
  have hrun : ((Session.execAll {} [.configure "setup" .nothing,
      .setConfig "setup" "/readonly" "true", .build "parent" "user/a" [],
      .build "key" "user/a/b" [], .collect "set" ["key"]]).bind fun s₀ =>
    (s₀.exec (.plug "store" (.keeping "set") (some "setup"))).bind fun o =>
    (o.2.exec (.run "store" .opening none "parent")).bind fun o' =>
    (o'.2.exec (.run "store" .set none "parent")).bind fun o₁ =>
    (o₁.2.exec (.run "store" .close none "parent")).bind fun o₂ =>
    (o₂.2.exec (.run "store" .opening none "parent")).map fun o₃ => decide (
      o.2.readonlyStore? "store" = some 0 ∧
      o'.2.status? (.run "store" .set none "parent") = some .error ∧
      o₁.2.status? (.run "store" .close none "parent") = some .success ∧
      o₂.2.status? (.run "store" .opening none "parent") = some .success ∧
      o'.2.keys.get? "parent" = some ⟨1, {}⟩ ∧ (o'.2.store 0).toList = [⟨2, {}⟩] ∧
      o₁.2.keys.get? "parent" = some ⟨1, {}⟩ ∧ o₂.2.keys.get? "parent" = some ⟨1, {}⟩ ∧
      o₃.2.keys.get? "parent" = some ⟨1, {}⟩)) = some true := by decide +kernel
  obtain ⟨s₀, hs₀, hrun⟩ := Option.bind_eq_some_iff.mp hrun
  obtain ⟨⟨_, s⟩, hplug, hrun⟩ := Option.bind_eq_some_iff.mp hrun
  obtain ⟨⟨_, s'⟩, hopen, hrun⟩ := Option.bind_eq_some_iff.mp hrun
  obtain ⟨⟨_, s₁⟩, hset, hrun⟩ := Option.bind_eq_some_iff.mp hrun
  obtain ⟨⟨_, s₂⟩, hclose, hrun⟩ := Option.bind_eq_some_iff.mp hrun
  obtain ⟨⟨_, s₃⟩, hagain, hfacts⟩ := Option.map_eq_some_iff.mp hrun
  obtain ⟨hplugin, hfails, hcloses, hopens, hk, hx, hk₁, hk₂, hk₃⟩ := of_decide_eq_true hfacts
  obtain rfl := reply_eq hfails hset
  obtain rfl := reply_eq hcloses hclose
  obtain rfl := reply_eq hopens hagain
  have h₀ := Reachable.start.execAll hs₀
  have h := h₀.step hplug
  have h' := h.step hopen
  obtain ⟨m, hplugin, htext⟩ := exists_of_readonlyStore? hplugin
  obtain ⟨hrefuses, hspared⟩ := readonly_never_writes
  have hrun : s.Runs (fun t cmd => cmd.SparesSetUp "store" m.config t) s' :=
    (Runs.refl s).step (Command.sparesSetUp_run _ _ _ _ _ _) hopen
  obtain ⟨m', -, -, hsafe, -⟩ := hspared s₀ s s' _ _ _ _ 0 m h₀ hplug hplugin hrun
  obtain ⟨hstore, htrees, -, -⟩ := hsafe htext _ _ _ _ _ _ hk hset
  obtain ⟨m₁, hplugin₁, -, -, hnothing⟩ := hspared s₀ s s₁ _ _ _ _ 0 m h₀ hplug hplugin
    (hrun.step (Command.sparesSetUp_run _ _ _ _ _ _) hset)
  have herror := hnothing _ _ _ _ s₂ (.inl rfl) hclose s₃ ((Runs.refl s₂).step
    ⟨Command.sparesSetUp_run _ _ _ _ _ _, fun _ _ h => by cases h⟩ hagain) none "parent" _ _ hk₃ rfl
  -- the instance is closed after the stage that closes it
  obtain ⟨m₂, hplugin₂, hclosed⟩ : ∃ m₂, s₂.plugins.get? "store" = some (.memory 0 m₂) ∧
      m₂.isOpen = false := by
    have hexec := exec_run hplugin₁ hk₁ (rfl : s₁.callerSet none = some {}) .close
    obtain ⟨-, rfl⟩ := Prod.mk.inj (Option.some.inj (hclose.symm.trans hexec))
    exact ⟨_, plugin_afterStage _ _ _ _ _, rfl⟩
  obtain ⟨t, hget, hrefused⟩ := hrefuses s₂ "store" 0 m₂ ((h'.step hset).step hclose) hplugin₂
    hclosed .get none "parent" _ _ (.inl rfl) hk₂ rfl
  refine ⟨s', s₁, s₂, s₃, t, _, _, hk, hx, hset, hstore, ?_, hclose, hget, hrefused.report, hagain,
    herror⟩
  refine htrees _ (hx ▸ List.mem_cons_self) fun _ hholds => ?_
  -- the metadata of a key was made after it, and the parent before the kept key
  exact absurd (hholds.le h'.forward) (by decide)

/-- **A refused write changes a key that is kept**: the host makes the store of a set with a key
that it holds, and gives the key as the parent. -/
theorem refused_set_changes_store :
    ∃ s s' k, Session.execAll {} [.configure "setup" .nothing,
        .setConfig "setup" "/readonly" "true", .build "key" "user/a" [], .collect "set" ["key"],
        .plug "store" (.keeping "set") (some "setup"),
        .run "store" .opening none "key"] = some s ∧
      s.exec (.run "store" .set none "key") = some (.status .error, s') ∧
      (s.store 0).toList = [k] ∧ (s'.store 0).toList = [k] ∧
      s.pool.entries k = [] ∧ s'.pool.entries k ≠ [] := by
  have hrun : ((Session.execAll {} [.configure "setup" .nothing,
        .setConfig "setup" "/readonly" "true", .build "key" "user/a" [], .collect "set" ["key"],
        .plug "store" (.keeping "set") (some "setup"),
        .run "store" .opening none "key"]).bind fun s =>
      (s.exec (.run "store" .set none "key")).bind fun o =>
      (s.keys.get? "key").map fun k => decide (
        s.status? (.run "store" .set none "key") = some .error ∧
        (s.store 0).toList = [k] ∧ (o.2.store 0).toList = [k] ∧
        s.pool.entries k = [] ∧ o.2.pool.entries k ≠ [])) = some true := by decide +kernel
  obtain ⟨s, hs, hrun⟩ := Option.bind_eq_some_iff.mp hrun
  obtain ⟨⟨reply, s'⟩, hset, hrun⟩ := Option.bind_eq_some_iff.mp hrun
  obtain ⟨k, -, hfacts⟩ := Option.map_eq_some_iff.mp hrun
  obtain ⟨hstatus, hfacts⟩ := of_decide_eq_true hfacts
  obtain rfl := reply_eq hstatus hset
  exact ⟨s, s', k, hs, hset, hfacts⟩

end Session
end ConfigKeys
