import ConfigKeys.Proofs.Session.Sets

/-!
# Steps on configurations and plugins keep sessions sound

## Main results

* `Session.Sound.configure`, `Session.Sound.setConfig`, `Session.Sound.configToSet` — steps on
  configurations.
* `Session.Sound.plug`, `Session.Sound.unplug`, `Session.Sound.run`, `Session.Sound.describe` —
  steps on plugins.
-/

namespace ConfigKeys

/-! ### What a stage leaves alone -/

/-- A stage leaves an instance on the kept keys that it works on. -/
theorem Plugin.run_store? (plugin : Plugin) (stage : Stage) (p : Pool) (store keys : KeySet)
    (k : Key) : (plugin.run stage p store keys k).plugin.store? = plugin.store? := by
  cases plugin <;> rfl

/-- A stage of an instance that keeps no keys makes none. -/
theorem Plugin.run_store_of_none {plugin : Plugin} (hstore : plugin.store? = none) (stage : Stage)
    (p : Pool) (store keys : KeySet) (k : Key) :
    (plugin.run stage p store keys k).store = store := by
  cases plugin with
  | memory id m => cases hstore
  | charsetFilter f => rfl
  | plain name => rfl

namespace Session.Sound

variable {s : Session} {S R : List (List Key)} {L : List RecordId} {ks : KeySet} {k : Key}
variable {slot key into raw text : String} {maybe : Option String} {out : Reply × Session}

/-! ### Configurations -/

/-- A record in a configuration is there. -/
theorem exists_of_configured {c : Config} (h : s.Sound S R L) (hget : s.configs.get? slot = some c)
    (hk : k ∈ c.entries.toList) : ∃ r, s.pool.find? k.id = some r :=
  (h.takeConfig hget).balanced.exists_of_mem_set List.mem_cons_self hk

theorem configure {source : ConfigSource} (h : s.Sound S R L)
    (hstep : s.configure slot source = some out) : out.2.Sound S R L := by
  cases source with
  | nothing =>
    cases hstep
    exact storeConfig (c := {}) h.withEmptySet slot
  | text toml =>
    rw [Session.configure] at hstep
    rcases hload : Config.ofToml s.pool toml with e | ⟨p, c⟩
    · rw [hload] at hstep
      cases hstep
      exact h
    · rw [hload] at hstep
      cases hstep
      exact storeConfig (s := { s with pool := p }) ⟨h.balanced.ofToml hload, h.stored⟩ slot
  | set source =>
    obtain ⟨ks, hks, ⟨⟩⟩ := Option.bind_eq_some_iff.mp hstep
    exact storeConfig (c := ⟨ks⟩) (h.takeSet hks) slot

theorem setConfig (h : s.Sound S R L) (hstep : s.setConfig slot raw text = some out) :
    out.2.Sound S R L := by
  obtain ⟨c, hc, hstep⟩ := Option.bind_eq_some_iff.mp hstep
  rcases hset : c.set s.pool raw text with e | ⟨p, c'⟩
  · rw [hset] at hstep
    cases hstep
    exact h
  · rw [hset] at hstep
    cases hstep
    exact returnConfig (s := { s with pool := p })
      ⟨(h.takeConfig hc).balanced.setConfig hset, h.stored⟩

theorem configToSet (h : s.Sound S R L) (hstep : s.configToSet slot into = some out) :
    out.2.Sound S R L := by
  obtain ⟨c, hc, ⟨⟩⟩ := Option.bind_eq_some_iff.mp hstep
  exact (h.takeConfig hc).storeSet into

/-! ### Plugins that come and go -/

theorem setUp {config : Option String} {p : Pool} {c : Config} (h : s.Sound S R L)
    (hsetUp : s.setUp config = some (p, c)) :
    { s with pool := p }.Sound (c.entries.toList :: S) R L := by
  rcases config with _ | slot
  · cases hsetUp
    exact ⟨h.balanced.newSet, h.stored⟩
  · obtain ⟨c₀, hc, ⟨⟩⟩ := Option.bind_eq_some_iff.mp hsetUp
    have hmem : c₀.entries.toList ∈ S ++ s.keySets :=
      List.mem_append_right S ((keySets_clearConfig hc).mem_iff.mpr List.mem_cons_self)
    exact ⟨h.balanced.share hmem, h.stored⟩

/-- Kept keys of a new number. -/
theorem pushStore (h : s.Sound (ks.toList :: S) R L) :
    { s with stores := s.stores.push ks }.Sound S R L := by
  refine ⟨h.balanced.perm_sets ?_, ?_⟩
  · exact ((keySets_pushStore s ks).append_left S).trans List.perm_middle
  · intro plugin hplugin id hid
    rw [Array.size_push]
    exact Nat.lt_succ_of_lt (h.stored plugin hplugin id hid)

theorem plug {kind : PluginKind} {config : Option String} (h : s.Sound S R L)
    (hstep : s.plug slot kind config = some out) : out.2.Sound S R L := by
  obtain ⟨⟨p, c⟩, hsetUp, hstep⟩ := Option.bind_eq_some_iff.mp hstep
  have hset := h.setUp hsetUp
  cases kind with
  | memory =>
    cases hstep
    refine storePlugin (S := S) hset.withEmptySet.pushStore rfl ?_ slot
    rintro id ⟨⟩
    rw [Array.size_push]
    exact Nat.lt_succ_self _
  | sharing other =>
    obtain ⟨plugin, hplugin, hstep⟩ := Option.bind_eq_some_iff.mp hstep
    cases plugin with
    | memory id m =>
      cases hstep
      refine storePlugin (S := S) hset rfl ?_ slot
      rintro id' ⟨⟩
      exact hset.stored _ (Slots.mem_contents hplugin) id rfl
    | charsetFilter f => cases hstep
    | plain name => cases hstep
  | keeping set =>
    obtain ⟨ks, hks, ⟨⟩⟩ := Option.bind_eq_some_iff.mp hstep
    refine storePlugin (S := S) (hset.takeSet hks).pushStore rfl ?_ slot
    rintro id ⟨⟩
    rw [Array.size_push]
    exact Nat.lt_succ_self _
  | charsetFilter =>
    cases hstep
    refine storePlugin (S := S) hset rfl ?_ slot
    rintro id ⟨⟩
  | plain name =>
    cases hstep
    refine storePlugin (S := S) (s := { s with pool := c.drop p }) ?_ rfl ?_ slot
    · exact ⟨hset.balanced.dropSet, hset.stored⟩
    · rintro id ⟨⟩

theorem unplug (h : s.Sound S R L) (hstep : s.unplug slot = some out) : out.2.Sound S R L := by
  obtain ⟨plugin, hplugin, ⟨⟩⟩ := Option.bind_eq_some_iff.mp hstep
  exact h.clearPlugin hplugin

/-! ### Stages -/

/-- The key sets at work in a stage are those of the session and the caller's keys. -/
theorem stageSets_perm (S own : List (List Key)) (store ks : KeySet) {others all : List (List Key)}
    (hall : all.Perm (own ++ store.toList :: others)) :
    (stageSets store ks own (S ++ others)).Perm ((ks.toList :: S) ++ all) := by
  rw [List.perm_iff_count] at hall ⊢
  intro keys
  have hkeys := hall keys
  simp only [stageSets, List.count_append, List.count_cons] at hkeys ⊢
  omega

/-- A stage on the caller's keys, be they in a slot or not. -/
theorem runStage {plugin : Plugin} (h : s.Sound (ks.toList :: S) R L)
    (hplugin : s.plugins.get? slot = some plugin) (hk : s.keys.get? key = some k)
    (stage : Stage) :
    let o := plugin.run stage s.pool ((plugin.store?.map s.store).getD {}) ks k
    { s with
      pool := o.pool
      plugins := s.plugins.put slot o.plugin
      stores := match plugin.store? with
        | none => s.stores
        | some id => s.stores.setIfInBounds id o.store }.Sound (o.keys.toList :: S) R L := by
  intro o
  have hsame : o.plugin.store? = plugin.store? := plugin.run_store? stage _ _ _ k
  have hclear := keySets_clearPlugin hplugin
  have hparent : k.id ∈ { s with plugins := s.plugins.clear slot }.handleIds := mem_handleIds hk
  have hbal := h.balanced.perm_handles (handleIds_clearPlugin hplugin).symm
  have hput := handleIds_putPlugin s slot o.plugin
  have hthere := h.stored plugin (Slots.mem_contents hplugin)
  have hstored : ∀ other ∈ (s.plugins.put slot o.plugin).contents, ∀ id,
      other.store? = some id → id < s.stores.size := by
    intro other hother id hid
    rcases Slots.mem_put hother with rfl | hother
    · exact hthere id (hsame ▸ hid)
    · exact h.stored other hother id hid
  rcases hid : plugin.store? with _ | id
  · -- there are no kept keys at work, before the stage or after it
    have hnone : (plugin.store?.map s.store).getD {} = {} := by rw [hid]; rfl
    have hstore : o.store = {} := (Plugin.run_store_of_none hid stage _ _ _ k).trans hnone
    have hbefore := stageSets_perm S plugin.sets {} ks
      ((hclear.cons []).trans List.perm_middle.symm)
    have hwork := (hbal.newSet.perm_sets (hbefore.trans List.perm_middle)).runPlugin plugin
      stage hparent
    rw [← hnone] at hwork
    have hafter := stageSets_perm S o.plugin.sets o.store o.keys
      (((keySets_putPlugin s slot o.plugin).cons o.store.toList).trans List.perm_middle.symm)
    have hdone := (hwork.perm_sets (List.perm_middle.symm.trans hafter.symm)).dropSet
    rw [hstore] at hdone
    exact ⟨hdone.perm_handles hput, hstored⟩
  · -- the kept keys stand among those of the session, before the stage and after it
    have hsome : (plugin.store?.map s.store).getD {} = s.store id := by rw [hid]; rfl
    obtain ⟨others, hkept, hset⟩ :=
      keySets_store (s := { s with plugins := s.plugins.clear slot }) (hthere id hid)
    have hbefore := stageSets_perm S plugin.sets (s.store id) ks
      (hclear.trans (hkept.append_left plugin.sets))
    have hwork := (hbal.perm_sets hbefore).runPlugin plugin stage hparent
    rw [← hsome] at hwork
    have hsets := keySets_putPlugin { s with stores := s.stores.setIfInBounds id o.store } slot
      o.plugin
    have hafter := stageSets_perm S o.plugin.sets o.store o.keys
      (hsets.trans ((hset o.store).append_left o.plugin.sets))
    refine ⟨(hwork.perm_sets hafter.symm).perm_handles hput, ?_⟩
    intro other hother i hi
    rw [Array.size_setIfInBounds]
    exact hstored other hother i hi

theorem run {stage : Stage} (h : s.Sound S R L)
    (hstep : s.run slot stage maybe key = some out) : out.2.Sound S R L := by
  obtain ⟨plugin, hplugin, hstep⟩ := Option.bind_eq_some_iff.mp hstep
  obtain ⟨k, hk, hstep⟩ := Option.bind_eq_some_iff.mp hstep
  rcases maybe with _ | set
  · cases hstep
    -- without keys of the caller the stage works on an empty set, which is given up after it
    have hrun := h.withEmptySet.runStage hplugin hk stage
    exact ⟨hrun.balanced.dropSet, hrun.stored⟩
  · obtain ⟨ks, hks, ⟨⟩⟩ := Option.bind_eq_some_iff.mp hstep
    let o := plugin.run stage s.pool ((plugin.store?.map s.store).getD {}) ks k
    have hrun := (h.takeSet hks).runStage hplugin hk stage
    exact returnSet (s := { s with
      pool := o.pool
      plugins := s.plugins.put slot o.plugin
      stores := match plugin.store? with
        | none => s.stores
        | some id => s.stores.setIfInBounds id o.store }) hrun

theorem describe (h : s.Sound S R L) (hstep : s.describe slot maybe = some out) :
    out.2.Sound S R L := by
  obtain ⟨plugin, -, hstep⟩ := Option.bind_eq_some_iff.mp hstep
  rcases htexts : plugin.info.texts with e | texts
  · rw [PluginInfo.toKeySet, htexts] at hstep
    cases hstep
    exact h
  · rw [PluginInfo.toKeySet, htexts] at hstep
    cases hstep
    have hnew : { s with pool := (KeySet.ofTexts s.pool texts).1 }.Sound
        ((KeySet.ofTexts s.pool texts).2.toList :: S) R L :=
      ⟨h.balanced.ofTexts texts, h.stored⟩
    rcases maybe with _ | into
    · exact ⟨hnew.balanced.dropSet, hnew.stored⟩
    · exact hnew.storeSet into

end Session.Sound
end ConfigKeys
