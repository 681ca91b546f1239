import ConfigKeys.Proofs.Session.Reachable

/-!
# Handles in slots

Which slots of keys a command may put another handle into can be read off it.  The handles in all
other slots stay as they are, at the same record and at the same place in its metadata.

## Main definitions

* `Command.keys` — the slots of keys that a command may change.

## Main results

* `Session.handle_exec` — the other slots keep their handles.
-/

namespace ConfigKeys

/-- The slots of keys that a command may change. -/
def Command.keys : Command → List String
  | .build key _ _ | .forgetKey key | .rewindMeta key => [key]
  | .shareKey _ into | .wrap _ into | .copyKey _ into => [into]
  | .currentMeta key into | .nextMeta key into => key :: into.toList
  | .removeMeta _ _ into | .removeEntry _ _ into => into.toList
  | .currentEntry _ _ into | .nextEntry _ _ into => into.toList
  | .remove _ _ into | .removeKey _ _ into | .next _ into | .fetch _ into => into.toList
  | _ => []

namespace Session

variable {s : Session} {slot key into : String} {maybe : Option String} {found : Option Key}
variable {out : Reply × Session}

/-! ### Steps that leave all slots of keys alone -/

@[simp] theorem keys_dropStore (s : Session) (id : StoreId) : (s.dropStore id).keys = s.keys := by
  rw [dropStore]
  split <;> rfl

@[simp] theorem keys_dropPlugin (s : Session) (plugin : Plugin) :
    (s.dropPlugin plugin).keys = s.keys := by
  rw [dropPlugin]
  rcases plugin.store? with _ | id
  · rfl
  · exact keys_dropStore _ id

@[simp] theorem keys_storePlugin (s : Session) (name : String) (plugin : Plugin) :
    (s.storePlugin name plugin).keys = s.keys := by
  rw [storePlugin]
  rcases s.plugins.get? name with _ | old
  · rfl
  · exact keys_dropPlugin _ old

@[simp] theorem keys_settle (s : Session) (result : Except KeyError Pool) :
    (s.settle result).2.keys = s.keys := by
  cases result <;> rfl

/-! ### Steps that put a handle into a slot -/

theorem handle_storeKey (s : Session) (k : Key) (h : slot ≠ into) :
    (s.storeKey into k).keys.get? slot = s.keys.get? slot := Slots.get?_put_of_ne _ _ h

theorem handle_fetch (s : Session) (found : Option Key) (h : slot ∉ maybe.toList) :
    (s.fetch found maybe).2.keys.get? slot = s.keys.get? slot := by
  rcases found with _ | k
  · rfl
  · rcases maybe with _ | into
    · rfl
    · exact handle_storeKey s k fun heq => h (heq ▸ List.mem_singleton_self slot)

theorem handle_hand (s : Session) (handed : Option Key) (h : slot ∉ maybe.toList) :
    (s.hand handed maybe).2.keys.get? slot = s.keys.get? slot := by
  rcases handed with _ | k
  · rfl
  · rcases maybe with _ | into
    · rfl
    · exact handle_storeKey _ k fun heq => h (heq ▸ List.mem_singleton_self slot)

/-! ### Commands on keys -/

theorem handle_build {raw : String} {options : List KeyOption} (h : slot ≠ key)
    (hstep : s.build key raw options = some out) :
    out.2.keys.get? slot = s.keys.get? slot := by
  rw [build] at hstep
  rcases hcreate : s.pool.create raw options with e | ⟨k, p⟩ <;> rw [hcreate] at hstep
  · cases hstep
    rfl
  · cases hstep
    exact handle_storeKey _ k h

theorem handle_forgetKey (h : slot ≠ key) (hstep : s.forgetKey key = some out) :
    out.2.keys.get? slot = s.keys.get? slot := by
  obtain ⟨k, -, ⟨⟩⟩ := Option.bind_eq_some_iff.mp hstep
  exact Slots.get?_clear_of_ne _ h

theorem handle_rewindMeta (h : slot ≠ key) (hstep : s.rewindMeta key = some out) :
    out.2.keys.get? slot = s.keys.get? slot := by
  obtain ⟨k, -, ⟨⟩⟩ := Option.bind_eq_some_iff.mp hstep
  exact Slots.get?_put_of_ne _ _ h

theorem handle_walkMeta (step : Pool → Key → Option Key × Key) (h : slot ∉ key :: maybe.toList)
    (hstep : s.walkMeta key maybe step = some out) :
    out.2.keys.get? slot = s.keys.get? slot := by
  obtain ⟨k, -, ⟨⟩⟩ := Option.bind_eq_some_iff.mp hstep
  have hne : slot ≠ key := fun heq => h (heq ▸ List.mem_cons_self)
  refine (handle_fetch _ _ fun hin => h (List.mem_cons_of_mem _ hin)).trans ?_
  exact Slots.get?_put_of_ne _ _ hne

theorem handle_removeMeta {raw : String} (h : slot ∉ maybe.toList)
    (hstep : s.removeMeta key raw maybe = some out) :
    out.2.keys.get? slot = s.keys.get? slot := by
  obtain ⟨k, -, hstep⟩ := Option.bind_eq_some_iff.mp hstep
  rcases hremove : s.pool.removeMeta k raw with e | ⟨handed, p⟩ <;> rw [hremove] at hstep
  · cases hstep
    rfl
  · cases hstep
    exact handle_hand _ _ h

theorem keys_copyMeta {source raw : String} (hstep : s.copyMeta key source raw = some out) :
    out.2.keys = s.keys := by
  obtain ⟨k, -, hstep⟩ := Option.bind_eq_some_iff.mp hstep
  obtain ⟨other, -, ⟨⟩⟩ := Option.bind_eq_some_iff.mp hstep
  exact keys_settle s _

theorem keys_copyAllMeta {source : String} (hstep : s.copyAllMeta key source = some out) :
    out.2.keys = s.keys := by
  obtain ⟨k, -, hstep⟩ := Option.bind_eq_some_iff.mp hstep
  obtain ⟨other, -, ⟨⟩⟩ := Option.bind_eq_some_iff.mp hstep
  rfl

theorem keys_addWarnings {reports : List Report} (hstep : s.addWarnings key reports = some out) :
    out.2.keys = s.keys := by
  obtain ⟨k, -, hstep⟩ := Option.bind_eq_some_iff.mp hstep
  rcases hadd : addWarningsAfter s.pool k [] reports with e | ⟨indices, p⟩ <;> rw [hadd] at hstep
  · cases hstep
    rfl
  · cases hstep
    rfl

/-! ### Commands on registries -/

theorem keys_insertEntry {registry : String} (hstep : s.insertEntry registry key = some out) :
    out.2.keys = s.keys := by
  obtain ⟨r, -, hstep⟩ := Option.bind_eq_some_iff.mp hstep
  obtain ⟨k, -, ⟨⟩⟩ := Option.bind_eq_some_iff.mp hstep
  rfl

theorem handle_removeEntry {registry : String} (h : slot ∉ maybe.toList)
    (hstep : s.removeEntry registry key maybe = some out) :
    out.2.keys.get? slot = s.keys.get? slot := by
  obtain ⟨r, -, hstep⟩ := Option.bind_eq_some_iff.mp hstep
  obtain ⟨k, -, ⟨⟩⟩ := Option.bind_eq_some_iff.mp hstep
  exact handle_hand _ _ h

theorem handle_walkRegistry {cursor registry : String} {step : Cursor → Nat → Cursor}
    (h : slot ∉ maybe.toList) (hstep : s.walkRegistry cursor registry maybe step = some out) :
    out.2.keys.get? slot = s.keys.get? slot := by
  obtain ⟨r, -, ⟨⟩⟩ := Option.bind_eq_some_iff.mp hstep
  exact handle_fetch _ _ h

/-! ### Commands on sets -/

theorem keys_fill {set : String} {texts : List (String × String)}
    (hstep : s.fill set texts = some out) : out.2.keys = s.keys := by
  rw [fill] at hstep
  split at hstep
  · cases hstep
    rfl
  · cases hstep
    rfl

theorem handle_remove {set raw : String} (h : slot ∉ maybe.toList)
    (hstep : s.remove set raw maybe = some out) :
    out.2.keys.get? slot = s.keys.get? slot := by
  rw [remove] at hstep
  rcases hn : Name.parse raw with e | n <;> rw [hn] at hstep
  · cases hstep
    rfl
  · obtain ⟨ks, -, ⟨⟩⟩ := Option.bind_eq_some_iff.mp hstep
    exact handle_hand _ _ h

theorem handle_removeKey {set : String} (h : slot ∉ maybe.toList)
    (hstep : s.removeKey set key maybe = some out) :
    out.2.keys.get? slot = s.keys.get? slot := by
  obtain ⟨k, -, hstep⟩ := Option.bind_eq_some_iff.mp hstep
  obtain ⟨ks, -, ⟨⟩⟩ := Option.bind_eq_some_iff.mp hstep
  exact handle_hand _ _ h

theorem handle_next {set : String} (h : slot ∉ maybe.toList)
    (hstep : s.next set maybe = some out) : out.2.keys.get? slot = s.keys.get? slot := by
  obtain ⟨ks, -, ⟨⟩⟩ := Option.bind_eq_some_iff.mp hstep
  exact handle_fetch _ _ h

theorem handle_fetchFrom {source : KeySource} (h : slot ∉ maybe.toList)
    (hstep : s.fetchFrom source maybe = some out) :
    out.2.keys.get? slot = s.keys.get? slot := by
  obtain ⟨found, -, hstep⟩ := Option.bind_eq_some_iff.mp hstep
  rcases found with e | k
  · cases hstep
    rfl
  · cases hstep
    exact handle_fetch _ _ h

/-! ### Commands on configurations and plugins -/

theorem keys_configure {source : ConfigSource} (hstep : s.configure key source = some out) :
    out.2.keys = s.keys := by
  cases source with
  | nothing =>
    cases hstep
    rfl
  | text toml =>
    rw [configure] at hstep
    rcases hread : Config.ofToml s.pool toml with e | ⟨p, c⟩ <;> rw [hread] at hstep
    · cases hstep
      rfl
    · cases hstep
      rfl
  | set source =>
    obtain ⟨ks, -, ⟨⟩⟩ := Option.bind_eq_some_iff.mp hstep
    rfl

theorem keys_plug {kind : PluginKind} (hstep : s.plug key kind maybe = some out) :
    out.2.keys = s.keys := by
  obtain ⟨⟨p, config⟩, -, hstep⟩ := Option.bind_eq_some_iff.mp hstep
  cases kind with
  | memory | charsetFilter | plain =>
    cases hstep
    exact keys_storePlugin _ _ _
  | sharing other =>
    obtain ⟨plugin, -, hstep⟩ := Option.bind_eq_some_iff.mp hstep
    cases plugin with
    | memory id settings =>
      cases hstep
      exact keys_storePlugin _ _ _
    | _ => cases hstep
  | keeping set =>
    obtain ⟨ks, -, ⟨⟩⟩ := Option.bind_eq_some_iff.mp hstep
    exact keys_storePlugin _ _ _

theorem keys_run {stage : Stage} {set : Option String}
    (hstep : s.run key stage set into = some out) : out.2.keys = s.keys := by
  obtain ⟨plugin, -, hstep⟩ := Option.bind_eq_some_iff.mp hstep
  obtain ⟨k, -, hstep⟩ := Option.bind_eq_some_iff.mp hstep
  rcases set with _ | set
  · cases hstep
    rfl
  · obtain ⟨ks, -, ⟨⟩⟩ := Option.bind_eq_some_iff.mp hstep
    rfl

theorem keys_describe (hstep : s.describe key maybe = some out) : out.2.keys = s.keys := by
  obtain ⟨plugin, -, hstep⟩ := Option.bind_eq_some_iff.mp hstep
  rcases hinfo : plugin.info.toKeySet s.pool with e | ⟨p, ks⟩ <;> rw [hinfo] at hstep
  · cases hstep
    rfl
  · cases hstep
    rcases maybe <;> rfl

theorem keys_setConfig {config raw text : String} (hstep : s.setConfig config raw text = some out) :
    out.2.keys = s.keys := by
  obtain ⟨c, -, hstep⟩ := Option.bind_eq_some_iff.mp hstep
  rcases hset : c.set s.pool raw text with e | ⟨p, c'⟩ <;> rw [hset] at hstep
  · cases hstep
    rfl
  · cases hstep
    rfl

/-! ### A step -/

/-- **A handle is only replaced in the slots that a command names for keys.** -/
theorem handle_exec {c : Command} (hslot : slot ∉ c.keys) (hstep : s.exec c = some out) :
    out.2.keys.get? slot = s.keys.get? slot := by
  have hone : ∀ {name : String}, slot ∉ [name] → slot ≠ name := List.ne_of_not_mem_cons
  cases c with
  | build key raw options => exact handle_build (hone hslot) hstep
  | shareKey key into | wrap key into | copyKey key into =>
    obtain ⟨k, -, ⟨⟩⟩ := Option.bind_eq_some_iff.mp hstep
    exact handle_fetch _ _ hslot
  | forgetKey key => exact handle_forgetKey (hone hslot) hstep
  | rename key how | setMeta key raw text | setError key report | clearError key =>
    obtain ⟨k, -, ⟨⟩⟩ := Option.bind_eq_some_iff.mp hstep
    rw [keys_settle]
  | removeMeta key raw into => exact handle_removeMeta hslot hstep
  | copyMeta key source raw => rw [keys_copyMeta hstep]
  | copyAllMeta key source => rw [keys_copyAllMeta hstep]
  | rewindMeta key => exact handle_rewindMeta (hone hslot) hstep
  | currentMeta key into => exact handle_walkMeta Pool.currentMeta hslot hstep
  | nextMeta key into => exact handle_walkMeta Pool.nextMeta hslot hstep
  | addWarnings key reports => rw [keys_addWarnings hstep]
  | newRegistry registry | rewindCursor cursor | newSet set =>
    cases hstep
    rfl
  | insertEntry registry key => rw [keys_insertEntry hstep]
  | removeEntry registry key into => exact handle_removeEntry hslot hstep
  | currentEntry cursor registry into | nextEntry cursor registry into =>
    exact handle_walkRegistry hslot hstep
  | fill set texts => rw [keys_fill hstep]
  | extend set keys | append set key | appendAll set source | below set key into | cut set key into
  | replace set source =>
    obtain ⟨ks, -, hstep⟩ := Option.bind_eq_some_iff.mp hstep
    obtain ⟨other, -, ⟨⟩⟩ := Option.bind_eq_some_iff.mp hstep
    rfl
  | remove set raw into => exact handle_remove hslot hstep
  | removeKey set key into => exact handle_removeKey hslot hstep
  | setValue key value | dropRegistry registry | collect set keys | clear set | shareSet set into
  | copySet set into | dropSet set | rewind set | configToSet config set =>
    obtain ⟨held, -, ⟨⟩⟩ := Option.bind_eq_some_iff.mp hstep
    rfl
  | next set into => exact handle_next hslot hstep
  | fetch source into => exact handle_fetchFrom hslot hstep
  | configure config source => rw [keys_configure hstep]
  | setConfig config raw text => rw [keys_setConfig hstep]
  | plug plugin kind config => rw [keys_plug hstep]
  | unplug plugin =>
    obtain ⟨p, -, ⟨⟩⟩ := Option.bind_eq_some_iff.mp hstep
    rw [keys_dropPlugin]
  | run plugin stage set key => rw [keys_run hstep]
  | describe plugin into => rw [keys_describe hstep]

end Session
end ConfigKeys
