import ConfigKeys.Proofs.Plugin.Back
import ConfigKeys.Proofs.Session.Filters
import ConfigKeys.Proofs.Session.Writes

/-!
# A filter in front of a store

A host that writes lets a filter convert its keys and a store keep them; a host that reads lets the
store copy them and the filter convert the copies.  What is read has the bytes that were to be
written, if every text comes back from the charset of the store: copies are apart from all other
keys, so that each of them is converted as what it is, a text or bytes or a comment.

## Main results

* `Session.Sound.exec_filter_carries`, `Session.Sound.exec_filter_back` — a stage of the filter, and
  one that undoes it on copies.
* `Session.Reachable.exec_set_get` — a store keeps copies and hands out copies, which are in no
  metadata.
* `Session.Reachable.reads_what_was_written` — what goes through a filter into a store is read from
  there, through the filter, as it was.
-/

namespace ConfigKeys

/-- Lists whose members agree in one respect, in order, agree in any other one that follows. -/
theorem map_eq_map_of_agree {α β γ δ : Type} {f : α → γ} {g : β → γ} {f' : α → δ} {g' : β → δ}
    {l : List α} {l' : List β} (h : l.map f = l'.map g)
    (hagree : ∀ x ∈ l, ∀ y ∈ l', f x = g y → f' x = g' y) : l.map f' = l'.map g' := by
  induction l generalizing l' with
  | nil =>
    rw [List.map_nil, eq_comm, List.map_eq_nil_iff] at h
    rw [h]
    rfl
  | cons x l ih =>
    rcases l' with _ | ⟨y, l'⟩
    · cases h
    · obtain ⟨hfirst, hrest⟩ := List.cons_eq_cons.mp h
      rw [List.map_cons, List.map_cons, hagree x (.head _) y (.head _) hfirst,
        ih hrest fun x hx y hy => hagree x (.tail _ hx) y (.tail _ hy)]

theorem Status.ofCount_ne_error (n : Nat) : Status.ofCount n ≠ .error := by
  rw [ofCount]
  split <;> decide

namespace Session

/-- The caller's keys are in the order of their names. -/
theorem Sound.ascending_of_callerSet {s : Session} {set : Option String} {ks : KeySet}
    (h : s.Sound [] [] []) (hks : s.callerSet set = some ks) : s.pool.Ascending ks.toList := by
  rcases set with _ | set
  · cases hks
    exact List.Pairwise.nil
  · exact h.balanced.ascending _ (mem_keySets hks)

/-- **A stage of a filter goes through if every text does**, and then it carries each of them. -/
theorem Sound.exec_filter_carries {s : Session} {slot key : String} {set : Option String}
    {f : CharsetFilter} {c : CharsetPair} {k : Key} {ks : KeySet} (h : s.Sound [] [] [])
    (stage : Stage) (hplugin : s.plugins.get? slot = some (.charsetFilter f))
    (hopen : f.charsets = some c) (hk : s.keys.get? key = some k)
    (hks : s.callerSet set = some ks) (hstage : stage = .get ∨ stage = .set ∨ stage = .error) :
    let a := (c.direction stage).1
    let b := (c.direction stage).2
    let texts := s.pool.textHolders ks.toList
    ∃ status q, s.exec (.run slot stage set key) = some (.status status, { s with pool := q }) ∧
      (∀ i ∈ texts, ∃ r, s.pool.find? i = some r) ∧
      (status ≠ .error ↔ ∀ i ∈ texts, a.Carries b (s.pool.record i).value.bytes) ∧
      (status ≠ .error → s.pool.Recodes (a.carry b) texts q) := by
  have hthere := h.exists_of_texts hks
  exact ⟨_, _, exec_filter stage hplugin hopen hk hks hstage, hthere,
    CharsetFilter.convert_carries k _ _ hthere⟩

/-- **A read through the filter** gives copies what the keys had before a write through it, if every
text comes back. -/
theorem Sound.exec_filter_back {s : Session} {slot key : String} {set : Option String}
    {f : CharsetFilter} {c : CharsetPair} {k : Key} {read : KeySet} {p q : Pool} {keys : List Key}
    (h : s.Sound [] [] []) (hplugin : s.plugins.get? slot = some (.charsetFilter f))
    (hopen : f.charsets = some c) (hk : s.keys.get? key = some k)
    (hread : s.callerSet set = some read)
    (hcarried : Pool.Carried c.application c.storage keys read.toList p q s.pool)
    (hback : ∀ bytes, c.application.GivesBack c.storage bytes) :
    ∃ status s', s.exec (.run slot .get set key) = some (.status status, s') ∧ status ≠ .error ∧
      s'.sets = s.sets ∧ ∀ y ∈ read.toList, ∀ x ∈ keys, s.pool.tree y.id = q.tree x.id →
        s'.pool.content y = p.content x := by
  obtain ⟨status, q', hexec, hthere, hcarries, hrecodes⟩ :=
    h.exec_filter_carries .get hplugin hopen hk hread (.inl rfl)
  have hstatus : status ≠ .error := hcarries.mpr (hcarried.carries_back hback)
  exact ⟨status, _, hexec, hstatus, rfl, fun y hy x hx heq =>
    hcarried.content_eq hback (hrecodes hstatus) hthere hy hx heq⟩

/-- **A read into an empty set** brings in keys that are in no metadata. -/
theorem Sound.exec_get_unentered {s : Session} {slot key set : String} {id : StoreId}
    {m : MemoryStore} {k : Key} {ks : KeySet} (h : s.Sound [] [] []) (hforward : s.pool.Forward)
    (hplugin : s.plugins.get? slot = some (.memory id m)) (hopen : m.isOpen = true)
    (hk : s.keys.get? key = some k) (hks : s.sets.get? set = some ks) (hempty : ks.toList = []) :
    ∃ s' read, s.exec (.run slot .get (some set) key)
        = some (.status (.ofCount (s.storedBelow id (s.pool.name k)).length), s') ∧
      s'.keys = s.keys ∧ s'.sets.get? set = some read ∧
      (read.toList.map fun k => s'.pool.tree k.id)
        = (s.storedBelow id (s.pool.name k)).map (fun e => s.pool.tree e.2) ∧
      ∀ x ∈ read.toList, s'.pool.Unentered x.id := by
  have hcaller : s.callerSet (some set) = some ks := hks
  obtain ⟨s', read, hexec, hread, htrees⟩ := h.exec_get hforward hplugin hopen hk hks hempty
  obtain ⟨-, rfl⟩ := Prod.mk.inj
    (Option.some.inj (hexec.symm.trans (exec_run hplugin hk hcaller .get)))
  obtain rfl := Option.some.inj (hread.symm.trans (Slots.get?_put_self _ _ _))
  exact ⟨_, _, hexec, rfl, hread, htrees, MemoryStore.onGet_unentered hforward hopen hempty⟩

/-- **What a store keeps is copied**: the caller's keys at or below the parent, until they change,
and the copies are in no metadata. -/
theorem Reachable.exec_set_get {s : Session} (h : s.Reachable) {slot key : String}
    {set : Option String} {id : StoreId} {m : MemoryStore} {k : Key} {ks : KeySet}
    (hplugin : s.plugins.get? slot = some (.memory id m)) (hopen : m.isOpen = true)
    (hwrite : m.readonly = false) (hk : s.keys.get? key = some k)
    (hks : s.callerSet set = some ks) :
    ∃ s₁, s.exec (.run slot .set set key) = some (.status .success, s₁) ∧
      ∀ s₂, s₁.Runs (fun s' c => ¬ c.Changes s' id) s₂ → ∀ reader m' key' k' into ks',
        s₂.plugins.get? reader = some (.memory id m') → m'.isOpen = true →
        s₂.keys.get? key' = some k' → s₂.pool.name k' = s.pool.name k →
        s₂.sets.get? into = some ks' → ks'.toList = [] →
        ∃ count s₃ read, s₂.exec (.run reader .get (some into) key')
            = some (.status (.ofCount count), s₃) ∧
          s₃.keys = s₂.keys ∧ s₃.sets.get? into = some read ∧
          (read.toList.map fun y => s₃.pool.tree y.id)
            = (ks.subtree s.pool (s.pool.name k)).toList.map (fun x => s.pool.tree x.id) ∧
          ∀ y ∈ read.toList, s₃.pool.Unentered y.id := by
  obtain ⟨sn, s₁, hset, hwritten⟩ := h.sound.exec_set h.forward hplugin hopen hwrite hk hks
  refine ⟨_, hset, ?_⟩
  intro s₂ hrun reader m' key' k' into ks' hreader hopen' hk' hname hks' hempty
  have h₁ := h.step hset
  have h₂ := hrun.reachable h₁
  have hkept := hrun.stored_trees_kept h₁ (h₁.sound.store_lt hwritten.plugin)
    (hwritten.sealed h hwritten.new) fun e he => (hwritten.new e he).2
  obtain ⟨s₃, read, hget, hkeys, hread, hcopies, hfree⟩ :=
    h₂.sound.exec_get_unentered h₂.forward hreader hopen' hk' hks' hempty
  refine ⟨_, s₃, read, hget, hkeys, hread, ?_, hfree⟩
  rw [hname] at hcopies
  rw [hcopies, hkept]
  refine hwritten.stored.trees.trans ?_
  rw [← (h.sound.ascending_of_callerSet hks).pairs_subtree, Pool.pairs, List.map_map]
  rfl

/-- **What goes through a filter into a store is read as it was.**  What the filter can convert is
written to the store.  Until the kept keys change again, any open instance of the store reads them
into an empty set, and the filter converts what was read: it has the names of the caller's keys at
or below the parent, with the bytes of the values and comments that they had before the write. -/
theorem Reachable.reads_what_was_written {s s₁ : Session} (h : s.Reachable)
    {filter store key : String} {set : Option String} {f : CharsetFilter} {c : CharsetPair}
    {id : StoreId} {m : MemoryStore} {k : Key} {ks : KeySet} {status : Status}
    (hfilter : s.plugins.get? filter = some (.charsetFilter f)) (hcharsets : f.charsets = some c)
    (happlication : c.application.isExact = true) (hstorage : c.storage.isExact = true)
    (hstore : s.plugins.get? store = some (.memory id m)) (hopen : m.isOpen = true)
    (hwrite : m.readonly = false) (hk : s.keys.get? key = some k)
    (hks : s.callerSet set = some ks)
    (hset : s.exec (.run filter .set set key) = some (.status status, s₁))
    (hstatus : status ≠ .error) :
    ∃ s₂, s₁.exec (.run store .set set key) = some (.status .success, s₂) ∧
      ∀ s₃, s₂.Runs (fun s' c => ¬ c.Changes s' id ∧ filter ∉ c.plugins) s₃ →
        ∀ reader m' key' k' into ks', s₃.plugins.get? reader = some (.memory id m') →
          m'.isOpen = true → s₃.keys.get? key' = some k' → s₃.pool.name k' = s.pool.name k →
          s₃.sets.get? into = some ks' → ks'.toList = [] →
          ∃ got s₄ status' s₅ read,
            s₃.exec (.run reader .get (some into) key') = some (.status got, s₄) ∧ got ≠ .error ∧
            s₄.exec (.run filter .get (some into) key') = some (.status status', s₅) ∧
            status' ≠ .error ∧ s₅.sets.get? into = some read ∧
            read.toList.map s₅.pool.content
              = (ks.subtree s.pool (s.pool.name k)).toList.map s.pool.content := by
  -- the filter converts the texts of the caller's keys
  obtain ⟨status', q, hexec, hthere, hcarries, hrecodes⟩ :=
    h.sound.exec_filter_carries .set hfilter hcharsets hk hks (.inr (.inl rfl))
  obtain ⟨⟨rfl⟩, rfl⟩ := Prod.mk.inj (Option.some.inj (hset.symm.trans hexec))
  have h₁ := h.step hset
  have hrecoded := hrecodes hstatus
  have hnames : q.name = s.pool.name := hrecoded.name_eq
  -- the store keeps copies of them, and copies these for the reader
  obtain ⟨s₂, hset₂, hreads⟩ := h₁.exec_set_get hstore hopen hwrite hk hks
  refine ⟨s₂, hset₂, ?_⟩
  intro s₃ hrun reader m' key' k' into ks' hreader hopen' hk' hname hks' hempty
  obtain ⟨count, s₄, read, hget, hkeys, hread, htrees, hfree⟩ :=
    hreads s₃ (hrun.mono fun _ _ hc => hc.1) reader m' key' k' into ks' hreader hopen' hk'
      (hname.trans (congrFun hnames k).symm) hks' hempty
  have h₄ := (hrun.reachable (h₁.step hset₂)).step hget
  have hasc := h.sound.ascending_of_callerSet hks
  have hsubtree : (ks.subtree q (q.name k)).toList
      = (ks.subtree s.pool (s.pool.name k)).toList := by
    rw [KeySet.subtree_eq_filter (hasc.congr fun k _ => congrFun hnames k),
      KeySet.subtree_eq_filter hasc, hnames]
  have hcarried : Pool.Carried c.application c.storage ks.toList read.toList s.pool q s₄.pool := by
    refine ⟨hcarries.mp hstatus, hrecoded, hthere, h₁.forward, h₄.forward, fun y hy => ?_, hfree⟩
    obtain ⟨x, hx, heq⟩ := List.mem_map.mp (htrees ▸ List.mem_map_of_mem hy)
    exact ⟨x, KeySet.mem_of_mem_subtree hx, heq.symm⟩
  -- the filter is as it was, and converts the copies
  have hother : filter ≠ store := by
    rintro rfl
    cases hfilter.symm.trans hstore
  have hfilter₄ : s₄.plugins.get? filter = some (.charsetFilter f) := by
    refine (Runs.plugin_kept ?_ h₁).trans hfilter
    exact (((Runs.refl _).step (by simp [Command.plugins, hother]) hset₂).trans
      (hrun.mono fun _ _ hc => hc.2)).step (by simp [Command.plugins]) hget
  have hcaller : s₄.callerSet (some into) = some read := hread
  obtain ⟨status', s₅, hexec', hstatus', hsets, hcontent⟩ :=
    h₄.sound.exec_filter_back hfilter₄ hcharsets (hkeys ▸ hk') hcaller hcarried
      (Charset.givesBack_of_isExact happlication hstorage)
  refine ⟨_, s₄, status', s₅, read, hget, Status.ofCount_ne_error count, hexec', hstatus',
    hsets ▸ hread, ?_⟩
  rw [← hsubtree]
  exact map_eq_map_of_agree htrees fun y hy x hx heq =>
    hcontent y hy x (KeySet.mem_of_mem_subtree hx) heq

/-- A key with a comment, and one that has bytes, go through a filter into a store.  The caller's
key changes, and then they are read. -/
theorem Reachable.reads_what_was_written_accent :
    ∃ (s s₁ s₂ s₃ s₄ s₅ : Session) (got status : Status) (read : KeySet),
      s.exec (.run "filter" .set (some "set") "parent") = some (.status .success, s₁) ∧
      s₁.exec (.run "store" .set (some "set") "parent") = some (.status .success, s₂) ∧
      s₂.execAll [.setValue "key" (.ofText "changed"), .newSet "read"] = some s₃ ∧
      s₃.exec (.run "store" .get (some "read") "parent") = some (.status got, s₄) ∧
      s₄.exec (.run "filter" .get (some "read") "parent") = some (.status status, s₅) ∧
      s₅.sets.get? "read" = some read ∧
      read.toList.map s₅.pool.content = [(⟨.user, ["a"]⟩, [0xC3, 0xA9], some [0xC3, 0xBC]),
        (⟨.user, ["b"]⟩, [0xC3, 0xA9], none)] := by
  have hrun : ((Session.execAll {} [.build "parent" "user" [],
      .build "key" "user/a" [.text "é", .comment "ü"],
      .build "bytes" "user/b" [.binary [0xC3, 0xA9]],
      .collect "set" ["key", "bytes"], .configure "config" .nothing,
      .setConfig "config" "/to" "latin1", .plug "filter" .charsetFilter (some "config"),
      .plug "store" .memory none, .run "filter" .opening none "parent",
      .run "store" .opening none "parent"]).bind fun s =>
        (s.exec (.run "filter" .set (some "set") "parent")).bind fun o₁ =>
        (o₁.2.exec (.run "store" .set (some "set") "parent")).bind fun o₂ =>
        (o₂.2.execAll [.setValue "key" (.ofText "changed"), .newSet "read"]).map fun s₃ => decide (
          (s.openCharsets? "filter" = some ⟨.utf8, .singleByte .windows1252⟩ ∧
            s.writableStore? "store" = some 0 ∧ s.keys.get? "parent" = some ⟨0, {}⟩ ∧
            s.status? (.run "filter" .set (some "set") "parent") = some .success ∧
            (s.sets.get? "set").map (fun ks =>
                (ks.subtree s.pool (s.pool.name ⟨0, {}⟩)).toList.map s.pool.content)
              = some [(⟨.user, ["a"]⟩, [0xC3, 0xA9], some [0xC3, 0xBC]),
                (⟨.user, ["b"]⟩, [0xC3, 0xA9], none)]) ∧
          s₃.writableStore? "store" = some 0 ∧ s₃.keys.get? "parent" = some ⟨0, {}⟩ ∧
          s₃.pool.name ⟨0, {}⟩ = s.pool.name ⟨0, {}⟩ ∧
          (s₃.sets.get? "read").map KeySet.toList = some [])) = some true := by
    decide +kernel
  obtain ⟨s, hs, hrun⟩ := Option.bind_eq_some_iff.mp hrun
  obtain ⟨⟨reply, s₁⟩, hset, hrun⟩ := Option.bind_eq_some_iff.mp hrun
  obtain ⟨⟨reply₂, s₂⟩, hset₂, hrun⟩ := Option.bind_eq_some_iff.mp hrun
  obtain ⟨s₃, hrun₃, hfacts⟩ := Option.map_eq_some_iff.mp hrun
  obtain ⟨⟨hcharsets, hstore, hk, hstatus, hcontent⟩, hstore₃, hk₃, hname, hread⟩ :=
    of_decide_eq_true hfacts
  obtain ⟨f, hfilter, hopen⟩ := exists_of_openCharsets? hcharsets
  obtain ⟨m, hplugin, hm, hwrite⟩ := exists_of_writableStore? hstore
  obtain ⟨m', hplugin', hm', -⟩ := exists_of_writableStore? hstore₃
  obtain ⟨ks, hks, hcontent⟩ := Option.map_eq_some_iff.mp hcontent
  obtain ⟨ks', hks', hempty⟩ := Option.map_eq_some_iff.mp hread
  have hcaller : s.callerSet (some "set") = some ks := hks
  obtain rfl := reply_eq hstatus hset
  obtain ⟨s₂', hset₂', hreads⟩ := (Reachable.start.execAll hs).reads_what_was_written hfilter hopen
    rfl rfl hplugin hm hwrite hk hcaller hset (by decide)
  obtain ⟨rfl, rfl⟩ := Prod.mk.inj (Option.some.inj (hset₂.symm.trans hset₂'))
  have hrun' : Runs (fun s' c => ¬ c.Changes s' 0 ∧ "filter" ∉ c.plugins) s₂ s₃ :=
    Runs.execAll (by simp [Command.Changes, Command.plugins]) hrun₃
  obtain ⟨got, s₄, status, s₅, read, hget, -, hget', -, hread, hcontents⟩ :=
    hreads s₃ hrun' "store" m' "parent" _ "read" ks' hplugin' hm' hk₃ hname hks' hempty
  exact ⟨s, s₁, s₂, s₃, s₄, s₅, got, status, read, hset, hset₂, hrun₃, hget, hget', hread,
    hcontents.trans hcontent⟩

end Session
end ConfigKeys
