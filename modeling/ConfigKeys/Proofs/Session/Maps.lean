import ConfigKeys.Proofs.KeySet.Copies
import ConfigKeys.Proofs.KeySet.Map
import ConfigKeys.Proofs.Session.Frame

/-!
# The key sets of a session refine maps

Whatever else goes on in a session, each of its key sets lists the entries of a finite map, and the
commands on sets do to the sets what the operations that they stand for do to the maps.

## Main definitions

* `Session.map?` — the map of the set in a slot.
* `Command.Fits` — a command on sets finds what it works on.
* `Session.Refines` — what a command on sets does to the maps.
* `Session.Follows` — a run of commands does that step by step.

## Main results

* `Session.Sound.refines` — a command on sets does what it stands for.
* `Session.Reachable.follows_maps` — key sets are maps, along every run.
-/

namespace ConfigKeys

/-- A command on sets finds what it works on in its slots; no set is replaced by itself. -/
def Command.Fits (s : Session) : Command → Prop
  | .collect _ keys => ∃ list, keys.mapM s.keys.get? = some list
  | .extend set keys =>
    (∃ ks, s.sets.get? set = some ks) ∧ ∃ list, keys.mapM s.keys.get? = some list
  | .append set key | .removeKey set key _ =>
    (∃ ks, s.sets.get? set = some ks) ∧ ∃ k, s.keys.get? key = some k
  | .appendAll set source => (∃ ks, s.sets.get? set = some ks) ∧ ∃ ks, s.sets.get? source = some ks
  | .replace set source =>
    set ≠ source ∧ (∃ ks, s.sets.get? set = some ks) ∧ ∃ ks, s.sets.get? source = some ks
  | .remove set _ _ | .clear set | .shareSet set _ | .copySet set _ =>
    ∃ ks, s.sets.get? set = some ks
  | _ => False

namespace Session

/-- The map of the set in a slot. -/
def map? (s : Session) (slot : String) : Option NameMap :=
  (s.sets.get? slot).map fun ks => ks.toMap s.pool

/-- The entry of a name is erased, and the host is shown its record, or that there is none; the
record goes into the slot that was given for it. -/
def Erases (s s' : Session) (reply : Reply) (set : String) (n : Name) (into : Option String) :
    Prop :=
  ∃ m, s.map? set = some m ∧ s'.map? set = some (m.erase n) ∧
    reply = .key ((m.lookup n).map fun id => (s.pool.unlock id).view id) ∧
    ∀ id slot, m.lookup n = some id → into = some slot →
      ∃ k, s'.keys.get? slot = some k ∧ k.id = id

/-- What a command on sets does to the maps of the sets, and what the host is told. -/
def Refines (s s' : Session) (reply : Reply) : Command → Prop
  | .collect set keys => ∃ list m, keys.mapM s.keys.get? = some list ∧ s'.map? set = some m ∧
      m = NameMap.insertAll s.pool ∅ list ∧
      -- of the keys of a name, the one that comes last
      ∀ n, m.lookup n = (list.reverse.find? fun k => s.pool.name k = n).map Key.id
  | .extend set keys => ∃ m list, s.map? set = some m ∧ keys.mapM s.keys.get? = some list ∧
      s'.map? set = some (NameMap.insertAll s.pool m list)
  | .append set key => ∃ m k, s.map? set = some m ∧ s.keys.get? key = some k ∧
      s'.map? set = some (m.insert (s.pool.name k) k.id) ∧
      reply = .count (m.insert (s.pool.name k) k.id).keys.card
  | .appendAll set source => ∃ m other, s.map? set = some m ∧ s.map? source = some other ∧
      s'.map? set = some (other ∪ m) ∧ reply = .count (other ∪ m).keys.card
  | .remove set raw into =>
      match Name.parse raw with
      | .error e => reply = .failed e ∧ s' = s
      | .ok n => s.Erases s' reply set n into
  | .removeKey set key into => ∃ k, s.keys.get? key = some k ∧
      s.Erases s' reply set (s.pool.name k) into
  | .clear set => s'.map? set = some ∅
  | .replace set source => ∃ m, s.map? source = some m ∧ s'.map? set = some m
  | .shareSet set into => ∃ m, s.map? set = some m ∧ s'.map? into = some m
  | .copySet set into => ∃ m m', s.map? set = some m ∧ s'.map? into = some m' ∧ m'.keys = m.keys ∧
      -- the records of the copies, and all that they hold, are new
      ∀ n id id', m.lookup n = some id → m'.lookup n = some id' →
        s'.pool.tree id' = s.pool.tree id ∧ ∀ i, s'.pool.Holds id' i → s.pool.nextId ≤ i
  | _ => True

/-- Every set, wherever it is, lists its map in order, and a search in it is a lookup in the map,
also where the name is given as it is written. -/
def ReadsMaps (s : Session) : Prop :=
  ∀ ks : KeySet, ks.toList ∈ s.keySets → ks.Lists s.pool (ks.toMap s.pool) ∧ ∀ n,
    (ks.find? s.pool n).map Key.id = (ks.toMap s.pool).lookup n ∧
    (ks.contains s.pool n = true ↔ n ∈ ks.toMap s.pool) ∧
    ∀ raw, Name.parse raw = .ok n →
      (findNamed s.pool ks raw).map (fun found => found.map Key.id)
        = .ok ((ks.toMap s.pool).lookup n)

/-- All along a run, sets are read as maps; the commands on sets do to the maps what they stand for,
as soon as they find what they work on; and no command does anything to the map of another set. -/
def Follows (s : Session) : List Command → Prop
  | [] => s.ReadsMaps
  | c :: rest => s.ReadsMaps ∧ (c.Fits s → ∃ out, s.exec c = some out) ∧
    ∀ reply s', s.exec c = some (reply, s') →
      (c.Fits s → s.Refines s' reply c) ∧ (∀ slot ∉ c.sets, s'.map? slot = s.map? slot) ∧
      s'.Follows rest

namespace Sound

variable {s : Session} {slot set source key into raw : String} {maybe : Option String}
variable {ks : KeySet} {p : Pool}

theorem ascending_of_set (h : s.Sound [] [] []) (hget : s.sets.get? slot = some ks) :
    s.pool.Ascending ks.toList :=
  h.balanced.ascending _ (mem_keySets hget)

/-- The map of a set is known as soon as the set is in order, for nothing writes to names after
that. -/
theorem map?_eq {s' : Session} (h' : s'.Sound [] [] []) (hget : s'.sets.get? slot = some ks)
    (hev : p.Evolves ∅ ∅ s'.pool) (hold : ∀ k ∈ ks.toList, ∃ r, p.find? k.id = some r) :
    s'.map? slot = some (ks.toMap p) := by
  have hnames : ∀ k ∈ ks.toList, s'.pool.name k = p.name k := hev.name_members
    (fun k hk => ⟨Pool.find?_lt (hold k hk).choose_spec, Set.notMem_empty _⟩)
    fun k hk => h'.exists_of_member hget hk
  rw [map?, hget, Option.map_some, KeySet.toMap_congr hnames]

theorem map?_of_get? (hget : s.sets.get? slot = some ks) :
    s.map? slot = some (ks.toMap s.pool) := by
  rw [map?, hget, Option.map_some]

/-! ### The commands -/

theorem storeSet_evolves (s : Session) (slot : String) (ks : KeySet) :
    s.pool.Evolves ∅ ∅ (s.storeSet slot ks).pool := by
  rw [Session.storeSet]
  rcases s.sets.get? slot with _ | old
  · exact .refl _ _ _
  · exact (Pool.Evolves.refl _ _ _).drop old

theorem get?_storeSet (s : Session) (slot : String) (ks : KeySet) :
    (s.storeSet slot ks).sets.get? slot = some ks :=
  Slots.get?_put_self _ _ _

theorem refines_collect {keys : List String} {list : List Key} (h : s.Sound [] [] [])
    (hlist : keys.mapM s.keys.get? = some list) :
    ∃ reply s', s.exec (.collect set keys) = some (reply, s') ∧
      s.Refines s' reply (.collect set keys) := by
  have hstep := exec_collect set hlist
  have hnew : s.pool.Balanced (KeySet.toList {} :: ([] ++ s.keySets)) _ _ _ [] := h.balanced.newSet
  have hbal := hnew.appendAll (held_of_mapM hlist)
  refine ⟨_, _, hstep, list, _, hlist, ?_, rfl, fun n => ?_⟩
  · rw [(h.exec hstep).map?_eq (get?_storeSet _ _ _) (storeSet_evolves _ _ _)
      fun k hk => hbal.exists_of_mem_set List.mem_cons_self hk]
    exact congrArg some (KeySet.toMap_appendAll hnew (held_of_mapM hlist))
  · rw [NameMap.lookup_insertAll, Finmap.lookup_empty, Option.or_none]

theorem refines_extend {keys : List String} {list : List Key} (h : s.Sound [] [] [])
    (hks : s.sets.get? set = some ks) (hlist : keys.mapM s.keys.get? = some list) :
    ∃ reply s', s.exec (.extend set keys) = some (reply, s') ∧
      s.Refines s' reply (.extend set keys) := by
  have hbal := (h.takeSet hks).balanced
  refine ⟨_, _, exec_extend hks hlist, ks.toMap s.pool, list, map?_of_get? hks, hlist, ?_⟩
  rw [map?_of_get? (Slots.get?_put_self _ _ _)]
  exact congrArg some (KeySet.toMap_appendAll hbal (held_of_mapM hlist))

theorem refines_append {k : Key} (h : s.Sound [] [] []) (hks : s.sets.get? set = some ks)
    (hk : s.keys.get? key = some k) :
    ∃ reply s', s.exec (.append set key) = some (reply, s') ∧
      s.Refines s' reply (.append set key) := by
  obtain ⟨r, hr⟩ := h.exists_of_key hk
  have hbal := (h.takeSet hks).balanced.weaken fun i hi => List.mem_cons_of_mem k.id hi
  have hmap := KeySet.toMap_append hbal hr
  refine ⟨_, _, exec_append hks hk, ks.toMap s.pool, k, map?_of_get? hks, hk, ?_, ?_⟩
  · rw [map?_of_get? (Slots.get?_put_self _ _ _)]
    exact congrArg some hmap
  · rw [← KeySet.card_keys_toMap (hbal.append hr).ascending_set]
    exact congrArg (fun m : NameMap => Reply.count m.keys.card) hmap

/-- The keys of another set are inserted, and those of the set itself are there already. -/
theorem refines_appendAll {other : KeySet} (h : s.Sound [] [] [])
    (hks : s.sets.get? set = some ks) (hother : s.sets.get? source = some other) :
    ∃ reply s', s.exec (.appendAll set source) = some (reply, s') ∧
      s.Refines s' reply (.appendAll set source) := by
  have hstep := exec_appendAll hks hother
  have hasc := (h.exec hstep).ascending_of_set (Slots.get?_put_self _ _ _)
  have hmap : (ks.appendAll s.pool other.toList).2.toMap (ks.appendAll s.pool other.toList).1
      = other.toMap s.pool ∪ ks.toMap s.pool := by
    have hbal := (h.takeSet hks).balanced
    rw [← KeySet.insertAll_toList (h.ascending_of_set hother)]
    rcases source_cases (S := []) hks hother with rfl | hheld
    · rw [Pool.Balanced.appendAll_self hbal.ascending_set fun _ hk => hk,
        KeySet.insertAll_toList hbal.ascending_set, NameMap.union_self]
    · exact KeySet.toMap_appendAll hbal fun k hk => List.mem_append_left _ (hheld k hk)
  refine ⟨_, _, hstep, ks.toMap s.pool, other.toMap s.pool, map?_of_get? hks,
    map?_of_get? hother, ?_, ?_⟩
  · rw [map?_of_get? (Slots.get?_put_self _ _ _)]
    exact congrArg some hmap
  · rw [← KeySet.card_keys_toMap hasc]
    exact congrArg (fun m : NameMap => Reply.count m.keys.card) hmap

theorem hand_evolves (s : Session) (handed : Option Key) (into : Option String) :
    s.pool.Evolves ∅ ∅ (s.hand handed into).2.pool := by
  rcases handed with _ | k
  · exact .refl _ _ _
  · rcases into with _ | slot
    · exact (Pool.Evolves.refl _ _ _).reclaim k.id
    · show s.pool.Evolves ∅ ∅ (s.storeKey slot k).pool
      rw [Session.storeKey]
      rcases s.keys.get? slot with _ | old
      · exact (Pool.Evolves.refl _ _ _).retain k.id
      · exact ((Pool.Evolves.refl _ _ _).retain k.id).release old.id

theorem erases_removeName (maybe : Option String) (h : s.Sound [] [] [])
    (hks : s.sets.get? set = some ks) (n : Name) :
    ∃ reply s', s.removeName set n maybe = some (reply, s') ∧ s.Erases s' reply set n maybe := by
  have hstep := removeName_eq maybe hks n
  have hbal := (h.takeSet hks).balanced
  have hafter := hbal.removeMember n
  obtain ⟨hmap, hlookup⟩ := KeySet.toMap_remove hbal n
  refine ⟨_, _, hstep, ks.toMap s.pool, map?_of_get? hks, ?_, ?_, ?_⟩
  · have hev := hand_evolves { s with
      pool := (ks.remove s.pool n).2.1, sets := s.sets.put set (ks.remove s.pool n).2.2 }
      (ks.remove s.pool n).1 maybe
    have hget := (congrArg (fun sets => sets.get? set) (sets_hand { s with
      pool := (ks.remove s.pool n).2.1, sets := s.sets.put set (ks.remove s.pool n).2.2 }
      (ks.remove s.pool n).1 maybe)).trans (Slots.get?_put_self _ _ _)
    refine ((h.removeName hstep).map?_eq hget hev
      fun k hk => hafter.exists_of_mem_set List.mem_cons_self hk).trans ?_
    exact congrArg some hmap
  · -- the record is shown as it is when its place is given up
    refine congrArg Reply.key ?_
    rw [← hlookup, Option.map_map]
    rcases KeySet.remove_cases hbal.ascending_set n with ⟨-, heq⟩ | ⟨_, k, _, _, -, -, heq, -⟩
    · simp only [heq]
      rfl
    · simp only [heq]
      rfl
  · rintro id slot hid rfl
    rw [← hlookup] at hid
    obtain ⟨k, hk, rfl⟩ := Option.map_eq_some_iff.mp hid
    refine ⟨k, ?_, rfl⟩
    rw [hk]
    exact Slots.get?_put_self _ _ _

theorem refines_remove (h : s.Sound [] [] []) (hks : s.sets.get? set = some ks) :
    ∃ reply s', s.exec (.remove set raw maybe) = some (reply, s') ∧
      s.Refines s' reply (.remove set raw maybe) := by
  show ∃ reply s', s.remove set raw maybe = some (reply, s') ∧ _
  simp only [Session.remove, Refines]
  rcases Name.parse raw with e | n
  · exact ⟨.failed e, s, rfl, rfl, rfl⟩
  · exact h.erases_removeName maybe hks n

theorem refines_removeKey {k : Key} (h : s.Sound [] [] []) (hks : s.sets.get? set = some ks)
    (hk : s.keys.get? key = some k) :
    ∃ reply s', s.exec (.removeKey set key maybe) = some (reply, s') ∧
      s.Refines s' reply (.removeKey set key maybe) := by
  obtain ⟨reply, s', hstep, herases⟩ := h.erases_removeName maybe hks (s.pool.name k)
  exact ⟨reply, s', Option.bind_eq_some_iff.mpr ⟨k, hk, hstep⟩, k, hk, herases⟩

theorem refines_clear (hks : s.sets.get? set = some ks) :
    ∃ reply s', s.exec (.clear set) = some (reply, s') ∧ s.Refines s' reply (.clear set) :=
  ⟨_, _, exec_clear hks, congrArg (Option.map _) (Slots.get?_put_self s.sets set {})⟩

theorem refines_replace {other : KeySet} (h : s.Sound [] [] []) (hne : set ≠ source)
    (hks : s.sets.get? set = some ks) (hother : s.sets.get? source = some other) :
    ∃ reply s', s.exec (.replace set source) = some (reply, s') ∧
      s.Refines s' reply (.replace set source) := by
  have hstep := exec_replace hne hks hother
  refine ⟨_, _, hstep, other.toMap s.pool, map?_of_get? hother, ?_⟩
  have hmap := (h.exec hstep).map?_eq (Slots.get?_put_self _ _ _)
    ((Pool.Evolves.refl _ _ _).drop ks) fun k hk => h.exists_of_member hother hk
  exact hmap

theorem refines_shareSet (h : s.Sound [] [] []) (hks : s.sets.get? set = some ks) :
    ∃ reply s', s.exec (.shareSet set into) = some (reply, s') ∧
      s.Refines s' reply (.shareSet set into) := by
  have hstep := exec_shareSet into hks
  refine ⟨_, _, hstep, ks.toMap s.pool, map?_of_get? hks, ?_⟩
  exact (h.exec hstep).map?_eq (get?_storeSet _ _ _)
    (((Pool.Evolves.refl _ _ _).lockAll ks.toList).trans
      (storeSet_evolves { s with pool := s.pool.lockAll ks.toList } into ks))
    fun k hk => h.exists_of_member hks hk

/-- The copies have the names of the keys, and say what they say. -/
theorem refines_copySet (h : s.Sound [] [] []) (hforward : s.pool.Forward)
    (hks : s.sets.get? set = some ks) :
    ∃ reply s', s.exec (.copySet set into) = some (reply, s') ∧
      s.Refines s' reply (.copySet set into) := by
  have hstep := exec_copySet into hks
  have hsound := h.exec hstep
  have hget := get?_storeSet { s with pool := (ks.copy s.pool).1 } into (ks.copy s.pool).2
  have hcopies := KeySet.copy_copies hforward (h.ascending_of_set hks) fun k hk =>
    Pool.find?_lt (h.exists_of_member hks hk).choose_spec
  have hbal := h.balanced.copySet ks
  have hev := storeSet_evolves { s with pool := (ks.copy s.pool).1 } into (ks.copy s.pool).2
  have hmap := hsound.map?_eq hget hev
    fun k hk => hbal.exists_of_mem_set List.mem_cons_self hk
  obtain ⟨hkeys, hlookup⟩ := hcopies.toMap (h.ascending_of_set hks)
  refine ⟨_, _, hstep, ks.toMap s.pool, (ks.copy s.pool).2.toMap (ks.copy s.pool).1,
    map?_of_get? hks, hmap, hkeys, ?_⟩
  intro n id id' hid hid'
  obtain ⟨hnew, hlt, htree⟩ := hlookup n id id' hid hid'
  have hforward' := hcopies.evolves.forward hforward
  obtain ⟨k', hk', -, rfl⟩ := Pool.mem_pairs.mp
    ((KeySet.lookup_toMap_iff (hcopies.ascending (h.ascending_of_set hks))).mp hid')
  have hthere := hsound.exists_of_member hget hk'
  refine ⟨?_, fun i hi => Nat.le_trans hnew (hi.le (hev.forward hforward'))⟩
  rw [← htree]
  exact hsound.balanced.tree_eq_of_evolves hev hforward' hthere hlt

/-! ### All commands -/

/-- **A command on sets that finds what it works on does to the maps what it stands for.** -/
theorem refines (h : s.Sound [] [] []) (hforward : s.pool.Forward) {c : Command} (hc : c.Fits s) :
    ∃ reply s', s.exec c = some (reply, s') ∧ s.Refines s' reply c := by
  cases c with
  | collect set keys =>
    obtain ⟨list, hlist⟩ := hc
    exact h.refines_collect hlist
  | extend set keys =>
    obtain ⟨⟨ks, hks⟩, list, hlist⟩ := hc
    exact h.refines_extend hks hlist
  | append set key =>
    obtain ⟨⟨ks, hks⟩, k, hk⟩ := hc
    exact h.refines_append hks hk
  | appendAll set source =>
    obtain ⟨⟨ks, hks⟩, other, hother⟩ := hc
    exact h.refines_appendAll hks hother
  | remove set raw into =>
    obtain ⟨ks, hks⟩ := hc
    exact h.refines_remove hks
  | removeKey set key into =>
    obtain ⟨⟨ks, hks⟩, k, hk⟩ := hc
    exact h.refines_removeKey hks hk
  | clear set =>
    obtain ⟨ks, hks⟩ := hc
    exact refines_clear hks
  | replace set source =>
    obtain ⟨hne, ⟨ks, hks⟩, other, hother⟩ := hc
    exact h.refines_replace hne hks hother
  | shareSet set into =>
    obtain ⟨ks, hks⟩ := hc
    exact h.refines_shareSet hks
  | copySet set into =>
    obtain ⟨ks, hks⟩ := hc
    exact h.refines_copySet hforward hks
  | _ => exact hc.elim

/-- **A command changes no map but those of the slots that it puts sets into.** -/
theorem map?_of_notMem (h : s.Sound [] [] []) {c : Command} {out : Reply × Session}
    (hstep : s.exec c = some out) (hslot : slot ∉ c.sets) : out.2.map? slot = s.map? slot := by
  have hget := (h.stays_exec hstep).sets slot hslot
  rw [map?, map?, hget]
  rcases hks : s.sets.get? slot with _ | ks
  · rfl
  · -- the members are locked, so that they keep their names
    refine congrArg some (KeySet.toMap_congr fun k hk => ?_)
    exact h.name_exec hstep (h.balanced.locked_of_mem_set (mem_keySets hks) hk)
      ((h.exec hstep).exists_of_member (hget.trans hks) hk)

theorem readsMaps (h : s.Sound [] [] []) : s.ReadsMaps := by
  intro ks hks
  have hasc := h.balanced.ascending _ hks
  refine ⟨KeySet.lists_toMap hasc, fun n => ⟨(KeySet.lookup_toMap hasc n).symm,
    KeySet.contains_iff hasc n, fun raw hraw => ?_⟩⟩
  rw [findNamed, hraw, KeySet.lookup_toMap hasc]
  rfl

end Sound

/-- **Key sets are maps.**  In every session that a host reaches, and along every run of commands
from there, each key set lists the entries of a map in order, searches are lookups, and the commands
on sets do to the maps what they stand for. -/
theorem Reachable.follows_maps {s : Session} (h : s.Reachable) (commands : List Command) :
    s.Follows commands := by
  induction commands generalizing s with
  | nil => exact h.sound.readsMaps
  | cons c rest ih =>
    refine ⟨h.sound.readsMaps, fun hc => ?_, fun reply s' hstep => ⟨fun hc => ?_, ?_, ?_⟩⟩
    · obtain ⟨reply, s', hstep, -⟩ := h.sound.refines h.forward hc
      exact ⟨_, hstep⟩
    · obtain ⟨reply', s'', hstep', hrefines⟩ := h.sound.refines h.forward hc
      rw [hstep, Option.some.injEq, Prod.mk.injEq] at hstep'
      obtain ⟨rfl, rfl⟩ := hstep'
      exact hrefines
    · intro slot hslot
      have hsame := h.sound.map?_of_notMem hstep hslot
      exact hsame
    · exact ih (.step h hstep)

/-- Three keys are collected, the first and the last of which have one name; the name of the other
one comes first as text and last in order.  The set maps the name of the two to the last of them. -/
theorem Reachable.follows_maps_collected :
    ∃ s s' m, Session.execAll {} [.build "first" "user/a/b" [], .build "other" "user/a-b" [],
        .build "last" "user/a/b" []] = some s ∧
      s.exec (.collect "set" ["first", "other", "last"]) = some (.done, s') ∧
      s'.map? "set" = some m ∧ m.lookup (s.pool.name ⟨0, {}⟩) = some 2 ∧ s'.ReadsMaps := by
  have hrun : (Session.execAll {} [.build "first" "user/a/b" [], .build "other" "user/a-b" [],
      .build "last" "user/a/b" []]).map (fun s => (["first", "other", "last"].mapM s.keys.get?,
        ([⟨2, {}⟩, ⟨1, {}⟩, ⟨0, {}⟩] : List Key).find?
          fun k => s.pool.name k = s.pool.name ⟨0, {}⟩))
      = some (some [⟨0, {}⟩, ⟨1, {}⟩, ⟨2, {}⟩], some ⟨2, {}⟩) := by decide +kernel
  obtain ⟨s, hs, hboth⟩ := Option.map_eq_some_iff.mp hrun
  obtain ⟨hkeys, hlast⟩ := Prod.mk.inj hboth
  have hfits : (Command.collect "set" ["first", "other", "last"]).Fits s := ⟨_, hkeys⟩
  obtain ⟨-, -, hfollows⟩ := (Reachable.start.execAll hs).follows_maps
    [.collect "set" ["first", "other", "last"]]
  obtain ⟨hrefines, -, hreads⟩ := hfollows _ _ (exec_collect "set" hkeys)
  obtain ⟨list, m, hlist, hmap, -, hlookup⟩ := hrefines hfits
  rw [hkeys, Option.some.injEq] at hlist
  subst hlist
  refine ⟨s, _, m, hs, exec_collect "set" hkeys, hmap, ?_, hreads⟩
  rw [hlookup]
  exact congrArg (Option.map Key.id) hlast

end Session
end ConfigKeys
