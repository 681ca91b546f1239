import ConfigKeys.Proofs.Plugin.Stored

/-!
# One kept key is read

To read compares a kept key with the caller's key of its name, if there is one.  If it is news, a
copy of it takes the place of the caller's key.

## Main definitions

* `KeySet.treeAt?` — what the key of a name in a set says.
* `KeyTree.agrees`, `KeyTree.isNews`, `KeyTree.readInto` — what is kept, compared to what a caller
  has.
* `Pool.Unchanged` — the same comparison, said of keys.

## Main results

* `Pool.Balanced.find?_append_copy`, `Pool.Balanced.tree_append_copy` — a copy takes the place of
  the key of its name, and says what that key says.
* `Pool.Balanced.refresh_eq` — to read one kept key is to copy it if it is news.
-/

namespace ConfigKeys

/-- Where no two elements are of one image, a search for the image of one finds it. -/
theorem find?_of_nodup_map {α β : Type} [DecidableEq β] {f : α → β} {l : List α} {x : α}
    (h : (l.map f).Nodup) (hx : x ∈ l) : (l.find? fun y => f y = f x) = some x := by
  obtain ⟨y, hy⟩ : ∃ y, (l.find? fun y => f y = f x) = some y :=
    Option.isSome_iff_exists.mp (List.find?_isSome.mpr ⟨x, hx, decide_eq_true rfl⟩)
  have hfound : f y = f x := by simpa using List.find?_some hy
  rw [hy, List.inj_on_of_nodup_map h (List.mem_of_find?_eq_some hy) hx hfound]

namespace KeyTree

/-- Whether a caller's key says what a kept key says, as far as a read looks: their values are the
same, and their metadata has the same names and bytes in the same order. -/
def agrees (mine kept : KeyTree) : Bool :=
  mine.value = kept.value && mine.entries.map (fun t => (t.name, t.value.bytes))
    = kept.entries.map fun t => (t.name, t.value.bytes)

theorem agrees_iff {mine kept : KeyTree} : mine.agrees kept = true ↔ mine.value = kept.value ∧
    mine.entries.map (fun t => (t.name, t.value.bytes))
      = kept.entries.map fun t => (t.name, t.value.bytes) := by
  simp [agrees]

theorem agrees_self (t : KeyTree) : t.agrees t = true := agrees_iff.mpr ⟨rfl, rfl⟩

/-- Whether a kept key is news to a caller who has this key of its name, if any. -/
def isNews (kept : KeyTree) (mine : Option KeyTree) : Bool := !mine.any fun t => t.agrees kept

/-- What a caller has under a name after a read. -/
def readInto (kept mine : Option KeyTree) : Option KeyTree :=
  match kept with
  | none => mine
  | some t => if t.isNews mine then some t else mine

/-- What was read is no news. -/
theorem isNews_readInto (kept : KeyTree) (mine : Option KeyTree) :
    kept.isNews (readInto (some kept) mine) = false := by
  show kept.isNews (if kept.isNews mine then some kept else mine) = false
  by_cases hnews : kept.isNews mine = true
  · rw [if_pos hnews, isNews, Option.any_some, agrees_self]
    rfl
  · rw [if_neg hnews]
    exact Bool.eq_false_iff.mpr hnews

end KeyTree

/-- What the key of a name in a set says. -/
def KeySet.treeAt? (p : Pool) (s : KeySet) (n : Name) : Option KeyTree :=
  (s.find? p n).map fun k => p.tree k.id

theorem KeySet.treeAt?_of_empty {p : Pool} {s : KeySet} (h : s.toList = []) (n : Name) :
    s.treeAt? p n = none := by
  rw [KeySet.treeAt?, Option.map_eq_none_iff, Option.eq_none_iff_forall_ne_some]
  intro k hk
  have hmem := mem_of_find? hk
  rw [h] at hmem
  cases hmem

namespace Pool

variable {p q : Pool} {store keys : KeySet} {parent k : Key} {m : MemoryStore}
variable {S R : List (List Key)} {P H L : List RecordId}

/-- What is found among trees by name is the tree of what is found among keys. -/
theorem find?_trees (p : Pool) (l : List Key) (n : Name) :
    (l.map fun k => p.tree k.id).find? (fun t => t.name = n)
      = (l.find? fun k => p.name k = n).map fun k => p.tree k.id := by
  simp only [List.find?_map, Function.comp_def, name_tree]
  rfl

/-- A caller's key was not changed, as far as a read can tell: it has the bytes and the flag of the
kept key, and its metadata has the same names in the same order, with the same bytes. -/
structure Unchanged (p : Pool) (mine kept : Key) : Prop where
  /-- The bytes of the values are the same. -/
  bytes : (p.value mine).bytes = (p.value kept).bytes
  /-- Both are binary, or both are texts. -/
  binary : (p.value mine).binary = (p.value kept).binary
  /-- The names in the metadata are the same, and so are the bytes there. -/
  entries : (p.entries mine).map (fun e => (p.name e, (p.value e).bytes))
    = (p.entries kept).map fun e => (p.name e, (p.value e).bytes)

/-- The names and bytes in the metadata of a key are those in its tree. -/
theorem Forward.entries_compared (hp : p.Forward) (x : Key) :
    (p.tree x.id).entries.map (fun t => (t.name, t.value.bytes))
      = (p.entries x).map fun e => (p.name e, (p.value e).bytes) := by
  rw [hp.tree_eq, KeyTree.entries, List.map_map]
  refine List.map_congr_left fun e _ => ?_
  simp only [Function.comp_apply, name_tree, hp.value_tree]
  rfl

/-- Trees agree if the one key was not changed. -/
theorem Forward.agrees_tree_iff (hp : p.Forward) {mine k : Key} :
    (p.tree mine.id).agrees (p.tree k.id) = true ↔ p.Unchanged mine k := by
  rw [KeyTree.agrees_iff, hp.value_tree, hp.value_tree, hp.entries_compared, hp.entries_compared]
  constructor
  · rintro ⟨hvalue, hentries⟩
    exact ⟨congrArg Value.bytes hvalue, congrArg Value.binary hvalue, hentries⟩
  · rintro ⟨hbytes, hbinary, hentries⟩
    exact ⟨Value.ext hbytes hbinary, hentries⟩

/-- The values and the metadata that a read compares are those of the trees. -/
theorem Forward.agrees_tree (hp : p.Forward) {mine k : Key} (hname : p.name mine = p.name k) :
    (p.tree mine.id).agrees (p.tree k.id) = (p.sameContent mine k && p.sameMeta mine k) := by
  have hvalue : p.sameContent mine k = decide (p.value mine = p.value k) := by
    by_cases hid : mine.id = k.id
    · simp [sameContent, value, hid]
    · simp [sameContent, hid, hname]
  rw [KeyTree.agrees, hp.value_tree, hp.value_tree, hp.entries_compared, hp.entries_compared, hvalue]
  rfl

namespace Balanced

/-- A key that is in a set before and after says what it said, if nothing was written. -/
theorem says_kept {S' R' : List (List Key)} {P' H' L' : List RecordId} {l l' : List Key} {x : Key}
    (h : p.Balanced S R P H L) (hp : p.Forward) (hev : p.Evolves ∅ ∅ q)
    (hq : q.Balanced S' R' P' H' L') (hl : l ∈ S) (hl' : l' ∈ S') (hx : x ∈ l) (hx' : x ∈ l') :
    q.tree x.id = p.tree x.id ∧ q.name x = p.name x := by
  obtain ⟨r, hr⟩ := h.exists_of_mem_set hl hx
  have htree : q.tree x.id = p.tree x.id :=
    hq.tree_eq_of_evolves hev hp (hq.exists_of_mem_set hl' hx') (find?_lt hr)
  refine ⟨htree, ?_⟩
  rw [name, name, ← name_tree, htree, name_tree]

/-- A search in a set that stays finds what it found, if nothing was written. -/
theorem find?_kept {S' R' : List (List Key)} {P' H' L' : List RecordId}
    (h : p.Balanced S R P H L) (hkeys : keys.toList ∈ S) (hev : p.Evolves ∅ ∅ q)
    (hq : q.Balanced S' R' P' H' L') (hkeys' : keys.toList ∈ S') (n : Name) :
    keys.find? q n = keys.find? p n :=
  KeySet.find?_congr (h.ascending _ hkeys)
    (KeySet.names_kept hev (fun _ hx => h.exists_of_mem_set hkeys hx) hq hkeys') n

/-! ### A copy comes in -/

theorem append_copy (h : p.Balanced (keys.toList :: S) R P H L) (k : Key) :
    (keys.append (p.copy k.id) ⟨p.nextId, {}⟩).1.Balanced
      ((keys.append (p.copy k.id) ⟨p.nextId, {}⟩).2.toList :: S) R P H L := by
  obtain ⟨hcopy, ⟨r, hr, -⟩, -, -⟩ := h.copy k.id
  exact hcopy.append (k := ⟨p.nextId, {}⟩) hr

/-- A search finds a copy that was appended, and the others as before. -/
theorem find?_append_copy (h : p.Balanced (keys.toList :: S) R P H L) (k : Key) (n : Name) :
    let done := keys.append (p.copy k.id) ⟨p.nextId, {}⟩
    done.2.find? done.1 n
      = if n = p.name k then some ⟨p.nextId, {}⟩ else keys.find? p n := by
  intro done
  obtain ⟨hcopy, ⟨r, hr, hname⟩, -, -⟩ := h.copy k.id
  have hname' : (p.copy k.id).name ⟨p.nextId, {}⟩ = p.name k := by
    rw [name, record_of_find? hr, hname]
    rfl
  have hnew : ∀ x ∈ keys.toList, x.id ≠ p.nextId := by
    intro x hx
    obtain ⟨r', hr'⟩ := h.exists_of_mem_set List.mem_cons_self hx
    exact Nat.ne_of_lt (find?_lt hr')
  have hfound : done.2.find? done.1 n = if n = (p.copy k.id).name ⟨p.nextId, {}⟩
      then some ⟨p.nextId, {}⟩ else keys.find? (p.copy k.id) n :=
    KeySet.find?_append hcopy hr hnew n
  rw [hfound, hname', h.find?_kept List.mem_cons_self ((Evolves.refl ∅ ∅ p).copy k.id) hcopy
    List.mem_cons_self]

/-- The copy says what the key says of which it is one. -/
theorem tree_append_copy (h : p.Balanced (keys.toList :: S) R P H L) (hp : p.Forward) (k : Key) :
    (keys.append (p.copy k.id) ⟨p.nextId, {}⟩).1.tree p.nextId = p.tree k.id := by
  obtain ⟨-, -, -, hgrows⟩ := h.copy k.id
  have hfound := h.find?_append_copy k (p.name k)
  rw [if_pos rfl] at hfound
  have hthere := (h.append_copy k).exists_of_mem_set List.mem_cons_self
    (KeySet.mem_of_find? hfound)
  rw [(h.append_copy k).tree_eq_of_evolves ((Evolves.refl ∅ ∅ _).append keys _)
    (((Evolves.refl ∅ ∅ p).copy k.id).forward hp) hthere hgrows, tree_copy hp]

/-- **To read one kept key** is to copy it into the caller's set if it is news to the caller, and
nothing otherwise. -/
theorem refresh_eq (h : p.Balanced (keys.toList :: S) R P H L) (hp : p.Forward) (count : Nat)
    (k : Key) :
    MemoryStore.refresh p keys count k =
      if (p.tree k.id).isNews (keys.treeAt? p (p.name k)) then
        ((keys.append (p.copy k.id) ⟨p.nextId, {}⟩).1,
          (keys.append (p.copy k.id) ⟨p.nextId, {}⟩).2, count + 1)
      else (p, keys, count) := by
  unfold MemoryStore.refresh KeyTree.isNews KeySet.treeAt?
  cases hfind : keys.find? p (p.name k) with
  | none => rfl
  | some mine =>
    obtain ⟨-, hname⟩ := (KeySet.find?_eq_some_iff h.ascending_set).mp hfind
    rw [Option.map_some, Option.any_some, hp.agrees_tree hname]
    cases hsame : p.sameContent mine k && p.sameMeta mine k with
    | true => simp only [hsame]; rfl
    | false => simp only [hsame]; rfl

end Balanced
end Pool
end ConfigKeys
