import Mathlib.Data.List.Perm.Basic
import ConfigKeys.Proofs.Config.Leaves
import ConfigKeys.Proofs.Config.Texts
import ConfigKeys.Proofs.Name.Rootless

/-!
# Entries of a configuration

A configuration that was loaded has one key for each leaf of its tree, below the cascading root.
Each entry is read under the path to it, written behind a separator; and without one, unless its
first segment stands for a namespace.  Entries may be set later on, in a configuration or in a
clone: the two share their keys, but what is set in one of them is not seen in the other.

## Main definitions

* `Config.Flattens` — the keys of a configuration are the leaves of a tree.
* `Config.Call`, `Config.call`, `Config.told` — texts are set and clones are made, and what each
  configuration was told.
* `Config.lastSet?` — the last text set under some spelling of a name.

## Main results

* `Config.get?_of_flattens` — what is read in a configuration that was loaded.
* `Config.Tells.run` — what is read after any calls.
* `Config.flattening_is_lossless` — **no leaf is lost, and none is mixed up with another.**
* `Config.rootless_path_reads` — **a leaf is read without a root**, unless its path leads into a
  namespace.
-/

namespace ConfigKeys

namespace Config

variable {p q : Pool} {S R : List (List Key)} {P H L : List RecordId}
variable {c c' : Config} {v : Toml.Value} {members : List (String × Toml.Value)}
variable {n : Name} {raw text : String} {path : List String}

/-! ### Loading -/

/-- A text is loaded as the tree that it stands for. -/
theorem ofToml_eq (p : Pool) (h : Toml.parse? text = some members) :
    ofToml p text = ofTree p (.table members) := by
  rw [ofToml, h]

/-- The keys of a configuration are the leaves of a tree, each below the cascading root at its
path. -/
structure Flattens (v : Toml.Value) (p : Pool) (c : Config) : Prop where
  /-- All keys are cascading. -/
  cascading : ∀ k ∈ c.entries.toList, (p.name k).root = .cascading
  /-- No two have one name. -/
  nodup : (c.entries.toList.map p.name).Nodup
  /-- There is a key for each leaf, and no other. -/
  mem_iff : ∀ n text, (n, text) ∈ c.entries.texts p ↔ ∃ path, n = ⟨.cascading, path⟩ ∧
    v.Leaf path text

/-- **A tree is flattened** just if all names fit. -/
theorem ofTree_of_fits (h : p.Balanced S R P H L) (hdistinct : v.Distinct)
    (hfits : v.FitsBelow (.ofRoot .cascading)) :
    ∃ q c, ofTree p v = .ok (q, c) ∧ q.Balanced (c.entries.toList :: S) R P H L ∧
      Flattens v q c := by
  obtain ⟨leaves, hleaves, hgathers⟩ := Toml.Value.leaves_eq_ok hdistinct hfits
  have hset := h.ofTexts leaves
  have htexts : ∀ n text,
      (n, text) ∈ (KeySet.ofTexts p leaves).2.texts (KeySet.ofTexts p leaves).1 ↔
      ∃ path, n = ⟨.cascading, path⟩ ∧ v.Leaf path text := by
    intro n text
    rw [← KeySet.textAt?_eq_some_iff hset.ascending_set, KeySet.textAt?_ofTexts h,
      KeySet.lookup_eq_some_iff_mem (KeySet.eq_of_nodup hgathers.nodup n), hgathers.mem_iff]
    rfl
  refine ⟨_, ⟨_⟩, by rw [ofTree, hleaves], hset, ?_, hset.ascending_set.distinct, htexts⟩
  intro k hk
  obtain ⟨path, hname, -⟩ := (htexts _ _).mp (List.mem_map_of_mem hk)
  rw [hname]

theorem ofTree_of_not_fits (p : Pool) (hfits : ¬ v.FitsBelow (.ofRoot .cascading)) :
    ∃ e, ofTree p v = .error (.key e) := by
  rcases hleaves : v.leaves (.ofRoot .cascading) with e | leaves
  · exact ⟨e, by rw [ofTree, hleaves]⟩
  · exact absurd (Toml.Value.fitsBelow_of_leaves hleaves) hfits

/-! ### Reading -/

theorem get?_eq (hn : metaName raw = .ok n) : c.get? p raw = c.entries.textAt? p n := by
  rw [get?, hn]
  rfl

theorem get?_of_error {e : KeyError} (hn : metaName raw = .error e) : c.get? p raw = none := by
  rw [get?, hn]

/-- **What is read in a configuration that was loaded**: the leaf at the path of the name. -/
theorem get?_of_flattens (h : Flattens v p c) (hasc : p.Ascending c.entries.toList)
    (hn : metaName raw = .ok n) :
    c.get? p raw = some text ↔ ∃ path, n = ⟨.cascading, path⟩ ∧ v.Leaf path text := by
  rw [get?_eq hn, KeySet.textAt?_eq_some_iff hasc, h.mem_iff]

/-- The path to a leaf of a table leads to a member first, and has a fit name. -/
theorem exists_cons_of_leaf (hfits : (Toml.Value.table members).FitsBelow (.ofRoot .cascading))
    (hleaf : (Toml.Value.table members).Leaf path text) :
    ∃ segment rest, path = segment :: rest ∧ Name.Fits {} ⟨.cascading, path⟩ := by
  obtain ⟨w, hat, hw⟩ := hleaf
  cases hat with
  | here => cases hw
  | child hchild hbelow =>
    exact ⟨_, _, rfl, hfits _ w (.child hchild hbelow) (List.cons_ne_nil _ _)⟩

/-- A leaf is read under its path, behind a separator. -/
theorem get?_rooted (h : Flattens v p c) (hasc : p.Ascending c.entries.toList)
    (hfits : Name.Fits {} ⟨.cascading, path⟩) (hleaf : v.Leaf path text) :
    c.get? p ("/" ++ Name.rootless path) = some text := by
  have hread := metaName_canonical hfits
  rw [Name.canonical_cascading] at hread
  exact (get?_of_flattens h hasc hread).mpr ⟨path, rfl, hleaf⟩

/-! ### Setting and cloning -/

/-- A call on one of some configurations. -/
inductive Call
  /-- An entry is set to a text. -/
  | set (object : Nat) (raw text : String)
  /-- Another configuration of the same keys is made. -/
  | clone (object : Nat)

/-- What a call makes of some configurations.  To set an entry of which the name cannot be read
fails, and leaves everything as it is. -/
def call (s : Pool × List Config) : Call → Pool × List Config
  | .set object raw text =>
    match s.2[object]? with
    | none => s
    | some c =>
      match c.set s.1 raw text with
      | .error _ => s
      | .ok (p, c) => (p, s.2.set object c)
  | .clone object =>
    match s.2[object]? with
    | none => s
    | some c => ((c.share s.1).1, s.2 ++ [(c.share s.1).2])

/-- What each of some configurations was told to set, first things first; a clone was told what the
configuration was of which it is one. -/
def told (sets : List (List (String × String))) : Call → List (List (String × String))
  | .set object raw text => sets.modify object (· ++ [(raw, text)])
  | .clone object => sets ++ sets[object]?.toList

/-- The last text set under a spelling of a name. -/
def lastSet? (sets : List (String × String)) (n : Name) : Option String :=
  (sets.reverse.find? fun t => (metaName t.1).toOption = some n).map Prod.snd

theorem lastSet?_snoc (sets : List (String × String)) (raw text : String) (n : Name) :
    lastSet? (sets ++ [(raw, text)]) n
      = if (metaName raw).toOption = some n then some text else lastSet? sets n := by
  rw [lastSet?, lastSet?, List.reverse_append, List.reverse_singleton, List.singleton_append,
    List.find?_cons]
  split
  · next h => rw [if_pos (of_decide_eq_true h)]; rfl
  · next h => rw [if_neg (of_decide_eq_false h)]

/-- What some configurations say that have a common origin: for each name the last text that they
were told to set under it, and where there is none, what the origin said. -/
structure Tells (S R : List (List Key)) (P H L : List RecordId) (origin : Name → Option String)
    (s : Pool × List Config) (sets : List (List (String × String))) : Prop where
  /-- The places in all of them are counted. -/
  balanced : s.1.Balanced (s.2.map (fun c => c.entries.toList) ++ S) R P H L
  /-- For each of them it is known what it was told. -/
  length_eq : s.2.length = sets.length
  /-- This is what it says. -/
  textAt? : ∀ (i : Nat) (c : Config) (ts : List (String × String)), s.2[i]? = some c →
    sets[i]? = some ts → ∀ n, c.entries.textAt? s.1 n = (lastSet? ts n).or (origin n)

/-- A text that is set takes the place of the one under its name. -/
theorem textAt?_set (h : p.Balanced (c.entries.toList :: S) R P H L)
    (hset : c.set p raw text = .ok (q, c')) (n : Name) :
    c'.entries.textAt? q n
      = if (metaName raw).toOption = some n then some text else c.entries.textAt? p n := by
  rw [Config.set] at hset
  rcases hm : metaName raw with e | m
  · rw [hm] at hset
    cases hset
  · rw [hm] at hset
    cases hset
    refine (KeySet.textAt?_appendText h m text n).trans ?_
    simp [Except.toOption, eq_comm]

namespace Tells

variable {origin : Name → Option String} {s : Pool × List Config}
  {sets : List (List (String × String))}

/-- What writes nothing leaves alone what is said. -/
theorem kept {q : Pool} {S' : List (List Key)} (h : Tells S R P H L origin s sets)
    (hev : s.1.Evolves ∅ ∅ q) (hc : c ∈ s.2) (hq : q.Balanced S' R P H L)
    (hc' : c.entries.toList ∈ S') (n : Name) :
    c.entries.textAt? q n = c.entries.textAt? s.1 n :=
  KeySet.textAt?_kept h.balanced (List.mem_append_left S (List.mem_map_of_mem hc)) hev hq hc' n

/-- A text that is set in one of them is told to that one only. -/
theorem set (h : Tells S R P H L origin s sets) {object : Nat} (hc : s.2[object]? = some c)
    (hset : c.set s.1 raw text = .ok (q, c')) :
    Tells S R P H L origin (q, s.2.set object c') (told sets (.set object raw text)) := by
  obtain ⟨hlt, rfl⟩ := List.getElem?_eq_some_iff.mp hc
  have hev : s.1.Evolves ∅ ∅ q := ((Pool.Evolves.refl ∅ ∅ s.1).setConfig hset).1
  -- the place of the one in hand is brought to the front, and back
  have hfront : ∀ x : Config, ((s.2.set object x).map (fun c => c.entries.toList) ++ S).Perm
      (x.entries.toList :: ((s.2.eraseIdx object).map (fun c => c.entries.toList) ++ S)) :=
    fun x => ((List.set_perm_cons_eraseIdx hlt x).map _).append_right S
  have hbefore := h.balanced.perm_sets ((List.set_getElem_self hlt ▸ hfront s.2[object]).symm)
  have hafter : q.Balanced ((s.2.set object c').map (fun c => c.entries.toList) ++ S) R P H L :=
    (hbefore.setConfig hset).perm_sets (hfront c')
  refine ⟨hafter, ?_, ?_⟩
  · rw [told, List.length_set, List.length_modify]
    exact h.length_eq
  · intro i x ts hx hts n
    by_cases hi : object = i
    · subst hi
      rw [told, List.getElem?_modify_eq] at hts
      obtain rfl : c' = x := Option.some.inj ((List.getElem?_set_self hlt).symm.trans hx)
      obtain ⟨ts', hts', rfl⟩ := Option.map_eq_some_iff.mp hts
      rw [textAt?_set hbefore hset, lastSet?_snoc]
      split
      · rfl
      · exact h.textAt? object _ ts' hc hts' n
    · have hmem : x.entries.toList ∈ (s.2.set object c').map (fun c => c.entries.toList) ++ S :=
        List.mem_append_left S (List.mem_map_of_mem (List.mem_of_getElem? hx))
      rw [List.getElem?_set_ne hi] at hx
      rw [told, List.getElem?_modify_ne _ _ hi] at hts
      rw [h.kept hev (List.mem_of_getElem? hx) hafter hmem]
      exact h.textAt? i x ts hx hts n

/-- A text under a name that cannot be read is set in none of them. -/
theorem refused (h : Tells S R P H L origin s sets) {e : KeyError} (hraw : metaName raw = .error e)
    (object : Nat) (text : String) :
    Tells S R P H L origin s (told sets (.set object raw text)) where
  balanced := h.balanced
  length_eq := by rw [told, List.length_modify, h.length_eq]
  textAt? i x ts hx hts n := by
    by_cases hi : object = i
    · subst hi
      rw [told, List.getElem?_modify_eq] at hts
      obtain ⟨ts', hts', rfl⟩ := Option.map_eq_some_iff.mp hts
      rw [lastSet?_snoc, hraw, if_neg (fun heq => by cases heq)]
      exact h.textAt? object x ts' hx hts' n
    · rw [told, List.getElem?_modify_ne _ _ hi] at hts
      exact h.textAt? i x ts hx hts n

/-- A clone says what the one says of which it is one, and was told the same. -/
theorem clone (h : Tells S R P H L origin s sets) {object : Nat} (hc : s.2[object]? = some c) :
    Tells S R P H L origin ((c.share s.1).1, s.2 ++ [(c.share s.1).2])
      (told sets (.clone object)) := by
  have hmem : c.entries.toList ∈ s.2.map (fun c => c.entries.toList) ++ S :=
    List.mem_append_left S (List.mem_map_of_mem (List.mem_of_getElem? hc))
  have hev : s.1.Evolves ∅ ∅ (c.share s.1).1 := (Pool.Evolves.refl ∅ ∅ s.1).lockAll _
  have hafter : (c.share s.1).1.Balanced
      ((s.2 ++ [(c.share s.1).2]).map (fun c => c.entries.toList) ++ S) R P H L := by
    refine (h.balanced.share hmem).perm_sets ?_
    rw [List.map_append, List.append_assoc]
    exact List.perm_middle
  have hkept : ∀ x ∈ s.2, ∀ n, x.entries.textAt? (c.share s.1).1 n = x.entries.textAt? s.1 n :=
    fun x hx => h.kept hev hx hafter
      (List.mem_append_left S (List.mem_map_of_mem (List.mem_append_left _ hx)))
  obtain ⟨ts, hts⟩ : ∃ ts, sets[object]? = some ts := by
    obtain ⟨hlt, -⟩ := List.getElem?_eq_some_iff.mp hc
    exact ⟨_, List.getElem?_eq_getElem (h.length_eq ▸ hlt)⟩
  refine ⟨hafter, ?_, ?_⟩
  · rw [told, hts, List.length_append, h.length_eq]
    simp
  · intro i x ts' hx hts' n
    rw [told, hts] at hts'
    rcases Nat.lt_or_ge i s.2.length with hlt | hge
    · rw [List.getElem?_append_left hlt] at hx
      rw [List.getElem?_append_left (h.length_eq ▸ hlt)] at hts'
      rw [hkept x (List.mem_of_getElem? hx)]
      exact h.textAt? i x ts' hx hts' n
    · -- the last of them is the clone, which has the keys of its original
      rw [List.getElem?_append_right hge] at hx
      rw [List.getElem?_append_right (h.length_eq ▸ hge), ← h.length_eq] at hts'
      obtain ⟨hlast, rfl⟩ := List.getElem?_eq_some_iff.mp hx
      obtain hzero : i - s.2.length = 0 := Nat.lt_one_iff.mp hlast
      simp only [hzero, Option.toList_some, List.getElem?_cons_zero, Option.some.injEq] at hts' ⊢
      subst hts'
      exact (hkept c (List.mem_of_getElem? hc) n).trans (h.textAt? object c ts hc hts n)

/-- **One call.** -/
theorem call (h : Tells S R P H L origin s sets) (x : Call) :
    Tells S R P H L origin (Config.call s x) (told sets x) := by
  cases x with
  | set object raw text =>
    rcases hc : s.2[object]? with _ | c
    · rw [Config.call, hc, told, List.modify_eq_self (by
        rw [← h.length_eq]
        exact List.getElem?_eq_none_iff.mp hc)]
      exact h
    · rcases hset : c.set s.1 raw text with e | ⟨q, c'⟩
      · have hraw : metaName raw = .error e := by
          rw [Config.set] at hset
          rcases hm : metaName raw with e' | m
          · rw [hm] at hset
            cases hset
            rfl
          · rw [hm] at hset
            cases hset
        simp only [Config.call, hc, hset]
        exact h.refused hraw object text
      · simp only [Config.call, hc, hset]
        exact h.set hc hset
  | clone object =>
    rcases hc : s.2[object]? with _ | c
    · have hnone : sets[object]? = none :=
        List.getElem?_eq_none (h.length_eq ▸ List.getElem?_eq_none_iff.mp hc)
      rw [Config.call, hc, told, hnone, Option.toList_none, List.append_nil]
      exact h
    · simp only [Config.call, hc]
      exact h.clone hc

/-- **Any calls.** -/
theorem run (h : Tells S R P H L origin s sets) (calls : List Call) :
    Tells S R P H L origin (calls.foldl Config.call s) (calls.foldl told sets) := by
  induction calls generalizing s sets with
  | nil => exact h
  | cons x calls ih => exact ih (h.call x)

/-- One configuration, before anything is set in it. -/
theorem start (h : p.Balanced (c.entries.toList :: S) R P H L) :
    Tells S R P H L (c.entries.textAt? p) (p, [c]) [[]] where
  balanced := h
  length_eq := rfl
  textAt? i x ts hx hts n := by
    obtain ⟨hi, rfl⟩ := List.getElem?_eq_some_iff.mp hx
    obtain ⟨hi', rfl⟩ := List.getElem?_eq_some_iff.mp hts
    obtain rfl : i = 0 := Nat.lt_one_iff.mp hi
    rfl

/-- **What is read after any calls**: the last text set under a spelling of the name, and where
there is none, what was read before. -/
theorem get?_eq {x : Config} {ts : List (String × String)} {i : Nat}
    (h : Tells S R P H L (c.entries.textAt? p) s sets) (hx : s.2[i]? = some x)
    (hts : sets[i]? = some ts) (raw : String) :
    x.get? s.1 raw = (metaName raw).toOption.bind fun n => (lastSet? ts n).or (c.get? p raw) := by
  rcases hn : metaName raw with e | n
  · exact get?_of_error hn
  · rw [Config.get?_eq hn, h.textAt? i x ts hx hts, Config.get?_eq hn]
    rfl

end Tells

/-! ### The entries of a tree -/

/-- **No leaf is lost, and none is mixed up with another.**  A text is loaded as the tree that it
stands for.  If every place of the tree has a fit name, the configuration has one key for each leaf,
and the path to the leaf, each segment escaped, behind a separator reads its text.  After any
further calls, each configuration reads what was last set in it, and else what it read at first.
If a place has no fit name, there is no configuration. -/
theorem flattening_is_lossless (h : p.Balanced S R P H L)
    (hdistinct : (Toml.Value.table members).Distinct) :
    let v := Toml.Value.table members
    (∀ text, Toml.parse? text = some members → ofToml p text = ofTree p v) ∧
    (v.FitsBelow (.ofRoot .cascading) →
      ∃ q c, ofTree p v = .ok (q, c) ∧ Flattens v q c ∧
        (∀ path text, v.Leaf path text →
          let raw := "/" ++ Name.rootless path
          c.get? q raw = some text ∧ (c.getBool q raw = true ↔ text = "true")) ∧
        ∀ calls : List Call,
          let s := calls.foldl call (q, [c])
          ∀ (i : Nat) (x : Config) (ts : List (String × String)), s.2[i]? = some x →
            (calls.foldl told [[]])[i]? = some ts → ∀ raw, x.get? s.1 raw
              = (metaName raw).toOption.bind fun n => (lastSet? ts n).or (c.get? q raw)) ∧
    (¬ v.FitsBelow (.ofRoot .cascading) → ∃ e, ofTree p v = .error (.key e)) := by
  intro v
  refine ⟨fun _ => ofToml_eq p, fun hfits => ?_, ofTree_of_not_fits p⟩
  obtain ⟨q, c, hload, hq, hflattens⟩ := ofTree_of_fits h hdistinct hfits
  refine ⟨q, c, hload, hflattens, ?_, ?_⟩
  swap
  · intro calls s i x ts hx hts raw
    exact ((Tells.start hq).run calls).get?_eq hx hts raw
  intro path text hleaf raw
  obtain ⟨_, _, -, hfit⟩ := exists_cons_of_leaf hfits hleaf
  have hread : c.get? q raw = some text := get?_rooted hflattens hq.ascending_set hfit hleaf
  exact ⟨hread, by rw [getBool, hread]; simp [trueToken]⟩

/-- A member with a separator in its name holds an array, whose second item is a table with a
member without a name: the leaf there is read, and the tree is flattened. -/
theorem flattening_is_lossless_nested :
    let v := Toml.Value.table [("a/b", .array [.boolean true, .table [("", .integer (-5))]])]
    v.Distinct ∧ ∃ q c, ofTree {} v = .ok (q, c) ∧ Flattens v q c ∧
      c.get? q "/a\\/b/#1/%" = some "-5" := by
  intro v
  have hdistinct : v.Distinct := by
    simp only [v, Toml.Value.distinct_table, Toml.Value.distinct_array, List.map_cons,
      List.map_nil, List.nodup_singleton, List.forall_mem_cons, List.not_mem_nil,
      IsEmpty.forall_iff, implies_true, and_true, true_and]
    exact ⟨.of_text? rfl, .of_text? rfl⟩
  refine ⟨hdistinct, ?_⟩
  obtain ⟨-, hfit, hunfit⟩ := flattening_is_lossless .empty hdistinct
  by_cases hfits : v.FitsBelow (.ofRoot .cascading)
  · obtain ⟨q, c, hload, hflattens, hread, -⟩ := hfit hfits
    have hleaf : v.Leaf ["a/b", Toml.placeSegment 1, ""] "-5" :=
      ⟨.integer (-5), .child (.head _) (.child (.tail _ (.head _)) (.child (.head _) (.here _))),
        rfl⟩
    have hraw : "/" ++ Name.rootless ["a/b", Toml.placeSegment 1, ""] = "/a\\/b/#1/%" := by
      decide +kernel
    exact ⟨q, c, hload, hflattens, hraw ▸ (hread _ _ hleaf).1⟩
  · obtain ⟨e, he⟩ := hunfit hfits
    have hloads : (ofTree {} v).toOption.isSome = true := by decide +kernel
    rw [he] at hloads
    cases hloads

/-- **A leaf is read without a root**, unless its path leads into a namespace.  The path to a leaf
reads the same without the separator in front as with it, if its first segment is not the word of a
namespace; and if it is, it is read as a name of that namespace, and finds nothing. -/
theorem rootless_path_reads (h : p.Balanced S R P H L)
    (hdistinct : (Toml.Value.table members).Distinct)
    (hload : ofTree p (.table members) = .ok (q, c))
    (hleaf : (Toml.Value.table members).Leaf path text) :
    ∃ segment rest, path = segment :: rest ∧
      c.get? q ("/" ++ Name.rootless path) = some text ∧
      (segment ∉ ["spec", "proc", "dir", "user", "system"] →
        c.get? q (Name.rootless path) = c.get? q ("/" ++ Name.rootless path)) ∧
      (segment ∈ ["spec", "proc", "dir", "user", "system"] →
        c.get? q (Name.rootless path) = none) := by
  have hfits : (Toml.Value.table members).FitsBelow (.ofRoot .cascading) := by
    by_contra hnot
    obtain ⟨e, he⟩ := ofTree_of_not_fits p hnot
    rw [he] at hload
    cases hload
  obtain ⟨q', c', hload', hq, hflattens⟩ := ofTree_of_fits h hdistinct hfits
  obtain ⟨rfl, rfl⟩ := Prod.mk.inj (Except.ok.inj (hload.symm.trans hload'))
  obtain ⟨segment, rest, rfl, hfit⟩ := exists_cons_of_leaf hfits hleaf
  have hrooted := get?_rooted hflattens hq.ascending_set hfit hleaf
  have hread := metaName_rootless (List.cons_ne_nil segment rest) hfit
  refine ⟨segment, rest, rfl, hrooted, fun hword => ?_, fun hword => ?_⟩
  · rw [Name.ofRootless_of_notMem hword] at hread
    rw [hrooted]
    exact (get?_of_flattens hflattens hq.ascending_set hread).mpr ⟨_, rfl, hleaf⟩
  · obtain ⟨root, hroot, rfl⟩ := Name.mem_namespaceWords.mp hword
    rw [Name.ofRootless_marker hroot] at hread
    refine Option.eq_none_iff_forall_ne_some.mpr fun text' hfound => ?_
    -- all entries are cascading
    obtain ⟨_, hname, -⟩ := (get?_of_flattens hflattens hq.ascending_set hread).mp hfound
    exact hroot (congrArg Name.root hname)

/-- A path that begins with no namespace is read the same with a root and without one. -/
theorem rootless_path_reads_below_a :
    ∃ q c, ofTree {} (.table [("a", .table [("b", .text "x")])]) = .ok (q, c) ∧
      c.get? q "a/b" = c.get? q "/a/b" := by
  have hdistinct : (Toml.Value.table [("a", .table [("b", .text "x")])]).Distinct := by
    simp only [Toml.Value.distinct_table, List.map_cons, List.map_nil, List.nodup_singleton,
      List.forall_mem_cons, List.not_mem_nil, IsEmpty.forall_iff, implies_true, and_true, true_and]
    exact .of_text? rfl
  rcases hload : ofTree {} (.table [("a", .table [("b", .text "x")])]) with e | ⟨q, c⟩
  · have hloads :
        (ofTree {} (.table [("a", .table [("b", .text "x")])])).toOption.isSome = true := by
      decide +kernel
    rw [hload] at hloads
    cases hloads
  · have hleaf : (Toml.Value.table [("a", .table [("b", .text "x")])]).Leaf ["a", "b"] "x" :=
      ⟨.text "x", .child (.head _) (.child (.head _) (.here _)), rfl⟩
    obtain ⟨_, _, heq, -, hread, -⟩ := rootless_path_reads .empty hdistinct hload hleaf
    cases heq
    exact ⟨q, c, rfl, hread (by decide)⟩

/-- The path to a member that is named like a namespace leads into that namespace. -/
theorem rootless_path_of_user_entry :
    let v := Toml.Value.table [("user", .table [("a", .integer 1)])]
    ofToml {} "user.a = 1" = ofTree {} v ∧ v.Leaf ["user", "a"] "1" ∧
      Name.rootless ["user", "a"] = "user/a" ∧
      (ofTree {} v).toOption.map (fun (q, c) => (c.get? q "/user/a", c.get? q "user/a"))
        = some (some "1", none) := by
  refine ⟨ofToml_eq {} ?_, ?_, by decide +kernel, by decide +kernel⟩
  · have hchars : "user.a = 1".toList = ['u', 's', 'e', 'r', '.', 'a', ' ', '=', ' ', '1'] := by
      decide +kernel
    have hlines : Toml.readLines? 11 [] [] ['u', 's', 'e', 'r', '.', 'a', ' ', '=', ' ', '1']
        = some [("user", .table .dotted [("a", .value (.integer 1))])] := rfl
    rw [Toml.parse?, hchars]
    show (Toml.readLines? 11 [] [] ['u', 's', 'e', 'r', '.', 'a', ' ', '=', ' ', '1']).bind _ = _
    rw [hlines]
    simp [Toml.Members.toValues, Toml.Node.toValue, Toml.resolveMembers?, Toml.Value.resolve?,
      Toml.spellsDatetime, Toml.datetimeName, Toml.sortMembers]
  · exact ⟨.integer 1, .child (.head _) (.child (.head _) (.here _)), rfl⟩

end Config
end ConfigKeys
