import ConfigKeys.Key.Draft
import ConfigKeys.Proofs.Fallible
import Mathlib.Data.List.Induction
import Mathlib.Data.List.Nodup
import Mathlib.Data.List.TakeWhile
import Mathlib.Logic.Function.Basic

/-!
# What options make of a key

Options are read in order up to the first end mark.  The first one that sets an entry under a text
that is not a name is the error; if there is none, the last value counts, and the entries are a map
that keeps its order: a name stands where it came first, with the text that it got last.

## Main definitions

* `KeyOption.value?`, `KeyOption.setting?`, `KeyOption.fault?` — what one option says.
* `Draft.Collects` — a description to which options were added one by one.
* `Draft.counted` — the options that count.
* `Draft.lastValue`, `Draft.settings`, `Draft.lastText?` — what they come to.
* `Draft.described` — the tree that they describe.

## Main results

* `Draft.apply_eq` — a run over options fails at the first fault, or else makes every change.
* `Draft.foldl_write` — the entries that are set one after the other are a map that keeps its order.
* `Pool.create_eq_error`, `Pool.create_eq_ok` — when a key is not made, and what is made of it else.
-/

namespace ConfigKeys

/-! ### One option -/

namespace KeyOption

/-- The value that an option gives. -/
def value? : KeyOption → Option Value
  | .text value => some (.ofText value)
  | .binary bytes => some (.ofBytes bytes)
  | _ => none

/-- The entry that an option sets: how its name is written, and its text. -/
def entry? : KeyOption → Option (String × String)
  | .entry name value => some (name, value)
  | .comment value => some ("comment", value)
  | _ => none

/-- The entry that an option sets: its name, and its text. -/
def setting? (o : KeyOption) : Option (Name × String) :=
  o.entry?.bind fun entry =>
    match metaName entry.1 with
    | .ok n => some (n, entry.2)
    | .error _ => none

/-- What is wrong with the name of the entry that an option sets. -/
def fault? (o : KeyOption) : Option KeyError :=
  o.entry?.bind fun entry =>
    match metaName entry.1 with
    | .ok _ => none
    | .error e => some e

end KeyOption

namespace Draft

variable {raw : String} {options : List KeyOption} {o : KeyOption} {t : KeyTree} {d : Draft}
variable {texts : List (Name × String)} {n : Name}

/-! ### One by one -/

/-- A description that was begun with a written name and to which options were added one by one. -/
inductive Collects (raw : String) : List KeyOption → Draft → Prop
  | start : Collects raw [] (start raw)
  | option {options : List KeyOption} {d : Draft} (o : KeyOption) (h : Collects raw options d) :
      Collects raw (options ++ [o]) (d.option o)

/-- It has the name and all the options, in order. -/
theorem Collects.eq (h : Collects raw options d) : d = ⟨Name.parse raw, options⟩ := by
  induction h with
  | start => rfl
  | option o _ ih =>
    rw [ih]
    rfl

theorem collects_foldl (raw : String) (options : List KeyOption) :
    Collects raw options (options.foldl Draft.option (start raw)) := by
  induction options using List.reverseRecOn with
  | nil => exact .start
  | append_singleton options o ih =>
    rw [List.foldl_append]
    exact .option o ih

/-! ### What options come to -/

/-- The options that count: those before the first end mark. -/
def counted (options : List KeyOption) : List KeyOption :=
  options.takeWhile fun o => decide (o ≠ .stop)

/-- The value that options give: the last one, or else the empty text. -/
def lastValue (options : List KeyOption) : Value :=
  (options.filterMap KeyOption.value?).getLast?.getD (.ofText "")

/-- The entries that options set, in order. -/
def settings (options : List KeyOption) : List (Name × String) :=
  options.filterMap KeyOption.setting?

/-- The text that a name gets last. -/
def lastText? (texts : List (Name × String)) (n : Name) : Option String :=
  (texts.filter fun setting => decide (setting.1 = n)).getLast?.map Prod.snd

/-- The entry of a name that got texts. -/
def entryOf (texts : List (Name × String)) (n : Name) : KeyTree :=
  .node n (.ofText ((lastText? texts n).getD "")) []

/-- The tree that a name and options describe: each name of an entry stands where it came first, with
the text that it got last. -/
def described (n : Name) (options : List KeyOption) : KeyTree :=
  .node n (lastValue options)
    (((settings options).map Prod.fst).eraseDups.map (entryOf (settings options)))

/-! ### A run over options -/

/-- The trees with an entry set to a text. -/
def write (ts : List KeyTree) (setting : Name × String) : List KeyTree :=
  upsert (fun old => decide (old.name = setting.1)) (.node setting.1 (.ofText setting.2) []) ts

/-- What an option without a fault makes of a tree. -/
def change (t : KeyTree) (o : KeyOption) : KeyTree :=
  .node t.name (o.value?.getD t.value) (o.setting?.toList.foldl write t.entries)

/-- **One option** ends the run, or fails, or changes the tree. -/
theorem apply_cons (t : KeyTree) (ho : o ≠ .stop) (rest : List KeyOption) :
    apply t (o :: rest) =
      match o.fault? with
      | some e => .error e
      | none => apply (change t o) rest := by
  obtain ⟨name, value, entries⟩ := t
  cases o with
  | text value => rfl
  | binary bytes => rfl
  | entry raw text =>
    simp only [apply, setEntry, change, KeyOption.fault?, KeyOption.setting?, KeyOption.value?,
      KeyOption.entry?, Option.bind_some]
    cases metaName raw <;> rfl
  | comment text =>
    simp only [apply, setEntry, change, KeyOption.fault?, KeyOption.setting?, KeyOption.value?,
      KeyOption.entry?, Option.bind_some]
    cases metaName "comment" <;> rfl
  | stop => exact absurd rfl ho

/-- **A run over options** fails at the first fault before the first end mark, or else makes every
change until then. -/
theorem apply_eq (t : KeyTree) (options : List KeyOption) :
    apply t options =
      match (counted options).findSome? KeyOption.fault? with
      | some e => .error e
      | none => .ok ((counted options).foldl change t) := by
  induction options generalizing t with
  | nil => rfl
  | cons o rest ih =>
    by_cases ho : o = .stop
    · subst ho
      rfl
    · have hcounted : counted (o :: rest) = o :: counted rest := by
        simp [counted, ho]
      rw [hcounted, List.findSome?_cons, List.foldl_cons, apply_cons t ho]
      cases o.fault? with
      | some e => rfl
      | none => exact ih (change t o)

/-- What every change makes of a tree: the name stays, the last value counts, and the entries are set
one after the other. -/
theorem foldl_change (t : KeyTree) (options : List KeyOption) :
    options.foldl change t = .node t.name
      ((options.filterMap KeyOption.value?).getLast?.getD t.value)
      ((settings options).foldl write t.entries) := by
  induction options generalizing t with
  | nil =>
    obtain ⟨name, value, entries⟩ := t
    rfl
  | cons o rest ih =>
    rw [List.foldl_cons, ih (change t o), settings, settings, List.filterMap_cons,
      List.filterMap_cons, change]
    congr 1
    · cases o.value? with
      | none => rfl
      | some v => simp [List.getLast?_cons, KeyTree.value]
    · cases o.setting? <;> rfl

/-! ### A map that keeps its order -/

theorem eraseDups_concat (names : List Name) (n : Name) :
    (names ++ [n]).eraseDups = if n ∈ names then names.eraseDups else names.eraseDups ++ [n] := by
  rw [List.eraseDups_append]
  by_cases hn : n ∈ names
  · simp [List.removeAll, hn]
  · simp [List.removeAll, hn, List.eraseDups_cons]

theorem nodup_eraseDups (names : List Name) : names.eraseDups.Nodup := by
  induction names using List.reverseRecOn with
  | nil => exact List.nodup_nil
  | append_singleton names n ih =>
    rw [eraseDups_concat]
    split
    · exact ih
    · next hn =>
      refine List.nodup_append.mpr ⟨ih, List.nodup_singleton n, ?_⟩
      rintro m hm _ hn' rfl
      rw [List.mem_singleton.mp hn', List.mem_eraseDups] at hm
      exact hn hm

/-- Among trees of different names, one that is set takes the place of its name, or goes behind all
others. -/
theorem upsert_map {tree : Name → KeyTree} (hname : ∀ m, (tree m).name = m) {names : List Name}
    (hnodup : names.Nodup) (n : Name) (new : KeyTree) :
    upsert (fun old => decide (old.name = n)) new (names.map tree) =
      (if n ∈ names then names else names ++ [n]).map (Function.update tree n new) := by
  induction names with
  | nil => simp [upsert]
  | cons m names ih =>
    obtain ⟨hm, hrest⟩ := List.nodup_cons.mp hnodup
    rw [List.map_cons, upsert, hname m]
    by_cases heq : m = n
    · subst heq
      -- the name does not come again
      have hothers : names.map (Function.update tree m new) = names.map tree := by
        apply List.map_congr_left
        intro x hx
        apply Function.update_of_ne
        rintro rfl
        exact hm hx
      simp [hothers]
    · have hsame : (if n ∈ m :: names then m :: names else m :: names ++ [n])
          = m :: if n ∈ names then names else names ++ [n] := by
        simp only [List.mem_cons, Ne.symm heq, false_or]
        split <;> rfl
      rw [hsame, List.map_cons, Function.update_of_ne heq, ← ih hrest]
      simp [heq]

/-- A text that comes later counts for its name, and for no other. -/
theorem entryOf_concat (texts : List (Name × String)) (n : Name) (text : String) :
    entryOf (texts ++ [(n, text)])
      = Function.update (entryOf texts) n (.node n (.ofText text) []) := by
  funext m
  by_cases heq : m = n
  · subst heq
    simp [entryOf, lastText?]
  · rw [Function.update_of_ne heq]
    simp [entryOf, lastText?, Ne.symm heq]

/-- **Entries that are set one after the other** are a map that keeps its order. -/
theorem foldl_write (texts : List (Name × String)) :
    texts.foldl write [] = (texts.map Prod.fst).eraseDups.map (entryOf texts) := by
  induction texts using List.reverseRecOn with
  | nil => rfl
  | append_singleton texts setting ih =>
    obtain ⟨n, text⟩ := setting
    rw [List.foldl_append, ih, List.map_append, List.map_singleton, eraseDups_concat,
      entryOf_concat, List.foldl_cons, List.foldl_nil, write,
      upsert_map (fun _ => rfl) (nodup_eraseDups _)]
    simp only [List.mem_eraseDups]

/-- A name that got a text got a last one. -/
theorem exists_lastText (hn : n ∈ texts.map Prod.fst) : ∃ text, lastText? texts n = some text := by
  obtain ⟨setting, hin, rfl⟩ := List.mem_map.mp hn
  have hne : texts.filter (fun other => decide (other.1 = setting.1)) ≠ [] :=
    List.ne_nil_of_mem (List.mem_filter.mpr ⟨hin, decide_eq_true rfl⟩)
  rw [lastText?, List.getLast?_eq_some_getLast hne]
  exact ⟨_, rfl⟩

/-! ### What a description comes to -/

/-- **What a description comes to.** -/
theorem tree_eq (raw : String) (options : List KeyOption) :
    tree ⟨Name.parse raw, options⟩ =
      match Name.parse raw with
      | .error e => .error e
      | .ok n =>
        match (counted options).findSome? KeyOption.fault? with
        | some e => .error e
        | none => .ok (described n (counted options)) := by
  rw [tree]
  cases Name.parse raw with
  | error e => rfl
  | ok n =>
    have hrun : (counted options).foldl change (.node n {} []) = described n (counted options) := by
      rw [foldl_change, described, ← foldl_write]
      rfl
    show apply (.node n {} []) options = _
    rw [apply_eq, hrun]

/-- What stands after the first end mark does not count. -/
theorem tree_counted (raw : String) (options : List KeyOption) :
    tree ⟨Name.parse raw, counted options⟩ = tree ⟨Name.parse raw, options⟩ := by
  have hidem : counted (counted options) = counted options := List.takeWhile_idem
  rw [tree_eq, tree_eq, hidem]

end Draft

/-! ### Making a key -/

namespace Pool

variable {raw : String} {options : List KeyOption} {d : Draft} {n : Name} {e : KeyError}

theorem create_eq (p : Pool) (raw : String) (options : List KeyOption) :
    p.create raw options = p.build ⟨Name.parse raw, options⟩ := by
  rw [create, (Draft.collects_foldl raw options).eq]

/-- To give the options one by one makes the same key. -/
theorem build_collects (p : Pool) (h : Draft.Collects raw options d) :
    p.build d = p.create raw options := by
  rw [create_eq, h.eq]

/-- So does to leave out what stands after the first end mark. -/
theorem create_counted (p : Pool) (raw : String) (options : List KeyOption) :
    p.create raw (Draft.counted options) = p.create raw options := by
  rw [create_eq, create_eq, build, build, Draft.tree_counted]

/-- **To make a key fails** for its name, or else for the first name of an entry that is none. -/
theorem create_eq_error (p : Pool) :
    p.create raw options = .error e ↔
      Name.parse raw = .error e ∨ ∃ n, Name.parse raw = .ok n ∧
        (Draft.counted options).findSome? KeyOption.fault? = some e := by
  rw [create_eq, build, Draft.tree_eq, bind_eq_error]
  cases Name.parse raw with
  | error e' => simp
  | ok n => cases (Draft.counted options).findSome? KeyOption.fault? <;> simp

/-- **Where it does not fail**, a record is made for the tree that is described. -/
theorem create_eq_ok (p : Pool) (hname : Name.parse raw = .ok n)
    (hfault : (Draft.counted options).findSome? KeyOption.fault? = none) :
    p.create raw options
      = .ok (⟨p.nextId, {}⟩, p.plant (Draft.described n (Draft.counted options))) := by
  rw [create_eq, build, Draft.tree_eq, hname, hfault]
  rfl

end Pool
end ConfigKeys
