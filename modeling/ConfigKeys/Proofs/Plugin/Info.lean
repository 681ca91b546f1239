import Mathlib.Data.List.Perm.Basic
import ConfigKeys.Plugin.Info
import ConfigKeys.Proofs.Config.Texts
import ConfigKeys.Proofs.Name.Bounds
import ConfigKeys.Proofs.Name.Kinship
import ConfigKeys.Proofs.Text.Blank

/-!
# Descriptions survive as keys

A description is written as keys at and below a place of its own, which no other plugin shares
since the name of the plugin is one segment of it.  So it is read back from any set that has its
keys and no others at or below its place, whatever else is in the set.

## Main definitions

* `PluginInfo.root` — the place of a plugin.
* `PluginInfo.layout` — the keys of a description.
* `PluginInfo.reread` — a description as it is read back.
* `PluginInfo.Describes` — among names and texts are those of descriptions, and no others at or
  below their places.
* `PluginInfo.renderAll` — descriptions as sets of new keys, one after the other.
* `PluginInfo.Unites` — keys are those of some sets, and others outside of the places of plugins.

## Main results

* `PluginInfo.texts_toKeySet` — a description is rendered as its layout.
* `PluginInfo.Describes.ofKeySet?_eq` — **what is described is read back.**
* `PluginInfo.Unites.describes_appendAll` — a union of rendered descriptions and further keys
  describes the plugins.
* `PluginInfo.survives_rendering` — **descriptions survive as keys**, also side by side.
-/

namespace ConfigKeys
namespace PluginInfo

variable {p q : Pool} {S R : List (List Key)} {P H L : List RecordId} {s : KeySet}
variable {i j : PluginInfo} {infos : List PluginInfo} {n : Name} {text plugin : String}
  {path : List String} {ts : List (Name × String)}

/-! ### The keys of a description -/

/-- The place of a plugin. -/
def root (plugin : String) : Name := ⟨.system, ["elektra", "modules", plugin]⟩

/-- The stages that a description exports, in order and each once. -/
def exported (i : PluginInfo) : List Stage := Stage.all.filter (· ∈ i.exports)

/-- What stands below the place of a plugin: its name at the place itself, a key for each stage, and
one for each text. -/
def entries (i : PluginInfo) : List (List String × String) :=
  ([], i.name) :: i.exported.map (fun stage => (["exports", stage.text], "true"))
    ++ i.infos.map fun info => (["infos", info.1], info.2)

/-- The keys of a description. -/
def layout (i : PluginInfo) : List (Name × String) :=
  i.entries.map fun entry => ((root i.name).below entry.1, entry.2)

theorem mem_exported {stage : Stage} : stage ∈ i.exported ↔ stage ∈ i.exports := by
  have hall : stage ∈ Stage.all := by cases stage <;> decide
  simp [exported, hall]

theorem place_eq_ok_iff :
    place plugin path = .ok n ↔ n = (root plugin).below path ∧ n.Fits {} := by
  rw [place, Name.ofSegments_eq_ok_iff]
  refine and_congr_left fun _ => ⟨fun h => ?_, fun h => by rw [h]; rfl⟩
  exact Name.segments_injective h

/-- Each name below the place of a plugin stands for one thing. -/
theorem nodup_entries (i : PluginInfo) : (i.entries.map Prod.fst).Nodup := by
  -- there is no more than all stages, and these and the texts have names of their own
  have hall : ([] :: Stage.all.map (fun stage => ["exports", stage.text])
      ++ ["author", "licence", "description", "version", "provides", "needs"].map
        fun field => ["infos", field]).Nodup := by
    decide
  refine hall.sublist ?_
  simp only [entries, List.map_cons, List.map_append, List.map_map, List.cons_append]
  refine List.Sublist.cons_cons _ (List.Sublist.append ?_ (.refl _))
  exact List.Sublist.map _ List.filter_sublist

theorem nodup_layout (i : PluginInfo) : (i.layout.map Prod.fst).Nodup := by
  have hpaths := i.nodup_entries.map fun path path' => (Name.below_inj (a := root i.name)).mp
  rw [List.map_map] at hpaths
  rw [layout, List.map_map]
  exact hpaths

/-- **What is rendered** is the layout, though a stage that is listed twice is so twice at first. -/
theorem texts_eq_ok (h : i.texts = .ok ts) :
    (∀ t, t ∈ ts ↔ t ∈ i.layout) ∧ ∀ t ∈ i.layout, t.1.Fits {} := by
  have hstep : ∀ {α : Type} (path : α → List String) (text : α → String) (a : α)
      (b : Name × String),
      (do .ok (← place i.name (path a), text a) : Except KeyError (Name × String)) = .ok b →
        b = ((root i.name).below (path a), text a) ∧ b.1.Fits {} := by
    intro α path text a b hb
    obtain ⟨n, hn, ⟨⟩⟩ := bind_eq_ok.mp hb
    obtain ⟨rfl, hfits⟩ := place_eq_ok_iff.mp hn
    exact ⟨rfl, hfits⟩
  obtain ⟨r, hr, h⟩ := bind_eq_ok.mp h
  obtain ⟨stages, hstages, h⟩ := bind_eq_ok.mp h
  obtain ⟨fields, hfields, ⟨⟩⟩ := bind_eq_ok.mp h
  obtain ⟨rfl, hroot⟩ := place_eq_ok_iff.mp hr
  obtain ⟨rfl, hstagesFit⟩ := mapM_eq_ok (hstep (fun stage : Stage => ["exports", stage.text])
    fun _ => trueToken) hstages
  obtain ⟨rfl, hfieldsFit⟩ := mapM_eq_ok (hstep (fun info : String × String => ["infos", info.1])
    Prod.snd) hfields
  have hmem : ∀ t, t ∈ ((root i.name).below [], i.name)
      :: i.exports.map (fun stage => ((root i.name).below ["exports", stage.text], trueToken))
        ++ i.infos.map (fun info => ((root i.name).below ["infos", info.1], info.2)) ↔
      t ∈ i.layout := by
    intro t
    simp only [layout, entries, List.map_cons, List.map_append, List.map_map, List.cons_append,
      List.mem_cons, List.mem_append, List.mem_map, mem_exported, Function.comp_apply]
    rfl
  refine ⟨hmem, fun t ht => ?_⟩
  rcases List.mem_append.mp ((hmem t).mpr ht) with ht | ht
  · rcases List.mem_cons.mp ht with rfl | ht
    · exact hroot
    · exact hstagesFit t ht
  · exact hfieldsFit t ht

/-- A description is rendered just if all names of its layout fit. -/
theorem exists_of_toKeySet (h : toKeySet p i = .ok (q, s)) :
    ∃ ts, i.texts = .ok ts ∧ q = (KeySet.ofTexts p ts).1 ∧ s = (KeySet.ofTexts p ts).2 := by
  rw [toKeySet] at h
  rcases hts : i.texts with e | ts
  · rw [hts] at h
    cases h
  · rw [hts] at h
    obtain ⟨rfl, rfl⟩ := Prod.mk.inj (Except.ok.inj h)
    exact ⟨ts, rfl, rfl, rfl⟩

/-- **A description is rendered as its layout.** -/
theorem texts_toKeySet (h : p.Balanced S R P H L) (hrender : toKeySet p i = .ok (q, s)) :
    (s.texts q).Perm i.layout ∧ ∀ t ∈ i.layout, t.1.Fits {} := by
  obtain ⟨ts, hts, rfl, rfl⟩ := exists_of_toKeySet hrender
  obtain ⟨hmem, hfits⟩ := texts_eq_ok hts
  have hasc := (h.ofTexts ts).ascending_set
  refine ⟨?_, hfits⟩
  refine (List.perm_ext_iff_of_nodup (KeySet.nodup_texts hasc).of_map
    i.nodup_layout.of_map).mpr fun ⟨n, text⟩ => ?_
  have hone : ∀ t t', (n, t) ∈ ts.reverse → (n, t') ∈ ts.reverse → t = t' := by
    intro t t' ht ht'
    rw [List.mem_reverse, hmem] at ht ht'
    exact KeySet.eq_of_nodup i.nodup_layout n t t' ht ht'
  rw [← hmem, ← KeySet.textAt?_eq_some_iff hasc, KeySet.textAt?_ofTexts h,
    KeySet.lookup_eq_some_iff_mem hone, List.mem_reverse]

/-! ### Reading -/

/-- Among some names and texts are all those of descriptions, and no others at or below their
places. -/
structure Describes (infos : List PluginInfo) (texts : List (Name × String)) : Prop where
  /-- All of them are there. -/
  all : ∀ i ∈ infos, ∀ t ∈ i.layout, t ∈ texts
  /-- What is at or below the place of one of them is one of them. -/
  only : ∀ t ∈ texts, ∀ i ∈ infos, t.1.isBelowOrSame (root i.name) = true →
    ∃ j ∈ infos, t ∈ j.layout

/-- A description as it is read back: with its stages in order and each once, and with the words of
what it provides and needs. -/
def reread (i : PluginInfo) : PluginInfo :=
  { i with
    provides := Blank.words (" ".intercalate i.provides)
    needs := Blank.words (" ".intercalate i.needs)
    exports := i.exported }

theorem mem_entries_stage {stage : Stage} (h : (["exports", stage.text], text) ∈ i.entries) :
    stage ∈ i.exports := by
  have hinj : ∀ stage' : Stage, stage'.text = stage.text → stage' = stage := fun stage' heq =>
    Option.some.inj ((Stage.ofText?_text stage').symm.trans (heq ▸ Stage.ofText?_text stage))
  simp only [entries, infos, List.cons_append, List.mem_cons, List.mem_append, List.mem_map,
    Prod.mk.injEq, List.cons.injEq, reduceCtorEq, false_and, false_or] at h
  rcases h with ⟨stage', hmem, ⟨-, heq, -⟩, -⟩ | ⟨_, -, ⟨heq, -⟩, -⟩
  · exact hinj stage' heq ▸ mem_exported.mp hmem
  · exact absurd heq (by decide)

theorem map_text_find? (p : Pool) (s : KeySet) (plugin : String) (path : List String) :
    (find? p s plugin path).map p.text = (place plugin path).toOption.bind (s.textAt? p) := by
  rw [find?]
  rcases place plugin path with e | n
  · rfl
  · rfl

/-- What a description wrote is at or below the place of its plugin, and of no other. -/
theorem isBelowOrSame_of_layout {t : Name × String} (h : t ∈ i.layout) :
    t.1.isBelowOrSame (root plugin) = true ↔ i.name = plugin := by
  obtain ⟨⟨path, text⟩, -, rfl⟩ := List.mem_map.mp h
  constructor
  · intro hbelow
    obtain ⟨path', hpath⟩ := Name.isBelowOrSame_iff.mp hbelow
    have hname := congrArg (·[3]?) hpath
    simpa [root, Name.below, Name.segments, eq_comm] using hname
  · rintro rfl
    exact Name.isBelowOrSame_below _ _

namespace Describes

variable {texts : List (Name × String)}

/-- What is at or below the place of a plugin is of its description. -/
theorem mem_layout (h : Describes infos texts) (hnames : (infos.map name).Nodup) (hi : i ∈ infos)
    {t : Name × String} (ht : t ∈ texts) (hbelow : t.1.isBelowOrSame (root i.name) = true) :
    t ∈ i.layout := by
  obtain ⟨j, hj, hlayout⟩ := h.only t ht i hi hbelow
  obtain rfl : j = i := List.inj_on_of_nodup_map hnames hj hi
    ((isBelowOrSame_of_layout hlayout).mp hbelow)
  exact hlayout

/-- What a description wrote is found. -/
theorem map_text_find? (h : Describes infos (s.texts p)) (hasc : p.Ascending s.toList)
    (hi : i ∈ infos) (hfits : ∀ t ∈ i.layout, t.1.Fits {}) (hentry : (path, text) ∈ i.entries) :
    (find? p s i.name path).map p.text = some text := by
  have hin : ((root i.name).below path, text) ∈ i.layout := List.mem_map.mpr ⟨_, hentry, rfl⟩
  rw [PluginInfo.map_text_find?, place_eq_ok_iff.mpr ⟨rfl, hfits _ hin⟩]
  exact (KeySet.textAt?_eq_some_iff hasc).mpr (h.all i hi _ hin)

/-- A stage that is found was written. -/
theorem isSome_find?_stage (h : Describes infos (s.texts p)) (hasc : p.Ascending s.toList)
    (hnames : (infos.map name).Nodup) (hi : i ∈ infos) (hfits : ∀ t ∈ i.layout, t.1.Fits {})
    (stage : Stage) :
    (find? p s i.name ["exports", stage.text]).isSome = true ↔ stage ∈ i.exports := by
  constructor
  · intro hsome
    obtain ⟨text, hfound⟩ := Option.isSome_iff_exists.mp
      ((Option.isSome_map (f := p.text)).trans hsome)
    rw [PluginInfo.map_text_find?, Option.bind_eq_some_iff] at hfound
    obtain ⟨n, hn, htext⟩ := hfound
    rcases hplace : place i.name ["exports", stage.text] with e | m
    · rw [hplace] at hn
      cases hn
    rw [hplace] at hn
    cases hn
    obtain ⟨rfl, -⟩ := place_eq_ok_iff.mp hplace
    have hin := h.mem_layout hnames hi ((KeySet.textAt?_eq_some_iff hasc).mp htext)
      (Name.isBelowOrSame_below _ _)
    obtain ⟨⟨path, text'⟩, hentry, heq⟩ := List.mem_map.mp hin
    obtain ⟨hpath, rfl⟩ := Prod.mk.inj heq
    obtain rfl := Name.below_inj.mp hpath
    exact mem_entries_stage hentry
  · intro hmem
    have hentry : (["exports", stage.text], "true") ∈ i.entries :=
      List.mem_append_left _ (List.mem_cons_of_mem _ (List.mem_map_of_mem (mem_exported.mpr hmem)))
    have hfound := h.map_text_find? hasc hi hfits hentry
    rcases hkey : find? p s i.name ["exports", stage.text] with _ | k
    · rw [hkey] at hfound
      cases hfound
    · rfl

/-- **What was rendered is read back.** -/
theorem ofKeySet?_eq (h : Describes infos (s.texts p)) (hasc : p.Ascending s.toList)
    (hnames : (infos.map name).Nodup) (hi : i ∈ infos) (hfits : ∀ t ∈ i.layout, t.1.Fits {}) :
    ofKeySet? p s i.name = some i.reread := by
  have hinfos : ∀ t ∈ i.infos, info p s i.name t.1 = t.2 := by
    intro t ht
    have hentry : (["infos", t.1], t.2) ∈ i.entries :=
      List.mem_append_right _ (List.mem_map.mpr ⟨t, ht, rfl⟩)
    rw [info, h.map_text_find? hasc hi hfits hentry, Option.getD_some]
  simp only [PluginInfo.infos, List.forall_mem_cons] at hinfos
  obtain ⟨hauthor, hlicence, hdescription, hversion, hprovides, hneeds, -⟩ := hinfos
  have hexports : (Stage.all.filter fun stage =>
      (find? p s i.name ["exports", stage.text]).isSome) = i.exported := by
    refine List.filter_congr fun stage _ => ?_
    rw [Bool.eq_iff_iff, h.isSome_find?_stage hasc hnames hi hfits, decide_eq_true_iff]
  have hroot : ([], i.name) ∈ i.entries := List.mem_append_left _ (.head _)
  obtain ⟨k, hk, -⟩ := Option.map_eq_some_iff.mp (h.map_text_find? hasc hi hfits hroot)
  rw [ofKeySet?, hk, Option.map_some, hexports, hauthor, hlicence, hdescription, hversion,
    hprovides, hneeds]
  rfl

end Describes

/-- Where the place of a plugin is not in a set, there is no description of it. -/
theorem ofKeySet?_eq_none (hasc : p.Ascending s.toList)
    (h : ∀ k ∈ s.toList, p.name k ≠ root plugin) : ofKeySet? p s plugin = none := by
  rw [ofKeySet?, Option.map_eq_none_iff, find?, Option.bind_eq_none_iff]
  intro n hn
  rcases hplace : place plugin [] with e | m
  · rw [hplace] at hn
    cases hn
  · rw [hplace] at hn
    cases hn
    obtain ⟨rfl, -⟩ := place_eq_ok_iff.mp hplace
    refine Option.eq_none_iff_forall_ne_some.mpr fun k hk => ?_
    obtain ⟨hmem, hname⟩ := (KeySet.find?_eq_some_iff hasc).mp hk
    exact h k hmem (hname.trans (Name.below_nil _))

/-- A description whose stages are in order, and whose words are words, is read back as it is. -/
theorem reread_eq (hstages : i.exports = i.exported)
    (hwords : ∀ w ∈ i.provides ++ i.needs, w ≠ "" ∧ ∀ c ∈ w.toList, Blank.isBlank c = false) :
    i.reread = i := by
  rw [List.forall_mem_append] at hwords
  rw [reread, Blank.words_intercalate hwords.1, Blank.words_intercalate hwords.2, ← hstages]

/-! ### Many descriptions side by side -/

/-- Descriptions as sets of new keys, one after the other. -/
def renderAll (p : Pool) : List PluginInfo → Except KeyError (Pool × List KeySet)
  | [] => .ok (p, [])
  | i :: infos => do
    let first ← i.toKeySet p
    let rest ← renderAll first.1 infos
    .ok (rest.1, first.2 :: rest.2)

/-- The set `u` is what a description is rendered as. -/
structure Renders (p : Pool) (i : PluginInfo) (u : KeySet) : Prop where
  /-- Its keys are those of the layout. -/
  layout : (u.texts p).Perm i.layout
  /-- No two of them have one name. -/
  nodup : (i.layout.map Prod.fst).Nodup
  /-- There is one for the place, one for each stage and one for each of the six texts. -/
  size : u.size = 1 + i.exported.length + 6
  /-- All their names fit. -/
  fits : ∀ t ∈ i.layout, t.1.Fits {}

theorem length_layout (i : PluginInfo) : i.layout.length = 1 + i.exported.length + 6 := by
  simp [PluginInfo.layout, entries, PluginInfo.infos]
  omega

theorem renders_toKeySet (h : p.Balanced S R P H L) (hrender : i.toKeySet p = .ok (q, s)) :
    Renders q i s := by
  obtain ⟨hlayout, hfits⟩ := texts_toKeySet h hrender
  refine ⟨hlayout, i.nodup_layout, ?_, hfits⟩
  rw [← length_layout, ← hlayout.length_eq, KeySet.texts, List.length_map]
  rfl

/-- **Descriptions that are rendered one after the other** stand side by side. -/
theorem renderAll_spec {sets : List KeySet} (h : p.Balanced S R P H L)
    (hrender : renderAll p infos = .ok (q, sets)) :
    q.Balanced (sets.map KeySet.toList ++ S) R P H L ∧ p.Evolves ∅ ∅ q ∧
      List.Forall₂ (Renders q) infos sets := by
  induction infos generalizing p sets S with
  | nil =>
    cases hrender
    exact ⟨h, .refl ∅ ∅ _, .nil⟩
  | cons i infos ih =>
    obtain ⟨⟨p₁, s⟩, hfirst, hrender⟩ := bind_eq_ok.mp hrender
    obtain ⟨⟨p₂, sets'⟩, hrest, ⟨⟩⟩ := bind_eq_ok.mp hrender
    have hrenders := renders_toKeySet h hfirst
    obtain ⟨ts, -, rfl, rfl⟩ := exists_of_toKeySet hfirst
    have hstep := ((Pool.Evolves.refl ∅ ∅ p).ofTexts ts).1
    obtain ⟨hq, hev, hall⟩ := ih (h.ofTexts ts) hrest
    refine ⟨hq.perm_sets List.perm_middle.symm, hstep.trans hev, .cons ?_ hall⟩
    have hkept := KeySet.texts_kept (h.ofTexts ts) List.mem_cons_self hev hq
      (List.mem_append_right _ List.mem_cons_self)
    exact ⟨hkept ▸ hrenders.layout, hrenders.nodup, hrenders.size, hrenders.fits⟩

/-- Keys are those of some sets and further ones, none of which is at or below the place of a
plugin. -/
structure Unites (infos : List PluginInfo) (p : Pool) (sets : List KeySet) (keys : List Key) :
    Prop where
  /-- All keys of the sets are among them. -/
  union : ∀ u ∈ sets, ∀ k ∈ u.toList, ∃ k' ∈ keys, k'.id = k.id
  /-- The others are somewhere else. -/
  further : ∀ k ∈ keys, (∃ u ∈ sets, ∃ k' ∈ u.toList, k.id = k'.id) ∨
    ∀ i ∈ infos, (p.name k).isBelowOrSame (root i.name) = false

/-- Keys of sets that are left alone say what they said. -/
structure Spares (sets : List KeySet) (p q : Pool) : Prop where
  /-- They have their names. -/
  name : ∀ u ∈ sets, ∀ k ∈ u.toList, q.name k = p.name k
  /-- They have their texts. -/
  text : ∀ u ∈ sets, ∀ k ∈ u.toList, q.text k = p.text k

/-- What is related to a list element by element has a partner for each element. -/
theorem exists_of_mem_left {α β : Type} {r : α → β → Prop} {l : List α} {l' : List β}
    (h : List.Forall₂ r l l') {a : α} (ha : a ∈ l) : ∃ b ∈ l', r a b := by
  induction h with
  | nil => exact absurd ha List.not_mem_nil
  | cons hr _ ih =>
    rcases List.mem_cons.mp ha with rfl | ha
    · exact ⟨_, List.mem_cons_self, hr⟩
    · obtain ⟨b, hb, hr⟩ := ih ha
      exact ⟨b, List.mem_cons_of_mem _ hb, hr⟩

/-- **United keys describe the plugins.** -/
theorem Unites.describes {sets : List KeySet} {keys : List Key} (h : Unites infos q sets keys)
    (hrenders : List.Forall₂ (Renders p) infos sets) (hspares : Spares sets p q) :
    Describes infos (keys.map fun k => (q.name k, q.text k)) := by
  -- a key of a rendered set says what it said, by whatever handle it is told
  have hsaid : ∀ u ∈ sets, ∀ k ∈ u.toList, ∀ k' : Key, k'.id = k.id →
      (q.name k', q.text k') = (p.name k, p.text k) := by
    intro u hu k hk k' hid
    rw [← hspares.name u hu k hk, ← hspares.text u hu k hk]
    simp only [Pool.name, Pool.text, Pool.value, hid]
  constructor
  · intro i hi t ht
    obtain ⟨u, hu, hrender⟩ := exists_of_mem_left hrenders hi
    obtain ⟨k, hk, rfl⟩ := List.mem_map.mp (hrender.layout.mem_iff.mpr ht)
    obtain ⟨k', hk', hid⟩ := h.union u hu k hk
    exact List.mem_map.mpr ⟨k', hk', hsaid u hu k hk k' hid⟩
  · intro t ht i hi hbelow
    obtain ⟨k, hk, rfl⟩ := List.mem_map.mp ht
    rcases h.further k hk with ⟨u, hu, k', hk', hid⟩ | houtside
    · obtain ⟨j, hj, hrender⟩ := exists_of_mem_left hrenders.flip hu
      refine ⟨j, hj, hrender.layout.mem_iff.mp ?_⟩
      exact List.mem_map.mpr ⟨k', hk', (hsaid u hu k' hk' k hid).symm⟩
    · rw [houtside i hi] at hbelow
      cases hbelow

/-- **Descriptions stay in a set that is put together from their keys and others**, in whatever
order the keys come. -/
theorem Describes.of_textAt? {given : List (Name × String)} (h : Describes infos given)
    (hnames : (infos.map PluginInfo.name).Nodup) (hasc : p.Ascending s.toList)
    (hfound : ∀ n, s.textAt? p n = given.reverse.lookup n) : Describes infos (s.texts p) := by
  -- a name at or below the place of a plugin is given one text only
  have hone : ∀ i ∈ infos, ∀ n : Name, n.isBelowOrSame (root i.name) = true →
      ∀ t t', (n, t) ∈ given.reverse → (n, t') ∈ given.reverse → t = t' := by
    intro i hi n hbelow t t' ht ht'
    rw [List.mem_reverse] at ht ht'
    exact KeySet.eq_of_nodup i.nodup_layout n t t' (h.mem_layout hnames hi ht hbelow)
      (h.mem_layout hnames hi ht' hbelow)
  constructor
  · intro i hi t ht
    refine (KeySet.textAt?_eq_some_iff hasc).mp ?_
    rw [hfound, KeySet.lookup_eq_some_iff_mem
      (hone i hi t.1 ((isBelowOrSame_of_layout ht).mpr rfl)), List.mem_reverse]
    exact h.all i hi t ht
  · intro t ht i hi hbelow
    have hlookup := (KeySet.textAt?_eq_some_iff hasc).mpr ht
    rw [hfound] at hlookup
    exact h.only t (List.mem_reverse.mp (KeySet.mem_of_lookup hlookup)) i hi hbelow

/-- **United keys describe the plugins in a set**, whichever of them were there and whichever are
appended. -/
theorem Unites.describes_appendAll {sets : List KeySet} {keys : List Key}
    (h : Unites infos q sets (s.toList ++ keys)) (hq : q.Balanced (s.toList :: S) R P H L)
    (hheld : ∀ k ∈ keys, k.id ∈ Pool.placeIds S R P ++ H)
    (hnames : (infos.map PluginInfo.name).Nodup)
    (hrenders : List.Forall₂ (Renders p) infos sets) (hspares : Spares sets p q) :
    Describes infos ((s.appendAll q keys).2.texts (s.appendAll q keys).1) := by
  refine (h.describes hrenders hspares).of_textAt? hnames
    (hq.appendAll hheld).ascending_set fun n => ?_
  have hbase : s.textAt? q n = (s.texts q).reverse.lookup n := by
    refine Option.ext fun text => ?_
    rw [KeySet.textAt?_eq_some_iff hq.ascending_set, KeySet.lookup_eq_some_iff_mem,
      List.mem_reverse]
    intro t t' ht ht'
    rw [List.mem_reverse] at ht ht'
    exact KeySet.eq_of_nodup (KeySet.nodup_texts hq.ascending_set) n t t' ht ht'
  rw [KeySet.textAt?_appendAll hq hheld, hbase, List.map_append, List.reverse_append,
    List.lookup_append]
  rfl

/-- What a set says about plugins. -/
structure ReadsBack (infos : List PluginInfo) (p : Pool) (s : KeySet) : Prop where
  /-- The descriptions that were rendered are read back. -/
  found : ∀ i ∈ infos, ofKeySet? p s i.name = some i.reread
  /-- There is none of a plugin whose place is not in the set. -/
  absent : ∀ plugin, (∀ k ∈ s.toList, p.name k ≠ root plugin) → ofKeySet? p s plugin = none

/-- **Descriptions survive as keys**, also side by side.  Descriptions of different plugins are
rendered as their layouts, and read back from every set that has their keys, in whatever order these
come in, and others outside of the places of these plugins.  What is read back is what was rendered
but for the order of the stages and for blanks within words. -/
theorem survives_rendering {sets : List KeySet} (h : p.Balanced S R P H L)
    (hnames : (infos.map name).Nodup) (hrender : renderAll p infos = .ok (q, sets)) :
    List.Forall₂ (Renders q) infos sets ∧
    (∀ (q' : Pool) (s : KeySet) (keys : List Key) (S' R' : List (List Key))
      (P' H' L' : List RecordId),
      Spares sets q q' → q'.Balanced (s.toList :: S') R' P' H' L' →
        (∀ k ∈ keys, k.id ∈ Pool.placeIds S' R' P' ++ H') →
          Unites infos q' sets (s.toList ++ keys) →
            ReadsBack infos (s.appendAll q' keys).1 (s.appendAll q' keys).2) ∧
    ∀ i ∈ infos, i.exports = i.exported →
      (∀ w ∈ i.provides ++ i.needs, w ≠ "" ∧ ∀ c ∈ w.toList, Blank.isBlank c = false) →
        i.reread = i := by
  obtain ⟨-, -, hrenders⟩ := renderAll_spec h hrender
  refine ⟨hrenders, ?_, fun i _ => reread_eq⟩
  intro q' s keys S' R' P' H' L' hspares hq' hheld hunites
  have hasc := (hq'.appendAll hheld).ascending_set
  have hdescribes := hunites.describes_appendAll hq' hheld hnames hrenders hspares
  refine ⟨fun i hi => ?_, fun plugin hroot => ofKeySet?_eq_none hasc hroot⟩
  obtain ⟨u, -, hrender⟩ := exists_of_mem_left hrenders hi
  exact hdescribes.ofKeySet?_eq hasc hnames hi hrender.fits

/-- Two plugins with names that have to be escaped are read back from one set: a list is cut at its
blanks, and stages are told once and in their order. -/
theorem survives_rendering_of_odd_names :
    let up : PluginInfo := { name := "..", provides := ["a b"], exports := [.set, .get, .set] }
    let slash : PluginInfo := { name := "/", author := "me" }
    ∃ q first second, renderAll {} [up, slash] = .ok (q, [first, second]) ∧
      let both := first.appendAll q second.toList
      ofKeySet? both.1 both.2 ".."
          = some { up with provides := ["a", "b"], exports := [.get, .set] } ∧
        ofKeySet? both.1 both.2 "/" = some slash := by
  intro up slash
  have hrenders : (renderAll {} [up, slash]).toOption.isSome = true := by decide +kernel
  rcases hrender : renderAll {} [up, slash] with e | ⟨q, sets⟩
  · rw [hrender] at hrenders
    cases hrenders
  obtain ⟨hq, -, -⟩ := renderAll_spec .empty hrender
  obtain ⟨hforall, hread, -⟩ := survives_rendering .empty (by decide) hrender
  obtain ⟨first, second, rfl⟩ := List.length_eq_two.mp hforall.length_eq.symm
  refine ⟨q, first, second, rfl, ?_⟩
  have hunites : Unites [up, slash] q [first, second] (first.toList ++ second.toList) := by
    constructor
    · simp only [List.forall_mem_cons, List.not_mem_nil, IsEmpty.forall_iff, implies_true, and_true]
      exact ⟨fun k hk => ⟨k, List.mem_append_left _ hk, rfl⟩,
        fun k hk => ⟨k, List.mem_append_right _ hk, rfl⟩⟩
    · intro k hk
      rcases List.mem_append.mp hk with hk | hk
      · exact .inl ⟨first, .head _, k, hk, rfl⟩
      · exact .inl ⟨second, .tail _ (.head _), k, hk, rfl⟩
  have hboth := hread q first second.toList _ _ _ _ _ ⟨fun _ _ _ _ => rfl, fun _ _ _ _ => rfl⟩ hq
    (fun k hk => List.mem_append_left _ (Pool.mem_placeIds_of_set (.head _) hk)) hunites
  have hup : up.reread = { up with provides := ["a", "b"], exports := [.get, .set] } := by
    decide +kernel
  have hslash : slash.reread = slash := by decide +kernel
  exact ⟨hup ▸ hboth.found up (.head _), hslash ▸ hboth.found slash (.tail _ (.head _))⟩

end PluginInfo
end ConfigKeys
