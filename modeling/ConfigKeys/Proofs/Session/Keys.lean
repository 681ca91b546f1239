import ConfigKeys.Proofs.Session.Balance

/-!
# Steps on keys and registries keep sessions sound

## Main results

* `Session.Sound.build`, `Session.Sound.rename`, `Session.Sound.removeMeta`, … — steps on keys and
  their metadata.
* `Session.Sound.insertEntry`, `Session.Sound.removeEntry`, … — steps on registries.
-/

namespace ConfigKeys
namespace Session.Sound

variable {s : Session} {S R : List (List Key)} {L : List RecordId}
variable {slot source into raw text : String} {maybe : Option String} {out : Reply × Session}

/-- A handle in a slot is one of the handles. -/
theorem mem_handleIds {k : Key} (hget : s.keys.get? slot = some k) : k.id ∈ s.handleIds :=
  List.mem_append_left _ (List.mem_map_of_mem (Slots.mem_contents hget))

/-- An operation on records that fails changes nothing, so it is sound if its success is. -/
theorem settle {result : Except KeyError Pool} (h : s.Sound S R L)
    (hok : ∀ p, result = .ok p →
      p.Balanced (S ++ s.keySets) (R ++ s.registries.contents) [] s.handleIds L) :
    (s.settle result).2.Sound S R L := by
  rcases result with e | p
  · exact h
  · exact ⟨hok p rfl, h.stored⟩

/-- A record in the metadata of a record is there. -/
theorem exists_of_entry (h : s.Sound S R L) {k e : Key} (he : e ∈ s.pool.entries k) :
    ∃ r, s.pool.find? e.id = some r := by
  rcases hr : s.pool.find? k.id with _ | r
  · rw [Pool.entries, Pool.record_of_find?_none hr] at he
    cases he
  · rw [Pool.entries, Pool.record_of_find? hr] at he
    exact h.balanced.exists_of_mem_entries (Pool.mem_live.mpr ⟨k.id, hr⟩) he

/-- A record in a registry is there. -/
theorem exists_of_registered {r : Registry} {k : Key} (h : s.Sound S R L)
    (hget : s.registries.get? slot = some r) (hk : k ∈ r) :
    ∃ rec, s.pool.find? k.id = some rec :=
  (h.takeRegistry hget).balanced.exists_of_mem_registry List.mem_cons_self hk

/-! ### Handles -/

theorem build {options : List KeyOption} (h : s.Sound S R L)
    (hstep : s.build slot raw options = some out) : out.2.Sound S R L := by
  rw [Session.build] at hstep
  rcases hcreate : s.pool.create raw options with e | ⟨k, p⟩
  · rw [hcreate] at hstep
    cases hstep
    exact h
  · rw [hcreate] at hstep
    cases hstep
    obtain ⟨hbal, r, hr⟩ := h.balanced.create hcreate
    exact storeKey (s := { s with pool := p }) ⟨hbal, h.stored⟩ hr slot

theorem shareKey (h : s.Sound S R L) (hstep : s.shareKey slot into = some out) :
    out.2.Sound S R L := by
  obtain ⟨k, hget, ⟨⟩⟩ := Option.bind_eq_some_iff.mp hstep
  refine h.fetch ?_ (some into)
  rintro k' ⟨⟩
  exact h.exists_of_key hget

theorem wrap (h : s.Sound S R L) (hstep : s.wrap slot into = some out) : out.2.Sound S R L := by
  obtain ⟨k, hget, ⟨⟩⟩ := Option.bind_eq_some_iff.mp hstep
  obtain ⟨r, hr⟩ := h.exists_of_key hget
  refine h.fetch ?_ (some into)
  rintro k' ⟨⟩
  exact ⟨r, hr⟩

theorem copyKey (h : s.Sound S R L) (hstep : s.copyKey slot into = some out) :
    out.2.Sound S R L := by
  obtain ⟨k, hget, ⟨⟩⟩ := Option.bind_eq_some_iff.mp hstep
  obtain ⟨hbal, ⟨r, hr, -⟩, -, -⟩ := h.balanced.copy k.id
  exact storeKey (s := { s with pool := s.pool.copy k.id }) (k := ⟨s.pool.nextId, {}⟩)
    ⟨hbal, h.stored⟩ hr into

theorem forgetKey (h : s.Sound S R L) (hstep : s.forgetKey slot = some out) :
    out.2.Sound S R L := by
  obtain ⟨k, hget, ⟨⟩⟩ := Option.bind_eq_some_iff.mp hstep
  refine ⟨Pool.Balanced.release (h.balanced.perm_handles ?_), h.stored⟩
  exact ((Slots.clear_perm hget).map Key.id).symm.append_right _

theorem rename {how : Renaming} (h : s.Sound S R L) (hstep : s.rename slot how = some out) :
    out.2.Sound S R L := by
  obtain ⟨k, -, ⟨⟩⟩ := Option.bind_eq_some_iff.mp hstep
  exact h.settle fun p hp => how.balanced h.balanced hp

theorem setValue {v : Value} (h : s.Sound S R L) (hstep : s.setValue slot v = some out) :
    out.2.Sound S R L := by
  obtain ⟨k, -, ⟨⟩⟩ := Option.bind_eq_some_iff.mp hstep
  exact ⟨h.balanced.setValue, h.stored⟩

/-! ### Metadata -/

theorem setMeta (h : s.Sound S R L) (hstep : s.setMeta slot raw text = some out) :
    out.2.Sound S R L := by
  obtain ⟨k, hget, ⟨⟩⟩ := Option.bind_eq_some_iff.mp hstep
  exact h.settle fun p hp => h.balanced.setMeta (mem_handleIds hget) hp

theorem removeMeta (h : s.Sound S R L) (hstep : s.removeMeta slot raw maybe = some out) :
    out.2.Sound S R L := by
  obtain ⟨k, hget, hstep⟩ := Option.bind_eq_some_iff.mp hstep
  rcases hremove : s.pool.removeMeta k raw with e | ⟨handed, p⟩
  · rw [hremove] at hstep
    cases hstep
    exact h
  · rw [hremove] at hstep
    cases hstep
    obtain ⟨hbal, hthere⟩ := h.balanced.removeMeta hremove
    exact hand (s := { s with pool := p }) ⟨hbal, h.stored⟩ hthere maybe

theorem copyMeta (h : s.Sound S R L) (hstep : s.copyMeta slot source raw = some out) :
    out.2.Sound S R L := by
  obtain ⟨k, hget, hstep⟩ := Option.bind_eq_some_iff.mp hstep
  obtain ⟨k', -, ⟨⟩⟩ := Option.bind_eq_some_iff.mp hstep
  exact h.settle fun p hp => h.balanced.copyMeta (mem_handleIds hget) hp

theorem copyAllMeta (h : s.Sound S R L) (hstep : s.copyAllMeta slot source = some out) :
    out.2.Sound S R L := by
  obtain ⟨k, hget, hstep⟩ := Option.bind_eq_some_iff.mp hstep
  obtain ⟨k', -, ⟨⟩⟩ := Option.bind_eq_some_iff.mp hstep
  exact ⟨h.balanced.copyAllMeta (mem_handleIds hget) k', h.stored⟩

/-- A handle that moves along the metadata stays a handle on its record. -/
theorem moveHandle {k k' : Key} (h : s.Sound S R L) (hget : s.keys.get? slot = some k)
    (hid : k'.id = k.id) : { s with keys := s.keys.put slot k' }.Sound S R L := by
  refine ⟨h.balanced.perm_handles ?_, h.stored⟩
  have hput := (s.keys.put_perm slot k').map Key.id
  have hclear := (Slots.clear_perm hget).map Key.id
  rw [List.map_cons, hid] at hput
  exact (hput.trans hclear.symm).append_right _

theorem rewindMeta (h : s.Sound S R L) (hstep : s.rewindMeta slot = some out) :
    out.2.Sound S R L := by
  obtain ⟨k, hget, ⟨⟩⟩ := Option.bind_eq_some_iff.mp hstep
  exact h.moveHandle hget rfl

/-- A walk along the metadata finds what is there. -/
theorem walkMeta {step : Pool → Key → Option Key × Key}
    (hwalk : ∀ p k, (step p k).2.id = k.id ∧ ∀ e, (step p k).1 = some e → e ∈ p.entries k)
    (h : s.Sound S R L) (hstep : s.walkMeta slot maybe step = some out) : out.2.Sound S R L := by
  obtain ⟨k, hget, ⟨⟩⟩ := Option.bind_eq_some_iff.mp hstep
  obtain ⟨hid, hfound⟩ := hwalk s.pool k
  exact (h.moveHandle hget hid).fetch (fun e he => h.exists_of_entry (hfound e he)) maybe

theorem mem_of_item? {α : Type} {c : Cursor} {items : List α} {a : α}
    (h : c.item? items = some a) : a ∈ items := by
  obtain ⟨i, -, hi⟩ := Option.bind_eq_some_iff.mp h
  exact List.mem_of_getElem? hi

theorem walks_currentMeta (p : Pool) (k : Key) :
    (p.currentMeta k).2.id = k.id ∧ ∀ e, (p.currentMeta k).1 = some e → e ∈ p.entries k :=
  ⟨rfl, fun _ he => mem_of_item? he⟩

theorem walks_nextMeta (p : Pool) (k : Key) :
    (p.nextMeta k).2.id = k.id ∧ ∀ e, (p.nextMeta k).1 = some e → e ∈ p.entries k :=
  ⟨rfl, fun _ he => mem_of_item? (c := k.cursor.advance (p.entries k).length) he⟩

/-! ### Reports -/

theorem setError {r : Report} (h : s.Sound S R L) (hstep : s.setError slot r = some out) :
    out.2.Sound S R L := by
  obtain ⟨k, hget, ⟨⟩⟩ := Option.bind_eq_some_iff.mp hstep
  exact h.settle fun p hp => h.balanced.setError (mem_handleIds hget) hp

theorem clearError (h : s.Sound S R L) (hstep : s.clearError slot = some out) :
    out.2.Sound S R L := by
  obtain ⟨k, -, ⟨⟩⟩ := Option.bind_eq_some_iff.mp hstep
  exact h.settle fun p hp => h.balanced.clearError hp

theorem addWarnings {reports : List Report} (h : s.Sound S R L)
    (hstep : s.addWarnings slot reports = some out) : out.2.Sound S R L := by
  obtain ⟨k, hget, hstep⟩ := Option.bind_eq_some_iff.mp hstep
  rcases hwarn : Session.addWarningsAfter s.pool k [] reports with e | ⟨indices, p⟩
  · rw [hwarn] at hstep
    cases hstep
    exact h
  · rw [hwarn] at hstep
    cases hstep
    exact ⟨h.balanced.addWarningsAfter (mem_handleIds hget) reports hwarn, h.stored⟩

/-! ### Registries -/

theorem newRegistry (h : s.Sound S R L) (hstep : s.newRegistry slot = some out) :
    out.2.Sound S R L := by
  cases hstep
  exact storeRegistry ⟨h.balanced.newRegistry, h.stored⟩ slot

theorem insertEntry (h : s.Sound S R L) (hstep : s.insertEntry slot source = some out) :
    out.2.Sound S R L := by
  obtain ⟨r, hr, hstep⟩ := Option.bind_eq_some_iff.mp hstep
  obtain ⟨k, hget, ⟨⟩⟩ := Option.bind_eq_some_iff.mp hstep
  obtain ⟨rec, hrec⟩ := h.exists_of_key hget
  refine h.changeRegistry hr fun hbal => ?_
  exact (hbal.weaken fun i hi => List.mem_cons_of_mem k.id hi).insertRegistered hrec

theorem removeEntry (h : s.Sound S R L) (hstep : s.removeEntry slot source maybe = some out) :
    out.2.Sound S R L := by
  obtain ⟨r, hr, hstep⟩ := Option.bind_eq_some_iff.mp hstep
  obtain ⟨k, -, ⟨⟩⟩ := Option.bind_eq_some_iff.mp hstep
  have hremove := h.changeRegistry hr fun hbal => hbal.removeRegistered (s.pool.name k)
  refine hremove.hand ?_ maybe
  intro e he
  exact (h.takeRegistry hr).balanced.exists_of_unregistered he

theorem dropRegistry (h : s.Sound S R L) (hstep : s.dropRegistry slot = some out) :
    out.2.Sound S R L := by
  obtain ⟨r, hr, ⟨⟩⟩ := Option.bind_eq_some_iff.mp hstep
  have htake := h.takeRegistry hr
  exact ⟨htake.balanced.dropRegistry, htake.stored⟩

theorem rewindCursor (h : s.Sound S R L) (hstep : s.rewindCursor slot = some out) :
    out.2.Sound S R L := by
  cases hstep
  exact ⟨h.balanced, h.stored⟩

theorem walkRegistry {step : Cursor → Nat → Cursor} (h : s.Sound S R L)
    (hstep : s.walkRegistry slot source maybe step = some out) : out.2.Sound S R L := by
  obtain ⟨r, hr, ⟨⟩⟩ := Option.bind_eq_some_iff.mp hstep
  have hmove :
      { s with cursors := s.cursors.put slot (step (s.cursor slot) r.length) }.Sound S R L :=
    ⟨h.balanced, h.stored⟩
  exact hmove.fetch (fun k hk => h.exists_of_registered hr (mem_of_item? hk)) maybe

end Session.Sound
end ConfigKeys
