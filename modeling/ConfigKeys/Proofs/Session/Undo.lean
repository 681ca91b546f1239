import ConfigKeys.Proofs.Plugin.Back
import ConfigKeys.Proofs.Session.Filters

/-!
# Conversions that are taken back

A filter keeps nothing of what it replaced: to take a write back it converts towards the application
what it finds.  That restores a text if the text comes back from the charset of the store, and two
characters of a text may well be one in the store.

## Main results

* `Session.Reachable.error_reverts` — when a write is taken back, all bytes are what they were if
  every text comes back, and only then; between charsets of one byte for each character, and UTF-8,
  every text does.
* `Session.yen_is_lost` — Shift_JIS writes the sign of the yen as a backslash.
-/

namespace ConfigKeys
namespace Session

/-- **To take a write back reverts it if every text comes back** from the charset of the store, and
only then.  Between charsets of one byte for each character, and UTF-8, nothing is lost. -/
theorem Reachable.error_reverts {s s₁ : Session} (h : s.Reachable) {slot key : String}
    {set : Option String} {f : CharsetFilter} {c : CharsetPair} {k : Key} {ks : KeySet}
    {status : Status} (hplugin : s.plugins.get? slot = some (.charsetFilter f))
    (hopen : f.charsets = some c) (hk : s.keys.get? key = some k)
    (hks : s.callerSet set = some ks)
    (hset : s.exec (.run slot .set set key) = some (.status status, s₁))
    (hstatus : status ≠ .error) :
    ∃ undone s₂, s₁.exec (.run slot .error set key) = some (.status undone, s₂) ∧
      ((undone ≠ .error ∧
          ∀ i, (s₂.pool.record i).value.bytes = (s.pool.record i).value.bytes) ↔
        ∀ i ∈ s.pool.textHolders ks.toList,
          c.application.GivesBack c.storage (s.pool.record i).value.bytes) ∧
      (c.application.isExact = true → c.storage.isExact = true → undone ≠ .error ∧
        ∀ i, (s₂.pool.record i).value.bytes = (s.pool.record i).value.bytes) := by
  have hexec := exec_filter .set hplugin hopen hk hks (.inr (.inl rfl))
  obtain ⟨⟨rfl⟩, rfl⟩ := Prod.mk.inj (Option.some.inj (hset.symm.trans hexec))
  have hback := CharsetFilter.convert_back k k (h.sound.exists_of_texts hks) hstatus
  refine ⟨_, _, exec_filter .error hplugin hopen hk hks (.inr (.inr rfl)), hback, ?_⟩
  exact fun happlication hstorage =>
    hback.mpr fun i _ => Charset.givesBack_of_isExact happlication hstorage _

/-- A text with a character beyond ASCII is written in one byte, and is what it was when the write
is taken back. -/
theorem Reachable.error_reverts_accent :
    ∃ s s₁ s₂ undone, Session.exec s (.run "filter" .set (some "set") "parent")
        = some (.status .success, s₁) ∧
      (s₁.pool.value ⟨1, {}⟩).bytes = [0xE9] ∧
      s₁.exec (.run "filter" .error (some "set") "parent") = some (.status undone, s₂) ∧
      undone ≠ .error ∧ (s₂.pool.value ⟨1, {}⟩).bytes = [0xC3, 0xA9] := by
  have hrun : ((Session.execAll {} [.build "parent" "user" [], .build "key" "user/a" [.text "é"],
      .collect "set" ["key"], .configure "config" .nothing, .setConfig "config" "/to" "latin1",
      .plug "filter" .charsetFilter (some "config"),
      .run "filter" .opening none "parent"]).bind fun s =>
        (s.exec (.run "filter" .set (some "set") "parent")).map fun o => decide (
          s.openCharsets? "filter" = some ⟨.utf8, .singleByte .windows1252⟩ ∧
          s.keys.get? "parent" = some ⟨0, {}⟩ ∧ (s.sets.get? "set").isSome ∧
          s.status? (.run "filter" .set (some "set") "parent") = some .success ∧
          (s.pool.value ⟨1, {}⟩).bytes = [0xC3, 0xA9] ∧
          (o.2.pool.value ⟨1, {}⟩).bytes = [0xE9])) = some true := by
    decide +kernel
  obtain ⟨s, hs, hrun⟩ := Option.bind_eq_some_iff.mp hrun
  obtain ⟨⟨reply, s₁⟩, hset, hfacts⟩ := Option.map_eq_some_iff.mp hrun
  obtain ⟨hcharsets, hk, hsome, hstatus, hbytes, hwritten⟩ := of_decide_eq_true hfacts
  obtain ⟨f, hplugin, hopen⟩ := exists_of_openCharsets? hcharsets
  obtain ⟨ks, hks⟩ := Option.isSome_iff_exists.mp hsome
  have hcaller : s.callerSet (some "set") = some ks := hks
  obtain rfl := reply_eq hstatus hset
  obtain ⟨undone, s₂, herror, -, hexact⟩ := (Reachable.start.execAll hs).error_reverts hplugin hopen
    hk hcaller hset (by decide)
  obtain ⟨hundone, hsame⟩ := hexact rfl rfl
  exact ⟨s, s₁, s₂, undone, hset, hwritten, herror, hundone, (hsame 1).trans hbytes⟩

/-- Shift_JIS writes the sign of the yen as it writes a backslash, and a backslash is what comes
back. -/
theorem yen_is_lost :
    ∃ s s₁ s₂ : Session, s.Reachable ∧ s.openCharsets? "filter" = some ⟨.utf8, .shiftJis⟩ ∧
      s.exec (.run "filter" .set (some "set") "parent") = some (.status .success, s₁) ∧
      s₁.exec (.run "filter" .error (some "set") "parent") = some (.status .noUpdate, s₂) ∧
      (s.pool.value ⟨1, {}⟩).bytes = [0xC2, 0xA5] ∧
      (s₂.pool.value ⟨1, {}⟩).bytes = [0x5C] := by
  have hrun : ((Session.execAll {} [.build "parent" "user" [], .build "key" "user/a" [.text "¥"],
      .collect "set" ["key"], .configure "config" .nothing, .setConfig "config" "/to" "Shift_JIS",
      .plug "filter" .charsetFilter (some "config"),
      .run "filter" .opening none "parent"]).bind fun s =>
        (s.exec (.run "filter" .set (some "set") "parent")).bind fun o =>
        (o.2.exec (.run "filter" .error (some "set") "parent")).map fun o' => decide (
          s.openCharsets? "filter" = some ⟨.utf8, .shiftJis⟩ ∧
          s.status? (.run "filter" .set (some "set") "parent") = some .success ∧
          o.2.status? (.run "filter" .error (some "set") "parent") = some .noUpdate ∧
          (s.pool.value ⟨1, {}⟩).bytes = [0xC2, 0xA5] ∧
          (o'.2.pool.value ⟨1, {}⟩).bytes = [0x5C])) = some true := by
    decide +kernel
  obtain ⟨s, hs, hrun⟩ := Option.bind_eq_some_iff.mp hrun
  obtain ⟨⟨reply, s₁⟩, hset, hrun⟩ := Option.bind_eq_some_iff.mp hrun
  obtain ⟨⟨reply', s₂⟩, herror, hfacts⟩ := Option.map_eq_some_iff.mp hrun
  obtain ⟨hcharsets, hstatus, hundone, hbytes, hlost⟩ := of_decide_eq_true hfacts
  obtain rfl := reply_eq hstatus hset
  obtain rfl := reply_eq hundone herror
  exact ⟨s, s₁, s₂, Reachable.start.execAll hs, hcharsets, hset, herror, hbytes, hlost⟩

end Session
end ConfigKeys
