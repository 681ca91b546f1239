import ConfigKeys.Proofs.Plugin.Back

/-!
# Conversions are exact

What a byte sequence says in a charset is told here without a reader: in UTF-8 by the library's own
encoding of characters, in a charset of one byte for each character by its table.  A conversion
between such charsets goes through if the sequence says a text that the other charset can say, and
then its result says the same text; so the conversion back finds the sequence again.  A mark of the
byte order is a character like any other.

## Main definitions

* `Charset.byteChar?` — the character of a byte, where every character has one byte.
* `Charset.Spells` — a byte sequence says a text in a charset.
* `Charset.Represents` — a character can be said in a charset.

## Main results

* `Charset.spells_iff_decode?`, `Charset.spells_iff_encode?` — readers and writers agree with that.
* `Charset.conversion_is_exact` — **a conversion keeps the text and can be taken back.**
-/

namespace ConfigKeys

namespace Utf8

/-- Characters are written as the library writes them. -/
theorem encodeChar_eq (c : Char) : encodeChar c = String.utf8EncodeChar c := by
  have hvalid : c.toNat < 0x110000 := by
    have h := c.valid
    rcases h with h | h
    · exact Nat.lt_trans h (by decide)
    · exact h.2
  have hcode : c.val.toNat = c.toNat := rfl
  unfold encodeChar String.utf8EncodeChar
  simp only [hcode]
  generalize c.toNat = v at hvalid
  by_cases h₁ : v < 0x80
  · have h₁' : v ≤ 127 := by omega
    rw [if_pos h₁, if_pos h₁']
  have h₁' : ¬ v ≤ 127 := by omega
  rw [if_neg h₁, if_neg h₁']
  by_cases h₂ : v < 0x800
  · have h₂' : v ≤ 2047 := by omega
    rw [if_pos h₂, if_pos h₂', show 0xC0 + v / 0x40 = v / 64 % 32 + 192 by omega, Nat.add_comm 0x80]
  have h₂' : ¬ v ≤ 2047 := by omega
  rw [if_neg h₂, if_neg h₂']
  by_cases h₃ : v < 0x10000
  · have h₃' : v ≤ 65535 := by omega
    rw [if_pos h₃, if_pos h₃', show 0xE0 + v / 0x1000 = v / 4096 % 16 + 224 by omega,
      Nat.add_comm 0x80, Nat.add_comm 0x80]
  · have h₃' : ¬ v ≤ 65535 := by omega
    rw [if_neg h₃, if_neg h₃', show 0xF0 + v / 0x40000 = v / 262144 % 8 + 240 by omega,
      Nat.add_comm 0x80, Nat.add_comm 0x80, Nat.add_comm 0x80]

end Utf8

namespace UnitCoding

variable {char? : UInt8 → Option Char} {byte? : Char → Option UInt8}

/-- Where every unit is one byte, the units are the characters of the bytes. -/
theorem unitsOf_ofBytes (bytes : List UInt8) :
    unitsOf (ofBytes char? byte?).read bytes = bytes.map char? := by
  have hunits : ∀ n, bytes.length ≤ n →
      unitsOfUpTo (ofBytes char? byte?).read n [] bytes = bytes.map char? := by
    induction bytes with
    | nil =>
      intro n _
      exact unitsOfUpTo_nil _ n
    | cons b bytes ih =>
      intro n hn
      obtain ⟨n, rfl⟩ : ∃ m, n = m + 1 := ⟨n - 1, by simp at hn; omega⟩
      rw [unitsOfUpTo_cons, List.map_cons]
      exact congrArg (char? b :: ·) (ih n (by simpa using hn))
  exact hunits bytes.length (Nat.le_refl _)

end UnitCoding

namespace Charset

variable {c source target : Charset} {text text' : List Char} {bytes stored : List UInt8}

/-! ### What bytes say -/

/-- The character of a byte in a charset of one byte for each character. -/
def byteChar? : Charset → UInt8 → Option Char
  | .singleByte page, b => SingleByte.char? page.upper b
  | .userDefined, b => some (.ofNat (if b.toNat < 0x80 then b.toNat else 0xF700 + b.toNat))
  | _, _ => none

/-- A byte sequence says a text: in UTF-8 it is the encoding of the text, and where every character
has one byte, the bytes stand for the characters one by one. -/
def Spells (c : Charset) (text : List Char) (bytes : List UInt8) : Prop :=
  if c = .utf8 then bytes = text.flatMap String.utf8EncodeChar
  else bytes.map c.byteChar? = text.map some

/-- A character can be said. -/
def Represents (c : Charset) (ch : Char) : Prop := ∃ written, c.Spells [ch] written

/-- The units of a byte sequence in a charset. -/
def units (c : Charset) (bytes : List UInt8) : List (Option Char) := c.coding.units bytes

theorem decode?_eq_some : c.decode? bytes = some text ↔ c.units bytes = text.map some :=
  spelled?_eq_some

/-- A charset that loses nothing reads just what it writes. -/
theorem decode?_iff_encode? (h : c.isExact = true) :
    c.decode? bytes = some text ↔ c.encode? text = some bytes :=
  ⟨canonical_of_isExact h text bytes, readsBack_of_isExact h text bytes⟩

/-- **A reader tells what a byte sequence says.** -/
theorem spells_iff_decode? (h : c.isExact = true) :
    c.Spells text bytes ↔ c.decode? bytes = some text := by
  cases c with
  | utf8 =>
    have hencode : encode? .utf8 text = some (text.flatMap String.utf8EncodeChar) := by
      rw [← funext Utf8.encodeChar_eq]
      exact Utf8.encode?_eq text
    rw [decode?_iff_encode? h, hencode, Option.some.injEq, Spells, if_pos rfl]
    exact eq_comm
  | singleByte page =>
    rw [decode?_eq_some, units, Spells, if_neg nofun]
    exact iff_of_eq (congrArg (· = _) (UnitCoding.unitsOf_ofBytes bytes).symm)
  | userDefined =>
    rw [decode?_eq_some, units, Spells, if_neg nofun]
    exact iff_of_eq (congrArg (· = _) (UnitCoding.unitsOf_ofBytes bytes).symm)
  | _ => cases h

/-- **A writer finds the bytes that say a text.** -/
theorem spells_iff_encode? (h : c.isExact = true) :
    c.Spells text bytes ↔ c.encode? text = some bytes := by
  rw [spells_iff_decode? h, decode?_iff_encode? h]

/-- A text can be said if each of its characters can. -/
theorem exists_spells_iff (h : c.isExact = true) :
    (∃ bytes, c.Spells text bytes) ↔ ∀ ch ∈ text, c.Represents ch := by
  obtain ⟨u, hu⟩ := coding_of_isExact h
  have hencode : ∀ text, c.encode? text = encodeWith? u.write? text := fun text =>
    congrArg (Coding.encode? · text) hu
  have hone : ∀ ch, c.Represents ch ↔ ∃ written, u.write? ch = some written := by
    intro ch
    unfold Represents
    simp only [spells_iff_encode? h, hencode]
    constructor
    · rintro ⟨bytes, hbytes⟩
      obtain ⟨written, -, hwritten, -⟩ := encodeWith?_cons.mp hbytes
      exact ⟨written, hwritten⟩
    · rintro ⟨written, hwritten⟩
      exact ⟨_, encodeWith?_cons.mpr ⟨written, [], hwritten, rfl, rfl⟩⟩
  simp only [spells_iff_encode? h, hencode]
  induction text with
  | nil => exact iff_of_true ⟨[], rfl⟩ nofun
  | cons ch text ih =>
    rw [List.forall_mem_cons, hone ch]
    constructor
    · rintro ⟨bytes, hbytes⟩
      obtain ⟨written, rest, hwritten, hrest, -⟩ := encodeWith?_cons.mp hbytes
      exact ⟨⟨written, hwritten⟩, ih.mp ⟨rest, hrest⟩⟩
    · rintro ⟨⟨written, hwritten⟩, hall⟩
      obtain ⟨rest, hrest⟩ := ih.mpr hall
      exact ⟨_, encodeWith?_cons.mpr ⟨written, rest, hwritten, hrest, rfl⟩⟩

/-- A byte sequence says something if all its units are characters, and then these. -/
theorem units_isSome_iff :
    (∀ u ∈ c.units bytes, u.isSome = true) ↔
      ∃ text : List Char, c.units bytes = text.map some := by
  constructor
  · intro h
    refine ⟨(c.units bytes).filterMap id, spelled?_eq_some.mp ?_⟩
    rw [spelled?, if_pos (List.all_eq_true.mpr h)]
  · rintro ⟨text, htext⟩ u hu
    rw [htext] at hu
    obtain ⟨ch, -, rfl⟩ := List.mem_map.mp hu
    rfl

/-! ### Conversions -/

theorem convert_eq_malformed :
    source.convert target bytes = .error (.malformed source) ↔ source.decode? bytes = none := by
  unfold convert
  cases source.decode? bytes with
  | none => simp
  | some text => cases htext : target.encode? text <;> simp [htext]

theorem convert_eq_unmappable :
    source.convert target bytes = .error (.unmappable target) ↔
      ∃ text, source.decode? bytes = some text ∧ target.encode? text = none := by
  unfold convert
  cases source.decode? bytes with
  | none => simp
  | some text => cases htext : target.encode? text <;> simp [htext]

/-- What a conversion makes is what says the same text. -/
theorem convert_iff_spells (hsource : source.isExact = true) (htarget : target.isExact = true) :
    source.convert target bytes = .ok stored ↔
      ∃ text, source.Spells text bytes ∧ target.Spells text stored := by
  rw [convert_eq_ok]
  apply exists_congr
  intro text
  rw [spells_iff_decode? hsource, spells_iff_encode? htarget]

/-- **A conversion keeps the text and can be taken back**, between UTF-8 and charsets of one byte for
each character.  It succeeds exactly if every unit of the byte sequence is a character, and every
one of these can be said in the other charset; the units are all characters just if the sequence
says a text.  If the sequence says none, it is malformed, and if it says one that the other charset
cannot say, this is unmappable.  What comes out is the one sequence that says the same text in the
other charset, which is read there, and the conversion back gives the bytes that went in. -/
theorem conversion_is_exact (hsource : source.isExact = true) (htarget : target.isExact = true)
    (bytes : List UInt8) :
    ((∃ stored, source.convert target bytes = .ok stored) ↔
      (∀ u ∈ source.units bytes, u.isSome = true) ∧
        ∀ ch, some ch ∈ source.units bytes → target.Represents ch) ∧
    (∀ text, source.units bytes = text.map some ↔ source.Spells text bytes) ∧
    (source.convert target bytes = .error (.malformed source) ↔
      ∀ text, ¬ source.Spells text bytes) ∧
    (source.convert target bytes = .error (.unmappable target) ↔
      ∃ text, source.Spells text bytes ∧ ∃ ch ∈ text, ¬ target.Represents ch) ∧
    ∀ stored, source.convert target bytes = .ok stored →
      (∃ text, source.Spells text bytes ∧ source.decode? bytes = some text ∧
        target.decode? stored = some text ∧
        ∀ other, target.Spells text other ↔ other = stored) ∧
      target.convert source stored = .ok bytes := by
  have hreads : ∀ text, source.units bytes = text.map some ↔ source.Spells text bytes := by
    intro text
    rw [spells_iff_decode? hsource, decode?_eq_some]
  have hsays : ∀ text, target.encode? text = none ↔ ∃ ch ∈ text, ¬ target.Represents ch := by
    intro text
    have hsome : (∃ bytes, target.Spells text bytes) ↔ ∀ ch ∈ text, target.Represents ch :=
      exists_spells_iff htarget
    simp only [spells_iff_encode? htarget, ← Option.isSome_iff_exists] at hsome
    rw [← Option.not_isSome_iff_eq_none, hsome]
    simp
  refine ⟨?_, hreads, ?_, ?_, ?_⟩
  · simp only [convert_iff_spells hsource htarget, units_isSome_iff, hreads]
    constructor
    · rintro ⟨stored, text, htext, hstored⟩
      refine ⟨⟨text, htext⟩, fun ch hch => ?_⟩
      rw [(hreads text).mpr htext, List.mem_map] at hch
      obtain ⟨ch', hmem, hch'⟩ := hch
      obtain rfl := Option.some.inj hch'
      exact (exists_spells_iff htarget).mp ⟨stored, hstored⟩ ch' hmem
    · rintro ⟨⟨text, htext⟩, hall⟩
      obtain ⟨stored, hstored⟩ := (exists_spells_iff htarget).mpr fun ch hch =>
        hall ch (by rw [(hreads text).mpr htext]; exact List.mem_map_of_mem hch)
      exact ⟨stored, text, htext, hstored⟩
  · rw [convert_eq_malformed, Option.eq_none_iff_forall_ne_some]
    exact forall_congr' fun text => not_congr (spells_iff_decode? hsource).symm
  · rw [convert_eq_unmappable]
    apply exists_congr
    intro text
    rw [spells_iff_decode? hsource, hsays]
  · intro stored hstored
    obtain ⟨text, hdecode, hencode⟩ := convert_eq_ok.mp hstored
    refine ⟨⟨text, (spells_iff_decode? hsource).mpr hdecode, hdecode,
      (decode?_iff_encode? htarget).mpr hencode, fun other => ?_⟩, ?_⟩
    · rw [spells_iff_encode? htarget, hencode, Option.some.injEq]
      exact eq_comm
    · refine convert_eq_ok.mpr ⟨text, (decode?_iff_encode? htarget).mpr hencode, ?_⟩
      exact (decode?_iff_encode? hsource).mp hdecode

/-- The sign of the euro has one byte in a code page and three bytes in UTF-8. -/
theorem conversion_is_exact_euro :
    isExact (.singleByte .windows1252) = true ∧ isExact .utf8 = true ∧
      convert (.singleByte .windows1252) .utf8 [0x80, 0x21] = .ok [0xE2, 0x82, 0xAC, 0x21] ∧
      convert .utf8 (.singleByte .windows1252) [0xE2, 0x82, 0xAC, 0x21] = .ok [0x80, 0x21] := by
  have hsource : isExact (.singleByte .windows1252) = true := rfl
  have htarget : isExact .utf8 = true := rfl
  have hgo : convert (.singleByte .windows1252) .utf8 [0x80, 0x21]
      = .ok [0xE2, 0x82, 0xAC, 0x21] := by decide +kernel
  obtain ⟨-, -, -, -, hback⟩ :=
    conversion_is_exact hsource htarget [0x80, 0x21]
  exact ⟨hsource, htarget, hgo, (hback _ hgo).2⟩

/-- A mark of the byte order is not passed over. -/
example : convert .utf8 (.singleByte .windows1252) [0xEF, 0xBB, 0xBF, 0x21]
    = .error (.unmappable (.singleByte .windows1252)) := by decide +kernel

end Charset
end ConfigKeys
