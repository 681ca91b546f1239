import ConfigKeys.Charset.Coding

/-!
# Codings that read what they write

A coding reads a text back if the bytes of a text are read as that text, and it is canonical if a
text is read from no other bytes than those that are written for it.  A coding that goes character
by character does so if it does it for each character, whatever follows.

## Main definitions

* `Coding.ReadsBack`, `Coding.Canonical` — the two halves.
* `UnitCoding.ReadsBack`, `UnitCoding.Canonical` — the two halves, character by character.

## Main results

* `UnitCoding.ReadsBack.coding` — the bytes of a text are those of no other one.
* `UnitCoding.Canonical.coding` — the text of a byte sequence has these bytes.
* `UnitCoding.readsBack_ofBytes`, `UnitCoding.canonical_ofBytes` — codings of one byte for each
  character.
-/

namespace ConfigKeys

/-- What was cut already stands before the rest. -/
theorem unitsOfUpTo_acc (read : UnitReader) (n : Nat) (acc : List (Option Char))
    (bytes : List UInt8) :
    unitsOfUpTo read n acc bytes = acc.reverse ++ unitsOfUpTo read n [] bytes := by
  induction n generalizing acc bytes with
  | zero => exact (List.append_nil _).symm
  | succ n ih =>
    rcases bytes with _ | ⟨b, rest⟩
    · exact (List.append_nil _).symm
    · rw [unitsOfUpTo, ih, unitsOfUpTo, ih [_], List.reverse_cons, List.append_assoc]
      rfl

@[simp] theorem unitsOfUpTo_nil (read : UnitReader) (n : Nat) :
    unitsOfUpTo read n [] [] = [] := by
  rcases n with _ | n <;> rfl

/-- The units of a sequence are the first one and those of what follows it. -/
theorem unitsOfUpTo_cons (read : UnitReader) (n : Nat) (b : UInt8) (rest : List UInt8) :
    unitsOfUpTo read (n + 1) [] (b :: rest)
      = (read b rest).1 :: unitsOfUpTo read n [] (read b rest).2 := by
  rw [unitsOfUpTo, unitsOfUpTo_acc]
  rfl

/-- Units spell a text if they are its characters. -/
theorem spelled?_eq_some {units : List (Option Char)} {text : List Char} :
    spelled? units = some text ↔ units = text.map some := by
  rw [spelled?, Option.ite_none_right_eq_some, Option.some.injEq]
  constructor
  · rintro ⟨hall, rfl⟩
    induction units with
    | nil => rfl
    | cons u units ih =>
      rw [List.all_cons, Bool.and_eq_true] at hall
      obtain ⟨c, rfl⟩ := Option.isSome_iff_exists.mp hall.1
      exact congrArg (some c :: ·) (ih hall.2)
  · rintro rfl
    simp

namespace Coding

/-- The bytes of a text are read as that text. -/
def ReadsBack (c : Coding) : Prop :=
  ∀ text bytes, c.encode? text = some bytes → c.decode? bytes = some text

/-- A text is read from the bytes that are written for it, and from no others. -/
def Canonical (c : Coding) : Prop :=
  ∀ text bytes, c.decode? bytes = some text → c.encode? text = some bytes

end Coding

/-- A text has bytes if its first character has some and the rest of it has some. -/
theorem encodeWith?_cons {write? : Char → Option (List UInt8)} {ch : Char} {text : List Char}
    {bytes : List UInt8} : encodeWith? write? (ch :: text) = some bytes ↔
      ∃ written rest, write? ch = some written ∧ encodeWith? write? text = some rest ∧
        bytes = written ++ rest := by
  simp only [encodeWith?, List.map_cons, List.all_cons, Option.ite_none_right_eq_some,
    Bool.and_eq_true, Option.some.injEq, List.flatMap_cons]
  constructor
  · rintro ⟨⟨hfirst, hall⟩, rfl⟩
    obtain ⟨written, hwritten⟩ := Option.isSome_iff_exists.mp hfirst
    exact ⟨written, _, hwritten, ⟨hall, rfl⟩, by rw [hwritten]; rfl⟩
  · rintro ⟨written, rest, hwritten, ⟨hall, rfl⟩, rfl⟩
    rw [hwritten]
    exact ⟨⟨rfl, hall⟩, rfl⟩

namespace UnitCoding

variable {c : UnitCoding} {ch : Char} {text : List Char} {bytes : List UInt8}

/-- What is written for a character is read as that character. -/
def ReadsBack (c : UnitCoding) : Prop :=
  ∀ ch written, c.write? ch = some written →
    ∃ b tail, written = b :: tail ∧ ∀ rest, c.read b (tail ++ rest) = (some ch, rest)

/-- A character is read from what is written for it, and from nothing else. -/
def Canonical (c : UnitCoding) : Prop :=
  ∀ b ch rest rest', c.read b rest = (some ch, rest') →
    ∃ tail, c.write? ch = some (b :: tail) ∧ rest = tail ++ rest'

/-- The bytes of a text are cut into its characters. -/
theorem ReadsBack.unitsOfUpTo (h : c.ReadsBack) {n : Nat} (hencode : c.encode? text = some bytes)
    (hn : bytes.length ≤ n) : unitsOfUpTo c.read n [] bytes = text.map some := by
  induction text generalizing n bytes with
  | nil =>
    obtain rfl : [] = bytes := Option.some.inj hencode
    exact unitsOfUpTo_nil c.read n
  | cons ch text ih =>
    obtain ⟨written, rest, hwritten, hrest, rfl⟩ := encodeWith?_cons.mp hencode
    obtain ⟨b, tail, rfl, hread⟩ := h ch written hwritten
    rw [List.cons_append, List.length_cons, List.length_append] at hn
    obtain ⟨n, rfl⟩ : ∃ m, n = m + 1 := ⟨n - 1, by omega⟩
    rw [List.cons_append, unitsOfUpTo_cons, hread rest, ih hrest (by omega)]
    rfl

/-- **The bytes of a text are read as that text.** -/
theorem ReadsBack.coding (h : c.ReadsBack) : c.coding.ReadsBack := fun _ _ hencode =>
  spelled?_eq_some.mpr (h.unitsOfUpTo hencode (Nat.le_refl _))

/-- What is cut into the characters of a text is what is written for it. -/
theorem Canonical.encode?_unitsOfUpTo (h : c.Canonical) {n : Nat} (hn : bytes.length ≤ n)
    (hunits : unitsOfUpTo c.read n [] bytes = text.map some) : c.encode? text = some bytes := by
  induction text generalizing n bytes with
  | nil =>
    rcases bytes with _ | ⟨b, bytes⟩
    · rfl
    · -- there is a unit for the first byte
      obtain ⟨n, rfl⟩ : ∃ m, n = m + 1 := ⟨n - 1, by rw [List.length_cons] at hn; omega⟩
      rw [unitsOfUpTo_cons] at hunits
      cases hunits
  | cons ch text ih =>
    rcases bytes with _ | ⟨b, bytes⟩
    · rw [unitsOfUpTo_nil] at hunits
      cases hunits
    · rw [List.length_cons] at hn
      obtain ⟨n, rfl⟩ : ∃ m, n = m + 1 := ⟨n - 1, by omega⟩
      rw [unitsOfUpTo_cons, List.map_cons, List.cons.injEq] at hunits
      obtain ⟨tail, hwritten, hbytes⟩ := h b ch bytes (c.read b bytes).2 (Prod.ext hunits.1 rfl)
      have hlength := congrArg List.length hbytes
      rw [List.length_append] at hlength
      refine encodeWith?_cons.mpr ⟨_, _, hwritten, ih (by omega) hunits.2, ?_⟩
      rw [List.cons_append, ← hbytes]

/-- **The text of a byte sequence is written as that sequence.** -/
theorem Canonical.coding (h : c.Canonical) : c.coding.Canonical := fun _ _ hdecode =>
  h.encode?_unitsOfUpTo (Nat.le_refl _) (spelled?_eq_some.mp hdecode)

/-! ### One byte for each character -/

section OneByte

variable {char? : UInt8 → Option Char} {byte? : Char → Option UInt8}

theorem readsBack_ofBytes (h : ∀ ch b, byte? ch = some b → char? b = some ch) :
    (ofBytes char? byte?).ReadsBack := by
  intro ch written hwritten
  obtain ⟨b, hb, rfl⟩ := Option.map_eq_some_iff.mp hwritten
  refine ⟨b, [], rfl, fun rest => ?_⟩
  show (char? b, rest) = _
  rw [h ch b hb]

theorem canonical_ofBytes (h : ∀ b ch, char? b = some ch → byte? ch = some b) :
    (ofBytes char? byte?).Canonical := by
  intro b ch rest rest' hread
  obtain ⟨hch, rfl⟩ := Prod.mk.inj hread
  exact ⟨[], Option.map_eq_some_iff.mpr ⟨b, h b ch hch, rfl⟩, rfl⟩

end OneByte

end UnitCoding
end ConfigKeys
