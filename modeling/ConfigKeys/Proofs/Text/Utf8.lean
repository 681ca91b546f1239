import ConfigKeys.Proofs.Charset.Coding
import ConfigKeys.Value.Basic

/-!
# UTF-8 reads what it writes, and nothing else

The bounds on the second byte of a character leave it one spelling only: a character that is read is
the one of the bytes that it was read from.

## Main results

* `Utf8.readsBack`, `Utf8.canonical` — UTF-8 reads what it writes, and from nothing else.
* `Value.text_ofText` — the value of a text has that text.
-/

namespace ConfigKeys
namespace Utf8

/-- The number of a byte. -/
theorem toNat_byte {n : Nat} (h : n < 0x100) : (UInt8.ofNat n).toNat = n := by
  rw [UInt8.toNat_ofNat']
  exact Nat.mod_eq_of_lt h

/-- The byte of a number. -/
theorem byte_eq (b : UInt8) {n : Nat} (h : n = b.toNat) : UInt8.ofNat n = b := by
  rw [h, UInt8.ofNat_toNat]

theorem toNat_ofNat {n : Nat} (h : n.isValidChar) : (Char.ofNat n).toNat = n := by
  rw [Char.ofNat, dif_pos h]
  rfl

/-! ### Reading what was written -/

/-- A continuation byte within the bounds is read. -/
theorem readTail_byte {v lo hi b : Nat} (n : Nat) (rest : List UInt8) (hb : b < 0x100)
    (h : lo ≤ b ∧ b ≤ hi) :
    readTail (n + 1) v lo hi (.ofNat b :: rest)
      = readTail n (v * 0x40 + b % 0x40) 0x80 0xBF rest := by
  rw [readTail, toNat_byte hb, if_pos h]

/-- Two bytes behind the first one. -/
theorem readTail_two {v lo hi b₁ b₂ : Nat} (rest : List UInt8) (h₁ : lo ≤ b₁ ∧ b₁ ≤ hi)
    (hhi : hi ≤ 0xBF) (h₂ : 0x80 ≤ b₂ ∧ b₂ ≤ 0xBF) :
    readTail 2 v lo hi (.ofNat b₁ :: .ofNat b₂ :: rest)
      = (some (.ofNat ((v * 0x40 + b₁ % 0x40) * 0x40 + b₂ % 0x40)), rest) := by
  rw [readTail_byte _ _ (by omega) h₁, readTail_byte _ _ (by omega) h₂, readTail]

/-- Three bytes behind the first one. -/
theorem readTail_three {v lo hi b₁ b₂ b₃ : Nat} (rest : List UInt8) (h₁ : lo ≤ b₁ ∧ b₁ ≤ hi)
    (hhi : hi ≤ 0xBF) (h₂ : 0x80 ≤ b₂ ∧ b₂ ≤ 0xBF) (h₃ : 0x80 ≤ b₃ ∧ b₃ ≤ 0xBF) :
    readTail 3 v lo hi (.ofNat b₁ :: .ofNat b₂ :: .ofNat b₃ :: rest)
      = (some (.ofNat (((v * 0x40 + b₁ % 0x40) * 0x40 + b₂ % 0x40) * 0x40 + b₃ % 0x40)), rest) := by
  rw [readTail_byte _ _ (by omega) h₁, readTail_two _ h₂ (Nat.le_refl _) h₃]

theorem readUnit_encodeChar (c : Char) : ∃ b tail, encodeChar c = b :: tail ∧
    ∀ rest, readUnit b (tail ++ rest) = (some c, rest) := by
  have hvalid : c.toNat < 0xD800 ∨ 0xDFFF < c.toNat ∧ c.toNat < 0x110000 := c.valid
  have hc : ∀ {n}, n = c.toNat → Char.ofNat n = c := by
    rintro n rfl
    exact c.ofNat_toNat
  simp only [encodeChar]
  generalize c.toNat = v at *
  by_cases h₁ : v < 0x80
  · rw [if_pos h₁]
    refine ⟨_, _, rfl, fun rest => ?_⟩
    simp only [readUnit, List.nil_append]
    rw [toNat_byte (by omega), if_pos h₁, hc rfl]
  by_cases h₂ : v < 0x800
  · rw [if_neg h₁, if_pos h₂]
    refine ⟨_, _, rfl, fun rest => ?_⟩
    simp only [readUnit, List.cons_append, List.nil_append]
    rw [toNat_byte (by omega), if_neg (by omega), if_neg (by omega), if_pos (by omega),
      readTail_byte _ _ (by omega) (by omega), readTail, hc (by omega)]
  by_cases h₃ : v < 0x10000
  · rw [if_neg h₁, if_neg h₂, if_pos h₃]
    refine ⟨_, _, rfl, fun rest => ?_⟩
    simp only [readUnit, List.cons_append, List.nil_append]
    rw [toNat_byte (by omega), if_neg (by omega), if_neg (by omega), if_neg (by omega)]
    -- the first byte decides which second bytes are read
    split
    · rw [readTail_two _ (by omega) (by omega) (by omega), hc (by omega)]
    split
    · rw [readTail_two _ (by omega) (by omega) (by omega), hc (by omega)]
    · rw [if_pos (by omega), readTail_two _ (by omega) (by omega) (by omega), hc (by omega)]
  · rw [if_neg h₁, if_neg h₂, if_neg h₃]
    refine ⟨_, _, rfl, fun rest => ?_⟩
    simp only [readUnit, List.cons_append, List.nil_append]
    rw [toNat_byte (by omega), if_neg (by omega), if_neg (by omega), if_neg (by omega),
      if_neg (by omega), if_neg (by omega), if_neg (by omega)]
    split
    · rw [readTail_three _ (by omega) (by omega) (by omega) (by omega), hc (by omega)]
    split
    · rw [readTail_three _ (by omega) (by omega) (by omega) (by omega), hc (by omega)]
    · rw [if_pos (by omega), readTail_three _ (by omega) (by omega) (by omega) (by omega),
        hc (by omega)]

/-- **UTF-8 reads what it writes.** -/
theorem readsBack : UnitCoding.utf8.ReadsBack := by
  rintro c _ ⟨⟩
  exact readUnit_encodeChar c

/-! ### Writing what was read -/

/-- What is read after the first byte of a character has its bytes within the bounds. -/
theorem exists_of_readTail {n v lo hi : Nat} {c : Char} {bytes rest : List UInt8}
    (h : readTail (n + 1) v lo hi bytes = (some c, rest)) :
    ∃ b more, bytes = b :: more ∧ (lo ≤ b.toNat ∧ b.toNat ≤ hi) ∧
      readTail n (v * 0x40 + b.toNat % 0x40) 0x80 0xBF more = (some c, rest) := by
  rcases bytes with _ | ⟨b, more⟩
  · cases h
  · rw [readTail] at h
    split at h
    · next hb => exact ⟨b, more, rfl, hb, h⟩
    · cases h

section Canonical

variable {b : UInt8} {v lo hi : Nat} {c : Char} {bytes rest : List UInt8}

/-- A character of two bytes. -/
theorem encodeChar_of_readTail_one (hv : b.toNat = 0xC0 + v) (hb : 2 ≤ v ∧ v < 0x20)
    (h : readTail 1 v 0x80 0xBF bytes = (some c, rest)) :
    ∃ tail, encodeChar c = b :: tail ∧ bytes = tail ++ rest := by
  obtain ⟨b₁, more, rfl, hb₁, h⟩ := exists_of_readTail h
  obtain ⟨hc, rfl⟩ := Prod.mk.inj h
  obtain rfl := Option.some.inj hc
  refine ⟨[b₁], ?_, rfl⟩
  simp only [encodeChar]
  rw [toNat_ofNat (by omega), if_neg (by omega), if_pos (by omega), byte_eq b (by omega),
    byte_eq b₁ (by omega)]

/-- A character of three bytes: the second one rules out that two would do, and surrogates. -/
theorem encodeChar_of_readTail_two (hv : b.toNat = 0xE0 + v) (hb : v < 0x10) (hlo : 0x80 ≤ lo)
    (hhi : hi ≤ 0xBF) (hlong : v = 0 → 0xA0 ≤ lo) (hsurrogate : v = 0xD → hi ≤ 0x9F)
    (h : readTail 2 v lo hi bytes = (some c, rest)) :
    ∃ tail, encodeChar c = b :: tail ∧ bytes = tail ++ rest := by
  obtain ⟨b₁, more, rfl, hb₁, h⟩ := exists_of_readTail h
  obtain ⟨b₂, more, rfl, hb₂, h⟩ := exists_of_readTail h
  obtain ⟨hc, rfl⟩ := Prod.mk.inj h
  obtain rfl := Option.some.inj hc
  refine ⟨[b₁, b₂], ?_, rfl⟩
  simp only [encodeChar]
  rw [toNat_ofNat (by omega), if_neg (by omega), if_neg (by omega), if_pos (by omega),
    byte_eq b (by omega), byte_eq b₁ (by omega), byte_eq b₂ (by omega)]

/-- A character of four bytes: the second one rules out that three would do, and values above
U+10FFFF. -/
theorem encodeChar_of_readTail_three (hv : b.toNat = 0xF0 + v) (hb : v ≤ 4) (hlo : 0x80 ≤ lo)
    (hhi : hi ≤ 0xBF) (hlong : v = 0 → 0x90 ≤ lo) (hlarge : v = 4 → hi ≤ 0x8F)
    (h : readTail 3 v lo hi bytes = (some c, rest)) :
    ∃ tail, encodeChar c = b :: tail ∧ bytes = tail ++ rest := by
  obtain ⟨b₁, more, rfl, hb₁, h⟩ := exists_of_readTail h
  obtain ⟨b₂, more, rfl, hb₂, h⟩ := exists_of_readTail h
  obtain ⟨b₃, more, rfl, hb₃, h⟩ := exists_of_readTail h
  obtain ⟨hc, rfl⟩ := Prod.mk.inj h
  obtain rfl := Option.some.inj hc
  refine ⟨[b₁, b₂, b₃], ?_, rfl⟩
  simp only [encodeChar]
  rw [toNat_ofNat (by omega), if_neg (by omega), if_neg (by omega), if_neg (by omega),
    byte_eq b (by omega), byte_eq b₁ (by omega), byte_eq b₂ (by omega),
    byte_eq b₃ (by omega)]

theorem encodeChar_of_readUnit (h : readUnit b bytes = (some c, rest)) :
    ∃ tail, encodeChar c = b :: tail ∧ bytes = tail ++ rest := by
  simp only [readUnit] at h
  by_cases h₁ : b.toNat < 0x80
  · rw [if_pos h₁] at h
    obtain ⟨hc, rfl⟩ := Prod.mk.inj h
    obtain rfl := Option.some.inj hc
    refine ⟨[], ?_, rfl⟩
    simp only [encodeChar]
    rw [toNat_ofNat (by omega), if_pos h₁, byte_eq b rfl]
  rw [if_neg h₁] at h
  by_cases h₂ : b.toNat < 0xC2
  · rw [if_pos h₂] at h
    cases h
  rw [if_neg h₂] at h
  by_cases h₃ : b.toNat < 0xE0
  · rw [if_pos h₃] at h
    exact encodeChar_of_readTail_one (by omega) (by omega) h
  rw [if_neg h₃] at h
  by_cases h₄ : b.toNat = 0xE0
  · rw [if_pos h₄] at h
    exact encodeChar_of_readTail_two h₄ (by omega) (by omega) (by omega) (by omega) (by omega) h
  rw [if_neg h₄] at h
  by_cases h₅ : b.toNat = 0xED
  · rw [if_pos h₅] at h
    exact encodeChar_of_readTail_two h₅ (by omega) (by omega) (by omega) (by omega) (by omega) h
  rw [if_neg h₅] at h
  by_cases h₆ : b.toNat < 0xF0
  · rw [if_pos h₆] at h
    exact encodeChar_of_readTail_two (by omega) (by omega) (by omega) (by omega) (by omega)
      (by omega) h
  rw [if_neg h₆] at h
  by_cases h₇ : b.toNat = 0xF0
  · rw [if_pos h₇] at h
    exact encodeChar_of_readTail_three h₇ (by omega) (by omega) (by omega) (by omega) (by omega) h
  rw [if_neg h₇] at h
  by_cases h₈ : b.toNat < 0xF4
  · rw [if_pos h₈] at h
    exact encodeChar_of_readTail_three (by omega) (by omega) (by omega) (by omega) (by omega)
      (by omega) h
  rw [if_neg h₈] at h
  by_cases h₉ : b.toNat = 0xF4
  · rw [if_pos h₉] at h
    exact encodeChar_of_readTail_three h₉ (by omega) (by omega) (by omega) (by omega) (by omega) h
  · rw [if_neg h₉] at h
    cases h

end Canonical

/-- **UTF-8 has one spelling for each character.** -/
theorem canonical : UnitCoding.utf8.Canonical := by
  intro b c bytes rest h
  obtain ⟨tail, hc, hbytes⟩ := encodeChar_of_readUnit h
  exact ⟨tail, congrArg some hc, hbytes⟩

/-! ### Whole texts -/

theorem encode?_eq (text : List Char) : UnitCoding.utf8.encode? text = some (encode text) := by
  induction text with
  | nil => rfl
  | cons c text ih => exact encodeWith?_cons.mpr ⟨_, _, rfl, ih, rfl⟩

/-- What is written in UTF-8 has no malformed part that would be replaced. -/
theorem decodeLossy_encode (text : List Char) : decodeLossy (encode text) = text := by
  have hunits : units (encode text) = text.map some :=
    readsBack.unitsOfUpTo (encode?_eq text) (Nat.le_refl _)
  rw [decodeLossy, hunits, List.map_map]
  exact List.map_id _

end Utf8

/-- **The value of a text has that text.** -/
@[simp] theorem Value.text_ofText (text : String) : (Value.ofText text).text = text := by
  rw [Value.text, Value.ofText, Utf8.decodeLossy_encode, String.ofList_toList]

end ConfigKeys
