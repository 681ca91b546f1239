import ConfigKeys.Charset.Basic
import ConfigKeys.Proofs.Text.Utf8

/-!
# Charsets that lose nothing

UTF-8, and the charsets that write every character in one byte, read what they write and have one
spelling for each character.  The tables are checked one by one: no character stands in two places.

## Main definitions

* `SingleByte.isExact` — a check of a table.
* `Charset.isExact` — whether a charset is UTF-8 or has one byte for each character.

## Main results

* `Charset.readsBack_of_isExact`, `Charset.canonical_of_isExact` — such a charset loses nothing.
-/

namespace ConfigKeys

namespace SingleByte

/-- Whether no code point stands twice in the rest of a table, nor is one of those that were `seen`,
which are the bits of a number. -/
def distinctFrom : Nat → List Nat → Bool
  | _, [] => true
  | seen, code :: rest =>
    if code = 0 then distinctFrom seen rest
    else !seen.testBit code && distinctFrom (seen ||| 1 <<< code) rest

/-- Whether the code points of a table are those of characters beyond ASCII, and none of them stands
in two places. -/
def isExact (upper : List Nat) : Bool :=
  upper.length ≤ 0x80 && upper.all (fun code => code = 0 || 0x80 ≤ code && decide code.isValidChar)
    && distinctFrom 0 upper

variable {upper : List Nat} {b : UInt8} {c : Char}

/-- A code point that stands once is found where it stands. -/
theorem idxOf?_of_distinctFrom {seen i code : Nat} (h : distinctFrom seen upper = true)
    (hi : upper[i]? = some code) (hcode : code ≠ 0) :
    seen.testBit code = false ∧ upper.idxOf? code = some i := by
  induction upper generalizing seen i with
  | nil => cases hi
  | cons first rest ih =>
    rw [distinctFrom] at h
    rcases i with _ | i
    · obtain rfl : first = code := Option.some.inj hi
      rw [if_neg hcode, Bool.and_eq_true, Bool.not_eq_true'] at h
      exact ⟨h.1, by rw [List.idxOf?_cons, beq_self_eq_true, if_pos rfl]⟩
    · rw [List.getElem?_cons_succ] at hi
      -- it is not the first one, which was seen when it is come to
      obtain ⟨hseen, hne, hidx⟩ : seen.testBit code = false ∧ first ≠ code ∧
          rest.idxOf? code = some i := by
        split at h
        · next hfirst =>
          obtain ⟨hseen, hidx⟩ := ih h hi
          exact ⟨hseen, fun heq => hcode (heq ▸ hfirst), hidx⟩
        · rw [Bool.and_eq_true] at h
          obtain ⟨hseen, hidx⟩ := ih h.2 hi
          rw [Nat.testBit_or, Bool.or_eq_false_iff, Nat.one_shiftLeft, Nat.testBit_two_pow,
            decide_eq_false_iff_not] at hseen
          exact ⟨hseen.1, hseen.2, hidx⟩
      refine ⟨hseen, ?_⟩
      rw [List.idxOf?_cons, beq_false_of_ne hne, if_neg Bool.false_ne_true, hidx]
      rfl

/-- What stands in a table that passed the check. -/
theorem of_isExact {i code : Nat} (h : isExact upper = true) (hi : upper[i]? = some code)
    (hcode : code ≠ 0) :
    i < 0x80 ∧ 0x80 ≤ code ∧ code.isValidChar ∧ upper.idxOf? code = some i := by
  rw [isExact, Bool.and_eq_true, Bool.and_eq_true, decide_eq_true_eq, List.all_eq_true] at h
  obtain ⟨⟨hlength, hall⟩, hdistinct⟩ := h
  obtain ⟨hlt, -⟩ := List.getElem?_eq_some_iff.mp hi
  have hchecked := hall code (List.mem_of_getElem? hi)
  simp only [Bool.or_eq_true, Bool.and_eq_true, decide_eq_true_eq, hcode, false_or] at hchecked
  exact ⟨Nat.lt_of_lt_of_le hlt hlength, hchecked.1, hchecked.2,
    (idxOf?_of_distinctFrom hdistinct hi hcode).2⟩

/-- The byte of a character is read as it. -/
theorem char?_of_byte? (h : isExact upper = true) (hb : byte? upper c = some b) :
    char? upper b = some c := by
  rw [byte?] at hb
  split at hb
  · next hascii =>
    obtain rfl := Option.some.inj hb
    rw [char?, Utf8.toNat_byte (by omega), if_pos hascii, Char.ofNat_toNat]
  · next hupper =>
    obtain ⟨i, hi, rfl⟩ := Option.map_eq_some_iff.mp hb
    have hget : upper[i]? = some c.toNat := by
      obtain ⟨hlt, heq, -⟩ := List.idxOf?_eq_some_iff.mp hi
      rw [List.getElem?_eq_getElem hlt, heq]
    obtain ⟨hlt, -⟩ := of_isExact h hget (by omega)
    rw [char?, Utf8.toNat_byte (by omega), if_neg (by omega), Nat.add_sub_cancel_left, hget,
      Option.bind_some, if_neg (by omega), Char.ofNat_toNat]

/-- The character of a byte is written as it. -/
theorem byte?_of_char? (h : isExact upper = true) (hc : char? upper b = some c) :
    byte? upper c = some b := by
  rw [char?] at hc
  split at hc
  · next hascii =>
    obtain rfl := Option.some.inj hc
    rw [byte?, Utf8.toNat_ofNat (by omega), if_pos hascii, Utf8.byte_eq b rfl]
  · next hupper =>
    obtain ⟨code, hget, hc⟩ := Option.bind_eq_some_iff.mp hc
    split at hc
    · cases hc
    · next hcode =>
      obtain rfl := Option.some.inj hc
      obtain ⟨-, hbeyond, hvalid, hidx⟩ := of_isExact h hget hcode
      rw [byte?, Utf8.toNat_ofNat hvalid, if_neg (by omega), hidx, Option.map_some,
        Utf8.byte_eq b (by omega)]

end SingleByte

/-- **The tables** have each character in one place. -/
theorem CodePage.isExact_upper (page : CodePage) : SingleByte.isExact page.upper = true := by
  cases page <;> decide +kernel

namespace UnitCoding

theorem readsBack_userDefined : userDefined.ReadsBack := by
  refine readsBack_ofBytes fun c b hb => ?_
  split at hb
  · next hprivate =>
    obtain rfl := Option.some.inj hb
    rw [Utf8.toNat_byte (by omega), if_neg (by omega), Nat.add_sub_cancel' (by omega),
      Char.ofNat_toNat]
  · rw [asciiByte?, Option.ite_none_right_eq_some] at hb
    obtain ⟨hascii, hb⟩ := hb
    obtain rfl := Option.some.inj hb
    rw [Utf8.toNat_byte (by omega), if_pos hascii, Char.ofNat_toNat]

theorem canonical_userDefined : userDefined.Canonical := by
  refine canonical_ofBytes fun b c hc => ?_
  have hlt : b.toNat < 0x100 := b.toNat_lt
  obtain rfl := Option.some.inj hc
  by_cases hascii : b.toNat < 0x80
  · rw [if_pos hascii, Utf8.toNat_ofNat (by omega), if_neg (by omega), asciiByte?,
      Utf8.toNat_ofNat (by omega), if_pos hascii, Utf8.byte_eq b rfl]
  · rw [if_neg hascii, Utf8.toNat_ofNat (by omega), if_pos (by omega),
      Utf8.byte_eq b (by omega)]

end UnitCoding

namespace Charset

/-- Whether a charset is UTF-8, or has one byte for each character. -/
def isExact : Charset → Bool
  | .utf8 | .singleByte _ | .userDefined => true
  | _ => false

variable {c : Charset}

/-- Such a charset goes character by character. -/
theorem coding_of_isExact (h : c.isExact = true) : ∃ u : UnitCoding, c.coding = u.coding := by
  cases c with
  | utf8 => exact ⟨_, rfl⟩
  | singleByte page => exact ⟨_, rfl⟩
  | userDefined => exact ⟨_, rfl⟩
  | _ => cases h

/-- **Such a charset reads what it writes.** -/
theorem readsBack_of_isExact (h : c.isExact = true) : c.coding.ReadsBack := by
  cases c with
  | utf8 => exact Utf8.readsBack.coding
  | singleByte page =>
    exact (UnitCoding.readsBack_ofBytes fun _ _ =>
      SingleByte.char?_of_byte? page.isExact_upper).coding
  | userDefined => exact UnitCoding.readsBack_userDefined.coding
  | _ => cases h

/-- **Such a charset has one spelling for each character.** -/
theorem canonical_of_isExact (h : c.isExact = true) : c.coding.Canonical := by
  cases c with
  | utf8 => exact Utf8.canonical.coding
  | singleByte page =>
    exact (UnitCoding.canonical_ofBytes fun _ _ =>
      SingleByte.byte?_of_char? page.isExact_upper).coding
  | userDefined => exact UnitCoding.canonical_userDefined.coding
  | _ => cases h

end Charset
end ConfigKeys
