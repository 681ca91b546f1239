import Mathlib.Data.Nat.Digits.Defs
import ConfigKeys.Number.Decimal

/-!
# Integers as decimal texts

A text denotes an integer if it is one or more digits behind at most one sign.  The number of the
digits is their place value, however many zeros stand in front.

## Main definitions

* `Decimal.placeValue` — the number that digits stand for.
* `Decimal.Denotes` — a text denotes an integer.

## Main results

* `Decimal.integer?_eq_some_iff` — exactly these texts are read.
* `Decimal.denotes_toString` — the written form of an integer denotes it.
-/

namespace ConfigKeys.Decimal

/-- The number that digits stand for, the last of which counts ones. -/
def placeValue (digits : List Char) : Nat := Nat.ofDigits 10 (digits.reverse.map digitValue)

/-- One or more digits. -/
structure IsNumeral (digits : List Char) : Prop where
  ne_nil : digits ≠ []
  digits : ∀ c ∈ digits, '0' ≤ c ∧ c ≤ '9'

/-- A text denotes an integer: a numeral, with a sign in front or without one. -/
inductive Denotes : List Char → Int → Prop
  | plain {digits : List Char} (h : IsNumeral digits) : Denotes digits (placeValue digits)
  | plus {digits : List Char} (h : IsNumeral digits) : Denotes ('+' :: digits) (placeValue digits)
  | minus {digits : List Char} (h : IsNumeral digits) :
      Denotes ('-' :: digits) (-(placeValue digits : Int))

variable {digits text : List Char} {n : Nat}

/-! ### Digits -/

theorem isDigit_iff (c : Char) : isDigit c = true ↔ '0' ≤ c ∧ c ≤ '9' := by
  rw [isDigit, Bool.and_eq_true, decide_eq_true_iff, decide_eq_true_iff]
  rfl

theorem digitValue_le {c : Char} (h : isDigit c = true) : digitValue c ≤ 9 := by
  rw [isDigit, Bool.and_eq_true, decide_eq_true_iff, decide_eq_true_iff] at h
  rw [digitValue]
  omega

/-- Digits that follow others count after them. -/
theorem digitsFrom_eq (n : Nat) (digits : List Char) :
    digitsFrom n digits = 10 ^ digits.length * n + placeValue digits := by
  induction digits generalizing n with
  | nil => simp [digitsFrom, placeValue]
  | cons c digits ih =>
    have hstep : digitsFrom n (c :: digits) = digitsFrom (10 * n + digitValue c) digits := rfl
    have hplace : placeValue (c :: digits)
        = placeValue digits + 10 ^ digits.length * digitValue c := by
      simp [placeValue, Nat.ofDigits_append]
    rw [hstep, ih, hplace, List.length_cons, Nat.pow_succ]
    ring

/-- Digits make no number smaller. -/
theorem le_digitsFrom (n : Nat) (digits : List Char) : n ≤ digitsFrom n digits := by
  rw [digitsFrom_eq]
  exact Nat.le_trans (Nat.le_mul_of_pos_left n (Nat.pow_pos (by decide))) (Nat.le_add_right _ _)

theorem digitsFrom_zero (digits : List Char) : digitsFrom 0 digits = placeValue digits := by
  rw [digitsFrom_eq, Nat.mul_zero, Nat.zero_add]

theorem isNumeral_iff : IsNumeral digits ↔ (!digits.isEmpty && digits.all isDigit) = true := by
  simp only [Bool.and_eq_true, Bool.not_eq_true', List.isEmpty_eq_false_iff, List.all_eq_true,
    isDigit_iff]
  exact ⟨fun h => ⟨h.ne_nil, h.digits⟩, fun h => ⟨h.1, h.2⟩⟩

theorem natural?_eq_some_iff : natural? text = some n ↔ IsNumeral text ∧ n = placeValue text := by
  rw [natural?, isNumeral_iff, digitsFrom_zero]
  split
  · next h => simp [h, eq_comm]
  · next h => simp [h]

/-! ### Signs -/

/-- A numeral begins with no sign. -/
theorem IsNumeral.splitSign (h : IsNumeral digits) : splitSign digits = (false, digits) := by
  unfold Decimal.splitSign
  split
  · exact absurd (h.digits '-' List.mem_cons_self) (by decide)
  · exact absurd (h.digits '+' List.mem_cons_self) (by decide)
  · rfl

/-- What stands behind the sign is read, and the sign counts. -/
theorem integer?_eq (text : List Char) :
    integer? text = (natural? (splitSign text).2).map fun n : Nat =>
      if (splitSign text).1 then -(n : Int) else (n : Int) := by
  rw [integer?]
  rcases splitSign text with ⟨negative, digits⟩
  rcases hn : natural? digits with _ | n <;> simp [hn]

theorem integer?_of_splitSign {negative : Bool} (h : splitSign text = (negative, digits))
    (hdigits : IsNumeral digits) :
    integer? text
      = some (if negative then -(placeValue digits : Int) else (placeValue digits : Int)) := by
  rw [integer?_eq, h, natural?_eq_some_iff.mpr ⟨hdigits, rfl⟩]
  rfl

/-- **Exactly the texts that denote an integer are read**, as the integer that they denote. -/
theorem integer?_eq_some_iff {n : Int} : integer? text = some n ↔ Denotes text n := by
  constructor
  · intro h
    rw [integer?_eq] at h
    obtain ⟨m, hm, rfl⟩ := Option.map_eq_some_iff.mp h
    obtain ⟨hdigits, rfl⟩ := natural?_eq_some_iff.mp hm
    unfold splitSign at hdigits ⊢
    split at hdigits
    · exact .minus hdigits
    · exact .plus hdigits
    · exact .plain hdigits
  · intro h
    cases h with
    | plain h => exact integer?_of_splitSign h.splitSign h
    | plus h => exact integer?_of_splitSign rfl h
    | minus h => exact integer?_of_splitSign rfl h

/-- A text denotes one integer at most. -/
theorem Denotes.unique {m n : Int} (h : Denotes text m) (h' : Denotes text n) : m = n :=
  Option.some.inj ((integer?_eq_some_iff.mpr h).symm.trans (integer?_eq_some_iff.mpr h'))

/-! ### Written forms -/

theorem isNumeral_repr (n : Nat) : IsNumeral n.repr.toList := by
  rw [Nat.repr_eq_ofList_toDigits, String.toList_ofList]
  refine ⟨Nat.toDigits_ne_nil, fun c hc => ?_⟩
  exact Char.isDigit_iff_toNat.mp (Nat.isDigit_of_mem_toDigits (by decide) (by decide) hc)

theorem placeValue_repr (n : Nat) : placeValue n.repr.toList = n := by
  rw [← digitsFrom_zero, Nat.repr_eq_ofList_toDigits, String.toList_ofList]
  exact Nat.ofDigitChars_eq_foldl.symm.trans (Nat.ofDigitChars_toDigits (by decide) (by decide))

/-- **The written form of an integer denotes it.** -/
theorem denotes_toString (n : Int) : Denotes (toString n).toList n := by
  cases n with
  | ofNat m =>
    have hplain := Denotes.plain (isNumeral_repr m)
    rw [placeValue_repr] at hplain
    exact hplain
  | negSucc m =>
    have hminus := Denotes.minus (isNumeral_repr m.succ)
    rw [placeValue_repr] at hminus
    have hwritten : (toString (Int.negSucc m)).toList = '-' :: m.succ.repr.toList := by
      rw [show toString (Int.negSucc m) = "-" ++ m.succ.repr from rfl, String.toList_append]
      rfl
    rw [hwritten]
    exact hminus

end ConfigKeys.Decimal
