import ConfigKeys.Proofs.Number.Decimal
import ConfigKeys.Proofs.Session.Locks
import ConfigKeys.Proofs.Text.Utf8
import ConfigKeys.Value.Typed

/-!
# Values as integers

A value is read as an integer of some width if its text denotes an integer that the width has.  A
reader that works in the width itself, digit by digit, and gives up where a step would overflow,
reads the same texts as the same numbers: numbers only grow away from zero, so what has left the
width does not come back.

## Main definitions

* `IntWidth.Has` — a number is in the range of a width.
* `IntWidth.grow?` — one more digit, in the width.
* `IntWidth.machine?` — a text, read in the width.

## Main results

* `IntWidth.map_toInt_machine?` — computed in the width, a text is read as the number it denotes.
* `Value.get_integer_eq_ok_iff` — which texts are read, and as what.
* `Session.Reachable.integers_read_strictly` — **reading is strict, and the widths agree.**
-/

namespace ConfigKeys

open Decimal

namespace IntWidth

variable {w : IntWidth} {n : Int} {negative : Bool} {c : Char}

/-- A number is in the range of two's complement of this width. -/
def Has (w : IntWidth) (n : Int) : Prop :=
  -(2 : Int) ^ (w.bits - 1) ≤ n ∧ n ≤ (2 : Int) ^ (w.bits - 1) - 1

instance (w : IntWidth) (n : Int) : Decidable (w.Has n) := inferInstanceAs (Decidable (_ ∧ _))

theorem admits_iff : w.admits n = true ↔ w.Has n := by
  have htwo : (twoTo (w.bits - 1) : Int) = 2 ^ (w.bits - 1) := Nat.cast_pow 2 _
  rw [admits, Has, htwo, Bool.and_eq_true, decide_eq_true_iff, decide_eq_true_iff]

theorem toInt_has (x : BitVec w.bits) : w.Has x.toInt := ⟨x.le_toInt, x.toInt_le⟩

/-- A range around zero has what is closer to zero. -/
theorem Has.of_between {m : Int} (h : w.Has n) (hm : 0 ≤ m ∧ m ≤ n ∨ n ≤ m ∧ m ≤ 0) : w.Has m := by
  have hpos : (0 : Int) < 2 ^ (w.bits - 1) := by positivity
  have hlow := h.1
  have hhigh := h.2
  constructor <;> omega

/-- A wider integer has all that a narrower one has. -/
theorem Has.mono {wide : IntWidth} (h : w.Has n) (hle : w.bits ≤ wide.bits) : wide.Has n := by
  have hpow : (2 : Int) ^ (w.bits - 1) ≤ 2 ^ (wide.bits - 1) :=
    pow_le_pow_right₀ (by decide) (Nat.sub_le_sub_right hle 1)
  have hlow := h.1
  have hhigh := h.2
  constructor <;> omega

/-- Every width has the numbers that a digit and the base are. -/
theorem toInt_ofNat_small {m : Nat} (hm : m ≤ 10) : (BitVec.ofNat w.bits m).toInt = m := by
  rw [BitVec.toInt_ofNat']
  apply Int.bmod_eq_of_le <;> cases w <;> simp only [bits] <;> omega

/-! ### Arithmetic that gives up -/

/-- What was computed, unless it overflowed. -/
def checked (overflow : Bool) (x : BitVec w.bits) : Option (BitVec w.bits) :=
  if overflow then none else some x

theorem map_toInt_checked {overflow : Bool} {x : BitVec w.bits}
    (hover : overflow = true ↔ ¬ w.Has n) (hexact : ¬ overflow = true → x.toInt = n) :
    (checked overflow x).map BitVec.toInt = Option.guard w.admits n := by
  rw [← admits_iff] at hover
  cases overflow
  · have hin : w.admits n = true := by simpa using hover
    rw [Option.guard_eq_some_iff.mpr ⟨rfl, hin⟩, ← hexact Bool.false_ne_true]
    rfl
  · have hout : w.admits n = false := by simpa using hover
    rw [Option.guard_eq_none_iff.mpr hout]
    rfl

/-- The product, if it is in range. -/
def mul? (x y : BitVec w.bits) : Option (BitVec w.bits) := checked (x.smulOverflow y) (x * y)

/-- The sum, if it is in range. -/
def add? (x y : BitVec w.bits) : Option (BitVec w.bits) := checked (x.saddOverflow y) (x + y)

/-- The difference, if it is in range. -/
def sub? (x y : BitVec w.bits) : Option (BitVec w.bits) := checked (x.ssubOverflow y) (x - y)

variable (x y : BitVec w.bits)

theorem map_toInt_mul? :
    (mul? x y).map BitVec.toInt = Option.guard w.admits (x.toInt * y.toInt) := by
  refine map_toInt_checked ?_ BitVec.toInt_mul_of_not_smulOverflow
  simp only [BitVec.smulOverflow, Has, Bool.or_eq_true, decide_eq_true_iff]
  omega

theorem map_toInt_add? :
    (add? x y).map BitVec.toInt = Option.guard w.admits (x.toInt + y.toInt) := by
  refine map_toInt_checked ?_ BitVec.toInt_add_of_not_saddOverflow
  simp only [BitVec.saddOverflow, Has, Bool.or_eq_true, decide_eq_true_iff]
  omega

theorem map_toInt_sub? :
    (sub? x y).map BitVec.toInt = Option.guard w.admits (x.toInt - y.toInt) := by
  refine map_toInt_checked ?_ BitVec.toInt_sub_of_not_ssubOverflow
  simp only [BitVec.ssubOverflow, Has, Bool.or_eq_true, decide_eq_true_iff]
  omega

/-! ### Reading in the width itself -/

/-- One more digit behind a number.  It is added above zero and taken off below, as the smallest
number has no positive counterpart. -/
def grow? (w : IntWidth) (negative : Bool) (x : BitVec w.bits) (c : Char) :
    Option (BitVec w.bits) := do
  let y ← mul? x (BitVec.ofNat w.bits 10)
  let digit := BitVec.ofNat w.bits (digitValue c)
  if negative then sub? y digit else add? y digit

/-- The number that a text denotes, computed in the width from the first digit to the last. -/
def machine? (w : IntWidth) (text : List Char) : Option (BitVec w.bits) :=
  let (negative, digits) := splitSign text
  if !digits.isEmpty && digits.all isDigit then digits.foldlM (w.grow? negative) 0 else none

/-- A size with its sign. -/
def signed (negative : Bool) (size : Nat) : Int := if negative then -size else size

/-- A range that has a size with its sign has all smaller sizes with it. -/
theorem Has.of_le {size larger : Nat} (h : w.Has (signed negative larger)) (hle : size ≤ larger) :
    w.Has (signed negative size) := by
  refine h.of_between ?_
  cases negative <;> simp only [signed] <;> simp <;> omega

variable {x} {size : Nat}

/-- **One more digit is computed exactly, or given up where the number is out of range.** -/
theorem map_toInt_grow? (hx : x.toInt = signed negative size) (hc : digitValue c ≤ 9) :
    (w.grow? negative x c).map BitVec.toInt
      = Option.guard w.admits (signed negative (10 * size + digitValue c)) := by
  have hten : (BitVec.ofNat w.bits 10).toInt = (10 : Nat) := toInt_ofNat_small (Nat.le_refl 10)
  have hdigit : (BitVec.ofNat w.bits (digitValue c)).toInt = digitValue c :=
    toInt_ofNat_small (Nat.le_trans hc (by decide))
  have hscaled : x.toInt * (10 : Nat) = signed negative (10 * size) := by
    rw [hx]
    cases negative <;> simp [signed] <;> omega
  have hproduct := map_toInt_mul? x (BitVec.ofNat w.bits 10)
  rw [hten, hscaled] at hproduct
  rw [grow?]
  rcases hmul : mul? x (BitVec.ofNat w.bits 10) with _ | y
  · -- a product out of range does not come back with a digit behind it
    rw [hmul, Option.map_none, eq_comm, Option.guard_eq_none_iff, ← Bool.not_eq_true,
      admits_iff] at hproduct
    refine (Option.guard_eq_none_iff.mpr ?_).symm
    rw [← Bool.not_eq_true, admits_iff]
    exact fun hin => hproduct (hin.of_le (Nat.le_add_right _ _))
  · rw [hmul, Option.map_some, eq_comm, Option.guard_eq_some_iff] at hproduct
    obtain ⟨hy, -⟩ := hproduct
    cases negative
    · refine (map_toInt_add? y _).trans ?_
      rw [hdigit, ← hy]
      rfl
    · refine (map_toInt_sub? y _).trans ?_
      rw [hdigit, ← hy]
      exact congrArg (Option.guard w.admits) (by simp only [signed, if_true]; omega)

/-- **The digits that follow are computed exactly, or given up where the number is out of
range.** -/
theorem map_toInt_foldlM {digits : List Char} (hdigits : ∀ c ∈ digits, isDigit c = true)
    (hx : x.toInt = signed negative size) :
    (digits.foldlM (w.grow? negative) x).map BitVec.toInt
      = Option.guard w.admits (signed negative (digitsFrom size digits)) := by
  induction digits generalizing x size with
  | nil =>
    have hin : w.admits (signed negative (digitsFrom size [])) = true := by
      rw [admits_iff, digitsFrom, List.foldl_nil, ← hx]
      exact toInt_has x
    rw [Option.guard_eq_some_iff.mpr ⟨rfl, hin⟩, List.foldlM_nil]
    exact congrArg some hx
  | cons c digits ih =>
    have hc : digitValue c ≤ 9 := digitValue_le (hdigits c List.mem_cons_self)
    have hrest : ∀ c ∈ digits, isDigit c = true := fun c hc => hdigits c (List.mem_cons_of_mem _ hc)
    have hstep := map_toInt_grow? (w := w) hx hc
    have hall : digitsFrom size (c :: digits) = digitsFrom (10 * size + digitValue c) digits := rfl
    rw [List.foldlM_cons, hall]
    rcases hgrow : w.grow? negative x c with _ | y
    · rw [hgrow, Option.map_none, eq_comm, Option.guard_eq_none_iff, ← Bool.not_eq_true,
        admits_iff] at hstep
      refine (Option.guard_eq_none_iff.mpr ?_).symm
      rw [← Bool.not_eq_true, admits_iff]
      exact fun hin => hstep (hin.of_le (le_digitsFrom _ digits))
    · rw [hgrow, Option.map_some, eq_comm, Option.guard_eq_some_iff] at hstep
      exact ih hrest hstep.1.symm

/-- **Computed in the width, a text is read as the number that it denotes if that is in range, and
not at all if not**, however long it is. -/
theorem map_toInt_machine? (w : IntWidth) (text : List Char) :
    (w.machine? text).map BitVec.toInt = (integer? text).bind (Option.guard w.admits) := by
  rw [machine?, integer?_eq, natural?]
  rcases splitSign text with ⟨negative, digits⟩
  dsimp only
  split
  · next h =>
    have hdigits : ∀ c ∈ digits, isDigit c = true := by
      rw [Bool.and_eq_true, List.all_eq_true] at h
      exact h.2
    have hzero : (0 : BitVec w.bits).toInt = signed negative 0 := by
      cases negative <;> exact BitVec.toInt_zero
    exact map_toInt_foldlM hdigits hzero
  · rfl

end IntWidth

/-! ### Values -/

namespace Value

variable {v : Value} {w narrow wide : IntWidth} {n : Int}

/-- The error of a value that is not read as an integer of some width. -/
def notInteger (w : IntWidth) (text : String) : KeyError :=
  .conversion ("i" ++ toString w.bits) text

theorem get_integer (v : Value) (w : IntWidth) :
    v.get (.integer w) = match (integer? v.text.toList).bind (Option.guard w.admits) with
      | some n => .ok (.integer w n)
      | none => .error (notInteger w v.text) := by
  have htitle : (ValueType.integer w).title = "i" ++ toString w.bits := by cases w <;> rfl
  rw [get, ValueType.read?, notInteger, ← htitle]
  rcases integer? v.text.toList with _ | n
  · rfl
  · by_cases hin : w.admits n = true <;> simp [Option.guard, hin]

theorem bind_guard_eq_some_iff {text : List Char} :
    (integer? text).bind (Option.guard w.admits) = some n ↔ Denotes text n ∧ w.Has n := by
  rw [Option.bind_eq_some_iff]
  simp only [Option.guard_eq_some_iff, integer?_eq_some_iff, IntWidth.admits_iff]
  constructor
  · rintro ⟨m, hm, rfl, hin⟩
    exact ⟨hm, hin⟩
  · rintro ⟨hn, hin⟩
    exact ⟨n, hn, rfl, hin⟩

/-- **Exactly the texts that denote a number in range are read**, as that number. -/
theorem get_integer_eq_ok_iff :
    v.get (.integer w) = .ok (.integer w n) ↔ Denotes v.text.toList n ∧ w.Has n := by
  rw [← bind_guard_eq_some_iff, get_integer]
  rcases (integer? v.text.toList).bind (Option.guard w.admits) with _ | m <;> simp

/-- **No other text is read at all.** -/
theorem get_integer_eq_error (h : ¬ ∃ n, Denotes v.text.toList n ∧ w.Has n) :
    v.get (.integer w) = .error (notInteger w v.text) := by
  rw [get_integer]
  rcases hread : (integer? v.text.toList).bind (Option.guard w.admits) with _ | n
  · rfl
  · exact absurd ⟨n, bind_guard_eq_some_iff.mp hread⟩ h

/-- What a narrow width reads, a wider one reads too. -/
theorem get_narrow_iff (hle : narrow.bits ≤ wide.bits) :
    v.get (.integer narrow) = .ok (.integer narrow n) ↔
      v.get (.integer wide) = .ok (.integer wide n) ∧ narrow.Has n := by
  rw [get_integer_eq_ok_iff, get_integer_eq_ok_iff, and_assoc]
  exact and_congr_right fun _ => ⟨fun hin => ⟨hin.mono hle, hin⟩, fun hin => hin.2⟩

/-- To read in the width itself is to read. -/
theorem get_integer_machine (v : Value) (w : IntWidth) :
    v.get (.integer w) = match w.machine? v.text.toList with
      | some x => .ok (.integer w x.toInt)
      | none => .error (notInteger w v.text) := by
  rw [get_integer, ← IntWidth.map_toInt_machine?]
  rcases w.machine? v.text.toList <;> rfl

/-- The written form of an integer is read at each width that has it, and at no other. -/
theorem get_ofText_integer (n : Int) (w wide : IntWidth) :
    (ofText (TypedValue.integer wide n).text).get (.integer w)
      = if w.Has n then .ok (.integer w n) else .error (notInteger w (toString n)) := by
  have htext : (ofText (TypedValue.integer wide n).text).text = toString n := text_ofText _
  have hdenotes := denotes_toString n
  rw [← htext] at hdenotes ⊢
  split
  · next hin => exact get_integer_eq_ok_iff.mpr ⟨hdenotes, hin⟩
  · next hout =>
    apply get_integer_eq_error
    rintro ⟨m, hm, hin⟩
    rw [hm.unique hdenotes] at hin
    exact hout hin

end Value

/-! ### Sessions -/

namespace Session

/-- **Integers are read strictly, and the widths agree.**  A value is read as an integer if its text
is a numeral, with a sign or without one, that denotes a number in range; otherwise reading fails,
and names the width and the text.  A narrow width reads what a wider one reads and it has itself.
Nothing overflows or wraps: the reader that computes in the width, and gives up where it must, reads
the same.  What is set at one width is then read at every width that has it, and at no other;
reading is a function of the value, so the widths read one after the other from one session. -/
theorem Reachable.integers_read_strictly {s : Session} {slot : String} {k : Key} (h : s.Reachable)
    (hk : s.keys.get? slot = some k) :
    (∀ (v : Value) (w : IntWidth),
      (∀ n, v.get (.integer w) = .ok (.integer w n) ↔ Denotes v.text.toList n ∧ w.Has n) ∧
      ((¬ ∃ n, Denotes v.text.toList n ∧ w.Has n) →
        v.get (.integer w) = .error (.conversion ("i" ++ toString w.bits) v.text)) ∧
      v.get (.integer w) = match w.machine? v.text.toList with
        | some x => .ok (.integer w x.toInt)
        | none => .error (.conversion ("i" ++ toString w.bits) v.text)) ∧
    (∀ (v : Value) (narrow wide : IntWidth) (n : Int), narrow.bits < wide.bits →
      (v.get (.integer narrow) = .ok (.integer narrow n) ↔
        v.get (.integer wide) = .ok (.integer wide n) ∧ narrow.Has n)) ∧
    ∀ (w : IntWidth) (n : Int), w.Has n →
      ∃ s', s.exec (.setValue slot (.ofText (TypedValue.integer w n).text)) = some (.done, s') ∧
        ∀ w' : IntWidth, (s'.pool.value k).get (.integer w') =
          if w'.Has n then .ok (.integer w' n)
          else .error (.conversion ("i" ++ toString w'.bits) (toString n)) := by
  refine ⟨fun v w => ⟨fun n => Value.get_integer_eq_ok_iff, Value.get_integer_eq_error,
    v.get_integer_machine w⟩, fun v narrow wide n hlt => Value.get_narrow_iff (Nat.le_of_lt hlt),
    fun w n _ => ?_⟩
  obtain ⟨r, hr⟩ := h.sound.exists_of_key hk
  refine ⟨{ s with pool := s.pool.setValue k (.ofText (TypedValue.integer w n).text) }, ?_, ?_⟩
  · exact congrArg (Option.bind · _) hk
  · intro w'
    have hvalue : (s.pool.setValue k (.ofText (TypedValue.integer w n).text)).value k
        = .ofText (TypedValue.integer w n).text := by
      rw [Pool.value, Pool.setValue, Pool.record_modify_self _ hr]
    rw [hvalue]
    exact Value.get_ofText_integer n w' w

/-- Behind a sign and zeros, the number that 8 bits have below zero but not above is read by 16 bits
alone.  The smallest number of 16 bits is set, and 8 bits do not read it. -/
theorem Reachable.integers_read_strictly_minimum :
    ∃ (s s' : Session) (k : Key), s.keys.get? "key" = some k ∧
      (s.pool.value k).text = "+000128" ∧
      (s.pool.value k).get (.integer .bits16) = .ok (.integer .bits16 128) ∧
      (s.pool.value k).get (.integer .bits8) = .error (.conversion "i8" "+000128") ∧
      s.exec (.setValue "key" (.ofText "-32768")) = some (.done, s') ∧
      (s'.pool.value k).get (.integer .bits16) = .ok (.integer .bits16 (-32768)) ∧
      (s'.pool.value k).get (.integer .bits8) = .error (.conversion "i8" "-32768") := by
  have hrun : ((Session.execAll {} [.build "key" "user/a" [.text "+000128"]]).map fun s =>
      decide (s.keys.get? "key" = some ⟨0, {}⟩ ∧ (s.pool.value ⟨0, {}⟩).text = "+000128"))
        = some true := by
    decide +kernel
  obtain ⟨s, hs, hfacts⟩ := Option.map_eq_some_iff.mp hrun
  obtain ⟨hk, htext⟩ := of_decide_eq_true hfacts
  obtain ⟨hread, -, hset⟩ := (Reachable.start.execAll hs).integers_read_strictly hk
  obtain ⟨s', hexec, hafter⟩ := hset .bits16 (-32768) (by decide)
  have hwritten : (TypedValue.integer .bits16 (-32768)).text = "-32768" := by decide
  rw [hwritten] at hexec
  have hdenotes : Denotes (s.pool.value ⟨0, {}⟩).text.toList 128 := by
    rw [htext, ← integer?_eq_some_iff]
    decide
  have hwide := ((hread (s.pool.value ⟨0, {}⟩) .bits16).1 128).mpr ⟨hdenotes, by decide⟩
  have hnarrow := (hread (s.pool.value ⟨0, {}⟩) .bits8).2.1 <| by
    rintro ⟨n, hn, hin⟩
    rw [hn.unique hdenotes] at hin
    exact absurd hin (by decide)
  rw [htext] at hnarrow
  exact ⟨s, s', ⟨0, {}⟩, hk, htext, hwide, hnarrow, hexec, hafter .bits16, hafter .bits8⟩

end Session
end ConfigKeys
