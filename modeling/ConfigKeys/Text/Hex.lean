/-!
# Hexadecimal digits

## Main definitions

* `Hex.value?`, `Hex.digit` — the value of a digit, and the digit of a value.
* `Hex.number?`, `Hex.ofNat` — numbers.
* `Hex.bytes?`, `Hex.ofBytes` — byte sequences, two digits a byte.
-/

namespace ConfigKeys.Hex

/-- The value of a hexadecimal digit in either case. -/
def value? (c : Char) : Option Nat :=
  if 48 ≤ c.toNat ∧ c.toNat ≤ 57 then some (c.toNat - 48)
  else if 97 ≤ c.toNat ∧ c.toNat ≤ 102 then some (c.toNat - 87)
  else if 65 ≤ c.toNat ∧ c.toNat ≤ 70 then some (c.toNat - 55)
  else none

/-- The lower-case digit of a value below sixteen. -/
def digit (n : Nat) : Char := if n < 10 then .ofNat (48 + n) else .ofNat (87 + n)

/-- The number that digits spell. -/
def number? (digits : List Char) : Option Nat :=
  (digits.mapM value?).map fun values => values.foldl (fun n d => 16 * n + d) 0

/-- The last `width` digits of a number. -/
def ofNat (width n : Nat) : List Char :=
  ((List.range width).map fun i => digit (n / Nat.pow 16 i % 16)).reverse

/-- The bytes that digits spell, two digits a byte; `acc` holds those before, the last one first. -/
def bytesFrom? (acc : List UInt8) : List Char → Option (List UInt8)
  | [] => some acc.reverse
  | [_] => none
  | a :: b :: rest =>
    match number? [a, b] with
    | some n => bytesFrom? (.ofNat n :: acc) rest
    | none => none

/-- The bytes that digits spell, two digits a byte. -/
def bytes? (digits : List Char) : Option (List UInt8) := bytesFrom? [] digits

/-- The digits of bytes, two digits a byte. -/
def ofBytes (bytes : List UInt8) : List Char := bytes.flatMap fun b => ofNat 2 b.toNat

end ConfigKeys.Hex
