/-!
# Powers

## Main definitions

* `twoTo`, `tenTo` — the powers of the two bases that numbers are written in.
-/

namespace ConfigKeys

/-- The powers of two. -/
def twoTo (n : Nat) : Nat := Nat.pow 2 n

/-- The powers of ten. -/
def tenTo (n : Nat) : Nat := Nat.pow 10 n

end ConfigKeys
