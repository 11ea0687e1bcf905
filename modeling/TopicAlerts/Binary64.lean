/-!
# Binary64

Finite double-precision numbers, held as a sign and a magnitude. The magnitude counts the
non-negative finite doubles in increasing order: `0` is zero, `1` the least positive double, and so
on up to the greatest finite one. So the order of two doubles is the order of two integers, `key`,
in which both zeros have the same place.

All arithmetic is exact: a double stands for `units · 2⁻¹⁰⁷⁴`, and `roundRatio` finds the double
nearest to a quotient of two natural numbers.
-/

namespace TopicAlerts

/-- How many non-negative finite doubles there are. -/
def Binary64.magnitudes : Nat := 2047 * Nat.pow 2 52

/-- A finite double-precision number. -/
structure Binary64 where
  /-- Whether the sign is minus; zero has both signs. -/
  negative : Bool
  /-- The place of the absolute value among the non-negative finite doubles. -/
  magnitude : Nat
  /-- The magnitude is that of a finite double. -/
  finite : magnitude < Binary64.magnitudes
deriving DecidableEq

/-- The natural number nearest to `num / den`; a tie goes to the even neighbour. -/
def roundHalfEven (num den : Nat) : Nat :=
  let quotient := num / den
  let twice := 2 * (num % den)
  if twice < den then quotient
  else if den < twice then quotient + 1
  else quotient + quotient % 2

namespace Binary64

/-- The number of the least positive doubles that make up one: doubles are multiples of its
inverse. -/
def unitsOfOne : Nat := Nat.pow 2 1074

/-- The absolute value of the double of the given magnitude, counted in least positive doubles. -/
def unitsOf (magnitude : Nat) : Nat :=
  if magnitude < Nat.pow 2 53 then magnitude
  else (Nat.pow 2 52 + magnitude % Nat.pow 2 52) * Nat.pow 2 (magnitude / Nat.pow 2 52 - 1)

/-- The absolute value, counted in least positive doubles. -/
def units (x : Binary64) : Nat := unitsOf x.magnitude

/-- The magnitude of the double nearest to `num / den`, a tie going to the even magnitude. It may
lie past the finite ones. -/
def roundRatio (num den : Nat) : Nat :=
  let scale := Nat.log2 (num * unitsOfOne / den) - 52
  scale * Nat.pow 2 52 + roundHalfEven (num * unitsOfOne) (den * Nat.pow 2 scale)

/-- The double with the given sign and magnitude, if it is finite. -/
def ofMagnitude? (negative : Bool) (magnitude : Nat) : Option Binary64 :=
  if h : magnitude < magnitudes then some ⟨negative, magnitude, h⟩ else none

/-- The double nearest to `num / den` with the given sign, unless that is infinite. -/
def ofRatio? (negative : Bool) (num den : Nat) : Option Binary64 :=
  ofMagnitude? negative (roundRatio num den)

/-- Zero with the given sign. -/
def zero (negative : Bool) : Binary64 := ⟨negative, 0, by decide⟩

/-- The greatest finite double. -/
def greatest : Binary64 := ⟨false, magnitudes - 1, by decide⟩

/-- The double nearest to a natural number; numbers past the finite doubles give the greatest. -/
def ofNat (n : Nat) : Binary64 := (ofRatio? false n 1).getD greatest

/-- The same number with the other sign. -/
def neg (x : Binary64) : Binary64 := ⟨!x.negative, x.magnitude, x.finite⟩

/-- The double nearest to an integer. -/
def ofInt : Int → Binary64
  | .ofNat n => ofNat n
  | .negSucc n => (ofNat (n + 1)).neg

/-- The place in the numeric order, in which both zeros are at `0`. -/
def key (x : Binary64) : Int := if x.negative then -(x.magnitude : Int) else x.magnitude

/-- Numeric equality: both zeros are equal. -/
def eq (x y : Binary64) : Bool := x.key == y.key

/-- The numeric order. -/
def lt (x y : Binary64) : Bool := decide (x.key < y.key)

/-- The numeric order, or equal. -/
def le (x y : Binary64) : Bool := decide (x.key ≤ y.key)

end Binary64

end TopicAlerts
