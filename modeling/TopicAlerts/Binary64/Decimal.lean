import TopicAlerts.Binary64

/-!
# Decimal texts of doubles

`Decimal` is a decimal number as digits and a power of ten. `Binary64.shortest` gives the decimal
with the fewest digits that is read back as the same double, and of those the nearest to it;
`Decimal.toBinary64?` reads a decimal as the nearest double.

How the digits are laid out is a matter of the text that they stand in: `scientificText` is the
layout of JSON texts, `positionalText` that of reports for people.
-/

namespace TopicAlerts

/-- The decimal number `digits · 10 ^ exponent` with a sign. -/
structure Decimal where
  /-- Whether the sign is minus. -/
  negative : Bool
  /-- The digits, as one natural number. -/
  digits : Nat
  /-- The power of ten. -/
  exponent : Int
deriving DecidableEq, Repr

/-- How many decimal digits a natural number is written with. -/
def digitCount (n : Nat) : Nat := (Nat.toDigits 10 n).length

namespace Decimal

/-- The nearest double, or `none` if that is infinite. A number with its first digit more than 310
places before the point is infinite, and one with its first digit more than 330 places behind it is
zero, so no great power of ten is ever formed for these. -/
def toBinary64? (d : Decimal) : Option Binary64 :=
  let first := digitCount d.digits + d.exponent
  if d.digits = 0 ∨ first < -330 then some (Binary64.zero d.negative)
  else if 310 < first then none
  else if d.exponent < 0 then
    Binary64.ofRatio? d.negative d.digits (Nat.pow 10 d.exponent.natAbs)
  else
    Binary64.ofRatio? d.negative (d.digits * Nat.pow 10 d.exponent.toNat) 1

end Decimal

/-- Which of two equally near decimals is taken. -/
inductive Tie
  /-- The one with the even last digit. -/
  | even
  /-- The one farther from zero. -/
  | away
deriving DecidableEq, Repr

namespace Binary64

/-- The fixed-point scale of the search for short decimals: every grid that it looks at is a
multiple of `10 ^ -gridPlaces`. -/
def gridPlaces : Nat := 400

/-- Whether the decimal `candidate · 10 ^ (place - gridPlaces)` is read as the double of this
magnitude: it lies between the midpoints to the two neighbours, and may be a midpoint if the
magnitude is even. -/
def readsAs (magnitude candidate place : Nat) : Bool :=
  let point := 2 * candidate * Nat.pow 10 place * unitsOfOne
  let low := (unitsOf (magnitude - 1) + unitsOf magnitude) * Nat.pow 10 gridPlaces
  let high := (unitsOf magnitude + unitsOf (magnitude + 1)) * Nat.pow 10 gridPlaces
  if magnitude % 2 = 0 then low ≤ point && point ≤ high else low < point && point < high

/-- The point of the grid of width `10 ^ (place - gridPlaces)` that is read as the double of this
magnitude and is nearest to it, if there is one. -/
def gridPoint? (tie : Tie) (magnitude place : Nat) : Option Nat :=
  let value := unitsOf magnitude * Nat.pow 10 gridPlaces
  let width := Nat.pow 10 place * unitsOfOne
  let below := value / width
  let twice := 2 * (value % width)
  let nearer :=
    if twice < width then below
    else if width < twice then below + 1
    else match tie with
      | .even => below + below % 2
      | .away => below + 1
  let farther := if nearer = below then below + 1 else below
  if readsAs magnitude nearer place then some nearer
  else if readsAs magnitude farther place then some farther
  else none

/-- The first grid with a point that is read as the double of this magnitude, `fuel` grids from the
one of width `10 ^ (place - gridPlaces)` down. -/
def firstGrid (tie : Tie) (magnitude : Nat) : (fuel place : Nat) → Nat × Nat
  | 0, place => (unitsOf magnitude * Nat.pow 10 gridPlaces / (Nat.pow 10 place * unitsOfOne), place)
  | fuel + 1, place =>
    match gridPoint? tie magnitude place with
    | some point => (point, place)
    | none => firstGrid tie magnitude fuel (place - 1)

/-- The decimal of the fewest digits that is read as `x`, and of those the nearest to `x`. The
search starts with one digit; seventeen always suffice. -/
def shortest (tie : Tie) (x : Binary64) : Decimal :=
  if x.magnitude = 0 then ⟨x.negative, 0, 0⟩
  else
    let places := digitCount (x.units * Nat.pow 10 gridPlaces / unitsOfOne)
    let (digits, place) := firstGrid tie x.magnitude 17 (places - 1)
    ⟨x.negative, digits, (place : Int) - gridPlaces⟩

end Binary64

namespace Decimal

/-- The digits without zeros at their end, and the exponent that goes with them. -/
def trimmed (d : Decimal) : List Char × Int :=
  let digits := Nat.toDigits 10 d.digits
  let zeros := (digits.reverse.takeWhile (· == '0')).length
  (digits.take (digits.length - zeros), d.exponent + zeros)

/-- The sign as it is written. -/
def signText (d : Decimal) : List Char := if d.negative then ['-'] else []

/-- Digits with the point standing `point` places after the first of them; the integer part is
never empty, the fraction is empty when all digits stand before the point. -/
def positional (digits : List Char) (point : Int) : List Char × List Char :=
  if point ≤ 0 then (['0'], List.replicate point.natAbs '0' ++ digits)
  else
    let whole := point.toNat
    (digits.take whole ++ List.replicate (whole - digits.length) '0', digits.drop whole)

/-- The layout of JSON texts: positional from `10⁻⁵` up to below `10¹⁶`, always with a fraction,
and otherwise one digit before the point and a signed exponent. -/
def scientificText (d : Decimal) : String :=
  if d.digits = 0 then String.ofList (d.signText ++ ['0', '.', '0'])
  else
    let (digits, exponent) := d.trimmed
    let point := digits.length + exponent
    if -5 < point ∧ point ≤ 16 then
      let (whole, fraction) := positional digits point
      let fraction := if fraction.isEmpty then ['0'] else fraction
      String.ofList (d.signText ++ whole ++ '.' :: fraction)
    else
      let mantissa := digits.take 1 ++ if digits.length = 1 then [] else '.' :: digits.drop 1
      let power := point - 1
      let mark := if power < 0 then ['e', '-'] else ['e', '+']
      String.ofList (d.signText ++ mantissa ++ mark ++ Nat.toDigits 10 power.natAbs)

/-- The layout of reports: always positional, with a fraction only where there is one. -/
def positionalText (d : Decimal) : String :=
  if d.digits = 0 then String.ofList (d.signText ++ ['0'])
  else
    let (digits, exponent) := d.trimmed
    let (whole, fraction) := positional digits (digits.length + exponent)
    let fraction := if fraction.isEmpty then [] else '.' :: fraction
    String.ofList (d.signText ++ whole ++ fraction)

end Decimal

end TopicAlerts
