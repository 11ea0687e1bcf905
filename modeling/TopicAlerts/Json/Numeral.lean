import TopicAlerts.Json

/-!
# Numbers in JSON texts

`Numeral` is what a JSON text writes for a number: a sign, the digits before the point, perhaps
digits behind it, perhaps an exponent. `Numeral.value?` is the number it stands for.

Without fraction and exponent that is an integer as long as it fits a signed or an unsigned 64-bit
word. Everything else is a double, read in two roundings: a significand of at most 64 bits is
collected and rounded, and the result is multiplied or divided by a power of ten, itself a double.
-/

namespace TopicAlerts.Json

/-- The exponent of a number in a text. -/
structure Numeral.Exponent where
  /-- Whether it is written with a minus sign. -/
  negative : Bool
  /-- Its digits. -/
  digits : List Char

/-- A number as it is written in a text. -/
structure Numeral where
  /-- Whether it starts with a minus sign. -/
  negative : Bool
  /-- The digits before the point. -/
  whole : List Char
  /-- The digits behind the point, if there is one. -/
  fraction : Option (List Char)
  /-- The exponent, if there is one. -/
  exponent : Option Numeral.Exponent

/-- The natural number that digits stand for. -/
def ofDigits (digits : List Char) : Nat :=
  digits.foldl (fun n c => 10 * n + (c.toNat - '0'.toNat)) 0

/-- The greatest significand. -/
def significandLimit : Nat := UInt64.size - 1

/-- Exponents are limited to a signed 32-bit word. -/
def exponentLimit : Nat := Nat.pow 2 31 - 1

/-- The leading digits that a significand has room for, after `significand`, and how many digits
are left over. -/
def collect (significand : Nat) : List Char → Nat × Nat
  | [] => (significand, 0)
  | c :: rest =>
    let next := 10 * significand + (c.toNat - '0'.toNat)
    if significandLimit < next then (significand, rest.length + 1) else collect next rest

/-- The double nearest to a power of ten. -/
def powerOfTen (n : Nat) : Binary64 := (Decimal.toBinary64? ⟨false, 1, n⟩).getD Binary64.greatest

/-- The double nearest to the product of two doubles. -/
def times? (x y : Binary64) : Option Binary64 :=
  Binary64.ofRatio? x.negative (x.units * y.units) (Binary64.unitsOfOne * Binary64.unitsOfOne)

/-- The double nearest to the quotient of two doubles. -/
def over? (x y : Binary64) : Option Binary64 := Binary64.ofRatio? x.negative x.units y.units

/-- The double `x · 10 ^ exponent`, or `none` where it is infinite. Exponents below `-308` take
several divisions; a double is zero after three of them. -/
def scaled? (fuel : Nat) (x : Binary64) (exponent : Int) : Option Binary64 :=
  if exponent.natAbs ≤ 308 then
    if 0 ≤ exponent then times? x (powerOfTen exponent.natAbs)
    else over? x (powerOfTen exponent.natAbs)
  else if x.magnitude = 0 then some x
  else if 0 ≤ exponent then none
  else match fuel with
    | 0 => some x
    | fuel + 1 => (over? x (powerOfTen 308)).bind fun y => scaled? fuel y (exponent + 308)

/-- Keep an exponent inside the signed 32-bit words. -/
def clampExponent (exponent : Int) : Int :=
  max (-2147483648) (min exponent exponentLimit)

namespace Numeral

/-- The number as a double. `none` stands for a number out of range. -/
def toBinary64? (n : Numeral) : Option Binary64 :=
  let (first, wholeLeft) := collect 0 n.whole
  let fraction := n.fraction.getD []
  let (significand, fractionLeft) := collect first fraction
  let base : Int := (wholeLeft : Int) - (fraction.length - fractionLeft : Nat)
  let start := { Binary64.ofNat significand with negative := n.negative }
  match n.exponent with
  | none => scaled? 4 start base
  | some e =>
    if exponentLimit < ofDigits e.digits then
      if significand ≠ 0 ∧ !e.negative then none else some (Binary64.zero n.negative)
    else
      let power : Int := if e.negative then -(ofDigits e.digits : Int) else ofDigits e.digits
      scaled? 4 start (clampExponent (base + power))

/-- The number that a numeral stands for, or `none` if it is out of range. -/
def value? (n : Numeral) : Option Number :=
  match n.fraction, n.exponent with
  | none, none =>
    let whole := ofDigits n.whole
    if n.negative then
      if 0 < whole ∧ whole ≤ Nat.pow 2 63 then some (.int (-(whole : Int)))
      else n.toBinary64?.map .float
    else if whole < UInt64.size then some (.int whole)
    else n.toBinary64?.map .float
  | _, _ => n.toBinary64?.map .float

end Numeral

end TopicAlerts.Json
