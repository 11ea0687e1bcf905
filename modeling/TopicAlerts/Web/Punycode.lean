/-!
# Host names in ASCII

A label of a host name with characters beyond ASCII is written with the prefix `xn--`: its ASCII
characters, and behind a dash what tells which other characters stand at which places. They are
taken in the order of their codes; the distances between them are numbers of base 36, whose digits
have thresholds that adapt to the distances before.
-/

namespace TopicAlerts.Web.Punycode

/-- The character of a digit of base 36. -/
def digit (n : Nat) : Char := if n < 26 then Char.ofNat (97 + n) else Char.ofNat (22 + n)

/-- The threshold of the digit at a place, which is a multiple of 36. -/
def threshold (place bias : Nat) : Nat := max 1 (min 26 (place - bias))

/-- The digits of a number, the first of which stands at a place. The number gets smaller with each
of them, so it is fuel enough itself. -/
def digitsWithin (bias : Nat) : (fuel place n : Nat) → List Char
  | 0, _, n => [digit n]
  | fuel + 1, place, n =>
    let t := threshold place bias
    if n < t then [digit n]
    else digit (t + (n - t) % (36 - t)) :: digitsWithin bias fuel (place + 36) ((n - t) / (36 - t))

/-- Divide a distance by 35 until it is small, and count 36 for each time. -/
def reduce : (fuel distance : Nat) → Nat × Nat
  | 0, distance => (distance, 0)
  | fuel + 1, distance =>
    if distance ≤ 455 then (distance, 0)
    else
      let (small, count) := reduce fuel (distance / 35)
      (small, count + 36)

/-- The bias behind a distance, when `done` characters are written. -/
def adapt (distance done : Nat) (isFirst : Bool) : Nat :=
  let halved := if isFirst then distance / 700 else distance / 2
  let spread := halved + halved / done
  let (small, count) := reduce spread spread
  count + 36 * small / (small + 38)

/-- A label of which some characters are written. -/
structure Progress where
  /-- What is written. -/
  written : List Char
  /-- The distance since the last character. -/
  distance : Nat
  /-- The bias of the next distance. -/
  bias : Nat
  /-- How many characters of the label are written. -/
  done : Nat

/-- Look at a character of a label while those with a code are written. -/
def Progress.pass (basic code : Nat) (progress : Progress) (c : Char) : Progress :=
  if c.toNat < code then { progress with distance := progress.distance + 1 }
  else if c.toNat = code then
    { written := progress.written
        ++ digitsWithin progress.bias progress.distance 36 progress.distance
      distance := 0
      bias := adapt progress.distance (progress.done + 1) (progress.done == basic)
      done := progress.done + 1 }
  else progress

/-- Write the characters of a label with these codes, which are in order; those below `code` are
written. -/
def writeCodes (label : List Char) (basic : Nat) :
    (codes : List Nat) → (code : Nat) → Progress → List Char
  | [], _, progress => progress.written
  | next :: rest, code, progress =>
    let skipped := { progress with
      distance := progress.distance + (next - code) * (progress.done + 1) }
    let passed := label.foldl (Progress.pass basic next) skipped
    writeCodes label basic rest (next + 1) { passed with distance := passed.distance + 1 }

/-- A label in ASCII. -/
def encode (label : List Char) : List Char :=
  let basic := label.filter fun c => c.toNat < 128
  if basic.length = label.length then label
  else
    let others := (label.filter fun c => 128 ≤ c.toNat).map Char.toNat
    let codes := others.eraseDups.mergeSort
    let start := if basic.isEmpty then [] else basic ++ ['-']
    "xn--".toList ++ start ++ writeCodes label basic.length codes 128 ⟨[], 0, 72, basic.length⟩

end TopicAlerts.Web.Punycode
