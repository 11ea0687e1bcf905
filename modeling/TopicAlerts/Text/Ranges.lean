/-!
# Sets and maps of characters

Unicode properties are given as lists of ranges of code points, and case mappings as lists of runs:
a run holds every character, or every second one, of a range, and says how far each is from its
counterpart.
-/

namespace TopicAlerts.Text

/-- A set of characters: ranges of code points, both ends included. -/
abbrev Ranges := List (Nat × Nat)

/-- Whether the set holds a character. -/
def Ranges.holds (ranges : Ranges) (c : Char) : Bool :=
  ranges.any fun (low, high) => low ≤ c.toNat && c.toNat ≤ high

/-- Letters that are all equally far from their counterparts. -/
structure CaseRun where
  /-- The first letter. -/
  first : Nat
  /-- The last letter. -/
  last : Nat
  /-- How far each letter is from the next one. -/
  step : Nat
  /-- How far the counterpart of a letter is behind it. -/
  shift : Int

/-- The counterpart of a letter, if the run holds it. -/
def CaseRun.map? (run : CaseRun) (c : Char) : Option Char :=
  let n := c.toNat
  if run.first ≤ n ∧ n ≤ run.last ∧ (n - run.first) % run.step = 0 then
    some (Char.ofNat (n + run.shift).toNat)
  else none

end TopicAlerts.Text
