/-!
# Sorted lists

Insertion sort, and the texts of a list as a set: each once, in the order of their characters.
-/

namespace TopicAlerts

/-- Put a value at its place in a sorted list, behind those that it is not less than. -/
def insertBy {α : Type} (less : α → α → Bool) (a : α) : List α → List α
  | [] => [a]
  | b :: rest => if less a b then a :: b :: rest else b :: insertBy less a rest

/-- Sort a list; equal values keep their order. -/
def sortBy {α : Type} (less : α → α → Bool) (values : List α) : List α :=
  values.foldl (fun sorted a => insertBy less a sorted) []

/-- Sort texts by their characters. -/
def sortTexts (texts : List String) : List String := sortBy (fun a b => decide (a < b)) texts

/-- The distinct texts of a list in order. -/
def textSet (texts : List String) : List String := sortTexts texts.eraseDups

end TopicAlerts
