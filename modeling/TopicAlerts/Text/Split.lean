/-!
# Parts of texts

`split` cuts a text at every occurrence of a separator. There is one part more than there are
separators, and parts may be empty.
-/

namespace TopicAlerts.Text

/-- The parts of a text between the separators. -/
def splitChars (separator : Char) : List Char → List (List Char)
  | [] => [[]]
  | c :: rest =>
    if c = separator then [] :: splitChars separator rest
    else match splitChars separator rest with
      | [] => [[c]]
      | part :: parts => (c :: part) :: parts

/-- The parts of a text between the separators. -/
def split (separator : Char) (text : String) : List String :=
  (splitChars separator text.toList).map String.ofList

/-- The texts with a separator between any two of them. -/
def join (separator : String) (texts : List String) : String := separator.intercalate texts

end TopicAlerts.Text
