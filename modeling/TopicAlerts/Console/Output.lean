import TopicAlerts.Text.Case

/-!
# Output of the console

What a command prints, on the channel for results and on the one for errors.
-/

namespace TopicAlerts.Console

/-- What is printed on the two channels. -/
structure Output where
  /-- Results. -/
  results : String := ""
  /-- Errors. -/
  errors : String := ""
deriving DecidableEq, Repr, Inhabited

namespace Output

/-- No output. -/
def none : Output := {}

/-- One output behind the other. -/
def append (a b : Output) : Output := ⟨a.results ++ b.results, a.errors ++ b.errors⟩

instance : Append Output := ⟨append⟩

/-- Several outputs, one behind the other. -/
def concat (parts : List Output) : Output := parts.foldl append none

/-- A line among the results. -/
def line (text : String) : Output := { results := text ++ "\n" }

/-- Lines among the results, each with the break at its end. -/
def lines (text : String) : Output := { results := text }

/-- The place that a label takes, with its colon. -/
def labelWidth : Nat := 16

/-- A text that takes at least a number of characters. -/
def padded (count : Nat) (text : String) : String :=
  text ++ String.ofList (List.replicate (count - text.length) ' ')

/-- Whether something succeeded, and what it was. Failures go among the errors. -/
def report (ok : Bool) (message : String) : Output :=
  if ok then { results := "✓ " ++ message ++ "\n" } else { errors := "✗ " ++ message ++ "\n" }

/-- A heading with a line below it, which is as long as the title as it was given. -/
def heading (title : String) : Output :=
  line "" ++ line ("▸ " ++ Text.upper title)
    ++ line (String.ofList (List.replicate (title.length + 2) '═'))

/-- A label with a value. -/
def field (label value : String) : Output :=
  line ("  " ++ padded labelWidth (label ++ ":") ++ " " ++ value)

/-- A label with one of two values. -/
def choice (label : String) (holds : Bool) (yes no : String) : Output :=
  field label (if holds then yes else no)

/-- A remark. -/
def remark (text : String) : Output := line ("  " ++ text)

end Output

end TopicAlerts.Console
