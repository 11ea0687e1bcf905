import TopicAlerts.Binary64.Reading
import TopicAlerts.Metrics
import TopicAlerts.Text.Blank

/-!
# Looking up metrics

How the value of a series is found in a published text.
-/

namespace TopicAlerts.Metrics

/-- The lines of a text. A carriage return before the break of a line is no part of it. -/
def linesOf (text : List Char) : List (List Char) :=
  (Text.splitChars '\n' text).map fun line =>
    if line.getLast? = some '\r' then line.dropLast else line

/-- The value that a line gives for a series: what stands behind the name and a space. -/
def valueOn? (name line : List Char) : Option Reading :=
  if line.head? = some '#' then none
  else if line.takeWhile (· != ' ') = name then
    match line.drop name.length with
    | ' ' :: value => Reading.ofText? (Text.trimChars value)
    | _ => none
  else none

/-- The value of the first line that gives one for a series. -/
def lookup? (exposition name : String) : Option Reading :=
  (linesOf exposition.toList).findSome? (valueOn? name.toList)

end TopicAlerts.Metrics
