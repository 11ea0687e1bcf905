import TopicAlerts.Text.Blank
import TopicAlerts.Text.Split

/-!
# Topics

A topic is a name made of tokens joined by points. Every token has at least one character, and none
of them is blank or a wildcard.
-/

namespace TopicAlerts.Topic

/-- Whether a character may stand in a topic. -/
def allows (c : Char) : Bool := !(Text.isBlank c || c == '*' || c == '>')

/-- Whether a text is a topic. -/
def isValid (topic : String) : Bool :=
  topic.toList.all allows && (Text.splitChars '.' topic.toList).all (!·.isEmpty)

end TopicAlerts.Topic
