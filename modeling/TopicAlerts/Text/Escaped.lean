import TopicAlerts.Text.Printable

/-!
# Texts in messages

`escaped` shows a text between quotation marks on one line: control characters, characters that
cannot be shown and characters that would be drawn on the one before them are written as escapes.
-/

namespace TopicAlerts.Text

/-- How a character is shown. -/
def escapedChar (c : Char) : List Char :=
  if c = '\x00' then ['\\', '0']
  else if c = '\t' then ['\\', 't']
  else if c = '\r' then ['\\', 'r']
  else if c = '\n' then ['\\', 'n']
  else if c = '"' then ['\\', '"']
  else if c = '\\' then ['\\', '\\']
  else if isExtending c || !isPrintable c then
    ['\\', 'u', '{'] ++ Nat.toDigits 16 c.toNat ++ ['}']
  else [c]

/-- A text between quotation marks, with escapes. -/
def escaped (text : String) : String :=
  String.ofList ('"' :: text.toList.flatMap escapedChar ++ ['"'])

end TopicAlerts.Text
