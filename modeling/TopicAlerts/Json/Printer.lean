import TopicAlerts.Json

/-!
# JSON texts

`compact` writes a value without white space, `pretty` with one member or item to a line. Inside a
string only the quotation mark, the backslash and the control characters below U+0020 are escaped.
-/

namespace TopicAlerts.Json

/-- A hexadecimal digit in lower case. -/
def hexDigit (n : Nat) : Char := Nat.digitChar (n % 16)

/-- How a character is written inside a string. -/
def escapeChar (c : Char) : List Char :=
  if c = '"' then ['\\', '"']
  else if c = '\\' then ['\\', '\\']
  else if c = '\n' then ['\\', 'n']
  else if c = '\r' then ['\\', 'r']
  else if c = '\t' then ['\\', 't']
  else if c = '\x08' then ['\\', 'b']
  else if c = '\x0c' then ['\\', 'f']
  else if c.toNat < 0x20 then ['\\', 'u', '0', '0', hexDigit (c.toNat / 16), hexDigit c.toNat]
  else [c]

/-- A string between its quotation marks. -/
def quoted (s : String) : List Char := '"' :: s.toList.flatMap escapeChar ++ ['"']

/-- The text of a number. -/
def Number.text : Number → String
  | .int n => toString n
  | .float x => (x.shortest .even).scientificText

mutual

/-- The characters of the compact text. -/
def compactChars : Json → List Char
  | .null => ['n', 'u', 'l', 'l']
  | .bool true => ['t', 'r', 'u', 'e']
  | .bool false => ['f', 'a', 'l', 's', 'e']
  | .num n => n.text.toList
  | .str s => quoted s
  | .arr items => '[' :: compactItems items ++ [']']
  | .obj members => '{' :: compactMembers members ++ ['}']

/-- The items, with commas between them. -/
def compactItems : List Json → List Char
  | [] => []
  | [item] => compactChars item
  | item :: rest => compactChars item ++ ',' :: compactItems rest

/-- The members, with commas between them. -/
def compactMembers : List (String × Json) → List Char
  | [] => []
  | [(key, value)] => quoted key ++ ':' :: compactChars value
  | (key, value) :: rest => quoted key ++ ':' :: compactChars value ++ ',' :: compactMembers rest

end

/-- The text without white space. -/
def compact (value : Json) : String := String.ofList (compactChars value)

/-- A line break and the indentation of the given depth, two spaces for each level. -/
def lineBreak (depth : Nat) : List Char := '\n' :: List.replicate (2 * depth) ' '

mutual

/-- The characters of the text with one item or member to a line, inside `depth` containers. -/
def prettyChars (depth : Nat) : Json → List Char
  | .arr (item :: rest) =>
    '[' :: prettyItems (depth + 1) (item :: rest) ++ lineBreak depth ++ [']']
  | .obj (first :: rest) =>
    '{' :: prettyMembers (depth + 1) (first :: rest) ++ lineBreak depth ++ ['}']
  | .arr [] => ['[', ']']
  | .obj [] => ['{', '}']
  | .null => ['n', 'u', 'l', 'l']
  | .bool true => ['t', 'r', 'u', 'e']
  | .bool false => ['f', 'a', 'l', 's', 'e']
  | .num n => n.text.toList
  | .str s => quoted s

/-- The items, each on a line of its own. -/
def prettyItems (depth : Nat) : List Json → List Char
  | [] => []
  | [item] => lineBreak depth ++ prettyChars depth item
  | item :: rest => lineBreak depth ++ prettyChars depth item ++ ',' :: prettyItems depth rest

/-- The members, each on a line of its own. -/
def prettyMembers (depth : Nat) : List (String × Json) → List Char
  | [] => []
  | [(key, value)] => lineBreak depth ++ quoted key ++ ':' :: ' ' :: prettyChars depth value
  | (key, value) :: rest =>
    lineBreak depth ++ quoted key ++ ':' :: ' ' :: prettyChars depth value
      ++ ',' :: prettyMembers depth rest

end

/-- The text with one item or member to a line. -/
def pretty (value : Json) : String := String.ofList (prettyChars 0 value)

end TopicAlerts.Json
