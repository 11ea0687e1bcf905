/-!
# Places in YAML texts

`Cursor` is a place in a text: what follows, and the line, the column and the offset of the place.
Before a text is cut into tokens all its line breaks become single characters; a text with a
character that YAML does not admit has no such form.
-/

namespace TopicAlerts.Yaml

/-- Whether a character may occur in a text. -/
def isAdmitted (c : Char) : Bool :=
  let n := c.toNat
  n == 0x09 || n == 0x0A || n == 0x0D || (0x20 ≤ n && n ≤ 0x7E) || n == 0x85
    || (0xA0 ≤ n && n ≤ 0xD7FF) || (0xE000 ≤ n && n ≤ 0xFFFD) || 0x10000 ≤ n

/-- Whether a character ends a line. -/
def isBreak (c : Char) : Bool := c == '\n' || c == '\u2028' || c == '\u2029'

/-- Whether a character separates words on a line. -/
def isSpace (c : Char) : Bool := c == ' ' || c == '\t'

/-- Whether a character separates words or lines. -/
def isGap (c : Char) : Bool := isSpace c || isBreak c

/-- A text in which carriage returns, and carriage returns with the line feed behind them, and next
line characters have become line feeds. -/
def singleBreaks : List Char → List Char
  | [] => []
  | '\r' :: '\n' :: rest => '\n' :: singleBreaks rest
  | c :: rest => (if c = '\r' ∨ c = '\u0085' then '\n' else c) :: singleBreaks rest

/-- Whether the text is at its end, or goes on with a gap. -/
def atGap : List Char → Bool
  | [] => true
  | c :: _ => isGap c

/-- Whether the text goes on with three dashes or three points that stand alone. -/
def atMarker : List Char → Bool
  | a :: b :: c :: rest =>
    ((a == '-' && b == '-' && c == '-') || (a == '.' && b == '.' && c == '.')) && atGap rest
  | _ => false

/-- A place in a text. -/
structure Cursor where
  /-- What follows. -/
  rest : List Char
  /-- How many lines are behind. -/
  line : Nat
  /-- How many characters of the line are behind. -/
  column : Nat
  /-- How many characters are behind. -/
  offset : Nat

namespace Cursor

/-- The start of a text. -/
def start (text : List Char) : Cursor := ⟨text, 0, 0, 0⟩

/-- The place behind the next character. -/
def next (cursor : Cursor) : Cursor :=
  match cursor.rest with
  | [] => cursor
  | c :: rest =>
    if isBreak c then ⟨rest, cursor.line + 1, 0, cursor.offset + 1⟩
    else ⟨rest, cursor.line, cursor.column + 1, cursor.offset + 1⟩

/-- The place some characters further on. -/
def skip : Nat → Cursor → Cursor
  | 0, cursor => cursor
  | n + 1, cursor => skip n cursor.next

/-- The characters from here on that have a property, and the place behind them. -/
def span (cursor : Cursor) (p : Char → Bool) : List Char × Cursor :=
  let taken := cursor.rest.takeWhile p
  (taken, cursor.skip taken.length)

/-- Whether the next character is this one. -/
def sees (cursor : Cursor) (c : Char) : Bool := cursor.rest.head? == some c

/-- Whether a line starts here with three dashes or three points that stand alone. -/
def atMarker (cursor : Cursor) : Bool := cursor.column == 0 && Yaml.atMarker cursor.rest

end Cursor

end TopicAlerts.Yaml
