import TopicAlerts.Binary64.Reading
import TopicAlerts.Json.Reader
import TopicAlerts.Text.Blank

/-!
# Messages

A message is a JSON value. Its raw text may be a JSON object or array; any other text is a scalar:
a number, a truth value, or the text itself. A path of member names joined by points leads to a
value inside the message.

`valuesEqual` is the equality that rules use: values of one scalar type are equal as such, and
other values are equal if their texts are.
-/

namespace TopicAlerts

/-- A message that came in on a topic. -/
structure Message where
  /-- The value that it holds. -/
  root : Json

namespace Message

/-- The integer that a text says, if a signed 64-bit word can hold it. -/
def integer? (text : List Char) : Option Int :=
  let (negative, digits) := Reading.sign text
  if digits.isEmpty || !digits.all Char.isDigit then none
  else
    let n : Int := Reading.naturalOf digits
    let n := if negative then -n else n
    if -(Nat.pow 2 63 : Int) ≤ n ∧ n < Nat.pow 2 63 then some n else none

/-- The number that a text says: with a point a double, and otherwise an integer. -/
def number? (text : List Char) : Option Json.Number :=
  if text.contains '.' then
    ((Reading.ofText? text).bind Reading.finite?).map .float
  else (integer? text).map .int

/-- The value of a text that is neither a JSON object nor a JSON array. -/
def scalar (text : String) : Json :=
  match number? text.toList with
  | some n => .num n
  | none =>
    let word := text.toList.map Char.toLower
    if word = ['t', 'r', 'u', 'e'] then .bool true
    else if word = ['f', 'a', 'l', 's', 'e'] then .bool false
    else .str text

/-- The message of a raw text; blank characters around it do not count. -/
def parse (raw : String) : Message :=
  let text := Text.trim raw
  if text.isEmpty then ⟨.null⟩
  else match Json.parse? text with
    | some (.obj members) => ⟨.obj members⟩
    | some (.arr items) => ⟨.arr items⟩
    | _ => ⟨scalar text⟩

/-- Whether the message is an object or an array. -/
def isStructured (message : Message) : Bool :=
  match message.root with
  | .obj _ | .arr _ => true
  | _ => false

/-- The value that a path leads to, member by member. -/
def follow (value : Json) (path : List String) : Option Json := path.foldlM Json.field? value

/-- The value that a rule's field means: the whole message if there is no field. -/
def resolve (message : Message) : Option String → Option Json
  | none => some message.root
  | some path => if path.isEmpty then none else follow message.root (Text.split '.' path)

end Message

namespace Json

/-- The value of a number as a double. -/
def number? : Json → Option Binary64
  | .num n => some n.toBinary64
  | _ => none

/-- The text of a value: a string as it is, anything else as compact JSON. -/
def text : Json → String
  | .str s => s
  | value => value.compact

/-- The equality of rules. -/
def valuesEqual : Json → Json → Bool
  | .num a, .num b => a.toBinary64.eq b.toBinary64
  | .str a, .str b => a == b
  | .bool a, .bool b => a == b
  | .null, .null => true
  | a, b => a.text == b.text

end Json

end TopicAlerts
