import TopicAlerts.Json.Token

/-!
# Documents

A document is a JSON text as a tree, with everything kept that a reader may object to: the order of
the members, keys that occur twice, numbers out of range, and the place where the text stops being
JSON. There the tree ends with `Document.broken`, and the containers around it are not closed.

So a reader that walks the tree in its order meets the faults of a text in the order in which they
stand there, whether they are faults of the text or of what the reader expected.

`Document.ofTokens` is a machine over the tokens, with the open containers on a stack.
-/

namespace TopicAlerts.Json

/-- A JSON text as a tree. -/
inductive Document
  /-- The literal `null`. -/
  | null
  /-- The literal `true` or `false`. -/
  | bool (b : Bool)
  /-- A number, if it is in range. -/
  | number (value : Option Number)
  /-- A string, if it is text. -/
  | string (value : Option String)
  /-- An array, and whether its end was reached. -/
  | array (items : List Document) (closed : Bool)
  /-- An object, and whether its end was reached. -/
  | object (members : List (Option String × Document)) (closed : Bool)
  /-- No value stands here. -/
  | broken
deriving Inhabited

/-- An open container, with what was read of it in reverse. -/
inductive Frame
  /-- An array with its items so far. -/
  | items (done : List Document)
  /-- An object with its members so far, and the key of the value that is being read. -/
  | members (done : List (Option String × Document)) (key : Option String)

/-- What may come next in a text. -/
inductive Expecting
  /-- A value. -/
  | value
  /-- A value, or the end of the array that was just opened. -/
  | firstItem
  /-- A key, or the end of the object that was just opened. -/
  | firstKey
  /-- A key of the object with these members in reverse. -/
  | key (done : List (Option String × Document))
  /-- The colon behind this key of the object with these members in reverse. -/
  | colon (done : List (Option String × Document)) (key : Option String)
  /-- A comma or the end of the innermost container, whose last value this is. -/
  | separator (last : Document)

/-- The document where a text ends inside open containers, the innermost first. -/
def unclosed : List Frame → Document → Document
  | [], value => value
  | .items done :: frames, value => unclosed frames (.array (value :: done).reverse false)
  | .members done key :: frames, value =>
    unclosed frames (.object ((key, value) :: done).reverse false)

/-- The document of a text that stops being JSON here. -/
def stopped (frames : List Frame) : Expecting → Document
  | .value => unclosed frames .broken
  | .firstItem => unclosed frames (.array [] false)
  | .firstKey => unclosed frames (.object [] false)
  | .key done => unclosed frames (.object done.reverse false)
  | .colon done key => unclosed frames (.object ((key, .broken) :: done).reverse false)
  | .separator last => match frames with
    | [] => last
    | .items done :: frames => unclosed frames (.array (last :: done).reverse false)
    | .members done key :: frames =>
      unclosed frames (.object ((key, last) :: done).reverse false)

/-- What comes after a token that fits, and the containers that are open then. -/
def advance (frames : List Frame) : Expecting → Token → Option (List Frame × Expecting)
  | .firstItem, .closeArray => some (frames, .separator (.array [] true))
  | .firstKey, .closeObject => some (frames, .separator (.object [] true))
  | .firstKey, .string key => some (frames, .colon [] key)
  | .key done, .string key => some (frames, .colon done key)
  | .colon done key, .colon => some (.members done key :: frames, .value)
  | .separator last, .comma => match frames with
    | .items done :: frames => some (.items (last :: done) :: frames, .value)
    | .members done key :: frames => some (frames, .key ((key, last) :: done))
    | [] => none
  | .separator last, .closeArray => match frames with
    | .items done :: frames => some (frames, .separator (.array (last :: done).reverse true))
    | _ => none
  | .separator last, .closeObject => match frames with
    | .members done key :: frames =>
      some (frames, .separator (.object ((key, last) :: done).reverse true))
    | _ => none
  | .value, token => startValue frames token
  | .firstItem, token => startValue (.items [] :: frames) token
  | _, _ => none
where
  /-- What comes after the token that starts a value. -/
  startValue (frames : List Frame) : Token → Option (List Frame × Expecting)
    | .null => some (frames, .separator .null)
    | .bool b => some (frames, .separator (.bool b))
    | .number value => some (frames, .separator (.number value))
    | .string value => some (frames, .separator (.string value))
    | .openArray => some (frames, .firstItem)
    | .openObject => some (frames, .firstKey)
    | _ => none

/-- Run over the tokens up to the end of the outermost value, or to the first that does not fit.
The second part tells whether the text goes on behind the outermost value. -/
def build (frames : List Frame) (expecting : Expecting) : List Token → Document × Bool
  | [] => (stopped frames expecting, false)
  | token :: rest =>
    match frames, expecting with
    | [], .separator last => (last, true)
    | frames, expecting =>
      match advance frames expecting token with
      | some (frames, expecting) => build frames expecting rest
      | none => (stopped frames expecting, false)

namespace Document

/-- The document of a text, and whether the text goes on behind its value. -/
def ofTokens (tokens : List Token) : Document × Bool := build [] .value tokens

/-- The document of a text, and whether the text goes on behind its value. -/
def ofText (text : List TextUnit) : Document × Bool := ofTokens (tokens text)

mutual

/-- Whether the text of this value is complete. -/
def isWhole : Document → Bool
  | .array items closed => closed && areWhole items
  | .object members closed => closed && haveWhole members
  | .broken => false
  | _ => true

/-- Whether the texts of all these values are complete. -/
def areWhole : List Document → Bool
  | [] => true
  | item :: rest => isWhole item && areWhole rest

/-- Whether the texts of the values of all these members are complete. -/
def haveWhole : List (Option String × Document) → Bool
  | [] => true
  | (_, value) :: rest => isWhole value && haveWhole rest

end

end Document

end TopicAlerts.Json
