import TopicAlerts.Yaml.Token

/-!
# YAML documents

`Node` is a document, or a part of one: a scalar, a sequence, or a mapping. `Node.ofText?` reads
the one document of a text. What stands nowhere, such as the value of a key at the end of its line,
is an empty scalar.
-/

namespace TopicAlerts.Yaml

/-- A part of a document. -/
inductive Node
  /-- A scalar: whether it is written plainly, and its text. -/
  | scalar (isPlain : Bool) (text : String)
  /-- A sequence. -/
  | sequence (items : List Node)
  /-- A mapping, in the order in which it is written. -/
  | mapping (entries : List (Node × Node))

namespace Node

/-- What stands nowhere. -/
def empty : Node := .scalar true ""

/-- Where a node stands; this decides which tokens it may start with, and which ones behind a key,
a dash or a comma tell that there is no node. -/
inductive Place
  /-- At the root, or behind a dash. -/
  | entry
  /-- Behind a dash at the column of the keys around it. -/
  | plainEntry
  /-- Behind the key or the colon of a block mapping. -/
  | keyed
  /-- In a flow collection. -/
  | flow
deriving DecidableEq

/-- Whether a node behind the first token of an entry is missing if this token comes next. -/
def isMissing (place : Place) : Token → Bool
  | .dash => place == .entry || place == .plainEntry
  | .key => place == .plainEntry || place == .keyed
  | .value => place == .plainEntry || place == .keyed || place == .flow
  | .blockEnd => place != .flow
  | .comma | .flowSequenceEnd | .flowMappingEnd => place == .flow
  | _ => false

mutual

/-- The node that the tokens start with. -/
def node? (place : Place) : (fuel : Nat) → List Token → Option (Node × List Token)
  | 0, _ => none
  | _ + 1, .scalar s :: rest => some (.scalar s.isPlain (String.ofList s.text), rest)
  | fuel + 1, .flowSequence :: rest => do
    let (items, rest) ← flowItems? true fuel rest
    return (.sequence items, rest)
  | fuel + 1, .flowMapping :: rest => do
    let (entries, rest) ← flowEntries? true fuel rest
    return (.mapping entries, rest)
  | fuel + 1, .blockSequence :: rest => do
    if place = .flow then none
    let (items, rest) ← blockItems? fuel rest
    return (.sequence items, rest)
  | fuel + 1, .blockMapping :: rest => do
    if place = .flow then none
    let (entries, rest) ← blockEntries? fuel rest
    return (.mapping entries, rest)
  | fuel + 1, .dash :: rest => do
    if place ≠ .keyed then none
    let (items, rest) ← plainItems? fuel (.dash :: rest)
    return (.sequence items, rest)
  | _, _ => none

/-- The node behind the first token of an entry, if there is one. -/
def entry? (place : Place) : (fuel : Nat) → List Token → Option (Node × List Token)
  | 0, _ => none
  | _, [] => none
  | fuel + 1, token :: rest =>
    if isMissing place token then some (empty, token :: rest)
    else node? place fuel (token :: rest)

/-- The items of a block sequence up to its end. -/
def blockItems? : (fuel : Nat) → List Token → Option (List Node × List Token)
  | 0, _ => none
  | fuel + 1, .dash :: rest => do
    let (item, rest) ← entry? .entry fuel rest
    let (items, rest) ← blockItems? fuel rest
    return (item :: items, rest)
  | _, .blockEnd :: rest => some ([], rest)
  | _, _ => none

/-- The items of a sequence whose dashes stand at the column of the keys around it. -/
def plainItems? : (fuel : Nat) → List Token → Option (List Node × List Token)
  | 0, _ => none
  | fuel + 1, .dash :: rest => do
    let (item, rest) ← entry? .plainEntry fuel rest
    let (items, rest) ← plainItems? fuel rest
    return (item :: items, rest)
  | _, rest => some ([], rest)

/-- The value behind a key of a block mapping. -/
def blockValue? : (fuel : Nat) → List Token → Option (Node × List Token)
  | 0, _ => none
  | fuel + 1, .value :: rest => entry? .keyed fuel rest
  | _, rest => some (empty, rest)

/-- The entries of a block mapping up to its end. -/
def blockEntries? : (fuel : Nat) → List Token → Option (List (Node × Node) × List Token)
  | 0, _ => none
  | fuel + 1, .key :: rest => do
    let (key, rest) ← entry? .keyed fuel rest
    let (value, rest) ← blockValue? fuel rest
    let (entries, rest) ← blockEntries? fuel rest
    return ((key, value) :: entries, rest)
  | _, .blockEnd :: rest => some ([], rest)
  | _, _ => none

/-- The value behind a key in a flow collection. -/
def flowValue? : (fuel : Nat) → List Token → Option (Node × List Token)
  | 0, _ => none
  | fuel + 1, .value :: rest => do
    if rest.head? matches some .value then none
    entry? .flow fuel rest
  | _, rest => some (empty, rest)

/-- The items of a flow sequence up to its end. A key with its value is an item of its own. -/
def flowItems? (isFirst : Bool) :
    (fuel : Nat) → List Token → Option (List Node × List Token)
  | 0, _ => none
  | _, .flowSequenceEnd :: rest => some ([], rest)
  | fuel + 1, tokens => do
    match ← separated? isFirst tokens with
    | .flowSequenceEnd :: rest => return ([], rest)
    | .key :: rest =>
      let (key, rest) ← entry? .flow fuel rest
      let (value, rest) ← flowValue? fuel rest
      let (items, rest) ← flowItems? false fuel rest
      return (.mapping [(key, value)] :: items, rest)
    | rest =>
      let (item, rest) ← node? .flow fuel rest
      let (items, rest) ← flowItems? false fuel rest
      return (item :: items, rest)

/-- The entries of a flow mapping up to its end. A node that is no key has an empty value. -/
def flowEntries? (isFirst : Bool) :
    (fuel : Nat) → List Token → Option (List (Node × Node) × List Token)
  | 0, _ => none
  | _, .flowMappingEnd :: rest => some ([], rest)
  | fuel + 1, tokens => do
    match ← separated? isFirst tokens with
    | .flowMappingEnd :: rest => return ([], rest)
    | .key :: rest =>
      let (key, rest) ← entry? .flow fuel rest
      let (value, rest) ← flowValue? fuel rest
      let (entries, rest) ← flowEntries? false fuel rest
      return ((key, value) :: entries, rest)
    | rest =>
      let (key, rest) ← node? .flow fuel rest
      let (entries, rest) ← flowEntries? false fuel rest
      return ((key, empty) :: entries, rest)

/-- The tokens behind the comma that must stand before every entry but the first. -/
def separated? (isFirst : Bool) : List Token → Option (List Token)
  | .comma :: rest => if isFirst then some (.comma :: rest) else some rest
  | rest => if isFirst then some rest else none

end

/-- The node of a document, whose start is passed, and the tokens behind it. -/
def document? (tokens : List Token) : Option (Node × List Token) :=
  match tokens with
  | [] => some (empty, [])
  | .documentStart :: _ | .documentEnd :: _ => some (empty, tokens)
  | _ => node? .entry (4 * tokens.length + 4) tokens

/-- The one document of a text, or nothing if the text is empty. Behind a document only its end may
be marked. -/
def ofText? (text : String) : Option (Option Node) := do
  let tokens ← tokens? text
  match tokens with
  | [] => return none
  | tokens =>
    let (node, rest) ← if tokens.head? matches some .documentEnd then none
      else if tokens.head? matches some .documentStart then document? tokens.tail
      else document? tokens
    if rest.all (· matches .documentEnd) then return some node else none

end Node

end TopicAlerts.Yaml
