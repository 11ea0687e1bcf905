import TopicAlerts.Binary64.Reading
import TopicAlerts.Yaml.Node

/-!
# Reading YAML documents

A reader makes a value of a node, or nothing if the node does not have the expected form. A scalar
that is written plainly may stand for a number, for a truth value or for nothing at all; for a text
every scalar stands. An empty plain scalar is also a collection without entries.

Collections may be nested 128 deep in what is read.
-/

namespace TopicAlerts.Yaml

/-! ## Plain scalars -/

/-- Whether a plain scalar says that there is no value. -/
def isNull (text : String) : Bool := ["", "null", "Null", "NULL", "~"].contains text

/-- The truth value that a plain scalar stands for. -/
def truth? (text : String) : Option Bool :=
  if ["true", "True", "TRUE"].contains text then some true
  else if ["false", "False", "FALSE"].contains text then some false
  else none

/-- The natural number that digits of a base stand for. -/
def naturalOf? (base : Nat) (digits : List Char) : Option Nat :=
  if digits.isEmpty then none
  else do
    let values ← digits.mapM Json.hexValue?
    if values.all (· < base) then some (values.foldl (fun n digit => n * base + digit) 0) else none

/-- Whether there are several decimal digits, the first of which is zero, perhaps behind a sign.
Such a scalar is a text. -/
def hasLeadingZero (text : List Char) : Bool :=
  match (Reading.sign text).2 with
  | '0' :: c :: rest => (c :: rest).all Char.isDigit
  | _ => false

/-- The natural number that a text without sign stands for: hexadecimal, octal, binary or decimal
digits. -/
def magnitude? : List Char → Option Nat
  | '0' :: 'x' :: digits => naturalOf? 16 digits
  | '0' :: 'o' :: digits => naturalOf? 8 digits
  | '0' :: 'b' :: digits => naturalOf? 2 digits
  | digits => if hasLeadingZero digits then none else naturalOf? 10 digits

/-- The integer that a plain scalar stands for, which may have a sign. -/
def integer? (text : List Char) : Option Int :=
  match text with
  | '-' :: rest => (magnitude? rest).map fun n => -(n : Int)
  | '+' :: rest => (magnitude? rest).map Int.ofNat
  | rest => (magnitude? rest).map Int.ofNat

/-- Whether a plain scalar stands for an infinite number or for none. -/
def isUnbounded (text : String) : Bool :=
  [".inf", ".Inf", ".INF", "+.inf", "+.Inf", "+.INF", "-.inf", "-.Inf", "-.INF", ".nan", ".NaN",
    ".NAN"].contains text

/-- The finite double that a plain scalar stands for. -/
def double? (text : List Char) : Option Binary64 :=
  if hasLeadingZero text then none else (Reading.ofText? text).bind Reading.finite?

/-- The JSON value of a plain scalar. Integers that need more than 64 bits but not more than 128
have none; still larger ones are doubles. -/
def plainValue? (text : String) : Option Json :=
  if isNull text then some .null
  else match truth? text with
  | some b => some (.bool b)
  | none =>
    let rounded := match double? text.toList with
      | some x => .num (.float x)
      | none => if isUnbounded text then .null else .str text
    match integer? text.toList with
    | some n =>
      if -(Nat.pow 2 63 : Int) ≤ n ∧ n < Nat.pow 2 64 then some (Json.int n)
      else if -(Nat.pow 2 127 : Int) ≤ n ∧ n < Nat.pow 2 128 then none
      else some rounded
    | none => some rounded

/-! ## Nodes -/

/-- How deep collections may be nested. -/
def depthLimit : Nat := 128

/-- A way to read a node inside which collections may be nested to the given depth. -/
abbrev Reader (α : Type) := (depth : Nat) → Node → Option α

/-- Read a text. -/
def readText : Reader String
  | _, .scalar _ text => some text
  | _, _ => none

mutual

/-- Read any JSON value. Of several entries of a mapping with one key the last one counts. -/
def readValue : (depth : Nat) → Node → Option Json
  | _, .scalar true text => plainValue? text
  | _, .scalar false text => some (.str text)
  | 0, _ => none
  | depth + 1, .sequence items => do
    let items ← readValues depth items
    return .arr items
  | depth + 1, .mapping entries => do
    let members ← readMembers depth entries []
    return .obj members

/-- Read the items of a sequence. -/
def readValues (depth : Nat) : List Node → Option (List Json)
  | [] => some []
  | item :: rest => do
    let value ← readValue depth item
    let values ← readValues depth rest
    return value :: values

/-- Read the entries of a mapping, after those that are done. -/
def readMembers (depth : Nat) : List (Node × Node) → Json.Members → Option Json.Members
  | [], done => some done
  | (key, value) :: rest, done => do
    let key ← readText depth key
    let value ← readValue depth value
    readMembers depth rest (Json.set key value done)

end

/-- Read a mapping of JSON values. -/
def readObject : Reader Json.Members
  | _, .scalar true "" => some []
  | depth + 1, .mapping entries => readMembers depth entries []
  | _, _ => none

/-- Read a truth value. -/
def readBool : Reader Bool
  | _, .scalar true text => truth? text
  | _, _ => none

/-- Read a natural number below a bound. -/
def readNatural (bound : Nat) : Reader Nat
  | _, .scalar true text => do
    if text.startsWith "-" then none
    let n ← integer? text.toList
    if n < bound then some n.toNat else none
  | _, _ => none

/-- Read an unsigned 64-bit integer. -/
def readUInt64 : Reader UInt64 := fun depth node =>
  (readNatural UInt64.size depth node).map UInt64.ofNat

/-- Read an unsigned 32-bit integer. -/
def readUInt32 : Reader UInt32 := fun depth node =>
  (readNatural UInt32.size depth node).map UInt32.ofNat

/-- Read a value that may be missing. -/
def readOption {α : Type} (read : Reader α) : Reader (Option α)
  | depth, .scalar true text =>
    if isNull text then some none else (read depth (.scalar true text)).map some
  | depth, node => (read depth node).map some

/-- Read a sequence. -/
def readList {α : Type} (read : Reader α) : Reader (List α)
  | _, .scalar true "" => some []
  | depth + 1, .sequence items => items.mapM (read depth)
  | _, _ => none

/-- The entries of a record by their names, and how deep collections may be nested in them. -/
structure Entries where
  /-- The depth that is left. -/
  depth : Nat
  /-- The entries. -/
  entries : List (String × Node)

/-- The entries of a record of which the known ones have these names, each of which may occur once.
Other entries are passed over. -/
def readEntries (known : List String) : Reader Entries
  | depth, .scalar true "" => some ⟨depth, []⟩
  | depth + 1, .mapping entries => do
    let entries ← entries.mapM fun (key, value) => (readText depth key).map (·, value)
    if known.all fun name => entries.countP (·.1 == name) ≤ 1 then some ⟨depth, entries⟩ else none
  | _, _ => none

/-- The entry of this name, which must be there. -/
def Entries.required {α : Type} (entries : Entries) (name : String) (read : Reader α) : Option α :=
  (entries.entries.lookup name).bind (read entries.depth)

/-- The entry of this name, or a default if it is not there. -/
def Entries.optional {α : Type} (entries : Entries) (name : String) (default : α)
    (read : Reader α) : Option α :=
  match entries.entries.lookup name with
  | none => some default
  | some node => read entries.depth node

/-- Read the document of a text; a text without document is read as an empty scalar. -/
def readString? {α : Type} (read : Reader α) (text : String) : Option α := do
  let node ← Node.ofText? text
  read depthLimit (node.getD Node.empty)

end TopicAlerts.Yaml
