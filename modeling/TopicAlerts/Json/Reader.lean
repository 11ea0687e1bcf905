import TopicAlerts.Json.Document
import TopicAlerts.Json.Printer
import TopicAlerts.Text.Escaped

/-!
# Reading documents

A reader makes a value of a document, or finds the first fault in it: the text is no JSON
(`Fault.notJson`), or it is, as far as it was read, but does not have the expected form
(`Fault.mismatch`). Containers may be nested 127 deep in what is read; what is passed over has no
such limit.

`Record.read` reads an object with known members, each at most once, or an array of their values in
the order of their declaration. Other members are passed over.
-/

namespace TopicAlerts.Json

/-- How a document differs from what was expected. -/
inductive Mismatch
  /-- A member without a default does not occur. -/
  | missingField (name : String)
  /-- A member occurs a second time. -/
  | duplicateField (name : String)
  /-- A value of another type. -/
  | invalidType (found expected : String)
  /-- An integer out of range. -/
  | outOfRange (found : Int) (expected : String)
  /-- An array that is too short for the members of a record. -/
  | invalidLength (length : Nat) (title : String) (fields : Nat)
deriving DecidableEq, Repr

/-- A step on the way from the root of a document to a value in it. -/
inductive PathStep
  /-- To the member of this name. -/
  | member (name : String)
  /-- To the item of this index. -/
  | item (index : Nat)
deriving DecidableEq, Repr

/-- What is wrong with a text. -/
inductive Fault
  /-- It is not a JSON text. -/
  | notJson
  /-- The value at this path has another form than expected. -/
  | mismatch (path : List PathStep) (problem : Mismatch)
deriving DecidableEq, Repr

/-- A description of the mismatch. -/
def Mismatch.message : Mismatch → String
  | .missingField name => "missing field `" ++ name ++ "`"
  | .duplicateField name => "duplicate field `" ++ name ++ "`"
  | .invalidType found expected => "invalid type: " ++ found ++ ", expected " ++ expected
  | .outOfRange found expected =>
    "invalid value: integer `" ++ toString found ++ "`, expected " ++ expected
  | .invalidLength length title fields =>
    "invalid length " ++ toString length ++ ", expected struct " ++ title ++ " with "
      ++ toString fields ++ " elements"

/-- The path as it is shown: names joined by points, indices in brackets. -/
def pathText : List PathStep → String
  | [] => ""
  | .member name :: rest => name ++ tail rest
  | .item index :: rest => "[" ++ toString index ++ "]" ++ tail rest
where
  /-- The path behind its first step. -/
  tail : List PathStep → String
    | [] => ""
    | .member name :: rest => "." ++ name ++ tail rest
    | .item index :: rest => "[" ++ toString index ++ "]" ++ tail rest

/-- How deep containers may be nested in what is read. -/
def depthLimit : Nat := 127

/-- What a reader gives. -/
abbrev Result (α : Type) := Except Fault α

/-- A way to read a document inside which containers may be nested to the given depth. -/
abbrev Reader (α : Type) := (depth : Nat) → Document → Result α

/-- The fault as seen from one step further up. -/
def Fault.under (step : PathStep) : Fault → Fault
  | .notJson => .notJson
  | .mismatch path problem => .mismatch (step :: path) problem

/-- The result as seen from one step further up. -/
def Result.under {α : Type} (step : PathStep) (result : Result α) : Result α :=
  result.mapError (Fault.under step)

/-- Fail unless the text is complete here. -/
def ensure (complete : Bool) : Result PUnit :=
  if complete then .ok ⟨⟩ else .error .notJson

/-- Fail for a document that is not of the expected type. -/
def unexpected {α : Type} (expected : String) (document : Document) : Result α :=
  let found (text : String) : Result α := .error (.mismatch [] (.invalidType text expected))
  match document with
  | .null => found "null"
  | .bool b => found ("boolean `" ++ toString b ++ "`")
  | .number (some (.int n)) => found ("integer `" ++ toString n ++ "`")
  | .number (some (.float x)) => found ("floating point `" ++ Number.text (.float x) ++ "`")
  | .string (some s) => found ("string " ++ Text.escaped s)
  | .array .. => found "sequence"
  | .object .. => found "map"
  | .number none | .string none | .broken => .error .notJson

mutual

/-- Read any JSON value. -/
def readValue (depth : Nat) : Document → Result Json
  | .null => .ok .null
  | .bool b => .ok (.bool b)
  | .number (some n) => .ok (.num n)
  | .string (some s) => .ok (.str s)
  | .number none | .string none | .broken => .error .notJson
  | .array items closed => do
    ensure (depth != 0)
    let items ← readItems (depth - 1) items
    ensure closed
    return .arr items
  | .object members closed => do
    ensure (depth != 0)
    let members ← readMembers (depth - 1) members []
    ensure closed
    return .obj members

/-- Read the items of an array. -/
def readItems (depth : Nat) : List Document → Result (List Json)
  | [] => .ok []
  | item :: rest => do
    let value ← readValue depth item
    let values ← readItems depth rest
    return value :: values

/-- Read the members of an object, after those that are done. -/
def readMembers (depth : Nat) : List (Option String × Document) → Members → Result Members
  | [], done => .ok done
  | (none, _) :: _, _ => .error .notJson
  | (some key, value) :: rest, done => do
    let value ← readValue depth value
    readMembers depth rest (set key value done)

end

/-- Read a string. -/
def readText : Reader String
  | _, .string (some s) => .ok s
  | _, document => unexpected "a string" document

/-- Read a truth value. -/
def readBool : Reader Bool
  | _, .bool b => .ok b
  | _, document => unexpected "a boolean" document

/-- Read an integer between two bounds. -/
def readInteger (expected : String) (low high : Int) : Reader Int
  | _, .number (some (.int n)) =>
    if low ≤ n ∧ n ≤ high then .ok n else .error (.mismatch [] (.outOfRange n expected))
  | _, document => unexpected expected document

/-- Read an unsigned 64-bit integer. -/
def readUInt64 : Reader UInt64 := fun depth document =>
  (readInteger "u64" 0 18446744073709551615 depth document).map (UInt64.ofNat ·.toNat)

/-- Read an unsigned 32-bit integer. -/
def readUInt32 : Reader UInt32 := fun depth document =>
  (readInteger "u32" 0 4294967295 depth document).map (UInt32.ofNat ·.toNat)

/-- Read a signed 64-bit integer. -/
def readInt64 : Reader Int64 := fun depth document =>
  (readInteger "i64" (-9223372036854775808) 9223372036854775807 depth document).map Int64.ofInt

/-- Read a value that may be `null`. -/
def readOption {α : Type} (read : Reader α) : Reader (Option α)
  | _, .null => .ok none
  | depth, document => (read depth document).map some

/-- Read an array. -/
def readList {α : Type} (read : Reader α) : Reader (List α)
  | depth, .array items closed => do
    ensure (depth != 0)
    let values ← go (depth - 1) 0 items
    ensure closed
    return values
  | _, document => unexpected "a sequence" document
where
  /-- Read the items from this index on. -/
  go (depth index : Nat) : List Document → Result (List α)
    | [] => .ok []
    | item :: rest => do
      let value ← Result.under (.item index) (read depth item)
      let values ← go depth (index + 1) rest
      return value :: values

/-- Read an object whose members may have any names. -/
def readObject : Reader Members
  | depth, .object members closed => do
    ensure (depth != 0)
    let members ← readMembers (depth - 1) members []
    ensure closed
    return members
  | _, document => unexpected "a map" document

/-- A member of a record, seen from the draft `δ` in which the members are collected. -/
structure Record.Field (δ : Type) where
  /-- The name of the member. -/
  name : String
  /-- Whether the draft has the member already. -/
  isSet : δ → Bool
  /-- Read the member into the draft. -/
  read : δ → Reader δ

/-- The members of a record, and what they are collected to. -/
structure Record (δ α : Type) where
  /-- The name of the record in messages. -/
  title : String
  /-- Its members in the order of their declaration. -/
  fields : List (Record.Field δ)
  /-- The draft without any member. -/
  empty : δ
  /-- The record of a draft, or the first member without a default that is missing. -/
  finish : δ → Except String α

namespace Record

variable {δ α : Type}

/-- Read the members of an object into a draft. -/
def readMembers (record : Record δ α) (depth : Nat) :
    List (Option String × Document) → δ → Result δ
  | [], draft => .ok draft
  | (none, _) :: _, _ => .error .notJson
  | (some key, value) :: rest, draft =>
    match record.fields.find? (·.name == key) with
    | none => do
      ensure value.isWhole
      readMembers record depth rest draft
    | some field => do
      if field.isSet draft then .error (.mismatch [] (.duplicateField key))
      else
        let draft ← Result.under (.member key) (field.read draft depth value)
        readMembers record depth rest draft

/-- Read the items of an array into the members of a draft, the first of which has this index. An
item without a member is a fault. -/
def readItems (depth : Nat) : (index : Nat) → List (Record.Field δ) → List Document → δ → Result δ
  | _, [], [], draft => .ok draft
  | _, [], _ :: _, _ => .error .notJson
  | _, _ :: _, [], draft => .ok draft
  | index, field :: fields, item :: items, draft => do
    let draft ← Result.under (.item index) (field.read draft depth item)
    readItems depth (index + 1) fields items draft

/-- Read a record from an object, or from an array of its members. -/
def read (record : Record δ α) : Reader α
  | depth, .object members closed => do
    ensure (depth != 0)
    let draft ← record.readMembers (depth - 1) members record.empty
    ensure closed
    match record.finish draft with
    | .ok value => return value
    | .error name => .error (.mismatch [] (.missingField name))
  | depth, .array items closed => do
    ensure (depth != 0)
    let draft ← readItems (depth - 1) 0 record.fields items record.empty
    ensure closed
    match record.finish draft with
    | .ok value => return value
    | .error name =>
      let index := record.fields.findIdx (·.name == name)
      .error (.mismatch [] (.invalidLength index record.title record.fields.length))
  | _, document => unexpected ("struct " ++ record.title) document

end Record

/-- Read a text whose units may be malformed. -/
def readUnits {α : Type} (read : Reader α) (text : List TextUnit) : Result α := do
  let (document, continued) := Document.ofText text
  let value ← read depthLimit document
  ensure !continued
  return value

/-- Read a text. -/
def readString {α : Type} (read : Reader α) (text : String) : Result α :=
  readUnits read (text.toList.map some)

/-- The JSON value of a text, if it is one. -/
def parse? (text : String) : Option Json := (readString readValue text).toOption

end TopicAlerts.Json
