import TopicAlerts.Binary64.Decimal

/-!
# JSON values

The values that rules, messages and answers are made of. A number is an integer or a double, and
the two stay apart. An object is a list of members. What is read, and what `Json.object` makes, has
them in increasing order of their keys, no key twice, and `Json.set` keeps that; a report that is
only written may list them in an order of its own.
-/

namespace TopicAlerts

/-- A JSON number: an integer, or a double. -/
inductive Json.Number
  /-- A number written without fraction and exponent. -/
  | int (n : Int)
  /-- A number written with a fraction or an exponent, or too large for an integer. -/
  | float (x : Binary64)
deriving DecidableEq

/-- A JSON value. -/
inductive Json
  /-- The value `null`. -/
  | null
  /-- A truth value. -/
  | bool (b : Bool)
  /-- A number. -/
  | num (n : Json.Number)
  /-- A string. -/
  | str (s : String)
  /-- An array. -/
  | arr (items : List Json)
  /-- An object, as the list of its members. -/
  | obj (members : List (String × Json))
deriving Inhabited

namespace Json

/-- The members of an object. -/
abbrev Members := List (String × Json)

/-- The value of the number as a double. -/
def Number.toBinary64 : Number → Binary64
  | .int n => Binary64.ofInt n
  | .float x => x

/-- Whether two numbers are the same: an integer is never the same as a double, and the two zeros
among the doubles are. -/
def Number.same : Number → Number → Bool
  | .int m, .int n => m == n
  | .float x, .float y => x.eq y
  | _, _ => false

/-- The member with this key. -/
def get? (key : String) (members : Members) : Option Json := members.lookup key

/-- Put a member at its place, instead of the one with the same key if there is one. -/
def set (key : String) (value : Json) : Members → Members
  | [] => [(key, value)]
  | (k, v) :: rest =>
    if key < k then (key, value) :: (k, v) :: rest
    else if key = k then (key, value) :: rest
    else (k, v) :: set key value rest

/-- The members in order; of several with one key the last one stays. -/
def ofMembers (members : Members) : Members :=
  members.foldl (fun done (key, value) => set key value done) []

/-- An object with these members. -/
def object (members : Members) : Json := .obj (ofMembers members)

/-- An integer value. -/
def int (n : Int) : Json := .num (.int n)

/-- A natural number value. -/
def nat (n : Nat) : Json := .num (.int n)

/-- An array of strings. -/
def strings (texts : List String) : Json := .arr (texts.map .str)

/-- The value, or `null` where there is none. -/
def ofOption {α : Type} (value : α → Json) : Option α → Json
  | none => .null
  | some a => value a

/-- The string, if the value is one. -/
def string? : Json → Option String
  | .str s => some s
  | _ => none

/-- The member of an object, if the value is one. -/
def field? (value : Json) (key : String) : Option Json :=
  match value with
  | .obj members => get? key members
  | _ => none

mutual

/-- Whether two values are the same JSON, numbers compared by `Number.same`. -/
def same : Json → Json → Bool
  | .null, .null => true
  | .bool a, .bool b => a == b
  | .num a, .num b => a.same b
  | .str a, .str b => a == b
  | .arr a, .arr b => sameItems a b
  | .obj a, .obj b => sameMembers a b
  | _, _ => false

/-- Whether two lists of values are the same JSON, place by place. -/
def sameItems : List Json → List Json → Bool
  | [], [] => true
  | a :: as, b :: bs => same a b && sameItems as bs
  | _, _ => false

/-- Whether two lists of members have the same keys and values, place by place. -/
def sameMembers : List (String × Json) → List (String × Json) → Bool
  | [], [] => true
  | (j, a) :: as, (k, b) :: bs => j == k && same a b && sameMembers as bs
  | _, _ => false

end

end Json

end TopicAlerts
