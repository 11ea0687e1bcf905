import TopicAlerts.Message

/-!
# Rule expressions

The expression of a rule is a JSON object whose members are conditions: conjunctions and
disjunctions of further conditions, and tests of a value in the message. `Expression.parse` makes a
tree of it. What is malformed becomes an `unsupported` node, which says why and matches nothing.

The names of operators and of their arguments may be written with a dollar sign in front; where an
argument occurs in both spellings the one with the dollar sign counts.
-/

namespace TopicAlerts

/-- The kind of a JSON value. -/
inductive Json.Kind
  | null | boolean | number | string | array | object
deriving DecidableEq, Repr

/-- The kind of a value. -/
def Json.kind : Json → Json.Kind
  | .null => .null
  | .bool _ => .boolean
  | .num _ => .number
  | .str _ => .string
  | .arr _ => .array
  | .obj _ => .object

/-- The name of a kind. -/
def Json.Kind.name : Json.Kind → String
  | .null => "null"
  | .boolean => "boolean"
  | .number => "number"
  | .string => "string"
  | .array => "array"
  | .object => "object"

/-- A comparison of numbers. -/
inductive Comparison
  | greater | greaterOrEqual | less | lessOrEqual
deriving DecidableEq, Repr

/-- Whether a value compares so to a threshold. -/
def Comparison.holds (comparison : Comparison) (value threshold : Binary64) : Bool :=
  match comparison with
  | .greater => threshold.lt value
  | .greaterOrEqual => threshold.le value
  | .less => value.lt threshold
  | .lessOrEqual => value.le threshold

/-- What is asked of a value. -/
inductive Test
  /-- It is a number that compares so to a threshold. -/
  | compare (comparison : Comparison) (threshold : Binary64)
  /-- It equals another value. -/
  | equals (expected : Json)
  /-- It does not equal another value. -/
  | differs (expected : Json)
  /-- It equals one of some values. -/
  | oneOf (candidates : List Json)
  /-- It is a string in which another one occurs, whatever the case of their letters. -/
  | contains (needle : String)

/-- What is wrong with a part of a rule. -/
inductive Problem
  /-- A condition is not an object. -/
  | notAnObject (found : Json.Kind)
  /-- There is no operator of this name. -/
  | unknownOperator (key : String)
  /-- A conjunction or disjunction has no array of conditions. -/
  | notConditions (key : String) (found : Json.Kind)
  /-- A test has no object as its argument. -/
  | notArguments (key : String) (found : Json.Kind)
  /-- The field of a test is not a string. -/
  | fieldNotText (key : String) (found : Json.Kind)
  /-- A comparison has no number to compare with. -/
  | needsNumber (key : String)
  /-- An equality has no value to compare with. -/
  | needsValue (key : String)
  /-- A membership has no array of values. -/
  | needsValues (key : String)
  /-- A search has no string to look for. -/
  | needsText (key : String)
deriving DecidableEq, Repr

/-- A description of the problem. -/
def Problem.message : Problem → String
  | .notAnObject found => "rule must be an object, got " ++ found.name
  | .unknownOperator key => "unsupported operator '" ++ key ++ "'"
  | .notConditions key found =>
    "'" ++ key ++ "' expects an array of conditions, got " ++ found.name
  | .notArguments key found => "'" ++ key ++ "' expects an object argument, got " ++ found.name
  | .fieldNotText key found => "'" ++ key ++ "' field must be a string, got " ++ found.name
  | .needsNumber key => "'" ++ key ++ "' requires a numeric value"
  | .needsValue key => "'" ++ key ++ "' requires a value"
  | .needsValues key => "'" ++ key ++ "' requires a values array"
  | .needsText key => "'" ++ key ++ "' requires a string value"

/-- The expression of a rule as a tree. -/
inductive Expression
  /-- All of these hold. -/
  | all (children : List Expression)
  /-- At least one of these holds. -/
  | any (children : List Expression)
  /-- The value of a field passes a test; without a field the whole message does. -/
  | test (field : Option String) (test : Test)
  /-- A part that is malformed. -/
  | unsupported (problem : Problem)
deriving Inhabited

/-- An operator that tests a value. -/
inductive Leaf
  | compare (comparison : Comparison)
  | eq | ne | isIn | contains
deriving DecidableEq, Repr

/-- An operator of a rule. -/
inductive Operator
  | and | or
  | leaf (leaf : Leaf)
deriving DecidableEq, Repr

namespace Operator

/-- The operator of a name. -/
def ofName? : List Char → Option Operator
  | ['a', 'n', 'd'] => some .and
  | ['o', 'r'] => some .or
  | ['g', 't'] => some (.leaf (.compare .greater))
  | ['g', 't', 'e'] => some (.leaf (.compare .greaterOrEqual))
  | ['l', 't'] => some (.leaf (.compare .less))
  | ['l', 't', 'e'] => some (.leaf (.compare .lessOrEqual))
  | ['e', 'q'] => some (.leaf .eq)
  | ['n', 'e'] => some (.leaf .ne)
  | ['i', 'n'] => some (.leaf .isIn)
  | ['c', 'o', 'n', 't', 'a', 'i', 'n', 's'] => some (.leaf .contains)
  | _ => none

/-- The operator of a key, which is its name with or without a dollar sign in front. -/
def ofKey? (key : String) : Option Operator :=
  match key.toList with
  | '$' :: name => ofName? name
  | name => ofName? name

end Operator

namespace Expression

/-- The argument of this name, preferably in its spelling with a dollar sign. -/
def argument? (arguments : Json.Members) (name : String) : Option Json :=
  (Json.get? ("$" ++ name) arguments).or (Json.get? name arguments)

/-- The number that a comparison compares with: a number, or a string that says a finite one. -/
def threshold? : Json → Option Binary64
  | .num n => some n.toBinary64
  | .str s => (Reading.ofText? (Text.trimChars s.toList)).bind Reading.finite?
  | _ => none

/-- The field of a test. -/
def field (key : String) (arguments : Json.Members) : Except Problem (Option String) :=
  match argument? arguments "field" with
  | none => .ok none
  | some (.str path) => .ok (some path)
  | some other => .error (.fieldNotText key other.kind)

/-- The value that an equality compares with. -/
def requiredValue (key : String) (arguments : Json.Members) : Except Problem Json :=
  match argument? arguments "value" with
  | none | some .null => .error (.needsValue key)
  | some value => .ok value

/-- The test of an operator with its arguments. -/
def leafTest (key : String) (leaf : Leaf) (arguments : Json.Members) : Except Problem Test :=
  match leaf with
  | .compare comparison =>
    match (argument? arguments "value").bind threshold? with
    | some threshold => .ok (.compare comparison threshold)
    | none => .error (.needsNumber key)
  | .eq => (requiredValue key arguments).map .equals
  | .ne => (requiredValue key arguments).map .differs
  | .isIn =>
    match argument? arguments "values" with
    | some (.arr values) => .ok (.oneOf values)
    | _ => .error (.needsValues key)
  | .contains =>
    match argument? arguments "value" with
    | some (.str needle) => .ok (.contains needle)
    | _ => .error (.needsText key)

/-- The condition of an operator that tests a value. -/
def ofLeaf (key : String) (leaf : Leaf) : Json → Expression
  | .obj arguments =>
    let result : Except Problem Expression := do
      let field ← field key arguments
      let test ← leafTest key leaf arguments
      return .test field test
    match result with
    | .ok expression => expression
    | .error problem => .unsupported problem
  | other => .unsupported (.notArguments key other.kind)

/-- The conjunction of the members of an object; a single member stands for itself. -/
def conjunction : List Expression → Expression
  | [condition] => condition
  | conditions => .all conditions

mutual

/-- The expression of a rule document. -/
def parse : Json → Expression
  | .obj members => conjunction (parseMembers members)
  | other => .unsupported (.notAnObject other.kind)

/-- The conditions of the members of an object. -/
def parseMembers : List (String × Json) → List Expression
  | [] => []
  | (key, argument) :: rest => parseMember key argument :: parseMembers rest

/-- The condition of a member. -/
def parseMember (key : String) (argument : Json) : Expression :=
  match Operator.ofKey? key with
  | none => .unsupported (.unknownOperator key)
  | some .and => parseChildren key .all argument
  | some .or => parseChildren key .any argument
  | some (.leaf leaf) => ofLeaf key leaf argument

/-- The condition of an operator over an array of conditions. -/
def parseChildren (key : String) (combine : List Expression → Expression) : Json → Expression
  | .arr items => combine (parseItems items)
  | other => .unsupported (.notConditions key other.kind)

/-- The conditions of the items of an array. -/
def parseItems : List Json → List Expression
  | [] => []
  | item :: rest => parse item :: parseItems rest

end

mutual

/-- What is wrong with an expression, in the order of its parts. -/
def problems : Expression → List Problem
  | .all children => problemsOf children
  | .any children => problemsOf children
  | .test .. => []
  | .unsupported problem => [problem]

/-- What is wrong with some expressions, one after the other. -/
def problemsOf : List Expression → List Problem
  | [] => []
  | child :: rest => problems child ++ problemsOf rest

end

/-- Whether nothing is wrong with an expression. -/
def isValid (expression : Expression) : Bool := expression.problems.isEmpty

end Expression

end TopicAlerts
