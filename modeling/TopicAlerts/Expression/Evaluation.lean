import TopicAlerts.Expression
import TopicAlerts.Text.Case

/-!
# Evaluation of expressions

Whether a message matches an expression. A field that the message does not have, a value of the
wrong type and a malformed part all count as no match.
-/

namespace TopicAlerts

/-- Whether a value passes a test. -/
def Test.passes (value : Json) : Test → Bool
  | .compare comparison threshold =>
    match value.number? with
    | some number => comparison.holds number threshold
    | none => false
  | .equals expected => value.valuesEqual expected
  | .differs expected => !value.valuesEqual expected
  | .oneOf candidates => candidates.any value.valuesEqual
  | .contains needle =>
    match value with
    | .str s => Text.occursIn (Text.lower needle).toList (Text.lower s).toList
    | _ => false

namespace Expression

mutual

/-- Whether a message matches an expression. -/
def holds (message : Message) : Expression → Bool
  | .all children => allHold message children
  | .any children => someHolds message children
  | .test field asked =>
    match message.resolve field with
    | some value => asked.passes value
    | none => false
  | .unsupported _ => false

/-- Whether a message matches all of some expressions. -/
def allHold (message : Message) : List Expression → Bool
  | [] => true
  | child :: rest => holds message child && allHold message rest

/-- Whether a message matches one of some expressions. -/
def someHolds (message : Message) : List Expression → Bool
  | [] => false
  | child :: rest => holds message child || someHolds message rest

end

/-- Whether a raw message matches a rule document. -/
def matchesRaw (rule : Json) (raw : String) : Bool := (parse rule).holds (Message.parse raw)

end Expression

end TopicAlerts
