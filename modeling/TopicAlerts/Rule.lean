import TopicAlerts.Expression.Evaluation

/-!
# Rules

A rule says which messages on a topic are worth a notification, which actions then notify, and how
often it may do so. `RuleSpec` is what its author writes; `Rule` adds what the store knows of it.
-/

namespace TopicAlerts

/-- What to do when a rule matches. -/
structure Action where
  /-- What sort of action it is. -/
  kind : String
  /-- Its parameters. -/
  params : Json.Members
deriving Inhabited

/-- The sorts of actions that are known. -/
inductive Action.Kind
  /-- Call a notification provider. -/
  | call
deriving DecidableEq, Repr

/-- The notification providers that are known. -/
inductive Provider
  /-- A chat service with webhooks. -/
  | slack
deriving DecidableEq, Repr

/-- The name of a sort of actions. -/
def Action.Kind.name : Action.Kind → String
  | .call => "Call"

/-- The sort of actions of this name, in any case. -/
def Action.Kind.ofName? (name : String) : Option Action.Kind :=
  if Text.sameIgnoringAsciiCase name "call" then some .call else none

/-- The name of a provider. -/
def Provider.name : Provider → String
  | .slack => "SLACK"

/-- The provider of this name, in any case. -/
def Provider.ofName? (name : String) : Option Provider :=
  if Text.sameIgnoringAsciiCase name "slack" then some .slack else none

namespace Action

/-- The sort of the action, if it is known. -/
def kind? (action : Action) : Option Action.Kind := Action.Kind.ofName? action.kind

/-- The parameter of this name, if it is a string. -/
def param? (action : Action) (name : String) : Option String :=
  (Json.get? name action.params).bind Json.string?

/-- The name of the provider to call. -/
def providerName? (action : Action) : Option String := action.param? "provider"

/-- The provider to call, if it is known. -/
def provider? (action : Action) : Option Provider := action.providerName?.bind Provider.ofName?

/-- The action that sends a text to a webhook of the chat service. -/
def slack (url text : String) : Action where
  kind := "call"
  params := Json.ofMembers
    [("provider", .str Provider.slack.name), ("webhookURL", .str url), ("message", .str text)]

/-- Whether two actions are the same. -/
def same (a b : Action) : Bool := a.kind == b.kind && Json.sameMembers a.params b.params

end Action

/-- What the author of a rule writes. -/
structure RuleSpec where
  /-- Its name. -/
  name : String
  /-- The topic whose messages it looks at. -/
  topic : String
  /-- Its expression as a document. -/
  source : Json
  /-- What to do for a message that matches. -/
  actions : List Action
  /-- Whether it is in force. -/
  enabled : Bool
  /-- What it is for. -/
  description : Option String
  /-- The length of its throttle window in minutes, if it has one of its own. -/
  periodMinutes : Option UInt64
  /-- The notifications in a throttle window, if it has a number of its own. -/
  permits : Option UInt32
deriving Inhabited

/-- A rule as it is stored. -/
structure Rule extends RuleSpec where
  /-- The id that it keeps. -/
  id : String
  /-- When it was created, in milliseconds. -/
  createdAt : Int64
  /-- When it was last changed, in milliseconds. -/
  updatedAt : Int64
deriving Inhabited

namespace RuleSpec

/-- The expression of the rule. -/
def expression (spec : RuleSpec) : Expression := Expression.parse spec.source

/-- The length of the rule's own throttle window in seconds; lengths beyond an unsigned 64-bit word
give the greatest one. -/
def periodSeconds? (spec : RuleSpec) : Option Nat :=
  spec.periodMinutes.map fun minutes => min (minutes.toNat * 60) (UInt64.size - 1)

/-- Whether a message matches the rule. -/
def isMatch (spec : RuleSpec) (message : Message) : Bool := spec.expression.holds message

/-- The rule that this becomes when it is stored under an id. -/
def toRule (spec : RuleSpec) (id : String) (now : Int64) : Rule :=
  { spec with id, createdAt := now, updatedAt := now }

/-- Whether two lists of actions are the same. -/
def sameActions : List Action → List Action → Bool
  | [], [] => true
  | a :: as, b :: bs => a.same b && sameActions as bs
  | _, _ => false

/-- Whether two rules are the same; their expressions are compared as documents. -/
def same (a b : RuleSpec) : Bool :=
  a.name == b.name && a.topic == b.topic && a.source.same b.source
    && sameActions a.actions b.actions && a.enabled == b.enabled
    && a.description == b.description && a.periodMinutes == b.periodMinutes
    && a.permits == b.permits

end RuleSpec

end TopicAlerts
