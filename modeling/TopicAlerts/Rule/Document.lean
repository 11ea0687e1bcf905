import TopicAlerts.Rule

/-!
# Rules as JSON

How actions, rule specifications and stored rules are read from JSON texts, and written.
-/

namespace TopicAlerts

open Json

/-- The member that a draft must have. -/
private def needed {α : Type} (name : String) : Option α → Except String α
  | some value => .ok value
  | none => .error name

/-- An action of which only some members may be known. -/
structure Action.Draft where
  /-- The sort of the action. -/
  kind : Option String := none
  /-- Its parameters. -/
  params : Option Members := none

/-- How an action is read. -/
def Action.record : Record Action.Draft Action where
  title := "Action"
  fields := [
    ⟨"type", (·.kind.isSome), fun draft depth document =>
      return { draft with kind := some (← readText depth document) }⟩,
    ⟨"params", (·.params.isSome), fun draft depth document =>
      return { draft with params := some (← readObject depth document) }⟩]
  empty := {}
  finish draft := return { kind := ← needed "type" draft.kind, params := draft.params.getD [] }

/-- Read an action. -/
def Action.read : Reader Action := Action.record.read

/-- The action as JSON. -/
def Action.toJson (action : Action) : Json :=
  .obj [("params", .obj action.params), ("type", .str action.kind)]

/-- A rule specification of which only some members may be known. -/
structure RuleSpec.Draft where
  /-- The name. -/
  name : Option String := none
  /-- The topic. -/
  topic : Option String := none
  /-- The expression. -/
  source : Option Json := none
  /-- The actions. -/
  actions : Option (List Action) := none
  /-- Whether the rule is in force. -/
  enabled : Option Bool := none
  /-- The description, which may be given as absent. -/
  description : Option (Option String) := none
  /-- The length of the throttle window, which may be given as absent. -/
  periodMinutes : Option (Option UInt64) := none
  /-- The number of notifications in it, which may be given as absent. -/
  permits : Option (Option UInt32) := none

namespace RuleSpec.Draft

variable {δ : Type}

/-- The members of a rule specification that must be given, for a draft that has one inside. -/
def leadingFields (get : δ → RuleSpec.Draft) (set : δ → RuleSpec.Draft → δ) :
    List (Record.Field δ) := [
  ⟨"name", fun draft => (get draft).name.isSome, fun draft depth document =>
    return set draft { get draft with name := some (← readText depth document) }⟩,
  ⟨"topic", fun draft => (get draft).topic.isSome, fun draft depth document =>
    return set draft { get draft with topic := some (← readText depth document) }⟩,
  ⟨"rule", fun draft => (get draft).source.isSome, fun draft depth document =>
    return set draft { get draft with source := some (← readValue depth document) }⟩,
  ⟨"actions", fun draft => (get draft).actions.isSome, fun draft depth document =>
    return set draft { get draft with actions := some (← readList Action.read depth document) }⟩]

/-- The other members of a rule specification, for a draft that has one inside. -/
def optionalFields (get : δ → RuleSpec.Draft) (set : δ → RuleSpec.Draft → δ) :
    List (Record.Field δ) := [
  ⟨"enabled", fun draft => (get draft).enabled.isSome, fun draft depth document =>
    return set draft { get draft with enabled := some (← readBool depth document) }⟩,
  ⟨"description", fun draft => (get draft).description.isSome, fun draft depth document =>
    return set draft
      { get draft with description := some (← readOption readText depth document) }⟩,
  ⟨"throttle_period_minutes", fun draft => (get draft).periodMinutes.isSome,
    fun draft depth document =>
      return set draft
        { get draft with periodMinutes := some (← readOption readUInt64 depth document) }⟩,
  ⟨"throttle_permits", fun draft => (get draft).permits.isSome, fun draft depth document =>
    return set draft { get draft with permits := some (← readOption readUInt32 depth document) }⟩]

/-- The rule specification, without a default for the actions. -/
def finish (draft : RuleSpec.Draft) : Except String RuleSpec :=
  return {
    name := ← needed "name" draft.name
    topic := ← needed "topic" draft.topic
    source := ← needed "rule" draft.source
    actions := ← needed "actions" draft.actions
    enabled := draft.enabled.getD true
    description := draft.description.getD none
    periodMinutes := draft.periodMinutes.getD none
    permits := draft.permits.getD none }

end RuleSpec.Draft

/-- How a rule specification is read; it may come without actions. -/
def RuleSpec.record : Record RuleSpec.Draft RuleSpec where
  title := "NewRule"
  fields := Draft.leadingFields id (fun _ draft => draft)
    ++ Draft.optionalFields id (fun _ draft => draft)
  empty := {}
  finish draft := Draft.finish { draft with actions := some (draft.actions.getD []) }

/-- Read a rule specification. -/
def RuleSpec.read : Reader RuleSpec := RuleSpec.record.read

/-- A stored rule of which only some members may be known. -/
structure Rule.Draft where
  /-- The id. -/
  id : Option String := none
  /-- What its author wrote. -/
  spec : RuleSpec.Draft := {}
  /-- When it was created. -/
  createdAt : Option Int64 := none
  /-- When it was last changed. -/
  updatedAt : Option Int64 := none

/-- How a stored rule is read. -/
def Rule.record : Record Rule.Draft Rule where
  title := "RuleConfiguration"
  fields :=
    ⟨"id", (·.id.isSome), fun draft depth document =>
      return { draft with id := some (← readText depth document) }⟩
    :: RuleSpec.Draft.leadingFields Rule.Draft.spec (fun draft spec => { draft with spec })
    ++ RuleSpec.Draft.optionalFields Rule.Draft.spec (fun draft spec => { draft with spec })
    ++ [⟨"created_at_ms", (·.createdAt.isSome), fun draft depth document =>
          return { draft with createdAt := some (← readInt64 depth document) }⟩,
        ⟨"updated_at_ms", (·.updatedAt.isSome), fun draft depth document =>
          return { draft with updatedAt := some (← readInt64 depth document) }⟩]
  empty := {}
  finish draft := do
    let id ← needed "id" draft.id
    let spec ← draft.spec.finish
    return { spec with
      id, createdAt := draft.createdAt.getD 0, updatedAt := draft.updatedAt.getD 0 }

/-- Read a stored rule. -/
def Rule.read : Reader Rule := Rule.record.read

/-- The members that the JSON of specifications and of stored rules have in common, some with names
before, some with names behind those of the others. -/
def RuleSpec.members (spec : RuleSpec) : Members := [
  ("actions", .arr (spec.actions.map Action.toJson)),
  ("description", ofOption .str spec.description),
  ("enabled", .bool spec.enabled),
  ("name", .str spec.name),
  ("rule", spec.source),
  ("throttle_period_minutes", ofOption (fun minutes => nat minutes.toNat) spec.periodMinutes),
  ("throttle_permits", ofOption (fun permits => nat permits.toNat) spec.permits),
  ("topic", .str spec.topic)]

/-- The specification as JSON. -/
def RuleSpec.toJson (spec : RuleSpec) : Json := .obj spec.members

/-- The stored rule as JSON. -/
def Rule.toJson (rule : Rule) : Json :=
  object (("created_at_ms", int rule.createdAt.toInt) :: ("id", .str rule.id)
    :: ("updated_at_ms", int rule.updatedAt.toInt) :: rule.toRuleSpec.members)

end TopicAlerts
