import TopicAlerts.Config
import TopicAlerts.Yaml.Reader

/-!
# Files of rules

How the rules that a service starts with are read from a YAML text, and how a rule is read that
somebody wrote in YAML or JSON.
-/

namespace TopicAlerts

open Yaml

/-- Read an action. -/
def Action.readYaml : Reader Action := fun depth node => do
  let entries ← readEntries ["type", "params"] depth node
  return {
    kind := ← entries.required "type" readText
    params := ← entries.optional "params" [] readObject }

/-- Read a rule specification. -/
def RuleSpec.readYaml : Reader RuleSpec := fun depth node => do
  let entries ← readEntries ["name", "topic", "rule", "actions", "enabled", "description",
    "throttle_period_minutes", "throttle_permits"] depth node
  return {
    name := ← entries.required "name" readText
    topic := ← entries.required "topic" readText
    source := ← entries.required "rule" readValue
    actions := ← entries.optional "actions" [] (readList Action.readYaml)
    enabled := ← entries.optional "enabled" true readBool
    description := ← entries.optional "description" none (readOption readText)
    periodMinutes := ← entries.optional "throttle_period_minutes" none (readOption readUInt64)
    permits := ← entries.optional "throttle_permits" none (readOption readUInt32) }

/-- The rules of a text; a blank text has none. -/
def RuleSpec.listOfText (text : String) : Except ConfigError (List RuleSpec) :=
  if Text.isBlankText text then .ok []
  else match readString? (readList RuleSpec.readYaml) text with
    | some specs => .ok specs
    | none => .error .unreadable

end TopicAlerts
