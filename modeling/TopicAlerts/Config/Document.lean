import TopicAlerts.Config
import TopicAlerts.Yaml.Reader

/-!
# Configuration files

How a configuration is read from a YAML text. Every setting has a default, and settings that are
not known are passed over.
-/

namespace TopicAlerts.Config

open Yaml

/-- Read a configuration. -/
def read : Reader Config := fun depth node => do
  let base := Config.standard
  let entries ← readEntries ["nats_url", "consumer_group", "api_addr", "rules_file", "reconcile",
    "throttle", "notifier"] depth node
  let natsUrl ← entries.optional "nats_url" base.natsUrl readText
  let consumerGroup ← entries.optional "consumer_group" base.consumerGroup readText
  let apiAddr ← entries.optional "api_addr" base.apiAddr readText
  let rulesFile ← entries.optional "rules_file" base.rulesFile (readOption readText)
  let none' : Entries := ⟨0, []⟩
  let reconcile ← entries.optional "reconcile" none'
    (readEntries ["interval_seconds", "stop_timeout_seconds"])
  let throttle ← entries.optional "throttle" none' (readEntries ["period_minutes", "permits"])
  let notifier ← entries.optional "notifier" none' (readEntries ["timeout_seconds"])
  return {
    natsUrl, consumerGroup, apiAddr, rulesFile
    intervalSeconds :=
      ← reconcile.optional "interval_seconds" base.intervalSeconds readUInt64
    stopTimeoutSeconds :=
      ← reconcile.optional "stop_timeout_seconds" base.stopTimeoutSeconds readUInt64
    periodMinutes := ← throttle.optional "period_minutes" base.periodMinutes readUInt64
    permits := ← throttle.optional "permits" base.permits readUInt32
    notifierTimeoutSeconds :=
      ← notifier.optional "timeout_seconds" base.notifierTimeoutSeconds readUInt64 }

/-- The configuration of a text, which must be valid. A blank text stands for the default one. -/
def ofText (text : String) : Except ConfigError Config :=
  if Text.isBlankText text then Config.standard.validate
  else match readString? read text with
    | some config => config.validate
    | none => .error .unreadable

end TopicAlerts.Config
