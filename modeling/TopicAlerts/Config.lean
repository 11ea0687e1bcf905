import TopicAlerts.Service

/-!
# Configuration

How a service is configured, with its defaults, the variables of its environment that override a
configuration, and what a configuration must fulfil.
-/

namespace TopicAlerts

/-- The configuration of a service. -/
structure Config where
  /-- The address of the message broker. -/
  natsUrl : String := "nats://127.0.0.1:4222"
  /-- The consumer group of the service. -/
  consumerGroup : String := "tripwire-notifier"
  /-- The address that the service listens at. -/
  apiAddr : String := "0.0.0.0:9090"
  /-- The file with the rules to start with. -/
  rulesFile : Option String := none
  /-- The interval of the reconciler in seconds. -/
  intervalSeconds : UInt64 := 30
  /-- How many seconds a topic worker has to stop. -/
  stopTimeoutSeconds : UInt64 := 10
  /-- The length of a throttle window in minutes. -/
  periodMinutes : UInt64 := 5
  /-- The notifications in a throttle window. -/
  permits : UInt32 := 1
  /-- How many seconds a notification may take. -/
  notifierTimeoutSeconds : UInt64 := 10
deriving DecidableEq, Repr

/-- Why a configuration or a file of rules cannot be used. -/
inductive ConfigError
  /-- The file cannot be read. -/
  | missingFile
  /-- The text does not have the expected form. -/
  | unreadable
  /-- A setting has a value that it must not have. -/
  | invalid (problem : String)
deriving DecidableEq, Repr

namespace Config

/-- The default configuration. -/
def standard : Config := {}

/-- Check a configuration; the first fault counts. -/
def validate (config : Config) : Except ConfigError Config :=
  if config.natsUrl.isEmpty then .error (.invalid "nats_url must not be empty")
  else if Text.isBlankText config.consumerGroup then
    .error (.invalid "consumer_group must not be empty")
  else if config.apiAddr.isEmpty then .error (.invalid "api_addr must not be empty")
  else if config.intervalSeconds = 0 then
    .error (.invalid "reconcile.interval_seconds must be > 0")
  else if config.stopTimeoutSeconds = 0 then
    .error (.invalid "reconcile.stop_timeout_seconds must be > 0")
  else if config.notifierTimeoutSeconds = 0 then
    .error (.invalid "notifier.timeout_seconds must be > 0")
  else .ok config

/-- The configuration with what the environment overrides. -/
def override (config : Config) (natsUrl apiAddr : Option String) : Except ConfigError Config :=
  { config with
    natsUrl := natsUrl.getD config.natsUrl
    apiAddr := apiAddr.getD config.apiAddr }.validate

/-- The throttle settings; lengths of time beyond an unsigned 64-bit word of seconds give the
greatest one. -/
def throttle (config : Config) : Throttle.Settings where
  permits := config.permits.toNat
  period := min (config.periodMinutes.toNat * 60) (UInt64.size - 1) * Throttle.nanosOfSecond

/-- The settings of the service, the rules of which get their ids from the given source. -/
def settings (config : Config) (ids : IdSource) : ServiceSettings where
  ids
  group := config.consumerGroup
  interval := config.intervalSeconds.toNat * 1000
  stopTimeout := config.stopTimeoutSeconds.toNat * 1000
  throttle := config.throttle

end Config

/-- A description of the error. -/
def ConfigError.message : ConfigError → String
  | .missingFile => "io: No such file or directory (os error 2)"
  | .unreadable => "parse"
  | .invalid problem => "validation: " ++ problem

end TopicAlerts
