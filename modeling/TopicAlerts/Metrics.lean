/-!
# Metrics

What the service counts, and the text in which it publishes the counts: for each series a line
with its type and a line with its value.
-/

namespace TopicAlerts

/-- The counts of a service. They have no bound here; a service keeps each in an unsigned 64-bit
word, which starts again at zero after `2 ^ 64`. -/
structure Metrics where
  /-- Messages that came in. -/
  messagesReceived : Nat := 0
  /-- Rules that were evaluated on a message. -/
  rulesEvaluated : Nat := 0
  /-- Rules that matched a message. -/
  rulesMatched : Nat := 0
  /-- Rules that crashed on a message. -/
  ruleFaults : Nat := 0
  /-- Matches that were throttled. -/
  notificationsThrottled : Nat := 0
  /-- Notifications that were sent. -/
  notificationsSent : Nat := 0
  /-- Notifications that failed. -/
  notificationsFailed : Nat := 0
  /-- Subscriptions that failed. -/
  subscribeFailures : Nat := 0
  /-- Reconciliations of the subscriptions with the rules. -/
  reconcileRuns : Nat := 0
  /-- Subscriptions at the moment. -/
  activeSubscriptions : Nat := 0
  /-- Microseconds spent on messages. -/
  latencySum : Nat := 0
  /-- Messages that were worked off. -/
  latencyCount : Nat := 0
deriving DecidableEq, Repr

/-- A published count. -/
structure Metrics.Series where
  /-- The name of the series. -/
  name : String
  /-- Its type. -/
  type : String
  /-- What is behind its name in each line, and the value there. -/
  samples : List (String × Nat)

namespace Metrics

/-- The series of a counter. -/
def counter (name : String) (value : Nat) : Series :=
  ⟨"tripwire_worker_" ++ name ++ "_total", "counter", [("", value)]⟩

/-- All series. -/
def series (m : Metrics) : List Series := [
  counter "messages_received" m.messagesReceived,
  counter "rules_evaluated" m.rulesEvaluated,
  counter "rules_matched" m.rulesMatched,
  counter "rule_faults" m.ruleFaults,
  counter "notifications_throttled" m.notificationsThrottled,
  counter "notifications_sent" m.notificationsSent,
  counter "notifications_failed" m.notificationsFailed,
  counter "subscribe_failures" m.subscribeFailures,
  counter "reconcile_runs" m.reconcileRuns,
  ⟨"tripwire_worker_active_subscriptions", "gauge", [("", m.activeSubscriptions)]⟩,
  ⟨"tripwire_worker_processing_latency_us", "summary",
    [("_sum", m.latencySum), ("_count", m.latencyCount)]⟩]

/-- The lines of a series. -/
def Series.lines (s : Series) : List String :=
  ("# TYPE " ++ s.name ++ " " ++ s.type)
    :: s.samples.map fun (suffix, value) => s.name ++ suffix ++ " " ++ toString value

/-- The published text. -/
def exposition (m : Metrics) : String :=
  String.join ((m.series.flatMap Series.lines).map (· ++ "\n"))

end Metrics

end TopicAlerts
