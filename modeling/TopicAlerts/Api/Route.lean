import TopicAlerts.Api.Target

/-!
# Routes

The resources of the API and the methods that each of them knows. A path with a parameter leads to
the same resource whatever the parameter is; as the last segment of the path the parameter must not
be empty.
-/

namespace TopicAlerts.Api

/-- A resource of the API, with its parameter as it is written in the path. -/
inductive Resource
  /-- Whether the service is alive. -/
  | health
  /-- Whether the service is ready. -/
  | ready
  /-- The counts. -/
  | metrics
  /-- The active subscriptions. -/
  | subscriptions
  /-- Hints that a topic was added. -/
  | topicAdded (topic : String)
  /-- Hints that a topic was removed. -/
  | topicRemoved (topic : String)
  /-- All throttle windows. -/
  | throttle
  /-- The default throttle settings. -/
  | throttleConfig
  /-- The test of the throttle of a rule. -/
  | throttleTest (rule : String)
  /-- The throttle windows of a rule. -/
  | throttleClear (rule : String)
  /-- The rules. -/
  | rules
  /-- A rule. -/
  | rule (id : String)
  /-- The switch of a rule. -/
  | toggle (id : String)
deriving DecidableEq, Repr

namespace Resource

/-- The resource that the segments of a path lead to. -/
def ofSegments? : List String → Option Resource
  | ["healthz"] => some .health
  | ["ready"] => some .ready
  | ["metrics"] => some .metrics
  | ["v1", "subscriptions"] => some .subscriptions
  | ["v1", "hints", "topic-added", topic] =>
    if topic.isEmpty then none else some (.topicAdded topic)
  | ["v1", "hints", "topic-removed", topic] =>
    if topic.isEmpty then none else some (.topicRemoved topic)
  | ["v1", "throttle"] => some .throttle
  | ["v1", "throttle", "config"] => some .throttleConfig
  | ["v1", "throttle", id, "test"] => some (.throttleTest id)
  | ["v1", "throttle", id, "clear"] => some (.throttleClear id)
  | ["v1", "rules"] => some .rules
  | ["v1", "rules", id] => if id.isEmpty then none else some (.rule id)
  | ["v1", "rules", id, "toggle"] => some (.toggle id)
  | _ => none

/-- The methods that a resource knows, in the order of their names. -/
def methods : Resource → List String
  | .health | .ready | .metrics | .subscriptions | .throttleConfig => ["GET", "HEAD"]
  | .topicAdded _ | .topicRemoved _ | .throttleTest _ | .throttleClear _ | .toggle _ => ["POST"]
  | .throttle => ["DELETE"]
  | .rules => ["GET", "HEAD", "POST"]
  | .rule _ => ["DELETE", "GET", "HEAD", "PUT"]

end Resource

end TopicAlerts.Api
