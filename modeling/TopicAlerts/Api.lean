import TopicAlerts.Api.MediaType
import TopicAlerts.Api.Response
import TopicAlerts.Api.Route
import TopicAlerts.Rule.Document
import TopicAlerts.Service

/-!
# The API of the service

Requests to look at and change the rules, the throttle windows and the subscriptions. A request
that changes the topics of the rules in force hints so to the reconciler.
-/

namespace TopicAlerts.Api

/-- A request. -/
structure Request where
  /-- The method. -/
  method : String
  /-- The target. -/
  target : Target
  /-- The media type of the body, if it is given. -/
  mediaType : Option String := none
  /-- The bytes of the body. -/
  body : List UInt8 := []

/-- A handler answers a request and may change the service. -/
abbrev Handler := Service → Response × Service

/-- Answer without a change. -/
def answer (response : Service → Response) : Handler := fun service => (response service, service)

/-- Whether a text is the name of a method. -/
def isMethod (text : String) : Bool := !text.isEmpty && text.toList.all MediaType.isToken

/-- Read the body of a request as JSON, or answer that it cannot be read. -/
def withBody {α : Type} (request : Request) (read : Json.Reader α) (handler : α → Handler) :
    Handler :=
  if !(request.mediaType.map MediaType.isJson).getD false then
    answer fun _ => Response.ofText 415 "Expected request with `Content-Type: application/json`"
  else match Json.readUnits read (Utf8.units request.body) with
    | .ok value => handler value
    | .error fault => answer fun _ => Response.ofFault fault

/-- Decode the parameter of a path, or answer that it cannot be decoded. -/
def withParameter (name segment : String) (handler : String → Handler) : Handler :=
  match Target.decodeSegment? segment with
  | some value => handler value
  | none => answer fun _ => Response.ofText 400 ("Invalid URL: Invalid UTF-8 in `" ++ name ++ "`")

/-- Hint at the topics of a change. -/
def announce (change : RuleChange) (service : Service) : Service :=
  let service := match change.topicAdded with
    | some topic => service.hint (.added topic)
    | none => service
  match change.topicRemoved with
  | some topic => service.hint (.removed topic)
  | none => service

/-- The rules, or those on one topic. -/
def listRules (target : Target) : Handler := answer fun service =>
  let found (rules : List Rule) : Response := Response.ofJson 200 (.arr (rules.map Rule.toJson))
  match (target.parameters.filter (·.1 == "topic")).map (·.2) with
  | [] => found service.store.list
  | [topic] => found (service.store.listByTopic topic)
  | _ => Response.ofText 400 "Failed to deserialize query string: duplicate field `topic`"

/-- A rule. -/
def getRule (id : String) : Handler := answer fun service =>
  match service.store.get? id with
  | some rule => Response.ofJson 200 rule.toJson
  | none => Response.ofStatus 404

/-- Create a rule. -/
def createRule (now : Int64) (spec : RuleSpec) : Handler := fun service =>
  match service.store.create spec now with
  | .error error => (Response.ofError error, service)
  | .ok (rule, store) =>
    let service := { service with store }
    (Response.ofJson 201 rule.toJson,
      if rule.enabled then service.hint (.added rule.topic) else service)

/-- Change a rule, and forget its throttle windows with other settings. -/
def updateRule (now : Int64) (id : String) (spec : RuleSpec) : Handler := fun service =>
  match service.store.update id spec now with
  | .error error => (Response.ofError error, service)
  | .ok (change, store) =>
    let service := announce change { service with store }
    match change.after with
    | none => (Response.ofError (.notFound id), service)
    | some rule =>
      let settings := Processor.settingsOf service.throttle rule.toRuleSpec
      (Response.ofJson 200 rule.toJson,
        service.setThrottle (service.throttle.forgetStale rule.id settings).2)

/-- Delete a rule, and its throttle windows. -/
def deleteRule (id : String) : Handler := fun service =>
  match service.store.delete id with
  | .error error => (Response.ofError error, service)
  | .ok (change, store) =>
    let service := announce change { service with store }
    (Response.ofStatus 204, service.setThrottle (service.throttle.clear id).2)

/-- Put a rule in force, or out of it. -/
def toggleRule (now : Int64) (id : String) : Handler := fun service =>
  match service.store.toggle id now with
  | .error error => (Response.ofError error, service)
  | .ok (change, store) =>
    let service := announce change { service with store }
    match change.after with
    | none => (Response.ofError (.notFound id), service)
    | some rule => (Response.ofJson 200 rule.toJson, service)

/-- Hint at a topic. -/
def giveHint (hint : String → TopicHint) (topic : String) : Handler := fun service =>
  if Topic.isValid topic then (Response.ofStatus 202, service.hint (hint topic))
  else (Response.ofError (.invalidTopic topic), service)

/-- Test the throttle of a rule. -/
def testThrottle (rule : String) : Handler := fun service =>
  let (allowed, throttle) := service.throttle.test rule Service.throttleNow
  (Response.ofJson 200 (.obj [("allowed", .bool allowed), ("rule_id", .str rule)]),
    service.setThrottle throttle)

/-- Forget the throttle windows of a rule. -/
def clearThrottle (rule : String) : Handler := fun service =>
  let (cleared, throttle) := service.throttle.clear rule
  (Response.ofJson 200 (.obj [("cleared", Json.nat cleared), ("rule_id", .str rule)]),
    service.setThrottle throttle)

/-- Forget all throttle windows. -/
def clearThrottles : Handler := fun service =>
  let (cleared, throttle) := service.throttle.clearAll
  (Response.ofJson 200 (.obj [("cleared", Json.nat cleared)]), service.setThrottle throttle)

/-- The default throttle settings. -/
def throttleConfig : Handler := answer fun service =>
  let settings := service.throttle.defaults
  Response.ofJson 200 (.obj [("period_seconds", Json.nat settings.periodSeconds),
    ("permits", Json.nat settings.permits)])

/-- The active subscriptions. -/
def listSubscriptions : Handler := answer fun service =>
  Response.ofJson 200 (.obj [("consumer_group", .str service.manager.group),
    ("topics", Json.strings service.manager.active)])

/-- The counts as a text. -/
def exposition : Handler := answer fun service =>
  { status := 200,
    body := .text "text/plain; version=0.0.4; charset=utf-8" service.metrics.exposition }

/-- The handler of a resource for a method that it knows. -/
def handlerOf (now : Int64) (request : Request) : Resource → Handler
  | .health => answer fun _ => Response.ofJson 200 (.obj [("status", .str "ok")])
  | .ready => answer fun service =>
    Response.ofStatus (if 0 < service.metrics.reconcileRuns then 200 else 503)
  | .metrics => exposition
  | .subscriptions => listSubscriptions
  | .topicAdded topic => withParameter "topic" topic (giveHint .added)
  | .topicRemoved topic => withParameter "topic" topic (giveHint .removed)
  | .throttle => clearThrottles
  | .throttleConfig => throttleConfig
  | .throttleTest rule => withParameter "rule_id" rule testThrottle
  | .throttleClear rule => withParameter "rule_id" rule clearThrottle
  | .rules =>
    if request.method = "POST" then withBody request RuleSpec.read (createRule now)
    else listRules request.target
  | .rule id => withParameter "rule_id" id fun id =>
    if request.method = "PUT" then withBody request RuleSpec.read (updateRule now id)
    else if request.method = "DELETE" then deleteRule id
    else getRule id
  | .toggle id => withParameter "rule_id" id (toggleRule now)

/-- Answer a request at a time in milliseconds. The answer to `HEAD` is that to `GET` without its
body. -/
def handle (now : Int64) (request : Request) : Handler := fun service =>
  match Resource.ofSegments? request.target.segments with
  | none => (Response.ofStatus 404, service)
  | some resource =>
    if !resource.methods.contains request.method then
      ({ status := 405, allow := resource.methods }, service)
    else
      let (response, service) := handlerOf now request resource service
      if request.method = "HEAD" then
        let body := match response.body with
          | .text mediaType _ => .text mediaType ""
          | _ => .empty
        ({ response with body }, service)
      else (response, service)

end TopicAlerts.Api
