import TopicAlerts.Console.Command
import TopicAlerts.Console.Output
import TopicAlerts.Console.Summary
import TopicAlerts.Console.Table
import TopicAlerts.Metrics.Lookup
import TopicAlerts.Web.Exchange

/-!
# Running commands

Every command makes its calls to the API of the service and prints what comes back, either for
people or as JSON. `run` takes the arguments of a command line to an exit code, the output, and the
error that ended the command, if one did.
-/

namespace TopicAlerts.Console

open Web

/-- What a file holds. -/
inductive FileContent
  /-- There is no such file. -/
  | absent
  /-- It cannot be read as a text. -/
  | unreadable
  /-- A text. -/
  | text (text : String)

/-- What commands use of the machine they run on. -/
structure Host (m : Type → Type) where
  /-- Exchange a request for a reply. -/
  transport : Transport m
  /-- Look at a file. -/
  file : String → m FileContent
  /-- The time in milliseconds. -/
  clock : m Nat
  /-- The name of the platform. -/
  platform : String

/-- Why a command ends early. -/
inductive Failure
  /-- A call to the API failed. -/
  | call (error : CallError)
  /-- The text of a rule cannot be read. -/
  | badRule
  /-- A file cannot be read. -/
  | badFile (path : String)
  /-- The service is not healthy. -/
  | unhealthy (address : String)
deriving DecidableEq, Repr

/-- A description of the failure. -/
def Failure.message : Failure → String
  | .call error => error.message
  | .badRule => "rule definition is neither valid YAML nor JSON"
  | .badFile path => "reading " ++ path
  | .unhealthy address => "worker at " ++ address ++ " is not healthy"

/-- Where a command is run, and how. -/
structure Session (m : Type → Type) where
  /-- The machine. -/
  host : Host m
  /-- The address of the service. -/
  address : String
  /-- Whether the results are printed as JSON. -/
  asJson : Bool

/-- What a command prints, and why it ends early, if it does. -/
structure Outcome where
  /-- What is printed. -/
  output : Output := {}
  /-- The failure that ends it. -/
  failure : Option Failure := none
deriving Inhabited

namespace Session

variable {m : Type → Type} [Monad m]

/-- Print a value as JSON, or what people are to see of it. -/
def emit (session : Session m) (value : Json) (shown : Output) : Output :=
  if session.asJson then Output.line value.pretty else shown

/-- A call to the API. -/
def callTo (session : Session m) (method path : String) (body : Option Json := none) : Call :=
  { method, address := session.address ++ path, body }

/-- Make a call and go on with the JSON value of the reply. -/
def withJson (session : Session m) (call : Call) (next : Json → Output) : m Outcome := do
  match (← session.host.transport.call call).bind Reply.json with
  | .error error => return { failure := some (.call error) }
  | .ok value => return { output := session.emit value (next value) }

/-- Make a call and go on if it succeeded, whatever the body of the reply is. -/
def withSuccess (session : Session m) (call : Call) (value : Json) (shown : Output) :
    m Outcome := do
  match (← session.host.transport.call call).bind Reply.success with
  | .error error => return { failure := some (.call error) }
  | .ok _ => return { output := session.emit value shown }

/-- The string in a member of an object, or other words where it has none. -/
def textOr (value : Json) (name other : String) : String :=
  ((value.field? name).bind Json.string?).getD other

/-- Whether a member of an object is `true`. -/
def isTrue (value : Json) (name : String) : Bool := (value.field? name) matches some (.bool true)

/-- The items in a member of an object. -/
def itemsOf (value : Json) (name : String) : List Json :=
  match value.field? name with
  | some (.arr items) => items
  | _ => []

/-! ## Health -/

/-- What a check of an endpoint gives. -/
structure Check where
  /-- The path of the endpoint. -/
  endpoint : String
  /-- The status of the reply, or why there is none. -/
  result : Except CallError Nat
  /-- How long it took in milliseconds. -/
  elapsed : Nat

/-- Whether the endpoint is healthy. -/
def Check.isOk (check : Check) : Bool :=
  match check.result with
  | .ok status => isSuccess status
  | .error _ => false

/-- The check as JSON. -/
def Check.toJson (check : Check) : Json :=
  let (status, error) := match check.result with
    | .ok status => (Json.nat status, [])
    | .error error => (Json.null, [("error", Json.str error.message)])
  .obj ([("endpoint", .str check.endpoint), ("ok", .bool check.isOk), ("status", status),
    ("latency_ms", Json.nat check.elapsed)] ++ error)

/-- The check for people. -/
def Check.output (check : Check) : Output :=
  let endpoint := Output.padded 9 check.endpoint
  Output.report check.isOk (match check.result with
    | .ok status =>
      endpoint ++ " HTTP " ++ toString status ++ " in " ++ toString check.elapsed ++ "ms"
    | .error error => endpoint ++ " unreachable: " ++ error.message)

/-- Check an endpoint. -/
def check (session : Session m) (endpoint : String) : m Check := do
  let started ← session.host.clock
  let result ← session.host.transport.call (session.callTo "GET" endpoint)
  let ended ← session.host.clock
  return ⟨endpoint, result.map (·.status), ended - started⟩

/-- Check whether the service is healthy. -/
def health (session : Session m) : m Outcome := do
  let checks := [← session.check "/healthz", ← session.check "/ready"]
  return {
    output := session.emit (.arr (checks.map Check.toJson))
      (Output.concat (checks.map Check.output))
    failure := if checks.all Check.isOk then none else some (.unhealthy session.address) }

/-! ## Status -/

/-- The counters in an overview: their labels, in order, and their series. -/
def counters : List (String × String) := [
  ("failed", "tripwire_worker_notifications_failed_total"),
  ("messages", "tripwire_worker_messages_received_total"),
  ("reconciles", "tripwire_worker_reconcile_runs_total"),
  ("rule faults", "tripwire_worker_rule_faults_total"),
  ("rules matched", "tripwire_worker_rules_matched_total"),
  ("sent", "tripwire_worker_notifications_sent_total"),
  ("throttled", "tripwire_worker_notifications_throttled_total")]

/-- An overview of the service. -/
structure Overview where
  /-- The address of the service. -/
  address : String
  /-- Whether it can be reached. -/
  isReachable : Bool
  /-- Whether it is ready. -/
  isReady : Bool
  /-- The consumer group. -/
  group : Option String
  /-- The active subscriptions. -/
  topics : List String
  /-- How many rules there are, and how many are in force. -/
  rules : Option (Nat × Nat)
  /-- The counters. -/
  counts : List (String × Option Binary64)

/-- The overview as JSON. -/
def Overview.toJson (overview : Overview) : Json := .obj [
  ("server", .str overview.address),
  ("reachable", .bool overview.isReachable),
  ("ready", .bool overview.isReady),
  ("consumer_group", Json.ofOption .str overview.group),
  ("subscriptions", Json.strings overview.topics),
  ("rules", Json.ofOption (fun (total, _) => Json.nat total) overview.rules),
  ("enabled_rules", Json.ofOption (fun (_, enabled) => Json.nat enabled) overview.rules),
  ("counters", .obj (overview.counts.map fun (label, count) =>
    (label, Json.ofOption (fun x => .num (.float x)) count)))]

/-- The overview for people. -/
def Overview.output (overview : Overview) : Output :=
  let start := Output.heading "tripwire worker"
    ++ Output.field "server" overview.address
    ++ Output.choice "reachable" overview.isReachable "yes" "no"
    ++ Output.choice "ready" overview.isReady "yes" "waiting for first reconcile"
  if !overview.isReachable then start
  else
    let topics := if overview.topics.isEmpty then Output.remark "no active topics"
      else Output.concat (overview.topics.map (Output.field "topic"))
    let rules := match overview.rules with
      | some (total, enabled) =>
        Output.field "enabled" (toString enabled ++ " of " ++ toString total)
      | none => Output.remark "unavailable"
    let counts := overview.counts.map fun (label, count) =>
      Output.field label ((count.map fun x => (Reading.finite x).text).getD "-")
    start ++ Output.heading "subscriptions"
      ++ Output.field "consumer group" (overview.group.getD "-") ++ topics
      ++ Output.heading "rules" ++ rules
      ++ Output.heading "counters" ++ Output.concat counts ++ Output.line ""

/-- The JSON value of the reply to a call, if it has one. -/
def jsonOf? (result : Except CallError Reply) : Option Json := (result.bind Reply.json).toOption

/-- Show an overview of the service. -/
def status (session : Session m) : m Outcome := do
  let get (path : String) : m (Except CallError Reply) :=
    session.host.transport.call (session.callTo "GET" path)
  let health ← get "/healthz"
  let ready ← get "/ready"
  let subscriptions := jsonOf? (← get "/v1/subscriptions")
  let rules := jsonOf? (← get "/v1/rules")
  let exposition := (← get "/metrics").toOption.map (·.body)
  let overview : Overview := {
    address := session.address
    isReachable := health.toOption.isSome
    isReady := ready.toOption.any fun reply => isSuccess reply.status
    group := subscriptions.bind fun value => (value.field? "consumer_group").bind Json.string?
    topics := (subscriptions.map fun value =>
      (itemsOf value "topics").filterMap Json.string?).getD []
    rules := match rules with
      | some (.arr rules) => some (rules.length, rules.countP (isTrue · "enabled"))
      | _ => none
    counts := counters.map fun (label, series) =>
      (label, exposition.bind fun text => (Metrics.lookup? text series).bind Reading.finite?) }
  return { output := session.emit overview.toJson overview.output }

/-! ## Subscriptions -/

/-- Subscriptions for people. -/
def subscriptionsOutput (value : Json) : Output :=
  let topics := itemsOf value "topics"
  let start := Output.heading "active subscriptions"
    ++ Output.field "consumer group" (textOr value "consumer_group" "-")
  if topics.isEmpty then start ++ Output.remark "no topic has an enabled rule"
  else
    let rows := (List.range topics.length).zip topics |>.map fun (i, topic) =>
      [toString (i + 1), topic.string?.getD "-"]
    start ++ Output.lines (Table.render [⟨"#", false⟩, ⟨"TOPIC", false⟩] rows)

/-- Show the active subscriptions. -/
def subscriptions (session : Session m) : m Outcome :=
  session.withJson (session.callTo "GET" "/v1/subscriptions") subscriptionsOutput

/-! ## Rules -/

/-- The columns of a table of rules. -/
def ruleColumns : List Column := [⟨"ID", false⟩, ⟨"NAME", false⟩, ⟨"TOPIC", false⟩, ⟨"STATE", true⟩,
  ⟨"ACTIONS", false⟩, ⟨"THROTTLE", false⟩]

/-- The cells of a rule in a table. -/
def ruleRow (rule : Json) : List String := [
  textOr rule "id" "-", textOr rule "name" "-", textOr rule "topic" "-",
  if isTrue rule "enabled" then "on" else "off",
  toString (itemsOf rule "actions").length, throttleSummary rule]

/-- A list of rules for people. -/
def rulesOutput (topic : Option String) : Json → Output
  | .arr (rule :: rules) =>
    Output.lines (Table.render ruleColumns ((rule :: rules).map ruleRow))
      ++ Output.remark (toString (rules.length + 1) ++ " rule(s)")
  | _ => Output.remark (match topic with
    | some topic => "no rules bound to '" ++ topic ++ "'"
    | none => "no rules defined")

/-- A rule for people. -/
def ruleOutput (rule : Json) : Output :=
  let members := match rule with
    | .obj members => members
    | _ => []
  Output.heading (textOr rule "name" "rule")
    ++ Output.concat (members.map fun (name, value) =>
      Output.field name (value.string?.getD value.compact))

/-- Read a rule from a file, or from the text itself if there is no such file. -/
def ruleOf (session : Session m) (data : String) : m (Except Failure Json) := do
  let readText (text : String) : Except Failure Json :=
    match ruleOfText? text with
    | some rule => .ok rule
    | none => .error .badRule
  match ← session.host.file data with
  | .text text => return readText text
  | .unreadable => return .error (.badFile data)
  | .absent => return readText data

/-- Make a call with a rule. -/
def withRule (session : Session m) (data : String) (next : Json → m Outcome) : m Outcome := do
  match ← session.ruleOf data with
  | .ok rule => next rule
  | .error failure => return { failure := some failure }

/-- Do what cannot be undone if it is confirmed. Without a terminal nobody can be asked; JSON output
needs no confirmation. -/
def confirmed (session : Session m) (isConfirmed : Bool) (act : m Outcome) : m Outcome :=
  if isConfirmed || session.asJson then act
  else return { output := Output.remark "cancelled" }

/-- Run a command about rules. -/
def rules (session : Session m) : RuleCommand → m Outcome
  | .list topic =>
    let call := session.callTo "GET" "/v1/rules"
    session.withJson { call with query := topic.map ("topic", ·) } (rulesOutput topic)
  | .get id => session.withJson (session.callTo "GET" ("/v1/rules/" ++ id)) ruleOutput
  | .create data => session.withRule data fun rule =>
    session.withJson (session.callTo "POST" "/v1/rules" (some rule)) fun created =>
      Output.field "id" (textOr created "id" "-")
  | .update id data => session.withRule data fun rule =>
    session.withJson (session.callTo "PUT" ("/v1/rules/" ++ id) (some rule)) fun updated =>
      Output.field "topic" (textOr updated "topic" "-")
  | .delete id isConfirmed => session.confirmed isConfirmed <|
    session.withSuccess (session.callTo "DELETE" ("/v1/rules/" ++ id))
      (.obj [("deleted", .bool true), ("id", .str id)]) {}
  | .toggle id =>
    session.withJson (session.callTo "POST" ("/v1/rules/" ++ id ++ "/toggle")) fun rule =>
      let state := if isTrue rule "enabled" then "enabled" else "disabled"
      Output.report true ("rule '" ++ id ++ "' is now " ++ state)

/-! ## Throttle and hints -/

/-- How many windows were forgotten, as the reply says. -/
def clearedText (value : Json) : String := ((value.field? "cleared").getD .null).compact

/-- Default throttle settings for people. -/
def throttleOutput (value : Json) : Output :=
  let permits := (naturalMember? value "permits").getD 0
  let period := (naturalMember? value "period_seconds").getD 0
  Output.heading "throttle defaults"
    ++ Output.field "permits" (toString permits)
    ++ Output.field "period" (toString period ++ "s")
    ++ Output.field "rate" (toString permits ++ " per " ++ periodText period)

/-- Run a command about the throttle. -/
def throttle (session : Session m) : ThrottleCommand → m Outcome
  | .test rule =>
    session.withJson (session.callTo "POST" ("/v1/throttle/" ++ rule ++ "/test")) fun value =>
      Output.field "rule" rule
        ++ Output.choice "decision" (isTrue value "allowed") "allowed" "throttled"
  | .clear rule =>
    session.withJson (session.callTo "POST" ("/v1/throttle/" ++ rule ++ "/clear")) fun value =>
      Output.report true ("rule '" ++ rule ++ "': " ++ clearedText value ++ " window(s) reset")
  | .clearAll isConfirmed => session.confirmed isConfirmed <|
    session.withJson (session.callTo "DELETE" "/v1/throttle") fun value =>
      Output.report true (clearedText value ++ " window(s) reset")
  | .config => session.withJson (session.callTo "GET" "/v1/throttle/config") throttleOutput

/-- Hint at a topic. -/
def hint (session : Session m) (kind : HintKind) (topic : String) : m Outcome :=
  let name := match kind with
    | .added => "topic-added"
    | .removed => "topic-removed"
  session.withSuccess (session.callTo "POST" ("/v1/hints/" ++ name ++ "/" ++ topic))
    (.obj [("hint", .str name), ("topic", .str topic)])
    (Output.report true (name ++ " hint queued for '" ++ topic ++ "'"))

/-! ## Version -/

/-- The name of the program. -/
def programName : String := "tripwire_cli"

/-- The version of the program. -/
def programVersion : String := "0.1.0"

/-- The program for people. -/
def versionOutput (platform : String) : Output :=
  Output.line "  ╔╦╗╦═╗╦╔═╗╦ ╦╦╦═╗╔═╗"
    ++ Output.line "   ║ ╠╦╝║╠═╝║║║║╠╦╝║╣ "
    ++ Output.line "   ╩ ╩╚═╩╩  ╚╩╝╩╩╚═╚═╝"
    ++ Output.remark "topic rules → slack"
    ++ Output.line ""
    ++ Output.field "version" programVersion
    ++ Output.field "target" platform
    ++ Output.field "default api" defaultAddress
    ++ Output.line ""

/-- Show the version of the program. -/
def version (session : Session m) : Outcome :=
  let platform := session.host.platform
  { output := session.emit (.obj [("cli", .str programName), ("version", .str programVersion),
      ("target", .str platform), ("default_api", .str defaultAddress)]) (versionOutput platform) }

/-- Run a command. -/
def run (session : Session m) : Command → m Outcome
  | .health => session.health
  | .status => session.status
  | .subscriptions => session.subscriptions
  | .rules command => session.rules command
  | .throttle command => session.throttle command
  | .hint kind topic => session.hint kind topic
  | .version => return session.version

end Session

/-- How a command line ends. -/
structure Result where
  /-- The exit code. -/
  code : Nat
  /-- What is printed. -/
  output : Output
  /-- The error that ended the command. -/
  error : Option String
deriving DecidableEq, Repr

/-- Run a command line. -/
def run {m : Type → Type} [Monad m] (host : Host m) (arguments : List String) : m Result := do
  match Invocation.ofArguments arguments with
  | .error () => return ⟨2, {}, none⟩
  | .ok none => return ⟨0, {}, none⟩
  | .ok (some invocation) =>
    let session := { host, address := address invocation.server, asJson := invocation.asJson }
    let outcome ← Session.run session invocation.command
    match outcome.failure with
    | some failure => return ⟨1, outcome.output, some failure.message⟩
    | none => return ⟨0, outcome.output, none⟩

end TopicAlerts.Console
