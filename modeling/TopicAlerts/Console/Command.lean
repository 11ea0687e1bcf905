import TopicAlerts.Console.Arguments

/-!
# Commands

What can be asked for at the command line, and the arguments that say so.
-/

namespace TopicAlerts.Console

/-- A command about rules. -/
inductive RuleCommand
  /-- Show all rules, or those on one topic. -/
  | list (topic : Option String)
  /-- Show a rule. -/
  | get (id : String)
  /-- Create a rule. -/
  | create (data : String)
  /-- Change a rule. -/
  | update (id data : String)
  /-- Delete a rule. -/
  | delete (id : String) (isConfirmed : Bool)
  /-- Put a rule in force, or out of it. -/
  | toggle (id : String)
deriving DecidableEq, Repr

/-- A command about the throttle. -/
inductive ThrottleCommand
  /-- Test the throttle of a rule. -/
  | test (rule : String)
  /-- Forget the throttle windows of a rule. -/
  | clear (rule : String)
  /-- Forget all throttle windows. -/
  | clearAll (isConfirmed : Bool)
  /-- Show the default settings. -/
  | config
deriving DecidableEq, Repr

/-- What a hint says of a topic. -/
inductive HintKind
  /-- It has become required. -/
  | added
  /-- It is required no more. -/
  | removed
deriving DecidableEq, Repr

/-- A command. -/
inductive Command
  /-- Check whether the service is healthy. -/
  | health
  /-- Show an overview of the service. -/
  | status
  /-- Show the active subscriptions. -/
  | subscriptions
  /-- A command about rules. -/
  | rules (command : RuleCommand)
  /-- A command about the throttle. -/
  | throttle (command : ThrottleCommand)
  /-- Hint at a topic. -/
  | hint (kind : HintKind) (topic : String)
  /-- Show the version of the program. -/
  | version
deriving DecidableEq, Repr

/-- A command with the options that all commands have. -/
structure Invocation where
  /-- Whether the results are printed as JSON. -/
  asJson : Bool
  /-- The address of the service. -/
  server : Option String
  /-- The command. -/
  command : Command
deriving DecidableEq, Repr

/-- The options that all commands have. -/
def globalFlags : List Flag := [{ name := "json" }, { name := "server", hasValue := true }]

/-- The option that confirms what cannot be undone. -/
def confirmation : Flag := { name := "yes" }

/-- The option with a rule. -/
def ruleData : Flag := { name := "data", hasValue := true, isRequired := true }

/-- The commands and what they need. -/
def usage : Usage := .commands [
  ("health", .operands [] []),
  ("status", .operands [] []),
  ("subscriptions", .operands [] []),
  ("rules", .commands [
    ("list", .operands [{ name := "topic", hasValue := true }] []),
    ("get", .operands [] ["id"]),
    ("create", .operands [ruleData] []),
    ("update", .operands [ruleData] ["id"]),
    ("delete", .operands [confirmation] ["id"]),
    ("toggle", .operands [] ["id"])]),
  ("throttle", .commands [
    ("test", .operands [] ["rule"]),
    ("clear", .operands [] ["rule"]),
    ("clear-all", .operands [confirmation] []),
    ("config", .operands [] [])]),
  ("hint", .commands [
    ("added", .operands [] ["topic"]),
    ("removed", .operands [] ["topic"])]),
  ("version", .operands [] [])]

/-- The command that was given. -/
def Command.ofGiven? (given : Given) : Option Command :=
  let option? (name : String) : Option String := given.options.lookup name
  match given.path, given.operands with
  | ["health"], [] => some .health
  | ["status"], [] => some .status
  | ["subscriptions"], [] => some .subscriptions
  | ["version"], [] => some .version
  | ["rules", "list"], [] => some (.rules (.list (option? "topic")))
  | ["rules", "get"], [id] => some (.rules (.get id))
  | ["rules", "create"], [] => (option? "data").map fun data => .rules (.create data)
  | ["rules", "update"], [id] => (option? "data").map fun data => .rules (.update id data)
  | ["rules", "delete"], [id] => some (.rules (.delete id (option? "yes").isSome))
  | ["rules", "toggle"], [id] => some (.rules (.toggle id))
  | ["throttle", "test"], [rule] => some (.throttle (.test rule))
  | ["throttle", "clear"], [rule] => some (.throttle (.clear rule))
  | ["throttle", "clear-all"], [] => some (.throttle (.clearAll (option? "yes").isSome))
  | ["throttle", "config"], [] => some (.throttle .config)
  | ["hint", "added"], [topic] => some (.hint .added topic)
  | ["hint", "removed"], [topic] => some (.hint .removed topic)
  | _, _ => none

/-- The command of a command line: `none` stands for a request for help. -/
def Invocation.ofArguments (arguments : List String) : Except Unit (Option Invocation) :=
  match usage.parse globalFlags arguments with
  | .help => .ok none
  | .invalid => .error ()
  | .given given =>
    match Command.ofGiven? given with
    | none => .error ()
    | some command => .ok (some {
        asJson := (given.options.lookup "json").isSome
        server := given.options.lookup "server"
        command })

end TopicAlerts.Console
