import TopicAlerts.Json.Printer
import TopicAlerts.Text.Blank
import TopicAlerts.Yaml.Reader

/-!
# Small texts of the console

The address of the service, the summary of a rule's throttle, the words for a length of time, and
how a rule is read that somebody gives at the command line.
-/

namespace TopicAlerts.Console

/-- The address of the service, if none is given. -/
def defaultAddress : String := "http://127.0.0.1:9090"

/-- The address of the service: what is given without the blank characters at its ends, unless
nothing is left, and without slashes at its end. -/
def address (given : Option String) : String :=
  let trimmed := Text.trim (given.getD "")
  let base := if trimmed.isEmpty then defaultAddress else trimmed
  String.ofList (base.toList.reverse.dropWhile (· == '/')).reverse

/-- The natural number of a value, if it is one. -/
def natural? : Json → Option Nat
  | .num (.int n) => if 0 ≤ n then some n.toNat else none
  | _ => none

/-- The member of an object as a natural number. -/
def naturalMember? (value : Json) (name : String) : Option Nat := (value.field? name).bind natural?

/-- The throttle settings of a rule's own, if it has any: notifications per minutes. -/
def throttleSummary (rule : Json) : String :=
  let shown (n : Option Nat) : String := (n.map toString).getD "-"
  match naturalMember? rule "throttle_permits", naturalMember? rule "throttle_period_minutes" with
  | none, none => "default"
  | permits, minutes => shown permits ++ "/" ++ shown minutes ++ "m"

/-- A length of time in the greatest unit of which it is a multiple. No time is no limit. -/
def periodText (seconds : Nat) : String :=
  if seconds = 0 then "unlimited"
  else if seconds % 3600 = 0 then toString (seconds / 3600) ++ "h"
  else if seconds % 60 = 0 then toString (seconds / 60) ++ "m"
  else toString seconds ++ "s"

/-- Read the text of a rule, which may be YAML or JSON. -/
def ruleOfText? (text : String) : Option Json := Yaml.readString? Yaml.readValue text

end TopicAlerts.Console
