import TopicAlerts.Notification
import TopicAlerts.Throttle.Registry

/-!
# The message processor

A message is looked at by all rules in force on its topic, one after the other. A rule that matches
asks the throttle registry, and if it may notify, its actions are done in order. A crash of the
notifier ends the work on that rule only; a notifier that never answers ends the work on the
message.
-/

namespace TopicAlerts

/-- What was done with a message. -/
structure MessageReport where
  /-- Rules that were evaluated to their end. -/
  evaluated : Nat := 0
  /-- Rules among them that matched. -/
  matched : Nat := 0
  /-- Rules that matched and were throttled. -/
  throttled : Nat := 0
  /-- Notifications that were sent. -/
  dispatched : Nat := 0
  /-- Actions that did not lead to a notification. -/
  failed : Nat := 0
  /-- Rules that crashed. -/
  faulted : Nat := 0
deriving DecidableEq, Repr

/-- The sums of two reports. -/
def MessageReport.add (a b : MessageReport) : MessageReport where
  evaluated := a.evaluated + b.evaluated
  matched := a.matched + b.matched
  throttled := a.throttled + b.throttled
  dispatched := a.dispatched + b.dispatched
  failed := a.failed + b.failed
  faulted := a.faulted + b.faulted

/-- What the processing of messages works on. -/
structure Processor where
  /-- The throttle windows. -/
  throttle : Throttle.Registry
  /-- What was handed to the notifier, and the counts. -/
  journal : Journal

/-- How the work on a rule ends. -/
inductive RuleRun
  /-- It is done. -/
  | done (report : MessageReport)
  /-- The notifier crashed. -/
  | crashed
  /-- The notifier never answers. -/
  | stuck
deriving DecidableEq, Repr

namespace Processor

/-- Change the counts. -/
def count (processor : Processor) (change : Metrics → Metrics) : Processor :=
  { processor with journal := processor.journal.count change }

/-- Do the actions of a rule in order, the sums so far being those of the report. -/
def runActions (notifier : Notifier) (message : Message) :
    List Action → MessageReport → Journal → RuleRun × Journal
  | [], report, journal => (.done report, journal)
  | action :: rest, report, journal =>
    let (outcome, journal) := action.dispatch notifier message journal
    match outcome with
    | .sent =>
      runActions notifier message rest { report with dispatched := report.dispatched + 1 } journal
    | .failed | .unsupported | .invalid =>
      runActions notifier message rest { report with failed := report.failed + 1 } journal
    | .crashed => (.crashed, journal)
    | .stuck => (.stuck, journal)

/-- The throttle settings in effect for a rule. -/
def settingsOf (throttle : Throttle.Registry) (spec : RuleSpec) : Throttle.Settings :=
  throttle.effective (spec.periodSeconds?.map (· * Throttle.nanosOfSecond))
    (spec.permits.map UInt32.toNat)

/-- Let a rule look at a message. -/
def runRule (notifier : Notifier) (now : Int) (message : Message) (rule : Rule)
    (processor : Processor) : RuleRun × Processor :=
  let processor := processor.count fun m => { m with rulesEvaluated := m.rulesEvaluated + 1 }
  if !rule.isMatch message then (.done { evaluated := 1 }, processor)
  else
    let processor := processor.count fun m => { m with rulesMatched := m.rulesMatched + 1 }
    let settings := settingsOf processor.throttle rule.toRuleSpec
    let (allowed, throttle) := processor.throttle.shouldSend rule.id settings now
    let processor := { processor with throttle }
    if !allowed then
      (.done { evaluated := 1, matched := 1, throttled := 1 }, processor.count fun m =>
        { m with notificationsThrottled := m.notificationsThrottled + 1 })
    else
      let (run, journal) :=
        runActions notifier message rule.actions { evaluated := 1, matched := 1 } processor.journal
      (run, { processor with journal })

/-- Let rules look at a message one after the other, the sums so far being those of the report;
`none` if the work never ends. -/
def runRules (notifier : Notifier) (now : Int) (message : Message) :
    List Rule → MessageReport → Processor → Option MessageReport × Processor
  | [], report, processor => (some report, processor)
  | rule :: rest, report, processor =>
    match runRule notifier now message rule processor with
    | (.done part, processor) => runRules notifier now message rest (report.add part) processor
    | (.crashed, processor) =>
      runRules notifier now message rest { report with faulted := report.faulted + 1 }
        (processor.count fun m => { m with ruleFaults := m.ruleFaults + 1 })
    | (.stuck, processor) => (none, processor)

/-- Work off a message with the rules in force on its topic, or without any if they cannot be
reached; `none` if the work never ends. -/
def onMessage (notifier : Notifier) (now : Int) (rules : Option (List Rule)) (raw : String)
    (processor : Processor) : Option MessageReport × Processor :=
  let processor := processor.count fun m => { m with messagesReceived := m.messagesReceived + 1 }
  match rules with
  | none => (some {}, processor)
  | some rules =>
    match runRules notifier now (Message.parse raw) rules {} processor with
    | (some report, processor) =>
      (some report, processor.count fun m => { m with latencyCount := m.latencyCount + 1 })
    | (none, processor) => (none, processor)

end Processor

end TopicAlerts
