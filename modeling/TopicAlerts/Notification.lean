import TopicAlerts.Metrics
import TopicAlerts.Rule
import TopicAlerts.Template

/-!
# Notifications

An action of the known sort and provider fills its template with the message and hands the text to
a notifier. The notifier may answer each call as it likes; it may also crash, or never answer. The
journal keeps what was handed over, and the counts.
-/

namespace TopicAlerts

/-- What a notifier does with a call. -/
inductive Answer
  /-- It sends the text. -/
  | sent
  /-- It reports a failure. -/
  | failed
  /-- It crashes. -/
  | crashed
  /-- It never answers. -/
  | silent
deriving DecidableEq, Repr

/-- A text for a webhook. -/
structure Post where
  /-- The address of the webhook. -/
  url : String
  /-- The text. -/
  text : String
deriving DecidableEq, Repr

/-- A notifier: what it does with its `n`-th call. -/
abbrev Notifier := (n : Nat) → Post → Answer

/-- What was handed to the notifier, and the counts. -/
structure Journal where
  /-- The texts that were handed over, in order. -/
  posts : List Post
  /-- The counts. -/
  metrics : Metrics
deriving DecidableEq, Repr

/-- How an action ended. -/
inductive Outcome
  /-- The notification was sent. -/
  | sent
  /-- The notifier reported a failure. -/
  | failed
  /-- The sort of action or the provider is not known. -/
  | unsupported
  /-- The address or the text is missing. -/
  | invalid
  /-- The notifier crashed. -/
  | crashed
  /-- The notifier never answers. -/
  | stuck
deriving DecidableEq, Repr

namespace Journal

/-- The journal before anything happens. -/
def empty : Journal := ⟨[], {}⟩

/-- Change the counts. -/
def count (journal : Journal) (change : Metrics → Metrics) : Journal :=
  { journal with metrics := change journal.metrics }

/-- Hand a text to the notifier. -/
def send (journal : Journal) (notifier : Notifier) (post : Post) : Outcome × Journal :=
  let answer := notifier journal.posts.length post
  let journal := { journal with posts := journal.posts ++ [post] }
  match answer with
  | .sent => (.sent, journal.count fun m => { m with notificationsSent := m.notificationsSent + 1 })
  | .failed =>
    (.failed, journal.count fun m => { m with notificationsFailed := m.notificationsFailed + 1 })
  | .crashed => (.crashed, journal)
  | .silent => (.stuck, journal)

end Journal

namespace Action

/-- The text that an action is to send, and where to. -/
def post? (action : Action) (message : Message) : Option Post := do
  let url ← (action.param? "webhookURL").filter (!·.isEmpty)
  let template ← action.param? "message"
  return ⟨url, Template.render template message⟩

/-- Do what an action says for a message. -/
def dispatch (action : Action) (notifier : Notifier) (message : Message) (journal : Journal) :
    Outcome × Journal :=
  match action.kind?, action.provider? with
  | some .call, some .slack =>
    match action.post? message with
    | some post => journal.send notifier post
    | none => (.invalid, journal)
  | _, _ => (.unsupported, journal)

end Action

end TopicAlerts
