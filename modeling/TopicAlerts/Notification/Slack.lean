import TopicAlerts.Web.Exchange

/-!
# Webhooks

How a text is sent to a webhook of the chat service: as the member `text` of a JSON object. A reply
whose status is that of an error is a failure.
-/

namespace TopicAlerts.Slack

open Web

/-- The name of the notifier. -/
def name : String := "slack"

/-- The body of the request for a text. -/
def payload (text : String) : Json := .obj [("text", .str text)]

/-- Why a text was not sent. -/
inductive Failure
  /-- The webhook cannot be called. -/
  | call (error : CallError)
  /-- The webhook answers with an error. -/
  | refused (status : Nat) (url : Url)
deriving DecidableEq, Repr

/-- A description of the failure. -/
def Failure.message : Failure → String
  | .call error => "notify: " ++ error.message
  | .refused status url =>
    "notify: HTTP status " ++ (if isClientError status then "client" else "server") ++ " error ("
      ++ statusText "<none>" status ++ ") for url (" ++ url.text ++ ")"

/-- Send a text to a webhook. -/
def send {m : Type → Type} [Monad m] (transport : Transport m) (address text : String) :
    m (Except Failure Unit) :=
  match (Call.mk "POST" address none (some (payload text))).request with
  | .error error => return .error (.call error)
  | .ok request => do
    match ← transport request with
    | none => return .error (.call (.unreachable request.url))
    | some reply =>
      if isClientError reply.status || isServerError reply.status then
        return .error (.refused reply.status request.url)
      else return .ok ()

end TopicAlerts.Slack
