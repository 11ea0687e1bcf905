import TopicAlerts.Json.Reader
import TopicAlerts.Text.Blank
import TopicAlerts.Web.Status
import TopicAlerts.Web.Url

/-!
# Exchanges with servers

A request goes to the server that its address names, and comes back with a reply unless there is no
connection. `CallError` says why a request did not lead to what was asked for.
-/

namespace TopicAlerts.Web

/-- A request to a server. -/
structure Request where
  /-- The method. -/
  method : String
  /-- The address. -/
  url : Url
  /-- The body. -/
  body : Option Json

/-- The reply of a server. -/
structure Reply where
  /-- The status. -/
  status : Nat
  /-- The body. -/
  body : String
deriving DecidableEq, Repr

/-- A way to exchange a request for a reply; there is none without a connection. -/
abbrev Transport (m : Type → Type) := Request → m (Option Reply)

/-- Why a request did not lead to what was asked for. -/
inductive CallError
  /-- The text is no address. -/
  | badAddress
  /-- Requests cannot be sent to the address. -/
  | unsupportedAddress (url : Url)
  /-- There is no connection. -/
  | unreachable (url : Url)
  /-- The server answers with an error. -/
  | refused (status : Nat) (message : String)
  /-- The body of the reply is not the expected JSON. -/
  | notJson
deriving DecidableEq, Repr

/-- A description of the error. -/
def CallError.message : CallError → String
  | .badAddress => "builder error"
  | .unsupportedAddress url => "builder error for url (" ++ url.text ++ ")"
  | .unreachable url => "error sending request for url (" ++ url.text ++ ")"
  | .refused status message =>
    "HTTP " ++ statusText "<unknown status code>" status ++ ": " ++ message
  | .notJson => "error decoding response body"

/-- What is to be requested, before the address is read. -/
structure Call where
  /-- The method. -/
  method : String
  /-- The text of the address. -/
  address : String
  /-- A name and a value for the query. -/
  query : Option (String × String) := none
  /-- The body. -/
  body : Option Json := none

/-- The request of a call. -/
def Call.request (call : Call) : Except CallError Request :=
  match Url.ofText? call.address with
  | none => .error .badAddress
  | some url =>
    let url := match call.query with
      | some (name, value) => url.addQuery name value
      | none => url
    if url.isForRequests then .ok ⟨call.method, url, call.body⟩
    else .error (.unsupportedAddress url)

/-- Make a call, whatever the status of the reply is. -/
def Transport.call {m : Type → Type} [Monad m] (transport : Transport m) (call : Call) :
    m (Except CallError Reply) :=
  match call.request with
  | .error error => return .error error
  | .ok request => do
    match ← transport request with
    | some reply => return .ok reply
    | none => return .error (.unreachable request.url)

/-- What a server says in the body of an error: the member `error` of an object if it is a string,
else the text without the blank characters at its ends. -/
def errorText (body : String) : String :=
  match (Json.parse? body).bind fun value => (value.field? "error").bind Json.string? with
  | some message => message
  | none => Text.trim body

/-- The reply, if it says that the request succeeded. -/
def Reply.success (reply : Reply) : Except CallError Reply :=
  if isSuccess reply.status then .ok reply
  else .error (.refused reply.status (errorText reply.body))

/-- The JSON value of the body of a reply that says that the request succeeded. -/
def Reply.json (reply : Reply) : Except CallError Json := do
  let reply ← reply.success
  match Json.parse? reply.body with
  | some value => return value
  | none => .error .notJson

end TopicAlerts.Web
