import TopicAlerts.Json.Reader
import TopicAlerts.RuleStore

/-!
# Responses

What the API answers, and how its errors become responses.
-/

namespace TopicAlerts

/-- The status of the response for an error. -/
def StoreError.status : StoreError → Nat
  | .duplicate .. => 409
  | .notFound _ => 404
  | .unavailable _ => 503
  | .missingName | .invalidTopic _ | .invalidRule _ | .noActions => 400

namespace Api

/-- The body of a response. -/
inductive Body
  /-- No body. -/
  | empty
  /-- A JSON value. -/
  | json (value : Json)
  /-- A text of the given media type. -/
  | text (mediaType text : String)

/-- A response. -/
structure Response where
  /-- The status. -/
  status : Nat
  /-- The body. -/
  body : Body := .empty
  /-- The methods that are allowed, where the method was not. -/
  allow : List String := []

namespace Response

/-- A response with a status only. -/
def ofStatus (status : Nat) : Response := { status }

/-- A response with a JSON body. -/
def ofJson (status : Nat) (value : Json) : Response := { status, body := .json value }

/-- A response with a plain text. -/
def ofText (status : Nat) (text : String) : Response :=
  { status, body := .text "text/plain; charset=utf-8" text }

/-- The response for an error. -/
def ofError (error : StoreError) : Response :=
  ofJson error.status (.obj [("error", .str error.message)])

/-- The response for a body that cannot be read. -/
def ofFault : Json.Fault → Response
  | .notJson => ofText 400 "Failed to parse the request body as JSON"
  | .mismatch path problem =>
    let place := if path.isEmpty then "" else Json.pathText path ++ ": "
    ofText 422 ("Failed to deserialize the JSON body into the target type: " ++ place
      ++ problem.message)

/-- The text of the body. -/
def text (response : Response) : String :=
  match response.body with
  | .empty => ""
  | .json value => value.compact
  | .text _ text => text

end Response

end Api

end TopicAlerts
