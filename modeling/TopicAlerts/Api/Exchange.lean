import TopicAlerts.Api
import TopicAlerts.Web.Exchange

/-!
# Exchanges with the service

How a service answers the requests of a client that runs in the same process.
-/

namespace TopicAlerts.Api

/-- The request that reaches the service, if its address can stand in a request line. -/
def Request.ofWeb? (request : Web.Request) : Option Request :=
  (Target.ofText? request.url.target).map fun target =>
    { method := request.method
      target
      mediaType := request.body.map fun _ => "application/json"
      body := match request.body with
        | some value => Utf8.encode value.compact
        | none => [] }

/-- What a client gets to see of a response. -/
def Response.reply (response : Response) : Web.Reply :=
  ⟨response.status, if Web.hasBody response.status then response.text else ""⟩

/-- Exchange a request for a reply at a time in milliseconds. -/
def exchange (now : Int64) (request : Web.Request) (service : Service) :
    Option Web.Reply × Service :=
  match Request.ofWeb? request with
  | none => (none, service)
  | some request =>
    let (response, service) := handle now request service
    (some response.reply, service)

end TopicAlerts.Api
