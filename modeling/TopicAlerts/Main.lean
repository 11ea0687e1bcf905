import TopicAlerts.Api.Exchange
import TopicAlerts.Config
import TopicAlerts.Console.Run

/-!
# The program

The command line of the service, run against a service of its own in the same process.
-/

namespace TopicAlerts

/-- The machine that the program runs on, with a service in the default configuration. -/
def localHost : Console.Host (StateT Service IO) where
  transport request := fun service => do
    let now ← IO.monoMsNow
    return Api.exchange (Int64.ofNat now) request service
  file path := fun service => do
    try
      return (.text (← IO.FS.readFile path), service)
    catch _ => return (.absent, service)
  clock := fun service => return (← IO.monoMsNow, service)
  platform := "local"

end TopicAlerts

/-- Run a command line: print what it gives, and end with its exit code. -/
def main (arguments : List String) : IO UInt32 := do
  let service := TopicAlerts.Service.new (TopicAlerts.Config.standard.settings .numbered)
  let (result, _) ← (TopicAlerts.Console.run TopicAlerts.localHost arguments).run service
  (← IO.getStdout).putStr result.output.results
  (← IO.getStderr).putStr result.output.errors
  match result.error with
  | some message => (← IO.getStderr).putStrLn ("Error: " ++ message)
  | none => pure ()
  return UInt32.ofNat result.code
