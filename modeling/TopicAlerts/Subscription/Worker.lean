import TopicAlerts.Broker

/-!
# Topic workers

A topic worker takes the messages of one stream in order and hands each to a handler. Before each
message it looks whether it was asked to stop. It leaves its loop when it was, or when the stream
has ended; then it closes the stream, and then it signals that it is finished.
-/

namespace TopicAlerts

/-- What a topic worker is doing. -/
inductive TopicWorker.Phase
  /-- It waits for a message, or is about to take one, or is on its way out. -/
  | receiving
  /-- Its handler works on a message. -/
  | handling
  /-- It is finished. -/
  | finished
deriving DecidableEq, Repr

/-- How far a topic worker is on its way out. -/
inductive TopicWorker.Exit
  /-- It is in its loop. -/
  | inLoop
  /-- It has left its loop, but not closed its stream. -/
  | left
  /-- It has closed its stream. -/
  | closed
deriving DecidableEq, Repr

/-- A topic worker. -/
structure TopicWorker where
  /-- Its topic. -/
  topic : String
  /-- Its stream. -/
  stream : Nat
  /-- Whether it was asked to stop. -/
  stopping : Bool := false
  /-- What it is doing. -/
  phase : TopicWorker.Phase := .receiving
deriving DecidableEq, Repr

/-- What a topic worker does in one step. -/
inductive TopicWorker.Step
  /-- It hands a message to its handler. -/
  | handle (message : Broker.Message)
  /-- It leaves its loop. -/
  | leave
  /-- It closes its stream. -/
  | close
  /-- It signals that it is finished. -/
  | finish
  /-- There is nothing to do. -/
  | wait
deriving DecidableEq, Repr

/-- What a topic worker does in its turn. -/
inductive TopicWorker.Turn
  /-- It hands a message to its handler. -/
  | handle (message : Broker.Message)
  /-- It closes its stream and finishes. -/
  | finish
  /-- There is nothing to do. -/
  | wait
deriving DecidableEq, Repr

namespace TopicWorker

/-- Whether a worker is finished. -/
def isFinished (worker : TopicWorker) : Bool := worker.phase == .finished

/-- One step of a worker: a round of its loop, or a part of its way out. -/
def step (worker : TopicWorker) (exit : Exit) (broker : Broker) :
    Step × TopicWorker × Exit × Broker :=
  match worker.phase, exit with
  | .receiving, .inLoop =>
    if worker.stopping then (.leave, worker, .left, broker)
    else match broker.receive worker.stream with
      | (.message message, broker) =>
        (.handle message, { worker with phase := .handling }, .inLoop, broker)
      | (.ended, broker) => (.leave, worker, .left, broker)
      | (.pending, broker) => (.wait, worker, .inLoop, broker)
  | .receiving, .left => (.close, worker, .closed, broker.close worker.stream)
  | .receiving, .closed => (.finish, { worker with phase := .finished }, .closed, broker)
  | .handling, exit | .finished, exit => (.wait, worker, exit, broker)

/-- One turn of a worker that is in its loop: a step, and the whole way out if it leaves the loop,
where nothing waits. -/
def turn (worker : TopicWorker) (broker : Broker) : Turn × TopicWorker × Broker :=
  match worker.step .inLoop broker with
  | (.handle message, worker, _, broker) => (.handle message, worker, broker)
  | (.leave, worker, exit, broker) =>
    let (_, worker, exit, broker) := worker.step exit broker
    let (_, worker, _, broker) := worker.step exit broker
    (.finish, worker, broker)
  | (_, worker, _, broker) => (.wait, worker, broker)

/-- The worker after its handler returned. -/
def returned (worker : TopicWorker) : TopicWorker := { worker with phase := .receiving }

end TopicWorker

end TopicAlerts
