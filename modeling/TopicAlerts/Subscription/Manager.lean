import TopicAlerts.Subscription.Worker
import TopicAlerts.Text.Order
import TopicAlerts.Topic

/-!
# The subscription manager

The manager keeps one topic worker for each topic that it is subscribed to. Its operations
subscribe to a topic, unsubscribe from one, and reconcile the subscriptions with a set of topics.
Several may be in progress at the same time: work on one topic is done under the lock of that topic,
and only one reconciliation is done at a time; who comes first goes first.

Only one thing takes time: a worker that is asked to stop while its handler works. The manager
waits for it up to the stop timeout, and then aborts it.

`Manager.advance` takes an operation as far as it gets without waiting.
-/

namespace TopicAlerts

/-- What a reconciliation did, topic by topic. -/
structure ReconcileReport where
  /-- Topics that were subscribed to. -/
  added : List String := []
  /-- Topics that were unsubscribed from. -/
  removed : List String := []
  /-- Topics to which subscribing failed. -/
  failed : List String := []
deriving DecidableEq, Repr

/-- Work on one topic. -/
inductive Job
  /-- Subscribe to the topic. -/
  | subscribe (topic : String)
  /-- Unsubscribe from the topic. -/
  | unsubscribe (topic : String)
deriving DecidableEq, Repr

/-- How far the work on a topic is. -/
inductive Job.Phase
  /-- It waits for the lock of the topic. -/
  | queued
  /-- It waits for a worker to stop, until this time. -/
  | stopping (deadline : Nat)
deriving DecidableEq, Repr

/-- An operation in progress. -/
inductive Operation
  /-- A reconciliation that waits for its turn. -/
  | waiting (required : List String)
  /-- Work on topics one after the other, the first being worked on; in a reconciliation or not. -/
  | working (reconciling : Bool) (phase : Job.Phase) (jobs : List Job) (report : ReconcileReport)
  /-- An operation that is finished. -/
  | done (report : ReconcileReport)
deriving DecidableEq, Repr

/-- The subscriptions and what belongs to them. -/
structure Manager where
  /-- The broker. -/
  broker : Broker
  /-- The consumer group that the manager subscribes in. -/
  group : String
  /-- How long it waits for a worker to stop, in milliseconds. -/
  stopTimeout : Nat
  /-- The workers, one for each topic that has one. -/
  workers : List TopicWorker
  /-- The locks of topics, each with the operations that hold it or wait for it. -/
  locks : List (String × List Nat)
  /-- The operations that reconcile or wait to do so. -/
  turns : List Nat
  /-- How many subscriptions failed. -/
  failures : Nat
  /-- How many reconciliations were done. -/
  runs : Nat
  /-- The number of workers as it was last published. -/
  gauge : Nat

namespace ReconcileReport

/-- The report after a job with this result. -/
def note (report : ReconcileReport) : Job → Bool → ReconcileReport
  | .subscribe topic, true => { report with added := report.added ++ [topic] }
  | .subscribe topic, false => { report with failed := report.failed ++ [topic] }
  | .unsubscribe topic, true => { report with removed := report.removed ++ [topic] }
  | .unsubscribe _, false => report

end ReconcileReport

/-- The topic of a job. -/
def Job.topic : Job → String
  | .subscribe topic => topic
  | .unsubscribe topic => topic

namespace Manager

/-- A manager without subscriptions. -/
def new (group : String) (stopTimeout : Nat) : Manager :=
  ⟨Broker.empty, group, stopTimeout, [], [], [], 0, 0, 0⟩

/-! ## Workers -/

/-- The worker of a topic. -/
def worker? (manager : Manager) (topic : String) : Option TopicWorker :=
  manager.workers.find? (·.topic == topic)

/-- Put a worker in the place of the one of its topic. -/
def setWorker (manager : Manager) (worker : TopicWorker) : Manager :=
  { manager with
    workers := manager.workers.map fun old => if old.topic == worker.topic then worker else old }

/-- Forget the worker of a topic. -/
def removeWorker (manager : Manager) (topic : String) : Manager :=
  { manager with workers := manager.workers.filter (·.topic != topic) }

/-- Publish the number of workers. -/
def publishGauge (manager : Manager) : Manager := { manager with gauge := manager.workers.length }

/-- The topics of the workers that are not finished, in order. -/
def active (manager : Manager) : List String :=
  sortTexts ((manager.workers.filter (!·.isFinished)).map (·.topic))

/-- Whether a topic has a worker that is not finished. -/
def isSubscribed (manager : Manager) (topic : String) : Bool :=
  match manager.worker? topic with
  | some worker => !worker.isFinished
  | none => false

/-- One turn of the worker of a topic. -/
def turn (manager : Manager) (worker : TopicWorker) : TopicWorker.Turn × Manager :=
  let (turn, worker, broker) := worker.turn manager.broker
  (turn, { manager with broker }.setWorker worker)

/-! ## Locks -/

/-- The operations that hold the lock of a topic or wait for it. -/
def queueOf (manager : Manager) (topic : String) : Option (List Nat) := manager.locks.lookup topic

/-- Put an operation at the end of the queue of a lock, unless it is in it. -/
def enterIn (topic : String) (caller : Nat) : List (String × List Nat) → List (String × List Nat)
  | [] => [(topic, [caller])]
  | (t, queue) :: rest =>
    if t = topic then (t, if queue.contains caller then queue else queue ++ [caller]) :: rest
    else (t, queue) :: enterIn topic caller rest

/-- Ask for the lock of a topic. -/
def enter (manager : Manager) (topic : String) (caller : Nat) : Manager :=
  { manager with locks := enterIn topic caller manager.locks }

/-- Whether an operation holds the lock of a topic. -/
def holds (manager : Manager) (topic : String) (caller : Nat) : Bool :=
  ((manager.queueOf topic).bind List.head?) == some caller

/-- Give the lock of a topic back. -/
def leave (manager : Manager) (topic : String) (caller : Nat) : Manager :=
  { manager with
    locks := manager.locks.map fun (t, queue) =>
      (t, if t = topic then queue.filter (· != caller) else queue) }

/-- Forget the lock of a topic that has no worker, if no operation needs it. -/
def forgetIdleLock (manager : Manager) (topic : String) : Manager :=
  { manager with
    locks := manager.locks.filter fun (t, queue) =>
      t != topic || !queue.isEmpty || (manager.worker? topic).isSome }

/-- How many locks there are. -/
def lockCount (manager : Manager) : Nat := manager.locks.length

/-! ## Jobs -/

/-- Subscribe to a topic under its lock. -/
def subscribeHeld (manager : Manager) (topic : String) : Bool × Manager :=
  if manager.isSubscribed topic then (true, manager)
  else
    let manager := manager.removeWorker topic
    let failed (manager : Manager) : Bool × Manager :=
      (false, { manager with failures := manager.failures + 1 })
    if !Topic.isValid topic then failed manager
    else match manager.broker.subscribe topic manager.group with
      | (some stream, broker) =>
        let worker : TopicWorker := { topic, stream }
        (true, { manager with broker, workers := manager.workers ++ [worker] }.publishGauge)
      | (none, broker) => failed { manager with broker }

/-- Ask a worker to stop; it does so at once unless its handler works. -/
def requestStop (manager : Manager) (worker : TopicWorker) : Manager :=
  (manager.turn { worker with stopping := true }).2

/-- Abort a worker: its stream is dropped, not closed. -/
def abort (manager : Manager) (worker : TopicWorker) : Manager :=
  { manager with broker := manager.broker.drop worker.stream }.setWorker
    { worker with phase := .finished }

/-- How far a job gets: to its result, or to a point where it has to wait. -/
inductive Progress
  /-- The job is done. -/
  | finished (result : Bool)
  /-- The job has to wait. -/
  | blocked (phase : Job.Phase)
deriving DecidableEq, Repr

/-- The end of a job: the lock is given back, and forgotten if nobody needs it. -/
def release (manager : Manager) (topic : String) (caller : Nat) : Manager :=
  (manager.leave topic caller).forgetIdleLock topic

/-- The end of unsubscribing: the worker is forgotten, and the lock is given back. -/
def finishUnsubscribe (manager : Manager) (topic : String) (caller : Nat) : Progress × Manager :=
  (.finished true, (manager.removeWorker topic).publishGauge.release topic caller)

/-- Go on with a stop that has this deadline. -/
def awaitStop (manager : Manager) (now : Nat) (topic : String) (caller deadline : Nat) :
    Progress × Manager :=
  match manager.worker? topic with
  | none => manager.finishUnsubscribe topic caller
  | some worker =>
    if worker.isFinished then manager.finishUnsubscribe topic caller
    else if now < deadline then (.blocked (.stopping deadline), manager)
    else (manager.abort worker).finishUnsubscribe topic caller

/-- Take a job as far as it gets. -/
def advanceJob (manager : Manager) (now caller : Nat) (job : Job) : Job.Phase → Progress × Manager
  | .stopping deadline => manager.awaitStop now job.topic caller deadline
  | .queued =>
    let manager := manager.enter job.topic caller
    if !manager.holds job.topic caller then (.blocked .queued, manager)
    else match job with
      | .subscribe topic =>
        match manager.subscribeHeld topic with
        | (true, manager) => (.finished true, manager.leave topic caller)
        | (false, manager) => (.finished false, manager.release topic caller)
      | .unsubscribe topic =>
        match manager.worker? topic with
        | none => (.finished false, manager.release topic caller)
        | some worker =>
          (manager.requestStop worker).awaitStop now topic caller (now + manager.stopTimeout)

/-- Take jobs one after the other as far as they get; what is left of them is given back with the
phase of the first. -/
def advanceJobs (now caller : Nat) :
    Job.Phase → List Job → ReconcileReport → Manager →
      Option (Job.Phase × List Job) × ReconcileReport × Manager
  | _, [], report, manager => (none, report, manager)
  | phase, job :: rest, report, manager =>
    match manager.advanceJob now caller job phase with
    | (.finished result, manager) =>
      advanceJobs now caller .queued rest (report.note job result) manager
    | (.blocked phase, manager) => (some (phase, job :: rest), report, manager)

/-! ## Calls -/

/-- Forget finished workers and the locks of their topics. -/
def prune (manager : Manager) : Manager :=
  let pruned := (manager.workers.filter (·.isFinished)).map (·.topic)
  let manager := { manager with workers := manager.workers.filter (!·.isFinished) }
  (pruned.foldl forgetIdleLock manager).publishGauge

/-- The jobs that make the subscriptions those to the required topics. -/
def difference (manager : Manager) (required : List String) : List Job :=
  let active := manager.active
  (active.filter (!required.contains ·)).map .unsubscribe
    ++ (required.filter (!active.contains ·)).map .subscribe

/-- Take the jobs of an operation as far as they get. -/
def work (now caller : Nat) (reconciling : Bool) (phase : Job.Phase) (jobs : List Job)
    (report : ReconcileReport) (manager : Manager) : Operation × Manager :=
  match advanceJobs now caller phase jobs report manager with
  | (some (phase, jobs), report, manager) => (.working reconciling phase jobs report, manager)
  | (none, report, manager) =>
    (.done report,
      if reconciling then
        { manager with runs := manager.runs + 1, turns := manager.turns.filter (· != caller) }
      else manager)

/-- Take an operation as far as it gets. -/
def advance (now caller : Nat) : Operation → Manager → Operation × Manager
  | .done report, manager => (.done report, manager)
  | .working reconciling phase jobs report, manager =>
    work now caller reconciling phase jobs report manager
  | .waiting required, manager =>
    let turns :=
      if manager.turns.contains caller then manager.turns else manager.turns ++ [caller]
    let manager := { manager with turns }
    if turns.head? != some caller then (.waiting required, manager)
    else
      let manager := manager.prune
      work now caller true .queued (manager.difference required) {} manager

end Manager

namespace Operation

/-- The operation that reconciles the subscriptions with a set of topics. -/
def reconcile (required : List String) : Operation := .waiting (textSet required)

/-- The operation that subscribes to a topic. -/
def subscribe (topic : String) : Operation := .working false .queued [.subscribe topic] {}

/-- The operation that unsubscribes from a topic. -/
def unsubscribe (topic : String) : Operation := .working false .queued [.unsubscribe topic] {}

/-- The report of an operation that is finished. -/
def report? : Operation → Option ReconcileReport
  | .done report => some report
  | _ => none

/-- When an operation that waits for a worker to stop will abort it. -/
def deadline? : Operation → Option Nat
  | .working _ (.stopping deadline) _ _ => some deadline
  | _ => none

end Operation

end TopicAlerts
