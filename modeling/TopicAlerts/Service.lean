import TopicAlerts.Processor
import TopicAlerts.RuleStore
import TopicAlerts.Subscription.Manager
import TopicAlerts.Subscription.Reconciler

/-!
# The service

The service ties the parts together: the rule store, the message processor, the subscription
manager with its topic workers, and the reconciler. Its clock is a number of milliseconds that only
moves when the service is told so. At any time, workers hand messages to the processor, operations
of the manager go on, and the reconciler starts operations, until all of them wait;
`Service.settle` does all that. The throttle windows have a clock of their own, which stands still
here.
-/

namespace TopicAlerts

/-- How a service is set up. -/
structure ServiceSettings where
  /-- Where the ids of its rules come from. -/
  ids : IdSource
  /-- The consumer group of its subscriptions. -/
  group : String
  /-- The interval of the reconciler in milliseconds. -/
  interval : Nat
  /-- How long it waits for a topic worker to stop, in milliseconds. -/
  stopTimeout : Nat
  /-- The throttle settings of rules without their own. -/
  throttle : Throttle.Settings

/-- An operation of the manager in progress, with its number. -/
structure NumberedOperation where
  /-- Its number. -/
  number : Nat
  /-- How far it is. -/
  operation : Operation
deriving DecidableEq, Repr

/-- The service. -/
structure Service where
  /-- The rules. -/
  store : RuleStore
  /-- Whether the reconciler and the processor reach the rules. -/
  reachable : Bool
  /-- The message processor. -/
  processor : Processor
  /-- The subscription manager. -/
  manager : Manager
  /-- The reconciler. -/
  reconciler : Reconciler
  /-- The operations of the manager in progress. -/
  operations : List NumberedOperation
  /-- The number of the next operation. -/
  nextOperation : Nat
  /-- The time in milliseconds. -/
  now : Nat

namespace Service

/-- A service before anything happens. -/
def new (settings : ServiceSettings) : Service where
  store := .empty settings.ids
  reachable := true
  processor := ⟨Throttle.Registry.empty settings.throttle, Journal.empty⟩
  manager := Manager.new settings.group settings.stopTimeout
  reconciler := { interval := settings.interval }
  operations := []
  nextOperation := 0
  now := 0

/-- The throttle windows. -/
def throttle (service : Service) : Throttle.Registry := service.processor.throttle

/-- Change the throttle windows. -/
def setThrottle (service : Service) (throttle : Throttle.Registry) : Service :=
  { service with processor := { service.processor with throttle } }

/-- Change the broker. -/
def setBroker (service : Service) (broker : Broker) : Service :=
  { service with manager := { service.manager with broker } }

/-- All counts. -/
def metrics (service : Service) : Metrics :=
  { service.processor.journal.metrics with
    subscribeFailures := service.manager.failures
    reconcileRuns := service.manager.runs
    activeSubscriptions := service.manager.gauge }

/-- The rules in force on a topic, if the rules can be reached. -/
def rulesFor (service : Service) (topic : String) : Option (List Rule) :=
  if service.reachable then some (service.store.enabledForTopic topic) else none

/-- Send a hint to the reconciler. -/
def hint (service : Service) (hint : TopicHint) : Service :=
  { service with reconciler := service.reconciler.hint hint }

/-- The instant of the throttle windows. -/
def throttleNow : Int := 0

/-- Work off a message. -/
def onMessage (service : Service) (notifier : Notifier) (topic raw : String) :
    Option MessageReport × Service :=
  let (report, processor) :=
    service.processor.onMessage notifier throttleNow (service.rulesFor topic) raw
  (report, { service with processor })

/-! ## Workers -/

/-- Let the worker of a topic take turns until it waits, at most `fuel` of them. -/
def runWorker (notifier : Notifier) (topic : String) : (fuel : Nat) → Service → Service
  | 0, service => service
  | fuel + 1, service =>
    match service.manager.worker? topic with
    | none => service
    | some worker =>
      match service.manager.turn worker with
      | (.wait, _) => service
      | (.finish, manager) => { service with manager }
      | (.handle message, manager) =>
        let service := { service with manager }
        match service.onMessage notifier message.topic message.text with
        | (none, service) => service
        | (some _, service) =>
          let manager := service.manager
          let manager := match manager.worker? topic with
            | some worker => manager.setWorker worker.returned
            | none => manager
          runWorker notifier topic fuel { service with manager }

/-- How many messages wait for a worker. -/
def backlog (service : Service) (worker : TopicWorker) : Nat :=
  match service.manager.broker.streams[worker.stream]? with
  | some stream => stream.queue.length
  | none => 0

/-- Let all workers take turns until they wait: each takes one turn for every message that waits
for it, and one to finish. -/
def runWorkers (service : Service) (notifier : Notifier) : Service :=
  service.manager.workers.foldl (fun service worker =>
    runWorker notifier worker.topic (service.backlog worker + 1) service) service

/-! ## Calls -/

/-- Start an operation of the manager. -/
def start (service : Service) (operation : Operation) : Nat × Service :=
  let number := service.nextOperation
  (number,
    { service with
      operations := service.operations ++ [⟨number, operation⟩]
      nextOperation := number + 1 })

/-- Start operations of the manager at the same time. -/
def startAll (service : Service) (operations : List Operation) : List Nat × Service :=
  operations.foldl (fun (numbers, service) operation =>
    let (number, service) := service.start operation
    (numbers ++ [number], service)) ([], service)

/-- Take every operation as far as it gets, in the order of their start. -/
def runCalls (service : Service) : Service :=
  let (operations, manager) := service.operations.foldl (fun (operations, manager) numbered =>
    let (operation, manager) :=
      Manager.advance service.now numbered.number numbered.operation manager
    (operations ++ [{ numbered with operation }], manager))
    (([] : List NumberedOperation), service.manager)
  { service with operations, manager }

/-- The report of an operation that is finished. -/
def report? (service : Service) (number : Nat) : Option ReconcileReport :=
  (service.operations.find? (·.number == number)).bind (·.operation.report?)

/-- Forget an operation. -/
def forget (service : Service) (number : Nat) : Service :=
  { service with operations := service.operations.filter (·.number != number) }

/-! ## The reconciler -/

/-- Put the reconciler into a stage. -/
def setStage (service : Service) (stage : Reconciler.Stage) : Service :=
  { service with reconciler := { service.reconciler with stage } }

/-- Start a reconciliation, after which the interval is over at `tick`, or a whole interval later
if that is not given. Without the rules it is left out. -/
def startReconciliation (service : Service) (tick : Option Nat) : Service :=
  if service.reachable then
    let (number, service) := service.start (.reconcile service.store.enabledTopics)
    service.setStage (.reconciling number tick)
  else service.setStage (.idle (tick.getD (service.now + service.reconciler.interval)))

/-- What the reconciler does in its turn. -/
def runReconciler (service : Service) : Service :=
  match service.reconciler.stage with
  | .unstarted | .stopped => service
  | .reconciling number tick =>
    match service.report? number with
    | none => service
    | some _ =>
      (service.forget number).setStage
        (.idle (tick.getD (service.now + service.reconciler.interval)))
  | .idle tick =>
    match service.reconciler.next service.now tick with
    | (.wait, _) => service
    | (.stop, reconciler) => { service with reconciler }
    | (.reconcile tick, reconciler) => { service with reconciler }.startReconciliation (some tick)

/-- Start the reconciler, unless it was started before. -/
def startReconciler (service : Service) : Service :=
  if service.reconciler.stage = .unstarted then service.startReconciliation none else service

/-! ## Settling -/

/-- One round of all that is in progress. -/
def round (service : Service) (notifier : Notifier) : Service :=
  ((service.runWorkers notifier).runCalls).runReconciler

/-- Take rounds until one changes nothing, at most `fuel` of them. -/
def settleWithin (notifier : Notifier) : (fuel : Nat) → Service → Service
  | 0, service => service
  | fuel + 1, service =>
    let next := service.round notifier
    if next.operations = service.operations ∧ next.reconciler = service.reconciler
        ∧ next.manager.workers = service.manager.workers then next
    else settleWithin notifier fuel next

/-- How many rounds there may be: in each of them an operation, a worker or the reconciler gets
on. -/
def rounds (service : Service) : Nat :=
  let topics := service.store.rules.length + service.manager.workers.length + 1
  4 * (service.operations.length + service.reconciler.hints.length + 4) * topics

/-- Let everything go on until all of it waits. -/
def settle (service : Service) (notifier : Notifier) : Service :=
  settleWithin notifier service.rounds service

/-- The next time at which something happens by itself. -/
def nextTimer? (service : Service) : Option Nat :=
  let deadlines := service.operations.filterMap (·.operation.deadline?)
  let times := match service.reconciler.stage with
    | .idle tick => tick :: deadlines
    | _ => deadlines
  times.min?

/-- Let time pass until operations are finished, at most `fuel` times to the next timer. -/
def awaitWithin (notifier : Notifier) (numbers : List Nat) : (fuel : Nat) → Service → Service
  | 0, service => service
  | fuel + 1, service =>
    let service := service.settle notifier
    if numbers.all fun number => (service.report? number).isSome then service
    else match service.nextTimer? with
      | none => service
      | some time =>
        awaitWithin notifier numbers fuel { service with now := max service.now time }

/-- How many timers may go off before all operations are finished: each job of an operation may wait
for the stop timeout, and the interval of the reconciler goes on meanwhile. -/
def timers (service : Service) : Nat :=
  let ticks := service.manager.stopTimeout / max service.reconciler.interval 1 + 2
  let topics := service.manager.workers.length + service.store.rules.length + 2
  (service.operations.length + 2) * topics * ticks

/-- Do operations of the manager at the same time, and wait for their reports. -/
def perform (service : Service) (notifier : Notifier) (operations : List Operation) :
    List ReconcileReport × Service :=
  let (numbers, service) := service.startAll operations
  let service := awaitWithin notifier numbers service.timers service
  (numbers.map fun number => (service.report? number).getD {},
    numbers.foldl forget service)

/-- Reconcile the subscriptions with the rules, unless they cannot be reached. -/
def reconcileOnce (service : Service) (notifier : Notifier) :
    Option ReconcileReport × Service :=
  if service.reachable then
    let (reports, service) := service.perform notifier [.reconcile service.store.enabledTopics]
    (reports.head?, service)
  else (none, service)

/-- Stop the reconciler, and unsubscribe from all topics. -/
def stop (service : Service) (notifier : Notifier) : Service :=
  let service :=
    { service with reconciler := { service.reconciler with cancelled := true } }
  (service.perform notifier (service.manager.workers.map fun w => .unsubscribe w.topic)).2

/-- Let an amount of time pass at once. -/
def advance (service : Service) (notifier : Notifier) (millis : Nat) : Service :=
  { service with now := service.now + millis }.settle notifier

end Service

end TopicAlerts
