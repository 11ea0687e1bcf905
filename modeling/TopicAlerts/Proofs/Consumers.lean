import Mathlib.Data.List.Induction
import TopicAlerts.Config
import TopicAlerts.Proofs.Linked
import TopicAlerts.Proofs.Order
import TopicAlerts.Service

/-!
# One consumer for each active topic

Calls of the subscription manager, the turns of the workers, the handlers that return and what
happens to the broker come in any order; calls may also overlap. `Service.after` says what each
event does. Every event keeps the workers, the streams and the members together
(`Service.after_linked`), so every run does (`Service.run_linked`).

`Service.run_consumers` reads off what that means once the workers have run until they wait: each
active topic has one consumer, other topics have none, and each subscription that was made is active
or was closed.
-/

namespace TopicAlerts

/-! ## Counting streams -/

/-- The places of the elements that satisfy a predicate are as many as these elements. -/
theorem length_filter_range {α : Type} (list : List α) (p : α → Bool) :
    ((List.range list.length).filter fun n => (list[n]?).any p).length = list.countP p := by
  induction list using List.reverseRecOn with
  | nil => rfl
  | append_singleton front last ih =>
    have before : (List.range front.length).filter (fun n => ((front ++ [last])[n]?).any p) =
        (List.range front.length).filter fun n => (front[n]?).any p := by
      refine List.filter_congr fun n inside => ?_
      rw [List.getElem?_append_left (List.mem_range.mp inside)]
    rw [List.length_append, List.length_singleton, List.range_succ, List.filter_append, before,
      List.length_append, ih, List.countP_append]
    cases h : p last <;> simp [h]

theorem Broker.length_streams (broker : Broker) :
    broker.streams.length = broker.ledger.countP (isIn .opened) +
      broker.ledger.countP (isIn .closed) + broker.ledger.countP (isIn .dropped) := by
  rw [← length_ledger]
  induction broker.ledger with
  | nil => rfl
  | cons line rest ih =>
    obtain ⟨topic, state⟩ := line
    cases state <;> simp [isIn] at ih ⊢ <;> omega

section Linked

variable {aborting : Prop} {group : String} {broker : Broker} {workers : List TopicWorker}

/-- There are as many open streams as workers that are not finished. -/
theorem Linked.countP_opened (linked : Linked aborting group broker workers) :
    broker.ledger.countP (Broker.isIn .opened) = (workers.filter (!·.isFinished)).length := by
  have distinct : ((workers.filter (!·.isFinished)).map (·.stream)).Nodup := by
    refine List.Nodup.map_on ?_ (List.Nodup.of_map _ (linked.nodup.sublist
      (List.filter_sublist.map _)))
    intro v foundV w foundW same
    obtain ⟨insideV, liveV⟩ := List.mem_filter.mp foundV
    obtain ⟨insideW, liveW⟩ := List.mem_filter.mp foundW
    exact linked.eq_of_stream_eq insideV insideW (by simpa using liveV) (by simpa using liveW) same
  rw [← length_filter_range, ← List.length_map (fun worker : TopicWorker => worker.stream)]
  -- Both lists have the same streams: those of the open lines.
  refine List.Perm.length_eq ?_
  refine (List.perm_ext_iff_of_nodup (List.nodup_range.filter _) distinct).mpr ?_
  intro n
  rw [List.mem_filter, List.mem_range, List.mem_map]
  constructor
  · rintro ⟨-, opened⟩
    cases line : broker.ledger[n]? with
    | none => simp [line] at opened
    | some entry =>
      obtain ⟨topic, state⟩ := entry
      obtain rfl : state = .opened := by simpa [line, Broker.isIn] using opened
      obtain ⟨worker, inside, live, -, rfl⟩ := linked.live.mp line
      exact ⟨worker, List.mem_filter.mpr ⟨inside, by simp [live]⟩, rfl⟩
  · rintro ⟨worker, found, rfl⟩
    obtain ⟨inside, live⟩ := List.mem_filter.mp found
    have line := linked.line inside (by simpa using live)
    exact ⟨(List.getElem?_eq_some_iff.mp line).1, by simp [line, Broker.isIn]⟩

/-- An open member of a topic is that of the worker of this topic, which is not finished. -/
theorem Linked.worker_of_openMember (linked : Linked aborting group broker workers) {topic : String}
    {member : Broker.Member} (isOpen : member ∈ broker.openMembers topic) :
    member.group = group ∧
      ∃ worker ∈ workers, worker.isFinished = false ∧ worker.topic = topic ∧
        worker.stream = member.stream := by
  unfold Broker.openMembers at isOpen
  split at isOpen
  next state listed =>
    obtain ⟨inside, opened⟩ := List.mem_filter.mp isOpen
    refine ⟨linked.orderly.group_eq listed member inside, linked.live.mp ?_⟩
    obtain ⟨t, line⟩ := Broker.isOpen_iff.mp opened
    obtain ⟨became, line'⟩ := linked.orderly.topic_eq listed member inside
    rw [line] at line'
    simp_all
  next => cases isOpen

theorem Linked.nodup_openMembers (linked : Linked aborting group broker workers) (topic : String) :
    ((broker.openMembers topic).map (·.stream)).Nodup := by
  unfold Broker.openMembers
  split
  next state listed => exact (linked.orderly.nodup listed).sublist (List.filter_sublist.map _)
  next => exact List.nodup_nil

/-- A worker that waits for messages is a member of its topic. -/
theorem Linked.isMember_of_waiting (linked : Linked aborting group broker workers)
    {worker : TopicWorker} (inside : worker ∈ workers) (receiving : worker.phase = .receiving)
    (waits : (worker.turn broker).1 = .wait) :
    ∃ member ∈ broker.openMembers worker.topic, member.stream = worker.stream := by
  have unfinished : worker.isFinished = false := by
    rw [TopicWorker.isFinished, receiving]
    rfl
  have pending : (broker.receive worker.stream).1 = .pending := by
    rcases worker.turn_cases broker with ⟨-, why⟩ | ⟨message, -, -, -, turned⟩ | ⟨-, -, turned⟩
    · exact (why receiving).2
    · rw [turned] at waits
      cases waits
    · rw [turned] at waits
      cases waits
  obtain ⟨s, found, -, opened, member⟩ := Broker.receive_pending_iff.mp pending
  have topic_eq : s.topic = worker.topic := by
    have line := linked.line inside unfinished
    rw [Broker.ledger_getElem?, found] at line
    simp_all
  obtain ⟨state, listed, m, joined, stream_eq⟩ := Broker.isMember_iff.mp member
  refine ⟨m, ?_, stream_eq⟩
  rw [Broker.openMembers, ← topic_eq, listed]
  refine List.mem_filter.mpr ⟨joined, ?_⟩
  rw [stream_eq, Broker.isOpen, found]
  simp [opened]

end Linked

namespace Manager

variable {aborting : Prop} {group : String} {manager : Manager} {topic : String}

theorem mem_active : topic ∈ manager.active ↔
    ∃ worker ∈ manager.workers, worker.isFinished = false ∧ worker.topic = topic := by
  simp [active, mem_sortTexts, and_assoc]

theorem isSubscribed_iff (linked : manager.IsLinked aborting group) :
    manager.isSubscribed topic = true ↔ topic ∈ manager.active := by
  rw [mem_active, isSubscribed]
  constructor
  · intro subscribed
    split at subscribed
    next worker found =>
      obtain ⟨inside, topic_eq⟩ := worker?_eq_some found
      exact ⟨worker, inside, by simpa using subscribed, topic_eq⟩
    next => cases subscribed
  · rintro ⟨worker, inside, unfinished, rfl⟩
    simp [worker?_of_mem linked inside, unfinished]

theorem length_active :
    manager.active.length = (manager.workers.filter (!·.isFinished)).length := by
  rw [active, length_sortTexts, List.length_map]

/-- Whether every worker is finished or waits for messages. -/
def IsSettled (manager : Manager) : Prop :=
  ∀ worker ∈ manager.workers, worker.isFinished = true ∨
    worker.phase = .receiving ∧ (manager.turn worker).1 = .wait

/-- Each active topic has one open member, other topics have none, and all of them are of the group
of the manager. -/
theorem length_openMembers (linked : manager.IsLinked aborting group) (settled : manager.IsSettled)
    (topic : String) :
    ((manager.broker.openMembers topic).filter (·.group == group)).length =
      if topic ∈ manager.active then 1 else 0 := by
  have ofGroup : (manager.broker.openMembers topic).filter (·.group == group) =
      manager.broker.openMembers topic := by
    refine List.filter_eq_self.mpr fun member isOpen => ?_
    simpa using (linked.worker_of_openMember isOpen).1
  rw [ofGroup]
  split_ifs with isActive
  · obtain ⟨worker, inside, unfinished, rfl⟩ := mem_active.mp isActive
    -- All open members are the stream of this worker, and no stream is a member twice.
    have allSame : ∀ n ∈ (manager.broker.openMembers worker.topic).map (·.stream),
        n = worker.stream := by
      intro n found
      obtain ⟨member, isOpen, rfl⟩ := List.mem_map.mp found
      obtain ⟨-, other, also, -, same, stream⟩ := linked.worker_of_openMember isOpen
      rw [← stream, linked.eq_of_topic_eq also inside same]
    have atMostOne := linked.nodup_openMembers worker.topic
    rw [List.eq_replicate_of_mem allSame, List.nodup_replicate, List.length_map] at atMostOne
    have waits : worker.phase = .receiving ∧ (worker.turn manager.broker).1 = .wait := by
      rcases settled worker inside with finished | waits
      · simp [unfinished] at finished
      · exact waits
    obtain ⟨member, isOpen, -⟩ := linked.isMember_of_waiting inside waits.1 waits.2
    exact Nat.le_antisymm atMostOne (List.length_pos_of_mem isOpen)
  · rw [List.length_eq_zero_iff, List.eq_nil_iff_forall_not_mem]
    intro member isOpen
    obtain ⟨-, worker, inside, unfinished, topic_eq, -⟩ := linked.worker_of_openMember isOpen
    exact isActive (mem_active.mpr ⟨worker, inside, unfinished, topic_eq⟩)

/-- Each subscription that was made is active or was closed, or its worker was aborted. -/
theorem length_streams (linked : manager.IsLinked aborting group) :
    manager.broker.streams.length = manager.broker.closeCalls + manager.active.length +
      manager.broker.ledger.countP (Broker.isIn .dropped) := by
  rw [Broker.length_streams, linked.countP_opened, linked.closed, length_active]
  omega

end Manager

/-! ## Runs -/

/-- A call of the subscription manager. -/
inductive Manager.Call
  | subscribe (topic : String)
  | unsubscribe (topic : String)
  | reconcile (required : List String)
  | shutdown
deriving DecidableEq, Repr

/-- The operations that a call starts. -/
def Manager.Call.operations (manager : Manager) : Manager.Call → List Operation
  | .subscribe topic => [.subscribe topic]
  | .unsubscribe topic => [.unsubscribe topic]
  | .reconcile required => [.reconcile required]
  | .shutdown => manager.workers.map fun worker => .unsubscribe worker.topic

/-- A configuration that passes the check gives workers time to stop. -/
theorem Config.stopTimeout_pos {config checked : Config} (passes : config.validate = .ok checked)
    (ids : IdSource) : 0 < (checked.settings ids).stopTimeout := by
  unfold validate at passes
  split_ifs at passes with _ _ _ _ some _
  obtain rfl := Except.ok.inj passes
  have : config.stopTimeoutSeconds.toNat ≠ 0 := by
    intro zero
    exact some (UInt64.toNat_inj.mp zero)
  unfold settings
  dsimp only
  omega

namespace Service

/-- What may happen to the subscriptions of a service. -/
inductive Event
  /-- The manager is called. -/
  | call (call : Manager.Call)
  /-- An operation of the manager gets as far as it can. -/
  | goOn (number : Nat)
  /-- The worker of a topic has its turn. -/
  | turn (topic : String)
  /-- The handler of a worker returns. -/
  | handled (topic : String)
  /-- A message is published. -/
  | publish (topic : String) (payload : List UInt8)
  /-- All members of a topic are cut off. -/
  | disconnect (topic : String)
  /-- Subscriptions to a topic are refused from now on. -/
  | reject (topic : String)
  /-- Subscriptions to a topic are accepted from now on. -/
  | accept (topic : String)
  /-- Time passes. -/
  | pass (millis : Nat)
deriving DecidableEq, Repr

/-- The service after its worker of a topic was changed, if there is one. -/
def withWorker (service : Service) (topic : String) (change : TopicWorker → Manager) : Service :=
  match service.manager.worker? topic with
  | some worker => { service with manager := change worker }
  | none => service

/-- The operation in progress of this number. -/
def operation? (service : Service) (number : Nat) : Option Operation :=
  (service.operations.find? (·.number == number)).map (·.operation)

/-- The service after an operation got as far as it can. -/
def goOn (service : Service) (number : Nat) : Service :=
  match service.operation? number with
  | none => service
  | some operation =>
    let (operation, manager) := Manager.advance service.now number operation service.manager
    { service with
      manager
      operations := service.operations.map fun other =>
        if other.number == number then { other with operation } else other }

/-- The service after an event. -/
def after (service : Service) : Event → Service
  | .call call => (service.startAll (call.operations service.manager)).2
  | .goOn number => service.goOn number
  | .turn topic => service.withWorker topic fun worker => (service.manager.turn worker).2
  | .handled topic => service.withWorker topic fun worker =>
    if worker.phase = .handling then service.manager.setWorker worker.returned else service.manager
  | .publish topic payload => service.setBroker (service.manager.broker.publish topic payload).2
  | .disconnect topic => service.setBroker (service.manager.broker.disconnect topic)
  | .reject topic => service.setBroker (service.manager.broker.reject topic)
  | .accept topic => service.setBroker (service.manager.broker.accept topic)
  | .pass millis => { service with now := service.now + millis }

/-- The service after some events. -/
def run (service : Service) (events : List Event) : Service := events.foldl after service

/-- Whether a worker that the manager waits for has not stopped in time when an event comes. -/
def isLate (service : Service) : Event → Bool
  | .goOn number =>
    (service.operation? number).any fun operation => operation.isOverdue service.manager service.now
  | _ => false

/-- The handlers return, and none is cut off by an abort: whenever an operation that waits for a
worker to stop goes on, the worker is finished or there is still time. -/
def HandlersReturn (service : Service) : List Event → Prop
  | [] => True
  | event :: rest => service.isLate event = false ∧ (service.after event).HandlersReturn rest

instance decidableHandlersReturn :
    (service : Service) → (events : List Event) → Decidable (service.HandlersReturn events)
  | _, [] => .isTrue trivial
  | service, event :: rest =>
    have := decidableHandlersReturn (service.after event) rest
    inferInstanceAs (Decidable (_ ∧ _))

variable {aborting : Prop} {group : String} {service : Service}

theorem setBroker_linked (linked : service.manager.IsLinked aborting group) {broker : Broker}
    (orderly : broker.Orderly group) (lines : broker.ledger = service.manager.broker.ledger)
    (closes : broker.closeCalls = service.manager.broker.closeCalls)
    (asked : broker.asked = service.manager.broker.asked) :
    (service.setBroker broker).manager.IsLinked aborting group :=
  ⟨linked.of_ledger orderly lines closes asked, linked.group_eq, linked.patient⟩

theorem withWorker_linked (linked : service.manager.IsLinked aborting group) (topic : String)
    {change : TopicWorker → Manager}
    (kept : ∀ worker ∈ service.manager.workers, (change worker).IsLinked aborting group) :
    (service.withWorker topic change).manager.IsLinked aborting group := by
  unfold withWorker
  split
  next worker found => exact kept worker (Manager.worker?_eq_some found).1
  next => exact linked

theorem goOn_linked (linked : service.manager.IsLinked aborting group) (number : Nat)
    (inTime : service.isLate (.goOn number) = true → aborting) :
    (service.goOn number).manager.IsLinked aborting group := by
  unfold goOn
  cases found : service.operation? number with
  | none => exact linked
  | some operation =>
    refine Manager.advance_linked operation linked fun overdue => inTime ?_
    simpa [isLate, found] using overdue

theorem startAll_manager (operations : List Operation) :
    (service.startAll operations).2.manager = service.manager := by
  have started : ∀ (numbers : List Nat) (service : Service),
      (operations.foldl (fun (state : List Nat × Service) operation =>
        (state.1 ++ [(state.2.start operation).1], (state.2.start operation).2))
        (numbers, service)).2.manager = service.manager := by
    induction operations with
    | nil => exact fun _ _ => rfl
    | cons operation rest ih => exact fun _ _ => ih _ _
  exact started [] service

/-- Every event keeps the workers, the streams and the members together. -/
theorem after_linked (linked : service.manager.IsLinked aborting group) (event : Event)
    (inTime : service.isLate event = true → aborting) :
    (service.after event).manager.IsLinked aborting group := by
  cases event with
  | call call =>
    rw [after, startAll_manager]
    exact linked
  | goOn number => exact goOn_linked linked number inTime
  | turn topic =>
    exact withWorker_linked linked topic fun worker inside =>
      Manager.turn_linked linked inside rfl rfl rfl
  | handled topic =>
    refine withWorker_linked linked topic fun worker inside => ?_
    split_ifs with handling
    · refine ⟨linked.replace inside rfl rfl ?_, linked.group_eq, linked.patient⟩
      rw [TopicWorker.isFinished, handling]
      rfl
    · exact linked
  | publish topic payload =>
    refine setBroker_linked linked (linked.orderly.publish payload) (Broker.ledger_publish payload)
      ?_ ?_
    all_goals
      rcases @Broker.publish_cases service.manager.broker topic payload with
        ⟨-, same⟩ | ⟨state, streams, -, -, published⟩
      · rw [same]
      · rw [published]
        rfl
  | disconnect topic => exact setBroker_linked linked linked.orderly.disconnect rfl rfl rfl
  | reject topic => exact setBroker_linked linked linked.orderly.reject rfl rfl rfl
  | accept topic => exact setBroker_linked linked linked.orderly.accept rfl rfl rfl
  | pass millis => exact linked

theorem run_linked (events : List Event) (linked : service.manager.IsLinked aborting group)
    (inTime : ¬service.HandlersReturn events → aborting) :
    (service.run events).manager.IsLinked aborting group := by
  induction events generalizing service with
  | nil => exact linked
  | cons event rest ih =>
    refine ih (after_linked linked event fun late => inTime fun returns => ?_) fun late =>
      inTime fun returns => late returns.2
    rw [returns.1] at late
    cases late

theorem new_linked (settings : ServiceSettings) (patient : settings.stopTimeout = 0 → aborting) :
    (new settings).manager.IsLinked aborting settings.group :=
  ⟨linked_empty, rfl, patient⟩

/-- However calls of the manager, turns of its workers, handlers that return and events of the
broker follow one another: once every worker is finished or waits for messages, each active topic
has one open member in the group of the manager, and other topics have none. The broker is asked for
valid topics only. And if handlers return before the manager loses its patience, the subscriptions
that were made are those that were closed and the active ones.

A call that is aborted at the stop timeout counts as one that does not return: the stream of its
worker is dropped and never closed, as in `abandoned_consumers`. -/
theorem run_consumers (settings : ServiceSettings) (events : List Event) :
    let manager := ((new settings).run events).manager
    (manager.IsSettled → ∀ topic,
        ((manager.broker.openMembers topic).filter (·.group == settings.group)).length =
          if topic ∈ manager.active then 1 else 0) ∧
      (∀ topic ∈ manager.broker.asked, Topic.isValid topic = true) ∧
      (0 < settings.stopTimeout → (new settings).HandlersReturn events →
        manager.broker.streams.length = manager.broker.closeCalls + manager.active.length) := by
  intro manager
  -- In this run a worker may be aborted only if it is not waited for or its handler is late.
  have linked : manager.IsLinked
      (settings.stopTimeout = 0 ∨ ¬(new settings).HandlersReturn events) settings.group :=
    run_linked events (new_linked settings .inl) .inr
  refine ⟨Manager.length_openMembers linked, linked.asked, fun patient returns => ?_⟩
  have noneDropped : manager.broker.ledger.countP (Broker.isIn .dropped) = 0 := by
    rw [List.countP_eq_zero]
    rintro ⟨topic, state⟩ inside isDropped
    obtain ⟨n, line⟩ := List.mem_iff_getElem?.mp inside
    obtain rfl : state = .dropped := by simpa [Broker.isIn] using isDropped
    rcases linked.dropped line with impatient | late
    · omega
    · exact late returns
  rw [Manager.length_streams linked, noneDropped, Nat.add_zero]

/-- A topic is cut off, its worker notices, and the topic is subscribed to again. -/
def resubscription : List Event :=
  [.call (.subscribe "cpu"), .goOn 0, .disconnect "cpu", .turn "cpu", .call (.subscribe "cpu"),
    .goOn 1, .publish "cpu" [56, 53], .turn "cpu", .handled "cpu"]

/-- A service that lets workers stop for a tenth of a second. -/
def patientSettings : ServiceSettings := ⟨.numbered, "alerts", 1000, 100, ⟨1, 1000⟩⟩

/-- After that there is one consumer again, and one of the two subscriptions was closed. -/
theorem resubscription_consumers :
    let manager := ((new patientSettings).run resubscription).manager
    ((manager.broker.openMembers "cpu").filter (·.group == "alerts")).length = 1 ∧
      2 = manager.broker.closeCalls + manager.active.length := by
  have consumers := run_consumers patientSettings resubscription
  have settled : ((new patientSettings).run resubscription).manager.IsSettled := by
    intro worker inside
    have only : ((new patientSettings).run resubscription).manager.workers =
        [⟨"cpu", 1, false, .receiving⟩] := by decide +kernel
    rw [only, List.mem_singleton] at inside
    subst inside
    exact .inr ⟨rfl, by decide +kernel⟩
  have isActive : "cpu" ∈ ((new patientSettings).run resubscription).manager.active := by
    decide +kernel
  have returns : (new patientSettings).HandlersReturn resubscription := by decide +kernel
  refine ⟨(consumers.1 settled "cpu").trans (if_pos isActive), ?_⟩
  exact consumers.2.2 (by decide) returns

/-- A topic is given up while the handler of its worker works, and the manager runs out of
patience. -/
def abandoned : List Event :=
  [.call (.subscribe "cpu"), .goOn 0, .publish "cpu" [56, 53], .turn "cpu",
    .call (.unsubscribe "cpu"), .goOn 1, .pass 100, .goOn 1]

/-- The one subscription that was made is neither closed nor active in the end. -/
theorem abandoned_consumers :
    let manager := ((new patientSettings).run abandoned).manager
    ¬(new patientSettings).HandlersReturn abandoned ∧ manager.broker.streams.length = 1 ∧
      manager.broker.closeCalls + manager.active.length = 0 := by
  decide +kernel

end Service

end TopicAlerts
