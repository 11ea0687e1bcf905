import Mathlib.Algebra.Order.BigOperators.Group.List
import Mathlib.Algebra.Order.Ring.Nat
import TopicAlerts.Proofs.Quiet
import TopicAlerts.Proofs.Visits

/-!
# Workers come to rest

A worker that neither is finished nor waits can go on by itself: it has a turn, or its handler
returns. Each time less is left to do, since closing a stream or taking a message from one adds
nothing to the others. So from every state the workers alone reach one in which all of them are
finished or wait for messages (`Service.exists_settled`).

The turns that a round gives to the workers are enough for that, since a worker takes one for each
message that waits for it and leaves the other workers alone (`Service.runWorkers_isSettled`).
-/

namespace TopicAlerts

namespace Broker

variable {broker : Broker} {stream n : Nat}

/-- How many messages are queued for a stream. -/
def backlog (broker : Broker) (stream : Nat) : Nat :=
  (broker.streams[stream]?).elim 0 (·.queue.length)

/-- Taking a message from a stream shortens its queue, and leaves the others as they are. -/
theorem backlog_receive {message : Message}
    (received : (broker.receive stream).1 = .message message) :
    (broker.receive stream).2.backlog n + (if n = stream then 1 else 0) = broker.backlog n := by
  unfold receive at received ⊢
  cases found : broker.streams[stream]? with
  | none => simp [found] at received
  | some s =>
    cases queue : s.queue with
    | nil =>
      simp only [found, queue] at received
      split at received <;> cases received
    | cons head rest =>
      simp only [queue, backlog, modifyStream, List.getElem?_modify]
      by_cases same : n = stream
      · subst same
        simp [found, queue]
      · simp [same, Ne.symm same]

theorem backlog_close : (broker.close stream).backlog n = broker.backlog n := by
  rw [backlog, close_streams, modifyStream, backlog, List.getElem?_modify]
  cases broker.streams[n]? with
  | none => rfl
  | some s => by_cases same : stream = n <;> simp [same]

end Broker

/-- What is left to do for a worker: two steps for each message that is queued, the return of its
handler if that works, and the end. -/
def TopicWorker.workLeft (broker : Broker) (worker : TopicWorker) : Nat :=
  match worker.phase with
  | .receiving => 2 * broker.backlog worker.stream + 1
  | .handling => 2 * broker.backlog worker.stream + 2
  | .finished => 0

/-- What is left to do grows with the queue only. -/
theorem TopicWorker.workLeft_le {broker after : Broker} {worker : TopicWorker}
    (queue : after.backlog worker.stream ≤ broker.backlog worker.stream) :
    worker.workLeft after ≤ worker.workLeft broker := by
  unfold workLeft
  cases worker.phase <;> simp <;> omega

/-- What is left to do for all workers. -/
def Manager.workLeft (manager : Manager) : Nat :=
  (manager.workers.map (·.workLeft manager.broker)).sum

namespace Manager

variable {aborting : Prop} {group : String} {manager : Manager} {worker old : TopicWorker}

/-- Less is left to do when it is less for one worker and not more for the others. -/
theorem workLeft_lt (linked : manager.IsLinked aborting group) (inside : old ∈ manager.workers)
    (topic : old.topic = worker.topic) {after : Broker}
    (queues : ∀ stream, after.backlog stream ≤ manager.broker.backlog stream)
    (less : worker.workLeft after < old.workLeft manager.broker) :
    ({ manager with broker := after }.setWorker worker).workLeft < manager.workLeft := by
  unfold workLeft setWorker
  rw [List.map_map]
  refine List.sum_lt_sum _ _ (fun w found => ?_) ⟨old, inside, ?_⟩
  · by_cases same : w.topic = worker.topic
    · obtain rfl := linked.eq_of_topic_eq found inside (same.trans topic.symm)
      simpa [same] using less.le
    · simpa [same] using TopicWorker.workLeft_le (queues w.stream)
  · simpa [topic] using less

/-- A worker that does something in its turn has less to do afterwards. -/
theorem turn_workLeft_lt (linked : manager.IsLinked aborting group)
    (inside : worker ∈ manager.workers) (acts : (manager.turn worker).1 ≠ .wait) :
    (manager.turn worker).2.workLeft < manager.workLeft := by
  unfold turn at acts ⊢
  rcases worker.turn_cases manager.broker with
    ⟨turned, -⟩ | ⟨message, receiving, -, received, turned⟩ | ⟨receiving, -, turned⟩
  · rw [turned] at acts
    exact absurd rfl acts
  · rw [turned]
    refine @workLeft_lt _ _ _ { worker with phase := .handling } worker linked inside rfl _
      (fun n => ?_) ?_
    · exact Nat.le.intro (Broker.backlog_receive received)
    · have shorter := Broker.backlog_receive (n := worker.stream) received
      rw [if_pos rfl] at shorter
      simp only [TopicWorker.workLeft, receiving]
      omega
  · rw [turned]
    refine @workLeft_lt _ _ _ { worker with phase := .finished } worker linked inside rfl _
      (fun n => Broker.backlog_close.le) ?_
    simp [TopicWorker.workLeft, receiving]

/-- So has a worker whose handler returns. -/
theorem returned_workLeft_lt (linked : manager.IsLinked aborting group)
    (inside : worker ∈ manager.workers) (handling : worker.phase = .handling) :
    (manager.setWorker worker.returned).workLeft < manager.workLeft := by
  refine @workLeft_lt _ _ _ worker.returned worker linked inside rfl manager.broker
    (fun _ => Nat.le_refl _) ?_
  simp [TopicWorker.workLeft, TopicWorker.returned, handling]

end Manager

namespace Service

variable {aborting : Prop} {group : String} {service : Service}

/-- As long as not every worker is finished or waits, there is one that can go on. -/
theorem exists_workLeft_lt (linked : service.manager.IsLinked aborting group)
    (restless : ¬service.manager.IsSettled) :
    ∃ topic, ∃ event ∈ [Event.turn topic, Event.handled topic],
      (service.after event).manager.workLeft < service.manager.workLeft := by
  unfold Manager.IsSettled at restless
  push Not at restless
  obtain ⟨worker, inside, unfinished, acts⟩ := restless
  have found := Manager.worker?_of_mem linked inside
  refine ⟨worker.topic, ?_⟩
  cases phase : worker.phase with
  | receiving =>
    refine ⟨.turn worker.topic, by simp, ?_⟩
    simpa [after, withWorker, found] using Manager.turn_workLeft_lt linked inside (acts phase)
  | handling =>
    refine ⟨.handled worker.topic, by simp, ?_⟩
    simpa [after, withWorker, found, phase] using Manager.returned_workLeft_lt linked inside phase
  | finished => simp [TopicWorker.isFinished, phase] at unfinished

/-- If nothing else happens, the workers come to rest: with their turns and with handlers that
return all of them are finished or wait for messages in the end. -/
theorem exists_settled (linked : service.manager.IsLinked aborting group) :
    ∃ events : List Event,
      (∀ event ∈ events, ∃ topic, event ∈ [Event.turn topic, Event.handled topic]) ∧
        (service.run events).manager.IsSettled := by
  induction left : service.manager.workLeft using Nat.strong_induction_on generalizing service with
  | _ left ih =>
    by_cases settled : service.manager.IsSettled
    · exact ⟨[], by simp, settled⟩
    · obtain ⟨topic, event, ofWorker, less⟩ := exists_workLeft_lt linked settled
      -- Such an event is never late, so no worker is aborted on the way.
      have next : (service.after event).manager.IsLinked aborting group := by
        refine after_linked linked event fun late => ?_
        rcases List.mem_pair.mp ofWorker with rfl | rfl <;> cases late
      obtain ⟨rest, ofWorkers, rested⟩ := ih _ (left ▸ less) next rfl
      refine ⟨event :: rest, ?_, rested⟩
      rintro other (_ | ⟨_, later⟩)
      · exact ⟨topic, ofWorker⟩
      · exact ofWorkers other later

end Service

/-! ## A round of the workers -/

namespace Manager

variable {aborting : Prop} {group topic : String} {manager before between after : Manager}
  {worker old : TopicWorker}

/-- What happened to the worker of one topic has left the others alone, and woken none. -/
structure SameElsewhere (topic : String) (before after : Manager) : Prop where
  /-- The other workers are the same. -/
  workers : ∀ worker, worker.topic ≠ topic → (worker ∈ after.workers ↔ worker ∈ before.workers)
  /-- Those at rest still are. -/
  atRest : ∀ worker ∈ before.workers, worker.topic ≠ topic → worker.AtRest before.broker →
    worker.AtRest after.broker

theorem SameElsewhere.refl (topic : String) (manager : Manager) :
    SameElsewhere topic manager manager :=
  ⟨fun _ _ => Iff.rfl, fun _ _ _ rest => rest⟩

theorem SameElsewhere.trans (first : SameElsewhere topic before between)
    (second : SameElsewhere topic between after) : SameElsewhere topic before after where
  workers worker differs := (second.workers worker differs).trans (first.workers worker differs)
  atRest worker inside differs rest :=
    second.atRest worker ((first.workers worker differs).mpr inside) differs
      (first.atRest worker inside differs rest)

/-- A worker may be put in the place of the one of its topic, and the broker may change as long as
no other worker wakes up. -/
theorem setWorker_sameElsewhere (inside : old ∈ manager.workers) (same : old.topic = worker.topic)
    {broker : Broker} (sleep : ∀ w ∈ manager.workers, w.topic ≠ worker.topic →
      w.IsWaiting manager.broker → w.IsWaiting broker) :
    SameElsewhere worker.topic manager ({ manager with broker }.setWorker worker) where
  workers w differs := by
    refine (mem_replaced inside same).trans ⟨?_, fun found => .inr ⟨found, differs⟩⟩
    rintro (rfl | ⟨found, -⟩)
    · exact absurd rfl differs
    · exact found
  atRest w found differs rest := rest.imp id (sleep w found differs)

/-- The turn of a worker does not wake another one, since their streams are different. -/
theorem turn_sameElsewhere (linked : manager.IsLinked aborting group)
    (inside : worker ∈ manager.workers) :
    SameElsewhere worker.topic manager (manager.turn worker).2 := by
  have streams : ∀ w ∈ manager.workers, w.topic ≠ worker.topic → w.IsWaiting manager.broker →
      worker.phase = .receiving → w.stream ≠ worker.stream := by
    intro w found differs waiting receiving equal
    have unfinished : ∀ v : TopicWorker, v.phase = .receiving → v.isFinished = false := by
      intro v phase
      rw [TopicWorker.isFinished, phase]
      rfl
    have same := linked.eq_of_stream_eq found inside (unfinished w waiting.1)
      (unfinished worker receiving) equal
    exact differs (congrArg _ same)
  rcases worker.turn_cases manager.broker with
    ⟨turned, -⟩ | ⟨message, receiving, -, -, turned⟩ | ⟨receiving, -, turned⟩
  · rw [turn, turned]
    exact setWorker_sameElsewhere inside rfl fun _ _ _ waiting => waiting
  · rw [turn, turned]
    refine @setWorker_sameElsewhere manager { worker with phase := .handling } worker inside rfl _
      ?_
    rintro w found differs ⟨phase, stopping, pending⟩
    have distinct := streams w found differs ⟨phase, stopping, pending⟩ receiving
    exact ⟨phase, stopping, Broker.pending_receive distinct pending⟩
  · rw [turn, turned]
    refine @setWorker_sameElsewhere manager { worker with phase := .finished } worker inside rfl _
      ?_
    rintro w found differs ⟨phase, stopping, pending⟩
    have distinct := streams w found differs ⟨phase, stopping, pending⟩ receiving
    exact ⟨phase, stopping, Broker.pending_close distinct pending⟩

/-- A worker that hands on a message and is back from its handler has one message less to come. -/
theorem turn_returned (linked : manager.IsLinked aborting group) (inside : worker ∈ manager.workers)
    {message : Broker.Message}
    (received : (manager.broker.receive worker.stream).1 = .message message)
    (turned : worker.turn manager.broker =
      (.handle message, { worker with phase := .handling },
        (manager.broker.receive worker.stream).2)) :
    let handed := (manager.turn worker).2
    let back := handed.setWorker ({ worker with phase := .handling } : TopicWorker).returned
    handed.worker? worker.topic = some { worker with phase := .handling } ∧
      ({ worker with phase := .receiving } : TopicWorker) ∈ back.workers ∧
      back.IsLinked aborting group ∧ SameElsewhere worker.topic manager back ∧
      back.broker.backlog worker.stream + 1 = manager.broker.backlog worker.stream := by
  have linked' := turn_linked linked inside rfl rfl rfl
  have elsewhere := turn_sameElsewhere linked inside
  rw [turn, turned] at linked' elsewhere ⊢
  intro handed back
  have inHand : ({ worker with phase := .handling } : TopicWorker) ∈ handed.workers :=
    (mem_replaced inside (by rfl)).mpr (.inl rfl)
  have shorter := Broker.backlog_receive (n := worker.stream) received
  rw [if_pos rfl] at shorter
  refine ⟨worker?_of_mem linked' inHand, (mem_replaced inHand (by rfl)).mpr (.inl rfl),
    ⟨linked'.replace inHand rfl rfl rfl, linked'.group_eq, linked'.patient⟩, elsewhere.trans ?_,
    shorter⟩
  exact @setWorker_sameElsewhere handed { worker with phase := .receiving }
    { worker with phase := .handling } inHand rfl handed.broker fun _ _ _ waiting => waiting

end Manager

namespace Service

theorem backlog_eq (service : Service) (worker : TopicWorker) :
    service.backlog worker = service.manager.broker.backlog worker.stream := by
  unfold backlog Broker.backlog
  cases service.manager.broker.streams[worker.stream]? <;> rfl

section Answering

variable {aborting : Prop} {group : String} {notifier : Notifier}
  (answers : ∀ n post, notifier n post ≠ .silent) {service : Service} {worker : TopicWorker}

include answers

/-- A message is worked off, which does not touch the subscriptions. -/
theorem onMessage_cases (service : Service) (topic raw : String) :
    ∃ report after, service.onMessage notifier topic raw = (some report, after) ∧
      after.manager = service.manager := by
  unfold onMessage Processor.onMessage
  cases service.rulesFor topic with
  | none => exact ⟨_, _, rfl, rfl⟩
  | some rules =>
    dsimp only
    generalize service.processor.count _ = processor
    have ends := (Processor.runRules_posts answers throttleNow (Message.parse raw) rules {}
      processor).1
    generalize Processor.runRules notifier throttleNow (Message.parse raw) rules {} processor = run
      at ends ⊢
    rcases run with ⟨_ | report, next⟩
    · cases ends
    · exact ⟨_, _, rfl, rfl⟩

/-- With more turns than messages wait for it, a worker comes to rest, unless its handler is already
at work. -/
theorem runWorker_atRest (fuel : Nat) (linked : service.manager.IsLinked aborting group)
    (inside : worker ∈ service.manager.workers) (free : worker.phase ≠ .handling)
    (enough : service.manager.broker.backlog worker.stream < fuel) :
    let after := (runWorker notifier worker.topic fuel service).manager
    after.IsLinked aborting group ∧ Manager.SameElsewhere worker.topic service.manager after ∧
      ∃ rested ∈ after.workers, rested.topic = worker.topic ∧ rested.AtRest after.broker := by
  induction fuel generalizing service worker with
  | zero => cases enough
  | succ fuel ih =>
    have turnLinked := Manager.turn_linked linked inside rfl rfl rfl
    have elsewhere := Manager.turn_sameElsewhere linked inside
    unfold runWorker
    rw [Manager.worker?_of_mem linked inside]
    dsimp only
    rcases worker.turn_cases service.manager.broker with
      ⟨turned, why⟩ | ⟨message, receiving, notStopping, received, turned⟩ | ⟨-, -, turned⟩
    · rw [Manager.turn, turned]
      refine ⟨linked, .refl _ _, worker, inside, rfl, ?_⟩
      cases phase : worker.phase with
      | receiving => exact .inr ⟨phase, why phase⟩
      | handling => exact absurd phase free
      | finished => exact .inl (by rw [TopicWorker.isFinished, phase]; rfl)
    · obtain ⟨found, isBack, backLinked, backElsewhere, fewer⟩ :=
        Manager.turn_returned linked inside received turned
      have handed : service.manager.turn worker =
          (.handle message, (service.manager.turn worker).2) := by
        rw [Manager.turn, turned]
      obtain ⟨report, next, worked, kept⟩ := onMessage_cases answers
        { service with manager := (service.manager.turn worker).2 } message.topic message.text
      rw [handed]
      dsimp only
      rw [worked]
      dsimp only
      rw [kept, found]
      obtain ⟨restLinked, restElsewhere, rest⟩ :=
        @ih { next with manager := _ } { worker with phase := .receiving } backLinked isBack
          (by simp) (Nat.lt_of_succ_lt_succ (fewer.trans_lt enough))
      exact ⟨restLinked, backElsewhere.trans restElsewhere, rest⟩
    · rw [Manager.turn, turned] at turnLinked elsewhere ⊢
      refine ⟨turnLinked, elsewhere, { worker with phase := .finished }, ?_, rfl, .inl rfl⟩
      exact (mem_replaced inside (by rfl)).mpr (.inl rfl)

/-- After a round of the workers each of them is finished or waits for messages, if none was stuck
in its handler before. -/
theorem runWorkers_isSettled (linked : service.manager.IsLinked aborting group)
    (free : ∀ worker ∈ service.manager.workers, worker.phase ≠ .handling) :
    (service.runWorkers notifier).manager.IsLinked aborting group ∧
      (service.runWorkers notifier).manager.IsSettled := by
  rw [Manager.isSettled_iff]
  -- The workers whose turn is still to come are as they were, and the others are at rest.
  suffices h : ∀ (coming : List TopicWorker) (service : Service),
      service.manager.IsLinked aborting group → (coming.map (·.topic)).Nodup →
      (∀ worker ∈ coming, worker ∈ service.manager.workers ∧ worker.phase ≠ .handling) →
      (∀ worker ∈ service.manager.workers, worker.topic ∉ coming.map (·.topic) →
        worker.AtRest service.manager.broker) →
      let after := coming.foldl (fun service worker =>
        runWorker notifier worker.topic (service.backlog worker + 1) service) service
      after.manager.IsLinked aborting group ∧
        ∀ worker ∈ after.manager.workers, worker.AtRest after.manager.broker by
    refine h service.manager.workers service linked linked.nodup
      (fun worker inside => ⟨inside, free worker inside⟩) fun worker inside others => ?_
    exact absurd (List.mem_map_of_mem inside) others
  intro coming
  induction coming with
  | nil =>
    intro service linked _ _ rested
    exact ⟨linked, fun worker inside => rested worker inside (by simp)⟩
  | cons worker rest ih =>
    intro service linked distinct listed rested
    obtain ⟨inside, isFree⟩ := listed worker List.mem_cons_self
    obtain ⟨fresh, distinctRest⟩ := List.nodup_cons.mp distinct
    have enough : service.manager.broker.backlog worker.stream < service.backlog worker + 1 := by
      rw [backlog_eq]
      exact Nat.lt_succ_self _
    obtain ⟨nextLinked, elsewhere, done, doneInside, doneTopic, doneRests⟩ :=
      runWorker_atRest answers _ linked inside isFree enough
    refine ih _ nextLinked distinctRest (fun w later => ?_) fun w found others => ?_
    · have differs : w.topic ≠ worker.topic := fun same =>
        fresh (List.mem_map.mpr ⟨w, later, same⟩)
      obtain ⟨before, wFree⟩ := listed w (List.mem_cons_of_mem _ later)
      exact ⟨(elsewhere.workers w differs).mpr before, wFree⟩
    · by_cases same : w.topic = worker.topic
      · rwa [nextLinked.eq_of_topic_eq found doneInside (same.trans doneTopic.symm)]
      · have before := (elsewhere.workers w same).mp found
        refine elsewhere.atRest w before same (rested w before ?_)
        rw [List.map_cons, List.mem_cons, not_or]
        exact ⟨same, others⟩

/-- So each active topic has one consumer after the round. -/
theorem runWorkers_consumers (linked : service.manager.IsLinked aborting group)
    (free : ∀ worker ∈ service.manager.workers, worker.phase ≠ .handling) (topic : String) :
    (((service.runWorkers notifier).manager.broker.openMembers topic).filter
        (·.group == group)).length =
      if topic ∈ (service.runWorkers notifier).manager.active then 1 else 0 := by
  obtain ⟨after, settled⟩ := runWorkers_isSettled answers linked free
  exact Manager.length_openMembers after settled topic

end Answering

end Service

end TopicAlerts
