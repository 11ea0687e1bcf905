import TopicAlerts.Proofs.Consumers

/-!
# Jobs on a calm manager

A manager is calm when all its workers wait for messages and nobody needs the lock of a topic. Jobs
on a calm manager are finished at once and leave it calm. `Retired` and `Enlisted` say what they do
to the workers and to the broker:

* unsubscribing retires the worker of a topic, and its stream is closed;
* subscribing asks the broker if the topic is valid, and enlists a worker if the broker accepts.

A manager is idle when its workers wait or are finished and no operation is in progress. When it has
forgotten the finished workers it is calm, so a reconciliation is done at once
(`Manager.Idle.advance_reconcile`).
-/

namespace TopicAlerts

/-- A worker that has nothing to do but wait for messages. -/
def TopicWorker.IsWaiting (worker : TopicWorker) (broker : Broker) : Prop :=
  worker.phase = .receiving ∧ worker.stopping = false ∧
    (broker.receive worker.stream).1 = .pending

theorem TopicWorker.IsWaiting.turn_eq {worker : TopicWorker} {broker : Broker}
    (waiting : worker.IsWaiting broker) : worker.turn broker = (.wait, worker, broker) := by
  obtain ⟨receiving, notStopping, pending⟩ := waiting
  rcases worker.turn_cases broker with
    ⟨turned, -⟩ | ⟨message, -, -, received, -⟩ | ⟨-, stopping | ended, -⟩
  · exact turned
  · cases pending.symm.trans received
  · cases notStopping.symm.trans stopping
  · cases pending.symm.trans ended

/-- A worker that is finished or waits for messages. -/
def TopicWorker.AtRest (worker : TopicWorker) (broker : Broker) : Prop :=
  worker.isFinished = true ∨ worker.IsWaiting broker

namespace Manager

variable {aborting : Prop} {manager before between after : Manager} {worker : TopicWorker}
  {group topic : String} {topics later : List String} {now caller : Nat}

theorem isSettled_iff :
    manager.IsSettled ↔ ∀ worker ∈ manager.workers, worker.AtRest manager.broker := by
  refine forall₂_congr fun worker _ => or_congr Iff.rfl ?_
  constructor
  · rintro ⟨receiving, waits⟩
    rcases worker.turn_cases manager.broker with
      ⟨-, why⟩ | ⟨message, -, -, -, turned⟩ | ⟨-, -, turned⟩
    · exact ⟨receiving, why receiving⟩
    · rw [turn, turned] at waits
      cases waits
    · rw [turn, turned] at waits
      cases waits
  · intro waiting
    rw [turn, waiting.turn_eq]
    exact ⟨waiting.1, rfl⟩

theorem setWorker_self {aborting : Prop} {worker : TopicWorker}
    (linked : manager.IsLinked aborting group) (inside : worker ∈ manager.workers) :
    manager.setWorker worker = manager := by
  have same : manager.workers.map (fun old => if old.topic == worker.topic then worker else old) =
      manager.workers := by
    refine (List.map_congr_left fun old also => ?_).trans (List.map_id _)
    by_cases equal : old.topic = worker.topic
    · simp [linked.eq_of_topic_eq also inside equal]
    · simp [equal]
  rw [setWorker, same]

theorem nodup_active (linked : manager.IsLinked True group) : manager.active.Nodup :=
  nodup_sortTexts (linked.nodup.sublist (List.filter_sublist.map _))

theorem increasing_active (linked : manager.IsLinked True group) :
    manager.active.Pairwise (· < ·) :=
  increasing_sortTexts (linked.nodup.sublist (List.filter_sublist.map _))

/-- All workers wait for messages, and no lock is held. -/
structure Calm (group : String) (manager : Manager) : Prop
    extends manager.IsLinked True group where
  /-- All workers wait for messages. -/
  waiting : ∀ worker ∈ manager.workers, worker.IsWaiting manager.broker
  /-- No lock is held. -/
  unlocked : ∀ lock ∈ manager.locks, lock.2 = []

/-- All workers wait for messages or are finished, and no operation is in progress. -/
structure Idle (group : String) (manager : Manager) : Prop
    extends manager.IsLinked True group where
  /-- All workers wait for messages or are finished. -/
  settled : manager.IsSettled
  /-- No lock is held. -/
  unlocked : ∀ lock ∈ manager.locks, lock.2 = []
  /-- Nobody reconciles or waits to do so. -/
  noTurns : manager.turns = []

/-- The manager without its finished workers. -/
def withoutFinished (manager : Manager) : Manager :=
  { manager with workers := manager.workers.filter (!·.isFinished) }

/-- A subscription to the topic succeeds: it is valid, and the broker does not refuse it. -/
def admits (manager : Manager) (topic : String) : Bool :=
  Topic.isValid topic && !manager.broker.rejected.contains topic

/-! ## Locks -/

/-- Who enters a lock that is not held, holds it. -/
theorem lookup_enterIn {locks : List (String × List Nat)} (unlocked : ∀ lock ∈ locks, lock.2 = []) :
    (enterIn topic caller locks).lookup topic = some [caller] := by
  induction locks with
  | nil => simp [enterIn]
  | cons lock rest ih =>
    obtain ⟨key, queue⟩ := lock
    obtain rfl : queue = [] := unlocked _ List.mem_cons_self
    by_cases same : key = topic
    · simp [enterIn, same]
    · rw [enterIn, if_neg same]
      have differs : (topic == key) = false := beq_eq_false_iff_ne.mpr (Ne.symm same)
      simpa [List.lookup_cons, differs] using ih fun lock inside =>
        unlocked lock (List.mem_cons_of_mem _ inside)

theorem holds_enter (unlocked : ∀ lock ∈ manager.locks, lock.2 = []) :
    (manager.enter topic caller).holds topic caller = true := by
  have held : (manager.enter topic caller).queueOf topic = some [caller] := lookup_enterIn unlocked
  simp [holds, held]

theorem unlocked_leave (unlocked : ∀ lock ∈ manager.locks, lock.2 = []) :
    ∀ lock ∈ ((manager.enter topic caller).leave topic caller).locks, lock.2 = [] := by
  have entered : ∀ locks : List (String × List Nat), (∀ lock ∈ locks, lock.2 = []) →
      ∀ lock ∈ enterIn topic caller locks, lock.2 = [] ∨ lock = (topic, [caller]) := by
    intro locks
    induction locks with
    | nil => simp [enterIn]
    | cons first rest ih =>
      obtain ⟨key, queue⟩ := first
      intro free lock inside
      obtain rfl : queue = [] := free _ List.mem_cons_self
      have freeRest := fun lock inside => free lock (List.mem_cons_of_mem _ inside)
      by_cases same : key = topic
      · rw [enterIn, if_pos same] at inside
        rcases List.mem_cons.mp inside with rfl | later
        · exact .inr (by simp [same])
        · exact .inl (freeRest lock later)
      · rw [enterIn, if_neg same] at inside
        rcases List.mem_cons.mp inside with rfl | later
        · exact .inl rfl
        · exact ih freeRest lock later
  intro lock inside
  obtain ⟨⟨key, queue⟩, found, rfl⟩ := List.mem_map.mp inside
  rcases entered _ unlocked _ found with free | own
  · obtain rfl : queue = [] := free
    dsimp only
    split_ifs <;> rfl
  · cases own
    simp

theorem unlocked_release (left : ∀ lock ∈ (manager.leave topic caller).locks, lock.2 = []) :
    ∀ lock ∈ (manager.release topic caller).locks, lock.2 = [] :=
  fun lock inside => left lock (List.mem_filter.mp inside).1

/-! ## What jobs change -/

/-- The workers of some topics are gone and their streams are closed. -/
structure Retired (topics : List String) (before after : Manager) : Prop where
  /-- The workers of the other topics are left. -/
  workers : after.workers = before.workers.filter fun worker => decide (worker.topic ∉ topics)
  /-- One stream was closed for each topic, and none of a worker that is left. -/
  broker : ∃ streams, streams.length = topics.length ∧
    after.broker = before.broker.closeAll streams ∧
      ∀ worker ∈ after.workers, worker.stream ∉ streams
  /-- Each of these closes was counted. -/
  closeCalls : after.broker.closeCalls = before.broker.closeCalls + topics.length

/-- The broker was asked for those of some topics that are valid, and those that it accepted have
new workers. -/
structure Enlisted (group : String) (topics : List String) (before after : Manager) : Prop where
  /-- There are new workers for the topics that were admitted. -/
  workers : ∃ fresh, after.workers = before.workers ++ fresh ∧
    fresh.map (·.topic) = topics.filter before.admits
  /-- The broker was asked for the valid topics. -/
  broker : after.broker = before.broker.askFor group (topics.filter Topic.isValid)

theorem Retired.none (manager : Manager) : Retired [] manager manager where
  workers := by simp
  broker := ⟨[], rfl, rfl, fun _ _ => List.not_mem_nil⟩
  closeCalls := rfl

theorem Retired.of_eq {other : Manager} (retired : Retired topics before after)
    (workers : other.workers = before.workers) (broker : other.broker = before.broker) :
    Retired topics other after := by
  obtain ⟨left, closed, closeCalls⟩ := retired
  refine ⟨?_, ?_, ?_⟩
  · rwa [workers]
  · rwa [broker]
  · rwa [broker]

theorem Retired.append (first : Retired topics before between)
    (second : Retired later between after) : Retired (topics ++ later) before after where
  workers := by
    rw [second.workers, first.workers, List.filter_filter]
    refine List.filter_congr fun worker _ => ?_
    simp [Bool.and_comm]
  broker := by
    obtain ⟨streams, length, closed, others⟩ := first.broker
    obtain ⟨more, lengthMore, closedMore, othersMore⟩ := second.broker
    refine ⟨streams ++ more, ?_, ?_, fun worker inside => ?_⟩
    · rw [List.length_append, List.length_append, length, lengthMore]
    · rw [closedMore, closed, Broker.closeAll_append]
    · have kept : worker ∈ between.workers := by
        rw [second.workers] at inside
        exact (List.mem_filter.mp inside).1
      rw [List.mem_append, not_or]
      exact ⟨others worker kept, othersMore worker inside⟩
  closeCalls := by
    rw [second.closeCalls, first.closeCalls, List.length_append]
    omega

theorem Retired.rejected_eq (retired : Retired topics before after) :
    after.broker.rejected = before.broker.rejected := by
  obtain ⟨streams, -, closed, -⟩ := retired.broker
  rw [closed, Broker.rejected_closeAll]

theorem Retired.asked_eq (retired : Retired topics before after) :
    after.broker.asked = before.broker.asked := by
  obtain ⟨streams, -, closed, -⟩ := retired.broker
  rw [closed, Broker.asked_closeAll]

theorem admits_congr (same : after.broker.rejected = before.broker.rejected) :
    after.admits = before.admits := by
  funext topic
  rw [admits, admits, same]

theorem Enlisted.none (manager : Manager) : Enlisted group [] manager manager where
  workers := ⟨[], (List.append_nil _).symm, rfl⟩
  broker := rfl

theorem Enlisted.rejected_eq (enlisted : Enlisted group topics before after) :
    after.broker.rejected = before.broker.rejected := by
  rw [enlisted.broker, Broker.rejected_askFor]

theorem Enlisted.append (first : Enlisted group topics before between)
    (second : Enlisted group later between after) :
    Enlisted group (topics ++ later) before after where
  workers := by
    obtain ⟨fresh, workers, ofFresh⟩ := first.workers
    obtain ⟨more, workersMore, ofMore⟩ := second.workers
    refine ⟨fresh ++ more, ?_, ?_⟩
    · rw [workersMore, workers, List.append_assoc]
    · rw [List.map_append, ofFresh, ofMore, admits_congr first.rejected_eq, List.filter_append]
  broker := by
    rw [second.broker, first.broker, List.filter_append, Broker.askFor_append]

/-! ## Jobs -/

theorem Calm.isFinished_eq_false (calm : manager.Calm group) (inside : worker ∈ manager.workers) :
    worker.isFinished = false := by
  rw [TopicWorker.isFinished, (calm.waiting worker inside).1]
  rfl

theorem Calm.mem_active (calm : manager.Calm group) :
    topic ∈ manager.active ↔ ∃ worker ∈ manager.workers, worker.topic = topic := by
  rw [Manager.mem_active]
  constructor
  · rintro ⟨worker, inside, -, rfl⟩
    exact ⟨worker, inside, rfl⟩
  · rintro ⟨worker, inside, rfl⟩
    exact ⟨worker, inside, calm.isFinished_eq_false inside, rfl⟩

/-- On a calm manager a topic that is not active has no worker to forget. -/
theorem Calm.removeWorker_eq (calm : manager.Calm group) (inactive : topic ∉ manager.active) :
    (manager.removeWorker topic).workers = manager.workers := by
  refine List.filter_eq_self.mpr fun worker inside => ?_
  have differs : worker.topic ≠ topic := by
    rintro rfl
    exact inactive (calm.mem_active.mpr ⟨worker, inside, rfl⟩)
  simpa using differs

/-- Subscribing to a topic that is not active succeeds exactly if the topic is admitted. -/
theorem Calm.advanceJob_subscribe (now caller : Nat) (calm : manager.Calm group)
    (inactive : topic ∉ manager.active) :
    ∃ after, manager.advanceJob now caller (.subscribe topic) .queued =
        (.finished (manager.admits topic), after) ∧
      after.Calm group ∧ Enlisted group [topic] manager after := by
  have linked := @advanceJob_linked True group manager now caller calm.toIsLinked
    (.subscribe topic) .queued fun _ => trivial
  have holds : (manager.enter topic caller).holds topic caller = true := holds_enter calm.unlocked
  have workers_eq : ((manager.enter topic caller).removeWorker topic).workers = manager.workers :=
    calm.removeWorker_eq inactive
  have unlocked := @unlocked_leave manager topic caller calm.unlocked
  unfold advanceJob at linked ⊢
  simp only [Job.topic, holds, Bool.not_true, Bool.false_eq_true, if_false] at linked ⊢
  -- there is no worker of the topic, so the cases differ in what the broker was asked
  rcases (manager.enter topic caller).subscribeHeld_cases topic with
    ⟨subscribed, -⟩ | ⟨-, ⟨invalid, held⟩ | ⟨valid, refused, held⟩ | ⟨valid, accepted, held⟩⟩
  · exact absurd ((isSubscribed_iff calm.toIsLinked).mp subscribed) inactive
  · have admits : manager.admits topic = false := by simp [Manager.admits, invalid]
    rw [held] at linked ⊢
    rw [admits]
    refine ⟨_, rfl, ⟨linked, ?_, unlocked_release unlocked⟩, ⟨[], ?_, ?_⟩, ?_⟩
    · exact fun worker inside => calm.waiting worker (List.mem_filter.mp inside).1
    · exact workers_eq.trans (List.append_nil _).symm
    · simp [admits]
    · rw [List.filter_singleton, invalid]
      rfl
  · have refused : topic ∈ manager.broker.rejected := refused
    have admits : manager.admits topic = false := by simp [Manager.admits, refused]
    rw [held] at linked ⊢
    rw [admits]
    refine ⟨_, rfl, ⟨linked, ?_, unlocked_release unlocked⟩, ⟨[], ?_, ?_⟩, ?_⟩
    · intro worker inside
      obtain ⟨receiving, notStopping, pending⟩ :=
        calm.waiting worker (List.mem_filter.mp inside).1
      exact ⟨receiving, notStopping, Broker.pending_asked pending⟩
    · exact workers_eq.trans (List.append_nil _).symm
    · simp [admits]
    · rw [List.filter_singleton, valid, cond_true, Broker.askFor_of_rejected]
      · rfl
      · intro t inside
        rwa [List.mem_singleton.mp inside]
  · have accepted : topic ∉ manager.broker.rejected := accepted
    have admits : manager.admits topic = true := by simp [Manager.admits, valid, accepted]
    have group_eq : manager.group = group := calm.group_eq
    rw [held] at linked ⊢
    rw [admits]
    refine ⟨_, rfl, ⟨linked, ?_, unlocked⟩,
      ⟨[{ topic, stream := manager.broker.streams.length }], ?_, ?_⟩, ?_⟩
    · intro worker inside
      rcases List.mem_append.mp inside with old | new
      · obtain ⟨receiving, notStopping, pending⟩ :=
          calm.waiting worker (List.mem_filter.mp old).1
        exact ⟨receiving, notStopping, Broker.pending_subscribe accepted pending⟩
      · rw [List.mem_singleton.mp new]
        exact ⟨rfl, rfl, Broker.pending_subscribe_new accepted⟩
    · exact congrArg (· ++ _) workers_eq
    · simp [admits]
    · rw [List.filter_singleton, valid, ← group_eq]
      rfl

/-! ## Unsubscribing -/

/-- A waiting worker that is asked to stop closes its stream at once. -/
theorem requestStop_eq {worker : TopicWorker} (receiving : worker.phase = .receiving) :
    manager.requestStop worker =
      { manager with broker := manager.broker.close worker.stream }.setWorker
        { worker with stopping := true, phase := .finished } := by
  unfold requestStop turn TopicWorker.turn
  simp [receiving, TopicWorker.step]

theorem worker?_setWorker {worker old : TopicWorker}
    (found : manager.worker? worker.topic = some old) :
    (manager.setWorker worker).worker? worker.topic = some worker := by
  unfold worker? setWorker at *
  rw [List.find?_map]
  have same : ((fun w : TopicWorker => w.topic == worker.topic) ∘ fun old : TopicWorker =>
      if old.topic == worker.topic then worker else old) = fun w => w.topic == worker.topic := by
    funext w
    by_cases equal : w.topic = worker.topic <;> simp [equal]
  rw [same, found]
  have topic_eq : old.topic = worker.topic := by simpa using List.find?_some found
  simp [topic_eq]

theorem awaitStop_of_finished {worker : TopicWorker} {deadline : Nat}
    (found : manager.worker? topic = some worker) (finished : worker.isFinished = true) :
    manager.awaitStop now topic caller deadline = manager.finishUnsubscribe topic caller := by
  simp [awaitStop, found, finished]

theorem filter_replaced {workers : List TopicWorker} :
    (replaced worker workers).filter (·.topic != worker.topic) =
      workers.filter (·.topic != worker.topic) := by
  induction workers with
  | nil => rfl
  | cons old rest ih =>
    rw [replaced, List.map_cons, ← replaced]
    by_cases same : old.topic = worker.topic
    · simp [same, ih]
    · simp [same, ih]

/-- Unsubscribing from the topic of a worker succeeds. -/
theorem Calm.advanceJob_unsubscribe (now caller : Nat) (calm : manager.Calm group)
    (inside : worker ∈ manager.workers) :
    ∃ after, manager.advanceJob now caller (.unsubscribe worker.topic) .queued =
        (.finished true, after) ∧
      after.Calm group ∧ Retired [worker.topic] manager after := by
  have linked := @advanceJob_linked True group manager now caller calm.toIsLinked
    (.unsubscribe worker.topic) .queued fun _ => trivial
  have holds : (manager.enter worker.topic caller).holds worker.topic caller = true :=
    holds_enter calm.unlocked
  obtain ⟨receiving, -⟩ := calm.waiting worker inside
  have unfinished := calm.isFinished_eq_false inside
  have found : (manager.enter worker.topic caller).worker? worker.topic = some worker :=
    show manager.worker? worker.topic = some worker from worker?_of_mem calm.toIsLinked inside
  have stopped : ((manager.enter worker.topic caller).requestStop worker).worker? worker.topic =
      some { worker with stopping := true, phase := .finished } := by
    rw [requestStop_eq receiving]
    exact worker?_setWorker found
  unfold advanceJob at linked ⊢
  simp only [Job.topic, holds, Bool.not_true, Bool.false_eq_true, if_false, found] at linked ⊢
  rw [awaitStop_of_finished stopped rfl, requestStop_eq receiving] at linked ⊢
  -- the worker was replaced by a finished one, which is forgotten: the other workers are left
  have left : (replaced { worker with stopping := true, phase := .finished }
      manager.workers).filter (·.topic != worker.topic) =
        manager.workers.filter (·.topic != worker.topic) :=
    @filter_replaced { worker with stopping := true, phase := .finished } manager.workers
  have others : ∀ w ∈ manager.workers.filter (·.topic != worker.topic),
      w ∈ manager.workers ∧ w.stream ≠ worker.stream := by
    intro w found
    obtain ⟨also, differs⟩ := List.mem_filter.mp found
    refine ⟨also, fun sameStream => ?_⟩
    obtain rfl := calm.eq_of_stream_eq also inside (calm.isFinished_eq_false also) unfinished
      sameStream
    simp at differs
  refine ⟨_, rfl, ⟨linked, ?_, unlocked_release (unlocked_leave calm.unlocked)⟩, ?_⟩
  · intro w found
    obtain ⟨also, differs⟩ := others w (left ▸ found)
    obtain ⟨receiving, notStopping, pending⟩ := calm.waiting w also
    exact ⟨receiving, notStopping, Broker.pending_close differs pending⟩
  · refine ⟨?_, ⟨[worker.stream], rfl, rfl, fun w found => ?_⟩, ?_⟩
    · refine left.trans (List.filter_congr fun w _ => ?_)
      by_cases same : w.topic = worker.topic <;> simp [same]
    · obtain ⟨-, differs⟩ := others w (left ▸ found)
      rwa [List.mem_singleton]
    · exact (Broker.close_cases (calm.line inside unfinished)).2.1

/-! ## Several jobs -/

theorem Calm.mem_active_retired (calm : before.Calm group) (calmAfter : after.Calm group)
    (retired : Retired topics before after) :
    topic ∈ after.active ↔ topic ∈ before.active ∧ topic ∉ topics := by
  rw [calmAfter.mem_active, calm.mem_active, retired.workers]
  constructor
  · rintro ⟨worker, inside, rfl⟩
    obtain ⟨before, other⟩ := List.mem_filter.mp inside
    exact ⟨⟨worker, before, rfl⟩, of_decide_eq_true other⟩
  · rintro ⟨⟨worker, inside, rfl⟩, other⟩
    exact ⟨worker, List.mem_filter.mpr ⟨inside, decide_eq_true other⟩, rfl⟩

theorem Calm.mem_active_enlisted (calm : before.Calm group) (calmAfter : after.Calm group)
    (enlisted : Enlisted group topics before after) :
    topic ∈ after.active ↔ topic ∈ before.active ∨ topic ∈ topics ∧ before.admits topic = true := by
  obtain ⟨fresh, workers, ofFresh⟩ := enlisted.workers
  have isFresh : (∃ worker ∈ fresh, worker.topic = topic) ↔
      topic ∈ topics ∧ before.admits topic = true := by
    rw [← List.mem_filter, ← ofFresh, List.mem_map]
  rw [calmAfter.mem_active, calm.mem_active, workers, ← isFresh]
  simp only [List.mem_append, or_and_right, exists_or]

/-- Unsubscribing from active topics, one after the other. -/
theorem Calm.advanceJobs_unsubscribe (now caller : Nat) (topics : List String) (rest : List Job)
    (report : ReconcileReport) (calm : manager.Calm group) (distinct : topics.Nodup)
    (areActive : ∀ t ∈ topics, t ∈ manager.active) :
    ∃ after, advanceJobs now caller .queued (topics.map .unsubscribe ++ rest) report manager =
        advanceJobs now caller .queued rest
          { report with removed := report.removed ++ topics } after ∧
      after.Calm group ∧ Retired topics manager after := by
  induction topics generalizing manager report with
  | nil => exact ⟨manager, by simp, calm, .none manager⟩
  | cons topic later ih =>
    obtain ⟨fresh, distinctLater⟩ := List.nodup_cons.mp distinct
    obtain ⟨worker, inside, rfl⟩ := calm.mem_active.mp (areActive topic List.mem_cons_self)
    obtain ⟨next, advanced, calmNext, retired⟩ := calm.advanceJob_unsubscribe now caller inside
    have laterActive : ∀ t ∈ later, t ∈ next.active := by
      intro t inLater
      refine (calm.mem_active_retired calmNext retired).mpr
        ⟨areActive t (List.mem_cons_of_mem _ inLater), ?_⟩
      rw [List.mem_singleton]
      rintro rfl
      exact fresh inLater
    obtain ⟨after, jobs, calmAfter, retiredLater⟩ :=
      ih (report.note (.unsubscribe worker.topic) true) calmNext distinctLater laterActive
    refine ⟨after, ?_, calmAfter, retired.append retiredLater⟩
    rw [List.map_cons, List.cons_append, advanceJobs, advanced]
    simpa [ReconcileReport.note] using jobs

/-- Subscribing to topics that are not active, one after the other. -/
theorem Calm.advanceJobs_subscribe (now caller : Nat) (topics : List String)
    (report : ReconcileReport) (calm : manager.Calm group) (distinct : topics.Nodup)
    (inactive : ∀ t ∈ topics, t ∉ manager.active) :
    ∃ after, advanceJobs now caller .queued (topics.map .subscribe) report manager =
        (none, { report with
          added := report.added ++ topics.filter manager.admits
          failed := report.failed ++ topics.filter (!manager.admits ·) }, after) ∧
      after.Calm group ∧ Enlisted group topics manager after := by
  induction topics generalizing manager report with
  | nil => exact ⟨manager, by simp [advanceJobs], calm, .none manager⟩
  | cons topic later ih =>
    obtain ⟨fresh, distinctLater⟩ := List.nodup_cons.mp distinct
    obtain ⟨next, advanced, calmNext, enlisted⟩ :=
      calm.advanceJob_subscribe now caller (inactive topic List.mem_cons_self)
    have laterInactive : ∀ t ∈ later, t ∉ next.active := by
      intro t inLater isActive
      rcases (calm.mem_active_enlisted calmNext enlisted).mp isActive with before | ⟨new, -⟩
      · exact inactive t (List.mem_cons_of_mem _ inLater) before
      · rw [List.mem_singleton] at new
        exact fresh (new ▸ inLater)
    obtain ⟨after, jobs, calmAfter, enlistedLater⟩ := ih
      (report.note (.subscribe topic) (manager.admits topic)) calmNext distinctLater laterInactive
    refine ⟨after, ?_, calmAfter, enlisted.append enlistedLater⟩
    rw [List.map_cons, advanceJobs, advanced]
    dsimp only
    rw [jobs, admits_congr enlisted.rejected_eq]
    cases admits : manager.admits topic <;> simp [ReconcileReport.note, admits]

theorem advanceJob_turns (job : Job) (phase : Job.Phase) :
    (manager.advanceJob now caller job phase).2.turns = manager.turns := by
  have awaited : ∀ (m : Manager) (topic : String) (deadline : Nat),
      (m.awaitStop now topic caller deadline).2.turns = m.turns := by
    intro m topic deadline
    unfold awaitStop
    split
    · rfl
    · split_ifs <;> rfl
  cases phase with
  | stopping deadline => exact awaited ..
  | queued =>
    unfold advanceJob
    dsimp only
    split_ifs with blocked
    · rfl
    cases job with
    | subscribe topic =>
      rcases (manager.enter topic caller).subscribeHeld_cases topic with
        ⟨-, held⟩ | ⟨-, ⟨-, held⟩ | ⟨-, -, held⟩ | ⟨-, -, held⟩⟩ <;>
        simp only [Job.topic, held] <;> rfl
    | unsubscribe topic =>
      dsimp only [Job.topic]
      split
      · rfl
      · exact awaited ..

theorem advanceJobs_turns (phase : Job.Phase) (jobs : List Job) (report : ReconcileReport) :
    (advanceJobs now caller phase jobs report manager).2.2.turns = manager.turns := by
  induction jobs generalizing phase report manager with
  | nil => rfl
  | cons job rest ih =>
    have turns := @advanceJob_turns manager now caller job phase
    unfold advanceJobs
    generalize manager.advanceJob now caller job phase = result at turns ⊢
    rcases result with ⟨_ | _, after⟩
    · exact (ih ..).trans turns
    · exact turns

/-! ## Reconciliation -/

/-- The active topics that are not required. -/
def surplus (manager : Manager) (required : List String) : List String :=
  manager.active.filter (!(textSet required).contains ·)

/-- The required topics that are not active. -/
def missing (manager : Manager) (required : List String) : List String :=
  (textSet required).filter (!manager.active.contains ·)

theorem mem_surplus {required : List String} :
    topic ∈ manager.surplus required ↔ topic ∈ manager.active ∧ topic ∉ required := by
  simp [surplus]

theorem mem_missing {required : List String} :
    topic ∈ manager.missing required ↔ topic ∈ required ∧ topic ∉ manager.active := by
  simp [missing]

theorem forgetIdleLocks_eq (topics : List String) (manager : Manager) :
    ∃ locks, locks ⊆ manager.locks ∧
      topics.foldl forgetIdleLock manager = { manager with locks } := by
  induction topics generalizing manager with
  | nil => exact ⟨manager.locks, List.Subset.refl _, rfl⟩
  | cons topic rest ih =>
    obtain ⟨locks, subset, left⟩ := ih (manager.forgetIdleLock topic)
    exact ⟨locks, fun lock inside => (List.mem_filter.mp (subset inside)).1, left⟩

/-- Finished workers are forgotten, and perhaps some locks. -/
theorem prune_eq (manager : Manager) : ∃ locks gauge, locks ⊆ manager.locks ∧
    manager.prune = { manager.withoutFinished with locks, gauge } := by
  obtain ⟨locks, subset, left⟩ := forgetIdleLocks_eq
    ((manager.workers.filter (·.isFinished)).map (·.topic)) manager.withoutFinished
  refine ⟨locks, manager.withoutFinished.workers.length, subset, ?_⟩
  exact congrArg publishGauge left

theorem active_withoutFinished (manager : Manager) :
    manager.withoutFinished.active = manager.active := by
  rw [withoutFinished, active, active, List.filter_filter]
  simp only [Bool.and_self]

/-- An idle manager is calm when it has forgotten the finished workers. -/
theorem Idle.calm (idle : manager.Idle group) : manager.withoutFinished.Calm group where
  toLinked := idle.filter _ fun worker _ gone => by simpa using gone
  group_eq := idle.group_eq
  patient _ := trivial
  waiting worker inside := by
    obtain ⟨before, unfinished⟩ := List.mem_filter.mp inside
    rcases isSettled_iff.mp idle.settled worker before with finished | waiting
    · simp [finished] at unfinished
    · exact waiting
  unlocked := idle.unlocked

theorem Calm.idle (calm : manager.Calm group) (noTurns : manager.turns = []) :
    manager.Idle group where
  toIsLinked := calm.toIsLinked
  settled := isSettled_iff.mpr fun worker inside => .inr (calm.waiting worker inside)
  unlocked := calm.unlocked
  noTurns := noTurns

theorem Calm.withoutFinished_eq (calm : manager.Calm group) :
    manager.withoutFinished = manager := by
  have allLeft : manager.workers.filter (!·.isFinished) = manager.workers := by
    rw [List.filter_eq_self]
    intro worker inside
    simp [calm.isFinished_eq_false inside]
  rw [withoutFinished, allLeft]

/-- A calm manager stays so when a field changes that has nothing to do with its workers and
locks. -/
theorem Calm.congr (calm : before.Calm group) (broker : after.broker = before.broker)
    (group_eq : after.group = before.group) (workers : after.workers = before.workers)
    (locks : after.locks ⊆ before.locks) : after.Calm group where
  toLinked := by
    rw [broker, workers]
    exact calm.toLinked
  group_eq := group_eq.trans calm.group_eq
  patient _ := trivial
  waiting := by
    rw [broker, workers]
    exact calm.waiting
  unlocked lock inside := calm.unlocked lock (locks inside)

/-- A reconciliation of an idle manager is done at once: the manager forgets finished workers, then
it retires those of the active topics that are not required, then it enlists workers for the
required topics that are not active. -/
theorem Idle.advance_reconcile (now caller : Nat) (idle : manager.Idle group)
    (required : List String) :
    ∃ between after,
      advance now caller (.reconcile required) manager = (.done {
        added := (manager.missing required).filter manager.admits
        removed := manager.surplus required
        failed := (manager.missing required).filter (!manager.admits ·) }, after) ∧
      between.Calm group ∧ after.Calm group ∧ after.turns = [] ∧
      Retired (manager.surplus required) manager.withoutFinished between ∧
      Enlisted group (manager.missing required) between after := by
  obtain ⟨locks, gauge, subset, pruned⟩ := prune_eq { manager with turns := [caller] }
  have calmPruned : ({ manager with turns := [caller] } : Manager).prune.Calm group := by
    rw [pruned]
    exact idle.calm.congr rfl rfl rfl subset
  have isActive : ({ manager with turns := [caller] } : Manager).prune.active = manager.active := by
    rw [pruned]
    exact manager.active_withoutFinished
  -- the manager is calm again between the unsubscriptions, which come first, and the rest
  obtain ⟨between, removed, calmBetween, retired⟩ := calmPruned.advanceJobs_unsubscribe now caller
    (manager.surplus required) ((manager.missing required).map .subscribe) {}
    ((nodup_active idle.toIsLinked).filter _) fun t inside => by
      rw [isActive]
      exact (mem_surplus.mp inside).1
  have inactive : ∀ t ∈ manager.missing required, t ∉ between.active := by
    intro t inside also
    have before := ((calmPruned.mem_active_retired calmBetween retired).mp also).1
    rw [isActive] at before
    exact (mem_missing.mp inside).2 before
  obtain ⟨after, added, calmAfter, enlisted⟩ := calmBetween.advanceJobs_subscribe now caller
    (manager.missing required) { removed := manager.surplus required }
    ((nodup_textSet required).filter _) inactive
  have retired : Retired (manager.surplus required) manager.withoutFinished between := by
    refine retired.of_eq ?_ ?_ <;> rw [pruned] <;> rfl
  rw [admits_congr retired.rejected_eq] at added
  have worked := removed.trans added
  have turns : after.turns = [caller] := by
    have kept := congrArg (fun result => result.2.2.turns) worked
    dsimp only at kept
    rw [advanceJobs_turns, pruned] at kept
    exact kept.symm
  refine ⟨between, { after with runs := after.runs + 1, turns := after.turns.filter (· != caller) },
    ?_, calmBetween, calmAfter.congr rfl rfl rfl (List.Subset.refl _), ?_, retired,
    ⟨enlisted.workers, enlisted.broker⟩⟩
  · simp only [Operation.reconcile, advance, idle.noTurns, List.contains_nil, Bool.false_eq_true,
      if_false, List.nil_append, List.head?_cons, bne_self_eq_false]
    rw [work, difference, isActive, ← surplus, ← missing, worked]
    rfl
  · simp [turns]

end Manager

end TopicAlerts
