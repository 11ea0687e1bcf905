import TopicAlerts.Proofs.Broker
import TopicAlerts.Subscription.Manager

/-!
# Workers and streams

The workers of the manager, the ledger of the broker and the members of the topics are three views
of the same subscriptions. `Linked` says how they fit: the open streams are those of the workers
that are not finished, one worker for each topic.

Whatever happens keeps that. A worker that finishes has closed its stream, or its stream is dropped
because it was aborted; a finished worker may be forgotten at any time; a new worker comes with a
new stream. `Manager.advance_linked` is the step lemma for operations of the manager, however far
they get and whatever other operations are in progress.
-/

namespace TopicAlerts

/-- The streams of a broker and some workers belong together. Streams are dropped only if workers
may be aborted. -/
structure Linked (aborting : Prop) (group : String) (broker : Broker)
    (workers : List TopicWorker) : Prop where
  /-- The members of the topics fit the ledger. -/
  orderly : broker.Orderly group
  /-- Every close is of another stream. -/
  closed : broker.ledger.countP (Broker.isIn .closed) = broker.closeCalls
  /-- A stream is dropped only if workers may be aborted. -/
  dropped : ∀ {stream : Nat} {topic : String},
    broker.ledger[stream]? = some (topic, .dropped) → aborting
  /-- Only subscriptions to valid topics are asked for. -/
  asked : ∀ topic ∈ broker.asked, Topic.isValid topic = true
  /-- There is one worker for each topic. -/
  nodup : (workers.map (·.topic)).Nodup
  /-- The open streams are those of the workers that are not finished. -/
  live : ∀ {stream : Nat} {topic : String}, broker.ledger[stream]? = some (topic, .opened) ↔
    ∃ worker ∈ workers, worker.isFinished = false ∧ worker.topic = topic ∧ worker.stream = stream

variable {aborting : Prop} {group : String} {broker after : Broker} {workers : List TopicWorker}
  {worker old : TopicWorker}

/-! ## The turn of a worker -/

/-- What a worker may do in one step, and why. -/
inductive TopicWorker.Steps (worker : TopicWorker) (exit : TopicWorker.Exit) (broker : Broker) :
    TopicWorker.Step × TopicWorker × TopicWorker.Exit × Broker → Prop
  /-- It waits, in its loop because no message has come yet. -/
  | wait (waits : worker.phase = .receiving → exit = .inLoop ∧ worker.stopping = false ∧
      (broker.receive worker.stream).1 = .pending) : Steps worker exit broker
        (.wait, worker, exit, broker)
  /-- It hands on the next message. -/
  | handle {message : Broker.Message} (receiving : worker.phase = .receiving)
      (inLoop : exit = .inLoop) (goesOn : worker.stopping = false)
      (received : (broker.receive worker.stream).1 = .message message) : Steps worker exit broker
        (.handle message, { worker with phase := .handling }, .inLoop,
          (broker.receive worker.stream).2)
  /-- It leaves its loop. -/
  | leave (receiving : worker.phase = .receiving) (inLoop : exit = .inLoop)
      (ends : worker.stopping = true ∨ (broker.receive worker.stream).1 = .ended) :
        Steps worker exit broker (.leave, worker, .left, broker)
  /-- It closes its stream. -/
  | close (receiving : worker.phase = .receiving) (left : exit = .left) :
      Steps worker exit broker (.close, worker, .closed, broker.close worker.stream)
  /-- It signals that it is finished. -/
  | finish (receiving : worker.phase = .receiving) (closed : exit = .closed) :
      Steps worker exit broker (.finish, { worker with phase := .finished }, .closed, broker)

theorem TopicWorker.steps (worker : TopicWorker) (exit : Exit) (broker : Broker) :
    worker.Steps exit broker (worker.step exit broker) := by
  unfold TopicWorker.step
  cases phase : worker.phase with
  | handling => exact .wait fun receiving => by cases phase.symm.trans receiving
  | finished => exact .wait fun receiving => by cases phase.symm.trans receiving
  | receiving =>
    cases exit with
    | left => exact .close phase rfl
    | closed => exact .finish phase rfl
    | inLoop =>
      dsimp only
      split_ifs with stopping
      · exact .leave phase rfl (.inl stopping)
      · have goesOn : worker.stopping = false := by simpa using stopping
        rcases received : broker.receive worker.stream with ⟨message | _ | _, after⟩
        · obtain rfl : (broker.receive worker.stream).2 = after := congrArg Prod.snd received
          exact .handle phase rfl goesOn (congrArg Prod.fst received)
        · obtain rfl : after = broker := Broker.eq_of_receive received (by simp)
          exact .wait fun _ => ⟨rfl, goesOn, congrArg Prod.fst received⟩
        · obtain rfl : after = broker := Broker.eq_of_receive received (by simp)
          exact .leave phase rfl (.inr (congrArg Prod.fst received))

/-- What a worker does in its turn: it waits, or it hands on the next message, or it closes its
stream and is finished. -/
theorem TopicWorker.turn_cases (worker : TopicWorker) (broker : Broker) :
    (worker.turn broker = (.wait, worker, broker) ∧
        (worker.phase = .receiving →
          worker.stopping = false ∧ (broker.receive worker.stream).1 = .pending)) ∨
      (∃ message, worker.phase = .receiving ∧ worker.stopping = false ∧
        (broker.receive worker.stream).1 = .message message ∧
        worker.turn broker = (.handle message, { worker with phase := .handling },
          (broker.receive worker.stream).2)) ∨
      (worker.phase = .receiving ∧
        (worker.stopping = true ∨ (broker.receive worker.stream).1 = .ended) ∧
        worker.turn broker =
          (.finish, { worker with phase := .finished }, broker.close worker.stream)) := by
  unfold TopicWorker.turn
  have stepped := worker.steps .inLoop broker
  generalize worker.step .inLoop broker = result at stepped ⊢
  cases stepped with
  | wait waits => exact .inl ⟨rfl, fun receiving => (waits receiving).2⟩
  | handle receiving _ goesOn received =>
    exact .inr (.inl ⟨_, receiving, goesOn, received, rfl⟩)
  | leave receiving _ ends =>
    -- the two steps on the way out follow at once
    exact .inr (.inr ⟨receiving, ends, by simp [TopicWorker.step, receiving]⟩)
  | close _ left => cases left
  | finish _ closed => cases closed

/-! ## Small steps -/

theorem Linked.of_ledger (linked : Linked aborting group broker workers)
    (orderly : after.Orderly group) (lines : after.ledger = broker.ledger)
    (closes : after.closeCalls = broker.closeCalls) (asked : after.asked = broker.asked) :
    Linked aborting group after workers where
  orderly := orderly
  closed := by rw [lines, closes, linked.closed]
  dropped line := linked.dropped (lines ▸ line)
  asked := by rw [asked]; exact linked.asked
  nodup := linked.nodup
  live := by rw [lines]; exact linked.live

/-- Finished workers may be forgotten. -/
theorem Linked.filter (linked : Linked aborting group broker workers) (keep : TopicWorker → Bool)
    (finished : ∀ worker ∈ workers, keep worker = false → worker.isFinished = true) :
    Linked aborting group broker (workers.filter keep) where
  orderly := linked.orderly
  closed := linked.closed
  dropped := linked.dropped
  asked := linked.asked
  nodup := linked.nodup.sublist (List.filter_sublist.map _)
  live := by
    intro stream topic
    rw [linked.live]
    constructor
    · rintro ⟨worker, inside, unfinished, rest⟩
      refine ⟨worker, List.mem_filter.mpr ⟨inside, ?_⟩, unfinished, rest⟩
      by_contra gone
      have := finished worker inside (by simpa using gone)
      simp_all
    · rintro ⟨worker, inside, rest⟩
      exact ⟨worker, (List.mem_filter.mp inside).1, rest⟩

/-- The workers after one of them was replaced. -/
def replaced (worker : TopicWorker) (workers : List TopicWorker) : List TopicWorker :=
  workers.map fun old => if old.topic == worker.topic then worker else old

theorem mem_replaced {w : TopicWorker} (inside : old ∈ workers) (same : old.topic = worker.topic) :
    w ∈ replaced worker workers ↔ w = worker ∨ (w ∈ workers ∧ w.topic ≠ worker.topic) := by
  unfold replaced
  rw [List.mem_map]
  constructor
  · rintro ⟨v, found, rfl⟩
    by_cases equal : v.topic = worker.topic
    · simp [equal]
    · exact .inr ⟨by simpa [equal] using found, by simp [equal]⟩
  · rintro (rfl | ⟨found, differs⟩)
    · exact ⟨old, inside, by simp [same]⟩
    · exact ⟨w, found, by simp [differs]⟩

theorem map_topic_replaced : (replaced worker workers).map (·.topic) = workers.map (·.topic) := by
  unfold replaced
  rw [List.map_map]
  apply List.map_congr_left
  intro old _
  by_cases same : old.topic = worker.topic <;> simp [same]

theorem Linked.eq_of_topic_eq (linked : Linked aborting group broker workers)
    (inside : old ∈ workers) (also : worker ∈ workers) (same : old.topic = worker.topic) :
    old = worker :=
  List.inj_on_of_nodup_map linked.nodup inside also same

theorem Linked.replace (linked : Linked aborting group broker workers) (inside : old ∈ workers)
    (topic : old.topic = worker.topic) (stream : old.stream = worker.stream)
    (finished : old.isFinished = worker.isFinished) :
    Linked aborting group broker (replaced worker workers) where
  orderly := linked.orderly
  closed := linked.closed
  dropped := linked.dropped
  asked := linked.asked
  nodup := by rw [map_topic_replaced]; exact linked.nodup
  live := by
    intro n t
    rw [linked.live]
    constructor
    · rintro ⟨w, found, unfinished, rfl, rfl⟩
      by_cases same : w.topic = worker.topic
      · obtain rfl := linked.eq_of_topic_eq found inside (same.trans topic.symm)
        exact ⟨worker, (mem_replaced inside topic).mpr (.inl rfl), finished ▸ unfinished, same.symm,
          stream.symm⟩
      · exact ⟨w, (mem_replaced inside topic).mpr (.inr ⟨found, same⟩), unfinished, rfl, rfl⟩
    · rintro ⟨w, found, unfinished, rfl, rfl⟩
      rcases (mem_replaced inside topic).mp found with rfl | ⟨was, -⟩
      · exact ⟨old, inside, finished.trans unfinished, topic, stream⟩
      · exact ⟨w, was, unfinished, rfl, rfl⟩

theorem Linked.line (linked : Linked aborting group broker workers) (inside : worker ∈ workers)
    (unfinished : worker.isFinished = false) :
    broker.ledger[worker.stream]? = some (worker.topic, .opened) :=
  linked.live.mpr ⟨worker, inside, unfinished, rfl, rfl⟩

/-- Workers that are not finished have different streams. -/
theorem Linked.eq_of_stream_eq (linked : Linked aborting group broker workers)
    (inside : old ∈ workers) (also : worker ∈ workers) (oldUnfinished : old.isFinished = false)
    (unfinished : worker.isFinished = false) (same : old.stream = worker.stream) :
    old = worker := by
  have line := linked.line inside oldUnfinished
  rw [same, linked.line also unfinished] at line
  exact linked.eq_of_topic_eq inside also (by simp_all)

/-- A worker is finished together with its stream. -/
theorem Linked.finish (linked : Linked aborting group broker workers) (inside : old ∈ workers)
    (topic : old.topic = worker.topic) (stream : old.stream = worker.stream)
    (unfinished : old.isFinished = false) (finished : worker.isFinished = true)
    (orderly : after.Orderly group) {became : Broker.StreamState}
    (lines : after.ledger = broker.ledger.set worker.stream (worker.topic, became))
    (asked : after.asked = broker.asked)
    (kind : became = .closed ∧ after.closeCalls = broker.closeCalls + 1 ∨
      became = .dropped ∧ after.closeCalls = broker.closeCalls ∧ aborting) :
    Linked aborting group after (replaced worker workers) := by
  have line := linked.line inside unfinished
  rw [stream, topic] at line
  obtain ⟨bound, was⟩ := List.getElem?_eq_some_iff.mp line
  have notOpened : became ≠ .opened := by
    rcases kind with ⟨rfl, -⟩ | ⟨rfl, -⟩ <;> simp
  refine ⟨orderly, ?_, ?_, by rw [asked]; exact linked.asked, ?_, ?_⟩
  · rw [lines, List.countP_set bound, was]
    rcases kind with ⟨rfl, counted⟩ | ⟨rfl, counted, -⟩
    · simp [Broker.isIn, linked.closed, counted]
    · simp [Broker.isIn, linked.closed, counted]
  · intro n t dropped
    rw [lines, List.getElem?_set] at dropped
    split_ifs at dropped with same
    · rcases kind with ⟨rfl, -⟩ | ⟨-, -, may⟩
      · simp at dropped
      · exact may
    · exact linked.dropped dropped
  · rw [map_topic_replaced]
    exact linked.nodup
  · intro n t
    rw [lines, List.getElem?_set]
    constructor
    · intro opened
      split_ifs at opened with same
      · simp [notOpened] at opened
      · obtain ⟨w, found, live, rfl, rfl⟩ := linked.live.mp opened
        refine ⟨w, (mem_replaced inside topic).mpr (.inr ⟨found, ?_⟩), live, rfl, rfl⟩
        intro equal
        obtain rfl := linked.eq_of_topic_eq found inside (equal.trans topic.symm)
        exact same stream.symm
    · rintro ⟨w, found, live, rfl, rfl⟩
      rcases (mem_replaced inside topic).mp found with rfl | ⟨was', differs⟩
      · simp_all
      · have streams : worker.stream ≠ w.stream := by
          intro equal
          obtain rfl := linked.eq_of_stream_eq inside was' unfinished live (stream.trans equal)
          exact differs topic
        rw [if_neg streams, linked.line was' live]

/-- A subscription to a valid topic may be refused. -/
theorem Linked.refuse (linked : Linked aborting group broker workers) {topic : String}
    (valid : Topic.isValid topic = true) :
    Linked aborting group { broker with asked := broker.asked ++ [topic] } workers where
  orderly := ⟨linked.orderly.nodup, linked.orderly.group_eq, linked.orderly.topic_eq⟩
  closed := linked.closed
  dropped := linked.dropped
  asked := by
    intro t found
    rcases List.mem_append.mp found with before | new
    · exact linked.asked t before
    · rwa [List.mem_singleton.mp new]
  nodup := linked.nodup
  live := linked.live

/-- A subscription to a valid topic without a worker gives it one. -/
theorem Linked.add (linked : Linked aborting group broker workers) {topic : String}
    (valid : Topic.isValid topic = true) (accepted : topic ∉ broker.rejected)
    (fresh : topic ∉ workers.map (·.topic)) :
    Linked aborting group (broker.subscribe topic group).2
      (workers ++ [{ topic, stream := broker.streams.length }]) := by
  refine ⟨linked.orderly.subscribe, ?_, ?_, ?_, ?_, ?_⟩
  · rw [broker.subscribe_ledger accepted, broker.subscribe_closeCalls accepted, ← linked.closed]
    simp [Broker.isIn]
  · intro n t dropped
    rcases (Broker.subscribe_line accepted).mp dropped with before | ⟨-, new⟩
    · exact linked.dropped before
    · simp at new
  · rw [broker.subscribe_asked accepted]
    exact (linked.refuse valid).asked
  · rw [List.map_append, List.map_singleton, List.nodup_append]
    refine ⟨linked.nodup, List.nodup_singleton _, ?_⟩
    intro t found new isNew
    rw [List.mem_singleton.mp isNew]
    rintro rfl
    exact fresh found
  · intro n t
    rw [Broker.subscribe_line accepted, linked.live]
    constructor
    · rintro (⟨w, found, live⟩ | ⟨rfl, new⟩)
      · exact ⟨w, List.mem_append_left _ found, live⟩
      · obtain ⟨rfl, -⟩ := Prod.mk.inj new
        exact ⟨_, List.mem_append_right _ (List.mem_singleton.mpr rfl), rfl, rfl, rfl⟩
    · rintro ⟨w, found, live, rfl, rfl⟩
      rcases List.mem_append.mp found with before | new
      · exact .inl ⟨w, before, live, rfl, rfl⟩
      · rw [List.mem_singleton.mp new]
        exact .inr ⟨rfl, rfl⟩

theorem linked_empty : Linked aborting group Broker.empty [] where
  orderly := Broker.orderly_empty
  closed := rfl
  dropped line := by simp [Broker.empty, Broker.ledger] at line
  asked topic found := by simp [Broker.empty] at found
  nodup := List.nodup_nil
  live := by simp [Broker.empty, Broker.ledger]

namespace Manager

/-- The workers, the streams and the members of a manager belong together, and if no worker may be
aborted it gives workers time to stop. -/
structure IsLinked (aborting : Prop) (group : String) (manager : Manager) : Prop
    extends Linked aborting group manager.broker manager.workers where
  /-- It subscribes in this group. -/
  group_eq : manager.group = group
  /-- It waits for a worker to stop if none may be aborted. -/
  patient : manager.stopTimeout = 0 → aborting

variable {manager : Manager} {topic : String} {now caller deadline : Nat}

/-! ## Parts of operations -/

theorem worker?_eq_some (found : manager.worker? topic = some worker) :
    worker ∈ manager.workers ∧ worker.topic = topic :=
  ⟨List.mem_of_find?_eq_some found, by simpa using List.find?_some found⟩

theorem worker?_eq_none (none : manager.worker? topic = none) :
    topic ∉ manager.workers.map (·.topic) := by
  intro found
  obtain ⟨worker, inside, rfl⟩ := List.mem_map.mp found
  simpa using List.find?_eq_none.mp none worker inside

theorem worker?_of_mem (linked : manager.IsLinked aborting group)
    (inside : worker ∈ manager.workers) : manager.worker? worker.topic = some worker := by
  cases found : manager.worker? worker.topic with
  | none => exact absurd (List.mem_map_of_mem inside) (worker?_eq_none found)
  | some other =>
    obtain ⟨also, same⟩ := worker?_eq_some found
    rw [linked.eq_of_topic_eq also inside same]

/-- The turn of a worker, also of one that was just asked to stop. -/
theorem turn_linked (linked : manager.IsLinked aborting group) (inside : old ∈ manager.workers)
    (topic : old.topic = worker.topic) (stream : old.stream = worker.stream)
    (phase : old.phase = worker.phase) : (manager.turn worker).2.IsLinked aborting group := by
  have finished : old.isFinished = worker.isFinished := by
    rw [TopicWorker.isFinished, TopicWorker.isFinished, phase]
  rcases TopicWorker.turn_cases worker manager.broker with
    ⟨turned, -⟩ | ⟨message, receiving, -, -, turned⟩ | ⟨receiving, -, turned⟩
  · rw [turn, turned]
    exact ⟨linked.replace inside topic stream finished, linked.group_eq, linked.patient⟩
  · rw [turn, turned]
    obtain ⟨streams, lines, received⟩ := @Broker.receive_cases manager.broker worker.stream
    have kept : Linked aborting group (manager.broker.receive worker.stream).2 manager.workers := by
      refine linked.of_ledger linked.orderly.receive ?_ ?_ ?_ <;> rw [received]
      exact lines
    refine ⟨kept.replace inside topic stream ?_, linked.group_eq, linked.patient⟩
    rw [finished, TopicWorker.isFinished, receiving]
    rfl
  · rw [turn, turned]
    have unfinished : old.isFinished = false := by
      rw [finished, TopicWorker.isFinished, receiving]
      rfl
    have line := linked.line inside unfinished
    rw [stream, topic] at line
    obtain ⟨lines, counted, -⟩ := Broker.close_cases line
    exact ⟨Linked.finish linked.toLinked inside topic stream unfinished rfl
      (linked.orderly.close line) lines Broker.close_asked (.inl ⟨rfl, counted⟩), linked.group_eq,
      linked.patient⟩

/-- A worker that does not stop is aborted, if that may be. -/
theorem abort_linked (linked : manager.IsLinked aborting group) (inside : worker ∈ manager.workers)
    (unfinished : worker.isFinished = false) (may : aborting) :
    (manager.abort worker).IsLinked aborting group := by
  have line := linked.line inside unfinished
  have finished : ({ worker with phase := .finished } : TopicWorker).isFinished = true := rfl
  refine ⟨?_, linked.group_eq, linked.patient⟩
  exact Linked.finish linked.toLinked inside rfl rfl unfinished finished (linked.orderly.drop line)
    (Broker.ledger_drop line) rfl (.inr ⟨rfl, rfl, may⟩)

theorem removeWorker_linked (linked : manager.IsLinked aborting group)
    (finished : ∀ worker ∈ manager.workers, worker.topic = topic → worker.isFinished = true) :
    (manager.removeWorker topic).IsLinked aborting group := by
  refine ⟨linked.filter _ ?_, linked.group_eq, linked.patient⟩
  intro worker inside gone
  exact finished worker inside (by simpa using gone)

theorem finishUnsubscribe_linked (linked : manager.IsLinked aborting group)
    (finished : ∀ worker ∈ manager.workers, worker.topic = topic → worker.isFinished = true) :
    (manager.finishUnsubscribe topic caller).2.IsLinked aborting group := by
  have removed := removeWorker_linked linked finished
  exact ⟨removed.toLinked, removed.group_eq, removed.patient⟩

theorem finished_of_worker? (linked : manager.IsLinked aborting group)
    (found : ∀ worker, manager.worker? topic = some worker → worker.isFinished = true) :
    ∀ worker ∈ manager.workers, worker.topic = topic → worker.isFinished = true := by
  rintro worker inside rfl
  exact found worker (worker?_of_mem linked inside)

/-- Waiting for a worker to stop: either it has, or there is still time, or it is aborted. -/
theorem awaitStop_linked (linked : manager.IsLinked aborting group)
    (inTime : ∀ worker, manager.worker? topic = some worker → worker.isFinished = false →
      deadline ≤ now → aborting) :
    (manager.awaitStop now topic caller deadline).2.IsLinked aborting group := by
  unfold awaitStop
  split
  next none =>
    refine finishUnsubscribe_linked linked (finished_of_worker? linked ?_)
    intro worker found
    cases none.symm.trans found
  next worker found =>
    split_ifs with finished early
    · refine finishUnsubscribe_linked linked (finished_of_worker? linked ?_)
      intro other alsoFound
      cases found.symm.trans alsoFound
      exact finished
    · exact linked
    · obtain ⟨inside, topic_eq⟩ := worker?_eq_some found
      have unfinished : worker.isFinished = false := by simpa using finished
      have may := inTime worker found unfinished (Nat.le_of_not_lt early)
      refine finishUnsubscribe_linked (abort_linked linked inside unfinished may) ?_
      intro w also same
      have w_cases : w = { worker with phase := .finished } ∨
          (w ∈ manager.workers ∧ w.topic ≠ worker.topic) := (mem_replaced inside (by rfl)).mp also
      rcases w_cases with rfl | ⟨-, differs⟩
      · rfl
      · exact absurd (same.trans topic_eq.symm) differs

/-- What subscribing under the lock of a topic does: nothing if there is a worker that is not
finished; otherwise the topic has no worker unless it is valid and the broker accepts. -/
theorem subscribeHeld_cases (manager : Manager) (topic : String) :
    (manager.isSubscribed topic = true ∧ manager.subscribeHeld topic = (true, manager)) ∨
      (manager.isSubscribed topic = false ∧
        ((Topic.isValid topic = false ∧ manager.subscribeHeld topic =
            (false, { manager.removeWorker topic with failures := manager.failures + 1 })) ∨
          (Topic.isValid topic = true ∧ topic ∈ manager.broker.rejected ∧
            manager.subscribeHeld topic = (false, { manager.removeWorker topic with
              broker := { manager.broker with asked := manager.broker.asked ++ [topic] }
              failures := manager.failures + 1 })) ∨
          (Topic.isValid topic = true ∧ topic ∉ manager.broker.rejected ∧
            manager.subscribeHeld topic = (true, publishGauge { manager.removeWorker topic with
              broker := (manager.broker.subscribe topic manager.group).2
              workers := (manager.removeWorker topic).workers ++
                [{ topic, stream := manager.broker.streams.length }] })))) := by
  unfold subscribeHeld
  cases manager.isSubscribed topic with
  | true => exact .inl ⟨rfl, rfl⟩
  | false =>
    refine .inr ⟨rfl, ?_⟩
    cases Topic.isValid topic with
    | false => exact .inl ⟨rfl, rfl⟩
    | true =>
      by_cases refused : topic ∈ manager.broker.rejected
      · refine .inr (.inl ⟨rfl, refused, ?_⟩)
        simp [removeWorker, Broker.subscribe_of_rejected refused]
      · refine .inr (.inr ⟨rfl, refused, ?_⟩)
        have stream : (manager.broker.subscribe topic manager.group).1 = _ :=
          Broker.subscribe_stream refused
        rcases subscribed : manager.broker.subscribe topic manager.group with ⟨n, after⟩
        obtain rfl : n = some manager.broker.streams.length := by rw [← stream, subscribed]
        simp [removeWorker, subscribed]

/-- Under the lock of a topic its finished worker is replaced by one with a new stream. -/
theorem subscribeHeld_linked (linked : manager.IsLinked aborting group) :
    (manager.subscribeHeld topic).2.IsLinked aborting group := by
  rcases manager.subscribeHeld_cases topic with ⟨-, held⟩ | ⟨subscribed, held⟩
  · rw [held]
    exact linked
  have removed : (manager.removeWorker topic).IsLinked aborting group := by
    refine removeWorker_linked linked (finished_of_worker? linked ?_)
    intro worker found
    simpa [isSubscribed, found] using subscribed
  rcases held with ⟨-, held⟩ | ⟨valid, -, held⟩ | ⟨valid, accepted, held⟩
  · rw [held]
    exact ⟨removed.toLinked, removed.group_eq, removed.patient⟩
  · rw [held]
    exact ⟨removed.refuse valid, removed.group_eq, removed.patient⟩
  · rw [held, linked.group_eq]
    have fresh : topic ∉ (manager.removeWorker topic).workers.map (·.topic) := by
      simp [removeWorker]
    exact ⟨removed.add valid accepted fresh, removed.group_eq, removed.patient⟩

/-! ## Operations -/

/-- Whether the time of a stop is over although the worker is not finished. -/
def isOverdue (manager : Manager) (now : Nat) (job : Job) : Job.Phase → Bool
  | .queued => false
  | .stopping deadline => decide (deadline ≤ now) && manager.isSubscribed job.topic

/-- A worker that was asked to stop is given the whole time that the manager has for that. -/
theorem unsubscribe_linked (linked : manager.IsLinked aborting group)
    (found : manager.worker? topic = some worker) :
    ((manager.requestStop worker).awaitStop now topic caller (now + manager.stopTimeout)).2.IsLinked
      aborting group := by
  obtain ⟨inside, -⟩ := worker?_eq_some found
  have asked : (manager.requestStop worker).IsLinked aborting group :=
    turn_linked linked inside rfl rfl rfl
  refine awaitStop_linked asked fun _ _ _ isOver => linked.patient ?_
  omega

theorem advanceJob_linked (linked : manager.IsLinked aborting group) (job : Job) (phase : Job.Phase)
    (inTime : manager.isOverdue now job phase = true → aborting) :
    (manager.advanceJob now caller job phase).2.IsLinked aborting group := by
  cases phase with
  | stopping deadline =>
    refine awaitStop_linked linked ?_
    intro worker found unfinished isOver
    exact inTime (by simp [isOverdue, isSubscribed, found, unfinished, isOver])
  | queued =>
    have entered : (manager.enter job.topic caller).IsLinked aborting group :=
      ⟨linked.toLinked, linked.group_eq, linked.patient⟩
    unfold advanceJob
    dsimp only
    split_ifs with blocked
    · exact entered
    cases job with
    | subscribe topic =>
      have held : ((manager.enter topic caller).subscribeHeld topic).2.IsLinked aborting group :=
        subscribeHeld_linked entered
      dsimp only [Job.topic]
      generalize (manager.enter topic caller).subscribeHeld topic = result at held ⊢
      rcases result with ⟨_ | _, after⟩
      · exact ⟨held.toLinked, held.group_eq, held.patient⟩
      · exact ⟨held.toLinked, held.group_eq, held.patient⟩
    | unsubscribe topic =>
      dsimp only [Job.topic]
      split
      · exact ⟨entered.toLinked, entered.group_eq, entered.patient⟩
      next worker found => exact unsubscribe_linked entered found

theorem advanceJobs_linked (jobs : List Job) (phase : Job.Phase) (report : ReconcileReport)
    (linked : manager.IsLinked aborting group)
    (inTime : ∀ job ∈ jobs.head?, manager.isOverdue now job phase = true → aborting) :
    (advanceJobs now caller phase jobs report manager).2.2.IsLinked aborting group := by
  induction jobs generalizing phase report manager with
  | nil => exact linked
  | cons job rest ih =>
    have advanced := @advanceJob_linked _ _ _ now caller linked job phase (inTime job rfl)
    unfold advanceJobs
    generalize manager.advanceJob now caller job phase = result at advanced ⊢
    rcases result with ⟨_ | _, after⟩
    · exact ih .queued _ advanced fun _ _ overdue => by cases overdue
    · exact advanced

theorem prune_linked (linked : manager.IsLinked aborting group) :
    manager.prune.IsLinked aborting group := by
  have locks_only : ∀ (topics : List String) (m : Manager), m.IsLinked aborting group →
      (topics.foldl forgetIdleLock m).IsLinked aborting group := by
    intro topics
    induction topics with
    | nil => exact fun _ h => h
    | cons topic rest ih => exact fun _ h => ih _ ⟨h.toLinked, h.group_eq, h.patient⟩
  have unfinished : Linked aborting group manager.broker
      (manager.workers.filter (!·.isFinished)) :=
    linked.filter _ fun worker _ gone => by simpa using gone
  have forgotten := locks_only ((manager.workers.filter (·.isFinished)).map (·.topic))
    { manager with workers := manager.workers.filter (!·.isFinished) }
    ⟨unfinished, linked.group_eq, linked.patient⟩
  exact ⟨forgotten.toLinked, forgotten.group_eq, forgotten.patient⟩

theorem work_linked (reconciling : Bool) (phase : Job.Phase) (jobs : List Job)
    (report : ReconcileReport) (linked : manager.IsLinked aborting group)
    (inTime : ∀ job ∈ jobs.head?, manager.isOverdue now job phase = true → aborting) :
    (work now caller reconciling phase jobs report manager).2.IsLinked aborting group := by
  have advanced := @advanceJobs_linked _ _ manager now caller jobs phase report linked inTime
  unfold work
  generalize advanceJobs now caller phase jobs report manager = result at advanced ⊢
  rcases result with ⟨_ | ⟨blocked, left⟩, noted, after⟩
  · cases reconciling
    · exact advanced
    · exact ⟨advanced.toLinked, advanced.group_eq, advanced.patient⟩
  · exact advanced

end Manager

/-- Whether an operation waits for a worker to stop whose time is over. -/
def Operation.isOverdue (manager : Manager) (now : Nat) : Operation → Bool
  | .working _ phase (job :: _) _ => manager.isOverdue now job phase
  | _ => false

/-- Operations of the manager keep the workers, the streams and the members together, and abort no
worker in time. -/
theorem Manager.advance_linked {manager : Manager} {now caller : Nat} (operation : Operation)
    (linked : manager.IsLinked aborting group)
    (inTime : operation.isOverdue manager now = true → aborting) :
    (Manager.advance now caller operation manager).2.IsLinked aborting group := by
  cases operation with
  | done report => exact linked
  | working reconciling phase jobs report =>
    refine work_linked reconciling phase jobs report linked ?_
    intro job first
    cases jobs with
    | nil => cases first
    | cons head rest =>
      cases first
      exact inTime
  | waiting required =>
    unfold Manager.advance
    dsimp only
    generalize (if manager.turns.contains caller then manager.turns
      else manager.turns ++ [caller]) = turns
    split_ifs with blocked
    · exact ⟨linked.toLinked, linked.group_eq, linked.patient⟩
    · refine work_linked true .queued _ {} (prune_linked ?_) fun _ _ overdue => by cases overdue
      exact ⟨linked.toLinked, linked.group_eq, linked.patient⟩

end TopicAlerts
