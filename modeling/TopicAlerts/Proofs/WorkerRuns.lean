import TopicAlerts.Proofs.Delivery
import TopicAlerts.Proofs.Linked

/-!
# Runs of a topic worker

A worker is followed from its start through any interleaving of its own steps with messages that
come to its stream, the end of the stream, requests to stop, and the returns of its handler. A step
is a round of its loop, or one of the two that it takes on its way out: it closes its stream, and
then it signals that it is finished. What the manager sees as one turn is made up of these steps.

What is delivered to the stream and taken from it is told by the history of the broker, and
`Run.Recorded` says that the worker has handed on what was taken. The rest are two step lemmas, one
for a worker that is asked to stop (`Run.stopping_after`) and one for a worker that nobody gives up
(`Run.Balanced.after`), which closes its stream once and is finished only after that
(`Run.Balanced.exists_finish`).
-/

namespace TopicAlerts

/-- The stream that an event uses, if it is one of those that only the owner of a stream causes. -/
def Broker.Event.stream? : Broker.Event → Option Nat
  | .receive stream | .close stream | .drop stream => some stream
  | .subscribe _ _ | .publish _ _ | .disconnect _ | .reject _ | .accept _ => none

theorem Broker.takenAt_of_ne {event : Broker.Event} {stream : Nat}
    (h : event.stream? ≠ some stream) (broker : Broker) :
    Broker.takenAt stream broker event = [] := by
  cases event with
  | receive n => exact if_neg fun hself => h (congrArg some hself)
  | subscribe | publish | close | drop | disconnect | reject | accept => rfl

/-- What others do only adds to what waits for a stream. -/
theorem Broker.Single.waiting_after {broker : Broker} (single : broker.Single)
    {event : Broker.Event} {stream : Nat} (h : event.stream? ≠ some stream) :
    (broker.after event).waiting stream =
      broker.waiting stream ++ Broker.handedAt stream broker event := by
  have hlossless : event = .drop stream → broker.waiting stream = [] := by
    rintro rfl
    exact absurd rfl h
  rw [← single.taken_append_waiting hlossless, Broker.takenAt_of_ne h, List.nil_append]

namespace TopicWorker

/-- The messages that are handed on in a step. -/
def Step.messages : Step → List Broker.Message
  | .handle message => [message]
  | .leave | .close | .finish | .wait => []

/-- What happens while a worker is at work. -/
inductive Event
  /-- Others use the broker: messages come to the stream, or it ends. -/
  | broker (event : Broker.Event)
  /-- The worker is asked to stop. -/
  | stop
  /-- The worker takes a step. -/
  | step
  /-- The call of the handler returns, if one runs. -/
  | returned
  /-- The worker was asked to stop and did not in time: it is aborted, and its stream is dropped. -/
  | giveUp

/-- A worker at work. -/
structure Run where
  /-- The worker. -/
  worker : TopicWorker
  /-- How far it is on its way out. -/
  exit : Exit := .inLoop
  /-- The broker. -/
  broker : Broker
  /-- The messages that were delivered to its stream. -/
  delivered : List Broker.Message := []
  /-- The messages that its handler was called with. -/
  started : List Broker.Message := []
  /-- How many of these calls have returned. -/
  returned : Nat := 0
  /-- How often it closed its stream. -/
  closes : Nat := 0

/-- The event leaves a stream to its owner. -/
def Event.Spares (stream : Nat) : Event → Prop
  | .broker event => event.stream? ≠ some stream
  | .stop | .step | .returned | .giveUp => True

namespace Run

/-- The start of a worker for a stream that a subscription gives. -/
def start (broker : Broker) (topic group : String) (stream : Nat) : Run :=
  { worker := { topic, stream }, broker := (broker.subscribe topic group).2 }

/-- How many calls of the handler are running. -/
def running (run : Run) : Nat := if run.worker.phase = .handling then 1 else 0

/-- The worker at work after an event. -/
def after (run : Run) : Event → Run
  | .broker event =>
    { run with
      broker := run.broker.after event
      delivered := run.delivered ++ Broker.handedAt run.worker.stream run.broker event }
  | .stop => { run with worker := { run.worker with stopping := true } }
  | .step =>
    let (step, worker, exit, broker) := run.worker.step run.exit run.broker
    { run with
      worker, exit, broker
      started := run.started ++ step.messages
      closes := run.closes + (broker.closeCalls - run.broker.closeCalls) }
  | .returned =>
    if run.worker.phase = .handling then
      { run with worker := run.worker.returned, returned := run.returned + 1 }
    else run
  | .giveUp =>
    if run.worker.isFinished then run
    else
      { run with
        worker := { run.worker with phase := .finished }
        broker := run.broker.drop run.worker.stream }

/-- The worker at work after events one after the other. -/
def through (run : Run) (events : List Event) : Run := events.foldl after run

variable {run : Run} {event : Event} {events later : List Event} {log : List Broker.Event}
  {topic group : String} {stream : Nat}

theorem through_append : run.through (events ++ later) = (run.through events).through later :=
  List.foldl_append

/-! ## One event -/

/-- What a step does to a worker at work: nothing, or it starts a call with the next message, or it
leaves the loop, or it closes the stream, or it signals that the worker is finished. -/
inductive Moves (run : Run) : Run → Prop
  | wait (hwaits : run.worker.phase = .receiving → run.exit = .inLoop ∧
      run.worker.stopping = false ∧ (run.broker.receive run.worker.stream).1 = .pending) :
      Moves run run
  | handle {message : Broker.Message} (hphase : run.worker.phase = .receiving)
      (hexit : run.exit = .inLoop) (hstop : run.worker.stopping = false)
      (hreceived : (run.broker.receive run.worker.stream).1 = .message message) :
      Moves run { run with
        worker := { run.worker with phase := .handling }
        exit := .inLoop
        broker := (run.broker.receive run.worker.stream).2
        started := run.started ++ [message] }
  | leave (hphase : run.worker.phase = .receiving) (hexit : run.exit = .inLoop)
      (hends : run.worker.stopping = true ∨ (run.broker.receive run.worker.stream).1 = .ended) :
      Moves run { run with exit := .left }
  | close (hphase : run.worker.phase = .receiving) (hexit : run.exit = .left) :
      Moves run { run with
        exit := .closed
        broker := run.broker.close run.worker.stream
        closes := run.closes + ((run.broker.close run.worker.stream).closeCalls -
          run.broker.closeCalls) }
  | finish (hphase : run.worker.phase = .receiving) (hexit : run.exit = .closed) :
      Moves run { run with worker := { run.worker with phase := .finished }, exit := .closed }

theorem moves_step (run : Run) : run.Moves (run.after .step) := by
  unfold after
  have hsteps := run.worker.steps run.exit run.broker
  generalize run.worker.step run.exit run.broker = result at hsteps ⊢
  cases hsteps with
  | wait hwaits => simpa [Step.messages] using Moves.wait hwaits
  | handle hphase hexit hstop hreceived =>
    obtain ⟨streams, -, hreceive⟩ := @Broker.receive_cases run.broker run.worker.stream
    have hcloses : (run.broker.receive run.worker.stream).2.closeCalls =
        run.broker.closeCalls := by rw [hreceive]
    simpa [Step.messages, hcloses] using Moves.handle hphase hexit hstop hreceived
  | leave hphase hexit hends => simpa [Step.messages] using Moves.leave hphase hexit hends
  | close hphase hexit => simpa [Step.messages] using Moves.close hphase hexit
  | finish hphase hexit => simpa [Step.messages] using Moves.finish hphase hexit

theorem after_step_of_ne (hphase : run.worker.phase ≠ .receiving) : run.after .step = run := by
  have hmoves := run.moves_step
  generalize run.after .step = next at hmoves ⊢
  cases hmoves with
  | wait _ => rfl
  | handle hother _ _ _ => exact absurd hother hphase
  | leave hother _ _ => exact absurd hother hphase
  | close hother _ => exact absurd hother hphase
  | finish hother _ => exact absurd hother hphase

theorem after_returned (hphase : run.worker.phase = .handling) : run.after .returned =
    { run with worker := run.worker.returned, returned := run.returned + 1 } := if_pos hphase

theorem after_returned_of_ne (hphase : run.worker.phase ≠ .handling) :
    run.after .returned = run := if_neg hphase

theorem isFinished_iff : run.worker.isFinished = true ↔ run.worker.phase = .finished := beq_iff_eq

theorem running_eq_zero (hphase : run.worker.phase ≠ .handling) : run.running = 0 := if_neg hphase

theorem after_giveUp_cases (run : Run) :
    (run.worker.phase = .finished ∧ run.after .giveUp = run) ∨
      (run.worker.phase ≠ .finished ∧ run.after .giveUp = { run with
        worker := { run.worker with phase := .finished }
        broker := run.broker.drop run.worker.stream }) := by
  by_cases hfinished : run.worker.isFinished = true
  · exact .inl ⟨isFinished_iff.mp hfinished, if_pos hfinished⟩
  · exact .inr ⟨fun h => hfinished (isFinished_iff.mpr h), if_neg hfinished⟩

/-- The topic and the stream of a worker stay as they are. -/
theorem after_worker (run : Run) (event : Event) :
    (run.after event).worker.topic = run.worker.topic ∧
      (run.after event).worker.stream = run.worker.stream := by
  cases event with
  | broker event => exact ⟨rfl, rfl⟩
  | stop => exact ⟨rfl, rfl⟩
  | step =>
    have hmoves := run.moves_step
    generalize run.after .step = next at hmoves ⊢
    cases hmoves <;> exact ⟨rfl, rfl⟩
  | returned =>
    by_cases hphase : run.worker.phase = .handling
    · rw [after_returned hphase]
      exact ⟨rfl, rfl⟩
    · rw [after_returned_of_ne hphase]
      exact ⟨rfl, rfl⟩
  | giveUp =>
    rcases run.after_giveUp_cases with ⟨-, hafter⟩ | ⟨-, hafter⟩ <;> rw [hafter] <;>
      exact ⟨rfl, rfl⟩

theorem through_stream (run : Run) (events : List Event) :
    (run.through events).worker.stream = run.worker.stream := by
  induction events generalizing run with
  | nil => rfl
  | cons event rest ih => exact (ih (run.after event)).trans (run.after_worker event).2

/-- A worker stops only when it is asked to. -/
theorem through_stopping (hnever : .stop ∉ events) :
    (run.through events).worker.stopping = run.worker.stopping := by
  induction events generalizing run with
  | nil => rfl
  | cons event rest ih =>
    rw [List.mem_cons, not_or] at hnever
    refine (ih hnever.2).trans ?_
    cases event with
    | broker event => rfl
    | stop => exact absurd rfl hnever.1
    | step =>
      have hmoves := run.moves_step
      generalize run.after .step = next at hmoves ⊢
      cases hmoves <;> rfl
    | returned =>
      by_cases hphase : run.worker.phase = .handling
      · rw [after_returned hphase]
        rfl
      · rw [after_returned_of_ne hphase]
    | giveUp => rcases run.after_giveUp_cases with ⟨-, hafter⟩ | ⟨-, hafter⟩ <;> rw [hafter]

/-! ## The history of the broker -/

/-- The broker has come to where it is by these events. The worker has called its handler with what
was taken from its stream. -/
structure Recorded (group : String) (run : Run) (log : List Broker.Event) : Prop where
  broker_eq : run.broker = Broker.empty.run log
  subscribed : ∃ since, Broker.Subscribed log run.worker.stream run.worker.topic group since
  started_eq : run.started = Broker.taken log run.worker.stream
  delivered_eq : run.delivered = Broker.handed log run.worker.stream

/-- One more event of the broker. -/
theorem Recorded.concat {next : Run} (h : Recorded group run log) (event : Broker.Event)
    (hworker : next.worker.topic = run.worker.topic ∧ next.worker.stream = run.worker.stream)
    (hbroker : next.broker = run.broker.after event)
    (hstarted : next.started = run.started ++ Broker.takenAt run.worker.stream run.broker event)
    (hdelivered : next.delivered =
      run.delivered ++ Broker.handedAt run.worker.stream run.broker event) :
    Recorded group next (log ++ [event]) where
  broker_eq := by rw [hbroker, h.broker_eq, Broker.run_append]
  subscribed := by
    obtain ⟨since, hsubscribed⟩ := h.subscribed
    rw [hworker.1, hworker.2]
    exact ⟨since ++ [event], hsubscribed.append [event]⟩
  started_eq := by
    rw [hstarted, hworker.2, Broker.taken_concat, h.started_eq, h.broker_eq]
  delivered_eq := by
    rw [hdelivered, hworker.2, Broker.handed_concat, h.delivered_eq, h.broker_eq]

/-- A step of the worker is at most one event of the broker: it takes a message, or closes the
stream. -/
theorem Recorded.moves {next : Run} (h : Recorded group run log) (hmoves : run.Moves next) :
    ∃ more, Recorded group next (log ++ more) := by
  have hsame : Recorded group run (log ++ []) := by rwa [List.append_nil]
  cases hmoves with
  | wait hwaits => exact ⟨[], hsame⟩
  | @handle message hphase hexit hstop hreceived =>
    have htaken : Broker.takenAt run.worker.stream run.broker (.receive run.worker.stream) =
        [message] := by
      rw [Broker.takenAt, if_pos rfl, hreceived]
      rfl
    refine ⟨[.receive run.worker.stream], h.concat _ ⟨rfl, rfl⟩ rfl ?_ ?_⟩
    · rw [htaken]
    · exact (List.append_nil _).symm
  | leave hphase hexit hends =>
    exact ⟨[], hsame.broker_eq, hsame.subscribed, hsame.started_eq, hsame.delivered_eq⟩
  | close hphase hexit =>
    refine ⟨[.close run.worker.stream], h.concat _ ⟨rfl, rfl⟩ rfl ?_ ?_⟩
    · exact (List.append_nil _).symm
    · exact (List.append_nil _).symm
  | finish hphase hexit =>
    exact ⟨[], hsame.broker_eq, hsame.subscribed, hsame.started_eq, hsame.delivered_eq⟩

theorem Recorded.after (h : Recorded group run log) (hspares : event.Spares run.worker.stream) :
    ∃ more, Recorded group (run.after event) (log ++ more) := by
  have hsame : Recorded group run (log ++ []) := by rwa [List.append_nil]
  cases event with
  | broker event =>
    refine ⟨[event], h.concat event ⟨rfl, rfl⟩ rfl ?_ rfl⟩
    rw [Broker.takenAt_of_ne hspares, List.append_nil]
    rfl
  | stop =>
    exact ⟨[], hsame.broker_eq, hsame.subscribed, hsame.started_eq, hsame.delivered_eq⟩
  | step => exact h.moves run.moves_step
  | returned =>
    by_cases hphase : run.worker.phase = .handling
    · rw [after_returned hphase]
      exact ⟨[], hsame.broker_eq, hsame.subscribed, hsame.started_eq, hsame.delivered_eq⟩
    · rw [after_returned_of_ne hphase]
      exact ⟨[], hsame⟩
  | giveUp =>
    rcases run.after_giveUp_cases with ⟨-, hafter⟩ | ⟨-, hafter⟩ <;> rw [hafter]
    · exact ⟨[], hsame⟩
    · refine ⟨[.drop run.worker.stream], h.concat _ ⟨rfl, rfl⟩ rfl ?_ ?_⟩
      · exact (List.append_nil _).symm
      · exact (List.append_nil _).symm

theorem Recorded.through (h : Recorded group run log)
    (hspares : ∀ event ∈ events, event.Spares run.worker.stream) :
    ∃ more, Recorded group (run.through events) (log ++ more) := by
  induction events generalizing run log with
  | nil => exact ⟨[], by rwa [List.append_nil]⟩
  | cons event rest ih =>
    obtain ⟨hfirst, hrest⟩ := List.forall_mem_cons.mp hspares
    obtain ⟨more, hafter⟩ := h.after hfirst
    obtain ⟨others, hthrough⟩ := ih hafter (by rwa [(run.after_worker event).2])
    exact ⟨more ++ others, by rwa [← List.append_assoc]⟩

theorem recorded_start {earlier : List Broker.Event}
    (hstream : ((Broker.empty.run earlier).subscribe topic group).1 = some stream) :
    Recorded group (start (Broker.empty.run earlier) topic group stream)
      (earlier ++ [.subscribe topic group]) := by
  -- nothing has come to a stream that is new
  have hhanded : Broker.handed earlier stream = [] := by
    by_contra hsome
    obtain ⟨other, group', since, hsubscribed⟩ := Broker.subscribed_of_handed hsome
    obtain ⟨was, hline⟩ := hsubscribed.line
    have hhere := (List.getElem?_eq_some_iff.mp hline).1
    have hnew := (Broker.eq_length_of_subscribe hstream).2
    rw [Broker.length_ledger] at hhere
    omega
  have htaken : Broker.taken earlier stream = [] :=
    List.prefix_nil.mp (hhanded ▸ Broker.taken_isPrefix earlier stream)
  refine ⟨?_, ⟨[], earlier, rfl, hstream⟩, ?_, ?_⟩
  · rw [Broker.run_append]
    rfl
  · show [] = Broker.taken (earlier ++ [.subscribe topic group]) stream
    rw [Broker.taken_concat, htaken]
    rfl
  · show [] = Broker.handed (earlier ++ [.subscribe topic group]) stream
    rw [Broker.handed_concat, hhanded]
    rfl

/-- What others do brings nothing to a stream that has ended, and takes nothing from it. -/
theorem Recorded.waiting_after (hlog : Recorded group run log)
    (hended : run.broker.hasEnded run.worker.stream = true) {event : Broker.Event}
    (hspares : event.stream? ≠ some run.worker.stream) :
    (run.broker.after event).waiting run.worker.stream =
      run.broker.waiting run.worker.stream := by
  obtain ⟨since, hsubscribed⟩ := hlog.subscribed
  rw [hlog.broker_eq] at hended ⊢
  have hnothing := Broker.handed_of_not_serves hsubscribed (hsubscribed.hasEnded_iff.mp hended)
    [event]
  rw [Broker.handed_concat, List.append_right_eq_self] at hnothing
  rw [(Broker.single_run log).waiting_after hspares, hnothing, List.append_nil]

/-- A stream that has ended stays so. -/
theorem Recorded.hasEnded_after (hlog : Recorded group run log)
    (hended : run.broker.hasEnded run.worker.stream = true)
    (hspares : event.Spares run.worker.stream) :
    (run.after event).broker.hasEnded run.worker.stream = true := by
  obtain ⟨since, hsubscribed⟩ := hlog.subscribed
  obtain ⟨more, hafter⟩ := hlog.after hspares
  obtain ⟨since', hsubscribed'⟩ := hafter.subscribed
  rw [(run.after_worker event).2] at hsubscribed'
  rw [hlog.broker_eq, hsubscribed.hasEnded_iff] at hended
  rw [hafter.broker_eq, hsubscribed'.hasEnded_iff]
  exact fun hserves => hended (hsubscribed.serves_of_append hserves)

/-! ## Workers on their way out, and workers that are asked to stop -/

/-- A worker that has closed its stream starts no call any more. -/
theorem closed_after (hclosed : run.exit = .closed) (event : Event) :
    (run.after event).exit = .closed ∧ (run.after event).started = run.started := by
  cases event with
  | broker event => exact ⟨hclosed, rfl⟩
  | stop => exact ⟨hclosed, rfl⟩
  | step =>
    have hmoves := run.moves_step
    generalize run.after .step = next at hmoves ⊢
    cases hmoves with
    | wait hwaits => exact ⟨hclosed, rfl⟩
    | handle hphase hexit hstop hreceived => cases hclosed.symm.trans hexit
    | leave hphase hexit hends => cases hclosed.symm.trans hexit
    | close hphase hexit => cases hclosed.symm.trans hexit
    | finish hphase hexit => exact ⟨rfl, rfl⟩
  | returned =>
    by_cases hphase : run.worker.phase = .handling
    · rw [after_returned hphase]
      exact ⟨hclosed, rfl⟩
    · rw [after_returned_of_ne hphase]
      exact ⟨hclosed, rfl⟩
  | giveUp =>
    rcases run.after_giveUp_cases with ⟨-, hafter⟩ | ⟨-, hafter⟩ <;> rw [hafter] <;>
      exact ⟨hclosed, rfl⟩

theorem closed_through (hclosed : run.exit = .closed) (events : List Event) :
    (run.through events).started = run.started := by
  induction events generalizing run with
  | nil => rfl
  | cons event rest ih =>
    obtain ⟨hafter, hstarted⟩ := closed_after hclosed event
    exact (ih hafter).trans hstarted

/-- A worker that is asked to stop starts no call, and only the call that runs may return. -/
theorem stopping_after (hstop : run.worker.stopping = true) (event : Event) :
    (run.after event).worker.stopping = true ∧ (run.after event).started = run.started ∧
      (run.after event).returned + (run.after event).running ≤ run.returned + run.running := by
  cases event with
  | broker event => exact ⟨hstop, rfl, Nat.le_refl _⟩
  | stop => exact ⟨rfl, rfl, Nat.le_refl _⟩
  | step =>
    have hmoves := run.moves_step
    generalize run.after .step = next at hmoves ⊢
    cases hmoves with
    | wait hwaits => exact ⟨hstop, rfl, Nat.le_refl _⟩
    | handle hphase hexit hgoesOn hreceived => cases hstop.symm.trans hgoesOn
    | leave hphase hexit hends => exact ⟨hstop, rfl, Nat.le_refl _⟩
    | close hphase hexit => exact ⟨hstop, rfl, Nat.le_refl _⟩
    | finish hphase hexit => exact ⟨hstop, rfl, Nat.add_le_add_left (Nat.zero_le _) _⟩
  | returned =>
    by_cases hphase : run.worker.phase = .handling
    · rw [after_returned hphase, running, running, if_pos hphase]
      exact ⟨hstop, rfl, Nat.le_refl _⟩
    · rw [after_returned_of_ne hphase]
      exact ⟨hstop, rfl, Nat.le_refl _⟩
  | giveUp =>
    rcases run.after_giveUp_cases with ⟨-, hafter⟩ | ⟨-, hafter⟩ <;> rw [hafter]
    · exact ⟨hstop, rfl, Nat.le_refl _⟩
    · exact ⟨hstop, rfl, Nat.add_le_add_left (Nat.zero_le _) _⟩

theorem stopping_through (hstop : run.worker.stopping = true) (events : List Event) :
    (run.through events).started = run.started ∧
      (run.through events).returned + (run.through events).running ≤
        run.returned + run.running := by
  induction events generalizing run with
  | nil => exact ⟨rfl, Nat.le_refl _⟩
  | cons event rest ih =>
    obtain ⟨hafter, hstarted, hcalls⟩ := stopping_after hstop event
    obtain ⟨hrest, hlater⟩ := ih hafter
    exact ⟨hrest.trans hstarted, hlater.trans hcalls⟩

/-! ## Workers that nobody gives up -/

/-- What was delivered was handed on or waits. All calls have returned but the one that runs. The
stream was closed once if the worker has come so far, and not otherwise. A worker leaves its loop
between calls, when it is asked to stop or nothing comes any more, and is finished last. -/
structure Balanced (run : Run) : Prop where
  delivered_eq : run.started ++ run.broker.waiting run.worker.stream = run.delivered
  length_started : run.started.length = run.returned + run.running
  closes_eq : run.closes = if run.exit = .closed then 1 else 0
  idle : run.exit ≠ .inLoop → run.worker.phase ≠ .handling
  leaves : run.exit ≠ .inLoop →
    run.worker.stopping = true ∨ (run.broker.receive run.worker.stream).1 = .ended
  finished : run.worker.phase = .finished → run.exit = .closed

theorem balanced_start {broker : Broker}
    (hstream : (broker.subscribe topic group).1 = some stream) :
    (start broker topic group stream).Balanced := by
  refine ⟨?_, rfl, rfl, fun hout => absurd rfl hout, fun hout => absurd rfl hout, nofun⟩
  have hnew : broker.streams[stream]? = none :=
    List.getElem?_eq_none (Broker.eq_length_of_subscribe hstream).2.ge
  show (broker.subscribe topic group).2.waiting stream = []
  rw [Broker.waiting_subscribe, Broker.waiting, hnew]
  rfl

/-- Nothing comes any more to a stream that gives nothing any more. -/
theorem Recorded.ended_after (hlog : Recorded group run log)
    (hended : (run.broker.receive run.worker.stream).1 = .ended)
    (hspares : event.Spares run.worker.stream)
    (hwaiting : (run.after event).broker.waiting run.worker.stream =
      run.broker.waiting run.worker.stream) :
    ((run.after event).broker.receive run.worker.stream).1 = .ended := by
  rw [Broker.receive_ended_iff] at hended ⊢
  exact ⟨hwaiting.trans hended.1, hlog.hasEnded_after hended.2 hspares⟩

theorem Balanced.step (h : run.Balanced) (hlog : Recorded group run log) :
    (run.after .step).Balanced := by
  have hended (hnothing : (run.broker.receive run.worker.stream).1 = .ended)
      (hwaiting : (run.after .step).broker.waiting run.worker.stream =
        run.broker.waiting run.worker.stream) :
      ((run.after .step).broker.receive run.worker.stream).1 = .ended :=
    hlog.ended_after hnothing trivial hwaiting
  have hmoves := run.moves_step
  generalize run.after .step = next at hended hmoves ⊢
  cases hmoves with
  | wait hwaits => exact h
  | handle hphase hexit hstop hreceived =>
    have hbefore := running_eq_zero (show run.worker.phase ≠ .handling by rw [hphase]; decide)
    have hwaiting := @Broker.taken_append_waiting_receive run.broker run.worker.stream
      run.worker.stream
    rw [Broker.takenAt, if_pos rfl, hreceived] at hwaiting
    refine ⟨?_, ?_, ?_, fun hout => absurd rfl hout, fun hout => absurd rfl hout,
      fun hfinished => by cases hfinished⟩
    · rw [← h.delivered_eq, ← hwaiting, ← List.append_assoc]
      rfl
    · rw [List.length_append, h.length_started, hbefore]
      rfl
    · rw [h.closes_eq, hexit]
  | leave hphase hexit hends =>
    refine ⟨h.delivered_eq, h.length_started, ?_, fun _ => ?_, fun _ => hends, fun hfinished => ?_⟩
    · rw [h.closes_eq, hexit]
      rfl
    · rw [hphase]
      decide
    · cases hphase.symm.trans hfinished
  | close hphase hexit =>
    have hout : run.exit ≠ .inLoop := by
      rw [hexit]
      decide
    obtain ⟨since, hsubscribed⟩ := hlog.subscribed
    obtain ⟨was, hline⟩ := hsubscribed.line
    rw [← hlog.broker_eq] at hline
    refine ⟨?_, h.length_started, ?_, fun _ => h.idle hout, fun _ => ?_, fun _ => rfl⟩
    · rw [← h.delivered_eq, Broker.waiting_close]
    · rw [h.closes_eq, hexit, (Broker.close_cases hline).2.1, Nat.add_sub_cancel_left]
      rfl
    · exact (h.leaves hout).imp_right fun hnothing =>
        hended hnothing Broker.waiting_close
  | finish hphase hexit =>
    have hout : run.exit ≠ .inLoop := by
      rw [hexit]
      decide
    have hbefore := running_eq_zero (show run.worker.phase ≠ .handling by rw [hphase]; decide)
    refine ⟨h.delivered_eq, ?_, ?_, fun _ hhandling => (by cases hhandling),
      fun _ => h.leaves hout, fun _ => rfl⟩
    · rw [h.length_started, hbefore]
      rfl
    · rw [h.closes_eq, hexit]

theorem Balanced.after (h : run.Balanced) (hlog : Recorded group run log)
    (hspares : event.Spares run.worker.stream) (hpatient : event ≠ .giveUp) :
    (run.after event).Balanced := by
  cases event with
  | broker event =>
    have hsingle : run.broker.Single := by
      rw [hlog.broker_eq]
      exact Broker.single_run log
    refine ⟨?_, h.length_started, h.closes_eq, h.idle, fun hout => ?_, h.finished⟩
    · show run.started ++ (run.broker.after event).waiting run.worker.stream = _
      rw [hsingle.waiting_after hspares, ← List.append_assoc, h.delivered_eq]
      rfl
    · refine (h.leaves hout).imp_right fun hended => hlog.ended_after hended hspares ?_
      exact hlog.waiting_after (Broker.receive_ended_iff.mp hended).2 hspares
  | stop =>
    exact ⟨h.delivered_eq, h.length_started, h.closes_eq, h.idle, fun _ => .inl rfl, h.finished⟩
  | step => exact h.step hlog
  | returned =>
    by_cases hphase : run.worker.phase = .handling
    · have hbefore : run.running = 1 := if_pos hphase
      rw [after_returned hphase]
      refine ⟨h.delivered_eq, ?_, h.closes_eq, fun _ hhandling => (by cases hhandling), h.leaves,
        fun hfinished => by cases hfinished⟩
      rw [h.length_started, hbefore]
      rfl
    · rw [after_returned_of_ne hphase]
      exact h
  | giveUp => exact absurd rfl hpatient

theorem Balanced.through (h : run.Balanced) (hlog : Recorded group run log)
    (hspares : ∀ event ∈ events, event.Spares run.worker.stream) (hpatient : .giveUp ∉ events) :
    (run.through events).Balanced := by
  induction events generalizing run log with
  | nil => exact h
  | cons event rest ih =>
    obtain ⟨hfirst, hrest⟩ := List.forall_mem_cons.mp hspares
    rw [List.mem_cons, not_or] at hpatient
    obtain ⟨more, hafter⟩ := hlog.after hfirst
    have hstream := (run.after_worker event).2
    exact ih (h.after hlog hfirst (Ne.symm hpatient.1)) hafter (by rwa [hstream]) hpatient.2

theorem Balanced.closes_eq_one_iff (h : run.Balanced) : run.closes = 1 ↔ run.exit = .closed := by
  rw [h.closes_eq]
  split_ifs with hclosed <;> simp [hclosed]

theorem Balanced.closes_le (h : run.Balanced) : run.closes ≤ 1 := by
  rw [h.closes_eq]
  split_ifs <;> decide

theorem Balanced.closes_of_finished (h : run.Balanced) (hfinished : run.worker.isFinished = true) :
    run.closes = 1 :=
  h.closes_eq_one_iff.mpr (h.finished (isFinished_iff.mp hfinished))

/-- No call runs when the stream is closed, none is started afterwards, and the worker is finished
one step later. -/
theorem Balanced.of_closed (h : run.Balanced) (hclosed : run.closes = 1) :
    run.returned = run.started.length ∧
      (∀ later, (run.through later).started = run.started) ∧
      (run.after .step).worker.isFinished = true := by
  have hexit := h.closes_eq_one_iff.mp hclosed
  have hidle : run.worker.phase ≠ .handling := h.idle (by rw [hexit]; decide)
  refine ⟨?_, closed_through hexit, ?_⟩
  · rw [h.length_started, running_eq_zero hidle]
    rfl
  · have hmoves := run.moves_step
    generalize run.after .step = next at hmoves ⊢
    cases hmoves with
    | wait hwaits =>
      cases hphase : run.worker.phase with
      | receiving => cases hexit.symm.trans (hwaits hphase).1
      | handling => exact absurd hphase hidle
      | finished => exact isFinished_iff.mpr hphase
    | handle _ hinLoop _ _ => cases hexit.symm.trans hinLoop
    | leave _ hinLoop _ => cases hexit.symm.trans hinLoop
    | close _ hleft => cases hexit.symm.trans hleft
    | finish _ _ => rfl

/-- A worker that was not asked to stop has handed on everything when it is finished. -/
theorem Balanced.started_eq (h : run.Balanced) (hstop : run.worker.stopping = false)
    (hfinished : run.worker.isFinished = true) : run.started = run.delivered := by
  have hout : run.exit ≠ .inLoop := by
    rw [h.finished (isFinished_iff.mp hfinished)]
    decide
  have hended := (h.leaves hout).resolve_left (by rw [hstop]; decide)
  rw [← h.delivered_eq, (Broker.receive_ended_iff.mp hended).1, List.append_nil]

/-- What makes a worker finished is the last step of its way out. -/
theorem step_of_finished (hbefore : run.worker.isFinished = false) (hpatient : event ≠ .giveUp)
    (hafter : (run.after event).worker.isFinished = true) : event = .step ∧ run.exit = .closed := by
  have hunfinished : run.worker.isFinished ≠ true := by
    rw [hbefore]
    decide
  cases event with
  | broker event => exact absurd hafter hunfinished
  | stop => exact absurd hafter hunfinished
  | step =>
    refine ⟨rfl, ?_⟩
    have hmoves := run.moves_step
    generalize run.after .step = next at hmoves hafter
    cases hmoves with
    | wait _ => exact absurd hafter hunfinished
    | handle _ _ _ _ => cases hafter
    | leave _ _ _ => exact absurd hafter hunfinished
    | close _ _ => exact absurd hafter hunfinished
    | finish _ hexit => exact hexit
  | returned =>
    by_cases hphase : run.worker.phase = .handling
    · rw [after_returned hphase] at hafter
      cases hafter
    · rw [after_returned_of_ne hphase] at hafter
      exact absurd hafter hunfinished
  | giveUp => exact absurd rfl hpatient

/-- A worker that becomes finished does so in a step of its own, at whose beginning it has closed
its stream. -/
theorem Balanced.exists_finish (h : run.Balanced) (hlog : Recorded group run log)
    (hspares : ∀ event ∈ events, event.Spares run.worker.stream) (hpatient : .giveUp ∉ events)
    (hbefore : run.worker.isFinished = false)
    (hafter : (run.through events).worker.isFinished = true) :
    ∃ before later, events = before ++ .step :: later ∧ (run.through before).closes = 1 ∧
      (run.through before).worker.isFinished = false := by
  induction events generalizing run log with
  | nil => cases hbefore.symm.trans hafter
  | cons event rest ih =>
    obtain ⟨hfirst, hrest⟩ := List.forall_mem_cons.mp hspares
    rw [List.mem_cons, not_or] at hpatient
    cases hnext : (run.after event).worker.isFinished with
    | true =>
      obtain ⟨rfl, hexit⟩ := step_of_finished hbefore (Ne.symm hpatient.1) hnext
      exact ⟨[], rest, rfl, h.closes_eq_one_iff.mpr hexit, hbefore⟩
    | false =>
      obtain ⟨more, hlog'⟩ := hlog.after hfirst
      have hstream := (run.after_worker event).2
      obtain ⟨before, later, rfl, hclosed, hunfinished⟩ :=
        ih (h.after hlog hfirst (Ne.symm hpatient.1)) hlog' (by rwa [hstream]) hpatient.2 hnext
          hafter
      exact ⟨event :: before, later, rfl, hclosed, hunfinished⟩

end Run

end TopicWorker

end TopicAlerts
