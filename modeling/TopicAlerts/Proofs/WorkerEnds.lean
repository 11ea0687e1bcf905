import TopicAlerts.Proofs.WorkerRuns

/-!
# The end of a topic worker

A worker hands on a beginning of what is delivered to its stream, in order. After a request to stop
it starts no call, and only the one that runs may still return. It closes its stream once, when no
call runs, and is finished only after that: `TopicWorker.handles_deliveries` says all of this of
every run.

A worker that is to end does so when it gets the steps that `Run.remaining` lists, whatever happens
in between (`Run.isFinished_of_sublist`): no event adds to what is left, and the first thing that is
left is done when it happens (`Run.advances_after`).
-/

namespace TopicAlerts

namespace TopicWorker

namespace Run

variable {run : Run} {event : Event} {events : List Event} {log : List Broker.Event}
  {group : String}

/-! ## What is left -/

/-- The worker was asked to stop, or nothing comes to its stream any more. -/
def Ending (run : Run) : Prop :=
  run.worker.stopping = true ∨ run.broker.hasEnded run.worker.stream = true

/-- Returns of the handler, each with a round of the loop after it. -/
def rounds (count : Nat) : List Event := (List.replicate count [Event.returned, .step]).flatten

/-- What a worker that is to end needs until it is finished, if no call runs: rounds of its loop in
which it is called with what waits for it, unless it was asked to stop, a round in which it leaves
the loop, and the two steps on its way out. -/
def wayOut (run : Run) : List Event :=
  let left :=
    if run.worker.stopping then 0 else (run.broker.waiting run.worker.stream).length
  match run.exit with
  | .inLoop => .step :: (rounds left ++ [.step, .step])
  | .left => [.step, .step]
  | .closed => [.step]

/-- What a worker that is to end needs until it is finished. -/
def remaining (run : Run) : List Event :=
  match run.worker.phase with
  | .finished => []
  | .receiving => run.wayOut
  | .handling => .returned :: run.wayOut

theorem remaining_of_finished (hfinished : run.worker.phase = .finished) : run.remaining = [] := by
  rw [remaining, hfinished]

theorem remaining_of_receiving (hphase : run.worker.phase = .receiving) :
    run.remaining = run.wayOut := by
  rw [remaining, hphase]

theorem remaining_of_handling (hphase : run.worker.phase = .handling) :
    run.remaining = .returned :: run.wayOut := by
  rw [remaining, hphase]

theorem wayOut_of_inLoop (hexit : run.exit = .inLoop) : run.wayOut = .step :: (rounds
    (if run.worker.stopping then 0 else (run.broker.waiting run.worker.stream).length) ++
      [.step, .step]) := by
  rw [wayOut, hexit]

theorem wayOut_of_left (hexit : run.exit = .left) : run.wayOut = [.step, .step] := by
  rw [wayOut, hexit]

theorem wayOut_of_closed (hexit : run.exit = .closed) : run.wayOut = [.step] := by
  rw [wayOut, hexit]

/-- The way out starts with a step. -/
theorem head_wayOut (run : Run) : run.wayOut.head? = some .step := by
  rw [wayOut]
  cases run.exit <;> rfl

theorem wayOut_congr {next : Run} (hexit : next.exit = run.exit)
    (hstream : next.worker.stream = run.worker.stream)
    (hstop : next.worker.stopping = run.worker.stopping)
    (hwaiting : run.worker.stopping = false →
      next.broker.waiting run.worker.stream = run.broker.waiting run.worker.stream) :
    next.wayOut = run.wayOut := by
  rw [wayOut, wayOut, hexit, hstream, hstop]
  cases hstopping : run.worker.stopping with
  | true => rfl
  | false => rw [hwaiting hstopping]

/-- A request to stop does not make the way out longer. -/
theorem wayOut_stop (run : Run) : (run.after .stop).wayOut.Sublist run.wayOut := by
  cases hexit : run.exit with
  | inLoop =>
    rw [wayOut_of_inLoop hexit, wayOut_of_inLoop (show (run.after .stop).exit = .inLoop from hexit)]
    exact ((List.nil_sublist _).append_right _).cons_cons _
  | left =>
    rw [wayOut_of_left hexit, wayOut_of_left (show (run.after .stop).exit = .left from hexit)]
  | closed =>
    rw [wayOut_of_closed hexit, wayOut_of_closed (show (run.after .stop).exit = .closed from hexit)]

/-- Less is left if the way out is shorter. -/
theorem remaining_sublist {next : Run} (hphase : next.worker.phase = run.worker.phase)
    (hless : next.wayOut.Sublist run.wayOut) : next.remaining.Sublist run.remaining := by
  unfold remaining
  rw [hphase]
  cases run.worker.phase with
  | finished => exact List.Sublist.refl _
  | receiving => exact hless
  | handling => exact hless.cons_cons _

/-- A worker that is not finished needs a step, or the return of its handler. -/
theorem eq_of_head_remaining (h : run.remaining.head? = some event) :
    (event = .step ∧ run.worker.phase = .receiving) ∨
      (event = .returned ∧ run.worker.phase = .handling) := by
  cases hphase : run.worker.phase with
  | finished =>
    rw [remaining_of_finished hphase] at h
    cases h
  | receiving =>
    rw [remaining_of_receiving hphase, head_wayOut] at h
    exact .inl ⟨(Option.some.inj h).symm, rfl⟩
  | handling =>
    rw [remaining_of_handling hphase] at h
    exact .inr ⟨(Option.some.inj h).symm, rfl⟩

/-! ## What an event does to it -/

theorem Ending.after (hending : run.Ending) (hlog : Recorded group run log)
    (hspares : event.Spares run.worker.stream) : (run.after event).Ending := by
  rcases hending with hstop | hended
  · exact .inl (stopping_after hstop event).1
  · right
    rw [(run.after_worker event).2]
    exact hlog.hasEnded_after hended hspares

/-- An event makes what the worker needs shorter, or the worker does not need it now. -/
def Advances (run : Run) (event : Event) (next : Run) : Prop :=
  next.remaining.Sublist run.remaining ∧
    ∀ rest, run.remaining = event :: rest → next.remaining.Sublist rest

theorem advances_of_finished {next : Run} (h : next.worker.phase = .finished) :
    run.Advances event next := by
  rw [Advances, remaining_of_finished h]
  exact ⟨List.nil_sublist _, fun rest _ => List.nil_sublist _⟩

theorem advances_of_sublist {next : Run} (hless : next.remaining.Sublist run.remaining)
    (hneeds : run.remaining.head? ≠ some event) : run.Advances event next := by
  refine ⟨hless, fun rest hrest => ?_⟩
  rw [hrest] at hneeds
  exact absurd rfl hneeds

theorem advances_of_tail {next : Run} {rest : List Event} (h : run.remaining = event :: rest)
    (hrest : next.remaining.Sublist rest) : run.Advances event next := by
  refine ⟨h ▸ hrest.cons _, fun others hothers => ?_⟩
  rw [h] at hothers
  rwa [← (List.cons.inj hothers).2]

/-- A worker takes a step when it waits for a message, or is on its way out. -/
theorem advances_step (hending : run.Ending) (hphase : run.worker.phase = .receiving) :
    run.Advances .step (run.after .step) := by
  have hmoves := run.moves_step
  generalize run.after .step = next at hmoves ⊢
  cases hmoves with
  | wait hwaits =>
    obtain ⟨-, hstop, hpending⟩ := hwaits hphase
    rcases hending with hstopping | hended
    · cases hstop.symm.trans hstopping
    · obtain ⟨s, hfound, -, hopened, hmember⟩ := Broker.receive_pending_iff.mp hpending
      rw [Broker.hasEnded, hfound] at hended
      simp [hopened, hmember] at hended
  | handle _ hexit hstop hreceived =>
    -- the message is one less that waits
    have hwaiting := @Broker.taken_append_waiting_receive run.broker run.worker.stream
      run.worker.stream
    rw [Broker.takenAt, if_pos rfl, hreceived] at hwaiting
    have hneeds : run.remaining = .step :: (rounds
        (run.broker.waiting run.worker.stream).length ++ [.step, .step]) := by
      rw [remaining_of_receiving hphase, wayOut_of_inLoop hexit, hstop, if_neg Bool.false_ne_true]
    refine advances_of_tail hneeds ?_
    rw [← hwaiting, remaining_of_handling rfl, wayOut_of_inLoop rfl, hstop,
      if_neg Bool.false_ne_true]
    exact List.Sublist.refl _
  | leave _ hexit _ =>
    have hneeds := (remaining_of_receiving hphase).trans (wayOut_of_inLoop hexit)
    refine advances_of_tail hneeds ?_
    rw [remaining_of_receiving (by exact hphase), wayOut_of_left rfl]
    exact List.sublist_append_right _ _
  | close _ hexit =>
    have hneeds := (remaining_of_receiving hphase).trans (wayOut_of_left hexit)
    refine advances_of_tail hneeds ?_
    rw [remaining_of_receiving (by exact hphase), wayOut_of_closed rfl]
  | finish _ hexit => exact advances_of_finished rfl

/-- No event adds to what a worker needs to end, and the first thing that it needs is done when it
happens. -/
theorem advances_after (hending : run.Ending) (hlog : Recorded group run log)
    (hspares : event.Spares run.worker.stream) : run.Advances event (run.after event) := by
  cases event with
  | broker event =>
    have hwaiting : run.worker.stopping = false → (run.broker.after event).waiting
        run.worker.stream = run.broker.waiting run.worker.stream := by
      intro hstop
      have hended := hending.resolve_left (by rw [hstop]; decide)
      exact hlog.waiting_after hended hspares
    have hsame : (run.after (.broker event)).wayOut = run.wayOut :=
      wayOut_congr rfl rfl rfl hwaiting
    have hless : (run.after (.broker event)).wayOut.Sublist run.wayOut :=
      hsame ▸ List.Sublist.refl _
    refine advances_of_sublist (remaining_sublist rfl hless) fun hneeds => ?_
    rcases eq_of_head_remaining hneeds with ⟨hother, -⟩ | ⟨hother, -⟩ <;> cases hother
  | stop =>
    refine advances_of_sublist (remaining_sublist rfl run.wayOut_stop) fun hneeds => ?_
    rcases eq_of_head_remaining hneeds with ⟨hother, -⟩ | ⟨hother, -⟩ <;> cases hother
  | step =>
    by_cases hphase : run.worker.phase = .receiving
    · exact advances_step hending hphase
    · rw [after_step_of_ne hphase]
      refine advances_of_sublist (List.Sublist.refl _) fun hneeds => ?_
      rcases eq_of_head_remaining hneeds with ⟨-, hother⟩ | ⟨hother, -⟩
      · exact hphase hother
      · cases hother
  | returned =>
    by_cases hphase : run.worker.phase = .handling
    · rw [after_returned hphase]
      refine advances_of_tail (remaining_of_handling hphase) ?_
      rw [remaining_of_receiving rfl]
      exact List.Sublist.refl _
    · rw [after_returned_of_ne hphase]
      refine advances_of_sublist (List.Sublist.refl _) fun hneeds => ?_
      rcases eq_of_head_remaining hneeds with ⟨hother, -⟩ | ⟨-, hother⟩
      · cases hother
      · exact hphase hother
  | giveUp =>
    refine advances_of_finished ?_
    rcases run.after_giveUp_cases with ⟨hphase, hafter⟩ | ⟨-, hafter⟩ <;> rw [hafter]
    exact hphase

/-- A worker that is to end is finished when it got what it needs, whatever else happened. -/
theorem isFinished_of_sublist (hending : run.Ending) (hlog : Recorded group run log)
    (hspares : ∀ event ∈ events, event.Spares run.worker.stream)
    (hsublist : run.remaining.Sublist events) :
    (run.through events).worker.isFinished = true := by
  induction events generalizing run log with
  | nil =>
    have hnothing := List.sublist_nil.mp hsublist
    cases hphase : run.worker.phase with
    | finished => exact isFinished_iff.mpr hphase
    | receiving =>
      have hhead := run.head_wayOut
      rw [← remaining_of_receiving hphase, hnothing] at hhead
      cases hhead
    | handling =>
      rw [remaining_of_handling hphase] at hnothing
      cases hnothing
  | cons event rest ih =>
    obtain ⟨hfirst, hrest⟩ := List.forall_mem_cons.mp hspares
    obtain ⟨more, hafter⟩ := hlog.after hfirst
    obtain ⟨hless, hdone⟩ := advances_after hending hlog hfirst
    have hstream := (run.after_worker event).2
    refine ih (hending.after hlog hfirst) hafter (by rwa [hstream]) ?_
    rcases List.sublist_cons_iff.mp hsublist with hlater | ⟨others, hneeds, hlater⟩
    · exact hless.trans hlater
    · exact (hdone others hneeds).trans hlater

end Run

/-! ## All runs -/

/-- A worker is started for a stream of its own, and anything happens from then on. Then its handler
was called with a beginning of what was delivered to the stream, in order. After a request to stop
no call was started, and at most the call that ran returned.

As long as nobody gives the worker up, because the calls return in time, it closes its stream at
most once, when all calls have returned, and starts none afterwards. It becomes finished by a step
of its own before which it had closed its stream, and by the first step after that. If nobody asked
it to stop, it has handed on all that was delivered when it is finished.

A worker that was asked to stop, or whose stream has ended, is finished as soon as it got the steps
that it needs, whatever happens in between. -/
theorem handles_deliveries {earlier : List Broker.Event} {topic group : String} {stream : Nat}
    {events : List Event}
    (hstream : ((Broker.empty.run earlier).subscribe topic group).1 = some stream)
    (hspares : ∀ event ∈ events, event.Spares stream) :
    let start := Run.start (Broker.empty.run earlier) topic group stream
    let run := start.through events
    run.started <+: run.delivered ∧
    (∀ before later, events = before ++ .stop :: later →
      run.started = (start.through before).started ∧
        run.returned ≤ (start.through before).returned + (start.through before).running) ∧
    (.giveUp ∉ events →
      run.closes ≤ 1 ∧
      (run.closes = 1 → run.returned = run.started.length ∧
        (∀ later, (run.through later).started = run.started) ∧
        (run.after .step).worker.isFinished = true) ∧
      (run.worker.isFinished = true → run.closes = 1 ∧
        ∃ before later, events = before ++ .step :: later ∧ (start.through before).closes = 1 ∧
          (start.through before).worker.isFinished = false) ∧
      (.stop ∉ events → run.worker.isFinished = true → run.started = run.delivered)) ∧
    (run.Ending → ∀ later, (∀ event ∈ later, event.Spares stream) →
      run.remaining.Sublist later →
      let done := run.through later
      done.worker.isFinished = true ∧
      (.giveUp ∉ events → .giveUp ∉ later → done.closes = 1 ∧
        (.stop ∉ events → .stop ∉ later → done.started = done.delivered))) := by
  intro start run
  have hstart : Run.Recorded group start (earlier ++ [.subscribe topic group]) :=
    Run.recorded_start hstream
  obtain ⟨more, hlog⟩ := hstart.through hspares
  have hfirst : start.Balanced := Run.balanced_start hstream
  have hbalanced (hpatient : .giveUp ∉ events) : run.Balanced :=
    hfirst.through hstart hspares hpatient
  have hstop (hnever : .stop ∉ events) : run.worker.stopping = false :=
    Run.through_stopping hnever
  refine ⟨?_, fun before later hsplit => ?_, fun hpatient => ?_,
    fun hending later hlater hneeds => ?_⟩
  · rw [hlog.started_eq, hlog.delivered_eq]
    exact Broker.taken_isPrefix _ _
  · have hrun : run = ((start.through before).after .stop).through later := by
      show start.through events = _
      rw [hsplit, Run.through_append]
      rfl
    obtain ⟨hstarted, hcalls⟩ := Run.stopping_through
      (show ((start.through before).after .stop).worker.stopping = true from rfl) later
    rw [← hrun] at hstarted hcalls
    exact ⟨hstarted, (Nat.le_add_right _ _).trans hcalls⟩
  · have hrun := hbalanced hpatient
    refine ⟨hrun.closes_le, hrun.of_closed, fun hfinished => ?_,
      fun hnever => hrun.started_eq (hstop hnever)⟩
    exact ⟨hrun.closes_of_finished hfinished,
      hfirst.exists_finish hstart hspares hpatient rfl hfinished⟩
  · have hsame : run.worker.stream = stream := Run.through_stream start events
    rw [← hsame] at hlater
    have hfinished := Run.isFinished_of_sublist hending hlog hlater hneeds
    refine ⟨hfinished, fun hpatient hpatient' => ?_⟩
    have hdone := (hbalanced hpatient).through hlog hlater hpatient'
    refine ⟨hdone.closes_of_finished hfinished, fun hnever hnever' => ?_⟩
    exact hdone.started_eq ((Run.through_stopping hnever').trans (hstop hnever)) hfinished

/-- The stream of a worker ends while its handler works and a message waits. -/
def disconnected : List Event := [.broker (.publish "load" [1]), .step,
  .broker (.publish "load" [2]), .broker (.disconnect "load")]

/-- What the worker needs then: the returns of both calls, each with a round of its loop, and the
two steps on its way out. -/
theorem handles_deliveries_disconnected :
    let later := Run.rounds 2 ++ [.step, .step]
    let done := ((Run.start Broker.empty "load" "work" 0).through disconnected).through later
    done.worker.isFinished = true ∧ done.closes = 1 ∧ done.started = done.delivered := by
  have hspares : ∀ event ∈ disconnected, event.Spares 0 := by
    simp [disconnected, Event.Spares, Broker.Event.stream?]
  have hlater : ∀ event ∈ Run.rounds 2 ++ [.step, .step], event.Spares 0 := by
    simp [Run.rounds, Event.Spares]
  have hstream : ((Broker.empty.run []).subscribe "load" "work").1 = some 0 := by decide +kernel
  obtain ⟨-, -, -, hends⟩ := handles_deliveries hstream hspares
  obtain ⟨hfinished, hcloses⟩ :=
    hends (.inr (by decide +kernel)) _ hlater (List.Sublist.refl _)
  obtain ⟨honce, hall⟩ := hcloses (by simp [disconnected]) (by simp [Run.rounds])
  exact ⟨hfinished, honce, hall (by simp [disconnected]) (by simp [Run.rounds])⟩

end TopicWorker

end TopicAlerts
