import TopicAlerts.Proofs.Consumers

/-!
# What the gauge shows

The manager publishes how many workers it tracks when a reconciliation has forgotten the finished
ones, when a worker was unsubscribed, and when a new one was subscribed. So the gauge shows the
workers that are tracked, with one exception: a failed subscription forgets the finished worker of
its topic and publishes nothing.

`Manager.Step` records what the manager does with its workers, and `Service.run_gauge` says that the
gauge is ahead of the workers by those that were forgotten in that way since it was last published.
Without such a failure it is right in all states of a run, also while operations are in progress.
-/

namespace TopicAlerts

namespace Manager

/-! ## Steps -/

/-- What the manager does with its workers. -/
inductive Step
  /-- It forgets the finished workers before it reconciles. -/
  | prune
  /-- It takes a job in some phase as far as it gets. -/
  | job (before : Manager) (phase : Job.Phase) (job : Job) (progress : Progress)

namespace Step

/-- Whether a step publishes the gauge. -/
def publishes : Step → Bool
  | .prune => true
  | .job _ _ _ (.blocked _) => false
  | .job _ (.stopping _) _ (.finished _) => true
  | .job _ .queued (.unsubscribe _) (.finished done) => done
  | .job before .queued (.subscribe topic) (.finished done) => done && !before.isSubscribed topic

/-- Whether a step is a failed subscription that forgets the worker of its topic. -/
def forgets : Step → Bool
  | .job before .queued (.subscribe topic) (.finished false) => (before.worker? topic).isSome
  | _ => false

/-- How many forgotten workers the gauge shows after a step, if it showed so many before. -/
def tally (count : Nat) (step : Step) : Nat :=
  if step.publishes then 0 else if step.forgets then count + 1 else count

end Step

/-- As long as a job has to wait, the gauge is left alone. -/
theorem Step.tally_blocked (count : Nat) (before : Manager) (phase : Job.Phase) (job : Job)
    (stays : Job.Phase) : tally count (.job before phase job (.blocked stays)) = count := by
  cases phase <;> cases job <;> rfl

/-- How many workers were forgotten in failed subscriptions since the gauge was published. -/
def unpublished (steps : List Step) : Nat := steps.foldl Step.tally 0

theorem unpublished_eq_zero {steps : List Step} (hnone : ∀ step ∈ steps, step.forgets = false) :
    unpublished steps = 0 := by
  unfold unpublished
  induction steps with
  | nil => rfl
  | cons step rest ih =>
    obtain ⟨hstep, hrest⟩ := List.forall_mem_cons.mp hnone
    have htally : Step.tally 0 step = 0 := by simp [Step.tally, hstep]
    rw [List.foldl_cons, htally]
    exact ih hrest

/-- The steps of jobs that are taken one after the other as far as they get. -/
def jobSteps (now caller : Nat) : Job.Phase → List Job → Manager → List Step
  | _, [], _ => []
  | phase, job :: rest, manager =>
    let (progress, after) := manager.advanceJob now caller job phase
    .job manager phase job progress :: match progress with
      | .finished _ => jobSteps now caller .queued rest after
      | .blocked _ => []

/-- The steps of an operation that is taken as far as it gets. -/
def steps (now caller : Nat) : Operation → Manager → List Step
  | .done _, _ => []
  | .working _ phase jobs _, manager => jobSteps now caller phase jobs manager
  | .waiting required, manager =>
    let turns :=
      if manager.turns.contains caller then manager.turns else manager.turns ++ [caller]
    let manager := { manager with turns }
    if turns.head? != some caller then []
    else .prune :: jobSteps now caller .queued (manager.prune.difference required) manager.prune

/-! ## One job -/

/-- The gauge shows the workers and so many more. -/
def Shows (manager : Manager) (count : Nat) : Prop :=
  manager.gauge = manager.workers.length + count

variable {aborting : Prop} {group topic : String} {manager after : Manager} {count : Nat}

theorem Shows.congr (hshows : manager.Shows count) (hgauge : after.gauge = manager.gauge)
    (hlength : after.workers.length = manager.workers.length) : after.Shows count := by
  unfold Shows
  rw [hgauge, hlength]
  exact hshows

/-- The turn of a worker changes how far it is, not how many there are. -/
theorem Shows.turn (hshows : manager.Shows count) (worker : TopicWorker) :
    (manager.turn worker).2.Shows count :=
  hshows.congr rfl (List.length_map _)

theorem shows_publishGauge : manager.publishGauge.Shows 0 := rfl

/-- With the worker of a topic one worker is forgotten. -/
theorem length_removeWorker (hlinked : manager.IsLinked aborting group) (topic : String) :
    manager.workers.length = (manager.removeWorker topic).workers.length +
      if (manager.worker? topic).isSome then 1 else 0 := by
  have hdistinct := hlinked.nodup
  unfold removeWorker worker?
  dsimp only
  generalize manager.workers = workers at hdistinct ⊢
  induction workers with
  | nil => rfl
  | cons worker rest ih =>
    obtain ⟨hfresh, hdistinct⟩ := List.nodup_cons.mp hdistinct
    by_cases hsame : worker.topic = topic
    · have hothers : rest.filter (·.topic != topic) = rest := by
        rw [List.filter_eq_self]
        intro other hother
        rw [bne_iff_ne, ← hsame]
        exact fun hequal => hfresh (List.mem_map.mpr ⟨other, hother, hequal⟩)
      simp [hsame, hothers]
    · have hkept : (worker :: rest).filter (·.topic != topic) =
          worker :: rest.filter (·.topic != topic) :=
        List.filter_cons_of_pos (by simpa using hsame)
      rw [hkept, List.find?_cons_of_neg (by simpa using hsame), List.length_cons, List.length_cons,
        ih hdistinct]
      omega

/-- A worker that is forgotten without a word stays in the gauge. -/
theorem Shows.removeWorker (hshows : manager.Shows count)
    (hlinked : manager.IsLinked aborting group) (topic : String) :
    (manager.removeWorker topic).Shows
      (if (manager.worker? topic).isSome then count + 1 else count) := by
  have hshows : manager.gauge = manager.workers.length + count := hshows
  have hlength := length_removeWorker hlinked topic
  have hgauge : (manager.removeWorker topic).gauge = manager.gauge := rfl
  unfold Shows
  rw [hgauge, hshows, hlength]
  split_ifs <;> omega

/-- Waiting for a worker to stop: either it goes on, or a worker was forgotten and the gauge
published. -/
theorem awaitStop_cases (manager : Manager) (now : Nat) (topic : String) (caller deadline : Nat) :
    manager.awaitStop now topic caller deadline = (.blocked (.stopping deadline), manager) ∨
      ((manager.awaitStop now topic caller deadline).1 = .finished true ∧
        (manager.awaitStop now topic caller deadline).2.Shows 0) := by
  unfold awaitStop
  split
  · exact .inr ⟨rfl, rfl⟩
  · split_ifs
    · exact .inr ⟨rfl, rfl⟩
    · exact .inl rfl
    · exact .inr ⟨rfl, rfl⟩

/-- A subscription under the lock of its topic: there is a worker already, or it fails and only
forgets the worker of the topic, or there is a new worker and the gauge is published. -/
theorem Shows.subscribeHeld (hshows : manager.Shows count)
    (hlinked : manager.IsLinked aborting group) (topic : String) :
    (manager.subscribeHeld topic).2.Shows
      (Step.tally count (.job manager .queued (.subscribe topic)
        (.finished (manager.subscribeHeld topic).1))) := by
  have hremoved := hshows.removeWorker hlinked topic
  rcases manager.subscribeHeld_cases topic with
    ⟨hsubscribed, hheld⟩ | ⟨hfree, ⟨-, hheld⟩ | ⟨-, -, hheld⟩ | ⟨-, -, hheld⟩⟩
  · rw [hheld]
    simpa [Step.tally, Step.publishes, Step.forgets, hsubscribed] using hshows
  · rw [hheld]
    exact hremoved
  · rw [hheld]
    exact hremoved
  · rw [hheld]
    simpa [Step.tally, Step.publishes, hfree] using shows_publishGauge

/-- A job makes the gauge show what the step tells. -/
theorem Shows.advanceJob (hshows : manager.Shows count) (hlinked : manager.IsLinked aborting group)
    (now caller : Nat) (job : Job) (phase : Job.Phase) :
    (manager.advanceJob now caller job phase).2.Shows
      (Step.tally count
        (.job manager phase job (manager.advanceJob now caller job phase).1)) := by
  cases phase with
  | stopping deadline =>
    unfold Manager.advanceJob
    dsimp only
    rcases manager.awaitStop_cases now job.topic caller deadline with hwaits | ⟨hdone, hpublished⟩
    · rw [hwaits]
      exact hshows
    · rw [hdone]
      exact hpublished
  | queued =>
    unfold Manager.advanceJob
    dsimp only
    split_ifs with hblocked
    · rw [Step.tally_blocked]
      exact hshows
    cases job with
    | subscribe topic =>
      -- Asking for the lock of the topic changes neither the workers nor the gauge.
      have hentered : (manager.enter topic caller).IsLinked aborting group :=
        ⟨hlinked.toLinked, hlinked.group_eq, hlinked.patient⟩
      have hshown : (manager.enter topic caller).Shows count := hshows
      have hheld := hshown.subscribeHeld hentered topic
      dsimp only [Job.topic]
      generalize (manager.enter topic caller).subscribeHeld topic = result at hheld ⊢
      rcases result with ⟨_ | _, after⟩
      · exact hheld
      · exact hheld
    | unsubscribe topic =>
      dsimp only [Job.topic]
      split
      · exact hshows
      next worker hfound =>
        have hasked : ((manager.enter topic caller).requestStop worker).Shows count :=
          hshows.turn _
        rcases ((manager.enter topic caller).requestStop worker).awaitStop_cases now topic caller
            (now + (manager.enter topic caller).stopTimeout) with hwaits | ⟨hdone, hpublished⟩
        · rw [hwaits, Step.tally_blocked]
          exact hasked
        · rw [hdone]
          exact hpublished

theorem Shows.advanceJobs (now caller : Nat) (phase : Job.Phase) (jobs : List Job)
    (report : ReconcileReport) (hshows : manager.Shows count)
    (hlinked : manager.IsLinked True group) :
    (advanceJobs now caller phase jobs report manager).2.2.Shows
      ((jobSteps now caller phase jobs manager).foldl Step.tally count) := by
  induction jobs generalizing phase report manager count with
  | nil => exact hshows
  | cons job rest ih =>
    have hstep := hshows.advanceJob hlinked now caller job phase
    have hafter := @advanceJob_linked _ _ _ now caller hlinked job phase fun _ => trivial
    unfold Manager.advanceJobs jobSteps
    generalize manager.advanceJob now caller job phase = result at hstep hafter ⊢
    rcases result with ⟨_ | _, after⟩
    · exact ih .queued _ hstep hafter
    · exact hstep

theorem Shows.work (now caller : Nat) (reconciling : Bool) (phase : Job.Phase) (jobs : List Job)
    (report : ReconcileReport) (hshows : manager.Shows count)
    (hlinked : manager.IsLinked True group) :
    (work now caller reconciling phase jobs report manager).2.Shows
      ((jobSteps now caller phase jobs manager).foldl Step.tally count) := by
  have hjobs := hshows.advanceJobs now caller phase jobs report hlinked
  unfold Manager.work
  generalize Manager.advanceJobs now caller phase jobs report manager = result at hjobs ⊢
  rcases result with ⟨_ | ⟨blocked, left⟩, noted, after⟩
  · cases reconciling
    · exact hjobs
    · exact hjobs
  · exact hjobs

/-- An operation makes the gauge show what its steps tell. -/
theorem Shows.advance (now caller : Nat) (operation : Operation) (hshows : manager.Shows count)
    (hlinked : manager.IsLinked True group) :
    (advance now caller operation manager).2.Shows
      ((steps now caller operation manager).foldl Step.tally count) := by
  cases operation with
  | done report => exact hshows
  | working reconciling phase jobs report =>
    exact hshows.work now caller reconciling phase jobs report hlinked
  | waiting required =>
    unfold Manager.advance steps
    dsimp only
    generalize (if manager.turns.contains caller then manager.turns
      else manager.turns ++ [caller]) = turns
    split_ifs with hblocked
    · exact hshows
    · -- Whatever the gauge showed, it is right after the finished workers are forgotten.
      have hpruned : ({ manager with turns } : Manager).prune.Shows 0 := shows_publishGauge
      have hturns : ({ manager with turns } : Manager).IsLinked True group :=
        ⟨hlinked.toLinked, hlinked.group_eq, hlinked.patient⟩
      exact hpruned.work now caller true .queued _ {} (prune_linked hturns)

end Manager

namespace Service

open Manager (Step)

/-! ## Runs -/

/-- What the manager does with its workers in an event. -/
def stepsOf (service : Service) : Event → List Step
  | .goOn number =>
    (service.operation? number).elim [] (Manager.steps service.now number · service.manager)
  | _ => []

/-- What the manager does with its workers in a run. -/
def steps (service : Service) : List Event → List Step
  | [] => []
  | event :: rest => service.stepsOf event ++ (service.after event).steps rest

variable {service : Service} {group : String} {count : Nat}

theorem shows_withWorker {topic : String} {change : TopicWorker → Manager}
    (hshows : service.manager.Shows count) (hkept : ∀ worker, (change worker).Shows count) :
    (service.withWorker topic change).manager.Shows count := by
  unfold withWorker
  split
  · exact hkept _
  · exact hshows

/-- An event makes the gauge show what its steps tell. -/
theorem shows_after (hshows : service.manager.Shows count)
    (hlinked : service.manager.IsLinked True group) (event : Event) :
    (service.after event).manager.Shows ((service.stepsOf event).foldl Step.tally count) := by
  cases event with
  | call call =>
    rw [after, startAll_manager]
    exact hshows
  | goOn number =>
    simp only [after, goOn, stepsOf]
    cases service.operation? number with
    | none => exact hshows
    | some operation => exact hshows.advance _ _ operation hlinked
  | turn topic => exact shows_withWorker hshows fun worker => hshows.turn worker
  | handled topic =>
    refine shows_withWorker hshows fun worker => ?_
    split_ifs
    · exact hshows.congr rfl (List.length_map _)
    · exact hshows
  | publish topic payload => exact hshows
  | disconnect topic => exact hshows
  | reject topic => exact hshows
  | accept topic => exact hshows
  | pass millis => exact hshows

theorem shows_run (events : List Event) (hshows : service.manager.Shows count)
    (hlinked : service.manager.IsLinked True group) :
    (service.run events).manager.Shows ((service.steps events).foldl Step.tally count) := by
  induction events generalizing service count with
  | nil => exact hshows
  | cons event rest ih =>
    unfold steps
    rw [List.foldl_append]
    exact ih (shows_after hshows hlinked event) (after_linked hlinked event fun _ => trivial)

/-- The gauge is ahead of the workers by those that failed subscriptions have forgotten since it was
last published. In a run without such a failure it is right, also while operations are in
progress. -/
theorem run_gauge (settings : ServiceSettings) (events : List Event) :
    let service := (new settings).run events
    let steps := (new settings).steps events
    service.metrics.activeSubscriptions =
        service.manager.workers.length + Manager.unpublished steps ∧
      ((∀ step ∈ steps, step.forgets = false) →
        service.metrics.activeSubscriptions = service.manager.workers.length) := by
  intro service steps
  have hlinked : (new settings).manager.IsLinked True settings.group :=
    new_linked settings fun _ => trivial
  have hnew : (new settings).manager.Shows 0 := rfl
  have hshows : service.metrics.activeSubscriptions =
      service.manager.workers.length + Manager.unpublished steps := shows_run events hnew hlinked
  refine ⟨hshows, fun hnone => ?_⟩
  rw [hshows, Manager.unpublished_eq_zero hnone, Nat.add_zero]

/-- Cut off, noticed and subscribed to again, a topic is counted once. -/
theorem resubscription_gauge :
    ((new patientSettings).run resubscription).metrics.activeSubscriptions = 1 := by
  have hgauge := run_gauge patientSettings resubscription
  have hnone : ∀ step ∈ (new patientSettings).steps resubscription, step.forgets = false := by
    decide +kernel
  have hone : ((new patientSettings).run resubscription).manager.workers.length = 1 := by
    decide +kernel
  exact (hgauge.2 hnone).trans hone

/-- The topic is refused when it is subscribed to again. -/
def refusedAgain : List Event :=
  [.call (.subscribe "cpu"), .goOn 0, .disconnect "cpu", .turn "cpu", .reject "cpu",
    .call (.subscribe "cpu"), .goOn 1]

/-- A topic that is refused when it is subscribed to again has no worker any more, but is still
counted, although no operation is in progress. -/
theorem refusedAgain_gauge :
    ¬∀ (settings : ServiceSettings) (events : List Event),
      (((new settings).run events).operations.all fun numbered =>
        numbered.operation.report?.isSome) →
      ((new settings).run events).metrics.activeSubscriptions =
        ((new settings).run events).manager.workers.length := by
  intro hright
  have hdone : (((new patientSettings).run refusedAgain).operations.all fun numbered =>
      numbered.operation.report?.isSome) = true := by
    decide +kernel
  have hahead : ((new patientSettings).run refusedAgain).metrics.activeSubscriptions ≠
      ((new patientSettings).run refusedAgain).manager.workers.length := by
    decide +kernel
  exact hahead (hright patientSettings refusedAgain hdone)

end Service

end TopicAlerts
