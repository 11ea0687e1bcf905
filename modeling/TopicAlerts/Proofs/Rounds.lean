import TopicAlerts.Proofs.RuleChanges

/-!
# The service follows the rules

A service does several steps of the pipeline at once: a request changes the rules and gives all its
hints, a round takes the reconciler from its queue of hints to the list of topics, or from this list
to the subscriptions. As long as only the reconciler calls the manager, whatever the service does is
a run of the pipeline (`Service.exists_steps`), and so no rule change is lost on it either
(`Service.moves_active_iff`).
-/

namespace TopicAlerts

namespace Service

/-- The rules, the reconciler and the manager of a service. -/
def pipeline (service : Service) : Pipeline where
  store := service.store
  unannounced := []
  reconciler := service.reconciler
  operation := service.operations.head?.map (·.operation)
  manager := service.manager

/-- Only the reconciler calls the manager, and it may go on. -/
structure Alone (service : Service) : Prop where
  /-- The reconciler reaches the rules. -/
  reachable : service.reachable = true
  /-- Nobody stops it. -/
  notCancelled : service.reconciler.cancelled = false
  /-- While it reconciles, the manager works on its call. -/
  atWork : ∀ {number tick}, service.reconciler.stage = .reconciling number tick →
    ∃ operation, service.operations = [⟨number, operation⟩]
  /-- Otherwise the manager has nothing to do. -/
  atRest : (∀ number tick, service.reconciler.stage ≠ .reconciling number tick) →
    service.operations = []

variable {group : String} {service : Service}

/-! ## Requests -/

theorem hint_stage (reconciler : Reconciler) (hint : TopicHint) :
    (reconciler.hint hint).stage = reconciler.stage ∧
      (reconciler.hint hint).cancelled = reconciler.cancelled := by
  unfold Reconciler.hint
  split_ifs <;> exact ⟨rfl, rfl⟩

theorem foldl_hint_stage (hints : List TopicHint) (reconciler : Reconciler) :
    (hints.foldl Reconciler.hint reconciler).stage = reconciler.stage ∧
      (hints.foldl Reconciler.hint reconciler).cancelled = reconciler.cancelled := by
  induction hints generalizing reconciler with
  | nil => exact ⟨rfl, rfl⟩
  | cons hint rest ih =>
    obtain ⟨stage, cancelled⟩ := hint_stage reconciler hint
    exact ⟨(ih _).1.trans stage, (ih _).2.trans cancelled⟩

/-- Hints may be given one after the other. -/
theorem run_announce (hints : List TopicHint) (pipeline : Pipeline) :
    Pipeline.run { pipeline with unannounced := hints }
        (List.replicate hints.length (.announce 0)) =
      { pipeline with
        unannounced := []
        reconciler := hints.foldl Reconciler.hint pipeline.reconciler } := by
  induction hints generalizing pipeline with
  | nil => rfl
  | cons hint rest ih => exact ih { pipeline with reconciler := pipeline.reconciler.hint hint }

/-- A request changes the rules and gives its hints. -/
theorem handler_pipeline (alone : service.Alone) (request : RuleRequest) :
    (∃ steps, (request.handler service).2.pipeline = service.pipeline.run steps) ∧
      (request.handler service).2.Alone := by
  cases changed : request.mutate service.store with
  | error error =>
    rw [RuleRequest.handler_of_error changed]
    exact ⟨⟨[], rfl⟩, alone⟩
  | ok result =>
    obtain ⟨hints, store⟩ := result
    obtain ⟨store_eq, reconciler, manager, operations, reachable⟩ :=
      RuleRequest.handler_of_ok changed
    obtain ⟨stage, cancelled⟩ := foldl_hint_stage hints service.reconciler
    refine ⟨⟨.mutate request :: List.replicate hints.length (.announce 0), ?_⟩, ?_⟩
    · have mutated : service.pipeline.after (.mutate request) =
          { service.pipeline with store, unannounced := hints } := by
        simp [Pipeline.after, pipeline, changed]
      have announced := run_announce hints { service.pipeline with store }
      rw [Pipeline.run, List.foldl_cons, mutated]
      refine Eq.trans ?_ announced.symm
      simp [pipeline, store_eq, reconciler, manager, operations]
    · constructor
      · exact reachable.trans alone.reachable
      · rw [reconciler, cancelled, alone.notCancelled]
      · rw [reconciler, stage, operations]
        exact alone.atWork
      · rw [reconciler, stage, operations]
        exact alone.atRest

/-! ## The reconciler -/

/-- A reconciliation is started with the topics of the rules in force. -/
theorem startReconciliation_pipeline (alone : service.Alone)
    (resting : ∀ number tick, service.reconciler.stage ≠ .reconciling number tick)
    (tick : Option Nat) :
    (service.startReconciliation tick).pipeline =
        (service.pipeline.setStage (.reconciling service.nextOperation tick)).after .list ∧
      (service.startReconciliation tick).Alone := by
  have nothing := alone.atRest resting
  unfold startReconciliation
  rw [if_pos alone.reachable]
  constructor
  · simp [pipeline, start, setStage, Pipeline.setStage, Pipeline.after, nothing]
  · constructor
    · exact alone.reachable
    · exact alone.notCancelled
    · rintro number tick' stage
      obtain ⟨rfl, -⟩ := Reconciler.Stage.reconciling.inj stage
      exact ⟨.reconcile service.store.enabledTopics, by simp [start, setStage, nothing]⟩
    · exact fun atWork => absurd rfl (atWork _ _)

theorem startReconciler_pipeline (alone : service.Alone) :
    (∃ steps, service.startReconciler.pipeline = service.pipeline.run steps) ∧
      service.startReconciler.Alone := by
  unfold startReconciler
  split_ifs with unstarted
  · obtain ⟨started, stillAlone⟩ := startReconciliation_pipeline alone (by simp [unstarted]) none
    refine ⟨⟨[.start service.nextOperation, .list], ?_⟩, stillAlone⟩
    have begun : service.pipeline.after (.start service.nextOperation) =
        service.pipeline.setStage (.reconciling service.nextOperation none) := if_pos unstarted
    rw [started, Pipeline.run, List.foldl_cons, begun]
    rfl
  · exact ⟨⟨[], rfl⟩, alone⟩

theorem wake_pipeline (alone : service.Alone) {tick next : Nat} {hints : List TopicHint}
    (isIdle : service.reconciler.stage = .idle tick)
    (woken : service.reconciler.next service.now tick =
      (.reconcile next, { service.reconciler with hints })) :
    service.runReconciler.pipeline =
        service.pipeline.run [.wake service.now service.nextOperation, .list] ∧
      service.runReconciler.Alone := by
  have ready : ({ service with
      reconciler := { service.reconciler with hints } } : Service).Alone :=
    ⟨alone.reachable, alone.notCancelled, alone.atWork, alone.atRest⟩
  obtain ⟨started, stillAlone⟩ :=
    startReconciliation_pipeline ready (by simp [isIdle]) (some next)
  have begun : service.pipeline.after (.wake service.now service.nextOperation) =
      { service.pipeline with reconciler := { service.reconciler with hints } }.setStage
        (.reconciling service.nextOperation (some next)) := by
    simp [Pipeline.after, pipeline, isIdle, woken]
  unfold runReconciler
  rw [isIdle]
  dsimp only
  rw [woken]
  refine ⟨started.trans ?_, stillAlone⟩
  rw [Pipeline.run, List.foldl_cons, begun]
  rfl

/-- The idle reconciler is woken and lists the topics, or waits on. -/
theorem runReconciler_of_idle (alone : service.Alone) {tick : Nat}
    (isIdle : service.reconciler.stage = .idle tick) :
    (∃ steps, service.runReconciler.pipeline = service.pipeline.run steps) ∧
      service.runReconciler.Alone := by
  have next : service.reconciler.next service.now tick = _ :=
    if_neg (by simp [alone.notCancelled])
  split_ifs at next with isOver noHints
  · obtain ⟨woken, stillAlone⟩ := wake_pipeline alone isIdle next
    exact ⟨⟨_, woken⟩, stillAlone⟩
  · unfold runReconciler
    rw [isIdle]
    dsimp only
    rw [next]
    exact ⟨⟨[], rfl⟩, alone⟩
  · obtain ⟨woken, stillAlone⟩ := wake_pipeline alone isIdle next
    exact ⟨⟨_, woken⟩, stillAlone⟩

/-! ## Rounds -/

/-- On a quiet manager the workers do nothing in a round. -/
theorem runWorkers_eq (notifier : Notifier) (quiet : service.manager.Quiet group) :
    service.runWorkers notifier = service := by
  refine List.foldl_fixed' (fun worker => ?_) _
  unfold runWorker
  cases found : service.manager.worker? worker.topic with
  | none => rfl
  | some listed =>
    dsimp only
    rw [quiet.turn_eq (Manager.worker?_eq_some found).1]

theorem runCalls_of_nil (nothing : service.operations = []) : service.runCalls = service := by
  unfold runCalls
  rw [nothing]
  cases service
  subst nothing
  rfl

/-- The manager works on the call of the reconciler, which goes back to rest when that is done. -/
theorem runReconciler_of_reconciling (alone : service.Alone) {number : Nat} {tick : Option Nat}
    (atWork : service.reconciler.stage = .reconciling number tick) :
    service.runCalls.runReconciler.pipeline = service.pipeline.after (.apply service.now) ∧
      service.runCalls.runReconciler.Alone := by
  obtain ⟨operation, only⟩ := alone.atWork atWork
  rcases advanced : Manager.advance service.now number operation service.manager with
    ⟨further, manager⟩
  have called : service.runCalls = { service with operations := [⟨number, further⟩], manager } := by
    unfold runCalls
    rw [only]
    simp [advanced]
  have step : service.pipeline.after (.apply service.now) =
      service.pipeline.apply service.now number tick operation := by
    simp [Pipeline.after, pipeline, only, atWork]
  have ongoing : ({ service with operations := [⟨number, further⟩], manager } : Service).Alone := by
    refine ⟨alone.reachable, alone.notCancelled, fun stage => ?_, fun rest => ?_⟩
    · obtain ⟨rfl, -⟩ := Reconciler.Stage.reconciling.inj (atWork.symm.trans stage)
      exact ⟨further, rfl⟩
    · exact absurd atWork (rest _ _)
  rw [called, step, Pipeline.apply, show service.pipeline.manager = service.manager from rfl,
    advanced]
  unfold runReconciler
  dsimp only
  rw [atWork]
  cases further with
  | done report =>
    simp only [report?, List.find?_cons, beq_self_eq_true, Option.bind_some, Operation.report?]
    refine ⟨by simp [pipeline, Pipeline.setStage, setStage, forget], ?_⟩
    constructor
    · exact alone.reachable
    · exact alone.notCancelled
    · intro _ _ stage
      cases stage
    · intro _
      simp [setStage, forget]
  | waiting required =>
    simp only [report?, List.find?_cons, beq_self_eq_true, Option.bind_some, Operation.report?]
    exact ⟨rfl, ongoing⟩
  | working reconciling phase jobs report =>
    simp only [report?, List.find?_cons, beq_self_eq_true, Option.bind_some, Operation.report?]
    exact ⟨rfl, ongoing⟩

/-- A round is some steps of the pipeline. -/
theorem round_pipeline (notifier : Notifier) (alone : service.Alone)
    (quiet : service.manager.Quiet group) :
    (∃ steps, (service.round notifier).pipeline = service.pipeline.run steps) ∧
      (service.round notifier).Alone := by
  unfold round
  rw [runWorkers_eq notifier quiet]
  cases stage : service.reconciler.stage with
  | unstarted =>
    rw [runCalls_of_nil (alone.atRest (by simp [stage])), runReconciler, stage]
    exact ⟨⟨[], rfl⟩, alone⟩
  | reconciling number tick =>
    obtain ⟨applied, stillAlone⟩ := runReconciler_of_reconciling alone stage
    exact ⟨⟨[.apply service.now], applied⟩, stillAlone⟩
  | idle tick =>
    rw [runCalls_of_nil (alone.atRest (by simp [stage]))]
    exact runReconciler_of_idle alone stage
  | stopped =>
    rw [runCalls_of_nil (alone.atRest (by simp [stage])), runReconciler, stage]
    exact ⟨⟨[], rfl⟩, alone⟩

/-! ## Whatever the service does -/

/-- What a service does on which no call of the manager is made. -/
inductive Move
  /-- It answers a request that changes the rules. -/
  | request (request : RuleRequest)
  /-- Its reconciler starts. -/
  | start
  /-- It takes a round. -/
  | round
  /-- Time passes. -/
  | pass (millis : Nat)

/-- The service after a move. -/
def move (notifier : Notifier) (service : Service) : Move → Service
  | .request request => (request.handler service).2
  | .start => service.startReconciler
  | .round => service.round notifier
  | .pass millis => { service with now := service.now + millis }

/-- The service after some moves. -/
def moves (notifier : Notifier) (service : Service) (all : List Move) : Service :=
  all.foldl (move notifier) service

/-- Letting everything settle is taking rounds. -/
theorem settleWithin_eq_moves (notifier : Notifier) (fuel : Nat) (service : Service) :
    ∃ rounds, settleWithin notifier fuel service =
      service.moves notifier (List.replicate rounds .round) := by
  induction fuel generalizing service with
  | zero => exact ⟨0, rfl⟩
  | succ fuel ih =>
    unfold settleWithin
    dsimp only
    split_ifs with same
    · exact ⟨1, rfl⟩
    · obtain ⟨rounds, settled⟩ := ih (service.round notifier)
      exact ⟨rounds + 1, settled⟩

theorem move_pipeline (notifier : Notifier) (alone : service.Alone)
    (quiet : service.manager.Quiet group) (m : Move) :
    (∃ steps, (service.move notifier m).pipeline = service.pipeline.run steps) ∧
      (service.move notifier m).Alone := by
  cases m with
  | request request => exact handler_pipeline alone request
  | start => exact startReconciler_pipeline alone
  | round => exact round_pipeline notifier alone quiet
  | pass millis =>
    exact ⟨⟨[], rfl⟩, alone.reachable, alone.notCancelled, alone.atWork, alone.atRest⟩

/-- Whatever the service does is a run of the pipeline. -/
theorem exists_steps (notifier : Notifier) (all : List Move) (alone : service.Alone)
    (coherent : service.pipeline.Coherent group) :
    ∃ steps, (service.moves notifier all).pipeline = service.pipeline.run steps := by
  induction all generalizing service with
  | nil => exact ⟨[], rfl⟩
  | cons first rest ih =>
    obtain ⟨⟨steps, moved⟩, stillAlone⟩ := move_pipeline notifier alone coherent.quiet first
    have stillCoherent : (service.move notifier first).pipeline.Coherent group := by
      rw [moved]
      exact Pipeline.run_coherent coherent steps
    obtain ⟨later, reached⟩ := ih stillAlone stillCoherent
    refine ⟨steps ++ later, ?_⟩
    rw [Pipeline.run, List.foldl_append]
    exact reached.trans (by rw [moved]; rfl)

theorem new_alone (settings : ServiceSettings) : (new settings).Alone where
  reachable := rfl
  notCancelled := rfl
  atWork stage := by simp [new] at stage
  atRest _ := rfl

/-- No rule change is lost on the service: when its reconciler is idle and no hint waits, there are
subscriptions to the topics of the rules in force. -/
theorem moves_active_iff (notifier : Notifier) (settings : ServiceSettings) (all : List Move)
    {tick : Nat}
    (isIdle : ((new settings).moves notifier all).reconciler.stage = .idle tick)
    (noneWaits : ((new settings).moves notifier all).reconciler.hints = []) (topic : String) :
    topic ∈ ((new settings).moves notifier all).manager.active ↔
      ∃ rule ∈ ((new settings).moves notifier all).store.rules,
        rule.enabled = true ∧ rule.topic = topic := by
  have coherent : (new settings).pipeline.Coherent settings.group :=
    Pipeline.coherent_new settings.ids settings.group settings.stopTimeout settings.interval []
  obtain ⟨steps, reached⟩ := exists_steps notifier all (new_alone settings) coherent
  have after := Pipeline.run_coherent coherent steps
  rw [← reached] at after
  exact (after.idle tick isIdle ⟨rfl, noneWaits⟩ topic).trans RuleStore.mem_enabledTopics

end Service

end TopicAlerts
