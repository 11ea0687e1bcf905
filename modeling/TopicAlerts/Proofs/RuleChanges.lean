import TopicAlerts.Api
import TopicAlerts.Proofs.Quiet
import TopicAlerts.Proofs.RuleStore

/-!
# No rule change is lost

A request changes the rules first, and hints at their topics afterwards. In between, and while the
reconciler empties the queue of hints, lists the topics and has the manager subscribe to them, other
requests may do the same. `Pipeline.after` takes these parts as steps that come in any order.

The invariant of all runs is `Pipeline.Coherent`: if no hint waits and none is still to be given,
then a list of topics that was made but not yet applied is up to date, and so are the subscriptions
while the reconciler is idle. It rests on two facts: a request that changes the topics of the rules
in force hints at something (`RuleRequest.mutate_cases`), and a quiet manager reconciles at once
(`Manager.Quiet.advance_reconcile`).
-/

namespace TopicAlerts

/-! ## Requests -/

/-- The hints at a change. -/
def RuleChange.hints (change : RuleChange) : List TopicHint :=
  (change.topicAdded.map .added).toList ++ (change.topicRemoved.map .removed).toList

/-- A request that changes the rules. -/
inductive RuleRequest
  | create (spec : RuleSpec) (now : Int64)
  | update (id : String) (spec : RuleSpec) (now : Int64)
  | delete (id : String)
  | toggle (id : String) (now : Int64)

namespace RuleRequest

/-- What a request makes of the rules, and the hints that it gives afterwards. -/
def mutate (store : RuleStore) : RuleRequest → Except StoreError (List TopicHint × RuleStore)
  | .create spec now => (store.create spec now).map fun (rule, store) =>
    (if rule.enabled then [.added rule.topic] else [], store)
  | .update id spec now => (store.update id spec now).map fun (change, store) =>
    (change.hints, store)
  | .delete id => (store.delete id).map fun (change, store) => (change.hints, store)
  | .toggle id now => (store.toggle id now).map fun (change, store) => (change.hints, store)

/-- The handler of a request. -/
def handler : RuleRequest → Api.Handler
  | .create spec now => Api.createRule now spec
  | .update id spec now => Api.updateRule now id spec
  | .delete id => Api.deleteRule id
  | .toggle id now => Api.toggleRule now id

end RuleRequest

theorem announce_eq (change : RuleChange) (service : Service) :
    Api.announce change service = change.hints.foldl Service.hint service := by
  unfold Api.announce RuleChange.hints
  cases change.topicAdded <;> cases change.topicRemoved <;> rfl

theorem foldl_hint (hints : List TopicHint) (service : Service) :
    hints.foldl Service.hint service =
      { service with reconciler := hints.foldl Reconciler.hint service.reconciler } := by
  induction hints generalizing service with
  | nil => rfl
  | cons hint rest ih => exact ih (service.hint hint)

theorem RuleRequest.handler_of_error {request : RuleRequest} {service : Service}
    {error : StoreError} (refused : request.mutate service.store = .error error) :
    (request.handler service).2 = service := by
  cases request with
  | create spec now =>
    cases result : service.store.create spec now with
    | error _ => simp [handler, Api.createRule, result]
    | ok _ => simp [mutate, result, Except.map] at refused
  | update id spec now =>
    cases result : service.store.update id spec now with
    | error _ => simp [handler, Api.updateRule, result]
    | ok _ => simp [mutate, result, Except.map] at refused
  | delete id =>
    cases result : service.store.delete id with
    | error _ => simp [handler, Api.deleteRule, result]
    | ok _ => simp [mutate, result, Except.map] at refused
  | toggle id now =>
    cases result : service.store.toggle id now with
    | error _ => simp [handler, Api.toggleRule, result]
    | ok _ => simp [mutate, result, Except.map] at refused

/-- The handler of any other request changes the rules and gives its hints to the reconciler. -/
theorem RuleRequest.handler_of_ok {request : RuleRequest} {service : Service}
    {hints : List TopicHint} {store : RuleStore}
    (changed : request.mutate service.store = .ok (hints, store)) :
    (request.handler service).2.store = store ∧
      (request.handler service).2.reconciler = hints.foldl Reconciler.hint service.reconciler ∧
      (request.handler service).2.manager = service.manager ∧
      (request.handler service).2.operations = service.operations ∧
      (request.handler service).2.reachable = service.reachable := by
  cases request with
  | create spec now =>
    obtain ⟨⟨rule, after⟩, result, equal⟩ := map_eq_ok.mp changed
    cases equal
    cases enabled : rule.enabled <;>
      simp [handler, Api.createRule, result, enabled, Service.hint]
  | update id spec now =>
    obtain ⟨⟨⟨before, after⟩, next⟩, result, equal⟩ := map_eq_ok.mp changed
    cases equal
    cases after <;>
      simp [handler, Api.updateRule, result, announce_eq, foldl_hint, Service.setThrottle]
  | delete id =>
    obtain ⟨⟨change, next⟩, result, equal⟩ := map_eq_ok.mp changed
    cases equal
    simp [handler, Api.deleteRule, result, announce_eq, foldl_hint, Service.setThrottle]
  | toggle id now =>
    obtain ⟨⟨⟨before, after⟩, next⟩, result, equal⟩ := map_eq_ok.mp changed
    cases equal
    cases after <;> simp [handler, Api.toggleRule, result, announce_eq, foldl_hint]

/-! ## The topics of the rules -/

theorem RuleChange.hints_ne_nil (before : Rule) (after : Option Rule) :
    (RuleChange.mk (some before) after).hints ≠ [] := by
  cases after with
  | none => simp [hints, topicAdded, topicRemoved]
  | some rule =>
    cases enabled : rule.enabled with
    | true => simp [hints, topicAdded, enabled]
    | false => simp [hints, topicRemoved, enabled]

/-- A request keeps the store well-formed, and hints at something unless the topics of the rules in
force stay the same. -/
theorem RuleRequest.mutate_cases {request : RuleRequest} {store after : RuleStore}
    {hints : List TopicHint} (wellFormed : store.WellFormed)
    (changed : request.mutate store = .ok (hints, after)) :
    after.WellFormed ∧ (hints ≠ [] ∨ after.enabledTopics = store.enabledTopics) := by
  cases request with
  | create spec now =>
    obtain ⟨⟨rule, next⟩, result, equal⟩ := map_eq_ok.mp changed
    cases equal
    refine ⟨wellFormed.create result, ?_⟩
    obtain ⟨-, -, -, rfl⟩ := RuleStore.create_cases result
    cases enabled : rule.enabled with
    | true => exact .inl (by simp)
    | false => exact .inr (by simp [RuleStore.enabledTopics, enabled])
  | update id spec now =>
    obtain ⟨⟨change, next⟩, result, equal⟩ := map_eq_ok.mp changed
    cases equal
    refine ⟨wellFormed.update result, .inl ?_⟩
    obtain ⟨existing, rule, -, -, -, -, rfl, -⟩ := RuleStore.update_cases result
    exact RuleChange.hints_ne_nil existing (some rule)
  | delete id =>
    obtain ⟨⟨change, next⟩, result, equal⟩ := map_eq_ok.mp changed
    cases equal
    refine ⟨wellFormed.delete result, .inl ?_⟩
    obtain ⟨existing, -, rfl, -⟩ := RuleStore.delete_cases result
    exact RuleChange.hints_ne_nil existing none
  | toggle id now =>
    obtain ⟨⟨change, next⟩, result, equal⟩ := map_eq_ok.mp changed
    cases equal
    refine ⟨wellFormed.toggle result, .inl ?_⟩
    obtain ⟨existing, rule, -, -, rfl, -⟩ := RuleStore.toggle_cases result
    exact RuleChange.hints_ne_nil existing (some rule)

/-! ## The steps -/

/-- The rules, the reconciler and the manager, with what is under way between them. -/
structure Pipeline where
  /-- The rules. -/
  store : RuleStore
  /-- The hints of requests that have changed the rules but have not given these hints yet. -/
  unannounced : List TopicHint
  /-- The reconciler. -/
  reconciler : Reconciler
  /-- The reconciliation with the topics that the reconciler has listed, until it is applied. -/
  operation : Option Operation
  /-- The subscription manager, which only the reconciler calls. -/
  manager : Manager

namespace Pipeline

/-- What may happen next. -/
inductive Step
  /-- A request changes the rules. -/
  | mutate (request : RuleRequest)
  /-- A request gives one of its hints. -/
  | announce (place : Nat)
  /-- The reconciler starts; its call of the manager gets this number. -/
  | start (call : Nat)
  /-- The idle reconciler is woken by a hint, with which it takes all others from the queue, or
  because its interval is over; its call of the manager gets this number. -/
  | wake (now call : Nat)
  /-- The reconciler lists the topics of the rules in force. -/
  | list
  /-- The manager reconciles the subscriptions with the listed topics. -/
  | apply (now : Nat)
  /-- The worker of a topic has its turn. -/
  | turn (topic : String)

/-- Put the reconciler into a stage. -/
def setStage (pipeline : Pipeline) (stage : Reconciler.Stage) : Pipeline :=
  { pipeline with reconciler := { pipeline.reconciler with stage } }

/-- The manager reconciles, for the call of the reconciler with this number, after which the
interval is over at `tick`. -/
def apply (pipeline : Pipeline) (now call : Nat) (tick : Option Nat) (operation : Operation) :
    Pipeline :=
  match Manager.advance now call operation pipeline.manager with
  | (.done _, manager) => setStage { pipeline with manager, operation := none }
      (.idle (tick.getD (now + pipeline.reconciler.interval)))
  | (operation, manager) => { pipeline with manager, operation := some operation }

/-- The state after a step; a step that is not possible changes nothing. -/
def after (pipeline : Pipeline) : Step → Pipeline
  | .mutate request =>
    match request.mutate pipeline.store with
    | .ok (hints, store) => { pipeline with store, unannounced := pipeline.unannounced ++ hints }
    | .error _ => pipeline
  | .announce place =>
    match pipeline.unannounced[place]? with
    | some hint => { pipeline with
        unannounced := pipeline.unannounced.eraseIdx place
        reconciler := pipeline.reconciler.hint hint }
    | none => pipeline
  | .start call =>
    if pipeline.reconciler.stage = .unstarted then pipeline.setStage (.reconciling call none)
    else pipeline
  | .wake now call =>
    match pipeline.reconciler.stage with
    | .idle tick =>
      match pipeline.reconciler.next now tick with
      | (.reconcile tick, reconciler) =>
        { pipeline with reconciler }.setStage (.reconciling call (some tick))
      | _ => pipeline
    | _ => pipeline
  | .list =>
    match pipeline.reconciler.stage, pipeline.operation with
    | .reconciling .., none =>
      { pipeline with operation := some (.reconcile pipeline.store.enabledTopics) }
    | _, _ => pipeline
  | .apply now =>
    match pipeline.reconciler.stage, pipeline.operation with
    | .reconciling call tick, some operation => pipeline.apply now call tick operation
    | _, _ => pipeline
  | .turn topic =>
    match pipeline.manager.worker? topic with
    | some worker => { pipeline with manager := (pipeline.manager.turn worker).2 }
    | none => pipeline

/-- The state after some steps. -/
def run (pipeline : Pipeline) (steps : List Step) : Pipeline := steps.foldl after pipeline

/-- The state before anything happens, except that the store may be seeded. -/
def new (ids : IdSource) (group : String) (stopTimeout interval : Nat)
    (seeds : List (RuleSpec × Int64)) : Pipeline where
  store := ((RuleStore.empty ids).seed seeds).2
  unannounced := []
  reconciler := { interval }
  operation := none
  manager := Manager.new group stopTimeout

/-- No hint waits, and none is still to be given. -/
def Drained (pipeline : Pipeline) : Prop :=
  pipeline.unannounced = [] ∧ pipeline.reconciler.hints = []

/-- The topics that are listed or subscribed to are those of the rules in force, unless a hint at a
change of them is on its way. -/
structure Coherent (group : String) (pipeline : Pipeline) : Prop where
  /-- The rules look at valid topics. -/
  store : pipeline.store.WellFormed
  /-- Hints reach the reconciler. -/
  connected : pipeline.reconciler.connected = true
  /-- The reconciler was not stopped. -/
  notStopped : pipeline.reconciler.stage ≠ .stopped
  /-- Between its reconciliations the manager is quiet. -/
  quiet : pipeline.manager.Quiet group
  /-- No reconciliation has its turn at the manager. -/
  noTurns : pipeline.manager.turns = []
  /-- Topics are only listed while the reconciler works. -/
  working : ∀ operation, pipeline.operation = some operation →
    ∃ call tick, pipeline.reconciler.stage = .reconciling call tick
  /-- The listed topics are up to date. -/
  listed : ∀ operation, pipeline.operation = some operation →
    ∃ topics, operation = .reconcile topics ∧ (∀ t ∈ topics, Topic.isValid t = true) ∧
      (pipeline.Drained → topics = pipeline.store.enabledTopics)
  /-- The subscriptions are up to date while the reconciler is idle. -/
  idle : ∀ tick, pipeline.reconciler.stage = .idle tick → pipeline.Drained →
    ∀ t, t ∈ pipeline.manager.active ↔ t ∈ pipeline.store.enabledTopics

variable {pipeline : Pipeline} {group : String}

theorem coherent_new (ids : IdSource) (group : String) (stopTimeout interval : Nat)
    (seeds : List (RuleSpec × Int64)) :
    (new ids group stopTimeout interval seeds).Coherent group where
  store := (RuleStore.wellFormed_empty ids).seed seeds
  connected := rfl
  notStopped := by simp [new]
  quiet := Manager.quiet_new group stopTimeout
  noTurns := rfl
  working operation listed := by simp [new] at listed
  listed operation listed := by simp [new] at listed
  idle tick isIdle := by simp [new] at isIdle

/-- Hints that are still to be given excuse a list or subscriptions that are not up to date. -/
theorem Coherent.mutate (coherent : pipeline.Coherent group) (request : RuleRequest) :
    (pipeline.after (.mutate request)).Coherent group := by
  unfold after
  dsimp only
  split
  next hints store changed =>
    obtain ⟨wellFormed, announces⟩ := RuleRequest.mutate_cases coherent.store changed
    -- if nothing is to be given now, nothing was before, and the topics are the same
    have unchanged : Drained { pipeline with store, unannounced := pipeline.unannounced ++ hints } →
        pipeline.Drained ∧ store.enabledTopics = pipeline.store.enabledTopics := by
      rintro ⟨given, empty⟩
      obtain ⟨before, none⟩ := List.append_eq_nil_iff.mp given
      exact ⟨⟨before, empty⟩, announces.resolve_left (not_not.mpr none)⟩
    refine ⟨wellFormed, coherent.connected, coherent.notStopped, coherent.quiet, coherent.noTurns,
      coherent.working, ?_, ?_⟩
    · intro operation pending
      obtain ⟨topics, rfl, valid, upToDate⟩ := coherent.listed operation pending
      refine ⟨topics, rfl, valid, fun drained => ?_⟩
      obtain ⟨before, same⟩ := unchanged drained
      exact (upToDate before).trans same.symm
    · intro tick isIdle drained t
      obtain ⟨before, same⟩ := unchanged drained
      exact (coherent.idle tick isIdle before t).trans (by rw [same])
  next => exact coherent

theorem Coherent.announce (coherent : pipeline.Coherent group) (place : Nat) :
    (pipeline.after (.announce place)).Coherent group := by
  unfold after
  dsimp only
  split
  next hint found =>
    have given : pipeline.reconciler.hint hint =
        { pipeline.reconciler with hints := pipeline.reconciler.hints ++ [hint] } := by
      simp [Reconciler.hint, coherent.connected, coherent.notStopped]
    rw [given]
    have waits : ∀ unannounced, ¬Drained { pipeline with
        unannounced
        reconciler := { pipeline.reconciler with
          hints := pipeline.reconciler.hints ++ [hint] } } := by
      rintro unannounced ⟨-, empty⟩
      exact List.append_ne_nil_of_right_ne_nil _ (List.cons_ne_nil _ _) empty
    refine ⟨coherent.store, coherent.connected, coherent.notStopped, coherent.quiet,
      coherent.noTurns, coherent.working, ?_, fun _ _ drained => absurd drained (waits _)⟩
    intro operation pending
    obtain ⟨topics, rfl, valid, -⟩ := coherent.listed operation pending
    exact ⟨topics, rfl, valid, fun drained => absurd drained (waits _)⟩
  next => exact coherent

theorem Coherent.operation_eq_none (coherent : pipeline.Coherent group)
    (resting : ∀ call tick, pipeline.reconciler.stage ≠ .reconciling call tick) :
    pipeline.operation = none := by
  cases pending : pipeline.operation with
  | none => rfl
  | some operation =>
    obtain ⟨call, tick, stage⟩ := coherent.working operation pending
    exact absurd stage (resting call tick)

/-- The reconciler may begin to work at any time, whichever hints it takes from the queue. -/
theorem Coherent.begin (coherent : pipeline.Coherent group) (nothing : pipeline.operation = none)
    (hints : List TopicHint) (call : Nat) (tick : Option Nat) :
    (setStage { pipeline with reconciler := { pipeline.reconciler with hints } }
      (.reconciling call tick)).Coherent group := by
  refine ⟨coherent.store, coherent.connected, by simp [setStage], coherent.quiet, coherent.noTurns,
    ?_, ?_, fun _ isIdle => by simp [setStage] at isIdle⟩
  · exact fun operation _ => ⟨call, tick, rfl⟩
  · intro operation pending
    cases nothing.symm.trans pending

theorem Coherent.start (coherent : pipeline.Coherent group) (call : Nat) :
    (pipeline.after (.start call)).Coherent group := by
  unfold after
  dsimp only
  split_ifs with unstarted
  · refine coherent.begin (coherent.operation_eq_none ?_) pipeline.reconciler.hints call none
    simp [unstarted]
  · exact coherent

theorem Coherent.wake (coherent : pipeline.Coherent group) (now call : Nat) :
    (pipeline.after (.wake now call)).Coherent group := by
  unfold after
  dsimp only
  split
  next tick isIdle =>
    have nothing : pipeline.operation = none := coherent.operation_eq_none (by simp [isIdle])
    unfold Reconciler.next
    split_ifs
    · exact coherent
    · exact coherent.begin nothing pipeline.reconciler.hints call _
    · exact coherent
    · exact coherent.begin nothing [] call _
  next => exact coherent

theorem Coherent.list (coherent : pipeline.Coherent group) :
    (pipeline.after .list).Coherent group := by
  unfold after
  dsimp only
  split
  next call tick atWork nothing =>
    refine ⟨coherent.store, coherent.connected, coherent.notStopped, coherent.quiet,
      coherent.noTurns, fun _ _ => ⟨call, tick, atWork⟩, ?_, coherent.idle⟩
    rintro operation pending
    cases pending
    refine ⟨_, rfl, fun t inside => ?_, fun _ => rfl⟩
    obtain ⟨rule, stored, -, rfl⟩ := RuleStore.mem_enabledTopics.mp inside
    exact coherent.store.valid rule stored
  next => exact coherent

/-- Up-to-date topics make up-to-date subscriptions. -/
theorem Coherent.apply (coherent : pipeline.Coherent group) (now : Nat) :
    (pipeline.after (.apply now)).Coherent group := by
  unfold after
  dsimp only
  split
  next call tick operation atWork pending =>
    obtain ⟨topics, rfl, valid, upToDate⟩ := coherent.listed operation pending
    obtain ⟨manager, advanced, quiet, noTurns, active⟩ :=
      coherent.quiet.advance_reconcile now call coherent.noTurns valid
    unfold Pipeline.apply
    rw [advanced]
    refine ⟨coherent.store, coherent.connected, by simp [setStage], quiet, noTurns, ?_, ?_, ?_⟩
    · intro operation left
      cases left
    · intro operation left
      cases left
    · intro tick isIdle drained t
      have same : topics = pipeline.store.enabledTopics := upToDate drained
      rw [same] at active
      exact active t
  next => exact coherent

theorem Coherent.turn (coherent : pipeline.Coherent group) (topic : String) :
    (pipeline.after (.turn topic)).Coherent group := by
  unfold after
  dsimp only
  split
  next worker found =>
    rw [coherent.quiet.turn_eq (Manager.worker?_eq_some found).1]
    exact coherent
  next => exact coherent

theorem after_coherent (coherent : pipeline.Coherent group) (step : Step) :
    (pipeline.after step).Coherent group := by
  cases step with
  | mutate request => exact coherent.mutate request
  | announce place => exact coherent.announce place
  | start call => exact coherent.start call
  | wake now call => exact coherent.wake now call
  | list => exact coherent.list
  | apply now => exact coherent.apply now
  | turn topic => exact coherent.turn topic

theorem run_coherent (coherent : pipeline.Coherent group) (steps : List Step) :
    (pipeline.run steps).Coherent group := by
  induction steps generalizing pipeline with
  | nil => exact coherent
  | cons step rest ih => exact ih (after_coherent coherent step)

/-- Whatever order requests, the reconciler and the manager take their steps in: when the reconciler
is idle, no hint waits, and no request still has to give a hint, the active topics are those of the
rules in force. -/
theorem run_active_iff {ids : IdSource} {stopTimeout interval : Nat}
    {seeds : List (RuleSpec × Int64)} {steps : List Step} {tick : Nat}
    (isIdle : ((new ids group stopTimeout interval seeds).run steps).reconciler.stage = .idle tick)
    (noneWaits : ((new ids group stopTimeout interval seeds).run steps).reconciler.hints = [])
    (noneIsDue : ((new ids group stopTimeout interval seeds).run steps).unannounced = [])
    (topic : String) :
    topic ∈ ((new ids group stopTimeout interval seeds).run steps).manager.active ↔
      ∃ rule ∈ ((new ids group stopTimeout interval seeds).run steps).store.rules,
        rule.enabled = true ∧ rule.topic = topic := by
  have coherent := run_coherent (coherent_new ids group stopTimeout interval seeds) steps
  rw [coherent.idle tick isIdle ⟨noneIsDue, noneWaits⟩ topic, RuleStore.mem_enabledTopics]

/-- A rule on the load of a machine that matches every message. -/
def loadRule : RuleSpec where
  name := "any load"
  topic := "load"
  source := .obj []
  actions := [Action.slack "http://hook" "load"]
  enabled := true
  description := none
  periodMinutes := none
  permits := none

theorem validate_loadRule : RuleStore.validate loadRule = .ok ⟨⟩ := by
  have valid : loadRule.expression.isValid = true := by
    simp [RuleSpec.expression, loadRule, Expression.isValid, Expression.parse,
      Expression.parseMembers, Expression.conjunction, Expression.problems, Expression.problemsOf]
  unfold RuleStore.validate
  rw [valid]
  decide +kernel

theorem isWorkable_loadRule : loadRule.IsWorkable :=
  RuleStore.validate_eq_ok_iff.mp validate_loadRule.{0}

/-- A rule is created while the reconciler, at its start, has listed the topics but not applied
them; its hint wakes the reconciler. -/
def createLate : List Step :=
  [.start 0, .list, .mutate (.create loadRule 0), .apply 0, .announce 0, .wake 1 1, .list, .apply 1]

/-- The state after the rule was created. -/
def createdLate : Pipeline :=
  { (new .numbered "alerts" 100 1000 []).run [.start 0, .list] with
    store := ⟨[loadRule.toRule (ruleId 1) 0], IdSource.numbered.advance⟩
    unannounced := [.added "load"] }

theorem run_createLate : (new .numbered "alerts" 100 1000 []).run createLate =
    createdLate.run [.apply 0, .announce 0, .wake 1 1, .list, .apply 1] := by
  have mutated : (RuleRequest.create loadRule 0).mutate (.empty .numbered) =
      .ok ([.added "load"], createdLate.store) := by
    rw [RuleRequest.mutate, RuleStore.create, validate_loadRule]
    rfl
  have created : ((new .numbered "alerts" 100 1000 []).run [.start 0, .list]).after
      (.mutate (.create loadRule 0)) = createdLate := by
    unfold after
    dsimp only
    rw [show ((new .numbered "alerts" 100 1000 []).run [.start 0, .list]).store =
      .empty .numbered from rfl, mutated]
    rfl
  rw [← created]
  rfl

/-- In the end there is a subscription to its topic. -/
theorem createLate_active :
    "load" ∈ ((new .numbered "alerts" 100 1000 []).run createLate).manager.active := by
  have isIdle :
      ((new .numbered "alerts" 100 1000 []).run createLate).reconciler.stage = .idle 1000 := by
    rw [run_createLate]
    decide +kernel
  have noneWaits : ((new .numbered "alerts" 100 1000 []).run createLate).reconciler.hints = [] := by
    rw [run_createLate]
    decide +kernel
  have noneIsDue : ((new .numbered "alerts" 100 1000 []).run createLate).unannounced = [] := by
    rw [run_createLate]
    decide +kernel
  refine (run_active_iff isIdle noneWaits noneIsDue "load").mpr ?_
  rw [run_createLate]
  exact ⟨loadRule.toRule (ruleId 1) 0, List.mem_singleton_self _, rfl, rfl⟩

end Pipeline

end TopicAlerts
