import TopicAlerts.Proofs.ApiRequests

/-!
# Requests announce what they change

A request to change the rules writes one rule, so the topics of the rules in force change by the
topic of this rule before and after, and these are the topics that it hints at
(`RuleRequest.Effect.announced`). Other rules may look at the same topics: then a topic is hinted at
without need, but never as added unless a rule in force looks at it.

`Api.handle_announces` says so of whole requests to the resources of the rules, whatever their
bodies are: those that succeed announce the changes of the topics, and those that fail change
nothing at all.
-/

namespace TopicAlerts

/-- Some hints tell how a list of topics has changed. -/
structure Announced (before after : List String) (hints : List TopicHint) : Prop where
  added : ∀ topic ∈ after, topic ∉ before → .added topic ∈ hints
  removed : ∀ topic ∈ before, topic ∉ after → .removed topic ∈ hints
  /-- A topic that is hinted at as added is one of those after the change. -/
  required : ∀ topic, .added topic ∈ hints → topic ∈ after

/-! ## The hints at a change -/

namespace RuleChange

variable {change : RuleChange} {topic : String}

theorem topicAdded_eq_some_iff : change.topicAdded = some topic ↔
    ∃ rule, change.after = some rule ∧ rule.enabled = true ∧ rule.topic = topic := by
  unfold topicAdded
  cases change.after with
  | none => simp
  | some rule => cases enabled : rule.enabled <;> simp [Option.filter, enabled]

theorem topicRemoved_eq_some_iff : change.topicRemoved = some topic ↔
    ∃ rule, change.before = some rule ∧ rule.topic = topic ∧ change.topicAdded ≠ some topic := by
  rw [Ne, topicAdded_eq_some_iff]
  unfold topicRemoved
  cases change.before with
  | none => simp
  | some before =>
    cases change.after with
    | none => simp
    | some after =>
      by_cases served : after.enabled = true ∧ after.topic = before.topic
      · simp only [Option.bind_some, served, beq_self_eq_true, Bool.and_self, if_true,
          Option.some.injEq, reduceCtorEq, false_iff]
        rintro ⟨rule, rfl, rfl, notServed⟩
        exact notServed ⟨after, rfl, served⟩
      · have notServed : (after.enabled && after.topic == before.topic) = false := by
          simpa using served
        simp only [Option.bind_some, notServed, Bool.false_eq_true, if_false, Option.some.injEq]
        constructor
        · rintro rfl
          refine ⟨before, rfl, rfl, ?_⟩
          rintro ⟨rule, rfl, isServed⟩
          exact served isServed
        · rintro ⟨rule, rfl, same, -⟩
          exact same

theorem added_mem_hints : TopicHint.added topic ∈ change.hints ↔
    change.topicAdded = some topic := by
  unfold hints
  cases change.topicAdded <;> cases change.topicRemoved <;> simp [eq_comm]

theorem removed_mem_hints : TopicHint.removed topic ∈ change.hints ↔
    change.topicRemoved = some topic := by
  unfold hints
  cases change.topicAdded <;> cases change.topicRemoved <;> simp [eq_comm]

end RuleChange

theorem RuleStore.Keyed.mem_enabledTopics {store : RuleStore} (keyed : store.Keyed)
    {topic : String} : topic ∈ store.enabledTopics ↔
      ∃ id rule, store.get? id = some rule ∧ rule.enabled = true ∧ rule.topic = topic := by
  rw [RuleStore.mem_enabledTopics]
  constructor
  · rintro ⟨rule, stored, isServed⟩
    exact ⟨rule.id, rule, (get?_eq_some_iff keyed).mpr ⟨stored, rfl⟩, isServed⟩
  · rintro ⟨id, rule, found, isServed⟩
    exact ⟨rule, (mem_of_get? found).1, isServed⟩

/-- The hints at the change of one rule tell how the topics of the rules in force have changed. -/
theorem RuleRequest.Effect.announced {request : RuleRequest} {store after : RuleStore}
    {change : RuleChange} {id : String} (effect : request.Effect store change after id)
    (keyed : store.Keyed) (keyedAfter : after.Keyed) :
    Announced store.enabledTopics after.enabledTopics change.hints where
  added topic isNow wasNot := by
    obtain ⟨other, rule, found, isServed⟩ := keyedAfter.mem_enabledTopics.mp isNow
    have isOwn : other = id := by
      by_contra differs
      rw [effect.others other differs] at found
      exact wasNot (keyed.mem_enabledTopics.mpr ⟨other, rule, found, isServed⟩)
    rw [isOwn, ← effect.became] at found
    rw [RuleChange.added_mem_hints, RuleChange.topicAdded_eq_some_iff]
    exact ⟨rule, found, isServed⟩
  removed topic was isNotNow := by
    obtain ⟨other, rule, found, isServed⟩ := keyed.mem_enabledTopics.mp was
    have isOwn : other = id := by
      by_contra differs
      rw [← effect.others other differs] at found
      exact isNotNow (keyedAfter.mem_enabledTopics.mpr ⟨other, rule, found, isServed⟩)
    rw [isOwn, ← effect.was] at found
    rw [RuleChange.removed_mem_hints, RuleChange.topicRemoved_eq_some_iff]
    refine ⟨rule, found, isServed.2, ?_⟩
    rw [Ne, RuleChange.topicAdded_eq_some_iff]
    rintro ⟨now, became, isServedNow⟩
    rw [effect.became] at became
    exact isNotNow (keyedAfter.mem_enabledTopics.mpr ⟨id, now, became, isServedNow⟩)
  required topic hinted := by
    obtain ⟨rule, became, isServed⟩ :=
      RuleChange.topicAdded_eq_some_iff.mp (RuleChange.added_mem_hints.mp hinted)
    rw [effect.became] at became
    exact keyedAfter.mem_enabledTopics.mpr ⟨id, rule, became, isServed⟩

/-! ## Requests -/

/-- A reconciler that anyone can reach, and that is not stopped, has the hints in its queue. -/
theorem foldl_hint_of_listening {reconciler : Reconciler} (connected : reconciler.connected = true)
    (notStopped : reconciler.stage ≠ .stopped) (hints : List TopicHint) :
    hints.foldl Reconciler.hint reconciler =
      { reconciler with hints := reconciler.hints ++ hints } := by
  induction hints generalizing reconciler with
  | nil => simp
  | cons hint rest ih =>
    have queued : reconciler.hint hint =
        { reconciler with hints := reconciler.hints ++ [hint] } := by
      simp [Reconciler.hint, connected, notStopped]
    have next := @ih (reconciler.hint hint) (by rw [queued]; exact connected)
      (by rw [queued]; exact notStopped)
    rw [List.foldl_cons, next, queued, List.append_assoc, List.singleton_append]

/-- The reconciler was sent hints that tell how the topics of the rules in force have changed. -/
def Service.HasAnnounced (before after : Service) : Prop :=
  ∃ hints, after.reconciler = hints.foldl Reconciler.hint before.reconciler ∧
    Announced before.store.enabledTopics after.store.enabledTopics hints

/-- A handler announces what it changes if it succeeds, and changes nothing if it fails. -/
def Api.Announces (handler : Api.Handler) : Prop :=
  ∀ service : Service, service.store.WellFormed →
    ((handler service).1.status < 400 → service.HasAnnounced (handler service).2) ∧
      (400 ≤ (handler service).1.status → (handler service).2 = service)

theorem Service.hasAnnounced_self (service : Service) : service.HasAnnounced service :=
  ⟨[], rfl, fun _ is isNot => absurd is isNot, fun _ is isNot => absurd is isNot,
    fun _ hinted => by cases hinted⟩

theorem Api.announces_answer (response : Service → Api.Response) :
    Api.Announces (Api.answer response) :=
  fun service _ => ⟨fun _ => service.hasAnnounced_self, fun _ => rfl⟩

theorem RuleRequest.announces_handler (request : RuleRequest) : Api.Announces request.handler := by
  intro service wellFormed
  cases answered : request.answer service.store with
  | error error =>
    have unchanged : (request.handler service).2 = service := handler_of_refused answered
    have failed : 400 ≤ (request.handler service).1.status := by
      rw [status_of_refused answered]
      exact error.status_ge
    exact ⟨fun succeeded => absurd succeeded (Nat.not_lt.mpr failed), fun _ => unchanged⟩
  | ok result =>
    obtain ⟨change, after⟩ := result
    have succeeded : (request.handler service).1.status < 400 := status_of_answered answered
    have wellFormedAfter : after.WellFormed := wellFormed_of_answered wellFormed answered
    obtain ⟨stored, hinted, -⟩ := handler_of_ok (mutate_of_answered answered)
    obtain ⟨id, effect⟩ := exists_effect wellFormed answered
    refine ⟨fun _ => ⟨change.hints, hinted, ?_⟩, fun failed => absurd succeeded
      (Nat.not_lt.mpr failed)⟩
    rw [stored]
    exact effect.announced wellFormed.keyed wellFormedAfter.keyed

/-- Whatever was written to a store before, a request to a resource of the rules that succeeds
announces how the topics of the rules in force have changed; a reconciler that listens has these
hints at the end of its queue. A request that fails leaves the service as it is. -/
theorem Api.handle_announces (ids : IdSource) (writes : List RuleStore.Write) {service : Service}
    (made : service.store = (RuleStore.empty ids).run writes) (now : Int64) {request : Api.Request}
    {resource : Api.Resource}
    (found : Api.Resource.ofSegments? request.target.segments = some resource)
    (ofRules : resource.isOfRules = true) :
    let answered := Api.handle now request service
    (answered.1.status < 400 → ∃ hints : List TopicHint,
      answered.2.reconciler = hints.foldl Reconciler.hint service.reconciler ∧
      (service.reconciler.connected = true → service.reconciler.stage ≠ .stopped →
        answered.2.reconciler.hints = service.reconciler.hints ++ hints) ∧
      (∀ topic ∈ answered.2.store.enabledTopics, topic ∉ service.store.enabledTopics →
        .added topic ∈ hints) ∧
      (∀ topic ∈ service.store.enabledTopics, topic ∉ answered.2.store.enabledTopics →
        .removed topic ∈ hints) ∧
      ∀ topic, .added topic ∈ hints → topic ∈ answered.2.store.enabledTopics) ∧
    (400 ≤ answered.1.status → answered.2 = service) := by
  intro answered
  have wellFormed : service.store.WellFormed :=
    made ▸ ((RuleStore.consistent_empty ids).run writes).toWellFormed
  have outcome : (answered.1.status < 400 → service.HasAnnounced answered.2) ∧
      (400 ≤ answered.1.status → answered.2 = service) := by
    rcases Api.handle_cases now request service with ⟨response, nothing⟩ | handled
    · have unchanged : answered.2 = service := congrArg Prod.snd nothing
      rw [unchanged]
      exact ⟨fun _ => service.hasAnnounced_self, fun _ => rfl⟩
    · obtain ⟨resource', found', status, after⟩ := handled
      obtain rfl : resource' = resource := Option.some.inj (found'.symm.trans found)
      have announces : Api.Announces (Api.handlerOf now request resource') :=
        Api.handlerOf_of_ofRules Api.Announces ofRules Api.announces_answer
          RuleRequest.announces_handler
      unfold answered
      rw [status, after]
      exact announces service wellFormed
  refine ⟨fun succeeded => ?_, outcome.2⟩
  obtain ⟨hints, sent, announced⟩ := outcome.1 succeeded
  refine ⟨hints, sent, fun connected notStopped => ?_, announced.added, announced.removed,
    announced.required⟩
  rw [sent, foldl_hint_of_listening connected notStopped]

/-- A request to delete the only rule that there is. -/
def deleteOnly : Api.Request where
  method := "DELETE"
  target := ⟨("/v1/rules/" ++ ruleId 1).toList, none⟩

theorem resource_deleteOnly :
    Api.Resource.ofSegments? deleteOnly.target.segments = some (.rule (ruleId 1)) := by
  decide +kernel

theorem handle_deleteOnly (service : Service) :
    Api.handle 0 deleteOnly service = (RuleRequest.delete (ruleId 1)).handler service := by
  have decoded : Api.Target.decodeSegment? (ruleId 1) = some (ruleId 1) := by decide +kernel
  unfold Api.handle
  rw [resource_deleteOnly]
  simp [Api.handlerOf, Api.withParameter, decoded, deleteOnly, Api.Resource.methods,
    RuleRequest.handler]

theorem serviceWithRule_store :
    serviceWithRule.store =
      ⟨[Pipeline.loadRule.toRule (ruleId 1) 0], IdSource.numbered.advance⟩ :=
  RuleStore.after_create Pipeline.isWorkable_loadRule (by simp [RuleStore.empty]) 0

/-- Its topic is hinted at as removed, and the hint waits in the queue of the reconciler. -/
theorem deleteOnly_announced : TopicHint.removed "load" ∈
    (Api.handle 0 deleteOnly serviceWithRule).2.reconciler.hints := by
  have answered : (RuleRequest.delete (ruleId 1)).answer serviceWithRule.store =
      .ok (⟨some (Pipeline.loadRule.toRule (ruleId 1) 0), none⟩,
        ⟨[], IdSource.numbered.advance⟩) := by
    rw [serviceWithRule_store]
    rfl
  have succeeded : (Api.handle 0 deleteOnly serviceWithRule).1.status < 400 := by
    rw [handle_deleteOnly]
    exact RuleRequest.status_of_answered answered
  have stored : (Api.handle 0 deleteOnly serviceWithRule).2.store =
      ⟨[], IdSource.numbered.advance⟩ := by
    rw [handle_deleteOnly]
    exact RuleRequest.handler_of_answered answered
  obtain ⟨announced, -⟩ := Api.handle_announces .numbered [.request (.create Pipeline.loadRule 0)]
    (show serviceWithRule.store = _ from rfl) 0 resource_deleteOnly rfl
  obtain ⟨hints, -, queued, -, removed, -⟩ := announced succeeded
  have was : "load" ∈ serviceWithRule.store.enabledTopics := by
    rw [serviceWithRule_store]
    decide +kernel
  have isNotNow : "load" ∉ (Api.handle 0 deleteOnly serviceWithRule).2.store.enabledTopics := by
    rw [stored]
    decide +kernel
  rw [queued rfl (by decide)]
  exact List.mem_append_right _ (removed "load" was isNotNow)

end TopicAlerts
