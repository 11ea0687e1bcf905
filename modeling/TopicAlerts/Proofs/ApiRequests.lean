import TopicAlerts.Proofs.StoreRequests

/-!
# What holds of all requests

A request that finds a resource and a method is answered by one of few handlers, unless its body or
a parameter of its path cannot be read. So what holds of these handlers, and of every answer that
changes nothing, holds of every request (`Api.handle_of_handlers`; `Api.handlerOf_of_ofRules` for
the resources of the rules alone). `Api.handle_cases` puts the routes and the methods around it.

The status of a response tells whether a request to change the rules was refused
(`RuleRequest.status_of_refused`, `RuleRequest.status_of_answered`).
-/

namespace TopicAlerts

/-! ## Resources and methods -/

namespace Api

/-- Whether a resource belongs to the rules. -/
def Resource.isOfRules : Resource → Bool
  | .rules | .rule _ | .toggle _ => true
  | .health | .ready | .metrics | .subscriptions | .topicAdded _ | .topicRemoved _ | .throttle
  | .throttleConfig | .throttleTest _ | .throttleClear _ => false

variable {Holds : Handler → Prop} {now : Int64} {request : Request} {resource : Resource}

/-- A body is read, or answered with an error. -/
theorem withBody_cases {α : Type} (request : Request) (read : Json.Reader α)
    (handler : α → Handler) :
    (∃ value, withBody request read handler = handler value) ∨
      ∃ response : Response, 400 ≤ response.status ∧
        withBody request read handler = answer fun _ => response := by
  unfold withBody
  split_ifs
  · exact .inr ⟨_, by decide, rfl⟩
  · cases Json.readUnits read (Utf8.units request.body) with
    | ok value => exact .inl ⟨value, rfl⟩
    | error fault =>
      refine .inr ⟨Response.ofFault fault, ?_, rfl⟩
      cases fault <;> simp [Response.ofFault, Response.ofText]

theorem withBody_of_handler {α : Type} {read : Json.Reader α} {handler : α → Handler}
    (answers : ∀ response, Holds (answer response)) (handles : ∀ value, Holds (handler value)) :
    Holds (withBody request read handler) := by
  rcases withBody_cases request read handler with ⟨value, reads⟩ | ⟨response, -, refuses⟩
  · rw [reads]
    exact handles value
  · rw [refuses]
    exact answers _

theorem withParameter_of_handler {name segment : String} {handler : String → Handler}
    (answers : ∀ response, Holds (answer response))
    (handles : ∀ value, Target.decodeSegment? segment = some value → Holds (handler value)) :
    Holds (withParameter name segment handler) := by
  unfold withParameter
  split
  next value decoded => exact handles value decoded
  next => exact answers _

/-- Requests to resources of the rules look at the rules or change them. -/
theorem handlerOf_of_ofRules (Holds : Handler → Prop) (ofRules : resource.isOfRules = true)
    (answers : ∀ response, Holds (answer response))
    (changes : ∀ request : RuleRequest, Holds request.handler) :
    Holds (handlerOf now request resource) := by
  cases resource with
  | rules =>
    unfold handlerOf
    dsimp only
    split_ifs
    · exact withBody_of_handler answers fun spec => changes (.create spec now)
    · exact answers _
  | rule id =>
    refine withParameter_of_handler answers fun id _ => ?_
    split_ifs
    · exact withBody_of_handler answers fun spec => changes (.update id spec now)
    · exact changes (.delete id)
    · exact answers _
  | toggle id => exact withParameter_of_handler answers fun id _ => changes (.toggle id now)
  | health | ready | metrics | subscriptions | topicAdded topic | topicRemoved topic | throttle
  | throttleConfig | throttleTest rule | throttleClear rule => cases ofRules

/-- The other resources take hints, and work on the throttle windows. -/
theorem handlerOf_of_handlers (Holds : Handler → Prop)
    (answers : ∀ response, Holds (answer response))
    (changes : ∀ request : RuleRequest, Holds request.handler)
    (hints : ∀ hint topic, Holds (giveHint hint topic))
    (tests : ∀ segment rule, resource = .throttleTest segment →
      Target.decodeSegment? segment = some rule → Holds (testThrottle rule))
    (clears : ∀ rule, Holds (clearThrottle rule)) (clearsAll : Holds clearThrottles) :
    Holds (handlerOf now request resource) := by
  cases resource with
  | rules | rule id | toggle id => exact handlerOf_of_ofRules Holds rfl answers changes
  | health | ready | metrics | subscriptions | throttleConfig => exact answers _
  | topicAdded topic => exact withParameter_of_handler answers fun topic _ => hints .added topic
  | topicRemoved topic =>
    exact withParameter_of_handler answers fun topic _ => hints .removed topic
  | throttle => exact clearsAll
  | throttleTest segment =>
    exact withParameter_of_handler answers fun rule => tests segment rule rfl
  | throttleClear rule => exact withParameter_of_handler answers fun rule _ => clears rule

/-- A request is answered by the handler of its resource, but for the body of the answer to `HEAD`;
or nothing changes. -/
theorem handle_cases (now : Int64) (request : Request) (service : Service) :
    (∃ response, handle now request service = (response, service)) ∨
      ∃ resource, Resource.ofSegments? request.target.segments = some resource ∧
        (handle now request service).1.status =
          (handlerOf now request resource service).1.status ∧
        (handle now request service).2 = (handlerOf now request resource service).2 := by
  unfold handle
  cases found : Resource.ofSegments? request.target.segments with
  | none => exact .inl ⟨_, rfl⟩
  | some resource =>
    dsimp only
    by_cases unknown : (!resource.methods.contains request.method) = true
    · rw [if_pos unknown]
      exact .inl ⟨_, rfl⟩
    · rw [if_neg unknown]
      refine .inr ⟨resource, rfl, ?_⟩
      split_ifs <;> exact ⟨rfl, rfl⟩

/-- What a request makes of a service is what one of the handlers makes of it. -/
theorem handle_of_handlers (Kept : Service → Prop) {service : Service} (unchanged : Kept service)
    (changes : ∀ request : RuleRequest, Kept (request.handler service).2)
    (hints : ∀ hint, Kept (service.hint hint))
    (tests : ∀ segment rule,
      Resource.ofSegments? request.target.segments = some (.throttleTest segment) →
      Target.decodeSegment? segment = some rule → Kept (testThrottle rule service).2)
    (clears : ∀ rule, Kept (service.setThrottle (service.throttle.clear rule).2))
    (clearsAll : Kept (service.setThrottle service.throttle.clearAll.2)) :
    Kept (handle now request service).2 := by
  rcases handle_cases now request service with ⟨response, nothing⟩ | ⟨resource, found, -, after⟩
  · rw [nothing]
    exact unchanged
  · rw [after]
    refine handlerOf_of_handlers (fun handler => Kept (handler service).2) (fun _ => unchanged)
      changes (fun hint topic => ?_) (fun segment rule isTest => ?_) clears clearsAll
    · unfold giveHint
      split_ifs
      · exact hints (hint topic)
      · exact unchanged
    · exact tests segment rule (isTest ▸ found)

/-- A request with one of these methods writes the rule of its resource. -/
theorem handle_rule {segment id : String} {service : Service}
    (found : Resource.ofSegments? request.target.segments = some (.rule segment))
    (decoded : Target.decodeSegment? segment = some id)
    (isMethod : request.method = "PUT" ∨ request.method = "DELETE") :
    handle now request service =
      if request.method = "PUT" then
        withBody request RuleSpec.read (updateRule now id) service
      else deleteRule id service := by
  unfold handle
  rw [found]
  rcases isMethod with isMethod | isMethod <;>
    simp [handlerOf, withParameter, decoded, isMethod, Resource.methods]

end Api

/-! ## Statuses -/

theorem StoreError.status_ge (error : StoreError) : 400 ≤ error.status := by
  cases error <;> simp [status]

namespace RuleRequest

variable {request : RuleRequest} {service : Service}

/-- The response to a request that is refused is that of its error. -/
theorem status_of_refused {error : StoreError}
    (refused : request.answer service.store = .error error) :
    (request.handler service).1.status = error.status := by
  cases request with
  | create spec now =>
    have created : service.store.create spec now = .error error := map_eq_error.mp refused
    unfold handler Api.createRule
    simp only [created]
    rfl
  | update id spec now =>
    have updated : service.store.update id spec now = .error error := refused
    unfold handler Api.updateRule
    simp only [updated]
    rfl
  | delete id =>
    have deleted : service.store.delete id = .error error := refused
    unfold handler Api.deleteRule
    simp only [deleted]
    rfl
  | toggle id now =>
    have toggled : service.store.toggle id now = .error error := refused
    unfold handler Api.toggleRule
    simp only [toggled]
    rfl

/-- The response to any other request tells of success. -/
theorem status_of_answered {change : RuleChange} {after : RuleStore}
    (answered : request.answer service.store = .ok (change, after)) :
    (request.handler service).1.status < 400 := by
  cases request with
  | create spec now =>
    obtain ⟨⟨rule, next⟩, created, -⟩ := map_eq_ok.mp answered
    unfold handler Api.createRule
    simp only [created]
    exact (by decide : 201 < 400)
  | update id spec now =>
    have updated : service.store.update id spec now = .ok (change, after) := answered
    obtain ⟨existing, changed, -, -, -, -, rfl, -⟩ := RuleStore.update_cases updated
    unfold handler Api.updateRule
    simp only [updated]
    exact (by decide : 200 < 400)
  | delete id =>
    have deleted : service.store.delete id = .ok (change, after) := answered
    unfold handler Api.deleteRule
    simp only [deleted]
    exact (by decide : 204 < 400)
  | toggle id now =>
    have toggled : service.store.toggle id now = .ok (change, after) := answered
    obtain ⟨existing, changed, -, -, rfl, -⟩ := RuleStore.toggle_cases toggled
    unfold handler Api.toggleRule
    simp only [toggled]
    exact (by decide : 200 < 400)

/-- A request that succeeds is not refused. -/
theorem answered_of_status (request : RuleRequest)
    (succeeded : (request.handler service).1.status < 400) :
    ∃ change after, request.answer service.store = .ok (change, after) := by
  cases answered : request.answer service.store with
  | error error =>
    have failed : 400 ≤ (request.handler service).1.status := by
      rw [status_of_refused answered]
      exact error.status_ge
    omega
  | ok result => exact ⟨result.1, result.2, rfl⟩

end RuleRequest

end TopicAlerts
