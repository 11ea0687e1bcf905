import TopicAlerts.Proofs.RuleChanges

/-!
# What requests do to the rules

A request is refused for the first of its faults that applies, and then nothing changes
(`RuleRequest.faults`). Otherwise it writes one rule, and no other rule changes
(`RuleRequest.Effect`). `RuleRequest.answer_outcome` says so for all stores that are made from an
empty one.

In these stores every rule is found under its own id, no two rules have the same name and topic,
and all of them can work (`RuleStore.run_consistent`). One write after the other keeps that:
`RuleStore.Consistent` is the invariant, and `RuleStore.Consistent.after` its step lemma.
-/

namespace TopicAlerts

/-! ## Faults -/

/-- What may be wrong with a rule that is written, in the order in which it is looked for. -/
def RuleSpec.faults (spec : RuleSpec) : List (Fault StoreError) := [
  ⟨∀ c ∈ spec.name.toList, Text.isBlank c = true, .missingName⟩,
  ⟨Topic.isValid spec.topic = false, .invalidTopic spec.topic⟩,
  ⟨spec.expression.problems ≠ [],
    .invalidRule (spec.expression.problems.map Problem.message)⟩,
  ⟨spec.actions = [], .noActions⟩]

namespace RuleRequest

/-- What a request may be refused for, in the order in which it is looked for. -/
def faults (store : RuleStore) : RuleRequest → List (Fault StoreError)
  | .create spec _ => spec.faults ++
    [⟨∃ other ∈ store.rules, other.name = spec.name ∧ other.topic = spec.topic,
      .duplicate spec.name spec.topic⟩]
  | .update id spec _ => spec.faults ++
    [⟨store.get? id = none, .notFound id⟩,
      ⟨∃ other ∈ store.rules, other.id ≠ id ∧ other.name = spec.name ∧ other.topic = spec.topic,
        .duplicate spec.name spec.topic⟩]
  | .delete id => [⟨store.get? id = none, .notFound id⟩]
  | .toggle id _ => [⟨store.get? id = none, .notFound id⟩]

/-- What a request makes of a store, and how the rule that it is about changes. -/
def answer (store : RuleStore) : RuleRequest → Except StoreError (RuleChange × RuleStore)
  | .create spec now => (store.create spec now).map fun (rule, after) => (⟨none, some rule⟩, after)
  | .update id spec now => store.update id spec now
  | .delete id => store.delete id
  | .toggle id now => store.toggle id now

end RuleRequest

namespace RuleStore

variable {store : RuleStore} {id : String} {spec : RuleSpec} {error : StoreError} {rule : Rule}

theorem isWorkable_iff : spec.IsWorkable ↔ ∀ fault ∈ spec.faults, ¬fault.Applies := by
  have named : (¬∀ c ∈ spec.name.toList, Text.isBlank c = true) ↔
      ∃ c ∈ spec.name.toList, Text.isBlank c = false := by simp
  constructor
  · intro workable
    simp only [RuleSpec.faults, List.forall_mem_cons]
    refine ⟨named.mpr workable.named, ?_, ?_, workable.acts, by simp⟩
    · simp [workable.topic]
    · simp [workable.sound]
  · intro passes
    simp only [RuleSpec.faults, List.forall_mem_cons] at passes
    obtain ⟨isNamed, valid, sound, acts, -⟩ := passes
    exact ⟨named.mp isNamed, by simpa using valid, not_not.mp sound, acts⟩

/-- A rule is refused for the first thing that is wrong with it. -/
theorem validate_eq_error_iff : validate spec = .error error ↔ FirstFault spec.faults error := by
  have named : Text.isBlankText spec.name = true ↔
      ∀ c ∈ spec.name.toList, Text.isBlank c = true := List.all_eq_true
  have valid : (!Topic.isValid spec.topic) = true ↔ Topic.isValid spec.topic = false := by simp
  have sound : (!spec.expression.isValid) = true ↔ spec.expression.problems ≠ [] := by
    simp [Expression.isValid]
  have acts : spec.actions.isEmpty = true ↔ spec.actions = [] := List.isEmpty_iff
  exact ite_eq_error_iff named (ite_eq_error_iff valid (ite_eq_error_iff sound
    (ite_eq_error_iff acts (ok_eq_error_iff _))))

theorem get_refused_iff :
    store.get id = .error error ↔ FirstFault [⟨store.get? id = none, .notFound id⟩] error := by
  rw [get_eq_error_iff, firstFault_singleton_iff]

theorem ensureUnique_eq_error_iff {except : Option String} {Clash : Prop}
    (tells : (∃ other ∈ store.rules, some other.id ≠ except ∧ other.name = spec.name ∧
      other.topic = spec.topic) ↔ Clash) :
    store.ensureUnique spec except = .error error ↔
      FirstFault [⟨Clash, .duplicate spec.name spec.topic⟩] error := by
  have clash : (store.rules.any fun other =>
      other.name == spec.name && other.topic == spec.topic && some other.id != except) = true ↔
        Clash := by
    rw [← tells]
    simp [List.any_eq_true, and_comm, and_assoc]
  exact ite_eq_error_iff clash (ok_eq_error_iff _)

end RuleStore

namespace RuleRequest

variable {store after : RuleStore} {request : RuleRequest} {error : StoreError}
  {change : RuleChange}

/-- A request is refused exactly for the first of its faults that applies. -/
theorem answer_eq_error_iff :
    request.answer store = .error error ↔ FirstFault (request.faults store) error := by
  cases request with
  | create spec now =>
    have clash : (∃ other ∈ store.rules, some other.id ≠ none ∧ other.name = spec.name ∧
        other.topic = spec.topic) ↔
          ∃ other ∈ store.rules, other.name = spec.name ∧ other.topic = spec.topic := by simp
    have created : store.create spec now = .error error ↔
        FirstFault (faults store (.create spec now)) error :=
      bind_eq_error_iff (fun _ => RuleStore.validate_eq_error_iff) fun _ _ =>
        bind_eq_error_iff (fun _ => RuleStore.ensureUnique_eq_error_iff clash) fun _ _ =>
          ok_eq_error_iff _
    rw [← created]
    exact map_eq_error
  | update id spec now =>
    have clash : (∃ other ∈ store.rules, some other.id ≠ some id ∧ other.name = spec.name ∧
        other.topic = spec.topic) ↔ ∃ other ∈ store.rules, other.id ≠ id ∧
          other.name = spec.name ∧ other.topic = spec.topic := by simp
    have unknown : ∀ error, store.get id = .error error ↔
        FirstFault [⟨store.get? id = none, .notFound id⟩] error :=
      fun _ => RuleStore.get_refused_iff
    exact bind_eq_error_iff (fun _ => RuleStore.validate_eq_error_iff) fun _ _ =>
      bind_eq_error_iff unknown fun _ _ =>
        bind_eq_error_iff (fun _ => RuleStore.ensureUnique_eq_error_iff clash) fun _ _ =>
          ok_eq_error_iff _
  | delete id =>
    exact bind_eq_error_iff (fun _ => RuleStore.get_refused_iff) fun _ _ => ok_eq_error_iff _
  | toggle id now =>
    exact bind_eq_error_iff (fun _ => RuleStore.get_refused_iff) fun _ _ => ok_eq_error_iff _

end RuleRequest

/-! ## Effects -/

namespace RuleStore

variable {store : RuleStore} {id other : String} {rule existing : Rule}

theorem get?_eq_some_iff (keyed : store.Keyed) :
    store.get? id = some rule ↔ rule ∈ store.rules ∧ rule.id = id := by
  constructor
  · exact mem_of_get?
  · rintro ⟨inside, rfl⟩
    cases found : store.get? rule.id with
    | none =>
      have differs := List.find?_eq_none.mp found rule inside
      simp at differs
    | some first =>
      obtain ⟨also, same⟩ := mem_of_get? found
      rw [keyed.eq_of_id_eq also inside same]

theorem get?_eq_none_iff : store.get? id = none ↔ ∀ other ∈ store.rules, other.id ≠ id := by
  simp [get?]

/-- An id that was not given yet is not that of a rule in the store. -/
theorem WellFormed.get?_fresh (wellFormed : store.WellFormed) (fresh : ¬store.ids.HasGiven id) :
    store.get? id = none := by
  rw [get?_eq_none_iff]
  rintro other inside rfl
  exact fresh (wellFormed.given other inside)

theorem get?_append (absent : store.get? rule.id = none) (ids : IdSource) :
    get? ⟨store.rules ++ [rule], ids⟩ other =
      if other = rule.id then some rule else store.get? other := by
  have atEnd : get? ⟨store.rules ++ [rule], ids⟩ other =
      (store.get? other).or ([rule].find? (·.id == other)) := List.find?_append
  rw [atEnd]
  split_ifs with same
  · rw [same, absent]
    simp
  · have differs : rule.id ≠ other := Ne.symm same
    simp [differs]

theorem get?_replace (found : store.get? rule.id = some existing) :
    (store.replace rule).get? other = if other = rule.id then some rule else store.get? other := by
  have kept : ((fun r : Rule => r.id == other) ∘ fun old : Rule =>
      if old.id == rule.id then rule else old) = fun r => r.id == other := by
    funext old
    by_cases same : old.id = rule.id <;> simp [same]
  have mapped : (store.replace rule).get? other =
      (store.get? other).map fun old => if old.id == rule.id then rule else old := by
    unfold get? replace
    rw [List.find?_map, kept]
  rw [mapped]
  split_ifs with same
  · rw [same, found]
    simp [(mem_of_get? found).2]
  · cases here : store.get? other with
    | none => rfl
    | some old =>
      have differs : old.id ≠ rule.id := by
        rw [(mem_of_get? here).2]
        exact same
      simp [differs]

theorem get?_filter (ids : IdSource) :
    get? ⟨store.rules.filter (·.id != id), ids⟩ other =
      if other = id then none else store.get? other := by
  unfold get?
  rw [List.find?_filter]
  split_ifs with same
  · subst same
    simp
  · congr 1
    funext rule
    by_cases equal : rule.id = other
    · simp [equal, same]
    · simp [equal]

end RuleStore

namespace RuleRequest

/-- What a request writes: how the rule with this id changes, in a store with this source of ids. -/
inductive Writes (ids : IdSource) : RuleRequest → String → Option Rule → Option Rule → Prop
  /-- A new rule gets an id that was not given before. -/
  | create {spec : RuleSpec} {now : Int64} (rule : Rule) (fresh : ¬ids.HasGiven rule.id)
      (wrote : rule.toRuleSpec = spec) (createdAt : rule.createdAt = now)
      (updatedAt : rule.updatedAt = now) : Writes ids (.create spec now) rule.id none (some rule)
  /-- A rule that is changed keeps its id and the time of its creation. -/
  | update {spec : RuleSpec} {now : Int64} {existing rule : Rule} (sameId : rule.id = existing.id)
      (wrote : rule.toRuleSpec = spec) (createdAt : rule.createdAt = existing.createdAt)
      (updatedAt : rule.updatedAt = now) :
      Writes ids (.update existing.id spec now) existing.id (some existing) (some rule)
  /-- A rule that is deleted is gone. -/
  | delete {existing : Rule} : Writes ids (.delete existing.id) existing.id (some existing) none
  /-- A rule that was in force is so no longer, and the other way round. -/
  | toggle {now : Int64} {existing : Rule} : Writes ids (.toggle existing.id now) existing.id
      (some existing) (some { existing with enabled := !existing.enabled, updatedAt := now })

/-- A request has written the rule with this id, and answered with the change of that rule. -/
structure Effect (store : RuleStore) (request : RuleRequest) (change : RuleChange)
    (after : RuleStore) (id : String) : Prop where
  /-- The change starts from the rule that there was. -/
  was : change.before = store.get? id
  /-- The change leads to the rule that there is now. -/
  became : change.after = after.get? id
  /-- No other rule changes. -/
  others : ∀ other, other ≠ id → after.get? other = store.get? other
  /-- The rule changes as it was asked for. -/
  writes : request.Writes store.ids id change.before change.after

variable {store after : RuleStore} {request : RuleRequest} {change : RuleChange}

/-- The rule with an id was set, or removed. -/
theorem Effect.of_set {id : String} (before : change.before = store.get? id)
    (set : ∀ other, after.get? other = if other = id then change.after else store.get? other)
    (writes : request.Writes store.ids id change.before change.after) :
    request.Effect store change after id where
  was := before
  became := by rw [set, if_pos rfl]
  others other differs := by rw [set, if_neg differs]
  writes := writes

/-- A request that is not refused writes one rule. -/
theorem exists_effect (wellFormed : store.WellFormed)
    (answered : request.answer store = .ok (change, after)) :
    ∃ id, request.Effect store change after id := by
  cases request with
  | create spec now =>
    obtain ⟨⟨rule, next⟩, created, equal⟩ := map_eq_ok.mp answered
    cases equal
    obtain ⟨-, -, rfl, rfl⟩ := RuleStore.create_cases created
    have fresh := store.ids.not_hasGiven_next
    have absent := wellFormed.get?_fresh fresh
    have writes := Writes.create (spec.toRule store.ids.next now) fresh rfl rfl rfl
    exact ⟨_, .of_set absent.symm (fun _ => RuleStore.get?_append absent _) writes⟩
  | update id spec now =>
    obtain ⟨existing, changed, -, found, -, isChanged, rfl, rfl⟩ := RuleStore.update_cases answered
    obtain ⟨-, rfl⟩ := RuleStore.mem_of_get? found
    have sameId : changed.id = existing.id := by rw [isChanged]; rfl
    refine ⟨existing.id, .of_set found.symm (fun other => ?_) ?_⟩
    · rw [← sameId] at found ⊢
      exact RuleStore.get?_replace found
    · exact .update sameId (by rw [isChanged]; rfl) (by rw [isChanged]) (by rw [isChanged]; rfl)
  | delete id =>
    obtain ⟨existing, found, rfl, rfl⟩ := RuleStore.delete_cases answered
    obtain ⟨-, rfl⟩ := RuleStore.mem_of_get? found
    exact ⟨existing.id, .of_set found.symm (fun _ => RuleStore.get?_filter _) .delete⟩
  | toggle id now =>
    obtain ⟨existing, changed, found, rfl, rfl, rfl⟩ := RuleStore.toggle_cases answered
    obtain ⟨-, rfl⟩ := RuleStore.mem_of_get? found
    exact ⟨existing.id, .of_set found.symm (fun _ => RuleStore.get?_replace found) .toggle⟩

/-! ## Handlers -/

theorem mutate_eq (request : RuleRequest) (store : RuleStore) :
    request.mutate store = (request.answer store).map fun (change, after) =>
      (change.hints, after) := by
  cases request with
  | create spec now =>
    unfold mutate answer
    dsimp only
    cases store.create spec now with
    | error error => rfl
    | ok result =>
      obtain ⟨rule, after⟩ := result
      cases enabled : rule.enabled <;>
        simp [Except.map, RuleChange.hints, RuleChange.topicAdded, RuleChange.topicRemoved,
          Option.filter, enabled]
  | update id spec now => rfl
  | delete id => rfl
  | toggle id now => rfl

/-- The handler of a request that is refused leaves the whole service as it is. -/
theorem handler_of_refused {service : Service} {error : StoreError}
    (refused : request.answer service.store = .error error) :
    (request.handler service).2 = service := by
  have unchanged : request.mutate service.store = .error error := by
    rw [mutate_eq, refused]
    rfl
  exact handler_of_error unchanged

theorem mutate_of_answered (answered : request.answer store = .ok (change, after)) :
    request.mutate store = .ok (change.hints, after) := by
  rw [mutate_eq, answered]
  rfl

/-- The handler of any other request stores what the request makes of the rules. -/
theorem handler_of_answered {service : Service}
    (answered : request.answer service.store = .ok (change, after)) :
    (request.handler service).2.store = after :=
  (handler_of_ok (mutate_of_answered answered)).1

theorem wellFormed_of_answered (wellFormed : store.WellFormed)
    (answered : request.answer store = .ok (change, after)) : after.WellFormed :=
  (mutate_cases wellFormed (mutate_of_answered answered)).1

end RuleRequest

/-! ## Runs -/

namespace RuleStore

/-- What writes to a store. -/
inductive Write
  /-- A request, which may be refused. -/
  | request (request : RuleRequest)
  /-- The creation of those of some rules that can be created, one after the other, each at a time
  of its own. -/
  | seed (entries : List (RuleSpec × Int64))

/-- The store after it was written to. -/
def after (store : RuleStore) : Write → RuleStore
  | .request request =>
    match request.answer store with
    | .ok (_, after) => after
    | .error _ => store
  | .seed entries => (store.seed entries).2

/-- The store after it was written to some times. -/
def run (store : RuleStore) (writes : List Write) : RuleStore := writes.foldl after store

/-- What holds of every store that is made from an empty one, whatever was written to it. -/
structure Consistent (store : RuleStore) : Prop extends store.WellFormed where
  /-- No two rules have the same name and topic. -/
  pairs : (store.rules.map (·.pair)).Nodup
  /-- All rules can work. -/
  workable : ∀ rule ∈ store.rules, rule.IsWorkable

variable {store next : RuleStore} {id : String} {spec : RuleSpec} {now : Int64} {rule : Rule}
  {change : RuleChange}

/-- A rule that is created goes to the end of the store. -/
theorem after_create (workable : spec.IsWorkable)
    (unique : ∀ other ∈ store.rules, other.pair ≠ spec.pair) (now : Int64) :
    store.after (.request (.create spec now)) =
      ⟨store.rules ++ [spec.toRule store.ids.next now], store.ids.advance⟩ := by
  simp only [after, RuleRequest.answer, create_eq_ok workable unique]
  rfl

theorem consistent_empty (ids : IdSource) : (empty ids).Consistent where
  toWellFormed := wellFormed_empty ids
  pairs := List.nodup_nil
  workable rule inside := by cases inside

theorem Consistent.create (consistent : store.Consistent)
    (created : store.create spec now = .ok (rule, next)) : next.Consistent := by
  have wellFormed := consistent.toWellFormed.create created
  obtain ⟨workable, unique, rfl, rfl⟩ := create_cases created
  refine ⟨wellFormed, ?_, ?_⟩
  · rw [List.map_append, List.map_singleton, List.nodup_append]
    refine ⟨consistent.pairs, List.nodup_singleton _, ?_⟩
    intro pair inside new isNew same
    obtain ⟨other, stored, rfl⟩ := List.mem_map.mp inside
    rw [List.mem_singleton.mp isNew] at same
    exact unique other stored same
  · intro other inside
    rcases List.mem_append.mp inside with old | new
    · exact consistent.workable other old
    · rw [List.mem_singleton.mp new]
      exact workable

/-- A rule may be replaced by one that can work, with the same id and with a name and a topic that
no other rule has. -/
theorem Consistent.replace (consistent : store.Consistent) {existing : Rule}
    (stored : existing ∈ store.rules) (sameId : rule.id = existing.id) (workable : rule.IsWorkable)
    (unique : ∀ other ∈ store.rules, other.id ≠ rule.id → other.pair ≠ rule.pair) :
    (store.replace rule).Consistent := by
  refine ⟨consistent.toWellFormed.replace stored sameId workable.topic, ?_, ?_⟩
  · -- Two rules in different places have different ids, so at most one of them was replaced.
    have ids : store.rules.Pairwise fun a b => a.id ≠ b.id := List.pairwise_map.mp consistent.keyed
    have pairs : store.rules.Pairwise fun a b => a.pair ≠ b.pair :=
      List.pairwise_map.mp consistent.pairs
    have both : store.rules.Pairwise fun a b => a.id ≠ b.id ∧ a.pair ≠ b.pair := ids.and pairs
    unfold RuleStore.replace
    rw [List.map_map, List.Nodup, List.pairwise_map]
    refine both.imp_of_mem ?_
    rintro a b insideA insideB ⟨differ, pairs⟩
    by_cases isA : a.id = rule.id
    · have notB : b.id ≠ rule.id := fun isB => differ (isA.trans isB.symm)
      simpa [isA, notB] using (unique b insideB notB).symm
    · by_cases isB : b.id = rule.id
      · simpa [isA, isB] using unique a insideA isA
      · simpa [isA, isB] using pairs
  · intro other inside
    obtain ⟨old, found, rfl⟩ := List.mem_map.mp inside
    split_ifs
    · exact workable
    · exact consistent.workable old found

theorem Consistent.update (consistent : store.Consistent)
    (updated : store.update id spec now = .ok (change, next)) : next.Consistent := by
  obtain ⟨existing, changed, workable, found, unique, isChanged, -, rfl⟩ := update_cases updated
  obtain ⟨stored, rfl⟩ := mem_of_get? found
  have sameId : changed.id = existing.id := by rw [isChanged]; rfl
  have wrote : changed.toRuleSpec = spec := by rw [isChanged]; rfl
  refine consistent.replace stored sameId (wrote ▸ workable) fun other inside differs => ?_
  rw [wrote]
  exact unique other inside (sameId ▸ differs)

theorem Consistent.delete (consistent : store.Consistent)
    (deleted : store.delete id = .ok (change, next)) : next.Consistent := by
  have wellFormed := consistent.toWellFormed.delete deleted
  obtain ⟨existing, -, -, rfl⟩ := delete_cases deleted
  exact ⟨wellFormed, consistent.pairs.sublist (List.filter_sublist.map _),
    fun rule inside => consistent.workable rule (List.mem_filter.mp inside).1⟩

/-- A rule that is put in force or out of it keeps its name and its topic. -/
theorem Consistent.toggle (consistent : store.Consistent)
    (toggled : store.toggle id now = .ok (change, next)) : next.Consistent := by
  obtain ⟨existing, changed, found, rfl, -, rfl⟩ := toggle_cases toggled
  obtain ⟨stored, -⟩ := mem_of_get? found
  obtain ⟨named, topic, sound, acts⟩ := consistent.workable existing stored
  refine consistent.replace stored rfl ⟨named, topic, sound, acts⟩ fun other inside differs => ?_
  intro same
  obtain rfl := List.inj_on_of_nodup_map consistent.pairs inside stored same
  exact differs rfl

theorem Consistent.answer (consistent : store.Consistent) {request : RuleRequest}
    (answered : request.answer store = .ok (change, next)) : next.Consistent := by
  cases request with
  | create spec now =>
    obtain ⟨⟨rule, after⟩, created, equal⟩ := map_eq_ok.mp answered
    cases equal
    exact consistent.create created
  | update id spec now => exact consistent.update answered
  | delete id => exact consistent.delete answered
  | toggle id now => exact consistent.toggle answered

theorem Consistent.seed (consistent : store.Consistent) (entries : List (RuleSpec × Int64)) :
    (store.seed entries).2.Consistent :=
  seed_induction (fun before created => before.create created) consistent entries

/-- Whatever is written, a store stays consistent. -/
theorem Consistent.after (consistent : store.Consistent) (write : Write) :
    (store.after write).Consistent := by
  cases write with
  | request request =>
    unfold RuleStore.after
    dsimp only
    split
    next answered => exact consistent.answer answered
    next => exact consistent
  | seed entries => exact consistent.seed entries

theorem Consistent.run (consistent : store.Consistent) (writes : List Write) :
    (store.run writes).Consistent := by
  induction writes generalizing store with
  | nil => exact consistent
  | cons write rest ih => exact ih (consistent.after write)

/-- Whatever was written to an empty store: every rule is found under its own id, no two rules have
the same name and topic, and every rule can work. -/
theorem run_consistent (ids : IdSource) (writes : List Write) :
    (∀ id rule, ((empty ids).run writes).get? id = some rule ↔
        rule ∈ ((empty ids).run writes).rules ∧ rule.id = id) ∧
      (((empty ids).run writes).rules.map fun rule => (rule.name, rule.topic)).Nodup ∧
      ∀ rule ∈ ((empty ids).run writes).rules, rule.IsWorkable := by
  have consistent := (consistent_empty ids).run writes
  refine ⟨fun id rule => ?_, consistent.pairs, consistent.workable⟩
  exact get?_eq_some_iff consistent.keyed

end RuleStore

/-- Whatever was written to a store before: a request is refused exactly for the first of its faults
that applies, and then the service stays as it is. Otherwise it writes one rule and answers with the
change of that rule, and the service stores what the request has made of the rules. -/
theorem RuleRequest.answer_outcome (ids : IdSource) (writes : List RuleStore.Write)
    (request : RuleRequest) (service : Service)
    (made : service.store = (RuleStore.empty ids).run writes) :
    (∀ error, request.answer service.store = .error error ↔
        FirstFault (request.faults service.store) error) ∧
      (∀ error, request.answer service.store = .error error →
        (request.handler service).2 = service) ∧
      ∀ change after, request.answer service.store = .ok (change, after) →
        (request.handler service).2.store = after ∧
          ∃ id, request.Effect service.store change after id := by
  have wellFormed : service.store.WellFormed :=
    made ▸ ((RuleStore.consistent_empty ids).run writes).toWellFormed
  refine ⟨fun error => answer_eq_error_iff, fun error refused => handler_of_refused refused, ?_⟩
  intro change after answered
  exact ⟨handler_of_answered answered, exists_effect wellFormed answered⟩

/-- A service with one rule in its store. -/
def serviceWithRule : Service :=
  { Service.new Service.patientSettings with
    store := (RuleStore.empty .numbered).run [.request (.create Pipeline.loadRule 0)] }

/-- A rule without an action is refused for that, although there is no rule with the id either. -/
theorem answer_update_idle :
    let request := RuleRequest.update "unknown" { Pipeline.loadRule with actions := [] } 1
    request.answer serviceWithRule.store = .error .noActions ∧
      (request.handler serviceWithRule).2 = serviceWithRule := by
  intro request
  obtain ⟨refusal, unchanged, -⟩ := RuleRequest.answer_outcome .numbered
    [.request (.create Pipeline.loadRule 0)] request serviceWithRule rfl
  have passes := RuleStore.isWorkable_iff.mp Pipeline.isWorkable_loadRule
  simp only [RuleSpec.faults, List.forall_mem_cons] at passes
  obtain ⟨named, valid, sound, -⟩ := passes
  have refused := (refusal .noActions).mpr (.later named (.later valid (.later sound (.here rfl))))
  exact ⟨refused, unchanged .noActions refused⟩

end TopicAlerts
