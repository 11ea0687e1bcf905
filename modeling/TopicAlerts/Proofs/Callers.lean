import TopicAlerts.Proofs.Calm

/-!
# Who holds locks

The locks of topics and the turns to reconcile belong to operations in progress: an operation that
holds the lock of a topic or waits for it works on this topic, and one that has a turn or waits for
one reconciles. `Service.Accounted` says so, and every event keeps it (`Service.run_accounted`).

So when all operations are done, no lock is held. A run that has settled then leaves the manager
idle (`Service.run_idle`).
-/

namespace TopicAlerts

/-- The topic of the first of some jobs. -/
def Job.topicOf? (jobs : List Job) : Option String := jobs.head?.map Job.topic

/-- The topic that an operation works on. -/
def Operation.topic? : Operation → Option String
  | .working _ _ jobs _ => Job.topicOf? jobs
  | _ => none

/-- Whether an operation reconciles or waits for its turn to do so. -/
def Operation.reconciles : Operation → Bool
  | .waiting _ => true
  | .working reconciling _ _ _ => reconciling
  | .done _ => false

namespace Manager

variable {manager before between after : Manager} {topic t : String} {still : Option String}
  {now caller c deadline : Nat}

/-- The operation holds the lock of the topic or waits for it. -/
def Queued (manager : Manager) (topic : String) (caller : Nat) : Prop :=
  ∃ queue, (topic, queue) ∈ manager.locks ∧ caller ∈ queue

/-- Other operations are in no further queues than before, and the caller at most in that of the
topic that it works on. -/
def KeepsQueues (caller : Nat) (still : Option String) (before after : Manager) : Prop :=
  ∀ t c, after.Queued t c → c ≠ caller ∧ before.Queued t c ∨ c = caller ∧ still = some t

/-! ## Queues -/

theorem Queued.of_subset (queued : after.Queued t c) (subset : after.locks ⊆ before.locks) :
    before.Queued t c := by
  obtain ⟨queue, inside, waits⟩ := queued
  exact ⟨queue, subset inside, waits⟩

theorem queued_enter (queued : (manager.enter topic caller).Queued t c) :
    manager.Queued t c ∨ t = topic ∧ c = caller := by
  have entered : ∀ (locks : List (String × List Nat)) (queue : List Nat),
      (t, queue) ∈ enterIn topic caller locks → c ∈ queue →
        (∃ queue, (t, queue) ∈ locks ∧ c ∈ queue) ∨ t = topic ∧ c = caller := by
    intro locks
    induction locks with
    | nil =>
      intro queue inside waits
      cases List.mem_singleton.mp inside
      exact .inr ⟨rfl, List.mem_singleton.mp waits⟩
    | cons lock rest ih =>
      obtain ⟨key, first⟩ := lock
      intro queue inside waits
      have laterOrOwn (later : (t, queue) ∈ rest) :
          (∃ queue, (t, queue) ∈ (key, first) :: rest ∧ c ∈ queue) ∨ t = topic ∧ c = caller :=
        .inl ⟨queue, List.mem_cons_of_mem _ later, waits⟩
      unfold enterIn at inside
      split_ifs at inside with same isIn
      · rcases List.mem_cons.mp inside with own | later
        · cases own
          exact .inl ⟨first, List.mem_cons_self, waits⟩
        · exact laterOrOwn later
      · rcases List.mem_cons.mp inside with own | later
        · cases own
          rcases List.mem_append.mp waits with old | new
          · exact .inl ⟨first, List.mem_cons_self, old⟩
          · exact .inr ⟨same, List.mem_singleton.mp new⟩
        · exact laterOrOwn later
      · rcases List.mem_cons.mp inside with own | later
        · cases own
          exact .inl ⟨first, List.mem_cons_self, waits⟩
        · rcases ih queue later waits with ⟨other, found, waitsThere⟩ | new
          · exact .inl ⟨other, List.mem_cons_of_mem _ found, waitsThere⟩
          · exact .inr new
  obtain ⟨queue, inside, waits⟩ := queued
  exact entered manager.locks queue inside waits

theorem queued_leave (queued : (manager.leave topic caller).Queued t c) :
    manager.Queued t c ∧ ¬(t = topic ∧ c = caller) := by
  obtain ⟨queue, inside, waits⟩ := queued
  obtain ⟨⟨key, full⟩, found, same⟩ := List.mem_map.mp inside
  cases same
  split_ifs at waits with own
  · obtain ⟨isIn, differs⟩ := List.mem_filter.mp waits
    exact ⟨⟨full, found, isIn⟩, fun both => by simp [both.2] at differs⟩
  · exact ⟨⟨full, found, waits⟩, fun both => own both.1⟩

theorem KeepsQueues.of_subset (keeps : KeepsQueues caller still before between)
    (subset : after.locks ⊆ between.locks) : KeepsQueues caller still before after :=
  fun t c queued => keeps t c (queued.of_subset subset)

theorem KeepsQueues.leave (keeps : KeepsQueues caller (some topic) before between) :
    KeepsQueues caller none before (between.leave topic caller) := by
  intro t c queued
  obtain ⟨was, notOwn⟩ := queued_leave queued
  rcases keeps t c was with other | ⟨own, same⟩
  · exact .inl other
  · cases same
    exact absurd ⟨rfl, own⟩ notOwn

theorem KeepsQueues.release (keeps : KeepsQueues caller (some topic) before between) :
    KeepsQueues caller none before (between.release topic caller) :=
  keeps.leave.of_subset fun _ inside => (List.mem_filter.mp inside).1

/-! ## Jobs -/

/-- The topic whose lock is still held or waited for after this progress on it. -/
def Progress.held (topic : String) : Progress → Option String
  | .finished _ => none
  | .blocked _ => some topic

theorem KeepsQueues.awaitStop (keeps : KeepsQueues caller (some topic) before between) :
    KeepsQueues caller ((between.awaitStop now topic caller deadline).1.held topic) before
      (between.awaitStop now topic caller deadline).2 := by
  have finished (m : Manager) (locks : m.locks = between.locks) :
      KeepsQueues caller none before (m.finishUnsubscribe topic caller).2 := by
    have removed : KeepsQueues caller (some topic) before (m.removeWorker topic).publishGauge :=
      keeps.of_subset fun lock inside => locks ▸ inside
    exact removed.release
  unfold Manager.awaitStop
  split
  next => exact finished between rfl
  next worker found =>
    split_ifs
    · exact finished between rfl
    · exact keeps
    · exact finished (between.abort worker) rfl

/-- A caller that is in no queue but that of the topic of a job leaves it when the job is done. -/
theorem keepsQueues_advanceJob (job : Job) (phase : Job.Phase)
    (own : ∀ t, manager.Queued t caller → t = job.topic) :
    KeepsQueues caller ((manager.advanceJob now caller job phase).1.held job.topic) manager
      (manager.advanceJob now caller job phase).2 := by
  -- the caller may be in the queue of this topic already, waiting for the lock or holding it
  have before : KeepsQueues caller (some job.topic) manager manager := by
    intro t c queued
    by_cases isCaller : c = caller
    · subst isCaller
      exact .inr ⟨rfl, congrArg some (own t queued).symm⟩
    · exact .inl ⟨isCaller, queued⟩
  cases phase with
  | stopping deadline => exact before.awaitStop
  | queued =>
    have entered :
        KeepsQueues caller (some job.topic) manager (manager.enter job.topic caller) := by
      intro t c queued
      rcases queued_enter queued with was | ⟨rfl, rfl⟩
      · exact before t c was
      · exact .inr ⟨rfl, rfl⟩
    unfold advanceJob
    dsimp only
    split_ifs with blocked
    · exact entered
    cases job with
    | subscribe topic =>
      dsimp only [Job.topic]
      have locks : ((manager.enter topic caller).subscribeHeld topic).2.locks =
          (manager.enter topic caller).locks := by
        rcases (manager.enter topic caller).subscribeHeld_cases topic with
          ⟨-, held⟩ | ⟨-, ⟨-, held⟩ | ⟨-, -, held⟩ | ⟨-, -, held⟩⟩ <;> rw [held] <;> rfl
      have kept : KeepsQueues caller (some topic) manager
          ((manager.enter topic caller).subscribeHeld topic).2 :=
        entered.of_subset fun lock inside => locks ▸ inside
      generalize (manager.enter topic caller).subscribeHeld topic = result at kept ⊢
      rcases result with ⟨_ | _, after⟩
      · exact kept.release
      · exact kept.leave
    | unsubscribe topic =>
      dsimp only [Job.topic]
      split
      · exact entered.release
      next worker found =>
        have asked : KeepsQueues caller (some topic) manager
            ((manager.enter topic caller).requestStop worker) :=
          entered.of_subset (List.Subset.refl _)
        exact asked.awaitStop

theorem keepsQueues_advanceJobs (phase : Job.Phase) (jobs : List Job) (report : ReconcileReport)
    (own : ∀ t, manager.Queued t caller → Job.topicOf? jobs = some t) :
    KeepsQueues caller
      (((advanceJobs now caller phase jobs report manager).1.map (·.2)).bind Job.topicOf?) manager
      (advanceJobs now caller phase jobs report manager).2.2 := by
  induction jobs generalizing phase report manager with
  | nil =>
    intro t c queued
    by_cases isCaller : c = caller
    · subst isCaller
      cases own t queued
    · exact .inl ⟨isCaller, queued⟩
  | cons job rest ih =>
    have advanced := @keepsQueues_advanceJob manager now caller job phase fun t queued =>
      (Option.some.inj (own t queued)).symm
    unfold advanceJobs
    generalize manager.advanceJob now caller job phase = result at advanced ⊢
    rcases result with ⟨result | _, next⟩
    · -- the caller is in no queue now, which is what the remaining jobs need
      have gone : ∀ t, ¬next.Queued t caller := by
        intro t queued
        rcases advanced t caller queued with ⟨differs, -⟩ | ⟨-, none⟩
        · exact differs rfl
        · cases none
      intro t c queued
      rcases ih .queued (report.note job result) (fun t queued => absurd queued (gone t)) t c queued
        with ⟨differs, was⟩ | own
      · rcases advanced t c was with other | ⟨isCaller, -⟩
        · exact .inl other
        · exact absurd isCaller differs
      · exact .inr own
    · exact advanced

/-! ## Operations -/

/-- A caller that is in no queue stays so where no lock is asked for. -/
theorem keepsQueues_of_not_queued (gone : ∀ t, ¬before.Queued t caller)
    (subset : after.locks ⊆ before.locks) : KeepsQueues caller still before after := by
  intro t c queued
  have was := queued.of_subset subset
  refine .inl ⟨?_, was⟩
  rintro rfl
  exact gone t was

theorem keepsQueues_work (reconciling : Bool) (phase : Job.Phase) (jobs : List Job)
    (report : ReconcileReport) (own : ∀ t, manager.Queued t caller → Job.topicOf? jobs = some t) :
    KeepsQueues caller (work now caller reconciling phase jobs report manager).1.topic? manager
      (work now caller reconciling phase jobs report manager).2 := by
  have advanced := @keepsQueues_advanceJobs manager now caller phase jobs report own
  unfold work
  generalize advanceJobs now caller phase jobs report manager = result at advanced ⊢
  rcases result with ⟨_ | ⟨blocked, left⟩, noted, after⟩
  · cases reconciling
    · exact advanced
    · exact advanced.of_subset (List.Subset.refl _)
  · exact advanced

/-- Operations enter no queue but that of the topic they work on, and leave it when they go on to
another one. -/
theorem keepsQueues_advance (operation : Operation)
    (own : ∀ t, manager.Queued t caller → operation.topic? = some t) :
    KeepsQueues caller (advance now caller operation manager).1.topic? manager
      (advance now caller operation manager).2 := by
  cases operation with
  | done report =>
    refine keepsQueues_of_not_queued (fun t queued => ?_) (List.Subset.refl _)
    cases own t queued
  | working reconciling phase jobs report =>
    exact keepsQueues_work reconciling phase jobs report own
  | waiting required =>
    have gone : ∀ t, ¬manager.Queued t caller := by
      intro t queued
      cases own t queued
    unfold advance
    dsimp only
    generalize (if manager.turns.contains caller then manager.turns
      else manager.turns ++ [caller]) = turns
    split_ifs with blocked
    · exact keepsQueues_of_not_queued gone (List.Subset.refl _)
    · obtain ⟨locks, gauge, subset, pruned⟩ := prune_eq { manager with turns }
      have fewer : ({ manager with turns } : Manager).prune.locks ⊆ manager.locks := by
        rw [pruned]
        exact subset
      have kept := @keepsQueues_work ({ manager with turns } : Manager).prune now caller true
        .queued (({ manager with turns } : Manager).prune.difference required) {} fun t queued =>
          absurd (queued.of_subset fewer) (gone t)
      intro t c queued
      rcases kept t c queued with ⟨differs, was⟩ | own
      · exact .inl ⟨differs, was.of_subset fewer⟩
      · exact .inr own

theorem turns_work (reconciling : Bool) (phase : Job.Phase) (jobs : List Job)
    (report : ReconcileReport) (own : caller ∈ manager.turns → reconciling = true) :
    ∀ c ∈ (work now caller reconciling phase jobs report manager).2.turns,
      c ≠ caller ∧ c ∈ manager.turns ∨ c = caller ∧
        (work now caller reconciling phase jobs report manager).1.reconciles = true := by
  have turns := @advanceJobs_turns manager now caller phase jobs report
  unfold work
  generalize advanceJobs now caller phase jobs report manager = result at turns ⊢
  rcases result with ⟨_ | ⟨blocked, left⟩, noted, after⟩
  · intro c inside
    cases reconciling with
    | false =>
      have was : c ∈ manager.turns := turns ▸ inside
      refine .inl ⟨?_, was⟩
      rintro rfl
      cases own was
    | true =>
      obtain ⟨isIn, differs⟩ := List.mem_filter.mp inside
      have was : c ∈ manager.turns := turns ▸ isIn
      exact .inl ⟨by simpa using differs, was⟩
  · intro c inside
    have was : c ∈ manager.turns := turns ▸ inside
    by_cases isCaller : c = caller
    · subst isCaller
      exact .inr ⟨rfl, own was⟩
    · exact .inl ⟨isCaller, was⟩

/-- Operations take no turn but their own, and give it back when they are done. -/
theorem turns_advance (operation : Operation)
    (own : caller ∈ manager.turns → operation.reconciles = true) :
    ∀ c ∈ (advance now caller operation manager).2.turns,
      c ≠ caller ∧ c ∈ manager.turns ∨
        c = caller ∧ (advance now caller operation manager).1.reconciles = true := by
  cases operation with
  | done report =>
    intro c inside
    refine .inl ⟨?_, inside⟩
    rintro rfl
    cases own inside
  | working reconciling phase jobs report => exact turns_work reconciling phase jobs report own
  | waiting required =>
    have entered : ∀ c ∈ (if manager.turns.contains caller then manager.turns
        else manager.turns ++ [caller]), c = caller ∨ c ∈ manager.turns := by
      intro c inside
      split_ifs at inside
      · exact .inr inside
      · rcases List.mem_append.mp inside with was | new
        · exact .inr was
        · exact .inl (List.mem_singleton.mp new)
    unfold advance
    dsimp only
    generalize (if manager.turns.contains caller then manager.turns
      else manager.turns ++ [caller]) = turns at entered ⊢
    have ownOrOther {turned : Operation} (turning : turned.reconciles = true) :
        ∀ c ∈ turns, c ≠ caller ∧ c ∈ manager.turns ∨ c = caller ∧ turned.reconciles = true := by
      intro c inside
      by_cases isCaller : c = caller
      · exact .inr ⟨isCaller, turning⟩
      · exact .inl ⟨isCaller, (entered c inside).resolve_left isCaller⟩
    split_ifs with blocked
    · exact ownOrOther rfl
    · obtain ⟨locks, gauge, -, pruned⟩ := prune_eq { manager with turns }
      have same : ({ manager with turns } : Manager).prune.turns = turns := by
        rw [pruned]
        rfl
      intro c inside
      rcases turns_work true .queued _ {} (fun _ => rfl) c inside with ⟨differs, was⟩ | own
      · rw [same] at was
        exact .inl ⟨differs, (entered c was).resolve_left differs⟩
      · exact .inr own

end Manager

namespace Service

variable {service : Service} {group : String}

/-- The locks and the turns belong to operations in progress. -/
structure Accounted (service : Service) : Prop where
  /-- An operation in the queue of a lock works on the topic of the lock. -/
  locks : ∀ topic caller, service.manager.Queued topic caller →
    ∃ operation, service.operation? caller = some operation ∧ operation.topic? = some topic
  /-- An operation that has a turn or waits for one reconciles. -/
  turns : ∀ caller ∈ service.manager.turns,
    ∃ operation, service.operation? caller = some operation ∧ operation.reconciles = true

theorem Accounted.congr {after : Service} (accounted : service.Accounted)
    (locks : after.manager.locks ⊆ service.manager.locks)
    (turns : after.manager.turns = service.manager.turns)
    (operations : ∀ caller operation, service.operation? caller = some operation →
      after.operation? caller = some operation) : after.Accounted where
  locks topic caller queued := by
    obtain ⟨operation, found, works⟩ := accounted.locks topic caller (queued.of_subset locks)
    exact ⟨operation, operations caller operation found, works⟩
  turns caller inside := by
    obtain ⟨operation, found, reconciles⟩ := accounted.turns caller (turns ▸ inside)
    exact ⟨operation, operations caller operation found, reconciles⟩

theorem start_operation? (started : Operation) {caller : Nat} {operation : Operation}
    (found : service.operation? caller = some operation) :
    (service.start started).2.operation? caller = some operation := by
  obtain ⟨numbered, isFirst, rfl⟩ := Option.map_eq_some_iff.mp found
  unfold operation? start
  rw [List.find?_append, isFirst]
  rfl

theorem startAll_operation? (operations : List Operation) {caller : Nat} {operation : Operation}
    (found : service.operation? caller = some operation) :
    (service.startAll operations).2.operation? caller = some operation := by
  have started : ∀ (numbers : List Nat) (service : Service),
      service.operation? caller = some operation →
        (operations.foldl (fun (state : List Nat × Service) operation =>
          (state.1 ++ [(state.2.start operation).1], (state.2.start operation).2))
          (numbers, service)).2.operation? caller = some operation := by
    induction operations with
    | nil => exact fun _ _ was => was
    | cons first rest ih => exact fun _ _ was => ih _ _ (start_operation? first was)
  exact started [] service found

/-- Going on replaces the operation of one number. -/
theorem operation?_replaced (manager : Manager) (number caller : Nat) (went : Operation) :
    ({ service with
      manager
      operations := service.operations.map fun other =>
        if other.number == number then { other with operation := went } else other } :
          Service).operation? caller =
      (service.operation? caller).map fun old => if caller = number then went else old := by
  unfold operation?
  rw [List.find?_map]
  have same : ((fun numbered : NumberedOperation => numbered.number == caller) ∘ fun other =>
      if other.number == number then { other with operation := went } else other) =
        fun numbered => numbered.number == caller := by
    funext numbered
    by_cases equal : numbered.number = number <;> simp [equal]
  rw [same]
  cases found : service.operations.find? (·.number == caller) with
  | none => rfl
  | some numbered =>
    have number_eq : numbered.number = caller := by simpa using List.find?_some found
    by_cases equal : caller = number <;> simp [number_eq, equal]

theorem goOn_accounted (accounted : service.Accounted) (number : Nat) :
    (service.goOn number).Accounted := by
  unfold goOn
  cases found : service.operation? number with
  | none => exact accounted
  | some operation =>
    dsimp only
    have queues := @Manager.keepsQueues_advance service.manager service.now number operation
      fun topic queued => by
        obtain ⟨own, same, works⟩ := accounted.locks topic number queued
        rw [found] at same
        cases same
        exact works
    have turns := @Manager.turns_advance service.manager service.now number operation
      fun inside => by
        obtain ⟨own, same, reconciles⟩ := accounted.turns number inside
        rw [found] at same
        cases same
        exact reconciles
    generalize Manager.advance service.now number operation service.manager = result
      at queues turns ⊢
    obtain ⟨went, manager⟩ := result
    refine ⟨fun topic caller queued => ?_, fun caller inside => ?_⟩
    · rw [operation?_replaced]
      rcases queues topic caller queued with ⟨differs, was⟩ | ⟨rfl, works⟩
      · obtain ⟨other, same, works⟩ := accounted.locks topic caller was
        exact ⟨other, by simp [same, differs], works⟩
      · exact ⟨went, by simp [found], works⟩
    · rw [operation?_replaced]
      rcases turns caller inside with ⟨differs, was⟩ | ⟨rfl, reconciles⟩
      · obtain ⟨other, same, reconciles⟩ := accounted.turns caller was
        exact ⟨other, by simp [same, differs], reconciles⟩
      · exact ⟨went, by simp [found], reconciles⟩

theorem Accounted.of_eq {after : Service} (accounted : service.Accounted)
    (locks : after.manager.locks = service.manager.locks)
    (turns : after.manager.turns = service.manager.turns)
    (operations : after.operations = service.operations) : after.Accounted := by
  refine accounted.congr (fun lock inside => locks ▸ inside) turns ?_
  intro caller operation found
  rwa [operation?, operations]

theorem withWorker_accounted (accounted : service.Accounted) (topic : String)
    {change : TopicWorker → Manager}
    (locks : ∀ worker, (change worker).locks = service.manager.locks)
    (turns : ∀ worker, (change worker).turns = service.manager.turns) :
    (service.withWorker topic change).Accounted := by
  unfold withWorker
  split
  next worker _ => exact accounted.of_eq (locks worker) (turns worker) rfl
  next => exact accounted

theorem after_accounted (accounted : service.Accounted) (event : Event) :
    (service.after event).Accounted := by
  cases event with
  | call call =>
    refine accounted.congr ?_ ?_ fun caller operation found => startAll_operation? _ found
    · rw [after, startAll_manager]
      exact List.Subset.refl _
    · rw [after, startAll_manager]
  | goOn number => exact goOn_accounted accounted number
  | turn topic => exact withWorker_accounted accounted topic (fun _ => rfl) fun _ => rfl
  | handled topic =>
    refine withWorker_accounted accounted topic (fun worker => ?_) fun worker => ?_ <;>
      split_ifs <;> rfl
  | publish topic payload => exact accounted.of_eq rfl rfl rfl
  | disconnect topic => exact accounted.of_eq rfl rfl rfl
  | reject topic => exact accounted.of_eq rfl rfl rfl
  | accept topic => exact accounted.of_eq rfl rfl rfl
  | pass millis => exact accounted.of_eq rfl rfl rfl

theorem run_accounted (events : List Event) (accounted : service.Accounted) :
    (service.run events).Accounted := by
  induction events generalizing service with
  | nil => exact accounted
  | cons event rest ih => exact ih (after_accounted accounted event)

theorem new_accounted (settings : ServiceSettings) : (new settings).Accounted where
  locks topic caller queued := by
    obtain ⟨queue, inside, -⟩ := queued
    cases inside
  turns caller inside := by cases inside

/-- Once all operations of a run are done and the workers are settled, the manager is idle. -/
theorem run_idle (settings : ServiceSettings) (events : List Event)
    (done : ∀ numbered ∈ ((new settings).run events).operations,
      ∃ report, numbered.operation = .done report)
    (settled : ((new settings).run events).manager.IsSettled) :
    ((new settings).run events).manager.Idle settings.group := by
  have linked : ((new settings).run events).manager.IsLinked True settings.group :=
    run_linked events (new_linked settings fun _ => trivial) fun _ => trivial
  have accounted := run_accounted events (new_accounted settings)
  have isDone : ∀ caller operation,
      ((new settings).run events).operation? caller = some operation →
        ∃ report, operation = .done report := by
    intro caller operation found
    obtain ⟨numbered, isFirst, rfl⟩ := Option.map_eq_some_iff.mp found
    exact done numbered (List.mem_of_find?_eq_some isFirst)
  refine ⟨linked, settled, fun lock inside => ?_, ?_⟩
  · rw [List.eq_nil_iff_forall_not_mem]
    intro caller waits
    obtain ⟨operation, found, works⟩ := accounted.locks lock.1 caller ⟨lock.2, inside, waits⟩
    obtain ⟨report, rfl⟩ := isDone caller operation found
    cases works
  · rw [List.eq_nil_iff_forall_not_mem]
    intro caller inside
    obtain ⟨operation, found, reconciles⟩ := accounted.turns caller inside
    obtain ⟨report, rfl⟩ := isDone caller operation found
    cases reconciles

end Service

end TopicAlerts
