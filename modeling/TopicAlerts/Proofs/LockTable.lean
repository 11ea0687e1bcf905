import TopicAlerts.Proofs.Callers

/-!
# The table of locks

Work on a topic begins with the lock of the topic, which is made if there is none, before it is
known whether the topic will have a worker. At each exit that leaves the topic without a worker the
lock is forgotten, unless another operation needs it. `Manager.Tidy` says what this comes to, and
every operation keeps it, whatever others are in progress (`Manager.Tidy.advance`): a topic with a
worker has a lock, and a lock that nobody needs is that of a topic with a worker.

So a lock without a worker belongs to an operation in progress, and once all operations are done the
topics with a lock are those with a worker (`Service.undergo_locks`). Workers may end in any way
meanwhile, also because their handlers fail.
-/

namespace TopicAlerts

theorem Operation.topic?_eq_none {operation : Operation}
    (hdone : operation.report?.isSome = true) : operation.topic? = none := by
  cases operation with
  | done report => rfl
  | waiting required => cases hdone
  | working reconciling phase jobs report => cases hdone

namespace Manager

/-- The topics that have a lock. -/
def lockTopics (manager : Manager) : List String := manager.locks.map (·.1)

/-- The topics that have a worker. -/
def workerTopics (manager : Manager) : List String := manager.workers.map (·.topic)

/-- The locks fit the workers, but for some topics whose locks may have become useless. -/
structure Tidy (useless : List String) (manager : Manager) : Prop where
  oneLock : manager.lockTopics.Nodup
  oneWorker : manager.workerTopics.Nodup
  /-- No lock is lost. -/
  guarded : manager.workerTopics ⊆ manager.lockTopics
  /-- No lock is left over. -/
  needed : ∀ lock ∈ manager.locks,
    lock.2 ≠ [] ∨ lock.1 ∈ manager.workerTopics ∨ lock.1 ∈ useless

variable {manager after : Manager} {worker : TopicWorker} {lock : String × List Nat}
  {topic : String} {useless more : List String} {now caller deadline : Nat}

/-! ## Locks -/

theorem mem_lockTopics : topic ∈ manager.lockTopics ↔ ∃ queue, (topic, queue) ∈ manager.locks := by
  unfold lockTopics
  simp

theorem isSome_worker?_of_mem (hworker : topic ∈ manager.workerTopics) :
    (manager.worker? topic).isSome = true := by
  cases hfound : manager.worker? topic with
  | none => exact absurd hworker (worker?_eq_none hfound)
  | some worker => rfl

theorem lockTopics_enter : (manager.enter topic caller).lockTopics =
    if topic ∈ manager.lockTopics then manager.lockTopics
    else manager.lockTopics ++ [topic] := by
  unfold lockTopics enter
  dsimp only
  induction manager.locks with
  | nil => rfl
  | cons first rest ih =>
    obtain ⟨key, queue⟩ := first
    rw [enterIn]
    by_cases hsame : key = topic
    · simp [hsame]
    · rw [if_neg hsame, List.map_cons, ih]
      by_cases hthere : topic ∈ rest.map (·.1)
      · simp [hthere]
      · simp [hthere, Ne.symm hsame]

/-- A lock that was asked for is one that was there, or it is in use. -/
theorem mem_enterIn {locks : List (String × List Nat)} (hlock : lock ∈ enterIn topic caller locks) :
    lock ∈ locks ∨ lock.2 ≠ [] := by
  induction locks with
  | nil =>
    rw [enterIn, List.mem_singleton] at hlock
    rw [hlock]
    exact .inr (List.cons_ne_nil _ _)
  | cons first rest ih =>
    obtain ⟨key, queue⟩ := first
    rw [enterIn] at hlock
    split_ifs at hlock with hsame hwaits
    · exact .inl hlock
    · rcases List.mem_cons.mp hlock with rfl | hrest
      · exact .inr (by simp)
      · exact .inl (List.mem_cons_of_mem _ hrest)
    · rcases List.mem_cons.mp hlock with rfl | hrest
      · exact .inl List.mem_cons_self
      · exact (ih hrest).imp_left (List.mem_cons_of_mem _)

theorem lockTopics_leave : (manager.leave topic caller).lockTopics = manager.lockTopics := by
  unfold lockTopics leave
  rw [List.map_map]
  rfl

/-- Giving a lock back leaves the other locks alone. -/
theorem mem_locks_leave (hlock : lock ∈ (manager.leave topic caller).locks) :
    lock.1 = topic ∨ lock ∈ manager.locks := by
  obtain ⟨⟨key, queue⟩, hthere, rfl⟩ := List.mem_map.mp hlock
  dsimp only
  by_cases hsame : key = topic
  · exact .inl hsame
  · right
    rwa [if_neg hsame]

namespace Tidy

theorem congr (htidy : manager.Tidy useless) (hlocks : after.locks = manager.locks)
    (hworkers : after.workerTopics = manager.workerTopics) : after.Tidy useless := by
  have htopics : after.lockTopics = manager.lockTopics := by
    rw [lockTopics, hlocks, lockTopics]
  constructor
  · rw [htopics]
    exact htidy.oneLock
  · rw [hworkers]
    exact htidy.oneWorker
  · rw [htopics, hworkers]
    exact htidy.guarded
  · rw [hlocks, hworkers]
    exact htidy.needed

theorem mono (htidy : manager.Tidy useless) (hmore : useless ⊆ more) : manager.Tidy more where
  oneLock := htidy.oneLock
  oneWorker := htidy.oneWorker
  guarded := htidy.guarded
  needed lock hlock := (htidy.needed lock hlock).imp_right (Or.imp_right fun h => hmore h)

/-- The lock of a topic with a worker is not useless. -/
theorem of_worker (htidy : manager.Tidy (topic :: useless))
    (hworker : topic ∈ manager.workerTopics) : manager.Tidy useless where
  oneLock := htidy.oneLock
  oneWorker := htidy.oneWorker
  guarded := htidy.guarded
  needed lock hlock := by
    rcases htidy.needed lock hlock with hused | htracked | huseless
    · exact .inl hused
    · exact .inr (.inl htracked)
    · rcases List.mem_cons.mp huseless with hsame | hrest
      · exact .inr (.inl (hsame ▸ hworker))
      · exact .inr (.inr hrest)

theorem enter (htidy : manager.Tidy useless) (topic : String) (caller : Nat) :
    (manager.enter topic caller).Tidy useless where
  oneLock := by
    rw [lockTopics_enter]
    split_ifs with hthere
    · exact htidy.oneLock
    · rw [← List.concat_eq_append]
      exact htidy.oneLock.concat hthere
  oneWorker := htidy.oneWorker
  guarded := by
    rw [lockTopics_enter]
    intro t hworker
    have hthere := htidy.guarded hworker
    split_ifs
    · exact hthere
    · exact List.mem_append_left _ hthere
  needed lock hlock := by
    rcases mem_enterIn hlock with hthere | hused
    · exact htidy.needed lock hthere
    · exact .inl hused

/-- A lock that is given back may have become useless. -/
theorem leave (htidy : manager.Tidy useless) (huseless : topic ∈ useless) (caller : Nat) :
    (manager.leave topic caller).Tidy useless where
  oneLock := by
    rw [lockTopics_leave]
    exact htidy.oneLock
  oneWorker := htidy.oneWorker
  guarded := by
    rw [lockTopics_leave]
    exact htidy.guarded
  needed lock hlock := by
    rcases mem_locks_leave hlock with hsame | hthere
    · exact .inr (.inr (hsame ▸ huseless))
    · exact htidy.needed lock hthere

/-- When the lock of a topic was looked after, it is not useless any more. -/
theorem forgetIdleLock (htidy : manager.Tidy (topic :: useless)) :
    (manager.forgetIdleLock topic).Tidy useless where
  oneLock := htidy.oneLock.sublist (List.filter_sublist.map _)
  oneWorker := htidy.oneWorker
  guarded := by
    intro t hworker
    obtain ⟨queue, hlock⟩ := mem_lockTopics.mp (htidy.guarded hworker)
    refine mem_lockTopics.mpr ⟨queue, List.mem_filter.mpr ⟨hlock, ?_⟩⟩
    by_cases hsame : t = topic
    · subst hsame
      have hsome : (manager.worker? t).isSome = true := isSome_worker?_of_mem hworker
      simp [hsome]
    · simp [hsame]
  needed lock hlock := by
    obtain ⟨hthere, hkept⟩ := List.mem_filter.mp hlock
    rcases htidy.needed lock hthere with hused | htracked | huseless
    · exact .inl hused
    · exact .inr (.inl htracked)
    · rcases List.mem_cons.mp huseless with hsame | hrest
      · -- it is kept because it is used, or because there is a worker
        cases hfound : manager.worker? topic with
        | none =>
          left
          simpa [hsame, hfound] using hkept
        | some worker =>
          obtain ⟨hinside, htopic⟩ := worker?_eq_some hfound
          exact .inr (.inl (List.mem_map.mpr ⟨worker, hinside, htopic.trans hsame.symm⟩))
      · exact .inr (.inr hrest)

theorem forgetIdleLocks (topics : List String) (htidy : manager.Tidy topics) :
    (topics.foldl Manager.forgetIdleLock manager).Tidy [] := by
  induction topics generalizing manager with
  | nil => exact htidy
  | cons topic rest ih => exact ih htidy.forgetIdleLock

theorem release (htidy : manager.Tidy [topic]) (caller : Nat) :
    (manager.release topic caller).Tidy [] :=
  (htidy.leave List.mem_cons_self caller).forgetIdleLock

/-! ## Workers -/

/-- When some workers are forgotten, the locks of their topics may be useless. -/
theorem filter_workers (htidy : manager.Tidy []) (keep : TopicWorker → Bool)
    (hgone : ∀ worker ∈ manager.workers, keep worker = false → worker.topic ∈ useless) :
    ({ manager with workers := manager.workers.filter keep } : Manager).Tidy useless where
  oneLock := htidy.oneLock
  oneWorker := htidy.oneWorker.sublist (List.filter_sublist.map _)
  guarded := fun t hworker => htidy.guarded ((List.filter_sublist.map _).subset hworker)
  needed lock hlock := by
    rcases htidy.needed lock hlock with hused | htracked | hnone
    · exact .inl hused
    · right
      obtain ⟨worker, hinside, htopic⟩ := List.mem_map.mp htracked
      cases hkept : keep worker with
      | false => exact .inr (htopic ▸ hgone worker hinside hkept)
      | true =>
        exact .inl (List.mem_map.mpr ⟨worker, List.mem_filter.mpr ⟨hinside, hkept⟩, htopic⟩)
    · cases hnone

theorem removeWorker (htidy : manager.Tidy []) (topic : String) :
    (manager.removeWorker topic).Tidy [topic] :=
  htidy.filter_workers _ fun worker _ hgone => by simpa using hgone

theorem prune (htidy : manager.Tidy []) : manager.prune.Tidy [] := by
  have hfiltered : ({ manager with workers := manager.workers.filter (!·.isFinished) } :
      Manager).Tidy ((manager.workers.filter (·.isFinished)).map (·.topic)) := by
    refine htidy.filter_workers _ fun worker hinside hgone => ?_
    exact List.mem_map_of_mem (List.mem_filter.mpr ⟨hinside, by simpa using hgone⟩)
  exact hfiltered.forgetIdleLocks.congr rfl rfl

theorem setWorker (htidy : manager.Tidy useless) (worker : TopicWorker) :
    (manager.setWorker worker).Tidy useless :=
  htidy.congr rfl map_topic_replaced

theorem turn (htidy : manager.Tidy useless) (worker : TopicWorker) :
    (manager.turn worker).2.Tidy useless :=
  htidy.congr rfl map_topic_replaced

theorem abort (htidy : manager.Tidy useless) (worker : TopicWorker) :
    (manager.abort worker).Tidy useless :=
  htidy.congr rfl map_topic_replaced

/-- A worker comes to a topic that has a lock and no worker. -/
theorem append_worker (htidy : manager.Tidy useless) (hlock : worker.topic ∈ manager.lockTopics)
    (hfree : worker.topic ∉ manager.workerTopics)
    (hlocks : after.locks = manager.locks) (hworkers : after.workers = manager.workers ++ [worker]) :
    after.Tidy useless where
  oneLock := by
    rw [lockTopics, hlocks]
    exact htidy.oneLock
  oneWorker := by
    rw [workerTopics, hworkers, List.map_append, List.map_singleton, ← List.concat_eq_append]
    exact htidy.oneWorker.concat hfree
  guarded := by
    intro t hworker
    rw [workerTopics, hworkers, List.map_append] at hworker
    rw [lockTopics, hlocks]
    rcases List.mem_append.mp hworker with hold | hnew
    · exact htidy.guarded hold
    · rw [List.mem_singleton.mp hnew]
      exact hlock
  needed lock hthere := by
    rw [hlocks] at hthere
    rw [workerTopics, hworkers, List.map_append, List.mem_append]
    exact (htidy.needed lock hthere).imp_right (Or.imp_left Or.inl)

/-- Subscribing under the lock of a topic: if it succeeds, the topic has a worker. -/
theorem subscribeHeld (htidy : manager.Tidy []) (hlock : topic ∈ manager.lockTopics) :
    (manager.subscribeHeld topic).2.Tidy [topic] ∧
      ((manager.subscribeHeld topic).1 = true →
        topic ∈ (manager.subscribeHeld topic).2.workerTopics) := by
  have hremoved := htidy.removeWorker topic
  rcases manager.subscribeHeld_cases topic with
    ⟨hsubscribed, hheld⟩ | ⟨-, ⟨-, hheld⟩ | ⟨-, -, hheld⟩ | ⟨-, -, hheld⟩⟩
  · rw [hheld]
    refine ⟨htidy.mono (List.nil_subset _), fun _ => ?_⟩
    unfold isSubscribed at hsubscribed
    split at hsubscribed
    next worker hfound =>
      obtain ⟨hinside, htopic⟩ := worker?_eq_some hfound
      exact List.mem_map.mpr ⟨worker, hinside, htopic⟩
    next => cases hsubscribed
  · rw [hheld]
    exact ⟨hremoved.congr rfl rfl, fun hdone => by cases hdone⟩
  · rw [hheld]
    exact ⟨hremoved.congr rfl rfl, fun hdone => by cases hdone⟩
  · rw [hheld]
    have hfree : topic ∉ (manager.removeWorker topic).workerTopics := by
      simp [workerTopics, Manager.removeWorker]
    refine ⟨hremoved.append_worker hlock hfree rfl rfl, fun _ => ?_⟩
    exact List.mem_map.mpr ⟨_, List.mem_append_right _ (List.mem_singleton.mpr rfl), rfl⟩

/-! ## Operations -/

theorem finishUnsubscribe (htidy : manager.Tidy []) (topic : String) (caller : Nat) :
    (manager.finishUnsubscribe topic caller).2.Tidy [] := by
  have hremoved : (manager.removeWorker topic).publishGauge.Tidy [topic] :=
    (htidy.removeWorker topic).congr rfl rfl
  exact hremoved.release caller

theorem awaitStop (htidy : manager.Tidy []) (now : Nat) (topic : String) (caller deadline : Nat) :
    (manager.awaitStop now topic caller deadline).2.Tidy [] := by
  unfold Manager.awaitStop
  split
  · exact htidy.finishUnsubscribe topic caller
  next worker _ =>
    split_ifs
    · exact htidy.finishUnsubscribe topic caller
    · exact htidy
    · exact (htidy.abort worker).finishUnsubscribe topic caller

theorem advanceJob (htidy : manager.Tidy []) (now caller : Nat) (job : Job) (phase : Job.Phase) :
    (manager.advanceJob now caller job phase).2.Tidy [] := by
  cases phase with
  | stopping deadline => exact htidy.awaitStop now job.topic caller deadline
  | queued =>
    have hentered := htidy.enter job.topic caller
    have hlock : job.topic ∈ (manager.enter job.topic caller).lockTopics := by
      rw [lockTopics_enter]
      split_ifs with hthere
      · exact hthere
      · exact List.mem_append_right _ (List.mem_singleton.mpr rfl)
    unfold Manager.advanceJob
    dsimp only
    split_ifs with hblocked
    · exact hentered
    cases job with
    | subscribe topic =>
      obtain ⟨hheld, hsubscribed⟩ := hentered.subscribeHeld hlock
      dsimp only [Job.topic] at hheld hsubscribed ⊢
      generalize (manager.enter topic caller).subscribeHeld topic = result at hheld hsubscribed ⊢
      rcases result with ⟨_ | _, after⟩
      · exact hheld.release caller
      · have hworker : topic ∈ (after.leave topic caller).workerTopics := hsubscribed rfl
        exact (hheld.leave List.mem_cons_self caller).of_worker hworker
    | unsubscribe topic =>
      dsimp only [Job.topic]
      split
      · exact (hentered.mono (List.nil_subset _)).release caller
      next worker _ => exact (hentered.turn _).awaitStop now topic caller _

theorem advanceJobs (now caller : Nat) (phase : Job.Phase) (jobs : List Job)
    (report : ReconcileReport) (htidy : manager.Tidy []) :
    (advanceJobs now caller phase jobs report manager).2.2.Tidy [] := by
  induction jobs generalizing phase report manager with
  | nil => exact htidy
  | cons job rest ih =>
    have hstep := htidy.advanceJob now caller job phase
    unfold Manager.advanceJobs
    generalize manager.advanceJob now caller job phase = result at hstep ⊢
    rcases result with ⟨_ | _, after⟩
    · exact ih .queued _ hstep
    · exact hstep

theorem work (now caller : Nat) (reconciling : Bool) (phase : Job.Phase) (jobs : List Job)
    (report : ReconcileReport) (htidy : manager.Tidy []) :
    (work now caller reconciling phase jobs report manager).2.Tidy [] := by
  have hjobs := htidy.advanceJobs now caller phase jobs report
  unfold Manager.work
  generalize Manager.advanceJobs now caller phase jobs report manager = result at hjobs ⊢
  rcases result with ⟨_ | ⟨blocked, left⟩, noted, after⟩
  · cases reconciling
    · exact hjobs
    · exact hjobs.congr rfl rfl
  · exact hjobs

/-- Operations keep the locks of the topics with workers and leave no other behind. -/
theorem advance (htidy : manager.Tidy []) (now caller : Nat) (operation : Operation) :
    (advance now caller operation manager).2.Tidy [] := by
  cases operation with
  | done report => exact htidy
  | working reconciling phase jobs report =>
    exact htidy.work now caller reconciling phase jobs report
  | waiting required =>
    unfold Manager.advance
    dsimp only
    generalize (if manager.turns.contains caller then manager.turns
      else manager.turns ++ [caller]) = turns
    have hturns : ({ manager with turns } : Manager).Tidy [] := htidy.congr rfl rfl
    split_ifs with hblocked
    · exact hturns
    · exact hturns.prune.work now caller true .queued _ {}

end Tidy

end Manager

namespace Service

/-! ## Runs -/

/-- What may happen to a service whose handlers may fail. -/
inductive Incident
  /-- An event. -/
  | event (event : Event)
  /-- The worker of a topic fails: it is finished, and its stream is dropped. -/
  | crash (topic : String)
deriving DecidableEq, Repr

/-- The service after something has happened. -/
def suffer (service : Service) : Incident → Service
  | .event event => service.after event
  | .crash topic => service.withWorker topic service.manager.abort

/-- The service after several things have happened. -/
def undergo (service : Service) (incidents : List Incident) : Service :=
  incidents.foldl suffer service

variable {service : Service}

theorem tidy_withWorker {topic : String} {change : TopicWorker → Manager}
    (htidy : service.manager.Tidy []) (hkept : ∀ worker, (change worker).Tidy []) :
    (service.withWorker topic change).manager.Tidy [] := by
  unfold withWorker
  split
  · exact hkept _
  · exact htidy

theorem tidy_after (htidy : service.manager.Tidy []) (event : Event) :
    (service.after event).manager.Tidy [] := by
  cases event with
  | call call =>
    rw [after, startAll_manager]
    exact htidy
  | goOn number =>
    simp only [after, goOn]
    cases service.operation? number with
    | none => exact htidy
    | some operation => exact htidy.advance service.now number operation
  | turn topic => exact tidy_withWorker htidy fun worker => htidy.turn worker
  | handled topic =>
    refine tidy_withWorker htidy fun worker => ?_
    split_ifs
    · exact htidy.setWorker _
    · exact htidy
  | publish topic payload => exact htidy.congr rfl rfl
  | disconnect topic => exact htidy.congr rfl rfl
  | reject topic => exact htidy.congr rfl rfl
  | accept topic => exact htidy.congr rfl rfl
  | pass millis => exact htidy

theorem tidy_suffer (htidy : service.manager.Tidy []) (incident : Incident) :
    (service.suffer incident).manager.Tidy [] := by
  cases incident with
  | event event => exact tidy_after htidy event
  | crash topic => exact tidy_withWorker htidy fun worker => htidy.abort worker

theorem accounted_suffer (haccounted : service.Accounted) (incident : Incident) :
    (service.suffer incident).Accounted := by
  cases incident with
  | event event => exact after_accounted haccounted event
  | crash topic => exact withWorker_accounted haccounted topic (fun _ => rfl) fun _ => rfl

theorem undergo_kept (incidents : List Incident) (htidy : service.manager.Tidy [])
    (haccounted : service.Accounted) :
    (service.undergo incidents).manager.Tidy [] ∧ (service.undergo incidents).Accounted := by
  induction incidents generalizing service with
  | nil => exact ⟨htidy, haccounted⟩
  | cons incident rest ih =>
    exact ih (tidy_suffer htidy incident) (accounted_suffer haccounted incident)

theorem tidy_new (settings : ServiceSettings) : (new settings).manager.Tidy [] where
  oneLock := List.nodup_nil
  oneWorker := List.nodup_nil
  guarded := List.nil_subset _
  needed lock hlock := by cases hlock

/-- Whatever happens to a service, a topic with a worker has a lock. A lock of a topic without a
worker belongs to an operation in progress that works on this topic. So when all operations are
done, the topics with a lock are just those with a worker, and each has one lock. -/
theorem undergo_locks (settings : ServiceSettings) (incidents : List Incident) :
    let service := (new settings).undergo incidents
    let manager := service.manager
    manager.workerTopics ⊆ manager.lockTopics ∧
    (∀ topic ∈ manager.lockTopics, topic ∉ manager.workerTopics →
      ∃ numbered ∈ service.operations, numbered.operation.topic? = some topic) ∧
    ((∀ numbered ∈ service.operations, numbered.operation.report?.isSome = true) →
      manager.lockTopics.Perm manager.workerTopics) := by
  intro service manager
  obtain ⟨htidy, haccounted⟩ :=
    undergo_kept incidents (tidy_new settings) (new_accounted settings)
  have hbusy : ∀ topic ∈ manager.lockTopics, topic ∉ manager.workerTopics →
      ∃ numbered ∈ service.operations, numbered.operation.topic? = some topic := by
    intro topic hlock hfree
    obtain ⟨queue, hentry⟩ := Manager.mem_lockTopics.mp hlock
    have hused : queue ≠ [] := by
      rcases htidy.needed _ hentry with hused | htracked | hnone
      · exact hused
      · exact absurd htracked hfree
      · cases hnone
    obtain ⟨caller, hcaller⟩ := List.exists_mem_of_ne_nil queue hused
    obtain ⟨operation, hfound, hworks⟩ :=
      haccounted.locks topic caller ⟨queue, hentry, hcaller⟩
    obtain ⟨numbered, hfirst, rfl⟩ := Option.map_eq_some_iff.mp hfound
    exact ⟨numbered, List.mem_of_find?_eq_some hfirst, hworks⟩
  refine ⟨htidy.guarded, hbusy, fun hdone => ?_⟩
  refine (List.perm_ext_iff_of_nodup htidy.oneLock htidy.oneWorker).mpr fun topic => ?_
  constructor
  · intro hlock
    by_contra hfree
    obtain ⟨numbered, hinside, hworks⟩ := hbusy topic hlock hfree
    rw [Operation.topic?_eq_none (hdone numbered hinside)] at hworks
    cases hworks
  · intro hworker
    exact htidy.guarded hworker

/-- Topics are subscribed to and given up, one is refused and one is not valid, workers are cut off
and fail, and a topic is subscribed to that has a worker still. -/
def troubled : List Incident :=
  [.event (.reject "net"), .event (.call (.reconcile ["cpu", "disk", "fan", "net"])),
    .event (.goOn 0), .event (.call (.subscribe "*")), .event (.goOn 1),
    .event (.disconnect "disk"), .event (.turn "disk"), .event (.reject "disk"),
    .event (.call (.subscribe "disk")), .event (.goOn 2), .event (.call (.unsubscribe "net")),
    .event (.goOn 3), .crash "fan", .event (.call (.reconcile ["cpu", "ram"])), .event (.goOn 4),
    .event (.call (.subscribe "cpu")), .event (.goOn 5)]

theorem troubled_locks :
    ((new patientSettings).undergo troubled).manager.lockTopics.Perm ["cpu", "ram"] := by
  have hdone : ∀ numbered ∈ ((new patientSettings).undergo troubled).operations,
      numbered.operation.report?.isSome = true := by decide +kernel
  have hworkers : ((new patientSettings).undergo troubled).manager.workerTopics =
      ["cpu", "ram"] := by decide +kernel
  rw [← hworkers]
  exact (undergo_locks patientSettings troubled).2.2 hdone

end Service

end TopicAlerts
