import TopicAlerts.Proofs.Callers

/-!
# A reconciliation applies the difference

An idle manager that reconciles its subscriptions with some topics computes how these differ from
the active ones and applies just that (`Manager.Idle.reconcile_difference`). Topics that are active
but not required are removed; those that are required but not active are added, or fail when they
are not valid or refused by the broker. Finished workers count as nothing: their topics are added
like others. What is active and required is left alone.

Reconciling with the same topics once more finds the failed topics failing again, and changes
nothing but that the broker is asked for those of them that are valid.

A manager is idle whenever its workers are settled and all operations of a run are done
(`Service.run_idle`).
-/

namespace TopicAlerts

/-- The report of how required topics differ from those that are active: the topics of each kind in
order, none twice. -/
structure ReconcileReport.IsDifference (report : ReconcileReport) (manager : Manager)
    (required : List String) : Prop where
  /-- What is active and not required is removed. -/
  removed : ∀ topic, topic ∈ report.removed ↔ topic ∈ manager.active ∧ topic ∉ required
  /-- What is required and not active is added if it is valid and the broker accepts it. -/
  added : ∀ topic, topic ∈ report.added ↔ (topic ∈ required ∧ topic ∉ manager.active) ∧
    Topic.isValid topic = true ∧ topic ∉ manager.broker.rejected
  /-- The rest of what is required and not active fails. -/
  failed : ∀ topic, topic ∈ report.failed ↔ (topic ∈ required ∧ topic ∉ manager.active) ∧
    ¬(Topic.isValid topic = true ∧ topic ∉ manager.broker.rejected)
  /-- All three are in increasing order. -/
  inOrder : report.removed.Pairwise (· < ·) ∧ report.added.Pairwise (· < ·) ∧
    report.failed.Pairwise (· < ·)

namespace Manager

/-- The difference in the report has been applied, and nothing else. -/
structure Applied (report : ReconcileReport) (required : List String) (before after : Manager) :
    Prop where
  /-- The required topics that did not fail are active. -/
  active : ∀ topic, topic ∈ after.active ↔ topic ∈ required ∧ topic ∉ report.failed
  /-- A worker that is not finished and whose topic is required goes on with its stream. -/
  untouched : ∀ worker ∈ before.workers, worker.isFinished = false → worker.topic ∈ required →
    worker ∈ after.workers ∧
      after.broker.streams[worker.stream]? = before.broker.streams[worker.stream]?
  /-- The broker was asked for the valid ones of the required topics that were not active. -/
  asked : after.broker.asked =
    before.broker.asked ++ (before.missing required).filter Topic.isValid
  /-- One stream was closed for each removed topic. -/
  closed : after.broker.closeCalls = before.broker.closeCalls + report.removed.length

variable {manager between after : Manager} {group topic : String} {required : List String}

theorem admits_iff : manager.admits topic = true ↔
    Topic.isValid topic = true ∧ topic ∉ manager.broker.rejected := by
  simp [admits]

theorem isDifference (linked : manager.IsLinked True group) (required : List String) :
    ({ added := (manager.missing required).filter manager.admits
       removed := manager.surplus required
       failed := (manager.missing required).filter (!manager.admits ·) } :
        ReconcileReport).IsDifference manager required where
  removed topic := mem_surplus
  added topic := by rw [List.mem_filter, mem_missing, admits_iff]
  failed topic := by
    rw [List.mem_filter, mem_missing, ← admits_iff, Bool.not_eq_true', Bool.not_eq_true]
  inOrder := by
    have missing := (increasing_textSet required).filter (!manager.active.contains ·)
    exact ⟨(increasing_active linked).filter _, missing.filter _, missing.filter _⟩

section Steps

variable {report : ReconcileReport}

/-- What the two steps of a reconciliation come to. -/
theorem Idle.applied (idle : manager.Idle group) (calmBetween : between.Calm group)
    (calmAfter : after.Calm group)
    (retired : Retired (manager.surplus required) manager.withoutFinished between)
    (enlisted : Enlisted group (manager.missing required) between after)
    (difference : report.IsDifference manager required)
    (removed : report.removed = manager.surplus required) :
    Applied report required manager after where
  active t := by
    have sameAdmits : between.admits = manager.admits := admits_congr retired.rejected_eq
    rw [calmBetween.mem_active_enlisted calmAfter enlisted, sameAdmits,
      idle.calm.mem_active_retired calmBetween retired, active_withoutFinished, mem_surplus,
      mem_missing, admits_iff, difference.failed]
    tauto
  untouched worker inside unfinished isRequired := by
    have before : worker ∈ manager.withoutFinished.workers :=
      List.mem_filter.mpr ⟨inside, by simp [unfinished]⟩
    have kept : worker ∈ between.workers := by
      rw [retired.workers]
      refine List.mem_filter.mpr ⟨before, decide_eq_true fun gone => ?_⟩
      exact (mem_surplus.mp gone).2 isRequired
    obtain ⟨fresh, workers, -⟩ := enlisted.workers
    obtain ⟨streams, -, closed, others⟩ := retired.broker
    have line := calmBetween.line kept unfinished
    have old : worker.stream < between.broker.streams.length := by
      rw [← Broker.length_ledger]
      exact (List.getElem?_eq_some_iff.mp line).1
    refine ⟨workers ▸ List.mem_append_left _ kept, ?_⟩
    rw [enlisted.broker, Broker.streams_askFor old, closed]
    exact Broker.streams_closeAll (others worker kept)
  asked := by
    rw [enlisted.broker, Broker.asked_askFor, retired.asked_eq]
    rfl
  closed := by
    rw [enlisted.broker, Broker.closeCalls_askFor, retired.closeCalls, removed]
    rfl

/-- After a reconciliation what is missing is what failed. -/
theorem Applied.missing_eq (applied : Applied report required manager after)
    (failed : report.failed = (manager.missing required).filter (!manager.admits ·)) :
    after.missing required = report.failed := by
  rw [failed, missing, missing, List.filter_filter]
  refine List.filter_congr fun t inside => ?_
  have isRequired : t ∈ required := mem_textSet.mp inside
  rw [Bool.eq_iff_iff]
  simp [applied.active, failed, mem_missing, isRequired, and_comm]

end Steps

/-! ## Once more -/

theorem Retired.nothing {before : Manager} (retired : Retired [] before after) :
    after.workers = before.workers ∧ after.broker = before.broker := by
  obtain ⟨streams, none, closed, -⟩ := retired.broker
  obtain rfl : streams = [] := List.eq_nil_of_length_eq_zero none
  refine ⟨?_, closed⟩
  rw [retired.workers]
  simp

/-- Where no topic is admitted, only the asking leaves a trace. -/
theorem Enlisted.nothing {before : Manager} {topics : List String}
    (enlisted : Enlisted group topics before after)
    (refused : ∀ t ∈ topics, before.admits t = false) :
    after.workers = before.workers ∧ after.broker = { before.broker with
      asked := before.broker.asked ++ topics.filter Topic.isValid } := by
  obtain ⟨fresh, workers, ofFresh⟩ := enlisted.workers
  have noneAdmitted : topics.filter before.admits = [] := by
    rw [List.filter_eq_nil_iff]
    intro t inside
    simp [refused t inside]
  obtain rfl : fresh = [] := by rwa [noneAdmitted, List.map_eq_nil_iff] at ofFresh
  refine ⟨workers.trans (List.append_nil _), ?_⟩
  rw [enlisted.broker, Broker.askFor_of_rejected]
  intro t inside
  obtain ⟨isIn, valid⟩ := List.mem_filter.mp inside
  have notAdmitted := refused t isIn
  simpa [admits, valid] using notAdmitted

/-- A reconciliation that finds nothing surplus and nothing that is admitted changes nothing. -/
theorem Calm.reconcile_again (calm : manager.Calm group) (noTurns : manager.turns = [])
    (now caller : Nat) (nothingSurplus : manager.surplus required = [])
    (refused : ∀ t ∈ manager.missing required, manager.admits t = false) :
    ∃ after, advance now caller (.reconcile required) manager =
        (.done { failed := manager.missing required }, after) ∧
      after.workers = manager.workers ∧
      after.broker = { manager.broker with
        asked := manager.broker.asked ++ (manager.missing required).filter Topic.isValid } := by
  obtain ⟨between, after, advanced, -, -, -, retired, enlisted⟩ :=
    (calm.idle noTurns).advance_reconcile now caller required
  rw [nothingSurplus, calm.withoutFinished_eq] at retired
  obtain ⟨workersBetween, brokerBetween⟩ := retired.nothing
  have refusedBetween : ∀ t ∈ manager.missing required, between.admits t = false := by
    rwa [admits_congr retired.rejected_eq]
  obtain ⟨workers, broker⟩ := enlisted.nothing refusedBetween
  have noneAdded : (manager.missing required).filter manager.admits = [] := by
    rw [List.filter_eq_nil_iff]
    intro t inside
    simp [refused t inside]
  have allFailed : (manager.missing required).filter (!manager.admits ·) =
      manager.missing required := by
    rw [List.filter_eq_self]
    intro t inside
    simp [refused t inside]
  rw [nothingSurplus, noneAdded, allFailed] at advanced
  exact ⟨after, advanced, workers.trans workersBetween, by rw [broker, brokerBetween]⟩

/-- An idle manager that reconciles its subscriptions with some topics reports how these differ from
the active topics, and applies just that. Reconciling with the same topics once more, whatever the
time, reports nothing but the same failures, and changes nothing but that the broker is asked again
for those of the failed topics that are valid. -/
theorem Idle.reconcile_difference (idle : manager.Idle group) (now caller : Nat)
    (required : List String) :
    ∃ report after, advance now caller (.reconcile required) manager = (.done report, after) ∧
      report.IsDifference manager required ∧ Applied report required manager after ∧
      after.Idle group ∧
      ∀ later other, ∃ again, advance later other (.reconcile required) after =
          (.done { failed := report.failed }, again) ∧
        again.workers = after.workers ∧
        again.broker = { after.broker with
          asked := after.broker.asked ++ report.failed.filter Topic.isValid } := by
  obtain ⟨between, after, advanced, calmBetween, calmAfter, turns, retired, enlisted⟩ :=
    idle.advance_reconcile now caller required
  have difference := isDifference idle.toIsLinked required
  have applied := idle.applied calmBetween calmAfter retired enlisted difference rfl
  refine ⟨_, after, advanced, difference, applied, calmAfter.idle turns, fun later other => ?_⟩
  -- the second time only the failed topics are missing, and they are refused as before
  have nothingSurplus : after.surplus required = [] := by
    rw [List.eq_nil_iff_forall_not_mem]
    intro t inside
    obtain ⟨isActive, notRequired⟩ := mem_surplus.mp inside
    exact notRequired ((applied.active t).mp isActive).1
  have stillMissing := applied.missing_eq rfl
  have sameAdmits : after.admits = manager.admits :=
    admits_congr (enlisted.rejected_eq.trans retired.rejected_eq)
  have refused : ∀ t ∈ after.missing required, after.admits t = false := by
    intro t inside
    rw [stillMissing] at inside
    rw [sameAdmits]
    simpa using (List.mem_filter.mp inside).2
  rw [← stillMissing]
  exact calmAfter.reconcile_again turns later other nothingSurplus refused

end Manager

namespace Service

/-- The worker of one topic is cut off and notices, and another topic is refused. -/
def upset : List Event :=
  [.call (.reconcile ["cpu", "disk", "fan"]), .goOn 0, .disconnect "disk", .turn "disk",
    .reject "net"]

theorem upset_idle : ((new patientSettings).run upset).manager.Idle "alerts" := by
  refine run_idle patientSettings upset (fun numbered inside => ?_) ?_
  · have only : ((new patientSettings).run upset).operations =
        [⟨0, .done ⟨["cpu", "disk", "fan"], [], []⟩⟩] := by decide +kernel
    rw [only, List.mem_singleton] at inside
    subst inside
    exact ⟨_, rfl⟩
  · unfold Manager.IsSettled
    decide +kernel

/-- Reconciling with four topics then subscribes again to the one that was cut off, leaves one
alone, and fails for the one that is refused and the one that is not valid; so it does once more. -/
theorem upset_difference :
    let manager := ((new patientSettings).run upset).manager
    let required := ["net", "disk", "*", "cpu"]
    ∃ after, Manager.advance 0 1 (.reconcile required) manager =
        (.done ⟨["disk"], ["fan"], ["*", "net"]⟩, after) ∧
      (∀ topic, topic ∈ after.active ↔ topic ∈ required ∧ topic ∉ ["*", "net"]) ∧
      ∃ again, Manager.advance 0 2 (.reconcile required) after =
          (.done ⟨[], [], ["*", "net"]⟩, again) ∧
        again.broker.asked = after.broker.asked ++ ["net"] := by
  intro manager required
  obtain ⟨report, after, advanced, -, applied, -, repeated⟩ :=
    Manager.Idle.reconcile_difference upset_idle 0 1 required
  have computed : (Manager.advance 0 1 (.reconcile required) manager).1 =
      .done ⟨["disk"], ["fan"], ["*", "net"]⟩ := by decide +kernel
  obtain rfl : report = ⟨["disk"], ["fan"], ["*", "net"]⟩ := by
    rw [advanced] at computed
    cases computed
    rfl
  obtain ⟨again, advancedAgain, -, broker⟩ := repeated 0 2
  refine ⟨after, advanced, applied.active, again, advancedAgain, ?_⟩
  rw [broker]
  exact congrArg (after.broker.asked ++ ·) (by decide)

end Service

end TopicAlerts
