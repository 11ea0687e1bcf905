import TopicAlerts.Proofs.Calm

/-!
# Reconciling a quiet manager

A manager is quiet when it is calm and the broker refuses no topic. A reconciliation on a quiet
manager leaves it quiet, and the active topics after it are the required ones
(`Manager.Quiet.advance_reconcile`).
-/

namespace TopicAlerts.Manager

/-- Nothing goes on, and no topic is refused. -/
structure Quiet (group : String) (manager : Manager) : Prop
    extends manager.IsLinked True group where
  /-- All workers wait for messages. -/
  waiting : ∀ worker ∈ manager.workers, worker.IsWaiting manager.broker
  /-- The broker accepts all subscriptions. -/
  accepts : manager.broker.rejected = []
  /-- No lock is held. -/
  unlocked : ∀ lock ∈ manager.locks, lock.2 = []

variable {manager : Manager} {group topic : String}

theorem quiet_new (group : String) (stopTimeout : Nat) : (new group stopTimeout).Quiet group where
  toLinked := linked_empty
  group_eq := rfl
  patient _ := trivial
  waiting worker inside := by cases inside
  accepts := rfl
  unlocked lock inside := by cases inside

theorem Quiet.turn_eq {worker : TopicWorker} (quiet : manager.Quiet group)
    (inside : worker ∈ manager.workers) : manager.turn worker = (.wait, manager) := by
  rw [turn, (quiet.waiting worker inside).turn_eq]
  exact congrArg (Prod.mk _) (setWorker_self quiet.toIsLinked inside)

theorem Quiet.calm (quiet : manager.Quiet group) : manager.Calm group :=
  ⟨quiet.toIsLinked, quiet.waiting, quiet.unlocked⟩

/-- On a quiet manager all valid topics are admitted. -/
theorem Quiet.admits_eq (quiet : manager.Quiet group) (valid : Topic.isValid topic = true) :
    manager.admits topic = true := by
  rw [admits, valid, quiet.accepts]
  rfl

/-- When a quiet manager reconciles its subscriptions with some valid topics, that is done at once:
the active topics that are not required are removed, the required ones that are not active are
added, and the required topics are the active ones then. -/
theorem Quiet.advance_reconcile (now caller : Nat) (quiet : manager.Quiet group)
    (noTurns : manager.turns = []) {required : List String}
    (valid : ∀ t ∈ required, Topic.isValid t = true) :
    ∃ after, advance now caller (.reconcile required) manager =
        (.done {
          added := (textSet required).filter (!manager.active.contains ·)
          removed := manager.active.filter (!(textSet required).contains ·) }, after) ∧
      after.Quiet group ∧ after.turns = [] ∧ ∀ t, t ∈ after.active ↔ t ∈ required := by
  have idle := quiet.calm.idle noTurns
  obtain ⟨between, after, advanced, calmBetween, calmAfter, turns, retired, enlisted⟩ :=
    idle.advance_reconcile now caller required
  have admitted : ∀ t ∈ manager.missing required, manager.admits t = true :=
    fun t inside => quiet.admits_eq (valid t (mem_missing.mp inside).1)
  have noneFailed : (manager.missing required).filter (!manager.admits ·) = [] := by
    rw [List.filter_eq_nil_iff]
    intro t inside
    simp [admitted t inside]
  rw [List.filter_eq_self.mpr admitted, noneFailed] at advanced
  have rejected : after.broker.rejected = [] :=
    enlisted.rejected_eq.trans (retired.rejected_eq.trans quiet.accepts)
  refine ⟨after, advanced, ⟨calmAfter.toIsLinked, calmAfter.waiting, rejected, calmAfter.unlocked⟩,
    turns, fun t => ?_⟩
  have sameAdmits : between.admits = manager.admits := admits_congr retired.rejected_eq
  rw [calmBetween.mem_active_enlisted calmAfter enlisted, sameAdmits,
    idle.calm.mem_active_retired calmBetween retired, active_withoutFinished, mem_surplus,
    mem_missing]
  by_cases isActive : t ∈ manager.active <;> by_cases isRequired : t ∈ required <;>
    simp [isActive, isRequired]
  exact quiet.admits_eq (valid t isRequired)

end TopicAlerts.Manager
