import TopicAlerts.Proofs.Registry
import TopicAlerts.Proofs.RuleStore
import TopicAlerts.Proofs.Visits
import TopicAlerts.Proofs.WindowGrid

/-!
# When a rule notifies

Messages arrive on topics, one after the other, and the rules of a store are in force. A rule
notifies for an arrival if and only if the arrival is on its topic and matches it, and fewer of the
earlier arrivals that did so lie in the same cell of its throttle grid than it has permits
(`notifies_iff_due`). The grid is anchored at the first arrival that matched the rule.

The proof follows the one window that the rule is asked about. A visit of another rule leaves it
alone, since rules of a store have different ids (`visits_of_others`); a visit of the rule itself
asks it once if the message matches, and how the deliveries end has no part in that
(`visits_of_rule`). So after any number of arrivals it is the window made at the first match, after
one call for each match (`window?_handleAll`), and what it answers is known from its grid.
-/

namespace TopicAlerts

open Throttle

/-- A message that arrives on a topic. -/
structure Arrival where
  /-- The instant, in nanoseconds. -/
  instant : Int
  topic : String
  raw : String

/-- Whether an arrival is on the topic of a rule and matches it. -/
def Arrival.concerns (arrival : Arrival) (rule : Rule) : Bool :=
  arrival.topic == rule.topic && rule.isMatch (Message.parse arrival.raw)

/-- The instants of the arrivals that concern a rule. -/
def instantsOf (rule : Rule) (arrivals : List Arrival) : List Int :=
  (arrivals.filter (·.concerns rule)).map (·.instant)

theorem instantsOf_append (rule : Rule) (arrivals : List Arrival) (arrival : Arrival) :
    instantsOf rule (arrivals ++ [arrival]) = instantsOf rule arrivals ++
      (if arrival.concerns rule then [arrival.instant] else []) := by
  unfold instantsOf
  rw [List.filter_append, List.map_append]
  split_ifs with h <;> simp [h]

theorem mem_instantsOf {rule : Rule} {arrivals : List Arrival} {instant : Int}
    (h : instant ∈ instantsOf rule arrivals) : ∃ arrival ∈ arrivals, arrival.instant = instant := by
  obtain ⟨arrival, hmem, rfl⟩ := List.mem_map.mp h
  exact ⟨arrival, List.mem_of_mem_filter hmem, rfl⟩

theorem instantsOf_sorted {rule : Rule} {arrivals : List Arrival}
    (sorted : arrivals.Pairwise (·.instant ≤ ·.instant)) :
    (instantsOf rule arrivals).Pairwise (· ≤ ·) :=
  List.pairwise_map.mpr (sorted.filter _)

/-- A rule is due to notify for an arrival: the arrival concerns it, and fewer of the earlier
arrivals that concern it lie in the same cell of the grid than there are permits. The grid starts at
the first of all these arrivals. -/
def Due (rule : Rule) (settings : Settings) (earlier : List Arrival) (arrival : Arrival) : Prop :=
  let calls := instantsOf rule earlier
  let anchor := calls.headD arrival.instant
  arrival.concerns rule = true ∧
    (callsInCell anchor settings.period calls arrival.instant).length < settings.permits

instance (rule : Rule) (settings : Settings) (earlier : List Arrival) (arrival : Arrival) :
    Decidable (Due rule settings earlier arrival) :=
  inferInstanceAs (Decidable (_ ∧ _))

namespace Processor

/-- Work off an arrival with the rules of a store. -/
def handle (notifier : Notifier) (store : RuleStore) (arrival : Arrival) (processor : Processor) :
    Option MessageReport × Processor :=
  processor.onMessage notifier arrival.instant (some (store.enabledForTopic arrival.topic))
    arrival.raw

/-- Work off arrivals one after the other. -/
def handleAll (notifier : Notifier) (store : RuleStore) (arrivals : List Arrival)
    (processor : Processor) : Processor :=
  arrivals.foldl (fun processor arrival => (handle notifier store arrival processor).2) processor

/-- The processor once it has counted a message. -/
def received (processor : Processor) : Processor :=
  processor.count fun m => { m with messagesReceived := m.messagesReceived + 1 }

@[simp] theorem received_throttle (processor : Processor) :
    processor.received.throttle = processor.throttle := rfl

/-- The visits of the rules of a store to an arrival. -/
def visitsTo (notifier : Notifier) (store : RuleStore) (arrival : Arrival) (processor : Processor) :
    List Visit :=
  visits notifier arrival.instant (Message.parse arrival.raw)
    (store.enabledForTopic arrival.topic) processor.received

/-! ## One message -/

/-- In some visits the actions of a rule are dispatched once if a condition holds, and not at all
otherwise. -/
def NotifiesIff (rule : Rule) (made : List Visit) (condition : Prop) : Prop :=
  (condition → ∃ attempts, notifications rule.id made = [attempts] ∧
    CarriedOut rule.actions attempts) ∧
  (¬condition → notifications rule.id made = [])

theorem notifications_cons (id : String) (visit : Visit) (rest : List Visit) :
    notifications id (visit :: rest) = notifications id [visit] ++ notifications id rest := by
  unfold notifications
  rw [← List.filterMap_append, ← List.filter_append, List.singleton_append]

theorem notifications_of_ne {id : String} {visit : Visit} (h : visit.rule.id ≠ id) :
    notifications id [visit] = [] := by
  simp [notifications, h]

theorem runRule_defaults (notifier : Notifier) (now : Int) (message : Message) (rule : Rule)
    (processor : Processor) :
    (runRule notifier now message rule processor).2.throttle.defaults =
      processor.throttle.defaults := by
  rw [runRule_throttle]
  split_ifs <;> rfl

/-- A rule leaves the windows of other rules alone. -/
theorem window?_runRule_of_ne (notifier : Notifier) (now : Int) (message : Message) {rule : Rule}
    {key : Key} (h : rule.id ≠ key.rule) (processor : Processor) :
    (runRule notifier now message rule processor).2.throttle.window? key =
      processor.throttle.window? key := by
  rw [runRule_throttle]
  split_ifs with hmatch
  · exact Registry.window?_shouldSend_of_ne _ (fun e => h (congrArg Key.rule e).symm) now
  · rfl

section Answering

variable {notifier : Notifier} (answers : ∀ n post, notifier n post ≠ .silent) (now : Int)
  (message : Message)

include answers

theorem runRules_defaults (rules : List Rule) (report : MessageReport) (processor : Processor) :
    (runRules notifier now message rules report processor).2.throttle.defaults =
      processor.throttle.defaults := by
  induction rules generalizing report processor with
  | nil => rfl
  | cons rule rest ih =>
    obtain ⟨report', next, hrun, -, hthrottle, -⟩ :=
      exists_next answers now message rule rest report processor
    rw [hrun, ih, hthrottle, runRule_defaults]

/-- Rules with other ids neither notify in the name of a rule nor touch its windows. -/
theorem visits_of_others {rules : List Rule} {key : Key} (h : key.rule ∉ rules.map (·.id))
    (report : MessageReport) (processor : Processor) :
    notifications key.rule (visits notifier now message rules processor) = [] ∧
      (runRules notifier now message rules report processor).2.throttle.window? key =
        processor.throttle.window? key := by
  induction rules generalizing report processor with
  | nil => exact ⟨rfl, rfl⟩
  | cons rule rest ih =>
    rw [List.map_cons, List.mem_cons, not_or] at h
    obtain ⟨hne, hrest⟩ := h
    obtain ⟨report', next, hrun, hvisits, hthrottle, -⟩ :=
      exists_next answers now message rule rest report processor
    obtain ⟨hnone, hwindow⟩ := ih hrest report' next
    rw [hrun, hvisits, hwindow, hthrottle, notifications_cons, hnone,
      notifications_of_ne (Ne.symm hne), window?_runRule_of_ne _ _ _ (Ne.symm hne)]
    exact ⟨rfl, rfl⟩

/-- In its own visit a rule notifies if the message matches it and its window admits a call, and
its window has taken a call if the message matches. -/
theorem verdict_of_rule (rule : Rule) {settings : Settings} {processor : Processor}
    (hsettings : settingsOf processor.throttle rule.toRuleSpec = settings) :
    NotifiesIff rule [⟨rule, verdict notifier now message rule processor⟩]
        (rule.isMatch message = true ∧
          ((processor.throttle.windowAt ⟨rule.id, settings⟩ now).tryAcquire now).1 = true) ∧
      (runRule notifier now message rule processor).2.throttle.window? ⟨rule.id, settings⟩ =
        if rule.isMatch message then
          some ((processor.throttle.windowAt ⟨rule.id, settings⟩ now).tryAcquire now).2
        else processor.throttle.window? ⟨rule.id, settings⟩ := by
  subst hsettings
  have hanswer := Registry.shouldSend_answer processor.throttle rule.id
    (settingsOf processor.throttle rule.toRuleSpec) now
  rw [runRule_throttle, ← hanswer]
  rcases hmatch : rule.isMatch message with _ | _
  · simp [NotifiesIff, notifications, verdict, hmatch]
  · refine ⟨?_, by simp [Registry.window?_shouldSend_self]⟩
    rcases hallowed : (processor.throttle.shouldSend rule.id
      (settingsOf processor.throttle rule.toRuleSpec) now).1 with _ | _
    · simp [NotifiesIff, notifications, verdict, hmatch, hallowed]
    · have hdone := carriedOut_attempts answers message rule.actions processor.journal
      simp [NotifiesIff, notifications, verdict, hmatch, hallowed, hdone]

/-- Among rules with different ids, a rule notifies if the message matches it and its window, as it
is before any of them looks at the message, admits a call. -/
theorem visits_of_rule {rules : List Rule} (nodup : (rules.map (·.id)).Nodup) {rule : Rule}
    (mem : rule ∈ rules) {settings : Settings} (report : MessageReport) {processor : Processor}
    (hsettings : settingsOf processor.throttle rule.toRuleSpec = settings) :
    NotifiesIff rule (visits notifier now message rules processor)
        (rule.isMatch message = true ∧
          ((processor.throttle.windowAt ⟨rule.id, settings⟩ now).tryAcquire now).1 = true) ∧
      (runRules notifier now message rules report processor).2.throttle.window?
          ⟨rule.id, settings⟩ =
        if rule.isMatch message then
          some ((processor.throttle.windowAt ⟨rule.id, settings⟩ now).tryAcquire now).2
        else processor.throttle.window? ⟨rule.id, settings⟩ := by
  induction rules generalizing report processor with
  | nil => exact absurd mem List.not_mem_nil
  | cons first rest ih =>
    rw [List.map_cons, List.nodup_cons] at nodup
    obtain ⟨hfirst, hnodup⟩ := nodup
    obtain ⟨report', next, hrun, hvisits, hthrottle, -⟩ :=
      exists_next answers now message first rest report processor
    rw [hrun, hvisits]
    rcases List.mem_cons.mp mem with rfl | hmem
    · obtain ⟨hown, hwindow⟩ := verdict_of_rule answers now message rule hsettings
      have hothers : (⟨rule.id, settings⟩ : Key).rule ∉ rest.map (·.id) := hfirst
      obtain ⟨hnone, hkept⟩ := visits_of_others answers now message hothers report' next
      refine ⟨?_, by rw [hkept, hthrottle, hwindow]⟩
      unfold NotifiesIff at hown ⊢
      rw [notifications_cons, hnone, List.append_nil]
      exact hown
    · have hne : first.id ≠ rule.id := fun e => hfirst (e ▸ List.mem_map_of_mem hmem)
      have hkept : next.throttle.window? ⟨rule.id, settings⟩ =
          processor.throttle.window? ⟨rule.id, settings⟩ := by
        rw [hthrottle]
        exact window?_runRule_of_ne notifier now message hne processor
      have hnext : settingsOf next.throttle rule.toRuleSpec = settings := by
        rw [← hsettings]
        unfold settingsOf Registry.effective
        rw [hthrottle, runRule_defaults]
      have hrest := ih hnodup hmem report' hnext
      unfold NotifiesIff Registry.windowAt at hrest ⊢
      rw [hkept] at hrest
      rw [notifications_cons, notifications_of_ne hne, List.nil_append]
      exact hrest

end Answering

/-! ## One arrival -/

/-- The work on an arrival is that of the rules in force on its topic. -/
theorem handle_eq (notifier : Notifier) (store : RuleStore) (arrival : Arrival)
    (processor : Processor) :
    let run := runRules notifier arrival.instant (Message.parse arrival.raw)
      (store.enabledForTopic arrival.topic) {} processor.received
    (handle notifier store arrival processor).1 = run.1 ∧
      (handle notifier store arrival processor).2.throttle = run.2.throttle ∧
      (handle notifier store arrival processor).2.journal.posts = run.2.journal.posts := by
  intro run
  have hrun : runRules notifier arrival.instant (Message.parse arrival.raw)
      (store.enabledForTopic arrival.topic) {} (processor.count fun m =>
        { m with messagesReceived := m.messagesReceived + 1 }) = run := rfl
  unfold handle onMessage
  dsimp only
  rw [hrun]
  rcases run with ⟨_ | report, processor'⟩
  · exact ⟨rfl, rfl, rfl⟩
  · exact ⟨rfl, rfl, rfl⟩

theorem handleAll_append (notifier : Notifier) (store : RuleStore) (arrivals : List Arrival)
    (arrival : Arrival) (processor : Processor) :
    handleAll notifier store (arrivals ++ [arrival]) processor =
      (handle notifier store arrival (handleAll notifier store arrivals processor)).2 := by
  simp [handleAll]

section Store

variable {notifier : Notifier} (answers : ∀ n post, notifier n post ≠ .silent) {store : RuleStore}
  {rule : Rule} {settings : Settings}

include answers

theorem handle_defaults (arrival : Arrival) (processor : Processor) :
    (handle notifier store arrival processor).2.throttle.defaults =
      processor.throttle.defaults := by
  obtain ⟨-, hthrottle, -⟩ := handle_eq notifier store arrival processor
  rw [hthrottle, runRules_defaults answers]
  rfl

/-- An arrival is worked off to its end, and the notifier was handed what the visits say. -/
theorem handle_posts (arrival : Arrival) (processor : Processor) :
    (handle notifier store arrival processor).1.isSome ∧
      (handle notifier store arrival processor).2.journal.posts = processor.journal.posts ++
        (visitsTo notifier store arrival processor).flatMap
          (Visit.posts (Message.parse arrival.raw)) := by
  obtain ⟨hreport, -, hjournal⟩ := handle_eq notifier store arrival processor
  rw [hreport, hjournal]
  exact runRules_posts answers arrival.instant (Message.parse arrival.raw)
    (store.enabledForTopic arrival.topic) {} processor.received

/-- A rule in force notifies for an arrival if the arrival concerns it and its window admits a
call, and its window takes a call for every arrival that concerns it. -/
theorem visitsTo_of_rule (keyed : store.Keyed) (mem : rule ∈ store.rules)
    (enabled : rule.enabled = true) (arrival : Arrival) {processor : Processor}
    (hsettings : settingsOf processor.throttle rule.toRuleSpec = settings) :
    NotifiesIff rule (visitsTo notifier store arrival processor)
        (arrival.concerns rule = true ∧
          ((processor.throttle.windowAt ⟨rule.id, settings⟩ arrival.instant).tryAcquire
            arrival.instant).1 = true) ∧
      (handle notifier store arrival processor).2.throttle.window? ⟨rule.id, settings⟩ =
        if arrival.concerns rule then
          some ((processor.throttle.windowAt ⟨rule.id, settings⟩ arrival.instant).tryAcquire
            arrival.instant).2
        else processor.throttle.window? ⟨rule.id, settings⟩ := by
  obtain ⟨-, hthrottle, -⟩ := handle_eq notifier store arrival processor
  rw [hthrottle]
  unfold visitsTo Arrival.concerns
  by_cases htopic : arrival.topic = rule.topic
  · have hmem : rule ∈ store.enabledForTopic arrival.topic :=
      RuleStore.mem_enabledForTopic.mpr ⟨mem, htopic.symm, enabled⟩
    have hrule := visits_of_rule answers arrival.instant (Message.parse arrival.raw)
      (keyed.nodup_enabledForTopic _) hmem {}
      (show settingsOf processor.received.throttle _ = settings from hsettings)
    simpa [htopic] using hrule
  · have hothers : (⟨rule.id, settings⟩ : Key).rule ∉
        (store.enabledForTopic arrival.topic).map (·.id) :=
      keyed.id_notMem_enabledForTopic mem (Ne.symm htopic)
    obtain ⟨hnone, hkept⟩ := visits_of_others answers arrival.instant (Message.parse arrival.raw)
      hothers {} processor.received
    simp only at hnone
    rw [hkept]
    simp [NotifiesIff, hnone, htopic]

/-! ## Many arrivals -/

theorem handleAll_defaults (arrivals : List Arrival) (processor : Processor) :
    (handleAll notifier store arrivals processor).throttle.defaults =
      processor.throttle.defaults := by
  induction arrivals using List.reverseRecOn with
  | nil => rfl
  | append_singleton arrivals arrival ih =>
    rw [handleAll_append, handle_defaults answers, ih]

/-- The window that a rule is asked about is the one made at the first arrival that concerned it,
after a call for each arrival that did. -/
theorem window?_handleAll (keyed : store.Keyed) (mem : rule ∈ store.rules)
    (enabled : rule.enabled = true) {processor : Processor}
    (hsettings : settingsOf processor.throttle rule.toRuleSpec = settings)
    (fresh : processor.throttle.window? ⟨rule.id, settings⟩ = none) (arrivals : List Arrival) :
    (handleAll notifier store arrivals processor).throttle.window? ⟨rule.id, settings⟩ =
      windowOf settings (instantsOf rule arrivals) := by
  induction arrivals using List.reverseRecOn with
  | nil => exact fresh
  | append_singleton arrivals arrival ih =>
    have hnow : settingsOf (handleAll notifier store arrivals processor).throttle
        rule.toRuleSpec = settings := by
      rw [← hsettings]
      unfold settingsOf Registry.effective
      rw [handleAll_defaults answers]
    obtain ⟨-, hwindow⟩ := visitsTo_of_rule answers keyed mem enabled arrival hnow
    rw [handleAll_append, hwindow, instantsOf_append]
    unfold Registry.windowAt
    rw [ih]
    split_ifs with hconcerns
    · rw [windowOf_append]
    · rw [List.append_nil]

end Store

/-! ## A rule that notifies once a minute -/

/-- A rule that every message on its topic matches. -/
def minuteRule : Rule where
  name := "any load"
  topic := "load"
  source := .obj []
  actions := [Action.slack "http://hook" "load"]
  enabled := true
  description := none
  periodMinutes := some 1
  permits := none
  id := "rule"
  createdAt := 0
  updatedAt := 0

theorem minuteRule_isMatch (message : Message) : minuteRule.isMatch message = true := by
  simp [RuleSpec.isMatch, RuleSpec.expression, minuteRule, Expression.parse,
    Expression.parseMembers, Expression.conjunction, Expression.holds, Expression.allHold]

/-- An arrival on the topic of the rule, so many seconds after the first one. -/
def loadAfter (seconds : Int) : Arrival := ⟨seconds * nanosOfSecond, "load", "1"⟩

end Processor

end TopicAlerts
