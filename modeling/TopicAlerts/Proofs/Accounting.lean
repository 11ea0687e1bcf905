import TopicAlerts.Proofs.NotificationLaw

/-!
# The accounts of the message processor

The processor gives a report of each message, and counts what it does in the metrics. Both are kept
while the work goes on: a report is the sum of what its rules add, and a rule that crashes adds
nothing but the crash; the metrics have already counted what it did until then.

The report of a message is in order (`MessageReport.Accounts`) and the metrics record what the
reports say (`Journal.Records`). Both are sums, so it is enough to look at the visit of one rule
(`exists_next_records`); the visits of a message and the messages of a run add up
(`Processor.deliverAll_accounts`).
-/

namespace TopicAlerts

open Throttle

/-! ## Calls of the notifier -/

/-- Whether the notifier comes back from a call that it answers so. -/
def Answer.returns : Answer → Bool
  | .sent | .failed => true
  | .crashed | .silent => false

/-- From how many of some calls the notifier comes back, the first of them being its `n`-th. -/
def returned (notifier : Notifier) (n : Nat) (posts : List Post) : Nat :=
  (posts.zipIdx n).countP fun (post, call) => (notifier call post).returns

@[simp] theorem returned_nil (notifier : Notifier) (n : Nat) : returned notifier n [] = 0 := rfl

theorem returned_singleton (notifier : Notifier) (n : Nat) (post : Post) :
    returned notifier n [post] = if (notifier n post).returns then 1 else 0 := by
  simp [returned, List.countP_singleton]

theorem returned_append (notifier : Notifier) (n : Nat) (posts others : List Post) :
    returned notifier n (posts ++ others) =
      returned notifier n posts + returned notifier (n + posts.length) others := by
  unfold returned
  rw [List.zipIdx_append, List.countP_append]

/-- From one journal to a later one so many notifications were sent and so many failed: the counts
of both have grown by that, as many calls of the notifier have come back, and nothing else was
counted. -/
structure Journal.Delivers (notifier : Notifier) (before after : Journal) (sent failed : Nat) :
    Prop where
  metrics : after.metrics = { before.metrics with
    notificationsSent := before.metrics.notificationsSent + sent
    notificationsFailed := before.metrics.notificationsFailed + failed }
  calls : ∃ made, after.posts = before.posts ++ made ∧
    sent + failed = returned notifier before.posts.length made

theorem Journal.Delivers.none (notifier : Notifier) (journal : Journal) :
    journal.Delivers notifier journal 0 0 :=
  ⟨rfl, [], by simp, rfl⟩

theorem Journal.Delivers.trans {notifier : Notifier} {first second third : Journal}
    {sent failed sent' failed' : Nat} (h : first.Delivers notifier second sent failed)
    (h' : second.Delivers notifier third sent' failed') :
    first.Delivers notifier third (sent + sent') (failed + failed') := by
  obtain ⟨made, hposts, hcount⟩ := h.calls
  obtain ⟨made', hposts', hcount'⟩ := h'.calls
  refine ⟨?_, made ++ made', by rw [hposts', hposts, List.append_assoc], ?_⟩
  · rw [h'.metrics, h.metrics]
    simp only [Nat.add_assoc]
  · rw [hposts, List.length_append] at hcount'
    rw [returned_append]
    omega

namespace Processor

/-- An action delivers its notification if it has one. -/
theorem dispatch_delivers (action : Action) (notifier : Notifier) (message : Message)
    (journal : Journal) :
    journal.Delivers notifier (action.dispatch notifier message journal).2
      (if (action.dispatch notifier message journal).1 == .sent then 1 else 0)
      (if (action.dispatch notifier message journal).1 == .failed then 1 else 0) := by
  unfold Action.dispatch
  split
  · split
    · rename_i post _
      have hcall := returned_singleton notifier journal.posts.length post
      rcases hanswer : notifier journal.posts.length post with _ | _ | _ | _ <;>
        rw [hanswer] at hcall <;> simp only [Journal.send, hanswer] <;>
        exact ⟨rfl, [post], rfl, hcall.symm⟩
    · exact .none notifier journal
  · exact .none notifier journal

theorem runActions_delivers (notifier : Notifier) (message : Message) (actions : List Action)
    (report : MessageReport) (journal : Journal) :
    journal.Delivers notifier (runActions notifier message actions report journal).2
      ((attempts notifier message actions journal).countP (·.outcome == .sent))
      ((attempts notifier message actions journal).countP (·.outcome == .failed)) := by
  induction actions generalizing report journal with
  | nil => exact .none notifier journal
  | cons action rest ih =>
    have hfirst := dispatch_delivers action notifier message journal
    unfold runActions attempts
    rcases hd : action.dispatch notifier message journal with ⟨outcome, journal'⟩
    rw [hd] at hfirst
    simp only [List.countP_cons, Nat.add_comm (List.countP _ _)]
    cases outcome with
    | sent | failed | unsupported | invalid => exact hfirst.trans (ih _ journal')
    -- no action behind this one is tried
    | crashed | stuck => exact hfirst

theorem length_of_carriedOut {actions : List Action} {attempts : List Attempt}
    (h : CarriedOut actions attempts) (complete : attempts.all (·.outcome.goesOn)) :
    attempts.length = actions.length := by
  induction h with
  | done => rfl
  | next _ _ _ ih =>
    rw [List.all_cons, Bool.and_eq_true] at complete
    rw [List.length_cons, List.length_cons, ih complete.2]
  | crash => exact absurd complete (by simp [Outcome.goesOn])

/-- When the actions of a rule were carried out, the work on it ends with a crash, or with the sum
of what was sent and what was not. -/
theorem ofAttempts_of_carriedOut {actions : List Action} {attempts : List Attempt}
    (h : CarriedOut actions attempts) (report : MessageReport) :
    RuleRun.ofAttempts report attempts =
      if attempts.all (·.outcome.goesOn) then
        .done { report with
          dispatched := report.dispatched + attempts.countP (·.outcome == .sent)
          failed := report.failed + attempts.countP (·.outcome != .sent) }
      else .crashed := by
  induction h generalizing report with
  | done => rfl
  | @next _ outcome _ _ _ goesOn _ ih =>
    have hone (n k : Nat) : n + 1 + k = n + (k + 1) := by omega
    cases outcome with
    | crashed | stuck => exact absurd goesOn (by simp [Outcome.goesOn])
    | sent | failed | unsupported | invalid =>
      simp [RuleRun.ofAttempts, ih, Outcome.goesOn, hone]
  | crash => rfl

end Processor

/-! ## The counts of messages -/

/-- From one journal to a later one so many messages came in, and this is the sum of their reports:
what the counts have grown by. A rule that crashed was evaluated and had matched; what it sent until
then was counted, but is not in the report. -/
structure Journal.Records (notifier : Notifier) (before after : Journal) (messages : Nat)
    (report : MessageReport) : Prop where
  received : after.metrics.messagesReceived = before.metrics.messagesReceived + messages
  evaluated : after.metrics.rulesEvaluated =
    before.metrics.rulesEvaluated + (report.evaluated + report.faulted)
  matched : after.metrics.rulesMatched =
    before.metrics.rulesMatched + (report.matched + report.faulted)
  throttled : after.metrics.notificationsThrottled =
    before.metrics.notificationsThrottled + report.throttled
  faults : after.metrics.ruleFaults = before.metrics.ruleFaults + report.faulted
  sent_ge : before.metrics.notificationsSent + report.dispatched ≤ after.metrics.notificationsSent
  sent_eq : report.faulted = 0 →
    after.metrics.notificationsSent = before.metrics.notificationsSent + report.dispatched
  /-- Each call of the notifier that came back was counted as sent or as failed. -/
  calls : ∃ made, after.posts = before.posts ++ made ∧
    after.metrics.notificationsSent + after.metrics.notificationsFailed =
      before.metrics.notificationsSent + before.metrics.notificationsFailed +
        returned notifier before.posts.length made

theorem Journal.Records.trans {notifier : Notifier} {first second third : Journal}
    {messages messages' : Nat} {report report' : MessageReport}
    (h : first.Records notifier second messages report)
    (h' : second.Records notifier third messages' report') :
    first.Records notifier third (messages + messages') (report.add report') := by
  obtain ⟨received, evaluated, matched, throttled, faults, sent_ge, sent_eq, calls⟩ := h
  obtain ⟨received', evaluated', matched', throttled', faults', sent_ge', sent_eq', calls'⟩ := h'
  obtain ⟨made, hposts, hcount⟩ := calls
  obtain ⟨made', hposts', hcount'⟩ := calls'
  rw [hposts, List.length_append] at hcount'
  have hcalls := returned_append notifier first.posts.length made made'
  unfold MessageReport.add
  refine ⟨by omega, by dsimp only; omega, by dsimp only; omega, by dsimp only; omega,
    by dsimp only; omega, by dsimp only; omega, fun hnone => ?_, made ++ made', ?_, by omega⟩
  · obtain ⟨hnone, hnone'⟩ := Nat.add_eq_zero_iff.mp hnone
    have := sent_eq hnone
    have := sent_eq' hnone'
    dsimp only
    omega
  · rw [hposts', hposts, List.append_assoc]

/-- The journal once a rule was evaluated. -/
def Journal.evaluated (journal : Journal) : Journal :=
  journal.count fun m => { m with rulesEvaluated := m.rulesEvaluated + 1 }

/-- The journal once a rule matched. -/
def Journal.matched (journal : Journal) : Journal :=
  journal.count fun m => { m with rulesMatched := m.rulesMatched + 1 }

/-- The journal once a rule was throttled. -/
def Journal.throttled (journal : Journal) : Journal :=
  journal.count fun m => { m with notificationsThrottled := m.notificationsThrottled + 1 }

/-- The journal once a rule crashed. -/
def Journal.faulted (journal : Journal) : Journal :=
  journal.count fun m => { m with ruleFaults := m.ruleFaults + 1 }

/-- The journal once a message was worked off. -/
def Journal.workedOff (journal : Journal) : Journal :=
  journal.count fun m => { m with latencyCount := m.latencyCount + 1 }

section Counts

variable (notifier : Notifier) (journal : Journal)

theorem Journal.Records.none : journal.Records notifier journal 0 {} :=
  ⟨rfl, rfl, rfl, rfl, rfl, le_rfl, fun _ => rfl, [], (List.append_nil _).symm, rfl⟩

theorem Journal.evaluated_records :
    journal.Records notifier journal.evaluated 0 { evaluated := 1 } :=
  ⟨rfl, rfl, rfl, rfl, rfl, le_rfl, fun _ => rfl, [], (List.append_nil _).symm, rfl⟩

theorem Journal.matched_records :
    journal.Records notifier journal.matched 0 { matched := 1 } :=
  ⟨rfl, rfl, rfl, rfl, rfl, le_rfl, fun _ => rfl, [], (List.append_nil _).symm, rfl⟩

theorem Journal.throttled_records :
    journal.Records notifier journal.throttled 0 { throttled := 1 } :=
  ⟨rfl, rfl, rfl, rfl, rfl, le_rfl, fun _ => rfl, [], (List.append_nil _).symm, rfl⟩

theorem Journal.workedOff_records : journal.Records notifier journal.workedOff 0 {} :=
  ⟨rfl, rfl, rfl, rfl, rfl, le_rfl, fun _ => rfl, [], (List.append_nil _).symm, rfl⟩

theorem Processor.received_records (processor : Processor) :
    processor.journal.Records notifier processor.received.journal 1 {} :=
  ⟨rfl, rfl, rfl, rfl, rfl, le_rfl, fun _ => rfl, [], (List.append_nil _).symm, rfl⟩

end Counts

/-- What is sent while a rule is worked on goes into its report. -/
theorem Journal.Delivers.records {notifier : Notifier} {before after : Journal} {sent failed : Nat}
    (h : before.Delivers notifier after sent failed) (notSent : Nat) :
    before.Records notifier after 0 { dispatched := sent, failed := notSent } := by
  obtain ⟨metrics, made, hposts, hcount⟩ := h
  obtain ⟨posts, counts⟩ := after
  subst metrics hposts
  exact ⟨rfl, rfl, rfl, rfl, rfl, le_rfl, fun _ => rfl, made, rfl, by dsimp only; omega⟩

/-- When a rule crashes, its report is dropped, and the crash is counted instead. -/
theorem Journal.Records.crashed {notifier : Notifier} {before after : Journal}
    {report : MessageReport} (h : before.Records notifier after 0 report)
    (evaluated : report.evaluated = 1) (matched : report.matched = 1)
    (throttled : report.throttled = 0) (faulted : report.faulted = 0) :
    before.Records notifier after.faulted 0 { faulted := 1 } where
  received := h.received
  evaluated := h.evaluated.trans (by rw [evaluated, faulted]; rfl)
  matched := h.matched.trans (by rw [matched, faulted]; rfl)
  throttled := h.throttled.trans (by rw [throttled])
  faults := congrArg (· + 1) (h.faults.trans (by rw [faulted, Nat.add_zero]))
  sent_ge := (Nat.le_add_right ..).trans h.sent_ge
  sent_eq := fun none => absurd none Nat.one_ne_zero
  calls := h.calls

/-! ## The visit of a rule -/

/-- Whether the actions of the rule were dispatched and none of them crashed. -/
def Verdict.isComplete : Verdict → Bool
  | .unmatched | .throttled => false
  | .notified attempts => attempts.all (·.outcome.goesOn)

/-- What a visit adds to the report of the message. -/
def Verdict.report : Verdict → MessageReport
  | .unmatched => { evaluated := 1 }
  | .throttled => { evaluated := 1, matched := 1, throttled := 1 }
  | .notified attempts =>
    if attempts.all (·.outcome.goesOn) then
      { evaluated := 1
        matched := 1
        dispatched := attempts.countP (·.outcome == .sent)
        failed := attempts.countP (·.outcome != .sent) }
    else { faulted := 1 }

/-- The rules that were admitted and did not crash. -/
def completed (made : List Visit) : List Rule :=
  (made.filter (·.verdict.isComplete)).map (·.rule)

/-- The report of a message is in order for the visits of some rules. -/
structure MessageReport.Accounts (report : MessageReport) (rules : List Rule) (made : List Visit) :
    Prop where
  visited : made.map (·.rule) = rules
  rules_eq : report.evaluated + report.faulted = rules.length
  throttled_le : report.throttled ≤ report.matched
  matched_le : report.matched ≤ report.evaluated
  completed_eq : report.matched - report.throttled = (completed made).length
  actions_eq : report.dispatched + report.failed = ((completed made).map (·.actions.length)).sum

theorem MessageReport.Accounts.none : MessageReport.Accounts {} [] [] :=
  ⟨rfl, rfl, le_rfl, le_rfl, rfl, rfl⟩

theorem MessageReport.Accounts.append {report report' : MessageReport} {rules rules' : List Rule}
    {made made' : List Visit} (h : report.Accounts rules made)
    (h' : report'.Accounts rules' made') :
    (report.add report').Accounts (rules ++ rules') (made ++ made') := by
  obtain ⟨visited, rules_eq, throttled_le, matched_le, completed_eq, actions_eq⟩ := h
  obtain ⟨visited', rules_eq', throttled_le', matched_le', completed_eq', actions_eq'⟩ := h'
  have hcompleted : completed (made ++ made') = completed made ++ completed made' := by
    simp [completed]
  unfold MessageReport.add
  refine ⟨by rw [List.map_append, visited, visited'], ?_, ?_, ?_, ?_, ?_⟩
  · rw [List.length_append]
    dsimp only
    omega
  · exact Nat.add_le_add throttled_le throttled_le'
  · exact Nat.add_le_add matched_le matched_le'
  · rw [hcompleted, List.length_append]
    dsimp only
    omega
  · rw [hcompleted, List.map_append, List.sum_append]
    dsimp only
    omega

theorem MessageReport.add_assoc (a b c : MessageReport) : (a.add b).add c = a.add (b.add c) := by
  simp only [MessageReport.add, Nat.add_assoc]

theorem MessageReport.zero_add (report : MessageReport) :
    MessageReport.add {} report = report := by
  simp only [MessageReport.add, Nat.zero_add]

/-- The sums of some reports. -/
def MessageReport.total (reports : List MessageReport) : MessageReport :=
  reports.foldr MessageReport.add {}

/-- A message that is worked off, and what it meets. -/
structure Delivery where
  arrival : Arrival
  /-- The rules at that time, if they can be reached. -/
  store? : Option RuleStore
  /-- What was done to the throttle windows since the message before. -/
  meanwhile : Registry → Registry

/-- The rules in force on the topic of the message, if they can be reached. -/
def Delivery.rules? (delivery : Delivery) : Option (List Rule) :=
  delivery.store?.map (·.enabledForTopic delivery.arrival.topic)

namespace Processor

/-- The processor that a message meets. -/
def metBy (delivery : Delivery) (processor : Processor) : Processor :=
  { processor with throttle := delivery.meanwhile processor.throttle }

/-- Work off a message. -/
def deliver (notifier : Notifier) (delivery : Delivery) (processor : Processor) :
    Option MessageReport × Processor :=
  (processor.metBy delivery).onMessage notifier delivery.arrival.instant delivery.rules?
    delivery.arrival.raw

/-- The visits of the rules to a message. -/
def visitsOf (notifier : Notifier) (delivery : Delivery) (processor : Processor) : List Visit :=
  visits notifier delivery.arrival.instant (Message.parse delivery.arrival.raw)
    (delivery.rules?.getD []) (processor.metBy delivery).received

/-- Work off messages one after the other, and list their reports. -/
def deliverAll (notifier : Notifier) :
    List Delivery → Processor → List (Option MessageReport) × Processor
  | [], processor => ([], processor)
  | delivery :: rest, processor =>
    let (report, processor) := deliver notifier delivery processor
    let (reports, processor) := deliverAll notifier rest processor
    (report :: reports, processor)

section Rule

variable (notifier : Notifier) (now : Int) (message : Message) (rule : Rule)
  (processor : Processor)

theorem runRule_journal :
    (runRule notifier now message rule processor).2.journal =
      match verdict notifier now message rule processor with
      | .unmatched => processor.journal.evaluated
      | .throttled => processor.journal.evaluated.matched.throttled
      | .notified _ => (runActions notifier message rule.actions { evaluated := 1, matched := 1 }
          processor.journal.evaluated.matched).2 := by
  rcases hmatch : rule.isMatch message with _ | _
  · simp [runRule, verdict, hmatch, Journal.evaluated, count]
  · rcases hallowed : (processor.throttle.shouldSend rule.id
      (settingsOf processor.throttle rule.toRuleSpec) now).1 with _ | _
    · simp [runRule, verdict, hmatch, hallowed, Journal.evaluated, Journal.matched,
        Journal.throttled, count]
    · simp [runRule, verdict, hmatch, hallowed, Journal.evaluated, Journal.matched, count]

theorem attempts_of_notified {made : List Attempt}
    (h : verdict notifier now message rule processor = .notified made) :
    made = attempts notifier message rule.actions processor.journal.evaluated.matched := by
  unfold verdict at h
  dsimp only at h
  split_ifs at h
  cases h
  exact attempts_congr notifier message rule.actions rfl

end Rule

section Answering

variable {notifier : Notifier} (answers : ∀ n post, notifier n post ≠ .silent) (now : Int)
  (message : Message)

include answers

/-- The work on a rule ends with what its visit adds to the report, which is then recorded; or it
ends with a crash, and what the visit adds is recorded once the crash is counted. -/
theorem runRule_records (rule : Rule) (processor : Processor) :
    let seen := verdict notifier now message rule processor
    let after := (runRule notifier now message rule processor).2.journal
    (runRule notifier now message rule processor).1 = .done seen.report ∧
        processor.journal.Records notifier after 0 seen.report ∨
      (runRule notifier now message rule processor).1 = .crashed ∧ seen.report = { faulted := 1 } ∧
        processor.journal.Records notifier after.faulted 0 { faulted := 1 } := by
  intro seen after
  have hafter : after = _ := runRule_journal notifier now message rule processor
  rw [hafter, runRule_eq_run]
  change seen.run = _ ∧ _ ∨ seen.run = _ ∧ _
  have hmatched := (processor.journal.evaluated_records notifier).trans
    (processor.journal.evaluated.matched_records notifier)
  rcases hseen : verdict notifier now message rule processor with _ | _ | made
  · rw [show seen = .unmatched from hseen]
    exact .inl ⟨rfl, processor.journal.evaluated_records notifier⟩
  · rw [show seen = .throttled from hseen]
    exact .inl ⟨rfl, hmatched.trans (Journal.throttled_records notifier _)⟩
  · rw [show seen = .notified made from hseen]
    have hmade := attempts_of_notified notifier now message rule processor hseen
    have hcarried : CarriedOut rule.actions made := hmade ▸ carriedOut_attempts answers ..
    -- what was sent counts, whether or not the report of the rule is kept
    have hdelivers := runActions_delivers notifier message rule.actions
      { evaluated := 1, matched := 1 } processor.journal.evaluated.matched
    rw [← hmade] at hdelivers
    have hrecords := hmatched.trans (hdelivers.records (made.countP (·.outcome != .sent)))
    rw [Verdict.run, ofAttempts_of_carriedOut hcarried, Verdict.report]
    by_cases hcomplete : made.all (·.outcome.goesOn)
    · simp only [hcomplete, if_true]
      exact .inl ⟨by simp, by simpa [MessageReport.add] using hrecords⟩
    · rw [if_neg hcomplete, if_neg hcomplete]
      exact .inr ⟨rfl, rfl, hrecords.crashed rfl rfl rfl rfl⟩

/-- However the visit of a rule ends, the rules behind it go on with what it has added to the
report, and the counts record that. -/
theorem exists_next_records (rule : Rule) (rest : List Rule) (report : MessageReport)
    (processor : Processor) :
    let seen := verdict notifier now message rule processor
    ∃ next,
      runRules notifier now message (rule :: rest) report processor =
        runRules notifier now message rest (report.add seen.report) next ∧
      visits notifier now message (rule :: rest) processor =
        ⟨rule, seen⟩ :: visits notifier now message rest next ∧
      processor.journal.Records notifier next.journal 0 seen.report := by
  intro seen
  conv in runRules _ _ _ (_ :: _) _ _ => unfold runRules
  conv in visits _ _ _ (_ :: _) _ => unfold visits
  obtain ⟨hrun, hrecords⟩ | ⟨hrun, hreport, hrecords⟩ :=
    runRule_records answers now message rule processor
  · rw [Prod.ext (y := (_, (runRule notifier now message rule processor).2)) hrun rfl]
    exact ⟨_, rfl, rfl, hrecords⟩
  · rw [show seen.report = _ from hreport,
      Prod.ext (y := (_, (runRule notifier now message rule processor).2)) hrun rfl]
    exact ⟨_, rfl, rfl, hrecords⟩

/-- What a visit adds to the report of a message is in order. -/
theorem verdict_accounts (rule : Rule) (processor : Processor) :
    let seen := verdict notifier now message rule processor
    seen.report.Accounts [rule] [⟨rule, seen⟩] := by
  intro seen
  rcases hseen : seen with _ | _ | made
  · exact ⟨rfl, rfl, le_rfl, Nat.zero_le 1, rfl, rfl⟩
  · exact ⟨rfl, rfl, le_rfl, le_rfl, rfl, rfl⟩
  have hmade := attempts_of_notified notifier now message rule processor hseen
  have hcarried : CarriedOut rule.actions made := hmade ▸ carriedOut_attempts answers ..
  by_cases hcomplete : made.all (·.outcome.goesOn)
  · have hlength := length_of_carriedOut hcarried hcomplete
    -- each action was sent, or counts as failed
    have hsplit : made.length = made.countP (·.outcome == .sent) +
        made.countP (·.outcome != .sent) := by
      simpa only [bne, decide_not, Bool.decide_eq_true] using
        List.length_eq_countP_add_countP (fun attempt : Attempt => attempt.outcome == .sent)
    have hcompleted : completed [⟨rule, .notified made⟩] = [rule] := by
      simp [completed, Verdict.isComplete, hcomplete]
    rw [Verdict.report, if_pos hcomplete]
    refine ⟨rfl, rfl, Nat.zero_le 1, le_rfl, by rw [hcompleted]; rfl, ?_⟩
    rw [hcompleted, List.map_singleton, List.sum_singleton, ← hlength, hsplit]
  · have hcompleted : completed [⟨rule, .notified made⟩] = [] := by
      simp [completed, Verdict.isComplete, hcomplete]
    rw [Verdict.report, if_neg hcomplete]
    exact ⟨rfl, rfl, le_rfl, le_rfl, by rw [hcompleted]; rfl, by rw [hcompleted]; rfl⟩

/-- The work on some rules comes to an end. What it adds to the report is in order for their visits,
and is recorded. -/
theorem runRules_accounts (rules : List Rule) (report : MessageReport) (processor : Processor) :
    ∃ sum,
      (runRules notifier now message rules report processor).1 = some (report.add sum) ∧
      sum.Accounts rules (visits notifier now message rules processor) ∧
      processor.journal.Records notifier
        (runRules notifier now message rules report processor).2.journal 0 sum := by
  -- the sum of the rules before is carried along, and the statement is about what is added to it
  induction rules generalizing report processor with
  | nil => exact ⟨{}, rfl, .none, .none notifier processor.journal⟩
  | cons rule rest ih =>
    obtain ⟨next, hrun, hvisits, hrecords⟩ :=
      exists_next_records answers now message rule rest report processor
    have hfirst := verdict_accounts answers now message rule processor
    set part := (verdict notifier now message rule processor).report
    obtain ⟨sum, hsum, haccounts, hrest⟩ := ih (report.add part) next
    refine ⟨part.add sum, ?_, ?_, ?_⟩
    · rw [hrun, hsum, MessageReport.add_assoc]
    · rw [hvisits]
      exact hfirst.append haccounts
    · rw [hrun]
      exact hrecords.trans hrest

/-- A message is worked off to its end; its report is in order, and the counts record it. -/
theorem onMessage_accounts (reached : Option (List Rule)) (raw : String) (processor : Processor) :
    ∃ report,
      (processor.onMessage notifier now reached raw).1 = some report ∧
      report.Accounts (reached.getD [])
        (visits notifier now (Message.parse raw) (reached.getD []) processor.received) ∧
      processor.journal.Records notifier (processor.onMessage notifier now reached raw).2.journal 1
        report := by
  have hreceived := received_records notifier processor
  rcases reached with _ | rules
  · exact ⟨{}, rfl, .none, hreceived⟩
  · obtain ⟨sum, hsum, haccounts, hrecords⟩ :=
      runRules_accounts answers now (Message.parse raw) rules {} processor.received
    rcases hrun : runRules notifier now (Message.parse raw) rules {} processor.received with
      ⟨done, after⟩
    rw [hrun] at hsum hrecords
    rw [MessageReport.zero_add] at hsum
    have hall := hreceived.trans hrecords
    rw [MessageReport.zero_add] at hall
    have hwork : runRules notifier now (Message.parse raw) rules {} (processor.count fun m =>
        { m with messagesReceived := m.messagesReceived + 1 }) = (some sum, after) :=
      hrun.trans (Prod.ext hsum rfl)
    unfold onMessage
    dsimp only
    rw [hwork]
    exact ⟨sum, rfl, haccounts, hall.trans (after.journal.workedOff_records notifier)⟩

/-- Each message is worked off to its end, whatever the rules, the windows and the answers of the
notifier are, and its report accounts for the rules in force on its topic. Over a run of messages,
the counts record what the reports add up to. -/
theorem deliverAll_accounts :
    (∀ delivery processor, ∃ report,
      (deliver notifier delivery processor).1 = some report ∧
      report.Accounts (delivery.rules?.getD []) (visitsOf notifier delivery processor)) ∧
    ∀ deliveries processor, ∃ reports : List MessageReport,
      (deliverAll notifier deliveries processor).1 = reports.map some ∧
      processor.journal.Records notifier (deliverAll notifier deliveries processor).2.journal
        reports.length (MessageReport.total reports) := by
  have hmessage (delivery : Delivery) (processor : Processor) :=
    onMessage_accounts answers delivery.arrival.instant delivery.rules? delivery.arrival.raw
      (processor.metBy delivery)
  refine ⟨fun delivery processor => ?_, fun deliveries => ?_⟩
  · obtain ⟨report, hreport, haccounts, -⟩ := hmessage delivery processor
    exact ⟨report, hreport, haccounts⟩
  induction deliveries with
  | nil => exact fun processor => ⟨[], rfl, .none notifier processor.journal⟩
  | cons delivery rest ih =>
    intro processor
    obtain ⟨report, hreport, -, hrecords⟩ := hmessage delivery processor
    obtain ⟨reports, hreports, hrest⟩ := ih (deliver notifier delivery processor).2
    refine ⟨report :: reports, ?_, ?_⟩
    · exact congrArg₂ List.cons hreport hreports
    · rw [List.length_cons, Nat.add_comm]
      exact hrecords.trans hrest

end Answering

/-- Of two messages the first makes the notifier crash. Both are counted, and so is the work of the
rule on both of them. -/
theorem crashedOnce_accounts :
    let notifier : Notifier := fun n _ => if n = 0 then .crashed else .sent
    let store : RuleStore := ⟨[minuteRule], .numbered⟩
    let processor : Processor := ⟨Registry.empty Settings.standard, Journal.empty⟩
    let load (seconds : Int) : Delivery := ⟨loadAfter seconds, some store, id⟩
    let counts := (deliverAll notifier [load 0, load 60] processor).2.journal.metrics
    counts.messagesReceived = 2 ∧ counts.rulesEvaluated = 2 := by
  intro notifier store processor load counts
  have answers : ∀ n post, notifier n post ≠ .silent := by
    intro n post
    unfold notifier
    split_ifs <;> simp
  obtain ⟨hmessage, hrun⟩ := deliverAll_accounts answers
  obtain ⟨first, hfirst, firstAccounts⟩ := hmessage (load 0) processor
  obtain ⟨second, hsecond, secondAccounts⟩ :=
    hmessage (load 60) (deliver notifier (load 0) processor).2
  obtain ⟨reports, hreports, hrecords⟩ := hrun [load 0, load 60] processor
  have hboth : reports = [first, second] := by
    have hlist : (deliverAll notifier [load 0, load 60] processor).1 = [some first, some second] :=
      congrArg₂ (fun a b => [a, b]) hfirst hsecond
    rw [hreports] at hlist
    exact List.map_injective_iff.mpr (Option.some_injective _) hlist
  subst hboth
  refine ⟨hrecords.received, ?_⟩
  have hevaluated : counts.rulesEvaluated = 0 +
      (first.evaluated + (second.evaluated + 0) + (first.faulted + (second.faulted + 0))) :=
    hrecords.evaluated
  have hone : first.evaluated + first.faulted = 1 := firstAccounts.rules_eq
  have hother : second.evaluated + second.faulted = 1 := secondAccounts.rules_eq
  omega

end Processor

end TopicAlerts
