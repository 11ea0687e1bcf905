import Mathlib.Tactic.SplitIfs
import TopicAlerts.Processor

/-!
# What the rules make of a message

While a message is worked off, every rule in force on its topic visits it in turn. A `Visit` records
what came of it: the rule did not match, or was throttled, or its actions were tried, each with how
that ended.

The record is faithful. How the work on a rule ends is what its visit says (`runRule_eq_run`), and
what the notifier was handed is what the visits of all the rules list (`runRules_posts`). A crash
of the notifier ends the visit of one rule only, so that all rules visit every message as long as
the notifier answers (`visits_rules`).
-/

namespace TopicAlerts

/-- An action that was tried. -/
structure Attempt where
  action : Action
  /-- How it ended. -/
  outcome : Outcome

/-- What a rule in force made of a message. -/
inductive Verdict
  /-- The message does not match the rule. -/
  | unmatched
  /-- It matches, but the throttle held the rule back. -/
  | throttled
  /-- It matches, and the actions of the rule were dispatched: these were tried. -/
  | notified (attempts : List Attempt)

/-- The visit of a rule to a message. -/
structure Visit where
  rule : Rule
  /-- What it made of the message. -/
  verdict : Verdict

/-- An action is of the known sort and for the known provider. -/
structure Action.IsSupported (action : Action) : Prop where
  kind : action.kind? = some .call
  provider : action.provider? = some .slack

/-- An action says what to send, and where to. -/
structure Action.IsComplete (action : Action) : Prop where
  address : ∃ url, action.param? "webhookURL" = some url ∧ url ≠ ""
  text : ∃ template, action.param? "message" = some template

/-- An attempt ended as its action lets it: what says what to send and where to is handed to the
notifier, which sends it, fails or crashes, and nothing else is. -/
def Attempt.Fits (attempt : Attempt) : Prop :=
  match attempt.outcome with
  | .unsupported => ¬attempt.action.IsSupported
  | .invalid => attempt.action.IsSupported ∧ ¬attempt.action.IsComplete
  | .sent | .failed | .crashed | .stuck =>
    attempt.action.IsSupported ∧ attempt.action.IsComplete

/-- Whether the actions behind an action are still tried when it ended so. -/
def Outcome.goesOn : Outcome → Bool
  | .sent | .failed | .unsupported | .invalid => true
  | .crashed | .stuck => false

/-- The actions of a rule were carried out: all of them in order, up to a crash of the notifier. -/
inductive CarriedOut : List Action → List Attempt → Prop
  | done : CarriedOut [] []
  /-- An action ended without a crash, and the others were carried out. -/
  | next {action : Action} {outcome : Outcome} {actions : List Action} {attempts : List Attempt}
      (fits : Attempt.Fits ⟨action, outcome⟩) (goesOn : outcome.goesOn)
      (rest : CarriedOut actions attempts) :
      CarriedOut (action :: actions) (⟨action, outcome⟩ :: attempts)
  | crash {action : Action} {actions : List Action} (fits : Attempt.Fits ⟨action, .crashed⟩) :
      CarriedOut (action :: actions) [⟨action, .crashed⟩]

/-- What the notifier was handed in an attempt. -/
def Attempt.posts (message : Message) (attempt : Attempt) : List Post :=
  match attempt.outcome with
  | .unsupported | .invalid => []
  | .sent | .failed | .crashed | .stuck => (attempt.action.post? message).toList

/-- What the notifier was handed in a visit. -/
def Visit.posts (message : Message) (visit : Visit) : List Post :=
  match visit.verdict with
  | .unmatched | .throttled => []
  | .notified attempts => attempts.flatMap (Attempt.posts message)

/-- The attempts of each visit of a rule in which its actions were dispatched. -/
def notifications (id : String) (visits : List Visit) : List (List Attempt) :=
  (visits.filter (·.rule.id == id)).filterMap fun visit =>
    match visit.verdict with
    | .notified attempts => some attempts
    | .unmatched | .throttled => none

/-- How attempts end for a rule, the sums before them being those of the report. -/
def RuleRun.ofAttempts (report : MessageReport) : List Attempt → RuleRun
  | [] => .done report
  | attempt :: rest =>
    match attempt.outcome with
    | .sent => ofAttempts { report with dispatched := report.dispatched + 1 } rest
    | .failed | .unsupported | .invalid =>
      ofAttempts { report with failed := report.failed + 1 } rest
    | .crashed => .crashed
    | .stuck => .stuck

/-- How the work on a rule ends with a verdict. -/
def Verdict.run : Verdict → RuleRun
  | .unmatched => .done { evaluated := 1 }
  | .throttled => .done { evaluated := 1, matched := 1, throttled := 1 }
  | .notified attempts => RuleRun.ofAttempts { evaluated := 1, matched := 1 } attempts

namespace Processor

/-- The actions that are tried, the first being the first of the list. -/
def attempts (notifier : Notifier) (message : Message) : List Action → Journal → List Attempt
  | [], _ => []
  | action :: rest, journal =>
    let (outcome, journal) := action.dispatch notifier message journal
    ⟨action, outcome⟩ :: (if outcome.goesOn then attempts notifier message rest journal else [])

/-- What a rule makes of a message. -/
def verdict (notifier : Notifier) (now : Int) (message : Message) (rule : Rule)
    (processor : Processor) : Verdict :=
  let settings := settingsOf processor.throttle rule.toRuleSpec
  if !rule.isMatch message then .unmatched
  else if !(processor.throttle.shouldSend rule.id settings now).1 then .throttled
  else .notified (attempts notifier message rule.actions processor.journal)

/-- The visits of rules to a message, one after the other. -/
def visits (notifier : Notifier) (now : Int) (message : Message) :
    List Rule → Processor → List Visit
  | [], _ => []
  | rule :: rest, processor =>
    ⟨rule, verdict notifier now message rule processor⟩ ::
      match runRule notifier now message rule processor with
      | (.done _, processor) => visits notifier now message rest processor
      | (.crashed, processor) =>
        visits notifier now message rest
          (processor.count fun m => { m with ruleFaults := m.ruleFaults + 1 })
      | (.stuck, _) => []

/-! ## Actions -/

/-- An action hands the notifier what its attempt says. -/
theorem dispatch_posts (action : Action) (notifier : Notifier) (message : Message)
    (journal : Journal) :
    (action.dispatch notifier message journal).2.posts = journal.posts ++
      Attempt.posts message ⟨action, (action.dispatch notifier message journal).1⟩ := by
  unfold Action.dispatch
  split
  · split
    · rename_i post hpost
      unfold Journal.send
      cases notifier journal.posts.length post <;> simp [Attempt.posts, Journal.count, hpost]
    · simp [Attempt.posts]
  · simp [Attempt.posts]

theorem exists_post_iff (action : Action) (message : Message) :
    (∃ post, action.post? message = some post) ↔ action.IsComplete := by
  unfold Action.post?
  constructor
  · rintro ⟨post, hpost⟩
    obtain ⟨url, hurl, hrest⟩ := Option.bind_eq_some_iff.mp hpost
    obtain ⟨haddress, hne⟩ := Option.filter_eq_some_iff.mp hurl
    obtain ⟨template, htext, -⟩ := Option.bind_eq_some_iff.mp hrest
    exact ⟨⟨url, haddress, by simpa using hne⟩, template, htext⟩
  · rintro ⟨⟨url, haddress, hne⟩, template, htext⟩
    have hurl : (some url).filter (!·.isEmpty) = some url :=
      Option.filter_eq_some_iff.mpr ⟨rfl, by simpa using hne⟩
    exact ⟨_, by rw [haddress, htext, hurl]; rfl⟩

/-- What becomes of an action fits what it says. -/
theorem dispatch_fits (action : Action) (notifier : Notifier) (message : Message)
    (journal : Journal) : Attempt.Fits ⟨action, (action.dispatch notifier message journal).1⟩ := by
  unfold Action.dispatch
  split
  · rename_i hkind hprovider
    have hsupported : action.IsSupported := ⟨hkind, hprovider⟩
    split
    · rename_i post hpost
      have hcomplete := (exists_post_iff action message).mp ⟨post, hpost⟩
      unfold Journal.send
      cases notifier journal.posts.length post <;> exact ⟨hsupported, hcomplete⟩
    · rename_i hnone
      refine ⟨hsupported, fun hcomplete => ?_⟩
      obtain ⟨post, hpost⟩ := (exists_post_iff action message).mpr hcomplete
      cases hnone.symm.trans hpost
  · rename_i hother
    exact fun hsupported => hother hsupported.kind hsupported.provider

theorem dispatch_ne_stuck {notifier : Notifier} (answers : ∀ n post, notifier n post ≠ .silent)
    (action : Action) (message : Message) (journal : Journal) :
    (action.dispatch notifier message journal).1 ≠ .stuck := by
  unfold Action.dispatch
  split
  · split
    · rename_i post _
      have := answers journal.posts.length post
      unfold Journal.send
      cases h : notifier journal.posts.length post <;> simp_all
    · simp
  · simp

/-- What an action does depends on the texts that were handed over, not on the counts. -/
theorem dispatch_congr (action : Action) (notifier : Notifier) (message : Message)
    {journal other : Journal} (h : journal.posts = other.posts) :
    (action.dispatch notifier message journal).1 = (action.dispatch notifier message other).1 ∧
      (action.dispatch notifier message journal).2.posts =
        (action.dispatch notifier message other).2.posts := by
  unfold Action.dispatch
  split
  · split
    · rename_i post _
      unfold Journal.send
      rw [h]
      cases notifier other.posts.length post <;> exact ⟨rfl, rfl⟩
    · exact ⟨rfl, h⟩
  · exact ⟨rfl, h⟩

theorem attempts_congr (notifier : Notifier) (message : Message) (actions : List Action)
    {journal other : Journal} (h : journal.posts = other.posts) :
    attempts notifier message actions journal = attempts notifier message actions other := by
  induction actions generalizing journal other with
  | nil => rfl
  | cons action rest ih =>
    obtain ⟨houtcome, hposts⟩ := dispatch_congr action notifier message h
    unfold attempts
    simp only [houtcome, ih hposts]

theorem runActions_run (notifier : Notifier) (message : Message) (actions : List Action)
    (report : MessageReport) (journal : Journal) :
    (runActions notifier message actions report journal).1 =
      RuleRun.ofAttempts report (attempts notifier message actions journal) := by
  induction actions generalizing report journal with
  | nil => rfl
  | cons action rest ih =>
    unfold runActions attempts
    rcases action.dispatch notifier message journal with ⟨outcome, journal'⟩
    cases outcome <;> simp [RuleRun.ofAttempts, Outcome.goesOn, ih]

theorem runActions_posts (notifier : Notifier) (message : Message) (actions : List Action)
    (report : MessageReport) (journal : Journal) :
    (runActions notifier message actions report journal).2.posts = journal.posts ++
      (attempts notifier message actions journal).flatMap (Attempt.posts message) := by
  induction actions generalizing report journal with
  | nil => simp [runActions, attempts]
  | cons action rest ih =>
    have hposts := dispatch_posts action notifier message journal
    unfold runActions attempts
    rcases hd : action.dispatch notifier message journal with ⟨outcome, journal'⟩
    simp only [hd] at hposts
    cases outcome <;> simp [Outcome.goesOn, ih, hposts, List.append_assoc]

theorem carriedOut_attempts {notifier : Notifier} (answers : ∀ n post, notifier n post ≠ .silent)
    (message : Message) (actions : List Action) (journal : Journal) :
    CarriedOut actions (attempts notifier message actions journal) := by
  induction actions generalizing journal with
  | nil => exact .done
  | cons action rest ih =>
    have hne := dispatch_ne_stuck answers action message journal
    have hfits := dispatch_fits action notifier message journal
    unfold attempts
    rcases hd : action.dispatch notifier message journal with ⟨outcome, journal'⟩
    rw [hd] at hne hfits
    by_cases hgo : outcome.goesOn
    · simp only [hgo, if_true]
      exact .next hfits hgo (ih journal')
    · cases outcome with
      | crashed => exact .crash hfits
      | stuck => exact absurd rfl hne
      | sent | failed | unsupported | invalid => exact absurd rfl hgo

/-! ## Rules -/

@[simp] theorem count_throttle (processor : Processor) (change : Metrics → Metrics) :
    (processor.count change).throttle = processor.throttle := rfl

@[simp] theorem count_posts (processor : Processor) (change : Metrics → Metrics) :
    (processor.count change).journal.posts = processor.journal.posts := rfl

section Rule

variable (notifier : Notifier) (now : Int) (message : Message) (rule : Rule)
  (processor : Processor)

@[simp] theorem attempts_count (actions : List Action) (change : Metrics → Metrics) :
    attempts notifier message actions (processor.count change).journal =
      attempts notifier message actions processor.journal :=
  attempts_congr notifier message actions rfl

/-- How the work on a rule ends is what its verdict says. -/
theorem runRule_eq_run :
    (runRule notifier now message rule processor).1 =
      (verdict notifier now message rule processor).run := by
  rcases hmatch : rule.isMatch message with _ | _
  · simp [runRule, verdict, hmatch, Verdict.run]
  · rcases hallowed : (processor.throttle.shouldSend rule.id
      (settingsOf processor.throttle rule.toRuleSpec) now).1 with _ | _
    · simp [runRule, verdict, hmatch, hallowed, Verdict.run]
    · simp [runRule, verdict, hmatch, hallowed, Verdict.run, runActions_run]

theorem runRule_posts :
    (runRule notifier now message rule processor).2.journal.posts = processor.journal.posts ++
      Visit.posts message ⟨rule, verdict notifier now message rule processor⟩ := by
  rcases hmatch : rule.isMatch message with _ | _
  · simp [runRule, verdict, hmatch, Visit.posts]
  · rcases hallowed : (processor.throttle.shouldSend rule.id
      (settingsOf processor.throttle rule.toRuleSpec) now).1 with _ | _
    · simp [runRule, verdict, hmatch, hallowed, Visit.posts]
    · simp [runRule, verdict, hmatch, hallowed, Visit.posts, runActions_posts]

/-- A rule asks the throttle once if the message matches it, however its actions end. -/
theorem runRule_throttle :
    (runRule notifier now message rule processor).2.throttle =
      if rule.isMatch message then
        (processor.throttle.shouldSend rule.id (settingsOf processor.throttle rule.toRuleSpec)
          now).2
      else processor.throttle := by
  rcases hmatch : rule.isMatch message with _ | _
  · simp [runRule, hmatch]
  · rcases hallowed : (processor.throttle.shouldSend rule.id
      (settingsOf processor.throttle rule.toRuleSpec) now).1 with _ | _ <;>
      simp [runRule, hmatch, hallowed]

end Rule

theorem ofAttempts_ne_stuck {actions : List Action} {attempts : List Attempt}
    (h : CarriedOut actions attempts) (report : MessageReport) :
    RuleRun.ofAttempts report attempts ≠ .stuck := by
  induction h generalizing report with
  | done => simp [RuleRun.ofAttempts]
  | @next _ outcome _ _ _ goesOn _ ih =>
    cases outcome <;> simp_all [RuleRun.ofAttempts, Outcome.goesOn]
  | crash => simp [RuleRun.ofAttempts]

theorem runRule_ne_stuck {notifier : Notifier} (answers : ∀ n post, notifier n post ≠ .silent)
    (now : Int) (message : Message) (rule : Rule) (processor : Processor) :
    (runRule notifier now message rule processor).1 ≠ .stuck := by
  rw [runRule_eq_run]
  unfold verdict
  simp only
  split_ifs
  · simp [Verdict.run]
  · simp [Verdict.run]
  · exact ofAttempts_ne_stuck (carriedOut_attempts answers ..) _

/-! ## Messages -/

section Answering

variable {notifier : Notifier} (answers : ∀ n post, notifier n post ≠ .silent) (now : Int)
  (message : Message)

include answers

/-- However the work on a rule ends, the rules behind it go on with the windows and the posts that
it left. -/
theorem exists_next (rule : Rule) (rest : List Rule) (report : MessageReport)
    (processor : Processor) :
    ∃ report' next,
      runRules notifier now message (rule :: rest) report processor =
        runRules notifier now message rest report' next ∧
      visits notifier now message (rule :: rest) processor =
        ⟨rule, verdict notifier now message rule processor⟩ ::
          visits notifier now message rest next ∧
      next.throttle = (runRule notifier now message rule processor).2.throttle ∧
      next.journal.posts = (runRule notifier now message rule processor).2.journal.posts := by
  have hne := runRule_ne_stuck answers now message rule processor
  conv in runRules _ _ _ (_ :: _) _ _ => unfold runRules
  conv in visits _ _ _ (_ :: _) _ => unfold visits
  rcases hrun : runRule notifier now message rule processor with ⟨part | _ | _, processor'⟩
  · exact ⟨_, processor', rfl, rfl, rfl, rfl⟩
  · exact ⟨_, processor'.count _, rfl, rfl, rfl, rfl⟩
  · exact absurd (congrArg Prod.fst hrun) hne

/-- The work on some rules comes to an end, and the notifier was handed what their visits say. -/
theorem runRules_posts (rules : List Rule) (report : MessageReport) (processor : Processor) :
    (runRules notifier now message rules report processor).1.isSome ∧
      (runRules notifier now message rules report processor).2.journal.posts =
        processor.journal.posts ++
          (visits notifier now message rules processor).flatMap (Visit.posts message) := by
  induction rules generalizing report processor with
  | nil => simp [runRules, visits]
  | cons rule rest ih =>
    obtain ⟨report', next, hrun, hvisits, -, hposts⟩ :=
      exists_next answers now message rule rest report processor
    obtain ⟨hsome, hrest⟩ := ih report' next
    rw [hrun, hvisits]
    refine ⟨hsome, ?_⟩
    rw [hrest, hposts, runRule_posts, List.flatMap_cons, List.append_assoc]

theorem visits_rules (rules : List Rule) (processor : Processor) :
    (visits notifier now message rules processor).map (·.rule) = rules := by
  induction rules generalizing processor with
  | nil => rfl
  | cons rule rest ih =>
    obtain ⟨-, next, -, hvisits, -, -⟩ :=
      exists_next answers now message rule rest {} processor
    rw [hvisits, List.map_cons, ih]

end Answering

end Processor

end TopicAlerts
