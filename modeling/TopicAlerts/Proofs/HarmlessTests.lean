import TopicAlerts.Proofs.WindowHistory

/-!
# When test calls are harmless

A test call asks in the name of a rule, but with the default settings. It takes its permit from the
window of the rule with these settings, so it does not matter for a rule whose settings are others:
the calls that concern its window are the same with and without the tests.

A rule with the default settings has just this window. There a test takes a permit that the rule
misses later, unless its settings are such that there is nothing to take: without permits no call is
ever admitted, and with a period of no length every call is.

`Registry.tests_harmless_iff` says that these are the only cases.
-/

namespace TopicAlerts.Throttle

namespace Call

/-- Whether a call asks if a rule with these settings may notify. -/
def asksToSend (rule : String) (settings : Settings) : Call → Bool
  | .shouldSend asking own _ => asking == rule && own == settings
  | .test _ _ | .clear _ | .clearAll | .forgetStale _ _ => false

/-- Whether a call is a test in the name of a rule. -/
def isTestOf (rule : String) : Call → Bool
  | .test asking _ => asking == rule
  | .shouldSend _ _ _ | .clear _ | .clearAll | .forgetStale _ _ => false

variable {defaults settings : Settings} {rule : String} {call : Call}

theorem exists_of_asksToSend (hsend : call.asksToSend rule settings = true) :
    ∃ now, call = .shouldSend rule settings now := by
  cases call with
  | shouldSend asking own now =>
    simp only [asksToSend, Bool.and_eq_true, beq_iff_eq] at hsend
    obtain ⟨rfl, rfl⟩ := hsend
    exact ⟨now, rfl⟩
  | test asking now => cases hsend
  | clear asking => cases hsend
  | clearAll => cases hsend
  | forgetStale asking current => cases hsend

theorem asks_of_asksToSend (hsend : call.asksToSend rule settings = true) :
    call.asks defaults ⟨rule, settings⟩ = true := by
  obtain ⟨now, rfl⟩ := exists_of_asksToSend hsend
  simp [asks, question?]

theorem not_isTestOf_of_asksToSend {other : String} (hsend : call.asksToSend rule settings = true) :
    call.isTestOf other = false := by
  obtain ⟨now, rfl⟩ := exists_of_asksToSend hsend
  rfl

/-- A test does not concern the window of a rule whose settings are not the default ones. -/
theorem not_isTestOf_of_concerns (hdiffers : settings ≠ defaults)
    (hconcerns : call.concerns defaults ⟨rule, settings⟩ = true) : call.isTestOf rule = false := by
  cases call with
  | test asking now =>
    have hother : (⟨asking, defaults⟩ : Key) ≠ ⟨rule, settings⟩ :=
      fun hsame => hdiffers (congrArg Key.settings hsame).symm
    simp [concerns, asks, question?, drops, hother] at hconcerns
  | shouldSend asking own now => rfl
  | clear asking => rfl
  | clearAll => rfl
  | forgetStale asking current => rfl

end Call

namespace Registry

/-- The questions in some calls whether a rule with these settings may notify, each with its
answer. -/
def sendReplies (registry : Registry) (rule : String) (settings : Settings) (calls : List Call) :
    List (Call × Reply) :=
  (registry.replies calls).filter (·.1.asksToSend rule settings)

variable {registry : Registry} {defaults settings : Settings} {rule : String} {key : Key}
  {calls earlier : List Call} {now : Int}

theorem replies_append (calls : List Call) (call : Call) :
    registry.replies (calls ++ [call]) =
      registry.replies calls ++ [(call, ((registry.run calls).reply call).1)] := by
  induction calls generalizing registry with
  | nil => rfl
  | cons first rest ih =>
    rw [List.cons_append, replies, ih]
    rfl

/-! ## Other settings than the default ones -/

/-- The window of a rule with settings of its own is not asked by tests. -/
theorem sendReplies_of_ne (hdiffers : settings ≠ registry.defaults) (calls : List Call) :
    registry.sendReplies rule settings (calls.filter (!·.isTestOf rule)) =
      registry.sendReplies rule settings calls := by
  have hkeeps : ∀ call : Call, call.concerns registry.defaults ⟨rule, settings⟩ = true →
      (!call.isTestOf rule) = true := by
    intro call hconcerns
    rw [Call.not_isTestOf_of_concerns hdiffers hconcerns]
    rfl
  have hagree : Agree ⟨rule, settings⟩ registry registry := ⟨rfl, rfl⟩
  have hasked : (registry.replies (calls.filter (!·.isTestOf rule))).filter
        (·.1.asks registry.defaults ⟨rule, settings⟩) =
      (registry.replies calls).filter (·.1.asks registry.defaults ⟨rule, settings⟩) :=
    hagree.replies hkeeps calls
  -- The questions of the rule are among those about its window.
  have hamong : ∀ replies : List (Call × Reply),
      replies.filter (·.1.asksToSend rule settings) =
        (replies.filter (·.1.asks registry.defaults ⟨rule, settings⟩)).filter
          (·.1.asksToSend rule settings) := by
    intro replies
    rw [List.filter_filter]
    refine List.filter_congr fun reply _ => ?_
    cases hsend : reply.1.asksToSend rule settings with
    | false => rfl
    | true => rw [Call.asks_of_asksToSend hsend, Bool.and_self]
  unfold sendReplies
  rw [hamong, hamong (registry.replies calls), hasked]

/-! ## Settings under which nothing can be taken -/

/-- A window has the settings of its key. -/
theorem windowAt_settings : (((empty defaults).run earlier).windowAt key now).permits =
      key.settings.permits ∧
    (((empty defaults).run earlier).windowAt key now).period = key.settings.period := by
  unfold windowAt
  rw [window?_run]
  cases instantsSince defaults key earlier with
  | nil => exact ⟨rfl, rfl⟩
  | cons first rest => exact Window.after_settings _ _ first (first :: rest)

/-- Without permits no call is admitted, and with a period of no length every other one. -/
theorem reply_of_boundless (hboundless : settings.permits = 0 ∨ settings.period = 0) :
    (((empty defaults).run earlier).reply (.shouldSend rule settings now)).1 =
      .allowed (decide (settings.permits ≠ 0)) := by
  obtain ⟨hpermits, hperiod⟩ := @windowAt_settings defaults ⟨rule, settings⟩ earlier now
  have hanswer : ((((empty defaults).run earlier).windowAt ⟨rule, settings⟩ now).tryAcquire now).1 =
      decide (settings.permits ≠ 0) := by
    unfold Window.tryAcquire
    rw [hpermits, hperiod]
    by_cases hnone : settings.permits = 0
    · simp [hnone]
    · simp [hnone, hboundless.resolve_left hnone]
  exact congrArg Reply.allowed hanswer

/-- Under such settings the answers do not depend on what was asked before. -/
theorem sendReplies_of_boundless (hboundless : settings.permits = 0 ∨ settings.period = 0)
    (earlier calls : List Call) :
    ((empty defaults).run earlier).sendReplies rule settings calls =
      (calls.filter (·.asksToSend rule settings)).map fun call =>
        (call, .allowed (decide (settings.permits ≠ 0))) := by
  induction calls generalizing earlier with
  | nil => rfl
  | cons call rest ih =>
    have hlater : (((empty defaults).run earlier).reply call).2 =
        (empty defaults).run (earlier ++ [call]) := run_append.symm
    unfold sendReplies at ih ⊢
    rw [replies, hlater]
    cases hsend : call.asksToSend rule settings with
    | false =>
      rw [List.filter_cons_of_neg (by simp [hsend]), List.filter_cons_of_neg (by simp [hsend]), ih]
    | true =>
      rw [List.filter_cons_of_pos (by simpa using hsend),
        List.filter_cons_of_pos (by simpa using hsend), List.map_cons, ih]
      obtain ⟨now, rfl⟩ := Call.exists_of_asksToSend hsend
      rw [reply_of_boundless hboundless]

/-! ## The default settings -/

/-- Of the questions about a key at one instant, as many are admitted as there are permits. -/
theorem reply_at_once {call : Call} (hperiod : 0 < key.settings.period)
    (hcalls : ∀ other ∈ calls, other.question? defaults = some (key, now))
    (hcall : call.question? defaults = some (key, now)) :
    (((empty defaults).run calls).reply call).1 =
      .allowed (decide (calls.length < key.settings.permits)) := by
  have hinstants : instantsSince defaults key calls = List.replicate calls.length now := by
    clear hcall
    induction calls using List.reverseRecOn with
    | nil => rfl
    | append_singleton calls last ih =>
      have hlast := hcalls last (by simp)
      rw [instantsSince_append, drops_of_question hlast, hlast, if_neg Bool.false_ne_true]
      simp [ih fun other hother => hcalls other (by simp [hother]), List.replicate_succ']
  have hinCell : ∀ origin : Int, callsInCell origin key.settings.period
      (List.replicate calls.length now) now = List.replicate calls.length now := by
    intro origin
    rw [callsInCell, List.filter_eq_self]
    intro other hother
    rw [List.eq_of_mem_replicate hother, decide_eq_true_iff]
  have hall : List.replicate calls.length now ++ [now] = List.replicate (calls.length + 1) now :=
    List.replicate_succ'.symm
  have hsorted : (List.replicate calls.length now ++ [now]).Pairwise (· ≤ ·) := by
    rw [hall]
    exact List.pairwise_replicate.mpr (.inr (Int.le_refl now))
  have hspan : ∀ s ∈ List.replicate calls.length now ++ [now],
      ∀ t ∈ List.replicate calls.length now ++ [now],
        t - s < UInt32.size * key.settings.period := by
    intro s hs t ht
    rw [hall] at hs ht
    rw [List.eq_of_mem_replicate hs, List.eq_of_mem_replicate ht, Int.sub_self]
    exact Int.mul_pos (by decide) (by omega)
  have hquestion : call.question? ((empty defaults).run calls).defaults = some (key, now) := by
    rw [defaults_run]
    exact hcall
  obtain ⟨hanswer, -⟩ := reply_of_question hquestion
  rw [hanswer]
  unfold windowAt
  rw [window?_run, hinstants, windowOf_tryAcquire hperiod hsorted hspan, hinCell,
    List.length_replicate]

theorem sendReplies_append (calls : List Call) :
    registry.sendReplies rule settings (calls ++ [.shouldSend rule settings now]) =
      registry.sendReplies rule settings calls ++
        [(.shouldSend rule settings now,
          ((registry.run calls).reply (.shouldSend rule settings now)).1)] := by
  unfold sendReplies
  rw [replies_append, List.filter_append]
  simp [Call.asksToSend]

/-- With the default settings, the last question that would be admitted is refused after a test. -/
theorem sendReplies_ne (rule : String) (hpermits : 0 < defaults.permits)
    (hperiod : 0 < defaults.period) :
    ∃ calls, (empty defaults).sendReplies rule defaults (calls.filter (!·.isTestOf rule)) ≠
      (empty defaults).sendReplies rule defaults calls := by
  obtain ⟨left, hleft⟩ := Nat.exists_eq_add_of_lt hpermits
  let send : Call := .shouldSend rule defaults 0
  let before := List.replicate left send
  refine ⟨(.test rule 0 :: before) ++ [send], fun hsame => ?_⟩
  have hbefore : ∀ other ∈ before, other.question? defaults = some (⟨rule, defaults⟩, 0) := by
    intro other hother
    rw [List.eq_of_mem_replicate hother]
    rfl
  have htested : ∀ other ∈ Call.test rule 0 :: before,
      other.question? defaults = some (⟨rule, defaults⟩, 0) :=
    List.forall_mem_cons.mpr ⟨rfl, hbefore⟩
  have hsends : ((.test rule 0 :: before) ++ [send]).filter (!·.isTestOf rule) =
      before ++ [send] := by
    have hkept : before.filter (!·.isTestOf rule) = before := by
      rw [List.filter_eq_self]
      intro other hother
      rw [List.eq_of_mem_replicate hother]
      rfl
    rw [List.filter_append, List.filter_cons_of_neg (by simp [Call.isTestOf]), hkept]
    rfl
  have hadmitted : (((empty defaults).run before).reply send).1 = .allowed true := by
    have hleast : left < defaults.permits := by omega
    rw [reply_at_once hperiod hbefore rfl, List.length_replicate, decide_eq_true hleast]
  have hrefused : (((empty defaults).run (.test rule 0 :: before)).reply send).1 =
      .allowed false := by
    have hspent : ¬left + 1 < defaults.permits := by omega
    rw [reply_at_once hperiod htested rfl, List.length_cons, List.length_replicate,
      decide_eq_false hspent]
  rw [hsends, sendReplies_append, sendReplies_append, hadmitted, hrefused] at hsame
  have hlast := (List.append_inj' hsame rfl).2
  simp at hlast

/-! ## All settings -/

/-- Whatever was asked before, and whatever else is asked in between: with the settings in effect
for a rule, leaving out the tests in its name changes no answer to it, exactly if these settings are
not the default ones, or are such that tests take nothing. -/
theorem tests_harmless_iff (defaults : Settings) (rule : String) (period permits : Option Nat) :
    let settings := (empty defaults).effective period permits
    (∀ earlier calls : List Call,
      let registry := (empty defaults).run earlier
      registry.sendReplies rule settings (calls.filter (!·.isTestOf rule)) =
        registry.sendReplies rule settings calls) ↔
      settings ≠ defaults ∨ settings.permits = 0 ∨ settings.period = 0 := by
  intro settings
  constructor
  · intro hharmless
    by_contra hneither
    obtain ⟨hdefault, hbounded⟩ := not_or.mp hneither
    obtain ⟨hpermits, hperiod⟩ := not_or.mp hbounded
    rw [not_not] at hdefault
    rw [hdefault] at hharmless hpermits hperiod
    obtain ⟨calls, hdiffers⟩ :=
      sendReplies_ne rule (Nat.pos_of_ne_zero hpermits) (Nat.pos_of_ne_zero hperiod)
    exact hdiffers (hharmless [] calls)
  · rintro (hdiffers | hboundless) earlier calls
    · refine sendReplies_of_ne ?_ calls
      rwa [defaults_run]
    · -- Every answer is the same, and no question of the rule is left out.
      have hkept : (calls.filter (!·.isTestOf rule)).filter (·.asksToSend rule settings) =
          calls.filter (·.asksToSend rule settings) := by
        rw [List.filter_filter]
        refine List.filter_congr fun call _ => ?_
        cases hsend : call.asksToSend rule settings with
        | false => rfl
        | true => rw [Call.not_isTestOf_of_asksToSend hsend]; rfl
      dsimp only
      rw [sendReplies_of_boundless hboundless, sendReplies_of_boundless hboundless, hkept]

/-- With one notification in five minutes, a rule without settings of its own that is tested once
may not notify any more. -/
theorem test_takes_permit :
    ¬∀ (defaults : Settings) (rule : String) (period permits : Option Nat)
      (earlier calls : List Call),
      let settings := (empty defaults).effective period permits
      (∀ call ∈ calls, call.asksToSend rule settings = true ∨ call.isTestOf rule = true) →
        ((empty defaults).run earlier).sendReplies rule settings
            (calls.filter (!·.isTestOf rule)) =
          ((empty defaults).run earlier).sendReplies rule settings calls := by
  intro hharmless
  have hsame := hharmless .standard "cpu" none none []
    [.test "cpu" 0, .shouldSend "cpu" .standard nanosOfSecond] (by decide)
  have hanswers := congrArg (List.map (·.2)) hsame
  revert hanswers
  decide

end Registry

end TopicAlerts.Throttle
