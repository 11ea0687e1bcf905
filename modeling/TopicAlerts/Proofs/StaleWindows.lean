import Mathlib.Data.List.Perm.Subperm
import TopicAlerts.Proofs.ApiRequests
import TopicAlerts.Proofs.Visits
import TopicAlerts.Proofs.WindowHistory

/-!
# No window outlives its settings

A service answers requests and works off messages, one after the other. The windows of its throttle
registry follow the rules of its store: the key of a window carries the default settings, or it
belongs to a rule that is stored, and carries the settings that are in effect for that rule now
(`Throttle.Registry.Follows`).

Messages make windows for rules as they are stored; a request that writes a rule drops the windows
that would not fit any more (`RuleRequest.follows_handler`). `Service.finishAll_windows` puts the
claim together for all that a service may be asked to do.
-/

namespace TopicAlerts

open Throttle

/-- The settings in effect for a rule depend on the default settings of the registry only. -/
theorem Processor.settingsOf_congr {registry other : Registry}
    (same : registry.defaults = other.defaults) (spec : RuleSpec) :
    settingsOf registry spec = settingsOf other spec := by
  unfold settingsOf Registry.effective
  rw [same]

namespace Throttle.Registry

/-- The windows fit the rules of a store. -/
structure Follows (store : RuleStore) (defaults : Settings) (registry : Registry) : Prop where
  defaults_eq : registry.defaults = defaults
  keyed : registry.Keyed
  /-- A key carries the default settings, or those in effect for the stored rule it belongs to. -/
  current : ∀ key ∈ registry.keys, key.settings = defaults ∨
    ∃ rule ∈ store.rules, key = ⟨rule.id, Processor.settingsOf registry rule.toRuleSpec⟩

variable {store after : RuleStore} {defaults : Settings} {registry next : Registry} {now : Int}

theorem follows_empty : (empty defaults).Follows store defaults where
  defaults_eq := rfl
  keyed := keyed_empty
  current key inside := by cases inside

/-- Other rules may be stored, and windows dropped, as long as a stored rule remains for each key
that needs one. -/
theorem Follows.of_keys (follows : registry.Follows store defaults)
    (defaults_eq : next.defaults = registry.defaults) (keyed : next.Keyed)
    (current : ∀ key ∈ next.keys, key ∈ registry.keys ∧
      ∀ rule ∈ store.rules, key = ⟨rule.id, Processor.settingsOf registry rule.toRuleSpec⟩ →
        ∃ rule' ∈ after.rules,
          key = ⟨rule'.id, Processor.settingsOf registry rule'.toRuleSpec⟩) :
    next.Follows after defaults where
  defaults_eq := defaults_eq.trans follows.defaults_eq
  keyed := keyed
  current key inside := by
    obtain ⟨before, remains⟩ := current key inside
    rcases follows.current key before with isDefault | ⟨rule, stored, isOwn⟩
    · exact .inl isDefault
    · obtain ⟨rule', stored', isOwn'⟩ := remains rule stored isOwn
      refine .inr ⟨rule', stored', ?_⟩
      rw [isOwn', Processor.settingsOf_congr defaults_eq]

theorem Follows.retain (follows : registry.Follows store defaults) (keep : Key → Bool) :
    (registry.retain keep).2.Follows store defaults := by
  refine follows.of_keys rfl (follows.keyed.retain keep) fun key inside => ?_
  rw [keys_retain] at inside
  exact ⟨(List.mem_filter.mp inside).1, fun rule stored isOwn => ⟨rule, stored, isOwn⟩⟩

/-- A question makes at most a window of its own key. -/
theorem mem_keys_shouldSend {rule : String} {settings : Settings} {key : Key}
    (inside : key ∈ (registry.shouldSend rule settings now).2.keys) :
    key ∈ registry.keys ∨ key = ⟨rule, settings⟩ := by
  rw [keys_shouldSend] at inside
  split_ifs at inside
  · exact .inl inside
  · rcases List.mem_append.mp inside with before | new
    · exact .inl before
    · exact .inr (List.mem_singleton.mp new)

/-- A question with the default settings may be asked in any name. -/
theorem Follows.test (follows : registry.Follows store defaults) (rule : String) :
    (registry.test rule now).2.Follows store defaults where
  defaults_eq := follows.defaults_eq
  keyed := follows.keyed.shouldSend rule registry.defaults
  current key inside := by
    rcases mem_keys_shouldSend inside with before | new
    · exact follows.current key before
    · left
      rw [new]
      exact follows.defaults_eq

/-- Stored rules may ask with their settings. -/
theorem Follows.ask (follows : registry.Follows store defaults) {rule : Rule}
    (stored : rule ∈ store.rules) :
    (registry.shouldSend rule.id (Processor.settingsOf registry rule.toRuleSpec)
      now).2.Follows store defaults where
  defaults_eq := follows.defaults_eq
  keyed := follows.keyed.shouldSend rule.id _
  current key inside := by
    rcases mem_keys_shouldSend inside with before | new
    · exact follows.current key before
    · exact .inr ⟨rule, stored, new⟩

/-- The keys of a rule. -/
theorem mem_keysOf {rule : String} {key : Key} :
    key ∈ registry.keysOf rule ↔ key ∈ registry.keys ∧ key.rule = rule := by
  unfold keysOf
  rw [List.mem_filter, decide_eq_true_iff]
  rfl

theorem mem_keys_forgetStale {rule : String} {current : Settings}
    {key : Key} : key ∈ (registry.forgetStale rule current).2.keys ↔
      key ∈ registry.keys ∧ (key.rule = rule → key = ⟨rule, current⟩) := by
  unfold forgetStale
  rw [keys_retain, List.mem_filter]
  by_cases own : key.rule = rule <;> simp [own]

theorem mem_keys_clear {rule : String} {key : Key} :
    key ∈ (registry.clear rule).2.keys ↔ key ∈ registry.keys ∧ key.rule ≠ rule := by
  unfold clear
  rw [keys_retain, List.mem_filter, bne_iff_ne]

theorem Follows.length_keysOf_le (follows : registry.Follows store defaults)
    (keyed : store.Keyed) {rule : Rule} (stored : rule ∈ store.rules) :
    (registry.keysOf rule.id).length ≤ 2 := by
  have nodup : (registry.keysOf rule.id).Nodup := follows.keyed.filter _
  have among : registry.keysOf rule.id ⊆
      [⟨rule.id, defaults⟩, ⟨rule.id, Processor.settingsOf registry rule.toRuleSpec⟩] := by
    rintro ⟨owner, settings⟩ inside
    obtain ⟨known, own⟩ := mem_keysOf.mp inside
    obtain rfl : owner = rule.id := own
    rcases follows.current _ known with isDefault | ⟨other, storedToo, isOwn⟩
    · obtain rfl : settings = defaults := isDefault
      exact List.mem_cons_self
    · have sameId : rule.id = other.id := congrArg Key.rule isOwn
      obtain rfl := keyed.eq_of_id_eq stored storedToo sameId
      rw [isOwn]
      exact List.mem_cons_of_mem _ List.mem_cons_self
  exact (List.subperm_of_subset nodup among).length_le

end Throttle.Registry

open Throttle.Registry

/-! ## Messages -/

namespace Processor

variable {notifier : Notifier} {now : Int} {Kept : Registry → Prop}

/-- What the questions of the rules keep, their work on a message keeps, however it ends. -/
theorem throttle_runRules {message : Message} {rules : List Rule}
    (asks : ∀ rule ∈ rules, rule.isMatch message = true → ∀ registry, Kept registry →
      Kept (registry.shouldSend rule.id (settingsOf registry rule.toRuleSpec) now).2)
    (report : MessageReport) {processor : Processor} (start : Kept processor.throttle) :
    Kept (runRules notifier now message rules report processor).2.throttle := by
  induction rules generalizing report processor with
  | nil => exact start
  | cons rule rest ih =>
    have restAsks := fun other inside => asks other (List.mem_cons_of_mem rule inside)
    have next : Kept (runRule notifier now message rule processor).2.throttle := by
      rw [runRule_throttle]
      split_ifs with isMatch
      · exact asks rule List.mem_cons_self isMatch _ start
      · exact start
    unfold runRules
    rcases ran : runRule notifier now message rule processor with ⟨part | _ | _, processor'⟩
    · rw [ran] at next
      exact ih restAsks _ next
    · rw [ran] at next
      exact ih restAsks _ next
    · rw [ran] at next
      exact next

theorem throttle_onMessage (Kept : Registry → Prop) {raw : String} {reached : Option (List Rule)}
    (asks : ∀ rules, reached = some rules → ∀ rule ∈ rules,
      rule.isMatch (Message.parse raw) = true → ∀ registry, Kept registry →
        Kept (registry.shouldSend rule.id (settingsOf registry rule.toRuleSpec) now).2)
    {processor : Processor} (start : Kept processor.throttle) :
    Kept (onMessage notifier now reached raw processor).2.throttle := by
  cases reached with
  | none => exact start
  | some rules =>
    have worked : Kept (runRules notifier now (Message.parse raw) rules {} (processor.count
        fun m => { m with messagesReceived := m.messagesReceived + 1 })).2.throttle :=
      throttle_runRules (asks rules rfl) {} start
    unfold onMessage
    dsimp only
    generalize runRules notifier now (Message.parse raw) rules {} (processor.count
      fun m => { m with messagesReceived := m.messagesReceived + 1 }) = run at worked ⊢
    obtain ⟨report, processor'⟩ := run
    cases report <;> exact worked

end Processor

/-! ## Requests that change the rules -/

namespace RuleRequest

variable {request : RuleRequest} {service : Service} {change : RuleChange} {after : RuleStore}
  {defaults : Settings}

/-- What a request makes of the throttle windows when it is not refused. -/
def throttleAfter (throttle : Registry) : RuleRequest → Registry
  | .create _ _ | .toggle _ _ => throttle
  | .update id spec _ => (throttle.forgetStale id (Processor.settingsOf throttle spec)).2
  | .delete id => (throttle.clear id).2

theorem throttle_of_answered (answered : request.answer service.store = .ok (change, after)) :
    (request.handler service).2.throttle = request.throttleAfter service.throttle := by
  cases request with
  | create spec now =>
    obtain ⟨⟨rule, next⟩, created, -⟩ := map_eq_ok.mp answered
    unfold handler Api.createRule
    simp only [created]
    split_ifs <;> rfl
  | update id spec now =>
    have updated : service.store.update id spec now = .ok (change, after) := answered
    obtain ⟨existing, changed, -, found, -, isChanged, rfl, -⟩ := RuleStore.update_cases updated
    obtain ⟨-, sameId⟩ := RuleStore.mem_of_get? found
    have changedId : changed.id = id := by
      rw [isChanged]
      exact sameId
    have wrote : changed.toRuleSpec = spec := by
      rw [isChanged]
      rfl
    unfold handler Api.updateRule
    simp only [updated, announce_eq, foldl_hint, changedId, wrote]
    rfl
  | delete id =>
    have deleted : service.store.delete id = .ok (change, after) := answered
    unfold handler Api.deleteRule
    simp only [deleted, announce_eq, foldl_hint]
    rfl
  | toggle id now =>
    have toggled : service.store.toggle id now = .ok (change, after) := answered
    obtain ⟨existing, changed, -, -, rfl, -⟩ := RuleStore.toggle_cases toggled
    unfold handler Api.toggleRule
    simp only [toggled, announce_eq, foldl_hint]
    rfl

theorem throttleAfter_defaults (throttle : Registry) (request : RuleRequest) :
    (request.throttleAfter throttle).defaults = throttle.defaults := by
  cases request <;> rfl

theorem throttleAfter_keyed {throttle : Registry} (keyed : throttle.Keyed)
    (request : RuleRequest) : (request.throttleAfter throttle).Keyed := by
  cases request with
  | create spec now => exact keyed
  | update id spec now => exact keyed.retain _
  | delete id => exact keyed.retain _
  | toggle id now => exact keyed

theorem mem_keys_of_throttleAfter {throttle : Registry} {key : Key}
    (inside : key ∈ (request.throttleAfter throttle).keys) : key ∈ throttle.keys := by
  cases request with
  | create spec now => exact inside
  | update id spec now => exact (mem_keys_forgetStale.mp inside).1
  | delete id => exact (mem_keys_clear.mp inside).1
  | toggle id now => exact inside

/-- A window that stays behind for the rule that is written fits the rule as it is now. -/
theorem Effect.fits {throttle : Registry} {id : String} {store : RuleStore}
    (effect : request.Effect store change after id) {rule : Rule}
    (was : store.get? id = some rule)
    (stays : ⟨id, Processor.settingsOf throttle rule.toRuleSpec⟩ ∈
      (request.throttleAfter throttle).keys) :
    ∃ rule', after.get? id = some rule' ∧ Processor.settingsOf throttle rule.toRuleSpec =
      Processor.settingsOf throttle rule'.toRuleSpec := by
  obtain ⟨before, became, -, writes⟩ := effect
  obtain ⟨old, new⟩ := change
  rw [was] at before
  dsimp only at before became writes
  cases writes with
  | create rule' fresh wrote createdAt updatedAt => cases before
  | @update spec now existing rule' sameId wrote createdAt updatedAt =>
    obtain ⟨-, current⟩ := mem_keys_forgetStale.mp stays
    refine ⟨rule', became.symm, ?_⟩
    rw [wrote]
    exact congrArg Key.settings (current rfl)
  | @delete existing => exact absurd rfl (mem_keys_clear.mp stays).2
  | @toggle now existing =>
    cases before
    exact ⟨_, became.symm, rfl⟩

theorem follows_handler (request : RuleRequest) (wellFormed : service.store.WellFormed)
    (follows : service.throttle.Follows service.store defaults) :
    (request.handler service).2.throttle.Follows (request.handler service).2.store defaults := by
  cases answered : request.answer service.store with
  | error error =>
    rw [handler_of_refused answered]
    exact follows
  | ok result =>
    obtain ⟨change, after⟩ := result
    rw [handler_of_answered answered, throttle_of_answered answered]
    obtain ⟨id, effect⟩ := exists_effect wellFormed answered
    refine follows.of_keys (throttleAfter_defaults _ _) (throttleAfter_keyed follows.keyed _) ?_
    intro key stays
    refine ⟨mem_keys_of_throttleAfter stays, fun rule stored isOwn => ?_⟩
    have found : service.store.get? rule.id = some rule :=
      (RuleStore.get?_eq_some_iff wellFormed.keyed).mpr ⟨stored, rfl⟩
    by_cases written : rule.id = id
    · rw [isOwn, written] at stays
      rw [written] at found
      obtain ⟨rule', found', sameSettings⟩ := effect.fits found stays
      obtain ⟨stored', sameId⟩ := RuleStore.mem_of_get? found'
      refine ⟨rule', stored', ?_⟩
      rw [isOwn, written, sameId, sameSettings]
    · rw [← effect.others rule.id written] at found
      exact ⟨rule, (RuleStore.mem_of_get? found).1, isOwn⟩

/-- No request of this kind makes a window. -/
theorem mem_keys_of_handler {key : Key}
    (inside : key ∈ (request.handler service).2.throttle.keys) : key ∈ service.throttle.keys := by
  cases answered : request.answer service.store with
  | error error =>
    rw [handler_of_refused answered] at inside
    exact inside
  | ok result =>
    rw [throttle_of_answered answered] at inside
    exact mem_keys_of_throttleAfter inside

/-- A rule that was changed has no window but that of its new settings. -/
theorem keysOf_of_updated {id : String} {spec : RuleSpec} {now : Int64}
    (wellFormed : service.store.WellFormed) (keyed : service.throttle.Keyed)
    (answered : (RuleRequest.update id spec now).answer service.store = .ok (change, after)) :
    let next := ((RuleRequest.update id spec now).handler service).2
    ∃ rule, next.store.get? id = some rule ∧ (next.throttle.keysOf id).length ≤ 1 ∧
      ∀ key ∈ next.throttle.keysOf id,
        key = ⟨id, Processor.settingsOf next.throttle rule.toRuleSpec⟩ := by
  intro next
  have stored : next.store = after := handler_of_answered answered
  have throttled : next.throttle =
      (service.throttle.forgetStale id (Processor.settingsOf service.throttle spec)).2 :=
    throttle_of_answered answered
  obtain ⟨id', -, became, -, writes⟩ := exists_effect wellFormed answered
  obtain ⟨before, now'⟩ := change
  dsimp only at became writes
  cases writes with
  | @update _ _ existing rule sameId wrote createdAt updatedAt =>
    have own : ∀ key ∈ next.throttle.keysOf existing.id,
        key = ⟨existing.id, Processor.settingsOf next.throttle rule.toRuleSpec⟩ := by
      intro key inside
      obtain ⟨known, ofRule⟩ := mem_keysOf.mp inside
      have sameSettings : Processor.settingsOf next.throttle rule.toRuleSpec =
          Processor.settingsOf service.throttle spec := by
        rw [wrote]
        exact Processor.settingsOf_congr (congrArg Registry.defaults throttled) spec
      rw [sameSettings]
      rw [throttled] at known
      exact (mem_keys_forgetStale.mp known).2 ofRule
    have nodup : (next.throttle.keysOf existing.id).Nodup := by
      have keyedNext : next.throttle.Keyed := by
        rw [throttled]
        exact keyed.retain _
      exact keyedNext.filter _
    refine ⟨rule, ?_, ?_, own⟩
    · rw [stored]
      exact became.symm
    · have among : next.throttle.keysOf existing.id ⊆
          [⟨existing.id, Processor.settingsOf next.throttle rule.toRuleSpec⟩] :=
        fun key inside => List.mem_singleton.mpr (own key inside)
      exact (List.subperm_of_subset nodup among).length_le

/-- A rule that was deleted has no window. -/
theorem keysOf_of_deleted {id : String} (wellFormed : service.store.WellFormed)
    (answered : (RuleRequest.delete id).answer service.store = .ok (change, after)) :
    let next := ((RuleRequest.delete id).handler service).2
    next.store.get? id = none ∧ next.throttle.keysOf id = [] := by
  intro next
  have stored : next.store = after := handler_of_answered answered
  have throttled : next.throttle = (service.throttle.clear id).2 := throttle_of_answered answered
  constructor
  · obtain ⟨id', -, became, -, writes⟩ := exists_effect wellFormed answered
    obtain ⟨before, now'⟩ := change
    dsimp only at became writes
    cases writes with
    | delete =>
      rw [stored]
      exact became.symm
  · rw [List.eq_nil_iff_forall_not_mem]
    intro key inside
    obtain ⟨known, own⟩ := mem_keysOf.mp inside
    rw [throttled] at known
    exact (mem_keys_clear.mp known).2 own

end RuleRequest

/-! ## Tasks of a service -/

namespace Service

/-- What a service may be asked to do. -/
inductive Task
  /-- A request is answered, at a time in milliseconds. -/
  | request (now : Int64) (request : Api.Request)
  /-- The throttle of a rule is tested at an instant. -/
  | test (rule : String) (now : Int)
  /-- A message on a topic is worked off at an instant. -/
  | message (notifier : Notifier) (now : Int) (topic raw : String)

/-- The service after it has finished a task. -/
def finish (service : Service) : Task → Service
  | .request now request => (Api.handle now request service).2
  | .test rule now => service.setThrottle (service.throttle.test rule now).2
  | .message notifier now topic raw =>
    let rules := service.rulesFor topic
    { service with processor := (service.processor.onMessage notifier now rules raw).2 }

/-- The service after it has finished tasks one after the other. -/
def finishAll (service : Service) (tasks : List Task) : Service := tasks.foldl finish service

/-- When a task makes a window with this key: a test makes one with the default settings, and a
message one for each rule that it matches, with the settings in effect for the rule. -/
def Makes (service : Service) (key : Key) : Task → Prop
  | .request _ request =>
    ∃ segment, Api.Resource.ofSegments? request.target.segments = some (.throttleTest segment) ∧
      Api.Target.decodeSegment? segment = some key.rule ∧
      key.settings = service.throttle.defaults
  | .test rule _ => key = ⟨rule, service.throttle.defaults⟩
  | .message _ _ topic raw =>
    ∃ rule ∈ service.store.enabledForTopic topic, rule.isMatch (Message.parse raw) = true ∧
      key = ⟨rule.id, Processor.settingsOf service.throttle rule.toRuleSpec⟩

/-- The windows of a service fit its rules. -/
structure Current (defaults : Settings) (service : Service) : Prop where
  wellFormed : service.store.WellFormed
  follows : service.throttle.Follows service.store defaults

variable {service : Service} {defaults : Settings}

theorem testThrottle_eq_finish (rule : String) :
    (Api.testThrottle rule service).2 = service.finish (.test rule throttleNow) := rfl

theorem eq_enabledForTopic {topic : String} {rules : List Rule}
    (reached : service.rulesFor topic = some rules) :
    rules = service.store.enabledForTopic topic := by
  unfold rulesFor at reached
  split_ifs at reached
  exact (Option.some.inj reached).symm

theorem current_new (settings : ServiceSettings) : (new settings).Current settings.throttle where
  wellFormed := RuleStore.wellFormed_empty settings.ids
  follows := follows_empty

theorem Current.handler (current : service.Current defaults) (request : RuleRequest) :
    (request.handler service).2.Current defaults where
  wellFormed := by
    cases answered : request.answer service.store with
    | error error =>
      rw [RuleRequest.handler_of_refused answered]
      exact current.wellFormed
    | ok result =>
      obtain ⟨change, after⟩ := result
      rw [RuleRequest.handler_of_answered answered]
      exact RuleRequest.wellFormed_of_answered current.wellFormed answered
  follows := request.follows_handler current.wellFormed current.follows

theorem Current.setThrottle (current : service.Current defaults) {throttle : Registry}
    (follows : throttle.Follows service.store defaults) :
    (service.setThrottle throttle).Current defaults where
  wellFormed := current.wellFormed
  follows := follows

theorem Current.test (current : service.Current defaults) (rule : String) (now : Int) :
    (service.finish (.test rule now)).Current defaults :=
  current.setThrottle (current.follows.test rule)

theorem Current.request (current : service.Current defaults) (now : Int64)
    (request : Api.Request) : (service.finish (.request now request)).Current defaults := by
  refine Api.handle_of_handlers (·.Current defaults) current current.handler ?hints ?tests ?clears
    ?clearsAll
  case hints =>
    intro hint
    exact ⟨current.wellFormed, current.follows⟩
  case tests =>
    intro segment rule _ _
    rw [testThrottle_eq_finish]
    exact current.test rule throttleNow
  case clears =>
    intro rule
    have cleared : (service.throttle.clear rule).2.Follows service.store defaults :=
      current.follows.retain _
    exact current.setThrottle cleared
  case clearsAll =>
    have cleared : service.throttle.clearAll.2.Follows service.store defaults := by
      rw [clearAll_eq_retain]
      exact current.follows.retain _
    exact current.setThrottle cleared

theorem Current.message (current : service.Current defaults) (notifier : Notifier) (now : Int)
    (topic raw : String) :
    (service.finish (.message notifier now topic raw)).Current defaults where
  wellFormed := current.wellFormed
  follows := by
    refine Processor.throttle_onMessage (fun registry => registry.Follows service.store
      defaults) (fun rules reached rule looks _ registry follows => ?_) current.follows
    rw [eq_enabledForTopic reached, RuleStore.mem_enabledForTopic] at looks
    exact follows.ask looks.1

/-- Every task keeps the windows in line with the rules. -/
theorem Current.finish (current : service.Current defaults) (task : Task) :
    (service.finish task).Current defaults := by
  cases task with
  | request now request => exact current.request now request
  | test rule now => exact current.test rule now
  | message notifier now topic raw => exact current.message notifier now topic raw

theorem Current.finishAll (current : service.Current defaults) (tasks : List Task) :
    (service.finishAll tasks).Current defaults := by
  induction tasks generalizing service with
  | nil => exact current
  | cons task rest ih => exact ih (current.finish task)

/-! ## Where windows come from -/

theorem makes_request {now : Int64} {request : Api.Request} {key : Key}
    (inside : key ∈ (service.finish (.request now request)).throttle.keys)
    (isNew : key ∉ service.throttle.keys) : service.Makes key (.request now request) := by
  revert inside
  refine Api.handle_of_handlers (fun next => key ∈ next.throttle.keys →
    service.Makes key (.request now request)) ?unchanged ?changes ?hints ?tests ?clears ?clearsAll
  case unchanged => exact fun inside => absurd inside isNew
  case changes => exact fun request inside => absurd (request.mem_keys_of_handler inside) isNew
  case hints => exact fun hint inside => absurd inside isNew
  case tests =>
    intro segment rule found decoded inside
    rcases mem_keys_shouldSend inside with before | new
    · exact absurd before isNew
    · subst new
      exact ⟨segment, found, decoded, rfl⟩
  case clears => exact fun rule inside => absurd (mem_keys_clear.mp inside).1 isNew
  case clearsAll => exact fun inside => by cases inside

theorem makes_message {notifier : Notifier} {now : Int} {topic raw : String} {key : Key}
    (inside : key ∈ (service.finish (.message notifier now topic raw)).throttle.keys)
    (isNew : key ∉ service.throttle.keys) :
    service.Makes key (.message notifier now topic raw) := by
  have made : ∀ key ∈ (service.finish (.message notifier now topic raw)).throttle.keys,
      key ∈ service.throttle.keys ∨ service.Makes key (.message notifier now topic raw) := by
    refine (Processor.throttle_onMessage (fun registry =>
      registry.defaults = service.throttle.defaults ∧ ∀ key ∈ registry.keys,
        key ∈ service.throttle.keys ∨ service.Makes key (.message notifier now topic raw))
      (fun rules reached rule looks isMatch registry kept => ?_)
      ⟨rfl, fun key inside => .inl inside⟩).2
    obtain ⟨sameDefaults, origin⟩ := kept
    rw [eq_enabledForTopic reached] at looks
    refine ⟨sameDefaults, fun key inside => ?_⟩
    rcases mem_keys_shouldSend inside with before | new
    · exact origin key before
    · right
      refine ⟨rule, looks, isMatch, ?_⟩
      rw [new, Processor.settingsOf_congr sameDefaults]
  exact (made key inside).resolve_left isNew

/-- A task adds no windows but those that it makes. -/
theorem makes_of_mem_keys {task : Task} {key : Key}
    (inside : key ∈ (service.finish task).throttle.keys) (isNew : key ∉ service.throttle.keys) :
    service.Makes key task := by
  cases task with
  | request now request => exact makes_request inside isNew
  | test rule now => exact (mem_keys_shouldSend inside).resolve_left isNew
  | message notifier now topic raw => exact makes_message inside isNew

/-! ## Requests that write one rule -/

variable {now : Int64} {request : Api.Request} {segment id : String}

theorem Current.keysOf_put (current : service.Current defaults)
    (found : Api.Resource.ofSegments? request.target.segments = some (.rule segment))
    (decoded : Api.Target.decodeSegment? segment = some id) (isPut : request.method = "PUT")
    (succeeded : (Api.handle now request service).1.status < 400) :
    let next := (Api.handle now request service).2
    ∃ rule, next.store.get? id = some rule ∧ (next.throttle.keysOf id).length ≤ 1 ∧
      ∀ key ∈ next.throttle.keysOf id,
        key = ⟨id, Processor.settingsOf next.throttle rule.toRuleSpec⟩ := by
  rw [Api.handle_rule found decoded (.inl isPut), if_pos isPut] at succeeded ⊢
  rcases Api.withBody_cases request RuleSpec.read (Api.updateRule now id) with
    ⟨spec, reads⟩ | ⟨response, failed, answers⟩
  · rw [reads] at succeeded ⊢
    obtain ⟨change, after, answered⟩ :=
      RuleRequest.answered_of_status (.update id spec now) succeeded
    exact RuleRequest.keysOf_of_updated current.wellFormed current.follows.keyed answered
  · rw [answers] at succeeded
    exact absurd succeeded (Nat.not_lt.mpr failed)

theorem Current.keysOf_delete (current : service.Current defaults)
    (found : Api.Resource.ofSegments? request.target.segments = some (.rule segment))
    (decoded : Api.Target.decodeSegment? segment = some id) (isDelete : request.method = "DELETE")
    (succeeded : (Api.handle now request service).1.status < 400) :
    let next := (Api.handle now request service).2
    next.store.get? id = none ∧ next.throttle.keysOf id = [] := by
  have isNotPut : request.method ≠ "PUT" := by
    rw [isDelete]
    decide
  rw [Api.handle_rule found decoded (.inr isDelete), if_neg isNotPut] at succeeded ⊢
  obtain ⟨change, after, answered⟩ := RuleRequest.answered_of_status (.delete id) succeeded
  exact RuleRequest.keysOf_of_deleted current.wellFormed answered

/-- A service starts empty and finishes any tasks one after the other. Then the key of each window
carries the default settings, or it belongs to a stored rule and carries the settings that are in
effect for this rule now; so a stored rule has no more than two windows. A request that changes a
rule leaves it no window but that of its new settings, and one that deletes it leaves none. Windows
are made by tests, with the default settings, and by messages, for the rules that they match. -/
theorem finishAll_windows (settings : ServiceSettings) (tasks : List Task) :
    let service := (Service.new settings).finishAll tasks
    service.throttle.defaults = settings.throttle ∧
    (∀ key ∈ service.throttle.keys, key.settings = settings.throttle ∨
      ∃ rule ∈ service.store.rules,
        key = ⟨rule.id, Processor.settingsOf service.throttle rule.toRuleSpec⟩) ∧
    (∀ rule ∈ service.store.rules, (service.throttle.keysOf rule.id).length ≤ 2) ∧
    (∀ now request segment id,
      Api.Resource.ofSegments? request.target.segments = some (.rule segment) →
      Api.Target.decodeSegment? segment = some id →
      (Api.handle now request service).1.status < 400 →
      let next := (Api.handle now request service).2
      (request.method = "PUT" → ∃ rule, next.store.get? id = some rule ∧
        (next.throttle.keysOf id).length ≤ 1 ∧ ∀ key ∈ next.throttle.keysOf id,
          key = ⟨id, Processor.settingsOf next.throttle rule.toRuleSpec⟩) ∧
      (request.method = "DELETE" →
        next.store.get? id = none ∧ next.throttle.keysOf id = [])) ∧
    ∀ task, ∀ key ∈ (service.finish task).throttle.keys, key ∉ service.throttle.keys →
      service.Makes key task := by
  intro service
  have current : service.Current settings.throttle := (current_new settings).finishAll tasks
  refine ⟨current.follows.defaults_eq, current.follows.current, ?_, ?_, ?_⟩
  · intro rule stored
    exact current.follows.length_keysOf_le current.wellFormed.keyed stored
  · intro now request segment id found decoded succeeded next
    exact ⟨fun isPut => current.keysOf_put found decoded isPut succeeded,
      fun isDelete => current.keysOf_delete found decoded isDelete succeeded⟩
  · intro task key inside isNew
    exact makes_of_mem_keys inside isNew

end Service

end TopicAlerts
