import Mathlib.Data.Bool.AllAny
import TopicAlerts.Proofs.RuleTexts
import TopicAlerts.Proofs.StaleWindows
import TopicAlerts.Proofs.TextParts
import TopicAlerts.Proofs.Utf8Texts

/-!
# Rules that are read and written back

A client gets a rule, makes a specification of what it was sent, and puts that to the same address.
Nothing changes but the time of the last change of the rule (`Service.written_back`): the
specification is the one that is stored, so it passes the checks that the rule passed before, and
the windows with its settings stay.

It is assumed of the JSON texts that the text of the stored rule is parsed to the document that it
was made from. `Json.parse?_compact_iff` says when that is so.
-/

namespace TopicAlerts

/-! ## Addresses of rules -/

section Addresses

/-- Ids that were given may stand in an address. -/
theorem IdSource.plain_of_hasGiven {ids : IdSource} {id : String} (hgiven : ids.HasGiven id) :
    id ≠ "" ∧ ∀ c ∈ id.toList, c.toNat < 128 ∧ c ≠ '%' ∧ c ≠ '/' := by
  obtain ⟨n, -, rfl⟩ := hgiven
  exact ⟨ids.id_ne_empty n, ids.id_plain n⟩

/-- The target of the rule with an id. -/
def Api.Target.ofRule (id : String) : Target := ⟨"/v1/rules/".toList ++ id.toList, none⟩

/-- The target leads to the rule. -/
theorem Api.Target.ofSegments?_ofRule {id : String} (hne : id ≠ "") (hid : '/' ∉ id.toList) :
    Resource.ofSegments? (ofRule id).segments = some (.rule id) := by
  have hparts : "v1/rules/".toList ++ id.toList =
      List.intercalate ['/'] ["v1".toList, "rules".toList, id.toList] := by
    simp [List.intercalate]
  have hsegments : (ofRule id).segments = ["v1", "rules", id] := by
    show (Text.splitChars '/' ("v1/rules/".toList ++ id.toList)).map String.ofList = _
    rw [hparts, Text.splitChars_intercalate (List.cons_ne_nil _ _)]
    · simp
    · simp [hid]
  rw [hsegments, Resource.ofSegments?, if_neg]
  rw [String.isEmpty_iff]
  exact hne

end Addresses

/-! ## Requests for one rule -/

namespace Api

/-- A request for the rule with an id, perhaps with a JSON text as its body. -/
def Request.ofRule (method id : String) (text : Option String := none) : Request where
  method
  target := .ofRule id
  mediaType := text.map fun _ => "application/json"
  body := (text.map Utf8.encode).getD []

variable {now : Int64} {id : String} {service : Service}

/-- A body that is sent as JSON is read as its text. -/
theorem withBody_ofRule {α : Type} {method text : String} {read : Json.Reader α} {value : α}
    (handler : α → Handler) (hread : Json.readString read text = .ok value) :
    withBody (.ofRule method id (some text)) read handler = handler value := by
  have hjson : MediaType.isJson "application/json" = true := by decide +kernel
  have hunits : Json.readUnits read (Utf8.units (Utf8.encode text)) = .ok value := by
    rw [Utf8.units_encode]
    exact hread
  unfold withBody Request.ofRule
  simp only [Option.map_some, Option.getD_some, hjson, hunits]
  rfl

section Stored

variable (hfound : Resource.ofSegments? (Target.ofRule id).segments = some (.rule id))
  (hdecoded : Target.decodeSegment? id = some id)

include hfound hdecoded

theorem handle_get {rule : Rule} (hrule : service.store.get? id = some rule) :
    handle now (.ofRule "GET" id) service = (.ofJson 200 rule.toJson, service) := by
  have hanswer : getRule id service = (.ofJson 200 rule.toJson, service) := by
    simp [getRule, answer, hrule]
  unfold handle
  rw [show (Request.ofRule "GET" id).target = .ofRule id from rfl, hfound]
  simp [handlerOf, withParameter, hdecoded, Request.ofRule, Resource.methods, hanswer]

theorem handle_put {text : String} {spec : RuleSpec}
    (hread : Json.readString RuleSpec.read text = .ok spec) :
    handle now (.ofRule "PUT" id (some text)) service = updateRule now id spec service := by
  have hmethod : (Request.ofRule "PUT" id (some text)).method = "PUT" := rfl
  rw [handle_rule hfound hdecoded (.inl hmethod), if_pos hmethod, withBody_ofRule _ hread]

end Stored

end Api

/-! ## Writing a rule as it is -/

namespace RuleStore

variable {store : RuleStore} {rule : Rule} {now : Int64}

/-- A stored rule may be written as it is, and only the time of its change is new. -/
theorem Consistent.update_same (hstore : store.Consistent) (hrule : rule ∈ store.rules)
    (now : Int64) : store.update rule.id rule.toRuleSpec now =
      .ok (⟨some rule, some { rule with updatedAt := now }⟩,
        store.replace { rule with updatedAt := now }) := by
  have hvalid : validate rule.toRuleSpec = .ok ⟨⟩ :=
    validate_eq_ok_iff.mpr (hstore.workable rule hrule)
  have hget : store.get rule.id = .ok rule :=
    get_eq_ok_iff.mpr ((get?_eq_some_iff hstore.keyed).mpr ⟨hrule, rfl⟩)
  have hunique : store.ensureUnique rule.toRuleSpec (some rule.id) = .ok ⟨⟩ := by
    refine ensureUnique_eq_ok_iff.mpr fun other hother hdiffers hsame => ?_
    have heq : other = rule := List.inj_on_of_nodup_map hstore.pairs hother hrule hsame
    exact hdiffers (by rw [heq])
  unfold RuleStore.update
  rw [hvalid, hget, hunique]
  rfl

/-- Writing a rule as it is does not change the topics of the rules in force. -/
theorem enabledTopics_replace (hstore : store.Keyed) (hrule : rule ∈ store.rules) :
    (store.replace { rule with updatedAt := now }).enabledTopics = store.enabledTopics := by
  have hfacts : (store.replace { rule with updatedAt := now }).rules.map
      (fun r => (r.enabled, r.topic)) = store.rules.map fun r => (r.enabled, r.topic) := by
    unfold replace
    rw [List.map_map]
    refine List.map_congr_left fun other hother => ?_
    by_cases hid : other.id = rule.id
    · simp [hstore.eq_of_id_eq hother hrule hid]
    · simp [hid]
  have htopics (rules : List Rule) : (rules.filter (·.enabled)).map (·.topic) =
      ((rules.map fun r => (r.enabled, r.topic)).filter (·.1)).map (·.2) := by
    rw [List.filter_map, List.map_map]
    rfl
  unfold enabledTopics
  rw [htopics, htopics, hfacts]

end RuleStore

namespace Service

/-- A service differs from an earlier one in that a rule was written, as it is, at a time. -/
structure Refreshes (after before : Service) (rule : Rule) (now : Int64) : Prop where
  /-- The rules are the same, but for the time of the last change of this one. -/
  rules : after.store.rules = before.store.rules.map fun other =>
    if other.id = rule.id then { rule with updatedAt := now } else other
  /-- The rule is found under its id. -/
  found : after.store.get? rule.id = some { rule with updatedAt := now }
  /-- The rule under its id matches the same messages. -/
  matching : ∀ changed, after.store.get? rule.id = some changed →
    ∀ message, changed.isMatch message = rule.isMatch message
  /-- Rules in force look at the same topics. -/
  topics : after.store.enabledTopics = before.store.enabledTopics
  /-- The same settings are in effect for each rule. -/
  settings : Processor.settingsOf after.throttle = Processor.settingsOf before.throttle
  /-- A window stays as it is unless it is one of the rule, with other settings than those that
  are in effect. -/
  windows : ∀ key : Throttle.Key,
    (key.rule = rule.id → key.settings = Processor.settingsOf before.throttle rule.toRuleSpec) →
      after.throttle.window? key = before.throttle.window? key

variable {service : Service} {rule : Rule} {now : Int64}

theorem refreshes_updateRule (hstore : service.store.Consistent)
    (hrule : rule ∈ service.store.rules) :
    (Api.updateRule now rule.id rule.toRuleSpec service).1.status = 200 ∧
      (Api.updateRule now rule.id rule.toRuleSpec service).2.Refreshes service rule now := by
  have hupdate := hstore.update_same hrule now
  have hanswer : (RuleRequest.update rule.id rule.toRuleSpec now).answer service.store =
      .ok (⟨some rule, some { rule with updatedAt := now }⟩,
        service.store.replace { rule with updatedAt := now }) := hupdate
  have hafter := RuleRequest.handler_of_answered hanswer
  have hthrottle : (Api.updateRule now rule.id rule.toRuleSpec service).2.throttle =
      (service.throttle.forgetStale rule.id
        (Processor.settingsOf service.throttle rule.toRuleSpec)).2 :=
    RuleRequest.throttle_of_answered hanswer
  have hfound : service.store.get? rule.id = some rule :=
    (RuleStore.get?_eq_some_iff hstore.keyed).mpr ⟨hrule, rfl⟩
  have hsameId : service.store.get? ({ rule with updatedAt := now } : Rule).id = some rule := hfound
  have hget : (service.store.replace { rule with updatedAt := now }).get? rule.id =
      some { rule with updatedAt := now } := by
    rw [RuleStore.get?_replace hsameId, if_pos rfl]
  refine ⟨by simp [Api.updateRule, hupdate, Api.Response.ofJson], ?_⟩
  change (Api.updateRule now rule.id rule.toRuleSpec service).2.store = _ at hafter
  generalize (Api.updateRule now rule.id rule.toRuleSpec service).2 = after at *
  refine ⟨?_, ?_, ?_, ?_, ?_, ?_⟩
  · rw [hafter, RuleStore.replace]
    simp
  · rw [hafter, hget]
  · intro changed hchanged message
    rw [hafter, hget] at hchanged
    obtain rfl := Option.some.inj hchanged
    rfl
  · rw [hafter, RuleStore.enabledTopics_replace hstore.keyed hrule]
  · funext spec
    rw [hthrottle]
    exact Processor.settingsOf_congr rfl spec
  · intro key hkey
    rw [hthrottle, Throttle.Registry.forgetStale, Throttle.Registry.window?_retain, if_pos]
    by_cases hown : key.rule = rule.id
    · have hsame : key = ⟨rule.id, Processor.settingsOf service.throttle rule.toRuleSpec⟩ := by
        rw [← hown, ← hkey hown]
      simp [hsame]
    · simp [hown]

/-- Whatever was written to the rules before: the document of a stored rule is served, and it is
read as a specification. The text that was served, or that of the specification, may be put to the
address of the rule, and nothing changes but the time of the last change of the rule. -/
theorem written_back (ids : IdSource) (writes : List RuleStore.Write)
    (made : service.store = (RuleStore.empty ids).run writes) (stored : rule ∈ service.store.rules)
    (lossless : Json.parse? rule.toJson.compact = some rule.toJson) (now later : Int64) :
    let served := Api.Response.ofJson 200 rule.toJson
    Api.handle now (.ofRule "GET" rule.id) service = (served, service) ∧
      ∃ spec, Json.readString RuleSpec.read served.text = .ok spec ∧
        ∀ text ∈ [served.text, spec.toJson.compact],
          let put := Api.handle later (.ofRule "PUT" rule.id (some text)) service
          put.1.status = 200 ∧ put.2.Refreshes service rule later := by
  have hstore : service.store.Consistent := made ▸ (RuleStore.consistent_empty ids).run writes
  obtain ⟨hne, hplain⟩ := IdSource.plain_of_hasGiven (hstore.given rule stored)
  have hdecoded : Api.Target.decodeSegment? rule.id = some rule.id :=
    Utf8.decode?_percentDecode_of_ascii fun c hc => ⟨(hplain c hc).1, (hplain c hc).2.1⟩
  have hfound : Api.Resource.ofSegments? (Api.Target.ofRule rule.id).segments =
      some (.rule rule.id) :=
    Api.Target.ofSegments?_ofRule hne fun hslash => (hplain '/' hslash).2.2 rfl
  obtain ⟨hactions, hsource⟩ := RuleSpec.fits_of_toJson ((Json.parse?_compact_iff _).mp lossless)
  have hserved : Json.readString RuleSpec.read rule.toJson.compact = .ok rule.toRuleSpec := by
    rw [Json.readString_compact]
    exact RuleSpec.read_rule hactions hsource
  have hspec : Json.readString RuleSpec.read rule.toRuleSpec.toJson.compact =
      .ok rule.toRuleSpec := by
    rw [Json.readString_compact]
    exact RuleSpec.read_spec hactions hsource
  have hget : service.store.get? rule.id = some rule :=
    (RuleStore.get?_eq_some_iff hstore.keyed).mpr ⟨stored, rfl⟩
  refine ⟨Api.handle_get hfound hdecoded hget, rule.toRuleSpec, hserved, fun text htext => ?_⟩
  have hread : Json.readString RuleSpec.read text = .ok rule.toRuleSpec := by
    rcases List.mem_pair.mp htext with rfl | rfl
    · exact hserved
    · exact hspec
  rw [Api.handle_put hfound hdecoded hread]
  exact refreshes_updateRule hstore stored

/-- A service whose only rule has notified once. -/
def notifiedOnce : Service :=
  let settings := Processor.settingsOf serviceWithRule.throttle Pipeline.loadRule
  serviceWithRule.setThrottle (serviceWithRule.throttle.shouldSend (ruleId 1) settings 0).2

theorem fits_loadRule :
    Json.Fits Json.depthLimit (Pipeline.loadRule.toRule (ruleId 1) 0).toJson := by
  have hparams : Json.Fits 124 (.obj [("message", .str "load"), ("provider", .str "SLACK"),
      ("webhookURL", .str "http://hook")]) := by
    refine .obj (by decide) ?_
    simp only [List.forall_mem_cons, List.not_mem_nil, false_imp_iff, implies_true, and_true]
    exact ⟨.str _, .str _, .str _⟩
  have haction : Json.Fits 125 (Action.slack "http://hook" "load").toJson := by
    refine .obj (by decide) ?_
    simp only [List.forall_mem_cons, List.not_mem_nil, false_imp_iff, implies_true, and_true]
    exact ⟨hparams, .str _⟩
  have hactions : Json.Fits 126 (.arr [(Action.slack "http://hook" "load").toJson]) :=
    .arr (List.forall_mem_singleton.mpr haction)
  have hzero : Json.Fits 126 (Json.int 0) := .num (Json.Number.reread_int (by decide))
  have hsource : Json.Fits 126 (.obj []) := .obj List.Pairwise.nil (by simp)
  rw [RuleSpec.toJson_rule]
  refine .obj (by decide) ?_
  simp only [List.forall_mem_cons, List.not_mem_nil, false_imp_iff, implies_true, and_true]
  exact ⟨hactions, hzero, .null, .bool _, .str _, .str _, hsource, .null, .null, .str _, hzero⟩

/-- Its rule may be written back at a later time, and the window that it has used up stays so. -/
theorem written_back_notifiedOnce :
    let rule := Pipeline.loadRule.toRule (ruleId 1) 0
    let served := Api.Response.ofJson 200 rule.toJson
    rule ∈ notifiedOnce.store.rules ∧ Json.parse? rule.toJson.compact = some rule.toJson ∧
      (Api.handle 7 (.ofRule "PUT" rule.id (some served.text)) notifiedOnce).1.status = 200 ∧
      (Api.handle 7 (.ofRule "PUT" rule.id (some served.text)) notifiedOnce).2.store.rules =
        [{ rule with updatedAt := 7 }] ∧
      ((Api.handle 7 (.ofRule "PUT" rule.id (some served.text)) notifiedOnce).2.throttle.window?
        ⟨rule.id, Processor.settingsOf notifiedOnce.throttle rule.toRuleSpec⟩).map (·.available) =
          some 0 := by
  intro rule served
  have hone : notifiedOnce.store = ⟨[rule], IdSource.numbered.advance⟩ :=
    RuleStore.after_create Pipeline.isWorkable_loadRule (by simp [RuleStore.empty]) 0
  have hstored : rule ∈ notifiedOnce.store.rules := by
    rw [hone]
    exact List.mem_singleton_self rule
  have hlossless : Json.parse? rule.toJson.compact = some rule.toJson :=
    (Json.parse?_compact_iff rule.toJson).mpr fits_loadRule
  obtain ⟨-, spec, -, hput⟩ :=
    written_back .numbered [.request (.create Pipeline.loadRule 0)] rfl hstored hlossless 7 7
  obtain ⟨hstatus, hafter⟩ := hput served.text List.mem_cons_self
  refine ⟨hstored, hlossless, hstatus, ?_, ?_⟩
  · rw [hafter.rules, hone]
    simp
  · rw [hafter.windows _ fun _ => rfl]
    decide +kernel

end Service

end TopicAlerts
