import Mathlib.Data.List.Nodup
import TopicAlerts.Proofs.Faults
import TopicAlerts.Proofs.Order
import TopicAlerts.RuleStore

/-!
# The rules of a store

A store is keyed if each of its rules has an id of its own. The rules in force on a topic are then
distinct rules, and no rule with the id of one of them is in force anywhere else.

Every store that is made from an empty one is keyed, since no id is given twice, and its rules look
at valid topics: `RuleStore.WellFormed` is kept by all changes.
-/

namespace TopicAlerts

/-- The name and the topic of a rule, which no other rule of a store has together. -/
def RuleSpec.pair (spec : RuleSpec) : String × String := (spec.name, spec.topic)

/-- A rule that can work. -/
structure RuleSpec.IsWorkable (spec : RuleSpec) : Prop where
  /-- Its name is not blank. -/
  named : ∃ c ∈ spec.name.toList, Text.isBlank c = false
  /-- Its topic is valid. -/
  topic : Topic.isValid spec.topic = true
  /-- Nothing is wrong with its expression. -/
  sound : spec.expression.problems = []
  /-- It has an action. -/
  acts : spec.actions ≠ []

/-! ## Ids -/

namespace IdSource

/-- The source has given this id. -/
def HasGiven (ids : IdSource) (id : String) : Prop := ∃ n < ids.given, id = ids.id n

theorem not_hasGiven_next (ids : IdSource) : ¬ids.HasGiven ids.next := by
  rintro ⟨n, before, same⟩
  have equal : ids.given = n := ids.id_inj _ _ same
  omega

theorem hasGiven_advance {ids : IdSource} {id : String} :
    ids.advance.HasGiven id ↔ ids.HasGiven id ∨ id = ids.next := by
  constructor
  · rintro ⟨n, before, rfl⟩
    rcases Nat.lt_succ_iff_lt_or_eq.mp before with earlier | rfl
    · exact .inl ⟨n, earlier, rfl⟩
    · exact .inr rfl
  · rintro (⟨n, before, rfl⟩ | rfl)
    · exact ⟨n, Nat.lt_succ_of_lt before, rfl⟩
    · exact ⟨ids.given, Nat.lt_succ_self _, rfl⟩

end IdSource

namespace RuleStore

/-- Different rules of the store have different ids. -/
def Keyed (store : RuleStore) : Prop := (store.rules.map (·.id)).Nodup

theorem Keyed.eq_of_id_eq {store : RuleStore} (h : store.Keyed) {rule other : Rule}
    (hrule : rule ∈ store.rules) (hother : other ∈ store.rules) (hid : rule.id = other.id) :
    rule = other :=
  List.inj_on_of_nodup_map h hrule hother hid

/-! ## Rules in force -/

@[simp] theorem mem_listByTopic {store : RuleStore} {topic : String} {rule : Rule} :
    rule ∈ store.listByTopic topic ↔ rule ∈ store.rules ∧ rule.topic = topic := by
  unfold listByTopic
  rw [mem_sortBy, List.mem_filter, beq_iff_eq]

@[simp] theorem mem_enabledForTopic {store : RuleStore} {topic : String} {rule : Rule} :
    rule ∈ store.enabledForTopic topic ↔
      rule ∈ store.rules ∧ rule.topic = topic ∧ rule.enabled = true := by
  unfold enabledForTopic
  rw [List.mem_filter, mem_listByTopic, and_assoc]

theorem Keyed.nodup_enabledForTopic {store : RuleStore} (h : store.Keyed) (topic : String) :
    ((store.enabledForTopic topic).map (·.id)).Nodup := by
  have hfilter : ((store.rules.filter (·.topic == topic)).map (·.id)).Nodup :=
    h.sublist (List.filter_sublist.map _)
  have hsorted : ((store.listByTopic topic).map (·.id)).Nodup :=
    ((sortBy_perm _ _).map _).nodup_iff.mpr hfilter
  exact hsorted.sublist (List.filter_sublist.map _)

/-- On other topics than that of a rule, no rule with its id is in force. -/
theorem Keyed.id_notMem_enabledForTopic {store : RuleStore} (h : store.Keyed) {rule : Rule}
    (hrule : rule ∈ store.rules) {topic : String} (hne : rule.topic ≠ topic) :
    rule.id ∉ (store.enabledForTopic topic).map (·.id) := by
  intro hmem
  obtain ⟨other, hother, hid⟩ := List.mem_map.mp hmem
  obtain ⟨hstored, htopic, -⟩ := mem_enabledForTopic.mp hother
  rw [h.eq_of_id_eq hrule hstored hid.symm] at hne
  exact hne htopic

theorem mem_enabledTopics {store : RuleStore} {topic : String} : topic ∈ store.enabledTopics ↔
    ∃ rule ∈ store.rules, rule.enabled = true ∧ rule.topic = topic := by
  simp [enabledTopics, and_assoc]

/-! ## Changes -/

variable {store after : RuleStore} {id : String} {spec : RuleSpec} {now : Int64} {rule : Rule}
  {change : RuleChange}

theorem mem_of_get? (found : store.get? id = some rule) : rule ∈ store.rules ∧ rule.id = id :=
  ⟨List.mem_of_find?_eq_some found, by simpa using List.find?_some found⟩

theorem get_eq_ok_iff : store.get id = .ok rule ↔ store.get? id = some rule := by
  unfold get
  cases store.get? id <;> simp

theorem get_eq_error_iff {error : StoreError} :
    store.get id = .error error ↔ store.get? id = none ∧ error = .notFound id := by
  unfold get
  cases store.get? id <;> simp [eq_comm]

theorem validate_eq_ok_iff : validate spec = .ok ⟨⟩ ↔ spec.IsWorkable := by
  have named : (∃ c ∈ spec.name.toList, Text.isBlank c = false) ↔
      ¬Text.isBlankText spec.name = true := by
    simp [Text.isBlankText]
  have sound : spec.expression.isValid = true ↔ spec.expression.problems = [] :=
    List.isEmpty_iff
  unfold validate
  constructor
  · intro taken
    split_ifs at taken with blank invalid malformed idle
    refine ⟨named.mpr blank, by simpa using invalid, sound.mp (by simpa using malformed), ?_⟩
    rintro none
    simp [none] at idle
  · rintro ⟨isNamed, valid, isSound, acts⟩
    have acting : spec.actions.isEmpty = false := by simpa using acts
    simp [named.mp isNamed, valid, sound.mpr isSound, acting]

theorem ensureUnique_eq_ok_iff {except : Option String} :
    store.ensureUnique spec except = .ok ⟨⟩ ↔
      ∀ other ∈ store.rules, some other.id ≠ except → other.pair ≠ spec.pair := by
  unfold ensureUnique
  constructor
  · intro unique other inside differs same
    obtain ⟨name, topic⟩ := Prod.mk.inj same
    split_ifs at unique with clash
    exact clash (List.any_eq_true.mpr ⟨other, inside, by simp [name, topic, differs]⟩)
  · intro unique
    rw [if_neg]
    intro clash
    obtain ⟨other, inside, equal⟩ := List.any_eq_true.mp clash
    simp only [Bool.and_eq_true, beq_iff_eq, bne_iff_ne] at equal
    exact unique other inside equal.2 (Prod.ext equal.1.1 equal.1.2)

/-- A rule that is created is put at the end, under the next id. -/
theorem create_cases (created : store.create spec now = .ok (rule, after)) :
    spec.IsWorkable ∧ (∀ other ∈ store.rules, other.pair ≠ spec.pair) ∧
      rule = spec.toRule store.ids.next now ∧
      after = ⟨store.rules ++ [rule], store.ids.advance⟩ := by
  obtain ⟨⟨⟩, taken, created⟩ := bind_eq_ok.mp created
  obtain ⟨⟨⟩, unique, created⟩ := bind_eq_ok.mp created
  cases created
  refine ⟨validate_eq_ok_iff.mp taken, fun other inside => ?_, rfl, rfl⟩
  exact ensureUnique_eq_ok_iff.mp unique other inside (by simp)

/-- A rule that can work, and whose name and topic no rule has, is created. -/
theorem create_eq_ok (workable : spec.IsWorkable)
    (unique : ∀ other ∈ store.rules, other.pair ≠ spec.pair) :
    store.create spec now = .ok (spec.toRule store.ids.next now,
      ⟨store.rules ++ [spec.toRule store.ids.next now], store.ids.advance⟩) := by
  have taken := validate_eq_ok_iff.mpr workable
  have free : store.ensureUnique spec none = .ok ⟨⟩ :=
    ensureUnique_eq_ok_iff.mpr fun other inside _ => unique other inside
  unfold create
  rw [taken, free]
  rfl

/-- A rule that is changed keeps its id, and the time of its creation. -/
theorem update_cases (updated : store.update id spec now = .ok (change, after)) :
    ∃ existing changed, spec.IsWorkable ∧ store.get? id = some existing ∧
      (∀ other ∈ store.rules, other.id ≠ id → other.pair ≠ spec.pair) ∧
      changed = { spec.toRule existing.id now with createdAt := existing.createdAt } ∧
      change = ⟨some existing, some changed⟩ ∧ after = store.replace changed := by
  obtain ⟨⟨⟩, taken, updated⟩ := bind_eq_ok.mp updated
  obtain ⟨existing, found, updated⟩ := bind_eq_ok.mp updated
  obtain ⟨⟨⟩, unique, updated⟩ := bind_eq_ok.mp updated
  cases updated
  refine ⟨existing, _, validate_eq_ok_iff.mp taken, get_eq_ok_iff.mp found, ?_, rfl, rfl, rfl⟩
  intro other inside differs
  exact ensureUnique_eq_ok_iff.mp unique other inside (by simpa using differs)

theorem delete_cases (deleted : store.delete id = .ok (change, after)) :
    ∃ existing, store.get? id = some existing ∧ change = ⟨some existing, none⟩ ∧
      after = { store with rules := store.rules.filter (·.id != id) } := by
  obtain ⟨existing, found, deleted⟩ := bind_eq_ok.mp deleted
  cases deleted
  exact ⟨existing, get_eq_ok_iff.mp found, rfl, rfl⟩

/-- A rule that is put in force or out of it stays the same otherwise. -/
theorem toggle_cases (toggled : store.toggle id now = .ok (change, after)) :
    ∃ existing changed, store.get? id = some existing ∧
      changed = { existing with enabled := !existing.enabled, updatedAt := now } ∧
      change = ⟨some existing, some changed⟩ ∧ after = store.replace changed := by
  obtain ⟨existing, found, toggled⟩ := bind_eq_ok.mp toggled
  cases toggled
  exact ⟨existing, _, get_eq_ok_iff.mp found, rfl, rfl, rfl⟩

/-! ## Well-formed stores -/

/-- What holds of every store that is made from an empty one. -/
structure WellFormed (store : RuleStore) : Prop where
  /-- Different rules have different ids. -/
  keyed : store.Keyed
  /-- Ids were given when rules were created. -/
  given : ∀ rule ∈ store.rules, store.ids.HasGiven rule.id
  /-- The rules look at valid topics. -/
  valid : ∀ rule ∈ store.rules, Topic.isValid rule.topic = true

theorem wellFormed_empty (ids : IdSource) : (empty ids).WellFormed where
  keyed := List.nodup_nil
  given rule inside := by cases inside
  valid rule inside := by cases inside

theorem WellFormed.create (wellFormed : store.WellFormed)
    (created : store.create spec now = .ok (rule, after)) : after.WellFormed := by
  obtain ⟨workable, -, rfl, rfl⟩ := create_cases created
  refine ⟨?_, ?_, ?_⟩
  · unfold Keyed
    rw [List.map_append, List.map_singleton, List.nodup_append]
    refine ⟨wellFormed.keyed, List.nodup_singleton _, ?_⟩
    intro old inside new isNew same
    obtain ⟨rule, found, rfl⟩ := List.mem_map.mp inside
    have given := wellFormed.given rule found
    rw [same, List.mem_singleton.mp isNew] at given
    exact store.ids.not_hasGiven_next given
  · intro rule inside
    rcases List.mem_append.mp inside with old | new
    · exact IdSource.hasGiven_advance.mpr (.inl (wellFormed.given rule old))
    · rw [List.mem_singleton.mp new]
      exact IdSource.hasGiven_advance.mpr (.inr rfl)
  · intro rule inside
    rcases List.mem_append.mp inside with old | new
    · exact wellFormed.valid rule old
    · rw [List.mem_singleton.mp new]
      exact workable.topic

/-- A rule may be replaced by one with the same id and a valid topic. -/
theorem WellFormed.replace (wellFormed : store.WellFormed) {existing changed : Rule}
    (stored : existing ∈ store.rules) (id_eq : changed.id = existing.id)
    (valid : Topic.isValid changed.topic = true) : (store.replace changed).WellFormed := by
  have ids : (store.replace changed).rules.map (·.id) = store.rules.map (·.id) := by
    unfold RuleStore.replace
    rw [List.map_map]
    refine List.map_congr_left fun old _ => ?_
    by_cases same : old.id = changed.id <;> simp [same]
  refine ⟨?_, ?_, ?_⟩
  · unfold Keyed
    rw [ids]
    exact wellFormed.keyed
  · intro rule inside
    obtain ⟨old, found, rfl⟩ := List.mem_map.mp inside
    split_ifs
    · rw [id_eq]
      exact wellFormed.given existing stored
    · exact wellFormed.given old found
  · intro rule inside
    obtain ⟨old, found, rfl⟩ := List.mem_map.mp inside
    split_ifs
    · exact valid
    · exact wellFormed.valid old found

theorem WellFormed.update (wellFormed : store.WellFormed)
    (updated : store.update id spec now = .ok (change, after)) : after.WellFormed := by
  obtain ⟨existing, changed, workable, found, -, rfl, -, rfl⟩ := update_cases updated
  exact wellFormed.replace (mem_of_get? found).1 rfl workable.topic

theorem WellFormed.delete (wellFormed : store.WellFormed)
    (deleted : store.delete id = .ok (change, after)) : after.WellFormed := by
  obtain ⟨existing, -, -, rfl⟩ := delete_cases deleted
  exact ⟨wellFormed.keyed.sublist (List.filter_sublist.map _),
    fun rule inside => wellFormed.given rule (List.mem_filter.mp inside).1,
    fun rule inside => wellFormed.valid rule (List.mem_filter.mp inside).1⟩

theorem WellFormed.toggle (wellFormed : store.WellFormed)
    (toggled : store.toggle id now = .ok (change, after)) : after.WellFormed := by
  obtain ⟨existing, changed, found, rfl, -, rfl⟩ := toggle_cases toggled
  have stored := (mem_of_get? found).1
  exact wellFormed.replace stored rfl (wellFormed.valid existing stored)

/-- What creating a rule keeps, seeding keeps, whichever of the rules are taken. -/
theorem seed_induction {Kept : RuleStore → Prop}
    (step : ∀ {store next : RuleStore} {spec : RuleSpec} {now : Int64} {rule : Rule}, Kept store →
      store.create spec now = .ok (rule, next) → Kept next)
    (start : Kept store) (entries : List (RuleSpec × Int64)) : Kept (store.seed entries).2 := by
  unfold RuleStore.seed
  generalize 0 = count
  induction entries generalizing store count with
  | nil => exact start
  | cons entry rest ih =>
    obtain ⟨spec, now⟩ := entry
    rw [List.foldl_cons]
    cases created : store.create spec now with
    | error error =>
      simp only [created]
      exact ih start count
    | ok result =>
      obtain ⟨rule, next⟩ := result
      simp only [created]
      exact ih (step start created) (count + 1)

theorem WellFormed.seed (wellFormed : store.WellFormed) (entries : List (RuleSpec × Int64)) :
    (store.seed entries).2.WellFormed :=
  seed_induction (fun before created => before.create created) wellFormed entries

end RuleStore

end TopicAlerts
