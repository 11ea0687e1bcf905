import TopicAlerts.Rule
import TopicAlerts.Text.Order
import TopicAlerts.Topic

/-!
# The rule store

The store holds rules by their ids. No two of them have the same name and topic, and only rules
that can work are taken: with a name, a valid topic, an expression without problems and at least
one action. A new rule gets its id from a source that gives no id twice. Lists of rules are in the
order of their topics, and of their names on one topic.
-/

namespace TopicAlerts

/-- Why the store refuses something. -/
inductive StoreError
  /-- There is a rule with this name on this topic. -/
  | duplicate (name topic : String)
  /-- There is no rule with this id. -/
  | notFound (id : String)
  /-- The name is blank. -/
  | missingName
  /-- The topic is not valid. -/
  | invalidTopic (topic : String)
  /-- The expression has these problems. -/
  | invalidRule (problems : List String)
  /-- There is no action. -/
  | noActions
  /-- The rules cannot be reached. -/
  | unavailable (reason : String)
deriving DecidableEq, Repr

/-- A description of the error. -/
def StoreError.message : StoreError → String
  | .duplicate name topic => "rule '" ++ name ++ "' already exists for topic '" ++ topic ++ "'"
  | .notFound id => "rule '" ++ id ++ "' not found"
  | .missingName => "rule name must not be empty"
  | .invalidTopic topic => "invalid topic '" ++ topic ++ "'"
  | .invalidRule problems => "invalid rule: " ++ Text.join "; " problems
  | .noActions => "rule must define at least one action"
  | .unavailable reason => "rule source unavailable: " ++ reason

/-- A change of one rule. -/
structure RuleChange where
  /-- The rule before the change, if there was one. -/
  before : Option Rule
  /-- The rule after the change, if there still is one. -/
  after : Option Rule

namespace RuleChange

/-- The topic that a rule in force looks at after the change. -/
def topicAdded (change : RuleChange) : Option String :=
  (change.after.filter (·.enabled)).map (·.topic)

/-- The topic that the rule looked at before, unless it does so, in force, after the change. -/
def topicRemoved (change : RuleChange) : Option String :=
  change.before.bind fun before =>
    let stillServed := match change.after with
      | some after => after.enabled && after.topic == before.topic
      | none => false
    if stillServed then none else some before.topic

end RuleChange

/-! ## Ids -/

/-- Where the ids of new rules come from. -/
structure IdSource where
  /-- The ids, in the order in which they are given. -/
  id : Nat → String
  /-- How many ids were given. -/
  given : Nat
  /-- No id is given twice. -/
  id_inj : ∀ m n, id m = id n → m = n
  /-- No id is empty. -/
  id_ne_empty : ∀ n, id n ≠ ""
  /-- An id may stand in an address as it is. -/
  id_plain : ∀ n, ∀ c ∈ (id n).toList, c.toNat < 128 ∧ c ≠ '%' ∧ c ≠ '/'

namespace IdSource

/-- The id that is given next. -/
def next (ids : IdSource) : String := ids.id ids.given

/-- The source after the next id was given. -/
def advance (ids : IdSource) : IdSource := { ids with given := ids.given + 1 }

end IdSource

/-- An id that ends in a number. -/
def ruleId (n : Nat) : String :=
  let digits := Nat.toDigits 10 n
  "70706963-616c-4572-8473-" ++ String.ofList (List.replicate (12 - digits.length) '0' ++ digits)

theorem toList_ruleId (n : Nat) : (ruleId n).toList = "70706963-616c-4572-8473-".toList ++
    (List.replicate (12 - (Nat.toDigits 10 n).length) '0' ++ Nat.toDigits 10 n) :=
  String.toList_append.trans (congrArg _ String.toList_ofList)

/-- The number behind some zeros can be read off the digits. -/
theorem ofDigitChars_padded (zeros n : Nat) :
    Nat.ofDigitChars 10 (List.replicate zeros '0' ++ Nat.toDigits 10 n) 0 = n := by
  rw [Nat.ofDigitChars_append, Nat.ofDigitChars_replicate_zero, Nat.mul_zero,
    Nat.ofDigitChars_ten_toDigits]

theorem ruleId_inj {m n : Nat} (same : ruleId m = ruleId n) : m = n := by
  have texts := congrArg String.toList same
  rw [toList_ruleId, toList_ruleId] at texts
  have digits := List.append_cancel_left texts
  calc
    m = Nat.ofDigitChars 10 _ 0 := (ofDigitChars_padded _ m).symm
    _ = Nat.ofDigitChars 10 _ 0 := congrArg (Nat.ofDigitChars 10 · 0) digits
    _ = n := ofDigitChars_padded _ n

theorem ruleId_ne_empty (n : Nat) : ruleId n ≠ "" := by
  intro empty
  have text := congrArg String.toList empty
  rw [toList_ruleId] at text
  cases text

/-- These ids are made up of letters, digits and dashes. -/
theorem ruleId_plain (n : Nat) :
    ∀ c ∈ (ruleId n).toList, c.toNat < 128 ∧ c ≠ '%' ∧ c ≠ '/' := by
  have start : "70706963-616c-4572-8473-0".toList.all (fun c =>
      decide (c.toNat < 128 ∧ c ≠ '%' ∧ c ≠ '/')) = true := by decide +kernel
  intro c inside
  rw [toList_ruleId] at inside
  rcases List.mem_append.mp inside with fixed | rest
  · exact of_decide_eq_true (List.all_eq_true.mp start c (List.mem_append_left ['0'] fixed))
  · rcases List.mem_append.mp rest with zero | digit
    · rw [List.eq_of_mem_replicate zero]
      decide
    · have isDigit : c.isDigit = true :=
        Nat.isDigit_of_mem_toDigits (by decide) (by decide) digit
      simp only [Char.isDigit, Bool.and_eq_true, decide_eq_true_eq] at isDigit
      have high : c.toNat ≤ 57 := UInt32.le_iff_toNat_le.mp isDigit.2
      refine ⟨by omega, ?_, ?_⟩
      · rintro rfl
        exact absurd isDigit.1 (by decide)
      · rintro rfl
        exact absurd isDigit.1 (by decide)

/-- The source that counts the ids, from one on. -/
def IdSource.numbered : IdSource where
  id n := ruleId (n + 1)
  given := 0
  id_inj _ _ same := Nat.succ.inj (ruleId_inj same)
  id_ne_empty n := ruleId_ne_empty (n + 1)
  id_plain n := ruleId_plain (n + 1)

/-! ## Stores -/

/-- The rules that are stored. -/
structure RuleStore where
  /-- The rules, each under the id that it has. -/
  rules : List Rule
  /-- Where the ids of new rules come from. -/
  ids : IdSource

namespace RuleStore

/-- The store without rules. -/
def empty (ids : IdSource) : RuleStore := ⟨[], ids⟩

/-- Check what does not depend on other rules; the first fault counts. -/
def validate (spec : RuleSpec) : Except StoreError PUnit :=
  if Text.isBlankText spec.name then .error .missingName
  else if !Topic.isValid spec.topic then .error (.invalidTopic spec.topic)
  else if !spec.expression.isValid then
    .error (.invalidRule (spec.expression.problems.map Problem.message))
  else if spec.actions.isEmpty then .error .noActions
  else .ok ⟨⟩

/-- The rule with this id. -/
def get? (store : RuleStore) (id : String) : Option Rule := store.rules.find? (·.id == id)

/-- The rule with this id, or the error that there is none. -/
def get (store : RuleStore) (id : String) : Except StoreError Rule :=
  match store.get? id with
  | some rule => .ok rule
  | none => .error (.notFound id)

/-- Check that no rule other than the excepted one has the name and the topic. -/
def ensureUnique (store : RuleStore) (spec : RuleSpec) (except : Option String) :
    Except StoreError PUnit :=
  if store.rules.any fun rule =>
      rule.name == spec.name && rule.topic == spec.topic && some rule.id != except then
    .error (.duplicate spec.name spec.topic)
  else .ok ⟨⟩

/-- Put a rule in the place of the one with its id. -/
def replace (store : RuleStore) (rule : Rule) : RuleStore :=
  { store with rules := store.rules.map fun old => if old.id == rule.id then rule else old }

/-- Store a new rule. -/
def create (store : RuleStore) (spec : RuleSpec) (now : Int64) :
    Except StoreError (Rule × RuleStore) := do
  validate spec
  store.ensureUnique spec none
  let rule := spec.toRule store.ids.next now
  return (rule, ⟨store.rules ++ [rule], store.ids.advance⟩)

/-- Change what the author of a rule wrote. -/
def update (store : RuleStore) (id : String) (spec : RuleSpec) (now : Int64) :
    Except StoreError (RuleChange × RuleStore) := do
  validate spec
  let existing ← store.get id
  store.ensureUnique spec (some id)
  let updated := { spec.toRule existing.id now with createdAt := existing.createdAt }
  return (⟨some existing, some updated⟩, store.replace updated)

/-- Remove a rule. -/
def delete (store : RuleStore) (id : String) : Except StoreError (RuleChange × RuleStore) := do
  let removed ← store.get id
  return (⟨some removed, none⟩, { store with rules := store.rules.filter (·.id != id) })

/-- Put a rule in force, or out of it. -/
def toggle (store : RuleStore) (id : String) (now : Int64) :
    Except StoreError (RuleChange × RuleStore) := do
  let existing ← store.get id
  let toggled := { existing with enabled := !existing.enabled, updatedAt := now }
  return (⟨some existing, some toggled⟩, store.replace toggled)

/-- Create those of some rules that can be created, one after the other, each at a time of its own,
and count them. -/
def seed (store : RuleStore) (entries : List (RuleSpec × Int64)) : Nat × RuleStore :=
  entries.foldl (fun (count, store) (spec, now) =>
    match store.create spec now with
    | .ok (_, store) => (count + 1, store)
    | .error _ => (count, store)) (0, store)

/-- The order of lists of rules. -/
def precedes (a b : Rule) : Bool :=
  decide (a.topic < b.topic) || (a.topic == b.topic && decide (a.name < b.name))

/-- All rules. -/
def list (store : RuleStore) : List Rule := sortBy precedes store.rules

/-- The rules that look at a topic. -/
def listByTopic (store : RuleStore) (topic : String) : List Rule :=
  sortBy (fun a b => decide (a.name < b.name)) (store.rules.filter (·.topic == topic))

/-- The rules in force that look at a topic. -/
def enabledForTopic (store : RuleStore) (topic : String) : List Rule :=
  (store.listByTopic topic).filter (·.enabled)

/-- The topics that rules in force look at, in order. -/
def enabledTopics (store : RuleStore) : List String :=
  textSet ((store.rules.filter (·.enabled)).map (·.topic))

/-- How many rules there are. -/
def count (store : RuleStore) : Nat := store.rules.length

end RuleStore

end TopicAlerts
