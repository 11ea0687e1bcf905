import TopicAlerts.Proofs.StoreRequests

/-!
# What a store shows

The rules are kept in no particular order, and each view goes through them by itself. That the views
agree rests on one fact about the stores that are made from the empty one: no two rules have the
same name and topic (`RuleStore.Consistent`). So a list of rules in the order of their topics and
names is the only one with these rules (`Rule.eq_of_perm`), and every view is a part of it
(`RuleStore.shows_list`).

`RuleStore.run_shows` says that the views are the same in whatever order the rules are gone through.
-/

namespace TopicAlerts

/-- Whether a rule comes before another in lists: by their topics, and by their names on one
topic. -/
def Rule.IsBefore (a b : Rule) : Prop := a.topic < b.topic ∨ a.topic = b.topic ∧ a.name < b.name

/-- Lists with the same rules, all of them in order, are the same. -/
theorem Rule.eq_of_perm {rules others : List Rule} (hperm : rules.Perm others)
    (hrules : rules.Pairwise IsBefore) (hothers : others.Pairwise IsBefore) : rules = others := by
  refine List.Perm.eq_of_pairwise (fun a b _ _ hbefore hafter => ?_) hrules hothers hperm
  -- no two rules come before each other
  unfold IsBefore at hbefore hafter
  grind

namespace RuleStore

/-! ## Sorted rules -/

/-- Sorting by a test that puts a rule before another only where it belongs puts rules with
different names or topics in order. -/
theorem pairwise_sortBy_isBefore {less : Rule → Rule → Bool} {rules : List Rule}
    (asymm : ∀ a b, less a b = true → less b a = false)
    (trans : ∀ a b c, less b a = false → less c b = false → less c a = false)
    (hpairs : (rules.map (·.pair)).Nodup)
    (hordered : ∀ a ∈ rules, ∀ b ∈ rules, a.pair ≠ b.pair → less b a = false → a.IsBefore b) :
    (sortBy less rules).Pairwise Rule.IsBefore := by
  have hsorted : ((sortBy less rules).map (·.pair)).Nodup :=
    ((sortBy_perm less rules).map _).nodup_iff.mpr hpairs
  have hboth := (pairwise_sortBy asymm trans rules).and (List.pairwise_map.mp hsorted)
  refine hboth.imp_of_mem ?_
  rintro a b ha hb ⟨hnotless, hdiffer⟩
  exact hordered a (mem_sortBy.mp ha) b (mem_sortBy.mp hb) hdiffer hnotless

variable {store : RuleStore} {topic : String}

section Pairs

variable (hpairs : (store.rules.map (·.pair)).Nodup)
include hpairs

theorem pairwise_list : store.list.Pairwise Rule.IsBefore := by
  have hasymm : ∀ a b, precedes a b = true → precedes b a = false := by grind [precedes]
  have htrans : ∀ a b c, precedes b a = false → precedes c b = false → precedes c a = false := by
    grind [precedes]
  refine pairwise_sortBy_isBefore hasymm htrans hpairs fun a _ b _ hdiffer hnotless => ?_
  grind [precedes, Rule.IsBefore, RuleSpec.pair]

/-- On one topic it is enough to look at the names. -/
theorem pairwise_listByTopic (topic : String) :
    (store.listByTopic topic).Pairwise Rule.IsBefore := by
  have hnames : ((store.rules.filter (·.topic == topic)).map (·.pair)).Nodup :=
    hpairs.sublist (List.filter_sublist.map _)
  refine pairwise_sortBy_isBefore (by grind) (by grind) hnames fun a ha b hb hdiffer hnotless => ?_
  obtain ⟨-, htopic⟩ := List.mem_filter.mp ha
  obtain ⟨-, htopic'⟩ := List.mem_filter.mp hb
  grind [Rule.IsBefore, RuleSpec.pair]

theorem listByTopic_eq (topic : String) :
    store.listByTopic topic = store.list.filter (·.topic == topic) := by
  refine Rule.eq_of_perm ?_ (pairwise_listByTopic hpairs topic) ((pairwise_list hpairs).filter _)
  exact (sortBy_perm _ _).trans ((sortBy_perm _ _).filter _).symm

theorem list_eq_of_perm {order : List Rule} (horder : order.Perm store.rules) :
    list { store with rules := order } = store.list := by
  have hpairs' : (order.map (·.pair)).Nodup := (horder.map _).nodup_iff.mpr hpairs
  refine Rule.eq_of_perm ?_ (pairwise_list hpairs') (pairwise_list hpairs)
  exact (sortBy_perm _ _).trans (horder.trans (sortBy_perm _ _).symm)

end Pairs

/-! ## Views -/

/-- The views of a store are parts of this list. -/
structure Shows (store : RuleStore) (listing : List Rule) : Prop where
  /-- The list has the rules of the store. -/
  perm : listing.Perm store.rules
  /-- It is in order, and so has no two rules with the same name and topic. -/
  increasing : listing.Pairwise fun a b =>
    a.topic < b.topic ∨ a.topic = b.topic ∧ a.name < b.name
  /-- It is the list of all rules. -/
  list : store.list = listing
  /-- The rules on a topic are its rules on this topic. -/
  listByTopic : ∀ topic, store.listByTopic topic = listing.filter (·.topic == topic)
  /-- The rules in force on a topic are those of them that are in force. -/
  enabledForTopic : ∀ topic, store.enabledForTopic topic =
    (listing.filter (·.topic == topic)).filter (·.enabled)
  /-- The topics of rules in force are those of its rules in force. -/
  enabledTopics : ∀ topic, topic ∈ store.enabledTopics ↔
    ∃ rule ∈ listing, rule.enabled = true ∧ rule.topic = topic
  /-- They are a set: each is there once. -/
  topics : store.enabledTopics.Pairwise (· < ·)
  /-- A topic is one of them if a message on it has a rule to look at. -/
  served : ∀ topic, topic ∈ store.enabledTopics ↔ store.enabledForTopic topic ≠ []
  /-- There are as many rules as the list has. -/
  count : store.count = listing.length

theorem mem_enabledTopics_iff :
    topic ∈ store.enabledTopics ↔ store.enabledForTopic topic ≠ [] := by
  rw [mem_enabledTopics, ← List.length_pos_iff, List.length_pos_iff_exists_mem]
  simp only [mem_enabledForTopic, and_comm]

theorem shows_list (hpairs : (store.rules.map (·.pair)).Nodup) : store.Shows store.list where
  perm := sortBy_perm _ _
  increasing := pairwise_list hpairs
  list := rfl
  listByTopic := listByTopic_eq hpairs
  enabledForTopic topic := by
    unfold RuleStore.enabledForTopic
    rw [listByTopic_eq hpairs]
  enabledTopics topic := by
    rw [mem_enabledTopics]
    simp only [RuleStore.list, mem_sortBy]
  topics := increasing_textSet _
  served _ := mem_enabledTopics_iff
  count := (sortBy_perm _ _).length_eq.symm

/-- Whatever was written to a store, and in whatever order its rules are gone through: all views are
parts of the same list of rules. -/
theorem run_shows (ids : IdSource) (writes : List Write) (order : List Rule)
    (horder : order.Perm ((empty ids).run writes).rules) :
    Shows { (empty ids).run writes with rules := order } ((empty ids).run writes).list := by
  have hpairs : (((empty ids).run writes).rules.map (·.pair)).Nodup :=
    ((consistent_empty ids).run writes).pairs
  rw [← list_eq_of_perm hpairs horder]
  exact shows_list ((horder.map _).nodup_iff.mpr hpairs)

/-- Another rule on the load of a machine, which comes before the first in lists. -/
def allLoadRule : RuleSpec := { Pipeline.loadRule with name := "all load" }

/-- Two rules are created on one topic. -/
def loadRules : List Write :=
  [.request (.create Pipeline.loadRule 0), .request (.create allLoadRule 1)]

theorem run_loadRules : (empty .numbered).run loadRules =
    ⟨[Pipeline.loadRule.toRule (ruleId 1) 0, allLoadRule.toRule (ruleId 2) 1],
      IdSource.numbered.advance.advance⟩ := by
  have hfirst := Pipeline.isWorkable_loadRule
  have hsecond : allLoadRule.IsWorkable :=
    ⟨⟨'a', by decide, by decide⟩, hfirst.topic, hfirst.sound, hfirst.acts⟩
  have hdiffer : ∀ other ∈ [Pipeline.loadRule.toRule (ruleId 1) 0],
      other.pair ≠ allLoadRule.pair := by
    rw [List.forall_mem_singleton]
    decide
  have hone : (empty .numbered).after (.request (.create Pipeline.loadRule 0)) =
      ⟨[Pipeline.loadRule.toRule (ruleId 1) 0], IdSource.numbered.advance⟩ :=
    after_create hfirst (by simp [empty]) 0
  unfold run loadRules
  rw [List.foldl_cons, List.foldl_cons, List.foldl_nil, hone]
  exact after_create hsecond hdiffer 1

/-- Gone through from the last to the first, they are shown as before. -/
theorem loadRules_shows :
    let made := (empty .numbered).run loadRules
    let store := { made with rules := made.rules.reverse }
    store.rules.Perm made.rules ∧
      store.list.map (·.name) = ["all load", "any load"] ∧
      (store.enabledForTopic "load").map (·.name) = ["all load", "any load"] := by
  intro made store
  have hperm : store.rules.Perm made.rules := List.reverse_perm _
  have hshows := run_shows .numbered loadRules store.rules hperm
  refine ⟨hperm, ?_, ?_⟩
  · rw [hshows.list, run_loadRules]
    decide +kernel
  · rw [hshows.enabledForTopic, run_loadRules]
    decide +kernel

end RuleStore

end TopicAlerts
