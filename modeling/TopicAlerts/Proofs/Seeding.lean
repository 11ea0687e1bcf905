import Mathlib.Data.List.Induction
import TopicAlerts.Proofs.StoreRequests

/-!
# Seeding

Seeding creates rules one after the other, and skips those that the store refuses. Which rules are
created depends on the store as it grows; `RuleStore.firsts` tells it from the list alone: those
that can work and whose name and topic belong neither to a rule of the store nor to one before them
in the list that can work. A rule that cannot work stands in nobody's way.

`RuleStore.seed_eq` says that seeding adds these rules and nothing else, each created at its own
time. From it follow what seeding the same rules again does, and seeding two lists one after the
other: `RuleStore.run_seed` has all of it.
-/

namespace TopicAlerts

instance RuleSpec.decidableIsWorkable (spec : RuleSpec) : Decidable spec.IsWorkable :=
  decidable_of_iff ((RuleStore.validate.{0} spec).isOk = true) <| by
    rw [← RuleStore.validate_eq_ok_iff]
    cases RuleStore.validate spec <;> simp [Except.isOk, Except.toBool]

namespace RuleStore

/-! ## Rules that come first -/

/-- Whether a rule of the store, or a rule of a list that can work, has this name and topic. -/
def IsTaken (store : RuleStore) (specs : List RuleSpec) (pair : String × String) : Prop :=
  (∃ rule ∈ store.rules, rule.pair = pair) ∨ ∃ spec ∈ specs, spec.IsWorkable ∧ spec.pair = pair

instance (store : RuleStore) (specs : List RuleSpec) (pair : String × String) :
    Decidable (store.IsTaken specs pair) :=
  inferInstanceAs (Decidable (_ ∨ _))

/-- Whether a rule can work and is the first with its name and topic, after those of the store and
of a list. -/
def IsFirst (store : RuleStore) (before : List RuleSpec) (spec : RuleSpec) : Prop :=
  spec.IsWorkable ∧ ¬store.IsTaken before spec.pair

instance (store : RuleStore) (before : List RuleSpec) (spec : RuleSpec) :
    Decidable (store.IsFirst before spec) :=
  inferInstanceAs (Decidable (_ ∧ _))

/-- The rules of a list that are the first with their name and topic where they stand. -/
def firsts (store : RuleStore) (entries : List (RuleSpec × Int64)) : List (RuleSpec × Int64) :=
  (entries.zipIdx.filter fun placed =>
    store.IsFirst ((entries.take placed.2).map (·.1)) placed.1.1).map (·.1)

variable {store : RuleStore} {entries more : List (RuleSpec × Int64)} {entry : RuleSpec × Int64}
  {specs : List RuleSpec} {spec : RuleSpec} {now : Int64} {pair : String × String}

theorem mem_firsts (hmem : entry ∈ store.firsts entries) :
    entry ∈ entries ∧ ∃ before, store.IsFirst before entry.1 := by
  obtain ⟨placed, hplaced, rfl⟩ := List.mem_map.mp hmem
  obtain ⟨hplaced, hfirst⟩ := List.mem_filter.mp hplaced
  exact ⟨List.fst_mem_of_mem_zipIdx hplaced, _, of_decide_eq_true hfirst⟩

/-- The last rule of a list is judged by those before it. -/
theorem firsts_concat : store.firsts (entries ++ [entry]) =
    store.firsts entries ++ if store.IsFirst (entries.map (·.1)) entry.1 then [entry] else [] := by
  have hbefore : entries.zipIdx.filter (fun placed =>
        store.IsFirst (((entries ++ [entry]).take placed.2).map (·.1)) placed.1.1) =
      entries.zipIdx.filter fun placed =>
        store.IsFirst ((entries.take placed.2).map (·.1)) placed.1.1 := by
    refine List.filter_congr fun placed hmem => ?_
    have hplace : placed.2 < entries.length := List.snd_lt_of_mem_zipIdx hmem
    rw [List.take_append_of_le_length (Nat.le_of_lt hplace)]
  unfold firsts
  rw [List.zipIdx_append, List.filter_append, hbefore, List.map_append]
  by_cases hfirst : store.IsFirst (entries.map (·.1)) entry.1 <;> simp [hfirst]

/-- At what times the rules of a list are created does not matter to which of them come first. -/
theorem map_firsts_congr {again : List (RuleSpec × Int64)}
    (hsame : again.map (·.1) = entries.map (·.1)) :
    (store.firsts again).map (·.1) = (store.firsts entries).map (·.1) := by
  induction entries using List.reverseRecOn generalizing again with
  | nil => rw [List.map_eq_nil_iff.mp hsame]
  | append_singleton entries entry ih =>
    rw [List.map_append] at hsame
    obtain ⟨before, last, rfl, hbefore, hlast⟩ := List.map_eq_append_iff.mp hsame
    obtain ⟨other, rfl, hother⟩ := List.map_eq_singleton_iff.mp hlast
    rw [firsts_concat, firsts_concat, List.map_append, List.map_append, ih hbefore, hbefore, hother]
    split_ifs <;> simp [hother]

theorem isTaken_append {more : List RuleSpec} : store.IsTaken (specs ++ more) pair ↔
    store.IsTaken specs pair ∨ ∃ spec ∈ more, spec.IsWorkable ∧ spec.pair = pair := by
  unfold IsTaken
  simp only [List.mem_append, or_and_right, exists_or, or_assoc]

/-- Those that come first take all names and topics that are taken. -/
theorem isTaken_iff : store.IsTaken (entries.map (·.1)) pair ↔
    (∃ rule ∈ store.rules, rule.pair = pair) ∨
      ∃ entry ∈ store.firsts entries, entry.1.pair = pair := by
  induction entries using List.reverseRecOn with
  | nil => simp [IsTaken, firsts]
  | append_singleton entries entry ih =>
    rw [List.map_append, isTaken_append, firsts_concat]
    split_ifs with hfirst
    · rw [ih]
      simp [or_and_right, exists_or, or_assoc, hfirst.1]
    · -- a rule that can work and does not come first finds its name and topic taken
      rw [List.append_nil, ← ih, or_iff_left_of_imp]
      rintro ⟨other, hother, hworkable, rfl⟩
      obtain rfl := List.mem_singleton.mp hother
      by_contra hfree
      exact hfirst ⟨hworkable, hfree⟩

/-! ## Stores that grow -/

/-- The store with some rules more, each created at a time of its own. -/
def extend (store : RuleStore) (entries : List (RuleSpec × Int64)) : RuleStore :=
  entries.foldl (fun store (spec, now) =>
    ⟨store.rules ++ [spec.toRule store.ids.next now], store.ids.advance⟩) store

theorem extend_concat : store.extend (entries ++ [(spec, now)]) =
    let before := store.extend entries
    ⟨before.rules ++ [spec.toRule before.ids.next now], before.ids.advance⟩ :=
  List.foldl_concat _ _ _ _

/-- Ids that were given stay so. -/
theorem hasGiven_extend {id : String} (hgiven : store.ids.HasGiven id) :
    (store.extend entries).ids.HasGiven id := by
  induction entries using List.reverseRecOn with
  | nil => exact hgiven
  | append_singleton entries entry ih =>
    rw [extend_concat]
    exact IdSource.hasGiven_advance.mpr (.inl ih)

/-- The rules that are added are what their authors wrote, and have ids that were not given. -/
theorem rules_extend (store : RuleStore) (entries : List (RuleSpec × Int64)) :
    ∃ created, (store.extend entries).rules = store.rules ++ created ∧
      created.map (fun rule => (rule.toRuleSpec, rule.createdAt)) = entries ∧
      ∀ rule ∈ created, rule.updatedAt = rule.createdAt ∧ ¬store.ids.HasGiven rule.id := by
  induction entries using List.reverseRecOn with
  | nil => exact ⟨[], (List.append_nil _).symm, rfl, by simp⟩
  | append_singleton entries entry ih =>
    obtain ⟨created, hrules, hentries, hnew⟩ := ih
    let before := store.extend entries
    let rule := entry.1.toRule before.ids.next entry.2
    refine ⟨created ++ [rule], ?_, ?_, ?_⟩
    · rw [extend_concat, ← List.append_assoc, ← hrules]
    · rw [List.map_append, hentries]
      rfl
    · rintro other hother
      rcases List.mem_append.mp hother with hold | hlast
      · exact hnew other hold
      · rw [List.mem_singleton.mp hlast]
        exact ⟨rfl, fun hgiven => before.ids.not_hasGiven_next (hasGiven_extend hgiven)⟩

theorem map_rules_extend : (store.extend entries).rules.map (·.toRuleSpec) =
    store.rules.map (·.toRuleSpec) ++ entries.map (·.1) := by
  obtain ⟨created, hrules, hentries, -⟩ := rules_extend store entries
  rw [hrules, List.map_append, ← hentries, List.map_map]
  rfl

theorem exists_pair_extend : (∃ rule ∈ (store.extend entries).rules, rule.pair = pair) ↔
    (∃ rule ∈ store.rules, rule.pair = pair) ∨ ∃ entry ∈ entries, entry.1.pair = pair := by
  have hpairs : ∀ rules : List Rule, (∃ rule ∈ rules, rule.pair = pair) ↔
      ∃ spec ∈ rules.map (·.toRuleSpec), spec.pair = pair := by simp
  rw [hpairs, hpairs, map_rules_extend]
  simp [or_and_right, exists_or]

/-- The store with the rules that come first has all names and topics that are taken. -/
theorem isTaken_iff_extend : store.IsTaken (entries.map (·.1)) pair ↔
    ∃ rule ∈ (store.extend (store.firsts entries)).rules, rule.pair = pair :=
  isTaken_iff.trans exists_pair_extend.symm

theorem isTaken_extend : (store.extend (store.firsts entries)).IsTaken specs pair ↔
    store.IsTaken (entries.map (·.1) ++ specs) pair := by
  rw [isTaken_append, isTaken_iff_extend]
  rfl

theorem firsts_append : store.firsts (entries ++ more) =
    store.firsts entries ++ (store.extend (store.firsts entries)).firsts more := by
  induction more using List.reverseRecOn with
  | nil => simp [firsts]
  | append_singleton more entry ih =>
    have hfirst : (store.extend (store.firsts entries)).IsFirst (more.map (·.1)) entry.1 ↔
        store.IsFirst ((entries ++ more).map (·.1)) entry.1 := by
      rw [List.map_append]
      exact and_congr_right fun _ => not_congr isTaken_extend
    rw [← List.append_assoc, firsts_concat, firsts_concat, ih, List.append_assoc]
    simp only [hfirst]

/-- Once they are stored, nothing of their list comes first. -/
theorem firsts_extend : (store.extend (store.firsts entries)).firsts entries = [] := by
  rw [List.eq_nil_iff_forall_not_mem]
  intro entry hmem
  obtain ⟨hentry, before, hworkable, hfree⟩ := mem_firsts hmem
  have htaken : store.IsTaken (entries.map (·.1)) entry.1.pair :=
    .inr ⟨entry.1, List.mem_map_of_mem hentry, hworkable, rfl⟩
  exact hfree (.inl (isTaken_iff_extend.mp htaken))

/-! ## Seeding -/

theorem seed_concat : store.seed (entries ++ [(spec, now)]) =
    match (store.seed entries).2.create spec now with
    | .ok (_, next) => ((store.seed entries).1 + 1, next)
    | .error _ => store.seed entries := by
  unfold RuleStore.seed
  exact List.foldl_concat _ _ _ _

/-- Seeding adds the rules that come first, and counts them. -/
theorem seed_eq (store : RuleStore) (entries : List (RuleSpec × Int64)) : store.seed entries =
    ((store.firsts entries).length, store.extend (store.firsts entries)) := by
  induction entries using List.reverseRecOn with
  | nil => rfl
  | append_singleton entries entry ih =>
    obtain ⟨spec, now⟩ := entry
    rw [seed_concat, ih, firsts_concat]
    have hfree : ¬store.IsTaken (entries.map (·.1)) spec.pair ↔
        ∀ rule ∈ (store.extend (store.firsts entries)).rules, rule.pair ≠ spec.pair := by
      rw [isTaken_iff_extend]
      simp
    split_ifs with hfirst
    · rw [create_eq_ok hfirst.1 (hfree.mp hfirst.2), extend_concat, List.length_append]
      rfl
    · rw [List.append_nil]
      split
      next rule next hcreated =>
        obtain ⟨hworkable, hunique, -⟩ := create_cases hcreated
        exact absurd ⟨hworkable, hfree.mpr hunique⟩ hfirst
      next => rfl

/-- Whatever was written to a store before: seeding puts behind its rules those of a list that can
work and are the first with their name and topic, each under an id of its own and with the time of
its creation, and counts them. Seeding the same rules again, at whatever times, does nothing, and
seeding two lists at once makes the same rules as seeding one after the other. -/
theorem run_seed (ids : IdSource) (writes : List Write) (entries more : List (RuleSpec × Int64)) :
    let store := (empty ids).run writes
    let seeded := store.seed entries
    let parts := seeded.2.seed more
    (∃ created, seeded.2.rules = store.rules ++ created ∧
        created.map (fun rule => (rule.toRuleSpec, rule.createdAt)) = store.firsts entries ∧
        seeded.1 = created.length ∧
        ∀ rule ∈ created, rule.updatedAt = rule.createdAt ∧ store.get? rule.id = none) ∧
      (∀ rule ∈ seeded.2.rules, seeded.2.get? rule.id = some rule) ∧
      (∀ again : List (RuleSpec × Int64), again.map (·.1) = entries.map (·.1) →
        seeded.2.seed again = (0, seeded.2)) ∧
      ∀ whole : List (RuleSpec × Int64), whole.map (·.1) = (entries ++ more).map (·.1) →
        (store.seed whole).1 = seeded.1 + parts.1 ∧
          (store.seed whole).2.rules.map (·.toRuleSpec) = parts.2.rules.map (·.toRuleSpec) := by
  intro store seeded parts
  have hstore : store.Consistent := (consistent_empty ids).run writes
  have hkeyed : seeded.2.Keyed := (hstore.seed entries).keyed
  have hseeded : seeded = ((store.firsts entries).length, store.extend (store.firsts entries)) :=
    seed_eq store entries
  have hparts : parts = _ := seed_eq seeded.2 more
  refine ⟨?_, ?_, ?_, ?_⟩
  · obtain ⟨created, hrules, hentries, hnew⟩ := rules_extend store (store.firsts entries)
    refine ⟨created, by rw [hseeded, hrules], hentries, ?_, fun rule hrule => ?_⟩
    · rw [hseeded, ← hentries, List.length_map]
    · exact (hnew rule hrule).imp_right hstore.get?_fresh
  · intro rule hrule
    exact (get?_eq_some_iff hkeyed).mpr ⟨hrule, rfl⟩
  · intro again hagain
    have hnone : seeded.2.firsts again = [] := by
      rw [← List.map_eq_nil_iff, map_firsts_congr hagain, hseeded, firsts_extend, List.map_nil]
    rw [seed_eq, hnone]
    rfl
  · intro whole hwhole
    have hfirsts : (store.firsts whole).map (·.1) =
        (store.firsts entries).map (·.1) ++ (seeded.2.firsts more).map (·.1) := by
      rw [map_firsts_congr hwhole, firsts_append, List.map_append, hseeded]
    have hlength := congrArg List.length hfirsts
    rw [List.length_append, List.length_map, List.length_map, List.length_map] at hlength
    constructor
    · rw [seed_eq, hlength, hparts, hseeded]
    · rw [seed_eq, map_rules_extend, hfirsts, hparts, map_rules_extend, hseeded, map_rules_extend,
        List.append_assoc]

end RuleStore

end TopicAlerts
