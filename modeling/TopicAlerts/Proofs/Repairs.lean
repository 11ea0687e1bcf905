import Mathlib.Data.List.Forall2
import TopicAlerts.Proofs.TestLaws

/-!
# Repairs

What is malformed in a rule is met by no message, and nothing in an expression turns that into a
match elsewhere: no operator negates a condition. So whatever is put in the place of malformed
parts, at any depth, only more messages match (`repairs_keep_matches`). This holds of the nodes of
an expression (`Expression.Repairs`) and of the entries and items of a rule document
(`RuleDocument.Mends`).
-/

namespace TopicAlerts

/-! ## Expressions -/

namespace Expression

/-- Some of the malformed parts of an expression are replaced, by any expressions at all. -/
inductive Repairs : Expression → Expression → Prop
  /-- A malformed part may be replaced. -/
  | replace (problem : Problem) (other : Expression) : Repairs (.unsupported problem) other
  /-- A test stays. -/
  | test (field : Option String) (asked : Test) : Repairs (.test field asked) (.test field asked)
  /-- Each condition of a conjunction is repaired. -/
  | all {children repaired : List Expression} (each : List.Forall₂ Repairs children repaired) :
      Repairs (.all children) (.all repaired)
  /-- Each condition of a disjunction is repaired. -/
  | any {children repaired : List Expression} (each : List.Forall₂ Repairs children repaired) :
      Repairs (.any children) (.any repaired)

variable {message : Message}

mutual

/-- A message that matches an expression matches every repair of it. -/
theorem Repairs.holds {expression repaired : Expression} (h : Repairs expression repaired)
    (hholds : expression.holds message = true) : repaired.holds message = true := by
  match h with
  | .replace problem other => cases hholds
  | .test field asked => exact hholds
  | .all each => exact Repairs.allHold each hholds
  | .any each => exact Repairs.someHolds each hholds

theorem Repairs.allHold {children repaired : List Expression}
    (h : List.Forall₂ Repairs children repaired) (hholds : allHold message children = true) :
    Expression.allHold message repaired = true := by
  match h with
  | .nil => rfl
  | .cons first rest =>
    obtain ⟨hfirst, hrest⟩ := Bool.and_eq_true_iff.mp hholds
    exact Bool.and_eq_true_iff.mpr ⟨first.holds hfirst, Repairs.allHold rest hrest⟩

theorem Repairs.someHolds {children repaired : List Expression}
    (h : List.Forall₂ Repairs children repaired) (hholds : someHolds message children = true) :
    Expression.someHolds message repaired = true := by
  match h with
  | .nil => cases hholds
  | .cons first rest =>
    refine Bool.or_eq_true_iff.mpr ?_
    rcases Bool.or_eq_true_iff.mp hholds with hfirst | hrest
    · exact .inl (first.holds hfirst)
    · exact .inr (Repairs.someHolds rest hrest)

end

end Expression

/-! ## Rule documents -/

namespace RuleDocument

variable {message : Message} {key : String} {argument : Json} {problem : Problem}

theorem Offends.not_meets {document : Json} (h : Offends document [] problem) :
    ¬Meets message document := by
  rw [← parse_holds_iff, h.parse_eq]
  exact Bool.false_ne_true

theorem EntryOffends.not_matches (h : EntryOffends key argument [] problem) :
    ¬Matches message key argument := by
  rw [Matches, parse_singleton, h.parseMember_eq]
  exact Bool.false_ne_true

mutual

/-- Some of the malformed parts of a rule document are replaced, by anything at all. -/
inductive Mends : Json → Json → Prop
  /-- What is not an object may be replaced. -/
  | replace {document : Json} {problem : Problem} (offends : Offends document [] problem)
      (other : Json) : Mends document other
  /-- Each entry is mended; with new keys the entries may come in another order. -/
  | object {entries mended others : Json.Members} (each : List.Forall₂ MendsEntry entries mended)
      (order : mended.Perm others) : Mends (.obj entries) (.obj others)

/-- Some of the malformed parts of an entry are replaced, by anything at all. -/
inductive MendsEntry : String × Json → String × Json → Prop
  /-- A malformed entry may be replaced. -/
  | replace {key : String} {argument : Json} {problem : Problem}
      (offends : EntryOffends key argument [] problem) (other : String × Json) :
      MendsEntry (key, argument) other
  /-- An entry may stay. -/
  | keep (entry : String × Json) : MendsEntry entry entry
  /-- Each of the documents that are joined is mended. -/
  | items {key : String} {items mended : List Json} (joins : Joins key)
      (each : List.Forall₂ Mends items mended) : MendsEntry (key, .arr items) (key, .arr mended)

end

mutual

/-- A message that meets a document meets the mended document. -/
theorem Mends.meets {document mended : Json} (h : Mends document mended)
    (hmeets : Meets message document) : Meets message mended := by
  match h with
  | .replace hoffends other => exact absurd hmeets hoffends.not_meets
  | .object heach horder =>
    rw [← meets_obj_of_perm message horder, meets_obj_iff_matches]
    rw [meets_obj_iff_matches] at hmeets
    exact MendsEntry.matches_all heach hmeets

theorem MendsEntry.matches {entry mended : String × Json} (h : MendsEntry entry mended)
    (hmatches : Matches message entry.1 entry.2) : Matches message mended.1 mended.2 := by
  match h with
  | .replace hoffends other => exact absurd hmatches hoffends.not_matches
  | .keep entry => exact hmatches
  | .items hjoins heach =>
    rw [matches_iff] at hmatches ⊢
    rcases hjoins with hjoins | hjoins
    · simp only [hjoins] at hmatches ⊢
      exact Mends.meets_all heach hmatches
    · simp only [hjoins] at hmatches ⊢
      exact Mends.meets_some heach hmatches

theorem MendsEntry.matches_all {entries mended : Json.Members}
    (h : List.Forall₂ MendsEntry entries mended)
    (hmatches : ∀ entry ∈ entries, Matches message entry.1 entry.2) :
    ∀ entry ∈ mended, Matches message entry.1 entry.2 := by
  match h with
  | .nil => exact hmatches
  | .cons hfirst hrest =>
    rw [List.forall_mem_cons] at hmatches ⊢
    exact ⟨hfirst.matches hmatches.1, MendsEntry.matches_all hrest hmatches.2⟩

theorem Mends.meets_all {items mended : List Json} (h : List.Forall₂ Mends items mended)
    (hmeets : ∀ item ∈ items, Meets message item) : ∀ item ∈ mended, Meets message item := by
  match h with
  | .nil => exact hmeets
  | .cons hfirst hrest =>
    rw [List.forall_mem_cons] at hmeets ⊢
    exact ⟨hfirst.meets hmeets.1, Mends.meets_all hrest hmeets.2⟩

theorem Mends.meets_some {items mended : List Json} (h : List.Forall₂ Mends items mended)
    (hmeets : ∃ item ∈ items, Meets message item) : ∃ item ∈ mended, Meets message item := by
  match h with
  | .nil => exact hmeets
  | .cons hfirst hrest =>
    rw [List.exists_mem_cons_iff] at hmeets ⊢
    exact hmeets.imp hfirst.meets (Mends.meets_some hrest)

end

/-- A message that matches an expression matches every repair of it, and a message that matches a
rule document matches whatever comes of replacing malformed parts of the document. So what is
malformed can keep a rule from matching, but it never makes a rule match. -/
theorem repairs_keep_matches (message : Message) :
    (∀ expression repaired, Expression.Repairs expression repaired →
      expression.holds message = true → repaired.holds message = true) ∧
    ∀ document mended, Mends document mended →
      (Expression.parse document).holds message = true →
        (Expression.parse mended).holds message = true := by
  refine ⟨fun _ _ hrepairs hholds => hrepairs.holds hholds, fun document mended hmends hholds => ?_⟩
  rw [parse_holds_iff] at hholds ⊢
  exact hmends.meets hholds

/-- A disjunction of a condition with this entry and one that every message meets. -/
def alternatives (entry : String × Json) : Json := .obj [("$or", .arr [.obj [entry], .obj []])]

theorem alternatives_hold (message : Message) :
    (Expression.parse (alternatives ("bogus", .null))).holds message = true := by
  have hor : operators.lookup (bareKey "$or") = some .or := rfl
  rw [parse_holds_iff, alternatives, meets_obj_iff_matches, List.forall_mem_singleton,
    matches_or_iff hor]
  refine ⟨.obj [], List.mem_cons_of_mem _ List.mem_cons_self, ?_⟩
  rw [meets_obj_iff]
  exact List.forall_mem_nil _

/-- A name that is no operator becomes a comparison. -/
theorem repairs_keep_matches_alternatives :
    let message : Message := ⟨.num (.int 5)⟩
    let comparison : String × Json := ("gt", .obj [("value", .num (.int 9))])
    let test : Expression := .test none (.compare .greater (Binary64.ofInt 9))
    (Expression.any [test, .all []]).holds message = true ∧
      (Expression.parse (alternatives comparison)).holds message = true := by
  intro message comparison test
  obtain ⟨hexpressions, hdocuments⟩ := repairs_keep_matches message
  constructor
  · refine hexpressions (.any [.unsupported (.unknownOperator "bogus"), .all []]) _ ?_ rfl
    exact .any (.cons (.replace _ _) (.cons (.all .nil) .nil))
  · refine hdocuments (alternatives ("bogus", .null)) _ ?_ (alternatives_hold message)
    have hunknown : IsUnknown "bogus" := rfl
    have hfirst : Mends (.obj [("bogus", .null)]) (.obj [comparison]) :=
      .object (.cons (.replace (.unknown hunknown) _) .nil) (.refl _)
    have hsecond : Mends (.obj []) (.obj []) := .object .nil (.refl _)
    exact .object (.cons (.items (.inr rfl) (.cons hfirst (.cons hsecond .nil))) .nil) (.refl _)

end RuleDocument

end TopicAlerts
