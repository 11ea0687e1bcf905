import TopicAlerts.Proofs.Interpretation
import TopicAlerts.Proofs.OrderedJson

/-!
# The grammar of rule documents

`RuleDocument.IsWellFormed` is the grammar of rule documents, and `RuleDocument.Offends` says at
which positions a document breaks it, and why. A document is well-formed if nothing in it offends
(`isWellFormed_iff`).

The parser finds exactly these faults (`RuleDocument.parse_problems`): nothing is wrong with the
expression of a document if and only if the document is well-formed, and otherwise each offending
position accounts for one of its problems, in the order in which they stand in the document.
-/

namespace TopicAlerts.RuleDocument

/-! ## The grammar -/

/-- The key names an operator that joins rule documents. -/
def Joins (key : String) : Prop :=
  operators.lookup (bareKey key) = some .and ∨ operators.lookup (bareKey key) = some .or

/-- The key names an operator that tests a value. -/
def Tests (key : String) (leaf : Leaf) : Prop := operators.lookup (bareKey key) = some (.leaf leaf)

/-- The key names no operator. -/
def IsUnknown (key : String) : Prop := operators.lookup (bareKey key) = none

/-- If a test has a field, that is a text. -/
def FieldFits (arguments : Json.Members) : Prop :=
  ∀ value, Argument arguments "field" value → ∃ path, value = .str path

/-- A test has the operand that its operator needs. -/
def OperandFits (arguments : Json.Members) : Leaf → Prop
  | .compare _ => ∃ operand threshold, Argument arguments "value" operand ∧ Says operand threshold
  | .eq | .ne => ∃ operand, Argument arguments "value" operand ∧ operand ≠ .null
  | .isIn => ∃ candidates, Argument arguments "values" (.arr candidates)
  | .contains => ∃ needle, Argument arguments "value" (.str needle)

mutual

/-- A rule document is an object whose entries are all well-formed. -/
inductive IsWellFormed : Json → Prop
  | object {entries : Json.Members} (all : ∀ entry ∈ entries, IsWellFormedEntry entry.1 entry.2) :
      IsWellFormed (.obj entries)

/-- An entry is an operator with an argument that fits it. -/
inductive IsWellFormedEntry : String → Json → Prop
  /-- Rule documents may be joined. -/
  | join {key : String} {items : List Json} (joins : Joins key)
      (all : ∀ item ∈ items, IsWellFormed item) : IsWellFormedEntry key (.arr items)
  /-- A value may be tested. -/
  | test {key : String} {leaf : Leaf} {arguments : Json.Members} (tests : Tests key leaf)
      (field : FieldFits arguments) (operand : OperandFits arguments leaf) :
      IsWellFormedEntry key (.obj arguments)

end

/-! ## Offences -/

/-- A step down into a document. -/
inductive Step
  /-- To the argument of an entry. -/
  | key (key : String)
  /-- To an item. -/
  | item (place : Nat)

/-- A position in a document, by the steps that lead to it. -/
abbrev Position := List Step

/-- Entries come in the order of their keys, items in that of their places. -/
inductive Step.Before : Step → Step → Prop
  | key {a b : String} (less : a < b) : Before (.key a) (.key b)
  | item {m n : Nat} (less : m < n) : Before (.item m) (.item n)

/-- The order in which positions stand in a document. -/
def Position.Before (a b : Position) : Prop := List.Lex Step.Before a b

/-- The problem of a test without the operand that its operator needs. -/
def missingOperand (key : String) : Leaf → Problem
  | .compare _ => .needsNumber key
  | .eq | .ne => .needsValue key
  | .isIn => .needsValues key
  | .contains => .needsText key

/-- Why an argument does not fit an operator that tests a value. -/
inductive Misfit (key : String) (leaf : Leaf) : Json → Problem → Prop
  /-- It is not an object. -/
  | notArguments {argument : Json} (other : ∀ arguments, argument ≠ .obj arguments) :
      Misfit key leaf argument (.notArguments key argument.kind)
  /-- Its field is not a text. -/
  | field {arguments : Json.Members} {value : Json} (named : Argument arguments "field" value)
      (other : ∀ path, value ≠ .str path) :
      Misfit key leaf (.obj arguments) (.fieldNotText key value.kind)
  /-- Its field fits, but not its operand. -/
  | operand {arguments : Json.Members} (field : FieldFits arguments)
      (misses : ¬OperandFits arguments leaf) :
      Misfit key leaf (.obj arguments) (missingOperand key leaf)

mutual

/-- The document offends at this position, for this reason. -/
inductive Offends : Json → Position → Problem → Prop
  /-- It is not an object. -/
  | notAnObject {document : Json} (other : ∀ entries, document ≠ .obj entries) :
      Offends document [] (.notAnObject document.kind)
  /-- One of its entries offends. -/
  | entry {entries : Json.Members} {key : String} {argument : Json} {position : Position}
      {problem : Problem} (member : (key, argument) ∈ entries)
      (offends : EntryOffends key argument position problem) :
      Offends (.obj entries) (.key key :: position) problem

/-- The entry offends at this position below its key, for this reason. -/
inductive EntryOffends : String → Json → Position → Problem → Prop
  /-- Its key names no operator. -/
  | unknown {key : String} {argument : Json} (unknown : IsUnknown key) :
      EntryOffends key argument [] (.unknownOperator key)
  /-- It should join rule documents, but its argument is not an array. -/
  | notConditions {key : String} {argument : Json} (joins : Joins key)
      (other : ∀ items, argument ≠ .arr items) :
      EntryOffends key argument [] (.notConditions key argument.kind)
  /-- One of the documents that it joins offends. -/
  | item {key : String} {items : List Json} {place : Nat} {item : Json} {position : Position}
      {problem : Problem} (joins : Joins key) (at_place : items[place]? = some item)
      (offends : Offends item position problem) :
      EntryOffends key (.arr items) (.item place :: position) problem
  /-- Its argument does not fit. -/
  | argument {key : String} {leaf : Leaf} {argument : Json} {problem : Problem}
      (tests : Tests key leaf) (misfit : Misfit key leaf argument problem) :
      EntryOffends key argument [] problem

end

/-- Every key names an operator that joins documents, or one that tests a value, or none. -/
theorem key_cases (key : String) : IsUnknown key ∨ Joins key ∨ ∃ leaf, Tests key leaf := by
  unfold IsUnknown Joins Tests
  rcases operators.lookup (bareKey key) with _ | _ | _ | leaf
  · exact .inl rfl
  · exact .inr (.inl (.inl rfl))
  · exact .inr (.inl (.inr rfl))
  · exact .inr (.inr ⟨leaf, rfl⟩)

section Keys

variable {key : String} {leaf other : Leaf}

theorem Joins.not_unknown (joins : Joins key) : ¬IsUnknown key := by
  intro unknown
  rcases joins with joined | joined <;> cases unknown.symm.trans joined

theorem Joins.not_tests (joins : Joins key) : ¬Tests key leaf := by
  intro tests
  rcases joins with joined | joined <;> cases tests.symm.trans joined

theorem Tests.not_unknown (tests : Tests key leaf) : ¬IsUnknown key := by
  intro unknown
  cases unknown.symm.trans tests

theorem Tests.eq (tests : Tests key leaf) (also : Tests key other) : leaf = other := by
  cases tests.symm.trans also
  rfl

end Keys

/-- An argument that does not fit a test is no arguments, or its field does not fit, or its operand
does not. -/
theorem exists_misfit_iff {key : String} {leaf : Leaf} {argument : Json} :
    (∃ problem, Misfit key leaf argument problem) ↔
      ¬∃ arguments, argument = .obj arguments ∧ FieldFits arguments ∧
        OperandFits arguments leaf := by
  constructor
  · rintro ⟨problem, misfit⟩ ⟨arguments, isArguments, field, operand⟩
    cases misfit with
    | notArguments other => exact other arguments isArguments
    | field named other =>
      cases isArguments
      obtain ⟨path, isText⟩ := field _ named
      exact other path isText
    | operand _ misses =>
      cases isArguments
      exact misses operand
  · intro misfits
    by_cases isArguments : ∃ arguments, argument = .obj arguments
    · obtain ⟨arguments, rfl⟩ := isArguments
      by_cases field : FieldFits arguments
      · have misses : ¬OperandFits arguments leaf :=
          fun operand => misfits ⟨arguments, rfl, field, operand⟩
        exact ⟨_, .operand field misses⟩
      · unfold FieldFits at field
        push Not at field
        obtain ⟨value, named, other⟩ := field
        exact ⟨_, .field named other⟩
    · push Not at isArguments
      exact ⟨_, .notArguments isArguments⟩

/-! ## What offends in an entry -/

section Entries

variable {key : String} {leaf : Leaf} {argument : Json} {position : Position} {problem : Problem}

theorem entryOffends_unknown_iff (unknown : IsUnknown key) :
    EntryOffends key argument position problem ↔
      position = [] ∧ problem = .unknownOperator key := by
  constructor
  · intro offends
    cases offends with
    | unknown _ => exact ⟨rfl, rfl⟩
    | notConditions joins _ => exact absurd unknown joins.not_unknown
    | item joins _ _ => exact absurd unknown joins.not_unknown
    | argument tests _ => exact absurd unknown tests.not_unknown
  · rintro ⟨rfl, rfl⟩
    exact .unknown unknown

theorem entryOffends_tests_iff (tests : Tests key leaf) :
    EntryOffends key argument position problem ↔
      position = [] ∧ Misfit key leaf argument problem := by
  constructor
  · intro offends
    cases offends with
    | unknown unknown => exact absurd unknown tests.not_unknown
    | notConditions joins _ => exact absurd tests joins.not_tests
    | item joins _ _ => exact absurd tests joins.not_tests
    | argument also misfit =>
      cases tests.eq also
      exact ⟨rfl, misfit⟩
  · rintro ⟨rfl, misfit⟩
    exact .argument tests misfit

theorem entryOffends_items_iff (joins : Joins key) {items : List Json} :
    EntryOffends key (.arr items) position problem ↔
      ∃ place item rest, items[place]? = some item ∧ position = .item place :: rest ∧
        Offends item rest problem := by
  constructor
  · intro offends
    cases offends with
    | unknown unknown => exact absurd unknown joins.not_unknown
    | notConditions _ other => exact absurd rfl (other items)
    | item _ at_place offends => exact ⟨_, _, _, at_place, rfl, offends⟩
    | argument tests _ => exact absurd tests joins.not_tests
  · rintro ⟨place, item, rest, at_place, rfl, offends⟩
    exact .item joins at_place offends

theorem entryOffends_notConditions_iff (joins : Joins key)
    (other : ∀ items, argument ≠ .arr items) :
    EntryOffends key argument position problem ↔
      position = [] ∧ problem = .notConditions key argument.kind := by
  constructor
  · intro offends
    cases offends with
    | unknown unknown => exact absurd unknown joins.not_unknown
    | notConditions _ _ => exact ⟨rfl, rfl⟩
    | item _ _ _ => exact absurd rfl (other _)
    | argument tests _ => exact absurd tests joins.not_tests
  · rintro ⟨rfl, rfl⟩
    exact .notConditions joins other

end Entries

/-! ## Well-formed documents -/

/-- An entry is well-formed exactly if nothing in it offends, provided that this is so for the items
of its argument. -/
theorem isWellFormedEntry_iff {key : String} {argument : Json}
    (each : ∀ items, argument = .arr items → ∀ item ∈ items,
      (IsWellFormed item ↔ ∀ position problem, ¬Offends item position problem)) :
    IsWellFormedEntry key argument ↔
      ∀ position problem, ¬EntryOffends key argument position problem := by
  rcases key_cases key with unknown | joins | ⟨leaf, tests⟩
  · refine iff_of_false (fun formed => ?_) fun sound => sound _ _ (.unknown unknown)
    cases formed with
    | join joins _ => exact joins.not_unknown unknown
    | test tests _ _ => exact tests.not_unknown unknown
  · by_cases isArray : ∃ items, argument = .arr items
    · obtain ⟨items, rfl⟩ := isArray
      constructor
      · intro formed position problem offends
        obtain ⟨place, item, rest, at_place, -, offends⟩ :=
          (entryOffends_items_iff joins).mp offends
        have inside := List.mem_of_getElem? at_place
        cases formed with
        | join _ all => exact (each items rfl item inside).mp (all item inside) rest problem offends
      · intro sound
        refine .join joins fun item inside => (each items rfl item inside).mpr ?_
        intro rest problem offends
        obtain ⟨place, at_place⟩ := List.getElem?_of_mem inside
        exact sound _ _ (.item joins at_place offends)
    · push Not at isArray
      refine iff_of_false (fun formed => ?_) fun sound => sound _ _ (.notConditions joins isArray)
      cases formed with
      | join _ _ => exact isArray _ rfl
      | test tests _ _ => exact joins.not_tests tests
  · have fits : (¬∃ problem, Misfit key leaf argument problem) ↔
        ∃ arguments, argument = .obj arguments ∧ FieldFits arguments ∧
          OperandFits arguments leaf := by
      rw [exists_misfit_iff, not_not]
    constructor
    · intro formed position problem offends
      obtain ⟨-, misfit⟩ := (entryOffends_tests_iff tests).mp offends
      cases formed with
      | join joins _ => exact joins.not_tests tests
      | test also field operand =>
        cases tests.eq also
        exact fits.mpr ⟨_, rfl, field, operand⟩ ⟨problem, misfit⟩
    · intro sound
      obtain ⟨arguments, rfl, field, operand⟩ :=
        fits.mp fun ⟨problem, misfit⟩ => sound _ _ (.argument tests misfit)
      exact .test tests field operand

/-- A document is well-formed exactly if nothing in it offends. -/
theorem isWellFormed_iff (document : Json) :
    IsWellFormed document ↔ ∀ position problem, ¬Offends document position problem := by
  by_cases isObject : ∃ entries, document = .obj entries
  · obtain ⟨entries, rfl⟩ := isObject
    -- items of an entry are smaller than the document, which the recursion goes down
    have eachEntry : ∀ entry ∈ entries, (IsWellFormedEntry entry.1 entry.2 ↔
        ∀ position problem, ¬EntryOffends entry.1 entry.2 position problem) := by
      intro entry member
      refine isWellFormedEntry_iff fun items holds_items item inside => ?_
      have smaller := sizeOf_item_lt member holds_items inside
      exact isWellFormed_iff item
    constructor
    · intro formed position problem offends
      cases formed with
      | object all =>
        cases offends with
        | notAnObject other => exact other entries rfl
        | entry member offends =>
          exact (eachEntry _ member).mp (all _ member) _ _ offends
    · intro sound
      refine .object fun entry member => (eachEntry entry member).mpr ?_
      intro position problem offends
      exact sound _ _ (.entry member offends)
  · push Not at isObject
    refine iff_of_false (fun formed => ?_) fun sound => sound _ _ (.notAnObject isObject)
    cases formed with
    | object _ => exact isObject _ rfl
termination_by sizeOf document
decreasing_by
  all_goals subst_vars; exact smaller

/-! ## Listings -/

/-- The offences are those that there are, their problems are as listed, and if the document is
`ordered` then they come in the order of their positions. -/
structure IsListing (ordered : Prop) (Offence : Position → Problem → Prop)
    (problems : List Problem) (offences : List (Position × Problem)) : Prop where
  /-- Each offence is listed, and nothing else. -/
  mem_iff : ∀ position problem, (position, problem) ∈ offences ↔ Offence position problem
  /-- The problems are the reasons of the offences. -/
  reasons : problems = offences.map (·.2)
  /-- The positions come in order. -/
  inOrder : ordered → (offences.map (·.1)).Pairwise Position.Before

/-- The problems are the reasons of the offences that there are. -/
def Lists (ordered : Prop) (Offence : Position → Problem → Prop) (problems : List Problem) : Prop :=
  ∃ offences, IsListing ordered Offence problems offences

namespace Lists

variable {ordered : Prop} {Offence Other : Position → Problem → Prop} {problems : List Problem}

theorem congr (listed : Lists ordered Offence problems)
    (same : ∀ position problem, Other position problem ↔ Offence position problem) :
    Lists ordered Other problems := by
  obtain ⟨offences, mem_iff, reasons, inOrder⟩ := listed
  refine ⟨offences, ⟨fun position problem => ?_, reasons, inOrder⟩⟩
  rw [mem_iff, same]

theorem mono {others : Prop} (listed : Lists ordered Offence problems) (weaker : others → ordered) :
    Lists others Offence problems := by
  obtain ⟨offences, mem_iff, reasons, inOrder⟩ := listed
  exact ⟨offences, mem_iff, reasons, fun isOrdered => inOrder (weaker isOrdered)⟩

theorem none (sound : ∀ position problem, ¬Offence position problem) :
    Lists ordered Offence [] := by
  refine ⟨[], fun position problem => ?_, rfl, fun _ => List.Pairwise.nil⟩
  exact iff_of_false List.not_mem_nil (sound position problem)

/-- There is one offence, right here. -/
theorem one (problem : Problem) :
    Lists ordered (fun position other => position = [] ∧ other = problem) [problem] := by
  refine ⟨[([], problem)], fun position other => ?_, rfl, fun _ => List.pairwise_singleton _ _⟩
  rw [List.mem_singleton, Prod.mk.injEq]

/-- The offences of several parts, each of them a step further down, are those of the first part,
then those of the second, and so on. -/
theorem join {α : Type} {parts : List α} {step : α → Step}
    {Inner : α → Position → Problem → Prop} {found : α → List Problem}
    (each : ∀ part ∈ parts, Lists ordered (Inner part) (found part))
    (apart : ordered → parts.Pairwise fun a b => (step a).Before (step b)) :
    Lists ordered (fun position problem => ∃ part ∈ parts, ∃ rest, position = step part :: rest ∧
      Inner part rest problem) (parts.flatMap found) := by
  induction parts with
  | nil =>
    refine Lists.none fun position problem => ?_
    simp
  | cons part parts ih =>
    obtain ⟨first, ofFirst⟩ := each part List.mem_cons_self
    obtain ⟨later, ofLater⟩ := ih (fun other inside => each other (List.mem_cons_of_mem _ inside))
      fun isOrdered => (List.pairwise_cons.mp (apart isOrdered)).2
    -- positions in the first part start with its step, and those in later parts with later ones
    let lowered := first.map fun offence => (step part :: offence.1, offence.2)
    have mem_lowered : ∀ position problem, (position, problem) ∈ lowered ↔
        ∃ rest, position = step part :: rest ∧ Inner part rest problem := by
      intro position problem
      constructor
      · intro inside
        obtain ⟨⟨rest, other⟩, inFirst, same⟩ := List.mem_map.mp inside
        cases same
        exact ⟨rest, rfl, (ofFirst.mem_iff rest _).mp inFirst⟩
      · rintro ⟨rest, rfl, offends⟩
        exact List.mem_map.mpr ⟨(rest, problem), (ofFirst.mem_iff rest problem).mpr offends, rfl⟩
    refine ⟨lowered ++ later, fun position problem => ?_, ?_, fun isOrdered => ?_⟩
    · rw [List.mem_append, mem_lowered, ofLater.mem_iff]
      simp only [List.mem_cons, exists_eq_or_imp]
    · rw [List.flatMap_cons, ofFirst.reasons, ofLater.reasons, List.map_append, List.map_map]
      rfl
    · rw [List.map_append, List.pairwise_append]
      refine ⟨?_, ofLater.inOrder isOrdered, ?_⟩
      · have inner := ofFirst.inOrder isOrdered
        rw [List.map_map, List.pairwise_map]
        rw [List.pairwise_map] at inner
        exact inner.imp fun before => .cons before
      · intro a inFirst b inLater
        obtain ⟨⟨a, problem⟩, inLowered, rfl⟩ := List.mem_map.mp inFirst
        obtain ⟨⟨b, reason⟩, listed, rfl⟩ := List.mem_map.mp inLater
        obtain ⟨x, rfl, -⟩ := (mem_lowered a problem).mp inLowered
        obtain ⟨other, inside, y, rfl, -⟩ := (ofLater.mem_iff b reason).mp listed
        exact .rel ((List.pairwise_cons.mp (apart isOrdered)).1 other inside)

end Lists

/-! ## What the parser finds -/

section Parts

variable {key : String} {leaf : Leaf} {arguments : Json.Members}

theorem Argument.eq {name : String} {value other : Json} (given : Argument arguments name value)
    (also : Argument arguments name other) : value = other := by
  have found := argument?_eq_some_iff.mpr given
  rw [argument?_eq_some_iff.mpr also] at found
  exact (Option.some.inj found).symm

theorem field_of_fits (fits : FieldFits arguments) :
    ∃ field, Expression.field key arguments = .ok field := by
  cases given : Expression.argument? arguments "field" with
  | none => exact ⟨none, by rw [Expression.field, given]⟩
  | some value =>
    obtain ⟨path, rfl⟩ := fits value (argument?_eq_some_iff.mp given)
    exact ⟨some path, by rw [Expression.field, given]⟩

theorem field_of_other {value : Json} (named : Argument arguments "field" value)
    (other : ∀ path, value ≠ .str path) :
    Expression.field key arguments = .error (.fieldNotText key value.kind) := by
  rw [Expression.field, argument?_eq_some_iff.mpr named]
  cases value with
  | str path => exact absurd rfl (other path)
  | _ => rfl

theorem requiredValue_of_misses
    (misses : ¬∃ operand, Argument arguments "value" operand ∧ operand ≠ .null) :
    Expression.requiredValue key arguments = .error (.needsValue key) := by
  cases required : Expression.requiredValue key arguments with
  | ok operand => exact absurd ⟨operand, requiredValue_eq_ok_iff.mp required⟩ misses
  | error problem =>
    rw [← required]
    unfold Expression.requiredValue at required ⊢
    split at required
    next => simp [*]
    next => simp [*]
    next => cases required

/-- A test needs the operand of its operator. -/
theorem leafTest_of_fits (fits : OperandFits arguments leaf) :
    ∃ test, Expression.leafTest key leaf arguments = .ok test := by
  cases leaf with
  | compare comparison =>
    obtain ⟨operand, threshold, given, read⟩ := fits
    refine ⟨.compare comparison threshold, ?_⟩
    rw [Expression.leafTest, argument?_eq_some_iff.mpr given, Option.bind_some,
      threshold?_eq_some_iff.mpr read]
  | eq =>
    obtain ⟨operand, given, isNotNull⟩ := fits
    refine ⟨.equals operand, map_eq_ok.mpr ⟨operand, ?_, rfl⟩⟩
    exact requiredValue_eq_ok_iff.mpr ⟨given, isNotNull⟩
  | ne =>
    obtain ⟨operand, given, isNotNull⟩ := fits
    refine ⟨.differs operand, map_eq_ok.mpr ⟨operand, ?_, rfl⟩⟩
    exact requiredValue_eq_ok_iff.mpr ⟨given, isNotNull⟩
  | isIn =>
    obtain ⟨candidates, given⟩ := fits
    refine ⟨.oneOf candidates, ?_⟩
    rw [Expression.leafTest, argument?_eq_some_iff.mpr given]
  | contains =>
    obtain ⟨needle, given⟩ := fits
    refine ⟨.contains needle, ?_⟩
    rw [Expression.leafTest, argument?_eq_some_iff.mpr given]

theorem leafTest_of_misses (misses : ¬OperandFits arguments leaf) :
    Expression.leafTest key leaf arguments = .error (missingOperand key leaf) := by
  cases leaf with
  | compare comparison =>
    rw [Expression.leafTest]
    split
    next threshold compared =>
      obtain ⟨operand, given, read⟩ := Option.bind_eq_some_iff.mp compared
      exact absurd ⟨operand, threshold, argument?_eq_some_iff.mp given,
        threshold?_eq_some_iff.mp read⟩ misses
    next => rfl
  | eq =>
    rw [Expression.leafTest, requiredValue_of_misses misses]
    rfl
  | ne =>
    rw [Expression.leafTest, requiredValue_of_misses misses]
    rfl
  | isIn =>
    rw [Expression.leafTest]
    split
    next candidates given => exact absurd ⟨candidates, argument?_eq_some_iff.mp given⟩ misses
    next => rfl
  | contains =>
    rw [Expression.leafTest]
    split
    next needle given => exact absurd ⟨needle, argument?_eq_some_iff.mp given⟩ misses
    next => rfl

/-- A test whose argument does not fit is malformed, because of the misfit. -/
theorem ofLeaf_of_misfit {argument : Json} {problem : Problem}
    (misfit : Misfit key leaf argument problem) :
    Expression.ofLeaf key leaf argument = .unsupported problem := by
  cases misfit with
  | notArguments other =>
    cases argument with
    | obj arguments => exact absurd rfl (other arguments)
    | _ => rfl
  | field named other =>
    have failed : Expression.field key _ = _ := field_of_other named other
    simp [Expression.ofLeaf, failed, bind, Except.bind]
  | operand field misses =>
    obtain ⟨path, read⟩ : ∃ path, Expression.field key _ = .ok path := field_of_fits field
    have failed : Expression.leafTest key _ _ = _ := leafTest_of_misses misses
    simp [Expression.ofLeaf, read, failed, bind, Except.bind]

/-- A test whose argument does not fit has the misfit as its only problem. -/
theorem problems_ofLeaf_of_misfit {argument : Json} {problem : Problem}
    (misfit : Misfit key leaf argument problem) :
    (Expression.ofLeaf key leaf argument).problems = [problem] := by
  rw [ofLeaf_of_misfit misfit, Expression.problems]

theorem problems_ofLeaf_of_fits (field : FieldFits arguments)
    (operand : OperandFits arguments leaf) :
    (Expression.ofLeaf key leaf (.obj arguments)).problems = [] := by
  obtain ⟨path, read⟩ : ∃ path, Expression.field key _ = .ok path := field_of_fits field
  obtain ⟨test, made⟩ : ∃ test, Expression.leafTest key _ _ = .ok test := leafTest_of_fits operand
  simp [Expression.ofLeaf, read, made, bind, Except.bind, pure, Except.pure, Expression.problems]

end Parts

/-- A test has at most one misfit, and the parser finds it. -/
theorem lists_ofLeaf {ordered : Prop} (key : String) (leaf : Leaf) (argument : Json) :
    Lists ordered (fun position problem => position = [] ∧ Misfit key leaf argument problem)
      (Expression.ofLeaf key leaf argument).problems := by
  by_cases misfits : ∃ problem, Misfit key leaf argument problem
  · obtain ⟨problem, misfit⟩ := misfits
    rw [problems_ofLeaf_of_misfit misfit]
    refine (Lists.one problem).congr fun position other => and_congr_right fun _ => ?_
    constructor
    · intro also
      have twice := problems_ofLeaf_of_misfit also
      rw [problems_ofLeaf_of_misfit misfit] at twice
      cases twice
      rfl
    · rintro rfl
      exact misfit
  · have fits := misfits
    rw [exists_misfit_iff, not_not] at fits
    obtain ⟨arguments, rfl, field, operand⟩ := fits
    rw [problems_ofLeaf_of_fits field operand]
    exact Lists.none fun position problem offends => misfits ⟨problem, offends.2⟩

theorem problemsOf_eq_flatMap (conditions : List Expression) :
    Expression.problemsOf conditions = conditions.flatMap Expression.problems := by
  induction conditions with
  | nil => rw [Expression.problemsOf, List.flatMap_nil]
  | cons condition rest ih => rw [Expression.problemsOf, ih, List.flatMap_cons]

/-- The shortcut for a single condition makes no difference. -/
theorem problems_conjunction (conditions : List Expression) :
    (Expression.conjunction conditions).problems = conditions.flatMap Expression.problems := by
  unfold Expression.conjunction
  split
  next condition => rw [List.flatMap_cons, List.flatMap_nil, List.append_nil]
  next => rw [Expression.problems, problemsOf_eq_flatMap]

/-- The problems of a conjunction or disjunction are those of its conditions. -/
theorem problems_parseMember_of_joins {key : String} (joins : Joins key) (argument : Json) :
    (Expression.parseMember key argument).problems =
      match argument with
      | .arr items => items.flatMap fun item => (Expression.parse item).problems
      | other => [.notConditions key other.kind] := by
  rw [Expression.parseMember, ofKey?_eq_lookup]
  rcases joins with joined | joined <;> rw [joined] <;> cases argument <;>
    simp [Expression.parseChildren, Expression.problems, problemsOf_eq_flatMap, parseItems_eq_map,
      List.flatMap_map]

/-- The items of an array stand in the order of their places. -/
theorem pairwise_zipIdx (items : List Json) :
    items.zipIdx.Pairwise fun a b => (Step.item a.2).Before (.item b.2) := by
  have places : (items.zipIdx.map (·.2)).Pairwise (· < ·) := by
    rw [List.zipIdx_map_snd]
    exact List.pairwise_lt_range'
  rw [List.pairwise_map] at places
  exact places.imp fun less => .item less

/-- The parser finds the offences of the items that are joined, if it finds those of each item. -/
theorem lists_items {ordered : Prop} {key : String} (joins : Joins key) {items : List Json}
    (each : ∀ item ∈ items, Lists ordered (Offends item) (Expression.parse item).problems) :
    Lists ordered (EntryOffends key (.arr items))
      (items.flatMap fun item => (Expression.parse item).problems) := by
  have inPlaces : (items.flatMap fun item => (Expression.parse item).problems) =
      items.zipIdx.flatMap fun part => (Expression.parse part.1).problems := by
    conv_lhs => rw [← List.zipIdx_map_fst 0 items]
    rw [List.flatMap_map]
  rw [inPlaces]
  have eachPart : ∀ part ∈ items.zipIdx,
      Lists ordered (Offends part.1) (Expression.parse part.1).problems :=
    fun part inside => each part.1 (List.fst_mem_of_mem_zipIdx inside)
  refine (Lists.join eachPart fun _ => pairwise_zipIdx items).congr fun position problem => ?_
  rw [entryOffends_items_iff joins]
  constructor
  · rintro ⟨place, item, rest, at_place, below, offends⟩
    exact ⟨(item, place), List.mem_zipIdx_iff_getElem?.mpr at_place, rest, below, offends⟩
  · rintro ⟨⟨item, place⟩, inside, rest, below, offends⟩
    exact ⟨place, item, rest, List.mem_zipIdx_iff_getElem?.mp inside, below, offends⟩

theorem Tests.parseMember_eq {key : String} {leaf : Leaf} (tests : Tests key leaf)
    (argument : Json) :
    Expression.parseMember key argument = Expression.ofLeaf key leaf argument := by
  unfold Tests at tests
  rw [Expression.parseMember, ofKey?_eq_lookup, tests]

/-- The parser finds the offences of an entry, if it finds those of the items of its argument. -/
theorem lists_parseMember {ordered : Prop} {key : String} {argument : Json}
    (each : ∀ items, argument = .arr items → ∀ item ∈ items,
      Lists ordered (Offends item) (Expression.parse item).problems) :
    Lists ordered (EntryOffends key argument) (Expression.parseMember key argument).problems := by
  rcases key_cases key with unknown | joins | ⟨leaf, tests⟩
  · have found : (Expression.parseMember key argument).problems = [.unknownOperator key] := by
      unfold IsUnknown at unknown
      rw [Expression.parseMember, ofKey?_eq_lookup, unknown, Expression.problems]
    rw [found]
    exact (Lists.one _).congr fun _ _ => entryOffends_unknown_iff unknown
  · rw [problems_parseMember_of_joins joins]
    by_cases isArray : ∃ items, argument = .arr items
    · obtain ⟨items, rfl⟩ := isArray
      exact lists_items joins (each items rfl)
    · push Not at isArray
      have found : (match argument with
          | .arr items => items.flatMap fun item => (Expression.parse item).problems
          | other => [.notConditions key other.kind]) = [.notConditions key argument.kind] := by
        cases argument with
        | arr items => exact absurd rfl (isArray items)
        | _ => rfl
      rw [found]
      exact (Lists.one _).congr fun _ _ => entryOffends_notConditions_iff joins isArray
  · rw [tests.parseMember_eq]
    exact (lists_ofLeaf key leaf argument).congr fun _ _ => entryOffends_tests_iff tests

/-- What is malformed as a whole becomes a part that is malformed for the same reason. -/
theorem EntryOffends.parseMember_eq {key : String} {argument : Json} {problem : Problem}
    (offends : EntryOffends key argument [] problem) :
    Expression.parseMember key argument = .unsupported problem := by
  cases offends with
  | unknown unknown =>
    unfold IsUnknown at unknown
    rw [Expression.parseMember, ofKey?_eq_lookup, unknown]
  | notConditions joins other =>
    rw [Expression.parseMember, ofKey?_eq_lookup]
    rcases joins with joined | joined <;> rw [joined] <;> cases argument with
    | arr items => exact absurd rfl (other items)
    | _ => simp [Expression.parseChildren]
  | argument tests misfit => rw [tests.parseMember_eq, ofLeaf_of_misfit misfit]

theorem Offends.parse_eq {document : Json} {problem : Problem}
    (offends : Offends document [] problem) :
    Expression.parse document = .unsupported problem := by
  cases offends with
  | notAnObject other =>
    rw [Expression.parse]
    exact other

theorem offends_obj_iff {entries : Json.Members} {position : Position} {problem : Problem} :
    Offends (.obj entries) position problem ↔
      ∃ entry ∈ entries, ∃ rest, position = .key entry.1 :: rest ∧
        EntryOffends entry.1 entry.2 rest problem := by
  constructor
  · intro offends
    cases offends with
    | notAnObject other => exact absurd rfl (other entries)
    | entry member offends => exact ⟨_, member, _, rfl, offends⟩
  · rintro ⟨entry, member, rest, rfl, offends⟩
    exact .entry member offends

/-- The parser finds the offences of a document. -/
theorem lists_parse (document : Json) :
    Lists document.IsOrdered (Offends document) (Expression.parse document).problems := by
  by_cases isObject : ∃ entries, document = .obj entries
  · obtain ⟨entries, rfl⟩ := isObject
    rw [Expression.parse, problems_conjunction, parseMembers_eq_map, List.flatMap_map]
    have eachEntry : ∀ entry ∈ entries, Lists (Json.obj entries).IsOrdered
        (EntryOffends entry.1 entry.2) (Expression.parseMember entry.1 entry.2).problems := by
      intro entry member
      refine lists_parseMember fun items holds_items item inside => ?_
      have smaller := sizeOf_item_lt member holds_items inside
      exact (lists_parse item).mono fun ordered => ordered.item member holds_items inside
    have apart (ordered : (Json.obj entries).IsOrdered) :
        entries.Pairwise fun a b => (Step.key a.1).Before (.key b.1) := by
      cases ordered with
      | obj keys _ =>
        rw [List.pairwise_map] at keys
        exact keys.imp fun less => .key less
    exact (Lists.join eachEntry apart).congr fun _ _ => offends_obj_iff
  · push Not at isObject
    have found : (Expression.parse document).problems = [.notAnObject document.kind] := by
      cases document with
      | obj entries => exact absurd rfl (isObject entries)
      | _ => simp [Expression.parse, Expression.problems]
    rw [found]
    refine (Lists.one _).congr fun position problem => ⟨fun offends => ?_, ?_⟩
    · cases offends with
      | notAnObject _ => exact ⟨rfl, rfl⟩
      | entry _ _ => exact absurd rfl (isObject _)
    · rintro ⟨rfl, rfl⟩
      exact .notAnObject isObject
termination_by sizeOf document
decreasing_by
  all_goals subst_vars; exact smaller

/-! ## The problems of a document -/

theorem Position.not_before_self (position : Position) : ¬position.Before position := by
  refine List.lex_irrefl (fun step before => ?_) position
  cases before with
  | key less => exact String.lt_irrefl _ less
  | item less => exact Nat.lt_irrefl _ less

/-- Positions that come in order are distinct. -/
theorem IsListing.nodup {ordered : Prop} {Offence : Position → Problem → Prop}
    {problems : List Problem} {offences : List (Position × Problem)}
    (listing : IsListing ordered Offence problems offences) (isOrdered : ordered) :
    (offences.map (·.1)).Nodup := by
  refine (listing.inOrder isOrdered).imp ?_
  rintro a b before rfl
  exact Position.not_before_self a before

/-- Nothing is wrong with the expression of a document exactly if the document is well-formed. Each
offence in the document accounts for one of the problems of its expression; if the document is
ordered, as any that was read from a text, then no position offends twice, and the problems come in
the order of the positions. -/
theorem parse_problems (document : Json) :
    ((Expression.parse document).isValid = true ↔ IsWellFormed document) ∧
      ∃ offences : List (Position × Problem),
        (∀ position problem,
          (position, problem) ∈ offences ↔ Offends document position problem) ∧
        (Expression.parse document).problems = offences.map (·.2) ∧
        (document.IsOrdered → (offences.map (·.1)).Nodup ∧
          (offences.map (·.1)).Pairwise Position.Before) ∧
        ∀ text, Json.parse? text = some document → document.IsOrdered := by
  obtain ⟨offences, listing⟩ := lists_parse document
  have valid : (Expression.parse document).isValid = true ↔ IsWellFormed document := by
    rw [Expression.isValid, List.isEmpty_iff, listing.reasons, List.map_eq_nil_iff,
      isWellFormed_iff, List.eq_nil_iff_forall_not_mem]
    constructor
    · intro nothing position problem offends
      exact nothing (position, problem) ((listing.mem_iff position problem).mpr offends)
    · rintro sound ⟨position, problem⟩ inside
      exact sound position problem ((listing.mem_iff position problem).mp inside)
  exact ⟨valid, offences, listing.mem_iff, listing.reasons,
    fun ordered => ⟨listing.nodup ordered, listing.inOrder ordered⟩,
    fun _ => Json.isOrdered_of_parse?⟩

/-- A comparison whose operand is null in the spelling that counts, then a condition that is not an
object, then a key that names no operator. -/
def faulty : Json := .obj [
  ("$and", .arr [.obj [("gt", .obj [("$value", .null), ("value", .num (.int 1))])], .null]),
  ("bogus", .obj [])]

theorem isOrdered_faulty : faulty.IsOrdered := by
  have operands : (Json.obj [("$value", .null), ("value", .num (.int 1))]).IsOrdered :=
    .obj (by decide) (List.forall_mem_cons.mpr ⟨.null, List.forall_mem_singleton.mpr (.num _)⟩)
  have comparison : Json.IsOrdered (.obj [("gt", _)]) :=
    .obj (by decide) (List.forall_mem_singleton.mpr operands)
  have conditions : Json.IsOrdered (.arr [_, .null]) :=
    .arr (List.forall_mem_cons.mpr ⟨comparison, List.forall_mem_singleton.mpr .null⟩)
  have bogus : (Json.obj []).IsOrdered := .obj List.Pairwise.nil (List.forall_mem_nil _)
  refine .obj (by decide) (List.forall_mem_cons.mpr ⟨conditions, ?_⟩)
  exact List.forall_mem_singleton.mpr bogus

theorem faulty_problems : ¬IsWellFormed faulty ∧
    ∃ offences : List (Position × Problem),
      offences.map (·.2) = [.needsNumber "gt", .notAnObject .null, .unknownOperator "bogus"] ∧
        (offences.map (·.1)).Pairwise Position.Before := by
  obtain ⟨valid, offences, -, reasons, inOrder, -⟩ := parse_problems faulty
  have found : (Expression.parse faulty).problems =
      [.needsNumber "gt", .notAnObject .null, .unknownOperator "bogus"] := by
    have andKey : Operator.ofKey? "$and" = some .and := by decide +kernel
    have gtKey : Operator.ofKey? "gt" = some (.leaf (.compare .greater)) := by decide +kernel
    have bogusKey : Operator.ofKey? "bogus" = none := by decide +kernel
    have noNumber : Expression.ofLeaf "gt" (.compare .greater)
        (.obj [("$value", .null), ("value", .num (.int 1))]) =
          .unsupported (.needsNumber "gt") := rfl
    simp [faulty, Expression.parse, Expression.parseMembers, Expression.parseMember, andKey, gtKey,
      bogusKey, noNumber, Expression.parseChildren, Expression.parseItems, Expression.conjunction,
      Expression.problems, Expression.problemsOf, Json.kind]
  refine ⟨fun formed => ?_, offences, ?_, (inOrder isOrdered_faulty).2⟩
  · have isValid := valid.mpr formed
    rw [Expression.isValid, found] at isValid
    cases isValid
  · rw [← reasons, found]

end TopicAlerts.RuleDocument
