import TopicAlerts.Proofs.Repairs

/-!
# Spellings of keys

The names of operators and of their arguments may be written with a dollar sign in front. Which
spelling a rule document uses makes no difference, and neither does a mixture of the two: whatever
keys are spelled otherwise, the same messages match, and as many things are wrong
(`respelled_same`). Keys come in their order, so entries may change places with their spelling.

Only the arguments of a test may not hold one name in both spellings (`Unambiguous`): the one with
the dollar sign hides the other, and respelling both would make the other one count. An operator in
both spellings is no obstacle, since it makes two entries like any others.
-/

namespace TopicAlerts.RuleDocument

/-! ## Respelling -/

/-- The names of the arguments of a test. -/
def argumentNames : List String := ["field", "value", "values"]

/-- Members without the dollar signs that their keys start with. -/
def bareMembers (members : Json.Members) : Json.Members :=
  members.map fun member => (bareKey member.1, member.2)

/-- Arguments of a test with other spellings of their names, each at the place of its key. -/
def RespelledArguments (arguments others : Json.Members) : Prop :=
  (bareMembers arguments).Perm (bareMembers others)

mutual

/-- The same rule document with other spellings of operators and arguments. -/
inductive Respelled : Json → Json → Prop
  /-- A document may stay. -/
  | same (document : Json) : Respelled document document
  /-- Entries are respelled, and each comes at the place of its key. -/
  | object {entries renamed others : Json.Members}
      (each : List.Forall₂ RespelledEntry entries renamed) (order : renamed.Perm others) :
      Respelled (.obj entries) (.obj others)

/-- The same entry with other spellings. -/
inductive RespelledEntry : String × Json → String × Json → Prop
  /-- The operator may be respelled alone. -/
  | key {key other : String} (spelled : bareKey key = bareKey other) (argument : Json) :
      RespelledEntry (key, argument) (other, argument)
  /-- Documents that are joined are respelled. -/
  | items {key other : String} {items others : List Json} (spelled : bareKey key = bareKey other)
      (joins : Joins key) (each : List.Forall₂ Respelled items others) :
      RespelledEntry (key, .arr items) (other, .arr others)
  /-- Arguments of a test are respelled. -/
  | arguments {key other : String} {leaf : Leaf} {arguments others : Json.Members}
      (spelled : bareKey key = bareKey other) (tests : Tests key leaf)
      (respelled : RespelledArguments arguments others) :
      RespelledEntry (key, .obj arguments) (other, .obj others)

end

/-- A test with these arguments stands in the document, perhaps in documents that it joins. -/
inductive HasTest : Json → Json.Members → Prop
  | here {entries arguments : Json.Members} {key : String} {leaf : Leaf}
      (member : (key, .obj arguments) ∈ entries) (tests : Tests key leaf) :
      HasTest (.obj entries) arguments
  | inside {entries arguments : Json.Members} {key : String} {items : List Json} {item : Json}
      (member : (key, .arr items) ∈ entries) (joins : Joins key) (inside : item ∈ items)
      (below : HasTest item arguments) : HasTest (.obj entries) arguments

/-- No test in the document has an argument in both spellings. -/
def Unambiguous (document : Json) : Prop :=
  ∀ arguments, HasTest document arguments → ∀ name ∈ argumentNames,
    ¬(name ∈ arguments.map (·.1) ∧ "$" ++ name ∈ arguments.map (·.1))

/-! ## Arguments -/

section Arguments

variable {arguments others : Json.Members} {name : String} {value : Json} {message : Message}
  {leaf : Leaf}

/-- A name without a dollar sign has two spellings. -/
theorem bareKey_eq_iff (hname : name.toList.head? ≠ some '$') (key : String) :
    bareKey key = name ↔ key = name ∨ key = "$" ++ name := by
  by_cases hdollar : ∃ rest, key.toList = '$' :: rest
  · obtain ⟨rest, hkey⟩ := hdollar
    have hbare : bareKey key = String.ofList rest := by simp [bareKey, hkey]
    have hne : key ≠ name := by
      rintro rfl
      exact hname (by rw [hkey]; rfl)
    have hspelled : key = "$" ++ name ↔ rest = name.toList := by
      rw [← String.toList_inj, hkey]
      simp
    rw [hbare, or_iff_right hne, hspelled, ← String.toList_inj, String.toList_ofList]
  · have hbare : bareKey key = key := by
      unfold bareKey
      split
      next rest hkey => exact absurd ⟨rest, hkey⟩ hdollar
      next => rfl
    have hne : key ≠ "$" ++ name := by
      rintro rfl
      exact hdollar ⟨name.toList, by simp⟩
    rw [hbare, or_iff_left hne]

theorem bareKey_argument_iff (hname : name ∈ argumentNames) (key : String) :
    bareKey key = name ↔ key = name ∨ key = "$" ++ name := by
  refine bareKey_eq_iff ?_ key
  revert name
  decide

theorem mem_bareMembers_iff : (name, value) ∈ bareMembers arguments ↔
    ∃ key, bareKey key = name ∧ (key, value) ∈ arguments := by
  rw [bareMembers, List.mem_map]
  constructor
  · rintro ⟨⟨key, value⟩, hmem, hsame⟩
    cases hsame
    exact ⟨key, rfl, hmem⟩
  · rintro ⟨key, rfl, hmem⟩
    exact ⟨(key, value), hmem, rfl⟩

/-- No name is that of two arguments. -/
def HasOnce (arguments : Json.Members) : Prop :=
  ∀ name ∈ argumentNames, ∀ value other, (name, value) ∈ bareMembers arguments →
    (name, other) ∈ bareMembers arguments → value = other

theorem exists_get?_of_mem {key : String} (h : (key, value) ∈ arguments) :
    ∃ found, Json.get? key arguments = some found := by
  rw [← Option.isSome_iff_exists, Option.isSome_iff_ne_none]
  intro hnone
  simpa using List.lookup_eq_none_iff.mp hnone _ h

/-- Where no name is that of two arguments, the argument of a name is the one in whatever
spelling. -/
theorem HasOnce.argument_iff (h : HasOnce arguments) (hname : name ∈ argumentNames) :
    Argument arguments name value ↔ (name, value) ∈ bareMembers arguments := by
  have hbare : bareKey name = name := (bareKey_argument_iff hname name).mpr (.inl rfl)
  have hdollar : bareKey ("$" ++ name) = name := (bareKey_argument_iff hname _).mpr (.inr rfl)
  have hforth {value : Json} (hargument : Argument arguments name value) :
      (name, value) ∈ bareMembers arguments := by
    rw [mem_bareMembers_iff]
    rcases hargument with hfound | ⟨-, hfound⟩
    · exact ⟨_, hdollar, Json.mem_of_get? hfound⟩
    · exact ⟨_, hbare, Json.mem_of_get? hfound⟩
  refine ⟨hforth, fun hmem => ?_⟩
  -- some argument of this name counts, and it is the only one
  have hexists : ∃ found, Argument arguments name found := by
    obtain ⟨key, hkey, hinside⟩ := mem_bareMembers_iff.mp hmem
    obtain ⟨found, hfound⟩ := exists_get?_of_mem hinside
    cases hfirst : Json.get? ("$" ++ name) arguments with
    | some other => exact ⟨other, .dollar hfirst⟩
    | none =>
      rcases (bareKey_argument_iff hname key).mp hkey with rfl | rfl
      · exact ⟨found, .bare hfirst hfound⟩
      · rw [hfirst] at hfound
        cases hfound
  obtain ⟨found, hargument⟩ := hexists
  rwa [h name hname value found hmem (hforth hargument)]

/-- The arguments of a test give the same values to all names. -/
def Agree (arguments others : Json.Members) : Prop :=
  ∀ name ∈ argumentNames, ∀ value, Argument arguments name value ↔ Argument others name value

theorem HasOnce.agree (h : HasOnce arguments) (hrespelled : RespelledArguments arguments others) :
    Agree arguments others := by
  have hothers : HasOnce others := by
    intro name hname value other hvalue hother
    exact h name hname value other (hrespelled.mem_iff.mpr hvalue) (hrespelled.mem_iff.mpr hother)
  intro name hname value
  rw [h.argument_iff hname, hothers.argument_iff hname]
  exact hrespelled.mem_iff

theorem hasOnce_of_ordered (hordered : Json.IsOrdered (.obj arguments))
    (hboth : ∀ name ∈ argumentNames,
      ¬(name ∈ arguments.map (·.1) ∧ "$" ++ name ∈ arguments.map (·.1))) : HasOnce arguments := by
  intro name hname value other hvalue hother
  obtain ⟨key, hkey, hinside⟩ := mem_bareMembers_iff.mp hvalue
  obtain ⟨key', hkey', hinside'⟩ := mem_bareMembers_iff.mp hother
  have hsame : key = key' := by
    have hmem := List.mem_map_of_mem (f := (·.1)) hinside
    have hmem' := List.mem_map_of_mem (f := (·.1)) hinside'
    have hnot := hboth name hname
    rw [bareKey_argument_iff hname] at hkey hkey'
    rcases hkey with rfl | rfl <;> rcases hkey' with rfl | rfl
    · rfl
    · exact absurd ⟨hmem, hmem'⟩ hnot
    · exact absurd ⟨hmem', hmem⟩ hnot
    · rfl
  subst hsame
  rw [← hordered.get?_eq_some_iff] at hinside hinside'
  rw [hinside] at hinside'
  exact Option.some.inj hinside'

/-! ## Tests whose arguments agree -/

theorem Agree.symm (h : Agree arguments others) : Agree others arguments :=
  fun name hname value => (h name hname value).symm

theorem Agree.subject (h : Agree arguments others) (hvalue : Subject message arguments value) :
    Subject message others value := by
  have hfield := h "field" (by decide)
  cases hvalue with
  | whole hmissing => exact .whole fun named hnamed => hmissing named ((hfield named).mpr hnamed)
  | field hnamed hfound => exact .field ((hfield _).mp hnamed) hfound

theorem Agree.asks_iff (h : Agree arguments others) :
    Asks arguments value leaf ↔ Asks others value leaf :=
  asks_congr (h "value" (by decide)) (h "values" (by decide))

theorem Agree.fieldFits_iff (h : Agree arguments others) :
    FieldFits arguments ↔ FieldFits others := by
  simp only [FieldFits, h "field" (by decide)]

theorem Agree.operandFits_iff (h : Agree arguments others) :
    OperandFits arguments leaf ↔ OperandFits others leaf := by
  have hvalue := h "value" (by decide)
  have hvalues := h "values" (by decide)
  cases leaf <;> simp only [OperandFits, hvalue, hvalues]

end Arguments

/-! ## Interchangeable documents -/

/-- The same messages meet two rule documents, and as many things are wrong with them. -/
structure Interchangeable (document other : Json) : Prop where
  meets_iff : ∀ message, Meets message document ↔ Meets message other
  problems : (Expression.parse document).problems.length =
    (Expression.parse other).problems.length

namespace Interchangeable

variable {document other : Json} {key key' : String} {leaf : Leaf}

theorem refl (document : Json) : Interchangeable document document := ⟨fun _ => .rfl, rfl⟩

theorem trans {third : Json} (h : Interchangeable document other)
    (h' : Interchangeable other third) : Interchangeable document third :=
  ⟨fun message => (h.meets_iff message).trans (h'.meets_iff message), h.problems.trans h'.problems⟩

theorem problems_obj (entries : Json.Members) : (Expression.parse (.obj entries)).problems =
    entries.flatMap fun entry => (Expression.parseMember entry.1 entry.2).problems := by
  rw [Expression.parse, problems_conjunction, parseMembers_eq_map, List.flatMap_map]

theorem of_perm {entries others : Json.Members} (h : entries.Perm others) :
    Interchangeable (.obj entries) (.obj others) := by
  refine ⟨fun message => meets_obj_of_perm message h, ?_⟩
  rw [problems_obj, problems_obj]
  exact (h.flatMap_right _).length_eq

/-- Entries may be exchanged one after the other. -/
theorem cons {a b : String × Json} {entries others : Json.Members}
    (hfirst : Interchangeable (.obj [a]) (.obj [b]))
    (hrest : Interchangeable (.obj entries) (.obj others)) :
    Interchangeable (.obj (a :: entries)) (.obj (b :: others)) := by
  constructor
  · intro message
    have ha := hfirst.meets_iff message
    have hb := hrest.meets_iff message
    rw [meets_obj_iff_matches, meets_obj_iff_matches, List.forall_mem_singleton,
      List.forall_mem_singleton] at ha
    rw [meets_obj_iff_matches, meets_obj_iff_matches] at hb
    rw [meets_obj_iff_matches, meets_obj_iff_matches, List.forall_mem_cons, List.forall_mem_cons,
      ha, hb]
  · have ha := hfirst.problems
    have hb := hrest.problems
    rw [parse_singleton, parse_singleton] at ha
    rw [problems_obj, problems_obj] at hb
    rw [problems_obj, problems_obj, List.flatMap_cons, List.flatMap_cons, List.length_append,
      List.length_append, ha, hb]

/-- Malformed entries may be exchanged. -/
theorem of_offends {argument argument' : Json} {problem problem' : Problem}
    (h : EntryOffends key argument [] problem) (h' : EntryOffends key' argument' [] problem') :
    Interchangeable (.obj [(key, argument)]) (.obj [(key', argument')]) := by
  constructor
  · intro message
    rw [meets_obj_iff_matches, meets_obj_iff_matches, List.forall_mem_singleton,
      List.forall_mem_singleton]
    exact iff_of_false h.not_matches h'.not_matches
  · rw [parse_singleton, parse_singleton, h.parseMember_eq, h'.parseMember_eq,
      Expression.problems, Expression.problems]
    rfl

theorem forall_meets_iff {items others : List Json}
    (heach : List.Forall₂ Interchangeable items others) (message : Message) :
    (∀ item ∈ items, Meets message item) ↔ ∀ item ∈ others, Meets message item := by
  induction heach with
  | nil => rfl
  | cons hfirst _ ih => rw [List.forall_mem_cons, List.forall_mem_cons, hfirst.meets_iff, ih]

theorem exists_meets_iff {items others : List Json}
    (heach : List.Forall₂ Interchangeable items others) (message : Message) :
    (∃ item ∈ items, Meets message item) ↔ ∃ item ∈ others, Meets message item := by
  induction heach with
  | nil => rfl
  | cons hfirst _ ih =>
    rw [List.exists_mem_cons_iff, List.exists_mem_cons_iff, hfirst.meets_iff, ih]

/-- Documents that are joined may be exchanged one after the other. -/
theorem of_joins (hkey : bareKey key = bareKey key') (hjoins : Joins key) {items others : List Json}
    (heach : List.Forall₂ Interchangeable items others) :
    Interchangeable (.obj [(key, .arr items)]) (.obj [(key', .arr others)]) := by
  have hjoins' : Joins key' := by rwa [Joins, ← hkey]
  constructor
  · intro message
    rw [meets_obj_iff_matches, meets_obj_iff_matches, List.forall_mem_singleton,
      List.forall_mem_singleton, matches_iff, matches_iff, ← hkey]
    rcases hjoins with hand | hor
    · simpa only [hand] using forall_meets_iff heach message
    · simpa only [hor] using exists_meets_iff heach message
  · rw [parse_singleton, parse_singleton, problems_parseMember_of_joins hjoins,
      problems_parseMember_of_joins hjoins']
    induction heach with
    | nil => rfl
    | cons hfirst _ ih => simp [hfirst.problems, ih]

/-- The arguments of a test may be exchanged if they agree. -/
theorem of_tests (hkey : bareKey key = bareKey key') (htests : Tests key leaf)
    {arguments others : Json.Members} (hagree : Agree arguments others) :
    Interchangeable (.obj [(key, .obj arguments)]) (.obj [(key', .obj others)]) := by
  have htests' : Tests key' leaf := by rwa [Tests, ← hkey]
  constructor
  · intro message
    rw [meets_obj_iff_matches, meets_obj_iff_matches, List.forall_mem_singleton,
      List.forall_mem_singleton, htests.matches_iff, htests'.matches_iff]
    exact exists_congr fun value =>
      and_congr ⟨hagree.subject, hagree.symm.subject⟩ hagree.asks_iff
  · rw [parse_singleton, parse_singleton, htests.parseMember_eq, htests'.parseMember_eq]
    by_cases hfits : FieldFits arguments ∧ OperandFits arguments leaf
    · have hfits' := hfits
      rw [hagree.fieldFits_iff, hagree.operandFits_iff] at hfits'
      rw [problems_ofLeaf_of_fits hfits.1 hfits.2, problems_ofLeaf_of_fits hfits'.1 hfits'.2]
    · have hmisfit (key : String) {arguments : Json.Members}
          (hfits : ¬(FieldFits arguments ∧ OperandFits arguments leaf)) :
          ∃ problem, Misfit key leaf (.obj arguments) problem := by
        rw [exists_misfit_iff]
        rintro ⟨_, hsame, hfits'⟩
        cases hsame
        exact hfits hfits'
      obtain ⟨problem, hproblem⟩ := hmisfit key hfits
      rw [hagree.fieldFits_iff, hagree.operandFits_iff] at hfits
      obtain ⟨problem', hproblem'⟩ := hmisfit key' hfits
      rw [problems_ofLeaf_of_misfit hproblem, problems_ofLeaf_of_misfit hproblem']
      rfl

/-- An operator may be respelled. -/
theorem of_key (hkey : bareKey key = bareKey key') (argument : Json) :
    Interchangeable (.obj [(key, argument)]) (.obj [(key', argument)]) := by
  rcases key_cases key with hunknown | hjoins | ⟨leaf, htests⟩
  · have hunknown' : IsUnknown key' := by rwa [IsUnknown, ← hkey]
    exact of_offends (.unknown hunknown) (.unknown hunknown')
  · by_cases harray : ∃ items, argument = .arr items
    · obtain ⟨items, rfl⟩ := harray
      exact of_joins hkey hjoins (List.forall₂_same.mpr fun item _ => .refl item)
    · push Not at harray
      have hjoins' : Joins key' := by rwa [Joins, ← hkey]
      exact of_offends (.notConditions hjoins harray) (.notConditions hjoins' harray)
  · by_cases hobject : ∃ arguments, argument = .obj arguments
    · obtain ⟨arguments, rfl⟩ := hobject
      exact of_tests hkey htests fun name _ value => .rfl
    · push Not at hobject
      have htests' : Tests key' leaf := by rwa [Tests, ← hkey]
      exact of_offends (.argument htests (.notArguments hobject))
        (.argument htests' (.notArguments hobject))

end Interchangeable

/-! ## Respelled documents -/

theorem HasTest.of_subset {entries all arguments : Json.Members} (hsubset : entries ⊆ all)
    (h : HasTest (.obj entries) arguments) : HasTest (.obj all) arguments := by
  cases h with
  | here hmember htests => exact .here (hsubset hmember) htests
  | inside hmember hjoins hinside hbelow => exact .inside (hsubset hmember) hjoins hinside hbelow

theorem HasTest.isOrdered {document : Json} {arguments : Json.Members}
    (h : HasTest document arguments) (hordered : document.IsOrdered) :
    Json.IsOrdered (.obj arguments) := by
  induction h with
  | here hmember _ => exact hordered.member hmember
  | inside hmember _ hinside _ ih => exact ih (hordered.item hmember rfl hinside)

mutual

/-- A document may be exchanged for one with other spellings if all of its tests have each argument
once. -/
theorem Respelled.interchangeable {document other : Json} (h : Respelled document other)
    (honce : ∀ arguments, HasTest document arguments → HasOnce arguments) :
    Interchangeable document other := by
  match h with
  | .same document => exact .refl document
  | .object heach horder =>
    exact (RespelledEntry.interchangeable_all heach honce).trans (.of_perm horder)

theorem RespelledEntry.interchangeable {entry other : String × Json}
    (h : RespelledEntry entry other)
    (honce : ∀ arguments, HasTest (.obj [entry]) arguments → HasOnce arguments) :
    Interchangeable (.obj [entry]) (.obj [other]) := by
  match h with
  | .key hspelled argument => exact .of_key hspelled argument
  | .items hspelled hjoins heach =>
    refine .of_joins hspelled hjoins (Respelled.interchangeable_all heach fun item hinside => ?_)
    exact fun arguments htest => honce _ (.inside List.mem_cons_self hjoins hinside htest)
  | .arguments hspelled htests hrespelled =>
    have hfirst := honce _ (.here List.mem_cons_self htests)
    exact .of_tests hspelled htests (hfirst.agree hrespelled)

theorem RespelledEntry.interchangeable_all {entries renamed : Json.Members}
    (h : List.Forall₂ RespelledEntry entries renamed)
    (honce : ∀ arguments, HasTest (.obj entries) arguments → HasOnce arguments) :
    Interchangeable (.obj entries) (.obj renamed) := by
  match h with
  | .nil => exact .refl _
  | .cons hfirst hrest =>
    refine .cons (hfirst.interchangeable fun arguments htest => ?_)
      (RespelledEntry.interchangeable_all hrest fun arguments htest => ?_)
    · exact honce _ (htest.of_subset (List.cons_subset_cons _ (List.nil_subset _)))
    · exact honce _ (htest.of_subset (List.subset_cons_self _ _))

theorem Respelled.interchangeable_all {items others : List Json}
    (h : List.Forall₂ Respelled items others)
    (honce : ∀ item ∈ items, ∀ arguments, HasTest item arguments → HasOnce arguments) :
    List.Forall₂ Interchangeable items others := by
  match h with
  | .nil => exact .nil
  | .cons hfirst hrest =>
    rw [List.forall_mem_cons] at honce
    exact .cons (hfirst.interchangeable honce.1) (Respelled.interchangeable_all hrest honce.2)

end

/-- If keys of a rule document are spelled otherwise, those of operators and those of arguments, in
the document and in all that it joins, then the same messages match the document, and as many things
are wrong with it. For this no test may have an argument in both spellings. -/
theorem respelled_same {document other : Json} (hordered : document.IsOrdered)
    (hunambiguous : Unambiguous document) (h : Respelled document other) :
    (∀ message, (Expression.parse document).holds message =
        (Expression.parse other).holds message) ∧
      (Expression.parse document).problems.length =
        (Expression.parse other).problems.length := by
  have honce (arguments : Json.Members) (htest : HasTest document arguments) :
      HasOnce arguments :=
    hasOnce_of_ordered (htest.isOrdered hordered) (hunambiguous arguments htest)
  obtain ⟨hmeets, hproblems⟩ := h.interchangeable honce
  refine ⟨fun message => ?_, hproblems⟩
  rw [Bool.eq_iff_iff, parse_holds_iff, parse_holds_iff]
  exact hmeets message

/-- A document with keys in both spellings. -/
def mixedSpelling : Json := .obj [
  ("$or", .arr [.obj [("gt", .obj [("$field", .str "cpu"), ("value", .num (.int 80))])]]),
  ("eq", .obj [("$value", .num (.int 1))])]

/-- The same document with all of its keys in the other spelling. -/
def otherSpelling : Json := .obj [
  ("$eq", .obj [("value", .num (.int 1))]),
  ("or", .arr [.obj [("$gt", .obj [("$value", .num (.int 80)), ("field", .str "cpu")])]])]

theorem isOrdered_mixedSpelling : mixedSpelling.IsOrdered := by
  have hgt : (Json.obj [("$field", .str "cpu"), ("value", .num (.int 80))]).IsOrdered :=
    .obj (by decide) (List.forall_mem_cons.mpr ⟨.str _, List.forall_mem_singleton.mpr (.num _)⟩)
  have heq : (Json.obj [("$value", .num (.int 1))]).IsOrdered :=
    .obj (by decide) (List.forall_mem_singleton.mpr (.num _))
  have hcondition : Json.IsOrdered (.obj [("gt", _)]) :=
    .obj (by decide) (List.forall_mem_singleton.mpr hgt)
  have hconditions : Json.IsOrdered (.arr [_]) := .arr (List.forall_mem_singleton.mpr hcondition)
  refine .obj (by decide) (List.forall_mem_cons.mpr ⟨hconditions, ?_⟩)
  exact List.forall_mem_singleton.mpr heq

theorem unambiguous_mixedSpelling : Unambiguous mixedSpelling := by
  intro arguments htest
  have hcases : arguments = [("$value", .num (.int 1))] ∨
      arguments = [("$field", .str "cpu"), ("value", .num (.int 80))] := by
    rcases htest with ⟨hmember, -⟩ | ⟨hmember, hjoins, hinside, hbelow⟩
    · obtain ⟨-, rfl⟩ : _ ∧ _ := by simpa using hmember
      exact .inl rfl
    · right
      obtain ⟨-, rfl⟩ : _ ∧ _ := by simpa using hmember
      obtain rfl := List.mem_singleton.mp hinside
      rcases hbelow with ⟨hmember, -⟩ | ⟨hmember, -, -, -⟩
      · obtain ⟨-, rfl⟩ : _ ∧ _ := by simpa using hmember
        rfl
      · simp at hmember
  rcases hcases with rfl | rfl <;> decide

theorem respelled_mixedSpelling : Respelled mixedSpelling otherSpelling := by
  have hgt : Tests "gt" (.compare .greater) := rfl
  have heq : Tests "eq" .eq := rfl
  have hor : Joins "$or" := .inr rfl
  have hfirst : RespelledArguments [("$field", .str "cpu"), ("value", .num (.int 80))]
      [("$value", .num (.int 80)), ("field", .str "cpu")] := .swap _ _ _
  have hsecond : RespelledArguments [("$value", .num (.int 1))] [("value", .num (.int 1))] :=
    .refl _
  have hcomparison : List.Forall₂ RespelledEntry [("gt", .obj _)] [("$gt", .obj _)] :=
    .cons (.arguments rfl hgt hfirst) .nil
  have hcondition : Respelled (.obj [("gt", _)]) (.obj [("$gt", _)]) :=
    .object hcomparison (.refl _)
  have hentries : List.Forall₂ RespelledEntry [("$or", .arr [_]), ("eq", .obj _)]
      [("or", .arr [_]), ("$eq", .obj _)] :=
    .cons (.items rfl hor (.cons hcondition .nil)) (.cons (.arguments rfl heq hsecond) .nil)
  exact .object hentries (.swap _ _ _)

theorem respelled_same_mixedSpelling :
    (∀ message, (Expression.parse mixedSpelling).holds message =
        (Expression.parse otherSpelling).holds message) ∧
      (Expression.parse mixedSpelling).problems.length =
        (Expression.parse otherSpelling).problems.length :=
  respelled_same isOrdered_mixedSpelling unambiguous_mixedSpelling respelled_mixedSpelling

end TopicAlerts.RuleDocument
