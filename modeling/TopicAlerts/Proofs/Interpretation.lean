import Mathlib.Data.List.Infix
import Mathlib.Data.List.Perm.Basic
import TopicAlerts.Expression.Evaluation
import TopicAlerts.Proofs.TextParts

/-!
# What a rule document means

A rule document can be read without making an expression of it first. `RuleDocument.Meets` says by
recursion on the document which messages meet it: every entry of the object has to be met; an entry
names an operator, which either joins further documents or asks something of one value of the
message, to which the names in a path lead. Whatever is malformed is met by no message.

`RuleDocument.holds_parse_iff_meets` is the main statement: a message matches the expression of a
document exactly if it meets the document. The empty object is met by all messages, and the order of
the entries does not matter.
-/

namespace TopicAlerts.RuleDocument

/-- The names of the operators. -/
def operators : List (String × Operator) := [
  ("and", .and), ("or", .or),
  ("gt", .leaf (.compare .greater)), ("gte", .leaf (.compare .greaterOrEqual)),
  ("lt", .leaf (.compare .less)), ("lte", .leaf (.compare .lessOrEqual)),
  ("eq", .leaf .eq), ("ne", .leaf .ne), ("in", .leaf .isIn), ("contains", .leaf .contains)]

/-- A key without the dollar sign that it may start with. -/
def bareKey (key : String) : String :=
  match key.toList with
  | '$' :: rest => String.ofList rest
  | _ => key

/-- An argument of a test: the one that is spelled with a dollar sign, or else the one that is
spelled without. -/
inductive Argument (arguments : Json.Members) (name : String) : Json → Prop
  /-- The spelling with a dollar sign counts. -/
  | dollar {value : Json} (found : Json.get? ("$" ++ name) arguments = some value) :
      Argument arguments name value
  /-- The bare spelling counts where that is missing. -/
  | bare {value : Json} (missing : Json.get? ("$" ++ name) arguments = none)
      (found : Json.get? name arguments = some value) : Argument arguments name value

/-- Names of members lead from a value to one inside it. -/
inductive Leads : Json → List String → Json → Prop
  /-- Without a name the value itself is meant. -/
  | here (value : Json) : Leads value [] value
  /-- The first name is that of a member, and the others lead on from there. -/
  | member {members : Json.Members} {name : String} {names : List String} {inner value : Json}
      (found : Json.get? name members = some inner) (rest : Leads inner names value) :
      Leads (.obj members) (name :: names) value

/-- A path leads to a value of the message: the names between its points do. The empty path leads
nowhere. -/
def Locates (message : Message) (path : String) (value : Json) : Prop :=
  path ≠ "" ∧ ∃ names, Text.join "." names = path ∧ (∀ name ∈ names, '.' ∉ name.toList) ∧
    Leads message.root names value

/-- The value of the message that a test asks about: that of its field, or the whole message if it
has none. -/
inductive Subject (message : Message) (arguments : Json.Members) : Json → Prop
  /-- There is no field. -/
  | whole (missing : ∀ value, ¬Argument arguments "field" value) :
      Subject message arguments message.root
  /-- The field leads to a value of the message. -/
  | field {path : String} {value : Json} (named : Argument arguments "field" (.str path))
      (found : Locates message path value) : Subject message arguments value

/-- What a comparison compares with: a number, or a text that says a finite one. -/
inductive Says : Json → Binary64 → Prop
  /-- A number says itself. -/
  | number (n : Json.Number) : Says (.num n) n.toBinary64
  /-- A text says the number that it reads as, blank characters around it apart. -/
  | text {s : String} {x : Binary64}
      (read : Reading.ofText? (Text.trimChars s.toList) = some (.finite x)) : Says (.str s) x

/-- The relation of a comparison in the numeric order. -/
def relation : Comparison → Int → Int → Prop
  | .greater => (· > ·)
  | .greaterOrEqual => (· ≥ ·)
  | .less => (· < ·)
  | .lessOrEqual => (· ≤ ·)

/-- What an operator with its arguments asks of a value. -/
def Asks (arguments : Json.Members) (value : Json) : Leaf → Prop
  | .compare comparison => ∃ operand threshold n,
      Argument arguments "value" operand ∧ Says operand threshold ∧ value = .num n ∧
        relation comparison n.toBinary64.key threshold.key
  | .eq => ∃ expected, Argument arguments "value" expected ∧ expected ≠ .null ∧
      value.valuesEqual expected = true
  | .ne => ∃ expected, Argument arguments "value" expected ∧ expected ≠ .null ∧
      value.valuesEqual expected = false
  | .isIn => ∃ candidates, Argument arguments "values" (.arr candidates) ∧
      ∃ candidate ∈ candidates, value.valuesEqual candidate = true
  | .contains => ∃ needle text, Argument arguments "value" (.str needle) ∧ value = .str text ∧
      (Text.lower needle).toList <:+: (Text.lower text).toList

theorem sizeOf_item_lt {entries : Json.Members} {entry : String × Json} {items : List Json}
    {item : Json} (member : entry ∈ entries) (holds_items : entry.2 = .arr items)
    (inside : item ∈ items) : sizeOf item < sizeOf (Json.obj entries) := by
  have entrySmaller := List.sizeOf_lt_of_mem member
  have itemSmaller := List.sizeOf_lt_of_mem inside
  obtain ⟨key, argument⟩ := entry
  subst holds_items
  simp only [Prod.mk.sizeOf_spec, Json.arr.sizeOf_spec, Json.obj.sizeOf_spec] at *
  omega

/-- A message meets a rule document. -/
def Meets (message : Message) : Json → Prop
  | .obj entries => ∀ entry, (_ : entry ∈ entries) →
      match _h : entry.2, operators.lookup (bareKey entry.1) with
      | .arr items, some .and => ∀ item, (_ : item ∈ items) → Meets message item
      | .arr items, some .or => ∃ item, ∃ _ : item ∈ items, Meets message item
      | .obj arguments, some (.leaf leaf) =>
        ∃ value, Subject message arguments value ∧ Asks arguments value leaf
      | _, _ => False
  | _ => False
termination_by document => sizeOf document
decreasing_by
  all_goals exact sizeOf_item_lt ‹entry ∈ entries› ‹entry.2 = .arr items› ‹item ∈ items›

/-! ## Paths -/

theorem follow_eq_some_iff {names : List String} {start value : Json} :
    Message.follow start names = some value ↔ Leads start names value := by
  unfold Message.follow
  induction names generalizing start with
  | nil =>
    rw [List.foldlM_nil]
    constructor
    · rintro ⟨⟩
      exact .here _
    · rintro ⟨⟩
      rfl
  | cons name names ih =>
    rw [List.foldlM_cons, Option.bind_eq_bind, Option.bind_eq_some_iff]
    simp only [ih]
    constructor
    · rintro ⟨inner, found, rest⟩
      cases start with
      | obj members => exact .member found rest
      | _ => cases found
    · rintro (_ | ⟨found, rest⟩)
      exact ⟨_, found, rest⟩

/-- A message is resolved at a path exactly to the value that the path leads to. -/
theorem resolve_eq_some_iff {message : Message} {path : String} {value : Json} :
    message.resolve (some path) = some value ↔ Locates message path value := by
  unfold Message.resolve Locates
  by_cases empty : path = ""
  · simp [empty]
  · have nonempty : path.isEmpty = false := by simpa using empty
    simp only [nonempty, Bool.false_eq_true, if_false, follow_eq_some_iff]
    constructor
    · intro leads
      exact ⟨empty, Text.split '.' path, Text.join_split path, Text.not_mem_of_mem_split, leads⟩
    · rintro ⟨-, names, rfl, plain, leads⟩
      have some_name : names ≠ [] := by
        rintro rfl
        exact empty rfl
      rwa [Text.split_join some_name plain]

/-! ## Keys and arguments -/

theorem ofName?_eq_lookup (name : List Char) :
    Operator.ofName? name = operators.lookup (String.ofList name) := by
  have names : ∀ known : String, String.ofList name = known ↔ name = known.toList := by
    intro known
    rw [← String.toList_inj, String.toList_ofList]
  unfold Operator.ofName?
  split
  case h_11 =>
    symm
    rw [List.lookup_eq_none_iff]
    simp_all [operators]
  all_goals rfl

/-- The parser finds the operator of a key in the table, the dollar sign apart. -/
theorem ofKey?_eq_lookup (key : String) :
    Operator.ofKey? key = operators.lookup (bareKey key) := by
  by_cases dollar : ∃ rest, key.toList = '$' :: rest
  · obtain ⟨rest, starts⟩ := dollar
    have found : Operator.ofKey? key = Operator.ofName? rest := by
      simp [Operator.ofKey?, starts]
    have bare : bareKey key = String.ofList rest := by simp [bareKey, starts]
    rw [found, bare, ofName?_eq_lookup]
  · have found : Operator.ofKey? key = Operator.ofName? key.toList := by
      unfold Operator.ofKey?
      split
      next rest starts => exact absurd ⟨rest, starts⟩ dollar
      next => rfl
    have bare : bareKey key = key := by
      unfold bareKey
      split
      next rest starts => exact absurd ⟨rest, starts⟩ dollar
      next => rfl
    rw [found, bare, ofName?_eq_lookup, String.ofList_toList]

/-- The parser takes the argument that counts. -/
theorem argument?_eq_some_iff {arguments : Json.Members} {name : String} {value : Json} :
    Expression.argument? arguments name = some value ↔ Argument arguments name value := by
  rw [Expression.argument?, Option.or_eq_some_iff]
  constructor
  · rintro (found | ⟨missing, found⟩)
    · exact .dollar found
    · exact .bare missing found
  · rintro (found | ⟨missing, found⟩)
    · exact .inl found
    · exact .inr ⟨missing, found⟩

theorem argument?_eq_none_iff {arguments : Json.Members} {name : String} :
    Expression.argument? arguments name = none ↔ ∀ value, ¬Argument arguments name value := by
  simp only [Option.eq_none_iff_forall_ne_some, ne_eq, argument?_eq_some_iff]

theorem threshold?_eq_some_iff {operand : Json} {threshold : Binary64} :
    Expression.threshold? operand = some threshold ↔ Says operand threshold := by
  constructor
  · intro compared
    cases operand with
    | num n =>
      cases compared
      exact .number n
    | str s =>
      obtain ⟨reading, read, isFinite⟩ := Option.bind_eq_some_iff.mp compared
      cases reading with
      | finite x =>
        cases isFinite
        exact .text read
      | infinite negative => cases isFinite
      | undefined => cases isFinite
    | null => cases compared
    | bool b => cases compared
    | arr items => cases compared
    | obj members => cases compared
  · rintro (n | read)
    · rfl
    · rw [Expression.threshold?, read]
      rfl

/-! ## Tests -/

/-- A comparison is a relation of places in the numeric order. -/
theorem comparison_holds_iff (comparison : Comparison) (x threshold : Binary64) :
    comparison.holds x threshold = true ↔ relation comparison x.key threshold.key := by
  cases comparison <;> simp [Comparison.holds, relation, Binary64.lt, Binary64.le]

theorem occursIn_iff {part text : List Char} : Text.occursIn part text = true ↔ part <:+: text := by
  induction text with
  | nil => simp [Text.occursIn]
  | cons c rest ih => simp [Text.occursIn, ih, List.infix_cons_iff]

/-- The field of a test leads to a value exactly if that is a subject. -/
theorem field_resolve_iff (message : Message) (key : String) (arguments : Json.Members)
    (value : Json) :
    (∃ field, Expression.field key arguments = .ok field ∧ message.resolve field = some value) ↔
      Subject message arguments value := by
  constructor
  · rintro ⟨field, read, found⟩
    unfold Expression.field at read
    split at read
    next missing =>
      cases read
      cases found
      exact .whole (argument?_eq_none_iff.mp missing)
    next path named =>
      cases read
      exact .field (argument?_eq_some_iff.mp named) (resolve_eq_some_iff.mp found)
    next => cases read
  · rintro (missing | ⟨named, found⟩)
    · refine ⟨none, ?_, rfl⟩
      rw [Expression.field, argument?_eq_none_iff.mpr missing]
    · refine ⟨_, ?_, resolve_eq_some_iff.mpr found⟩
      rw [Expression.field, argument?_eq_some_iff.mpr named]

/-- The value that an equality compares with is its argument unless that is null. -/
theorem requiredValue_eq_ok_iff {key : String} {arguments : Json.Members} {expected : Json} :
    Expression.requiredValue key arguments = .ok expected ↔
      Argument arguments "value" expected ∧ expected ≠ .null := by
  rw [← argument?_eq_some_iff, Expression.requiredValue]
  constructor
  · intro required
    split at required
    · cases required
    · cases required
    next value isNotNull given =>
      cases required
      exact ⟨given, isNotNull⟩
  · rintro ⟨given, isNotNull⟩
    rw [given]
    cases expected <;> first | rfl | contradiction

/-- An equality test is passed exactly if there is a value to compare with and the test made of it
is passed. -/
theorem required_passes_iff (key : String) (arguments : Json.Members) (make : Json → Test)
    (value : Json) :
    (∃ test, (Expression.requiredValue key arguments).map make = .ok test ∧
        test.passes value = true) ↔
      ∃ expected, Argument arguments "value" expected ∧ expected ≠ .null ∧
        (make expected).passes value = true := by
  constructor
  · rintro ⟨test, made, passes⟩
    cases required : Expression.requiredValue key arguments with
    | error problem =>
      rw [required] at made
      cases made
    | ok expected =>
      rw [required] at made
      cases made
      obtain ⟨given, isNotNull⟩ := requiredValue_eq_ok_iff.mp required
      exact ⟨expected, given, isNotNull, passes⟩
  · rintro ⟨expected, given, isNotNull, passes⟩
    refine ⟨make expected, ?_, passes⟩
    rw [requiredValue_eq_ok_iff.mpr ⟨given, isNotNull⟩]
    rfl

/-- The test of a comparison is passed exactly by the numbers in its relation to the operand. -/
theorem compare_passes_iff (key : String) (comparison : Comparison) (arguments : Json.Members)
    (value : Json) :
    (∃ test, Expression.leafTest key (.compare comparison) arguments = .ok test ∧
        test.passes value = true) ↔ Asks arguments value (.compare comparison) := by
  constructor
  · rintro ⟨test, read, passes⟩
    simp only [Expression.leafTest] at read
    split at read
    next threshold compared =>
      cases read
      obtain ⟨operand, given, said⟩ := Option.bind_eq_some_iff.mp compared
      cases value with
      | num n =>
        exact ⟨operand, threshold, n, argument?_eq_some_iff.mp given,
          threshold?_eq_some_iff.mp said, rfl, (comparison_holds_iff ..).mp passes⟩
      | _ => cases passes
    next => cases read
  · rintro ⟨operand, threshold, n, given, said, rfl, related⟩
    refine ⟨.compare comparison threshold, ?_, (comparison_holds_iff ..).mpr related⟩
    rw [Expression.leafTest, argument?_eq_some_iff.mpr given, Option.bind_some,
      threshold?_eq_some_iff.mpr said]

/-- The test of a leaf is passed by a value exactly if the leaf asks that of it. -/
theorem leafTest_passes_iff (key : String) (leaf : Leaf) (arguments : Json.Members) (value : Json) :
    (∃ test, Expression.leafTest key leaf arguments = .ok test ∧ test.passes value = true) ↔
      Asks arguments value leaf := by
  cases leaf with
  | compare comparison => exact compare_passes_iff key comparison arguments value
  | eq => exact required_passes_iff key arguments .equals value
  | ne =>
    refine (required_passes_iff key arguments .differs value).trans ?_
    simp [Test.passes, Asks]
  | isIn =>
    constructor
    · rintro ⟨test, read, passes⟩
      simp only [Expression.leafTest] at read
      split at read
      next candidates given =>
        cases read
        exact ⟨candidates, argument?_eq_some_iff.mp given, List.any_eq_true.mp passes⟩
      next => cases read
    · rintro ⟨candidates, given, equal⟩
      refine ⟨.oneOf candidates, ?_, List.any_eq_true.mpr equal⟩
      rw [Expression.leafTest, argument?_eq_some_iff.mpr given]
  | contains =>
    constructor
    · rintro ⟨test, read, passes⟩
      simp only [Expression.leafTest] at read
      split at read
      next needle given =>
        cases read
        cases value with
        | str text =>
          exact ⟨needle, text, argument?_eq_some_iff.mp given, rfl, occursIn_iff.mp passes⟩
        | _ => cases passes
      next => cases read
    · rintro ⟨needle, text, given, rfl, occurs⟩
      refine ⟨.contains needle, ?_, occursIn_iff.mpr occurs⟩
      rw [Expression.leafTest, argument?_eq_some_iff.mpr given]

/-- A message matches the condition of a leaf exactly if there is a subject of which the leaf asks
what is so. -/
theorem ofLeaf_holds_iff (message : Message) (key : String) (leaf : Leaf)
    (arguments : Json.Members) :
    (Expression.ofLeaf key leaf (.obj arguments)).holds message = true ↔
      ∃ value, Subject message arguments value ∧ Asks arguments value leaf := by
  have compiled : (Expression.ofLeaf key leaf (.obj arguments)).holds message = true ↔
      ∃ field test value, Expression.field key arguments = .ok field ∧
        Expression.leafTest key leaf arguments = .ok test ∧
        message.resolve field = some value ∧ test.passes value = true := by
    cases named : Expression.field key arguments with
    | error problem => simp [Expression.ofLeaf, named, Expression.holds, bind, Except.bind]
    | ok field =>
      cases read : Expression.leafTest key leaf arguments with
      | error problem => simp [Expression.ofLeaf, named, read, Expression.holds, bind, Except.bind]
      | ok test =>
        cases found : message.resolve field <;>
          simp [Expression.ofLeaf, named, read, found, Expression.holds, bind, Except.bind, pure,
            Except.pure]
  rw [compiled]
  simp only [← field_resolve_iff message key, ← leafTest_passes_iff key]
  constructor
  · rintro ⟨field, test, value, named, read, found, passes⟩
    exact ⟨value, ⟨field, named, found⟩, test, read, passes⟩
  · rintro ⟨value, ⟨field, named, found⟩, test, read, passes⟩
    exact ⟨field, test, value, named, read, found, passes⟩

/-! ## Documents -/

variable (message : Message)

theorem allHold_iff (conditions : List Expression) :
    Expression.allHold message conditions = true ↔
      ∀ condition ∈ conditions, condition.holds message = true := by
  induction conditions with
  | nil => simp [Expression.allHold]
  | cons condition rest ih => simp [Expression.allHold, ih]

theorem someHolds_iff (conditions : List Expression) :
    Expression.someHolds message conditions = true ↔
      ∃ condition ∈ conditions, condition.holds message = true := by
  induction conditions with
  | nil => simp [Expression.someHolds]
  | cons condition rest ih => simp [Expression.someHolds, ih]

/-- The shortcut for a single condition makes no difference. -/
theorem conjunction_holds_iff (conditions : List Expression) :
    (Expression.conjunction conditions).holds message = true ↔
      ∀ condition ∈ conditions, condition.holds message = true := by
  unfold Expression.conjunction
  split
  next condition => simp
  next => rw [Expression.holds, allHold_iff]

theorem parseItems_eq_map (items : List Json) :
    Expression.parseItems items = items.map Expression.parse := by
  induction items with
  | nil => simp [Expression.parseItems]
  | cons item rest ih => simp [Expression.parseItems, ih]

theorem parseMembers_eq_map (entries : Json.Members) :
    Expression.parseMembers entries =
      entries.map fun entry => Expression.parseMember entry.1 entry.2 := by
  induction entries with
  | nil => simp [Expression.parseMembers]
  | cons entry rest ih =>
    obtain ⟨key, argument⟩ := entry
    simp [Expression.parseMembers, ih]

/-- What it takes to meet an entry, if its items are met exactly when their expressions hold. -/
theorem parseMember_holds_iff (entry : String × Json) :
    (Expression.parseMember entry.1 entry.2).holds message = true ↔
      match entry.2, operators.lookup (bareKey entry.1) with
      | .arr items, some .and => ∀ item ∈ items, (Expression.parse item).holds message = true
      | .arr items, some .or => ∃ item ∈ items, (Expression.parse item).holds message = true
      | .obj arguments, some (.leaf leaf) =>
        ∃ value, Subject message arguments value ∧ Asks arguments value leaf
      | _, _ => False := by
  obtain ⟨key, argument⟩ := entry
  rw [Expression.parseMember, ofKey?_eq_lookup]
  rcases operators.lookup (bareKey key) with _ | _ | _ | leaf
  · simp [Expression.holds]
  · cases argument <;>
      simp [Expression.parseChildren, Expression.holds, allHold_iff, parseItems_eq_map]
  · cases argument <;>
      simp [Expression.parseChildren, Expression.holds, someHolds_iff, parseItems_eq_map]
  · cases argument with
    | obj arguments => simp [ofLeaf_holds_iff]
    | _ => simp [Expression.ofLeaf, Expression.holds]

theorem meets_obj_iff (entries : Json.Members) :
    Meets message (.obj entries) ↔ ∀ entry ∈ entries,
      match entry.2, operators.lookup (bareKey entry.1) with
      | .arr items, some .and => ∀ item ∈ items, Meets message item
      | .arr items, some .or => ∃ item ∈ items, Meets message item
      | .obj arguments, some (.leaf leaf) =>
        ∃ value, Subject message arguments value ∧ Asks arguments value leaf
      | _, _ => False := by
  rw [Meets]
  refine forall₂_congr fun entry member => ?_
  obtain ⟨key, argument⟩ := entry
  rcases operators.lookup (bareKey key) with _ | _ | _ | leaf <;> cases argument <;> simp

/-- A message matches the expression of a document exactly if it meets the document. -/
theorem parse_holds_iff (document : Json) :
    (Expression.parse document).holds message = true ↔ Meets message document := by
  match document with
  | .obj entries =>
    rw [Expression.parse, conjunction_holds_iff, meets_obj_iff, parseMembers_eq_map,
      List.forall_mem_map]
    refine forall₂_congr fun entry member => ?_
    rw [parseMember_holds_iff]
    split
    next items holds_items _ =>
      refine forall₂_congr fun item inside => ?_
      have smaller := sizeOf_item_lt member holds_items inside
      exact parse_holds_iff item
    next items holds_items _ =>
      refine exists_congr fun item => and_congr_right fun inside => ?_
      have smaller := sizeOf_item_lt member holds_items inside
      exact parse_holds_iff item
    next => rfl
    next => rfl
  | .null => simp [Expression.parse, Expression.holds, Meets]
  | .bool b => simp [Expression.parse, Expression.holds, Meets]
  | .num n => simp [Expression.parse, Expression.holds, Meets]
  | .str s => simp [Expression.parse, Expression.holds, Meets]
  | .arr items => simp [Expression.parse, Expression.holds, Meets]
termination_by sizeOf document
decreasing_by
  all_goals exact smaller

theorem meets_obj_of_perm {entries others : Json.Members} (reordered : entries.Perm others) :
    Meets message (.obj entries) ↔ Meets message (.obj others) := by
  rw [meets_obj_iff, meets_obj_iff]
  exact ⟨fun met entry member => met entry (reordered.mem_iff.mpr member),
    fun met entry member => met entry (reordered.mem_iff.mp member)⟩

/-- Making an expression of a document and matching a message against it is the same as reading the
document directly: the message matches exactly if it meets the document. In particular every message
matches the empty object, and the order of the entries of an object makes no difference. -/
theorem holds_parse_iff_meets :
    (∀ document, (Expression.parse document).holds message = true ↔ Meets message document) ∧
      Meets message (.obj []) ∧
      ∀ entries others : Json.Members, entries.Perm others →
        (Meets message (.obj entries) ↔ Meets message (.obj others)) := by
  refine ⟨parse_holds_iff message, ?_, fun _ _ => meets_obj_of_perm message⟩
  rw [meets_obj_iff]
  intro entry member
  cases member

end TopicAlerts.RuleDocument
