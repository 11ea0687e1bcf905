import TopicAlerts.Proofs.RuleGrammar

/-!
# Laws of the tests

The tests of rule documents come in opposites: `gt` and `lte`, `lt` and `gte`, `eq` and `ne`. Two
opposite tests with the same arguments are never both passed, and one of them is passed by every
message that can be asked at all: arguments that fit, and a subject in the message, which has to be
a number if it is to be compared. A test that allows equality is passed if the strict one or the
equality is, and a membership is a disjunction of equalities (`test_laws`).

The comparisons rest on the order of the doubles being total: what is undefined or infinite is
neither the operand of a comparison nor a number of a message.
-/

namespace TopicAlerts.RuleDocument

/-- The message matches the rule whose only entry is this one. -/
def Matches (message : Message) (key : String) (argument : Json) : Prop :=
  (Expression.parse (.obj [(key, argument)])).holds message = true

/-- Two tests ask the opposite of each other. -/
inductive Opposites : Leaf → Leaf → Prop
  | greater : Opposites (.compare .greater) (.compare .lessOrEqual)
  | less : Opposites (.compare .less) (.compare .greaterOrEqual)
  | equality : Opposites .eq .ne

/-- The values that a test distinguishes: only numbers are compared. -/
def Concerns (value : Json) : Leaf → Prop
  | .compare _ => ∃ n, value = .num n
  | _ => True

variable {message : Message} {arguments : Json.Members} {key other : String} {leaf counter : Leaf}
  {value : Json}

/-! ## What a test asks of its subject -/

theorem Subject.eq {value' : Json} (h : Subject message arguments value)
    (h' : Subject message arguments value') : value = value' := by
  cases h with
  | whole hmissing =>
    cases h' with
    | whole _ => rfl
    | field hnamed _ => exact absurd hnamed (hmissing _)
  | field hnamed hfound =>
    cases h' with
    | whole hmissing => exact absurd hnamed (hmissing _)
    | field hnamed' hfound' =>
      have hpath := hnamed.eq hnamed'
      cases hpath
      rw [← resolve_eq_some_iff] at hfound hfound'
      rw [hfound] at hfound'
      exact Option.some.inj hfound'

/-- Where there is a subject, the field is a text, if there is one. -/
theorem Subject.fieldFits (h : Subject message arguments value) : FieldFits arguments := by
  intro named hnamed
  cases h with
  | whole hmissing => exact absurd hnamed (hmissing named)
  | field hpath _ => exact ⟨_, hnamed.eq hpath⟩

theorem Says.eq {operand : Json} {x y : Binary64} (h : Says operand x) (h' : Says operand y) :
    x = y := by
  rw [← threshold?_eq_some_iff] at h h'
  rw [h] at h'
  exact Option.some.inj h'

/-- A number is asked for its relation to the operand. -/
theorem asks_compare_iff {comparison : Comparison} {operand : Json} {threshold : Binary64}
    {n : Json.Number} (hoperand : Argument arguments "value" operand)
    (hsaid : Says operand threshold) :
    Asks arguments (.num n) (.compare comparison) ↔
      relation comparison n.toBinary64.key threshold.key := by
  constructor
  · rintro ⟨operand', threshold', m, hoperand', hsaid', hnum, hrelated⟩
    cases hnum
    have hsame : operand' = operand := hoperand'.eq hoperand
    subst hsame
    rwa [hsaid'.eq hsaid] at hrelated
  · intro hrelated
    exact ⟨operand, threshold, n, hoperand, hsaid, rfl, hrelated⟩

/-- A value is asked whether it equals the operand. -/
theorem asks_eq_iff (value : Json) {operand : Json} (hoperand : Argument arguments "value" operand)
    (hnull : operand ≠ .null) :
    (Asks arguments value .eq ↔ value.valuesEqual operand = true) ∧
      (Asks arguments value .ne ↔ value.valuesEqual operand = false) := by
  have hasks (result : Bool) :
      (∃ expected, Argument arguments "value" expected ∧ expected ≠ .null ∧
        value.valuesEqual expected = result) ↔ value.valuesEqual operand = result := by
    constructor
    · rintro ⟨expected, hexpected, -, hresult⟩
      rwa [hexpected.eq hoperand] at hresult
    · intro hresult
      exact ⟨operand, hoperand, hnull, hresult⟩
  exact ⟨hasks true, hasks false⟩

/-- A test reads nothing of its arguments but the operand. -/
theorem asks_congr {others : Json.Members}
    (hvalue : ∀ operand, Argument arguments "value" operand ↔ Argument others "value" operand)
    (hvalues : ∀ operand, Argument arguments "values" operand ↔ Argument others "values" operand) :
    Asks arguments value leaf ↔ Asks others value leaf := by
  cases leaf <;> simp only [Asks, hvalue, hvalues]

theorem operandFits_of_asks (h : Asks arguments value leaf) : OperandFits arguments leaf := by
  cases leaf with
  | compare comparison =>
    obtain ⟨operand, threshold, n, hoperand, hsaid, -, -⟩ := h
    exact ⟨operand, threshold, hoperand, hsaid⟩
  | eq =>
    obtain ⟨operand, hoperand, hnull, -⟩ := h
    exact ⟨operand, hoperand, hnull⟩
  | ne =>
    obtain ⟨operand, hoperand, hnull, -⟩ := h
    exact ⟨operand, hoperand, hnull⟩
  | isIn =>
    obtain ⟨candidates, hcandidates, -⟩ := h
    exact ⟨candidates, hcandidates⟩
  | contains =>
    obtain ⟨needle, text, hneedle, -, -⟩ := h
    exact ⟨needle, hneedle⟩

theorem concerns_of_asks (h : Asks arguments value leaf) : Concerns value leaf := by
  cases leaf with
  | compare comparison =>
    obtain ⟨operand, threshold, n, -, -, hnum, -⟩ := h
    exact ⟨n, hnum⟩
  | _ => trivial

/-- Among numbers, a comparison that allows equality asks what the strict one or the equality
does. -/
theorem asks_greaterOrEqual_iff {n k : Json.Number}
    (hoperand : Argument arguments "value" (.num k)) :
    Asks arguments (.num n) (.compare .greaterOrEqual) ↔
      Asks arguments (.num n) (.compare .greater) ∨ Asks arguments (.num n) .eq := by
  have hnull : Json.num k ≠ .null := nofun
  rw [asks_compare_iff hoperand (.number k), asks_compare_iff hoperand (.number k),
    (asks_eq_iff _ hoperand hnull).1]
  have hequal : (Json.num n).valuesEqual (.num k) = true ↔ n.toBinary64.key = k.toBinary64.key := by
    simp [Json.valuesEqual, Binary64.eq]
  rw [hequal]
  show n.toBinary64.key ≥ k.toBinary64.key ↔
    n.toBinary64.key > k.toBinary64.key ∨ n.toBinary64.key = k.toBinary64.key
  omega

/-! ## Opposites -/

theorem Opposites.operandFits_iff (h : Opposites leaf counter) :
    OperandFits arguments counter ↔ OperandFits arguments leaf := by
  cases h <;> rfl

theorem Opposites.concerns_iff (h : Opposites leaf counter) :
    Concerns value counter ↔ Concerns value leaf := by
  cases h <;> rfl

/-- Of a value that it concerns, a test with an operand asks what its opposite does not. -/
theorem Opposites.asks_iff (h : Opposites leaf counter) (hfits : OperandFits arguments leaf)
    (hconcerns : Concerns value leaf) :
    Asks arguments value counter ↔ ¬Asks arguments value leaf := by
  cases h with
  | greater =>
    obtain ⟨operand, threshold, hoperand, hsaid⟩ := hfits
    obtain ⟨n, rfl⟩ := hconcerns
    rw [asks_compare_iff hoperand hsaid, asks_compare_iff hoperand hsaid]
    show n.toBinary64.key ≤ threshold.key ↔ ¬n.toBinary64.key > threshold.key
    omega
  | less =>
    obtain ⟨operand, threshold, hoperand, hsaid⟩ := hfits
    obtain ⟨n, rfl⟩ := hconcerns
    rw [asks_compare_iff hoperand hsaid, asks_compare_iff hoperand hsaid]
    show n.toBinary64.key ≥ threshold.key ↔ ¬n.toBinary64.key < threshold.key
    omega
  | equality =>
    obtain ⟨operand, hoperand, hnull⟩ := hfits
    rw [(asks_eq_iff _ hoperand hnull).1, (asks_eq_iff _ hoperand hnull).2, Bool.not_eq_true]

/-! ## Matching -/

theorem parse_singleton (key : String) (argument : Json) :
    Expression.parse (.obj [(key, argument)]) = Expression.parseMember key argument := by
  simp [Expression.parse, Expression.parseMembers, Expression.conjunction]

theorem matches_iff (key : String) (argument : Json) : Matches message key argument ↔
    match argument, operators.lookup (bareKey key) with
    | .arr items, some .and => ∀ item ∈ items, Meets message item
    | .arr items, some .or => ∃ item ∈ items, Meets message item
    | .obj arguments, some (.leaf leaf) =>
      ∃ value, Subject message arguments value ∧ Asks arguments value leaf
    | _, _ => False := by
  have hmeets := meets_obj_iff message [(key, argument)]
  rw [List.forall_mem_singleton] at hmeets
  rw [Matches, parse_holds_iff]
  exact hmeets

/-- An object is met if each of its entries is. -/
theorem meets_obj_iff_matches (entries : Json.Members) :
    Meets message (.obj entries) ↔ ∀ entry ∈ entries, Matches message entry.1 entry.2 := by
  rw [meets_obj_iff]
  exact forall₂_congr fun entry _ => (matches_iff entry.1 entry.2).symm

/-- A test is passed if what it asks is so of its subject. -/
theorem Tests.matches_iff (h : Tests key leaf) :
    Matches message key (.obj arguments) ↔
      ∃ value, Subject message arguments value ∧ Asks arguments value leaf := by
  unfold Tests at h
  rw [RuleDocument.matches_iff, h]

theorem Tests.matches_of_subject_iff (h : Tests key leaf)
    (hvalue : Subject message arguments value) :
    Matches message key (.obj arguments) ↔ Asks arguments value leaf := by
  rw [h.matches_iff]
  constructor
  · rintro ⟨value', hvalue', hasks⟩
    rwa [hvalue'.eq hvalue] at hasks
  · intro hasks
    exact ⟨value, hvalue, hasks⟩

/-- The entry of a test is well-formed if its field and its operand fit. -/
theorem Tests.isWellFormedEntry_iff (h : Tests key leaf) :
    IsWellFormedEntry key (.obj arguments) ↔
      FieldFits arguments ∧ OperandFits arguments leaf := by
  constructor
  · intro hformed
    cases hformed with
    | test htests hfield hoperand =>
      have hsame := h.eq htests
      subst hsame
      exact ⟨hfield, hoperand⟩
  · rintro ⟨hfield, hoperand⟩
    exact .test h hfield hoperand

/-- Of two opposite tests with the same arguments at most one is passed, and one is as soon as the
arguments fit and there is a subject that they concern. -/
theorem Opposites.matches_iff (h : Opposites leaf counter) (htests : Tests key leaf)
    (hcounter : Tests other counter) (message : Message) (arguments : Json.Members) :
    ¬(Matches message key (.obj arguments) ∧ Matches message other (.obj arguments)) ∧
      ((Matches message key (.obj arguments) ∨ Matches message other (.obj arguments)) ↔
        IsWellFormedEntry key (.obj arguments) ∧
          ∃ value, Subject message arguments value ∧ Concerns value leaf) := by
  constructor
  · rintro ⟨hmatches, hopposite⟩
    obtain ⟨value, hvalue, hasks⟩ := htests.matches_iff.mp hmatches
    have hasks' := (hcounter.matches_of_subject_iff hvalue).mp hopposite
    rw [h.asks_iff (operandFits_of_asks hasks) (concerns_of_asks hasks)] at hasks'
    exact hasks' hasks
  · rw [htests.isWellFormedEntry_iff]
    constructor
    · rintro (hmatches | hopposite)
      · obtain ⟨value, hvalue, hasks⟩ := htests.matches_iff.mp hmatches
        exact ⟨⟨hvalue.fieldFits, operandFits_of_asks hasks⟩, value, hvalue, concerns_of_asks hasks⟩
      · obtain ⟨value, hvalue, hasks⟩ := hcounter.matches_iff.mp hopposite
        have hoperand := h.operandFits_iff.mp (operandFits_of_asks hasks)
        have hconcerns := h.concerns_iff.mp (concerns_of_asks hasks)
        exact ⟨⟨hvalue.fieldFits, hoperand⟩, value, hvalue, hconcerns⟩
    · rintro ⟨⟨-, hoperand⟩, value, hvalue, hconcerns⟩
      rw [htests.matches_of_subject_iff hvalue, hcounter.matches_of_subject_iff hvalue,
        h.asks_iff hoperand hconcerns]
      exact Classical.em _

/-! ## Membership -/

/-- The arguments of a test of this field, if there is one, with this operand. -/
def argumentsOf (field : Option String) (name : String) (operand : Json) : Json.Members :=
  (field.toList.map fun path => ("field", .str path)) ++ [(name, operand)]

/-- The disjunction of the equalities with some values. -/
def equalities (field : Option String) (values : List Json) : Json :=
  .arr (values.map fun value => .obj [("eq", .obj (argumentsOf field "value" value))])

section Membership

variable {field : Option String} {name : String} {operand : Json}

theorem argument_argumentsOf (hname : name = "value" ∨ name = "values") :
    Argument (argumentsOf field name operand) name operand := by
  rw [← argument?_eq_some_iff]
  rcases hname with rfl | rfl <;> cases field <;>
    simp [argumentsOf, Expression.argument?, Json.get?, List.lookup_cons]

/-- The subject does not depend on the operand. -/
theorem subject_argumentsOf_iff (hname : name = "value" ∨ name = "values") :
    Subject message (argumentsOf field name operand) value ↔
      message.resolve field = some value := by
  have hfield : Expression.field "" (argumentsOf field name operand) = .ok field := by
    rcases hname with rfl | rfl <;> cases field <;>
      simp [argumentsOf, Expression.field, Expression.argument?, Json.get?, List.lookup_cons]
  rw [← field_resolve_iff message ""]
  constructor
  · rintro ⟨field', hfield', hvalue⟩
    rw [hfield] at hfield'
    cases hfield'
    exact hvalue
  · intro hvalue
    exact ⟨field, hfield, hvalue⟩

theorem matches_or_iff (hor : operators.lookup (bareKey key) = some .or) (items : List Json) :
    Matches message key (.arr items) ↔ ∃ item ∈ items, Meets message item := by
  rw [matches_iff, hor]

/-- A membership is the disjunction of the equalities with its values, none of which is null. -/
theorem matches_isIn_iff (hin : Tests key .isIn) (hor : operators.lookup (bareKey other) = some .or)
    (heq : Tests "eq" .eq) {values : List Json} (hnull : ∀ value ∈ values, value ≠ .null) :
    Matches message key (.obj (argumentsOf field "values" (.arr values))) ↔
      Matches message other (equalities field values) := by
  have hitem (operand : Json) (hoperand : operand ≠ .null) :
      Meets message (.obj [("eq", .obj (argumentsOf field "value" operand))]) ↔
        ∃ value, message.resolve field = some value ∧ value.valuesEqual operand = true := by
    have hgiven : Argument (argumentsOf field "value" operand) "value" operand :=
      argument_argumentsOf (.inl rfl)
    rw [← parse_holds_iff, ← Matches, heq.matches_iff]
    simp only [subject_argumentsOf_iff (.inl rfl), (asks_eq_iff _ hgiven hoperand).1]
  rw [hin.matches_iff, equalities, matches_or_iff hor]
  simp only [subject_argumentsOf_iff (.inr rfl)]
  have hgiven : Argument (argumentsOf field "values" (.arr values)) "values" (.arr values) :=
    argument_argumentsOf (.inr rfl)
  constructor
  · rintro ⟨value, hvalue, candidates, hcandidates, operand, hmem, hequal⟩
    have hsame := hcandidates.eq hgiven
    cases hsame
    refine ⟨_, List.mem_map_of_mem hmem, ?_⟩
    exact (hitem operand (hnull operand hmem)).mpr ⟨value, hvalue, hequal⟩
  · rintro ⟨item, hmem, hmeets⟩
    obtain ⟨operand, hinside, rfl⟩ := List.mem_map.mp hmem
    obtain ⟨value, hvalue, hequal⟩ := (hitem operand (hnull operand hinside)).mp hmeets
    exact ⟨value, hvalue, values, hgiven, operand, hinside, hequal⟩

end Membership

/-- For any message and any arguments, the tests `gt` and `lte` are never both passed, and one of
them is exactly if the arguments fit a comparison and their subject is a number; the same is true of
`lt` and `gte`. The tests `eq` and `ne` are never both passed, and one of them is exactly if the
field is a text or missing, the operand is there and not null, and there is a subject. For numbers
`gte` is passed exactly if `gt` or `eq` is. And `in` is passed exactly if one of the equalities with
its values is, unless null is among them. -/
theorem test_laws (message : Message) (arguments : Json.Members) :
    (¬(Matches message "gt" (.obj arguments) ∧ Matches message "lte" (.obj arguments)) ∧
      (Matches message "gt" (.obj arguments) ∨ Matches message "lte" (.obj arguments) ↔
        IsWellFormedEntry "gt" (.obj arguments) ∧ ∃ n, Subject message arguments (.num n))) ∧
    (¬(Matches message "lt" (.obj arguments) ∧ Matches message "gte" (.obj arguments)) ∧
      (Matches message "lt" (.obj arguments) ∨ Matches message "gte" (.obj arguments) ↔
        IsWellFormedEntry "lt" (.obj arguments) ∧ ∃ n, Subject message arguments (.num n))) ∧
    (¬(Matches message "eq" (.obj arguments) ∧ Matches message "ne" (.obj arguments)) ∧
      (Matches message "eq" (.obj arguments) ∨ Matches message "ne" (.obj arguments) ↔
        FieldFits arguments ∧ (∃ operand, Argument arguments "value" operand ∧ operand ≠ .null) ∧
          ∃ value, Subject message arguments value)) ∧
    (∀ k n, Argument arguments "value" (.num k) → Subject message arguments (.num n) →
      (Matches message "gte" (.obj arguments) ↔
        Matches message "gt" (.obj arguments) ∨ Matches message "eq" (.obj arguments))) ∧
    ∀ field values, (∀ value ∈ values, value ≠ .null) →
      (Matches message "in" (.obj (argumentsOf field "values" (.arr values))) ↔
        Matches message "or" (equalities field values)) := by
  have hgt : Tests "gt" (.compare .greater) := rfl
  have hgte : Tests "gte" (.compare .greaterOrEqual) := rfl
  have hlt : Tests "lt" (.compare .less) := rfl
  have hlte : Tests "lte" (.compare .lessOrEqual) := rfl
  have heq : Tests "eq" .eq := rfl
  have hne : Tests "ne" .ne := rfl
  have hin : Tests "in" .isIn := rfl
  -- only a comparison has its subject among the numbers
  have hnumbers : (∃ value, Subject message arguments value ∧ ∃ n, value = .num n) ↔
      ∃ n, Subject message arguments (.num n) := by
    constructor
    · rintro ⟨_, hvalue, n, rfl⟩
      exact ⟨n, hvalue⟩
    · rintro ⟨n, hvalue⟩
      exact ⟨_, hvalue, n, rfl⟩
  refine ⟨?_, ?_, ?_, ?_, ?_⟩
  · have hlaw := Opposites.greater.matches_iff hgt hlte message arguments
    simpa only [Concerns, hnumbers] using hlaw
  · have hlaw := Opposites.less.matches_iff hlt hgte message arguments
    simpa only [Concerns, hnumbers] using hlaw
  · have hlaw := Opposites.equality.matches_iff heq hne message arguments
    simpa only [Concerns, and_true, heq.isWellFormedEntry_iff, OperandFits, and_assoc] using hlaw
  · intro k n hoperand hvalue
    rw [hgte.matches_of_subject_iff hvalue, hgt.matches_of_subject_iff hvalue,
      heq.matches_of_subject_iff hvalue]
    exact asks_greaterOrEqual_iff hoperand
  · intro field values hnull
    exact matches_isIn_iff hin rfl heq hnull

/-- A load of 90, asked about with an operand of 90 that is not in its first spelling. -/
theorem test_laws_ninety :
    let message : Message := ⟨.obj [("load", .num (.int 90))]⟩
    let arguments : Json.Members := [("$field", .str "load"), ("value", .num (.int 90))]
    Matches message "eq" (.obj arguments) ∧ ¬Matches message "ne" (.obj arguments) ∧
      Matches message "gte" (.obj arguments) ∧ ¬Matches message "lt" (.obj arguments) ∧
      (Matches message "in" (.obj (argumentsOf (some "load") "values" (.arr [.str "90"]))) ↔
        Matches message "or" (equalities (some "load") [.str "90"])) := by
  intro message arguments
  obtain ⟨-, ⟨hltGte, -⟩, ⟨heqNe, -⟩, hgte, hin⟩ := test_laws message arguments
  have hoperand : Argument arguments "value" (.num (.int 90)) := .bare rfl rfl
  have hfield : Argument arguments "field" (.str "load") := .dollar rfl
  have hvalue : Subject message arguments (.num (.int 90)) :=
    .field hfield (resolve_eq_some_iff.mp rfl)
  have heq : Matches message "eq" (.obj arguments) := by
    have htests : Tests "eq" .eq := rfl
    rw [htests.matches_of_subject_iff hvalue, (asks_eq_iff _ hoperand nofun).1]
    simp [Json.valuesEqual, Binary64.eq]
  have hmatches : Matches message "gte" (.obj arguments) :=
    (hgte (.int 90) (.int 90) hoperand hvalue).mpr (.inr heq)
  refine ⟨heq, fun hne => heqNe ⟨heq, hne⟩, hmatches, fun hlt => hltGte ⟨hlt, hmatches⟩, ?_⟩
  exact hin (some "load") [.str "90"] (by simp)

end TopicAlerts.RuleDocument

