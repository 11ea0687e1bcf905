import TopicAlerts.Proofs.CompactDocuments
import TopicAlerts.Proofs.IntegerComparison

/-!
# Bare integers

A message that is the text of an integer has no field, and a test without a field asks about the
whole of it. `RuleDocument.bare_integer` compares that with the same test of a field that holds the
integer. Integers of a signed 64-bit word are numbers in both messages, and the tests agree.

From `2⁶³` to `2⁶⁴ - 1` they do not: the reader of bare texts takes the digits for a text, while
inside an object they are still a number (`RuleDocument.large_integer_differs`). So the bare integer
is tested as the string of its digits would be in the field.

Both come from what the texts are read as (`Message.parse_toString`,
`Message.parse_integer_member`): a test of a field is the test without one of the value that is
there (`RuleDocument.matches_located_iff`).
-/

namespace TopicAlerts

/-! ## Characters of integers -/

/-- The characters that the text of an integer is made of. -/
def integerChars : List Char := ['-', '0', '1', '2', '3', '4', '5', '6', '7', '8', '9']

theorem mem_integerChars_of_isDigit {c : Char} (hc : c.isDigit = true) : c ∈ integerChars := by
  have hdigits : ∀ code < 58, 48 ≤ code → Char.ofNat code ∈ integerChars := by decide
  simp only [Char.isDigit, Bool.and_eq_true, decide_eq_true_eq] at hc
  have hlow : 48 ≤ c.toNat := UInt32.le_iff_toNat_le.mp hc.1
  have hhigh : c.toNat ≤ 57 := UInt32.le_iff_toNat_le.mp hc.2
  rw [← Char.ofNat_toNat c]
  exact hdigits c.toNat (by omega) hlow

theorem toList_toString (n : Int) : (toString n).toList =
    Reading.signed (decide (n < 0)) (Nat.toDigits 10 n.natAbs) :=
  Json.Number.toList_text_int n

theorem mem_integerChars (n : Int) : ∀ c ∈ (toString n).toList, c ∈ integerChars := by
  intro c hc
  rw [toList_toString] at hc
  rcases Reading.mem_signed hc with rfl | hdigit
  · exact List.mem_cons_self
  · exact mem_integerChars_of_isDigit (isDigits_toDigits n.natAbs c hdigit)

/-- What holds of these characters holds of those in the text of any integer. -/
theorem forall_mem_toString {p : Char → Prop} [DecidablePred p]
    (h : (integerChars.all fun c => p c) = true) (n : Int) : ∀ c ∈ (toString n).toList, p c := by
  intro c hc
  exact of_decide_eq_true (List.all_eq_true.mp h c (mem_integerChars n c hc))

/-! ## Messages of integers -/

/-- Nothing is trimmed where no blank character stands at the ends. -/
theorem Text.trimChars_of_stops {text : List Char} (hfirst : Stops Text.isBlank text)
    (hlast : Stops Text.isBlank text.reverse) : Text.trimChars text = text := by
  have hnone : ∀ c ∈ ([] : List Char), Text.isBlank c = true := nofun
  have hdrop (chars : List Char) (h : Stops Text.isBlank chars) :
      chars.dropWhile Text.isBlank = chars := dropWhile_of_stops hnone h
  rw [Text.trimChars, hdrop _ hfirst, hdrop _ hlast, List.reverse_reverse]

theorem Text.trim_of_stops {text : String} (hfirst : Stops Text.isBlank text.toList)
    (hlast : Stops Text.isBlank text.toList.reverse) : Text.trim text = text := by
  rw [Text.trim, Text.trimChars_of_stops hfirst hlast, String.ofList_toList]

theorem trim_toString (n : Int) : Text.trim (toString n) = toString n := by
  have hsolid : ∀ c ∈ (toString n).toList, Text.isBlank c = false :=
    forall_mem_toString (by decide) n
  refine Text.trim_of_stops (fun c hc => ?_) (fun c hc => ?_)
  · exact hsolid c (List.mem_of_mem_head? hc)
  · exact hsolid c (List.mem_reverse.mp (List.mem_of_mem_head? hc))

namespace Message

open Json

/-- The digits of an integer are read as the integer if it is one of a signed 64-bit word. -/
theorem integer?_toString (n : Int) : integer? (toString n).toList =
    if -2 ^ 63 ≤ n ∧ n < 2 ^ 63 then some n else none := by
  have hne : Nat.toDigits 10 n.natAbs ≠ [] := Nat.toDigits_ne_nil
  have hdigits : (Nat.toDigits 10 n.natAbs).all Char.isDigit = true :=
    List.all_eq_true.mpr (isDigits_toDigits _)
  have hsign : Reading.sign (Reading.signed (decide (n < 0)) (Nat.toDigits 10 n.natAbs ++ [])) =
      (decide (n < 0), Nat.toDigits 10 n.natAbs ++ []) :=
    Reading.sign_signed (isDigits_toDigits n.natAbs) hne
  rw [List.append_nil] at hsign
  have hvalue : (if decide (n < 0) = true then -(n.natAbs : Int) else n.natAbs) = n := by
    simp only [decide_eq_true_eq]
    split_ifs <;> omega
  unfold integer?
  rw [toList_toString, hsign]
  simp only [hdigits, List.isEmpty_eq_false_iff.mpr hne, Reading.naturalOf_toDigits, hvalue]
  rfl

/-- An integer beyond the signed 64-bit words is a text. -/
theorem scalar_toString (n : Int) : scalar (toString n) =
    if -2 ^ 63 ≤ n ∧ n < 2 ^ 63 then .num (.int n) else .str (toString n) := by
  have hplain : ∀ c ∈ (toString n).toList, c ≠ '.' ∧ c.toLower ≠ 't' ∧ c.toLower ≠ 'f' :=
    forall_mem_toString (by decide) n
  have hpoint : (toString n).toList.contains '.' = false := by
    rw [List.contains_eq_mem, decide_eq_false_iff_not]
    exact fun hmem => (hplain '.' hmem).1 rfl
  have hnumber : number? (toString n).toList =
      (if -2 ^ 63 ≤ n ∧ n < 2 ^ 63 then some n else none).map .int := by
    rw [number?, hpoint, if_neg Bool.false_ne_true, integer?_toString]
  -- no word starts with the character of an integer
  have hword (first : Char) (hfirst : ∀ c ∈ (toString n).toList, c.toLower ≠ first)
      (rest : List Char) : (toString n).toList.map Char.toLower ≠ first :: rest := by
    intro hsame
    obtain ⟨c, tail, htext, hc, -⟩ := List.map_eq_cons_iff.mp hsame
    exact hfirst c (htext ▸ List.mem_cons_self) hc
  unfold scalar
  rw [hnumber]
  split_ifs
  · rfl
  · dsimp only [Option.map_none]
    rw [if_neg (hword 't' (fun c hc => (hplain c hc).2.1) _),
      if_neg (hword 'f' (fun c hc => (hplain c hc).2.2) _)]

theorem toString_ne_empty (n : Int) : (toString n).isEmpty = false := by
  have hne : (Number.text (.int n)).toList ≠ [] := Number.text_ne_nil (.int n)
  rw [← Bool.not_eq_true, String.isEmpty_iff]
  intro hempty
  exact hne (congrArg String.toList hempty)

/-- A bare integer of 64 bits is a number if it is one of a signed word, and a text otherwise. -/
theorem parse_toString {n : Int} (hn : -2 ^ 63 ≤ n ∧ n < 2 ^ 64) :
    parse (toString n) = ⟨if n < 2 ^ 63 then .num (.int n) else .str (toString n)⟩ := by
  have hread : Json.parse? (toString n) = some (.num (.int n)) := by
    have hcompact := (parse?_compact_iff (.num (.int n))).mpr (.num (Number.reread_int hn))
    rwa [compact, compactChars, String.ofList_toList] at hcompact
  unfold parse
  rw [trim_toString]
  dsimp only
  rw [toString_ne_empty, if_neg Bool.false_ne_true, hread, scalar_toString]
  simp only [hn.1, true_and]

/-- An object with one member, which is a scalar, is a message as it is. -/
theorem parse_compact_member (key : String) {value : Json} {token : Token} {document : Document}
    (h : Scalar value token document) :
    parse (compact (.obj [(key, value)])) = ⟨.obj [(key, value)]⟩ := by
  have htext : (compact (.obj [(key, value)])).toList =
      '{' :: (compactMembers [(key, value)] ++ ['}']) := by
    rw [compact, compactChars, String.toList_ofList, List.cons_append]
  have htrim : Text.trim (compact (.obj [(key, value)])) = compact (.obj [(key, value)]) := by
    refine Text.trim_of_stops ?_ ?_
    · rw [htext]
      exact stops_cons rfl _
    · rw [htext, ← List.cons_append, List.reverse_append]
      exact stops_cons rfl _
  have hfilled : (compact (.obj [(key, value)])).isEmpty = false := by
    rw [← Bool.not_eq_true, String.isEmpty_iff]
    intro hempty
    rw [hempty] at htext
    cases htext
  have hfits : Fits depthLimit (.obj [(key, value)]) := by
    refine .obj (List.pairwise_singleton _ _) fun member hmember => ?_
    rw [List.mem_singleton.mp hmember]
    exact h.fits _
  unfold parse
  rw [htrim]
  dsimp only
  rw [hfilled, if_neg Bool.false_ne_true, (parse?_compact_iff _).mpr hfits]

theorem parse_integer_member {n : Int} (hn : -2 ^ 63 ≤ n ∧ n < 2 ^ 64) :
    parse ("\x7b\"x\":" ++ toString n ++ "\x7d") = ⟨.obj [("x", .num (.int n))]⟩ := by
  rw [← parse_compact_member "x" (.int hn)]
  congr 1
  rw [← String.toList_inj]
  simp [compact, compactChars, compactMembers, quoted, escapeChar, Number.text]

theorem parse_digits_member (n : Int) :
    parse ("\x7b\"x\":\"" ++ toString n ++ "\"\x7d") = ⟨.obj [("x", .str (toString n))]⟩ := by
  have hplain : ∀ c ∈ (toString n).toList, escapeChar c = [c] :=
    forall_mem_toString (by decide) n
  have hquoted : quoted (toString n) = '"' :: (toString n).toList ++ ['"'] := by
    rw [quoted, List.flatMap_congr hplain, List.flatMap_singleton']
  have hname : quoted "x" = ['"', 'x', '"'] := by decide
  rw [← parse_compact_member "x" (.str _)]
  congr 1
  rw [← String.toList_inj, compact, compactChars, compactMembers, compactChars, hquoted, hname]
  simp

end Message

namespace RuleDocument

/-! ## Tests of a field and of a whole message -/

/-- The arguments of a test, asked of this field. -/
def located (path : String) (arguments : Json.Members) : Json.Members :=
  Json.set "field" (.str path) arguments

variable {message : Message} {arguments : Json.Members} {key path : String} {leaf : Leaf}
  {value : Json} {n : Int}

theorem argument_located_iff {name : String} (hname : name = "value" ∨ name = "values")
    (operand : Json) :
    Argument (located path arguments) name operand ↔ Argument arguments name operand := by
  rw [← argument?_eq_some_iff, ← argument?_eq_some_iff]
  rcases hname with rfl | rfl <;> simp [located, Expression.argument?, Json.get?_set]

theorem argument_located (hfield : ∀ value, ¬Argument arguments "field" value) :
    Argument (located path arguments) "field" (.str path) := by
  rw [← argument?_eq_none_iff, Expression.argument?, Option.or_eq_none_iff] at hfield
  refine .bare ?_ ?_
  · rw [located, Json.get?_set, if_neg (by decide)]
    exact hfield.1
  · rw [located, Json.get?_set, if_pos rfl]

/-- A test of a field is the test without one of the value that is there. -/
theorem matches_located_iff (htests : Tests key leaf)
    (hfield : ∀ value, ¬Argument arguments "field" value)
    (hfound : message.resolve (some path) = some value) :
    Matches message key (.obj (located path arguments)) ↔ Matches ⟨value⟩ key (.obj arguments) := by
  have hthere : Subject message (located path arguments) value :=
    .field (argument_located hfield) (resolve_eq_some_iff.mp hfound)
  have hwhole : Subject ⟨value⟩ arguments value := .whole hfield
  rw [htests.matches_of_subject_iff hthere, htests.matches_of_subject_iff hwhole]
  exact asks_congr (argument_located_iff (.inl rfl)) (argument_located_iff (.inr rfl))

/-- A test of a whole message does on the text of an integer what it does on a field with the
integer, if that is one of a signed 64-bit word, and otherwise what it does on a field with the
digits of the integer as a string. -/
theorem bare_integer (htests : Tests key leaf)
    (hfield : ∀ value, ¬Argument arguments "field" value) (hn : -2 ^ 63 ≤ n ∧ n < 2 ^ 64) :
    (n < 2 ^ 63 →
      Expression.matchesRaw (.obj [(key, .obj arguments)]) (toString n) =
        Expression.matchesRaw (.obj [(key, .obj (located "x" arguments))])
          ("\x7b\"x\":" ++ toString n ++ "\x7d")) ∧
    (2 ^ 63 ≤ n →
      Expression.matchesRaw (.obj [(key, .obj arguments)]) (toString n) =
        Expression.matchesRaw (.obj [(key, .obj (located "x" arguments))])
          ("\x7b\"x\":\"" ++ toString n ++ "\"\x7d")) := by
  have hfound (value : Json) : Message.resolve ⟨.obj [("x", value)]⟩ (some "x") = some value := rfl
  have hlocated (value : Json) := matches_located_iff htests hfield (hfound value)
  unfold Expression.matchesRaw
  rw [Message.parse_toString hn, Message.parse_integer_member hn, Message.parse_digits_member]
  constructor
  · intro hword
    rw [if_pos hword, Bool.eq_iff_iff]
    exact (hlocated (.num (.int n))).symm
  · intro hlarge
    rw [if_neg hlarge.not_gt, Bool.eq_iff_iff]
    exact (hlocated (.str (toString n))).symm

/-- The least integer that is a number in either message, and the least that is one only inside an
object. -/
theorem bare_integer_bounds :
    let whole : Json := .obj [("$lt", .obj [("value", .num (.int 0))])]
    let inside : Json := .obj [("$lt", .obj [("field", .str "x"), ("value", .num (.int 0))])]
    Expression.matchesRaw whole "-9223372036854775808" =
        Expression.matchesRaw inside "\x7b\"x\":-9223372036854775808\x7d" ∧
      Expression.matchesRaw whole "9223372036854775808" =
        Expression.matchesRaw inside "\x7b\"x\":\"9223372036854775808\"\x7d" := by
  intro whole inside
  have htests : Tests "$lt" (.compare .less) := rfl
  have hfield : ∀ value, ¬Argument [("value", .num (.int 0))] "field" value :=
    argument?_eq_none_iff.mp rfl
  have hleast : (-2 ^ 63 : Int) ≤ -2 ^ 63 ∧ (-2 ^ 63 : Int) < 2 ^ 64 := by decide
  have hlarge : (-2 ^ 63 : Int) ≤ 2 ^ 63 ∧ (2 ^ 63 : Int) < 2 ^ 64 := by decide
  constructor
  · exact (bare_integer htests hfield hleast).1 (by decide)
  · exact (bare_integer htests hfield hlarge).2 (by decide)

/-- The first integer that is a number only inside an object. -/
theorem large_integer_differs :
    ¬∀ (key : String) (leaf : Leaf) (arguments : Json.Members) (n : Int), Tests key leaf →
      (∀ value, ¬Argument arguments "field" value) → (-2 ^ 63 ≤ n ∧ n < 2 ^ 64) →
        Expression.matchesRaw (.obj [(key, .obj arguments)]) (toString n) =
          Expression.matchesRaw (.obj [(key, .obj (located "x" arguments))])
            ("\x7b\"x\":" ++ toString n ++ "\x7d") := by
  intro hagree
  have htests : Tests "gt" (.compare .greater) := rfl
  have hfield : ∀ value, ¬Argument [("value", .num (.int 0))] "field" value :=
    argument?_eq_none_iff.mp rfl
  have hoperand : Argument [("value", .num (.int 0))] "value" (.num (.int 0)) := .bare rfl rfl
  have hrange : (-2 ^ 63 : Int) ≤ 2 ^ 63 ∧ (2 ^ 63 : Int) < 2 ^ 64 := by decide
  have hsame := hagree "gt" _ _ _ htests hfield hrange
  unfold Expression.matchesRaw at hsame
  rw [Message.parse_toString hrange, Message.parse_integer_member hrange, if_neg (by decide),
    Bool.eq_iff_iff] at hsame
  have hfound : Message.resolve ⟨.obj [("x", .num (.int (2 ^ 63)))]⟩ (some "x") =
      some (.num (.int (2 ^ 63))) := rfl
  have hlocated := matches_located_iff htests hfield hfound
  have hnumber : Matches ⟨.num (.int (2 ^ 63))⟩ "gt" (.obj [("value", .num (.int 0))]) :=
    (decides_rounded hrange (by decide) (.whole hfield) hoperand).gt.mpr (by decide +kernel)
  have htext := (htests.matches_of_subject_iff (.whole hfield)).mp
    (hsame.mpr (hlocated.mpr hnumber))
  obtain ⟨_, hnumeric⟩ := concerns_of_asks htext
  cases hnumeric

end RuleDocument

end TopicAlerts
