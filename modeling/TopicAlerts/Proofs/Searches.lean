import TopicAlerts.Proofs.TestLaws

/-!
# Searches for texts

A `contains` test puts the searched text and the text of the message in lower case and then looks
for the one in the other. The lower case of a text is put together from that of its characters, and
only that of a capital sigma depends on what stands around it: where a word ends it is the final
sigma. So a part of a text has its own lower case inside that of the text exactly if each of its
capital sigmas ends a word of the part where it ends one of the text (`lowerWithin_eq_iff`), and
such a part is found (`RuleDocument.contains_matches`). Whole words always are, and parts of words
that have no capital sigma (`keepsSigmas_of_bounds`, `keepsSigmas_of_not_mem`).

A part that ends in the middle of a word can be missed although it is there letter by letter: `Σ`
becomes `σ`, but `aΣ` becomes `aς` (`RuleDocument.contains_misses_sigma`).
-/

namespace TopicAlerts.Text

/-- A word ends between two texts, of which the first is in reverse. -/
def endsWord (before after : List Char) : Bool := startsCased before && !startsCased after

/-- The lower case of a character between two texts, of which the first is in reverse. -/
def lowerAt (before : List Char) (c : Char) (after : List Char) : List Char :=
  if c = 'Σ' then [if endsWord before after then 'ς' else 'σ'] else lowerChar c

/-- The lower case of a text between two texts, of which the first is in reverse. -/
def lowerWithin (before after : List Char) : List Char → List Char
  | [] => []
  | c :: rest => lowerAt before c (rest ++ after) ++ lowerWithin (c :: before) after rest

/-- Between two texts, each capital sigma of a text ends a word exactly if it ends one of the text
by itself. -/
def KeepsSigmas (before text after : List Char) : Prop :=
  ∀ front back, text = front ++ 'Σ' :: back →
    endsWord (front.reverse ++ before.reverse) (back ++ after) = endsWord front.reverse back

variable {before after text : List Char}

/-! ## Ends of words -/

/-- What can be passed over leaves it to the rest whether a cased letter comes first. -/
theorem startsCased_append (a b : List Char) :
    startsCased (a ++ b) = if a.all isCaseIgnorable then startsCased b else startsCased a := by
  induction a with
  | nil => rfl
  | cons c a ih =>
    unfold startsCased at ih ⊢
    cases hc : isCaseIgnorable c with
    | true => simpa [hc] using ih
    | false => simp [hc]

theorem startsCased_of_all (h : text.all isCaseIgnorable = true) : startsCased text = false := by
  have happend := startsCased_append text []
  rw [List.append_nil, if_pos h] at happend
  exact happend

/-- A text that no cased letter starts can be added without making a start a cased one. -/
theorem startsCased_append_of_not (h : startsCased after = false) (text : List Char) :
    startsCased (text ++ after) = startsCased text := by
  rw [startsCased_append]
  split_ifs with hall
  · rw [h, startsCased_of_all hall]
  · rfl

theorem keepsSigmas_of_not_mem (h : 'Σ' ∉ text) (before after : List Char) :
    KeepsSigmas before text after := by
  rintro front back rfl
  exact absurd (by simp) h

/-- Sigmas are kept by whole words: no cased letter stands before the text or behind it. -/
theorem keepsSigmas_of_bounds (hbefore : startsCased before.reverse = false)
    (hafter : startsCased after = false) (text : List Char) : KeepsSigmas before text after := by
  intro front back _
  unfold endsWord
  rw [startsCased_append_of_not hbefore, startsCased_append_of_not hafter]

/-! ## The lower case of a part -/

theorem lowerFrom_cons (before : List Char) (c : Char) (rest : List Char) :
    lowerFrom before (c :: rest) = lowerAt before c rest ++ lowerFrom (c :: before) rest := rfl

/-- The lower case of a text is that of a part between its surroundings, and of the rest. -/
theorem lowerFrom_append (before text after : List Char) : lowerFrom before (text ++ after) =
    lowerWithin before after text ++ lowerFrom (text.reverse ++ before) after := by
  induction text generalizing before with
  | nil => rfl
  | cons c rest ih =>
    rw [List.cons_append, lowerFrom_cons, ih, lowerWithin, List.append_assoc, List.reverse_cons,
      List.append_assoc, List.singleton_append]

theorem lowerWithin_nil (before text : List Char) :
    lowerWithin before [] text = lowerFrom before text := by
  have happend := lowerFrom_append before text []
  rw [List.append_nil, lowerFrom, List.append_nil] at happend
  exact happend.symm

theorem length_lowerAt (before before' after after' : List Char) (c : Char) :
    (lowerAt before c after).length = (lowerAt before' c after').length := by
  unfold lowerAt
  split_ifs <;> rfl

/-- Only a capital sigma depends on its surroundings, through the end of a word. -/
theorem lowerAt_eq_iff {before' after' : List Char} {c : Char} :
    lowerAt before c after = lowerAt before' c after' ↔
      (c = 'Σ' → endsWord before after = endsWord before' after') := by
  unfold lowerAt
  by_cases hc : c = 'Σ'
  · cases endsWord before after <;> cases endsWord before' after' <;> simp [hc]
  · simp [hc]

/-- A text has the same lower case between two pairs of texts exactly if the same of its capital
sigmas end words there. -/
theorem lowerWithin_eq_iff {before' after' : List Char} :
    lowerWithin before after text = lowerWithin before' after' text ↔
      ∀ front back, text = front ++ 'Σ' :: back →
        endsWord (front.reverse ++ before) (back ++ after) =
          endsWord (front.reverse ++ before') (back ++ after') := by
  -- one letter after the other, each of which then stands before the rest
  induction text generalizing before before' with
  | nil => simp [lowerWithin]
  | cons c rest ih =>
    have hparts : lowerWithin before after (c :: rest) = lowerWithin before' after' (c :: rest) ↔
        lowerAt before c (rest ++ after) = lowerAt before' c (rest ++ after') ∧
          lowerWithin (c :: before) after rest = lowerWithin (c :: before') after' rest := by
      rw [lowerWithin, lowerWithin]
      constructor
      · intro h
        exact List.append_inj h (length_lowerAt ..)
      · rintro ⟨hfirst, hrest⟩
        rw [hfirst, hrest]
    rw [hparts, lowerAt_eq_iff, ih]
    constructor
    · rintro ⟨hfirst, hrest⟩ front back hsplit
      cases front with
      | nil =>
        obtain ⟨rfl, rfl⟩ := List.cons.inj hsplit
        exact hfirst rfl
      | cons d front =>
        obtain ⟨rfl, htail⟩ := List.cons.inj hsplit
        simpa using hrest front back htail
    · intro h
      refine ⟨?_, ?_⟩
      · rintro rfl
        exact h [] rest rfl
      · intro front back hsplit
        simpa using h (c :: front) back (congrArg (c :: ·) hsplit)

/-- A part whose sigmas are kept has its lower case inside that of the text. -/
theorem lower_infix_of_keepsSigmas (h : KeepsSigmas before text after) :
    lowerFrom [] text <:+: lowerFrom [] (before ++ text ++ after) := by
  have hpart : lowerWithin before.reverse after text = lowerFrom [] text := by
    rw [← lowerWithin_nil, lowerWithin_eq_iff]
    intro front back hsplit
    rw [List.append_nil, List.append_nil]
    exact h front back hsplit
  rw [List.append_assoc, lowerFrom_append [] before, lowerFrom_append _ text, List.append_nil,
    hpart, ← List.append_assoc]
  exact List.infix_append ..

end TopicAlerts.Text

namespace TopicAlerts.RuleDocument

/-- A searched text that stands in the text of the message letter by letter is found if the same of
its capital sigmas end words in both. -/
theorem contains_matches {message : Message} {arguments : Json.Members} {key : String}
    (htests : Tests key .contains) (before needle after : String)
    (hneedle : Argument arguments "value" (.str needle))
    (htext : Subject message arguments (.str (before ++ needle ++ after)))
    (hsigmas : Text.KeepsSigmas before.toList needle.toList after.toList) :
    Matches message key (.obj arguments) := by
  rw [htests.matches_of_subject_iff htext]
  refine ⟨needle, before ++ needle ++ after, hneedle, rfl, ?_⟩
  simp only [Text.lower, String.toList_ofList, String.toList_append]
  exact Text.lower_infix_of_keepsSigmas hsigmas

/-- A whole word with a sigma at its end, and a part of it without one. -/
theorem contains_matches_street :
    let message : Message := ⟨.obj [("place", .str "Η ΟΔΟΣ 5")]⟩
    let searching (needle : String) : Json.Members :=
      [("field", .str "place"), ("value", .str needle)]
    Matches message "contains" (.obj (searching "ΟΔΟΣ")) ∧
      Matches message "contains" (.obj (searching "ΔΟ")) := by
  intro message searching
  have hfield (needle : String) : Argument (searching needle) "field" (.str "place") :=
    .bare rfl rfl
  constructor
  · have htext : Subject message (searching "ΟΔΟΣ") (.str ("Η " ++ "ΟΔΟΣ" ++ " 5")) :=
      .field (hfield _) (resolve_eq_some_iff.mp rfl)
    have hsigmas : Text.KeepsSigmas "Η ".toList "ΟΔΟΣ".toList " 5".toList :=
      Text.keepsSigmas_of_bounds (by decide +kernel) (by decide +kernel) _
    exact contains_matches rfl "Η " "ΟΔΟΣ" " 5" (.bare rfl rfl) htext hsigmas
  · have htext : Subject message (searching "ΔΟ") (.str ("Η Ο" ++ "ΔΟ" ++ "Σ 5")) :=
      .field (hfield _) (resolve_eq_some_iff.mp rfl)
    have hsigmas : Text.KeepsSigmas "Η Ο".toList "ΔΟ".toList "Σ 5".toList :=
      Text.keepsSigmas_of_not_mem (by decide) _ _
    exact contains_matches rfl "Η Ο" "ΔΟ" "Σ 5" (.bare rfl rfl) htext hsigmas

/-- A capital sigma at the end of a word is missed by a search for a capital sigma. -/
theorem contains_misses_sigma :
    ¬∀ before needle after : String,
      Matches ⟨.obj [("f", .str (before ++ needle ++ after))]⟩ "contains"
        (.obj [("field", .str "f"), ("value", .str needle)]) := by
  intro hfound
  have hmissed : ¬Matches ⟨.obj [("f", .str ("a" ++ "Σ" ++ ""))]⟩ "contains"
      (.obj [("field", .str "f"), ("value", .str "Σ")]) := by
    have hfield : Argument [("field", .str "f"), ("value", .str "Σ")] "field" (.str "f") :=
      .bare rfl rfl
    have htests : Tests "contains" .contains := rfl
    rw [htests.matches_of_subject_iff (.field hfield (resolve_eq_some_iff.mp rfl))]
    rintro ⟨needle, text, hneedle, htext, hinfix⟩
    cases hneedle.eq (.bare rfl rfl)
    cases htext
    rw [← occursIn_iff] at hinfix
    revert hinfix
    decide +kernel
  exact hmissed (hfound "a" "Σ" "")

end TopicAlerts.RuleDocument
