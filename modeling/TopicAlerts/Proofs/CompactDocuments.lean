import TopicAlerts.Proofs.OrderedJson
import TopicAlerts.Proofs.ScalarTexts

/-!
# Documents of compact texts

The compact text of a value is always JSON, and its document is the value again, except that each
number stands as what its own text is read as (`ofText_compact`). Integers of 64 bits are read as
themselves; a double is read in two roundings and may come back as its neighbour.

So the text is parsed to the value exactly where the value fits what is read: all its numbers are
read as themselves, the keys of its objects increase, and it is not nested too deep
(`parse?_compact_iff`).
-/

namespace TopicAlerts

/-! ## Doubles -/

namespace Decimal

variable {d : Decimal} {digits whole fraction : List Char} {point : Int}

theorem head_trimmed (hd : d.digits ≠ 0) : d.trimmed.1.head? ≠ some '0' := by
  obtain ⟨-, hne, -⟩ := trimmed_spec hd
  unfold trimmed at hne ⊢
  dsimp only at hne ⊢
  generalize List.length _ - _ = kept at hne ⊢
  have hkept : kept ≠ 0 := by
    rintro rfl
    exact hne rfl
  rw [List.head?_take, if_neg hkept]
  exact head_toDigits hd

/-- Before the point a zero stands alone. -/
theorem positional_parts (hdigits : IsDigits digits) (hne : digits ≠ [])
    (hfirst : digits.head? ≠ some '0') (hparts : positional digits point = (whole, fraction)) :
    IsDigits whole ∧ whole ≠ [] ∧ (whole.head? = some '0' → whole.length = 1) ∧
      IsDigits fraction := by
  unfold positional at hparts
  split_ifs at hparts with hbehind
  · cases hparts
    exact ⟨isDigits_replicate 1, List.cons_ne_nil _ _, fun _ => rfl,
      (isDigits_replicate _).append hdigits⟩
  · cases hparts
    obtain ⟨c, others, rfl⟩ := List.exists_cons_of_ne_nil hne
    obtain ⟨place, hplace⟩ : ∃ n : Nat, point.toNat = n + 1 := ⟨point.toNat - 1, by omega⟩
    have hhead : (c :: others).take (place + 1) = c :: others.take place := rfl
    rw [hplace, hhead]
    refine ⟨IsDigits.append ?_ (isDigits_replicate _), List.cons_ne_nil _ _, fun hzero => ?_, ?_⟩
    · rw [← hhead]
      exact fun d hd => hdigits d (List.mem_of_mem_take hd)
    · exact absurd hzero hfirst
    · exact fun d hd => hdigits d (List.mem_of_mem_drop hd)

end Decimal

namespace Json

section Numbers

variable {digits rest : List Char}

theorem fraction?_of_point (hdigits : IsDigits digits) (hne : digits ≠ [])
    (hrest : Stops Char.isDigit rest) :
    fraction? (('.' :: digits ++ rest).map some) = some (some digits, rest.map some) := by
  obtain ⟨c, others, rfl⟩ := List.exists_cons_of_ne_nil hne
  rw [List.cons_append, List.map_cons, fraction?, leadingDigits_of_stops hdigits hrest]

/-- A power is an exponent with its sign. -/
theorem exponent?_power (power : Int) (hrest : Stops continuesNumber rest) :
    exponent? ((powerText power ++ rest).map some) =
      some (some ⟨decide (power < 0), Nat.toDigits 10 power.natAbs⟩, rest.map some) := by
  have hlead := leadingDigits_of_stops (isDigits_toDigits power.natAbs) (stops_isDigit hrest)
  rw [List.map_append] at hlead
  obtain ⟨c, others, hdigits⟩ := List.exists_cons_of_ne_nil
    (Nat.toDigits_ne_nil (b := 10) (n := power.natAbs))
  rw [hdigits, List.map_cons, List.cons_append] at hlead
  unfold powerText
  rw [hdigits]
  split_ifs with hsign
  · rw [decide_eq_true hsign]
    simp [exponent?, hlead]
  · rw [decide_eq_false hsign]
    simp [exponent?, hlead]

/-- The text is cut off as this numeral, whatever follows that is no part of a number. -/
def Numeral.IsReadFrom (numeral : Numeral) (text : List Char) : Prop :=
  ∀ rest, Stops continuesNumber rest →
    token? ((text ++ rest).map some) = some (.number numeral.value?, rest.map some)

variable {whole fraction : List Char}

/-- Digits with a fraction are a numeral. -/
theorem exists_numeral_of_point (negative : Bool) (hwhole : IsDigits whole) (hne : whole ≠ [])
    (hzero : whole.head? = some '0' → whole.length = 1) (hfraction : IsDigits fraction)
    (hfilled : fraction ≠ []) : ∃ numeral : Numeral,
      numeral.IsReadFrom (Reading.signed negative (whole ++ '.' :: fraction)) := by
  refine ⟨⟨negative, whole, some fraction, none⟩, fun rest hrest => ?_⟩
  have hread := numeral?_of_parts negative hwhole hne hzero (stops_cons rfl (fraction ++ rest))
    (fraction?_of_point hfraction hfilled (stops_isDigit hrest)) (exponent?_of_stops hrest)
  obtain ⟨c, others, rfl⟩ := List.exists_cons_of_ne_nil hne
  rw [List.cons_append, token?_signed _ (hwhole c List.mem_cons_self), ← List.cons_append,
    List.append_assoc]
  exact congrArg (Option.map _) hread

/-- A digit with an exponent, perhaps with a fraction between, is a numeral. -/
theorem exists_numeral_of_power (negative : Bool) {first : Char} (hfirst : first.isDigit = true)
    (hfraction : IsDigits fraction) (power : Int) : ∃ numeral : Numeral,
      numeral.IsReadFrom (Reading.signed negative
        (first :: (if fraction = [] then [] else '.' :: fraction) ++ powerText power)) := by
  have hdigit : IsDigits [first] := fun c hc => List.mem_singleton.mp hc ▸ hfirst
  have hshort : [first].head? = some '0' → [first].length = 1 := fun _ => rfl
  have hstop (rest : List Char) : Stops Char.isDigit (powerText power ++ rest) := by
    unfold powerText
    split_ifs <;> exact stops_cons rfl _
  by_cases hnone : fraction = []
  · refine ⟨⟨negative, [first], none, some ⟨decide (power < 0), Nat.toDigits 10 power.natAbs⟩⟩,
      fun rest hrest => ?_⟩
    have habsent : fraction? ((powerText power ++ rest).map some) =
        some (none, (powerText power ++ rest).map some) := by
      unfold powerText
      split_ifs <;> rfl
    have hread := numeral?_of_parts negative hdigit (List.cons_ne_nil _ _) hshort (hstop rest)
      habsent (exponent?_power power hrest)
    rw [if_pos hnone, List.cons_append, token?_signed _ hfirst]
    exact congrArg (Option.map _) hread
  · refine ⟨⟨negative, [first], some fraction,
      some ⟨decide (power < 0), Nat.toDigits 10 power.natAbs⟩⟩, fun rest hrest => ?_⟩
    have hread := numeral?_of_parts negative hdigit (List.cons_ne_nil _ _) hshort
      (stops_cons rfl (fraction ++ (powerText power ++ rest)))
      (fraction?_of_point hfraction hnone (hstop rest)) (exponent?_power power hrest)
    rw [if_neg hnone, List.cons_append, token?_signed _ hfirst, List.cons_append,
      List.append_assoc]
    exact congrArg (Option.map _) hread

/-- The text of a decimal is a numeral. -/
theorem exists_numeral_scientificText (d : Decimal) :
    ∃ numeral : Numeral, numeral.IsReadFrom d.scientificText.toList := by
  have hzero : IsDigits ['0'] := isDigits_replicate 1
  unfold Decimal.scientificText
  by_cases hnone : d.digits = 0
  · rw [if_pos hnone, String.toList_ofList, Decimal.signText_append]
    exact exists_numeral_of_point d.negative hzero (List.cons_ne_nil _ _) (fun _ => rfl) hzero
      (List.cons_ne_nil _ _)
  · obtain ⟨hdigits, hne, -⟩ := Decimal.trimmed_spec hnone
    have hfirst := Decimal.head_trimmed hnone
    rw [if_neg hnone]
    generalize d.trimmed = kept at *
    obtain ⟨digits, exponent⟩ := kept
    dsimp only at hdigits hne hfirst ⊢
    by_cases hplain : -5 < digits.length + exponent ∧ digits.length + exponent ≤ 16
    · obtain ⟨whole, fraction, hparts⟩ : ∃ whole fraction,
          Decimal.positional digits (digits.length + exponent) = (whole, fraction) := ⟨_, _, rfl⟩
      obtain ⟨hwhole, hsome, halone, hfraction⟩ :=
        Decimal.positional_parts hdigits hne hfirst hparts
      rw [if_pos hplain, String.toList_ofList, List.append_assoc, Decimal.signText_append, hparts]
      refine exists_numeral_of_point d.negative hwhole hsome halone ?_ ?_
      · split_ifs
        · exact hzero
        · exact hfraction
      · split_ifs with hempty
        · exact List.cons_ne_nil _ _
        · exact fun hnil => hempty (List.isEmpty_iff.mpr hnil)
    · obtain ⟨first, others, rfl⟩ := List.exists_cons_of_ne_nil hne
      rw [if_neg hplain, String.toList_ofList, List.append_assoc, List.append_assoc,
        Decimal.signText_append, Decimal.mantissa_eq]
      exact exists_numeral_of_power d.negative (hdigits first List.mem_cons_self)
        (fun c hc => hdigits c (List.mem_cons_of_mem _ hc)) _

/-- The text of a number is a numeral. -/
theorem Number.exists_numeral (n : Number) : ∃ numeral : Numeral,
    numeral.IsReadFrom n.text.toList := by
  cases n with
  | int n =>
    rw [Number.toList_text_int]
    refine ⟨⟨decide (n < 0), Nat.toDigits 10 n.natAbs, none, none⟩, fun rest hrest => ?_⟩
    have hread := numeral?_toDigits (decide (n < 0)) n.natAbs hrest
    have hdigits := isDigits_toDigits n.natAbs
    have hne : Nat.toDigits 10 n.natAbs ≠ [] := Nat.toDigits_ne_nil
    generalize Nat.toDigits 10 n.natAbs = digits at *
    obtain ⟨c, tail, rfl⟩ := List.exists_cons_of_ne_nil hne
    rw [token?_signed _ (hdigits c List.mem_cons_self), hread, Option.map_some]
  | float x => exact exists_numeral_scientificText (x.shortest .even)

/-- What the text of a number is read as. -/
def Number.reread (n : Number) : Option Number :=
  match token? (n.text.toList.map some) with
  | some (.number value, _) => value
  | _ => none

/-- The text of a number is one token, whatever follows that is no part of a number. -/
theorem token?_number (n : Number) (hrest : Stops continuesNumber rest) :
    token? ((n.text.toList ++ rest).map some) = some (.number n.reread, rest.map some) := by
  obtain ⟨numeral, hread⟩ := n.exists_numeral
  have halone := hread [] (stops_nil _)
  rw [List.append_nil] at halone
  unfold Number.reread
  rw [halone]
  exact hread rest hrest

/-- An integer of 64 bits is read as itself. -/
theorem Number.reread_int {n : Int} (hn : -2 ^ 63 ≤ n ∧ n < 2 ^ 64) :
    (Number.int n).reread = some (.int n) := by
  have hread := token?_int hn (stops_nil _)
  rw [List.append_nil] at hread
  unfold Number.reread
  rw [hread]

end Numbers

/-! ## Tokens -/

/-- What follows an item or a member: a comma and the tokens of the others, if there are any. -/
def separated {α : Type} : List α → List Token → List Token
  | [], _ => []
  | _ :: _, tokens => .comma :: tokens

mutual

/-- The tokens of the compact text of a value. -/
def tokensOf : Json → List Token
  | .null => [.null]
  | .bool b => [.bool b]
  | .num n => [.number n.reread]
  | .str s => [.string (some s)]
  | .arr items => .openArray :: tokensOfItems items ++ [.closeArray]
  | .obj members => .openObject :: tokensOfMembers members ++ [.closeObject]

/-- The tokens of items, with commas between them. -/
def tokensOfItems : List Json → List Token
  | [] => []
  | item :: rest => tokensOf item ++ separated rest (tokensOfItems rest)

/-- The tokens of members, with commas between them. -/
def tokensOfMembers : List (String × Json) → List Token
  | [] => []
  | (key, value) :: rest =>
    .string (some key) :: .colon :: tokensOf value ++ separated rest (tokensOfMembers rest)

end

/-- Whether the text gives these tokens first, then those of what follows. -/
def Gives (text : List Char) (tokens : List Token) (rest : List Char) : Prop :=
  ∀ fuel, tokensWithin (tokens.length + fuel) ((text ++ rest).map some) =
    tokens ++ tokensWithin fuel (rest.map some)

section Gives

variable {text other rest : List Char} {tokens others : List Token}

theorem Gives.append (hfirst : Gives text tokens (other ++ rest)) (hnext : Gives other others rest) :
    Gives (text ++ other) (tokens ++ others) rest := by
  intro fuel
  rw [List.length_append, Nat.add_assoc, List.append_assoc, hfirst, hnext, List.append_assoc]

theorem gives_nil : Gives [] [] rest := by
  intro fuel
  rw [List.length_nil, Nat.zero_add, List.nil_append, List.nil_append]

/-- A text that is cut off as a token gives the token. -/
theorem gives_token {c : Char} {token : Token} (hblank : isBlank (some c) = false)
    (htoken : token? ((c :: text ++ rest).map some) = some (token, rest.map some)) :
    Gives (c :: text) [token] rest := by
  intro fuel
  rw [List.length_singleton, Nat.add_comm, List.cons_append, List.map_cons]
  exact tokensWithin_cons hblank htoken

/-- A value of one token gives it. -/
theorem gives_value (value : Json) {token : Token}
    (htoken : token? ((compactChars value ++ rest).map some) = some (token, rest.map some)) :
    Gives (compactChars value) [token] rest := by
  obtain ⟨c, tail, hhead, hkind⟩ := head_compactChars value
  rw [hhead] at htoken ⊢
  exact gives_token (isBlank_of_kindOfHead? hkind) htoken

theorem gives_separated {α : Type} (xs : List α) (h : Gives text tokens rest) :
    Gives (following xs text) (separated xs tokens) rest := by
  cases xs with
  | nil => exact gives_nil
  | cons x xs =>
    have hcomma : Gives [','] [.comma] (text ++ rest) := gives_token rfl rfl
    exact hcomma.append h

end Gives

theorem stops_of_following {α : Type} {xs : List α} {text rest : List Char} {close : Char}
    (hclose : continuesNumber close = false) :
    Stops continuesNumber (following xs text ++ close :: rest) := by
  cases xs with
  | nil => exact stops_cons hclose rest
  | cons x xs => exact stops_cons rfl _

mutual

/-- The text of a value gives its tokens, whatever follows that is no part of a number. -/
theorem gives_compactChars (value : Json) {rest : List Char} (hrest : Stops continuesNumber rest) :
    Gives (compactChars value) (tokensOf value) rest := by
  match value with
  | .null => exact gives_value .null (Scalar.null.token? hrest)
  | .bool b => exact gives_value (.bool b) ((Scalar.bool b).token? hrest)
  | .num n => exact gives_value (.num n) (token?_number n hrest)
  | .str s => exact gives_value (.str s) ((Scalar.str s).token? hrest)
  | .arr items =>
    have hopen : Gives ['['] [.openArray] ((compactItems items ++ [']']) ++ rest) :=
      gives_token rfl rfl
    have hclose : Gives [']'] [.closeArray] rest := gives_token rfl rfl
    have hitems := (gives_compactItems items rfl).append hclose
    exact hopen.append hitems
  | .obj members =>
    have hopen : Gives ['{'] [.openObject] ((compactMembers members ++ ['}']) ++ rest) :=
      gives_token rfl rfl
    have hclose : Gives ['}'] [.closeObject] rest := gives_token rfl rfl
    have hmembers := (gives_compactMembers members rfl).append hclose
    exact hopen.append hmembers

theorem gives_compactItems (items : List Json) {rest : List Char} {close : Char}
    (hclose : continuesNumber close = false) :
    Gives (compactItems items) (tokensOfItems items) (close :: rest) := by
  match items with
  | [] => exact gives_nil
  | item :: others =>
    rw [compactItems_cons]
    refine (gives_compactChars item (stops_of_following hclose)).append ?_
    exact gives_separated others (gives_compactItems others hclose)

theorem gives_compactMembers (members : Members) {rest : List Char} {close : Char}
    (hclose : continuesNumber close = false) :
    Gives (compactMembers members) (tokensOfMembers members) (close :: rest) := by
  match members with
  | [] => exact gives_nil
  | (key, value) :: others =>
    have hkey (rest : List Char) : Gives (quoted key) [.string (some key)] (':' :: rest) :=
      gives_value (.str key) ((Scalar.str key).token? (stops_cons rfl rest))
    have hcolon (rest : List Char) : Gives [':'] [.colon] rest := gives_token rfl rfl
    rw [compactMembers_cons]
    show Gives _ ([.string (some key)] ++ ([.colon] ++
      (tokensOf value ++ separated others (tokensOfMembers others)))) _
    refine (hkey _).append ((hcolon _).append (Gives.append ?_ ?_))
    · exact gives_compactChars value (stops_of_following hclose)
    · exact gives_separated others (gives_compactMembers others hclose)

end

theorem length_separated_le {α : Type} (xs : List α) {tokens : List Token} {text : List Char}
    (h : tokens.length ≤ text.length) :
    (separated xs tokens).length ≤ (following xs text).length := by
  cases xs with
  | nil => exact Nat.le_refl 0
  | cons x xs => exact Nat.succ_le_succ h

mutual

/-- Every token takes a character. -/
theorem length_tokensOf_le (value : Json) :
    (tokensOf value).length ≤ (compactChars value).length := by
  match value with
  | .arr items =>
    have hitems := length_tokensOfItems_le items
    simp only [tokensOf, compactChars, List.length_append, List.length_cons, List.length_nil]
    omega
  | .obj members =>
    have hmembers := length_tokensOfMembers_le members
    simp only [tokensOf, compactChars, List.length_append, List.length_cons, List.length_nil]
    omega
  | .null | .bool _ | .num _ | .str _ =>
    obtain ⟨c, tail, hhead, -⟩ := head_compactChars _
    rw [hhead, List.length_cons]
    exact Nat.succ_le_succ (Nat.zero_le _)

theorem length_tokensOfItems_le (items : List Json) :
    (tokensOfItems items).length ≤ (compactItems items).length := by
  match items with
  | [] => exact Nat.le_refl 0
  | item :: rest =>
    have hitem := length_tokensOf_le item
    have hrest := length_separated_le rest (length_tokensOfItems_le rest)
    rw [compactItems_cons, tokensOfItems, List.length_append, List.length_append]
    omega

theorem length_tokensOfMembers_le (members : Members) :
    (tokensOfMembers members).length ≤ (compactMembers members).length := by
  match members with
  | [] => exact Nat.le_refl 0
  | (key, value) :: rest =>
    have hvalue := length_tokensOf_le value
    have hrest := length_separated_le rest (length_tokensOfMembers_le rest)
    rw [compactMembers_cons, tokensOfMembers]
    simp only [quoted, List.length_append, List.length_cons, List.length_nil]
    omega

end

/-- The tokens of the compact text of a value. -/
theorem tokens_compactChars (value : Json) :
    tokens ((compactChars value).map some) = tokensOf value := by
  obtain ⟨spare, hspare⟩ := Nat.exists_eq_add_of_le (length_tokensOf_le value)
  have hgives := gives_compactChars value (stops_nil _) spare
  rw [List.append_nil, List.map_nil, tokensWithin_nil, List.append_nil] at hgives
  rw [tokens, List.length_map, hspare, hgives]

/-! ## Documents -/

mutual

/-- The document of the compact text of a value. -/
def document : Json → Document
  | .null => .null
  | .bool b => .bool b
  | .num n => .number n.reread
  | .str s => .string (some s)
  | .arr items => .array (documents items) true
  | .obj members => .object (memberDocuments members) true

/-- The documents of items. -/
def documents : List Json → List Document
  | [] => []
  | item :: rest => document item :: documents rest

/-- The documents of members. -/
def memberDocuments : List (String × Json) → List (Option String × Document)
  | [] => []
  | (key, value) :: rest => (some key, document value) :: memberDocuments rest

end

section Build

variable {frames : List Frame}

theorem build_firstItem {items : List Json} (hne : items ≠ []) (rest : List Token) :
    build frames .firstItem (tokensOfItems items ++ rest) =
      build (.items [] :: frames) .value (tokensOfItems items ++ rest) := by
  obtain ⟨item, others, rfl⟩ := List.exists_cons_of_ne_nil hne
  rw [tokensOfItems, List.append_assoc]
  cases item <;> cases frames <;> simp [tokensOf, build, advance, advance.startValue]

theorem build_firstKey {members : Members} (hne : members ≠ []) (rest : List Token) :
    build frames .firstKey (tokensOfMembers members ++ rest) =
      build frames (.key []) (tokensOfMembers members ++ rest) := by
  obtain ⟨⟨key, value⟩, others, rfl⟩ := List.exists_cons_of_ne_nil hne
  cases frames <;> rfl

theorem separated_of_ne_nil {α : Type} {xs : List α} (hne : xs ≠ []) (tokens : List Token) :
    separated xs tokens = .comma :: tokens := by
  obtain ⟨x, xs, rfl⟩ := List.exists_cons_of_ne_nil hne
  rfl

mutual

/-- The tokens of a value are the whole of it. -/
theorem build_tokensOf (frames : List Frame) (value : Json) (rest : List Token) :
    build frames .value (tokensOf value ++ rest) =
      build frames (.separator (document value)) rest := by
  match value with
  | .null | .bool _ | .num _ | .str _ => cases frames <;> rfl
  | .arr items =>
    have hstart : build frames .value (tokensOf (.arr items) ++ rest) =
        build frames .firstItem (tokensOfItems items ++ .closeArray :: rest) := by
      cases frames <;> simp [tokensOf, build, advance, advance.startValue]
    rw [hstart]
    by_cases hnone : items = []
    · subst hnone
      cases frames <;> rfl
    · rw [build_firstItem hnone, build_tokensOfItems [] frames items hnone]
      rfl
  | .obj members =>
    have hstart : build frames .value (tokensOf (.obj members) ++ rest) =
        build frames .firstKey (tokensOfMembers members ++ .closeObject :: rest) := by
      cases frames <;> simp [tokensOf, build, advance, advance.startValue]
    rw [hstart]
    by_cases hnone : members = []
    · subst hnone
      cases frames <;> rfl
    · rw [build_firstKey hnone, build_tokensOfMembers [] frames members hnone]
      rfl

theorem build_tokensOfItems (done : List Document) (frames : List Frame) (items : List Json)
    (hne : items ≠ []) (rest : List Token) :
    build (.items done :: frames) .value (tokensOfItems items ++ .closeArray :: rest) =
      build frames (.separator (.array (done.reverse ++ documents items) true)) rest := by
  match items with
  | [] => exact absurd rfl hne
  | item :: others =>
    rw [tokensOfItems, List.append_assoc, build_tokensOf (.items done :: frames) item]
    by_cases hlast : others = []
    · subst hlast
      simp [separated, build, advance, documents]
    · have hcomma (tokens : List Token) :
          build (.items done :: frames) (.separator (document item)) (.comma :: tokens) =
            build (.items (document item :: done) :: frames) .value tokens := rfl
      rw [separated_of_ne_nil hlast, List.cons_append, hcomma,
        build_tokensOfItems (document item :: done) frames others hlast]
      simp [documents]

theorem build_tokensOfMembers (done : List (Option String × Document)) (frames : List Frame)
    (members : Members) (hne : members ≠ []) (rest : List Token) :
    build frames (.key done) (tokensOfMembers members ++ .closeObject :: rest) =
      build frames (.separator (.object (done.reverse ++ memberDocuments members) true)) rest := by
  match members with
  | [] => exact absurd rfl hne
  | (key, value) :: others =>
    have hkey (tokens : List Token) :
        build frames (.key done) (.string (some key) :: .colon :: tokens) =
          build (.members done (some key) :: frames) .value tokens := by
      cases frames <;> rfl
    rw [tokensOfMembers, List.cons_append, List.cons_append, List.cons_append, List.cons_append,
      hkey, List.append_assoc, build_tokensOf (.members done (some key) :: frames) value]
    by_cases hlast : others = []
    · subst hlast
      simp [separated, build, advance, memberDocuments]
    · have hcomma (tokens : List Token) :
          build (.members done (some key) :: frames) (.separator (document value))
              (.comma :: tokens) =
            build frames (.key ((some key, document value) :: done)) tokens := rfl
      rw [separated_of_ne_nil hlast, List.cons_append, hcomma,
        build_tokensOfMembers ((some key, document value) :: done) frames others hlast]
      simp [memberDocuments]

end

end Build

/-- The document of the compact text of a value. -/
theorem ofText_compact (value : Json) :
    Document.ofText ((compact value).toList.map some) = (document value, false) := by
  rw [Document.ofText, compact, String.toList_ofList, tokens_compactChars, Document.ofTokens,
    ← List.append_nil (tokensOf value), build_tokensOf]
  rfl

/-- A reader of the compact text reads its document. -/
theorem readString_compact {α : Type} (read : Reader α) (value : Json) :
    readString read (compact value) = read depthLimit (document value) := by
  rw [readString, readUnits, ofText_compact]
  dsimp only
  cases read depthLimit (document value) <;> rfl

/-! ## Values that are read back -/

/-- The value is read back from its document at this depth: its numbers are read as themselves, the
keys in its objects increase, and it has at most so many containers inside each other. -/
inductive Fits : Nat → Json → Prop
  | null {depth : Nat} : Fits depth .null
  | bool {depth : Nat} (b : Bool) : Fits depth (.bool b)
  | num {depth : Nat} {n : Number} (same : n.reread = some n) : Fits depth (.num n)
  | str {depth : Nat} (s : String) : Fits depth (.str s)
  | arr {depth : Nat} {items : List Json} (all : ∀ item ∈ items, Fits depth item) :
      Fits (depth + 1) (.arr items)
  | obj {depth : Nat} {members : Members} (keys : (members.map (·.1)).Pairwise (· < ·))
      (all : ∀ member ∈ members, Fits depth member.2) : Fits (depth + 1) (.obj members)

/-- A scalar fits everywhere. -/
theorem Scalar.fits {value : Json} {token : Token} {document : Document}
    (h : Scalar value token document) (depth : Nat) : Fits depth value := by
  cases h with
  | null => exact .null
  | bool b => exact .bool b
  | int hn => exact .num (Number.reread_int hn)
  | str s => exact .str s

section Reading

variable {depth : Nat} {key : String} {value : Json} {items : List Json} {done members : Members}

theorem ensure_depth {α : Type} {next : PUnit → Result α} {a : α} :
    (ensure (depth != 0) >>= next) = .ok a ↔ ∃ inner, depth = inner + 1 ∧ next ⟨⟩ = .ok a := by
  cases depth with
  | zero => simp [ensure, bind, Except.bind]
  | succ inner => simp [ensure, bind, Except.bind]

theorem readValue_array_iff {documents : List Document} :
    readValue depth (.array documents true) = .ok (.arr items) ↔
      ∃ inner, depth = inner + 1 ∧ readItems inner documents = .ok items := by
  rw [readValue, ensure_depth]
  refine exists_congr fun inner => and_congr_right fun hdepth => ?_
  subst hdepth
  show (readItems inner documents >>= fun items => Except.ok (Json.arr items)) = _ ↔ _
  simp [bind_eq_ok]

theorem readValue_object_iff {documents : List (Option String × Document)} :
    readValue depth (.object documents true) = .ok (.obj members) ↔
      ∃ inner, depth = inner + 1 ∧ readMembers inner documents [] = .ok members := by
  rw [readValue, ensure_depth]
  refine exists_congr fun inner => and_congr_right fun hdepth => ?_
  subst hdepth
  show (readMembers inner documents [] >>= fun members => Except.ok (Json.obj members)) = _ ↔ _
  simp [bind_eq_ok]

theorem readItems_eq_ok_iff : readItems depth (documents items) = .ok items ↔
    ∀ item ∈ items, readValue depth (document item) = .ok item := by
  induction items with
  | nil => simp [documents, readItems]
  | cons item rest ih =>
    rw [documents, readItems, List.forall_mem_cons, ← ih]
    show ((readValue depth (document item)) >>= fun value =>
      (readItems depth (documents rest)) >>= fun values => Except.ok (value :: values)) = _ ↔ _
    simp [bind_eq_ok]

/-- A member with a greater key than the others is put behind them. -/
theorem set_eq_append (value : Json) (hkey : ∀ member ∈ done, member.1 < key) :
    set key value done = done ++ [(key, value)] := by
  induction done with
  | nil => rfl
  | cons first rest ih =>
    obtain ⟨k, v⟩ := first
    obtain ⟨hfirst, hrest⟩ := List.forall_mem_cons.mp hkey
    rw [set, if_neg (String.lt_asymm hfirst), if_neg (Ne.symm (String.ne_of_lt hfirst)), ih hrest]
    rfl

theorem lt_of_pairwise_append
    (hkeys : ((done ++ (key, value) :: members).map (·.1)).Pairwise (· < ·)) :
    ∀ member ∈ done, member.1 < key := by
  intro member hmember
  rw [List.map_append, List.map_cons, List.pairwise_append] at hkeys
  exact hkeys.2.2 member.1 (List.mem_map_of_mem hmember) key List.mem_cons_self

/-- Members with increasing keys are read in their order. -/
theorem readMembers_eq_ok_iff (hkeys : ((done ++ members).map (·.1)).Pairwise (· < ·))
    {read : Members} : readMembers depth (memberDocuments members) done = .ok read ↔
      ∃ values, read = done ++ values ∧ List.Forall₂ (fun member value => member.1 = value.1 ∧
        readValue depth (document member.2) = .ok value.2) members values := by
  induction members generalizing done with
  | nil => simp [memberDocuments, readMembers, eq_comm]
  | cons first rest ih =>
    obtain ⟨key, value⟩ := first
    have hset (other : Json) := set_eq_append other (lt_of_pairwise_append hkeys)
    have hlater (other : Json) :
        (((done ++ [(key, other)]) ++ rest).map (·.1)).Pairwise (· < ·) := by
      simpa using hkeys
    rw [memberDocuments, readMembers, bind_eq_ok]
    simp only [hset, ih (hlater _), List.forall₂_cons_left_iff]
    constructor
    · rintro ⟨other, hread, values, rfl, hvalues⟩
      exact ⟨(key, other) :: values, by simp, (key, other), values, ⟨rfl, hread⟩, hvalues, rfl⟩
    · rintro ⟨_, rfl, ⟨_, other⟩, values, ⟨rfl, hread⟩, hvalues, rfl⟩
      exact ⟨other, hread, values, by simp, hvalues⟩

theorem readMembers_self_iff (hkeys : (members.map (·.1)).Pairwise (· < ·)) :
    readMembers depth (memberDocuments members) [] = .ok members ↔
      ∀ member ∈ members, readValue depth (document member.2) = .ok member.2 := by
  rw [readMembers_eq_ok_iff (by simpa using hkeys)]
  simp [List.forall₂_same]

/-- A value is read back from its document exactly if it fits. -/
theorem readValue_document_iff (value : Json) (depth : Nat) :
    readValue depth (document value) = .ok value ↔ Fits depth value := by
  match value with
  | .null => exact ⟨fun _ => .null, fun _ => by simp [document, readValue]⟩
  | .bool b => exact ⟨fun _ => .bool b, fun _ => by simp [document, readValue]⟩
  | .str s => exact ⟨fun _ => .str s, fun _ => by simp [document, readValue]⟩
  | .num n =>
    constructor
    · intro hread
      cases hn : n.reread with
      | none => simp [document, hn, readValue] at hread
      | some other =>
        simp only [document, hn, readValue, Except.ok.injEq, Json.num.injEq] at hread
        exact .num (hread ▸ hn)
    · intro hfits
      cases hfits with
      | num same => rw [document, same, readValue]
  | .arr items =>
    rw [document, readValue_array_iff]
    constructor
    · rintro ⟨inner, rfl, hread⟩
      refine .arr fun item hitem => ?_
      exact (readValue_document_iff item inner).mp (readItems_eq_ok_iff.mp hread item hitem)
    · intro hfits
      cases hfits with
      | @arr inner _ all =>
        refine ⟨inner, rfl, readItems_eq_ok_iff.mpr fun item hitem => ?_⟩
        exact (readValue_document_iff item inner).mpr (all item hitem)
  | .obj members =>
    constructor
    · intro hread
      cases isOrdered_of_readValue hread with
      | obj keys _ =>
        rw [document, readValue_object_iff] at hread
        obtain ⟨inner, rfl, hread⟩ := hread
        refine .obj keys fun member hmember => ?_
        exact (readValue_document_iff member.2 inner).mp
          ((readMembers_self_iff keys).mp hread member hmember)
    · intro hfits
      cases hfits with
      | @obj inner _ keys all =>
        rw [document, readValue_object_iff]
        refine ⟨inner, rfl, (readMembers_self_iff keys).mpr fun member hmember => ?_⟩
        exact (readValue_document_iff member.2 inner).mpr (all member hmember)
termination_by value
decreasing_by
  · have hsize := List.sizeOf_lt_of_mem hitem
    rw [arr.sizeOf_spec]
    omega
  · have hsize := List.sizeOf_lt_of_mem hitem
    rw [arr.sizeOf_spec]
    omega
  · exact sizeOf_snd_lt hmember
  · exact sizeOf_snd_lt hmember

end Reading

/-- The compact text of a value is parsed to the value exactly if it fits. -/
theorem parse?_compact_iff (value : Json) :
    parse? (compact value) = some value ↔ Fits depthLimit value := by
  rw [parse?, readString_compact, ← readValue_document_iff]
  cases readValue depthLimit (document value) with
  | error fault => simp [Except.toOption]
  | ok other => simp [Except.toOption]

end Json

end TopicAlerts
