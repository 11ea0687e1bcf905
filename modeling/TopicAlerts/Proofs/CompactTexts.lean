import TopicAlerts.Expression
import TopicAlerts.Json.Token
import TopicAlerts.Proofs.NumberTexts

/-!
# Compact texts of values

The compact text of a value can be followed by anything that does not go on with a number, and the
value is still determined by it (`eq_of_compactChars_append`): the first character tells the kind,
a string ends with its quotation mark (`token?_quoted`), and an array or object ends where no comma
follows. So no two values have the same text (`compact_injective`).
-/

namespace TopicAlerts.Json

/-! ## Strings -/

section Strings

variable {rest tail : List TextUnit} {pieces : List Piece}

theorem pieces?_letter {letter c : Char} (hletter : letter ≠ 'u') (hc : escaped? letter = some c)
    (h : pieces? rest = some (pieces, tail)) :
    pieces? (some '\\' :: some letter :: rest) = some (.char c :: pieces, tail) := by
  rw [pieces?]
  · rw [hc, h]
    rfl
  · intro _ _ _ _ _ _ hu
    exact hletter hu

theorem pieces?_plain {c : Char} (hcontrol : ¬c.toNat < 0x20) (hquote : c ≠ '"')
    (hbackslash : c ≠ '\\') (h : pieces? rest = some (pieces, tail)) :
    pieces? (some c :: rest) = some (.char c :: pieces, tail) := by
  rw [pieces?, if_neg (not_or.mpr ⟨hcontrol, hbackslash⟩), h]
  · rfl
  · exact hquote
  · intro _ _ _ _ _ _ hc
    exact hbackslash hc
  · intro _ _ _ hc
    exact hbackslash hc

/-- The code of a control character is read back from its two last hexadecimal digits. -/
theorem codeUnit?_hexDigit : ∀ n < 0x20,
    codeUnit? [some '0', some '0', some (hexDigit (n / 16)), some (hexDigit n)] = some n := by
  decide

theorem pieces?_control {n : Nat} (hn : n < 0x20) (h : pieces? rest = some (pieces, tail)) :
    pieces? (some '\\' :: some 'u' :: some '0' :: some '0' :: some (hexDigit (n / 16)) ::
      some (hexDigit n) :: rest) = some (.codeUnit n :: pieces, tail) := by
  rw [pieces?, codeUnit?_hexDigit n hn, h]
  rfl

theorem characters?_control {c : Char} (hc : c.toNat < 0x20) (pieces : List Piece) :
    characters? (.codeUnit c.toNat :: pieces) = (characters? pieces).map (c :: ·) := by
  have htrailing : isTrailingSurrogate c.toNat = false := by
    simp [isTrailingSurrogate]
    omega
  have hleading : isLeadingSurrogate c.toNat = false := by
    simp [isLeadingSurrogate]
    omega
  rw [characters?.eq_def]
  simp [htrailing, hleading, Char.ofNat_toNat]

/-- An escaped character is one piece of a string, which stands for the character. -/
theorem pieces?_escapeChar (c : Char) (h : pieces? rest = some (pieces, tail)) : ∃ piece,
    pieces? ((escapeChar c).map some ++ rest) = some (piece :: pieces, tail) ∧
      characters? (piece :: pieces) = (characters? pieces).map (c :: ·) := by
  unfold escapeChar
  split_ifs with hquote hbackslash hline hreturn htab hback hfeed hcontrol
  · exact ⟨.char c, by rw [hquote]; exact pieces?_letter (by decide) rfl h, rfl⟩
  · exact ⟨.char c, by rw [hbackslash]; exact pieces?_letter (by decide) rfl h, rfl⟩
  · exact ⟨.char c, by rw [hline]; exact pieces?_letter (by decide) rfl h, rfl⟩
  · exact ⟨.char c, by rw [hreturn]; exact pieces?_letter (by decide) rfl h, rfl⟩
  · exact ⟨.char c, by rw [htab]; exact pieces?_letter (by decide) rfl h, rfl⟩
  · exact ⟨.char c, by rw [hback]; exact pieces?_letter (by decide) rfl h, rfl⟩
  · exact ⟨.char c, by rw [hfeed]; exact pieces?_letter (by decide) rfl h, rfl⟩
  · exact ⟨.codeUnit c.toNat, pieces?_control hcontrol h, characters?_control hcontrol pieces⟩
  · exact ⟨.char c, pieces?_plain hcontrol hquote hbackslash h, rfl⟩

theorem pieces?_escaped (text : List Char) (rest : List TextUnit) : ∃ pieces,
    pieces? ((text.flatMap escapeChar).map some ++ some '"' :: rest) = some (pieces, rest) ∧
      characters? pieces = some text := by
  induction text with
  | nil => exact ⟨[], by simp [pieces?], rfl⟩
  | cons c text ih =>
    obtain ⟨pieces, hpieces, htext⟩ := ih
    obtain ⟨piece, hpiece, hc⟩ := pieces?_escapeChar c hpieces
    refine ⟨piece :: pieces, ?_, ?_⟩
    · rwa [List.flatMap_cons, List.map_append, List.append_assoc]
    · rw [hc, htext]
      rfl

/-- A string between quotation marks is read back, whatever follows. -/
theorem token?_quoted (s : String) (rest : List TextUnit) :
    token? ((quoted s).map some ++ rest) = some (.string (some s), rest) := by
  obtain ⟨pieces, hpieces, htext⟩ := pieces?_escaped s.toList rest
  have hunits : (quoted s).map some ++ rest =
      some '"' :: ((s.toList.flatMap escapeChar).map some ++ some '"' :: rest) := by
    simp [quoted]
  rw [hunits]
  refine (congrArg (Option.map _) hpieces).trans ?_
  rw [Option.map_some]
  dsimp only
  rw [htext, Option.map_some, String.ofList_toList]

end Strings

theorem eq_of_quoted_append {s t : String} {rest other : List Char}
    (h : quoted s ++ rest = quoted t ++ other) : s = t ∧ rest = other := by
  have hs := token?_quoted s (rest.map some)
  have ht := token?_quoted t (other.map some)
  rw [← List.map_append, h, List.map_append, ht] at hs
  simp only [Option.some.injEq, Prod.mk.injEq, Token.string.injEq] at hs
  have hrest := (List.map_inj_right fun _ _ => Option.some.inj).mp hs.2
  exact ⟨hs.1.symm, hrest.symm⟩

/-! ## Kinds of values -/

/-- The kind of the values whose texts start with this character. -/
def kindOfHead? (c : Char) : Option Kind :=
  if isNumberChar c then some .number
  else if c = 'n' then some .null
  else if c = 't' ∨ c = 'f' then some .boolean
  else if c = '"' then some .string
  else if c = '[' then some .array
  else if c = '{' then some .object
  else none

/-- The first character of a text tells the kind of the value. -/
theorem head_compactChars (value : Json) :
    ∃ c rest, compactChars value = c :: rest ∧ kindOfHead? c = some value.kind := by
  cases value with
  | null => exact ⟨_, _, rfl, rfl⟩
  | bool b => cases b <;> exact ⟨_, _, rfl, rfl⟩
  | num n =>
    obtain ⟨c, rest, htext⟩ := List.exists_cons_of_ne_nil n.text_ne_nil
    have hmem : c ∈ n.text.toList := by
      rw [htext]
      exact List.mem_cons_self
    have hc : isNumberChar c = true := n.isNumberChar_text c hmem
    exact ⟨c, rest, htext, if_pos hc⟩
  | str s => exact ⟨_, _, rfl, rfl⟩
  | arr items => exact ⟨_, _, rfl, rfl⟩
  | obj members => exact ⟨_, _, rfl, rfl⟩

theorem kind_eq_of_append {a b : Json} {rest other : List Char}
    (h : compactChars a ++ rest = compactChars b ++ other) : a.kind = b.kind := by
  obtain ⟨c, first, ha, hc⟩ := head_compactChars a
  obtain ⟨d, second, hb, hd⟩ := head_compactChars b
  rw [ha, hb] at h
  obtain ⟨rfl, -⟩ := List.cons.inj h
  rw [hc] at hd
  exact Option.some.inj hd

/-! ## Arrays and objects -/

variable {α : Type}

/-- What follows an item or a member: a comma and the text of the others, if there are any. -/
def following : List α → List Char → List Char
  | [], _ => []
  | _ :: _, text => ',' :: text

theorem compactItems_cons (item : Json) (rest : List Json) :
    compactItems (item :: rest) = compactChars item ++ following rest (compactItems rest) := by
  cases rest with
  | nil => simp [compactItems, following]
  | cons next rest => simp [compactItems, following]

theorem compactMembers_cons (key : String) (value : Json) (rest : Members) :
    compactMembers ((key, value) :: rest) =
      quoted key ++ ':' :: (compactChars value ++ following rest (compactMembers rest)) := by
  cases rest with
  | nil => simp [compactMembers, following]
  | cons next rest => simp [compactMembers, following]

/-- A list that goes on is not one that ends. -/
theorem following_append {xs ys : List α} {text text' rest other : List Char} {close : Char}
    (hclose : close ≠ ',')
    (h : following xs text ++ close :: rest = following ys text' ++ close :: other) :
    (xs = [] ∧ ys = [] ∧ rest = other) ∨ text ++ close :: rest = text' ++ close :: other := by
  cases xs with
  | nil =>
    cases ys with
    | nil => exact .inl ⟨rfl, rfl, (List.cons.inj h).2⟩
    | cons y ys => exact absurd (List.cons.inj h).1 hclose
  | cons x xs =>
    cases ys with
    | nil => exact absurd (List.cons.inj h).1.symm hclose
    | cons y ys => exact .inr (List.cons.inj h).2

theorem stops_following {xs : List α} {text rest : List Char} {close : Char}
    (hclose : isNumberChar close = false) :
    Stops isNumberChar (following xs text ++ close :: rest) := by
  cases xs with
  | nil => exact stops_cons hclose rest
  | cons x xs => exact stops_cons rfl _

/-- No value starts with the end of a list. -/
theorem compactChars_ne_close {value : Json} {text rest : List Char} {close : Char}
    (hclose : kindOfHead? close = none) : compactChars value ++ text ≠ close :: rest := by
  intro h
  obtain ⟨c, first, hvalue, hc⟩ := head_compactChars value
  rw [hvalue] at h
  obtain ⟨rfl, -⟩ := List.cons.inj h
  rw [hclose] at hc
  cases hc

mutual

/-- The text of a value determines it and what follows, unless that goes on with a number. -/
theorem eq_of_compactChars_append (a b : Json) {rest other : List Char}
    (hrest : Stops isNumberChar rest) (hother : Stops isNumberChar other)
    (h : compactChars a ++ rest = compactChars b ++ other) : a = b ∧ rest = other := by
  have hkind := kind_eq_of_append h
  match a, b with
  | .null, .null => exact ⟨rfl, List.append_cancel_left h⟩
  | .bool x, .bool y =>
    cases x <;> cases y
    · exact ⟨rfl, List.append_cancel_left h⟩
    · exact absurd (List.cons.inj h).1 (by decide)
    · exact absurd (List.cons.inj h).1 (by decide)
    · exact ⟨rfl, List.append_cancel_left h⟩
  | .num m, .num n =>
    obtain ⟨htext, heq⟩ := eq_of_append_stops m.isNumberChar_text n.isNumberChar_text hrest hother h
    rw [Number.text_injective (String.toList_inj.mp htext)]
    exact ⟨rfl, heq⟩
  | .str s, .str t =>
    obtain ⟨rfl, heq⟩ := eq_of_quoted_append h
    exact ⟨rfl, heq⟩
  | .arr xs, .arr ys =>
    simp only [compactChars, List.cons_append, List.append_assoc, List.nil_append] at h
    obtain ⟨rfl, heq⟩ := eq_of_compactItems_append xs ys (List.cons.inj h).2
    exact ⟨rfl, heq⟩
  | .obj xs, .obj ys =>
    simp only [compactChars, List.cons_append, List.append_assoc, List.nil_append] at h
    obtain ⟨rfl, heq⟩ := eq_of_compactMembers_append xs ys (List.cons.inj h).2
    exact ⟨rfl, heq⟩

theorem eq_of_compactItems_append (xs ys : List Json) {rest other : List Char}
    (h : compactItems xs ++ ']' :: rest = compactItems ys ++ ']' :: other) :
    xs = ys ∧ rest = other := by
  match xs, ys with
  | [], [] => exact ⟨rfl, (List.cons.inj h).2⟩
  | [], y :: ys =>
    rw [compactItems_cons, List.append_assoc] at h
    exact absurd h.symm (compactChars_ne_close rfl)
  | x :: xs, [] =>
    rw [compactItems_cons, List.append_assoc] at h
    exact absurd h (compactChars_ne_close rfl)
  | x :: xs, y :: ys =>
    rw [compactItems_cons, compactItems_cons, List.append_assoc, List.append_assoc] at h
    obtain ⟨rfl, hlater⟩ :=
      eq_of_compactChars_append x y (stops_following rfl) (stops_following rfl) h
    rcases following_append (by decide) hlater with ⟨rfl, rfl, heq⟩ | hitems
    · exact ⟨rfl, heq⟩
    · obtain ⟨rfl, heq⟩ := eq_of_compactItems_append xs ys hitems
      exact ⟨rfl, heq⟩

theorem eq_of_compactMembers_append (xs ys : Members) {rest other : List Char}
    (h : compactMembers xs ++ '}' :: rest = compactMembers ys ++ '}' :: other) :
    xs = ys ∧ rest = other := by
  match xs, ys with
  | [], [] => exact ⟨rfl, (List.cons.inj h).2⟩
  | [], (key, value) :: ys =>
    rw [compactMembers_cons, List.append_assoc] at h
    exact absurd (List.cons.inj h).1 (by decide)
  | (key, value) :: xs, [] =>
    rw [compactMembers_cons, List.append_assoc] at h
    exact absurd (List.cons.inj h).1 (by decide)
  | (j, x) :: xs, (k, y) :: ys =>
    rw [compactMembers_cons, compactMembers_cons, List.append_assoc, List.append_assoc] at h
    obtain ⟨rfl, hvalue⟩ := eq_of_quoted_append h
    rw [List.cons_append, List.cons_append, List.append_assoc, List.append_assoc] at hvalue
    obtain ⟨rfl, hlater⟩ := eq_of_compactChars_append x y (stops_following rfl)
      (stops_following rfl) (List.cons.inj hvalue).2
    rcases following_append (by decide) hlater with ⟨rfl, rfl, heq⟩ | hmembers
    · exact ⟨rfl, heq⟩
    · obtain ⟨rfl, heq⟩ := eq_of_compactMembers_append xs ys hmembers
      exact ⟨rfl, heq⟩

end

/-- No two values have the same compact text. -/
theorem compact_injective : Function.Injective compact := by
  intro a b h
  have hchars : compactChars a ++ [] = compactChars b ++ [] := by
    rw [List.append_nil, List.append_nil]
    exact String.ofList_injective h
  exact (eq_of_compactChars_append a b (stops_nil _) (stops_nil _) hchars).1

end TopicAlerts.Json
