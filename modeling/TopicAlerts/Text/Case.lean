import TopicAlerts.Text.CaseTable

/-!
# Upper and lower case

`lower` and `upper` are the full Unicode case mappings of texts, which do not depend on a language.
A capital sigma at the end of a word becomes a final sigma: it stands behind a cased letter and not
before one, other characters that the property Case_Ignorable names being passed over.
-/

namespace TopicAlerts.Text

/-- Whether a character is in upper, lower or title case. -/
def isCased (c : Char) : Bool := casedRanges.holds c

/-- Whether a character is passed over when the end of a word is looked for. -/
def isCaseIgnorable (c : Char) : Bool := caseIgnorableRanges.holds c

/-- Whether the first character that is not passed over is a cased one. -/
def startsCased (text : List Char) : Bool :=
  match text.dropWhile isCaseIgnorable with
  | c :: _ => isCased c
  | [] => false

/-- The lower case of a character by itself. -/
def lowerChar (c : Char) : List Char :=
  if c.toNat < 0x80 then [c.toLower]
  else if c = 'İ' then ['i', '\u0307']
  else [(lowerRuns.findSome? (·.map? c)).getD c]

/-- The lower case of a text, behind the characters `before` in reverse. -/
def lowerFrom (before : List Char) : List Char → List Char
  | [] => []
  | c :: rest =>
    let mapped :=
      if c = 'Σ' then [if startsCased before && !startsCased rest then 'ς' else 'σ']
      else lowerChar c
    mapped ++ lowerFrom (c :: before) rest

/-- The lower case of a text. -/
def lower (text : String) : String := String.ofList (lowerFrom [] text.toList)

/-- The upper case of a character. -/
def upperChar (c : Char) : List Char :=
  if c.toNat < 0x80 then [c.toUpper]
  else match upperExpansions.lookup c.toNat with
    | some codes => codes.map Char.ofNat
    | none => [(upperRuns.findSome? (·.map? c)).getD c]

/-- The upper case of a text. -/
def upper (text : String) : String := String.ofList (text.toList.flatMap upperChar)

/-- Whether two texts differ at most in the case of their ASCII letters. -/
def sameIgnoringAsciiCase (a b : String) : Bool :=
  a.toList.map Char.toLower == b.toList.map Char.toLower

/-- Whether a text occurs inside another. -/
def occursIn (part : List Char) : List Char → Bool
  | [] => part.isEmpty
  | c :: rest => part.isPrefixOf (c :: rest) || occursIn part rest

end TopicAlerts.Text
