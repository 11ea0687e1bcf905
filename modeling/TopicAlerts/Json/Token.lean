import TopicAlerts.Json.Numeral

/-!
# Tokens of JSON texts

`tokens` cuts a text into brackets, commas, colons, literals, numbers and strings. A text is a list
of units: a unit is a character, or `none` for bytes that are no character. Where the text stops
being JSON the list of tokens ends with `Token.stray`.

A number that is out of range, and a string with an unpaired surrogate or with bytes that are no
character, are tokens without a value: such a text may be passed over, but not read.
-/

namespace TopicAlerts.Json

/-- A unit of a text: a character, or bytes that are no character. -/
abbrev TextUnit := Option Char

/-- A token of a JSON text. -/
inductive Token
  /-- The start of an array. -/
  | openArray
  /-- The end of an array. -/
  | closeArray
  /-- The start of an object. -/
  | openObject
  /-- The end of an object. -/
  | closeObject
  /-- A comma. -/
  | comma
  /-- A colon. -/
  | colon
  /-- The literal `null`. -/
  | null
  /-- The literal `true` or `false`. -/
  | bool (b : Bool)
  /-- A number, if it is in range. -/
  | number (value : Option Number)
  /-- A string, if it is text. -/
  | string (value : Option String)
  /-- Here the text stops being JSON. -/
  | stray

/-- What a piece of a string stands for. -/
inductive Piece
  /-- A character, plain or escaped by one letter. -/
  | char (c : Char)
  /-- A UTF-16 code unit, escaped by four hexadecimal digits. -/
  | codeUnit (n : Nat)
  /-- Bytes that are no character. -/
  | malformed

/-- The value of a hexadecimal digit. -/
def hexValue? (c : Char) : Option Nat :=
  if '0' ≤ c ∧ c ≤ '9' then some (c.toNat - '0'.toNat)
  else if 'a' ≤ c ∧ c ≤ 'f' then some (c.toNat - 'a'.toNat + 10)
  else if 'A' ≤ c ∧ c ≤ 'F' then some (c.toNat - 'A'.toNat + 10)
  else none

/-- The value of four hexadecimal digits. -/
def codeUnit? : List TextUnit → Option Nat
  | [some a, some b, some c, some d] => do
    return ((← hexValue? a) * 16 + (← hexValue? b)) * 256
      + ((← hexValue? c) * 16 + (← hexValue? d))
  | _ => none

/-- The character that a backslash and this letter stand for. -/
def escaped? : Char → Option Char
  | '"' => some '"'
  | '\\' => some '\\'
  | '/' => some '/'
  | 'b' => some '\x08'
  | 'f' => some '\x0c'
  | 'n' => some '\n'
  | 'r' => some '\r'
  | 't' => some '\t'
  | _ => none

/-- The pieces of a string up to its closing quotation mark, and the text behind that. -/
def pieces? : List TextUnit → Option (List Piece × List TextUnit)
  | some '"' :: rest => some ([], rest)
  | some '\\' :: some 'u' :: a :: b :: c :: d :: rest => do
    let unit ← codeUnit? [a, b, c, d]
    let (pieces, rest) ← pieces? rest
    return (.codeUnit unit :: pieces, rest)
  | some '\\' :: some letter :: rest => do
    let c ← escaped? letter
    let (pieces, rest) ← pieces? rest
    return (.char c :: pieces, rest)
  | some c :: rest =>
    if c.toNat < 0x20 ∨ c = '\\' then none
    else do
      let (pieces, rest) ← pieces? rest
      return (.char c :: pieces, rest)
  | none :: rest => do
    let (pieces, rest) ← pieces? rest
    return (.malformed :: pieces, rest)
  | [] => none

/-- Whether a code unit is the first of a surrogate pair. -/
def isLeadingSurrogate (n : Nat) : Bool := 0xD800 ≤ n && n < 0xDC00

/-- Whether a code unit is the second of a surrogate pair. -/
def isTrailingSurrogate (n : Nat) : Bool := 0xDC00 ≤ n && n < 0xE000

/-- The characters that pieces stand for, unless a surrogate stands alone or bytes are malformed. -/
def characters? : List Piece → Option (List Char)
  | [] => some []
  | .char c :: rest => (characters? rest).map (c :: ·)
  | .malformed :: _ => none
  | .codeUnit n :: rest =>
    if isTrailingSurrogate n then none
    else if isLeadingSurrogate n then
      match rest with
      | .codeUnit m :: rest =>
        if isTrailingSurrogate m then
          (characters? rest).map
            (Char.ofNat (0x10000 + (n - 0xD800) * 0x400 + (m - 0xDC00)) :: ·)
        else none
      | _ => none
    else (characters? rest).map (Char.ofNat n :: ·)

/-- The leading decimal digits of a text, and the text behind them. -/
def leadingDigits : List TextUnit → List Char × List TextUnit
  | some c :: rest =>
    if c.isDigit then
      let (digits, rest) := leadingDigits rest
      (c :: digits, rest)
    else ([], some c :: rest)
  | rest => ([], rest)

/-- The exponent at the head of a text; the text must go on with digits if it has the letter. -/
def exponent? : List TextUnit → Option (Option Numeral.Exponent × List TextUnit)
  | some c :: rest =>
    if c = 'e' ∨ c = 'E' then
      let (negative, rest) := match rest with
        | some '-' :: rest => (true, rest)
        | some '+' :: rest => (false, rest)
        | rest => (false, rest)
      match leadingDigits rest with
      | ([], _) => none
      | (digits, rest) => some (some ⟨negative, digits⟩, rest)
    else some (none, some c :: rest)
  | rest => some (none, rest)

/-- The fraction at the head of a text; the text must go on with digits if it has the point. -/
def fraction? : List TextUnit → Option (Option (List Char) × List TextUnit)
  | some '.' :: rest =>
    match leadingDigits rest with
    | ([], _) => none
    | (digits, rest) => some (some digits, rest)
  | rest => some (none, rest)

/-- The number at the head of a text, after its sign. A zero at its start stands alone. -/
def numeral? (negative : Bool) (text : List TextUnit) : Option (Numeral × List TextUnit) := do
  let (whole, rest) := leadingDigits text
  if whole.isEmpty ∨ (1 < whole.length ∧ whole.head? = some '0') then none
  else
    let (fraction, rest) ← fraction? rest
    let (exponent, rest) ← exponent? rest
    return (⟨negative, whole, fraction, exponent⟩, rest)

/-- The token at the head of a text, whose first unit is not blank, and the text behind it. -/
def token? : List TextUnit → Option (Token × List TextUnit)
  | some '[' :: rest => some (.openArray, rest)
  | some ']' :: rest => some (.closeArray, rest)
  | some '{' :: rest => some (.openObject, rest)
  | some '}' :: rest => some (.closeObject, rest)
  | some ',' :: rest => some (.comma, rest)
  | some ':' :: rest => some (.colon, rest)
  | some 'n' :: some 'u' :: some 'l' :: some 'l' :: rest => some (.null, rest)
  | some 't' :: some 'r' :: some 'u' :: some 'e' :: rest => some (.bool true, rest)
  | some 'f' :: some 'a' :: some 'l' :: some 's' :: some 'e' :: rest => some (.bool false, rest)
  | some '"' :: rest =>
    (pieces? rest).map fun (pieces, rest) =>
      (.string ((characters? pieces).map String.ofList), rest)
  | some '-' :: rest => (numeral? true rest).map fun (n, rest) => (.number n.value?, rest)
  | rest => (numeral? false rest).map fun (n, rest) => (.number n.value?, rest)

/-- Whether a unit may stand between tokens. -/
def isBlank : TextUnit → Bool
  | some c => c = ' ' ∨ c = '\t' ∨ c = '\n' ∨ c = '\r'
  | none => false

/-- The tokens of a text, at most `fuel` of them. -/
def tokensWithin : (fuel : Nat) → List TextUnit → List Token
  | 0, _ => []
  | fuel + 1, text =>
    match text.dropWhile isBlank with
    | [] => []
    | unit :: rest =>
      match token? (unit :: rest) with
      | none => [.stray]
      | some (token, rest) => token :: tokensWithin fuel rest

/-- The tokens of a text. Every token takes a unit, so the length of the text is fuel enough. -/
def tokens (text : List TextUnit) : List Token := tokensWithin text.length text

end TopicAlerts.Json
