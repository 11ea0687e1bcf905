import TopicAlerts.Yaml.Scalar

/-!
# Tokens of YAML texts

`tokens?` cuts a text into tokens. Indentation is turned into tokens that open and close block
collections, so that the structure of the text can be read off without looking at columns.

A key without a question mark is recognised only at the colon behind it. So whatever may be a key
is remembered with its place among the tokens, and the tokens for the key, and for a mapping that
it opens, are put there when the colon comes. It must come on the same line, and soon enough.
-/

namespace TopicAlerts.Yaml

/-- A token of a text. -/
inductive Token
  /-- Three dashes: a document starts. -/
  | documentStart
  /-- Three points: a document ends. -/
  | documentEnd
  /-- A sequence of entries with dashes starts. -/
  | blockSequence
  /-- A mapping of keys at one column starts. -/
  | blockMapping
  /-- A block sequence or a block mapping ends. -/
  | blockEnd
  /-- An opening bracket. -/
  | flowSequence
  /-- A closing bracket. -/
  | flowSequenceEnd
  /-- An opening brace. -/
  | flowMapping
  /-- A closing brace. -/
  | flowMappingEnd
  /-- The dash before an entry. -/
  | dash
  /-- A comma between the entries of a flow collection. -/
  | comma
  /-- A key follows. -/
  | key
  /-- The value of a key follows. -/
  | value
  /-- A scalar. -/
  | scalar (scalar : Scalar)

/-- A token that is a key if a colon follows. -/
structure Candidate where
  /-- Whether the text has no meaning unless it is one. -/
  isRequired : Bool
  /-- How many tokens stand before it. -/
  index : Nat
  /-- Where it starts. -/
  start : Cursor

/-- How far the colon may be away from the start of its key. -/
def keyLimit : Nat := 1024

/-- Whether a colon at this place is too far away from the start of a key. -/
def Candidate.isPast (candidate : Candidate) (cursor : Cursor) : Bool :=
  candidate.start.line < cursor.line || candidate.start.offset + keyLimit < cursor.offset

/-- A text of which the tokens up to some place are known. -/
structure Lexer where
  /-- The place. -/
  cursor : Cursor
  /-- The tokens before it. -/
  tokens : List Token
  /-- The column of the entries of the innermost block collection; `-1` outside of all. -/
  indent : Int
  /-- The columns of the block collections around it. -/
  outer : List Int
  /-- Whether a key may start here. -/
  keyAllowed : Bool
  /-- The last token that may be a key, outside of flow collections. -/
  candidate : Option Candidate
  /-- The same for the flow collections that are open, from the inside to the outside. -/
  inner : List (Option Candidate)

namespace Lexer

/-- The start of a text. -/
def start (text : List Char) : Lexer where
  cursor := Cursor.start text
  tokens := []
  indent := -1
  outer := []
  keyAllowed := true
  candidate := none
  inner := []

/-- Whether the place is inside of a flow collection. -/
def inFlow (lexer : Lexer) : Bool := !lexer.inner.isEmpty

/-- Add a token. -/
def push (lexer : Lexer) (token : Token) : Lexer := { lexer with tokens := lexer.tokens ++ [token] }

/-- What may be a key at this level. -/
def pending (lexer : Lexer) : Option Candidate := lexer.inner.headD lexer.candidate

/-- Remember what may be a key at this level. -/
def setPending (lexer : Lexer) (candidate : Option Candidate) : Lexer :=
  match lexer.inner with
  | [] => { lexer with candidate }
  | _ :: rest => { lexer with inner := candidate :: rest }

/-- Forget what may be a key at this level, unless it is required to be one. -/
def dropPending? (lexer : Lexer) : Option Lexer :=
  if lexer.pending.any (·.isRequired) then none else some (lexer.setPending none)

/-- Remember the next token as one that may be a key. -/
def offer? (lexer : Lexer) : Option Lexer :=
  if lexer.keyAllowed then do
    let isRequired := !lexer.inFlow && lexer.indent == lexer.cursor.column
    let dropped ← lexer.dropPending?
    return dropped.setPending (some ⟨isRequired, lexer.tokens.length, lexer.cursor⟩)
  else some lexer

/-- Open a block collection with its entries at a column, if it is further in; `token` is put before
the token of this index. -/
def indentTo (lexer : Lexer) (column : Nat) (token : Token) (index : Nat) : Lexer :=
  if !lexer.inFlow && lexer.indent < column then
    { lexer with
      indent := column
      outer := lexer.indent :: lexer.outer
      tokens := lexer.tokens.insertIdx index token }
  else lexer

/-- Open a block collection at the place of the lexer. -/
def indentHere (lexer : Lexer) (token : Token) : Lexer :=
  lexer.indentTo lexer.cursor.column token lexer.tokens.length

/-- Close the block collections that have their entries behind a column. -/
def unindentTo (lexer : Lexer) (column : Int) : Lexer :=
  if lexer.inFlow then lexer
  else
    let columns := lexer.indent :: lexer.outer
    let closed := (columns.takeWhile (column < ·)).length
    { lexer with
      indent := (columns.drop closed).headD (-1)
      outer := (columns.drop closed).tail
      tokens := lexer.tokens ++ List.replicate closed .blockEnd }

/-- Add a token that takes some characters. -/
def take (lexer : Lexer) (token : Token) (length : Nat) (keyAllowed : Bool) : Lexer :=
  { lexer.push token with cursor := lexer.cursor.skip length, keyAllowed }

/-- Pass blanks, comments and breaks. Where a key may start in a block collection, tabs are no
blanks. -/
def skipGap : (fuel : Nat) → Lexer → Lexer
  | 0, lexer => lexer
  | fuel + 1, lexer =>
    match lexer.cursor.rest with
    | [] => lexer
    | c :: _ =>
      let passed := { lexer with cursor := lexer.cursor.next }
      if c == '\ufeff' && lexer.cursor.offset == 0 then skipGap fuel passed
      else if c == ' ' || (c == '\t' && (lexer.inFlow || !lexer.keyAllowed)) then
        skipGap fuel passed
      else if c == '#' then
        skipGap fuel { lexer with cursor := (lexer.cursor.span (!isBreak ·)).2 }
      else if isBreak c then
        skipGap fuel { passed with keyAllowed := lexer.keyAllowed || !lexer.inFlow }
      else lexer

/-- Pass a marker of documents. -/
def marker? (lexer : Lexer) (token : Token) : Option Lexer := do
  let lexer ← (lexer.unindentTo (-1)).dropPending?
  return lexer.take token 3 false

/-- Pass an opening bracket or brace. -/
def openFlow? (lexer : Lexer) (token : Token) : Option Lexer := do
  let lexer ← lexer.offer?
  return { lexer.take token 1 true with inner := none :: lexer.inner }

/-- Pass a closing bracket or brace. -/
def closeFlow? (lexer : Lexer) (token : Token) : Option Lexer := do
  let lexer ← lexer.dropPending?
  return { lexer.take token 1 false with inner := lexer.inner.tail }

/-- Pass the dash of an entry. -/
def dash? (lexer : Lexer) : Option Lexer :=
  if lexer.inFlow || lexer.keyAllowed then do
    let lexer ← (lexer.indentHere .blockSequence).dropPending?
    return lexer.take .dash 1 true
  else none

/-- Pass the question mark of a key. -/
def questionMark? (lexer : Lexer) : Option Lexer :=
  if lexer.inFlow || lexer.keyAllowed then do
    let lexer ← (lexer.indentHere .blockMapping).dropPending?
    return lexer.take .key 1 (!lexer.inFlow)
  else none

/-- Pass a colon. It makes a key of what may be one. -/
def colon? (lexer : Lexer) : Option Lexer :=
  match lexer.pending with
  | some candidate =>
    if !candidate.isPast lexer.cursor then
      let keyed := { lexer with tokens := lexer.tokens.insertIdx candidate.index .key }
      let opened := keyed.indentTo candidate.start.column .blockMapping candidate.index
      some ((opened.setPending none).take .value 1 false)
    else if candidate.isRequired then none
    else bare
  | none => bare
where
  /-- The case of a colon without a key before it. -/
  bare : Option Lexer :=
    if lexer.inFlow || lexer.keyAllowed then
      some ((lexer.indentHere .blockMapping).take .value 1 (!lexer.inFlow))
    else none

/-- Pass a block of lines. -/
def block? (lexer : Lexer) : Option Lexer := do
  let lexer ← lexer.dropPending?
  let (scalar, cursor) ← Scalar.block? lexer.indent lexer.cursor
  return { lexer.push (.scalar scalar) with cursor, keyAllowed := true }

/-- Pass a scalar in quotation marks. -/
def quoted? (lexer : Lexer) : Option Lexer := do
  let lexer ← lexer.offer?
  let (scalar, cursor) ← Scalar.quoted? lexer.cursor
  return { lexer.push (.scalar scalar) with cursor, keyAllowed := false }

/-- Pass a plain scalar. -/
def plain? (lexer : Lexer) : Option Lexer := do
  let lexer ← lexer.offer?
  let (scalar, broken, cursor) ← Scalar.plain? lexer.inFlow (lexer.indent + 1) lexer.cursor
  return { lexer.push (.scalar scalar) with cursor, keyAllowed := broken }

/-- Whether a plain scalar cannot start with this character. -/
def isIndicator (c : Char) : Bool := "-?:,[]\x7b\x7d#&*!|>'\"%@`".toList.contains c

/-- Pass the next token, of which the first characters are given. -/
def token? (lexer : Lexer) (c : Char) (rest : List Char) : Option Lexer :=
  let alone := atGap rest
  if lexer.cursor.atMarker then
    lexer.marker? (if c == '-' then .documentStart else .documentEnd)
  else if c == '[' then lexer.openFlow? .flowSequence
  else if c == '\x7b' then lexer.openFlow? .flowMapping
  else if c == ']' then lexer.closeFlow? .flowSequenceEnd
  else if c == '\x7d' then lexer.closeFlow? .flowMappingEnd
  else if c == ',' then do
    let lexer ← lexer.dropPending?
    return lexer.take .comma 1 true
  else if c == '-' && alone then lexer.dash?
  else if c == '?' && (lexer.inFlow || alone) then lexer.questionMark?
  else if c == ':' && (lexer.inFlow || alone) then lexer.colon?
  else if (c == '|' || c == '>') && !lexer.inFlow then lexer.block?
  else if c == '\'' || c == '"' then lexer.quoted?
  else if !isIndicator c || (c == '-' && !rest.head?.any isSpace)
      || (!lexer.inFlow && (c == '?' || c == ':')) then lexer.plain?
  else none

/-- Cut the text from here on into at most `fuel` tokens. -/
def run? : (fuel : Nat) → Lexer → Option Lexer
  | 0, _ => none
  | fuel + 1, lexer =>
    let lexer := lexer.skipGap (lexer.cursor.rest.length + 1)
    match lexer.cursor.rest with
    | [] => (lexer.unindentTo (-1)).dropPending?
    | c :: rest => ((lexer.unindentTo lexer.cursor.column).token? c rest).bind (run? fuel)

end Lexer

/-- The tokens of a text. Collections with anchors, aliases, tags and directives have none. -/
def tokens? (text : String) : Option (List Token) :=
  if text.toList.all isAdmitted then
    let text := singleBreaks text.toList
    (Lexer.run? (text.length + 1) (Lexer.start text)).map (·.tokens)
  else none

end TopicAlerts.Yaml
