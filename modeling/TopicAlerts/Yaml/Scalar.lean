import TopicAlerts.Json.Token
import TopicAlerts.Yaml.Cursor

/-!
# Scalars in YAML texts

A scalar is written plainly, in single or double quotation marks, or as a block of lines. Inside
the first three a line break is folded: one break alone becomes a space, of several the first one
vanishes. `Scalar.plain?`, `Scalar.quoted?` and `Scalar.block?` read one at the place of a cursor.
-/

namespace TopicAlerts.Yaml

/-- A scalar. -/
structure Scalar where
  /-- Whether it is written plainly; the meaning of such a scalar depends on its text. -/
  isPlain : Bool
  /-- Its text. -/
  text : List Char

namespace Scalar

/-- What is left of a gap between two words. -/
def folded (gap : List Char) : List Char :=
  match gap.filter isBreak with
  | [] => gap
  | ['\n'] => [' ']
  | '\n' :: breaks => breaks
  | breaks => breaks

/-! ## Plain scalars -/

/-- Whether a character is an indicator of flow collections. -/
def isFlowIndicator (c : Char) : Bool := c == ',' || c == '[' || c == ']' || c == '{' || c == '}'

/-- The word at the head of a text, up to a gap, to a colon before a gap, or in a flow collection to
one of its indicators. In a flow collection a colon must not stand directly before an indicator. -/
def word? (inFlow : Bool) : List Char → Option (List Char)
  | [] => some []
  | c :: rest =>
    if isGap c then some []
    else if inFlow && isFlowIndicator c then some []
    else if c = ':' && atGap rest then some []
    else if c = ':' && inFlow && (rest.head?.any fun d => isFlowIndicator d || d == '?') then none
    else (word? inFlow rest).map (c :: ·)

/-- Whether a tab stands in a gap before the column where the text of a line may start. -/
def tabBefore (start : Int) : (column : Nat) → (gap : List Char) → Bool
  | _, [] => false
  | column, c :: rest =>
    (c == '\t' && (column : Int) < start)
      || tabBefore start (if isBreak c then 0 else column + 1) rest

/-- Whether the gap between two words has such a tab; on its first line tabs are allowed. -/
def hasStrayTab (start : Int) (gap : List Char) : Bool :=
  match gap.dropWhile isSpace with
  | [] => false
  | _ :: rest => tabBefore start 0 rest

/-- The words of a plain scalar behind a gap, whether the gap behind the last word breaks the line,
and the place behind that. In block collections a line that starts before `start` is no part of the
scalar. -/
def words? (inFlow : Bool) (start : Int) :
    (fuel : Nat) → (gap : List Char) → Cursor → Option (List Char × Bool × Cursor)
  | 0, _, _ => none
  | fuel + 1, gap, cursor =>
    let finished := some ([], gap.any isBreak, cursor)
    if cursor.atMarker || cursor.sees '#' then finished
    else if !gap.isEmpty && !inFlow && (cursor.column : Int) < start then finished
    else do
      let word ← word? inFlow cursor.rest
      if word.isEmpty then finished
      else
        let (next, behind) := (cursor.skip word.length).span isGap
        if hasStrayTab start next then none
        else
          let (more, broken, final) ← words? inFlow start fuel next behind
          return (folded gap ++ word ++ more, broken, final)

/-- A plain scalar, whether a line break follows it, and the place behind that. -/
def plain? (inFlow : Bool) (start : Int) (cursor : Cursor) : Option (Scalar × Bool × Cursor) := do
  let (text, broken, final) ← words? inFlow start (cursor.rest.length + 1) [] cursor
  return (⟨true, text⟩, broken, final)

/-! ## Scalars in quotation marks -/

/-- What stands between single quotation marks, the first of which is passed already. -/
def singleBody? : List Char → Option (List Char)
  | [] => none
  | '\'' :: '\'' :: rest => (singleBody? rest).map (['\'', '\''] ++ ·)
  | c :: rest => if c = '\'' then some [] else (singleBody? rest).map (c :: ·)

/-- What stands between double quotation marks, the first of which is passed already. -/
def doubleBody? : List Char → Option (List Char)
  | [] => none
  | '\\' :: c :: rest => (doubleBody? rest).map (['\\', c] ++ ·)
  | c :: rest => if c = '"' then some [] else (doubleBody? rest).map (c :: ·)

/-- Whether a line behind the first one of a text starts with a marker of documents. -/
def hasMarker : List Char → Bool
  | [] => false
  | c :: rest => (isBreak c && atMarker rest) || hasMarker rest

/-- The text of what stands between single quotation marks, behind a gap. -/
def singleText (gap : List Char) : List Char → List Char
  | [] => folded gap
  | '\'' :: '\'' :: rest => folded gap ++ '\'' :: singleText [] rest
  | c :: rest =>
    if isGap c then singleText (gap ++ [c]) rest else folded gap ++ c :: singleText [] rest

/-- The character that a backslash and this letter stand for. -/
def escaped? : Char → Option Char
  | '0' => some '\x00'
  | 'a' => some '\x07'
  | 'b' => some '\x08'
  | 't' => some '\t'
  | '\t' => some '\t'
  | 'n' => some '\n'
  | 'v' => some '\x0b'
  | 'f' => some '\x0c'
  | 'r' => some '\r'
  | 'e' => some '\x1b'
  | ' ' => some ' '
  | '"' => some '"'
  | '/' => some '/'
  | '\\' => some '\\'
  | 'N' => some '\u0085'
  | '_' => some '\u00a0'
  | 'L' => some '\u2028'
  | 'P' => some '\u2029'
  | _ => none

/-- How many hexadecimal digits follow this letter behind a backslash. -/
def digitCount? : Char → Option Nat
  | 'x' => some 2
  | 'u' => some 4
  | 'U' => some 8
  | _ => none

/-- The character with the code that hexadecimal digits give; surrogates are no characters. -/
def coded? (digits : List Char) : Option Char := do
  let values ← digits.mapM Json.hexValue?
  let code := values.foldl (fun n digit => n * 16 + digit) 0
  if code.isValidChar then some (Char.ofNat code) else none

/-- What a gap between two words leaves, where `escaped` tells that it begins with a break behind a
backslash: of such a gap the other breaks stay. -/
def left (escaped : Bool) (gap : List Char) : List Char :=
  if escaped then gap.filter isBreak else folded gap

/-- The text of what stands between double quotation marks, behind a gap. -/
def doubleText? (escaped : Bool) (gap : List Char) : (fuel : Nat) → List Char → Option (List Char)
  | 0, _ => none
  | _, [] => some (left escaped gap)
  | fuel + 1, '\\' :: c :: rest =>
    if isBreak c then (doubleText? true [] fuel rest).map (left escaped gap ++ ·)
    else match digitCount? c with
      | none => do
        let c ← escaped? c
        (doubleText? false [] fuel rest).map (left escaped gap ++ c :: ·)
      | some count => do
        if (rest.take count).length = count then
          let c ← coded? (rest.take count)
          (doubleText? false [] fuel (rest.drop count)).map (left escaped gap ++ c :: ·)
        else none
  | fuel + 1, c :: rest =>
    if isGap c then doubleText? escaped (gap ++ [c]) fuel rest
    else (doubleText? false [] fuel rest).map (left escaped gap ++ c :: ·)

/-- A scalar in quotation marks, which starts at the cursor, and the place behind it. -/
def quoted? (cursor : Cursor) : Option (Scalar × Cursor) := do
  let inside := cursor.next
  let body ← if cursor.sees '"' then doubleBody? inside.rest else singleBody? inside.rest
  if hasMarker (body ++ ['"']) then none
  else
    let text ←
      if cursor.sees '"' then doubleText? false [] (body.length + 1) body
      else some (singleText [] body)
    return (⟨false, text⟩, inside.skip (body.length + 1))

/-! ## Blocks of lines -/

/-- Which of the breaks at the end of a block stay. -/
inductive Chomping
  /-- None. -/
  | strip
  /-- The break of the last line. -/
  | clip
  /-- All of them. -/
  | keep
deriving DecidableEq

/-- What stands in the first line of a block. -/
structure BlockHeader where
  /-- Which of the breaks at its end stay. -/
  chomping : Chomping
  /-- By how much it is indented, if this is given. -/
  increment : Option Nat

/-- The chomping that a character stands for. -/
def chomping? (c : Char) : Option Chomping :=
  if c = '+' then some .keep else if c = '-' then some .strip else none

/-- The increment that a character stands for. -/
def increment? (c : Char) : Option Nat :=
  if '1' ≤ c ∧ c ≤ '9' then some (c.toNat - '0'.toNat) else none

/-- The header of a block, of which the characters up to a gap are given. -/
def header? : List Char → Option BlockHeader
  | [] => some ⟨.clip, none⟩
  | [c] => ((chomping? c).map (⟨·, none⟩)) <|> ((increment? c).map (⟨.clip, some ·⟩))
  | [c, d] =>
    (do return ⟨← chomping? c, some (← increment? d)⟩)
      <|> (do return ⟨← chomping? d, some (← increment? c)⟩)
  | _ => none

/-- The breaks of the empty lines from here on, the deepest column that they reach, and the place
where the next line has its text. As long as the indentation of the block is not known all spaces
belong to it. -/
def emptyLines? (indent : Option Nat) : (fuel : Nat) → Cursor → Option (List Char × Nat × Cursor)
  | 0, _ => none
  | fuel + 1, cursor =>
    let spaces := (cursor.rest.takeWhile (· == ' ')).length
    let cursor := cursor.skip (match indent with
      | none => spaces
      | some indent => min spaces (indent - cursor.column))
    if cursor.sees '\t' && indent.all (cursor.column < ·) then none
    else match cursor.rest with
      | [] => some ([], cursor.column, cursor)
      | c :: _ =>
        if isBreak c then do
          let (breaks, deepest, final) ← emptyLines? indent fuel cursor.next
          return (c :: breaks, max cursor.column deepest, final)
        else some ([], cursor.column, cursor)

/-- What stands behind a line of a block: the break at its end, and those of empty lines. -/
structure BlockBreaks where
  /-- The break at the end of the line. -/
  first : List Char
  /-- The breaks of the empty lines behind it. -/
  others : List Char
  /-- Whether the line starts with a space. -/
  spaced : Bool

/-- The breaks that are left at the end of a block. -/
def BlockBreaks.chomped (breaks : BlockBreaks) : Chomping → List Char
  | .strip => []
  | .clip => breaks.first
  | .keep => breaks.first ++ breaks.others

/-- The breaks that are left before another line of a block. -/
def BlockBreaks.before (breaks : BlockBreaks) (folds spaced : Bool) : List Char :=
  if folds && breaks.first == ['\n'] && !breaks.spaced && !spaced then
    if breaks.others.isEmpty then [' '] else breaks.others
  else breaks.first ++ breaks.others

/-- The lines of a block from here on, and the place behind them. -/
def blockLines? (folds : Bool) (chomping : Chomping) (indent : Nat) :
    (fuel : Nat) → BlockBreaks → Cursor → Option (List Char × Cursor)
  | 0, _, _ => none
  | fuel + 1, breaks, cursor =>
    if cursor.column ≠ indent ∨ cursor.rest.isEmpty then some (breaks.chomped chomping, cursor)
    else do
      let spaced := cursor.rest.head?.any isSpace
      let (line, cursor) := cursor.span (!isBreak ·)
      let first := cursor.rest.take 1
      let (others, _, cursor) ← emptyLines? (some indent) (cursor.rest.length + 1) cursor.next
      let (more, final) ← blockLines? folds chomping indent fuel ⟨first, others, spaced⟩ cursor
      return (breaks.before folds spaced ++ line ++ more, final)

/-- A block of lines, which starts at the cursor inside of a collection that has its entries at the
column `outer`, and the place behind it. -/
def block? (outer : Int) (cursor : Cursor) : Option (Scalar × Cursor) := do
  let folds := cursor.sees '>'
  let (letters, cursor) := cursor.next.span (fun c => !isGap c && c != '#')
  let header ← header? letters
  let (_, cursor) := cursor.span isSpace
  let (_, cursor) := if cursor.sees '#' then cursor.span (!isBreak ·) else ([], cursor)
  if cursor.rest.head?.any (!isBreak ·) then none
  else
    let cursor := cursor.next
    let given := header.increment.map fun n => (max outer 0).toNat + n
    let (breaks, deepest, cursor) ← emptyLines? given (cursor.rest.length + 1) cursor
    let indent := given.getD (max (max deepest (outer + 1).toNat) 1)
    let (text, final) ←
      blockLines? folds header.chomping indent (cursor.rest.length + 1) ⟨[], breaks, false⟩ cursor
    return (⟨false, text⟩, final)

end Scalar

end TopicAlerts.Yaml
