import TopicAlerts.Binary64.Decimal
import TopicAlerts.Text.Split

/-!
# Numbers in plain texts

Outside of JSON texts a number may also have a plus sign, may leave out the digits on one side of
the point, and may be one of the words `inf`, `infinity` and `nan`. `Reading.ofText?` reads such a
number as the nearest double; numbers beyond the finite doubles are infinite.
-/

namespace TopicAlerts

/-- What a plain text says as a number. -/
inductive Reading
  /-- A finite double. -/
  | finite (x : Binary64)
  /-- An infinite number. -/
  | infinite (negative : Bool)
  /-- No number. -/
  | undefined
deriving DecidableEq

namespace Reading

/-- The natural number of a list of decimal digits. -/
def naturalOf (digits : List Char) : Nat :=
  digits.foldl (fun n c => 10 * n + (c.toNat - '0'.toNat)) 0

/-- A sign at the head of a text, and the text behind it. -/
def sign : List Char → Bool × List Char
  | '-' :: rest => (true, rest)
  | '+' :: rest => (false, rest)
  | rest => (false, rest)

/-- The exponent that makes up the whole of a text, which may be empty. -/
def exponent? : List Char → Option Int
  | [] => some 0
  | c :: rest =>
    if c = 'e' ∨ c = 'E' then
      let (negative, digits) := sign rest
      if digits.isEmpty ∨ !digits.all Char.isDigit then none
      else if negative then some (-(naturalOf digits : Int))
      else some (naturalOf digits)
    else none

/-- The decimal number of a text without sign: digits with at most one point among them, at least
one digit, and perhaps an exponent. -/
def decimal? (negative : Bool) (text : List Char) : Option Decimal := do
  let whole := text.takeWhile Char.isDigit
  let (fraction, rest) := match text.dropWhile Char.isDigit with
    | '.' :: rest => (rest.takeWhile Char.isDigit, rest.dropWhile Char.isDigit)
    | rest => ([], rest)
  if whole.isEmpty && fraction.isEmpty then none
  else
    let exponent ← exponent? rest
    return ⟨negative, naturalOf (whole ++ fraction), exponent - fraction.length⟩

/-- Read a number that makes up the whole of a text. -/
def ofText? (text : List Char) : Option Reading :=
  let (negative, rest) := sign text
  match decimal? negative rest with
  | some d => some ((d.toBinary64?.map .finite).getD (.infinite negative))
  | none =>
    let word := rest.map Char.toLower
    if word = ['i', 'n', 'f'] ∨ word = ['i', 'n', 'f', 'i', 'n', 'i', 't', 'y'] then
      some (.infinite negative)
    else if word = ['n', 'a', 'n'] then some .undefined
    else none

/-- The number, if it is finite. -/
def finite? : Reading → Option Binary64
  | .finite x => some x
  | _ => none

/-- The number as reports show it. -/
def text : Reading → String
  | .finite x => (x.shortest .away).positionalText
  | .infinite false => "inf"
  | .infinite true => "-inf"
  | .undefined => "NaN"

end Reading

end TopicAlerts
