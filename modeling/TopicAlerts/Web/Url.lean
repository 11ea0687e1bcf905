import TopicAlerts.Text.Case
import TopicAlerts.Text.Split
import TopicAlerts.Text.Utf8
import TopicAlerts.Web.Punycode

/-!
# Addresses

`Url.ofText?` reads an address and brings it into its normal form: the scheme and the host in lower
case, no default port, no steps to the same or the upper folder in the path, and all characters
encoded that must not stand in their place.
-/

namespace TopicAlerts.Web

/-- An address. -/
structure Url where
  /-- The scheme. -/
  scheme : String
  /-- The host, if the address has a place for one. -/
  host : Option String
  /-- The port, unless it is that of the scheme. -/
  port : Option Nat
  /-- The path. -/
  path : String
  /-- The query. -/
  query : Option String
  /-- The fragment. -/
  fragment : Option String
deriving DecidableEq, Repr

namespace Url

/-! ## Encoding -/

/-- A hexadecimal digit in upper case. -/
def hexDigit (n : Nat) : Char := (Nat.digitChar (n % 16)).toUpper

/-- The encoding of a character by its bytes. -/
def encoded (c : Char) : List Char :=
  (Utf8.encode (String.singleton c)).flatMap fun byte =>
    ['%', hexDigit (byte.toNat / 16), hexDigit byte.toNat]

/-- Encode the characters that have a property. -/
def encodeIf (p : Char → Bool) (text : List Char) : List Char :=
  text.flatMap fun c => if p c then encoded c else [c]

/-- Whether a character is encoded everywhere. -/
def isControl (c : Char) : Bool := c.toNat < 0x20 || 0x7F ≤ c.toNat

/-- Whether a character is encoded in a fragment. -/
def notInFragment (c : Char) : Bool := isControl c || " \"<>`".toList.contains c

/-- Whether a character is encoded in a query. -/
def notInQuery (c : Char) : Bool := isControl c || " \"#<>'".toList.contains c

/-- Whether a character is encoded in a path. -/
def notInPath (c : Char) : Bool := notInFragment c || "#?\x7b\x7d".toList.contains c

/-- Encode a name or a value of a query; spaces become plus signs. -/
def encodePart (text : String) : List Char :=
  text.toList.flatMap fun c =>
    if c = ' ' then ['+']
    else if c.isAlphanum || "*-._".toList.contains c then [c]
    else encoded c

/-! ## Hosts -/

/-- Whether a character must not stand in the name of a host. -/
def notInHost (c : Char) : Bool :=
  c.toNat ≤ 0x20 || c.toNat = 0x7F || "#/:<>?@[\\]^|%".toList.contains c

/-- The number that digits of a base stand for. -/
def naturalOf? (base : Nat) (digits : List Char) : Option Nat :=
  digits.foldl (fun n c => do
    let n ← n
    let byte ← Utf8.hexDigit? (UInt8.ofNat (min c.toNat 255))
    if byte.toNat < base then some (n * base + byte.toNat) else none) (some 0)

/-- The number that a part of a numeric host stands for: hexadecimal, octal or decimal. -/
def partOf? : List Char → Option Nat
  | [] => none
  | '0' :: 'x' :: digits => naturalOf? 16 digits
  | '0' :: c :: digits => naturalOf? 8 (c :: digits)
  | digits => naturalOf? 10 digits

/-- The four numbers of a numeric host, which may be given by fewer parts: the last one stands for
all numbers that are left. -/
def numbers? : (left : Nat) → List Nat → Option (List Nat)
  | _, [] => none
  | left, [last] =>
    if last < Nat.pow 256 left then
      some ((List.range left).map fun i => last / Nat.pow 256 (left - 1 - i) % 256)
    else none
  | 0, _ => none
  | left + 1, n :: rest => if n < 256 then (numbers? left rest).map (n :: ·) else none

/-- A numeric host in its normal form. -/
def numericHost? (parts : List (List Char)) : Option String := do
  let values ← parts.mapM partOf?
  let numbers ← numbers? 4 values
  return Text.join "." (numbers.map toString)

/-- A host in its normal form. -/
def host? (text : List Char) : Option String :=
  match text with
  | '[' :: rest =>
    match rest.reverse with
    | ']' :: digits =>
      if digits.all (fun c => (Utf8.hexDigit? (UInt8.ofNat (min c.toNat 255))).isSome || c == ':'
          || c == '.') && 2 ≤ digits.count ':' then
        some (String.ofList (text.map Char.toLower))
      else none
    | _ => none
  | _ => do
    let decoded ← Utf8.decode? (Utf8.percentDecode (Utf8.encode (String.ofList text)))
    let labels := (Text.splitChars '.' (Text.lower decoded).toList).map Punycode.encode
    let name := ['.'].intercalate labels
    if name.isEmpty || name.any notInHost then none
    else
      let parts := if labels.getLast? == some [] then labels.dropLast else labels
      let last := (parts.getLast?).getD []
      if !last.isEmpty && (last.all Char.isDigit || (last.take 2 == ['0', 'x'] &&
          (naturalOf? 16 (last.drop 2)).isSome)) then numericHost? parts
      else some (String.ofList name)

/-! ## Reading -/

/-- The schemes of addresses with a host, and their ports. -/
def defaultPorts : List (String × Nat) :=
  [("http", 80), ("https", 443), ("ws", 80), ("wss", 443), ("ftp", 21)]

/-- The segments of a path without steps to the same or the upper folder, after those that are
done. -/
def resolve (done : List (List Char)) : List (List Char) → List (List Char)
  | [] => done
  | segment :: rest =>
    let word := String.ofList (segment.map Char.toLower)
    let isSame := [".", "%2e"].contains word
    let isUpper := ["..", ".%2e", "%2e.", "%2e%2e"].contains word
    let kept := if isUpper then done.dropLast else done
    if isSame || isUpper then resolve (if rest.isEmpty then kept ++ [[]] else kept) rest
    else resolve (done ++ [segment]) rest

/-- A path in its normal form, of which what stands behind the first slash is given. -/
def normalPath (text : List Char) : List Char :=
  let segments := resolve [] ((Text.splitChars '/' text).map (encodeIf notInPath))
  segments.flatMap ('/' :: ·)

/-- Cut a text at the first of some characters; what is behind begins with that character. -/
def cutAt (ends : List Char) (text : List Char) : List Char × List Char :=
  text.span fun c => !ends.contains c

/-- The query and the fragment at the end of an address. -/
def ending (text : List Char) : Option String × Option String :=
  let (query, rest) := cutAt ['#'] text
  (match query with
    | '?' :: query => some (String.ofList (encodeIf notInQuery query))
    | _ => none,
   match rest with
    | '#' :: fragment => some (String.ofList (encodeIf notInFragment fragment))
    | _ => none)

/-- The number of a port, which may be missing. -/
def port? (digits : List Char) : Option (Option Nat) :=
  if digits.isEmpty then some none
  else do
    let n ← naturalOf? 10 digits
    if n < UInt16.size then some (some n) else none

/-- The host and the port of an address. A name and a password before them are left out. -/
def authority? (text : List Char) : Option (List Char × Option Nat) := do
  let place := ((Text.splitChars '@' text).getLast?).getD []
  let backward := place.reverse
  match cutAt [':', ']'] backward with
  | (digits, ':' :: host) => return (host.reverse, ← port? digits.reverse)
  | _ => return (place, none)

/-- Read what stands behind the scheme of an address with a host. -/
def withHost? (scheme : String) (standard : Nat) (text : List Char) : Option Url := do
  let (front, rest) := cutAt ['?', '#'] text
  let front := front.map fun c => if c = '\\' then '/' else c
  let (authority, path) := cutAt ['/'] (front.dropWhile (· == '/'))
  let (host, port) ← authority? authority
  let host ← host? host
  let (query, fragment) := ending rest
  return {
    scheme, host := some host
    port := port.filter (· ≠ standard)
    path := String.ofList (normalPath (path.drop 1))
    query, fragment }

/-- Read what stands behind the scheme of another address. -/
def withoutHost (scheme : String) (text : List Char) : Url :=
  let (path, rest) := cutAt ['?', '#'] text
  let (query, fragment) := ending rest
  match path with
  | '/' :: '/' :: place =>
    let (authority, path) := cutAt ['/'] place
    { scheme, host := some (String.ofList authority), port := none,
      path := String.ofList (if path.isEmpty then [] else normalPath (path.drop 1)),
      query, fragment }
  | '/' :: path =>
    { scheme, host := none, port := none, path := String.ofList (normalPath path), query, fragment }
  | path =>
    { scheme, host := none, port := none, path := String.ofList (encodeIf isControl path),
      query, fragment }

/-- Whether a character may stand in a scheme. -/
def inScheme (c : Char) : Bool := c.isAlphanum || c == '+' || c == '-' || c == '.'

/-- Read an address. Spaces and control characters at its ends, tabs and line breaks do not
count. -/
def ofText? (text : String) : Option Url :=
  let blank (c : Char) : Bool := c.toNat ≤ 0x20
  let trimmed := ((text.toList.dropWhile blank).reverse.dropWhile blank).reverse
  let chars := trimmed.filter fun c => c != '\t' && c != '\n' && c != '\r'
  let scheme := chars.takeWhile inScheme
  match chars.drop scheme.length with
  | ':' :: rest =>
    if scheme.head?.any Char.isAlpha then
      let name := String.ofList (scheme.map Char.toLower)
      match defaultPorts.lookup name with
      | some standard => withHost? name standard rest
      | none => some (withoutHost name rest)
    else none
  | _ => none

/-- Put a name with a value at the end of the query. -/
def addQuery (url : Url) (name value : String) : Url :=
  let pair := String.ofList (encodePart name ++ '=' :: encodePart value)
  { url with query := match url.query with
      | some query => if query.isEmpty then some pair else some (query ++ "&" ++ pair)
      | none => some pair }

/-! ## Writing -/

/-- The path and the query, as they stand in a request. -/
def target (url : Url) : String :=
  url.path ++ (match url.query with
    | some query => "?" ++ query
    | none => "")

/-- The text of the address. -/
def text (url : Url) : String :=
  let place := match url.host with
    | some host => "//" ++ host ++ (match url.port with
      | some port => ":" ++ toString port
      | none => "")
    | none => ""
  let fragment := match url.fragment with
    | some fragment => "#" ++ fragment
    | none => ""
  url.scheme ++ ":" ++ place ++ url.target ++ fragment

/-- Whether requests can be sent to the address. -/
def isForRequests (url : Url) : Bool :=
  (url.scheme == "http" || url.scheme == "https") && url.host.any (!·.isEmpty)

end Url

end TopicAlerts.Web
