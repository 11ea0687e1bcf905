import TopicAlerts.Text.Split
import TopicAlerts.Text.Utf8

/-!
# Request targets

The target of a request is a path with perhaps a query, or a full address, whose path and query
count, or the name of a host, which has neither. `Target.ofText?` refuses texts that cannot stand
in a request line.
-/

namespace TopicAlerts.Api

/-- The target of a request. -/
structure Target where
  /-- The path as it is written. -/
  path : List Char
  /-- What stands behind the first question mark. -/
  query : Option (List Char)
deriving DecidableEq, Repr

namespace Target

/-- Whether a character may stand in a path. -/
def inPath (c : Char) : Bool :=
  let n := c.toNat
  n == 0x21 || n == 0x22 || (0x24 ≤ n && n ≤ 0x3B) || n == 0x3D || (0x40 ≤ n && n ≤ 0x5F)
    || (0x61 ≤ n && n ≤ 0x7E) || 0x7F ≤ n

/-- Whether a character may stand in a query. -/
def inQuery (c : Char) : Bool :=
  let n := c.toNat
  n == 0x21 || (0x24 ≤ n && n ≤ 0x3B) || n == 0x3D || 0x3F ≤ n

/-- Whether a character may stand in the name of a host, apart from the percent sign. -/
def inHost (c : Char) : Bool :=
  c.isAlphanum || "!$&'()*+,-.:;=@[]_~".toList.contains c

/-- Read a path with perhaps a query; a fragment behind them does not count. -/
def ofPath? (text : List Char) : Option Target :=
  let path := text.takeWhile fun c => c != '?' && c != '#'
  if !path.all inPath then none
  else match text.drop path.length with
    | '?' :: rest =>
      let query := rest.takeWhile (· != '#')
      if query.all inQuery then some ⟨path, some query⟩ else none
    | _ => some ⟨path, none⟩

/-- What was seen of the name of a host. An `@` ends the name of a user, and a closing bracket a
numeric address; the colons and percent signs of these do not count behind them. -/
structure HostScan where
  /-- How many colons count. -/
  colons : Nat := 0
  /-- Whether a percent sign counts. -/
  encoded : Bool := false
  /-- Whether there was an opening bracket. -/
  opened : Bool := false
  /-- Whether there was a closing bracket. -/
  closed : Bool := false

/-- Whether a text may go on with the name of a host, after what was seen of it. -/
def goesOn (scan : HostScan) : List Char → Bool
  | [] => scan.opened == scan.closed && scan.colons ≤ 1 && !scan.encoded
  | ':' :: rest => scan.colons < 8 && goesOn { scan with colons := scan.colons + 1 } rest
  | '[' :: rest => !scan.encoded && !scan.opened && goesOn { scan with opened := true } rest
  | ']' :: rest =>
    scan.opened && !scan.closed && goesOn ⟨0, false, true, true⟩ rest
  | '@' :: rest => !rest.isEmpty && goesOn { scan with colons := 0, encoded := false } rest
  | '%' :: rest => goesOn { scan with encoded := true } rest
  | c :: rest => inHost c && goesOn scan rest

/-- Whether a text may name a host, perhaps with a user and a port. -/
def isHost (text : List Char) : Bool := !text.isEmpty && goesOn {} text

/-- What stands behind the scheme of a full address. -/
def behindScheme? (text : List Char) : Option (List Char) :=
  let scheme := text.takeWhile fun c =>
    c.isAlphanum || c == '+' || c == '-' || c == '.'
  match text.drop scheme.length with
  | ':' :: '/' :: '/' :: rest => some rest
  | _ => none

/-- How many bytes the target of a request may have. -/
def byteLimit : Nat := 65534

/-- Read the target of a request. -/
def ofText? (text : String) : Option Target :=
  if byteLimit < text.utf8ByteSize then none
  else match text.toList with
  | [] => none
  | '/' :: rest => ofPath? ('/' :: rest)
  | ['*'] => some ⟨['*'], none⟩
  | text =>
    match behindScheme? text with
    | none => if isHost text then some ⟨[], none⟩ else none
    | some rest =>
      let host := rest.takeWhile fun c => c != '/' && c != '?' && c != '#'
      if !isHost host then none
      else (ofPath? (rest.drop host.length)).map fun target =>
        if target.path.isEmpty then { target with path := ['/'] } else target

/-- The segments of the path, as they are written. -/
def segments (target : Target) : List String :=
  match target.path with
  | '/' :: rest => (Text.splitChars '/' rest).map String.ofList
  | _ => []

/-- Undo the encoding of a part of a query. -/
def decodePart (part : List Char) : String :=
  let spaced := part.map fun c => if c = '+' then ' ' else c
  Utf8.lossy (Utf8.percentDecode (Utf8.encode (String.ofList spaced)))

/-- The names and values of the query. -/
def parameters (target : Target) : List (String × String) :=
  let parts := (Text.splitChars '&' (target.query.getD [])).filter (!·.isEmpty)
  parts.map fun part =>
    let name := part.takeWhile (· != '=')
    (decodePart name, decodePart (part.drop (name.length + 1)))

/-- Undo the encoding of a segment of a path, unless its bytes are no text. -/
def decodeSegment? (segment : String) : Option String :=
  Utf8.decode? (Utf8.percentDecode (Utf8.encode segment))

end Target

end TopicAlerts.Api
