import TopicAlerts.Text.Split

/-!
# Media types

Whether the media type of a body says that it is JSON: the type `application/json`, or one with
the suffix `+json`. Letters may have any case, and there may be parameters.
-/

namespace TopicAlerts.Api.MediaType

/-- Whether a character may stand in a word of a media type. -/
def isToken (c : Char) : Bool := c.isAlphanum || "!#$%&'*+-.^_`|~".toList.contains c

/-- Whether a character may stand between quotation marks in a parameter. The first character
between them may be a quotation mark, too. -/
def isQuotable (c : Char) : Bool := 0x20 ≤ c.toNat && c.toNat ≤ 0x7E && c != '"'

/-- Whether the rest of a media type is a list of parameters, at most `fuel` of them. -/
def areParameters : (fuel : Nat) → List Char → Bool
  | 0, _ => true
  | fuel + 1, text =>
    match text.dropWhile (· == ' ') with
    | [] => true
    | text =>
      let name := text.takeWhile isToken
      match name.isEmpty, text.drop name.length with
      | false, '=' :: '"' :: first :: rest =>
        match first == '"' || isQuotable first, rest.dropWhile isQuotable with
        | true, '"' :: rest =>
          match rest.dropWhile (· == ' ') with
          | [] => true
          | ';' :: rest => areParameters fuel rest
          | _ => false
        | _, _ => false
      | false, '=' :: rest =>
        let value := rest.takeWhile isToken
        match rest.drop value.length with
        | [] => true
        | ';' :: rest => !value.isEmpty && areParameters fuel rest
        | _ => false
      | _, _ => false

/-- Whether a media type says JSON. -/
def isJson (text : String) : Bool :=
  let text := text.toList.map Char.toLower
  let type := text.takeWhile (· != '/')
  let rest := text.drop (type.length + 1)
  let subtype := rest.takeWhile (· != ';')
  let parameters := rest.drop (subtype.length + 1)
  let suffix := (subtype.reverse.takeWhile (· != '+')).reverse
  let hasSuffix := suffix.length + 1 < subtype.length
  let essence := if hasSuffix then subtype.take (subtype.length - suffix.length - 1) else subtype
  let json := "json".toList
  type == "application".toList && subtype.all isToken && areParameters parameters.length parameters
    && (essence == json || (hasSuffix && suffix == json))

end TopicAlerts.Api.MediaType
