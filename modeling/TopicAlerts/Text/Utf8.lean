/-!
# UTF-8

`units` cuts bytes into characters and malformed pieces. A malformed piece is as long as the bytes
at its place are the start of some character, and at least one byte. `lossy` puts the replacement
character for each of them; `percentDecode` undoes the percent-encoding of addresses.
-/

namespace TopicAlerts.Utf8

/-- How many bytes follow the first byte of a character, and the bounds of the second byte. -/
def lead? (byte : UInt8) : Option (Nat × UInt8 × UInt8) :=
  if 0xC2 ≤ byte ∧ byte ≤ 0xDF then some (1, 0x80, 0xBF)
  else if byte = 0xE0 then some (2, 0xA0, 0xBF)
  else if byte = 0xED then some (2, 0x80, 0x9F)
  else if 0xE1 ≤ byte ∧ byte ≤ 0xEF then some (2, 0x80, 0xBF)
  else if byte = 0xF0 then some (3, 0x90, 0xBF)
  else if 0xF1 ≤ byte ∧ byte ≤ 0xF3 then some (3, 0x80, 0xBF)
  else if byte = 0xF4 then some (3, 0x80, 0x8F)
  else none

/-- Whether a byte may stand behind the second byte of a character. -/
def continues (byte : UInt8) : Bool := 0x80 ≤ byte && byte ≤ 0xBF

/-- The character of the leading byte of a sequence of the given length, and its other bytes. -/
def compose (lead : UInt8) (others : List UInt8) : Char :=
  let top := lead.toNat % Nat.pow 2 (6 - others.length)
  Char.ofNat (others.foldl (fun n byte => n * 64 + byte.toNat % 64) top)

/-- The characters of a sequence of bytes; `none` stands for a malformed piece. -/
def units : List UInt8 → List (Option Char)
  | [] => []
  | a :: rest =>
    if a < 0x80 then some (Char.ofNat a.toNat) :: units rest
    else match lead? a, rest with
      | none, rest => none :: units rest
      | some _, [] => [none]
      | some (count, low, high), b :: rest =>
        if ¬(low ≤ b ∧ b ≤ high) then none :: units (b :: rest)
        else if count = 1 then some (compose a [b]) :: units rest
        else match rest with
          | [] => [none]
          | c :: rest =>
            if !continues c then none :: units (c :: rest)
            else if count = 2 then some (compose a [b, c]) :: units rest
            else match rest with
              | [] => [none]
              | d :: rest =>
                if !continues d then none :: units (d :: rest)
                else some (compose a [b, c, d]) :: units rest
termination_by bytes => bytes.length

/-- The text of a sequence of bytes, with a replacement character for each malformed piece. -/
def lossy (bytes : List UInt8) : String :=
  String.ofList ((units bytes).map (·.getD '\uFFFD'))

/-- The text of a sequence of bytes, if it has no malformed piece. -/
def decode? (bytes : List UInt8) : Option String :=
  ((units bytes).mapM id).map String.ofList

/-- The bytes of a text. -/
def encode (text : String) : List UInt8 := text.toUTF8.toList

/-- The value of a hexadecimal digit. -/
def hexDigit? (byte : UInt8) : Option UInt8 :=
  if 0x30 ≤ byte ∧ byte ≤ 0x39 then some (byte - 0x30)
  else if 0x41 ≤ byte ∧ byte ≤ 0x46 then some (byte - 0x41 + 10)
  else if 0x61 ≤ byte ∧ byte ≤ 0x66 then some (byte - 0x61 + 10)
  else none

/-- Undo percent-encoding; a percent sign without two hexadecimal digits stays. -/
def percentDecode : List UInt8 → List UInt8
  | 0x25 :: a :: b :: rest =>
    match hexDigit? a, hexDigit? b with
    | some high, some low => (high * 16 + low) :: percentDecode rest
    | _, _ => 0x25 :: percentDecode (a :: b :: rest)
  | byte :: rest => byte :: percentDecode rest
  | [] => []

end TopicAlerts.Utf8
