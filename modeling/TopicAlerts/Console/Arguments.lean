/-!
# Arguments of a command line

`Usage` says which commands there are, and which options and operands each of them has. Global
options may stand at every level. `Usage.parse` reads the arguments in order; the first one that has
no place is a fault, and a request for help that comes before it is answered.
-/

namespace TopicAlerts.Console

/-- An option, which is written behind two dashes. -/
structure Flag where
  /-- Its name. -/
  name : String
  /-- Whether it has a value. -/
  hasValue : Bool := false
  /-- Whether it must be given. -/
  isRequired : Bool := false
deriving DecidableEq, Repr

/-- What may stand behind the name of a command. -/
inductive Usage
  /-- Options, and one operand for each of these names. -/
  | operands (flags : List Flag) (names : List String)
  /-- Options, and one of these commands. -/
  | commands (commands : List (String × Usage))

/-- What the arguments say. -/
structure Given where
  /-- The names of the command, from the outside to the inside. -/
  path : List String
  /-- The options with their values; those that were given last come first. -/
  options : List (String × String)
  /-- The operands. -/
  operands : List String
deriving DecidableEq, Repr

/-- What becomes of the arguments. -/
inductive Parsed
  /-- Help or the version is asked for. -/
  | help
  /-- They do not fit. -/
  | invalid
  /-- They fit. -/
  | given (given : Given)
deriving DecidableEq, Repr

/-- What is known in the middle of the arguments. -/
structure ArgumentReading where
  /-- What may follow. -/
  usage : Usage
  /-- What was given. -/
  given : Given
  /-- The options that were given since the last name of a command. -/
  seen : List String
  /-- The option that waits for its value. -/
  waiting : Option Flag
  /-- Whether everything that follows is an operand. -/
  onlyOperands : Bool

namespace ArgumentReading

/-- The options of the command. -/
def flags (reading : ArgumentReading) : List Flag :=
  match reading.usage with
  | .operands flags _ => flags
  | .commands _ => []

/-- Give an option, which may be given once. -/
def give? (reading : ArgumentReading) (flag : Flag) (value : String) : Option ArgumentReading :=
  if reading.seen.contains flag.name then none
  else some { reading with
    given := { reading.given with options := (flag.name, value) :: reading.given.options }
    seen := flag.name :: reading.seen
    waiting := none }

/-- Give an operand, if there is room for one. -/
def operand? (reading : ArgumentReading) (text : String) : Option ArgumentReading :=
  match reading.usage with
  | .operands _ names =>
    if reading.given.operands.length < names.length then
      some { reading with
        given := { reading.given with operands := reading.given.operands ++ [text] } }
    else none
  | .commands _ => none

/-- What becomes of the arguments at their end. -/
def finish (reading : ArgumentReading) : Parsed :=
  match reading.usage with
  | .commands _ => .invalid
  | .operands flags names =>
    if reading.waiting.isSome || reading.given.operands.length < names.length
        || flags.any (fun flag => flag.isRequired && !reading.seen.contains flag.name) then .invalid
    else .given reading.given

end ArgumentReading

/-- Whether a text asks for the help of commands that exist. -/
def Usage.hasHelp (usage : Usage) : List String → Bool
  | [] => true
  | name :: rest =>
    match usage with
    | .operands .. => false
    | .commands subcommands =>
      match subcommands.lookup name with
      | some usage => usage.hasHelp rest
      | none => name == "help" && rest.isEmpty

/-- The name and the value of an option that is written behind two dashes. -/
def splitOption (text : List Char) : String × Option String :=
  let name := text.takeWhile (· != '=')
  (String.ofList name, match text.drop name.length with
    | '=' :: value => some (String.ofList value)
    | _ => none)

/-- Read arguments. -/
def ArgumentReading.parse (globals : List Flag) (reading : ArgumentReading) : List String → Parsed
  | [] => reading.finish
  | argument :: rest =>
    let continueWith (next : Option ArgumentReading) : Parsed :=
      match next with
      | some reading => parse globals reading rest
      | none => .invalid
    let operand : Parsed := continueWith (reading.operand? argument)
    if reading.onlyOperands then operand
    else match argument.toList with
      | ['-', '-'] => parse globals { reading with onlyOperands := true } rest
      | '-' :: '-' :: text =>
        let (name, value) := splitOption text
        if reading.waiting.isSome then .invalid
        else if name == "help" && value.isNone then .help
        else if name == "version" && value.isNone && reading.given.path.isEmpty then .help
        else match (globals ++ reading.flags).find? (·.name == name), value with
          | some flag, some value =>
            if flag.hasValue then continueWith (reading.give? flag value) else .invalid
          | some flag, none =>
            if flag.hasValue then
              if reading.seen.contains flag.name then .invalid
              else parse globals { reading with waiting := some flag } rest
            else continueWith (reading.give? flag "")
          | none, _ => .invalid
      | '-' :: c :: _ =>
        if reading.waiting.isSome then .invalid
        else if c == 'h' || (c == 'V' && reading.given.path.isEmpty) then .help
        else .invalid
      | _ =>
        match reading.waiting, reading.usage with
        | some flag, _ => continueWith (reading.give? flag argument)
        | none, .operands .. => operand
        | none, .commands subcommands =>
          match subcommands.lookup argument with
          | some usage =>
            parse globals { reading with
              usage, seen := []
              given := { reading.given with path := reading.given.path ++ [argument] } } rest
          | none =>
            if argument == "help" && reading.usage.hasHelp rest then .help
            else .invalid

/-- Read the arguments of a command line. -/
def Usage.parse (usage : Usage) (globals : List Flag) (arguments : List String) : Parsed :=
  ArgumentReading.parse globals
    { usage, given := ⟨[], [], []⟩, seen := [], waiting := none, onlyOperands := false } arguments

end TopicAlerts.Console
