import TopicAlerts.Message

/-!
# Templates of notifications

A placeholder starts at a dollar sign with an opening brace and ends at the next closing brace.
`render` goes through a template once and writes what it reads: a placeholder becomes the value of
the variable of the message that it names, or stays as it is if there is none; all else stays.

The variables of an object are its scalars and arrays, named by their paths; a scalar message has
the variable `value`.
-/

namespace TopicAlerts.Template

mutual

/-- The variables of a value that stands under this path, each with its text. -/
def bindingsAt (path : String) : Json → List (String × String)
  | .obj members => bindingsIn path members
  | other => [(path, other.text)]

/-- The variables of the members of an object that stands under this path. -/
def bindingsIn (path : String) : List (String × Json) → List (String × String)
  | [] => []
  | (name, value) :: rest =>
    bindingsAt (if path.isEmpty then name else path ++ "." ++ name) value
      ++ bindingsIn path rest

end

/-- The variables of a message, in the order of its members. Of two with the same name the later
one counts. -/
def bindings (message : Message) : List (String × String) :=
  match message.root with
  | .obj members => bindingsIn "" members
  | .arr _ => []
  | scalar => [("value", scalar.text)]

/-- The text of the variable of this name. -/
def textOf? (bindings : List (String × String)) (name : String) : Option String :=
  bindings.reverse.lookup name

/-- The text before the first opening of a placeholder, and the text behind that opening. -/
def opening? : List Char → Option (List Char × List Char)
  | '$' :: '{' :: after => some ([], after)
  | c :: rest => (opening? rest).map fun (before, after) => (c :: before, after)
  | [] => none

theorem length_lt_of_opening? {text before after : List Char}
    (h : opening? text = some (before, after)) : after.length < text.length := by
  fun_induction opening? text generalizing before with
  | case1 rest =>
    cases h
    simp +arith
  | case2 c rest _ ih =>
    obtain ⟨⟨shorter, _⟩, hrest, heq⟩ := Option.map_eq_some_iff.mp h
    cases heq
    exact Nat.lt_succ_of_lt (ih hrest)
  | case3 => cases h

/-- What is written for a placeholder with this name. -/
def filled (bindings : List (String × String)) (name : List Char) : List Char :=
  match textOf? bindings (String.ofList name) with
  | some text => text.toList
  | none => '$' :: '{' :: name ++ ['}']

/-- Go through the rest of a template, behind what is written already. -/
def renderFrom (bindings : List (String × String)) (written rest : List Char) : List Char :=
  match _found : opening? rest with
  | none => written ++ rest
  | some (before, after) =>
    match _closed : after.dropWhile (· != '}') with
    | [] => written ++ rest
    | _ :: later =>
      let name := after.takeWhile (· != '}')
      renderFrom bindings (written ++ before ++ filled bindings name) later
termination_by rest.length
decreasing_by
  have hafter := length_lt_of_opening? _found
  have hlater := (List.dropWhile_suffix (l := after) (· != '}')).length_le
  rw [_closed, List.length_cons] at hlater
  omega

/-- The template filled with the variables of a message. -/
def render (template : String) (message : Message) : String :=
  String.ofList (renderFrom (bindings message) [] template.toList)

end TopicAlerts.Template
