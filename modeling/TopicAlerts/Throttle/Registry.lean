import TopicAlerts.Throttle.Window

/-!
# The throttle registry

The registry holds a fixed window for each pair of a rule and settings under which the rule was
asked about; the window is made by the first call. A rule without settings of its own has the
default ones.
-/

namespace TopicAlerts.Throttle

/-- How often a rule may notify. -/
structure Settings where
  /-- How many notifications a period admits. -/
  permits : Nat
  /-- The length of a period in nanoseconds. -/
  period : Nat
deriving DecidableEq, Repr

/-- The nanoseconds of a second. -/
def nanosOfSecond : Nat := 1000000000

/-- The nanoseconds of a millisecond. -/
def nanosOfMilli : Nat := 1000000

namespace Settings

/-- One notification in five minutes. -/
def standard : Settings := ⟨1, 300 * nanosOfSecond⟩

/-- The settings with what overrides them. -/
def override (settings : Settings) (period permits : Option Nat) : Settings :=
  ⟨permits.getD settings.permits, period.getD settings.period⟩

/-- The length of a period in whole seconds. -/
def periodSeconds (settings : Settings) : Nat := settings.period / nanosOfSecond

end Settings

/-- What a window belongs to. -/
structure Key where
  /-- The id of the rule. -/
  rule : String
  /-- The settings that the window was made with. -/
  settings : Settings
deriving DecidableEq, Repr

/-- The windows of all rules. -/
structure Registry where
  /-- The settings of rules without their own. -/
  defaults : Settings
  /-- The windows that were made, each with its key. -/
  windows : List (Key × Window)
deriving Repr

namespace Registry

/-- The registry without windows. -/
def empty (defaults : Settings) : Registry := ⟨defaults, []⟩

/-- How many windows there are. -/
def size (registry : Registry) : Nat := registry.windows.length

/-- The settings of a rule with these of its own. -/
def effective (registry : Registry) (period permits : Option Nat) : Settings :=
  registry.defaults.override period permits

/-- The window of a key, if it was made. -/
def window? (registry : Registry) (key : Key) : Option Window := registry.windows.lookup key

/-- Put the window of a key, in the place of the one that it has. -/
def putIn (key : Key) (window : Window) : List (Key × Window) → List (Key × Window)
  | [] => [(key, window)]
  | (k, w) :: rest => if k = key then (key, window) :: rest else (k, w) :: putIn key window rest

/-- Ask whether a rule may notify at an instant, and count it if so. -/
def shouldSend (registry : Registry) (rule : String) (settings : Settings) (now : Int) :
    Bool × Registry :=
  let key : Key := ⟨rule, settings⟩
  let window := (registry.window? key).getD (Window.new settings.permits settings.period now)
  let (allowed, window) := window.tryAcquire now
  (allowed, { registry with windows := putIn key window registry.windows })

/-- Ask in the name of a rule, but with the default settings. -/
def test (registry : Registry) (rule : String) (now : Int) : Bool × Registry :=
  registry.shouldSend rule registry.defaults now

/-- Keep the windows whose key passes a test, and count the others. -/
def retain (registry : Registry) (keep : Key → Bool) : Nat × Registry :=
  let windows := registry.windows.filter fun (key, _) => keep key
  (registry.windows.length - windows.length, { registry with windows })

/-- Drop the windows of a rule, and count them. -/
def clear (registry : Registry) (rule : String) : Nat × Registry :=
  registry.retain fun key => key.rule != rule

/-- Drop all windows, and count them. -/
def clearAll (registry : Registry) : Nat × Registry :=
  (registry.size, { registry with windows := [] })

/-- Drop the windows of a rule with other than its current settings, and count them. -/
def forgetStale (registry : Registry) (rule : String) (current : Settings) : Nat × Registry :=
  registry.retain fun key => key.rule != rule || key = ⟨rule, current⟩

/-- The keys of the windows of a rule. -/
def keysOf (registry : Registry) (rule : String) : List Key :=
  (registry.windows.map (·.1)).filter fun key => key.rule = rule

end Registry

end TopicAlerts.Throttle
