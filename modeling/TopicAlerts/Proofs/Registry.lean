import TopicAlerts.Proofs.WindowGrid
import TopicAlerts.Throttle.Registry

/-!
# The windows of the throttle registry

Each question is about one key. It finds the window of that key, or makes it, and leaves the
windows of all other keys as they are. The window of a key is thus known from the questions about
it: it was made by the first of them, and all of them were put to it (`windowOf`).
-/

namespace TopicAlerts.Throttle

/-- The window of some settings after calls at these instants, if there were any. -/
def windowOf (settings : Settings) : List Int → Option Window
  | [] => none
  | first :: rest => some (Window.after settings.permits settings.period first (first :: rest))

section WindowOf

variable {settings : Settings} {calls : List Int} {now : Int}

theorem windowOf_append :
    windowOf settings (calls ++ [now]) =
      some (((windowOf settings calls).getD
        (Window.new settings.permits settings.period now)).tryAcquire now).2 := by
  cases calls with
  | nil => rfl
  | cons first rest => exact congrArg some (Window.after_append _ _ first (first :: rest) now)

/-- A call is admitted if fewer earlier calls than there are permits lie in its cell of the grid
that starts at the first call. -/
theorem windowOf_tryAcquire (hP : 0 < settings.period)
    (sorted : (calls ++ [now]).Pairwise (· ≤ ·))
    (span : ∀ s ∈ calls ++ [now], ∀ t ∈ calls ++ [now],
      t - s < UInt32.size * settings.period) :
    (((windowOf settings calls).getD
        (Window.new settings.permits settings.period now)).tryAcquire now).1 =
      decide ((callsInCell (calls.headD now) settings.period calls now).length <
        settings.permits) := by
  cases calls with
  | nil =>
    have hspan : ∀ t ∈ [now], t - now < UInt32.size * settings.period :=
      fun t ht => span now (by simp) t ht
    exact Window.tryAcquire_after hP [] now (by simp) hspan
  | cons first rest =>
    have hfirst : ∀ t ∈ first :: (rest ++ [now]), first ≤ t := by
      intro t ht
      rcases List.mem_cons.mp ht with rfl | ht
      · exact le_rfl
      · exact (List.pairwise_cons.mp sorted).1 t ht
    have hsorted : (first :: (first :: rest ++ [now])).Pairwise (· ≤ ·) :=
      List.pairwise_cons.mpr ⟨hfirst, sorted⟩
    exact Window.tryAcquire_after hP (first :: rest) now hsorted
      fun t ht => span first (by simp) t ht

end WindowOf

namespace Registry

theorem lookup_putIn_self (key : Key) (window : Window) (windows : List (Key × Window)) :
    (putIn key window windows).lookup key = some window := by
  induction windows with
  | nil => simp [putIn]
  | cons entry rest ih =>
    obtain ⟨k, w⟩ := entry
    unfold putIn
    by_cases hk : k = key
    · simp [hk]
    · rw [if_neg hk, List.lookup_cons, beq_false_of_ne (Ne.symm hk)]
      exact ih

theorem lookup_putIn_of_ne {key other : Key} (h : other ≠ key) (window : Window)
    (windows : List (Key × Window)) :
    (putIn key window windows).lookup other = windows.lookup other := by
  induction windows with
  | nil => simp [putIn, List.lookup_cons, beq_false_of_ne h]
  | cons entry rest ih =>
    obtain ⟨k, w⟩ := entry
    unfold putIn
    by_cases hk : k = key
    · subst hk
      simp [List.lookup_cons, beq_false_of_ne h]
    · rw [if_neg hk, List.lookup_cons, List.lookup_cons, ih]

/-- The window that a question at this instant is put to. -/
def windowAt (registry : Registry) (key : Key) (now : Int) : Window :=
  (registry.window? key).getD (Window.new key.settings.permits key.settings.period now)

/-- The answer to a question is that of the window of its key. -/
theorem shouldSend_answer (registry : Registry) (rule : String) (settings : Settings) (now : Int) :
    (registry.shouldSend rule settings now).1 =
      ((registry.windowAt ⟨rule, settings⟩ now).tryAcquire now).1 := rfl

theorem window?_shouldSend_self (registry : Registry) (rule : String) (settings : Settings)
    (now : Int) :
    (registry.shouldSend rule settings now).2.window? ⟨rule, settings⟩ =
      some ((registry.windowAt ⟨rule, settings⟩ now).tryAcquire now).2 :=
  lookup_putIn_self _ _ _

theorem window?_shouldSend_of_ne (registry : Registry) {rule : String} {settings : Settings}
    {key : Key} (h : key ≠ ⟨rule, settings⟩) (now : Int) :
    (registry.shouldSend rule settings now).2.window? key = registry.window? key :=
  lookup_putIn_of_ne h _ _

@[simp] theorem shouldSend_defaults (registry : Registry) (rule : String) (settings : Settings)
    (now : Int) : (registry.shouldSend rule settings now).2.defaults = registry.defaults := rfl

end Registry

end TopicAlerts.Throttle
