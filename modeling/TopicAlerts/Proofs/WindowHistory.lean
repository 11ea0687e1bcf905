import Mathlib.Data.List.Basic
import Mathlib.Data.List.Induction
import Mathlib.Data.List.Nodup
import TopicAlerts.Proofs.Registry

/-!
# The history of a window

Calls of the throttle registry come in any order: questions about keys, and calls that drop windows.
Seen from one key the registry is a single window. It was made by the first question about the key
since its window was last dropped, and only the questions about that key since then were put to it
(`Registry.window?_run`).

`Registry.run_replies` says so of the answers. Two registries that agree on the window of a key go
on to agree on it (`Registry.Agree`), so calls that concern other keys do not matter for the answers
about this one. And a call that drops windows drops those that it is meant to, counts them, and
leaves the others as they are.
-/

namespace TopicAlerts.Throttle

/-- A call of the registry. -/
inductive Call
  /-- May a rule with these settings notify? -/
  | shouldSend (rule : String) (settings : Settings) (now : Int)
  /-- The same question with the default settings. -/
  | test (rule : String) (now : Int)
  | clear (rule : String)
  | clearAll
  | forgetStale (rule : String) (current : Settings)

/-- The answer to a call. -/
inductive Reply
  | allowed (allowed : Bool)
  /-- So many windows were dropped. -/
  | dropped (count : Nat)
deriving DecidableEq, Repr

namespace Call

/-- The key that a call asks about, and when. -/
def question? (defaults : Settings) : Call → Option (Key × Int)
  | .shouldSend rule settings now => some (⟨rule, settings⟩, now)
  | .test rule now => some (⟨rule, defaults⟩, now)
  | .clear _ | .clearAll | .forgetStale _ _ => none

/-- Whether a call asks about a key. -/
def asks (defaults : Settings) (key : Key) (call : Call) : Bool :=
  (call.question? defaults).any (·.1 == key)

/-- Whether a call drops the window of a key. -/
def drops (key : Key) : Call → Bool
  | .clear rule => key.rule == rule
  | .clearAll => true
  | .forgetStale rule current => key.rule == rule && key.settings != current
  | .shouldSend _ _ _ | .test _ _ => false

/-- Whether a call concerns a key: others ask about other keys, or drop other windows. -/
def concerns (defaults : Settings) (key : Key) (call : Call) : Bool :=
  call.asks defaults key || call.drops key

end Call

/-- The instants of the questions about a key since its window was last dropped. -/
def instantsSince (defaults : Settings) (key : Key) (calls : List Call) : List Int :=
  calls.foldl (fun instants call =>
    if call.drops key then []
    else match call.question? defaults with
      | some (asked, now) => if asked = key then instants ++ [now] else instants
      | none => instants) []

namespace Registry

/-- Answer a call. -/
def reply (registry : Registry) : Call → Reply × Registry
  | .shouldSend rule settings now =>
    let (allowed, registry) := registry.shouldSend rule settings now
    (.allowed allowed, registry)
  | .test rule now =>
    let (allowed, registry) := registry.test rule now
    (.allowed allowed, registry)
  | .clear rule =>
    let (count, registry) := registry.clear rule
    (.dropped count, registry)
  | .clearAll =>
    let (count, registry) := registry.clearAll
    (.dropped count, registry)
  | .forgetStale rule current =>
    let (count, registry) := registry.forgetStale rule current
    (.dropped count, registry)

/-- The registry after some calls. -/
def run (registry : Registry) (calls : List Call) : Registry :=
  calls.foldl (fun registry call => (registry.reply call).2) registry

/-- Some calls, one after the other, each with its answer. -/
def replies (registry : Registry) : List Call → List (Call × Reply)
  | [] => []
  | call :: rest => (call, (registry.reply call).1) :: (registry.reply call).2.replies rest

/-- The keys that have a window. -/
def keys (registry : Registry) : List Key := registry.windows.map (·.1)

/-- No key has two windows. -/
def Keyed (registry : Registry) : Prop := registry.keys.Nodup

variable {registry other : Registry} {key : Key} {call : Call} {now : Int}

theorem mem_keys : key ∈ registry.keys ↔ (registry.window? key).isSome := by
  unfold keys window?
  rw [List.lookup_isSome_iff, List.mem_map]
  constructor
  · rintro ⟨entry, inside, rfl⟩
    exact ⟨entry, inside, beq_self_eq_true _⟩
  · rintro ⟨entry, inside, same⟩
    exact ⟨entry, inside, (beq_iff_eq.mp same).symm⟩

/-! ## Questions -/

theorem keys_putIn (window : Window) (windows : List (Key × Window)) :
    (putIn key window windows).map (·.1) =
      if key ∈ windows.map (·.1) then windows.map (·.1) else windows.map (·.1) ++ [key] := by
  induction windows with
  | nil => rfl
  | cons entry rest ih =>
    obtain ⟨k, w⟩ := entry
    unfold putIn
    by_cases same : k = key
    · simp [same]
    · have differs : key ≠ k := Ne.symm same
      simp only [if_neg same, List.map_cons, ih, List.mem_cons, differs, false_or]
      split_ifs <;> rfl

theorem keys_shouldSend (rule : String) (settings : Settings) :
    (registry.shouldSend rule settings now).2.keys =
      if ⟨rule, settings⟩ ∈ registry.keys then registry.keys
      else registry.keys ++ [⟨rule, settings⟩] :=
  keys_putIn _ _

theorem Keyed.shouldSend (keyed : registry.Keyed) (rule : String) (settings : Settings) :
    (registry.shouldSend rule settings now).2.Keyed := by
  unfold Keyed
  rw [keys_shouldSend]
  split_ifs with known
  · exact keyed
  · rw [List.nodup_append]
    refine ⟨keyed, List.nodup_singleton _, ?_⟩
    intro old inside new isNew same
    rw [List.mem_singleton.mp isNew] at same
    exact known (same ▸ inside)

/-- Every question is one about its key, with the settings of that key. -/
theorem reply_of_question (asked : call.question? registry.defaults = some (key, now)) :
    (registry.reply call).1 = .allowed ((registry.windowAt key now).tryAcquire now).1 ∧
      (registry.reply call).2 = (registry.shouldSend key.rule key.settings now).2 := by
  cases call with
  | shouldSend rule settings instant =>
    cases asked
    exact ⟨rfl, rfl⟩
  | test rule instant =>
    cases asked
    exact ⟨rfl, rfl⟩
  | clear rule => cases asked
  | clearAll => cases asked
  | forgetStale rule current => cases asked

/-! ## Windows that are dropped -/

theorem lookup_filter (keep : Key → Bool) (windows : List (Key × Window)) :
    (windows.filter fun (key, _) => keep key).lookup key =
      if keep key then windows.lookup key else none := by
  induction windows with
  | nil => simp
  | cons entry rest ih =>
    obtain ⟨k, w⟩ := entry
    by_cases same : key = k
    · subst same
      by_cases kept : keep key
      · simp [kept]
      · rw [List.filter_cons_of_neg (by simpa using kept), ih]
        simp [kept]
    · have differs : (key == k) = false := beq_false_of_ne same
      have later : List.lookup key ((k, w) :: rest) = rest.lookup key := by
        rw [List.lookup_cons, differs]
      rw [later, ← ih]
      by_cases kept : keep k
      · rw [List.filter_cons_of_pos (by simpa using kept), List.lookup_cons, differs]
      · rw [List.filter_cons_of_neg (by simpa using kept)]

theorem window?_retain (keep : Key → Bool) :
    (registry.retain keep).2.window? key = if keep key then registry.window? key else none :=
  lookup_filter keep registry.windows

theorem keys_retain (keep : Key → Bool) :
    (registry.retain keep).2.keys = registry.keys.filter keep := by
  unfold keys
  rw [List.filter_map]
  rfl

theorem count_retain (keep : Key → Bool) :
    (registry.retain keep).1 = (registry.keys.filter fun key => !keep key).length := by
  have dropped : (registry.keys.filter fun key => !keep key).length =
      (registry.windows.filter fun entry => !keep entry.1).length := by
    unfold keys
    rw [List.filter_map, List.length_map]
    rfl
  have count : (registry.retain keep).1 =
      registry.windows.length - (registry.windows.filter fun entry => keep entry.1).length := rfl
  have split : registry.windows.length =
      (registry.windows.filter fun entry => keep entry.1).length +
        (registry.windows.filter fun entry => !keep entry.1).length :=
    List.length_eq_length_filter_add _
  omega

theorem Keyed.retain (keyed : registry.Keyed) (keep : Key → Bool) :
    (registry.retain keep).2.Keyed := by
  unfold Keyed
  rw [keys_retain]
  exact keyed.filter keep

theorem clearAll_eq_retain : registry.clearAll = registry.retain fun _ => false := by
  have nothing : (registry.windows.filter fun _ => false) = [] :=
    List.filter_eq_nil_iff.mpr fun _ _ => Bool.false_ne_true
  unfold clearAll retain
  rw [nothing]
  rfl

theorem forgetStale_eq_retain (rule : String) (current : Settings) :
    registry.forgetStale rule current =
      registry.retain fun key => !(Call.forgetStale rule current).drops key := by
  unfold forgetStale
  congr 1
  funext ⟨owner, settings⟩
  by_cases own : owner = rule
  · by_cases same : settings = current <;> simp [Call.drops, own, same]
  · simp [Call.drops, bne, own]

/-- Every other call drops some windows. -/
theorem reply_of_no_question (asksNothing : call.question? registry.defaults = none) :
    (registry.reply call).1 = .dropped (registry.retain fun key => !call.drops key).1 ∧
      (registry.reply call).2 = (registry.retain fun key => !call.drops key).2 := by
  cases call with
  | shouldSend rule settings instant => cases asksNothing
  | test rule instant => cases asksNothing
  | clear rule => exact ⟨rfl, rfl⟩
  | clearAll =>
    unfold reply
    rw [clearAll_eq_retain]
    exact ⟨rfl, rfl⟩
  | forgetStale rule current =>
    unfold reply
    dsimp only
    rw [forgetStale_eq_retain]
    exact ⟨rfl, rfl⟩

/-! ## One call -/

theorem drops_of_question {defaults : Settings} {asked : Key}
    (question : call.question? defaults = some (asked, now)) : call.drops key = false := by
  cases call with
  | shouldSend rule settings instant => rfl
  | test rule instant => rfl
  | clear rule => cases question
  | clearAll => cases question
  | forgetStale rule current => cases question

theorem defaults_reply : (registry.reply call).2.defaults = registry.defaults := by
  cases call <;> rfl

theorem Keyed.reply (keyed : registry.Keyed) : (registry.reply call).2.Keyed := by
  cases question : call.question? registry.defaults with
  | some asked =>
    obtain ⟨-, next⟩ := reply_of_question question
    rw [next]
    exact keyed.shouldSend _ _
  | none =>
    obtain ⟨-, next⟩ := reply_of_no_question question
    rw [next]
    exact keyed.retain _

/-- What a call makes of the window of a key depends on this window only. -/
theorem window?_reply :
    (registry.reply call).2.window? key =
      if call.drops key then none
      else match call.question? registry.defaults with
        | some (asked, now) =>
          if asked = key then some ((registry.windowAt key now).tryAcquire now).2
          else registry.window? key
        | none => registry.window? key := by
  cases question : call.question? registry.defaults with
  | some asked =>
    obtain ⟨asked, instant⟩ := asked
    obtain ⟨-, next⟩ := reply_of_question question
    rw [next, drops_of_question question, if_neg Bool.false_ne_true]
    dsimp only
    split_ifs with same
    · subst same
      exact window?_shouldSend_self registry asked.rule asked.settings instant
    · exact window?_shouldSend_of_ne registry (Ne.symm same) instant
  | none =>
    obtain ⟨-, next⟩ := reply_of_no_question question
    rw [next, window?_retain]
    cases call.drops key <;> rfl

/-! ## Runs -/

variable {defaults : Settings} {calls : List Call}

theorem run_append : registry.run (calls ++ [call]) = ((registry.run calls).reply call).2 := by
  simp [run]

theorem defaults_run : (registry.run calls).defaults = registry.defaults := by
  induction calls generalizing registry with
  | nil => rfl
  | cons call rest ih => exact ih.trans defaults_reply

theorem Keyed.run (keyed : registry.Keyed) : (registry.run calls).Keyed := by
  induction calls generalizing registry with
  | nil => exact keyed
  | cons call rest ih => exact ih keyed.reply

theorem keyed_empty : (empty defaults).Keyed := List.nodup_nil

theorem instantsSince_append :
    instantsSince defaults key (calls ++ [call]) =
      if call.drops key then []
      else match call.question? defaults with
        | some (asked, now) =>
          if asked = key then instantsSince defaults key calls ++ [now]
          else instantsSince defaults key calls
        | none => instantsSince defaults key calls := by
  simp [instantsSince]

/-- The window of a key is the one made by the first question since it was last dropped, after all
questions since then. -/
theorem window?_run : ((empty defaults).run calls).window? key =
    windowOf key.settings (instantsSince defaults key calls) := by
  induction calls using List.reverseRecOn with
  | nil => rfl
  | append_singleton calls call ih =>
    have sameDefaults : ((empty defaults).run calls).defaults = defaults := defaults_run
    rw [run_append, window?_reply, instantsSince_append, sameDefaults]
    split_ifs with dropped
    · rfl
    · cases question : call.question? defaults with
      | none => exact ih
      | some asked =>
        obtain ⟨asked, now⟩ := asked
        dsimp only
        split_ifs with same
        · unfold windowAt
          rw [ih, windowOf_append]
        · exact ih

/-! ## Calls that concern other keys -/

/-- Two registries have the same window for a key, or both have none. -/
structure Agree (key : Key) (registry other : Registry) : Prop where
  defaults_eq : registry.defaults = other.defaults
  window_eq : registry.window? key = other.window? key

theorem Agree.reply (agree : Agree key registry other) (call : Call) :
    Agree key (registry.reply call).2 (other.reply call).2 where
  defaults_eq := defaults_reply.trans (agree.defaults_eq.trans defaults_reply.symm)
  window_eq := by
    rw [window?_reply, window?_reply, agree.defaults_eq, agree.window_eq]
    unfold windowAt
    rw [agree.window_eq]

theorem Agree.reply_eq (agree : Agree key registry other)
    (asked : call.asks registry.defaults key = true) :
    (registry.reply call).1 = (other.reply call).1 := by
  unfold Call.asks at asked
  cases question : call.question? registry.defaults with
  | none => simp [question] at asked
  | some about =>
    obtain ⟨about, now⟩ := about
    obtain rfl : about = key := by simpa [question] using asked
    obtain ⟨answer, -⟩ := reply_of_question question
    rw [agree.defaults_eq] at question
    obtain ⟨otherAnswer, -⟩ := reply_of_question question
    rw [answer, otherAnswer]
    unfold windowAt
    rw [agree.window_eq]

/-- A call that concerns other keys makes no difference. -/
theorem Agree.skip (agree : Agree key registry other)
    (elsewhere : call.concerns registry.defaults key = false) :
    Agree key (registry.reply call).2 other where
  defaults_eq := defaults_reply.trans agree.defaults_eq
  window_eq := by
    obtain ⟨asksOther, dropsOther⟩ := Bool.or_eq_false_iff.mp elsewhere
    rw [window?_reply, dropsOther, if_neg Bool.false_ne_true]
    cases question : call.question? registry.defaults with
    | none => exact agree.window_eq
    | some about =>
      obtain ⟨about, now⟩ := about
      have differs : about ≠ key := by simpa [Call.asks, question] using asksOther
      dsimp only
      rw [if_neg differs]
      exact agree.window_eq

/-- Registries that agree on a key give the same answers about it, even if one of them misses calls
that concern other keys. -/
theorem Agree.replies (agree : Agree key registry other) {kept : Call → Bool}
    (keeps : ∀ call : Call, call.concerns registry.defaults key = true → kept call = true)
    (calls : List Call) :
    ((other.replies (calls.filter kept)).filter
        fun (call, _) => call.asks registry.defaults key) =
      (registry.replies calls).filter fun (call, _) => call.asks registry.defaults key := by
  induction calls generalizing registry other with
  | nil => rfl
  | cons call rest ih =>
    by_cases isKept : kept call = true
    · have later := ih (agree.reply call) (by rwa [defaults_reply])
      rw [defaults_reply] at later
      rw [List.filter_cons_of_pos isKept, Registry.replies, Registry.replies]
      by_cases asked : call.asks registry.defaults key = true
      · rw [List.filter_cons_of_pos (by simpa using asked),
          List.filter_cons_of_pos (by simpa using asked), later, agree.reply_eq asked]
      · rw [List.filter_cons_of_neg (by simpa using asked),
          List.filter_cons_of_neg (by simpa using asked), later]
    · have elsewhere : call.concerns registry.defaults key = false :=
        Bool.eq_false_iff.mpr fun concerned => isKept (keeps call concerned)
      obtain ⟨notAsked, -⟩ := Bool.or_eq_false_iff.mp elsewhere
      have later := ih (agree.skip elsewhere) (by rwa [defaults_reply])
      rw [defaults_reply] at later
      rw [List.filter_cons_of_neg isKept, later, Registry.replies,
        List.filter_cons_of_neg (by simpa using notAsked)]

/-- After any calls, a question about a key is answered by a single window with the settings of the
key, made at the first question about it since its window was last dropped, and asked nothing else
since then. Leaving out any calls that concern other keys changes no answer about this key. A call
that is no question drops the windows that it is meant to, answers with their number, and leaves all
other windows as they are. -/
theorem run_replies (defaults : Settings) (calls : List Call) :
    let registry := (empty defaults).run calls
    (∀ call key now, call.question? defaults = some (key, now) →
      let earlier := instantsSince defaults key calls
      let window :=
        Window.after key.settings.permits key.settings.period (earlier.headD now) earlier
      (registry.reply call).1 = .allowed (window.tryAcquire now).1) ∧
    (∀ key (kept : Call → Bool),
      (∀ call : Call, call.concerns defaults key = true → kept call = true) →
      ((empty defaults).replies (calls.filter kept)).filter
          (fun (call, _) => call.asks defaults key) =
        ((empty defaults).replies calls).filter fun (call, _) => call.asks defaults key) ∧
    ∀ call, call.question? defaults = none →
      ∃ dropped : List Key, dropped.Nodup ∧
        (∀ key, key ∈ dropped ↔ (registry.window? key).isSome ∧ call.drops key = true) ∧
        (registry.reply call).1 = .dropped dropped.length ∧
        ∀ key, (registry.reply call).2.window? key =
          if key ∈ dropped then none else registry.window? key := by
  intro registry
  have sameDefaults : registry.defaults = defaults := defaults_run
  refine ⟨?_, ?_, ?_⟩
  · intro call key now asked
    rw [← sameDefaults] at asked
    obtain ⟨answer, -⟩ := reply_of_question asked
    rw [answer]
    unfold windowAt
    rw [window?_run]
    cases instantsSince defaults key calls <;> rfl
  · intro key kept keeps
    have agree : Agree key (empty defaults) (empty defaults) := ⟨rfl, rfl⟩
    exact agree.replies keeps calls
  · intro call asksNothing
    rw [← sameDefaults] at asksNothing
    obtain ⟨count, next⟩ := reply_of_no_question asksNothing
    have keyed : registry.Keyed := keyed_empty.run
    refine ⟨registry.keys.filter (call.drops ·), keyed.filter _, ?_, ?_, ?_⟩
    · intro key
      rw [List.mem_filter, mem_keys]
    · rw [count, count_retain]
      simp
    · intro key
      rw [next, window?_retain]
      simp only [List.mem_filter, mem_keys]
      cases call.drops key with
      | true => cases found : registry.window? key <;> simp
      | false => simp

end Registry

end TopicAlerts.Throttle
