import Mathlib.Tactic.Tauto
import Mathlib.Tactic.TypeStar

/-!
# Computations that refuse

A computation that checks one thing after the other refuses for the first fault that it finds.
`FirstFault` says which one that is, apart from any computation; `ite_eq_error_iff` and
`bind_eq_error_iff` show it of checks and of their sequence.
-/

namespace TopicAlerts

section Results

variable {ε α β : Type} {x : Except ε α}

theorem bind_eq_ok {f : α → Except ε β} {b : β} :
    x >>= f = .ok b ↔ ∃ a, x = .ok a ∧ f a = .ok b := by
  cases x with
  | error e => simp [bind, Except.bind]
  | ok a => simp [bind, Except.bind]

theorem map_eq_ok {f : α → β} {b : β} : x.map f = .ok b ↔ ∃ a, x = .ok a ∧ f a = b := by
  cases x with
  | error e => simp [Except.map]
  | ok a => simp [Except.map]

theorem map_eq_error {f : α → β} {e : ε} : x.map f = .error e ↔ x = .error e := by
  cases x with
  | error e' => simp [Except.map]
  | ok a => simp [Except.map]

end Results

variable {ε : Type}

/-! ## Faults -/

/-- A reason to refuse something. -/
structure Fault (ε : Type) where
  /-- When there is this reason. -/
  Applies : Prop
  /-- The error that tells it. -/
  error : ε

/-- The error of the first fault that applies. -/
inductive FirstFault {ε : Type} : List (Fault ε) → ε → Prop
  /-- The fault at the front applies. -/
  | here {fault : Fault ε} {rest : List (Fault ε)} (applies : fault.Applies) :
      FirstFault (fault :: rest) fault.error
  /-- The fault at the front does not apply, so a later one counts. -/
  | later {fault : Fault ε} {rest : List (Fault ε)} {error : ε} (passes : ¬fault.Applies)
      (first : FirstFault rest error) : FirstFault (fault :: rest) error

variable {fault : Fault ε} {faults rest : List (Fault ε)} {error : ε}

theorem not_firstFault_nil : ¬FirstFault [] error := by
  intro first
  cases first

theorem firstFault_cons_iff : FirstFault (fault :: rest) error ↔
    fault.Applies ∧ error = fault.error ∨ ¬fault.Applies ∧ FirstFault rest error := by
  constructor
  · intro first
    cases first with
    | here applies => exact .inl ⟨applies, rfl⟩
    | later passes first => exact .inr ⟨passes, first⟩
  · rintro (⟨applies, rfl⟩ | ⟨passes, first⟩)
    · exact .here applies
    · exact .later passes first

theorem firstFault_singleton_iff :
    FirstFault [fault] error ↔ fault.Applies ∧ error = fault.error := by
  simp [firstFault_cons_iff, not_firstFault_nil]

/-- Faults that are looked for later count only if none of the earlier ones applies. -/
theorem firstFault_append_iff : FirstFault (faults ++ rest) error ↔
    FirstFault faults error ∨ (∀ fault ∈ faults, ¬fault.Applies) ∧ FirstFault rest error := by
  induction faults with
  | nil => simp [not_firstFault_nil]
  | cons fault later ih =>
    rw [List.cons_append, firstFault_cons_iff, firstFault_cons_iff, ih]
    simp only [List.forall_mem_cons]
    tauto

theorem FirstFault.exists_applies (first : FirstFault faults error) :
    ∃ fault ∈ faults, fault.Applies := by
  induction first with
  | here applies => exact ⟨_, List.mem_cons_self, applies⟩
  | later _ _ ih =>
    obtain ⟨fault, inside, applies⟩ := ih
    exact ⟨fault, List.mem_cons_of_mem _ inside, applies⟩

/-- If a fault applies, one of those that apply is the first. -/
theorem exists_firstFault {fault : Fault ε} (inside : fault ∈ faults) (applies : fault.Applies) :
    ∃ error, FirstFault faults error := by
  induction faults with
  | nil => cases inside
  | cons front later ih =>
    by_cases atFront : front.Applies
    · exact ⟨front.error, .here atFront⟩
    · have isLater : fault ∈ later := by
        rcases List.mem_cons.mp inside with rfl | isLater
        · exact absurd applies atFront
        · exact isLater
      obtain ⟨error, first⟩ := ih isLater
      exact ⟨error, .later atFront first⟩

/-! ## Checks that refuse

A computation that refuses is described by its faults: it fails with an error exactly if that is the
error of the first fault that applies. -/

theorem ok_eq_error_iff {α : Type*} (a : α) :
    (.ok a : Except ε α) = .error error ↔ FirstFault [] error := by
  simp [not_firstFault_nil]

/-- A check that fails refuses for its fault, before all that is checked later. -/
theorem ite_eq_error_iff {α : Type*} {check : Bool} {Applies : Prop} {refusal : ε}
    {x : Except ε α} (tells : check = true ↔ Applies)
    (later : x = .error error ↔ FirstFault rest error) :
    (if check then .error refusal else x) = .error error ↔
      FirstFault (⟨Applies, refusal⟩ :: rest) error := by
  rw [firstFault_cons_iff, ← tells, ← later]
  cases check with
  | true => simp [eq_comm]
  | false => simp

/-- A computation that fails refuses for its faults, before all that is checked later. -/
theorem bind_eq_error_iff {α β : Type} {x : Except ε α} {f : α → Except ε β}
    (tells : ∀ error, x = .error error ↔ FirstFault faults error)
    (later : ∀ a, x = .ok a → (f a = .error error ↔ FirstFault rest error)) :
    x >>= f = .error error ↔ FirstFault (faults ++ rest) error := by
  rw [firstFault_append_iff, ← tells]
  cases result : x with
  | error refusal =>
    have refused := ((tells refusal).mp result).exists_applies
    have notPassed : ¬∀ fault ∈ faults, ¬fault.Applies := by
      obtain ⟨fault, inside, applies⟩ := refused
      exact fun passes => passes fault inside applies
    simp [bind, Except.bind, notPassed]
  | ok a =>
    have passes : ∀ fault ∈ faults, ¬fault.Applies := by
      intro fault inside applies
      obtain ⟨refusal, first⟩ := exists_firstFault inside applies
      have refused := (tells refusal).mpr first
      rw [result] at refused
      cases refused
    rw [← later a result]
    simpa [bind, Except.bind] using fun _ => passes

end TopicAlerts
