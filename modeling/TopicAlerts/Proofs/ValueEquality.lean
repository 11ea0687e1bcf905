import TopicAlerts.Message
import TopicAlerts.Proofs.CompactTexts

/-!
# The equality of rules

Rules compare two values of one scalar type as such, and all others by their texts. As no two
values have the same compact text, the texts of two values that are no strings are the same only if
the values are, and so `valuesEqual` is determined by the kinds of its arguments
(`valuesEqual_laws`).
-/

namespace TopicAlerts.Json

/-- Whether values of the kind hold other values. -/
def Kind.isContainer : Kind → Bool
  | .array | .object => true
  | .null | .boolean | .number | .string => false

variable {a b : Json}

/-- A value that is not a string is shown as compact JSON. -/
theorem text_eq_compact (ha : a.kind ≠ .string) : a.text = a.compact := by
  cases a with
  | str s => exact absurd rfl ha
  | _ => rfl

theorem text_eq_text_iff (ha : a.kind ≠ .string) (hb : b.kind ≠ .string) :
    a.text = b.text ↔ a = b := by
  rw [text_eq_compact ha, text_eq_compact hb]
  exact compact_injective.eq_iff

/-- Values are compared by their texts unless both are scalars of one kind. -/
theorem valuesEqual_of_text (h : a.kind ≠ b.kind ∨ a.kind.isContainer = true) :
    valuesEqual a b = (a.text == b.text) := by
  unfold valuesEqual
  split
  · simp [kind, Kind.isContainer] at h
  · simp [kind, Kind.isContainer] at h
  · simp [kind, Kind.isContainer] at h
  · simp [kind, Kind.isContainer] at h
  · rfl

theorem valuesEqual_refl (a : Json) : valuesEqual a a = true := by
  by_cases hcontainer : a.kind.isContainer = true
  · rw [valuesEqual_of_text (.inr hcontainer)]
    exact beq_self_eq_true _
  · cases a with
    | null => rfl
    | bool b => exact beq_self_eq_true b
    | num n => exact beq_self_eq_true n.toBinary64.key
    | str s => exact beq_self_eq_true s
    | arr items => exact absurd rfl hcontainer
    | obj members => exact absurd rfl hcontainer

theorem valuesEqual_comm (a b : Json) : valuesEqual a b = valuesEqual b a := by
  by_cases h : a.kind ≠ b.kind ∨ a.kind.isContainer = true
  · have h' : b.kind ≠ a.kind ∨ b.kind.isContainer = true := by
      rcases h with hkinds | hcontainer
      · exact .inl hkinds.symm
      · by_cases hsame : b.kind = a.kind
        · exact .inr (hsame ▸ hcontainer)
        · exact .inl hsame
    rw [valuesEqual_of_text h, valuesEqual_of_text h', Bool.beq_comm]
  · obtain ⟨hkinds, hscalar⟩ := not_or.mp h
    have hsame : a.kind = b.kind := not_not.mp hkinds
    match a, b with
    | .null, .null => rfl
    | .bool x, .bool y => exact Bool.beq_comm
    | .num m, .num n => exact Bool.beq_comm
    | .str s, .str t => exact Bool.beq_comm
    | .arr items, _ => exact absurd rfl hscalar
    | .obj members, _ => exact absurd rfl hscalar

/-- The equality of rules, by the kinds of the two values: values of different kinds that are no
strings are not equal, a string is equal to the value whose text it is, and containers are equal
only to themselves. -/
theorem valuesEqual_laws (a b : Json) :
    valuesEqual a a = true ∧ valuesEqual a b = valuesEqual b a ∧
      (a.kind ≠ .string → b.kind ≠ .string → a.kind ≠ b.kind → valuesEqual a b = false) ∧
      (∀ s, a.kind ≠ .string → (valuesEqual a (.str s) = true ↔ s = a.text) ∧
        (valuesEqual (.str s) a = true ↔ s = a.text)) ∧
      (a.kind.isContainer = true → b.kind.isContainer = true →
        (valuesEqual a b = true ↔ a = b)) := by
  refine ⟨valuesEqual_refl a, valuesEqual_comm a b, ?kinds, ?strings, ?containers⟩
  case kinds =>
    intro ha hb hkinds
    rw [valuesEqual_of_text (.inl hkinds), beq_eq_false_iff_ne, ne_eq, text_eq_text_iff ha hb]
    rintro rfl
    exact hkinds rfl
  case strings =>
    intro s ha
    have hstring : valuesEqual a (.str s) = (a.text == s) := valuesEqual_of_text (.inl ha)
    rw [valuesEqual_comm (.str s) a, hstring, beq_iff_eq, eq_comm]
    exact ⟨Iff.rfl, Iff.rfl⟩
  case containers =>
    intro ha hb
    have hstring : ∀ {value : Json}, value.kind.isContainer = true → value.kind ≠ .string := by
      intro value hvalue hkind
      rw [hkind] at hvalue
      cases hvalue
    rw [valuesEqual_of_text (.inr ha), beq_iff_eq, text_eq_text_iff (hstring ha) (hstring hb)]

/-- The two zeros are equal as numbers, and not inside of arrays. -/
theorem valuesEqual_laws_zeros :
    valuesEqual (.num (.float (.zero true))) (.num (.float (.zero false))) = true ∧
      valuesEqual (.arr [.num (.float (.zero true))]) (.arr [.num (.float (.zero false))]) =
        false := by
  refine ⟨rfl, Bool.eq_false_iff.mpr fun hequal => ?_⟩
  have hsame := ((valuesEqual_laws (.arr [.num (.float (.zero true))])
    (.arr [.num (.float (.zero false))])).2.2.2.2 rfl rfl).mp hequal
  simp [Binary64.zero] at hsame

end TopicAlerts.Json
