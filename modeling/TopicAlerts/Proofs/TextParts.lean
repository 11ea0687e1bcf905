import Mathlib.Tactic.SplitIfs
import TopicAlerts.Text.Split

/-!
# Parts of texts

A text that is made of parts with a separator between them is cut into these parts again
(`Text.splitChars_intercalate`), as long as the separator stands in none of them.
-/

namespace TopicAlerts.Text

variable {separator : Char} {part rest : List Char} {parts : List (List Char)}

theorem splitChars_eq_splitOn (separator : Char) (text : List Char) :
    splitChars separator text = text.splitOn separator := by
  induction text with
  | nil => simp [splitChars]
  | cons c rest ih =>
    rw [splitChars, ih, List.splitOn_cons_eq_if_modifyHead]
    by_cases hc : c = separator
    · simp [hc]
    · have hne := List.splitOn_ne_nil separator rest
      cases hsplit : rest.splitOn separator with
      | nil => exact absurd hsplit hne
      | cons part parts => simp [hc]

theorem splitChars_ne_nil (text : List Char) : splitChars separator text ≠ [] := by
  rw [splitChars_eq_splitOn]
  exact List.splitOn_ne_nil separator text

/-- No part has the separator in it. -/
theorem not_mem_of_mem_splitChars {text : List Char} (hpart : part ∈ splitChars separator text) :
    separator ∉ part := by
  induction text generalizing part with
  | nil =>
    rw [List.mem_singleton.mp hpart]
    exact List.not_mem_nil
  | cons c rest ih =>
    rw [splitChars] at hpart
    split_ifs at hpart with hc
    · rcases List.mem_cons.mp hpart with rfl | hlater
      · exact List.not_mem_nil
      · exact ih hlater
    · split at hpart
      next hnone => exact absurd hnone (splitChars_ne_nil rest)
      next first parts hparts =>
        rw [hparts] at ih
        rcases List.mem_cons.mp hpart with rfl | hlater
        · rw [List.mem_cons, not_or]
          exact ⟨Ne.symm hc, ih List.mem_cons_self⟩
        · exact ih (List.mem_cons_of_mem _ hlater)

/-- Parts without the separator in them are the parts of what they are joined to. -/
theorem splitChars_intercalate (hne : parts ≠ []) (hparts : ∀ part ∈ parts, separator ∉ part) :
    splitChars separator (List.intercalate [separator] parts) = parts := by
  rw [splitChars_eq_splitOn, List.splitOn_intercalate]
  · exact hparts
  · exact hne

/-- The parts of a path spell the path. -/
theorem join_split (path : String) : join "." (split '.' path) = path := by
  have hparts : (split '.' path).map String.toList = path.toList.splitOn '.' := by
    simp [split, splitChars_eq_splitOn]
  rw [← String.toList_inj, join, String.toList_intercalate, hparts]
  exact List.intercalate_splitOn '.'

/-- No part of a path has a point in it. -/
theorem not_mem_of_mem_split {path : String} : ∀ name ∈ split '.' path, '.' ∉ name.toList := by
  intro name hname
  obtain ⟨part, hpart, rfl⟩ := List.mem_map.mp hname
  rw [String.toList_ofList]
  exact not_mem_of_mem_splitChars hpart

/-- The first part of a path is empty only if the path starts with a point. -/
theorem head?_split_ne {path : String} (hpath : path ≠ "") (hstart : path.toList.head? ≠ some '.') :
    (split '.' path).head? ≠ some "" := by
  cases hchars : path.toList with
  | nil => exact absurd (String.toList_eq_nil_iff.mp hchars) hpath
  | cons c rest =>
    have hc : c ≠ '.' := by simpa [hchars] using hstart
    rw [split, hchars, splitChars, if_neg hc]
    cases splitChars '.' rest <;> simp

/-- Names without a point in them are the parts of the path that they spell. -/
theorem split_join {names : List String} (hne : names ≠ [])
    (hpoints : ∀ name ∈ names, '.' ∉ name.toList) : split '.' (join "." names) = names := by
  have hjoin : (join "." names).toList = List.intercalate ['.'] (names.map String.toList) :=
    String.toList_intercalate
  rw [split, hjoin, splitChars_intercalate]
  · simp [Function.comp_def]
  · simpa using hne
  · simpa using hpoints

end TopicAlerts.Text
