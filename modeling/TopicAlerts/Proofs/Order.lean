import Mathlib.Data.List.Nodup
import Mathlib.Data.List.Perm.Basic
import TopicAlerts.Text.Order

/-!
# Sorting texts

A sorted list is a permutation of what was sorted. Sorted texts do not decrease, and the set of some
texts has each of them once, in increasing order.
-/

namespace TopicAlerts

theorem insertBy_perm {α : Type} (less : α → α → Bool) (a : α) (values : List α) :
    (insertBy less a values).Perm (a :: values) := by
  induction values with
  | nil => exact List.Perm.refl _
  | cons b rest ih =>
    unfold insertBy
    split_ifs
    · exact List.Perm.refl _
    · exact (ih.cons b).trans (List.Perm.swap a b rest)

theorem sortBy_perm {α : Type} (less : α → α → Bool) (values : List α) :
    (sortBy less values).Perm values := by
  suffices h : ∀ sorted, (values.foldl (fun sorted a => insertBy less a sorted) sorted).Perm
      (sorted ++ values) from h []
  induction values with
  | nil => intro sorted; simp
  | cons a rest ih =>
    intro sorted
    have hins : (insertBy less a sorted ++ rest).Perm (a :: sorted ++ rest) :=
      (insertBy_perm less a sorted).append_right rest
    exact ((ih _).trans hins).trans List.perm_middle.symm

@[simp] theorem mem_sortBy {α : Type} {less : α → α → Bool} {values : List α} {a : α} :
    a ∈ sortBy less values ↔ a ∈ values := (sortBy_perm less values).mem_iff

@[simp] theorem mem_sortTexts {texts : List String} {text : String} :
    text ∈ sortTexts texts ↔ text ∈ texts := mem_sortBy

@[simp] theorem length_sortTexts (texts : List String) :
    (sortTexts texts).length = texts.length := (sortBy_perm _ texts).length_eq

theorem nodup_sortTexts {texts : List String} (h : texts.Nodup) : (sortTexts texts).Nodup :=
  (sortBy_perm _ texts).nodup_iff.mpr h

@[simp] theorem mem_textSet {texts : List String} {text : String} :
    text ∈ textSet texts ↔ text ∈ texts := by
  unfold textSet
  rw [mem_sortTexts, List.mem_eraseDups]

theorem nodup_eraseDups (texts : List String) : texts.eraseDups.Nodup := by
  induction h : texts.length using Nat.strongRecOn generalizing texts with
  | ind n ih =>
    cases texts with
    | nil => exact List.nodup_nil
    | cons text rest =>
      rw [List.eraseDups_cons]
      have hlt : (rest.filter fun b => !b == text).length < n := by
        have := List.length_filter_le (fun b => !b == text) rest
        simp only [List.length_cons] at h
        omega
      refine List.nodup_cons.mpr ⟨?_, ih _ hlt _ rfl⟩
      rw [List.mem_eraseDups]
      simp

theorem nodup_textSet (texts : List String) : (textSet texts).Nodup :=
  nodup_sortTexts (nodup_eraseDups texts)

/-! ## Order -/

section Less

variable {α : Type} {less : α → α → Bool}
  (asymm : ∀ a b, less a b = true → less b a = false)
  (trans : ∀ a b c, less b a = false → less c b = false → less c a = false)

include asymm trans

theorem pairwise_insertBy {values : List α} (a : α)
    (sorted : values.Pairwise fun b c => less c b = false) :
    (insertBy less a values).Pairwise fun b c => less c b = false := by
  induction values with
  | nil => exact List.pairwise_singleton _ _
  | cons first rest ih =>
    obtain ⟨isFirst, sortedRest⟩ := List.pairwise_cons.mp sorted
    unfold insertBy
    split_ifs with smaller
    · have notLess : less first a = false := asymm a first smaller
      refine List.pairwise_cons.mpr ⟨fun other inside => ?_, sorted⟩
      rcases List.mem_cons.mp inside with rfl | later
      · exact notLess
      · exact trans a first other notLess (isFirst other later)
    · refine List.pairwise_cons.mpr ⟨fun other inside => ?_, ih sortedRest⟩
      rcases List.mem_cons.mp ((insertBy_perm _ a rest).mem_iff.mp inside) with rfl | later
      · simpa using smaller
      · exact isFirst other later

/-- In a sorted list no value is less than one before it. -/
theorem pairwise_sortBy (values : List α) :
    (sortBy less values).Pairwise fun b c => less c b = false := by
  suffices steps : ∀ sorted : List α, (sorted.Pairwise fun b c => less c b = false) →
      (values.foldl (fun sorted a => insertBy less a sorted) sorted).Pairwise
        fun b c => less c b = false from steps [] List.Pairwise.nil
  induction values with
  | nil => exact fun sorted isSorted => isSorted
  | cons a rest ih => exact fun sorted isSorted => ih _ (pairwise_insertBy asymm trans a isSorted)

end Less

/-- Sorted texts do not decrease. -/
theorem pairwise_sortTexts (texts : List String) : (sortTexts texts).Pairwise (· ≤ ·) := by
  have sorted : (sortTexts texts).Pairwise fun a b => decide (b < a) = false :=
    pairwise_sortBy (by grind) (by grind) texts
  exact sorted.imp fun notLess => String.not_lt.mp (of_decide_eq_false notLess)

/-- Distinct texts increase when they are sorted. -/
theorem increasing_sortTexts {texts : List String} (distinct : texts.Nodup) :
    (sortTexts texts).Pairwise (· < ·) :=
  ((pairwise_sortTexts texts).and (nodup_sortTexts distinct)).imp fun ⟨le, ne⟩ =>
    Std.lt_of_le_of_ne le ne

theorem increasing_textSet (texts : List String) : (textSet texts).Pairwise (· < ·) :=
  increasing_sortTexts (nodup_eraseDups texts)

end TopicAlerts
