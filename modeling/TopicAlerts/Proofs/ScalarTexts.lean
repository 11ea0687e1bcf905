import TopicAlerts.Json.Reader
import TopicAlerts.Proofs.CompactTexts

/-!
# Tokens of scalars

The literals, the strings and the integers of 64 bits are written as one token, and what is read of
that token is the value that was written (`Scalar.token?`).

A double is not among them: it is read in two roundings.
-/

namespace TopicAlerts

/-- The digits of a number start with zero only if it is zero. -/
theorem head_toDigits {n : Nat} (hn : n ≠ 0) : (Nat.toDigits 10 n).head? ≠ some '0' := by
  induction n using Nat.strong_induction_on with
  | _ n ih =>
    by_cases hsmall : n < 10
    · have hdigit : ∀ d < 10, d ≠ 0 → [Nat.digitChar d].head? ≠ some '0' := by decide
      rw [Nat.toDigits_of_lt_base hsmall]
      exact hdigit n hsmall hn
    · have hne : Nat.toDigits 10 (n / 10) ≠ [] := Nat.toDigits_ne_nil
      have hfirst := ih (n / 10) (by omega) (by omega)
      obtain ⟨c, tail, hdigits⟩ := List.exists_cons_of_ne_nil hne
      rw [Nat.toDigits_of_base_le (by decide) (by omega)]
      rw [hdigits] at hfirst ⊢
      exact hfirst

namespace Json

/-! ## Integers -/

/-- Whether a number may go on with a character behind its first digits. -/
def continuesNumber (c : Char) : Bool := c.isDigit || c == '.' || c == 'e' || c == 'E'

section Integers

variable {digits rest : List Char} {n : Int}

theorem not_continues_head {c : Char} (hrest : Stops continuesNumber (c :: rest)) :
    c.isDigit = false ∧ c ≠ '.' ∧ ¬(c = 'e' ∨ c = 'E') := by
  have hc := hrest c rfl
  simp only [continuesNumber, Bool.or_eq_false_iff, beq_eq_false_iff_ne] at hc
  obtain ⟨⟨⟨hdigit, hpoint⟩, hsmall⟩, hlarge⟩ := hc
  exact ⟨hdigit, hpoint, not_or.mpr ⟨hsmall, hlarge⟩⟩

theorem stops_isDigit (hrest : Stops continuesNumber rest) : Stops Char.isDigit rest := by
  intro c hc
  have hcontinues := hrest c hc
  simp only [continuesNumber, Bool.or_eq_false_iff] at hcontinues
  exact hcontinues.1.1.1

theorem leadingDigits_of_stops (hdigits : IsDigits digits) (hrest : Stops Char.isDigit rest) :
    leadingDigits ((digits ++ rest).map some) = (digits, rest.map some) := by
  induction digits with
  | nil =>
    cases rest with
    | nil => rfl
    | cons c rest => simp [leadingDigits, hrest c rfl]
  | cons c digits ih =>
    have hc : c.isDigit = true := hdigits c List.mem_cons_self
    have htail : IsDigits digits := fun d hd => hdigits d (List.mem_cons_of_mem c hd)
    simp only [List.cons_append, List.map_cons, leadingDigits, hc, if_true, ih htail]

theorem fraction?_of_stops (hrest : Stops continuesNumber rest) :
    fraction? (rest.map some) = some (none, rest.map some) := by
  cases rest with
  | nil => rfl
  | cons c rest =>
    rw [List.map_cons, fraction?]
    intro tail hpoint
    exact (not_continues_head hrest).2.1 (by simpa using congrArg List.head? hpoint)

theorem exponent?_of_stops (hrest : Stops continuesNumber rest) :
    exponent? (rest.map some) = some (none, rest.map some) := by
  cases rest with
  | nil => rfl
  | cons c rest =>
    unfold exponent?
    rw [List.map_cons]
    dsimp only
    rw [if_neg (not_continues_head hrest).2.2]

/-- Digits, and then a fraction and an exponent where there are any, are a numeral. -/
theorem numeral?_of_parts (negative : Bool) {tail after : List TextUnit}
    {fraction : Option (List Char)} {exponent : Option Numeral.Exponent}
    (hdigits : IsDigits digits) (hne : digits ≠ [])
    (hzero : digits.head? = some '0' → digits.length = 1) (hrest : Stops Char.isDigit rest)
    (hfraction : fraction? (rest.map some) = some (fraction, tail))
    (hexponent : exponent? tail = some (exponent, after)) :
    numeral? negative ((digits ++ rest).map some) =
      some (⟨negative, digits, fraction, exponent⟩, after) := by
  have hfits : ¬(digits.isEmpty = true ∨ (1 < digits.length ∧ digits.head? = some '0')) := by
    rintro (hempty | ⟨hlong, hfirst⟩)
    · exact hne (List.isEmpty_iff.mp hempty)
    · have hone := hzero hfirst
      omega
  unfold numeral?
  simp only [leadingDigits_of_stops hdigits hrest, if_neg hfits, hfraction, Option.bind_eq_bind,
    Option.bind_some, hexponent]
  rfl

/-- The digits of a natural number are a numeral, whatever follows that is no part of a number. -/
theorem numeral?_toDigits (negative : Bool) (n : Nat) (hrest : Stops continuesNumber rest) :
    numeral? negative ((Nat.toDigits 10 n ++ rest).map some) =
      some (⟨negative, Nat.toDigits 10 n, none, none⟩, rest.map some) := by
  refine numeral?_of_parts negative (isDigits_toDigits n) Nat.toDigits_ne_nil (fun hfirst => ?_)
    (stops_isDigit hrest) (fraction?_of_stops hrest) (exponent?_of_stops hrest)
  have hn : n = 0 := by
    by_contra hne
    exact head_toDigits hne hfirst
  subst hn
  rfl

/-- The digits of an integer of 64 bits stand for the integer. -/
theorem value?_toDigits (hn : -2 ^ 63 ≤ n ∧ n < 2 ^ 64) :
    (⟨decide (n < 0), Nat.toDigits 10 n.natAbs, none, none⟩ : Numeral).value? =
      some (.int n) := by
  have hwhole : ofDigits (Nat.toDigits 10 n.natAbs) = n.natAbs :=
    Reading.naturalOf_toDigits n.natAbs
  unfold Numeral.value?
  simp only [hwhole]
  by_cases hsign : n < 0
  · have hsize : 0 < n.natAbs ∧ n.natAbs ≤ Nat.pow 2 63 := by
      have hpow : Nat.pow 2 63 = 2 ^ 63 := rfl
      omega
    rw [decide_eq_true hsign, if_pos rfl, if_pos hsize]
    congr 2
    omega
  · have hsize : n.natAbs < UInt64.size := by
      have hpow : UInt64.size = 2 ^ 64 := rfl
      omega
    rw [decide_eq_false hsign, if_neg Bool.false_ne_true, if_pos hsize]
    congr 2
    omega

theorem token?_of_digit {c : Char} (hc : c.isDigit = true) (rest : List TextUnit) :
    token? (some c :: rest) = (numeral? false (some c :: rest)).map
      fun (numeral, rest) => (.number numeral.value?, rest) := by
  unfold token?
  split
  case h_12 => rfl
  all_goals
    rename_i heq
    cases heq
    cases hc

/-- A text that starts with a digit, perhaps behind a sign, is cut off as a number. -/
theorem token?_signed (negative : Bool) {c : Char} (hc : c.isDigit = true) (tail rest : List Char) :
    token? ((Reading.signed negative (c :: tail) ++ rest).map some) =
      (numeral? negative ((c :: tail ++ rest).map some)).map
        fun (numeral, rest) => (.number numeral.value?, rest) := by
  cases negative with
  | true => rfl
  | false => exact token?_of_digit hc ((tail ++ rest).map some)

/-- The text of an integer of 64 bits is one token. -/
theorem token?_int (hn : -2 ^ 63 ≤ n ∧ n < 2 ^ 64) (hrest : Stops continuesNumber rest) :
    token? (((Number.text (.int n)).toList ++ rest).map some) =
      some (.number (some (.int n)), rest.map some) := by
  have hread := numeral?_toDigits (decide (n < 0)) n.natAbs hrest
  have hvalue := value?_toDigits hn
  have hdigits := isDigits_toDigits n.natAbs
  have hne : Nat.toDigits 10 n.natAbs ≠ [] := Nat.toDigits_ne_nil
  rw [Number.toList_text_int]
  generalize Nat.toDigits 10 n.natAbs = digits at *
  obtain ⟨c, tail, rfl⟩ := List.exists_cons_of_ne_nil hne
  rw [token?_signed _ (hdigits c List.mem_cons_self), hread, Option.map_some]
  dsimp only
  rw [hvalue]

end Integers

/-! ## Scalars -/

/-- A value that is written as one token, and the document of that token. -/
inductive Scalar : Json → Token → Document → Prop
  | null : Scalar .null .null .null
  | bool (b : Bool) : Scalar (.bool b) (.bool b) (.bool b)
  | int {n : Int} (hn : -2 ^ 63 ≤ n ∧ n < 2 ^ 64) :
      Scalar (.num (.int n)) (.number (some (.int n))) (.number (some (.int n)))
  | str (s : String) : Scalar (.str s) (.string (some s)) (.string (some s))

section Scalar

variable {value : Json} {token : Token} {document : Document} {rest : List Char}

/-- The text of a scalar is cut off as its token, whatever follows that is no part of a number. -/
theorem Scalar.token? (h : Scalar value token document) (hrest : Stops continuesNumber rest) :
    token? ((compactChars value ++ rest).map some) = some (token, rest.map some) := by
  cases h with
  | null => rfl
  | bool b => cases b <;> rfl
  | int hn => exact token?_int hn hrest
  | str s =>
    rw [List.map_append]
    exact token?_quoted s (rest.map some)

/-! ## Cutting off a token -/

theorem isBlank_of_kindOfHead? {c : Char} {kind : Kind} (h : kindOfHead? c = some kind) :
    isBlank (some c) = false := by
  rw [Bool.eq_false_iff]
  intro hblank
  have hcases : c = ' ' ∨ c = '\t' ∨ c = '\n' ∨ c = '\r' := of_decide_eq_true hblank
  rcases hcases with rfl | rfl | rfl | rfl <;> cases h

theorem tokensWithin_nil (fuel : Nat) : tokensWithin fuel [] = [] := by
  cases fuel <;> rfl

theorem tokensWithin_cons {fuel : Nat} {c : Char} {text after : List TextUnit}
    (hblank : isBlank (some c) = false)
    (htoken : Json.token? (some c :: text) = some (token, after)) :
    tokensWithin (fuel + 1) (some c :: text) = token :: tokensWithin fuel after := by
  rw [tokensWithin, List.dropWhile_cons_of_neg (by simp [hblank])]
  dsimp only
  rw [htoken]

end Scalar

end Json

end TopicAlerts
