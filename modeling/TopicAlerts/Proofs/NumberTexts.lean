import Mathlib.Data.List.TakeWhile
import Mathlib.Tactic.NormNum
import Mathlib.Tactic.Ring
import TopicAlerts.Binary64.Reading
import TopicAlerts.Json.Printer
import TopicAlerts.Proofs.ShortestDecimals

/-!
# Texts of numbers

The text of a number in JSON spells the number: read digit by digit it gives back the sign and the
absolute value of the integer (`spells_int`) or of the decimal that it was made from
(`isScientific_scientificText`, `IsScientific.spells`). A double always has a point or an exponent
in its text, an integer never, and so distinct numbers have distinct texts
(`Json.Number.text_injective`).
-/

namespace TopicAlerts

/-- All characters of the text are decimal digits. -/
def IsDigits (text : List Char) : Prop := ∀ c ∈ text, c.isDigit = true

theorem IsDigits.append {a b : List Char} (ha : IsDigits a) (hb : IsDigits b) :
    IsDigits (a ++ b) := by
  intro c hc
  rcases List.mem_append.mp hc with hleft | hright
  · exact ha c hleft
  · exact hb c hright

theorem isDigits_toDigits (n : Nat) : IsDigits (Nat.toDigits 10 n) :=
  fun _ hc => Nat.isDigit_of_mem_toDigits (by decide) (by decide) hc

theorem isDigits_replicate (n : Nat) : IsDigits (List.replicate n '0') := by
  intro c hc
  rw [List.eq_of_mem_replicate hc]
  rfl

/-- The text does not go on with such a character. -/
def Stops (p : Char → Bool) (text : List Char) : Prop := ∀ c ∈ text.head?, p c = false

section Stops

variable {p : Char → Bool} {a b rest other : List Char}

theorem stops_nil (p : Char → Bool) : Stops p [] := by
  intro c hc
  cases hc

theorem stops_cons {c : Char} (hc : p c = false) (rest : List Char) : Stops p (c :: rest) := by
  intro first hfirst
  cases hfirst
  exact hc

theorem takeWhile_of_stops (ha : ∀ c ∈ a, p c = true) (hrest : Stops p rest) :
    (a ++ rest).takeWhile p = a := by
  rw [List.takeWhile_append_of_pos ha]
  cases rest with
  | nil => simp
  | cons c rest => simp [hrest c rfl]

theorem dropWhile_of_stops (ha : ∀ c ∈ a, p c = true) (hrest : Stops p rest) :
    (a ++ rest).dropWhile p = rest := by
  rw [List.dropWhile_append_of_pos ha]
  cases rest with
  | nil => simp
  | cons c rest => simp [hrest c rfl]

/-- A text can be cut in one way where such characters end. -/
theorem eq_of_append_stops (ha : ∀ c ∈ a, p c = true) (hb : ∀ c ∈ b, p c = true)
    (hrest : Stops p rest) (hother : Stops p other) (h : a ++ rest = b ++ other) :
    a = b ∧ rest = other := by
  have htake := congrArg (List.takeWhile p) h
  have hdrop := congrArg (List.dropWhile p) h
  rw [takeWhile_of_stops ha hrest, takeWhile_of_stops hb hother] at htake
  rw [dropWhile_of_stops ha hrest, dropWhile_of_stops hb hother] at hdrop
  exact ⟨htake, hdrop⟩

end Stops

namespace Reading

variable {whole fraction rest : List Char} {power : Int}

/-! ## The number of a list of digits -/

theorem naturalOf_eq (digits : List Char) : naturalOf digits = Nat.ofDigitChars 10 digits 0 :=
  Nat.ofDigitChars_eq_foldl.symm

@[simp] theorem naturalOf_toDigits (n : Nat) : naturalOf (Nat.toDigits 10 n) = n := by
  rw [naturalOf_eq, Nat.ofDigitChars_ten_toDigits]

theorem naturalOf_append_zeros (digits : List Char) (n : Nat) :
    naturalOf (digits ++ List.replicate n '0') = naturalOf digits * 10 ^ n := by
  rw [naturalOf_eq, naturalOf_eq, Nat.ofDigitChars_append, Nat.ofDigitChars_replicate_zero,
    Nat.mul_comm]

theorem naturalOf_zeros_append (n : Nat) (digits : List Char) :
    naturalOf (List.replicate n '0' ++ digits) = naturalOf digits := by
  rw [naturalOf_eq, naturalOf_eq, Nat.ofDigitChars_append, Nat.ofDigitChars_replicate_zero,
    Nat.mul_zero]

/-! ## Reading a decimal -/

theorem decimal?_of_point (negative : Bool) (hwhole : IsDigits whole) (hne : whole ≠ [])
    (hfraction : IsDigits fraction) (hrest : Stops Char.isDigit rest)
    (hpower : exponent? rest = some power) :
    decimal? negative (whole ++ '.' :: (fraction ++ rest)) =
      some ⟨negative, naturalOf (whole ++ fraction), power - fraction.length⟩ := by
  have hstop : Stops Char.isDigit ('.' :: (fraction ++ rest)) := stops_cons rfl _
  unfold decimal?
  rw [takeWhile_of_stops hwhole hstop, dropWhile_of_stops hwhole hstop]
  simp only [takeWhile_of_stops hfraction hrest, dropWhile_of_stops hfraction hrest, hpower]
  simp [hne]

theorem decimal?_of_whole (negative : Bool) (hwhole : IsDigits whole) (hne : whole ≠ [])
    (hrest : Stops Char.isDigit rest) (hpoint : rest.head? ≠ some '.')
    (hpower : exponent? rest = some power) :
    decimal? negative (whole ++ rest) = some ⟨negative, naturalOf whole, power⟩ := by
  unfold decimal?
  rw [takeWhile_of_stops hwhole hrest, dropWhile_of_stops hwhole hrest]
  cases rest with
  | nil => simp [hne, hpower]
  | cons c rest =>
    have hc : c ≠ '.' := fun hdot => hpoint (by rw [hdot]; rfl)
    simp [hne, hc, hpower]

/-- The text spells the number of this sign and absolute value. -/
def Spells (text : List Char) (negative : Bool) (size : ℚ) : Prop :=
  (sign text).1 = negative ∧ ∃ d, decimal? negative (sign text).2 = some d ∧ d.size = size

theorem Spells.unique {text : List Char} {a b : Bool} {x y : ℚ} (ha : Spells text a x)
    (hb : Spells text b y) : a = b ∧ x = y := by
  obtain ⟨rfl, d, hd, rfl⟩ := ha
  obtain ⟨rfl, e, he, rfl⟩ := hb
  rw [hd] at he
  cases he
  exact ⟨rfl, rfl⟩

theorem Spells.ne_nil {text : List Char} {negative : Bool} {size : ℚ}
    (h : Spells text negative size) : text ≠ [] := by
  rintro rfl
  obtain ⟨-, d, hd, -⟩ := h
  cases hd

/-- The sign at the head of a text. -/
def signed (negative : Bool) (text : List Char) : List Char :=
  if negative then '-' :: text else text

variable {negative : Bool}

theorem mem_signed {text : List Char} {c : Char} (hc : c ∈ signed negative text) :
    c = '-' ∨ c ∈ text := by
  cases negative with
  | true => exact List.mem_cons.mp hc
  | false => exact .inr hc

theorem sign_signed (hwhole : IsDigits whole) (hne : whole ≠ []) :
    sign (signed negative (whole ++ rest)) = (negative, whole ++ rest) := by
  obtain ⟨c, tail, rfl⟩ := List.exists_cons_of_ne_nil hne
  have hc : c.isDigit = true := hwhole c List.mem_cons_self
  cases negative with
  | true => rfl
  | false =>
    show sign (c :: (tail ++ rest)) = (false, c :: (tail ++ rest))
    unfold sign
    split
    · rename_i heq
      cases heq
      cases hc
    · rename_i heq
      cases heq
      cases hc
    · rfl

theorem spells_signed {d : Decimal} (hwhole : IsDigits whole) (hne : whole ≠ [])
    (hread : decimal? negative (whole ++ rest) = some d) :
    Spells (signed negative (whole ++ rest)) negative d.size := by
  unfold Spells
  rw [sign_signed hwhole hne]
  exact ⟨rfl, d, hread, rfl⟩

end Reading

/-! ## Texts of doubles -/

/-- The exponent as it is written. -/
def powerText (power : Int) : List Char :=
  (if power < 0 then ['e', '-'] else ['e', '+']) ++ Nat.toDigits 10 power.natAbs

theorem head_powerText (power : Int) : (powerText power).head? = some 'e' := by
  unfold powerText
  split_ifs <;> rfl

theorem stops_powerText (power : Int) : Stops Char.isDigit (powerText power) := by
  intro c hc
  rw [head_powerText] at hc
  cases hc
  rfl

theorem exponent?_powerText (power : Int) : Reading.exponent? (powerText power) = some power := by
  have hdigits : (Nat.toDigits 10 power.natAbs).all Char.isDigit = true :=
    List.all_eq_true.mpr (isDigits_toDigits _)
  have hne : (Nat.toDigits 10 power.natAbs).isEmpty = false := by simp
  unfold powerText
  split_ifs with hsign
  · show Reading.exponent? ('e' :: '-' :: Nat.toDigits 10 power.natAbs) = _
    simp only [Reading.exponent?, Reading.sign]
    simp [hdigits, hne, -Nat.cast_natAbs]
    omega
  · show Reading.exponent? ('e' :: '+' :: Nat.toDigits 10 power.natAbs) = _
    simp only [Reading.exponent?, Reading.sign]
    simp [hdigits, hne, -Nat.cast_natAbs]
    omega

/-- A text of digits is what stays of it before its last zeros, and these. -/
theorem take_append_zeros (text : List Char) :
    text.take (text.length - (text.reverse.takeWhile (· == '0')).length) ++
      List.replicate (text.reverse.takeWhile (· == '0')).length '0' = text := by
  have hzeros : text.reverse.takeWhile (· == '0') =
      List.replicate (text.reverse.takeWhile (· == '0')).length '0' :=
    List.eq_replicate_of_mem fun c hc => by simpa using List.mem_takeWhile_imp hc
  have hsplit : text = (text.reverse.dropWhile (· == '0')).reverse ++
      (text.reverse.takeWhile (· == '0')).reverse := by
    rw [← List.reverse_append, List.takeWhile_append_dropWhile, List.reverse_reverse]
  generalize text.reverse.takeWhile (· == '0') = zeros at *
  generalize text.reverse.dropWhile (· == '0') = rest at *
  rw [hsplit, List.length_append, List.length_reverse, List.length_reverse, Nat.add_sub_cancel,
    List.take_left' List.length_reverse, hzeros, List.reverse_replicate, List.length_replicate]

namespace Decimal

variable {d : Decimal}

theorem trimmed_spec (hd : d.digits ≠ 0) : IsDigits d.trimmed.1 ∧ d.trimmed.1 ≠ [] ∧
    (Reading.naturalOf d.trimmed.1 : ℚ) * 10 ^ d.trimmed.2 = d.size := by
  have hsplit := take_append_zeros (Nat.toDigits 10 d.digits)
  have hvalue := congrArg Reading.naturalOf hsplit
  rw [Reading.naturalOf_append_zeros, Reading.naturalOf_toDigits] at hvalue
  unfold trimmed size
  dsimp only
  generalize (List.takeWhile _ _).length = zeros at *
  generalize hkept : List.take _ _ = kept at *
  refine ⟨?_, ?_, ?_⟩
  · intro c hc
    rw [← hkept] at hc
    exact isDigits_toDigits _ c (List.mem_of_mem_take hc)
  · rintro rfl
    exact hd (by rw [← hvalue]; exact Nat.zero_mul _)
  · rw [← hvalue, zpow_add₀ (by norm_num), zpow_natCast]
    push_cast
    ring

/-- The texts of a number with a point or an exponent, by its sign and absolute value. -/
inductive IsScientific (negative : Bool) : ℚ → List Char → Prop
  /-- Digits on both sides of the point. -/
  | plain {whole fraction : List Char} {size : ℚ} (hwhole : IsDigits whole) (hne : whole ≠ [])
      (hfraction : IsDigits fraction)
      (hsize : size = Reading.naturalOf (whole ++ fraction) * 10 ^ (-(fraction.length : Int))) :
      IsScientific negative size (Reading.signed negative (whole ++ '.' :: fraction))
  /-- One digit, perhaps a point and more digits, and an exponent. -/
  | powered {first : Char} {fraction : List Char} {power : Int} {size : ℚ}
      (hfirst : first.isDigit = true) (hfraction : IsDigits fraction)
      (hsize : size = Reading.naturalOf (first :: fraction) * 10 ^ (power - fraction.length)) :
      IsScientific negative size (Reading.signed negative
        (first :: (if fraction = [] then [] else '.' :: fraction) ++ powerText power))

section Positional

variable {negative : Bool} {digits whole fraction : List Char} {exponent : Int}

/-- A number below one starts with zeros. -/
theorem isScientific_below_one (hdigits : IsDigits digits) {zeros : Nat}
    (hexponent : exponent = -(zeros + digits.length : Int)) :
    IsScientific negative (Reading.naturalOf digits * 10 ^ exponent)
      (Reading.signed negative (['0'] ++ '.' :: (List.replicate zeros '0' ++ digits))) := by
  refine .plain (isDigits_replicate 1) (List.cons_ne_nil _ _)
    ((isDigits_replicate zeros).append hdigits) ?_
  have hvalue := Reading.naturalOf_zeros_append (zeros + 1) digits
  rw [List.length_append, List.length_replicate, Nat.cast_add, ← hexponent, ← hvalue]
  rfl

/-- A whole number ends with zeros, one of them behind the point. -/
theorem isScientific_whole (hdigits : IsDigits digits) (hne : digits ≠ []) (zeros : Nat) :
    IsScientific negative (Reading.naturalOf digits * 10 ^ (zeros : Int))
      (Reading.signed negative (digits ++ List.replicate zeros '0' ++ '.' :: ['0'])) := by
  refine .plain (hdigits.append (isDigits_replicate zeros)) (by simp [hne])
    (isDigits_replicate 1) ?_
  have hvalue := Reading.naturalOf_append_zeros digits (zeros + 1)
  have htext : digits ++ List.replicate zeros '0' ++ ['0'] =
      digits ++ List.replicate (zeros + 1) '0' := by
    rw [List.append_assoc, List.replicate_succ']
  have htenth : (10 : ℚ) ^ (-(['0'].length : ℤ)) = 1 / 10 := by norm_num
  rw [htext, hvalue, htenth, zpow_natCast, pow_succ]
  push_cast
  ring

/-- Moving the point does not change the number. -/
theorem isScientific_positional (hdigits : IsDigits digits) (hne : digits ≠ [])
    (hparts : positional digits (digits.length + exponent) = (whole, fraction)) :
    IsScientific negative (Reading.naturalOf digits * 10 ^ exponent)
      (Reading.signed negative
        (whole ++ '.' :: (if fraction.isEmpty then ['0'] else fraction))) := by
  unfold positional at hparts
  split_ifs at hparts with hbehind
  · -- The point stands before all digits.
    cases hparts
    have hfilled : ∀ n, (List.replicate n '0' ++ digits).isEmpty = false := by simp [hne]
    rw [hfilled, if_neg Bool.false_ne_true]
    exact isScientific_below_one hdigits (by omega)
  · obtain ⟨place, hplace⟩ : ∃ n : Nat, digits.length + exponent = n :=
      ⟨(digits.length + exponent).toNat, by omega⟩
    rw [hplace, Int.toNat_natCast] at hparts
    cases hparts
    by_cases hwithin : place < digits.length
    · -- The point stands between two digits.
      have hzeros : place - digits.length = 0 := by omega
      have hfilled : (digits.drop place).isEmpty = false := by simp [hwithin]
      have hexponent : exponent = -((digits.drop place).length : Int) := by
        rw [List.length_drop]
        omega
      rw [hfilled, if_neg Bool.false_ne_true, hzeros, List.replicate_zero, List.append_nil]
      refine .plain (fun c hc => hdigits c (List.mem_of_mem_take hc)) (by simp [hne]; omega)
        (fun c hc => hdigits c (List.mem_of_mem_drop hc)) ?_
      rw [← hexponent, List.take_append_drop]
    · -- The point stands behind all digits.
      have hdrop : digits.drop place = [] := List.drop_eq_nil_of_le (by omega)
      have htake : digits.take place = digits := List.take_of_length_le (by omega)
      have hexponent : exponent = (place - digits.length : Nat) := by omega
      rw [hdrop, htake, hexponent]
      exact isScientific_whole hdigits hne _

end Positional

theorem signText_append (d : Decimal) (text : List Char) :
    d.signText ++ text = Reading.signed d.negative text := by
  unfold signText Reading.signed
  cases d.negative <;> rfl

/-- The digits before an exponent: the first, and behind a point the others if there are any. -/
theorem mantissa_eq (first : Char) (others : List Char) :
    (first :: others).take 1 ++ (if (first :: others).length = 1 then []
      else '.' :: (first :: others).drop 1) =
        first :: (if others = [] then [] else '.' :: others) := by
  cases others <;> simp

/-- The text of a decimal has one of the two forms, with its number. -/
theorem isScientific_scientificText (d : Decimal) :
    IsScientific d.negative d.size d.scientificText.toList := by
  unfold scientificText
  by_cases hzero : d.digits = 0
  · rw [if_pos hzero, String.toList_ofList, signText_append]
    refine .plain (isDigits_replicate 1) (List.cons_ne_nil _ _) (isDigits_replicate 1) ?_
    simp [size, hzero, Reading.naturalOf]
  · obtain ⟨hdigits, hne, hsize⟩ := trimmed_spec hzero
    rw [if_neg hzero, ← hsize]
    generalize d.trimmed = kept at *
    obtain ⟨digits, exponent⟩ := kept
    dsimp only at hdigits hne ⊢
    by_cases hplain : -5 < digits.length + exponent ∧ digits.length + exponent ≤ 16
    · rw [if_pos hplain, String.toList_ofList, List.append_assoc, signText_append]
      exact isScientific_positional hdigits hne rfl
    · rw [if_neg hplain, String.toList_ofList, List.append_assoc, List.append_assoc, signText_append]
      obtain ⟨first, fraction, rfl⟩ := List.exists_cons_of_ne_nil hne
      have hpower : exponent = ((first :: fraction).length + exponent - 1) - fraction.length := by
        rw [List.length_cons]
        omega
      rw [mantissa_eq]
      exact .powered (hdigits first List.mem_cons_self)
        (fun c hc => hdigits c (List.mem_cons_of_mem _ hc)) (by rw [← hpower])

/-! ## What the texts of doubles say -/

variable {negative : Bool} {size : ℚ} {text : List Char}

/-- A text of a double spells its number. -/
theorem IsScientific.spells (h : IsScientific negative size text) :
    Reading.Spells text negative size := by
  cases h with
  | @plain whole fraction size hwhole hne hfraction hsize =>
    have hread := Reading.decimal?_of_point negative hwhole hne hfraction (stops_nil _) rfl
    rw [List.append_nil] at hread
    have hspells := Reading.spells_signed hwhole hne hread
    rw [hsize]
    simpa [Decimal.size] using hspells
  | @powered first fraction power size hfirst hfraction hsize =>
    have hdigit : IsDigits [first] := by
      intro c hc
      rwa [List.mem_singleton.mp hc]
    rw [hsize]
    by_cases hnone : fraction = []
    · have hpoint : (powerText power).head? ≠ some '.' := by
        rw [head_powerText]
        decide
      have hread := Reading.decimal?_of_whole negative hdigit (List.cons_ne_nil _ _)
        (stops_powerText power) hpoint (exponent?_powerText power)
      rw [if_pos hnone]
      have hspells := Reading.spells_signed hdigit (List.cons_ne_nil _ _) hread
      subst hnone
      simpa [Decimal.size] using hspells
    · have hread := Reading.decimal?_of_point negative hdigit (List.cons_ne_nil _ _)
        hfraction (stops_powerText power) (exponent?_powerText power)
      have hspells := Reading.spells_signed hdigit (List.cons_ne_nil _ _) hread
      rw [if_neg hnone]
      exact hspells

end Decimal

/-! ## The characters of numbers -/

/-- Whether a character may stand in the text of a number. -/
def isNumberChar (c : Char) : Bool := c.isDigit || c == '-' || c == '+' || c == '.' || c == 'e'

theorem IsDigits.isNumberChar {text : List Char} (h : IsDigits text) :
    ∀ c ∈ text, isNumberChar c = true := by
  intro c hc
  simp [TopicAlerts.isNumberChar, h c hc]

theorem isNumberChar_powerText (power : Int) : ∀ c ∈ powerText power, isNumberChar c = true := by
  refine List.forall_mem_append.mpr ⟨?_, (isDigits_toDigits _).isNumberChar⟩
  split_ifs <;> simp [isNumberChar]

theorem isNumberChar_signed {negative : Bool} {text : List Char}
    (h : ∀ c ∈ text, isNumberChar c = true) :
    ∀ c ∈ Reading.signed negative text, isNumberChar c = true := by
  intro c hc
  rcases Reading.mem_signed hc with rfl | hinside
  · rfl
  · exact h c hinside

namespace Decimal

variable {negative : Bool} {size : ℚ} {text : List Char}

theorem IsScientific.isNumberChar (h : IsScientific negative size text) :
    ∀ c ∈ text, isNumberChar c = true := by
  cases h with
  | plain hwhole hne hfraction hsize =>
    refine isNumberChar_signed (List.forall_mem_append.mpr ⟨hwhole.isNumberChar, ?_⟩)
    exact List.forall_mem_cons.mpr ⟨rfl, hfraction.isNumberChar⟩
  | powered hfirst hfraction hsize =>
    refine isNumberChar_signed (List.forall_mem_append.mpr ⟨?_, isNumberChar_powerText _⟩)
    refine List.forall_mem_cons.mpr ⟨by simp [TopicAlerts.isNumberChar, hfirst], ?_⟩
    split_ifs
    · intro c hc
      cases hc
    · exact List.forall_mem_cons.mpr ⟨rfl, hfraction.isNumberChar⟩

/-- A text of a double has a point or an exponent. -/
theorem IsScientific.exists_mark (h : IsScientific negative size text) :
    ∃ c ∈ text, c = '.' ∨ c = 'e' := by
  have hsigned : ∀ {c : Char} {body : List Char}, c ∈ body → c ∈ Reading.signed negative body := by
    intro c body hc
    cases negative with
    | true => exact List.mem_cons_of_mem _ hc
    | false => exact hc
  cases h with
  | plain hwhole hne hfraction hsize =>
    exact ⟨'.', hsigned (List.mem_append_right _ List.mem_cons_self), .inl rfl⟩
  | powered hfirst hfraction hsize =>
    refine ⟨'e', hsigned (List.mem_append_right _ ?_), .inr rfl⟩
    exact List.mem_of_mem_head? (head_powerText _)

end Decimal

/-! ## Texts of numbers -/

namespace Json.Number

theorem toList_text_int (n : Int) : (text (.int n)).toList =
    Reading.signed (decide (n < 0)) (Nat.toDigits 10 n.natAbs) := by
  show (toString n).toList = _
  rw [Int.toString_eq_repr, Int.repr_eq_if]
  by_cases hn : n < 0
  · rw [if_neg (by omega), String.toList_append, Nat.toList_repr, decide_eq_true hn,
      show (-n).toNat = n.natAbs by omega]
    rfl
  · rw [if_pos (by omega), Nat.toList_repr, decide_eq_false hn,
      show n.toNat = n.natAbs by omega]
    rfl

/-- The text of an integer spells it. -/
theorem spells_int (n : Int) :
    Reading.Spells (text (.int n)).toList (decide (n < 0)) n.natAbs := by
  have hread := Reading.decimal?_of_whole (decide (n < 0)) (isDigits_toDigits n.natAbs)
    Nat.toDigits_ne_nil (stops_nil _) (by simp) rfl
  have hspells := Reading.spells_signed (isDigits_toDigits n.natAbs) Nat.toDigits_ne_nil hread
  rw [List.append_nil] at hspells
  rw [toList_text_int]
  simpa [Decimal.size] using hspells

/-- The text of a double spells its shortest decimal. -/
theorem isScientific_float (x : Binary64) :
    Decimal.IsScientific x.negative (x.shortest .even).size (text (.float x)).toList := by
  have htext := Decimal.isScientific_scientificText (x.shortest .even)
  rwa [Binary64.negative_shortest] at htext

theorem isNumberChar_text (n : Number) : ∀ c ∈ n.text.toList, isNumberChar c = true := by
  cases n with
  | int n =>
    rw [toList_text_int]
    exact isNumberChar_signed (isDigits_toDigits _).isNumberChar
  | float x => exact (isScientific_float x).isNumberChar

theorem text_int_ne_float (n : Int) (x : Binary64) : text (.int n) ≠ text (.float x) := by
  intro hsame
  obtain ⟨c, hc, hmark⟩ := (isScientific_float x).exists_mark
  rw [← hsame, toList_text_int] at hc
  have hdigit : c = '-' ∨ c.isDigit = true :=
    (Reading.mem_signed hc).imp_right (isDigits_toDigits _ c)
  rcases hmark with rfl | rfl <;> revert hdigit <;> decide

/-- Distinct numbers have distinct texts. -/
theorem text_injective : Function.Injective text := by
  intro m n hsame
  cases m with
  | int m =>
    cases n with
    | int n =>
      have hm := spells_int m
      rw [hsame] at hm
      obtain ⟨hsign, hsize⟩ := hm.unique (spells_int n)
      have habs : m.natAbs = n.natAbs := by exact_mod_cast hsize
      have heq : m = n := by
        rw [decide_eq_decide] at hsign
        omega
      rw [heq]
    | float y => exact absurd hsame (text_int_ne_float m y)
  | float x =>
    cases n with
    | int n => exact absurd hsame.symm (text_int_ne_float n x)
    | float y =>
      have hx := (isScientific_float x).spells
      rw [hsame] at hx
      obtain ⟨hsign, hsize⟩ := hx.unique (isScientific_float y).spells
      rw [Binary64.eq_of_shortest hsign hsize]

theorem text_ne_nil (n : Number) : n.text.toList ≠ [] := by
  cases n with
  | int n => exact (spells_int n).ne_nil
  | float x => exact (isScientific_float x).spells.ne_nil

end Json.Number

end TopicAlerts
