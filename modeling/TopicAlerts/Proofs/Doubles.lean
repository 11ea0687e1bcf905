import Mathlib.Data.Nat.Log
import Mathlib.Order.Monotone.Basic
import Mathlib.Tactic.Ring
import TopicAlerts.Binary64

/-!
# Doubles as multiples of the least one

A magnitude is `scale · 2⁵² + significand`, and the double of that magnitude is `significand` steps
of width `2 ^ scale` above zero (`unitsOf_parts`). So the doubles increase with their magnitude, by
one step from each to the next (`unitsOf_succ`), and no double is more than `2⁵³` such steps.

`roundRatio` rounds to a multiple of the step at the place of the quotient (`unitsOf_roundRatio`).
-/

namespace TopicAlerts

/-! ## Rounding to a natural number -/

section Rounding

variable {a b d : Nat}

theorem roundHalfEven_cases (a d : Nat) :
    (roundHalfEven a d = a / d ∧ 2 * (a % d) ≤ d) ∨
      (roundHalfEven a d = a / d + 1 ∧ d ≤ 2 * (a % d)) := by
  unfold roundHalfEven
  dsimp only
  split_ifs with hless hmore
  · exact .inl ⟨rfl, by omega⟩
  · exact .inr ⟨rfl, by omega⟩
  · rcases Nat.mod_two_eq_zero_or_one (a / d) with heven | hodd
    · exact .inl ⟨by omega, by omega⟩
    · exact .inr ⟨by omega, by omega⟩

theorem roundHalfEven_mono (h : a ≤ b) (d : Nat) : roundHalfEven a d ≤ roundHalfEven b d := by
  have hquotient : a / d ≤ b / d := Nat.div_le_div_right h
  rcases Nat.lt_or_eq_of_le hquotient with hless | hsame
  · rcases roundHalfEven_cases a d with ⟨ha, -⟩ | ⟨ha, -⟩ <;>
      rcases roundHalfEven_cases b d with ⟨hb, -⟩ | ⟨hb, -⟩ <;> omega
  · have hrest : a % d ≤ b % d := by
      have ha := Nat.div_add_mod a d
      have hb := Nat.div_add_mod b d
      rw [hsame] at ha
      omega
    unfold roundHalfEven
    rw [hsame]
    dsimp only
    split_ifs <;> omega

/-- A common factor does not count. -/
theorem roundHalfEven_mul (a d : Nat) {c : Nat} (hc : 0 < c) :
    roundHalfEven (a * c) (d * c) = roundHalfEven a d := by
  have htwice : 2 * (a % d * c) = 2 * (a % d) * c := (Nat.mul_assoc ..).symm
  have hless : 2 * (a % d) * c < d * c ↔ 2 * (a % d) < d := Nat.mul_lt_mul_right hc
  have hmore : d * c < 2 * (a % d) * c ↔ d < 2 * (a % d) := Nat.mul_lt_mul_right hc
  unfold roundHalfEven
  dsimp only
  rw [Nat.mul_div_mul_right _ _ hc, Nat.mul_mod_mul_right, htwice]
  simp only [hless, hmore]

/-- A multiple stays as it is. -/
theorem roundHalfEven_of_mul (a : Nat) (hd : 0 < d) : roundHalfEven (a * d) d = a := by
  unfold roundHalfEven
  rw [Nat.mul_div_cancel a hd, Nat.mul_mod_left]
  simp [hd]

end Rounding

namespace Binary64

/-! ## The places of the doubles -/

/-- The distance from the double of this magnitude to the next one, in least positive doubles. -/
def step (magnitude : Nat) : Nat := 2 ^ (magnitude / 2 ^ 52 - 1)

theorem step_pos (magnitude : Nat) : 0 < step magnitude := Nat.two_pow_pos _

section Parts

variable {scale significand : Nat}

theorem unitsOf_parts (hsignificand : significand ≤ 2 ^ 53)
    (hscale : scale = 0 ∨ 2 ^ 52 ≤ significand) :
    unitsOf (scale * 2 ^ 52 + significand) = significand * 2 ^ scale := by
  unfold unitsOf
  simp only [Nat.pow_eq]
  rcases hscale with rfl | hlarge
  · by_cases hsmall : significand < 2 ^ 53
    · rw [Nat.zero_mul, Nat.zero_add, if_pos hsmall, Nat.pow_zero, Nat.mul_one]
    · have hlimit : significand = 2 ^ 53 := by omega
      subst hlimit
      norm_num
  · have hnot : ¬scale * 2 ^ 52 + significand < 2 ^ 53 ∨ scale = 0 := by omega
    by_cases hlimit : significand = 2 ^ 53
    · have hmod : (scale * 2 ^ 52 + significand) % 2 ^ 52 = 0 := by omega
      have hdiv : (scale * 2 ^ 52 + significand) / 2 ^ 52 = scale + 2 := by omega
      have hbig : ¬scale * 2 ^ 52 + significand < 2 ^ 53 := by omega
      rw [if_neg hbig, hmod, hdiv, hlimit]
      show (2 ^ 52 + 0) * 2 ^ (scale + 1) = 2 ^ 53 * 2 ^ scale
      rw [Nat.pow_succ 2 scale]
      ring
    · have hmod : (scale * 2 ^ 52 + significand) % 2 ^ 52 = significand - 2 ^ 52 := by omega
      have hdiv : (scale * 2 ^ 52 + significand) / 2 ^ 52 = scale + 1 := by omega
      rw [hmod, hdiv, Nat.add_sub_cancel, Nat.add_sub_cancel' hlarge]
      split_ifs with hsmall
      · have hzero : scale = 0 := by omega
        simp [hzero]
      · rfl

theorem step_parts (hsignificand : significand < 2 ^ 53)
    (hscale : scale = 0 ∨ 2 ^ 52 ≤ significand) :
    step (scale * 2 ^ 52 + significand) = 2 ^ scale := by
  have hexponent : (scale * 2 ^ 52 + significand) / 2 ^ 52 - 1 = scale := by omega
  rw [step, hexponent]

end Parts

/-- Every magnitude has a scale and a significand. -/
theorem exists_parts (magnitude : Nat) : ∃ scale significand,
    magnitude = scale * 2 ^ 52 + significand ∧ significand < 2 ^ 53 ∧
      (scale = 0 ∨ 2 ^ 52 ≤ significand) := by
  refine ⟨magnitude / 2 ^ 52 - 1, magnitude - (magnitude / 2 ^ 52 - 1) * 2 ^ 52, ?_, ?_, ?_⟩
  all_goals omega

theorem unitsOf_succ (magnitude : Nat) :
    unitsOf (magnitude + 1) = unitsOf magnitude + step magnitude := by
  obtain ⟨scale, significand, rfl, hsignificand, hscale⟩ := exists_parts magnitude
  have hnext : scale = 0 ∨ 2 ^ 52 ≤ significand + 1 := by omega
  rw [Nat.add_assoc, unitsOf_parts hsignificand hnext, unitsOf_parts (by omega) hscale,
    step_parts hsignificand hscale, Nat.succ_mul]

/-- A double is less than `2⁵³` steps. -/
theorem unitsOf_lt (magnitude : Nat) : unitsOf magnitude < 2 ^ 53 * step magnitude := by
  obtain ⟨scale, significand, rfl, hsignificand, hscale⟩ := exists_parts magnitude
  rw [unitsOf_parts (by omega) hscale, step_parts hsignificand hscale]
  exact Nat.mul_lt_mul_of_pos_right hsignificand (Nat.two_pow_pos scale)

theorem unitsOf_strictMono : StrictMono unitsOf := by
  refine strictMono_nat_of_lt_succ fun magnitude => ?_
  have hpos := step_pos magnitude
  rw [unitsOf_succ]
  omega

theorem unitsOf_pos_iff {magnitude : Nat} : 0 < unitsOf magnitude ↔ 0 < magnitude :=
  unitsOf_strictMono.lt_iff_lt (a := 0)

/-- The value, counted in least positive doubles. -/
def value (x : Binary64) : Int := if x.negative then -(x.units : Int) else x.units

/-- The numeric order is the order of the values. -/
theorem key_lt_iff (x y : Binary64) : x.key < y.key ↔ x.value < y.value := by
  have hless : x.units < y.units ↔ x.magnitude < y.magnitude := unitsOf_strictMono.lt_iff_lt
  have hmore : y.units < x.units ↔ y.magnitude < x.magnitude := unitsOf_strictMono.lt_iff_lt
  have hx : 0 < x.units ↔ 0 < x.magnitude := unitsOf_pos_iff
  have hy : 0 < y.units ↔ 0 < y.magnitude := unitsOf_pos_iff
  unfold key value
  cases x.negative <;> cases y.negative <;> simp only [Bool.false_eq_true, if_true, if_false] <;>
    omega

/-! ## Rounding to a double -/

theorem unitsOfOne_pos : 0 < unitsOfOne := by decide +kernel

/-- The scale at the place of a quotient. -/
def scaleOf (num den : Nat) : Nat := Nat.log2 (num * unitsOfOne / den) - 52

/-- At the scale of its place a number has a significand, unless it is too small. -/
theorem div_two_pow_log2 (place : Nat) : place / 2 ^ (place.log2 - 52) < 2 ^ 53 ∧
    (place.log2 - 52 = 0 ∨ 2 ^ 52 ≤ place / 2 ^ (place.log2 - 52)) := by
  constructor
  · refine Nat.div_lt_of_lt_mul ?_
    calc place < 2 ^ (place.log2 + 1) := Nat.lt_log2_self
      _ ≤ 2 ^ (place.log2 - 52 + 53) := Nat.pow_le_pow_right Nat.zero_lt_two (by omega)
      _ = 2 ^ (place.log2 - 52) * 2 ^ 53 := Nat.pow_add ..
  · by_cases hscale : place.log2 - 52 = 0
    · exact .inl hscale
    · have hne : place ≠ 0 := by
        rintro rfl
        simp at hscale
      have hplace : 2 ^ place.log2 ≤ place := Nat.log2_self_le hne
      have hexponent : 2 ^ 52 * 2 ^ (place.log2 - 52) = 2 ^ place.log2 := by
        rw [← Nat.pow_add]
        congr 1
        omega
      rw [Nat.le_div_iff_mul_le (Nat.two_pow_pos _), hexponent]
      exact .inr hplace

theorem significand_bounds (num den : Nat) :
    roundHalfEven (num * unitsOfOne) (den * 2 ^ scaleOf num den) ≤ 2 ^ 53 ∧
      (scaleOf num den = 0 ∨
        2 ^ 52 ≤ roundHalfEven (num * unitsOfOne) (den * 2 ^ scaleOf num den)) := by
  have hbounds := roundHalfEven_cases (num * unitsOfOne) (den * 2 ^ scaleOf num den)
  rw [← Nat.div_div_eq_div_mul] at hbounds
  obtain ⟨hless, hlarge⟩ := div_two_pow_log2 (num * unitsOfOne / den)
  unfold scaleOf at hbounds ⊢
  omega

/-- Rounding a quotient gives the nearest multiple of the step at its place. -/
theorem unitsOf_roundRatio (num den : Nat) :
    unitsOf (roundRatio num den) =
      roundHalfEven (num * unitsOfOne) (den * 2 ^ scaleOf num den) * 2 ^ scaleOf num den := by
  obtain ⟨hlimit, hscale⟩ := significand_bounds num den
  exact unitsOf_parts hlimit hscale

end Binary64

end TopicAlerts
