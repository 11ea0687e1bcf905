import TopicAlerts.Proofs.Doubles
import TopicAlerts.Proofs.TestLaws

/-!
# Integers in comparisons

Tests compare numbers as doubles. An integer of 64 bits becomes the double that has its 53 leading
binary digits, a tie going to the even one (`value_ofInt`), so two integers are told apart if they
differ in these (`integers_compare`). Below `2⁵³` in absolute value all integers are doubles; above,
two neighbours may be the same one (`neighbours_confused`).
-/

namespace TopicAlerts

/-! ## Rounding to 53 binary digits -/

/-- The natural number rounded to its 53 leading binary digits, a tie going to the even one. -/
def roundedNat (n : Nat) : Nat :=
  roundHalfEven n (2 ^ (n.log2 - 52)) * 2 ^ (n.log2 - 52)

/-- The integer rounded to its 53 leading binary digits, a tie going to the even one. -/
def rounded (n : Int) : Int :=
  if n < 0 then -(roundedNat n.natAbs : Int) else roundedNat n.natAbs

theorem roundedNat_of_le {n : Nat} (hn : n ≤ 2 ^ 53) : roundedNat n = n := by
  rcases Nat.lt_or_eq_of_le hn with hless | rfl
  · have hscale : n.log2 - 52 = 0 := by
      by_cases hzero : n = 0
      · subst hzero
        rfl
      · have hlog := (Nat.log2_lt hzero).mpr hless
        omega
    rw [roundedNat, hscale, Nat.pow_zero, Nat.mul_one]
    have hround := roundHalfEven_of_mul n Nat.one_pos
    rwa [Nat.mul_one] at hround
  · decide +kernel

theorem leadingDigits_bounds (n : Nat) : roundHalfEven n (2 ^ (n.log2 - 52)) ≤ 2 ^ 53 ∧
    (n.log2 - 52 = 0 ∨ 2 ^ 52 ≤ roundHalfEven n (2 ^ (n.log2 - 52))) := by
  have hcases := roundHalfEven_cases n (2 ^ (n.log2 - 52))
  have hbounds := Binary64.div_two_pow_log2 n
  omega

/-- Rounding keeps the order of the numbers, though not the strict one. -/
theorem roundedNat_mono {m n : Nat} (h : m ≤ n) : roundedNat m ≤ roundedNat n := by
  have hlog : m.log2 ≤ n.log2 := by
    by_cases hzero : m = 0
    · subst hzero
      exact Nat.zero_le _
    · exact (Nat.le_log2 (by omega)).mpr ((Nat.log2_self_le hzero).trans h)
  obtain ⟨hlimit, -⟩ := leadingDigits_bounds m
  obtain ⟨-, hscale⟩ := leadingDigits_bounds n
  rcases Nat.lt_or_eq_of_le (Nat.sub_le_sub_right hlog 52) with hless | hsame
  · have hlarge := hscale.resolve_left (by omega)
    calc roundedNat m ≤ 2 ^ 53 * 2 ^ (m.log2 - 52) := Nat.mul_le_mul_right _ hlimit
      _ = 2 ^ 52 * 2 ^ (m.log2 - 52 + 1) := by ring
      _ ≤ 2 ^ 52 * 2 ^ (n.log2 - 52) :=
        Nat.mul_le_mul_left _ (Nat.pow_le_pow_right Nat.zero_lt_two hless)
      _ ≤ roundedNat n := Nat.mul_le_mul_right _ hlarge
  · unfold roundedNat
    rw [hsame]
    exact Nat.mul_le_mul_right _ (roundHalfEven_mono h _)

theorem rounded_mono {m n : Int} (h : m ≤ n) : rounded m ≤ rounded n := by
  unfold rounded
  split_ifs with hm hn hn
  · have hround := roundedNat_mono (show n.natAbs ≤ m.natAbs by omega)
    omega
  · omega
  · omega
  · have hround := roundedNat_mono (show m.natAbs ≤ n.natAbs by omega)
    omega

theorem rounded_of_natAbs_le {n : Int} (hn : n.natAbs ≤ 2 ^ 53) : rounded n = n := by
  unfold rounded
  rw [roundedNat_of_le hn]
  split_ifs <;> omega

/-- Rounding tells two integers apart if one of them is below `2⁵³` in absolute value, or none is
above. -/
theorem rounded_inj {n k : Int}
    (h : n.natAbs < 2 ^ 53 ∨ k.natAbs < 2 ^ 53 ∨ n.natAbs ≤ 2 ^ 53 ∧ k.natAbs ≤ 2 ^ 53) :
    rounded n = rounded k ↔ n = k := by
  refine ⟨fun hsame => ?_, fun hsame => congrArg rounded hsame⟩
  have hone (m : Int) (hm : m.natAbs ≤ 2 ^ 53) : rounded m = m := rounded_of_natAbs_le hm
  have hlow := hone (-2 ^ 53) (by decide)
  have hhigh := hone (2 ^ 53) (by decide)
  -- what is beyond `2⁵³` stays there
  have hstays (m : Int) : 2 ^ 53 ≤ m.natAbs → 2 ^ 53 ≤ (rounded m).natAbs := by
    intro hm
    rcases Int.natAbs_eq m with hpos | hneg
    · have hround := rounded_mono (show (2 ^ 53 : Int) ≤ m by omega)
      omega
    · have hround := rounded_mono (show m ≤ (-2 ^ 53 : Int) by omega)
      omega
  have hn := hone n
  have hk := hone k
  have hn' := hstays n
  have hk' := hstays k
  omega

/-! ## Integers as doubles -/

namespace Binary64

theorem log2_mul_two_pow {n : Nat} (hn : n ≠ 0) (e : Nat) : (n * 2 ^ e).log2 = n.log2 + e := by
  have hne : n * 2 ^ e ≠ 0 := Nat.mul_ne_zero hn (Nat.two_pow_pos e).ne'
  rw [Nat.log2_eq_iff hne]
  constructor
  · rw [Nat.pow_add]
    exact Nat.mul_le_mul_right _ (Nat.log2_self_le hn)
  · rw [Nat.add_right_comm, Nat.pow_add]
    exact Nat.mul_lt_mul_of_pos_right Nat.lt_log2_self (Nat.two_pow_pos e)

/-- The binary places behind the point that a double may have. -/
def binaryPlaces : Nat := 1074

theorem unitsOfOne_eq : unitsOfOne = 2 ^ binaryPlaces := by decide +kernel

theorem scaleOf_natural {n : Nat} (hn : n ≠ 0) : scaleOf n 1 = n.log2 + binaryPlaces - 52 := by
  rw [scaleOf, Nat.div_one, unitsOfOne_eq, log2_mul_two_pow hn]

/-- A natural number is rounded to its leading digits. -/
theorem unitsOf_roundRatio_natural (n : Nat) :
    unitsOf (roundRatio n 1) = roundedNat n * unitsOfOne := by
  by_cases hzero : n = 0
  · subst hzero
    decide +kernel
  · have hplaces : binaryPlaces = 1074 := rfl
    rw [unitsOf_roundRatio, Nat.one_mul, scaleOf_natural hzero, roundedNat]
    by_cases hlarge : 52 ≤ n.log2
    · have hscale : n.log2 + binaryPlaces - 52 = n.log2 - 52 + binaryPlaces := by omega
      rw [hscale, Nat.pow_add, ← unitsOfOne_eq, roundHalfEven_mul _ _ unitsOfOne_pos,
        Nat.mul_assoc]
    · have hscale : n.log2 - 52 = 0 := by omega
      have hexponent : 52 - n.log2 + (n.log2 + binaryPlaces - 52) = binaryPlaces := by omega
      have hone : unitsOfOne = 2 ^ (52 - n.log2) * 2 ^ (n.log2 + binaryPlaces - 52) := by
        rw [← Nat.pow_add, hexponent, unitsOfOne_eq]
      have hround := roundHalfEven_of_mul n Nat.one_pos
      rw [Nat.mul_one] at hround
      rw [hscale, Nat.pow_zero, Nat.mul_one, hround, hone, ← Nat.mul_assoc,
        roundHalfEven_of_mul _ (Nat.two_pow_pos _)]

/-- The greatest natural numbers of 64 bits are far below the greatest double. -/
theorem roundRatio_natural_lt {n : Nat} (hn : n < 2 ^ 64) : roundRatio n 1 < magnitudes := by
  have hscale : scaleOf n 1 ≤ 1086 := by
    by_cases hzero : n = 0
    · subst hzero
      decide +kernel
    · have hlog := (Nat.log2_lt hzero).mpr hn
      have hplaces : binaryPlaces = 1074 := rfl
      rw [scaleOf_natural hzero]
      omega
  obtain ⟨hlimit, -⟩ := significand_bounds n 1
  show scaleOf n 1 * 2 ^ 52 + roundHalfEven (n * unitsOfOne) (1 * 2 ^ scaleOf n 1) < 2047 * 2 ^ 52
  omega

theorem units_ofNat {n : Nat} (hn : n < 2 ^ 64) :
    (ofNat n).units = roundedNat n * unitsOfOne ∧ (ofNat n).negative = false := by
  have hfinite := roundRatio_natural_lt hn
  have hnat : ofNat n = ⟨false, roundRatio n 1, hfinite⟩ := by
    rw [ofNat, ofRatio?, ofMagnitude?, dif_pos hfinite]
    rfl
  rw [hnat]
  exact ⟨unitsOf_roundRatio_natural n, rfl⟩

theorem value_neg (x : Binary64) : x.neg.value = -x.value := by
  obtain ⟨negative, magnitude, finite⟩ := x
  cases negative with
  | false => rfl
  | true => exact (Int.neg_neg _).symm

theorem value_ofNat {n : Nat} (hn : n < 2 ^ 64) :
    (ofNat n).value = (roundedNat n * unitsOfOne : Nat) := by
  obtain ⟨hunits, hsign⟩ := units_ofNat hn
  rw [value, hsign, hunits]
  exact if_neg Bool.false_ne_true

/-- An integer of 64 bits becomes the double of its leading digits. -/
theorem value_ofInt {n : Int} (hn : -2 ^ 63 ≤ n ∧ n < 2 ^ 64) :
    (ofInt n).value = rounded n * unitsOfOne := by
  cases n with
  | ofNat n =>
    simp only [Int.ofNat_eq_natCast] at hn
    have hround : rounded (Int.ofNat n) = roundedNat n := if_neg (Int.natCast_nonneg n).not_gt
    rw [hround, ofInt, value_ofNat (by omega), Nat.cast_mul]
  | negSucc n =>
    have hround : rounded (Int.negSucc n) = -(roundedNat (n + 1) : Int) := if_pos (by omega)
    rw [hround, ofInt, value_neg, value_ofNat (by omega), Nat.cast_mul, Int.neg_mul]

end Binary64

/-! ## Tests of integers -/

namespace RuleDocument

/-- The six tests that compare decide how one integer stands to another. -/
structure Decides (message : Message) (arguments : Json.Members) (n k : Int) : Prop where
  gt : Matches message "gt" (.obj arguments) ↔ n > k
  gte : Matches message "gte" (.obj arguments) ↔ n ≥ k
  lt : Matches message "lt" (.obj arguments) ↔ n < k
  lte : Matches message "lte" (.obj arguments) ↔ n ≤ k
  eq : Matches message "eq" (.obj arguments) ↔ n = k
  ne : Matches message "ne" (.obj arguments) ↔ n ≠ k

variable {message : Message} {arguments : Json.Members} {n k : Int}

/-- The tests of an integer decide how its rounding stands to that of the operand. -/
theorem decides_rounded (hn : -2 ^ 63 ≤ n ∧ n < 2 ^ 64) (hk : -2 ^ 63 ≤ k ∧ k < 2 ^ 64)
    (hvalue : Subject message arguments (.num (.int n)))
    (hoperand : Argument arguments "value" (.num (.int k))) :
    Decides message arguments (rounded n) (rounded k) := by
  have hpos : (0 : Int) < Binary64.unitsOfOne := by
    exact_mod_cast Binary64.unitsOfOne_pos
  have hless (m l : Int) (hm : -2 ^ 63 ≤ m ∧ m < 2 ^ 64) (hl : -2 ^ 63 ≤ l ∧ l < 2 ^ 64) :
      (Binary64.ofInt m).key < (Binary64.ofInt l).key ↔ rounded m < rounded l := by
    rw [Binary64.key_lt_iff, Binary64.value_ofInt hm, Binary64.value_ofInt hl]
    exact Int.mul_lt_mul_right hpos
  have hlt := hless n k hn hk
  have hgt := hless k n hk hn
  have hcompare (key : String) (comparison : Comparison)
      (htests : Tests key (.compare comparison)) :
      Matches message key (.obj arguments) ↔
        relation comparison (Binary64.ofInt n).key (Binary64.ofInt k).key := by
    rw [htests.matches_of_subject_iff hvalue, asks_compare_iff hoperand (.number _)]
    rfl
  have hequal : (Json.num (.int n)).valuesEqual (.num (.int k)) = true ↔
      rounded n = rounded k := by
    simp only [Json.valuesEqual, Json.Number.toBinary64, Binary64.eq, beq_iff_eq]
    omega
  have heq : Tests "eq" .eq := rfl
  have hne : Tests "ne" .ne := rfl
  have hnull : Json.num (.int k) ≠ .null := Json.noConfusion
  obtain ⟨hasksEq, hasksNe⟩ := asks_eq_iff (.num (.int n)) hoperand hnull
  constructor
  · rw [hcompare "gt" .greater rfl]
    exact hgt
  · rw [hcompare "gte" .greaterOrEqual rfl]
    show (Binary64.ofInt k).key ≤ (Binary64.ofInt n).key ↔ _
    omega
  · rw [hcompare "lt" .less rfl]
    exact hlt
  · rw [hcompare "lte" .lessOrEqual rfl]
    show (Binary64.ofInt n).key ≤ (Binary64.ofInt k).key ↔ _
    omega
  · rw [heq.matches_of_subject_iff hvalue, hasksEq, hequal]
  · rw [hne.matches_of_subject_iff hvalue, hasksNe, Ne, ← hequal, Bool.not_eq_true]

/-- What holds of the roundings holds of the integers, unless they are different and rounded to the
same double. -/
theorem Decides.of_rounded (h : Decides message arguments (rounded n) (rounded k))
    (happart : n = k ∨ rounded n ≠ rounded k) : Decides message arguments n k := by
  have hle : n ≤ k → rounded n ≤ rounded k := rounded_mono
  have hge : k ≤ n → rounded k ≤ rounded n := rounded_mono
  have hsame : n = k → rounded n = rounded k := congrArg rounded
  refine ⟨h.gt.trans ?_, h.gte.trans ?_, h.lt.trans ?_, h.lte.trans ?_, h.eq.trans ?_,
    h.ne.trans ?_⟩ <;> omega

/-- The tests of an integer of 64 bits, with an integer of 64 bits as the operand, decide how the
doubles nearest to the two stand to each other. So they decide how the two integers do, unless these
are different and rounded to the same double. Integers up to `2⁵³` in absolute value are not, nor is
one below that and any other one. -/
theorem integers_compare (hn : -2 ^ 63 ≤ n ∧ n < 2 ^ 64) (hk : -2 ^ 63 ≤ k ∧ k < 2 ^ 64)
    (hvalue : Subject message arguments (.num (.int n)))
    (hoperand : Argument arguments "value" (.num (.int k))) :
    Decides message arguments (rounded n) (rounded k) ∧
      (n = k ∨ rounded n ≠ rounded k → Decides message arguments n k) ∧
      (n.natAbs < 2 ^ 53 ∨ k.natAbs < 2 ^ 53 ∨ n.natAbs ≤ 2 ^ 53 ∧ k.natAbs ≤ 2 ^ 53 →
        Decides message arguments n k) := by
  have hrounded := decides_rounded hn hk hvalue hoperand
  refine ⟨hrounded, hrounded.of_rounded, fun hsmall => hrounded.of_rounded ?_⟩
  by_cases hsame : rounded n = rounded k
  · exact .inl ((rounded_inj hsmall).mp hsame)
  · exact .inr hsame

/-- A message with an integer in it. -/
def sized (n : Int) : Message := ⟨.obj [("size", .num (.int n))]⟩

/-- A test of that integer. -/
def sizeAgainst (k : Int) : Json.Members := [("field", .str "size"), ("value", .num (.int k))]

theorem argument_sizeAgainst (k : Int) : Argument (sizeAgainst k) "value" (.num (.int k)) :=
  .bare rfl rfl

theorem subject_sized (n k : Int) : Subject (sized n) (sizeAgainst k) (.num (.int n)) := by
  have hfield : Argument (sizeAgainst k) "field" (.str "size") := .bare rfl rfl
  exact .field hfield (resolve_eq_some_iff.mp rfl)

/-- Two neighbouring doubles are told apart. -/
theorem integers_compare_doubles :
    Decides (sized (2 ^ 53 + 2)) (sizeAgainst (2 ^ 53)) (2 ^ 53 + 2) (2 ^ 53) := by
  have hcompare := integers_compare (by decide) (by decide) (subject_sized (2 ^ 53 + 2) (2 ^ 53))
    (argument_sizeAgainst (2 ^ 53))
  exact hcompare.2.1 (.inr (by decide +kernel))

/-- The integer after `2⁵³` is no double, and no test tells it from `2⁵³`. -/
theorem neighbours_confused : ¬∀ (message : Message) (arguments : Json.Members) (n k : Int),
    (-2 ^ 63 ≤ n ∧ n < 2 ^ 64) → (-2 ^ 63 ≤ k ∧ k < 2 ^ 64) →
      Subject message arguments (.num (.int n)) → Argument arguments "value" (.num (.int k)) →
        Decides message arguments n k := by
  intro hall
  have hn : (-2 ^ 63 : Int) ≤ 2 ^ 53 + 1 ∧ (2 ^ 53 + 1 : Int) < 2 ^ 64 := by decide
  have hk : (-2 ^ 63 : Int) ≤ 2 ^ 53 ∧ (2 ^ 53 : Int) < 2 ^ 64 := by decide
  have hvalue := subject_sized (2 ^ 53 + 1) (2 ^ 53)
  have hoperand := argument_sizeAgainst (2 ^ 53)
  have hdecides := hall _ _ _ _ hn hk hvalue hoperand
  have hmatches := hdecides.gt.mpr (by decide)
  have hrounded := (decides_rounded hn hk hvalue hoperand).gt.mp hmatches
  revert hrounded
  decide +kernel

end RuleDocument

end TopicAlerts
