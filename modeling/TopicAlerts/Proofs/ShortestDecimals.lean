import Mathlib.Algebra.Order.Field.Basic
import Mathlib.Algebra.Order.Field.Rat
import TopicAlerts.Binary64.Decimal
import TopicAlerts.Proofs.Doubles

/-!
# Shortest decimals

A decimal is read as a double if it lies between the midpoints to the two neighbours, so no decimal
is read as two doubles (`readsAs_unique`). A grid of seventeen digits always has a point that is
read as the double (`isSome_gridPoint?`), so the search for the shortest decimal finds one
(`readsAs_firstGrid`), and two doubles have the same shortest decimal only if they are the same
(`Binary64.eq_of_shortest`).
-/

namespace TopicAlerts

/-- The absolute value of a decimal. -/
def Decimal.size (d : Decimal) : ℚ := d.digits * 10 ^ d.exponent

namespace Binary64

variable {tie : Tie} {magnitude candidate place : Nat}

/-! ## What is read as a double -/

/-- What is read as a double lies between the midpoints to its neighbours, and is no midpoint of an
odd one. -/
theorem readsAs_iff : readsAs magnitude candidate place = true ↔
    (unitsOf (magnitude - 1) + unitsOf magnitude) * 10 ^ gridPlaces ≤
        2 * (candidate * (10 ^ place * unitsOfOne)) ∧
      2 * (candidate * (10 ^ place * unitsOfOne)) ≤
        (unitsOf magnitude + unitsOf (magnitude + 1)) * 10 ^ gridPlaces ∧
      (magnitude % 2 = 1 →
        (unitsOf (magnitude - 1) + unitsOf magnitude) * 10 ^ gridPlaces ≠
            2 * (candidate * (10 ^ place * unitsOfOne)) ∧
          2 * (candidate * (10 ^ place * unitsOfOne)) ≠
            (unitsOf magnitude + unitsOf (magnitude + 1)) * 10 ^ gridPlaces) := by
  have hpoint : 2 * candidate * 10 ^ place * unitsOfOne =
      2 * (candidate * (10 ^ place * unitsOfOne)) := by ring
  unfold readsAs
  simp only [Nat.pow_eq, hpoint]
  generalize 2 * (candidate * (10 ^ place * unitsOfOne)) = point
  generalize (unitsOf (magnitude - 1) + unitsOf magnitude) * 10 ^ gridPlaces = low
  generalize (unitsOf magnitude + unitsOf (magnitude + 1)) * 10 ^ gridPlaces = high
  split_ifs with heven <;> simp only [Bool.and_eq_true, decide_eq_true_eq] <;> omega

/-- No decimal is read as two doubles. -/
theorem readsAs_unique {m n c d p q : Nat} (hm : readsAs m c p = true) (hn : readsAs n d q = true)
    (hsame : c * 10 ^ p = d * 10 ^ q) : m = n := by
  -- The greater of the two starts at the last point of the smaller one at the earliest.
  have hordered : ∀ {m n c d p q : Nat}, readsAs m c p = true → readsAs n d q = true →
      c * 10 ^ p = d * 10 ^ q → ¬m < n := by
    intro m n c d p q hm hn hsame hless
    obtain ⟨-, hhigh, hodd⟩ := readsAs_iff.mp hm
    obtain ⟨hlow, -, hodd'⟩ := readsAs_iff.mp hn
    have hequal : c * (10 ^ p * unitsOfOne) = d * (10 ^ q * unitsOfOne) := by
      rw [← Nat.mul_assoc, hsame, Nat.mul_assoc]
    rw [hequal] at hhigh hodd
    have hlast := Nat.le_of_mul_le_mul_right (hlow.trans hhigh) (Nat.pow_pos (by decide))
    have hfirst : unitsOf m ≤ unitsOf (n - 1) := unitsOf_strictMono.monotone (by omega)
    have hsecond : unitsOf (m + 1) ≤ unitsOf n := unitsOf_strictMono.monotone (by omega)
    have hneighbour : n = m + 1 := unitsOf_strictMono.injective (by omega)
    subst hneighbour
    rw [Nat.add_sub_cancel] at hlow hodd'
    have hpoint := Nat.le_antisymm hlow hhigh
    rcases Nat.mod_two_eq_zero_or_one m with heven | hm
    · exact (hodd' (by omega)).1 hpoint
    · exact (hodd hm).2 (Nat.le_antisymm hhigh hlow)
  have hless := hordered hm hn hsame
  have hmore := hordered hn hm hsame.symm
  omega

/-- Zero is read as no other double. -/
theorem pos_of_readsAs (hm : 0 < magnitude) (hreads : readsAs magnitude candidate place = true) :
    0 < candidate := by
  obtain ⟨hlow, -, -⟩ := readsAs_iff.mp hreads
  have hunits : 0 < unitsOf (magnitude - 1) + unitsOf magnitude :=
    Nat.add_pos_right _ (unitsOf_pos_iff.mpr hm)
  have hpoint := (Nat.mul_pos hunits (Nat.pow_pos (by decide))).trans_le hlow
  refine Nat.pos_of_ne_zero ?_
  rintro rfl
  simp at hpoint

/-! ## Points of a grid -/

/-- The point of the grid that is nearest to a value. -/
def nearest (tie : Tie) (value width : Nat) : Nat :=
  if 2 * (value % width) < width then value / width
  else if width < 2 * (value % width) then value / width + 1
  else match tie with
    | .even => value / width + value / width % 2
    | .away => value / width + 1

/-- The nearest point is at most half the width away. -/
theorem nearest_near (tie : Tie) (value : Nat) {width : Nat} (hwidth : 0 < width) :
    2 * (nearest tie value width * width) ≤ 2 * value + width ∧
      2 * value ≤ 2 * (nearest tie value width * width) + width := by
  have hsplit := Nat.div_add_mod' value width
  have hrest := Nat.mod_lt value hwidth
  have hcases : (nearest tie value width = value / width ∧ 2 * (value % width) ≤ width) ∨
      (nearest tie value width = value / width + 1 ∧ width ≤ 2 * (value % width)) := by
    unfold nearest
    split_ifs with hless hmore
    · exact .inl ⟨rfl, by omega⟩
    · exact .inr ⟨rfl, by omega⟩
    · cases tie <;> dsimp only <;> omega
  rcases hcases with ⟨hdown, hhalf⟩ | ⟨hup, hhalf⟩
  · rw [hdown]
    omega
  · rw [hup, Nat.add_mul, Nat.one_mul]
    omega

/-- The nearest point is tried first, and then the one on the other side of the value. -/
theorem gridPoint?_eq (tie : Tie) (magnitude place : Nat) : ∃ near far,
    near = nearest tie (unitsOf magnitude * 10 ^ gridPlaces) (10 ^ place * unitsOfOne) ∧
      gridPoint? tie magnitude place = if readsAs magnitude near place then some near
        else if readsAs magnitude far place then some far else none := by
  unfold gridPoint? nearest
  simp only [Nat.pow_eq]
  generalize 10 ^ gridPlaces = unit
  exact ⟨_, _, rfl, rfl⟩

theorem readsAs_of_gridPoint? (h : gridPoint? tie magnitude place = some candidate) :
    readsAs magnitude candidate place = true := by
  obtain ⟨near, far, -, heq⟩ := gridPoint?_eq tie magnitude place
  rw [heq] at h
  split_ifs at h with hnear hfar
  · cases h
    exact hnear
  · cases h
    exact hfar

/-- A width of seventeen digits is less than the step of a double. -/
theorem width_lt_of_digits {units width unit gap : Nat} (hunit : 0 < unit)
    (hwidth : 10 ^ 16 * width ≤ units * unit) (hgap : units < (2 ^ 53 + 1) * gap) :
    width < gap * unit := by
  by_contra hnot
  have hbound : units * unit < (2 ^ 53 + 1) * width :=
    calc units * unit < (2 ^ 53 + 1) * gap * unit := Nat.mul_lt_mul_of_pos_right hgap hunit
      _ = (2 ^ 53 + 1) * (gap * unit) := Nat.mul_assoc ..
      _ ≤ (2 ^ 53 + 1) * width := Nat.mul_le_mul_left _ (Nat.not_lt.mp hnot)
  omega

/-- A grid whose points are as dense as the doubles has a point that is read as the double. -/
theorem isSome_gridPoint? (hm : 0 < magnitude)
    (hwidth : 10 ^ 16 * (10 ^ place * unitsOfOne) ≤ unitsOf magnitude * 10 ^ gridPlaces) :
    (gridPoint? tie magnitude place).isSome := by
  obtain ⟨near, far, hnear, heq⟩ := gridPoint?_eq tie magnitude place
  have hpos : 0 < 10 ^ place * unitsOfOne := Nat.mul_pos (Nat.pow_pos (by decide)) unitsOfOne_pos
  obtain ⟨habove, hbelow⟩ := nearest_near tie (unitsOf magnitude * 10 ^ gridPlaces) hpos
  rw [← hnear] at habove hbelow
  have hreads : readsAs magnitude near place = true := by
    rw [readsAs_iff]
    obtain ⟨below, rfl⟩ := Nat.exists_eq_add_of_lt hm
    rw [Nat.zero_add] at *
    rw [Nat.add_sub_cancel]
    -- The steps to both neighbours are greater than the width of the grid.
    have hnext := unitsOf_succ (below + 1)
    have hthis := unitsOf_succ below
    have hlarge := unitsOf_lt (below + 1)
    have hsmall := unitsOf_lt below
    have hunit : 0 < 10 ^ gridPlaces := Nat.pow_pos (by decide)
    have hup : 10 ^ place * unitsOfOne < step (below + 1) * 10 ^ gridPlaces :=
      width_lt_of_digits hunit hwidth (by omega)
    have hdown : 10 ^ place * unitsOfOne < step below * 10 ^ gridPlaces :=
      width_lt_of_digits hunit hwidth (by omega)
    rw [hthis] at habove hbelow hnext
    rw [hnext, hthis]
    simp only [Nat.add_mul] at habove hbelow ⊢
    omega
  rw [heq, if_pos hreads]
  rfl

/-! ## The search -/

/-- The search finds a point if one of its grids has one. -/
theorem readsAs_firstGrid {fuel back : Nat} (hback : back < fuel)
    (hgrid : (gridPoint? tie magnitude (place - back)).isSome) :
    readsAs magnitude (firstGrid tie magnitude fuel place).1
      (firstGrid tie magnitude fuel place).2 = true := by
  induction fuel generalizing back place with
  | zero => omega
  | succ fuel ih =>
    unfold firstGrid
    cases hpoint : gridPoint? tie magnitude place with
    | some point => exact readsAs_of_gridPoint? hpoint
    | none =>
      cases back with
      | zero =>
        rw [Nat.sub_zero, hpoint] at hgrid
        cases hgrid
      | succ back =>
        have hlater : (gridPoint? tie magnitude (place - 1 - back)).isSome := by
          rwa [Nat.sub_sub, Nat.add_comm 1 back]
        exact ih (by omega) hlater

theorem lt_pow_digitCount (n : Nat) : n < 10 ^ digitCount n :=
  (Nat.length_toDigits_le_iff (by decide) Nat.length_toDigits_pos).mp le_rfl

theorem pow_digitCount_le {n : Nat} (hn : 0 < n) : 10 ^ (digitCount n - 1) ≤ n := by
  by_cases hone : digitCount n - 1 = 0
  · rw [hone]
    exact hn
  · have hlength := Nat.length_toDigits_le_iff (n := n) (show 1 < 10 by decide)
      (Nat.pos_of_ne_zero hone)
    have hcount : (Nat.toDigits 10 n).length = digitCount n := rfl
    omega

/-- Seventeen digits always suffice. -/
theorem isSome_seventeenth (tie : Tie) (hm : 0 < magnitude) :
    (gridPoint? tie magnitude
      (digitCount (unitsOf magnitude * 10 ^ gridPlaces / unitsOfOne) - 1 - 16)).isSome := by
  obtain ⟨whole, hwhole⟩ : ∃ n, n = unitsOf magnitude * 10 ^ gridPlaces / unitsOfOne := ⟨_, rfl⟩
  rw [← hwhole]
  have hlarge : 10 ^ 16 ≤ whole := by
    have hscale : 10 ^ 16 * unitsOfOne ≤ 10 ^ gridPlaces := by decide +kernel
    rw [hwhole, Nat.le_div_iff_mul_le unitsOfOne_pos]
    exact hscale.trans (Nat.le_mul_of_pos_left _ (unitsOf_pos_iff.mpr hm))
  have hplaces : 16 < digitCount whole :=
    (Nat.pow_lt_pow_iff_right (by decide)).mp (hlarge.trans_lt (lt_pow_digitCount whole))
  refine isSome_gridPoint? hm ?_
  calc 10 ^ 16 * (10 ^ (digitCount whole - 1 - 16) * unitsOfOne)
      = 10 ^ (digitCount whole - 1) * unitsOfOne := by
        rw [← Nat.mul_assoc, ← Nat.pow_add, Nat.add_sub_cancel' (by omega)]
    _ ≤ whole * unitsOfOne := Nat.mul_le_mul_right _ (pow_digitCount_le (by omega))
    _ ≤ unitsOf magnitude * 10 ^ gridPlaces := by
        rw [hwhole]
        exact Nat.div_mul_le_self ..

/-- The shortest decimal of a double is read as that double. -/
theorem readsAs_shortest (tie : Tie) {x : Binary64} (hx : 0 < x.magnitude) : ∃ place : Nat,
    (x.shortest tie).exponent = place - gridPlaces ∧
      readsAs x.magnitude (x.shortest tie).digits place = true := by
  have hnot : x.magnitude ≠ 0 := by omega
  have hfirst := readsAs_firstGrid (show 16 < 17 by decide) (isSome_seventeenth tie hx)
  unfold shortest
  simp only [units, if_neg hnot, Nat.pow_eq]
  generalize 10 ^ gridPlaces = scale at hfirst ⊢
  exact ⟨_, rfl, hfirst⟩

theorem size_shortest_pos (tie : Tie) {x : Binary64} (hx : 0 < x.magnitude) :
    0 < (x.shortest tie).size := by
  obtain ⟨place, -, hreads⟩ := readsAs_shortest tie hx
  have hdigits := pos_of_readsAs hx hreads
  exact mul_pos (Nat.cast_pos.mpr hdigits) (zpow_pos (by norm_num) _)

theorem size_shortest_zero (tie : Tie) {x : Binary64} (hx : x.magnitude = 0) :
    (x.shortest tie).size = 0 := by
  unfold shortest Decimal.size
  rw [if_pos hx]
  simp

theorem negative_shortest (tie : Tie) (x : Binary64) : (x.shortest tie).negative = x.negative := by
  unfold shortest
  split_ifs <;> rfl

/-- Doubles of one sign are the same if their shortest decimals are the same number. -/
theorem eq_of_shortest {tie : Tie} {x y : Binary64} (hsign : x.negative = y.negative)
    (hsize : (x.shortest tie).size = (y.shortest tie).size) : x = y := by
  have hmagnitude : x.magnitude = y.magnitude := by
    rcases Nat.eq_zero_or_pos x.magnitude with hx | hx <;>
      rcases Nat.eq_zero_or_pos y.magnitude with hy | hy
    · rw [hx, hy]
    · have hpos := size_shortest_pos tie hy
      rw [← hsize, size_shortest_zero tie hx] at hpos
      exact absurd hpos (lt_irrefl _)
    · have hpos := size_shortest_pos tie hx
      rw [hsize, size_shortest_zero tie hy] at hpos
      exact absurd hpos (lt_irrefl _)
    · obtain ⟨p, hp, hreads⟩ := readsAs_shortest tie hx
      obtain ⟨q, hq, hreads'⟩ := readsAs_shortest tie hy
      refine readsAs_unique hreads hreads' ?_
      have hten : (10 : ℚ) ≠ 0 := by norm_num
      unfold Decimal.size at hsize
      rw [hp, hq, zpow_sub₀ hten, zpow_sub₀ hten, ← mul_div_assoc, ← mul_div_assoc,
        div_left_inj' (zpow_ne_zero _ hten)] at hsize
      exact_mod_cast hsize
  cases x
  cases y
  subst hsign hmagnitude
  rfl

end Binary64

end TopicAlerts
