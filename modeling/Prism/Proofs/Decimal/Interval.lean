import Mathlib
import Prism.Decimal.Shortest

namespace Prism.Decimal

theorem zpow_eq_div (base : ℕ) (positive : 0 < base) (exponent : ℤ) :
    (base : ℚ) ^ exponent = (base : ℚ) ^ exponent.toNat / (base : ℚ) ^ (-exponent).toNat := by
  have nonzero : (base : ℚ) ≠ 0 := by exact_mod_cast positive.ne'
  rcases le_total 0 exponent with above | below
  · have none : (-exponent).toNat = 0 := by omega
    rw [none, pow_zero, div_one, ← zpow_natCast, Int.toNat_of_nonneg above]
  · have none : exponent.toNat = 0 := by omega
    rw [none, pow_zero, one_div, ← zpow_natCast, Int.toNat_of_nonneg (by omega), zpow_neg, inv_inv]

/-- The number that a decimal stands for. -/
def Scientific.toRat (s : Scientific) : ℚ := s.digits * 10 ^ s.exponent

/-- A ratio times a power of ten. -/
theorem shifted_ratio (num den : ℕ) (power : ℤ) :
    ((shifted num den power).1 : ℚ) / (shifted num den power).2 = num / den * 10 ^ power := by
  have ten := zpow_eq_div 10 (by norm_num) power
  push_cast at ten
  simp only [shifted, Nat.pow_eq]
  push_cast
  rw [ten, mul_div_mul_comm]

theorem shifted_den_pos {den : ℕ} (positive : 0 < den) (num : ℕ) (power : ℤ) : 0 < (shifted num den power).2 :=
  Nat.mul_pos positive (Nat.pow_pos (by norm_num))

/-- The interval of a number, its ends included or not. -/
def Rounding.Contains (r : Rounding) (x : ℚ) : Prop :=
  if r.closed then (r.low : ℚ) / r.den ≤ x ∧ x ≤ (r.high : ℚ) / r.den
  else (r.low : ℚ) / r.den < x ∧ x < (r.high : ℚ) / r.den

theorem Rounding.holds_iff {r : Rounding} (positive : 0 < r.den) (digits : ℕ) (exponent : ℤ) :
    r.holds digits exponent = true ↔ r.Contains (digits * 10 ^ exponent) := by
  have place := shifted_ratio digits 1 exponent
  have below := shifted_den_pos one_pos digits exponent
  rw [holds, Contains]
  revert place below
  generalize shifted digits 1 exponent = pair
  obtain ⟨n, d⟩ := pair
  intro place below
  simp only [Nat.cast_one, div_one] at place
  have denPos : (0 : ℚ) < r.den := by exact_mod_cast positive
  have dPos : (0 : ℚ) < d := by exact_mod_cast below
  rw [← place]
  cases r.closed with
  | true =>
    simp only [if_true, Bool.and_eq_true, decide_eq_true_eq]
    rw [div_le_div_iff₀ denPos dPos, div_le_div_iff₀ dPos denPos]
    norm_cast
  | false =>
    simp only [Bool.false_eq_true, if_false, Bool.and_eq_true, decide_eq_true_eq]
    rw [div_lt_div_iff₀ denPos dPos, div_lt_div_iff₀ dPos denPos]
    norm_cast

theorem Rounding.contains_of_onGrid {r : Rounding} (positive : 0 < r.den) {exponent : ℤ} {digits : ℕ}
    (found : r.onGrid exponent = some digits) : r.Contains (digits * 10 ^ exponent) := by
  rw [← holds_iff positive]
  rw [onGrid] at found
  revert found
  generalize shifted r.value r.den (-exponent) = pair
  intro found
  simp only at found
  split at found
  · next here there =>
    split at found
    · exact Option.some.inj found ▸ here
    · split at found
      · exact Option.some.inj found ▸ there
      · split at found
        · exact Option.some.inj found ▸ here
        · exact Option.some.inj found ▸ there
  · next here _ => exact Option.some.inj found ▸ here
  · next _ there => exact Option.some.inj found ▸ there
  · exact absurd found (by simp)

/-- The nearest whole number is at most a half away, and a half goes to the even neighbour. -/
theorem nearest_spec (num : ℕ) {den : ℕ} (positive : 0 < den) :
    2 * num ≤ 2 * (nearest num den * den) + den ∧ 2 * (nearest num den * den) ≤ 2 * num + den ∧
      (2 * num = 2 * (nearest num den * den) + den ∨ 2 * (nearest num den * den) = 2 * num + den →
        nearest num den % 2 = 0) := by
  have split := Nat.div_add_mod num den
  have rest := Nat.mod_lt num positive
  rw [nearest]
  generalize num / den = low at *
  generalize num % den = left at *
  have next : (low + 1) * den = den * low + den := by ring
  have here : low * den = den * low := by ring
  split_ifs <;> simp only [next, here] <;> omega

/-- The nearest point of a grid is at most half a step away. -/
theorem abs_nearest_sub_le (num : ℕ) {den : ℕ} (positive : 0 < den) (exponent : ℤ) :
    |(nearest (shifted num den (-exponent)).1 (shifted num den (-exponent)).2 : ℚ) * 10 ^ exponent -
      num / den| ≤ 10 ^ exponent / 2 := by
  have place := shifted_ratio num den (-exponent)
  have below := shifted_den_pos positive num (-exponent)
  obtain ⟨least, most, -⟩ := nearest_spec (shifted num den (-exponent)).1 below
  generalize (shifted num den (-exponent)).1 = n at *
  generalize (shifted num den (-exponent)).2 = d at *
  generalize nearest n d = near at *
  have step : (0 : ℚ) < 10 ^ exponent := by positivity
  have dPos : (0 : ℚ) < d := by exact_mod_cast below
  have value : (num : ℚ) / den = n / d * 10 ^ exponent := by
    rw [place, mul_assoc, ← zpow_add₀ (by norm_num), neg_add_cancel, zpow_zero, mul_one]
  have least' : (2 : ℚ) * n ≤ 2 * (near * d) + d := by exact_mod_cast least
  have most' : (2 : ℚ) * (near * d) ≤ 2 * n + d := by exact_mod_cast most
  have close : |(near : ℚ) - n / d| ≤ 1 / 2 := by
    have upper : (n : ℚ) / d ≤ near + 1 / 2 := by
      rw [div_le_iff₀ dPos]
      linarith
    have lower : (near : ℚ) - 1 / 2 ≤ n / d := by
      rw [le_div_iff₀ dPos]
      linarith
    rw [abs_le]
    constructor <;> linarith
  rw [value, ← sub_mul, abs_mul, abs_of_pos step]
  nlinarith

theorem pow_length_toDigits_le {n : ℕ} (positive : 0 < n) : 10 ^ ((Nat.toDigits 10 n).length - 1) ≤ n := by
  rcases Nat.eq_zero_or_pos ((Nat.toDigits 10 n).length - 1) with none | some
  · rw [none]
    exact positive
  · by_contra above
    have short := (Nat.length_toDigits_le_iff (by norm_num) some).mpr (not_le.mp above)
    omega

theorem lt_pow_length_toDigits (n : ℕ) : n < 10 ^ (Nat.toDigits 10 n).length :=
  (Nat.length_toDigits_le_iff (by norm_num) Nat.length_toDigits_pos).mp le_rfl

/-- The leading digit of a ratio stands where its position says. -/
theorem pow_pointPosition_le {num den : ℕ} (numPos : 0 < num) (denPos : 0 < den) :
    (10 : ℚ) ^ (pointPosition num den - 1) ≤ num / den := by
  have numCast : (0 : ℚ) < num := by exact_mod_cast numPos
  have denCast : (0 : ℚ) < den := by exact_mod_cast denPos
  rw [pointPosition]
  split
  · next above =>
    have whole : 0 < num / den := Nat.div_pos above denPos
    have digits := pow_length_toDigits_le whole
    have length := @Nat.length_toDigits_pos 10 (num / den)
    generalize (Nat.toDigits 10 (num / den)).length = count at *
    have exponent : ((count : ℤ) - 1) = ((count - 1 : ℕ) : ℤ) := by omega
    rw [exponent, zpow_natCast]
    have digits' : (10 : ℚ) ^ (count - 1) ≤ ((num / den : ℕ) : ℚ) := by exact_mod_cast digits
    exact digits'.trans Nat.cast_div_le
  · next below =>
    have digits := lt_pow_length_toDigits (den / num)
    generalize (Nat.toDigits 10 (den / num)).length = count at *
    have place := shifted_ratio num den (1 - (1 - (count : ℤ)))
    have under := shifted_den_pos denPos num (1 - (1 - (count : ℤ)))
    have least : den < 10 ^ count * num := (Nat.div_lt_iff_lt_mul numPos).mp digits
    have reach : (1 : ℚ) < num / den * 10 ^ (1 - (1 - (count : ℤ))) := by
      have cast : (den : ℚ) < 10 ^ count * num := by exact_mod_cast least
      rw [sub_sub_cancel, zpow_natCast, div_mul_eq_mul_div, lt_div_iff₀ denCast, one_mul, mul_comm]
      exact cast
    have bound : (shifted num den (1 - (1 - (count : ℤ)))).2 ≤ (shifted num den (1 - (1 - (count : ℤ)))).1 := by
      have dPos : (0 : ℚ) < (shifted num den (1 - (1 - (count : ℤ)))).2 := by exact_mod_cast under
      rw [← place, lt_div_iff₀ dPos, one_mul] at reach
      exact_mod_cast reach.le
    simp only
    rw [if_pos bound]
    rw [sub_sub_cancel, zpow_natCast] at reach
    have shift : (10 : ℚ) ^ (1 - (count : ℤ) - 1) = (10 ^ count)⁻¹ := by
      rw [sub_sub_cancel_left, zpow_neg, zpow_natCast]
    rw [shift, inv_le_iff_one_le_mul₀ (by positivity)]
    exact reach.le

/-- What the search finds lies in the interval, or no grid had a point in it but the last, finer one. -/
theorem Rounding.search_spec {r : Rounding} (positive : 0 < r.den) (left : ℕ) (exponent : ℤ) :
    r.Contains (r.search left exponent).toRat ∨
      r.search left exponent = ⟨nearest (shifted r.value r.den (-(exponent - left))).1
        (shifted r.value r.den (-(exponent - left))).2, exponent - left⟩ := by
  induction left generalizing exponent with
  | zero =>
    right
    simp [search]
  | succ left ih =>
    rw [search]
    cases found : r.onGrid exponent with
    | some digits => exact .inl (contains_of_onGrid positive found)
    | none =>
      have shift : exponent - 1 - (left : ℤ) = exponent - ((left + 1 : ℕ) : ℤ) := by push_cast; ring
      simpa only [shift] using ih (exponent - 1)

theorem Scientific.toRat_trim (s : Scientific) : s.trim.toRat = s.toRat := by
  have keeps (left : ℕ) (s : Scientific) : (trim.go left s).toRat = s.toRat := by
    induction left generalizing s with
    | zero => rfl
    | succ left ih =>
      rw [trim.go]
      split
      · next zero =>
        simp only [Bool.and_eq_true, decide_eq_true_eq] at zero
        obtain ⟨rest, whole⟩ := Nat.dvd_of_mod_eq_zero zero.2
        rw [ih, toRat, toRat, whole, Nat.mul_div_cancel_left _ (by norm_num), zpow_add_one₀ (by norm_num)]
        push_cast
        ring
      · rfl
  exact keeps _ s

namespace Dyadic

/-- How far below a number its interval reaches, in quarters of a unit. -/
def below (d : Dyadic) : ℕ := if d.mantissa = Nat.pow 2 52 && leastExponent < d.exponent then 1 else 2

/-- A quarter of the unit in the last place. -/
def quarter (d : Dyadic) : ℚ := 2 ^ (d.exponent - 2)

theorem quarter_pos (d : Dyadic) : 0 < d.quarter := zpow_pos (by norm_num) _

theorem rounding_den_pos (d : Dyadic) : 0 < d.rounding.den := Nat.pow_pos (by norm_num)

theorem below_spec (d : Dyadic) : d.below = 1 ∨ d.below = 2 := by
  rw [below]
  split <;> simp

theorem quarter_eq (d : Dyadic) :
    d.quarter = ((powerOfTwo (d.exponent - 2)).1 : ℚ) / (powerOfTwo (d.exponent - 2)).2 := by
  have two := zpow_eq_div 2 (by norm_num) (d.exponent - 2)
  push_cast at two
  simp only [quarter, powerOfTwo, Nat.pow_eq]
  push_cast
  exact two

variable {d : Dyadic}

theorem rounding_value (d : Dyadic) : (d.rounding.value : ℚ) / d.rounding.den = 4 * d.mantissa * d.quarter := by
  rw [quarter_eq, rounding]
  push_cast
  ring

theorem rounding_high (d : Dyadic) : (d.rounding.high : ℚ) / d.rounding.den = (4 * d.mantissa + 2) * d.quarter := by
  rw [quarter_eq, rounding]
  push_cast
  ring

theorem rounding_low (positive : 0 < d.mantissa) :
    (d.rounding.low : ℚ) / d.rounding.den = (4 * d.mantissa - d.below) * d.quarter := by
  have least : d.below ≤ 4 * d.mantissa := by
    have bound := d.below_spec
    omega
  rw [quarter_eq, rounding, ← below]
  push_cast [Nat.cast_sub least]
  ring

/-- What the interval of a number says: its ends belong to it when the mantissa is even. -/
theorem contains_iff (positive : 0 < d.mantissa) (x : ℚ) : d.rounding.Contains x ↔
    if d.mantissa % 2 = 0 then
      (4 * d.mantissa - d.below) * d.quarter ≤ x ∧ x ≤ (4 * d.mantissa + 2) * d.quarter
    else (4 * d.mantissa - d.below) * d.quarter < x ∧ x < (4 * d.mantissa + 2) * d.quarter := by
  rw [Rounding.Contains, rounding_low positive, rounding_high]
  simp [rounding]

/-- A point nearer than a quarter of a unit lies in the interval. -/
theorem contains_of_near (positive : 0 < d.mantissa) {x : ℚ}
    (near : |x - 4 * d.mantissa * d.quarter| < d.quarter) : d.rounding.Contains x := by
  have reach : d.quarter ≤ d.below * d.quarter := by
    have least : (1 : ℚ) ≤ d.below := by
      rcases d.below_spec with one | two
      · simp [one]
      · simp [two]
    nlinarith [d.quarter_pos]
  obtain ⟨left, right⟩ := abs_lt.mp near
  have lower : (4 * d.mantissa - d.below) * d.quarter < x := by linarith
  have upper : x < (4 * d.mantissa + 2) * d.quarter := by linarith [d.quarter_pos]
  rw [contains_iff positive]
  split
  · exact ⟨lower.le, upper.le⟩
  · exact ⟨lower, upper⟩

/-- The shortest decimal of a number rounds to it. -/
theorem contains_shortest (positive : 0 < d.mantissa) (short : d.mantissa < 2 ^ 53) :
    d.rounding.Contains (shortest d).toRat := by
  rw [shortest, if_neg positive.ne', Scientific.toRat_trim]
  rcases Rounding.search_spec d.rounding_den_pos 17 (pointPosition d.rounding.value d.rounding.den - 1) with
    inside | last
  · exact inside
  -- No grid of up to seventeen digits has a point in the interval; a step of the next one is shorter.
  · have valuePos : 0 < d.rounding.value := by
      rw [rounding]
      exact Nat.mul_pos (by omega) (Nat.pow_pos (by norm_num))
    have near := abs_nearest_sub_le d.rounding.value d.rounding_den_pos
      (pointPosition d.rounding.value d.rounding.den - 1 - 17)
    have lead := pow_pointPosition_le valuePos d.rounding_den_pos
    rw [last]
    rw [rounding_value] at near lead
    generalize pointPosition d.rounding.value d.rounding.den - 1 = place at *
    have step : (10 : ℚ) ^ (place - 17) = 10 ^ place / 10 ^ 17 := by
      rw [zpow_sub₀ (by norm_num)]
      norm_num
    have size : (d.mantissa : ℚ) ≤ 2 ^ 53 := by exact_mod_cast short.le
    refine contains_of_near positive (near.trans_lt ?_)
    have quarterPos := d.quarter_pos
    have bound : 4 * (d.mantissa : ℚ) * d.quarter ≤ 4 * 2 ^ 53 * d.quarter := by
      have := mul_le_mul_of_nonneg_right size quarterPos.le
      linarith
    rw [step]
    linarith

/-- A number in binary form: its mantissa has its full length, or its exponent is the least. -/
structure IsNormal (d : Dyadic) : Prop where
  least : leastExponent ≤ d.exponent
  short : d.mantissa < 2 ^ 53
  full : d.exponent = leastExponent ∨ 2 ^ 52 ≤ d.mantissa

variable {first second : Dyadic} {x : ℚ}

theorem le_of_contains (positive : 0 < d.mantissa) (inside : d.rounding.Contains x) :
    (4 * d.mantissa - d.below) * d.quarter ≤ x ∧ x ≤ (4 * d.mantissa + 2) * d.quarter := by
  rw [contains_iff positive] at inside
  split at inside
  · exact inside
  · exact ⟨inside.1.le, inside.2.le⟩

theorem lt_of_contains (positive : 0 < d.mantissa) (odd : d.mantissa % 2 = 1) (inside : d.rounding.Contains x) :
    (4 * d.mantissa - d.below) * d.quarter < x ∧ x < (4 * d.mantissa + 2) * d.quarter := by
  rwa [contains_iff positive, if_neg (by omega)] at inside

/-- Intervals over the same exponent touch at most at an end that only one of them has. -/
theorem not_contains_of_mantissa_lt (normal : first.IsNormal) (firstPos : 0 < first.mantissa)
    (same : first.exponent = second.exponent) (smaller : first.mantissa < second.mantissa)
    (inFirst : first.rounding.Contains x) : ¬ second.rounding.Contains x := by
  intro inSecond
  have secondPos : 0 < second.mantissa := by omega
  -- A nearer neighbour below has a smaller exponent, which the first number has not.
  have reach : second.below = 2 := by
    rw [below, if_neg]
    rintro near
    simp only [Nat.pow_eq, Bool.and_eq_true, decide_eq_true_eq] at near
    rcases normal.full with atLeast | full
    · omega
    · omega
  have unit : second.quarter = first.quarter := by rw [quarter, quarter, same]
  have upper := (le_of_contains firstPos inFirst).2
  have lower := (le_of_contains secondPos inSecond).1
  rw [reach, unit] at lower
  have unitPos := first.quarter_pos
  rcases Nat.lt_or_ge (first.mantissa + 1) second.mantissa with apart | next
  · have cast : (first.mantissa : ℚ) + 2 ≤ second.mantissa := by exact_mod_cast apart
    push_cast at lower
    nlinarith
  · have adjacent : second.mantissa = first.mantissa + 1 := by omega
    have cast : (second.mantissa : ℚ) = first.mantissa + 1 := by exact_mod_cast adjacent
    rcases Nat.mod_two_eq_zero_or_one first.mantissa with even | odd
    · have strict := (lt_of_contains secondPos (by omega) inSecond).1
      rw [reach, unit, cast] at strict
      push_cast at strict
      nlinarith
    · have strict := (lt_of_contains firstPos odd inFirst).2
      rw [cast] at lower
      push_cast at lower
      nlinarith

/-- The interval of a number with a larger exponent lies above. -/
theorem not_contains_of_exponent_lt (normal : first.IsNormal) (normalToo : second.IsNormal)
    (firstPos : 0 < first.mantissa) (smaller : first.exponent < second.exponent)
    (inFirst : first.rounding.Contains x) : ¬ second.rounding.Contains x := by
  intro inSecond
  have full : 2 ^ 52 ≤ second.mantissa := by
    have least := normal.least
    rcases normalToo.full with atLeast | full
    · omega
    · exact full
  have secondPos : 0 < second.mantissa := by omega
  have unit : 2 * first.quarter ≤ second.quarter := by
    have step : second.exponent - 2 = first.exponent - 2 + (second.exponent - first.exponent) := by ring
    rw [quarter, quarter, step, zpow_add₀ (by norm_num), mul_comm]
    have twice : (2 : ℚ) ^ (1 : ℤ) ≤ 2 ^ (second.exponent - first.exponent) :=
      zpow_le_zpow_right₀ (by norm_num) (by omega)
    rw [zpow_one] at twice
    exact mul_le_mul_of_nonneg_left twice (zpow_pos (by norm_num) _).le
  have unitPos := first.quarter_pos
  have upper := (le_of_contains firstPos inFirst).2
  have lower := (le_of_contains secondPos inSecond).1
  have shortFirst : (first.mantissa : ℚ) + 1 ≤ 2 ^ 53 := by exact_mod_cast normal.short
  rcases Nat.eq_or_lt_of_le full with least | above
  · have reach : second.below = 1 := by
      have higher : leastExponent < second.exponent := lt_of_le_of_lt normal.least smaller
      simp [below, ← least, higher]
    have bound : (2 ^ 55 - 2) * first.quarter ≤ x := by
      rw [reach, ← least] at lower
      push_cast at lower
      linarith
    rcases Nat.lt_or_ge (first.mantissa + 1) (2 ^ 53) with apart | next
    · have cast : (first.mantissa : ℚ) + 2 ≤ 2 ^ 53 := by exact_mod_cast apart
      nlinarith
    · have odd : first.mantissa % 2 = 1 := by
        have short := normal.short
        omega
      have strict := (lt_of_contains firstPos odd inFirst).2
      have most : (4 * first.mantissa + 2) * first.quarter ≤ (2 ^ 55 - 2) * first.quarter :=
        mul_le_mul_of_nonneg_right (by linarith) unitPos.le
      linarith
  · have reach : (second.below : ℚ) ≤ 2 := by
      rcases second.below_spec with one | two
      · simp [one]
      · simp [two]
    have cast : (2 : ℚ) ^ 52 + 1 ≤ second.mantissa := by exact_mod_cast above
    have bound : (2 ^ 54 + 2) * second.quarter ≤ x := by
      refine le_trans ?_ lower
      exact mul_le_mul_of_nonneg_right (by linarith) second.quarter_pos.le
    nlinarith

/-- A number is determined by any point of its interval. -/
theorem eq_of_contains (normal : first.IsNormal) (normalToo : second.IsNormal) (firstPos : 0 < first.mantissa)
    (secondPos : 0 < second.mantissa) (inFirst : first.rounding.Contains x)
    (inSecond : second.rounding.Contains x) :
    first.mantissa = second.mantissa ∧ first.exponent = second.exponent := by
  rcases lt_trichotomy first.exponent second.exponent with smaller | same | larger
  · exact absurd inSecond (not_contains_of_exponent_lt normal normalToo firstPos smaller inFirst)
  · rcases lt_trichotomy first.mantissa second.mantissa with smaller | equal | larger
    · exact absurd inSecond (not_contains_of_mantissa_lt normal firstPos same smaller inFirst)
    · exact ⟨equal, same⟩
    · exact absurd inFirst (not_contains_of_mantissa_lt normalToo secondPos same.symm larger inSecond)
  · exact absurd inFirst (not_contains_of_exponent_lt normalToo normal secondPos larger inSecond)

end Dyadic

end Prism.Decimal
