import Prism.Proofs.Decimal.Reading

namespace Prism.Decimal

open Float.Model in
/-- The bits of a number are kept, unless they are those of one of the many undefined values. -/
theorem toBits_ofBits {bits : UInt64} (ordinary : bits.toNat / 2 ^ 52 % 2048 = 2047 → bits.toNat % 2 ^ 52 = 0) :
    (Float.ofBits bits).toBits = bits := by
  have valid : Format.binary64.Valid bits.toBitVec := by
    refine ⟨fun exponent mantissa => absurd ?_ mantissa⟩
    have full := congrArg BitVec.toNat exponent
    rw [toNat_unpackExponent] at full
    refine BitVec.eq_of_toNat_eq ?_
    rw [toNat_unpackMantissa]
    exact ordinary full
  exact congrArg Float.toBits (Float.ofBits_toBits ⟨⟨bits, valid⟩⟩)

/-- What the bits of a finite magnitude say. -/
theorem valueOf_ofBits (negative : Bool) {magnitude : ℕ} (finite : magnitude < infinityBits) :
    valueOf (Float.ofBits (UInt64.ofNat (magnitude + if negative then Nat.pow 2 63 else 0))) = .finite
      (if magnitude < 2 ^ 52 then ⟨negative, magnitude, leastExponent⟩
        else ⟨negative, 2 ^ 52 + magnitude % 2 ^ 52, leastExponent + (magnitude / 2 ^ 52 - 1 : ℕ)⟩) := by
  have small : magnitude < 2047 * 2 ^ 52 := finite
  have bits : (UInt64.ofNat (magnitude + if negative then Nat.pow 2 63 else 0)).toNat =
      magnitude + if negative then 2 ^ 63 else 0 := by
    rw [UInt64.toNat_ofNat']
    refine Nat.mod_eq_of_lt ?_
    cases negative <;> simp <;> omega
  have ordinary : (magnitude + if negative then 2 ^ 63 else 0) / 2 ^ 52 % 2048 = magnitude / 2 ^ 52 := by
    cases negative <;> simp <;> omega
  have sign : decide (2 ^ 63 ≤ magnitude + if negative then 2 ^ 63 else 0) = negative := by
    cases negative with
    | false => exact decide_eq_false (by simp only [Bool.false_eq_true, if_false]; omega)
    | true => exact decide_eq_true (by simp)
  have fraction : (magnitude + if negative then 2 ^ 63 else 0) % 2 ^ 52 = magnitude % 2 ^ 52 := by
    cases negative <;> simp
    omega
  have least : magnitude / 2 ^ 52 = 0 ↔ magnitude < 2 ^ 52 := by omega
  simp only [valueOf, toBits_ofBits (by rw [bits, ordinary]; omega), bits, Nat.pow_eq, sign, ordinary, fraction, least]
  rw [if_neg (by omega)]
  split
  · next zero => rw [Nat.mod_eq_of_lt zero]
  · rfl

theorem powerOfTwo_ratio (exponent : ℤ) :
    ((powerOfTwo exponent).1 : ℚ) / (powerOfTwo exponent).2 = 2 ^ exponent := by
  have two := zpow_eq_div 2 (by norm_num) exponent
  push_cast at two
  simp only [powerOfTwo, Nat.pow_eq]
  push_cast
  exact two.symm

theorem powerOfTwo_pos (exponent : ℤ) : 0 < (powerOfTwo exponent).1 ∧ 0 < (powerOfTwo exponent).2 :=
  ⟨Nat.pow_pos (by norm_num), Nat.pow_pos (by norm_num)⟩

/-- The nearest whole number is at most a half away, and even if it is a half away. -/
theorem nearest_near {num den : ℕ} (positive : 0 < den) :
    (nearest num den : ℚ) - 1 / 2 ≤ num / den ∧ (num : ℚ) / den ≤ nearest num den + 1 / 2 ∧
      (nearest num den % 2 = 1 → (nearest num den : ℚ) - 1 / 2 < num / den ∧
        (num : ℚ) / den < nearest num den + 1 / 2) := by
  obtain ⟨least, most, even⟩ := nearest_spec num positive
  have denPos : (0 : ℚ) < den := by exact_mod_cast positive
  rw [le_div_iff₀ denPos, div_le_iff₀ denPos, lt_div_iff₀ denPos, div_lt_iff₀ denPos]
  generalize nearest num den = near at *
  have least' : (2 : ℚ) * num ≤ 2 * (near * den) + den := by exact_mod_cast least
  have most' : (2 : ℚ) * (near * den) ≤ 2 * num + den := by exact_mod_cast most
  refine ⟨by linarith, by linarith, fun odd => ?_⟩
  have less : 2 * num < 2 * (near * den) + den := by
    rcases least.lt_or_eq with less | tie
    · exact less
    · exact absurd (even (.inl tie)) (by omega)
  have more : 2 * (near * den) < 2 * num + den := by
    rcases most.lt_or_eq with more | tie
    · exact more
    · exact absurd (even (.inr tie)) (by omega)
  have less' : (2 : ℚ) * num < 2 * (near * den) + den := by exact_mod_cast less
  have more' : (2 : ℚ) * (near * den) < 2 * num + den := by exact_mod_cast more
  constructor <;> linarith

/-- The exponent of the first bit of a ratio. -/
def leadOf (num den : ℕ) : ℤ :=
  let guess : ℤ := num.log2 - den.log2
  if den * (powerOfTwo guess).1 ≤ num * (powerOfTwo guess).2 then guess else guess - 1

theorem leadOf_spec {num den : ℕ} (numPos : 0 < num) (denPos : 0 < den) :
    (2 : ℚ) ^ leadOf num den ≤ num / den ∧ (num : ℚ) / den < 2 ^ (leadOf num den + 1) := by
  have denCast : (0 : ℚ) < den := by exact_mod_cast denPos
  have numLow : (2 : ℚ) ^ (num.log2 : ℤ) ≤ num := by exact_mod_cast Nat.log2_self_le numPos.ne'
  have numHigh : (num : ℚ) < 2 ^ ((num.log2 : ℤ) + 1) := by exact_mod_cast (@Nat.lt_log2_self num)
  have denLow : (2 : ℚ) ^ (den.log2 : ℤ) ≤ den := by exact_mod_cast Nat.log2_self_le denPos.ne'
  have denHigh : (den : ℚ) < 2 ^ ((den.log2 : ℤ) + 1) := by exact_mod_cast (@Nat.lt_log2_self den)
  have test (guess : ℤ) : den * (powerOfTwo guess).1 ≤ num * (powerOfTwo guess).2 ↔ (2 : ℚ) ^ guess ≤ num / den := by
    obtain ⟨_, down⟩ := powerOfTwo_pos guess
    have downCast : (0 : ℚ) < (powerOfTwo guess).2 := by exact_mod_cast down
    rw [← powerOfTwo_ratio, div_le_div_iff₀ downCast denCast, mul_comm]
    norm_cast
  have upper : (num : ℚ) / den < 2 ^ ((num.log2 - den.log2 : ℤ) + 1) := by
    rw [div_lt_iff₀ denCast]
    calc (num : ℚ) < 2 ^ ((num.log2 : ℤ) + 1) := numHigh
      _ = 2 ^ ((num.log2 - den.log2 : ℤ) + 1) * 2 ^ (den.log2 : ℤ) := by
        rw [← zpow_add₀ (by norm_num)]
        ring_nf
      _ ≤ 2 ^ ((num.log2 - den.log2 : ℤ) + 1) * den := by gcongr
  have lower : (2 : ℚ) ^ ((num.log2 - den.log2 : ℤ) - 1) ≤ num / den := by
    rw [le_div_iff₀ denCast]
    calc (2 : ℚ) ^ ((num.log2 - den.log2 : ℤ) - 1) * den
        ≤ 2 ^ ((num.log2 - den.log2 : ℤ) - 1) * 2 ^ ((den.log2 : ℤ) + 1) := by gcongr
      _ = 2 ^ (num.log2 : ℤ) := by
        rw [← zpow_add₀ (by norm_num)]
        ring_nf
      _ ≤ num := numLow
  rw [leadOf]
  split
  · next reaches => exact ⟨(test _).mp reaches, upper⟩
  · next misses =>
    rw [test, not_le] at misses
    exact ⟨lower, by rwa [sub_add_cancel]⟩

/-- The exponent of the number that a ratio is rounded to, before a carry. -/
def exponentOf (num den : ℕ) : ℤ := max (leadOf num den - 52) leastExponent

/-- The mantissa of the number that a ratio is rounded to, before a carry. -/
def mantissaOf (num den : ℕ) : ℕ :=
  nearest (num * (powerOfTwo (exponentOf num den)).2) (den * (powerOfTwo (exponentOf num den)).1)

theorem ofRatio_of_pos (negative : Bool) {num : ℕ} (positive : 0 < num) (den : ℕ) :
    ofRatio negative num den = Float.ofBits (UInt64.ofNat (min infinityBits
      ((exponentOf num den - leastExponent).toNat * 2 ^ 52 + mantissaOf num den) +
        if negative then Nat.pow 2 63 else 0)) := by
  simp only [ofRatio, if_neg positive.ne']
  rfl

/-- A mantissa of one bit too many is a power of two, which the next exponent has too. -/
def carried (negative : Bool) (mantissa : ℕ) (exponent : ℤ) : Dyadic :=
  if mantissa = 2 ^ 53 then ⟨negative, 2 ^ 52, exponent + 1⟩ else ⟨negative, mantissa, exponent⟩

theorem valueOf_carried (negative : Bool) {mantissa : ℕ} {exponent : ℤ} (least : leastExponent ≤ exponent)
    (short : mantissa ≤ 2 ^ 53) (full : leastExponent < exponent → 2 ^ 52 ≤ mantissa)
    (finite : (exponent - leastExponent).toNat * 2 ^ 52 + mantissa < infinityBits) :
    valueOf (Float.ofBits (UInt64.ofNat ((exponent - leastExponent).toNat * 2 ^ 52 + mantissa +
      if negative then Nat.pow 2 63 else 0))) = .finite (carried negative mantissa exponent) := by
  rw [valueOf_ofBits negative finite, carried]
  obtain ⟨steps, rfl⟩ : ∃ steps : ℕ, exponent = leastExponent + steps :=
    ⟨(exponent - leastExponent).toNat, by omega⟩
  rw [add_sub_cancel_left, Int.toNat_natCast]
  congr 1
  have some : 0 < steps → 2 ^ 52 ≤ mantissa := fun positive => full (by omega)
  split_ifs with small carry carry
  · omega
  all_goals
    rw [Dyadic.mk.injEq]
    refine ⟨rfl, ?_, ?_⟩ <;> omega

/-- A ratio that is at most half a unit away from a number lies in its interval. -/
theorem contains_carried (negative : Bool) {mantissa : ℕ} {exponent : ℤ} {x : ℚ} (positive : 0 < mantissa)
    (full : leastExponent < exponent → 2 ^ 52 * 2 ^ exponent ≤ x) (least : leastExponent ≤ exponent)
    (low : (mantissa - 1 / 2) * 2 ^ exponent ≤ x) (high : x ≤ (mantissa + 1 / 2) * 2 ^ exponent)
    (odd : mantissa % 2 = 1 → (mantissa - 1 / 2) * 2 ^ exponent < x ∧ x < (mantissa + 1 / 2) * 2 ^ exponent) :
    (carried negative mantissa exponent).rounding.Contains x := by
  have unit : (2 : ℚ) ^ exponent = 4 * 2 ^ (exponent - 2) := by
    rw [zpow_sub₀ (by norm_num)]
    norm_num
    ring
  have unitPos : (0 : ℚ) < 2 ^ (exponent - 2) := by positivity
  rw [carried]
  split
  · next carry =>
    have half : (2 : ℚ) ^ (exponent + 1 - 2) = 2 * 2 ^ (exponent - 2) := by
      rw [show exponent + 1 - 2 = (exponent - 2) + 1 by ring, zpow_add_one₀ (by norm_num)]
      ring
    rw [carry] at low high
    rw [Dyadic.contains_iff (by norm_num), if_pos (by norm_num), Dyadic.quarter, Dyadic.below,
      if_pos (by simp; omega)]
    push_cast at low high ⊢
    rw [half]
    rw [unit] at low high
    constructor <;> nlinarith
  · have reach : ((⟨negative, mantissa, exponent⟩ : Dyadic).below : ℚ) = 2 ∨
        4 * mantissa * 2 ^ (exponent - 2) ≤ x := by
      rw [Dyadic.below]
      split
      · next normal =>
        simp only [Nat.pow_eq, Bool.and_eq_true, decide_eq_true_eq] at normal
        have lead := full normal.2
        rw [unit] at lead
        rw [normal.1]
        push_cast
        exact .inr (by linarith)
      · exact .inl (by norm_num)
    have half : (1 : ℚ) ≤ (⟨negative, mantissa, exponent⟩ : Dyadic).below := by
      rcases Dyadic.below_spec ⟨negative, mantissa, exponent⟩ with one | two
      · simp [one]
      · simp [two]
    rw [unit] at low high odd
    rw [Dyadic.contains_iff positive, Dyadic.quarter]
    dsimp only at reach half ⊢
    generalize ((⟨negative, mantissa, exponent⟩ : Dyadic).below : ℚ) = below at *
    split
    · rcases reach with two | above
      · rw [two]
        constructor <;> linarith
      · constructor <;> nlinarith
    · obtain ⟨lower, upper⟩ := odd (by omega)
      rcases reach with two | above
      · rw [two]
        constructor <;> linarith
      · constructor <;> nlinarith

/-- The limit in quarters of a unit of the greatest numbers. -/
theorem magnitudeLimit_eq : (magnitudeLimit : ℚ) = (2 ^ 55 - 2) * 2 ^ (969 : ℤ) := by
  have whole : Nat.pow 2 1024 = 2 ^ 55 * 2 ^ 969 := by rw [show 1024 = 55 + 969 by norm_num, Nat.pow_eq, pow_add]
  have double : Nat.pow 2 970 = 2 * 2 ^ 969 := by rw [Nat.pow_eq, ← pow_succ']
  have quarters : magnitudeLimit = (2 ^ 55 - 2) * 2 ^ 969 := by rw [magnitudeLimit, whole, double, ← Nat.sub_mul]
  rw [quarters, Nat.cast_mul, Nat.cast_pow, ← zpow_natCast]
  norm_num

section Ratio

variable {num den : ℕ} (numPos : 0 < num) (denPos : 0 < den)

include denPos

/-- The mantissa is the nearest whole number of units, and even if it is half a unit away. -/
theorem mantissaOf_near :
    ((mantissaOf num den : ℚ) - 1 / 2) * 2 ^ exponentOf num den ≤ num / den ∧
    (num : ℚ) / den ≤ (mantissaOf num den + 1 / 2) * 2 ^ exponentOf num den ∧
    (mantissaOf num den % 2 = 1 → ((mantissaOf num den : ℚ) - 1 / 2) * 2 ^ exponentOf num den < num / den ∧
      (num : ℚ) / den < (mantissaOf num den + 1 / 2) * 2 ^ exponentOf num den) := by
  obtain ⟨up, down⟩ := powerOfTwo_pos (exponentOf num den)
  have near := @nearest_near (num * (powerOfTwo (exponentOf num den)).2) _ (Nat.mul_pos denPos up)
  have units : ((num * (powerOfTwo (exponentOf num den)).2 : ℕ) : ℚ) /
      (den * (powerOfTwo (exponentOf num den)).1 : ℕ) = num / den / 2 ^ exponentOf num den := by
    rw [← powerOfTwo_ratio]
    push_cast
    field_simp
  have unitPos : (0 : ℚ) < 2 ^ exponentOf num den := by positivity
  rw [units, ← mantissaOf, le_div_iff₀ unitPos, div_le_iff₀ unitPos, lt_div_iff₀ unitPos, div_lt_iff₀ unitPos] at near
  exact near

include numPos

/-- The mantissa has its full length, at most one bit more after rounding, or the exponent is the least. -/
theorem mantissaOf_full : mantissaOf num den ≤ 2 ^ 53 ∧ (leastExponent < exponentOf num den →
    (2 : ℚ) ^ 52 * 2 ^ exponentOf num den ≤ num / den ∧ 2 ^ 52 ≤ mantissaOf num den) := by
  obtain ⟨reaches, short⟩ := leadOf_spec numPos denPos
  obtain ⟨low, high, _⟩ := mantissaOf_near denPos
  have unitPos : (0 : ℚ) < 2 ^ exponentOf num den := by positivity
  constructor
  · have below : (num : ℚ) / den < 2 ^ 53 * 2 ^ exponentOf num den := by
      refine short.trans_le ?_
      rw [← zpow_natCast, ← zpow_add₀ (by norm_num)]
      refine zpow_le_zpow_right₀ (by norm_num) ?_
      rw [exponentOf]
      push_cast
      omega
    have bound : (mantissaOf num den : ℚ) < 2 ^ 53 + 1 := by
      have less := low.trans_lt below
      rw [mul_lt_mul_iff_of_pos_right unitPos] at less
      linarith
    have cast : mantissaOf num den < 2 ^ 53 + 1 := by exact_mod_cast bound
    omega
  · intro normal
    have lead : leadOf num den = 52 + exponentOf num den := by
      rw [exponentOf] at normal ⊢
      omega
    have above : (2 : ℚ) ^ 52 * 2 ^ exponentOf num den ≤ num / den := by
      refine le_trans (le_of_eq ?_) reaches
      rw [lead, zpow_add₀ (by norm_num)]
      norm_num
    refine ⟨above, ?_⟩
    have bound : (2 : ℚ) ^ 52 - 1 < mantissaOf num den := by
      have less := above.trans high
      rw [mul_le_mul_iff_of_pos_right unitPos] at less
      linarith
    have cast : 2 ^ 52 < mantissaOf num den + 1 := by
      have more : (2 : ℚ) ^ 52 < mantissaOf num den + 1 := by linarith
      exact_mod_cast more
    omega

/-- Ratios below half a unit behind the greatest number are not rounded to infinity. -/
theorem finite_of_lt (bounded : (num : ℚ) / den < magnitudeLimit) :
    (exponentOf num den - leastExponent).toNat * 2 ^ 52 + mantissaOf num den < infinityBits := by
  obtain ⟨reaches, _⟩ := leadOf_spec numPos denPos
  obtain ⟨low, _, _⟩ := mantissaOf_near denPos
  obtain ⟨short, _⟩ := mantissaOf_full numPos denPos
  have lead : leadOf num den < 1024 := by
    have below : (2 : ℚ) ^ leadOf num den < 2 ^ (1024 : ℤ) := by
      refine reaches.trans_lt (bounded.trans ?_)
      rw [magnitudeLimit_eq, show (1024 : ℤ) = 55 + 969 by norm_num, zpow_add₀ (by norm_num),
        mul_lt_mul_iff_of_pos_right (by positivity)]
      norm_num
    exact (zpow_lt_zpow_iff_right₀ (by norm_num)).mp below
  have most : exponentOf num den ≤ 971 := by
    rw [exponentOf, leastExponent]
    omega
  rcases most.lt_or_eq with less | last
  · have steps : (exponentOf num den - leastExponent).toNat ≤ 2044 := by
      rw [leastExponent]
      omega
    have bits : infinityBits = 2047 * 2 ^ 52 := rfl
    rw [bits]
    omega
  · have bound : (mantissaOf num den : ℚ) < 2 ^ 53 := by
      have less := low.trans_lt bounded
      rw [last] at less
      have unit : (2 : ℚ) ^ (971 : ℤ) = 4 * 2 ^ (969 : ℤ) := by
        rw [show (971 : ℤ) = 2 + 969 by norm_num, zpow_add₀ (by norm_num)]
        norm_num
      rw [unit, magnitudeLimit_eq, ← mul_assoc, mul_lt_mul_iff_of_pos_right (by positivity)] at less
      linarith
    have cast : mantissaOf num den < 2 ^ 53 := by exact_mod_cast bound
    have bits : infinityBits = 2047 * 2 ^ 52 := rfl
    have steps : (exponentOf num den - leastExponent).toNat = 2045 := by
      rw [last, leastExponent]
      rfl
    rw [bits, steps]
    omega

/-- The number that a ratio is rounded to has it in its interval. -/
theorem exists_ofRatio (negative : Bool) (bounded : (num : ℚ) / den < magnitudeLimit)
    (reaches : (2 : ℚ) ^ leastExponent / 2 < num / den) :
    ∃ d, valueOf (ofRatio negative num den) = .finite d ∧ d.negative = negative ∧ 0 < d.mantissa ∧
      d.rounding.Contains (num / den) := by
  obtain ⟨low, high, odd⟩ := mantissaOf_near denPos
  obtain ⟨short, full⟩ := mantissaOf_full numPos denPos
  have finite := finite_of_lt numPos denPos bounded
  have least : leastExponent ≤ exponentOf num den := le_max_right _ _
  have positive : 0 < mantissaOf num den := by
    by_contra none
    have zero : mantissaOf num den = 0 := by omega
    have last : exponentOf num den = leastExponent := by
      by_contra other
      have lead := (full (by omega)).2
      omega
    rw [zero, last] at high
    norm_num at high
    linarith
  have inside := contains_carried negative positive (fun normal => (full normal).1) least low high odd
  refine ⟨carried negative (mantissaOf num den) (exponentOf num den), ?_, ?_, ?_, inside⟩
  · rw [ofRatio_of_pos negative numPos, min_eq_right finite.le]
    exact valueOf_carried negative least short (fun normal => (full normal).2) finite
  · rw [carried]
    split <;> rfl
  · rw [carried]
    split
    · norm_num
    · exact positive

end Ratio

theorem toRat_eq_shifted (s : Scientific) :
    ((shifted s.digits 1 s.exponent).1 : ℚ) / (shifted s.digits 1 s.exponent).2 = s.toRat := by
  rw [shifted_ratio, Scientific.toRat, Nat.cast_one, div_one]

/-- The number of digits tells the size of a decimal. -/
theorem toRat_size {s : Scientific} (positive : 0 < s.digits) :
    (10 : ℚ) ^ ((Nat.toDigits 10 s.digits).length + s.exponent - 1) ≤ s.toRat ∧
      s.toRat < 10 ^ ((Nat.toDigits 10 s.digits).length + s.exponent) := by
  have filled : 0 < (Nat.toDigits 10 s.digits).length := List.length_pos_iff.mpr Nat.toDigits_ne_nil
  have low : (10 : ℚ) ^ (((Nat.toDigits 10 s.digits).length - 1 : ℕ) : ℤ) ≤ s.digits := by
    exact_mod_cast pow_length_toDigits_le positive
  have high : (s.digits : ℚ) < 10 ^ ((Nat.toDigits 10 s.digits).length : ℤ) := by
    exact_mod_cast lt_pow_length_toDigits s.digits
  have power : (0 : ℚ) < 10 ^ s.exponent := by positivity
  rw [Scientific.toRat]
  constructor
  · refine le_trans (le_of_eq ?_) (mul_le_mul_of_nonneg_right low power.le)
    rw [← zpow_add₀ (by norm_num)]
    congr 1
    omega
  · refine lt_of_lt_of_eq (mul_lt_mul_of_pos_right high power) ?_
    rw [← zpow_add₀ (by norm_num)]

theorem exponent_le_of_finite {x : Float} {d : Dyadic} (finite : valueOf x = .finite d) : d.exponent ≤ 971 := by
  simp only [valueOf, Nat.pow_eq] at finite
  split at finite
  · split at finite <;> exact absurd finite (by simp)
  · next ordinary =>
    split at finite
    · obtain rfl := Value.finite.inj finite
      simp [leastExponent]
    · obtain rfl := Value.finite.inj finite
      show leastExponent + _ ≤ _
      rw [leastExponent]
      omega

namespace Dyadic

variable {d : Dyadic}

/-- The interval of a number lies between half of the least one and what is rounded to infinity. -/
theorem range_of_contains (normal : d.IsNormal) (finite : d.exponent ≤ 971) (positive : 0 < d.mantissa) {x : ℚ}
    (inside : d.rounding.Contains x) : (2 : ℚ) ^ leastExponent / 2 < x ∧ x < magnitudeLimit := by
  obtain ⟨low, high⟩ := le_of_contains positive inside
  have quarterPos := d.quarter_pos
  have reach : (d.below : ℚ) ≤ 2 := by
    rcases d.below_spec with one | two
    · simp [one]
    · simp [two]
  have least : (2 : ℚ) ^ leastExponent / 2 ≤ 2 * d.quarter := by
    have grows : (2 : ℚ) ^ (leastExponent - 2) ≤ d.quarter :=
      zpow_le_zpow_right₀ (by norm_num) (by linarith [normal.least])
    have unit : (2 : ℚ) ^ leastExponent = 4 * 2 ^ (leastExponent - 2) := by
      rw [zpow_sub₀ (by norm_num)]
      norm_num
      ring
    linarith
  have most : (2 ^ 55 - 2) * d.quarter ≤ magnitudeLimit := by
    have grows : d.quarter ≤ (2 : ℚ) ^ (969 : ℤ) := zpow_le_zpow_right₀ (by norm_num) (by linarith)
    rw [magnitudeLimit_eq]
    exact mul_le_mul_of_nonneg_left grows (by norm_num)
  have one : (1 : ℚ) ≤ d.mantissa := by exact_mod_cast positive
  have short : (d.mantissa : ℚ) ≤ 2 ^ 53 - 1 := by
    have bound : d.mantissa + 1 ≤ 2 ^ 53 := normal.short
    have cast : (d.mantissa : ℚ) + 1 ≤ 2 ^ 53 := by exact_mod_cast bound
    linarith
  rcases Nat.mod_two_eq_zero_or_one d.mantissa with even | odd
  · -- An even mantissa is neither one nor the greatest, so its ends lie further inside.
    have two : (2 : ℚ) ≤ d.mantissa := by exact_mod_cast (by omega : 2 ≤ d.mantissa)
    have shorter : (d.mantissa : ℚ) ≤ 2 ^ 53 - 2 := by
      have bound : d.mantissa + 2 ≤ 2 ^ 53 := by
        have := normal.short
        omega
      have cast : (d.mantissa : ℚ) + 2 ≤ 2 ^ 53 := by exact_mod_cast bound
      linarith
    have upper : (4 * d.mantissa + 2) * d.quarter ≤ (2 ^ 55 - 6) * d.quarter :=
      mul_le_mul_of_nonneg_right (by linarith) quarterPos.le
    have lower : 6 * d.quarter ≤ (4 * d.mantissa - d.below) * d.quarter :=
      mul_le_mul_of_nonneg_right (by linarith) quarterPos.le
    constructor <;> linarith
  · obtain ⟨above, under⟩ := lt_of_contains positive odd inside
    have upper : (4 * d.mantissa + 2) * d.quarter ≤ (2 ^ 55 - 2) * d.quarter :=
      mul_le_mul_of_nonneg_right (by linarith) quarterPos.le
    have lower : 2 * d.quarter ≤ (4 * d.mantissa - d.below) * d.quarter :=
      mul_le_mul_of_nonneg_right (by linarith) quarterPos.le
    constructor <;> linarith

end Dyadic

theorem two_pow_le : (2 : ℚ) ^ (1200 : ℤ) ≤ 10 ^ (400 : ℤ) := by
  rw [show (1200 : ℤ) = 3 * 400 by norm_num, zpow_mul]
  exact zpow_le_zpow_left₀ (by norm_num) (by norm_num) (by norm_num)

theorem tiny_le_least : (10 : ℚ) ^ (-400 : ℤ) ≤ 2 ^ leastExponent / 2 := by
  have half : (2 : ℚ) ^ leastExponent / 2 = 2 ^ (-1075 : ℤ) := by
    rw [leastExponent, show (-1075 : ℤ) = -1074 - 1 by norm_num, zpow_sub_one₀ two_ne_zero, div_eq_mul_inv]
  rw [half, zpow_neg, zpow_neg]
  refine inv_anti₀ (by positivity) (le_trans ?_ two_pow_le)
  exact zpow_le_zpow_right₀ (by norm_num) (by norm_num)

theorem magnitudeLimit_le : (magnitudeLimit : ℚ) ≤ 10 ^ (400 : ℤ) := by
  rw [magnitudeLimit_eq]
  calc ((2 : ℚ) ^ 55 - 2) * 2 ^ (969 : ℤ) ≤ 2 ^ (55 : ℤ) * 2 ^ (969 : ℤ) :=
        mul_le_mul_of_nonneg_right (by norm_num) (by positivity)
    _ = 2 ^ (1024 : ℤ) := by rw [← zpow_add₀ (by norm_num)]; norm_num
    _ ≤ 2 ^ (1200 : ℤ) := zpow_le_zpow_right₀ (by norm_num) (by norm_num)
    _ ≤ 10 ^ (400 : ℤ) := two_pow_le

/-- Zero keeps its sign. -/
theorem valueOf_ofRatio_zero (negative : Bool) (den : ℕ) :
    valueOf (ofRatio negative 0 den) = .finite ⟨negative, 0, leastExponent⟩ := by
  simpa [ofRatio] using @valueOf_ofBits negative 0 (by decide)

/-- A decimal that stands for the same as the shortest one of a number is read as that number. -/
theorem ofDecimal_eq {x : Float} {d : Dyadic} (finite : valueOf x = .finite d) {s : Scientific}
    (same : s.toRat = (shortest d).toRat) : ofDecimal d.negative s = x := by
  have normal := isNormal_of_finite finite
  have power : (0 : ℚ) < 10 ^ s.exponent := by positivity
  rcases Nat.eq_zero_or_pos d.mantissa with zero | positive
  · have none : s.digits = 0 := by
      have nothing : s.toRat = 0 := by rw [same, shortest, if_pos zero, Scientific.toRat, Nat.cast_zero, zero_mul]
      rw [Scientific.toRat, mul_eq_zero, or_iff_left power.ne'] at nothing
      exact_mod_cast nothing
    have least : d.exponent = leastExponent := normal.full.resolve_right (by omega)
    refine valueOf_injective ?_
    rw [ofDecimal, if_pos (by simp [none]), valueOf_ofRatio_zero, finite, ← zero, ← least]
  · have inside := Dyadic.contains_shortest positive normal.short
    obtain ⟨reaches, bounded⟩ := Dyadic.range_of_contains normal (exponent_le_of_finite finite) positive inside
    rw [← same] at inside reaches bounded
    have digits : 0 < s.digits := by
      refine Nat.pos_of_ne_zero fun none => ?_
      rw [Scientific.toRat, none, Nat.cast_zero, zero_mul] at reaches
      exact absurd reaches (not_lt.mpr (by positivity))
    obtain ⟨low, high⟩ := toRat_size digits
    have small : ¬ (Nat.toDigits 10 s.digits).length + s.exponent < -400 := by
      intro tiny
      have below : (10 : ℚ) ^ ((Nat.toDigits 10 s.digits).length + s.exponent) ≤ 10 ^ (-400 : ℤ) :=
        zpow_le_zpow_right₀ (by norm_num) tiny.le
      exact lt_irrefl _ (reaches.trans (high.trans_le (below.trans tiny_le_least)))
    have large : ¬ 400 < (Nat.toDigits 10 s.digits).length + s.exponent := by
      intro huge
      have above : (10 : ℚ) ^ (400 : ℤ) ≤ 10 ^ ((Nat.toDigits 10 s.digits).length + s.exponent - 1) :=
        zpow_le_zpow_right₀ (by norm_num) (by omega)
      exact lt_irrefl _ (bounded.trans_le (magnitudeLimit_le.trans (above.trans low)))
    have numPos : 0 < (shifted s.digits 1 s.exponent).1 := Nat.mul_pos digits (Nat.pow_pos (by norm_num))
    have denPos := shifted_den_pos one_pos s.digits s.exponent
    rw [← toRat_eq_shifted] at inside reaches bounded
    obtain ⟨other, read, sign, some, contains⟩ := exists_ofRatio numPos denPos d.negative bounded reaches
    obtain ⟨mantissa, exponent⟩ := Dyadic.eq_of_contains (isNormal_of_finite read) normal some positive contains inside
    have equal : other = d := by
      cases other
      cases d
      exact Dyadic.mk.injEq .. ▸ ⟨sign, mantissa, exponent⟩
    refine valueOf_injective ?_
    rw [ofDecimal, if_neg (by simp [digits.ne', small]), if_neg large, finite]
    exact equal ▸ read

end Prism.Decimal
