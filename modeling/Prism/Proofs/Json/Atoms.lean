import Prism.Proofs.Decimal.Rounding
import Prism.Proofs.Json.Writing

namespace Prism.Json

section Ends

variable {rest : List Char} (ends : Ends rest)

include ends

theorem Ends.isAtomChar_of_head {c : Char} (first : rest.head? = some c) : isAtomChar c = false := by
  cases rest with
  | nil => exact absurd first (by simp)
  | cons d rest =>
    obtain rfl := Option.some.inj first
    by_contra letter
    simp [Ends, letter] at ends

theorem Ends.head_ne {c : Char} (letter : isAtomChar c = true) : rest.head? ≠ some c := fun first => by
  rw [ends.isAtomChar_of_head first] at letter
  exact absurd letter (by decide)

end Ends

/-- No digit goes on here. -/
def StopsDigits (rest : List Char) : Prop := ∀ c, rest.head? = some c → c.isDigit = false

theorem Ends.stopsDigits {rest : List Char} (ends : Ends rest) : StopsDigits rest := by
  intro c first
  have other := ends.isAtomChar_of_head first
  simp only [isAtomChar, isNumberChar, Bool.or_eq_false_iff] at other
  exact other.1.1

section Digits

variable {digits rest : List Char} (all : ∀ c ∈ digits, c.isDigit = true) (stops : StopsDigits rest)

include all stops

theorem takeWhile_digits : (digits ++ rest).takeWhile Char.isDigit = digits := by
  rw [List.takeWhile_append_of_pos all]
  cases rest with
  | nil => simp
  | cons c rest => simp [stops c rfl]

theorem dropWhile_digits : (digits ++ rest).dropWhile Char.isDigit = rest := by
  rw [List.dropWhile_append_of_pos all]
  cases rest with
  | nil => rfl
  | cons c rest => simp [stops c rfl]

end Digits

theorem scanPower_signed (negative : Bool) {digits rest : List Char} (filled : digits ≠ [])
    (all : ∀ c ∈ digits, c.isDigit = true) (stops : StopsDigits rest) :
    scanPower ('e' :: (if negative then '-' else '+') :: (digits ++ rest)) =
      (some (if negative then -(digitsValue digits : ℤ) else digitsValue digits), rest) := by
  have some : digits.isEmpty = false := by simpa using filled
  cases negative <;> simp [scanPower, takeWhile_digits all stops, dropWhile_digits all stops, some]

/-- A point and the digits behind it, if there are any. -/
def fractionText : Option (List Char) → List Char
  | none => []
  | some digits => '.' :: digits

/-- The power of ten, if there is one. -/
def powerText : Option ℤ → List Char
  | none => []
  | some exponent => Decimal.exponentMark exponent

/-- There are digits behind the point, and nothing else. -/
def IsFraction (fraction : Option (List Char)) : Prop :=
  ∀ digits, fraction = some digits → digits ≠ [] ∧ ∀ c ∈ digits, c.isDigit = true

section Parts

variable {rest : List Char} (ends : Ends rest) (power : Option ℤ)

theorem head_powerText {c : Char} (first : (powerText power ++ rest).head? = some c) :
    c = 'e' ∨ rest.head? = some c := by
  cases power with
  | none => exact .inr first
  | some exponent => exact .inl (Option.some.inj first).symm

include ends

theorem stopsDigits_powerText : StopsDigits (powerText power ++ rest) := by
  intro c first
  rcases head_powerText power first with rfl | behind
  · decide
  · exact ends.stopsDigits c behind

theorem stopsDigits_fractionText (fraction : Option (List Char)) :
    StopsDigits (fractionText fraction ++ (powerText power ++ rest)) := by
  cases fraction with
  | none => exact stopsDigits_powerText ends power
  | some digits =>
    intro c first
    rw [← Option.some.inj first]
    decide

theorem scanFraction_fractionText {fraction : Option (List Char)} (proper : IsFraction fraction) :
    scanFraction (fractionText fraction ++ (powerText power ++ rest)) = (fraction, powerText power ++ rest) := by
  have stops := stopsDigits_powerText ends power
  cases fraction with
  | none =>
    have noPoint : (powerText power ++ rest).head? ≠ some '.' := fun first =>
      (head_powerText power first).elim (by decide) (ends.head_ne (by decide))
    rw [fractionText, List.nil_append, scanFraction.eq_def]
    split
    · next shape => exact absurd (congrArg List.head? shape) noPoint
    · rfl
  | some digits =>
    obtain ⟨filled, all⟩ := proper digits rfl
    have some : digits.isEmpty = false := by simpa using filled
    rw [fractionText, List.cons_append, scanFraction]
    simp only [takeWhile_digits all stops, dropWhile_digits all stops, some, Bool.false_eq_true, if_false]

theorem scanPower_powerText : scanPower (powerText power ++ rest) = (power, rest) := by
  cases power with
  | none =>
    rw [powerText, List.nil_append, scanPower.eq_def]
    cases rest with
    | nil => rfl
    | cons mark rest =>
      have noMark : mark ≠ 'e' := fun same => ends.head_ne (by decide) (congrArg some same)
      have noCapital : mark ≠ 'E' := fun same => ends.head_ne (by decide) (congrArg some same)
      simp [noMark, noCapital]
  | some exponent =>
    let digits := List.replicate (2 - (Nat.toDigits 10 exponent.natAbs).length) '0' ++ Nat.toDigits 10 exponent.natAbs
    have all : ∀ c ∈ digits, c.isDigit = true := by
      intro c member
      rcases List.mem_append.mp member with zero | digit
      · rw [List.eq_of_mem_replicate zero]
        decide
      · exact Decimal.isDigit_of_mem_toDigits digit
    have value : digitsValue digits = exponent.natAbs := by
      change Nat.ofDigitChars 10 digits 0 = _
      rw [Nat.ofDigitChars_append, Nat.ofDigitChars_replicate_zero]
      simp
    have shape : powerText (some exponent) ++ rest =
        'e' :: (if decide (exponent < 0) then '-' else '+') :: (digits ++ rest) := by
      simp [powerText, Decimal.exponentMark, digits]
    have same : (if decide (exponent < 0) then -(exponent.natAbs : ℤ) else exponent.natAbs) = exponent := by
      simp only [decide_eq_true_eq]
      split <;> omega
    rw [shape, scanPower_signed _ (by simp [digits]) all ends.stopsDigits, value, same]

end Parts

theorem exists_digit_toDigits (n : ℕ) : ∃ c rest, Nat.toDigits 10 n = c :: rest ∧ c.isDigit = true := by
  obtain ⟨c, rest, shape⟩ := List.exists_cons_of_ne_nil (Nat.toDigits_ne_nil (b := 10) (n := n))
  exact ⟨c, rest, shape, Decimal.isDigit_of_mem_toDigits (shape ▸ List.mem_cons_self)⟩

/-- Only zero starts with a zero. -/
theorem exists_toDigits {n : ℕ} (positive : 0 < n) : ∃ c rest, Nat.toDigits 10 n = c :: rest ∧ c ≠ '0' := by
  induction n using Nat.strong_induction_on with
  | _ n ih =>
    rcases Nat.lt_or_ge n 10 with small | large
    · refine ⟨n.digitChar, [], Nat.toDigits_of_lt_base small, ?_⟩
      interval_cases n <;> decide
    · obtain ⟨c, rest, shape, nonzero⟩ := ih (n / 10) (by omega) (by omega)
      exact ⟨c, _, by rw [Nat.toDigits_of_base_le (by norm_num) large, shape, List.cons_append], nonzero⟩

/-- The sign of a number. -/
def sign (negative : Bool) : List Char := if negative then ['-'] else []

/-- The decimal that the parts of a number stand for, its sign apart. -/
def decimalOf (whole : ℕ) (fraction : Option (List Char)) (power : Option ℤ) : Decimal.Scientific :=
  let part := fraction.getD []
  ⟨digitsValue (Nat.toDigits 10 whole ++ part), power.getD 0 - (part.length : ℤ)⟩

/-- What a number is by its parts. -/
def numberOf (room : Room) (negative : Bool) (whole : ℕ) (fraction : Option (List Char)) (power : Option ℤ) :
    Except Stop Json :=
  let digits := Nat.toDigits 10 whole
  if fraction.isNone && power.isNone then
    if room.admits digits.length then .ok (.int (if negative then -whole else whole))
    else .error (.limit (room.tooLong digits.length))
  else .ok (.float (Decimal.ofDecimal negative (decimalOf whole fraction power)))

theorem scanNumber?_parts (room : Room) (negative : Bool) (whole : ℕ) {fraction : Option (List Char)}
    (proper : IsFraction fraction) (power : Option ℤ) {rest : List Char} (ends : Ends rest) :
    scanNumber? room
        (sign negative ++ (Nat.toDigits 10 whole ++ (fractionText fraction ++ (powerText power ++ rest)))) =
      some ((numberOf room negative whole fraction power).map (·, rest)) := by
  have stops := stopsDigits_fractionText ends power fraction
  have fractions := scanFraction_fractionText ends power proper
  have powers := scanPower_powerText ends power
  generalize fractionText fraction ++ (powerText power ++ rest) = more at *
  generalize powerText power ++ rest = later at *
  have all : ∀ c ∈ Nat.toDigits 10 whole, c.isDigit = true := fun c => Decimal.isDigit_of_mem_toDigits
  have run := takeWhile_digits all stops
  have filled : (Nat.toDigits 10 whole).isEmpty = false := by simp
  obtain ⟨c, others, shape, digit⟩ := exists_digit_toDigits whole
  have noSign : c ≠ '-' := Decimal.ne_of_isDigit digit (by decide)
  unfold scanNumber?
  extract_lets minus unsigned digits value
  have minusEq : minus = (negative = true) := by
    cases negative <;> simp [minus, sign, shape, noSign]
  have unsignedEq : unsigned = Nat.toDigits 10 whole ++ more := by
    cases negative <;> simp [unsigned, minusEq, sign]
  have digitsEq : digits = Nat.toDigits 10 whole := by
    simp only [digits, unsignedEq]
    rcases Nat.eq_zero_or_pos whole with rfl | positive
    · rfl
    · obtain ⟨d, tail, lead, nonzero⟩ := exists_toDigits positive
      split
      · next zero => exact absurd (by simpa [lead] using congrArg List.head? zero) nonzero
      · exact run
  have valueEq : value = whole := by
    simp only [value, digitsEq]
    exact congrArg Nat.cast Nat.ofDigitChars_ten_toDigits
  simp only [digitsEq, unsignedEq, filled, List.drop_left, fractions, powers, minusEq, valueEq, numberOf,
    Bool.false_eq_true, if_false, Bool.decide_eq_true]
  split_ifs <;> rfl

theorem toList_repr (n : ℤ) : n.repr.toList = sign (decide (n < 0)) ++ Nat.toDigits 10 n.natAbs := by
  cases n with
  | ofNat m => simp [Int.repr, sign, Nat.toList_repr]
  | negSucc m => simp [Int.repr, sign, Nat.toList_repr, Int.negSucc_lt_zero]

theorem scanNumber?_repr (room : Room) (n : ℤ) {rest : List Char} (ends : Ends rest) :
    scanNumber? room (n.repr.toList ++ rest) = some (if room.spells n then .ok (.int n, rest)
      else .error (.limit (room.tooLong (Nat.toDigits 10 n.natAbs).length))) := by
  have scanned := scanNumber?_parts room (decide (n < 0)) n.natAbs (by simp [IsFraction] : IsFraction none) none ends
  have same : (if decide (n < 0) then -(n.natAbs : ℤ) else n.natAbs) = n := by
    simp only [decide_eq_true_eq]
    split <;> omega
  rw [toList_repr, List.append_assoc]
  refine scanned.trans ?_
  have spells : room.admits (Nat.toDigits 10 n.natAbs).length = room.spells n := rfl
  simp only [numberOf, Option.isNone_none, Bool.and_self, if_true, same, spells]
  split_ifs <;> rfl

theorem pointed_eq (digits count : ℕ) : ∃ whole fraction, IsFraction fraction ∧ (0 < count → fraction ≠ none) ∧
    Decimal.pointed digits count = Nat.toDigits 10 whole ++ fractionText fraction ∧
    ∀ power, decimalOf whole fraction power = ⟨digits, power.getD 0 - (count : ℤ)⟩ := by
  rcases Nat.eq_zero_or_pos count with rfl | positive
  · refine ⟨digits, none, by simp [IsFraction], by simp, by simp [Decimal.pointed, fractionText], fun power => ?_⟩
    have value : digitsValue (Nat.toDigits 10 digits) = digits := Nat.ofDigitChars_ten_toDigits
    simp [decimalOf, value]
  · have length := Decimal.length_places digits positive
    refine ⟨_, some (Decimal.places digits count), ?_, by simp, Decimal.pointed_of_pos digits positive, fun power => ?_⟩
    · rintro _ ⟨⟩
      refine ⟨fun none => ?_, fun c => Decimal.isDigit_of_mem_places⟩
      rw [none, List.length_nil] at length
      omega
    · have value : digitsValue (Nat.toDigits 10 (digits / 10 ^ count) ++ Decimal.places digits count) = digits := by
        change Nat.ofDigitChars 10 _ 0 = _
        rw [Nat.ofDigitChars_append, Nat.ofDigitChars_ten_toDigits, Decimal.ofDigitChars_places, length,
          Nat.div_add_mod]
      simp [decimalOf, value, length]

/-- The text of a magnitude by its parts; it is not that of a whole number. -/
theorem exists_parts (d : Decimal.Dyadic) : ∃ whole fraction power, IsFraction fraction ∧
    (fraction ≠ none ∨ power ≠ none) ∧
    Decimal.shortDigits d = Nat.toDigits 10 whole ++ (fractionText fraction ++ powerText power) ∧
    (decimalOf whole fraction power).toRat = (Decimal.shortest d).toRat := by
  simp only [Decimal.shortDigits]
  generalize Decimal.shortest d = s
  split
  · split
    · next positive =>
      refine ⟨s.digits * 10 ^ s.exponent.toNat, some ['0'], none, ?_, by simp, ?_, ?_⟩
      · rintro _ ⟨⟩
        exact ⟨by simp, by simp⟩
      · have none : (-s.exponent).toNat = 0 := by omega
        simp [Decimal.positionalText, none, Decimal.pointed, fractionText, powerText]
      · have value : digitsValue (Nat.toDigits 10 (s.digits * 10 ^ s.exponent.toNat) ++ ['0']) =
            10 * (s.digits * 10 ^ s.exponent.toNat) := by
          change Nat.ofDigitChars 10 _ 0 = _
          rw [Nat.ofDigitChars_append, Nat.ofDigitChars_ten_toDigits]
          rfl
        have power : (10 : ℚ) ^ s.exponent = 10 ^ s.exponent.toNat := by
          rw [← zpow_natCast, Int.toNat_of_nonneg positive]
        simp only [decimalOf, Option.getD_some, Option.getD_none, value, Decimal.Scientific.toRat, power]
        norm_num
        ring
    · obtain ⟨whole, part, proper, given, shape, value⟩ :=
        pointed_eq (s.digits * Nat.pow 10 s.exponent.toNat) (-s.exponent).toNat
      refine ⟨whole, part, none, proper, .inl (given (by omega)), ?_, ?_⟩
      · rw [Decimal.positionalText, shape]
        simp [powerText]
      · have none : s.exponent.toNat = 0 := by omega
        have same : (0 : ℤ) - (-s.exponent).toNat = s.exponent := by omega
        simp only [value, none, Nat.pow_eq, pow_zero, mul_one, Option.getD_none, same]
  · obtain ⟨whole, part, proper, -, shape, value⟩ := pointed_eq s.digits ((Nat.toDigits 10 s.digits).length - 1)
    let power : ℤ := s.exponent + ((Nat.toDigits 10 s.digits).length - 1 : ℕ)
    refine ⟨whole, part, some power, proper, .inr (by simp), ?_, ?_⟩
    · rw [Decimal.scientificText, shape, List.append_assoc]
      rfl
    · rw [value, Option.getD_some, add_sub_cancel_right]

theorem scanNumber?_shortText (room : Room) {x : Float} {d : Decimal.Dyadic} (finite : Decimal.valueOf x = .finite d)
    {rest : List Char} (ends : Ends rest) :
    scanNumber? room ((Decimal.shortText x).toList ++ rest) = some (.ok (.float x, rest)) := by
  obtain ⟨whole, fraction, power, proper, given, shape, same⟩ := exists_parts d
  have some : (fraction.isNone && power.isNone) = false := by
    rw [Bool.and_eq_false_iff, ← Bool.not_eq_true, ← Bool.not_eq_true, Option.isNone_iff_eq_none,
      Option.isNone_iff_eq_none]
    exact given
  have scanned := scanNumber?_parts room d.negative whole proper power ends
  rw [Decimal.shortText_of_finite finite, Decimal.toList_signed, shape]
  simp only [List.append_assoc]
  refine scanned.trans ?_
  simp only [numberOf, some, Bool.false_eq_true, if_false, Decimal.ofDecimal_eq finite same]
  rfl

theorem scanWord?_words (rest : List Char) :
    scanWord? ("null".toList ++ rest) = some (.null, rest) ∧
    scanWord? ("true".toList ++ rest) = some (.bool true, rest) ∧
    scanWord? ("false".toList ++ rest) = some (.bool false, rest) := by
  refine ⟨?_, ?_, ?_⟩ <;> simp [scanWord?, ← String.length_toList]

theorem scanWord?_of_mem_named {x : Float} {name : String} (member : (Decimal.valueOf x, name) ∈ named)
    (rest : List Char) : scanWord? (name.toList ++ rest) = some (.float x, rest) := by
  have undefined : Decimal.valueOf (0.0 / 0.0) = .undefined := rfl
  have infinite : Decimal.valueOf (1.0 / 0.0) = .infinite false := rfl
  have opposite : Decimal.valueOf (-1.0 / 0.0) = .infinite true := rfl
  rcases mem_named.mp member with ⟨value, rfl⟩ | ⟨value, rfl⟩ | ⟨value, rfl⟩
  · rw [Decimal.valueOf_injective (value.trans undefined.symm)]
    simp [scanWord?, ← String.length_toList]
  · rw [Decimal.valueOf_injective (value.trans infinite.symm)]
    simp [scanWord?, ← String.length_toList]
  · rw [Decimal.valueOf_injective (value.trans opposite.symm)]
    simp [scanWord?, ← String.length_toList]

/-- No word starts with a digit, with a sign before it or without. -/
theorem scanWord?_sign (negative : Bool) {c : Char} (digit : c.isDigit = true) (tail : List Char) :
    scanWord? (sign negative ++ c :: tail) = none := by
  have other (mark : Char) (letter : mark.isDigit = false) : mark ≠ c := (Decimal.ne_of_isDigit digit letter).symm
  cases negative <;>
    simp [scanWord?, sign, other 'n' rfl, other 't' rfl, other 'f' rfl, other 'N' rfl, other 'I' rfl, other '-' rfl]

end Prism.Json
