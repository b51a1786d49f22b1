import Prism.Decimal.Fixed
import Prism.Proofs.Decimal.Interval

namespace Prism.Decimal

section Bits

open Float.Model

theorem toNat_unpackExponent (bits : UInt64) :
    (@UnpackedFloat.unpackExponent Format.binary64 bits.toBitVec).toNat = bits.toNat / 2 ^ 52 % 2048 := by
  simp [UnpackedFloat.unpackExponent, Nat.shiftRight_eq_div_pow]

theorem toNat_unpackMantissa (bits : UInt64) :
    (@UnpackedFloat.unpackMantissa Format.binary64 bits.toBitVec).toNat = bits.toNat % 2 ^ 52 := by
  simp [UnpackedFloat.unpackMantissa]

/-- There is one undefined value. -/
theorem toBits_of_undefined {x : Float} (undefined : valueOf x = .undefined) :
    x.toBits.toBitVec = UnpackedFloat.packedNaN Format.binary64 := by
  have shape : x.toBits.toNat / 2 ^ 52 % 2048 = 2047 ∧ x.toBits.toNat % 2 ^ 52 ≠ 0 := by
    simp only [valueOf, Nat.pow_eq] at undefined
    split at undefined
    · split at undefined
      · exact absurd undefined (by simp)
      · exact ⟨by assumption, by assumption⟩
    · split at undefined <;> exact absurd undefined (by simp)
  refine x.toModel.valid.eq_packedNaN ?_ ?_
  · exact BitVec.eq_of_toNat_eq ((toNat_unpackExponent x.toBits).trans shape.1)
  · intro zero
    exact shape.2 ((toNat_unpackMantissa x.toBits).symm.trans (congrArg BitVec.toNat zero))

end Bits

theorem isNormal_of_finite {x : Float} {d : Dyadic} (finite : valueOf x = .finite d) : d.IsNormal := by
  simp only [valueOf, Nat.pow_eq] at finite
  split at finite
  · split at finite <;> exact absurd finite (by simp)
  · split at finite
    · obtain rfl := Value.finite.inj finite
      refine ⟨le_rfl, ?_, .inl rfl⟩
      show _ % _ < _
      omega
    · obtain rfl := Value.finite.inj finite
      refine ⟨by simp, ?_, .inr (by simp)⟩
      show _ + _ % _ < _
      omega

/-- A floating-point number is determined by its value, the sign of zero included. -/
theorem valueOf_injective {x y : Float} (same : valueOf x = valueOf y) : x = y := by
  by_cases undefined : valueOf x = .undefined
  · have first := toBits_of_undefined undefined
    have second := toBits_of_undefined (same ▸ undefined)
    exact Float.toBits_inj.mp (UInt64.eq_of_toBitVec_eq (first.trans second.symm))
  · refine Float.toBits_inj.mp (UInt64.toNat_inj.mp ?_)
    have bound := x.toBits.toNat_lt
    have boundToo := y.toBits.toNat_lt
    simp only [valueOf, Nat.pow_eq] at same undefined
    generalize x.toBits.toNat = bits at *
    generalize y.toBits.toNat = others at *
    split_ifs at * <;> simp at * <;> omega

theorem ne_of_isDigit {c mark : Char} (digit : c.isDigit = true) (other : mark.isDigit = false) : c ≠ mark := by
  rintro rfl
  simp [digit] at other

theorem isDigit_of_mem_toDigits {n : ℕ} {c : Char} (member : c ∈ Nat.toDigits 10 n) : c.isDigit = true :=
  Nat.isDigit_of_mem_toDigits (by norm_num) (by norm_num) member

/-- The digits behind the point, zeros before them included. -/
def places (digits count : ℕ) : List Char :=
  let part := Nat.toDigits 10 (digits % 10 ^ count)
  List.replicate (count - part.length) '0' ++ part

theorem pointed_of_pos (digits : ℕ) {count : ℕ} (some : 0 < count) :
    pointed digits count = Nat.toDigits 10 (digits / 10 ^ count) ++ '.' :: places digits count := by
  rw [pointed, if_neg some.ne']
  rfl

theorem length_places (digits : ℕ) {count : ℕ} (some : 0 < count) : (places digits count).length = count := by
  have short : (Nat.toDigits 10 (digits % 10 ^ count)).length ≤ count :=
    (Nat.length_toDigits_le_iff (by norm_num) some).mpr (Nat.mod_lt _ (by positivity))
  simp only [places, List.length_append, List.length_replicate]
  omega

theorem ofDigitChars_places (digits count init : ℕ) :
    Nat.ofDigitChars 10 (places digits count) init =
      10 ^ (places digits count).length * init + digits % 10 ^ count := by
  rw [Nat.ofDigitChars_eq_ofDigitChars_zero, places, Nat.ofDigitChars_append, Nat.ofDigitChars_replicate_zero]
  simp

theorem isDigit_of_mem_places {digits count : ℕ} {c : Char} (member : c ∈ places digits count) :
    c.isDigit = true := by
  rcases List.mem_append.mp member with zero | digit
  · rw [List.eq_of_mem_replicate zero]
    decide
  · exact isDigit_of_mem_toDigits digit

theorem mem_pointed {digits count : ℕ} {c : Char} (member : c ∈ pointed digits count) : c.isDigit = true ∨ c = '.' := by
  rcases Nat.eq_zero_or_pos count with rfl | some
  · rw [pointed, if_pos rfl] at member
    exact .inl (isDigit_of_mem_toDigits member)
  · rw [pointed_of_pos digits some] at member
    rcases List.mem_append.mp member with whole | rest
    · exact .inl (isDigit_of_mem_toDigits whole)
    · exact (List.mem_cons.mp rest).symm.imp_left isDigit_of_mem_places

/-- The text of a magnitude starts with a digit. -/
theorem exists_pointed (digits count : ℕ) : ∃ c rest, pointed digits count = c :: rest ∧ c.isDigit = true := by
  have lead (n : ℕ) : ∃ c rest, Nat.toDigits 10 n = c :: rest ∧ c.isDigit = true := by
    cases shape : Nat.toDigits 10 n with
    | nil => exact absurd shape Nat.toDigits_ne_nil
    | cons c rest => exact ⟨c, rest, rfl, isDigit_of_mem_toDigits (shape ▸ List.mem_cons_self)⟩
  rw [pointed]
  split
  · exact lead _
  · obtain ⟨c, rest, shape, digit⟩ := lead (digits / Nat.pow 10 count)
    exact ⟨c, _, by rw [shape]; rfl, digit⟩

/-- The shapes of the text of a magnitude. -/
theorem shortDigits_cases (d : Dyadic) : ∃ digits count tail, shortDigits d = pointed digits count ++ tail ∧
    (tail = ['.', '0'] ∨ (tail = [] ∧ 0 < count) ∨ ∃ exponent, tail = exponentMark exponent) := by
  simp only [shortDigits]
  split
  · split
    · exact ⟨_, _, _, rfl, .inl rfl⟩
    · next fraction => exact ⟨_, _, [], (List.append_nil _).symm, .inr (.inl ⟨rfl, by omega⟩)⟩
  · exact ⟨_, _, _, rfl, .inr (.inr ⟨_, rfl⟩)⟩

theorem exists_shortDigits (d : Dyadic) : ∃ c rest, shortDigits d = c :: rest ∧ c.isDigit = true := by
  obtain ⟨digits, count, tail, shape, _⟩ := shortDigits_cases d
  obtain ⟨c, rest, lead, digit⟩ := exists_pointed digits count
  exact ⟨c, rest ++ tail, by rw [shape, lead, List.cons_append], digit⟩

theorem mem_exponentMark {exponent : ℤ} {c : Char} (member : c ∈ exponentMark exponent) :
    c.isDigit = true ∨ c = 'e' ∨ c = '+' ∨ c = '-' := by
  rw [exponentMark] at member
  simp only [List.mem_cons, List.mem_append, List.mem_replicate] at member
  rcases member with mark | sign | zero | digit
  · exact .inr (.inl mark)
  · split at sign
    · exact .inr (.inr (.inr sign))
    · exact .inr (.inr (.inl sign))
  · rw [zero.2]
    decide
  · exact .inl (isDigit_of_mem_toDigits digit)

theorem mem_shortDigits {d : Dyadic} {c : Char} (member : c ∈ shortDigits d) :
    c.isDigit = true ∨ c = '.' ∨ c = 'e' ∨ c = '+' ∨ c = '-' := by
  obtain ⟨digits, count, tail, shape, kinds⟩ := shortDigits_cases d
  rw [shape] at member
  rcases List.mem_append.mp member with front | back
  · exact (mem_pointed front).imp_right .inl
  · rcases kinds with rfl | ⟨rfl, _⟩ | ⟨exponent, rfl⟩
    · simp only [List.mem_cons, List.not_mem_nil, or_false] at back
      rcases back with rfl | rfl <;> decide
    · exact absurd back (by simp)
    · exact (mem_exponentMark back).imp_right .inr

theorem toList_signed (negative : Bool) (text : List Char) :
    (signed negative text).toList = (if negative then ['-'] else []) ++ text := by
  cases negative <;> simp [signed]

theorem shortText_of_finite {x : Float} {d : Dyadic} (finite : valueOf x = .finite d) :
    shortText x = signed d.negative (shortDigits d) := by
  rw [shortText, written, finite]

theorem shortText_ne_empty (x : Float) : shortText x ≠ "" := by
  have signed_ne_empty (negative : Bool) {text : List Char} (some : text ≠ []) : signed negative text ≠ "" := by
    intro empty
    have chars := congrArg String.toList empty
    rw [toList_signed] at chars
    exact some (List.append_eq_nil_iff.mp chars).2
  rw [shortText, written]
  split
  · simp
  · exact signed_ne_empty _ (by simp)
  · obtain ⟨c, rest, shape, _⟩ := exists_shortDigits ‹_›
    exact signed_ne_empty _ (by simp [shape])

theorem int_repr_ne_empty (n : Int) : n.repr ≠ "" := by
  cases n with
  | ofNat m => exact Nat.repr_ne_empty
  | negSucc m =>
    intro empty
    have length := congrArg String.length empty
    simp [Int.repr] at length

end Prism.Decimal
