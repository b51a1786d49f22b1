import Prism.Proofs.Ascii
import Prism.Proofs.Fallible
import Prism.Reading

namespace Prism.Text

/-- The octets of a character by its number. -/
def octetsOf (n : ℕ) : List ℕ :=
  if n < 0x80 then [n]
  else if n < 0x800 then [n / 64 + 0xc0, n % 64 + 0x80]
  else if n < 0x10000 then [n / 4096 + 0xe0, n / 64 % 64 + 0x80, n % 64 + 0x80]
  else [n / 262144 + 0xf0, n / 4096 % 64 + 0x80, n / 64 % 64 + 0x80, n % 64 + 0x80]

theorem encoded_eq (c : Char) : encoded c = octetsOf c.toNat := by
  have valid : c.toNat < 0xd800 ∨ 0xdfff < c.toNat ∧ c.toNat < 0x110000 := c.valid
  have number : c.val.toNat = c.toNat := rfl
  rw [encoded, String.utf8EncodeChar, number, octetsOf]
  generalize c.toNat = n at valid
  split_ifs <;> first | omega | simp only [List.map_cons, List.map_nil, UInt8.toNat_ofNat', List.cons.injEq, and_true]
  all_goals omega

/-- The number of a character is none of a surrogate. -/
theorem toNat_ofNat {n : ℕ} (valid : n < 0xd800 ∨ 0xdfff < n ∧ n < 0x110000) : (Char.ofNat n).toNat = n := by
  rw [Char.ofNat, dif_pos valid]
  rfl

theorem isTail_iff {b : ℕ} : isTail b = true ↔ 0x80 ≤ b ∧ b ≤ 0xbf := by simp [isTail]

theorem isSecond_iff {a b : ℕ} : isSecond a b = true ↔ (0x80 ≤ b ∧ b ≤ 0xbf) ∧ (a = 0xe0 → 0xa0 ≤ b) ∧
    (a = 0xed → b < 0xa0) ∧ (a = 0xf0 → 0x90 ≤ b) ∧ (a = 0xf4 → b < 0x90) := by
  simp only [isSecond, isTail, Bool.and_eq_true, Bool.not_eq_true', Bool.and_eq_false_imp, beq_iff_eq,
    decide_eq_true_eq, decide_eq_false_iff_not]
  omega

/-- How octets start that decode: with those of one character, after which the rest decodes. -/
def Leads (position : ℕ) (octets : List ℕ) (chars : List Char) : Prop :=
  ∃ c rest later, octets = encoded c ++ rest ∧ chars = c :: later ∧
    decodeUtf8From (position + (encoded c).length) rest = .ok later

theorem leads_of_octetsOf {position n : ℕ} {rest : List ℕ} {later : List Char} (lead : List ℕ)
    (decoded : decodeUtf8From (position + lead.length) rest = .ok later)
    (valid : n < 0xd800 ∨ 0xdfff < n ∧ n < 0x110000) (same : octetsOf n = lead) :
    Leads position (lead ++ rest) (Char.ofNat n :: later) := by
  have whole : encoded (Char.ofNat n) = lead := by rw [encoded_eq, toNat_ofNat valid, same]
  exact ⟨Char.ofNat n, rest, later, by rw [whole], rfl, by rwa [whole]⟩

/-- Octets that decode start with those of a character. -/
theorem leads_of_decodeUtf8From {position a : ℕ} {octets : List ℕ} {chars : List Char}
    (decoded : decodeUtf8From position (a :: octets) = .ok chars) : Leads position (a :: octets) chars := by
  rw [decodeUtf8From.eq_def] at decoded
  dsimp only at decoded
  by_cases one : a < 0x80
  · rw [if_pos one] at decoded
    obtain ⟨later, next, decoded⟩ := exists_of_bind_eq_ok decoded
    obtain rfl := Except.ok.inj decoded
    exact leads_of_octetsOf [a] next (Or.inl (by omega)) (if_pos one)
  rw [if_neg one] at decoded
  by_cases start : (decide (a < 0xc2) || decide (0xf5 ≤ a)) = true
  · rw [if_pos start] at decoded
    exact absurd decoded (by simp)
  rw [if_neg start] at decoded
  simp only [Bool.or_eq_true, decide_eq_true_eq, not_or, not_lt, not_le] at start
  by_cases two : a < 0xe0
  · rw [if_pos two] at decoded
    rcases octets with _ | ⟨b, octets⟩
    · exact absurd decoded (by simp)
    by_cases tail : isTail b = true
    · simp only [tail, Bool.not_true, Bool.false_eq_true, if_false] at decoded
      obtain ⟨later, next, decoded⟩ := exists_of_bind_eq_ok decoded
      obtain rfl := Except.ok.inj decoded
      rw [isTail_iff] at tail
      refine leads_of_octetsOf [a, b] next (Or.inl (by omega)) ?_
      rw [octetsOf, if_neg (by omega), if_pos (by omega)]
      simp only [List.cons.injEq, and_true]
      omega
    · simp [tail] at decoded
  rw [if_neg two] at decoded
  by_cases three : a < 0xf0
  · rw [if_pos three] at decoded
    rcases octets with _ | ⟨b, _ | ⟨c, octets⟩⟩
    · exact absurd decoded (by simp)
    · dsimp only at decoded
      split_ifs at decoded
    by_cases second : isSecond a b = true
    · by_cases tail : isTail c = true
      · simp only [second, tail, Bool.not_true, Bool.false_eq_true, if_false] at decoded
        obtain ⟨later, next, decoded⟩ := exists_of_bind_eq_ok decoded
        obtain rfl := Except.ok.inj decoded
        rw [isSecond_iff] at second
        rw [isTail_iff] at tail
        refine leads_of_octetsOf [a, b, c] next (by omega) ?_
        rw [octetsOf, if_neg (by omega), if_neg (by omega), if_pos (by omega)]
        simp only [List.cons.injEq, and_true]
        omega
      · simp [second, tail] at decoded
    · simp [second] at decoded
  rw [if_neg three] at decoded
  rcases octets with _ | ⟨b, _ | ⟨c, _ | ⟨d, octets⟩⟩⟩
  · exact absurd decoded (by simp)
  · dsimp only at decoded
    split_ifs at decoded
  · dsimp only at decoded
    split_ifs at decoded
  by_cases second : isSecond a b = true
  · by_cases tail : isTail c = true
    · by_cases last : isTail d = true
      · simp only [second, tail, last, Bool.not_true, Bool.false_eq_true, if_false] at decoded
        obtain ⟨later, next, decoded⟩ := exists_of_bind_eq_ok decoded
        obtain rfl := Except.ok.inj decoded
        rw [isSecond_iff] at second
        rw [isTail_iff] at tail last
        refine leads_of_octetsOf [a, b, c, d] next (by omega) ?_
        rw [octetsOf, if_neg (by omega), if_neg (by omega), if_neg (by omega)]
        simp only [List.cons.injEq, and_true]
        omega
      · simp [second, tail, last] at decoded
    · simp [second, tail] at decoded
  · simp [second] at decoded

/-- What follows a character is decoded by itself. -/
theorem decodeUtf8From_encoded (position : ℕ) (c : Char) (rest : List ℕ) :
    decodeUtf8From position (encoded c ++ rest) =
      (decodeUtf8From (position + (encoded c).length) rest).map (c :: ·) := by
  have valid : c.toNat < 0xd800 ∨ 0xdfff < c.toNat ∧ c.toNat < 0x110000 := c.valid
  have back : c = Char.ofNat c.toNat := (Char.ofNat_toNat c).symm
  rw [encoded_eq]
  generalize c.toNat = n at valid back
  subst back
  rw [octetsOf]
  split_ifs with one two three
  · rw [List.cons_append, List.nil_append, decodeUtf8From.eq_def]
    dsimp only
    rw [if_pos one]
    rfl
  · have tail : isTail (n % 64 + 0x80) = true := isTail_iff.mpr (by omega)
    have number : (n / 64 + 0xc0 - 0xc0) * 64 + (n % 64 + 0x80 - 0x80) = n := by omega
    rw [List.cons_append, List.cons_append, List.nil_append, decodeUtf8From.eq_def]
    dsimp only
    rw [if_neg (by omega), if_neg (by simp; omega), if_pos (by omega), tail, number]
    rfl
  · have second : isSecond (n / 4096 + 0xe0) (n / 64 % 64 + 0x80) = true := isSecond_iff.mpr (by omega)
    have tail : isTail (n % 64 + 0x80) = true := isTail_iff.mpr (by omega)
    have number : (n / 4096 + 0xe0 - 0xe0) * 4096 + (n / 64 % 64 + 0x80 - 0x80) * 64 + (n % 64 + 0x80 - 0x80) = n := by
      omega
    rw [List.cons_append, List.cons_append, List.cons_append, List.nil_append, decodeUtf8From.eq_def]
    dsimp only
    rw [if_neg (by omega), if_neg (by simp; omega), if_neg (by omega), if_pos (by omega), second, tail, number]
    rfl
  · have second : isSecond (n / 262144 + 0xf0) (n / 4096 % 64 + 0x80) = true := isSecond_iff.mpr (by omega)
    have third : isTail (n / 64 % 64 + 0x80) = true := isTail_iff.mpr (by omega)
    have tail : isTail (n % 64 + 0x80) = true := isTail_iff.mpr (by omega)
    have number : (n / 262144 + 0xf0 - 0xf0) * 262144 + (n / 4096 % 64 + 0x80 - 0x80) * 4096 +
        (n / 64 % 64 + 0x80 - 0x80) * 64 + (n % 64 + 0x80 - 0x80) = n := by omega
    rw [List.cons_append, List.cons_append, List.cons_append, List.cons_append, List.nil_append, decodeUtf8From.eq_def]
    dsimp only
    rw [if_neg (by omega), if_neg (by simp; omega), if_neg (by omega), if_neg (by omega), second, third, tail, number]
    rfl

theorem decodeUtf8From_eq_ok_iff {octets : List ℕ} {chars : List Char} {position : ℕ} :
    decodeUtf8From position octets = .ok chars ↔ octets = chars.flatMap encoded := by
  constructor
  · -- every step takes the octets of one character, so that fewer are left
    intro decoded
    induction chars generalizing position octets with
    | nil =>
      cases octets with
      | nil => rfl
      | cons a octets =>
        obtain ⟨_, _, _, _, some, _⟩ := leads_of_decodeUtf8From decoded
        exact absurd some (by simp)
    | cons c chars ih =>
      cases octets with
      | nil => exact absurd decoded (by simp [decodeUtf8From])
      | cons a octets =>
        obtain ⟨first, rest, later, start, same, next⟩ := leads_of_decodeUtf8From decoded
        obtain ⟨rfl, rfl⟩ := List.cons.inj same
        rw [start, ih next, List.flatMap_cons]
  · rintro rfl
    induction chars generalizing position with
    | nil => rfl
    | cons c chars ih => rw [List.flatMap_cons, decodeUtf8From_encoded, ih]; rfl

/-- Octets decode to a text exactly when they are the octets of that text. -/
theorem decodeUtf8_eq_ok_iff {values : List ℕ} {text : String} :
    decodeUtf8 values = .ok text ↔ values = octets text := by
  obtain ⟨chars, rfl⟩ := text.exists_eq_ofList
  rw [octets_ofList, ← @decodeUtf8From_eq_ok_iff values chars 0, decodeUtf8]
  constructor
  · intro decoded
    obtain ⟨found, ok, same⟩ := exists_of_map_eq_ok decoded
    rw [ok, String.ofList_injective same]
  · intro decoded
    rw [decoded]
    rfl

end Prism.Text

namespace Prism.Stored

variable {stored : Stored} {path text : String}

/-- A file of a text, of which every line end is read as a line feed. -/
def Reads (stored : Stored) (text : String) : Prop :=
  ∃ written, stored = .octets (Text.octets written) ∧ text = String.ofList (Text.plainLineEnds written.toList)

theorem text_eq_ok_iff : stored.text path = .ok text ↔ stored.Reads text := by
  constructor
  · intro read
    fun_cases Stored.text path stored
    case case6 values written decoded =>
      rw [Stored.text, decoded] at read
      exact ⟨written, congrArg octets (Text.decodeUtf8_eq_ok_iff.mp decoded), (Except.ok.inj read).symm⟩
    all_goals simp_all [Stored.text]
  · rintro ⟨written, rfl, rfl⟩
    rw [Stored.text, Text.decodeUtf8_eq_ok_iff.mpr rfl]

/-- Octets are a text or refused for their encoding. -/
theorem text_octets_cases (path : String) (values : List ℕ) :
    (∃ text, (Stored.octets values).text path = .ok text) ∨
      ∃ fault, (Stored.octets values).text path = .error (.encoding fault) := by
  rw [Stored.text]
  split
  · exact .inl ⟨_, rfl⟩
  · exact .inr ⟨_, rfl⟩

theorem Reads.eq {other : String} (reads : stored.Reads text) (again : stored.Reads other) : text = other := by
  have first := (@text_eq_ok_iff stored "" text).mpr reads
  exact Except.ok.inj (first.symm.trans (text_eq_ok_iff.mpr again))

end Prism.Stored
