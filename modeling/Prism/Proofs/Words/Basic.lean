import Mathlib
import Prism.Words

namespace Prism.Words

theorem isUpper_iff {c : Char} : c.isUpper = true ↔ 65 ≤ c.toNat ∧ c.toNat ≤ 90 := by
  simp [Char.isUpper, UInt32.le_iff_toNat_le, ← Char.toNat_val]

theorem isLower_iff {c : Char} : c.isLower = true ↔ 97 ≤ c.toNat ∧ c.toNat ≤ 122 := by
  simp [Char.isLower, UInt32.le_iff_toNat_le, ← Char.toNat_val]

theorem isDigit_iff {c : Char} : c.isDigit = true ↔ 48 ≤ c.toNat ∧ c.toNat ≤ 57 := by
  simp [Char.isDigit, UInt32.le_iff_toNat_le, ← Char.toNat_val]

theorem not_isUpper_of_isDigit {c : Char} (digit : c.isDigit = true) : c.isUpper = false := by
  rw [Bool.eq_false_iff, ne_eq, isUpper_iff]
  rw [isDigit_iff] at digit
  omega

theorem not_isLower_of_isDigit {c : Char} (digit : c.isDigit = true) : c.isLower = false := by
  rw [Bool.eq_false_iff, ne_eq, isLower_iff]
  rw [isDigit_iff] at digit
  omega

theorem toUpper_of_isDigit {c : Char} (digit : c.isDigit = true) : c.toUpper = c :=
  Char.toUpper_eq_of_not_isLower (by simp [not_isLower_of_isDigit digit])

theorem toLower_of_isDigit {c : Char} (digit : c.isDigit = true) : c.toLower = c :=
  Char.toLower_eq_of_not_isUpper (by simp [not_isUpper_of_isDigit digit])

theorem toLower_of_isLower {c : Char} (small : c.isLower = true) : c.toLower = c :=
  Char.toLower_eq_of_not_isUpper (Char.not_isUpper_of_isLower small)

theorem isDigit_toLower (c : Char) : c.toLower.isDigit = c.isDigit := by
  by_cases capital : c.isUpper = true
  · have letter : c.toLower.isLower = true := by simp [Char.isAlpha, capital]
    rw [isUpper_iff] at capital
    rw [isLower_iff] at letter
    rw [Bool.eq_iff_iff, isDigit_iff, isDigit_iff]
    omega
  · rw [Char.toLower_eq_of_not_isUpper capital]

theorem isUpper_toUpper_of_isLower {c : Char} (small : c.isLower = true) :
    c.toUpper.isUpper = true := by
  simp [Char.isAlpha, small]

theorem isAlphanum_cases {c : Char} (kept : c.isAlphanum = true) :
    c.isUpper = true ∧ c.isLower = false ∧ c.isDigit = false ∨
    c.isUpper = false ∧ c.isLower = true ∧ c.isDigit = false ∨
    c.isUpper = false ∧ c.isLower = false ∧ c.isDigit = true := by
  simp only [Char.isAlphanum, Char.isAlpha, Bool.or_eq_true] at kept
  simp only [Bool.eq_false_iff, ne_eq, isUpper_iff, isLower_iff, isDigit_iff] at kept ⊢
  omega

theorem takeWhile_of_head {test : Char → Bool} {text : List Char}
    (stop : ∀ c ∈ text.head?, test c = false) : text.takeWhile test = [] := by
  cases text with
  | nil => rfl
  | cons c rest => simp [stop c (by simp)]

/-- A capital in front of a text: with it goes the row of capitals that follows, unless small letters
follow that row; then its last capital goes with them, or the new capital when it is the only one. -/
theorem leadLength_cons_of_isUpper {c : Char} (rest : List Char) (capital : c.isUpper = true) :
    leadLength (c :: rest) =
      if ((rest.dropWhile Char.isUpper).takeWhile Char.isLower).length = 0 then
        (rest.takeWhile Char.isUpper).length + 1
      else if (rest.takeWhile Char.isUpper).length = 0 then
        ((rest.dropWhile Char.isUpper).takeWhile Char.isLower).length + 1
      else (rest.takeWhile Char.isUpper).length := by
  simp only [leadLength, List.takeWhile_cons_of_pos capital, List.dropWhile_cons_of_pos capital,
    List.length_cons]
  generalize (rest.takeWhile Char.isUpper).length = capitals
  generalize ((rest.dropWhile Char.isUpper).takeWhile Char.isLower).length = smalls
  simp only [Nat.add_eq_zero_iff, Nat.one_ne_zero, and_false, decide_false, Bool.false_and,
    Bool.false_eq_true, if_false]
  split_ifs <;> omega

theorem leadLength_cons_of_isLower {c : Char} (rest : List Char) (small : c.isLower = true) :
    leadLength (c :: rest) = (rest.takeWhile Char.isLower).length + 1 := by
  have other : c.isUpper = false := by simpa using Char.not_isUpper_of_isLower small
  simp [leadLength, other, small]

theorem leadLength_cons_of_isDigit {c : Char} (rest : List Char) (digit : c.isDigit = true) :
    leadLength (c :: rest) = (rest.takeWhile Char.isDigit).length + 1 := by
  simp [leadLength, digit, not_isUpper_of_isDigit digit, not_isLower_of_isDigit digit]

theorem leadLength_pos {c : Char} (rest : List Char) (kept : c.isAlphanum = true) : 0 < leadLength (c :: rest) := by
  rcases isAlphanum_cases kept with ⟨upper, -, -⟩ | ⟨-, lower, -⟩ | ⟨-, -, digit⟩
  · rw [leadLength_cons_of_isUpper _ upper]
    split_ifs <;> omega
  · simp [leadLength_cons_of_isLower _ lower]
  · simp [leadLength_cons_of_isDigit _ digit]

/-- A capital joins the next one, unless a small letter follows the two. -/
theorem leadLength_capitals {c d : Char} {rest : List Char} (first : c.isUpper = true) (second : d.isUpper = true)
    (stop : ∀ a ∈ rest.head?, a.isLower = false) :
    leadLength (c :: d :: rest) = 1 + leadLength (d :: rest) := by
  rw [leadLength_cons_of_isUpper _ first, leadLength_cons_of_isUpper _ second,
    List.takeWhile_cons_of_pos second, List.dropWhile_cons_of_pos second, List.length_cons]
  have single : (rest.takeWhile Char.isUpper).length = 0 →
      ((rest.dropWhile Char.isUpper).takeWhile Char.isLower).length = 0 := by
    intro none
    rw [List.length_eq_zero_iff] at none
    have whole : rest.dropWhile Char.isUpper = rest := by
      simpa only [none, List.nil_append] using rest.takeWhile_append_dropWhile (p := Char.isUpper)
    rw [whole, takeWhile_of_head stop]
    rfl
  revert single
  generalize (rest.takeWhile Char.isUpper).length = capitals
  generalize ((rest.dropWhile Char.isUpper).takeWhile Char.isLower).length = smalls
  intro single
  rw [if_neg (Nat.succ_ne_zero capitals)]
  split_ifs <;> omega

/-- A word ends between two neighbours: one is a letter and the other a digit, a capital follows a small letter, or
both are capitals and a small letter follows. -/
def Parted (c d : Char) (after : List Char) : Prop :=
  c.isAlpha = true ∧ d.isDigit = true ∨ c.isDigit = true ∧ d.isAlpha = true ∨
    c.isLower = true ∧ d.isUpper = true ∨
    c.isUpper = true ∧ d.isUpper = true ∧ ∃ e ∈ after.head?, e.isLower = true

/-- A character that is parted from the next one is a word of its own, and any other belongs to the word of the
next. Only for two capitals does the character behind them count. -/
theorem leadLength_cons_cons {c d : Char} {after : List Char} (kept : c.isAlphanum = true)
    (next : d.isAlphanum = true) :
    (Parted c d after → leadLength (c :: d :: after) = 1) ∧
      (¬Parted c d after → leadLength (c :: d :: after) = 1 + leadLength (d :: after)) := by
  have capitals (upper : c.isUpper = true) (another : d.isUpper = true)
      (small : ∃ e ∈ after.head?, e.isLower = true) : leadLength (c :: d :: after) = 1 := by
    cases after with
    | nil => simp at small
    | cons e after =>
      have low : e.isLower = true := by simpa using small
      have other : e.isUpper = false := by simpa using Char.not_isUpper_of_isLower low
      simp [leadLength_cons_of_isUpper _ upper, another, low, other]
  have row (upper : c.isUpper = true) (another : d.isUpper = true)
      (none : ¬∃ e ∈ after.head?, e.isLower = true) :
      leadLength (c :: d :: after) = 1 + leadLength (d :: after) :=
    leadLength_capitals upper another fun e head => by
      by_contra small
      exact none ⟨e, head, by simpa using small⟩
  rcases isAlphanum_cases kept with ⟨upper, lower, digit⟩ | ⟨upper, lower, digit⟩ | ⟨upper, lower, digit⟩ <;>
    rcases isAlphanum_cases next with ⟨up, low, number⟩ | ⟨up, low, number⟩ | ⟨up, low, number⟩ <;>
    simp only [Parted, Char.isAlpha, upper, lower, digit, up, low, number]
  · refine ⟨fun parted => capitals upper up ?_, fun joined => row upper up ?_⟩
    · simpa using parted
    · simpa using joined
  all_goals simp [leadLength_cons_of_isUpper, leadLength_cons_of_isLower, leadLength_cons_of_isDigit, upper, lower,
    digit, up, low, number, Nat.add_comm]

/-- A word ends behind a character. -/
def EndsBefore (c : Char) (rest : List Char) : Prop :=
  ∀ d ∈ rest.head?, d.isAlphanum = true → Parted c d rest.tail

theorem leadLength_of_endsBefore {c : Char} {rest : List Char} (kept : c.isAlphanum = true)
    (ends : EndsBefore c rest) : leadLength (c :: rest) = 1 := by
  cases rest with
  | nil =>
    rcases isAlphanum_cases kept with ⟨upper, -, -⟩ | ⟨-, lower, -⟩ | ⟨-, -, digit⟩
    · simp [leadLength_cons_of_isUpper _ upper]
    · simp [leadLength_cons_of_isLower _ lower]
    · simp [leadLength_cons_of_isDigit _ digit]
  | cons d after =>
    by_cases next : d.isAlphanum = true
    · exact (leadLength_cons_cons kept next).1 (ends d rfl next)
    · simp only [Char.isAlphanum, Char.isAlpha, Bool.or_eq_true, not_or, Bool.not_eq_true] at next
      obtain ⟨⟨up, low⟩, number⟩ := next
      rcases isAlphanum_cases kept with ⟨upper, -, -⟩ | ⟨-, lower, -⟩ | ⟨-, -, digit⟩
      · simp [leadLength_cons_of_isUpper _ upper, up, low]
      · simp [leadLength_cons_of_isLower _ lower, low]
      · simp [leadLength_cons_of_isDigit _ digit, number]

theorem segmentsAfter_eq (taken : Nat) (text : List Char) :
    segmentsAfter taken text = segments (text.drop taken) := by
  induction text generalizing taken with
  | nil => simp [segmentsAfter, segments]
  | cons c rest ih =>
    cases taken with
    | zero => rfl
    | succ taken => simpa only [segmentsAfter, List.drop_succ_cons] using ih taken

theorem splitChars_of_leadLength {c : Char} {rest : List Char} {more : Nat} (lead : leadLength (c :: rest) = more + 1) :
    splitChars (c :: rest) = (c.toLower :: (rest.take more).map Char.toLower) :: splitChars (rest.drop more) := by
  simp only [splitChars, segments, segmentsAfter, lead]
  rw [segmentsAfter_eq]
  rfl

/-- A character that belongs to no word. -/
def IsSeparator (c : Char) : Prop := c.isAlphanum = false

theorem splitChars_separator {c : Char} (rest : List Char) (separator : IsSeparator c) :
    splitChars (c :: rest) = splitChars rest := by
  simp only [IsSeparator, Char.isAlphanum, Char.isAlpha, Bool.or_eq_false_iff] at separator
  have lead : leadLength (c :: rest) = 0 := by simp [leadLength, separator]
  simp only [splitChars, segments, segmentsAfter, lead]

theorem splitChars_of_endsBefore {c : Char} {rest : List Char} (kept : c.isAlphanum = true)
    (ends : EndsBefore c rest) : splitChars (c :: rest) = [c.toLower] :: splitChars rest :=
  splitChars_of_leadLength (leadLength_of_endsBefore kept ends)

theorem splitChars_of_not_parted {c d : Char} {after : List Char} (kept : c.isAlphanum = true)
    (next : d.isAlphanum = true) (joined : ¬Parted c d after) :
    ∃ more others, splitChars (d :: after) = (d.toLower :: more) :: others ∧
      splitChars (c :: d :: after) = (c.toLower :: d.toLower :: more) :: others := by
  obtain ⟨more, lead⟩ := Nat.exists_eq_succ_of_ne_zero (leadLength_pos after next).ne'
  have longer := (leadLength_cons_cons kept next).2 joined
  rw [lead, Nat.add_comm] at longer
  exact ⟨_, _, splitChars_of_leadLength lead, splitChars_of_leadLength longer⟩

/-- What a character does to the words of the text behind it: nothing, or it is a word before them, or it goes in
front of the first of them. -/
theorem splitChars_cons (c : Char) (rest : List Char) :
    c.isAlphanum = false ∧ splitChars (c :: rest) = splitChars rest ∨
    c.isAlphanum = true ∧ EndsBefore c rest ∧ splitChars (c :: rest) = [c.toLower] :: splitChars rest ∨
    c.isAlphanum = true ∧ ∃ d after more others, rest = d :: after ∧ d.isAlphanum = true ∧ ¬Parted c d after ∧
      splitChars rest = (d.toLower :: more) :: others ∧
      splitChars (c :: rest) = (c.toLower :: d.toLower :: more) :: others := by
  by_cases kept : c.isAlphanum = true
  · right
    by_cases ends : EndsBefore c rest
    · exact .inl ⟨kept, ends, splitChars_of_endsBefore kept ends⟩
    · cases rest with
      | nil => exact absurd (fun d head => by simp at head) ends
      | cons d after =>
        obtain ⟨next, joined⟩ : d.isAlphanum = true ∧ ¬Parted c d after := by simpa [EndsBefore] using ends
        obtain ⟨more, others, later, longer⟩ := splitChars_of_not_parted kept next joined
        exact .inr ⟨kept, d, after, more, others, rfl, next, joined, later, longer⟩
  · exact .inl ⟨by simpa using kept, splitChars_separator rest (by simpa [IsSeparator] using kept)⟩

/-- What names are made of: a row of small letters or a row of digits. -/
def IsWord (word : List Char) : Prop :=
  word ≠ [] ∧ ((∀ c ∈ word, c.isLower = true) ∨ ∀ c ∈ word, c.isDigit = true)

theorem IsWord.map_toLower {word : List Char} (isWord : IsWord word) :
    word.map Char.toLower = word := by
  refine (List.map_congr_left fun c member => ?_).trans (List.map_id word)
  rcases isWord.2 with smalls | digits
  · exact toLower_of_isLower (smalls c member)
  · exact toLower_of_isDigit (digits c member)

theorem IsWord.isAlphanum {word : List Char} (isWord : IsWord word) : ∀ c ∈ word, c.isAlphanum = true := by
  intro c member
  rcases isWord.2 with smalls | digits
  · simp [Char.isAlphanum, Char.isAlpha, smalls c member]
  · simp [Char.isAlphanum, digits c member]

/-- A character that is not parted from the next one is of its kind. -/
theorem isWord_cons {c d : Char} {after more : List Char} (kept : c.isAlphanum = true) (joined : ¬Parted c d after)
    (isWord : IsWord (d.toLower :: more)) : IsWord (c.toLower :: d.toLower :: more) := by
  refine ⟨List.cons_ne_nil _ _, isWord.2.imp (fun smalls => ?_) fun digits => ?_⟩
  · have letter : d.isAlpha = true := by simpa using smalls _ (List.mem_cons_self ..)
    have other : c.isAlpha = true := by
      by_contra none
      exact joined (.inr (.inl ⟨by simpa [Char.isAlphanum, none] using kept, letter⟩))
    exact List.forall_mem_cons.mpr ⟨by simpa using other, smalls⟩
  · have digit : d.isDigit = true := by simpa [isDigit_toLower] using digits _ (List.mem_cons_self ..)
    have other : c.isDigit = true := by
      by_contra none
      exact joined (.inl ⟨by simpa [Char.isAlphanum, none] using kept, digit⟩)
    exact List.forall_mem_cons.mpr ⟨by rwa [isDigit_toLower], digits⟩

/-- Every word of a text is a word. -/
theorem isWord_of_mem_splitChars {text word : List Char} (member : word ∈ splitChars text) : IsWord word := by
  induction text generalizing word with
  | nil => simp [splitChars, segments, segmentsAfter] at member
  | cons c rest ih =>
    rcases splitChars_cons c rest with
      ⟨-, same⟩ | ⟨kept, -, alone⟩ | ⟨kept, d, after, more, others, -, -, joined, later, longer⟩
    · exact ih (same ▸ member)
    · rw [alone, List.mem_cons] at member
      rcases member with rfl | inside
      · refine ⟨List.cons_ne_nil _ _, ?_⟩
        simpa [isDigit_toLower, Char.isAlphanum] using kept
      · exact ih inside
    · rw [longer, List.mem_cons] at member
      rw [later] at ih
      rcases member with rfl | inside
      · exact isWord_cons kept joined (ih (List.mem_cons_self ..))
      · exact ih (List.mem_cons_of_mem _ inside)

/-- Two neighbours that stand in one word, whatever follows them. -/
def Joined (c d : Char) : Prop :=
  c.isUpper = true ∧ d.isLower = true ∨ c.isLower = true ∧ d.isLower = true ∨ c.isDigit = true ∧ d.isDigit = true

theorem Joined.not_parted {c d : Char} (joined : Joined c d) (after : List Char) : ¬Parted c d after := by
  simp only [Joined, isUpper_iff, isLower_iff, isDigit_iff] at joined
  simp only [Parted, Char.isAlpha, Bool.or_eq_true, isUpper_iff, isLower_iff, isDigit_iff]
  rintro (parted | parted | parted | ⟨upper, another, -⟩) <;> omega

/-- Letters or digits that stand in one word, whatever follows them. -/
structure IsRow (row : List Char) : Prop where
  filled : row ≠ []
  kept : ∀ c ∈ row, c.isAlphanum = true
  chain : row.IsChain Joined

/-- The word of the last character of a row begins with the row. -/
theorem splitChars_append_concat {front rest first : List Char} {c : Char} {others : List (List Char)}
    (isRow : IsRow (front ++ [c])) (later : splitChars (c :: rest) = first :: others) :
    splitChars (front ++ c :: rest) = (front.map Char.toLower ++ first) :: others := by
  induction front with
  | nil => exact later
  | cons a front ih =>
    obtain ⟨touch, chain⟩ := List.isChain_cons.mp isRow.chain
    obtain ⟨kept, keptLater⟩ := List.forall_mem_cons.mp isRow.kept
    have longer := ih ⟨by simp, keptLater, chain⟩
    obtain ⟨d, after, head, shape⟩ : ∃ d after, (front ++ [c]).head? = some d ∧ front ++ c :: rest = d :: after := by
      cases front with
      | nil => exact ⟨c, rest, rfl, rfl⟩
      | cons d front => exact ⟨d, front ++ c :: rest, rfl, rfl⟩
    have next := keptLater d (List.mem_of_mem_head? head)
    obtain ⟨more, words, behind, whole⟩ := splitChars_of_not_parted kept next ((touch d head).not_parted after)
    rw [List.cons_append, shape, whole]
    rw [shape, behind] at longer
    obtain ⟨same, rfl⟩ := List.cons.inj longer
    rw [same]
    rfl

variable {row rest : List Char}

theorem IsRow.splitChars_append (isRow : IsRow row) (ends : ∀ c ∈ row.getLast?, EndsBefore c rest) :
    splitChars (row ++ rest) = row.map Char.toLower :: splitChars rest := by
  obtain ⟨front, c, rfl⟩ := (List.eq_nil_or_concat' row).resolve_left isRow.filled
  have alone := splitChars_of_endsBefore (isRow.kept c (by simp)) (ends c (by simp))
  simpa using splitChars_append_concat isRow alone

/-- A row in front of a text becomes part of its first word when nothing parts them. -/
theorem IsRow.splitChars_append_of_not_parted {d : Char} {after first : List Char} {others : List (List Char)}
    (isRow : IsRow row) (next : d.isAlphanum = true) (joined : ∀ c ∈ row.getLast?, ¬Parted c d after)
    (later : splitChars (d :: after) = first :: others) :
    splitChars (row ++ d :: after) = (row.map Char.toLower ++ first) :: others := by
  obtain ⟨front, c, rfl⟩ := (List.eq_nil_or_concat' row).resolve_left isRow.filled
  obtain ⟨more, words, behind, whole⟩ :=
    splitChars_of_not_parted (isRow.kept c (by simp)) next (joined c (by simp))
  rw [later] at behind
  obtain ⟨rfl, rfl⟩ := List.cons.inj behind
  simpa using splitChars_append_concat isRow whole

theorem IsWord.isRow {word : List Char} (isWord : IsWord word) : IsRow word where
  filled := isWord.1
  kept := isWord.isAlphanum
  chain := by
    refine (List.pairwise_of_forall_mem_list fun c member d memberToo => ?_).isChain
    exact .inr (isWord.2.imp (fun smalls => ⟨smalls c member, smalls d memberToo⟩)
      fun digits => ⟨digits c member, digits d memberToo⟩)

theorem isSeparator_underscore : IsSeparator '_' := rfl

theorem isSeparator_hyphen : IsSeparator '-' := rfl

theorem IsWord.splitChars_append {word : List Char} (isWord : IsWord word)
    (stop : ∀ c ∈ rest.head?, IsSeparator c) : splitChars (word ++ rest) = word :: splitChars rest := by
  rw [isWord.isRow.splitChars_append, isWord.map_toLower]
  intro c _ d head kept
  rw [stop d head] at kept
  exact absurd kept Bool.false_ne_true

theorem IsWord.splitChars_append_separator {c : Char} {word : List Char} (isWord : IsWord word)
    (separator : IsSeparator c) (rest : List Char) :
    splitChars (word ++ c :: rest) = word :: splitChars rest := by
  rw [isWord.splitChars_append (by simpa using separator), splitChars_separator rest separator]

/-- Words that are joined by a separator are found again in front of any further text. -/
theorem splitChars_joinChars_append {c : Char} (separator : IsSeparator c) {words : List (List Char)}
    (areWords : ∀ word ∈ words, IsWord word) (stop : ∀ d ∈ rest.head?, IsSeparator d) :
    splitChars (joinChars c words ++ rest) = words ++ splitChars rest := by
  induction words with
  | nil => rfl
  | cons word others ih =>
    obtain ⟨isWord, areLater⟩ := List.forall_mem_cons.mp areWords
    cases others with
    | nil => exact isWord.splitChars_append stop
    | cons next more =>
      simp only [joinChars, List.append_assoc, List.cons_append] at ih ⊢
      rw [isWord.splitChars_append_separator separator, ih areLater]

theorem splitChars_joinChars {c : Char} (separator : IsSeparator c) {words : List (List Char)}
    (areWords : ∀ word ∈ words, IsWord word) : splitChars (joinChars c words) = words := by
  have nothing : ∀ d ∈ ([] : List Char).head?, IsSeparator d := by simp
  simpa [splitChars, segments, segmentsAfter] using splitChars_joinChars_append separator areWords nothing

theorem joined_eq_iff {c : Char} (separator : IsSeparator c) {a b : List Char} :
    joinChars c (splitChars a) = joinChars c (splitChars b) ↔ splitChars a = splitChars b := by
  refine ⟨fun same => ?_, fun same => by rw [same]⟩
  have read (text : List Char) : splitChars (joinChars c (splitChars text)) = splitChars text :=
    splitChars_joinChars separator fun _ => isWord_of_mem_splitChars
  rw [← read a, same, read]

@[simp] theorem toList_snake (text : String) :
    (snake text).toList = joinChars '_' (splitChars text.toList) := String.toList_ofList

@[simp] theorem toList_kebab (text : String) :
    (kebab text).toList = joinChars '-' (splitChars text.toList) := String.toList_ofList

@[simp] theorem toList_pascal (text : String) :
    (pascal text).toList = pascalChars (splitChars text.toList) := String.toList_ofList

@[simp] theorem toList_camel (text : String) :
    (camel text).toList = camelChars (splitChars text.toList) := String.toList_ofList

/-- A word that an underscore divides from a text is the first word of both together. -/
theorem splitChars_append_underscore {word : String} (isWord : IsWord word.toList) (text : String) :
    splitChars (word ++ "_" ++ text).toList = word.toList :: splitChars text.toList := by
  have parts : (word ++ "_" ++ text).toList = word.toList ++ '_' :: text.toList := by
    rw [String.toList_append, String.toList_append, List.append_assoc]
    rfl
  rw [parts, isWord.splitChars_append_separator isSeparator_underscore]

/-- Keys are equal exactly when the words are. -/
theorem key_eq_iff {a b : String} : key a = key b ↔ splitChars a.toList = splitChars b.toList := by
  rw [key, key, ← String.toList_inj, toList_snake, toList_snake, joined_eq_iff isSeparator_underscore]

theorem key_eq_empty_iff {a : String} : key a = "" ↔ splitChars a.toList = [] := by
  have nothing : key "" = "" := rfl
  rw [← nothing, key_eq_iff]
  exact Eq.congr_right rfl

theorem kebab_eq_iff {a b : String} : kebab a = kebab b ↔ splitChars a.toList = splitChars b.toList := by
  rw [← String.toList_inj, toList_kebab, toList_kebab, joined_eq_iff isSeparator_hyphen]

end Prism.Words
