import Prism.Proofs.Words.Basic

namespace Prism.Words

/-- A word of one letter. -/
def isLetter : List Char → Bool
  | [c] => c.isLower
  | _ => false

/-- A word of digits. -/
def isNumber (word : List Char) : Bool := word.all Char.isDigit

theorem isNumber_iff {word : List Char} : isNumber word = true ↔ ∀ c ∈ word, c.isDigit = true := by
  simp [isNumber]

theorem IsWord.smalls {word : List Char} (isWord : IsWord word) (other : isNumber word = false) :
    ∀ c ∈ word, c.isLower = true := by
  rcases isWord.2 with smalls | digits
  · exact smalls
  · rw [isNumber_iff.mpr digits] at other
    exact absurd other (by decide)

theorem capitalize_of_isNumber {word : List Char} (number : isNumber word = true) :
    capitalize word = word := by
  cases word with
  | nil => rfl
  | cons c rest =>
    rw [capitalize, toUpper_of_isDigit (isNumber_iff.mp number c (List.mem_cons_self ..))]

theorem IsWord.map_toLower_capitalize {word : List Char} (isWord : IsWord word) :
    (capitalize word).map Char.toLower = word := by
  rw [← isWord.map_toLower]
  cases word with
  | nil => rfl
  | cons c rest => simp [capitalize, Function.comp_def]

theorem isLetter_iff {word : List Char} :
    isLetter word = true ↔ ∃ c, word = [c] ∧ c.isLower = true := by
  constructor
  · intro letter
    match word, letter with
    | [c], small => exact ⟨c, rfl, small⟩
  · rintro ⟨c, rfl, small⟩
    exact small

theorem isLetter_of_isNumber {word : List Char} (number : isNumber word = true) :
    isLetter word = false := by
  rw [Bool.eq_false_iff, ne_eq, isLetter_iff]
  rintro ⟨c, rfl, small⟩
  rw [not_isLower_of_isDigit (isNumber_iff.mp number c (List.mem_cons_self ..))] at small
  exact absurd small (by decide)

/-- A word is a number, a single letter, or a letter with more small letters behind it. -/
theorem IsWord.cases {word : List Char} (isWord : IsWord word) :
    isNumber word = true ∨ isNumber word = false ∧ (isLetter word = true ∨
      isLetter word = false ∧ ∃ c d rest, word = c :: d :: rest) := by
  by_cases number : isNumber word = true
  · exact Or.inl number
  · have other : isNumber word = false := by simpa using number
    refine Or.inr ⟨other, ?_⟩
    have smalls := isWord.smalls other
    match word, isWord.1 with
    | [c], _ => exact Or.inl (smalls c (List.mem_cons_self ..))
    | c :: d :: rest, _ => exact Or.inr ⟨rfl, c, d, rest, rfl⟩

/-- The words with those joined that stick to the next one. -/
def glue (sticks : List Char → List Char → Bool) : List (List Char) → List (List Char)
  | [] => []
  | [word] => [word]
  | word :: next :: words =>
    match glue sticks (next :: words) with
    | [] => [word]
    | first :: others =>
      if sticks word next then (word ++ first) :: others else word :: first :: others

variable {sticks : List Char → List Char → Bool}

/-- The first word of what is glued starts with the first word. -/
theorem glue_cons (sticks : List Char → List Char → Bool) (word : List Char)
    (words : List (List Char)) :
    ∃ more others, glue sticks (word :: words) = (word ++ more) :: others := by
  cases words with
  | nil => exact ⟨[], [], by simp [glue]⟩
  | cons next words =>
    obtain ⟨more, others, later⟩ := glue_cons sticks next words
    by_cases joined : sticks word next = true
    · exact ⟨next ++ more, others, by simp [glue, later, joined]⟩
    · exact ⟨[], (next ++ more) :: others, by simp [glue, later, joined]⟩

theorem glue_of_sticks {word next first : List Char} {words others : List (List Char)}
    (joined : sticks word next = true) (later : glue sticks (next :: words) = first :: others) :
    glue sticks (word :: next :: words) = (word ++ first) :: others := by
  simp only [glue, later, joined, if_true]

theorem glue_of_not_sticks {word next : List Char} {words : List (List Char)}
    (apart : sticks word next = false) :
    glue sticks (word :: next :: words) = word :: glue sticks (next :: words) := by
  obtain ⟨more, others, later⟩ := glue_cons sticks next words
  simp [glue, later, apart]

theorem glue_of_false (words : List (List Char)) : glue (fun _ _ => false) words = words := by
  induction words with
  | nil => rfl
  | cons word words ih =>
    cases words with
    | nil => rfl
    | cons next words => rw [glue_of_not_sticks rfl, ih]

/-- Where more words may stick together, the same are glued exactly when no more do. -/
theorem glue_eq_glue_iff {sticksToo : List Char → List Char → Bool} {words : List (List Char)}
    (fewer : ∀ word next, sticks word next = true → sticksToo word next = true) (filled : ∀ word ∈ words, word ≠ []) :
    glue sticksToo words = glue sticks words ↔
      words.IsChain fun word next => sticksToo word next = sticks word next := by
  induction words with
  | nil => simp [glue]
  | cons word words ih =>
    cases words with
    | nil => simp [glue]
    | cons next words =>
      have filledLater := (List.forall_mem_cons.mp filled).2
      have same := ih filledLater
      obtain ⟨more, others, later⟩ := glue_cons sticks next words
      obtain ⟨moreToo, othersToo, laterToo⟩ := glue_cons sticksToo next words
      rw [List.isChain_cons_cons, ← same]
      by_cases joined : sticks word next = true
      · have joinedToo := fewer word next joined
        rw [glue_of_sticks joined later, glue_of_sticks joinedToo laterToo, later, laterToo]
        simp [joined, joinedToo]
      · have apart : sticks word next = false := by simpa using joined
        by_cases joinedToo : sticksToo word next = true
        · rw [glue_of_not_sticks apart, glue_of_sticks joinedToo laterToo]
          simp [filledLater, apart, joinedToo]
        · have apartToo : sticksToo word next = false := by simpa using joinedToo
          rw [glue_of_not_sticks apart, glue_of_not_sticks apartToo]
          simp [apart, apartToo]

/-- Words stay as they are exactly when no two stick together. -/
theorem glue_eq_self_iff {words : List (List Char)} (filled : ∀ word ∈ words, word ≠ []) :
    glue sticks words = words ↔ words.IsChain fun word next => sticks word next = false := by
  have same := @glue_eq_glue_iff (fun _ _ => false) sticks words (by simp) filled
  rwa [glue_of_false] at same

/-- Single letters stick together, and numbers do. -/
def sticksRead (word next : List Char) : Bool :=
  isLetter word && isLetter next || isNumber word && isNumber next

@[simp] theorem pascalChars_cons (word : List Char) (words : List (List Char)) :
    pascalChars (word :: words) = capitalize word ++ pascalChars words := rfl

/-- What follows a word in such a name never starts with a small letter. -/
theorem head_pascalChars {words : List (List Char)} (areWords : ∀ word ∈ words, IsWord word) :
    ∀ c ∈ (pascalChars words).head?, c.isLower = false := by
  cases words with
  | nil => simp [pascalChars]
  | cons word words =>
    have isWord := areWords word (List.mem_cons_self ..)
    cases word with
    | nil => exact absurd rfl isWord.1
    | cons first more =>
      intro c head
      obtain rfl : first.toUpper = c := by simpa [capitalize] using head
      simp

theorem IsWord.isRow_capitalize {word : List Char} (isWord : IsWord word) : IsRow (capitalize word) := by
  by_cases number : isNumber word = true
  · rw [capitalize_of_isNumber number]
    exact isWord.isRow
  · have smalls := isWord.smalls (by simpa using number)
    obtain ⟨c, more, rfl⟩ := List.exists_cons_of_ne_nil isWord.1
    obtain ⟨small, later⟩ := List.forall_mem_cons.mp smalls
    obtain ⟨-, chain⟩ := List.isChain_cons.mp isWord.isRow.chain
    have capital := isUpper_toUpper_of_isLower small
    refine ⟨List.cons_ne_nil _ _, List.forall_mem_cons.mpr ⟨?_, ?_⟩, List.isChain_cons.mpr ⟨?_, chain⟩⟩
    · simp [Char.isAlphanum, Char.isAlpha, capital]
    · exact fun d member => isWord.isAlphanum d (List.mem_cons_of_mem _ member)
    · exact fun d head => .inl ⟨capital, later d (List.mem_of_mem_head? head)⟩

/-- How a word ends in such a name: a number with a digit, a single letter with a capital, any other with a small
letter. -/
def EndsIn (word : List Char) (c : Char) : Prop :=
  isNumber word = true ∧ c.isDigit = true ∨
    isNumber word = false ∧ c.isAlpha = true ∧ (isLetter word = true ↔ c.isUpper = true)

/-- How a name goes on with a word: with a digit or a capital, and with a single letter before no small one. -/
def StartsWith (word : List Char) (d : Char) (after : List Char) : Prop :=
  isNumber word = true ∧ d.isDigit = true ∨
    isNumber word = false ∧ d.isUpper = true ∧ (isLetter word = true ↔ ∀ e ∈ after.head?, e.isLower = false)

theorem IsWord.endsIn {word : List Char} (isWord : IsWord word) {c : Char} (last : c ∈ (capitalize word).getLast?) :
    EndsIn word c := by
  rcases isWord.cases with number | ⟨other, letter | ⟨long, a, b, more, rfl⟩⟩
  · rw [capitalize_of_isNumber number] at last
    exact .inl ⟨number, isNumber_iff.mp number c (List.mem_of_mem_getLast? last)⟩
  · obtain ⟨a, rfl, small⟩ := isLetter_iff.mp letter
    obtain rfl : a.toUpper = c := by simpa [capitalize] using last
    have capital := isUpper_toUpper_of_isLower small
    exact .inr ⟨other, by simp [Char.isAlpha, capital], iff_of_true letter capital⟩
  · rw [capitalize, List.getLast?_cons_cons] at last
    have small := isWord.smalls other c (List.mem_cons_of_mem _ (List.mem_of_mem_getLast? last))
    exact .inr ⟨other, by simp [Char.isAlpha, small], iff_of_false (by simp [long]) (Char.not_isUpper_of_isLower small)⟩

theorem exists_startsWith {word : List Char} {words : List (List Char)}
    (areWords : ∀ other ∈ word :: words, IsWord other) :
    ∃ d after, pascalChars (word :: words) = d :: after ∧ d.isAlphanum = true ∧ StartsWith word d after := by
  obtain ⟨isWord, areLater⟩ := List.forall_mem_cons.mp areWords
  obtain ⟨c, more, rfl⟩ := List.exists_cons_of_ne_nil isWord.1
  refine ⟨c.toUpper, more ++ pascalChars words, rfl, isWord.isRow_capitalize.kept _ (List.mem_cons_self ..), ?_⟩
  by_cases number : isNumber (c :: more) = true
  · have digit := isNumber_iff.mp number c List.mem_cons_self
    exact .inl ⟨number, by rwa [toUpper_of_isDigit digit]⟩
  · have other : isNumber (c :: more) = false := by simpa using number
    have smalls := isWord.smalls other
    refine .inr ⟨other, isUpper_toUpper_of_isLower (smalls c List.mem_cons_self), ?_⟩
    cases more with
    | nil => exact iff_of_true (smalls c (by simp)) (head_pascalChars areLater)
    | cons b more => simp [isLetter, smalls b (by simp)]

/-- A word ends in such a name exactly where two words do not stick. -/
theorem parted_iff {word next after : List Char} {c d : Char} (ends : EndsIn word c)
    (starts : StartsWith next d after) :
    Parted c d after ↔ sticksRead word next = false := by
  have single := @isLetter_of_isNumber
  have kinds (a : Char) := @isAlphanum_cases a
  simp only [EndsIn, StartsWith, Parted, sticksRead, Char.isAlphanum, Char.isAlpha] at *
  grind

/-- A name in capitals is read as its words, with rows of letters and rows of numbers as one word. -/
theorem splitChars_pascalChars {words : List (List Char)} (areWords : ∀ word ∈ words, IsWord word) :
    splitChars (pascalChars words) = glue sticksRead words := by
  induction words with
  | nil => rfl
  | cons word words ih =>
    obtain ⟨isWord, areLater⟩ := List.forall_mem_cons.mp areWords
    have later := ih areLater
    have row := isWord.isRow_capitalize
    rw [pascalChars_cons]
    cases words with
    | nil =>
      rw [row.splitChars_append (by simp [pascalChars, EndsBefore]), later, isWord.map_toLower_capitalize]
      rfl
    | cons next words =>
      obtain ⟨d, after, shape, kept, starts⟩ := exists_startsWith areLater
      rw [shape] at later ⊢
      by_cases joined : sticksRead word next = true
      · obtain ⟨more, others, glued⟩ := glue_cons sticksRead next words
        rw [row.splitChars_append_of_not_parted kept ?_ (later.trans glued), isWord.map_toLower_capitalize,
          glue_of_sticks joined glued]
        intro c last
        rw [parted_iff (isWord.endsIn last) starts, joined]
        exact Bool.noConfusion
      · rw [row.splitChars_append, later, isWord.map_toLower_capitalize, glue_of_not_sticks (by simpa using joined)]
        rintro c last e ⟨rfl⟩ -
        exact (parted_iff (isWord.endsIn last) starts).mpr (by simpa using joined)

end Prism.Words
