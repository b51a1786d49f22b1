import Prism.Proofs.Words.Basic

namespace Prism.Words

/-- The number of the word that holds a character, when the characters of all words are counted in one row. -/
def holder : List (List Char) → Nat → Nat
  | [], _ => 0
  | word :: words, i => if i < word.length then 0 else holder words (i - word.length) + 1

/-- The letters and digits of a text, in small letters, in words that end exactly between neighbours that do not touch
or are parted. -/
structure IsDivision (text : List Char) (words : List (List Char)) : Prop where
  flatten : words.flatten = (text.filter Char.isAlphanum).map Char.toLower
  uniform : ∀ word ∈ words, word ≠ [] ∧ ((∀ c ∈ word, c.isAlpha = true) ∨ ∀ c ∈ word, c.isDigit = true)
  ends : ∀ (before gap after : List Char) (c d : Char), text = before ++ c :: (gap ++ d :: after) →
    c.isAlphanum = true → d.isAlphanum = true → (∀ e ∈ gap, e.isAlphanum = false) →
      (holder words (before.countP Char.isAlphanum) ≠ holder words (before.countP Char.isAlphanum + 1) ↔
        gap ≠ [] ∨ Parted c d after)

theorem flatten_splitChars (text : List Char) :
    (splitChars text).flatten = (text.filter Char.isAlphanum).map Char.toLower := by
  induction text with
  | nil => rfl
  | cons c rest ih =>
    rcases splitChars_cons c rest with ⟨other, same⟩ | ⟨kept, -, alone⟩ |
      ⟨kept, d, after, more, others, -, -, -, later, longer⟩
    · rw [same, ih, List.filter_cons_of_neg (by simp [other])]
    · rw [alone, List.flatten_cons, ih, List.filter_cons_of_pos kept]
      rfl
    · rw [longer, List.filter_cons_of_pos kept, List.map_cons, ← ih, later]
      rfl

/-- A letter or digit in front leaves the characters behind it in the words where they were. -/
theorem holder_splitChars_cons {c : Char} (rest : List Char) (kept : c.isAlphanum = true) (i j : Nat) :
    holder (splitChars (c :: rest)) (i + 1) = holder (splitChars (c :: rest)) (j + 1) ↔
      holder (splitChars rest) i = holder (splitChars rest) j := by
  rcases splitChars_cons c rest with ⟨other, -⟩ | ⟨-, -, alone⟩ |
    ⟨-, d, after, more, others, -, -, -, later, longer⟩
  · simp [other] at kept
  · simp [alone, holder]
  · simp [later, longer, holder]

theorem holder_splitChars_first {c d : Char} {gap after : List Char} (kept : c.isAlphanum = true)
    (next : d.isAlphanum = true) (between : ∀ e ∈ gap, e.isAlphanum = false) :
    holder (splitChars (c :: (gap ++ d :: after))) 0 ≠ holder (splitChars (c :: (gap ++ d :: after))) 1 ↔
      gap ≠ [] ∨ Parted c d after := by
  cases gap with
  | nil =>
    rw [List.nil_append]
    by_cases parted : Parted c d after
    · rw [splitChars_of_endsBefore kept (by simp [EndsBefore, parted])]
      simp [holder, parted]
    · obtain ⟨more, others, -, longer⟩ := splitChars_of_not_parted kept next parted
      simp [longer, holder, parted]
  | cons e gap =>
    have ends : EndsBefore c (e :: gap ++ d :: after) := by simp [EndsBefore, between e (List.mem_cons_self ..)]
    rw [splitChars_of_endsBefore kept ends]
    simp [holder]

theorem isDivision_splitChars (text : List Char) : IsDivision text (splitChars text) where
  flatten := flatten_splitChars text
  uniform word member := by
    obtain ⟨filled, kind⟩ := isWord_of_mem_splitChars member
    refine ⟨filled, kind.imp_left fun smalls c inside => ?_⟩
    simp [Char.isAlpha, smalls c inside]
  ends before gap after c d := by
    rintro rfl kept next between
    induction before with
    | nil => exact holder_splitChars_first kept next between
    | cons a before ih =>
      by_cases counts : a.isAlphanum = true
      · rw [List.countP_cons_of_pos counts, List.cons_append, ne_eq, holder_splitChars_cons _ counts]
        exact ih
      · rw [List.countP_cons_of_neg counts, List.cons_append,
          splitChars_separator _ (by simpa [IsSeparator] using counts)]
        exact ih

/-- A first word reaches at least as far as another, if that one ends where the first one ends. -/
theorem length_le_of_holder {word other : List Char} {words others : List (List Char)} (filled : word ≠ [])
    (same : (word :: words).flatten = (other :: others).flatten)
    (ends : ∀ i, i + 1 < (word :: words).flatten.length →
      holder (word :: words) i ≠ holder (word :: words) (i + 1) →
        holder (other :: others) i ≠ holder (other :: others) (i + 1)) : other.length ≤ word.length := by
  by_contra longer
  have positive := List.length_pos_of_ne_nil filled
  have lengths := congrArg List.length same
  simp only [List.flatten_cons, List.length_append] at lengths ends
  have differ := ends (word.length - 1) (by omega) (by simp [holder, positive, Nat.sub_add_cancel positive])
  rw [Nat.sub_add_cancel positive] at differ
  simp only [holder, if_pos (show word.length < other.length by omega),
    if_pos (show word.length - 1 < other.length by omega)] at differ
  exact differ rfl

theorem eq_of_holder {words others : List (List Char)} (filled : ∀ word ∈ words, word ≠ [])
    (filledToo : ∀ word ∈ others, word ≠ []) (same : words.flatten = others.flatten)
    (ends : ∀ i, i + 1 < words.flatten.length →
      (holder words i ≠ holder words (i + 1) ↔ holder others i ≠ holder others (i + 1))) : words = others := by
  induction words generalizing others with
  | nil =>
    cases others with
    | nil => rfl
    | cons other others => simp_all
  | cons word words ih =>
    cases others with
    | nil => simp_all
    | cons other others =>
      obtain ⟨first, later⟩ := List.forall_mem_cons.mp filled
      obtain ⟨firstToo, laterToo⟩ := List.forall_mem_cons.mp filledToo
      have lengths : word.length = other.length := by
        refine le_antisymm (length_le_of_holder firstToo same.symm fun i bound => ?_)
          (length_le_of_holder first same fun i bound => (ends i bound).mp)
        exact (ends i (same ▸ bound)).mpr
      obtain ⟨rfl, rests⟩ := List.append_inj same lengths
      refine congrArg _ (ih later laterToo rests fun i bound => ?_)
      have shifted := ends (word.length + i) (by rw [List.flatten_cons, List.length_append]; omega)
      simpa [holder, Nat.add_assoc] using shifted

/-- Every two neighbours among the letters and digits of a text stand somewhere in it. -/
theorem exists_neighbours {text : List Char} {i : Nat} (bound : i + 1 < (text.filter Char.isAlphanum).length) :
    ∃ before c gap d after, text = before ++ c :: (gap ++ d :: after) ∧ c.isAlphanum = true ∧ d.isAlphanum = true ∧
      (∀ e ∈ gap, e.isAlphanum = false) ∧ before.countP Char.isAlphanum = i := by
  generalize kept : text.filter Char.isAlphanum = row at bound
  have cut : row = row.take i ++ row[i] :: row[i + 1] :: row.drop (i + 2) := by simp
  rw [cut] at kept
  obtain ⟨front, rest, rfl, first, behind⟩ := List.filter_eq_append_iff.mp kept
  obtain ⟨skipped, later, rfl, none, here, behind⟩ := List.filter_eq_cons_iff.mp behind
  obtain ⟨gap, after, rfl, between, next, -⟩ := List.filter_eq_cons_iff.mp behind
  refine ⟨front ++ skipped, _, gap, _, after, (List.append_assoc ..).symm, here, next, by simpa using between, ?_⟩
  rw [List.countP_append, List.countP_eq_length_filter, first, List.countP_eq_zero.mpr none, List.length_take]
  omega

theorem IsDivision.unique {text : List Char} {words others : List (List Char)} (division : IsDivision text words)
    (another : IsDivision text others) : words = others := by
  refine eq_of_holder (fun word member => (division.uniform word member).1)
    (fun word member => (another.uniform word member).1) (division.flatten.trans another.flatten.symm) ?_
  intro i bound
  rw [division.flatten, List.length_map] at bound
  obtain ⟨before, c, gap, d, after, parts, kept, next, between, rfl⟩ := exists_neighbours bound
  rw [division.ends before gap after c d parts kept next between,
    another.ends before gap after c d parts kept next between]

/-- The words of a text are its one division: they hold its letters and digits in small letters, each has letters or
digits alone, and two neighbours stand in different words exactly when other characters stand between them, one is a
letter and the other a digit, a capital follows a small letter, or both are capitals and a small letter follows. -/
theorem split_eq_iff_isDivision (text : String) (words : List String) :
    split text = words ↔ IsDivision text.toList (words.map String.toList) := by
  have chars : split text = words ↔ splitChars text.toList = words.map String.toList := by
    constructor
    · rintro rfl
      simp [split, Function.comp_def]
    · intro same
      simp [split, same, Function.comp_def]
  rw [chars]
  constructor
  · exact fun same => same ▸ isDivision_splitChars text.toList
  · exact fun division => (isDivision_splitChars text.toList).unique division

example : split "parseHTTPBody2x" = ["parse", "http", "body", "2", "x"] := by cbv

end Prism.Words
