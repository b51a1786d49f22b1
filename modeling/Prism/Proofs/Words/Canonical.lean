import Prism.Convention
import Prism.Proofs.Words.Casing

namespace Prism.Words

/-- No two words of a kind follow each other. -/
def Apart (kind : List Char → Bool) (words : List (List Char)) : Prop :=
  words.IsChain fun word next => (kind word && kind next) = false

instance (kind : List Char → Bool) (words : List (List Char)) : Decidable (Apart kind words) :=
  inferInstanceAs (Decidable (words.IsChain fun word next => (kind word && kind next) = false))

variable {kind : List Char → Bool}

theorem apart_cons_cons {word next : List Char} {words : List (List Char)} :
    Apart kind (word :: next :: words) ↔ (kind word && kind next) = false ∧ Apart kind (next :: words) :=
  List.isChain_cons_cons

theorem apart_cons_of_not {word : List Char} {words : List (List Char)} (other : kind word = false) :
    Apart kind (word :: words) ↔ Apart kind words := by
  cases words with
  | nil => simp [Apart]
  | cons next words => rw [apart_cons_cons, other, Bool.false_and, eq_self, true_and]

/-- The words with numbers that follow each other as one number. -/
def fused (words : List (List Char)) : List (List Char) :=
  glue (fun word next => isNumber word && isNumber next) words

theorem fused_cons_of_not_isNumber {word : List Char} {words : List (List Char)}
    (other : isNumber word = false) : fused (word :: words) = word :: fused words := by
  cases words with
  | nil => rfl
  | cons next words => exact glue_of_not_sticks (by rw [other, Bool.false_and])

theorem IsWord.isNumber_append {word more : List Char} (isWord : IsWord (word ++ more)) (filled : word ≠ [])
    (number : isNumber word = true) : isNumber (word ++ more) = true := by
  rcases isWord.2 with smalls | digits
  · obtain ⟨c, rest, rfl⟩ := List.exists_cons_of_ne_nil filled
    have small := smalls c (by simp)
    rw [not_isLower_of_isDigit (isNumber_iff.mp number c List.mem_cons_self)] at small
    exact absurd small Bool.false_ne_true
  · exact isNumber_iff.mpr digits

/-- Fused words are words, and have the same capitals. -/
theorem fused_spec {words : List (List Char)} (areWords : ∀ word ∈ words, IsWord word) :
    (∀ word ∈ fused words, IsWord word) ∧ pascalChars (fused words) = pascalChars words := by
  induction words with
  | nil => exact ⟨areWords, rfl⟩
  | cons word words ih =>
    obtain ⟨isWord, areLater⟩ := List.forall_mem_cons.mp areWords
    cases words with
    | nil => exact ⟨areWords, rfl⟩
    | cons next words =>
      obtain ⟨areFused, same⟩ := ih areLater
      by_cases both : (isNumber word && isNumber next) = true
      · obtain ⟨more, others, shape⟩ := glue_cons (fun word next => isNumber word && isNumber next) next words
        obtain ⟨one, two⟩ := Bool.and_eq_true_iff.mp both
        rw [fused, shape] at areFused same
        obtain ⟨isFirst, areOthers⟩ := List.forall_mem_cons.mp areFused
        have number := isFirst.isNumber_append (areLater next List.mem_cons_self).1 two
        have whole : isNumber (word ++ (next ++ more)) = true := by
          rw [isNumber, List.all_append, ← isNumber, ← isNumber, one, number, Bool.and_self]
        rw [fused, glue_of_sticks both shape]
        refine ⟨List.forall_mem_cons.mpr ⟨⟨by simp [isWord.1], .inr (isNumber_iff.mp whole)⟩, areOthers⟩, ?_⟩
        rw [pascalChars_cons word, ← same, pascalChars_cons, pascalChars_cons, capitalize_of_isNumber whole,
          capitalize_of_isNumber number, capitalize_of_isNumber one, List.append_assoc]
      · rw [fused, glue_of_not_sticks (by simpa using both), ← fused, pascalChars_cons, pascalChars_cons word, same]
        exact ⟨List.forall_mem_cons.mpr ⟨isWord, areFused⟩, rfl⟩

/-- Where all words of a kind stick together, and what is glued is of the kind only if its parts are, no two words of
the kind are left behind each other. -/
theorem apart_glue {sticks : List Char → List Char → Bool}
    (joins : ∀ word next, kind word = true → kind next = true → sticks word next = true)
    (parts : ∀ word more, word ≠ [] → more ≠ [] → kind (word ++ more) = true → kind word = true ∧ kind more = true)
    {words : List (List Char)} (filled : ∀ word ∈ words, word ≠ []) : Apart kind (glue sticks words) := by
  induction words with
  | nil => exact List.isChain_nil
  | cons word words ih =>
    obtain ⟨filledWord, filledLater⟩ := List.forall_mem_cons.mp filled
    have later := ih filledLater
    cases words with
    | nil => exact List.isChain_singleton word
    | cons next words =>
      have filledNext := filledLater next List.mem_cons_self
      obtain ⟨more, others, shape⟩ := glue_cons sticks next words
      rw [shape] at later
      by_cases joined : sticks word next = true
      · rw [glue_of_sticks joined shape]
        refine List.IsChain.imp_head (fun {other} apart => ?_) later
        have whole := parts word (next ++ more) filledWord (by simp [filledNext])
        grind
      · have split : sticks word next = false := by simpa using joined
        rw [glue_of_not_sticks split, shape, apart_cons_cons]
        refine ⟨?_, later⟩
        have front : kind (next ++ more) = true → kind next = true := by
          cases more with
          | nil => simp
          | cons c more => exact fun whole => (parts next _ filledNext (List.cons_ne_nil c more) whole).1
        have none := joins word next
        grind

theorem apart_fused {words : List (List Char)} (areWords : ∀ word ∈ words, IsWord word) :
    Apart isNumber (fused words) := by
  refine apart_glue (by simp +contextual) (fun word more _ _ whole => ?_) fun word member => (areWords word member).1
  simpa [isNumber, or_imp, forall_and] using whole

/-- Letters that stick together are more than one letter. -/
theorem apart_isLetter_glue {words : List (List Char)} (areWords : ∀ word ∈ words, IsWord word) :
    Apart isLetter (glue sticksRead words) := by
  refine apart_glue (fun word next one two => ?_) (fun word more some someMore whole => ?_)
    fun word member => (areWords word member).1
  · rw [sticksRead, one, two]
    rfl
  · obtain ⟨c, single, -⟩ := isLetter_iff.mp whole
    rcases List.append_eq_singleton_iff.mp single with ⟨none, -⟩ | ⟨-, none⟩
    · exact absurd none some
    · exact absurd none someMore

/-- Where no letters follow each other, only numbers stick together when a name is read. -/
theorem glue_sticksRead_eq_fused_iff {words : List (List Char)} (areWords : ∀ word ∈ words, IsWord word) :
    glue sticksRead words = fused words ↔ Apart isLetter words := by
  rw [fused, glue_eq_glue_iff (fun word next both => by rw [sticksRead, both, Bool.or_true]) fun word member =>
    (areWords word member).1]
  refine List.IsChain.iff fun word next => ?_
  have single := @isLetter_of_isNumber word
  rw [sticksRead]
  grind

/-- Two neighbours that stand in one word of a name with capitals, when its numbers are apart. -/
def staysInWord (c d : Char) : Bool := d.isLower || c.isDigit && d.isDigit

theorem Joined.staysInWord {c d : Char} (joined : Joined c d) : staysInWord c d = true := by
  rcases joined with ⟨-, small⟩ | ⟨-, small⟩ | ⟨digit, next⟩
  · simp [Words.staysInWord, small]
  · simp [Words.staysInWord, small]
  · simp [Words.staysInWord, digit, next]

theorem not_staysInWord {word next : List Char} (isWord : IsWord word) (isNext : IsWord next)
    (apart : (isNumber word && isNumber next) = false) :
    ∃ filled filledNext,
      staysInWord ((capitalize word).getLast filled) ((capitalize next).head filledNext) = false := by
  refine ⟨isWord.isRow_capitalize.filled, isNext.isRow_capitalize.filled, ?_⟩
  have ends := isWord.endsIn (List.getLast_mem_getLast? isWord.isRow_capitalize.filled)
  obtain ⟨d, after, shape, -, starts⟩ := @exists_startsWith next [] (by simpa using isNext)
  have first : capitalize next = d :: after := by simpa [pascalChars] using shape
  have kinds (a : Char) := @isAlphanum_cases a
  simp only [first, List.head_cons]
  simp only [EndsIn, StartsWith, staysInWord, Char.isAlphanum, Char.isAlpha] at *
  grind

/-- The words can be cut from a name with capitals again when no numbers follow each other. -/
theorem splitBy_pascalChars {words : List (List Char)} (areWords : ∀ word ∈ words, IsWord word)
    (apart : Apart isNumber words) : (pascalChars words).splitBy staysInWord = words.map capitalize := by
  refine List.splitBy_flatten ?_ ?_ ((List.isChain_map _).mpr (apart.imp_of_mem_imp ?_))
  · intro member
    obtain ⟨word, inside, empty⟩ := List.mem_map.mp member
    exact (areWords word inside).isRow_capitalize.filled empty
  · refine List.forall_mem_map.mpr fun word member => ?_
    exact (areWords word member).isRow_capitalize.chain.imp fun c d => Joined.staysInWord
  · exact fun word next member memberToo => not_staysInWord (areWords word member) (areWords next memberToo)

/-- Words without numbers behind each other are told apart by their capitals. -/
theorem pascalChars_injective {words others : List (List Char)} (areWords : ∀ word ∈ words, IsWord word)
    (areOthers : ∀ word ∈ others, IsWord word) (apart : Apart isNumber words)
    (apartOthers : Apart isNumber others) (same : pascalChars words = pascalChars others) :
    words = others := by
  have small {words : List (List Char)} (areWords : ∀ word ∈ words, IsWord word) :
      (words.map capitalize).map (List.map Char.toLower) = words := by
    rw [List.map_map]
    exact (List.map_congr_left fun word member => (areWords word member).map_toLower_capitalize).trans (List.map_id _)
  rw [← small areWords, ← splitBy_pascalChars areWords apart, same, splitBy_pascalChars areOthers apartOthers,
    small areOthers]

/-- Capitals agree exactly when the words do, up to numbers that follow each other. -/
theorem pascalChars_eq_iff {words others : List (List Char)} (areWords : ∀ word ∈ words, IsWord word)
    (areOthers : ∀ word ∈ others, IsWord word) :
    pascalChars words = pascalChars others ↔ fused words = fused others := by
  obtain ⟨areFused, same⟩ := fused_spec areWords
  obtain ⟨areFusedOthers, sameOthers⟩ := fused_spec areOthers
  rw [← same, ← sameOthers]
  refine ⟨?_, congrArg pascalChars⟩
  exact pascalChars_injective areFused areFusedOthers (apart_fused areWords) (apart_fused areOthers)

theorem capitalize_camelChars {words : List (List Char)} (areWords : ∀ word ∈ words, IsWord word) :
    capitalize (camelChars words) = pascalChars words := by
  cases words with
  | nil => rfl
  | cons word words =>
    obtain ⟨c, rest, rfl⟩ := List.exists_cons_of_ne_nil (areWords word (List.mem_cons_self ..)).1
    rfl

theorem camelChars_of_isNumber {word : List Char} (words : List (List Char)) (number : isNumber word = true) :
    camelChars (word :: words) = pascalChars (word :: words) := by
  rw [camelChars, pascalChars_cons, capitalize_of_isNumber number]

theorem camelChars_fused {words : List (List Char)} (areWords : ∀ word ∈ words, IsWord word) :
    camelChars (fused words) = camelChars words := by
  cases words with
  | nil => rfl
  | cons word words =>
    have same := (fused_spec areWords).2
    obtain ⟨c, rest, rfl⟩ := List.exists_cons_of_ne_nil (areWords word List.mem_cons_self).1
    obtain ⟨more, others, shape⟩ := glue_cons (fun word next => isNumber word && isNumber next) (c :: rest) words
    rw [fused, shape] at same ⊢
    simpa [capitalize, camelChars] using same

theorem camelChars_eq_iff {words others : List (List Char)} (areWords : ∀ word ∈ words, IsWord word)
    (areOthers : ∀ word ∈ others, IsWord word) :
    camelChars words = camelChars others ↔ fused words = fused others := by
  constructor
  · intro same
    rw [← pascalChars_eq_iff areWords areOthers, ← capitalize_camelChars areWords, same,
      capitalize_camelChars areOthers]
  · intro same
    rw [← camelChars_fused areWords, same, camelChars_fused areOthers]

/-- A first word of letters is found again; behind it stands a name in capitals. -/
theorem splitChars_camelChars {word : List Char} {words : List (List Char)}
    (areWords : ∀ other ∈ word :: words, IsWord other) (other : isNumber word = false) :
    splitChars (camelChars (word :: words)) = word :: glue sticksRead words := by
  obtain ⟨isWord, areLater⟩ := List.forall_mem_cons.mp areWords
  rw [camelChars, isWord.isRow.splitChars_append, isWord.map_toLower, splitChars_pascalChars areLater]
  intro c last d head kept
  have small := isWord.smalls other c (List.mem_of_mem_getLast? last)
  rcases isAlphanum_cases kept with ⟨upper, -, -⟩ | ⟨-, lower, -⟩ | ⟨-, -, digit⟩
  · exact .inr (.inr (.inl ⟨small, upper⟩))
  · rw [head_pascalChars areLater d head] at lower
    exact absurd lower Bool.false_ne_true
  · exact .inl ⟨by simp [Char.isAlpha, small], digit⟩

theorem splitChars_camelChars_of_isNumber {word : List Char} {words : List (List Char)}
    (areWords : ∀ other ∈ word :: words, IsWord other) (number : isNumber word = true) :
    splitChars (camelChars (word :: words)) = glue sticksRead (word :: words) := by
  rw [camelChars_of_isNumber words number, splitChars_pascalChars areWords]

theorem apart_tail_splitChars_camelChars {words : List (List Char)}
    (areWords : ∀ word ∈ words, IsWord word) : Apart isLetter (splitChars (camelChars words)).tail := by
  cases words with
  | nil => exact List.isChain_nil
  | cons word words =>
    by_cases number : isNumber word = true
    · rw [splitChars_camelChars_of_isNumber areWords number]
      exact List.IsChain.tail (apart_isLetter_glue areWords)
    · rw [splitChars_camelChars areWords ((Bool.not_eq_true _).mp number)]
      exact apart_isLetter_glue fun other member => areWords other (List.mem_cons_of_mem _ member)

/-- Only numbers stick when a name is read again exactly when no letters follow each other behind its first word. -/
theorem splitChars_camelChars_eq_fused_iff {words : List (List Char)} (areWords : ∀ word ∈ words, IsWord word) :
    splitChars (camelChars words) = fused words ↔ Apart isLetter words.tail := by
  cases words with
  | nil => exact iff_of_true rfl List.isChain_nil
  | cons word words =>
    by_cases number : isNumber word = true
    · rw [splitChars_camelChars_of_isNumber areWords number, glue_sticksRead_eq_fused_iff areWords,
        apart_cons_of_not (isLetter_of_isNumber number), List.tail_cons]
    · have other := (Bool.not_eq_true _).mp number
      rw [splitChars_camelChars areWords other, fused_cons_of_not_isNumber other, List.cons.injEq, eq_self, true_and,
        glue_sticksRead_eq_fused_iff (List.forall_mem_cons.mp areWords).2, List.tail_cons]

/-- Two texts have the same canonical name exactly when they have the same words up to numbers that
follow each other. -/
theorem canonical_eq_iff {a b : String} :
    canonical a = canonical b ↔ fused (splitChars a.toList) = fused (splitChars b.toList) := by
  rw [canonical, canonical, ← String.toList_inj, toList_camel, toList_camel]
  exact camelChars_eq_iff (fun _ => isWord_of_mem_splitChars) fun _ => isWord_of_mem_splitChars

theorem pascal_eq_iff {a b : String} :
    pascal a = pascal b ↔ fused (splitChars a.toList) = fused (splitChars b.toList) := by
  rw [← String.toList_inj, toList_pascal, toList_pascal]
  exact pascalChars_eq_iff (fun _ => isWord_of_mem_splitChars) fun _ => isWord_of_mem_splitChars

theorem canonical_congr {a b : String} (same : splitChars a.toList = splitChars b.toList) :
    canonical a = canonical b := by
  rw [canonical_eq_iff, same]

/-- A canonical name is canonical itself when no letters follow each other behind its first word. -/
theorem canonical_camel {text : String} (apart : Apart isLetter (splitChars text.toList).tail) :
    canonical (camel text) = canonical text := by
  have areWords : ∀ word ∈ splitChars text.toList, IsWord word := fun _ => isWord_of_mem_splitChars
  rw [canonical, ← String.toList_inj, toList_camel, toList_camel,
    (splitChars_camelChars_eq_fused_iff areWords).mpr apart, camelChars_fused areWords, canonical, toList_camel]

/-- A name that has letters behind each other after its first word is read from no camel-cased name. -/
theorem apart_of_canonical_camel {a b : String} (same : canonical (camel a) = canonical b) :
    Apart isLetter (splitChars b.toList).tail := by
  have areWords (text : String) : ∀ word ∈ splitChars text.toList, IsWord word := fun _ => isWord_of_mem_splitChars
  have read : Apart isLetter (splitChars (camel a).toList).tail := by
    rw [toList_camel]
    exact apart_tail_splitChars_camelChars (areWords a)
  rw [← splitChars_camelChars_eq_fused_iff (areWords _)] at read ⊢
  rw [← canonical_eq_iff.mp same, ← read, ← toList_camel, ← toList_camel, ← canonical, ← canonical, same]

theorem canonical_camel_iff {text : String} :
    canonical (camel text) = canonical text ↔ Apart isLetter (splitChars text.toList).tail :=
  ⟨apart_of_canonical_camel, canonical_camel⟩

/-- Underscores keep all words apart, also with one more behind a reserved word. -/
theorem splitChars_identifier_of_snake {convention : Convention} (snakes : convention.casing = .snake)
    (text : String) : splitChars (convention.identifier text).toList = splitChars text.toList := by
  have areWords : ∀ word ∈ splitChars text.toList, IsWord word := fun _ => isWord_of_mem_splitChars
  have plain : splitChars (snake text).toList = splitChars text.toList := by
    rw [toList_snake, splitChars_joinChars isSeparator_underscore areWords]
  simp only [Convention.identifier, snakes]
  split
  · rw [String.toList_append, toList_snake, show "_".toList = ['_'] from rfl,
      splitChars_joinChars_append isSeparator_underscore areWords (by simpa using isSeparator_underscore),
      splitChars_separator [] isSeparator_underscore]
    simp [splitChars, segments, segmentsAfter]
  · exact plain

theorem identifier_of_camel {convention : Convention} (camels : convention.casing = .camel) (text : String) :
    convention.identifier text = canonical text := by
  simp only [Convention.identifier, camels, canonical]

/-- An identifier in a language has the canonical name of its text exactly when the language keeps
words apart or no letters follow each other behind the first word. -/
theorem canonical_identifier_iff {convention : Convention} {text : String} :
    canonical (convention.identifier text) = canonical text ↔
      (convention.casing = .camel → Apart isLetter (splitChars text.toList).tail) := by
  cases casing : convention.casing with
  | camel =>
    rw [identifier_of_camel casing, eq_self, true_imp_iff]
    exact canonical_camel_iff
  | snake =>
    have kept := canonical_congr (splitChars_identifier_of_snake casing text)
    simp [kept]

theorem underscore_notMem_camelChars {words : List (List Char)} (areWords : ∀ word ∈ words, IsWord word) :
    '_' ∉ camelChars words := by
  cases words with
  | nil => exact List.not_mem_nil
  | cons word words =>
    obtain ⟨isWord, areLater⟩ := List.forall_mem_cons.mp areWords
    rw [camelChars, List.mem_append, not_or]
    refine ⟨fun member => absurd (isWord.isAlphanum _ member) (by decide), fun member => ?_⟩
    obtain ⟨other, inside, here⟩ := List.mem_flatMap.mp member
    exact absurd ((areLater other inside).isRow_capitalize.kept _ here) (by decide)

/-- Words with an underscore between them are no camel-cased name, unless there is but one. -/
theorem joinChars_eq_camelChars {words others : List (List Char)} (areWords : ∀ word ∈ others, IsWord word)
    (same : joinChars '_' words = camelChars others) : joinChars '_' words = camelChars words := by
  match words with
  | [] => rfl
  | [word] => simp [joinChars, camelChars, pascalChars]
  | word :: next :: rest =>
    refine absurd ?_ (underscore_notMem_camelChars areWords)
    rw [← same]
    simp [joinChars]

/-- An identifier that is the canonical name of another text stands for a text of that name. -/
theorem canonical_of_identifier_eq {convention : Convention} {a b : String}
    (same : convention.identifier a = canonical b) : canonical a = canonical b := by
  have areWords : ∀ word ∈ splitChars b.toList, IsWord word := fun _ => isWord_of_mem_splitChars
  cases casing : convention.casing with
  | camel => exact (identifier_of_camel casing a).symm.trans same
  | snake =>
    simp only [Convention.identifier, casing] at same
    split at same
    · refine absurd ?_ (underscore_notMem_camelChars areWords)
      rw [← toList_camel, ← canonical, ← same]
      simp
    · rw [← same, canonical, ← String.toList_inj, toList_camel, toList_snake]
      refine (joinChars_eq_camelChars areWords ?_).symm
      rw [← toList_snake, same, canonical, toList_camel]

end Prism.Words
