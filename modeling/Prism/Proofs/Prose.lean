import Prism.Proofs.Cleaning

namespace Prism.Prose

/-- The marks between which templates place cleaned texts: apostrophes for roles, quotation marks and backticks for what
is shown, three quotation marks for descriptions. -/
inductive Delimiter where
  | apostrophe | quotation | backtick | tripleQuotation
  deriving DecidableEq, Repr

def Delimiter.chars : Delimiter → List Char
  | .apostrophe => ['\'']
  | .quotation => ['"']
  | .backtick => ['\x60']
  | .tripleQuotation => ['"', '"', '"']

/-- What is left of a text behind the first delimiter that no backslash escapes. -/
def afterClosing? (delimiter : List Char) : (escaped : Bool) → List Char → Option (List Char)
  | _, [] => none
  | true, _ :: rest => afterClosing? delimiter false rest
  | false, c :: rest =>
    if c = '\\' then afterClosing? delimiter true rest
    else if delimiter.isPrefixOf (c :: rest) then some ((c :: rest).drop delimiter.length)
    else afterClosing? delimiter false rest

/-- A literal that is opened before a text ends with the delimiter behind it, and no sooner or later. -/
def Encloses (delimiter : Delimiter) (text : List Char) : Prop :=
  afterClosing? delimiter.chars false (text ++ delimiter.chars) = some []

/-- The backslashes at the end of a text. -/
def backslashes (text : List Char) : Nat := (text.rtakeWhile (· = '\\')).length

/-- The marks that cleaning writes as apostrophes, and the apostrophe. -/
def IsQuote (c : Char) : Prop := c = '\'' ∨ c = '"' ∨ c = '\x60'

instance (c : Char) : Decidable (IsQuote c) := inferInstanceAs (Decidable (_ ∨ _))

/-- Whether the next character is escaped, and whether all quotation marks so far were. -/
structure Reading where
  escaped : Bool
  guarded : Bool

def Reading.step (reading : Reading) (c : Char) : Reading where
  escaped := !reading.escaped && c = '\\'
  guarded := reading.guarded && (reading.escaped || !decide (IsQuote c))

def read (text : List Char) (reading : Reading) : Reading := text.foldl Reading.step reading

@[simp] theorem read_nil (reading : Reading) : read [] reading = reading := rfl

@[simp] theorem read_cons (c : Char) (rest : List Char) (reading : Reading) :
    read (c :: rest) reading = read rest (reading.step c) := rfl

theorem read_append (text more : List Char) (reading : Reading) :
    read (text ++ more) reading = read more (read text reading) := List.foldl_append

/-- A character is escaped exactly when an odd number of backslashes stands before it. -/
theorem escaped_read (text : List Char) (guarded : Bool) :
    (read text ⟨false, guarded⟩).escaped = true ↔ Odd (backslashes text) := by
  induction text using List.reverseRecOn with
  | nil => simp [backslashes]
  | append_singleton text c ih =>
    rw [read_append]
    by_cases slash : c = '\\'
    · subst slash
      rw [backslashes, List.rtakeWhile_concat_pos _ _ _ (by simp), List.length_append, List.length_singleton,
        Nat.odd_add_one, ← backslashes, ← ih]
      simp [Reading.step]
    · rw [backslashes, List.rtakeWhile_concat_neg _ _ _ (by simpa using slash)]
      simp [Reading.step, slash]

/-- All quotation marks of a text are escaped exactly when each has an odd number of backslashes before it. -/
theorem guarded_read (text : List Char) : (read text ⟨false, true⟩).guarded = true ↔
    ∀ before c after, text = before ++ c :: after → IsQuote c → Odd (backslashes before) := by
  induction text using List.reverseRecOn with
  | nil => simp
  | append_singleton text c ih =>
    rw [read_append]
    simp only [read_cons, read_nil, Reading.step, Bool.and_eq_true, Bool.or_eq_true, Bool.not_eq_true',
      decide_eq_false_iff_not]
    rw [ih, escaped_read]
    constructor
    · rintro ⟨earlier, last⟩ before d after parts quote
      rcases List.eq_nil_or_concat' after with rfl | ⟨after, e, rfl⟩
      · obtain ⟨rfl, same⟩ := List.append_inj' parts rfl
        obtain rfl : c = d := by simpa using same
        exact last.resolve_right (not_not.mpr quote)
      · rw [← List.cons_append, ← List.append_assoc] at parts
        exact earlier before d after (List.append_inj' parts rfl).1 quote
    · intro all
      refine ⟨fun before d after parts quote => all before d (after ++ [c]) (by simp [parts]) quote, ?_⟩
      by_cases quote : IsQuote c
      · exact .inl (all text c [] rfl quote)
      · exact .inr quote

/-- A character that is neither quotation mark nor backslash ends an escape. -/
theorem step_of_plain {c : Char} (plain : ¬IsQuote c) (other : c ≠ '\\') (reading : Reading) :
    reading.step c = ⟨false, reading.guarded⟩ := by
  simp [Reading.step, plain, other]

theorem step_of_isBlank {c : Char} (blank : Text.isBlank c = true) (reading : Reading) :
    reading.step c = ⟨false, reading.guarded⟩ := by
  refine step_of_plain ?_ ?_ reading
  · rintro (rfl | rfl | rfl) <;> exact absurd blank (by decide)
  · rintro rfl
    exact absurd blank (by decide)

theorem read_map_plainQuote (text : List Char) (reading : Reading) :
    read (text.map plainQuote) reading = read text reading := by
  have same (reading : Reading) (c : Char) : reading.step (plainQuote c) = reading.step c := by
    by_cases quote : c = '"' ∨ c = '\x60'
    · rcases quote with rfl | rfl <;> simp [Reading.step, plainQuote, IsQuote]
    · simp only [not_or] at quote
      simp [plainQuote, quote]
  rw [read, List.foldl_map, read]
  exact congrArg (fun step => text.foldl step reading) (funext₂ same)

/-- A space more between an asterisk and a slash changes nothing. -/
theorem read_replaceFrom (skip : Nat) (text : List Char) (reading : Reading) :
    read (Text.replaceFrom ['*', '/'] ['*', ' ', '/'] skip text) reading = read (text.drop skip) reading := by
  induction text generalizing skip reading with
  | nil => simp [Text.replaceFrom]
  | cons c rest ih =>
    cases skip with
    | succ skip => simpa [Text.replaceFrom] using ih skip reading
    | zero =>
      rw [Text.replaceFrom]
      split
      · next mark =>
        obtain ⟨more, parts⟩ := List.isPrefixOf_iff_prefix.mp mark
        obtain ⟨rfl, rfl⟩ := List.cons.inj parts
        rw [read_append, List.length_cons, List.length_singleton, Nat.add_sub_cancel, ih]
        simp [step_of_plain, IsQuote]
      · simpa using ih 0 (reading.step c)

theorem rdropWhile_cons (test : Char → Bool) (c : Char) (rest : List Char) :
    (c :: rest).rdropWhile test =
      if rest.rdropWhile test = [] ∧ test c = true then [] else c :: rest.rdropWhile test := by
  simp only [List.rdropWhile, List.reverse_cons, List.dropWhile_append, List.reverse_eq_nil_iff]
  by_cases none : rest.reverse.dropWhile test = []
  · by_cases holds : test c = true <;> simp [none, holds]
  · simp [none]

/-- Blanks say nothing to a reader, but those at the end, which cleaning takes away. -/
theorem read_collapse (text : List Char) (reading : Reading)
    (fresh : reading.escaped = false ∨ ∀ c ∈ text.head?, Text.isBlank c = false) :
    read (collapse text) reading = read (text.rdropWhile Text.isBlank) reading := by
  induction text generalizing reading with
  | nil => rfl
  | cons c rest ih =>
    rcases collapse_cons c rest with ⟨blank, same⟩ | ⟨solid, ⟨same, start⟩ | ⟨same, ⟨d, head, blank⟩, some⟩⟩
    · have start : reading.escaped = false := fresh.resolve_right fun none => by simp [blank] at none
      have stays : reading.step c = reading := by rw [step_of_isBlank blank, ← start]
      rw [same, ih reading (.inl start), rdropWhile_cons]
      split
      · next none => rw [none.1]
      · rw [read_cons, stays]
    · rw [same, rdropWhile_cons, if_neg (by simp [solid]), read_cons, read_cons]
      rcases start with next | blanks
      · exact ih _ (.inr next)
      · rw [collapse_eq_nil_iff.mpr blanks, List.rdropWhile_eq_nil_iff.mpr blanks]
    · rw [same, rdropWhile_cons, if_neg (by simp [solid])]
      obtain ⟨more, rfl⟩ := List.head?_eq_some_iff.mp head
      have fills : (d :: more).rdropWhile Text.isBlank = d :: more.rdropWhile Text.isBlank := by
        rw [rdropWhile_cons, if_neg]
        rintro ⟨none, -⟩
        exact some (List.forall_mem_cons.mpr ⟨blank, List.rdropWhile_eq_nil_iff.mp none⟩)
      have later := ih ⟨false, (reading.step c).guarded⟩ (.inl rfl)
      rw [fills] at later ⊢
      simp only [read_cons, step_of_isBlank blank] at later ⊢
      rw [step_of_plain (by decide) (by decide), later]

theorem read_cleanChars (text : List Char) (guarded : Bool) :
    read (cleanChars text) ⟨false, guarded⟩ = read (text.rdropWhile Text.isBlank) ⟨false, guarded⟩ := by
  rw [cleanChars_eq, read_map_plainQuote, opened, read_replaceFrom, List.drop_zero, read_collapse text _ (.inl rfl)]

theorem guarded_read_of_isBlank {text : List Char} (blank : ∀ c ∈ text, Text.isBlank c = true) (reading : Reading) :
    (read text reading).guarded = reading.guarded := by
  induction text generalizing reading with
  | nil => rfl
  | cons c rest ih =>
    obtain ⟨here, later⟩ := List.forall_mem_cons.mp blank
    rw [read_cons, ih later, step_of_isBlank here]

theorem guarded_read_rdropWhile (text : List Char) (reading : Reading) :
    (read (text.rdropWhile Text.isBlank) reading).guarded = (read text reading).guarded := by
  have parts : text.rdropWhile Text.isBlank ++ text.rtakeWhile Text.isBlank = text :=
    List.rdropWhile_append_rtakeWhile
  have blank : ∀ c ∈ text.rtakeWhile Text.isBlank, Text.isBlank c = true := fun c => List.mem_rtakeWhile_imp
  rw [← guarded_read_of_isBlank blank (read (text.rdropWhile Text.isBlank) reading), ← read_append, parts]

/-- A delimiter that the text does not have in it closes the literal unless it is escaped. -/
theorem afterClosing?_of_notMem {delimiter : Delimiter} {text : List Char} (guarded : Bool)
    (absent : ∀ mark ∈ delimiter.chars, mark ∉ text) (escaped : Bool) :
    afterClosing? delimiter.chars escaped (text ++ delimiter.chars) = some [] ↔
      (read text ⟨escaped, guarded⟩).escaped = false := by
  induction text generalizing escaped guarded with
  | nil => cases delimiter <;> cases escaped <;> simp [Delimiter.chars, afterClosing?]
  | cons c rest ih =>
    have later : ∀ mark ∈ delimiter.chars, mark ∉ rest := fun mark inside member =>
      absent mark inside (List.mem_cons_of_mem _ member)
    have differs : delimiter.chars.isPrefixOf (c :: (rest ++ delimiter.chars)) = false := by
      obtain ⟨mark, more, shape⟩ : ∃ mark more, delimiter.chars = mark :: more := by
        cases delimiter <;> exact ⟨_, _, rfl⟩
      have other : mark ≠ c := fun same => absent mark (by simp [shape]) (by simp [same])
      simp [shape, List.isPrefixOf, other]
    rw [List.cons_append, read_cons, Reading.step]
    cases escaped with
    | true => simpa [afterClosing?] using ih _ later false
    | false =>
      by_cases slash : c = '\\'
      · simpa [afterClosing?, slash] using ih _ later true
      · simpa [afterClosing?, slash, differs] using ih _ later false

theorem guarded_read_of_not (text : List Char) (escaped : Bool) : (read text ⟨escaped, false⟩).guarded = false := by
  induction text generalizing escaped with
  | nil => rfl
  | cons c rest ih => exact ih _

/-- Apostrophes close a literal as soon as one in the text is not escaped. -/
theorem afterClosing?_apostrophe {text : List Char} (quotes : ∀ c ∈ text, IsQuote c → c = '\'') (escaped : Bool) :
    afterClosing? Delimiter.apostrophe.chars escaped (text ++ Delimiter.apostrophe.chars) = some [] ↔
      (read text ⟨escaped, true⟩).escaped = false ∧ (read text ⟨escaped, true⟩).guarded = true := by
  induction text generalizing escaped with
  | nil => cases escaped <;> simp [Delimiter.chars, afterClosing?]
  | cons c rest ih =>
    obtain ⟨here, later⟩ := List.forall_mem_cons.mp quotes
    rw [List.cons_append, read_cons, Reading.step]
    cases escaped with
    | true => simpa [afterClosing?] using ih later false
    | false =>
      by_cases slash : c = '\\'
      · subst slash
        simpa [afterClosing?, IsQuote] using ih later true
      · by_cases quote : IsQuote c
        · obtain rfl := here quote
          simp [afterClosing?, Delimiter.chars, quote, guarded_read_of_not]
        · have other : '\'' ≠ c := fun same => quote (.inl same.symm)
          simpa [afterClosing?, slash, quote, Delimiter.chars, other] using ih later false

/-- A literal with a cleaned text in it ends where it should exactly when the text, without the blanks at its end,
ends with an even number of backslashes, and, between apostrophes, each of its quotation marks of any kind has an
odd number of backslashes before it. -/
theorem clean_enclosed_iff (delimiter : Delimiter) (text : String) :
    Encloses delimiter (clean text).toList ↔
      Even (backslashes (text.toList.rdropWhile Text.isBlank)) ∧
        (delimiter = .apostrophe → ∀ before c after, text.toList = before ++ c :: after → IsQuote c →
          Odd (backslashes before)) := by
  rw [Encloses, clean, String.toList_ofList]
  have ending (guarded : Bool) : (read (cleanChars text.toList) ⟨false, guarded⟩).escaped = false ↔
      Even (backslashes (text.toList.rdropWhile Text.isBlank)) := by
    rw [read_cleanChars, ← Nat.not_odd_iff_even, ← escaped_read _ guarded, Bool.not_eq_true]
  by_cases single : delimiter = .apostrophe
  · subst single
    have quotes : ∀ c ∈ cleanChars text.toList, IsQuote c → c = '\'' := fun c member quote =>
      quote.resolve_right fun other => notMem_cleanChars other text.toList member
    rw [afterClosing?_apostrophe quotes, ending, read_cleanChars, guarded_read_rdropWhile, guarded_read, eq_self,
      true_imp_iff]
  · have absent : ∀ mark ∈ delimiter.chars, mark ∉ cleanChars text.toList := by
      intro mark member
      refine notMem_cleanChars ?_ _
      cases delimiter <;> simp_all [Delimiter.chars]
    rw [afterClosing?_of_notMem true absent, ending, and_iff_left fun same => absurd same single]

/-- A backslash at the end escapes the delimiter, and an apostrophe inside is one. -/
theorem clean_not_enclosed :
    ¬Encloses .tripleQuotation (clean "Pay\\").toList ∧ ¬Encloses .apostrophe (clean "it's").toList := by
  simp only [Encloses, clean, String.toList_ofList]
  decide

end Prism.Prose
