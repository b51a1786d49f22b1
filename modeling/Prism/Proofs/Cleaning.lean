import Mathlib
import Prism.View

namespace Prism

theorem Text.mem_replaceFrom {part other : List Char} {skip : Nat} {text : List Char} {c : Char}
    (member : c ∈ replaceFrom part other skip text) : c ∈ other ∨ c ∈ text := by
  fun_induction replaceFrom part other skip text with
  | case1 => exact Or.inr member
  | case2 skip d text ih => exact (ih member).imp_right (List.mem_cons_of_mem d)
  | case3 d text starts ih =>
    rcases List.mem_append.mp member with inside | behind
    · exact Or.inl inside
    · exact (ih behind).imp_right (List.mem_cons_of_mem d)
  | case4 d text other ih =>
    rcases List.mem_cons.mp member with rfl | behind
    · exact Or.inr List.mem_cons_self
    · exact (ih behind).imp_right (List.mem_cons_of_mem d)

namespace Prose

/-- The text with single spaces in place of its blanks. -/
def collapse (text : List Char) : List Char := spaced (Text.blankFields text)

theorem blankFields_eq_nil_iff {text : List Char} :
    Text.blankFields text = [] ↔ ∀ c ∈ text, Text.isBlank c = true := by
  fun_induction Text.blankFields text with
  | case1 => simp
  | case2 c rest blank ih => simp [blank, ih]
  | case3 c solid | case4 c solid => simp [solid]
  | case5 c solid d rest _ fields => simp [solid, fields]
  | case6 c solid d rest _ field others fields => simp [solid, fields]

/-- What a character does to the text behind it: a blank goes away, and any other stands in front, with a space behind
it where blanks follow and they are not the rest. -/
theorem collapse_cons (c : Char) (rest : List Char) :
    Text.isBlank c = true ∧ collapse (c :: rest) = collapse rest ∨
    Text.isBlank c = false ∧
      (collapse (c :: rest) = c :: collapse rest ∧
          ((∀ d ∈ rest.head?, Text.isBlank d = false) ∨ ∀ d ∈ rest, Text.isBlank d = true) ∨
        collapse (c :: rest) = c :: ' ' :: collapse rest ∧
          (∃ d ∈ rest.head?, Text.isBlank d = true) ∧ ¬∀ d ∈ rest, Text.isBlank d = true) := by
  rw [← blankFields_eq_nil_iff]
  unfold collapse
  rw [Text.blankFields.eq_def (c :: rest)]
  by_cases blank : Text.isBlank c = true
  · exact .inl ⟨blank, by simp only [blank, if_true]⟩
  · have solid : Text.isBlank c = false := by simpa using blank
    refine .inr ⟨solid, ?_⟩
    simp only [solid, Bool.false_eq_true, if_false]
    cases rest with
    | nil => simp [spaced, Text.blankFields]
    | cons d rest =>
      by_cases follows : Text.isBlank d = true
      · cases fields : Text.blankFields (d :: rest) with
        | nil => simp [follows, spaced]
        | cons field fields => simp [follows, spaced]
      · have next : Text.isBlank d = false := by simpa using follows
        simp only [next]
        cases Text.blankFields (d :: rest) with
        | nil => simp [next, spaced]
        | cons field fields => cases fields <;> simp [next, spaced]

theorem mem_collapse {text : List Char} {c : Char} (member : c ∈ collapse text) :
    c = ' ' ∨ c ∈ text ∧ Text.isBlank c = false := by
  induction text with
  | nil => exact absurd member List.not_mem_nil
  | cons d rest ih =>
    have later (inside : c ∈ collapse rest) := (ih inside).imp_right (And.imp_left (List.mem_cons_of_mem d))
    rcases collapse_cons d rest with ⟨-, same⟩ | ⟨solid, ⟨same, -⟩ | ⟨same, -⟩⟩
    · exact later (same ▸ member)
    · rw [same, List.mem_cons] at member
      rcases member with rfl | inside
      · exact .inr ⟨List.mem_cons_self, solid⟩
      · exact later inside
    · rw [same, List.mem_cons, List.mem_cons] at member
      rcases member with rfl | rfl | inside
      · exact .inr ⟨List.mem_cons_self, solid⟩
      · exact .inl rfl
      · exact later inside

/-- Blanks stand one at a time between other characters. -/
structure IsSpaced (text : List Char) : Prop where
  first : ∀ c ∈ text.head?, Text.isBlank c = false
  last : ∀ c ∈ text.getLast?, Text.isBlank c = false
  single : text.IsChain fun c d => ¬(Text.isBlank c = true ∧ Text.isBlank d = true)

theorem isSpaced_nil : IsSpaced [] := ⟨by simp, by simp, List.isChain_nil⟩

theorem IsSpaced.cons {c : Char} {rest : List Char} (isSpaced : IsSpaced rest) (other : Text.isBlank c = false) :
    IsSpaced (c :: rest) where
  first := by simpa using other
  last := by
    cases rest with
    | nil => simpa using other
    | cons d rest => simpa using isSpaced.last
  single := List.isChain_cons.mpr ⟨fun d _ both => by simp [other] at both, isSpaced.single⟩

/-- A blank in front of a text that is not empty, behind another character. -/
theorem IsSpaced.cons_cons {c d : Char} {rest : List Char} (isSpaced : IsSpaced rest)
    (other : Text.isBlank c = false) (filled : rest ≠ []) : IsSpaced (c :: d :: rest) where
  first := by simpa using other
  last := by
    obtain ⟨e, rest, rfl⟩ := List.exists_cons_of_ne_nil filled
    simpa using isSpaced.last
  single := by
    refine List.isChain_cons_cons.mpr ⟨fun both => by simp [other] at both, List.isChain_cons.mpr ⟨?_, isSpaced.single⟩⟩
    exact fun e head both => by simp [isSpaced.first e head] at both

theorem collapse_eq_nil_iff {text : List Char} : collapse text = [] ↔ ∀ c ∈ text, Text.isBlank c = true := by
  induction text with
  | nil => simp [collapse, Text.blankFields, spaced]
  | cons c rest ih =>
    rcases collapse_cons c rest with ⟨blank, same⟩ | ⟨solid, ⟨same, -⟩ | ⟨same, -⟩⟩
    · simp [same, ih, blank]
    · simp [same, solid]
    · simp [same, solid]

theorem isSpaced_collapse (text : List Char) : IsSpaced (collapse text) := by
  induction text with
  | nil => exact isSpaced_nil
  | cons c rest ih =>
    rcases collapse_cons c rest with ⟨-, same⟩ | ⟨solid, ⟨same, -⟩ | ⟨same, -, some⟩⟩
    · rwa [same]
    · rw [same]
      exact ih.cons solid
    · rw [same]
      exact ih.cons_cons solid (some ∘ collapse_eq_nil_iff.mp)

/-- Where blanks are single spaces, and none is at the end, only those in front are taken away. -/
theorem collapse_of_single {text : List Char} (last : ∀ c ∈ text.getLast?, Text.isBlank c = false)
    (single : text.IsChain fun c d => ¬(Text.isBlank c = true ∧ Text.isBlank d = true))
    (spaces : ∀ c ∈ text, Text.isBlank c = true → c = ' ') : collapse text = text.dropWhile Text.isBlank := by
  induction text with
  | nil => rfl
  | cons c rest ih =>
    obtain ⟨-, chain⟩ := List.isChain_cons.mp single
    obtain ⟨-, spacesLater⟩ := List.forall_mem_cons.mp spaces
    have lastLater : ∀ d ∈ rest.getLast?, Text.isBlank d = false := fun d inside =>
      last d (List.mem_getLast?_cons inside)
    have later := ih lastLater chain spacesLater
    rcases collapse_cons c rest with ⟨blank, same⟩ | ⟨solid, ⟨same, start⟩ | ⟨same, gap, -⟩⟩
    · simp [same, later, blank]
    · cases rest with
      | nil => simp [same, later, solid]
      | cons d rest =>
        have next : Text.isBlank d = false := by
          rcases start with next | blanks
          · exact next d rfl
          · have ends := List.getLast_mem (List.cons_ne_nil d rest)
            exact absurd (blanks _ ends) (by simp [lastLater _ (List.getLast_mem_getLast? _)])
        simp [same, later, solid, next]
    · obtain ⟨d, head, blank⟩ := gap
      obtain ⟨rest, rfl⟩ := List.head?_eq_some_iff.mp head
      obtain rfl := spacesLater d List.mem_cons_self blank
      cases rest with
      | nil => simp [same, later, solid, blank]
      | cons e rest =>
        have next : ¬Text.isBlank e = true := fun follows => (List.isChain_cons_cons.mp chain).1 ⟨blank, follows⟩
        simp [same, later, solid, blank, next]

theorem IsSpaced.collapse_eq {text : List Char} (isSpaced : IsSpaced text)
    (spaces : ∀ c ∈ text, Text.isBlank c = true → c = ' ') : collapse text = text := by
  rw [collapse_of_single isSpaced.last isSpaced.single spaces]
  cases text with
  | nil => rfl
  | cons c rest => simp [isSpaced.first c rfl]

/-- The text with a space in every end of a comment. -/
def opened (text : List Char) : List Char := Text.replaceFrom ['*', '/'] ['*', ' ', '/'] 0 text

theorem cleanChars_eq (text : List Char) : cleanChars text = (opened (collapse text)).map plainQuote := rfl

@[simp] theorem opened_singleton (c : Char) : opened [c] = [c] := by
  simp [opened, Text.replaceFrom, List.isPrefixOf]

theorem opened_mark (rest : List Char) : opened ('*' :: '/' :: rest) = '*' :: ' ' :: '/' :: opened rest := by
  simp [opened, Text.replaceFrom, List.isPrefixOf]

theorem opened_cons {c d : Char} (rest : List Char) (other : ¬(c = '*' ∧ d = '/')) :
    opened (c :: d :: rest) = c :: opened (d :: rest) := by
  rw [opened, Text.replaceFrom, if_neg]
  · rfl
  · intro mark
    obtain ⟨rfl, rfl⟩ : '*' = c ∧ '/' = d := by simpa [List.isPrefixOf] using mark
    exact other ⟨rfl, rfl⟩

theorem head?_opened (text : List Char) : (opened text).head? = text.head? := by
  induction text using List.twoStepInduction with
  | nil => rfl
  | singleton c => simp
  | cons_cons c d rest =>
    by_cases mark : c = '*' ∧ d = '/'
    · obtain ⟨rfl, rfl⟩ := mark
      rw [opened_mark]
      rfl
    · rw [opened_cons rest mark]
      rfl

theorem getLast?_opened (text : List Char) : (opened text).getLast? = text.getLast? := by
  induction text using List.twoStepInduction with
  | nil => rfl
  | singleton c => simp
  | cons_cons c d rest ih ihNext =>
    by_cases mark : c = '*' ∧ d = '/'
    · obtain ⟨rfl, rfl⟩ := mark
      rw [opened_mark, List.getLast?_cons_cons, List.getLast?_cons_cons, List.getLast?_cons, ih,
        List.getLast?_cons_cons, List.getLast?_cons]
    · rw [opened_cons rest mark, List.getLast?_cons, ihNext, List.getLast?_cons_cons, List.getLast?_cons]
      rfl

/-- The space that is put into the end of a comment stands alone, and parts the two marks. -/
theorem isChain_opened {text : List Char}
    (single : text.IsChain fun c d => ¬(Text.isBlank c = true ∧ Text.isBlank d = true)) :
    (opened text).IsChain fun c d => ¬(Text.isBlank c = true ∧ Text.isBlank d = true) ∧ ¬(c = '*' ∧ d = '/') := by
  induction text using List.twoStepInduction with
  | nil => exact List.isChain_nil
  | singleton c => simp
  | cons_cons c d rest ih ihNext =>
    obtain ⟨apart, later⟩ := List.isChain_cons_cons.mp single
    by_cases mark : c = '*' ∧ d = '/'
    · obtain ⟨rfl, rfl⟩ := mark
      rw [opened_mark]
      refine List.isChain_cons_cons.mpr ⟨by decide, List.isChain_cons_cons.mpr ⟨by decide, ?_⟩⟩
      exact List.isChain_cons.mpr ⟨fun e _ => ⟨fun both => absurd both.1 (by decide), by simp⟩, ih later.tail⟩
    · rw [opened_cons rest mark]
      refine List.isChain_cons.mpr ⟨fun e head => ?_, ihNext d later⟩
      obtain rfl : d = e := by simpa [head?_opened] using head
      exact ⟨apart, mark⟩

theorem opened_of_not_infix {text : List Char} (absent : ¬['*', '/'] <:+: text) : opened text = text := by
  induction text using List.twoStepInduction with
  | nil => rfl
  | singleton c => simp
  | cons_cons c d rest ih ihNext =>
    rw [opened_cons rest, ihNext d fun inside => absent (List.infix_cons inside)]
    rintro ⟨rfl, rfl⟩
    exact absent ⟨[], rest, rfl⟩

/-- One line, with blanks only as single spaces between other characters, without the quotation marks and ends of
comments that cleaning replaces. -/
structure IsNeat (text : List Char) : Prop extends IsSpaced text where
  line : ∀ c ∈ text, Text.endsLine c = false
  spaces : ∀ c ∈ text, Text.isBlank c = true → c = ' '
  quotes : '"' ∉ text ∧ '\x60' ∉ text
  comment : ¬['*', '/'] <:+: text

theorem isBlank_of_endsLine {c : Char} (ends : Text.endsLine c = true) : Text.isBlank c = true := by
  simp only [Text.endsLine, Text.isBlank, Bool.or_eq_true, Bool.and_eq_true, decide_eq_true_eq, beq_iff_eq] at ends ⊢
  omega

theorem isBlank_plainQuote (c : Char) : Text.isBlank (plainQuote c) = Text.isBlank c := by
  rw [plainQuote]
  split
  · next quote =>
    have cases : c = '"' ∨ c = '\x60' := by simpa using quote
    rcases cases with rfl | rfl <;> decide
  · rfl

theorem plainQuote_eq_iff {c d : Char} (other : d ≠ '\'') : plainQuote c = d ↔ c = d ∧ d ≠ '"' ∧ d ≠ '\x60' := by
  rw [plainQuote]
  split <;> grind

theorem mem_cleanChars {text : List Char} {c : Char} (member : c ∈ cleanChars text) :
    c ∈ ['\'', '*', ' ', '/'] ∨ c ∈ text ∧ Text.isBlank c = false := by
  obtain ⟨d, inside, rfl⟩ := List.mem_map.mp member
  rw [plainQuote]
  split
  · exact Or.inl List.mem_cons_self
  · rcases Text.mem_replaceFrom inside with other | kept
    · exact Or.inl (List.mem_cons_of_mem _ other)
    · exact (mem_collapse kept).imp_left fun space => by simp [space]

theorem notMem_cleanChars {c : Char} (other : c = '"' ∨ c = '\x60') (text : List Char) : c ∉ cleanChars text := by
  intro member
  obtain ⟨d, -, same⟩ := List.mem_map.mp member
  have differs : c ≠ '\'' := by rcases other with rfl | rfl <;> decide
  obtain ⟨-, double, back⟩ := (plainQuote_eq_iff differs).mp same
  exact other.elim double back

theorem spaces_cleanChars (text : List Char) : ∀ c ∈ cleanChars text, Text.isBlank c = true → c = ' ' := by
  intro c member blank
  rcases mem_cleanChars member with few | ⟨-, solid⟩
  · have known : (['\'', '*', ' ', '/'].all fun d => !Text.isBlank d || d = ' ') = true := by decide
    simpa [blank] using List.all_eq_true.mp known c few
  · simp [solid] at blank

/-- Apostrophes for quotation marks change nothing about blanks and comments. -/
theorem isChain_cleanChars (text : List Char) : (cleanChars text).IsChain fun c d =>
    ¬(Text.isBlank c = true ∧ Text.isBlank d = true) ∧ ¬(c = '*' ∧ d = '/') := by
  refine List.isChain_map_of_isChain plainQuote (fun c d parted => ?_) (isChain_opened (isSpaced_collapse text).single)
  rw [isBlank_plainQuote, isBlank_plainQuote, plainQuote_eq_iff (by decide), plainQuote_eq_iff (by decide)]
  exact ⟨parted.1, fun both => parted.2 ⟨both.1.1, both.2.1⟩⟩

theorem isNeat_cleanChars (text : List Char) : IsNeat (cleanChars text) where
  first := by
    rw [cleanChars_eq, List.head?_map, head?_opened]
    simpa [isBlank_plainQuote] using (isSpaced_collapse text).first
  last := by
    rw [cleanChars_eq, List.getLast?_map, getLast?_opened]
    simpa [isBlank_plainQuote] using (isSpaced_collapse text).last
  single := (isChain_cleanChars text).imp fun c d => And.left
  line c member := by
    by_contra other
    have ends : Text.endsLine c = true := by simpa using other
    obtain rfl := spaces_cleanChars text c member (isBlank_of_endsLine ends)
    exact absurd ends (by decide)
  spaces := spaces_cleanChars text
  quotes := ⟨notMem_cleanChars (.inl rfl) text, notMem_cleanChars (.inr rfl) text⟩
  comment inside := by
    have parted := List.IsChain.infix (isChain_cleanChars text) inside
    exact (List.isChain_pair.mp parted).2 ⟨rfl, rfl⟩

theorem IsNeat.cleanChars_eq {text : List Char} (isNeat : IsNeat text) : cleanChars text = text := by
  rw [Prose.cleanChars_eq, isNeat.collapse_eq isNeat.spaces, opened_of_not_infix isNeat.comment]
  refine (List.map_congr_left fun c member => ?_).trans (List.map_id text)
  have double : c ≠ '"' := fun same => isNeat.quotes.1 (same ▸ member)
  have back : c ≠ '\x60' := fun same => isNeat.quotes.2 (same ▸ member)
  simp [plainQuote, double, back]

@[simp] theorem toList_clean (text : String) : (clean text).toList = cleanChars text.toList := String.toList_ofList

/-- A cleaned text is in normal form, cleaning it again changes nothing, and no other texts are left as they are. -/
theorem clean_normal_form (text : String) :
    IsNeat (clean text).toList ∧ clean (clean text) = clean text ∧ (clean text = text ↔ IsNeat text.toList) := by
  have isNeat (text : String) : IsNeat (clean text).toList := by
    rw [toList_clean]
    exact isNeat_cleanChars text.toList
  have kept {text : String} (isNeat : IsNeat text.toList) : clean text = text := by
    rw [clean, isNeat.cleanChars_eq, String.ofList_toList]
  exact ⟨isNeat text, kept (isNeat text), fun same => same ▸ isNeat text, kept⟩

end Prose

end Prism
