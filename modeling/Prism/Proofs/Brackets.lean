import Prism.Proofs.Balance

namespace Prism

namespace Text

/-- The characters that end a line: the controls that move down or to a new page, the separators of files, groups and
records, and the line ends of Unicode. -/
def lineEnds : List Char :=
  ['\n', '\x0b', '\x0c', '\r', '\x1c', '\x1d', '\x1e', '\u0085', '\u2028', '\u2029']

theorem endsLine_iff {c : Char} : endsLine c = true ↔ c ∈ lineEnds := by
  constructor
  · intro ends
    have code : c.toNat ∈ [10, 11, 12, 13, 28, 29, 30, 0x85, 0x2028, 0x2029] := by
      simp only [endsLine, Bool.or_eq_true, Bool.and_eq_true, decide_eq_true_eq, beq_iff_eq] at ends
      simp only [List.mem_cons, List.not_mem_nil, or_false]
      omega
    have codes : lineEnds.map Char.toNat = [10, 11, 12, 13, 28, 29, 30, 0x85, 0x2028, 0x2029] := rfl
    rw [← codes] at code
    obtain ⟨other, member, same⟩ := List.mem_map.mp code
    rwa [← Char.toNat_inj.mp same]
  · have all : ∀ c ∈ lineEnds, endsLine c = true := by simp [lineEnds, endsLine]
    exact all c

/-- Whether a line ends with a character, with what follows it: a carriage return in front of a line feed leaves that
to the line feed. -/
def endsHere (c : Char) (rest : List Char) : Bool := c ∈ lineEnds && !(c = '\r' && rest.head? = some '\n')

theorem endsHere_of_endsLine {c : Char} (ends : endsLine c = true) (rest : List Char) :
    endsHere c rest = !(c = '\r' && rest.head? = some '\n') := by
  rw [endsHere, decide_eq_true (endsLine_iff.mp ends), Bool.true_and]

theorem not_endsHere {c : Char} (goes : endsLine c = false) (rest : List Char) : endsHere c rest = false := by
  have other : c ∉ lineEnds := fun member => absurd (endsLine_iff.mpr member) (by simp [goes])
  rw [endsHere, decide_eq_false other, Bool.false_and]

/-- The lines of a text, each with the characters that end it. -/
def lines : List Char → List (List Char)
  | [] => []
  | c :: rest =>
    if endsHere c rest then [c] :: lines rest
    else (c :: (lines rest).headD []) :: (lines rest).tail

/-- What follows the front of a text starts on the line of this number, counted from one. -/
def StandsOn (chars front : List Char) (n : Nat) : Prop :=
  ∃ before start finish after, lines chars = before ++ (start ++ finish) :: after ∧ finish ≠ [] ∧
    before.flatten ++ start = front ∧ before.length + 1 = n

theorem lines_of_endsHere {c : Char} {rest : List Char} (ends : endsHere c rest = true) :
    lines (c :: rest) = [c] :: lines rest := if_pos ends

theorem lines_of_not_endsHere {c : Char} {rest : List Char} (goes : endsHere c rest = false) :
    lines (c :: rest) = (c :: (lines rest).headD []) :: (lines rest).tail := if_neg (by simp [goes])

theorem lines_ne_nil {chars : List Char} (some : chars ≠ []) : lines chars ≠ [] := by
  cases chars with
  | nil => exact absurd rfl some
  | cons c rest =>
    rw [lines]
    split <;> exact List.cons_ne_nil _ _

/-- A character that ends no line leaves the number of lines behind it as it is. -/
theorem length_lines_of_not_endsHere {c : Char} {rest : List Char} (goes : endsHere c rest = false) (some : rest ≠ []) :
    (lines (c :: rest)).length = (lines rest).length := by
  have positive : 0 < (lines rest).length := List.length_pos_iff.mpr (lines_ne_nil some)
  rw [lines_of_not_endsHere goes, List.length_cons, List.length_tail]
  omega

theorem endsHere_append (c d : Char) (front rest : List Char) :
    endsHere c (front ++ d :: rest) = endsHere c (front ++ [d]) := by
  cases front <;> rfl

/-- A text has one more character in front of the place: the place keeps its line or comes one line later. -/
theorem StandsOn.cons {chars front : List Char} {n : Nat} (stands : StandsOn chars front n) (c : Char) :
    StandsOn (c :: chars) (c :: front) (if endsHere c chars then n + 1 else n) := by
  obtain ⟨before, start, finish, after, split, some, rfl, rfl⟩ := stands
  by_cases ends : endsHere c chars = true
  · refine ⟨[c] :: before, start, finish, after, ?_, some, rfl, ?_⟩
    · rw [lines_of_endsHere ends, split, List.cons_append]
    · rw [if_pos ends, List.length_cons]
  · rw [if_neg ends]
    have shape := lines_of_not_endsHere (Bool.not_eq_true _ ▸ ends)
    cases before with
    | nil => exact ⟨[], c :: start, finish, after, by rw [shape, split]; rfl, some, rfl, rfl⟩
    | cons line before =>
      exact ⟨(c :: line) :: before, start, finish, after, by rw [shape, split]; rfl, some, rfl, rfl⟩

/-- What stands in a text without ending a line stands on the last line of the text up to it. -/
theorem standsOn_length_lines {c : Char} (plain : endsLine c = false) (front rest : List Char) :
    StandsOn (front ++ c :: rest) front (lines (front ++ [c])).length := by
  induction front with
  | nil =>
    refine ⟨[], [], _, _, lines_of_not_endsHere (not_endsHere plain rest), List.cons_ne_nil _ _, rfl, ?_⟩
    rw [List.nil_append, lines_of_not_endsHere (not_endsHere plain [])]
    rfl
  | cons d front ih =>
    have stands := ih.cons d
    rw [endsHere_append] at stands
    rw [List.cons_append, List.cons_append]
    by_cases ends : endsHere d (front ++ [c]) = true
    · rwa [if_pos ends, ← List.length_cons, ← lines_of_endsHere ends] at stands
    · rwa [if_neg ends, ← length_lines_of_not_endsHere (Bool.not_eq_true _ ▸ ends) (by simp)] at stands

/-- A place stands on one line only: the lines up to an earlier one would end behind it. -/
theorem StandsOn.not_lt {chars front : List Char} {n m : Nat} (first : StandsOn chars front n)
    (second : StandsOn chars front m) : ¬ n < m := by
  obtain ⟨before, start, finish, after, split, some, place, rfl⟩ := first
  obtain ⟨later, start', finish', after', split', some', place', rfl⟩ := second
  intro shorter
  have inside : before ++ [start ++ finish] <+: later := by
    refine List.prefix_of_prefix_length_le ⟨after, ?_⟩ ⟨_, split'.symm⟩ ?_
    · rw [split, List.append_assoc, List.singleton_append]
    · rw [List.length_append, List.length_singleton]
      omega
  obtain ⟨more, rfl⟩ := inside
  have positive : 0 < finish.length := List.length_pos_iff.mpr some
  have lengths := congrArg List.length (place'.trans place.symm)
  simp only [List.flatten_append, List.flatten_cons, List.flatten_nil, List.append_nil, List.length_append] at lengths
  omega

theorem StandsOn.unique {chars front : List Char} {n m : Nat} (first : StandsOn chars front n)
    (second : StandsOn chars front m) : n = m :=
  Nat.le_antisymm (Nat.not_lt.mp (second.not_lt first)) (Nat.not_lt.mp (first.not_lt second))

end Text

namespace Brackets

/-- The opening brackets, each with the bracket that closes it. -/
def pairs : List (Char × Char) := [('(', ')'), ('[', ']'), ('\x7b', '\x7d')]

/-- The words of matched brackets. -/
inductive Matched : List Char → Prop
  | nil : Matched []
  | wrap {opener closer : Char} {inside after : List Char} (pair : (opener, closer) ∈ pairs) (within : Matched inside)
      (behind : Matched after) : Matched (opener :: inside ++ closer :: after)

/-- The words that leave brackets open, the last opened first: only matched words stand around these brackets. -/
inductive Leaves : List Char → List Char → Prop
  | nothing {word : List Char} (matched : Matched word) : Leaves [] word
  | more {opener closer : Char} {opened front inside : List Char} (pair : (opener, closer) ∈ pairs)
      (leaves : Leaves opened front) (matched : Matched inside) : Leaves (opener :: opened) (front ++ opener :: inside)

/-- The brackets of a text, without what stands between them. -/
def word (chars : List Char) : List Char := chars.filter (· ∈ signs)

/-- The front of a text is doomed when nothing that follows it makes its brackets match. -/
def IsDoomed (front : List Char) : Prop := ∀ rest, ¬ Matched (word (front ++ rest))

theorem read_opener {opener closer : Char} (pair : (opener, closer) ∈ pairs) (opened : List Char) :
    read (some opened) opener = some (opener :: opened) := by
  simp only [pairs, List.mem_cons, Prod.mk.injEq, List.not_mem_nil, or_false] at pair
  rcases pair with ⟨rfl, rfl⟩ | ⟨rfl, rfl⟩ | ⟨rfl, rfl⟩ <;> rfl

theorem read_closer {opener closer : Char} (pair : (opener, closer) ∈ pairs) (opened : List Char) :
    read (some (opener :: opened)) closer = some opened := by
  simp only [pairs, List.mem_cons, Prod.mk.injEq, List.not_mem_nil, or_false] at pair
  rcases pair with ⟨rfl, rfl⟩ | ⟨rfl, rfl⟩ | ⟨rfl, rfl⟩ <;> rfl

/-- A sign is an opening bracket or a closing one. -/
theorem pair_of_mem_signs {c : Char} (sign : c ∈ signs) :
    (∃ closer, (c, closer) ∈ pairs) ∨ ∃ opener, (opener, c) ∈ pairs ∧ isOpener c = false ∧ opener? c = some opener := by
  simp only [signs, List.mem_cons, List.not_mem_nil, or_false] at sign
  rcases sign with rfl | rfl | rfl | rfl | rfl | rfl
  · exact Or.inl ⟨')', by decide⟩
  · exact Or.inr ⟨'(', by decide, rfl, rfl⟩
  · exact Or.inl ⟨']', by decide⟩
  · exact Or.inr ⟨'[', by decide, rfl, rfl⟩
  · exact Or.inl ⟨'\x7d', by decide⟩
  · exact Or.inr ⟨'\x7b', by decide, rfl, rfl⟩

/-- What a character that gets through can do: nothing, open a bracket, or close the last one that was opened. -/
theorem read_cases {opened next : List Char} {c : Char} (reads : read (some opened) c = some next) :
    (c ∉ signs ∧ next = opened) ∨ (∃ closer, (c, closer) ∈ pairs ∧ next = c :: opened) ∨
      ∃ opener, (opener, c) ∈ pairs ∧ opened = opener :: next := by
  by_cases sign : c ∈ signs
  · rcases pair_of_mem_signs sign with ⟨closer, pair⟩ | ⟨opener, pair, closes, own⟩
    · rw [read_opener pair] at reads
      exact Or.inr (Or.inl ⟨closer, pair, (Option.some.inj reads).symm⟩)
    · simp only [read, closes, own, Bool.false_eq_true, if_false] at reads
      cases opened with
      | nil => exact absurd reads (by simp)
      | cons last others =>
        dsimp only at reads
        by_cases same : last = opener
        · rw [if_pos same] at reads
          rw [← Option.some.inj reads, same]
          exact Or.inr (Or.inr ⟨opener, pair, rfl⟩)
        · rw [if_neg same] at reads
          exact absurd reads (by simp)
  · rw [read_of_notMem sign] at reads
    exact Or.inl ⟨sign, (Option.some.inj reads).symm⟩

/-- Only a closing bracket stops a reader. -/
theorem closes_of_read_none {opened : List Char} {c : Char} (stops : read (some opened) c = none) :
    ∃ opener, (opener, c) ∈ pairs := by
  by_cases sign : c ∈ signs
  · rcases pair_of_mem_signs sign with ⟨closer, pair⟩ | ⟨opener, pair, _⟩
    · rw [read_opener pair] at stops
      exact nomatch stops
    · exact ⟨opener, pair⟩
  · rw [read_of_notMem sign] at stops
    exact nomatch stops

theorem mem_signs_of_pair {opener closer : Char} (pair : (opener, closer) ∈ pairs) :
    opener ∈ signs ∧ closer ∈ signs := by
  simp only [pairs, List.mem_cons, Prod.mk.injEq, List.not_mem_nil, or_false] at pair
  rcases pair with ⟨rfl, rfl⟩ | ⟨rfl, rfl⟩ | ⟨rfl, rfl⟩ <;> decide

theorem word_append (front rest : List Char) : word (front ++ rest) = word front ++ word rest := List.filter_append ..

theorem word_singleton_of_mem {c : Char} (sign : c ∈ signs) : word [c] = [c] := by
  simp [word, sign]

theorem word_singleton_of_notMem {c : Char} (plain : c ∉ signs) : word [c] = [] := by
  simp [word, plain]

/-- A reader notices only the brackets. -/
theorem foldl_read_word (chars : List Char) (state : Option (List Char)) :
    (word chars).foldl read state = chars.foldl read state := by
  rw [word, List.foldl_filter]
  congr 1
  funext state c
  by_cases sign : c ∈ signs
  · simp [sign]
  · cases state with
    | none => simp [sign, read]
    | some opened => simp [sign, read_of_notMem sign]

theorem Matched.append {front back : List Char} (first : Matched front) (second : Matched back) :
    Matched (front ++ back) := by
  induction first with
  | nil => exact second
  | @wrap opener closer inside after pair within _ _ ih =>
    have joined := Matched.wrap pair within ih
    rwa [List.append_assoc, List.cons_append]

theorem Matched.foldl_read {word : List Char} (matched : Matched word) (opened : List Char) :
    word.foldl read (some opened) = some opened := by
  induction matched generalizing opened with
  | nil => rfl
  | @wrap opener closer inside after pair within behind inner outer =>
    rw [List.cons_append, List.foldl_cons, read_opener pair, List.foldl_append, inner, List.foldl_cons,
      read_closer pair, outer]

theorem Leaves.append_matched {opened front inside : List Char} (leaves : Leaves opened front)
    (matched : Matched inside) : Leaves opened (front ++ inside) := by
  cases leaves with
  | nothing first => exact .nothing (first.append matched)
  | more pair leaves first =>
    rw [List.append_assoc, List.cons_append]
    exact .more pair leaves (first.append matched)

theorem Leaves.foldl_read {opened word : List Char} (leaves : Leaves opened word) :
    word.foldl read (some []) = some opened := by
  induction leaves with
  | nothing matched => exact matched.foldl_read []
  | more pair _ matched ih =>
    rw [List.foldl_append, ih, List.foldl_cons, read_opener pair, matched.foldl_read]

/-- A closing bracket turns the word behind the bracket that it closes into a matched one. -/
theorem Leaves.close {opener closer : Char} {opened word : List Char} (leaves : Leaves (opener :: opened) word)
    (pair : (opener, closer) ∈ pairs) : Leaves opened (word ++ [closer]) := by
  cases leaves with
  | more _ outer inner =>
    rw [List.append_assoc]
    exact outer.append_matched (.wrap pair inner .nil)

/-- What a reader has open at the end is what the brackets leave open. The induction is on the last character. -/
theorem leaves_of_foldl_read {chars opened : List Char} (reads : chars.foldl read (some []) = some opened) :
    Leaves opened (word chars) := by
  induction chars using List.reverseRecOn generalizing opened with
  | nil =>
    obtain rfl := Option.some.inj reads
    exact .nothing .nil
  | append_singleton front c ih =>
    rw [List.foldl_append, List.foldl_cons, List.foldl_nil] at reads
    cases first : front.foldl read (some []) with
    | none =>
      rw [first] at reads
      exact nomatch reads
    | some before =>
      rw [first] at reads
      have leaves := ih first
      rw [word_append]
      rcases read_cases reads with ⟨plain, rfl⟩ | ⟨closer, pair, rfl⟩ | ⟨opener, pair, rfl⟩
      · rwa [word_singleton_of_notMem plain, List.append_nil]
      · rw [word_singleton_of_mem (mem_signs_of_pair pair).1]
        exact .more pair leaves .nil
      · rw [word_singleton_of_mem (mem_signs_of_pair pair).2]
        exact leaves.close pair

theorem leaves_word_iff {chars opened : List Char} :
    Leaves opened (word chars) ↔ chars.foldl read (some []) = some opened := by
  refine ⟨fun leaves => ?_, leaves_of_foldl_read⟩
  rw [← foldl_read_word]
  exact leaves.foldl_read

theorem leaves_nil_iff {word : List Char} : Leaves [] word ↔ Matched word := by
  refine ⟨fun leaves => ?_, .nothing⟩
  cases leaves with
  | nothing matched => exact matched

theorem matched_word_iff {chars : List Char} : Matched (word chars) ↔ chars.foldl read (some []) = some [] := by
  rw [← leaves_word_iff, leaves_nil_iff]

/-- Whatever is open, closing it in turn leaves nothing open. -/
theorem Leaves.exists_closing {opened word : List Char} (leaves : Leaves opened word) :
    ∃ rest : List Char, rest.foldl read (some opened) = some [] := by
  induction leaves with
  | nothing _ => exact ⟨[], rfl⟩
  | @more opener closer _ _ _ pair _ _ ih =>
    obtain ⟨rest, closes⟩ := ih
    exact ⟨closer :: rest, by rwa [List.foldl_cons, read_closer pair]⟩

/-- A text is doomed exactly when a reader gets stuck on it. -/
theorem isDoomed_iff {front : List Char} : IsDoomed front ↔ front.foldl read (some []) = none := by
  constructor
  · intro doomed
    cases reads : front.foldl read (some []) with
    | none => rfl
    | some opened =>
      obtain ⟨rest, closes⟩ := (leaves_of_foldl_read reads).exists_closing
      refine absurd (matched_word_iff.mpr ?_) (doomed rest)
      rw [List.foldl_append, reads, closes]
  · intro stuck rest matched
    rw [matched_word_iff, List.foldl_append, stuck, foldl_read_none] at matched
    exact nomatch matched

/-- A reader that has these brackets open gets stuck on a character behind the front of a text. -/
def StuckAt (opened front : List Char) (c : Char) : Prop :=
  ∃ left, front.foldl read (some opened) = some left ∧ read (some left) c = none

theorem StuckAt.cons {opened next front : List Char} {c d : Char} (stuck : StuckAt next front c)
    (reads : read (some opened) d = some next) : StuckAt opened (d :: front) c := by
  obtain ⟨left, through, stops⟩ := stuck
  exact ⟨left, by rwa [List.foldl_cons, reads], stops⟩

/-- What a scan from a line tells: it gets through and tells what is open, or it gets stuck and tells where. -/
def Tells (line : Nat) (opened chars : List Char) (told : Option Problem) : Prop :=
  (∃ left, chars.foldl read (some opened) = some left ∧
    told = if left.isEmpty then none else some (.unclosed left.length)) ∨
  ∃ front c rest, chars = front ++ c :: rest ∧ StuckAt opened front c ∧
    ∃ n, told = some (.unbalanced c n) ∧ n + 1 = line + (Text.lines (front ++ [c])).length

/-- One more character in front, which gets through, keeps what is told; its line end is counted. -/
theorem Tells.cons {line : Nat} {opened next chars : List Char} {told : Option Problem} {d : Char}
    (reads : read (some opened) d = some next)
    (tells : Tells (if Text.endsHere d chars then line + 1 else line) next chars told) :
    Tells line opened (d :: chars) told := by
  rcases tells with ⟨left, through, same⟩ | ⟨front, c, rest, rfl, stuck, n, same, number⟩
  · exact Or.inl ⟨left, by rwa [List.foldl_cons, reads], same⟩
  · refine Or.inr ⟨d :: front, c, rest, rfl, stuck.cons reads, n, same, ?_⟩
    rw [Text.endsHere_append] at number
    by_cases ends : Text.endsHere d (front ++ [c]) = true
    · rw [if_pos ends] at number
      rw [List.cons_append, Text.lines_of_endsHere ends, List.length_cons]
      omega
    · rw [if_neg ends] at number
      rwa [List.cons_append, Text.length_lines_of_not_endsHere (Bool.not_eq_true _ ▸ ends) (by simp)]

/-- Within a line, the line stays. -/
theorem Tells.cons_within {line : Nat} {opened next chars : List Char} {told : Option Problem} {d : Char}
    (goes : Text.endsLine d = false) (reads : read (some opened) d = some next) (tells : Tells line next chars told) :
    Tells line opened (d :: chars) told := by
  refine .cons reads ?_
  rwa [Text.not_endsHere goes, if_neg Bool.false_ne_true]

theorem Tells.stuck {opened : List Char} {c : Char} (goes : Text.endsLine c = false)
    (stops : read (some opened) c = none) (line : Nat) (rest : List Char) :
    Tells line opened (c :: rest) (some (.unbalanced c line)) := by
  refine Or.inr ⟨[], c, rest, rfl, ⟨opened, rfl, stops⟩, line, rfl, ?_⟩
  rw [List.nil_append, Text.lines_of_not_endsHere (Text.not_endsHere goes [])]
  rfl

theorem tells_scan (line : Nat) (opened chars : List Char) : Tells line opened chars (scan line opened chars) := by
  fun_induction scan line opened chars with
  | case1 line opened empty => exact Or.inl ⟨opened, rfl, by rw [if_pos empty]⟩
  | case2 line opened some => exact Or.inl ⟨opened, rfl, by rw [if_neg some]⟩
  | case3 line opened rest ih =>
    -- the carriage return leaves the end of the line to the line feed
    exact .cons (read_of_notMem (by decide) opened) (.cons (read_of_notMem (by decide) opened) ih)
  | case4 line opened c rest apart ends ih =>
    refine .cons (read_of_notMem (notMem_signs_of_endsLine ends) opened) ?_
    have here : Text.endsHere c rest = true := by
      cases rest with
      | nil => simp [Text.endsHere_of_endsLine ends]
      | cons d rest =>
        simp only [Text.endsHere_of_endsLine ends, List.head?_cons, Option.some.injEq, Bool.not_eq_true',
          Bool.and_eq_false_imp, decide_eq_true_eq, decide_eq_false_iff_not]
        exact fun carriage feed => apart rest carriage (by rw [feed])
    rwa [if_pos here]
  | case5 line opened c rest _ goes opens ih =>
    exact .cons_within (Bool.not_eq_true _ ▸ goes) (by simp [read, opens]) ih
  | case6 line opened c rest _ goes opens closes ih =>
    exact .cons_within (Bool.not_eq_true _ ▸ goes) (by simp [read, opens, closes]) ih
  | case7 line c rest _ goes opens opener closes =>
    exact .stuck (Bool.not_eq_true _ ▸ goes) (by simp [read, opens, closes]) line rest
  | case8 line c rest _ goes opens last others closes ih =>
    exact .cons_within (Bool.not_eq_true _ ▸ goes) (by simp [read, opens, closes]) ih
  | case9 line c rest _ goes opens opener closes last others differs =>
    exact .stuck (Bool.not_eq_true _ ▸ goes) (by simp [read, opens, closes, differs]) line rest

/-- The shortest front of a text that is doomed. -/
structure IsShortestDoomed (chars front : List Char) : Prop where
  starts : front <+: chars
  doomed : IsDoomed front
  shortest : ∀ other, other <+: chars → IsDoomed other → front.length ≤ other.length

theorem IsDoomed.extended {front chars : List Char} (doomed : IsDoomed front) (starts : front <+: chars) :
    IsDoomed chars := by
  obtain ⟨rest, rfl⟩ := starts
  rw [isDoomed_iff] at doomed ⊢
  rw [List.foldl_append, doomed, foldl_read_none]

theorem isShortestDoomed_iff {chars front : List Char} {c : Char} :
    IsShortestDoomed chars (front ++ [c]) ↔ front ++ [c] <+: chars ∧ StuckAt [] front c := by
  constructor
  · intro first
    refine ⟨first.starts, ?_⟩
    have stuck := isDoomed_iff.mp first.doomed
    rw [List.foldl_append] at stuck
    cases reads : front.foldl read (some []) with
    | none =>
      have length := first.shortest front ((List.prefix_append front [c]).trans first.starts) (isDoomed_iff.mpr reads)
      rw [List.length_append, List.length_singleton] at length
      omega
    | some left => exact ⟨left, reads, by rwa [reads] at stuck⟩
  · rintro ⟨starts, left, reads, stops⟩
    refine ⟨starts, isDoomed_iff.mpr (by rw [List.foldl_append, reads]; exact stops), fun other inside doomed => ?_⟩
    by_contra shorter
    rw [List.length_append, List.length_singleton] at shorter
    have early := List.prefix_of_prefix_length_le inside ((List.prefix_append front [c]).trans starts) (by omega)
    exact absurd ((isDoomed_iff.mp (doomed.extended early)).symm.trans reads) (by simp)

theorem IsShortestDoomed.unique {chars front other : List Char} (first : IsShortestDoomed chars front)
    (second : IsShortestDoomed chars other) : front = other := by
  have le := first.shortest other second.starts second.doomed
  have ge := second.shortest front first.starts first.doomed
  exact (List.prefix_of_prefix_length_le first.starts second.starts le).eq_of_length (by omega)

theorem eq_of_message_unbalanced {front middle line line' : String} {bracket bracket' : Char}
    (same : front ++ String.singleton bracket ++ middle ++ line =
      front ++ String.singleton bracket' ++ middle ++ line') : bracket = bracket' ∧ line = line' := by
  have chars := congrArg String.toList same
  simp only [String.toList_append, String.toList_singleton, List.append_assoc, List.append_cancel_left_eq,
    List.cons_append, List.nil_append, List.cons.injEq] at chars
  exact ⟨chars.1, String.toList_inj.mp chars.2⟩

/-- A number starts with a digit, so the two messages differ. -/
theorem message_unbalanced_ne (bracket : Char) (line count : Nat) :
    Problem.message (.unbalanced bracket line) ≠ Problem.message (.unclosed count) := by
  intro same
  obtain ⟨c, rest, digits⟩ := List.exists_cons_of_ne_nil (Nat.toDigits_ne_nil : Nat.toDigits 10 count ≠ [])
  have digit : c.isDigit = true :=
    Nat.isDigit_of_mem_toDigits (by norm_num) (by norm_num) (digits ▸ List.mem_cons_self)
  have heads := congrArg (fun text => text.toList.head?) same
  simp [Problem.message, Nat.toList_repr, digits] at heads
  rw [← heads] at digit
  exact absurd digit (by decide)

theorem Problem.message_injective : Function.Injective Problem.message := by
  intro problem other same
  cases problem with
  | unbalanced bracket line =>
    cases other with
    | unbalanced bracket' line' =>
      obtain ⟨rfl, number⟩ := eq_of_message_unbalanced same
      rw [Nat.repr_inj.mp number]
    | unclosed count => exact absurd same (message_unbalanced_ne bracket line count)
  | unclosed count =>
    cases other with
    | unbalanced bracket line => exact absurd same.symm (message_unbalanced_ne bracket line count)
    | unclosed count' => rw [Nat.repr_inj.mp ((String.append_left_inj _).mp same)]

theorem problem?_message_iff {text : String} {problem : Problem} :
    (problem? text).map Problem.message = some problem.message ↔ problem? text = some problem := by
  rw [← Option.map_some]
  exact (Option.map_injective Problem.message_injective).eq_iff

variable {text : String}

/-- What a text is told: that it leaves brackets open or none, or the first bracket that dooms it. -/
theorem problem?_cases (text : String) :
    (∃ opened, Leaves opened (word text.toList) ∧
      problem? text = if opened.isEmpty then none else some (.unclosed opened.length)) ∨
    ∃ front c n, IsShortestDoomed text.toList (front ++ [c]) ∧ (∃ opener, (opener, c) ∈ pairs) ∧
      Text.StandsOn text.toList front n ∧ problem? text = some (.unbalanced c n) := by
  rcases tells_scan 1 [] text.toList with ⟨left, reads, told⟩ | ⟨front, c, rest, shape, stuck, n, told, number⟩
  · exact Or.inl ⟨left, leaves_word_iff.mpr reads, told⟩
  · have first : IsShortestDoomed text.toList (front ++ [c]) :=
      isShortestDoomed_iff.mpr ⟨⟨rest, by rw [shape, List.append_assoc, List.singleton_append]⟩, stuck⟩
    obtain ⟨left, _, stops⟩ := stuck
    obtain ⟨opener, pair⟩ := closes_of_read_none stops
    have goes : Text.endsLine c = false :=
      Bool.eq_false_iff.mpr fun ends => notMem_signs_of_endsLine ends (mem_signs_of_pair pair).2
    have stands := Text.standsOn_length_lines goes front rest
    rw [← shape, show (Text.lines (front ++ [c])).length = n by omega] at stands
    exact Or.inr ⟨front, c, n, first, ⟨opener, pair⟩, stands, told⟩

theorem not_leaves_of_isShortestDoomed {chars front opened : List Char} (first : IsShortestDoomed chars front) :
    ¬ Leaves opened (word chars) := by
  intro leaves
  have stuck := isDoomed_iff.mp (first.doomed.extended first.starts)
  exact absurd (stuck.symm.trans (leaves_word_iff.mp leaves)) (by simp)

theorem problem?_of_leaves {opened : List Char} (leaves : Leaves opened (word text.toList)) :
    problem? text = if opened.isEmpty then none else some (.unclosed opened.length) := by
  rcases problem?_cases text with ⟨left, same, told⟩ | ⟨front, c, n, first, _⟩
  · have one := (leaves_word_iff.mp leaves).symm.trans (leaves_word_iff.mp same)
    rw [Option.some.inj one, told]
  · exact absurd leaves (not_leaves_of_isShortestDoomed first)

theorem problem?_of_isShortestDoomed {front : List Char} {c : Char} {n : Nat}
    (first : IsShortestDoomed text.toList (front ++ [c])) (stands : Text.StandsOn text.toList front n) :
    problem? text = some (.unbalanced c n) := by
  rcases problem?_cases text with ⟨left, leaves, _⟩ | ⟨other, d, m, second, _, place, told⟩
  · exact absurd leaves (not_leaves_of_isShortestDoomed first)
  · obtain ⟨rfl, last⟩ := List.append_inj' (first.unique second) rfl
    rw [told, List.singleton_inj.mp last, stands.unique place]

theorem problem?_eq_none_iff : problem? text = none ↔ Matched (word text.toList) := by
  constructor
  · intro nothing
    rcases problem?_cases text with ⟨opened, leaves, told⟩ | ⟨front, c, n, _, _, _, told⟩
    · rw [nothing] at told
      split at told
      · next empty =>
        rw [List.isEmpty_iff.mp empty] at leaves
        exact leaves_nil_iff.mp leaves
      · exact nomatch told
    · exact nomatch nothing.symm.trans told
  · intro matched
    exact problem?_of_leaves (.nothing matched)

theorem problem?_eq_unbalanced_iff {c : Char} {n : Nat} : problem? text = some (.unbalanced c n) ↔
    ∃ front, IsShortestDoomed text.toList (front ++ [c]) ∧ (∃ opener, (opener, c) ∈ pairs) ∧
      Text.StandsOn text.toList front n := by
  constructor
  · intro stuck
    rcases problem?_cases text with ⟨opened, _, told⟩ | ⟨front, d, m, first, closes, stands, told⟩
    · rw [stuck] at told
      split at told <;> exact nomatch told
    · obtain ⟨rfl, rfl⟩ := Problem.unbalanced.inj (Option.some.inj (stuck.symm.trans told))
      exact ⟨front, first, closes, stands⟩
  · rintro ⟨front, first, _, stands⟩
    exact problem?_of_isShortestDoomed first stands

theorem problem?_eq_unclosed_iff {count : Nat} : problem? text = some (.unclosed count) ↔
    0 < count ∧ ∃ opened, opened.length = count ∧ Leaves opened (word text.toList) := by
  constructor
  · intro left
    rcases problem?_cases text with ⟨opened, leaves, told⟩ | ⟨front, c, n, _, _, _, told⟩
    · rw [left] at told
      split at told
      · exact nomatch told
      · next some =>
        obtain rfl := Problem.unclosed.inj (Option.some.inj told)
        exact ⟨List.length_pos_iff.mpr (by simpa using some), opened, rfl, leaves⟩
    · exact nomatch left.symm.trans told
  · rintro ⟨positive, opened, rfl, leaves⟩
    have some : ¬ opened.isEmpty = true := by simpa using List.length_pos_iff.mp positive
    rw [problem?_of_leaves leaves, if_neg some]

/-- What the check of brackets tells of a text. It finds no problem exactly when the brackets of the text are a word of
the grammar. It names a bracket and a line exactly when this closing bracket, on this line, ends the shortest front of
the text that nothing can complete. Otherwise it tells the number of brackets that are left open. -/
theorem problem_tells_matching (text : String) :
    ((problem? text).map Problem.message = none ↔ Matched (word text.toList)) ∧
    (∀ c n, (problem? text).map Problem.message =
        some ("unbalanced '" ++ String.singleton c ++ "' on line " ++ n.repr) ↔
      ∃ front, IsShortestDoomed text.toList (front ++ [c]) ∧ (∃ opener, (opener, c) ∈ pairs) ∧
        Text.StandsOn text.toList front n) ∧
    (∀ count, (problem? text).map Problem.message = some (count.repr ++ " unclosed bracket(s)") ↔
      0 < count ∧ ∃ opened, opened.length = count ∧ Leaves opened (word text.toList)) ∧
    (Matched (word text.toList) ∨ (∃ front, IsShortestDoomed text.toList front) ∨
      ∃ opened, 0 < opened.length ∧ Leaves opened (word text.toList)) := by
  refine ⟨Option.map_eq_none_iff.trans problem?_eq_none_iff,
    fun c n => (@problem?_message_iff text (.unbalanced c n)).trans problem?_eq_unbalanced_iff,
    fun count => (@problem?_message_iff text (.unclosed count)).trans problem?_eq_unclosed_iff, ?_⟩
  rcases problem?_cases text with ⟨opened, leaves, _⟩ | ⟨front, c, n, first, _⟩
  · cases opened with
    | nil => exact Or.inl (leaves_nil_iff.mp leaves)
    | cons last others => exact Or.inr (Or.inr ⟨last :: others, Nat.succ_pos _, leaves⟩)
  · exact Or.inr (Or.inl ⟨_, first⟩)

example : problem? "(a\r\n\x0b[]]" = some (.unbalanced ']' 3) := by decide

end Brackets

end Prism
