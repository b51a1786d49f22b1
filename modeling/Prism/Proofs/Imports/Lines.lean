import Prism.Proofs.Containment
import Prism.Proofs.Template

namespace Prism

namespace Imports

/-- What an import line starts with. -/
def keyword : List Char := ['i', 'm', 'p', 'o', 'r', 't', ' ']

def isQuote (c : Char) : Bool := c = '\'' || c = '"'

/-- The module that an import line names: what stands behind its first quote, up to the next of that kind. -/
def module? (line : List Char) : Option (List Char) :=
  if keyword.isPrefixOf line then
    match line.dropWhile fun c => !isQuote c with
    | [] => none
    | quote :: rest => some (rest.takeWhile (· ≠ quote))
  else none

def isRelative (specifier : List Char) : Bool := specifier.head? = some '.'

/-- The relative module that a line imports, if it does. -/
def ofLine (line : List Char) : List (List Char) := (module? line).toList.filter isRelative

/-- The relative modules that the lines of a text import, in their order. -/
def ofChars (text : List Char) : List (List Char) := (Text.splitAtChar '\n' text).flatMap ofLine

/-- The specifiers of all relative modules that a text imports. -/
def specifiers (text : String) : List String := (ofChars text.toList).map String.ofList

end Imports

namespace Text

/-- A text without line ends. -/
def OneLine (text : String) : Prop := '\n' ∉ text.toList

instance (text : String) : Decidable (OneLine text) := inferInstanceAs (Decidable ('\n' ∉ text.toList))

theorem splitAtChar_of_notMem {separator : Char} {text : List Char} (none : separator ∉ text) :
    splitAtChar separator text = [text] := by
  rw [splitAtChar_eq_splitOn, List.splitOn_eq_singleton none]

theorem splitAtChar_append_cons (separator : Char) (first rest : List Char) :
    splitAtChar separator (first ++ separator :: rest) = splitAtChar separator first ++ splitAtChar separator rest := by
  simp only [splitAtChar_eq_splitOn, List.splitOn_append_cons_self]

/-- A text is a row of texts, each but the last with a separator behind it. -/
theorem induction_splitAtChar (separator : Char) {motive : List Char → Prop}
    (last : ∀ text, separator ∉ text → motive text)
    (more : ∀ first rest, separator ∉ first → motive rest → motive (first ++ separator :: rest))
    (text : List Char) : motive text := by
  induction size : text.length using Nat.strong_induction_on generalizing text with
  | _ n ih =>
    by_cases member : separator ∈ text
    · obtain ⟨first, rest, rfl, none⟩ := List.eq_append_cons_of_mem member
      refine more first rest none (ih rest.length ?_ rest rfl)
      rw [← size, List.length_append, List.length_cons]
      omega
    · exact last text member

end Text

namespace Imports

/-- How far a line has been read: some of the keyword, up to its first quote, the quote itself, or past anything
of interest. The last state is for good. -/
inductive State where
  | start (matched : Nat)
  | naming
  | quoted
  | aside
  | found
  deriving DecidableEq, Repr

/-- One character further in a line. -/
def State.within (c : Char) : State → State
  | .start matched =>
    if keyword[matched]? = some c then if matched + 1 = keyword.length then .naming else .start (matched + 1)
    else .aside
  | .naming => if isQuote c then .quoted else .naming
  | .quoted => if c = '.' then .found else .aside
  | .aside => .aside
  | .found => .found

def read (state : State) (c : Char) : State :=
  if state = .found then .found else if c = '\n' then .start 0 else state.within c

/-- The states in which the rest of a line does not matter. -/
def State.isCalm (state : State) : Bool := state = .aside

theorem State.within_ne_start (c : Char) (state : State) : state.within c ≠ .start 0 := by
  unfold within
  split <;> (try split) <;> (try split) <;> simp

theorem read_of_ne {state : State} {c : Char} (missed : state ≠ .found) (line : c ≠ '\n') :
    read state c = state.within c := by
  rw [read, if_neg missed, if_neg line]

theorem read_newline {state : State} (missed : state ≠ .found) : read state '\n' = .start 0 := by
  rw [read, if_neg missed, if_pos rfl]

theorem foldl_read_found (text : List Char) : text.foldl read .found = .found := by
  induction text with
  | nil => rfl
  | cons c text ih => exact ih

theorem foldl_read_aside {text : List Char} (line : '\n' ∉ text) : text.foldl read .aside = .aside := by
  induction text with
  | nil => rfl
  | cons c text ih =>
    rw [List.mem_cons, not_or] at line
    rw [List.foldl_cons, read_of_ne (by simp) (Ne.symm line.1)]
    exact ih line.2

/-- A relative module behind the keyword is found. -/
theorem foldl_read_naming {text rest : List Char} {quote : Char} (line : '\n' ∉ text)
    (named : (text.dropWhile fun c => !isQuote c) = quote :: '.' :: rest) : text.foldl read .naming = .found := by
  induction text with
  | nil => exact absurd named (by simp)
  | cons c text ih =>
    rw [List.mem_cons, not_or] at line
    rw [List.foldl_cons, read_of_ne (by simp) (Ne.symm line.1), State.within]
    by_cases isOpen : isQuote c = true
    · rw [List.dropWhile_cons_of_neg (by simp [isOpen])] at named
      obtain ⟨rfl, rfl⟩ := List.cons.inj named
      rw [if_pos isOpen]
      exact foldl_read_found rest
    · rw [List.dropWhile_cons_of_pos (by simp [isOpen])] at named
      rw [if_neg isOpen]
      exact ih line.2 named

/-- A line that imports a relative module is found. -/
theorem ofLine_eq_nil {line : List Char} (single : '\n' ∉ line) (missed : line.foldl read (.start 0) ≠ .found) :
    ofLine line = [] := by
  rw [ofLine, List.filter_eq_nil_iff]
  intro specifier named relative
  rw [Option.mem_toList, module?] at named
  split at named
  · next starts =>
    obtain ⟨text, rfl⟩ := List.isPrefixOf_iff_prefix.mp starts
    have skipped : ((keyword ++ text).dropWhile fun c => !isQuote c) = text.dropWhile fun c => !isQuote c := rfl
    have opens : (keyword ++ text).foldl read (.start 0) = text.foldl read .naming := rfl
    rw [skipped] at named
    split at named
    · exact absurd named (by simp)
    · next quote rest first =>
      obtain rfl := Option.some.inj named
      obtain ⟨tail, point⟩ : ∃ tail, rest = '.' :: tail := by
        cases rest with
        | nil => exact absurd relative Bool.false_ne_true
        | cons c tail =>
          by_cases closes : c = quote
          · rw [List.takeWhile_cons_of_neg (by simpa using closes)] at relative
            exact absurd relative (by decide)
          · rw [List.takeWhile_cons_of_pos (by simpa using closes)] at relative
            exact ⟨tail, by rw [Option.some.inj (of_decide_eq_true relative)]⟩
      rw [point] at first
      rw [List.mem_append, not_or] at single
      exact missed (opens.trans (foldl_read_naming single.2 first))
  · exact absurd named (by simp)

theorem ofChars_line {line : List Char} (single : '\n' ∉ line) (rest : List Char) :
    ofChars (line ++ '\n' :: rest) = ofLine line ++ ofChars rest := by
  rw [ofChars, Text.splitAtChar_append_cons, Text.splitAtChar_of_notMem single, List.singleton_append,
    List.flatMap_cons, ofChars]

/-- A line that was begun is not read back to its start. -/
theorem foldl_read_ne_start {text : List Char} (line : '\n' ∉ text) (filled : text ≠ []) (state : State) :
    text.foldl read state ≠ .start 0 := by
  obtain ⟨before, c, rfl⟩ := (List.eq_nil_or_concat' text).resolve_left filled
  rw [List.mem_append, not_or, List.mem_singleton] at line
  rw [List.foldl_append, List.foldl_cons, List.foldl_nil]
  by_cases missed : before.foldl read state = .found
  · rw [missed]
    exact State.noConfusion
  · rw [read_of_ne missed (Ne.symm line.2)]
    exact State.within_ne_start c _

/-- Where reading misses nothing, nothing is imported. -/
theorem ofChars_eq_nil {text : List Char} (missed : text.foldl read (.start 0) ≠ .found) : ofChars text = [] := by
  induction text using Text.induction_splitAtChar '\n' with
  | last line single =>
    rw [ofChars, Text.splitAtChar_of_notMem single, List.flatMap_singleton]
    exact ofLine_eq_nil single missed
  | more line rest single ih =>
    rw [List.foldl_append, List.foldl_cons] at missed
    have before : line.foldl read (.start 0) ≠ .found := by
      intro found
      rw [found] at missed
      exact missed (foldl_read_found rest)
    rw [read_newline before] at missed
    rw [ofChars_line single, ofLine_eq_nil single before, ih missed, List.nil_append]

/-- Whole lines that import nothing do not matter. -/
theorem ofChars_append {text : List Char} (whole : text.foldl read (.start 0) = .start 0) (rest : List Char) :
    ofChars (text ++ rest) = ofChars rest := by
  induction text using Text.induction_splitAtChar '\n' with
  | last line single =>
    by_cases filled : line = []
    · rw [filled, List.nil_append]
    · exact absurd whole (foldl_read_ne_start single filled _)
  | more line more single ih =>
    rw [List.foldl_append, List.foldl_cons] at whole
    have before : line.foldl read (.start 0) ≠ .found := by
      intro found
      rw [found] at whole
      exact absurd ((foldl_read_found more).symm.trans whole) (by simp)
    rw [read_newline before] at whole
    rw [List.append_assoc, List.cons_append, ofChars_line single, ofLine_eq_nil single before, List.nil_append,
      ih whole]

theorem ofLine_import {clause specifier ending : List Char} (plain : ∀ c ∈ clause, isQuote c = false)
    (closed : '\'' ∉ specifier) (relative : isRelative specifier = true) :
    ofLine (keyword ++ clause ++ '\'' :: (specifier ++ '\'' :: ending)) = [specifier] := by
  have starts : keyword.isPrefixOf (keyword ++ clause ++ '\'' :: (specifier ++ '\'' :: ending)) = true := by
    rw [List.append_assoc]
    exact List.isPrefixOf_iff_prefix.mpr (List.prefix_append _ _)
  have before : ∀ c ∈ keyword ++ clause, (!isQuote c) = true := by
    intro c member
    rcases List.mem_append.mp member with fixed | given
    · exact List.all_eq_true.mp (by decide : (keyword.all fun c => !isQuote c) = true) c fixed
    · rw [plain c given]
      rfl
  have inside : ∀ c ∈ specifier, decide (c ≠ '\'') = true := by
    intro c member
    exact decide_eq_true fun same => closed (same ▸ member)
  have named : (specifier ++ '\'' :: ending).takeWhile (· ≠ '\'') = specifier := by
    rw [List.takeWhile_append_of_pos inside, List.takeWhile_cons_of_neg (by decide), List.append_nil]
  have given : module? (keyword ++ clause ++ '\'' :: (specifier ++ '\'' :: ending)) = some specifier := by
    rw [module?, if_pos starts, List.dropWhile_append_of_pos before, List.dropWhile_cons_of_neg (by decide)]
    exact congrArg some named
  rw [ofLine, given, Option.toList_some, List.filter_cons_of_pos relative, List.filter_nil]

/-- Characters that neither end a line nor a specifier. -/
def isPlain (c : Char) : Bool := c ≠ '\n' && !isQuote c

theorem isPlain_of_isNameChar {c : Char} (plain : Words.isNameChar c = true) : isPlain c = true := by
  have apart (d : Char) (other : Words.isNameChar d = false) : c ≠ d := by
    rintro rfl
    exact absurd (plain.symm.trans other) (by decide)
  simp [isPlain, isQuote, apart '\n' (by decide), apart '\'' (by decide), apart '"' (by decide)]

theorem newline_notMem_of_isPlain {text : List Char} (plain : text.all isPlain = true) : '\n' ∉ text := by
  intro member
  exact absurd (List.all_eq_true.mp plain _ member) (by decide)

/-- The three fixed texts of a line that imports a name from a relative module: before the name, between the name
and the module, and behind the module. What is fixed of the specifier, its lead and its tail, stands in the last
two. -/
def isImport (opening middle closing first second lead tail : List Char) : Bool :=
  opening = keyword ++ first && middle = second ++ '\'' :: lead && closing = tail ++ ['\'', ';', '\n'] &&
    (first ++ second ++ lead ++ tail).all isPlain && isRelative lead

/-- A block of import lines names its modules and nothing else. -/
theorem ofChars_block {ι : Type} {opening middle closing first second lead tail : List Char}
    (shape : isImport opening middle closing first second lead tail = true) {name module : ι → List Char}
    {entries : List ι} (names : ∀ entry ∈ entries, ∀ c ∈ name entry, Words.isNameChar c = true)
    (modules : ∀ entry ∈ entries, ∀ c ∈ module entry, Words.isNameChar c = true) (rest : List Char) :
    ofChars ((entries.flatMap fun entry => opening ++ (name entry ++ (middle ++ (module entry ++ closing)))) ++ rest) =
      (entries.map fun entry => lead ++ (module entry ++ tail)) ++ ofChars rest := by
  simp only [isImport, Bool.and_eq_true, decide_eq_true_eq, List.all_append] at shape
  obtain ⟨⟨⟨⟨rfl, rfl⟩, rfl⟩, ⟨⟨plainFirst, plainSecond⟩, plainLead⟩, plainTail⟩, relative⟩ := shape
  induction entries with
  | nil => rfl
  | cons entry entries ih =>
    obtain ⟨named, laterNames⟩ := List.forall_mem_cons.mp names
    obtain ⟨given, laterModules⟩ := List.forall_mem_cons.mp modules
    have plainName : (name entry).all isPlain = true :=
      List.all_eq_true.mpr fun c member => isPlain_of_isNameChar (named c member)
    have plainModule : (module entry).all isPlain = true :=
      List.all_eq_true.mpr fun c member => isPlain_of_isNameChar (given c member)
    have clause : (first ++ (name entry ++ second)).all isPlain = true := by
      rw [List.all_append, List.all_append, plainFirst, plainName, plainSecond]
      rfl
    have specifier : (lead ++ (module entry ++ tail)).all isPlain = true := by
      rw [List.all_append, List.all_append, plainLead, plainModule, plainTail]
      rfl
    have unquoted : ∀ c ∈ first ++ (name entry ++ second), isQuote c = false := by
      intro c member
      have plain := List.all_eq_true.mp clause c member
      rw [isPlain, Bool.and_eq_true, Bool.not_eq_true'] at plain
      exact plain.2
    have closed : '\'' ∉ lead ++ (module entry ++ tail) := by
      intro member
      exact absurd (List.all_eq_true.mp specifier _ member) (by decide)
    have starts : isRelative (lead ++ (module entry ++ tail)) = true := by
      cases lead with
      | nil => exact absurd relative (by decide)
      | cons c lead => exact relative
    have single : '\n' ∉ keyword ++ (first ++ (name entry ++ second)) ++
        '\'' :: (lead ++ (module entry ++ tail) ++ '\'' :: [';']) := by
      intro member
      rcases List.mem_append.mp member with front | back
      · rcases List.mem_append.mp front with fixed | inside
        · exact absurd fixed (by decide)
        · exact newline_notMem_of_isPlain clause inside
      · rcases List.mem_cons.mp back with same | back
        · exact absurd same (by decide)
        · rcases List.mem_append.mp back with inside | fixed
          · exact newline_notMem_of_isPlain specifier inside
          · exact absurd fixed (by decide)
    have whole := ofChars_line single (entries.flatMap (fun entry => keyword ++ first ++ (name entry ++
      (second ++ '\'' :: lead ++ (module entry ++ (tail ++ ['\'', ';', '\n']))))) ++ rest)
    rw [ofLine_import unquoted closed starts, ih laterNames laterModules] at whole
    refine Eq.trans (congrArg ofChars ?_) whole
    simp only [List.flatMap_cons, List.append_assoc, List.cons_append, List.nil_append]

section Parts

variable {α : Type} {opening middle closing : String} (first second lead tail : String)
  (shape : isImport opening.toList middle.toList closing.toList first.toList second.toList lead.toList tail.toList =
    true) {context : α}

include shape

/-- A single import line among the parts of a template. -/
theorem ofChars_parts {name module : α → String} (names : ∀ c ∈ (name context).toList, Words.isNameChar c = true)
    (modules : ∀ c ∈ (module context).toList, Words.isNameChar c = true) (rest : List Char) :
    ofChars (([.text opening, .hole name, .text middle, .hole module, .text closing].flatMap
      fun part => Template.renderChars part context) ++ rest) =
      [lead ++ (module context ++ tail)].map String.toList ++ ofChars rest := by
  have block := ofChars_block shape (fun (_ : Unit) (_ : () ∈ [()]) => names) (fun _ _ => modules) rest
  simpa only [List.flatMap_cons, List.flatMap_nil, List.append_nil, List.map_cons, List.map_nil,
    String.toList_append, Template.renderChars] using block

/-- An import line for each item. -/
theorem ofChars_each {β : Type} {items : α → List β} {name module : α × β → String}
    (names : ∀ item ∈ items context, ∀ c ∈ (name (context, item)).toList, Words.isNameChar c = true)
    (modules : ∀ item ∈ items context, ∀ c ∈ (module (context, item)).toList, Words.isNameChar c = true)
    (rest : List Char) :
    ofChars (([.each items (Template.parts [.text opening, .hole name, .text middle, .hole module,
      .text closing])].flatMap fun part => Template.renderChars part context) ++ rest) =
      ((items context).map fun item => lead ++ (module (context, item) ++ tail)).map String.toList ++ ofChars rest := by
  rw [List.flatMap_singleton, List.map_map]
  simp only [Function.comp_def, String.toList_append]
  exact ofChars_block shape names modules rest

end Parts

/-- Whether a template reads as whole lines without relative imports up to a block of its parts, and as lines
without relative imports behind it. -/
def isQuietAround {α : Type} (template : Template α) (front size : Nat) : Bool :=
  Template.followAll read State.isCalm (template.items.take front) (.start 0) = some (.start 0) &&
    match Template.followAll read State.isCalm ((template.items.drop front).drop size) (.start 0) with
    | some last => last ≠ .found
    | none => false

/-- A template whose only import lines of relative modules stand in a block. -/
theorem specifiers_template {α : Type} {template : Template α} {context : α} (front size : Nat)
    {modules : List String} (fills : template.Fills Text.OneLine context)
    (quiet : isQuietAround template front size = true)
    (block : ∀ rest, ofChars ((((template.items.drop front).take size).flatMap fun part =>
      part.renderChars context) ++ rest) = modules.map String.toList ++ ofChars rest) :
    specifiers (template.render context) = modules := by
  have passes (text : String) (state : State) (line : Text.OneLine text) (calm : state.isCalm = true) :
      text.toList.foldl read state = state := by
    rw [of_decide_eq_true calm]
    exact foldl_read_aside line
  have parts := fills.items
  rw [isQuietAround, Bool.and_eq_true, decide_eq_true_eq] at quiet
  obtain ⟨before, behind⟩ := quiet
  split at behind
  · next last follows =>
    have tail := Template.foldl_of_followAll passes
      (fun part member => parts part (List.mem_of_mem_drop (List.mem_of_mem_drop member))) follows
    have head := Template.foldl_of_followAll passes (fun part member => parts part (List.mem_of_mem_take member)) before
    rw [specifiers, Template.render, String.toList_ofList, template.renderChars_eq_flatMap_items,
      ← List.take_append_drop front template.items, List.flatMap_append, ofChars_append head,
      ← List.take_append_drop size (template.items.drop front), List.flatMap_append, block,
      ofChars_eq_nil (tail ▸ of_decide_eq_true behind), List.append_nil, List.map_map]
    simp [Function.comp_def]
  · exact absurd behind Bool.false_ne_true

end Imports

end Prism
