import Prism.Json.Writer
import Prism.Proofs.Decimal.Reading
import Prism.Proofs.Document.Proper

namespace Prism.Json

theorem hexDigits_four {unit : ℕ} (bound : unit < 65536) : Text.hexDigits 4 unit =
    [(unit / 4096).digitChar, (unit / 256 % 16).digitChar, (unit / 16 % 16).digitChar, (unit % 16).digitChar] := by
  have step {n : ℕ} (large : 16 ≤ n) : Nat.toDigits 16 n = Nat.toDigits 16 (n / 16) ++ [(n % 16).digitChar] :=
    Nat.toDigits_of_base_le (by norm_num) large
  have last {n : ℕ} (small : n < 16) : Nat.toDigits 16 n = [n.digitChar] := Nat.toDigits_of_lt_base small
  have zero {n : ℕ} (none : n = 0) : n.digitChar = '0' := by rw [none]; rfl
  rw [Text.hexDigits]
  rcases Nat.lt_or_ge unit 16 with one | two
  · rw [last one, zero (show unit / 4096 = 0 by omega), zero (show unit / 256 % 16 = 0 by omega),
      zero (show unit / 16 % 16 = 0 by omega), Nat.mod_eq_of_lt one]
    rfl
  rcases Nat.lt_or_ge (unit / 16) 16 with two' | three
  · rw [step two, last two', zero (show unit / 4096 = 0 by omega), zero (show unit / 256 % 16 = 0 by omega),
      Nat.mod_eq_of_lt two']
    rfl
  rcases Nat.lt_or_ge (unit / 16 / 16) 16 with three' | four
  · rw [step two, step three, last three', zero (show unit / 4096 = 0 by omega),
      show unit / 256 % 16 = unit / 16 / 16 by omega]
    rfl
  · rw [step two, step three, step four, last (by omega), show unit / 256 % 16 = unit / 16 / 16 % 16 by omega,
      show unit / 4096 = unit / 16 / 16 / 16 by omega]
    rfl

theorem hexValue?_digitChar {digit : ℕ} (bound : digit < 16) : hexValue? digit.digitChar = some digit := by
  interval_cases digit <;> rfl

theorem fourHex?_hexDigits {unit : ℕ} (bound : unit < 65536) :
    fourHex? (unit / 4096).digitChar (unit / 256 % 16).digitChar (unit / 16 % 16).digitChar (unit % 16).digitChar =
      some unit := by
  simp only [fourHex?, hexValue?_digitChar (show unit / 4096 < 16 by omega),
    hexValue?_digitChar (show unit / 256 % 16 < 16 by omega), hexValue?_digitChar (show unit / 16 % 16 < 16 by omega),
    hexValue?_digitChar (show unit % 16 < 16 by omega), bind, Option.bind, pure]
  congr 1
  omega

/-- A character before what was scanned. -/
def follow (c : Char) (scanned : Except Stop (List Char × List Char)) : Except Stop (List Char × List Char) := do
  let (chars, left) ← scanned
  return (c :: chars, left)

/-- A unit that is no half of a pair stands for one character. -/
theorem scanText_unitEscape (opened : List Char) {c : Char} (small : c.toNat < 0x10000) {more : List Char}
    (some : more ≠ []) : scanText opened (unitEscape c.toNat ++ more) = follow c (scanText opened more) := by
  have valid : c.toNat < 0xd800 ∨ 0xdfff < c.toNat := c.valid.imp_right And.left
  have filled : more.isEmpty = false := by simpa using some
  have single : (decide (0xd800 ≤ c.toNat) && decide (c.toNat < 0xdc00)) = false := by
    simp only [Bool.and_eq_false_iff, decide_eq_false_iff_not]
    omega
  have whole : (decide (0xd800 ≤ c.toNat) && decide (c.toNat < 0xe000)) = false := by
    simp only [Bool.and_eq_false_iff, decide_eq_false_iff_not]
    omega
  rw [unitEscape, hexDigits_four small]
  simp only [List.cons_append, List.nil_append, scanText, filled, fourHex?_hexDigits small, single, whole]
  simp [follow]

theorem scanText_pair (opened : List Char) {c : Char} (large : 0x10000 ≤ c.toNat) {more : List Char}
    (some : more ≠ []) :
    scanText opened (unitEscape (0xd800 + (c.toNat - 0x10000) / 1024) ++
      (unitEscape (0xdc00 + (c.toNat - 0x10000) % 1024) ++ more)) = follow c (scanText opened more) := by
  have valid : c.toNat < 0x110000 := by
    rcases c.valid with small | big
    · exact lt_trans small (by norm_num)
    · exact big.2
  have filled : more.isEmpty = false := by simpa using some
  generalize upper : 0xd800 + (c.toNat - 0x10000) / 1024 = high
  generalize lower : 0xdc00 + (c.toNat - 0x10000) % 1024 = low
  have pair : (decide (0xd800 ≤ high) && decide (high < 0xdc00)) = true := by
    simp only [Bool.and_eq_true, decide_eq_true_eq]
    omega
  have pairToo : (decide (0xdc00 ≤ low) && decide (low < 0xe000)) = true := by
    simp only [Bool.and_eq_true, decide_eq_true_eq]
    omega
  have code : 0x10000 + (high - 0xd800) * 1024 + (low - 0xdc00) = c.toNat := by omega
  rw [unitEscape, unitEscape, hexDigits_four (show high < 65536 by omega), hexDigits_four (show low < 65536 by omega)]
  simp only [List.cons_append, List.nil_append, scanText, filled, fourHex?_hexDigits (show high < 65536 by omega),
    fourHex?_hexDigits (show low < 65536 by omega), pair, pairToo, code]
  simp [follow]

theorem scanText_escapedChar (opened : List Char) (c : Char) {more : List Char} (some : more ≠ []) :
    scanText opened (escapedChar c ++ more) = follow c (scanText opened more) := by
  rw [escapedChar]
  split_ifs with quote slash newline carriage tab back feed plain small
  · simp [scanText, simpleEscape?, follow, quote]
  · simp [scanText, simpleEscape?, follow, slash]
  · simp [scanText, simpleEscape?, follow, newline]
  · simp [scanText, simpleEscape?, follow, carriage]
  · simp [scanText, simpleEscape?, follow, tab]
  · have code : c = '\x08' := Char.toNat_inj.mp back
    simp [scanText, simpleEscape?, follow, code]
  · have code : c = '\x0c' := Char.toNat_inj.mp feed
    simp [scanText, simpleEscape?, follow, code]
  · simp only [Bool.and_eq_true, decide_eq_true_eq] at plain
    rw [List.singleton_append, scanText.eq_def]
    split <;> simp_all [follow]
  · exact scanText_unitEscape opened small some
  · rw [List.append_assoc]
    exact scanText_pair opened (by omega) some

/-- A string is read back as it was written. -/
theorem scanText_escaped (opened text rest : List Char) :
    scanText opened (text.flatMap escapedChar ++ '"' :: rest) = .ok (text, rest) := by
  induction text with
  | nil => simp [scanText]
  | cons c text ih =>
    rw [List.flatMap_cons, List.append_assoc, scanText_escapedChar opened c (by simp), ih]
    rfl

def isNumberChar (c : Char) : Bool := c.isDigit || ['.', 'e', '+', '-'].contains c

/-- Only characters of numbers. -/
def isNumber (text : String) : Bool := text.toList.all isNumberChar

theorem mem_repr {n : ℤ} {c : Char} (member : c ∈ n.repr.toList) : c.isDigit = true ∨ c = '-' := by
  cases n with
  | ofNat m =>
    have digits : c ∈ Nat.toDigits 10 m := by simpa [Int.repr, Nat.toList_repr] using member
    exact .inl (Decimal.isDigit_of_mem_toDigits digits)
  | negSucc m =>
    have digits : c = '-' ∨ c ∈ Nat.toDigits 10 (m + 1) := by simpa [Int.repr, Nat.toList_repr] using member
    exact digits.symm.imp_left Decimal.isDigit_of_mem_toDigits

theorem isNumber_repr (n : ℤ) : isNumber n.repr = true := by
  refine List.all_eq_true.mpr fun c member => ?_
  rcases mem_repr member with digit | rfl
  · simp [isNumberChar, digit]
  · decide

theorem isNumber_shortText {x : Float} {d : Decimal.Dyadic} (finite : Decimal.valueOf x = .finite d) :
    isNumber (Decimal.shortText x) = true := by
  refine List.all_eq_true.mpr fun c member => ?_
  rw [Decimal.shortText_of_finite finite, Decimal.toList_signed] at member
  rcases List.mem_append.mp member with sign | digits
  · split at sign
    · rw [List.mem_singleton.mp sign]
      decide
    · exact absurd sign (by simp)
  · rcases Decimal.mem_shortDigits digits with digit | rfl | rfl | rfl | rfl
    · simp [isNumberChar, digit]
    all_goals decide

/-- The values that have a name and no digits. -/
def named : List (Decimal.Value × String) :=
  [(.undefined, "NaN"), (.infinite false, "Infinity"), (.infinite true, "-Infinity")]

theorem mem_named {value : Decimal.Value} {name : String} : (value, name) ∈ named ↔
    value = .undefined ∧ name = "NaN" ∨ value = .infinite false ∧ name = "Infinity" ∨
      value = .infinite true ∧ name = "-Infinity" := by
  simp [named]

theorem isNumber_of_mem_named {value : Decimal.Value} {name : String} (member : (value, name) ∈ named) :
    isNumber name = false := by
  rcases mem_named.mp member with ⟨-, rfl⟩ | ⟨-, rfl⟩ | ⟨-, rfl⟩ <;> decide

theorem writeFloat_cases (x : Float) : (∃ d, Decimal.valueOf x = .finite d ∧ writeFloat x = Decimal.shortText x) ∨
    (Decimal.valueOf x, writeFloat x) ∈ named := by
  rw [writeFloat]
  cases value : Decimal.valueOf x with
  | undefined => exact .inr (by simp [named])
  | infinite negative => cases negative <;> exact .inr (by simp [named])
  | finite d => exact .inl ⟨d, rfl, rfl⟩

/-- Neither a string nor a collection. -/
def isAtom : Json → Bool
  | .null | .bool _ | .int _ | .float _ => true
  | .text _ | .list _ | .object _ => false

/-- What numbers and words are made of. -/
def isAtomChar (c : Char) : Bool := isNumberChar c || c.isAlpha

theorem all_isAtomChar_of_isNumber {text : String} (number : isNumber text = true) :
    text.toList.all isAtomChar = true := by
  refine List.all_eq_true.mpr fun c member => ?_
  rw [isAtomChar, List.all_eq_true.mp number c member, Bool.true_or]

theorem all_isAtomChar_write {value : Json} (atom : value.isAtom = true) :
    value.write.toList.all isAtomChar = true := by
  cases value with
  | text | list | object => exact absurd atom (by simp [isAtom])
  | null => decide
  | bool b => cases b <;> decide
  | int n => exact all_isAtomChar_of_isNumber (isNumber_repr n)
  | float x =>
    rw [write]
    rcases writeFloat_cases x with ⟨d, finite, text⟩ | member
    · exact text ▸ all_isAtomChar_of_isNumber (isNumber_shortText finite)
    · rcases mem_named.mp member with ⟨-, text⟩ | ⟨-, text⟩ | ⟨-, text⟩ <;> rw [text] <;> decide

theorem write_ne_empty_of_isAtom {value : Json} (atom : value.isAtom = true) : value.write ≠ "" := by
  cases value with
  | text | list | object => exact absurd atom (by simp [isAtom])
  | null => decide
  | bool b => cases b <;> decide
  | int n => exact Decimal.int_repr_ne_empty n
  | float x =>
    rw [write]
    rcases writeFloat_cases x with ⟨d, finite, text⟩ | member
    · exact text ▸ Decimal.shortText_ne_empty x
    · intro empty
      exact absurd (isNumber_of_mem_named member) (by simp [empty, isNumber])

/-- No number or word goes on here. -/
def Ends (rest : List Char) : Prop := rest.takeWhile isAtomChar = []

theorem ends_nil : Ends [] := rfl

theorem ends_cons {c : Char} (other : isAtomChar c = false) (rest : List Char) : Ends (c :: rest) := by
  simp [Ends, other]

/-- The bracket or quotation mark a value starts with. -/
def opening : Json → Option Char
  | .null | .bool _ | .int _ | .float _ => none
  | .text _ => some '"'
  | .list _ => some '['
  | .object _ => some '\x7b'

theorem opening_of_isAtom {value : Json} (atom : value.isAtom = true) : value.opening = none := by
  cases value <;> simp_all [opening, isAtom]

section Sequence

variable {α : Type} {encode : α → List Char} {close : Char} {gap : List Char} {xs ys : List α}
  {rest others : List Char}

/-- The items after the first, each behind a comma and a gap. -/
def follows (gap : List Char) (encode : α → List Char) (xs : List α) : List Char :=
  xs.flatMap fun x => ',' :: (gap ++ encode x)

theorem intercalate_cons (gap : List Char) (encode : α → List Char) (x : α) (xs : List α) :
    (',' :: gap).intercalate (encode x :: xs.map encode) = encode x ++ follows gap encode xs := by
  induction xs generalizing x with
  | nil => simp [follows]
  | cons y xs ih =>
    rw [List.map_cons, List.intercalate_cons_cons, ih]
    simp [follows]

theorem ends_follows (ends : isAtomChar close = false) : Ends (follows gap encode xs ++ close :: rest) := by
  cases xs with
  | nil => exact ends_cons ends _
  | cons x xs => exact ends_cons (by decide) _

/-- The blanks inside a collection: before its first item, before each later one and before its closing bracket. -/
structure Gaps where
  first : List Char
  later : List Char
  last : List Char
  blank : ∀ c ∈ first ++ last, isSpace c = true

/-- Items between brackets. -/
def bracketed (opening closing : Char) (gaps : Gaps) (encode : α → List Char) : List α → List Char
  | [] => [opening, closing]
  | x :: xs => opening :: (gaps.first ++ (encode x ++ (follows gaps.later encode xs ++ (gaps.last ++ [closing]))))

end Sequence

/-- A member of an object. -/
def memberText (encode : Json → List Char) (member : String × Json) : List Char :=
  (writeText member.1).toList ++ ':' :: ' ' :: encode member.2

/-- Texts of values at each level, which differ from others only in the blanks of collections. -/
structure IsLayout (gaps : ℕ → Gaps) (encode : ℕ → Json → List Char) : Prop where
  atom : ∀ level {value : Json}, value.isAtom = true → encode level value = value.write.toList
  text : ∀ level s, encode level (.text s) = (writeText s).toList
  list : ∀ level items, encode level (.list items) = bracketed '[' ']' (gaps level) (encode (level + 1)) items
  object : ∀ level members, encode level (.object members) =
    bracketed '\x7b' '\x7d' (gaps level) (memberText (encode (level + 1))) members

namespace IsLayout

variable {gaps : ℕ → Gaps} {encode : ℕ → Json → List Char} (layout : IsLayout gaps encode) {level : ℕ}
  {value other : Json} {rest others : List Char}

include layout

theorem exists_cons (level : ℕ) (value : Json) : ∃ c tail, encode level value = c :: tail ∧
    value.opening = if isAtomChar c then none else some c := by
  by_cases atom : value.isAtom = true
  · have filled : value.write.toList ≠ [] := mt String.toList_eq_nil_iff.mp (write_ne_empty_of_isAtom atom)
    obtain ⟨c, tail, shape⟩ := List.exists_cons_of_ne_nil filled
    have letters := all_isAtomChar_write atom
    rw [shape, List.all_cons, Bool.and_eq_true] at letters
    exact ⟨c, tail, (layout.atom level atom).trans shape, by rw [opening_of_isAtom atom, letters.1, if_pos rfl]⟩
  · cases value with
    | null | bool | int | float => exact absurd rfl atom
    | text s => exact ⟨'"', _, by rw [layout.text, writeText, String.toList_ofList]; rfl, rfl⟩
    | list items => cases items <;> exact ⟨'[', _, layout.list level _, rfl⟩
    | object members => cases members <;> exact ⟨'\x7b', _, layout.object level _, rfl⟩

/-- A value starts neither with a space nor with the end of a list. -/
theorem starts (level : ℕ) (value : Json) : ∃ c tail, encode level value = c :: tail ∧ isSpace c = false ∧ c ≠ ']' := by
  obtain ⟨c, tail, shape, kind⟩ := layout.exists_cons level value
  refine ⟨c, tail, shape, ?_⟩
  by_cases letter : isAtomChar c = true
  · refine ⟨Bool.eq_false_iff.mpr fun space => ?_, ?_⟩
    · simp only [isSpace, Bool.or_eq_true, decide_eq_true_eq] at space
      rcases space with ((rfl | rfl) | rfl) | rfl <;> exact absurd letter (by decide)
    · rintro rfl
      exact absurd letter (by decide)
  · rw [if_neg letter] at kind
    cases value with
    | null | bool | int | float => exact absurd kind (by simp [opening])
    | text | list | object =>
      obtain rfl := Option.some.inj kind
      decide

end IsLayout

theorem writeItems_eq_map (items : List Json) : writeItems items = items.map write := by
  induction items with
  | nil => rfl
  | cons item items ih => rw [writeItems, List.map_cons, ih]

theorem writeMembers_eq_map (members : List (String × Json)) :
    writeMembers members = members.map fun member => writeText member.1 ++ ": " ++ member.2.write := by
  induction members with
  | nil => rfl
  | cons member members ih => rw [writeMembers, List.map_cons, ih]

/-- Parts between brackets, with a blank behind each comma. -/
theorem toList_joined {α : Type} (opening closing : Char) (text : α → String) (xs : List α) :
    (String.singleton opening ++ String.intercalate ", " (xs.map text) ++ String.singleton closing).toList =
      bracketed opening closing ⟨[], [' '], [], by simp⟩ (fun x => (text x).toList) xs := by
  cases xs with
  | nil => simp [bracketed]
  | cons x xs => simp [bracketed, Function.comp_def, intercalate_cons [' '] fun x => (text x).toList]

theorem isLayout_write : IsLayout (fun _ => ⟨[], [' '], [], by simp⟩) fun _ value => value.write.toList where
  atom _ _ _ := rfl
  text _ _ := rfl
  list _ items := by
    rw [write, writeItems_eq_map]
    exact toList_joined '[' ']' write items
  object _ members := by
    rw [write, writeMembers_eq_map]
    have each (member : String × Json) : (writeText member.1 ++ ": " ++ member.2.write).toList =
        memberText (fun value => value.write.toList) member := by simp [memberText]
    exact (toList_joined '\x7b' '\x7d' _ members).trans (by rw [funext each])

theorem prettyItems_eq_map (level : ℕ) (items : List Json) : prettyItems level items = items.map (prettyAt level) := by
  induction items with
  | nil => rfl
  | cons item items ih => rw [prettyItems, List.map_cons, ih]

theorem prettyMembers_eq_map (level : ℕ) (members : List (String × Json)) : prettyMembers level members =
    members.map fun member => writeText member.1 ++ ": " ++ member.2.prettyAt level := by
  induction members with
  | nil => rfl
  | cons member members ih => rw [prettyMembers, List.map_cons, ih]

/-- Each item has a line of its own, and the closing bracket too. -/
def lineGaps (level : ℕ) : Gaps where
  first := (freshLine (level + 1)).toList
  later := (freshLine (level + 1)).toList
  last := (freshLine level).toList
  blank c inside := by
    simp only [freshLine, String.toList_ofList, List.mem_append, List.mem_cons, List.mem_replicate] at inside
    rcases inside with (rfl | ⟨-, rfl⟩) | rfl | ⟨-, rfl⟩ <;> rfl

theorem toList_block {α : Type} (opening closing : Char) (level : ℕ) (text : α → String) (xs : List α) :
    (block (String.singleton opening) (String.singleton closing) level (xs.map text)).toList =
      bracketed opening closing (lineGaps level) (fun x => (text x).toList) xs := by
  cases xs with
  | nil => simp [block, bracketed]
  | cons x xs =>
    simp [block, bracketed, lineGaps, Function.comp_def,
      intercalate_cons (freshLine (level + 1)).toList fun x => (text x).toList]

/-- The text of a value over several lines. -/
def lined (level : ℕ) (value : Json) : List Char := (value.prettyAt level).toList

theorem isLayout_lined : IsLayout lineGaps lined where
  atom level value atom := by
    cases value with
    | text | list | object => exact absurd atom (by simp [isAtom])
    | null | bool | int | float => rw [lined, prettyAt, write]
  text _ _ := rfl
  list level items := by
    rw [lined, prettyAt, prettyItems_eq_map]
    exact toList_block '[' ']' level (prettyAt (level + 1)) items
  object level members := by
    rw [lined, prettyAt, prettyMembers_eq_map]
    have each (member : String × Json) : (writeText member.1 ++ ": " ++ member.2.prettyAt (level + 1)).toList =
        memberText (lined (level + 1)) member := by simp [memberText, lined]
    exact (toList_block '\x7b' '\x7d' level _ members).trans (by rw [funext each])

end Prism.Json
