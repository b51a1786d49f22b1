import Prism.Proofs.Document.Extent
import Prism.Proofs.Json.Atoms
import Prism.Proofs.Json.Sorting

namespace Prism.Json

variable {room : Room}

theorem all_congr {α : Type} {xs : List α} {p q : α → Bool} (each : ∀ x ∈ xs, p x = q x) : xs.all p = xs.all q := by
  rw [Bool.eq_iff_iff, List.all_eq_true, List.all_eq_true]
  exact forall₂_congr fun x inside => by rw [each x inside]

/-- The order of members does not matter. -/
theorem fits_sorted (value : Json) (depth : ℕ) : value.sorted.fits room depth = value.fits room depth := by
  induction value using nested generalizing depth with
  | null | bool | int | float | text => rfl
  | list items ih =>
    rw [sorted, fits, fits, sortedItems_eq_map, fitsItems_eq_all, fitsItems_eq_all, List.all_map]
    exact congrArg _ (all_congr fun item inside => ih item inside _)
  | object members ih =>
    rw [sorted_object, fits, fits, fitsMembers_eq_all, (inOrder_perm members).all_eq, sortedMembers_eq_map,
      fitsMembers_eq_all, List.all_map]
    exact congrArg _ (all_congr fun member inside => ih member inside _)

/-- Read to the end as that value if it keeps the limits, and ended at a limit otherwise. -/
inductive Reads {α : Type} (value : α) (rest : List Char) : Bool → Except Stop (α × List Char) → Prop
  | whole : Reads value rest true (.ok (value, rest))
  | limit (met : Limit) : Reads value rest false (.error (.limit met))

theorem Reads.bind {α β : Type} {value : α} {other : β} {rest behind : List Char} {kept keptToo : Bool}
    {scanned : Except Stop (α × List Char)} {next : α × List Char → Except Stop (β × List Char)}
    (first : Reads value rest kept scanned) (later : Reads other behind keptToo (next (value, rest))) :
    Reads other behind (kept && keptToo) (scanned >>= next) := by
  cases first with
  | whole => exact later
  | limit met => exact .limit met

theorem Reads.map {α β : Type} {value : α} {rest : List Char} {kept : Bool} {scanned : Except Stop (α × List Char)}
    (first : Reads value rest kept scanned) (f : α → β) :
    Reads (f value) rest kept (scanned >>= fun (found, left) => .ok (f found, left)) := by
  cases first with
  | whole => exact .whole
  | limit met => exact .limit met

theorem scanValue_of_isAtomChar (depth fuel : ℕ) {c : Char} (letter : isAtomChar c = true) (tail : List Char) :
    scanValue room depth (fuel + 1) (c :: tail) = match scanWord? (c :: tail), scanNumber? room (c :: tail) with
      | some found, _ => .ok found
      | none, some found => found
      | none, none => .error (.unexpected .value (c :: tail)) := by
  have other {mark : Char} {rest : List Char} (same : c :: tail = mark :: rest) : isAtomChar mark = true :=
    (List.cons.inj same).1 ▸ letter
  unfold scanValue
  split
  · next same => exact absurd (other same) (by decide)
  · next same => exact absurd (other same) (by decide)
  · next same => exact absurd (other same) (by decide)
  · rfl

theorem reads_word (depth fuel : ℕ) {value : Json} (atom : value.isAtom = true) (kept : value.fits room depth = true)
    {rest : List Char} (found : scanWord? (value.write.toList ++ rest) = some (value, rest)) :
    Reads value rest (value.fits room depth) (scanValue room depth (fuel + 1) (value.write.toList ++ rest)) := by
  obtain ⟨c, tail, shape, kind⟩ := isLayout_write.exists_cons 0 value
  have letter : isAtomChar c = true := by
    by_contra other
    rw [opening_of_isAtom atom, if_neg other] at kind
    exact absurd kind (by simp)
  rw [shape, List.cons_append] at found ⊢
  rw [scanValue_of_isAtomChar depth fuel letter, found, kept]
  exact .whole

theorem reads_number (depth fuel : ℕ) {negative : Bool} {digits rest : List Char} {value : Json} {kept : Bool}
    {scanned : Except Stop (Json × List Char)} (starts : ∃ c tail, digits = c :: tail ∧ c.isDigit = true)
    (found : scanNumber? room (sign negative ++ (digits ++ rest)) = some scanned)
    (reads : Reads value rest kept scanned) :
    Reads value rest kept (scanValue room depth (fuel + 1) (sign negative ++ (digits ++ rest))) := by
  obtain ⟨c, tail, rfl, digit⟩ := starts
  have noWord := scanWord?_sign negative digit (tail ++ rest)
  rw [List.cons_append] at found ⊢
  obtain ⟨d, text, shape, letter⟩ :
      ∃ d text, sign negative ++ c :: (tail ++ rest) = d :: text ∧ isAtomChar d = true := by
    cases negative with
    | false => exact ⟨c, _, rfl, by simp [isAtomChar, isNumberChar, digit]⟩
    | true => exact ⟨'-', _, rfl, by decide⟩
  rw [shape] at noWord found ⊢
  rw [scanValue_of_isAtomChar depth fuel letter, noWord, found]
  exact reads

theorem reads_int (depth fuel : ℕ) (n : ℤ) {rest : List Char} (ends : Ends rest) :
    Reads (.int n) rest (fits room depth (.int n)) (scanValue room depth (fuel + 1) (n.repr.toList ++ rest)) := by
  have found := scanNumber?_repr room n ends
  rw [toList_repr, List.append_assoc] at found ⊢
  refine reads_number depth fuel (exists_digit_toDigits _) found ?_
  rw [fits]
  cases room.spells n with
  | true => exact .whole
  | false => exact .limit _

theorem reads_atom (depth fuel : ℕ) {value : Json} (atom : value.isAtom = true) {rest : List Char} (ends : Ends rest) :
    Reads value rest (value.fits room depth) (scanValue room depth (fuel + 1) (value.write.toList ++ rest)) := by
  obtain ⟨ofNull, ofTrue, ofFalse⟩ := scanWord?_words rest
  cases value with
  | text | list | object => exact absurd atom (by simp [isAtom])
  | null => exact reads_word depth fuel rfl rfl ofNull
  | bool b =>
    cases b with
    | true => exact reads_word depth fuel rfl rfl ofTrue
    | false => exact reads_word depth fuel rfl rfl ofFalse
  | int n => exact reads_int depth fuel n ends
  | float x =>
    rcases writeFloat_cases x with ⟨d, finite, text⟩ | member
    · have found := scanNumber?_shortText room finite ends
      rw [write, text]
      rw [Decimal.shortText_of_finite finite, Decimal.toList_signed, List.append_assoc] at found ⊢
      exact reads_number depth fuel (Decimal.exists_shortDigits d) found .whole
    · exact reads_word depth fuel rfl rfl (scanWord?_of_mem_named member rest)

theorem toList_writeText_append (text : String) (rest : List Char) :
    (writeText text).toList ++ rest = '"' :: (text.toList.flatMap escapedChar ++ '"' :: rest) := by
  simp [writeText]

theorem reads_text (depth fuel : ℕ) (text : String) (rest : List Char) :
    Reads (.text text) rest true (scanValue room depth (fuel + 1) ((writeText text).toList ++ rest)) := by
  rw [toList_writeText_append, scanValue, scanText_escaped]
  change Reads (Json.text text) rest true (.ok (.text (String.ofList text.toList), rest))
  rw [String.ofList_toList]
  exact .whole

theorem skipSpaces_cons {c : Char} (letter : isSpace c = false) (rest : List Char) :
    skipSpaces (c :: rest) = c :: rest := by
  simp [skipSpaces, letter]

theorem skipSpaces_freshLine (level : ℕ) (rest : List Char) :
    skipSpaces ((freshLine level).toList ++ rest) = skipSpaces rest := by
  rw [skipSpaces, List.dropWhile_append_of_pos]
  · rfl
  · intro c member
    rw [freshLine, String.toList_ofList] at member
    rcases List.mem_cons.mp member with rfl | space
    · rfl
    · rw [List.eq_of_mem_replicate space]
      rfl

theorem skipSpaces_lined (level : ℕ) (value : Json) (rest : List Char) :
    skipSpaces (lined level value ++ rest) = lined level value ++ rest := by
  obtain ⟨c, tail, shape, noSpace, -⟩ := isLayout_lined.starts level value
  rw [shape]
  exact skipSpaces_cons noSpace _

/-- A value is read back at every level and depth, whatever stands behind it. -/
def ReadsBack (room : Room) (value : Json) : Prop :=
  ∀ level depth fuel {rest : List Char}, Ends rest → 2 * (lined level value).length ≤ fuel →
    Reads value rest (value.fits room depth) (scanValue room depth fuel (lined level value ++ rest))

/-- The items after the first, each on a line of its own. -/
def laterLines {α : Type} (level : ℕ) (encode : α → List Char) (items : List α) : List Char :=
  follows (freshLine level).toList encode items

theorem laterLines_cons {α : Type} (level : ℕ) (encode : α → List Char) (item : α) (items : List α) :
    laterLines level encode (item :: items) =
      ',' :: ((freshLine level).toList ++ (encode item ++ laterLines level encode items)) := by
  simp [laterLines, follows]

theorem ends_laterLines {α : Type} (level outer : ℕ) (encode : α → List Char) (items : List α) (rest : List Char) :
    Ends (laterLines level encode items ++ ((freshLine outer).toList ++ rest)) := by
  rw [freshLine, String.toList_ofList]
  exact ends_follows (by decide)

section Items

variable {items : List Json} {item : Json} (level outer depth : ℕ)

theorem reads_items (each : ∀ item ∈ items, ReadsBack room item) (first : ReadsBack room item) {fuel : ℕ}
    (rest : List Char) (enough : 2 * (lined level item ++ laterLines level (lined level) items).length < fuel) :
    Reads (item :: items) rest (fitsItems room depth (item :: items)) (scanItems room depth fuel (lined level item ++
      (laterLines level (lined level) items ++ ((freshLine outer).toList ++ ']' :: rest)))) := by
  induction items generalizing item fuel with
  | nil =>
    obtain ⟨fuel, rfl⟩ := Nat.exists_eq_add_one_of_ne_zero (show fuel ≠ 0 by omega)
    rw [List.length_append] at enough
    rw [scanItems]
    refine (first level depth fuel (ends_laterLines level outer _ _ _) (by omega)).bind ?_
    simp only [laterLines, follows, List.flatMap_nil, List.nil_append, skipSpaces_freshLine]
    exact .whole
  | cons next items ih =>
    obtain ⟨fuel, rfl⟩ := Nat.exists_eq_add_one_of_ne_zero (show fuel ≠ 0 by omega)
    have bound : 2 * (lined level next ++ laterLines level (lined level) items).length < fuel := by
      simp only [laterLines_cons, List.length_append, List.length_cons] at enough ⊢
      omega
    have later := ih (fun item member => each item (List.mem_cons_of_mem _ member)) (each next List.mem_cons_self) bound
    rw [List.length_append] at enough
    rw [scanItems]
    refine (first level depth fuel (ends_laterLines level outer _ _ _) (by omega)).bind ?_
    simp only [laterLines_cons, List.cons_append, List.append_assoc]
    rw [skipSpaces_cons (by decide)]
    simp only [skipSpaces_freshLine, skipSpaces_lined]
    exact later.map (item :: ·)

end Items

section Members

theorem setMember_of_fresh {name : String} {value : Json} {before : List (String × Json)}
    (fresh : name ∉ before.map (·.1)) : setMember name value before = before ++ [(name, value)] := by
  induction before with
  | nil => rfl
  | cons member before ih =>
    obtain ⟨key, old⟩ := member
    rw [List.map_cons, List.mem_cons, not_or] at fresh
    rw [setMember, if_neg (Ne.symm fresh.1), ih fresh.2, List.cons_append]

variable {members : List (String × Json)} {member : String × Json} (level outer depth : ℕ)

/-- The line of a member. -/
def memberLine (level : ℕ) : String × Json → List Char := memberText (lined level)

theorem memberLine_append (rest : List Char) : memberLine level member ++ rest =
    '"' :: (member.1.toList.flatMap escapedChar ++ '"' :: ':' :: ' ' :: (lined level member.2 ++ rest)) := by
  simp [memberLine, memberText, writeText]

theorem skipSpaces_memberLine (rest : List Char) :
    skipSpaces (memberLine level member ++ rest) = memberLine level member ++ rest := by
  rw [memberLine_append]
  exact skipSpaces_cons (by decide) _

theorem length_lined_le : (lined level member.2).length ≤ (memberLine level member).length := by
  simp only [memberLine, memberText, List.length_append, List.length_cons]
  omega

theorem fresh_of_nodup {before : List (String × Json)} (distinct : ((before ++ member :: members).map (·.1)).Nodup) :
    member.1 ∉ before.map (·.1) := by
  rw [List.map_append, List.nodup_append] at distinct
  exact fun inside => distinct.2.2 member.1 inside member.1 (by simp) rfl

/-- One member, and then what follows it. -/
theorem reads_member (first : ReadsBack room member.2) {before : List (String × Json)}
    (fresh : member.1 ∉ before.map (·.1)) {fuel : ℕ} (enough : 2 * (memberLine level member).length ≤ fuel)
    {behind : List Char} (ends : Ends behind)
    {found : List (String × Json)} {rest : List Char} {kept : Bool}
    (later : Reads found rest kept (match skipSpaces behind with
      | '\x7d' :: left => return (before ++ [member], left)
      | ',' :: left => scanMembers room depth fuel (before ++ [member]) (skipSpaces left)
      | left => throw (.unexpected .comma left))) :
    Reads found rest (member.2.fits room depth && kept)
      (scanMembers room depth (fuel + 1) before (memberLine level member ++ behind)) := by
  have step (x : List Char × List Char)
      (next : List Char × List Char → Except Stop (List (String × Json) × List Char)) :
      (Except.ok x >>= next) = next x := rfl
  have space (rest : List Char) : skipSpaces (' ' :: rest) = skipSpaces rest := rfl
  rw [memberLine_append, scanMembers, scanText_escaped, step]
  simp only [skipSpaces_cons (show isSpace ':' = false by decide), space, skipSpaces_lined]
  have short : (lined level member.2).length ≤ (memberLine level member).length := length_lined_le level
  refine (first level depth fuel ends (by omega)).bind ?_
  simp only [String.ofList_toList, setMember_of_fresh fresh]
  exact later

theorem reads_members (each : ∀ member ∈ members, ReadsBack room member.2) (first : ReadsBack room member.2) {fuel : ℕ}
    {before : List (String × Json)} (distinct : ((before ++ member :: members).map (·.1)).Nodup) (rest : List Char)
    (enough : 2 * (memberLine level member ++ laterLines level (memberLine level) members).length < fuel) :
    Reads (before ++ member :: members) rest (fitsMembers room depth (member :: members))
      (scanMembers room depth fuel before (memberLine level member ++
        (laterLines level (memberLine level) members ++ ((freshLine outer).toList ++ '\x7d' :: rest)))) := by
  induction members generalizing member before fuel with
  | nil =>
    obtain ⟨fuel, rfl⟩ := Nat.exists_eq_add_one_of_ne_zero (show fuel ≠ 0 by omega)
    rw [List.length_append] at enough
    refine reads_member level depth first (fresh_of_nodup distinct) (by omega) (ends_laterLines level outer _ _ _) ?_
    simp only [laterLines, follows, List.flatMap_nil, List.nil_append, skipSpaces_freshLine]
    exact .whole
  | cons next members ih =>
    obtain ⟨fuel, rfl⟩ := Nat.exists_eq_add_one_of_ne_zero (show fuel ≠ 0 by omega)
    have bound : 2 * (memberLine level next ++ laterLines level (memberLine level) members).length < fuel := by
      simp only [laterLines_cons, List.length_append, List.length_cons] at enough ⊢
      omega
    have apart : (((before ++ [member]) ++ next :: members).map (·.1)).Nodup := by simpa using distinct
    have later := ih (fun member inside => each member (List.mem_cons_of_mem _ inside)) (each next List.mem_cons_self)
      apart bound
    rw [List.length_append] at enough
    refine reads_member level depth first (fresh_of_nodup distinct) (by omega) (ends_laterLines level outer _ _ _) ?_
    simp only [laterLines_cons, List.cons_append, List.append_assoc]
    rw [skipSpaces_cons (by decide)]
    simp only [skipSpaces_freshLine, skipSpaces_memberLine]
    simpa using later

end Members

section Brackets

variable {depth fuel : ℕ} {rest inside : List Char}

theorem scanValue_list_nil (closed : skipSpaces rest = ']' :: inside) :
    scanValue room (depth + 1) (fuel + 1) ('[' :: rest) = .ok (.list [], inside) := by
  rw [scanValue.eq_def]
  simp only [closed]

theorem scanValue_list_cons (given : skipSpaces rest = inside) (filled : inside.head? ≠ some ']') :
    scanValue room (depth + 1) (fuel + 1) ('[' :: rest) =
      scanItems room depth fuel inside >>= fun (items, left) => .ok (.list items, left) := by
  rw [scanValue.eq_def]
  simp only [given]
  split
  · next impossible => exact absurd impossible (Nat.succ_ne_zero depth)
  · exact absurd rfl filled
  · next same _ =>
    obtain rfl := Nat.succ.inj same
    rfl

theorem scanValue_object_nil (closed : skipSpaces rest = '\x7d' :: inside) :
    scanValue room (depth + 1) (fuel + 1) ('\x7b' :: rest) = .ok (.object [], inside) := by
  rw [scanValue.eq_def]
  simp only [closed]

theorem scanValue_object_cons (given : skipSpaces rest = inside) (filled : inside.head? ≠ some '\x7d') :
    scanValue room (depth + 1) (fuel + 1) ('\x7b' :: rest) =
      scanMembers room depth fuel [] inside >>= fun (members, left) => .ok (.object members, left) := by
  rw [scanValue.eq_def]
  simp only [given]
  split
  · next impossible => exact absurd impossible (Nat.succ_ne_zero depth)
  · exact absurd rfl filled
  · next same _ =>
    obtain rfl := Nat.succ.inj same
    rfl

end Brackets

theorem readsBack_of_isAtom {value : Json} (atom : value.isAtom = true) : ReadsBack room value := by
  intro level depth fuel rest ends enough
  obtain ⟨c, tail, shape, -⟩ := isLayout_lined.starts level value
  obtain ⟨fuel, rfl⟩ := Nat.exists_eq_add_one_of_ne_zero (show fuel ≠ 0 by rintro rfl; simp [shape] at enough)
  rw [isLayout_lined.atom level atom]
  exact reads_atom depth fuel atom ends

theorem readsBack_list {items : List Json} (each : ∀ item ∈ items, ReadsBack room item) :
    ReadsBack room (.list items) := by
  intro level depth fuel rest _ enough
  rw [isLayout_lined.list] at enough ⊢
  obtain ⟨fuel, rfl⟩ := Nat.exists_eq_add_one_of_ne_zero (show fuel ≠ 0 by
    rintro rfl; cases items <;> simp [bracketed] at enough)
  cases depth with
  | zero =>
    cases items <;> rw [bracketed, List.cons_append, scanValue] <;> exact .limit _
  | succ depth =>
    cases items with
    | nil =>
      rw [bracketed, List.cons_append, List.singleton_append, scanValue_list_nil (skipSpaces_cons (by decide) _)]
      exact .whole
    | cons item items =>
      have bound : 2 * (lined (level + 1) item ++ laterLines (level + 1) (lined (level + 1)) items).length < fuel := by
        simp only [bracketed, List.length_append, List.length_cons, laterLines, lineGaps] at enough ⊢
        omega
      have later := reads_items (level + 1) level depth (fun item member => each item (List.mem_cons_of_mem _ member))
        (each item List.mem_cons_self) rest bound
      simp only [bracketed, List.cons_append, List.append_assoc, List.nil_append]
      rw [scanValue_list_cons (by rw [lineGaps, skipSpaces_freshLine, skipSpaces_lined])]
      · exact later.map list
      · obtain ⟨c, tail, shape, -, inside⟩ := isLayout_lined.starts (level + 1) item
        simp [shape, inside]

theorem readsBack_object {members : List (String × Json)} (each : ∀ member ∈ members, ReadsBack room member.2)
    (distinct : (members.map (·.1)).Nodup) : ReadsBack room (.object members) := by
  intro level depth fuel rest _ enough
  rw [isLayout_lined.object] at enough ⊢
  obtain ⟨fuel, rfl⟩ := Nat.exists_eq_add_one_of_ne_zero (show fuel ≠ 0 by
    rintro rfl; cases members <;> simp [bracketed] at enough)
  cases depth with
  | zero =>
    cases members <;> rw [bracketed, List.cons_append, scanValue] <;> exact .limit _
  | succ depth =>
    cases members with
    | nil =>
      rw [bracketed, List.cons_append, List.singleton_append, scanValue_object_nil (skipSpaces_cons (by decide) _)]
      exact .whole
    | cons member members =>
      have bound : 2 * (memberLine (level + 1) member ++
          laterLines (level + 1) (memberLine (level + 1)) members).length < fuel := by
        simp only [bracketed, List.length_append, List.length_cons, laterLines, lineGaps, memberLine] at enough ⊢
        omega
      have later := reads_members (level + 1) level depth
        (fun member inside => each member (List.mem_cons_of_mem _ inside)) (each member List.mem_cons_self)
        (show (([] ++ member :: members : List (String × Json)).map (·.1)).Nodup from distinct) rest bound
      simp only [bracketed, List.cons_append, List.append_assoc, List.nil_append]
      change Reads _ rest _ (scanValue room (depth + 1) (fuel + 1)
        ('\x7b' :: ((freshLine (level + 1)).toList ++ (memberLine (level + 1) member ++ _))))
      rw [scanValue_object_cons (by rw [skipSpaces_freshLine, skipSpaces_memberLine])]
      · exact later.map object
      · simp [memberLine_append]

/-- A value with distinct names is read back. What is inside a collection is read back first. -/
theorem readsBack {value : Json} (proper : value.IsProper) : ReadsBack room value := by
  induction value using nested with
  | null | bool | int | float => exact readsBack_of_isAtom rfl
  | text s =>
    intro level depth fuel rest _ enough
    rw [isLayout_lined.text] at enough ⊢
    obtain ⟨fuel, rfl⟩ := Nat.exists_eq_add_one_of_ne_zero (show fuel ≠ 0 by rintro rfl; simp [writeText] at enough)
    exact reads_text depth fuel s rest
  | list items ih => exact readsBack_list fun item inside => ih item inside (areProper_iff.mp proper item inside)
  | object members ih =>
    exact readsBack_object
      (fun member inside => ih member inside (areProperMembers_iff.mp proper.2 member inside)) proper.1

/-- A character that a file keeps as it is. -/
def isPlain (c : Char) : Bool := c.toNat < 128 && c ≠ '\r'

theorem isPlain_digitChar {digit : ℕ} (bound : digit < 16) : isPlain digit.digitChar = true := by
  interval_cases digit <;> rfl

theorem all_isPlain_unitEscape {unit : ℕ} (bound : unit < 65536) : (unitEscape unit).all isPlain = true := by
  rw [unitEscape, hexDigits_four bound]
  simp only [List.all_cons, List.all_nil, isPlain_digitChar (show unit / 4096 < 16 by omega),
    isPlain_digitChar (show unit / 256 % 16 < 16 by omega), isPlain_digitChar (show unit / 16 % 16 < 16 by omega),
    isPlain_digitChar (show unit % 16 < 16 by omega)]
  rfl

theorem all_isPlain_escapedChar (c : Char) : (escapedChar c).all isPlain = true := by
  have valid : c.toNat < 0x110000 := by
    rcases c.valid with small | big
    · exact lt_trans small (by norm_num)
    · exact big.2
  rw [escapedChar]
  split_ifs with quote slash newline carriage tab back feed plain small
  · rfl
  · rfl
  · rfl
  · rfl
  · rfl
  · rfl
  · rfl
  · simp only [Bool.and_eq_true, decide_eq_true_eq] at plain
    simp only [List.all_cons, List.all_nil, isPlain, carriage, Bool.and_true, decide_not, decide_false, Bool.not_false,
      decide_eq_true_eq]
    omega
  · exact all_isPlain_unitEscape small
  · rw [List.all_append, all_isPlain_unitEscape (by omega), all_isPlain_unitEscape (by omega)]
    rfl

theorem all_isPlain_writeText (text : String) : (writeText text).toList.all isPlain = true := by
  rw [writeText, String.toList_ofList]
  simp [List.all_flatMap, all_isPlain_escapedChar, isPlain]

theorem isPlain_of_isAtomChar {c : Char} (letter : isAtomChar c = true) : isPlain c = true := by
  have small : c.toNat < 128 := by
    simp only [isAtomChar, isNumberChar, Bool.or_eq_true, List.contains_iff_mem] at letter
    rcases letter with (digit | mark) | alpha
    · exact (Char.isDigit_iff_toNat.mp digit).2.trans_lt (by decide)
    · simp only [List.mem_cons, List.not_mem_nil, or_false] at mark
      rcases mark with rfl | rfl | rfl | rfl <;> decide
    · simp only [Char.isAlpha, Char.isUpper, Char.isLower, Bool.or_eq_true, Bool.and_eq_true, decide_eq_true_eq,
        UInt32.le_iff_toNat_le] at alpha
      rcases alpha with ⟨-, upper⟩ | ⟨-, lower⟩
      · exact lt_of_le_of_lt upper (by decide)
      · exact lt_of_le_of_lt lower (by decide)
  have other : c ≠ '\r' := by
    rintro rfl
    exact absurd letter (by decide)
  simp [isPlain, small, other]

theorem all_isPlain_freshLine (level : ℕ) : (freshLine level).toList.all isPlain = true := by
  simp [freshLine, isPlain]

theorem all_isPlain_bracketed {α : Type} {opening closing : Char} (start : isPlain opening = true)
    (stop : isPlain closing = true) (level : ℕ) {encode : α → List Char} {xs : List α}
    (each : ∀ x ∈ xs, (encode x).all isPlain = true) :
    (bracketed opening closing (lineGaps level) encode xs).all isPlain = true := by
  cases xs with
  | nil => simp [bracketed, start, stop]
  | cons x xs =>
    have later : (follows (lineGaps level).later encode xs).all isPlain = true := by
      rw [follows, List.all_flatMap, List.all_eq_true]
      intro x inside
      rw [List.all_cons, List.all_append, lineGaps, all_isPlain_freshLine, each x (List.mem_cons_of_mem _ inside)]
      rfl
    simp only [bracketed, List.all_cons, List.all_append, List.all_nil, start, stop, later, each x List.mem_cons_self]
    simp [lineGaps, all_isPlain_freshLine]

theorem all_isPlain_prettyAt (value : Json) (level : ℕ) : (value.prettyAt level).toList.all isPlain = true := by
  change (lined level value).all isPlain = true
  induction value using nested generalizing level with
  | null | bool | int | float =>
    rw [isLayout_lined.atom level rfl, List.all_eq_true]
    exact fun c member => isPlain_of_isAtomChar (List.all_eq_true.mp (all_isAtomChar_write rfl) c member)
  | text s => exact all_isPlain_writeText s
  | list items ih =>
    rw [isLayout_lined.list]
    exact all_isPlain_bracketed (by decide) (by decide) level fun item inside => ih item inside (level + 1)
  | object members ih =>
    rw [isLayout_lined.object]
    refine all_isPlain_bracketed (by decide) (by decide) level fun member inside => ?_
    rw [memberText, List.all_append, all_isPlain_writeText, List.all_cons, List.all_cons, ih member inside]
    rfl

/-- What is read from the text of a value is the value, unless it does not keep the limits. -/
theorem read_pretty {value : Json} (proper : value.IsProper) :
    value.fits room room.reading = true ∧ read room value.pretty = .ok value ∨
      value.fits room room.reading = false ∧ ∃ met, read room value.pretty = .error (.limit met) := by
  have noMark : value.pretty.toList.head? ≠ some '\ufeff' := by
    obtain ⟨c, tail, shape, -⟩ := isLayout_lined.starts 0 value
    have plain := all_isPlain_prettyAt value 0
    change (lined 0 value).head? ≠ _
    rw [lined] at shape
    rw [shape, List.all_cons, Bool.and_eq_true] at plain
    rw [lined, shape]
    rintro ⟨⟩
    exact absurd plain.1 (by decide)
  have reads : ReadsBack room value := readsBack proper
  have scanned := reads 0 room.reading (2 * value.pretty.toList.length + 2) ends_nil (Nat.le_add_right _ 2)
  have start : skipSpaces value.pretty.toList = value.pretty.toList := by
    simpa [pretty, lined] using skipSpaces_lined 0 value []
  rw [read, readChars, if_neg noMark, start]
  rw [List.append_nil] at scanned
  change Reads value [] _ (scanValue room room.reading _ value.pretty.toList) at scanned
  revert scanned
  generalize value.fits room room.reading = kept
  generalize scanValue room room.reading _ _ = found
  intro scanned
  cases scanned with
  | whole => exact .inl ⟨rfl, rfl⟩
  | limit met => exact .inr ⟨rfl, met, rfl⟩

end Prism.Json
