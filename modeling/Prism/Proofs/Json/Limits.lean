import Prism.Proofs.Document.Extent
import Prism.Proofs.Json.Writing
import Prism.Proofs.Utf8

namespace Prism.Json

theorem mem_setMember {name : String} {value : Json} {members : List (String × Json)} {member : String × Json}
    (inside : member ∈ setMember name value members) : member = (name, value) ∨ member ∈ members := by
  induction members with
  | nil => exact .inl (List.mem_singleton.mp inside)
  | cons first members ih =>
    rw [setMember] at inside
    split at inside
    · next same =>
      rcases List.mem_cons.mp inside with rfl | later
      · exact .inl (by rw [same])
      · exact .inr (List.mem_cons_of_mem _ later)
    · rcases List.mem_cons.mp inside with rfl | later
      · exact .inr List.mem_cons_self
      · exact (ih later).imp_right (List.mem_cons_of_mem _)

/-- A member that is set keeps the names distinct. -/
theorem nodup_setMember (name : String) (value : Json) {members : List (String × Json)}
    (distinct : (members.map (·.1)).Nodup) : ((setMember name value members).map (·.1)).Nodup := by
  induction members with
  | nil => exact List.nodup_singleton _
  | cons member members ih =>
    obtain ⟨fresh, later⟩ := List.nodup_cons.mp distinct
    rw [setMember]
    split
    · exact distinct
    · next other =>
      refine List.nodup_cons.mpr ⟨fun inside => ?_, ih later⟩
      obtain ⟨found, there, same⟩ := List.mem_map.mp inside
      rcases mem_setMember there with rfl | old
      · exact other same.symm
      · exact fresh (same ▸ List.mem_map_of_mem old)

/-- What a scan gives has the property and what it leaves is the end of what it was given; and no limit ends it in a
text that is modest. -/
def Proceeds {α : Type} (modest : Prop) (holds : α → Prop) (input : List Char)
    (scanned : Except Stop (α × List Char)) : Prop :=
  (∀ value rest, scanned = .ok (value, rest) → holds value ∧ rest <:+ input) ∧
    (modest → ∀ met, scanned ≠ .error (.limit met))

section Proceeds

variable {α β : Type} {modest : Prop} {holds : α → Prop} {input inner rest : List Char}
  {scanned : Except Stop (α × List Char)}

theorem proceeds_ok {value : α} (here : holds value) (behind : rest <:+ input) :
    Proceeds modest holds input (.ok (value, rest)) := by
  refine ⟨fun other left same => ?_, by simp⟩
  obtain ⟨rfl, rfl⟩ := Prod.mk.inj (Except.ok.inj same)
  exact ⟨here, behind⟩

theorem proceeds_unexpected (expectation : Expectation) (left : List Char) :
    Proceeds modest holds input (.error (.unexpected expectation left)) := by
  simp [Proceeds]

theorem proceeds_limit (met : Limit) (beyond : ¬ modest) : Proceeds modest holds input (.error (.limit met)) :=
  ⟨by simp, fun within => absurd within beyond⟩

theorem Proceeds.mono {less : Prop} (proceeds : Proceeds less holds inner scanned) (inside : inner <:+ input)
    (weaker : modest → less) : Proceeds modest holds input scanned :=
  ⟨fun value rest same => (proceeds.1 value rest same).imp_right (·.trans inside), fun within =>
    proceeds.2 (weaker within)⟩

theorem Proceeds.bind {holdsToo : β → Prop} (proceeds : Proceeds modest holds input scanned)
    {next : α × List Char → Except Stop (β × List Char)}
    (later : ∀ value rest, holds value → rest <:+ input → Proceeds modest holdsToo input (next (value, rest))) :
    Proceeds modest holdsToo input (scanned >>= next) := by
  cases scanned with
  | error stop =>
    cases stop with
    | unexpected expectation left => exact proceeds_unexpected expectation left
    | limit met => exact proceeds_limit met fun within => proceeds.2 within met rfl
  | ok pair =>
    obtain ⟨here, behind⟩ := proceeds.1 _ _ rfl
    exact later pair.1 pair.2 here behind

end Proceeds

theorem skipSpaces_suffix (input : List Char) : skipSpaces input <:+ input := List.dropWhile_suffix _

theorem suffix_of_skipSpaces {input rest : List Char} {c : Char} (here : skipSpaces input = c :: rest) :
    rest <:+ input :=
  (here ▸ List.suffix_cons ..).trans (skipSpaces_suffix input)

/-- What stands behind a mark and the blanks around it. -/
theorem suffix_of_mark {input left rest : List Char} {c : Char} (here : skipSpaces left = c :: rest)
    (behind : left <:+ input) : skipSpaces rest <:+ input :=
  ((skipSpaces_suffix rest).trans (suffix_of_skipSpaces here)).trans behind

theorem proceeds_follow {modest : Prop} {input more : List Char} {scanned : Except Stop (List Char × List Char)}
    (c : Char) (proceeds : Proceeds modest (fun _ => True) more scanned) (inside : more <:+ input) :
    Proceeds modest (fun _ => True) input (follow c scanned) :=
  (proceeds.mono inside id).bind fun _ _ _ behind => proceeds_ok trivial behind

theorem proceeds_scanText (modest : Prop) (opened input : List Char) :
    Proceeds modest (fun _ => True) input (scanText opened input) := by
  fun_induction scanText opened input
  case case2 => exact proceeds_ok trivial (List.suffix_cons ..)
  case case5 ih | case8 ih | case9 ih | case10 ih =>
    exact proceeds_follow _ ih (List.suffix_append [_, _, _, _, _, _] _)
  case case7 _ ih => exact proceeds_follow _ ih (List.suffix_append [_, _, _, _, _, _, _, _, _, _, _, _] _)
  case case14 ih => exact proceeds_follow _ ih (List.suffix_append [_, _] _)
  case case16 ih => exact proceeds_follow _ ih (List.suffix_cons ..)
  all_goals exact proceeds_unexpected _ _

/-- The brackets that lead one level deeper. -/
def isOpening (c : Char) : Bool := c = '[' || c = '\x7b'

/-- A text that opens at most so many lists and objects and has no longer row of digits than a whole number may have. -/
structure IsModest (room : Room) (depth : ℕ) (input : List Char) : Prop where
  shallow : input.countP isOpening ≤ depth
  short : ∀ digits, digits <:+: input → digits.all Char.isDigit = true → room.admits digits.length = true

section Modest

variable {room : Room} {depth : ℕ} {input rest : List Char}

theorem IsModest.of_suffix (modest : IsModest room depth input) (behind : rest <:+ input) :
    IsModest room depth rest where
  shallow := (behind.sublist.countP_le).trans modest.shallow
  short digits inside := modest.short digits (inside.trans behind.isInfix)

/-- A row of digits inside one that may be read may be read. -/
theorem admits_of_le {count more : ℕ} (few : count ≤ more) (admitted : room.admits more = true) :
    room.admits count = true := by
  rw [Room.admits, Option.all_eq_true] at admitted ⊢
  exact fun most limit => decide_eq_true (few.trans (of_decide_eq_true (admitted most limit)))

/-- A text with fewer characters than levels, and than a number may have, is modest. -/
theorem isModest_of_length_le (few : input.length ≤ depth) (admitted : room.admits input.length = true) :
    IsModest room depth input where
  shallow := List.countP_le_length.trans few
  short _ inside _ := admits_of_le inside.length_le admitted

/-- An opening bracket takes one level. -/
theorem IsModest.opened {c : Char} (opens : isOpening c = true) (modest : IsModest room (depth + 1) (c :: rest)) :
    IsModest room depth rest := by
  have shallow := modest.shallow
  rw [List.countP_cons_of_pos opens] at shallow
  exact ⟨by omega, (modest.of_suffix (List.suffix_cons ..)).short⟩

theorem not_isModest_zero {c : Char} (opens : isOpening c = true) : ¬ IsModest room 0 (c :: rest) := by
  intro modest
  have shallow := modest.shallow
  rw [List.countP_cons_of_pos opens] at shallow
  omega

theorem scanFraction_suffix (input : List Char) : (scanFraction input).2 <:+ input := by
  fun_cases scanFraction input
  · exact List.suffix_refl _
  · exact (List.dropWhile_suffix _).trans (List.suffix_cons ..)
  · exact List.suffix_refl _

theorem drop_if_suffix (test : Prop) [Decidable test] (input : List Char) :
    (if test then input.drop 1 else input) <:+ input := by
  split
  · exact List.drop_suffix 1 input
  · exact List.suffix_refl input

theorem scanPower_suffix (input : List Char) : (scanPower input).2 <:+ input := by
  fun_cases scanPower input
  case case4 => exact ((List.dropWhile_suffix _).trans (drop_if_suffix ..)).trans (List.suffix_cons ..)
  all_goals exact List.suffix_refl _

theorem digitsValue_lt {digits : List Char} (all : digits.all Char.isDigit = true) :
    digitsValue digits < 10 ^ digits.length := by
  induction digits using List.reverseRecOn with
  | nil => decide
  | append_singleton digits c ih =>
    rw [List.all_append, Bool.and_eq_true] at all
    have below := ih all.1
    have digit : c.toNat ≤ 57 := by
      have here := all.2
      simp only [List.all_cons, List.all_nil, Bool.and_true, Char.isDigit, Bool.and_eq_true, decide_eq_true_eq] at here
      exact here.2
    rw [digitsValue, List.foldl_append, ← digitsValue, List.length_append, List.length_singleton, pow_succ]
    simp only [List.foldl_cons, List.foldl_nil]
    omega

/-- A whole number that is read can be written. -/
theorem spells_of_admits {digits : List Char} (all : digits.all Char.isDigit = true) (filled : digits ≠ [])
    (admitted : room.admits digits.length = true) (negative : Prop) [Decidable negative] :
    room.spells (if negative then -(digitsValue digits : ℤ) else digitsValue digits) = true := by
  have size : (if negative then -(digitsValue digits : ℤ) else digitsValue digits).natAbs = digitsValue digits := by
    split <;> simp
  rw [Room.spells, size]
  exact admits_of_le (Nat.toDigits_length 10 _ _ (List.length_pos_iff.mpr filled) (digitsValue_lt all)) admitted

/-- How deep the values of a text may lie. -/
def openings (input : List Char) : ℕ := input.countP isOpening

theorem openings_le_of_suffix (behind : rest <:+ input) : openings rest ≤ openings input :=
  behind.sublist.countP_le

/-- A value with distinct names that lies no deeper than the text opens brackets, and whose numbers can be written. -/
def IsScanned (room : Room) (input : List Char) (value : Json) : Prop :=
  value.IsProper ∧ value.fits room (openings input) = true

theorem IsScanned.mono {value : Json} (scanned : IsScanned room rest value) (behind : rest <:+ input) :
    IsScanned room input value :=
  ⟨scanned.1, fits_mono scanned.2 (openings_le_of_suffix behind)⟩

theorem isScanned_list {c : Char} (opens : isOpening c = true) {items : List Json}
    (each : ∀ item ∈ items, IsScanned room rest item) : IsScanned room (c :: rest) (list items) := by
  refine ⟨areProper_iff.mpr fun item inside => (each item inside).1, fits_list_iff.mpr ?_⟩
  rw [openings, List.countP_cons_of_pos opens]
  exact ⟨by omega, fun item inside => (each item inside).2⟩

theorem isScanned_object {c : Char} (opens : isOpening c = true) {members : List (String × Json)}
    (distinct : (members.map (·.1)).Nodup) (each : ∀ member ∈ members, IsScanned room rest member.2) :
    IsScanned room (c :: rest) (object members) := by
  refine ⟨⟨distinct, areProperMembers_iff.mpr fun member inside => (each member inside).1⟩, fits_object_iff.mpr ?_⟩
  rw [openings, List.countP_cons_of_pos opens]
  exact ⟨by omega, fun member inside => (each member inside).2⟩

/-- Only a row of digits that is too long ends a number at a limit. -/
theorem proceeds_scanNumber? {scanned : Except Stop (Json × List Char)}
    (found : scanNumber? room input = some scanned) :
    Proceeds (IsModest room depth input) (IsScanned room input) input scanned := by
  unfold scanNumber? at found
  extract_lets negative unsigned whole size at found
  have inside : unsigned <:+ input := drop_if_suffix ..
  have digits : whole <+: unsigned ∧ whole.all Char.isDigit = true := by
    simp only [whole]
    generalize unsigned = text
    split
    · exact ⟨⟨_, rfl⟩, rfl⟩
    · exact ⟨List.takeWhile_prefix _, List.all_takeWhile⟩
  by_cases none : whole.isEmpty = true
  · simp [none] at found
  rw [if_neg none] at found
  have left : (scanPower (scanFraction (unsigned.drop whole.length)).2).2 <:+ input :=
    (((scanPower_suffix _).trans (scanFraction_suffix _)).trans (List.drop_suffix ..)).trans inside
  obtain ⟨fraction, middle, first⟩ :
      ∃ fraction middle, scanFraction (unsigned.drop whole.length) = (fraction, middle) := ⟨_, _, rfl⟩
  obtain ⟨power, rest, second⟩ : ∃ power rest, scanPower middle = (power, rest) := ⟨_, _, rfl⟩
  rw [first] at found left
  dsimp only at found left
  rw [second] at found left
  dsimp only at found left
  by_cases integral : (fraction.isNone && power.isNone) = true
  · rw [if_pos integral] at found
    by_cases short : room.admits whole.length = true
    · rw [if_pos short] at found
      rw [← Option.some.inj found]
      exact proceeds_ok ⟨trivial, spells_of_admits digits.2 (by simpa using none) short negative⟩ left
    · rw [if_neg short] at found
      rw [← Option.some.inj found]
      refine proceeds_limit _ fun modest => short ?_
      exact modest.short whole (digits.1.isInfix.trans inside.isInfix) digits.2
  · rw [if_neg integral] at found
    rw [← Option.some.inj found]
    exact proceeds_ok ⟨trivial, rfl⟩ left

theorem scanWord?_cases {input rest : List Char} {value : Json} (found : scanWord? input = some (value, rest)) :
    (value = .null ∨ (∃ b, value = .bool b) ∨ ∃ x, value = .float x) ∧ rest <:+ input := by
  have word {name : String} {given : Json}
      (here : (if name.toList.isPrefixOf input then some (given, input.drop name.length) else none) =
        some (value, rest)) : value = given ∧ rest <:+ input := by
    split at here
    · obtain ⟨rfl, rfl⟩ := Prod.mk.inj (Option.some.inj here)
      exact ⟨rfl, List.drop_suffix ..⟩
    · exact absurd here (by simp)
  rcases eq_some_of_orElse found with here | found
  · exact (word here).imp_left .inl
  rcases eq_some_of_orElse found with here | found
  · exact (word here).imp_left fun same => .inr (.inl ⟨true, same⟩)
  rcases eq_some_of_orElse found with here | found
  · exact (word here).imp_left fun same => .inr (.inl ⟨false, same⟩)
  rcases eq_some_of_orElse found with here | found
  · exact (word here).imp_left fun same => .inr (.inr ⟨_, same⟩)
  rcases eq_some_of_orElse found with here | here <;>
    exact (word here).imp_left fun same => .inr (.inr ⟨_, same⟩)

theorem proceeds_scanAtom :
    Proceeds (IsModest room depth input) (IsScanned room input) input
      (match scanWord? input, scanNumber? room input with
      | some found, _ => .ok found
      | none, some found => found
      | none, none => .error (.unexpected .value input)) := by
  split
  · next word =>
    obtain ⟨plain, behind⟩ := scanWord?_cases word
    refine proceeds_ok ?_ behind
    rcases plain with same | ⟨b, same⟩ | ⟨x, same⟩ <;> exact same ▸ ⟨trivial, rfl⟩
  · next number => exact proceeds_scanNumber? number
  · exact proceeds_unexpected ..

/-- Whatever is scanned has distinct names and lies no deeper than brackets are opened, and the scan of a modest text
ends at no limit: each opening bracket takes one level and one bracket. -/
theorem proceeds_scan (fuel : ℕ) :
    (∀ depth input, Proceeds (IsModest room depth input) (IsScanned room input) input
      (scanValue room depth fuel input)) ∧
    (∀ depth input, Proceeds (IsModest room depth input) (∀ item ∈ ·, IsScanned room input item) input
      (scanItems room depth fuel input)) ∧
    ∀ depth before input outer, input <:+ outer → (before.map (·.1)).Nodup →
      (∀ member ∈ before, IsScanned room outer member.2) → Proceeds (IsModest room depth input)
        (fun members => (members.map (·.1)).Nodup ∧ ∀ member ∈ members, IsScanned room outer member.2) input
        (scanMembers room depth fuel before input) := by
  induction fuel with
  | zero => simp [scanValue, scanItems, scanMembers, proceeds_unexpected]
  | succ fuel ih =>
    obtain ⟨ofValue, ofItems, ofMembers⟩ := ih
    refine ⟨fun depth input => ?_, fun depth input => ?_, fun depth before input outer ends distinct each => ?_⟩
    · unfold scanValue
      split
      · exact ((proceeds_scanText _ _ _).mono (List.suffix_cons ..) id).bind fun _ _ _ behind =>
          proceeds_ok ⟨trivial, rfl⟩ behind
      · next rest =>
        split
        · exact proceeds_limit _ (not_isModest_zero rfl)
        · next closed =>
          exact proceeds_ok (isScanned_list rfl (by simp)) ((suffix_of_skipSpaces closed).trans (List.suffix_cons ..))
        · have inside := skipSpaces_suffix rest
          exact ((ofItems _ _).mono (inside.trans (List.suffix_cons ..)) fun modest =>
            (modest.opened rfl).of_suffix inside).bind fun _ _ each behind =>
            proceeds_ok (isScanned_list rfl fun item member => (each item member).mono inside) behind
      · next rest =>
        split
        · exact proceeds_limit _ (not_isModest_zero rfl)
        · next closed =>
          exact proceeds_ok (isScanned_object rfl List.nodup_nil (by simp))
            ((suffix_of_skipSpaces closed).trans (List.suffix_cons ..))
        · have inside := skipSpaces_suffix rest
          exact ((ofMembers _ [] _ rest inside List.nodup_nil (by simp)).mono (inside.trans (List.suffix_cons ..))
            fun modest => (modest.opened rfl).of_suffix inside).bind fun _ _ each behind =>
            proceeds_ok (isScanned_object rfl each.1 each.2) behind
      · exact proceeds_scanAtom
    · unfold scanItems
      refine (ofValue depth input).bind fun item left own behind => ?_
      dsimp only
      split
      · next closed =>
        exact proceeds_ok (List.forall_mem_singleton.mpr own) ((suffix_of_skipSpaces closed).trans behind)
      · next more =>
        have inside := suffix_of_mark more behind
        exact ((ofItems _ _).mono inside (·.of_suffix inside)).bind fun _ _ each behind =>
          proceeds_ok (List.forall_mem_cons.mpr ⟨own, fun item member => (each item member).mono inside⟩) behind
      · exact proceeds_unexpected ..
    · unfold scanMembers
      split
      · refine ((proceeds_scanText _ _ _).mono (List.suffix_cons ..) id).bind fun name left _ behind => ?_
        dsimp only
        split
        · next named =>
          have inside := suffix_of_mark named behind
          refine ((ofValue _ _).mono inside (·.of_suffix inside)).bind fun value left own behind => ?_
          have apart := nodup_setMember (String.ofList name) value distinct
          have now : ∀ member ∈ setMember (String.ofList name) value before, IsScanned room outer member.2 := by
            intro member among
            rcases mem_setMember among with rfl | old
            · exact own.mono (inside.trans ends)
            · exact each member old
          dsimp only
          split
          · next closed => exact proceeds_ok ⟨apart, now⟩ ((suffix_of_skipSpaces closed).trans behind)
          · next more =>
            have inside := suffix_of_mark more behind
            exact (ofMembers _ _ _ outer (inside.trans ends) apart now).mono inside (·.of_suffix inside)
          · exact proceeds_unexpected ..
        · exact proceeds_unexpected ..
      · exact proceeds_unexpected ..

end Modest

theorem limit_of_fault {input : List Char} {stop : Stop} {met : Limit} (same : stop.fault input = .limit met) :
    stop = .limit met := by
  cases stop with
  | unexpected expectation left => exact absurd same (by simp [Stop.fault])
  | limit other => exact congrArg Stop.limit (ReadFault.limit.inj same)

/-- What is read was scanned, and only a scan ends at a limit. -/
theorem read_spec (room : Room) (text : String) :
    (∀ value, read room text = .ok value → IsScanned room text.toList value) ∧
    (IsModest room room.reading text.toList → ∀ met, read room text ≠ .error (.limit met)) := by
  obtain ⟨scans, unlimited⟩ := (proceeds_scan (2 * text.toList.length + 2)).1 room.reading (skipSpaces text.toList)
  have inside := skipSpaces_suffix text.toList
  rw [read, readChars]
  split
  · simp
  · split
    · next scanned =>
      refine ⟨by simp, fun modest met ended => ?_⟩
      obtain rfl := limit_of_fault (Except.error.inj ended)
      exact unlimited (modest.of_suffix inside) met scanned
    · next scanned =>
      split
      · refine ⟨fun other same => ?_, by simp⟩
        exact Except.ok.inj same ▸ (scans _ _ scanned).1.mono inside
      · exact ⟨by simp, fun _ met ended => absurd (limit_of_fault (Except.error.inj ended)) (by simp)⟩

/-- Whatever is read has distinct names. -/
theorem isProper_of_read {room : Room} {text : String} {value : Json} (ok : read room text = .ok value) :
    value.IsProper :=
  ((read_spec room text).1 value ok).1

/-- What is read from a modest text lies no deeper than the text does. -/
theorem fits_of_read {room : Room} {depth : ℕ} {text : String} {value : Json} (ok : read room text = .ok value)
    (modest : IsModest room depth text.toList) : value.fits room depth = true :=
  fits_mono ((read_spec room text).1 value ok).2 modest.shallow

/-- A modest text is read, or refused for what it says. -/
theorem read_ne_limit {room : Room} {text : String} (modest : IsModest room room.reading text.toList) (met : Limit) :
    read room text ≠ .error (.limit met) :=
  (read_spec room text).2 modest met

end Prism.Json

namespace Prism.Stored

/-- What is found has a name, and is no file of octets or one of a text that meets no limit. -/
def IsLegible (room : Room) (stored : Stored) : Prop :=
  stored ≠ .nullName ∧
    ∀ values, stored = .octets values → ∃ text, stored.Reads text ∧ ∀ met, Json.read room text ≠ .error (.limit met)

theorem isLegible_of_isModest {room : Room} {stored : Stored} {text : String} (reads : stored.Reads text)
    (modest : Json.IsModest room room.reading text.toList) : stored.IsLegible room := by
  refine ⟨?_, fun _ _ => ⟨text, reads, Json.read_ne_limit modest⟩⟩
  rintro rfl
  exact nomatch reads

end Prism.Stored
