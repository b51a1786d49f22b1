import Prism.Check.Toml
import Prism.Proofs.Json.Writing
import Prism.Template.Project

namespace Prism.Toml

/-- What is written for a character of a JSON text. -/
def safe (c : Char) : List Char :=
  if c = '<' || c = '>' || c = '&' || c = '\'' then Json.unitEscape c.toNat else [c]

/-- What is written for a character of a text. -/
def scriptChar (c : Char) : List Char := (Json.escapedChar c).flatMap safe

theorem toList_scriptLiteral (text : String) :
    (Template.scriptLiteral text).toList = '"' :: text.toList.flatMap scriptChar ++ ['"'] := by
  have written : (Template.scriptLiteral text).toList = (Json.writeText text).toList.flatMap safe :=
    String.toList_ofList
  rw [written, Json.writeText, String.toList_ofList, List.flatMap_append, List.flatMap_cons, List.flatMap_assoc]
  rfl

theorem flatMap_safe_unitEscape {unit : Nat} (bound : unit < 65536) :
    (Json.unitEscape unit).flatMap safe = Json.unitEscape unit := by
  have digit {n : Nat} (small : n < 16) : safe n.digitChar = [n.digitChar] := by interval_cases n <;> decide
  rw [Json.unitEscape, Json.hexDigits_four bound]
  simp only [List.flatMap_cons, List.flatMap_nil, digit (show unit / 4096 < 16 by omega),
    digit (show unit / 256 % 16 < 16 by omega), digit (show unit / 16 % 16 < 16 by omega),
    digit (show unit % 16 < 16 by omega)]
  rfl

/-- A unit is the number of a character, unless it is half of a pair. -/
theorem numberedEscape_hexDigits {unit : Nat} (bound : unit < 65536) (more : Rest) :
    numberedEscape 4 (Text.hexDigits 4 unit ++ more) =
      if unit < 0xd800 ∨ 0xe000 ≤ unit then .ok (Char.ofNat unit, more)
      else stop "Escaped character is not a Unicode scalar value" more := by
  have digits : (Text.hexDigits 4 unit).filterMap Json.hexValue? =
      [unit / 4096, unit / 256 % 16, unit / 16 % 16, unit % 16] := by
    rw [Json.hexDigits_four bound]
    simp only [List.filterMap_cons, Json.hexValue?_digitChar (show unit / 4096 < 16 by omega),
      Json.hexValue?_digitChar (show unit / 256 % 16 < 16 by omega),
      Json.hexValue?_digitChar (show unit / 16 % 16 < 16 by omega),
      Json.hexValue?_digitChar (show unit % 16 < 16 by omega), List.filterMap_nil]
  have four : (Text.hexDigits 4 unit).length = 4 := by rw [Json.hexDigits_four bound]; rfl
  have value : 16 * (16 * (16 * (16 * 0 + unit / 4096) + unit / 256 % 16) + unit / 16 % 16) + unit % 16 = unit := by
    omega
  rw [numberedEscape, List.take_left' four, List.drop_left' four, digits]
  simp only [List.length_cons, List.length_nil, List.foldl_cons, List.foldl_nil, value]
  rw [if_neg (by decide)]
  refine if_congr ?_ rfl rfl
  simp only [Bool.or_eq_true, Bool.and_eq_true, decide_eq_true_eq]
  omega

theorem basicText_escape {after piece rest : Rest} (escaped : escape false after = .ok (piece, rest)) (fuel : Nat) :
    basicText false (fuel + 1) ('\\' :: after) =
      (basicText false fuel rest).map fun read => (piece ++ read.1, read.2) := by
  rw [basicText, escaped]
  cases read : basicText false fuel rest <;> simp [bind, Except.bind, Except.map, pure, Except.pure, read]

theorem basicText_plain {c : Char} (quote : c ≠ '"') (slash : c ≠ '\\') (plain : isControl c = false) (fuel : Nat)
    (rest : Rest) :
    basicText false (fuel + 1) (c :: rest) = (basicText false fuel rest).map fun read => (c :: read.1, read.2) := by
  rw [basicText.eq_def]
  simp only [plain]
  cases basicText false fuel rest <;> simp [bind, Except.bind, Except.map, pure, Except.pure]

/-- A letter stands for a character where it numbers none. -/
theorem basicText_shortEscape {letter c : Char} (short : shortEscape? letter = some c) (small : letter ≠ 'u')
    (large : letter ≠ 'U') (fuel : Nat) (rest : Rest) :
    basicText false (fuel + 1) ('\\' :: letter :: rest) =
      (basicText false fuel rest).map fun read => (c :: read.1, read.2) := by
  have escaped : escape false (letter :: rest) = .ok ([c], rest) := by
    simp only [escape, Bool.false_and, Bool.false_eq_true, if_false, small, large, short]
  exact basicText_escape escaped fuel

theorem basicText_unitEscape {c : Char} (single : c.toNat < 0x10000) (fuel : Nat) (rest : Rest) :
    basicText false (fuel + 1) (Json.unitEscape c.toNat ++ rest) =
      (basicText false fuel rest).map fun read => (c :: read.1, read.2) := by
  have valid : c.toNat < 0xd800 ∨ 0xe000 ≤ c.toNat := c.valid.imp_right And.left
  have escaped : escape false ('u' :: (Text.hexDigits 4 c.toNat ++ rest)) = .ok ([c], rest) := by
    rw [escape, numberedEscape_hexDigits single, if_pos valid, Char.ofNat_toNat]
    rfl
  exact basicText_escape escaped fuel

theorem basicText_scriptChar {c : Char} (single : c.toNat < 0x10000) (fuel : Nat) (more : Rest) :
    basicText false (fuel + 1) (scriptChar c ++ more) =
      (basicText false fuel more).map fun read => (c :: read.1, read.2) := by
  rw [scriptChar, Json.escapedChar]
  split_ifs with quote slash newline carriage tab back feed plain
  · subst quote
    exact basicText_shortEscape rfl (by decide) (by decide) fuel more
  · subst slash
    exact basicText_shortEscape rfl (by decide) (by decide) fuel more
  · subst newline
    exact basicText_shortEscape rfl (by decide) (by decide) fuel more
  · subst carriage
    exact basicText_shortEscape rfl (by decide) (by decide) fuel more
  · subst tab
    exact basicText_shortEscape rfl (by decide) (by decide) fuel more
  · have code : c = '\x08' := Char.toNat_inj.mp back
    subst code
    exact basicText_shortEscape rfl (by decide) (by decide) fuel more
  · have code : c = '\x0c' := Char.toNat_inj.mp feed
    subst code
    exact basicText_shortEscape rfl (by decide) (by decide) fuel more
  · rw [List.flatMap_singleton, safe]
    split
    · exact basicText_unitEscape single fuel more
    · simp only [Bool.and_eq_true, decide_eq_true_eq] at plain
      refine basicText_plain quote slash ?_ fuel more
      simp only [isControl, Bool.or_eq_false_iff, Bool.and_eq_false_iff, decide_eq_false_iff_not]
      omega
  · rw [flatMap_safe_unitEscape single]
    exact basicText_unitEscape single fuel more

/-- A character beyond the units begins with half of a pair, which is refused. -/
theorem basicText_scriptChar_of_large {c : Char} (large : 0x10000 ≤ c.toNat) (fuel : Nat) (more : Rest) :
    ∃ flaw, basicText false (fuel + 1) (scriptChar c ++ more) = .error flaw := by
  have bound : c.toNat < 0x110000 := c.valid.elim (lt_trans · (by norm_num)) And.right
  have written : scriptChar c = Json.unitEscape (0xd800 + (c.toNat - 0x10000) / 1024) ++
      Json.unitEscape (0xdc00 + (c.toNat - 0x10000) % 1024) := by
    have other (d : Char) (small : d.toNat < 0x10000) : c ≠ d := fun same => by rw [same] at large; omega
    rw [scriptChar, Json.escapedChar, if_neg (other _ (by decide)), if_neg (other _ (by decide)),
      if_neg (other _ (by decide)), if_neg (other _ (by decide)), if_neg (other _ (by decide)), if_neg (by omega),
      if_neg (by omega), if_neg (by simp only [Bool.and_eq_true, decide_eq_true_eq]; omega), if_neg (by omega)]
    rw [List.flatMap_append, flatMap_safe_unitEscape (by omega), flatMap_safe_unitEscape (by omega)]
  rw [written, List.append_assoc]
  generalize unit : 0xd800 + (c.toNat - 0x10000) / 1024 = high
  generalize Json.unitEscape (0xdc00 + (c.toNat - 0x10000) % 1024) ++ more = rest
  have half : ¬(high < 0xd800 ∨ 0xe000 ≤ high) := by omega
  have refused : escape false ('u' :: (Text.hexDigits 4 high ++ rest)) =
      stop "Escaped character is not a Unicode scalar value" rest := by
    rw [escape, numberedEscape_hexDigits (by omega), if_neg half]
    rfl
  rw [Json.unitEscape, List.cons_append, List.cons_append, basicText, refused]
  exact ⟨_, rfl⟩

theorem basicText_scriptChars {text : List Char} (single : ∀ c ∈ text, c.toNat < 0x10000) {fuel : Nat}
    (enough : text.length < fuel) (rest : Rest) :
    basicText false fuel (text.flatMap scriptChar ++ '"' :: rest) = .ok (text, rest) := by
  induction text generalizing fuel with
  | nil =>
    obtain ⟨fuel, rfl⟩ := Nat.exists_eq_succ_of_ne_zero (Nat.ne_zero_of_lt enough)
    rfl
  | cons c text ih =>
    obtain ⟨fuel, rfl⟩ := Nat.exists_eq_add_of_lt enough
    have later : text.length < text.length + 1 + fuel := by omega
    rw [List.flatMap_cons, List.append_assoc, List.length_cons,
      basicText_scriptChar (single c List.mem_cons_self), ih (fun d mem => single d (List.mem_cons_of_mem _ mem)) later]
    rfl

/-- The characters before the first large one are read, whatever they are. -/
theorem basicText_scriptChars_of_large {text : List Char} {large : Char} (mem : large ∈ text)
    (beyond : 0x10000 ≤ large.toNat) (fuel : Nat) (rest : Rest) :
    ∃ flaw, basicText false fuel (text.flatMap scriptChar ++ rest) = .error flaw := by
  induction text generalizing fuel with
  | nil => exact absurd mem List.not_mem_nil
  | cons c text ih =>
    rw [List.flatMap_cons, List.append_assoc]
    cases fuel with
    | zero => exact ⟨_, rfl⟩
    | succ fuel =>
      rcases Nat.lt_or_ge c.toNat 0x10000 with single | here
      · have later : large ∈ text := (List.mem_cons.mp mem).resolve_left fun same => by
          rw [same] at beyond
          omega
        obtain ⟨flaw, failed⟩ := ih later fuel
        exact ⟨flaw, by rw [basicText_scriptChar single, failed]; rfl⟩
      · exact basicText_scriptChar_of_large here fuel _

theorem oneLineText_scriptLiteral (text : String) (rest : Rest) :
    oneLineText ((Template.scriptLiteral text).toList ++ rest) = basicText false
      (('"' :: (text.toList.flatMap scriptChar ++ '"' :: rest)).length + 1)
      (text.toList.flatMap scriptChar ++ '"' :: rest) := by
  rw [toList_scriptLiteral, List.cons_append, List.cons_append, List.append_assoc]
  rfl

theorem scriptChar_ne_nil (c : Char) : scriptChar c ≠ [] := by
  have kept (d : Char) (others : List Char) : (d :: others).flatMap safe ≠ [] := by
    rw [List.flatMap_cons, safe]
    split <;> exact List.cons_ne_nil _ _
  rw [scriptChar, Json.escapedChar]
  split_ifs <;> exact kept _ _

theorem oneLineText_scriptLiteral_of_single {text : String} (single : ∀ c ∈ text.toList, c.toNat < 0x10000)
    (rest : Rest) : oneLineText ((Template.scriptLiteral text).toList ++ rest) = .ok (text.toList, rest) := by
  rw [oneLineText_scriptLiteral]
  refine basicText_scriptChars single ?_ rest
  have grown (chars : List Char) : chars.length ≤ (chars.flatMap scriptChar).length := by
    induction chars with
    | nil => rfl
    | cons c chars ih =>
      have one := List.length_pos_iff.mpr (scriptChar_ne_nil c)
      rw [List.flatMap_cons, List.length_append, List.length_cons]
      omega
  have := grown text.toList
  rw [List.length_cons, List.length_append]
  omega

theorem exists_error_scriptLiteral {text : String} (large : ∃ c ∈ text.toList, 0x10000 ≤ c.toNat) (rest : Rest) :
    ∃ flaw, oneLineText ((Template.scriptLiteral text).toList ++ rest) = .error flaw := by
  obtain ⟨c, mem, beyond⟩ := large
  rw [oneLineText_scriptLiteral]
  exact basicText_scriptChars_of_large mem beyond _ _

/-- The file of a project has the literals of its version and its description behind their keys. -/
theorem exists_projectSettings :
    ∃ (front : String → String) (back : List Dependency → String), ∀ project,
      Template.projectSettings.render project = front project.package ++
        ("\nversion = " ++ Template.scriptLiteral project.metadata.version) ++
        ("\ndescription = " ++ Template.scriptLiteral project.metadata.description) ++
        ("\n" ++ back project.dependencies) := by
  refine ⟨fun package => "[build-system]\n" ++ ("requires = [\"setuptools>=68\"]\n" ++
      ("build-backend = \"setuptools.build_meta\"\n" ++ ("\n" ++ ("[project]\n" ++ ("name = " ++
        Template.scriptLiteral package))))),
    fun dependencies => "requires-python = \">=3.11\"\n" ++ ("dependencies = [\n" ++
      (String.ofList (dependencies.flatMap fun dependency =>
        "  \"".toList ++ (dependency.name.toList ++ (">=".toList ++ (dependency.plainVersion.toList ++
          "\",\n".toList)))) ++ "]")), fun project => String.toList_inj.mp ?_⟩
  have version : "\nversion = ".toList = "\n".toList ++ "version = ".toList := by decide
  have description : "\ndescription = ".toList = "\n".toList ++ "description = ".toList := by decide
  simp only [Template.render, Template.projectSettings, Template.parts, Template.renderChars, String.toList_ofList,
    String.toList_append, List.append_assoc, version, description]

/-- The version and the description of a project stand in its file as literals. The literal of a text reads back as
the text, whatever follows it, exactly when no character needs a pair of units; else it is refused. -/
theorem projectSettings_texts (text : String) (rest : Rest) :
    (∃ (front : String → String) (back : List Dependency → String), ∀ project,
      Template.projectSettings.render project = front project.package ++
        ("\nversion = " ++ Template.scriptLiteral project.metadata.version) ++
        ("\ndescription = " ++ Template.scriptLiteral project.metadata.description) ++
        ("\n" ++ back project.dependencies)) ∧
    (oneLineText ((Template.scriptLiteral text).toList ++ rest) = .ok (text.toList, rest) ↔
      ∀ c ∈ text.toList, c.toNat < 0x10000) ∧
    ((∃ flaw, oneLineText ((Template.scriptLiteral text).toList ++ rest) = .error flaw) ↔
      ∃ c ∈ text.toList, 0x10000 ≤ c.toNat) := by
  refine ⟨exists_projectSettings, ?_⟩
  by_cases single : ∀ c ∈ text.toList, c.toNat < 0x10000
  · have read := oneLineText_scriptLiteral_of_single single rest
    exact ⟨iff_of_true read single, iff_of_false (by simp [read]) (by simpa using single)⟩
  · have large : ∃ c ∈ text.toList, 0x10000 ≤ c.toNat := by simpa using single
    obtain ⟨flaw, failed⟩ := exists_error_scriptLiteral large rest
    exact ⟨iff_of_false (by simp [failed]) single, iff_of_true ⟨flaw, failed⟩ large⟩

/-- A description may hold such a character, and its literal is not read. -/
theorem oneLineText_celebration :
    oneLineText (Template.scriptLiteral "Shop 🎉").toList =
      .error ⟨"Escaped character is not a Unicode scalar value", 7⟩ := by
  cbv

end Prism.Toml
