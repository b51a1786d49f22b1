import Prism.Proofs.Ascii
import Prism.Proofs.Paths

namespace Prism

theorem Text.splitAtChar_eq_splitOn (separator : Char) (text : List Char) :
    splitAtChar separator text = text.splitOn separator := by
  induction text with
  | nil => rfl
  | cons c text ih =>
    rw [splitAtChar, List.splitOn_cons_eq_if_modifyHead, ih]
    simp only [beq_iff_eq]
    split
    · rfl
    · cases pieces : text.splitOn separator with
      | nil => exact absurd pieces (List.splitOn_ne_nil separator text)
      | cons piece more => rfl

theorem Text.pieces_ne_nil (separator : Char) (text : String) : pieces separator text ≠ [] := by
  rw [pieces, ne_eq, List.map_eq_nil_iff, splitAtChar_eq_splitOn]
  exact List.splitOn_ne_nil separator text.toList

/-- The characters of the forms of a name. -/
def Words.isNameChar (c : Char) : Bool := c.isAlphanum || c = '_' || c = '-'

namespace Location

/-- The characters of the names on a way. -/
def isPathChar (c : Char) : Bool := Words.isNameChar c || c = '.'

/-- A name that leads one step further: it is there, has such characters only and is no step back. -/
def isPlainName (name : String) : Bool :=
  !name.isEmpty && name.toList.all isPathChar && name ≠ "." && name ≠ ".."

theorem isPlainName_ofList {name : List Char} (signs : name.all isPathChar = true) (solid : ∃ c ∈ name, c ≠ '.') :
    isPlainName (String.ofList name) = true := by
  obtain ⟨c, member, differs⟩ := solid
  have apart (points : List Char) (only : ∀ d ∈ points, d = '.') : name ≠ points := by
    intro same
    exact differs (only c (same ▸ member))
  have filled := apart [] (by simp)
  have step := apart ['.'] (by simp)
  have back := apart ['.', '.'] (by simp)
  rw [isPlainName, Bool.and_eq_true, Bool.and_eq_true, Bool.and_eq_true]
  refine ⟨⟨⟨?_, by rwa [String.toList_ofList]⟩, decide_eq_true ?_⟩, decide_eq_true ?_⟩
  · rw [Bool.not_eq_true', ← Bool.not_eq_true, String.isEmpty_iff, ← String.toList_inj, String.toList_ofList]
    exact filled
  · rw [ne_eq, ← String.toList_inj, String.toList_ofList]
    exact step
  · rw [ne_eq, ← String.toList_inj, String.toList_ofList]
    exact back

/-- Reads the characters of a path. It keeps whether the present name has one other than a point, and stops at a
slash behind a name without one. -/
def readPath (solid : Bool) : List Char → Option Bool
  | [] => some solid
  | c :: rest =>
    if c = '/' then if solid then readPath false rest else none
    else if isPathChar c then readPath (solid || c ≠ '.') rest
    else none

theorem readPath_append (solid : Bool) (front back : List Char) :
    readPath solid (front ++ back) = (readPath solid front).bind (readPath · back) := by
  induction front generalizing solid with
  | nil => rfl
  | cons c front ih =>
    rw [List.cons_append, readPath, readPath]
    by_cases slash : c = '/'
    · cases solid <;> simp [slash, ih]
    · by_cases sign : isPathChar c = true <;> simp [slash, sign, ih]

/-- Characters of a name make the present name solid. -/
theorem readPath_of_isNameChar {name : List Char} (filled : name ≠ []) (signs : ∀ c ∈ name, Words.isNameChar c = true)
    (solid : Bool) : readPath solid name = some true := by
  induction name generalizing solid with
  | nil => exact absurd rfl filled
  | cons c name ih =>
    have sign := signs c List.mem_cons_self
    have slash : c ≠ '/' := by
      rintro rfl
      exact absurd sign (by decide)
    have point : c ≠ '.' := by
      rintro rfl
      exact absurd sign (by decide)
    rw [readPath, if_neg slash, if_pos (by rw [isPathChar, sign, Bool.true_or]), decide_eq_true point, Bool.or_true]
    by_cases last : name = []
    · rw [last, readPath]
    · exact ih last (fun d member => signs d (List.mem_cons_of_mem _ member)) true

/-- A path that is read to its end in a solid name has plain names only; the first one may have been solid
before. -/
theorem plain_of_readPath {solid : Bool} {path : List Char} (reads : readPath solid path = some true) :
    ∃ first others, Text.splitAtChar '/' path = first :: others ∧ first.all isPathChar = true ∧
      (solid = true ∨ ∃ c ∈ first, c ≠ '.') ∧ ∀ name ∈ others, isPlainName (String.ofList name) = true := by
  induction path generalizing solid with
  | nil => exact ⟨[], [], rfl, rfl, Or.inl (Option.some.inj reads), by simp⟩
  | cons c path ih =>
    rw [readPath] at reads
    rw [Text.splitAtChar]
    by_cases slash : c = '/'
    · rw [if_pos slash] at reads
      rw [if_pos slash]
      cases solid with
      | false => exact absurd reads (by simp)
      | true =>
        obtain ⟨first, others, split, signs, holds, plain⟩ := ih reads
        have isPlain := isPlainName_ofList signs (holds.resolve_left Bool.false_ne_true)
        refine ⟨[], _, rfl, rfl, Or.inl rfl, ?_⟩
        rw [split]
        exact List.forall_mem_cons.mpr ⟨isPlain, plain⟩
    · rw [if_neg slash] at reads
      rw [if_neg slash]
      by_cases sign : isPathChar c = true
      · rw [if_pos sign] at reads
        obtain ⟨first, others, split, signs, holds, plain⟩ := ih reads
        rw [split]
        refine ⟨c :: first, others, rfl, by rw [List.all_cons, sign, signs, Bool.and_self], ?_, plain⟩
        rcases holds with before | ⟨d, member, differs⟩
        · rcases Bool.or_eq_true_iff.mp before with already | here
          · exact Or.inl already
          · exact Or.inr ⟨c, List.mem_cons_self, of_decide_eq_true here⟩
        · exact Or.inr ⟨d, List.mem_cons_of_mem _ member, differs⟩
      · rw [if_neg sign] at reads
        exact absurd reads (by simp)

theorem isPlainName_of_readPath {path : String} (reads : readPath false path.toList = some true) :
    ∀ name ∈ Text.pieces '/' path, isPlainName name = true := by
  obtain ⟨first, others, split, signs, holds, plain⟩ := plain_of_readPath reads
  have isPlain := isPlainName_ofList signs (holds.resolve_left Bool.false_ne_true)
  rw [Text.pieces, split, List.forall_mem_map]
  exact List.forall_mem_cons.mpr ⟨isPlain, plain⟩

/-- A path of plain names is relative and leads along them. -/
theorem ofText_of_isPlainName {path : String} (plain : ∀ name ∈ Text.pieces '/' path, isPlainName name = true) :
    ofText path = { names := Text.pieces '/' path } := by
  have filled : ∀ name ∈ Text.pieces '/' path, name.isEmpty = false ∧ name ≠ "." := by
    intro name member
    have isPlain := plain name member
    simp only [isPlainName, Bool.and_eq_true, decide_eq_true_eq, Bool.not_eq_true'] at isPlain
    exact ⟨isPlain.1.1.1, isPlain.1.2⟩
  have relative : (path.toList.takeWhile (· = '/')).length = 0 := by
    cases chars : path.toList with
    | nil => rfl
    | cons c rest =>
      by_cases slash : c = '/'
      · have empty : "" ∈ Text.pieces '/' path := by
          rw [Text.pieces, chars, Text.splitAtChar, if_pos slash]
          exact List.mem_cons_self
        exact absurd (filled "" empty).1 (by decide)
      · rw [List.takeWhile_cons_of_neg (by simpa using slash)]
        rfl
  rw [ofText, relative, if_pos rfl]
  refine congrArg (Location.mk "") (List.filter_eq_self.mpr fun name member => ?_)
  rw [(filled name member).1, decide_eq_true (filled name member).2]
  rfl

theorem ne_back_of_isPlainName {name : String} (plain : isPlainName name = true) : name ≠ ".." := by
  rw [isPlainName, Bool.and_eq_true] at plain
  exact of_decide_eq_true plain.2

end Location

namespace Words

theorem isNameChar_of_isAlphanum {c : Char} (plain : c.isAlphanum = true) : isNameChar c = true := by
  simp [isNameChar, plain]

variable {words : List (List Char)}

theorem isNameChar_pascalChars (areWords : ∀ word ∈ words, IsWord word) :
    ∀ c ∈ pascalChars words, isNameChar c = true := by
  intro c member
  obtain ⟨word, inside, here⟩ := List.mem_flatMap.mp member
  exact isNameChar_of_isAlphanum ((areWords word inside).isRow_capitalize.kept c here)

theorem isNameChar_camelChars (areWords : ∀ word ∈ words, IsWord word) :
    ∀ c ∈ camelChars words, isNameChar c = true := by
  cases words with
  | nil => simp [camelChars]
  | cons word words =>
    obtain ⟨isWord, areWords⟩ := List.forall_mem_cons.mp areWords
    intro c member
    rcases List.mem_append.mp member with first | later
    · exact isNameChar_of_isAlphanum (isWord.isAlphanum c first)
    · exact isNameChar_pascalChars areWords c later

theorem isNameChar_joinChars {separator : Char} (sign : isNameChar separator = true)
    (areWords : ∀ word ∈ words, IsWord word) : ∀ c ∈ joinChars separator words, isNameChar c = true := by
  fun_induction joinChars separator words with
  | case1 => simp
  | case2 word => exact fun c member => isNameChar_of_isAlphanum ((areWords word (by simp)).isAlphanum c member)
  | case3 word words filled ih =>
    obtain ⟨isWord, areWords⟩ := List.forall_mem_cons.mp areWords
    intro c member
    rcases List.mem_append.mp member with first | later
    · exact isNameChar_of_isAlphanum (isWord.isAlphanum c first)
    · rcases List.mem_cons.mp later with rfl | later
      · exact sign
      · exact ih areWords c later

theorem isNameChar_pascal (name : String) : ∀ c ∈ (pascal name).toList, isNameChar c = true := by
  rw [toList_pascal]
  exact isNameChar_pascalChars fun _ => isWord_of_mem_splitChars

theorem isNameChar_camel (name : String) : ∀ c ∈ (camel name).toList, isNameChar c = true := by
  rw [toList_camel]
  exact isNameChar_camelChars fun _ => isWord_of_mem_splitChars

theorem isNameChar_kebab (name : String) : ∀ c ∈ (kebab name).toList, isNameChar c = true := by
  rw [toList_kebab]
  exact isNameChar_joinChars (by decide) fun _ => isWord_of_mem_splitChars

theorem isNameChar_snake (name : String) : ∀ c ∈ (snake name).toList, isNameChar c = true := by
  rw [toList_snake]
  exact isNameChar_joinChars (by decide) fun _ => isWord_of_mem_splitChars

theorem isNameChar_identifier (convention : Convention) (name : String) :
    ∀ c ∈ (convention.identifier name).toList, isNameChar c = true := by
  rw [Convention.identifier]
  split
  · exact isNameChar_camel name
  · dsimp only
    split
    · intro c member
      rw [String.toList_append] at member
      rcases List.mem_append.mp member with inside | behind
      · exact isNameChar_snake name c inside
      · rw [List.mem_singleton.mp behind]
        decide
    · exact isNameChar_snake name

end Words

/-- Every form of a name has characters of names only. -/
theorem PathPart.isNameChar_render {part : PathPart} (convention : Convention) (named : part.isName = true)
    (name : String) : ∀ c ∈ (part.render convention name).toList, Words.isNameChar c = true := by
  cases part with
  | text value => exact absurd named Bool.false_ne_true
  | pascal => exact Words.isNameChar_pascal name
  | camel => exact Words.isNameChar_camel name
  | kebab => exact Words.isNameChar_kebab name
  | identifier => exact Words.isNameChar_identifier convention name

/-- Every form of a name with words is there. -/
theorem PathPart.render_ne_nil {part : PathPart} {name : String} (convention : Convention)
    (named : part.isName = true) (words : Words.splitChars name.toList ≠ []) :
    (part.render convention name).toList ≠ [] := by
  obtain ⟨word, others, split⟩ := List.exists_cons_of_ne_nil words
  have isWord : Words.IsWord word := Words.isWord_of_mem_splitChars (split ▸ List.mem_cons_self)
  have filled : word ≠ [] := isWord.1
  have camel : (Words.camel name).toList ≠ [] := by
    rw [Words.toList_camel]
    simp [split, Words.camelChars, filled]
  have joined (separator : Char) : Words.joinChars separator (Words.splitChars name.toList) ≠ [] := by
    rw [split]
    cases others <;> simp [Words.joinChars, filled]
  cases part with
  | text value => exact absurd named Bool.false_ne_true
  | pascal =>
    rw [render, Words.toList_pascal]
    obtain ⟨c, rest, rfl⟩ := List.exists_cons_of_ne_nil filled
    simp [split, Words.pascalChars, Words.capitalize]
  | camel => exact camel
  | kebab =>
    rw [render, Words.toList_kebab]
    exact joined '-'
  | identifier =>
    rw [render, Convention.identifier]
    split
    · exact camel
    · dsimp only
      split
      · rw [String.toList_append]
        simp
      · rw [Words.toList_snake]
        exact joined '_'

namespace TemplateSet

/-- Reads the parts of a layout, a form of a name as a solid part of the present name. -/
def readLayout (solid : Bool) : List PathPart → Option Bool
  | [] => some solid
  | .text value :: parts =>
    (Text.ascii? value).bind fun chars => (Location.readPath solid chars).bind (readLayout · parts)
  | .pascal :: parts | .camel :: parts | .kebab :: parts | .identifier :: parts => readLayout true parts

theorem readPath_layout {convention : Convention} {name : String} (words : Words.splitChars name.toList ≠ [])
    {solid after : Bool} {parts : List PathPart} (reads : readLayout solid parts = some after) :
    Location.readPath solid (parts.flatMap fun part => (part.render convention name).toList) = some after := by
  induction parts generalizing solid with
  | nil => exact reads
  | cons part parts ih =>
    have form (named : part.isName = true) (later : readLayout true parts = some after) :
        Location.readPath solid ((part :: parts).flatMap fun part => (part.render convention name).toList) =
          some after := by
      have filled := PathPart.render_ne_nil convention named words
      have signs := PathPart.isNameChar_render convention named name
      rw [List.flatMap_cons, Location.readPath_append, Location.readPath_of_isNameChar filled signs, Option.bind_some,
        ih later]
    cases part with
    | text value =>
      obtain ⟨chars, ascii, reads⟩ := Option.bind_eq_some_iff.mp reads
      obtain ⟨middle, here, later⟩ := Option.bind_eq_some_iff.mp reads
      rw [List.flatMap_cons, Location.readPath_append, PathPart.render, Text.toList_of_ascii? ascii, here,
        Option.bind_some, ih later]
    | pascal | camel | kebab | identifier => exact form rfl reads

/-- Every layout ends in a solid name. -/
theorem readLayout_layout : ∀ (set : TemplateSet) (kind : ArtifactKind),
    readLayout false (set.layout kind) = some true := by
  decide

theorem isPlainName_path (set : TemplateSet) (kind : ArtifactKind) (convention : Convention) {name : String}
    (words : Words.splitChars name.toList ≠ []) :
    ∀ segment ∈ Text.pieces '/' (set.path kind convention name), Location.isPlainName segment = true := by
  apply Location.isPlainName_of_readPath
  rw [toList_path]
  exact readPath_layout words (set.readLayout_layout kind)

end TemplateSet

theorem Specification.IsNamed.namesOf {spec : Specification} (named : spec.IsNamed) (kind : ArtifactKind) :
    ∀ name ∈ spec.namesOf kind, Words.splitChars name.toList ≠ [] := by
  cases kind with
  | component | model => exact List.forall_mem_map.mpr named.entities
  | page => exact List.forall_mem_map.mpr named.flows
  | service => exact List.forall_mem_map.mpr named.components
  | repository =>
    intro name member
    rw [Specification.namesOf] at member
    split at member
    · exact absurd member List.not_mem_nil
    · rw [List.mem_singleton.mp member]
      decide

theorem Framework.isPlainName_configurationPaths (framework : Framework) :
    ∀ path ∈ framework.configurationPaths ++ ["README.md"],
      ∀ segment ∈ Text.pieces '/' path, Location.isPlainName segment = true := by
  cases framework <;> decide

namespace Disk

theorem normal_append (start : Place) (names more : List String) :
    normal start (names ++ more) = normal (normal start names) more := List.foldl_append

/-- Names without a step back are followed as they stand. -/
theorem normal_of_plain {names : List String} (plain : ∀ name ∈ names, name ≠ "..") (start : Place) :
    normal start names = start ++ names := by
  induction names generalizing start with
  | nil => exact (List.append_nil start).symm
  | cons name names ih =>
    obtain ⟨here, later⟩ := List.forall_mem_cons.mp plain
    have step : normal start (name :: names) = normal (start ++ [name]) names := by
      rw [normal, List.foldl_cons, if_neg here, normal]
    rw [step, ih later, List.append_assoc, List.singleton_append]

/-- A relative path of plain names leads below the place it is seen from. -/
theorem placeOf_child (disk : Disk) (directory : Location) {path : String}
    (plain : ∀ name ∈ Text.pieces '/' path, Location.isPlainName name = true) :
    disk.placeOf (directory.child path) = disk.placeOf directory ++ Text.pieces '/' path := by
  have child : directory.child path = { directory with names := directory.names ++ Text.pieces '/' path } := by
    rw [Location.child, Location.ofText_of_isPlainName plain]
    rfl
  rw [child]
  change normal (disk.startOf directory) (directory.names ++ _) = _
  rw [normal_append, normal_of_plain fun name member => Location.ne_back_of_isPlainName (plain name member)]
  rfl

theorem lookup_filter_ne {place taken : Place} (other : place ≠ taken) (files : List (Place × List Nat)) :
    (files.filter fun file => file.1 ≠ taken).lookup place = files.lookup place := by
  induction files with
  | nil => rfl
  | cons file files ih =>
    by_cases same : file.1 = taken
    · have apart : place ≠ file.1 := same ▸ other
      rw [List.filter_cons_of_neg (by simpa using same), ih, List.lookup_cons, beq_false_of_ne apart]
    · rw [List.filter_cons_of_pos (by simpa using same), List.lookup_cons, List.lookup_cons, ih]

/-- Putting a file changes nothing else. -/
theorem put_spec {disk after : Disk} {path : Location} {octets : List Nat} (done : disk.put path octets = .ok after) :
    after.base = disk.base ∧ ∀ place, place ≠ disk.placeOf path → after.file? place = disk.file? place := by
  simp only [put] at done
  split at done
  · exact absurd done (by simp)
  split at done
  · exact absurd done (by simp)
  split at done
  · exact absurd done (by simp)
  split at done
  · exact absurd done (by simp)
  split at done
  · exact absurd done (by simp)
  obtain rfl := Except.ok.inj done
  refine ⟨rfl, fun place other => ?_⟩
  rw [file?, file?, List.lookup_cons, beq_false_of_ne other]
  exact lookup_filter_ne other disk.files

end Disk

/-- Writing files that all lie below a place changes files there only. -/
theorem Command.below_of_writeAll {below : Place → Prop} {files : List (Location × String)} {disk after : Disk}
    (written : writeAll disk files = .ok after) (inside : ∀ file ∈ files, below (disk.placeOf file.1)) :
    ∀ place, after.file? place ≠ disk.file? place → below place := by
  induction files generalizing disk with
  | nil => exact fun place changed => absurd (Except.ok.inj written ▸ rfl) changed
  | cons file files ih =>
    rw [writeAll, List.foldlM_cons] at written
    obtain ⟨next, first, written⟩ := exists_of_bind_eq_ok written
    obtain ⟨base, others⟩ := Disk.put_spec first
    obtain ⟨here, later⟩ := List.forall_mem_cons.mp inside
    have moved (path : Location) : next.placeOf path = disk.placeOf path := by
      rw [Disk.placeOf, Disk.placeOf, Disk.startOf, Disk.startOf, base]
    intro place changed
    by_cases same : place = disk.placeOf file.1
    · exact same ▸ here
    · rw [← others place same] at changed
      exact ih written (fun other member => (moved other.1).symm ▸ later other member) place changed

namespace Generator

variable {source : TemplateSource} {spec : Specification} {target : Target} {result : GenerationResult}

/-- The paths of a bundle are the same from every source of templates. -/
theorem paths_of_generate (valid : spec.structuralErrors = [])
    (generates : generate source spec target = .ok result) :
    result.targetId = target.id ∧ (Command.bundleFiles result.output).map (·.1) =
      (artifacts spec target).map (·.path) ++ (target.framework.configurationPaths ++ ["README.md"]) := by
  obtain ⟨rendered, printed, assembled⟩ := assembled_of_generate valid generates
  refine ⟨assembled.targetId, ?_⟩
  rw [Command.bundleFiles, List.map_append, List.map_append, List.map_map, List.map_map, List.map_map,
    ← assembled.configuration, ← assembled.documentation, ← map_renderAll (fun _ => rfl) printed, ← assembled.files,
    List.append_assoc]
  rfl

/-- Every path of a bundle is a row of plain names. -/
theorem isPlainName_of_generate (valid : spec.structuralErrors = [])
    (generates : generate source spec target = .ok result) :
    ∀ path ∈ (Command.bundleFiles result.output).map (·.1),
      ∀ segment ∈ Text.pieces '/' path, Location.isPlainName segment = true := by
  have named := Specification.isNamed_of_structuralErrors valid
  rw [(paths_of_generate valid generates).2]
  intro path member
  rcases List.mem_append.mp member with artifact | fixed
  · obtain ⟨kind, _, inKind⟩ := List.mem_flatMap.mp ((paths_artifacts_perm spec target).mem_iff.mp artifact)
    obtain ⟨name, given, rfl⟩ := List.mem_map.mp inKind
    exact TemplateSet.isPlainName_path _ kind _ (named.namesOf kind name given)
  · exact target.framework.isPlainName_configurationPaths path fixed

/-- For every specification without structural errors and every built-in target, whatever templates there are,
every path of the bundle is a row of plain names, and writing the bundle into a directory changes files below
the directory of the target only. With the bundled templates there is such a bundle. -/
theorem generate_writes_below_target (valid : spec.structuralErrors = []) (member : target ∈ Catalog.targets) :
    (∃ result, generate .builtin spec target = .ok result ∧ result.success = true) ∧
      ∀ source result, generate source spec target = .ok result →
        (∀ path ∈ (Command.bundleFiles result.output).map (·.1),
          ∀ segment ∈ Text.pieces '/' path, Location.isPlainName segment = true) ∧
        ∀ (disk after : Disk) (directory : Location),
          Command.writeAll disk (Command.outputFiles directory [result]) = .ok after →
            ∀ place, after.file? place ≠ disk.file? place →
              ∃ names, names ≠ [] ∧ place = disk.placeOf directory ++ target.id :: names := by
  obtain ⟨result, generates, generated⟩ := exists_generate valid (Catalog.isMeasured member)
  refine ⟨⟨result, generates, generated.success⟩, fun source result generates => ?_⟩
  have plain := isPlainName_of_generate valid generates
  refine ⟨plain, fun disk after directory written => Command.below_of_writeAll written ?_⟩
  intro file inside
  obtain ⟨only, here, given⟩ := List.mem_flatMap.mp inside
  rw [List.mem_singleton.mp (List.mem_of_mem_filter here)] at given
  obtain ⟨⟨path, content⟩, bundled, rfl⟩ := List.mem_map.mp given
  have segments := plain path (List.mem_map_of_mem bundled)
  have own : Text.pieces '/' target.id = [target.id] ∧ Location.isPlainName target.id = true :=
    (by decide : ∀ target ∈ Catalog.targets,
      Text.pieces '/' target.id = [target.id] ∧ Location.isPlainName target.id = true) target member
  refine ⟨Text.pieces '/' path, ?_, ?_⟩
  · exact Text.pieces_ne_nil '/' path
  · rw [Disk.placeOf_child _ _ segments, (paths_of_generate valid generates).1,
      Disk.placeOf_child _ _ (by rw [own.1]; simpa using own.2), own.1, List.append_assoc, List.singleton_append]

/-- Names that would lead elsewhere if they were taken as they stand. -/
def strayNames : Specification where
  metadata := { name := "shop" }
  entities := [{ id := "order", name := "../../etc/passwd" }]
  flows := [{ id := "pay", name := "/..//é.1 .-" }]
  architecture := { components := [{ id := "store", name := "..\\Store/" }] }

theorem generate_writes_below_target_strayNames :
    strayNames.structuralErrors = [] ∧ Catalog.webAngular ∈ Catalog.targets ∧
      ∃ result, generate .builtin strayNames Catalog.webAngular = .ok result ∧ result.success = true ∧
        (∀ path ∈ (Command.bundleFiles result.output).map (·.1),
          ∀ segment ∈ Text.pieces '/' path, Location.isPlainName segment = true) ∧
        ∀ (disk after : Disk) (directory : Location),
          Command.writeAll disk (Command.outputFiles directory [result]) = .ok after →
            ∀ place, after.file? place ≠ disk.file? place →
              ∃ names, names ≠ [] ∧ place = disk.placeOf directory ++ "web-angular" :: names := by
  have valid : strayNames.structuralErrors = [] := by decide
  have member : Catalog.webAngular ∈ Catalog.targets := by simp [Catalog.targets]
  obtain ⟨⟨result, generates, success⟩, below⟩ := generate_writes_below_target valid member
  exact ⟨valid, member, result, generates, success, below .builtin result generates⟩

end Generator

end Prism
