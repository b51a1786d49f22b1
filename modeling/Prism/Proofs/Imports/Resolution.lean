import Prism.Proofs.Imports.Templates

namespace Prism

namespace Text

theorem intercalate_pieces (text : String) : String.intercalate "/" (pieces '/' text) = text := by
  rw [← String.toList_inj, String.toList_intercalate, pieces, List.map_map]
  have same : (splitAtChar '/' text.toList).map (String.toList ∘ String.ofList) = splitAtChar '/' text.toList := by
    rw [show String.toList ∘ String.ofList = id from funext fun _ => String.toList_ofList, List.map_id]
  rw [same, splitAtChar_eq_splitOn]
  exact List.intercalate_splitOn '/'

theorem pieces_append (front back : String) :
    pieces '/' (front ++ "/" ++ back) = pieces '/' front ++ pieces '/' back := by
  have chars : (front ++ "/" ++ back).toList = front.toList ++ '/' :: back.toList := by simp
  rw [pieces, chars, splitAtChar_append_cons, List.map_append, pieces, pieces]

theorem pieces_of_notMem {text : String} (none : '/' ∉ text.toList) : pieces '/' text = [text] := by
  rw [pieces, splitAtChar_of_notMem none, List.map_singleton, String.ofList_toList]

/-- What is put behind a text without a separator belongs to its last piece. -/
theorem exists_splitAtChar_append (separator : Char) (text : List Char) :
    ∃ front last, splitAtChar separator text = front ++ [last] ∧
      ∀ more, separator ∉ more → splitAtChar separator (text ++ more) = front ++ [last ++ more] := by
  induction text using induction_splitAtChar separator with
  | last line none =>
    refine ⟨[], line, splitAtChar_of_notMem none, fun more outside => ?_⟩
    have neither : separator ∉ line ++ more := by
      rw [List.mem_append, not_or]
      exact ⟨none, outside⟩
    rw [splitAtChar_of_notMem neither, List.nil_append]
  | more first rest none ih =>
    obtain ⟨front, last, split, grows⟩ := ih
    refine ⟨first :: front, last, ?_, fun more outside => ?_⟩
    · rw [splitAtChar_append_cons, splitAtChar_of_notMem none, split]
      rfl
    · rw [List.append_assoc, List.cons_append, splitAtChar_append_cons, splitAtChar_of_notMem none, grows more outside]
      rfl

end Text

namespace Location

/-- A path without the extension of its last name. -/
def stem (path : String) : String :=
  String.ofList (path.toList.take (path.toList.length - (ofText path).suffix.toList.length))

theorem suffixOf_append {name extension : List Char} (filled : name ≠ []) (given : extension ≠ [])
    (plain : '.' ∉ extension) :
    suffixOf (String.ofList (name ++ '.' :: extension)) = String.ofList ('.' :: extension) := by
  have inside : ∀ c ∈ extension.reverse, decide (c ≠ '.') = true := by
    intro c member
    exact decide_eq_true fun same => plain (same ▸ List.mem_reverse.mp member)
  have tail : (name ++ '.' :: extension).reverse.takeWhile (· ≠ '.') = extension.reverse := by
    rw [List.reverse_append, List.reverse_cons, List.append_assoc, List.takeWhile_append_of_pos inside,
      List.singleton_append, List.takeWhile_cons_of_neg (by decide), List.append_nil]
  have long : 0 < name.length := List.length_pos_iff.mpr filled
  simp only [suffixOf, String.toList_ofList, tail, List.isEmpty_reverse, List.reverse_reverse, List.length_reverse,
    List.length_append, List.length_cons]
  rw [if_neg]
  simp only [Bool.or_eq_true, List.isEmpty_iff, given, false_or, decide_eq_true_eq]
  omega

/-- The extension of a path that ends in a name with one. -/
theorem stem_append {body extension : List Char} (reads : readPath false body = some true) (given : extension ≠ [])
    (plain : ∀ c ∈ extension, Words.isNameChar c = true) :
    stem (String.ofList (body ++ '.' :: extension)) = String.ofList body := by
  have apart (c : Char) (other : Words.isNameChar c = false) : c ∉ extension := by
    intro member
    exact absurd ((plain c member).symm.trans other) (by decide)
  have whole : readPath false (body ++ '.' :: extension) = some true := by
    rw [readPath_append, reads, Option.bind_some, readPath, if_neg (by decide), if_pos (by decide)]
    exact readPath_of_isNameChar given plain _
  obtain ⟨front, last, split, grows⟩ := Text.exists_splitAtChar_append '/' body
  have outside : '/' ∉ '.' :: extension := by
    rw [List.mem_cons, not_or]
    exact ⟨by decide, apart '/' (by decide)⟩
  have filled : last ≠ [] := by
    rw [← @String.toList_ofList body] at reads
    have isPlain := isPlainName_of_readPath reads (String.ofList last) (by simp [Text.pieces, split])
    rintro rfl
    exact absurd isPlain (by decide)
  rw [← @String.toList_ofList (body ++ '.' :: extension)] at whole
  have names := isPlainName_of_readPath whole
  have name : (ofText (String.ofList (body ++ '.' :: extension))).name = String.ofList (last ++ '.' :: extension) := by
    rw [Location.name, ofText_of_isPlainName names, Text.pieces, String.toList_ofList, grows _ outside]
    simp
  rw [stem, suffix, name, suffixOf_append filled given (apart '.' (by decide))]
  simp

end Location

namespace Imports

/-- The path, without an extension, that a specifier in a file leads to. -/
def resolve (path specifier : String) : String :=
  String.intercalate "/" (Disk.normal (Location.ofText path).parent.names (Location.ofText specifier).names)

section Resolve

variable {directory base module : String}
  (path : ∀ name ∈ Text.pieces '/' (directory ++ "/" ++ base), Location.isPlainName name = true)
  (single : '/' ∉ base.toList) (plain : ∀ name ∈ Text.pieces '/' module, Location.isPlainName name = true)

include path single in
theorem names_parent : (Location.ofText (directory ++ "/" ++ base)).parent.names = Text.pieces '/' directory := by
  rw [Location.ofText_of_isPlainName path, Location.parent, Text.pieces_append, Text.pieces_of_notMem single,
    List.dropLast_concat]

include plain in
theorem names_behind (step : String) (slash : '/' ∉ step.toList) :
    (Location.ofText (step ++ "/" ++ module)).names =
      [step].filter (fun name => !name.isEmpty && name ≠ ".") ++ Text.pieces '/' module := by
  have names := congrArg Location.names (Location.ofText_of_isPlainName plain)
  rw [Location.ofText] at names ⊢
  dsimp only at names ⊢
  rw [Text.pieces_append, Text.pieces_of_notMem slash, List.filter_append, names]

include path single plain

/-- A module beside the file. -/
theorem resolve_beside : resolve (directory ++ "/" ++ base) ("./" ++ module) = directory ++ "/" ++ module := by
  have specifier : "./" ++ module = "." ++ "/" ++ module := rfl
  rw [resolve, names_parent path single, specifier, names_behind plain "." (by simp),
    show ["."].filter (fun name => !name.isEmpty && name ≠ ".") = [] from rfl, List.nil_append,
    Disk.normal_of_plain fun name member => Location.ne_back_of_isPlainName (plain name member), ← Text.pieces_append,
    Text.intercalate_pieces]

end Resolve

/-- A module beside the directory of the file. -/
theorem resolve_above {directory last base module : String}
    (path : ∀ name ∈ Text.pieces '/' (directory ++ "/" ++ last ++ "/" ++ base), Location.isPlainName name = true)
    (inner : '/' ∉ last.toList) (single : '/' ∉ base.toList)
    (plain : ∀ name ∈ Text.pieces '/' module, Location.isPlainName name = true) :
    resolve (directory ++ "/" ++ last ++ "/" ++ base) ("../" ++ module) = directory ++ "/" ++ module := by
  have specifier : "../" ++ module = ".." ++ "/" ++ module := rfl
  have back : Disk.normal (Text.pieces '/' directory ++ [last]) (".." :: Text.pieces '/' module) =
      Disk.normal (Text.pieces '/' directory) (Text.pieces '/' module) := by
    rw [Disk.normal, List.foldl_cons, if_pos rfl, List.dropLast_concat, Disk.normal]
  rw [resolve, names_parent path single, specifier, names_behind plain ".." (by simp),
    show [".."].filter (fun name => !name.isEmpty && name ≠ ".") = [".."] from rfl, List.singleton_append,
    Text.pieces_append, Text.pieces_of_notMem inner, back,
    Disk.normal_of_plain fun name member => Location.ne_back_of_isPlainName (plain name member), ← Text.pieces_append,
    Text.intercalate_pieces]

end Imports

namespace TemplateSet

/-- The text that a layout ends with. -/
def lastText (layout : List PathPart) : List Char :=
  match layout.getLast? with
  | some (.text value) => value.toList
  | _ => []

/-- What stands behind the last point of a text. -/
def extensionOf (text : List Char) : List Char := (text.reverse.takeWhile (· ≠ '.')).reverse

/-- What stands before the last point of a text. -/
def bare (text : List Char) : List Char := text.take (text.length - (extensionOf text).length - 1)

/-- A layout without the extension of its files. -/
def moduleLayout (layout : List PathPart) : List PathPart :=
  layout.dropLast ++ [.text (String.ofList (bare (lastText layout)))]

/-- Whether the text at the end of a layout ends in an extension behind a name. -/
def hasExtension (layout : List PathPart) : Bool :=
  layout.getLast? = some (.text (String.ofList (lastText layout))) &&
    lastText layout = bare (lastText layout) ++ '.' :: extensionOf (lastText layout) &&
    !(extensionOf (lastText layout)).isEmpty && (extensionOf (lastText layout)).all Words.isNameChar &&
    readLayout false (moduleLayout layout) = some true

/-- The path of an artifact without its extension. -/
def module (set : TemplateSet) (kind : ArtifactKind) (convention : Convention) (name : String) : String :=
  String.join ((moduleLayout (set.layout kind)).map (PathPart.render convention name))

theorem toList_module (set : TemplateSet) (kind : ArtifactKind) (convention : Convention) (name : String) :
    (set.module kind convention name).toList =
      (moduleLayout (set.layout kind)).flatMap fun part => (part.render convention name).toList := by
  rw [module, String.toList_join, List.flatMap_map]

theorem hasExtension_layout : ∀ {set : TemplateSet}, set.hasModules = true → ∀ kind : ArtifactKind,
    hasExtension (set.layout kind) = true := by
  decide +kernel

section Module

variable {set : TemplateSet} {kind : ArtifactKind} {convention : Convention} {name : String}
  (modules : set.hasModules = true)

include modules

theorem toList_path_eq_module : (set.path kind convention name).toList =
    (set.module kind convention name).toList ++ '.' :: extensionOf (lastText (set.layout kind)) := by
  have extended := hasExtension_layout modules kind
  simp only [hasExtension, Bool.and_eq_true, decide_eq_true_eq] at extended
  obtain ⟨⟨⟨⟨ends, splits⟩, _⟩, _⟩, _⟩ := extended
  obtain ⟨front, whole⟩ := List.getLast?_eq_some_iff.mp ends
  have cut : moduleLayout (set.layout kind) = front ++ [.text (String.ofList (bare (lastText (set.layout kind))))] := by
    rw [moduleLayout]
    nth_rewrite 1 [whole]
    rw [List.dropLast_concat]
  rw [toList_path, toList_module, cut]
  nth_rewrite 1 [whole]
  simp only [List.flatMap_append, List.flatMap_singleton, PathPart.render, String.toList_ofList, List.append_assoc]
  rw [← splits]

theorem stem_path (words : Words.splitChars name.toList ≠ []) :
    Location.stem (set.path kind convention name) = set.module kind convention name := by
  have extended := hasExtension_layout modules kind
  simp only [hasExtension, Bool.and_eq_true, decide_eq_true_eq, Bool.not_eq_true', List.isEmpty_eq_false_iff,
    List.all_eq_true] at extended
  obtain ⟨⟨⟨_, given⟩, plain⟩, reads⟩ := extended
  have body : Location.readPath false (set.module kind convention name).toList = some true := by
    rw [toList_module]
    exact readPath_layout words reads
  have stem := Location.stem_append body given plain
  rwa [← toList_path_eq_module modules, String.ofList_toList, String.ofList_toList] at stem

theorem module_eq_iff {a b : String} :
    set.module kind convention a = set.module kind convention b ↔
      set.path kind convention a = set.path kind convention b := by
  rw [← String.toList_inj, ← String.toList_inj, toList_path_eq_module modules, toList_path_eq_module modules,
    List.append_left_inj]

end Module

/-- Files of other kinds are other modules, but for the policy that lies among the services. -/
theorem areDivided_moduleLayout : ∀ {set : TemplateSet}, set.hasModules = true → ∀ {kind other : ArtifactKind},
    kind ≠ other →
    (set.sharesPolicy = true → kind = .repository ∨ other = .repository → kind ≠ .service ∧ other ≠ .service) →
    areDivided (moduleLayout (set.layout kind)) (moduleLayout (set.layout other)) = true := by
  decide +kernel

end TemplateSet

/-- Files beside the artifacts are no modules. -/
theorem Framework.areDivided_configuration : ∀ framework : Framework, framework.templateSet.hasModules = true →
    ∀ kind : ArtifactKind, ∀ path ∈ framework.configurationPaths ++ ["README.md"],
      TemplateSet.areDivided (TemplateSet.moduleLayout (framework.templateSet.layout kind))
        [.text (Location.stem path)] = true := by
  decide +kernel

/-- A file of the bundle lies at a path, whatever its extension. -/
def OutputBundle.Provides (bundle : OutputBundle) (module : String) : Prop :=
  ∃ path ∈ (Command.bundleFiles bundle).map (·.1), Location.stem path = module

namespace Generator

variable {spec : Specification} {target : Target} {result : GenerationResult}

/-- A module of a kind is provided by an element whose name the layout does not tell from the given one, or by the
policy. -/
theorem provides_module_iff (generated : IsGenerated spec target result) (named : spec.IsNamed)
    (modules : target.framework.templateSet.hasModules = true) {kind : ArtifactKind} (own : kind ≠ .repository)
    (name : String) :
    result.output.Provides (target.framework.templateSet.module kind (Convention.of target.language) name) ↔
      (∃ other ∈ spec.namesOf kind, Words.kept (target.framework.templateSet.blurs kind) other =
        Words.kept (target.framework.templateSet.blurs kind) name) ∨
      (kind = .service ∧ target.framework.templateSet.sharesPolicy = true ∧ spec.compliance.rules ≠ [] ∧
        Words.canonical name = "dataAccessPolicy") := by
  generalize same : target.framework.templateSet = set at modules ⊢
  have snakes : set = .python → (Convention.of target.language).casing = .snake := by
    rintro rfl
    exact absurd modules (by decide)
  have alike (a b : String) : set.module kind (Convention.of target.language) a =
      set.module kind (Convention.of target.language) b ↔
        Words.kept (set.blurs kind) a = Words.kept (set.blurs kind) b := by
    rw [TemplateSet.module_eq_iff modules, TemplateSet.path_eq_iff own snakes]
  have policy (shares : set.sharesPolicy = true) (anyName : String) :
      Location.stem (set.path .repository (Convention.of target.language) anyName) =
        set.module .service (Convention.of target.language) "data access policy" := by
    rw [TemplateSet.path_repository shares]
    exact TemplateSet.stem_path modules (by decide)
  have blurs (shares : set.sharesPolicy = true) : set.blurs .service = true := by
    revert shares
    cases set <;> decide
  have title : Words.canonical "data access policy" = "dataAccessPolicy" := by decide
  rw [OutputBundle.Provides, generated.paths]
  constructor
  · rintro ⟨path, member, stem⟩
    rcases List.mem_append.mp member with artifact | fixed
    · obtain ⟨other, _, inKind⟩ := List.mem_flatMap.mp ((paths_artifacts_perm spec target).mem_iff.mp artifact)
      obtain ⟨holder, given, rfl⟩ := List.mem_map.mp inKind
      rw [same] at stem
      by_cases sameKind : other = kind
      · subst sameKind
        rw [TemplateSet.stem_path modules (named.namesOf other holder given)] at stem
        exact Or.inl ⟨holder, given, (alike holder name).mp stem⟩
      · by_cases beside : set.sharesPolicy = true ∧ other = .repository ∧ kind = .service
        · obtain ⟨shares, rfl, rfl⟩ := beside
          rw [policy shares, alike, blurs shares] at stem
          refine Or.inr ⟨rfl, shares, ?_, stem.symm.trans title⟩
          intro none
          simp [Specification.namesOf, none] at given
        · rw [TemplateSet.stem_path modules (named.namesOf other holder given)] at stem
          refine absurd stem (TemplateSet.join_ne_of_areDivided _ _
            (TemplateSet.areDivided_moduleLayout modules sameKind fun shares policy => ?_) _)
          rcases policy with rfl | rfl
          · exact ⟨by decide, fun service => beside ⟨shares, rfl, service⟩⟩
          · exact absurd rfl own
    · subst same
      exact absurd stem.symm (TemplateSet.join_ne_text _ name
        (target.framework.areDivided_configuration modules kind path fixed))
  · have inBundle (other : ArtifactKind) (holder : String) (given : holder ∈ spec.namesOf other) :
        set.path other (Convention.of target.language) holder ∈ (artifacts spec target).map (·.path) ++
          (target.framework.configurationPaths ++ ["README.md"]) := by
      refine List.mem_append_left _ ((paths_artifacts_perm spec target).mem_iff.mpr ?_)
      refine List.mem_flatMap.mpr ⟨other, Listed.mem_all other, ?_⟩
      rw [Specification.pathsOf, same]
      exact List.mem_map_of_mem given
    rintro (⟨other, given, kept⟩ | ⟨rfl, shares, rules, canonical⟩)
    · refine ⟨_, inBundle kind other given, ?_⟩
      rw [TemplateSet.stem_path modules (named.namesOf kind other given)]
      exact (alike other name).mpr kept
    · refine ⟨_, inBundle .repository "data access policy" (by simp [Specification.namesOf, rules]), ?_⟩
      rw [policy shares, alike, blurs shares]
      exact title.trans canonical.symm

end Generator

end Prism
