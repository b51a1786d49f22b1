import Prism.Proofs.Fillings

namespace Prism

namespace Brackets

/-- The open brackets after one more character, if they match so far. -/
def read : Option (List Char) → Char → Option (List Char)
  | none, _ => none
  | some opened, c =>
    if isOpener c then some (c :: opened)
    else match opener? c with
      | none => some opened
      | some opener => match opened with
        | [] => none
        | last :: others => if last = opener then some others else none

def signs : List Char := ['(', ')', '[', ']', '\x7b', '\x7d']

theorem read_of_notMem {c : Char} (plain : c ∉ signs) (opened : List Char) : read (some opened) c = some opened := by
  simp only [signs, List.mem_cons, List.not_mem_nil, or_false, not_or] at plain
  obtain ⟨round, roundEnd, square, squareEnd, curly, curlyEnd⟩ := plain
  have closes : opener? c = none := by
    rw [opener?] <;> assumption
  simp [read, isOpener, closes, round, square, curly]

theorem foldl_read_none (chars : List Char) : chars.foldl read none = none := by
  induction chars with
  | nil => rfl
  | cons c chars ih => exact ih

theorem foldl_read_of_notMem {chars : List Char} (plain : ∀ c ∈ chars, c ∉ signs) (opened : List Char) :
    chars.foldl read (some opened) = some opened := by
  induction chars with
  | nil => rfl
  | cons c chars ih =>
    obtain ⟨first, later⟩ := List.forall_mem_cons.mp plain
    rw [List.foldl_cons, read_of_notMem first, ih later]

theorem notMem_signs_of_endsLine {c : Char} (ends : Text.endsLine c = true) : c ∉ signs := by
  intro member
  have none : ∀ sign ∈ signs, Text.endsLine sign = false := by simp [signs, Text.endsLine]
  exact absurd ends (by simp [none c member])

/-- A text has no problem exactly when reading it leaves nothing open. -/
theorem scan_eq_none_iff (line : Nat) (opened chars : List Char) :
    scan line opened chars = none ↔ chars.foldl read (some opened) = some [] := by
  fun_induction scan line opened chars with
  | case1 line opened empty => simpa using empty
  | case2 line opened some => simpa using some
  | case3 line opened rest ih =>
    rw [List.foldl_cons, List.foldl_cons, read_of_notMem (by decide), read_of_notMem (by decide)]
    exact ih
  | case4 line opened c rest _ ends ih =>
    rw [List.foldl_cons, read_of_notMem (notMem_signs_of_endsLine ends)]
    exact ih
  | case5 line opened c rest _ _ opens ih =>
    rw [List.foldl_cons, show read (some opened) c = some (c :: opened) by simp [read, opens]]
    exact ih
  | case6 line opened c rest _ _ opens closes ih =>
    rw [List.foldl_cons, show read (some opened) c = some opened by simp [read, opens, closes]]
    exact ih
  | case7 line c rest _ _ opens opener closes =>
    rw [List.foldl_cons, show read (some []) c = none by simp [read, opens, closes], foldl_read_none]
    simp
  | case8 line c rest _ _ opens last others closes ih =>
    rw [List.foldl_cons, show read (some (last :: others)) c = some others by simp [read, opens, closes]]
    exact ih
  | case9 line c rest _ _ opens opener closes last others differs =>
    rw [List.foldl_cons, show read (some (last :: others)) c = none by simp [read, opens, closes, differs],
      foldl_read_none]
    simp

/-- What is open below does not matter to a reader that gets through without it. -/
theorem read_append {opened after : List Char} {c : Char} (reads : read (some opened) c = some after)
    (below : List Char) : read (some (opened ++ below)) c = some (after ++ below) := by
  simp only [read] at reads ⊢
  split
  · next opens =>
    rw [if_pos opens] at reads
    rw [← Option.some.inj reads, List.cons_append]
  · next opens =>
    rw [if_neg opens] at reads
    cases closes : opener? c with
    | none =>
      rw [closes] at reads
      rw [← Option.some.inj reads]
    | some opener =>
      rw [closes] at reads
      cases opened with
      | nil => exact nomatch reads
      | cons last others =>
        simp only [List.cons_append] at reads ⊢
        split
        · next same =>
          rw [if_pos same] at reads
          rw [← Option.some.inj reads]
        · next differs =>
          rw [if_neg differs] at reads
          exact nomatch reads

theorem foldl_read_append {opened after chars : List Char} (reads : chars.foldl read (some opened) = some after)
    (below : List Char) : chars.foldl read (some (opened ++ below)) = some (after ++ below) := by
  induction chars generalizing opened with
  | nil => rw [← Option.some.inj reads, List.foldl_nil]
  | cons c chars ih =>
    rw [List.foldl_cons] at reads ⊢
    cases first : read (some opened) c with
    | none =>
      rw [first, foldl_read_none] at reads
      exact nomatch reads
    | some next =>
      rw [first] at reads
      rw [read_append first]
      exact ih reads

/-- A text without a problem. -/
def IsBalanced (text : String) : Prop := problem? text = none

instance (text : String) : Decidable (IsBalanced text) := inferInstanceAs (Decidable (problem? text = none))

theorem isBalanced_iff {text : String} : IsBalanced text ↔ text.toList.foldl read (some []) = some [] :=
  scan_eq_none_iff 1 [] text.toList

/-- Whatever is open around it, a balanced text leaves it open. -/
theorem IsBalanced.foldl_read {text : String} (balanced : IsBalanced text) (state : Option (List Char)) :
    text.toList.foldl read state = state := by
  cases state with
  | none => exact foldl_read_none _
  | some opened => exact foldl_read_append (isBalanced_iff.mp balanced) opened

theorem IsBalanced.append {front back : String} (first : IsBalanced front) (second : IsBalanced back) :
    IsBalanced (front ++ back) := by
  rw [isBalanced_iff, String.toList_append, List.foldl_append, first.foldl_read, second.foldl_read]

theorem isBalanced_of_notMem {text : String} (plain : ∀ c ∈ text.toList, c ∉ signs) : IsBalanced text :=
  isBalanced_iff.mpr (foldl_read_of_notMem plain [])

theorem isBalanced_listed {text : String} (balanced : IsBalanced text) : IsBalanced ("[" ++ text ++ "]") := by
  rw [isBalanced_iff, String.toList_append, String.toList_append, List.foldl_append, List.foldl_append,
    balanced.foldl_read]
  rfl

/-- A reader does not notice that parts it passes over are replaced by others of that kind. -/
theorem foldl_read_replaceFrom {part other : List Char} (some : part ≠ [])
    (passes : ∀ state, part.foldl read state = state) (passesOther : ∀ state, other.foldl read state = state)
    (skip : Nat) (text : List Char) (state : Option (List Char)) :
    (Text.replaceFrom part other skip text).foldl read state = (text.drop skip).foldl read state := by
  fun_induction Text.replaceFrom part other skip text generalizing state with
  | case1 skip => rw [List.drop_nil]
  | case2 skip c rest ih => exact ih state
  | case3 c rest starts ih =>
    obtain ⟨tail, split⟩ := List.isPrefixOf_iff_prefix.mp starts
    obtain ⟨first, more, rfl⟩ := List.exists_cons_of_ne_nil some
    rw [List.cons_append] at split
    obtain ⟨rfl, rfl⟩ := List.cons.inj split
    rw [List.foldl_append, passesOther, ih, List.drop_zero, ← List.cons_append, List.foldl_append, passes,
      List.length_cons, Nat.add_sub_cancel, List.drop_left]
  | case4 c rest differs ih => exact ih (read state c)

theorem IsBalanced.replaceAll {part other text : String} (some : part.toList ≠ []) (first : IsBalanced part)
    (second : IsBalanced other) (balanced : IsBalanced text) : IsBalanced (Text.replaceAll part other text) := by
  rw [isBalanced_iff, Text.replaceAll, String.toList_ofList,
    foldl_read_replaceFrom some first.foldl_read second.foldl_read, List.drop_zero, balanced.foldl_read]

end Brackets

open Brackets

/-- The brackets of an ASCII text match. -/
def Brackets.matchAscii (text : String) : Bool := (Text.ascii? text).map (·.foldl read (some [])) = some (some [])

theorem Brackets.isBalanced_of_matchAscii {text : String} (matched : matchAscii text = true) : IsBalanced text := by
  obtain ⟨chars, ascii, reads⟩ := Option.map_eq_some_iff.mp (of_decide_eq_true matched)
  rwa [isBalanced_iff, Text.toList_of_ascii? ascii]

theorem Convention.isBalanced_typeFor : ∀ (language : Language) (type : FieldType),
    matchAscii ((Convention.of language).typeFor type).name = true := by
  decide

theorem Template.isBalanced_marks : ∀ text ∈ marks, IsBalanced text := by
  decide

theorem Brackets.isSteady : Text.IsSteady IsBalanced where
  name named := isBalanced_of_notMem fun c member sign => by
    have none : signs.all (!Words.isNameChar ·) = true := by decide
    exact absurd (named c member) (by simpa using List.all_eq_true.mp none c sign)
  mark := Template.isBalanced_marks
  type language type := isBalanced_of_matchAscii (Convention.isBalanced_typeFor language type)
  append := IsBalanced.append
  listed := isBalanced_listed
  routed := IsBalanced.replaceAll (by simp) (by decide) (by decide)

/-- Prose of a text without brackets is balanced. -/
theorem Prose.isBalanced_clean {text : String} (plain : ∀ c ∈ text.toList, c ∉ signs) : IsBalanced (clean text) := by
  refine isBalanced_of_notMem fun c member => ?_
  rw [toList_clean] at member
  rcases mem_cleanChars member with other | ⟨inside, _⟩
  · have none : ['\'', '*', ' ', '/'].all (· ∉ signs) = true := by decide
    exact of_decide_eq_true (List.all_eq_true.mp none c other)
  · exact plain c inside

namespace Template

/-- A template that closes what it opens, part by part. -/
def isBalanced {α : Type} (template : Template α) : Bool :=
  template.follow Brackets.read (fun _ => true) (some []) = some (some [])

theorem isBalanced_render {α : Type} {template : Template α} (balanced : template.isBalanced = true) {context : α}
    (fills : template.Fills IsBalanced context) : IsBalanced (template.render context) := by
  rw [isBalanced_iff, render, String.toList_ofList]
  exact foldl_of_follow (fun text state balanced _ => balanced.foldl_read state) fills (of_decide_eq_true balanced)

theorem isBalanced_templates : ∀ set : TemplateSet, set ≠ .python →
    set.templates.component.template.isBalanced = true ∧ set.templates.model.template.isBalanced = true ∧
      set.templates.page.template.isBalanced = true ∧ set.templates.service.template.isBalanced = true ∧
      set.templates.repository.template.isBalanced = true := by
  intro set other
  cases set with
  | python => exact absurd rfl other
  | _ => refine ⟨?_, ?_, ?_, ?_, ?_⟩ <;> decide +kernel

theorem isBalanced_gradleBuild : gradleBuild.isBalanced = true := by decide +kernel

end Template

/-- The texts of a specification that are printed as more than names. -/
def Specification.printed (spec : Specification) : List String :=
  spec.metadata.version :: (spec.entities.flatMap (fun entity => entity.verbatim ++ entity.prose) ++
    spec.flows.flatMap (fun flow => flow.verbatim ++ flow.prose) ++
    spec.architecture.components.flatMap (fun component => component.verbatim ++ component.prose) ++
    spec.compliance.rules.flatMap fun rule => rule.verbatim ++ rule.prose)

/-- Texts without brackets are balanced, as they are and as prose. -/
theorem Brackets.isBalanced_texts {verbatim prose : List String}
    (plain : ∀ text ∈ verbatim ++ prose, ∀ c ∈ text.toList, c ∉ signs) :
    (∀ text ∈ verbatim, IsBalanced text) ∧ ∀ text ∈ prose, IsBalanced (Prose.clean text) := by
  obtain ⟨first, second⟩ := List.forall_mem_append.mp plain
  exact ⟨fun text member => isBalanced_of_notMem (first text member),
    fun text member => Prose.isBalanced_clean (second text member)⟩

/-- The formats that are checked by a grammar or not at all. -/
def grammars : List String := ["python", "json", "toml", "xml", "text"]

theorem format_of_checkForm {room : Room} {format text : String}
    (heuristic : (checkForm room format text).map (·.exact) = .ok false) : format ∉ grammars := by
  intro member
  simp only [grammars, List.mem_cons, List.not_mem_nil, or_false] at member
  rcases member with rfl | rfl | rfl | rfl | rfl
  · simp only [checkForm] at heuristic
    split at heuristic <;> simp [Except.map] at heuristic
  · simp only [checkForm] at heuristic
    split at heuristic <;> simp [Except.map] at heuristic
  · simp only [checkForm] at heuristic
    split at heuristic <;> simp [Except.map] at heuristic
  · simp [checkForm, Except.map] at heuristic
  · simp [checkForm, Except.map] at heuristic

theorem Template.fills_gradleBuild {spec : Specification}
    (package : IsBalanced (Manifest.context spec .androidKotlin).moduleName)
    (version : IsBalanced spec.metadata.version) :
    gradleBuild.Fills IsBalanced (Manifest.context spec .androidKotlin) := by
  have dependencies : ∀ dependency ∈ (Manifest.context spec .androidKotlin).dependencies,
      IsBalanced dependency.name ∧ IsBalanced dependency.version := by
    change ∀ dependency ∈ Framework.androidKotlin.packages.dependencies.filter (·.scope = .runtime), _
    decide
  have same : (Manifest.context spec .androidKotlin).metadata.version = spec.metadata.version := rfl
  simp +contextual only [gradleBuild, parts, Fills, and_self, implies_true, package, same, version, dependencies]

theorem Catalog.framework_ne_python : ∀ target ∈ Catalog.targets, target.id ≠ "backend-python" →
    target.framework.templateSet ≠ .python ∧ target.framework ≠ .python := by
  decide

namespace Generator

section Printed

variable {spec : Specification} (plain : ∀ text ∈ spec.printed, ∀ c ∈ text.toList, c ∉ signs)

include plain

theorem isBalanced_artifacts {target : Target} (other : target.framework.templateSet ≠ .python) :
    ∀ file ∈ artifacts spec target, IsBalanced file.content := by
  obtain ⟨component, model, page, service, repository⟩ :=
    Template.isBalanced_templates target.framework.templateSet other
  rw [Specification.printed, List.forall_mem_cons, List.forall_mem_append, List.forall_mem_append,
    List.forall_mem_append] at plain
  simp only [List.forall_mem_flatMap] at plain
  obtain ⟨_, ⟨⟨entities, flows⟩, components⟩, rules⟩ := plain
  have ofEntity {entity : Entity} (given : entity ∈ spec.entities) :
      (entityContext spec (Convention.of target.language) entity).Has IsBalanced := by
    obtain ⟨verbatim, prose⟩ := isBalanced_texts (entities entity given)
    exact has_entityContext isSteady _ verbatim prose
  intro file member
  simp only [artifacts, policyArtifacts, List.mem_append, List.mem_flatMap, List.mem_cons, List.not_mem_nil, or_false,
    List.mem_map, List.mem_ite_nil_left] at member
  rcases member with ((⟨entity, given, rfl | rfl⟩ | ⟨flow, given, rfl⟩) | ⟨part, given, rfl⟩) | ⟨_, rfl⟩
  · exact Template.isBalanced_render component (Template.fills_component isSteady (ofEntity given) _ other)
  · exact Template.isBalanced_render model (Template.fills_model isSteady (ofEntity given) _ other)
  · obtain ⟨verbatim, prose⟩ := isBalanced_texts (flows flow given)
    have has := @has_pageContext spec _ isSteady target.language flow verbatim prose
    exact Template.isBalanced_render page (Template.fills_page isSteady has _ other)
  · obtain ⟨verbatim, prose⟩ := isBalanced_texts (components part given)
    have has := @has_serviceContext spec _ isSteady part verbatim prose
    exact Template.isBalanced_render service (Template.fills_service isSteady has _ other)
  · have texts (rule : ComplianceRule) (given : rule ∈ spec.compliance.rules) := isBalanced_texts (rules rule given)
    have has := has_policyContext isSteady target.language (fun rule given => (texts rule given).1)
      fun rule given => (texts rule given).2
    exact Template.isBalanced_render repository (Template.fills_repository has _ other)

/-- Of the files that describe a project only the build file for Android has a format without a grammar. -/
theorem isBalanced_configuration {framework : Framework} (other : framework ≠ .python)
    {files : List ConfigurationFile} (configured : Manifest.configurationFiles .builtin spec framework = .ok files) :
    ∀ file ∈ files, file.format ∉ grammars → IsBalanced file.content := by
  have gradle : IsBalanced (Template.gradleBuild.render (Manifest.context spec .androidKotlin)) := by
    have version := isBalanced_of_notMem (plain spec.metadata.version (List.mem_cons_self ..))
    have package : IsBalanced (Manifest.context spec .androidKotlin).moduleName := by
      simp only [Manifest.context, Manifest.nonEmpty]
      split
      · decide
      · exact isSteady.name (Words.isNameChar_snake _)
    exact Template.isBalanced_render Template.isBalanced_gradleBuild (Template.fills_gradleBuild package version)
  cases framework with
  | python => exact absurd rfl other
  | androidKotlin =>
    obtain rfl := Except.ok.inj configured
    exact List.forall_mem_singleton.mpr fun _ => gradle
  | iosSwift | java | react | vue | angular | nodejs | svelte | flutter | reactNative | electron | go | rust =>
    obtain rfl := Except.ok.inj configured
    simp [grammars, Manifest.jsonFile]

end Printed

/-- Where the printed texts have no brackets, the brackets of every artifact match for every built-in target but the
Python backend, and so do those of every configuration file that is checked by its brackets. -/
theorem generate_balances_brackets {spec : Specification} {target : Target} (room : Room)
    (valid : spec.structuralErrors = []) (builtin : target ∈ Catalog.targets) (other : target.id ≠ "backend-python")
    (plain : ∀ text ∈ spec.printed, ∀ c ∈ text.toList, c ∉ ['(', ')', '[', ']', '\x7b', '\x7d']) :
    ∃ result, generate .builtin spec target = .ok result ∧
      (∀ file ∈ result.output.files, Brackets.problem? file.content = none) ∧
      ∀ file ∈ result.output.configuration, (checkForm room file.format file.content).map (·.exact) = .ok false →
        Brackets.problem? file.content = none := by
  obtain ⟨result, generates, generated⟩ := exists_generate valid (Catalog.isMeasured builtin)
  obtain ⟨set, framework⟩ := Catalog.framework_ne_python target builtin other
  refine ⟨result, generates, ?_, fun file member heuristic => ?_⟩
  · rw [generated.files]
    exact isBalanced_artifacts plain set
  · exact isBalanced_configuration plain framework generated.configured file member (format_of_checkForm heuristic)

/-- An entity with relationships to many and to one, a flow for a role, a dependency and a rule. -/
def fullShop : Specification where
  metadata := { name := "full shop" }
  entities := [{
    id := "order"
    name := "Order"
    description := "What was sold"
    fields := [{ id := "code", name := "Code", type := .json, required := true },
      { id := "day", name := "Day", type := .date }]
    relationships := [⟨"lines", "lines", "one-to-many", "order", none⟩,
      ⟨"next", "next", "one-to-one", "order", none⟩] }]
  flows := [{
    id := "sell"
    name := "Sell"
    description := "From hand to hand"
    auth := [⟨"clerk", []⟩]
    steps := [{ id := "pay", name := "Pay", type := .form, entity := some "order", nextSteps := ["ship"] },
      { id := "ship", name := "Ship", type := .apiCall }] }]
  architecture := { components := [{ id := "till", name := "Till", dependencies := ["stock"] },
    { id := "stock", name := "Stock", layer := "data", responsibilities := ["counting"] }] }
  compliance := { rules := [{ id := "keep", name := "Keep", implementation := .encryption, framework := "house" }] }

theorem generate_balances_brackets_fullShop :
    fullShop.structuralErrors = [] ∧ Catalog.mobileAndroidKotlin ∈ Catalog.targets ∧
      ∃ result, generate .builtin fullShop Catalog.mobileAndroidKotlin = .ok result ∧
        (∀ file ∈ result.output.files, Brackets.problem? file.content = none) ∧
        ∀ file ∈ result.output.configuration, (checkForm {} file.format file.content).map (·.exact) = .ok false →
          Brackets.problem? file.content = none := by
  have valid : fullShop.structuralErrors = [] := by decide
  have builtin : Catalog.mobileAndroidKotlin ∈ Catalog.targets := by simp [Catalog.targets]
  have plain : (fullShop.printed.all fun text => text.toList.all (· ∉ signs)) = true := by decide
  refine ⟨valid, builtin, generate_balances_brackets {} valid builtin (by decide) fun text printed c member => ?_⟩
  exact of_decide_eq_true (List.all_eq_true.mp (List.all_eq_true.mp plain text printed) c member)

end Generator

end Prism
