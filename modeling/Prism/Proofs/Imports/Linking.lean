import Prism.Proofs.Imports.Resolution

namespace Prism

open Text (OneLine)

/-- What templates print of elements as it was written has no line ends; all other texts are made on one line. -/
structure Specification.IsOneLine (spec : Specification) : Prop where
  entities : ∀ entity ∈ spec.entities, OneLine entity.id
  components : ∀ component ∈ spec.architecture.components, OneLine component.id ∧ OneLine component.type

namespace Generator

variable {spec : Specification}

theorem oneLine_entityContext (language : Language) {entity : Entity} (line : OneLine entity.id) :
    (entityContext spec (Convention.of language) entity).Has OneLine :=
  has_entityContext Text.isSteady_oneLine language (by simpa [Entity.verbatim] using line)
    fun text _ => Prose.oneLine_clean text

theorem oneLine_serviceContext {component : Component} (line : OneLine component.id ∧ OneLine component.type) :
    ServiceContext.Has OneLine
      { trace := traceMarker component.subject, component := ComponentView.of spec component } :=
  has_serviceContext Text.isSteady_oneLine (by simpa [Component.verbatim] using line)
    fun text _ => Prose.oneLine_clean text

end Generator

theorem Words.splitChars_pascal_ne_nil {name : String} (words : splitChars name.toList ≠ []) :
    splitChars (pascal name).toList ≠ [] := by
  obtain ⟨word, others, split⟩ := List.exists_cons_of_ne_nil words
  obtain ⟨more, rest, glued⟩ := glue_cons sticksRead word others
  rw [toList_pascal, splitChars_pascalChars fun _ => isWord_of_mem_splitChars, split, glued]
  exact List.cons_ne_nil _ _

theorem Words.slash_notMem_of_isNameChar {text : String} (plain : ∀ c ∈ text.toList, isNameChar c = true) :
    '/' ∉ text.toList := fun member => absurd (plain _ member) (by decide)

theorem Words.slash_notMem_append {form extension : String} (plain : ∀ c ∈ form.toList, isNameChar c = true)
    (single : '/' ∉ extension.toList) : '/' ∉ (form ++ extension).toList := by
  rw [String.toList_append, List.mem_append, not_or]
  exact ⟨slash_notMem_of_isNameChar plain, single⟩

namespace TemplateSet

/-- The directory that holds those of the models and of the services. -/
def sourceRoot : TemplateSet → String
  | .angular => "src/app"
  | _ => "src"

/-- The name that the file of an imported model is looked for under: the name itself where the import has the class
name as it is, and the class name where that is read again. -/
def modelName (set : TemplateSet) (name : String) : String :=
  match set with
  | .angular => Words.pascal name
  | _ => name

theorem splitChars_modelName_ne_nil (set : TemplateSet) {name : String} (words : Words.splitChars name.toList ≠ []) :
    Words.splitChars (set.modelName name).toList ≠ [] := by
  unfold modelName
  split
  · exact Words.splitChars_pascal_ne_nil words
  · exact words

section Imported

variable {set : TemplateSet} (modules : set.hasModules = true) (convention : Convention)

/-- A layout that has the name once lets a file lie right in its directory. -/
theorem exists_base {kind : ArtifactKind} {directory back : String} {part : PathPart}
    (layout : set.layout kind = [.text (directory ++ "/"), part, .text back]) (named : part.isName = true)
    (single : '/' ∉ back.toList) (name : String) :
    ∃ base, set.path kind convention name = directory ++ "/" ++ base ∧ '/' ∉ base.toList := by
  refine ⟨part.render convention name ++ back, ?_,
    Words.slash_notMem_append (part.isNameChar_render convention named name) single⟩
  rw [← String.toList_inj, toList_path, layout]
  simp [PathPart.render]

include modules

theorem isPlainName_module (kind : ArtifactKind) {name : String} (words : Words.splitChars name.toList ≠ []) :
    ∀ segment ∈ Text.pieces '/' (set.module kind convention name), Location.isPlainName segment = true := by
  apply Location.isPlainName_of_readPath
  have extended := hasExtension_layout modules kind
  simp only [hasExtension, Bool.and_eq_true, decide_eq_true_eq] at extended
  rw [toList_module]
  exact readPath_layout words extended.2

/-- A component lies in a directory beside that of the models; in Angular it has one of its own. -/
theorem exists_base_component (name : String) :
    ∃ last, '/' ∉ last.toList ∧ ∃ base,
      set.path .component convention name = set.sourceRoot ++ "/" ++ last ++ "/" ++ base ∧ '/' ∉ base.toList := by
  cases set with
  | react | vue => exact ⟨"components", by simp, exists_base convention rfl rfl (by simp) name⟩
  | nodejs => exact ⟨"controllers", by simp, exists_base convention rfl rfl (by simp) name⟩
  | angular =>
    have plain := Words.isNameChar_kebab name
    refine ⟨Words.kebab name, Words.slash_notMem_of_isNameChar plain, Words.kebab name ++ ".component.ts", ?_,
      Words.slash_notMem_append plain (by simp)⟩
    rw [← String.toList_inj, toList_path]
    simp [layout, PathPart.render, sourceRoot]
  | iosSwift | androidKotlin | python | java => exact absurd modules Bool.false_ne_true

theorem module_model (name : String) : set.module .model convention (set.modelName name) =
    set.sourceRoot ++ "/" ++ "models" ++ "/" ++ set.modelText (Words.pascal name) := by
  rw [← String.toList_inj, toList_module]
  cases set with
  | react | vue | angular | nodejs =>
    simp [layout, moduleLayout, lastText, bare, extensionOf, PathPart.render, modelName, modelText, sourceRoot]
  | iosSwift | androidKotlin | python | java => exact absurd modules Bool.false_ne_true

theorem module_service (name : String) : set.module .service convention (Words.pascal name) =
    set.sourceRoot ++ "/" ++ "services" ++ "/" ++ set.serviceText (Words.pascal name) := by
  rw [← String.toList_inj, toList_module]
  cases set with
  | react | vue | angular | nodejs =>
    simp [layout, moduleLayout, lastText, bare, extensionOf, PathPart.render, serviceText, sourceRoot]
  | iosSwift | androidKotlin | python | java => exact absurd modules Bool.false_ne_true

variable {name other : String} (words : Words.splitChars name.toList ≠ [])

include words

/-- A file that imports another one of its directory. -/
theorem resolve_beside {kind : ArtifactKind} {directory text : String}
    (module : set.module kind convention other = directory ++ "/" ++ text) (others : Words.splitChars other.toList ≠ [])
    (lies : ∃ base, set.path kind convention name = directory ++ "/" ++ base ∧ '/' ∉ base.toList) :
    Imports.resolve (set.path kind convention name) ("./" ++ text) = set.module kind convention other := by
  obtain ⟨base, path, single⟩ := lies
  have file := set.isPlainName_path kind convention words
  have plain := set.isPlainName_module modules convention kind others
  rw [path] at file ⊢
  rw [module, Text.pieces_append, List.forall_mem_append] at plain
  rw [module, Imports.resolve_beside file single plain.2]

variable (others : Words.splitChars other.toList ≠ [])

include others

/-- A model that a model imports. -/
theorem resolve_model : Imports.resolve (set.path .model convention name) ("./" ++ set.modelText (Words.pascal other)) =
    set.module .model convention (set.modelName other) := by
  have filled := set.splitChars_modelName_ne_nil others
  refine resolve_beside modules convention words (module_model modules convention other) filled ?_
  cases set with
  | react | vue | angular | nodejs => exact exists_base convention rfl rfl (by simp) name
  | iosSwift | androidKotlin | python | java => exact absurd modules Bool.false_ne_true

/-- A service that a service imports. -/
theorem resolve_service :
    Imports.resolve (set.path .service convention name) ("./" ++ set.serviceText (Words.pascal other)) =
      set.module .service convention (Words.pascal other) := by
  have filled := Words.splitChars_pascal_ne_nil others
  refine resolve_beside modules convention words (module_service modules convention other) filled ?_
  cases set with
  | react | vue | angular | nodejs => exact exists_base convention rfl rfl (by simp) name
  | iosSwift | androidKotlin | python | java => exact absurd modules Bool.false_ne_true

/-- The model that a component imports. -/
theorem resolve_component :
    Imports.resolve (set.path .component convention name) ("../models/" ++ set.modelText (Words.pascal other)) =
      set.module .model convention (set.modelName other) := by
  obtain ⟨last, inner, base, path, single⟩ := exists_base_component modules convention name
  have file := set.isPlainName_path .component convention words
  have plain := set.isPlainName_module modules convention .model (set.splitChars_modelName_ne_nil others)
  have specifier : "../models/" ++ set.modelText (Words.pascal other) =
      "../" ++ ("models" ++ "/" ++ set.modelText (Words.pascal other)) := by
    rw [← String.toList_inj]
    simp
  have module := module_model modules convention other
  rw [@String.append_assoc _ "models" "/", @String.append_assoc (set.sourceRoot ++ "/")] at module
  rw [path] at file ⊢
  rw [module, Text.pieces_append, List.forall_mem_append] at plain
  rw [module, specifier, Imports.resolve_above file inner single plain.2]

end Imported

end TemplateSet

/-- The names of a specification that imports find again. In Angular the words of every class name are those of an
entity; the words of the class name of every component that another depends on are, as far as the layout of
services keeps them, those of a component or of the policy that lies among the services. -/
structure Specification.IsLinked (spec : Specification) (set : TemplateSet) : Prop where
  models : set = .angular → ∀ entity ∈ spec.entities, ∃ other ∈ spec.entities,
    Words.key other.name = Words.key (Words.pascal entity.name)
  services : ∀ component ∈ spec.architecture.components, ∀ dependency ∈ component.dependencies,
    ∀ used ∈ spec.component? dependency,
      (∃ other ∈ spec.architecture.components,
        Words.kept (set.blurs .service) other.name = Words.kept (set.blurs .service) (Words.pascal used.name)) ∨
      (set.sharesPolicy = true ∧ spec.compliance.rules ≠ [] ∧
        Words.canonical (Words.pascal used.name) = "dataAccessPolicy")

/-- No two words of a name that stand beside each other are both of one letter or both numbers. -/
abbrev Words.StandApart (name : String) : Prop :=
  (splitChars name.toList).IsChain fun word next => sticksRead word next = false

/-- A class name is read as the words of the name when none of them stick together. -/
theorem Words.key_pascal {name : String} (apart : StandApart name) : key (pascal name) = key name := by
  rw [key_eq_iff, toList_pascal, splitChars_pascalChars fun _ => isWord_of_mem_splitChars]
  rw [StandApart] at apart
  generalize splitChars name.toList = words at apart
  induction words with
  | nil => rfl
  | cons word words ih =>
    cases words with
    | nil => rfl
    | cons next words =>
      obtain ⟨here, later⟩ := List.isChain_cons_cons.mp apart
      rw [glue_of_not_sticks here, ih later]

/-- Names of ordinary words are linked, whatever refers to them. -/
theorem Specification.isLinked_of_standApart {spec : Specification}
    (entities : ∀ entity ∈ spec.entities, Words.StandApart entity.name)
    (components : ∀ component ∈ spec.architecture.components, Words.StandApart component.name) (set : TemplateSet) :
    spec.IsLinked set where
  models := fun _ entity member => ⟨entity, member, (Words.key_pascal (entities entity member)).symm⟩
  services := by
    intro _ _ _ _ used found
    have member : used ∈ spec.architecture.components := List.mem_reverse.mp (List.mem_of_find?_eq_some found)
    have same := Words.key_pascal (components used member)
    refine Or.inl ⟨used, member, ?_⟩
    rw [Words.kept, Words.kept, same, Words.canonical_congr (Words.key_eq_iff.mp same)]

theorem Specification.models_linked_iff (spec : Specification) (set : TemplateSet) :
    (∀ entity ∈ spec.entities, ∃ other ∈ spec.entities,
      Words.kept (set.blurs .model) other.name = Words.kept (set.blurs .model) (set.modelName entity.name)) ↔
    (set = .angular → ∀ entity ∈ spec.entities, ∃ other ∈ spec.entities,
      Words.key other.name = Words.key (Words.pascal entity.name)) := by
  cases set with
  | angular => exact ⟨fun linked _ => linked, fun linked => linked rfl⟩
  | react | vue | iosSwift | androidKotlin | nodejs | python | java =>
    exact ⟨fun _ angular => absurd angular (by decide), fun _ entity member => ⟨entity, member, rfl⟩⟩

theorem Specification.exists_targetClass {spec : Specification} (valid : spec.structuralErrors = []) {entity : Entity}
    (member : entity ∈ spec.entities) {relationship : Relationship} (inside : relationship ∈ entity.relationships) :
    ∃ other ∈ spec.entities, relationship.targetClass spec = Words.pascal other.name := by
  simp only [structuralErrors, List.append_eq_nil_iff, List.flatMap_eq_nil_iff] at valid
  have sound := valid.1.1.1.2 entity member
  simp only [entityErrors, List.append_eq_nil_iff, List.filterMap_eq_nil_iff] at sound
  have found := sound.1.1 relationship inside
  rw [Relationship.targetClass]
  cases known : spec.entity? relationship.targetEntity with
  | none => simp [known] at found
  | some other => exact ⟨other, List.mem_of_find?_eq_some known, rfl⟩

namespace Generator

variable {spec : Specification} {target : Target}

section Resolve

variable (named : spec.IsNamed) (line : spec.IsOneLine) (modules : target.framework.templateSet.hasModules = true)
  (provides : String → Prop)

include named line modules

theorem component_resolves_iff {entity : Entity} (member : entity ∈ spec.entities) :
    (∀ specifier ∈ Imports.specifiers (componentArtifact spec target entity).content,
      provides (Imports.resolve (componentArtifact spec target entity).path specifier)) ↔
    provides (target.framework.templateSet.module .model (Convention.of target.language)
      (target.framework.templateSet.modelName entity.name)) := by
  have words := named.entities entity member
  have imports := TemplateSet.specifiers_component modules
    (@oneLine_entityContext spec target.language _ (line.entities entity member)) (Words.isNameChar_pascal entity.name)
  refine (iff_of_eq (congrArg (∀ specifier ∈ ·, provides (Imports.resolve _ specifier)) imports)).trans ?_
  rw [List.forall_mem_singleton]
  exact iff_of_eq (congrArg provides (TemplateSet.resolve_component modules _ words words))

/-- A model imports nothing that no component imports. -/
theorem model_resolves (valid : spec.structuralErrors = []) {entity : Entity} (member : entity ∈ spec.entities)
    (all : ∀ other ∈ spec.entities, provides (target.framework.templateSet.module .model
      (Convention.of target.language) (target.framework.templateSet.modelName other.name))) :
    ∀ specifier ∈ Imports.specifiers (modelArtifact spec target entity).content,
      provides (Imports.resolve (modelArtifact spec target entity).path specifier) := by
  have related := @exists_of_mem_relatedClasses spec (Convention.of target.language) entity
  have imports := TemplateSet.specifiers_model modules
    (@oneLine_entityContext spec target.language _ (line.entities entity member)) fun name given => by
      obtain ⟨relationship, _, rfl⟩ := related name given
      exact relationship.isNameChar_targetClass spec
  refine imports ▸ List.forall_mem_map.mpr fun className given => ?_
  obtain ⟨relationship, inside, rfl⟩ := related className given
  obtain ⟨other, known, same⟩ := Specification.exists_targetClass valid member inside
  rw [same]
  exact TemplateSet.resolve_model modules _ (named.entities entity member) (named.entities other known) ▸
    all other known

theorem service_resolves_iff {component : Component} (member : component ∈ spec.architecture.components) :
    (∀ specifier ∈ Imports.specifiers (serviceArtifact spec target component).content,
      provides (Imports.resolve (serviceArtifact spec target component).path specifier)) ↔
    ∀ dependency ∈ component.dependencies, ∀ used ∈ spec.component? dependency,
      provides (target.framework.templateSet.module .service (Convention.of target.language)
        (Words.pascal used.name)) := by
  have imports := TemplateSet.specifiers_service modules
    (@oneLine_serviceContext spec _ (line.components component member)) (isNameChar_dependencies component)
  have resolves (used : Component) {dependency : String} (found : used ∈ spec.component? dependency) :=
    TemplateSet.resolve_service modules (Convention.of target.language) (named.components component member)
      (named.components used (List.mem_reverse.mp (List.mem_of_find?_eq_some found)))
  refine (iff_of_eq (congrArg (∀ specifier ∈ ·, provides (Imports.resolve _ specifier)) imports)).trans ?_
  rw [List.forall_mem_map]
  constructor
  · intro all dependency inside used found
    rw [← resolves used found]
    exact all (Words.pascal used.name) (List.mem_filterMap.mpr ⟨dependency, inside, by rw [found]; rfl⟩)
  · intro all className given
    obtain ⟨dependency, inside, mapped⟩ := List.mem_filterMap.mp given
    obtain ⟨used, found, rfl⟩ := Option.map_eq_some_iff.mp mapped
    exact resolves used found ▸ all dependency inside used found

end Resolve

/-- The imports of all files resolve when the model of each entity and the used services do. -/
theorem imports_resolve_iff (valid : spec.structuralErrors = []) (line : spec.IsOneLine)
    (modules : target.framework.templateSet.hasModules = true) (provides : String → Prop) :
    (∀ file ∈ artifacts spec target, file.kind ∈ [.component, .model, .service] →
      ∀ specifier ∈ Imports.specifiers file.content, provides (Imports.resolve file.path specifier)) ↔
    (∀ entity ∈ spec.entities, provides (target.framework.templateSet.module .model (Convention.of target.language)
      (target.framework.templateSet.modelName entity.name))) ∧
    ∀ component ∈ spec.architecture.components, ∀ dependency ∈ component.dependencies,
      ∀ used ∈ spec.component? dependency, provides (target.framework.templateSet.module .service
        (Convention.of target.language) (Words.pascal used.name)) := by
  have named := Specification.isNamed_of_structuralErrors valid
  simp only [artifacts, List.forall_mem_append, List.forall_mem_flatMap, List.forall_mem_map, List.forall_mem_cons]
  constructor
  · rintro ⟨⟨⟨entities, _⟩, components⟩, _⟩
    refine ⟨fun entity member => ?_, fun component member => ?_⟩
    · exact (component_resolves_iff named line modules provides member).mp
        ((entities entity member).1 (by decide : ArtifactKind.component ∈ _))
    · exact (service_resolves_iff named line modules provides member).mp
        (components component member (by decide : ArtifactKind.service ∈ _))
  · rintro ⟨models, services⟩
    refine ⟨⟨⟨fun entity member => ⟨fun _ => ?_, fun _ => ?_, by simp⟩, fun flow _ page => ?_⟩,
      fun component member _ => ?_⟩, fun policy member kind => ?_⟩
    · exact (component_resolves_iff named line modules provides member).mpr (models entity member)
    · exact model_resolves named line modules provides valid member models
    · exact absurd page (by decide : ArtifactKind.page ∉ _)
    · exact (service_resolves_iff named line modules provides member).mpr (services component member)
    · rw [policyArtifacts] at member
      split at member
      · exact absurd member List.not_mem_nil
      · rw [List.mem_singleton.mp member] at kind
        exact absurd kind (by decide : ArtifactKind.repository ∉ _)

/-- The imports of a generated bundle resolve exactly when the names of the specification are linked. -/
theorem IsGenerated.imports_resolve_iff {result : GenerationResult} (generated : IsGenerated spec target result)
    (valid : spec.structuralErrors = []) (line : spec.IsOneLine)
    (modules : target.framework.templateSet.hasModules = true) :
    (∀ file ∈ result.output.files, file.kind ∈ [.component, .model, .service] →
      ∀ specifier ∈ Imports.specifiers file.content, result.output.Provides (Imports.resolve file.path specifier)) ↔
    spec.IsLinked target.framework.templateSet := by
  have named := Specification.isNamed_of_structuralErrors valid
  have model (name : String) :=
    provides_module_iff generated named modules (by decide : ArtifactKind.model ≠ .repository) name
  have service (name : String) :=
    provides_module_iff generated named modules (by decide : ArtifactKind.service ≠ .repository) name
  rw [generated.files, Generator.imports_resolve_iff valid line modules]
  simp only [model, service, Specification.namesOf, List.mem_map, exists_exists_and_eq_and, reduceCtorEq, false_and,
    or_false, true_and, spec.models_linked_iff]
  exact ⟨fun both => ⟨both.1, both.2⟩, fun linked => ⟨linked.models, linked.services⟩⟩

/-- For every specification without structural errors and every target whose files are modules, the bundle is made,
and all relative imports of its components, models and services lead to files of the same bundle exactly when the
names of the specification are linked. The texts that are printed as they were written are taken to have no line
ends, since a text with one can bring import lines of its own. -/
theorem generate_imports_resolve_iff (valid : spec.structuralErrors = []) (line : spec.IsOneLine)
    (member : target ∈ Catalog.targets) (modules : target.framework.templateSet.hasModules = true) :
    ∃ result, generate .builtin spec target = .ok result ∧ result.success = true ∧
      ((∀ file ∈ result.output.files, file.kind ∈ [.component, .model, .service] →
        ∀ specifier ∈ Imports.specifiers file.content,
          result.output.Provides (Imports.resolve file.path specifier)) ↔
        spec.IsLinked target.framework.templateSet) := by
  obtain ⟨result, generates, generated⟩ := exists_generate valid (Catalog.isMeasured member)
  exact ⟨result, generates, generated.success, generated.imports_resolve_iff valid line modules⟩

/-- Two entities of which one refers to the other, and two components of which one depends on the other. -/
def plainShop : Specification where
  metadata := { name := "shop" }
  entities := [
    { id := "item", name := "order item", relationships := [
      { id := "buyer", name := "buyer", type := "many-to-one", targetEntity := "Buyer2Go", onDelete := none }] },
    { id := "buyer", name := "Buyer2Go" }]
  architecture := { components := [
    { id := "tax", name := "tax_table" }, { id := "price", name := "priceEngine", dependencies := ["tax"] }] }

theorem generate_imports_resolve_plainShop :
    ∃ result, generate .builtin plainShop Catalog.webAngular = .ok result ∧ result.success = true ∧
      ∀ file ∈ result.output.files, file.kind ∈ [.component, .model, .service] →
        ∀ specifier ∈ Imports.specifiers file.content,
          result.output.Provides (Imports.resolve file.path specifier) := by
  obtain ⟨result, generates, success, resolve⟩ := generate_imports_resolve_iff
    (by decide : plainShop.structuralErrors = []) ⟨by simp [plainShop, OneLine], by simp [plainShop, OneLine]⟩
    (by simp [Catalog.targets] : Catalog.webAngular ∈ Catalog.targets) rfl
  refine ⟨result, generates, success, resolve.mpr ?_⟩
  exact Specification.isLinked_of_standApart (by decide) (by decide) _

/-- A component that another one depends on. Its name has one-letter words beside each other, which its class name
`ABC` does not keep apart. -/
def initialsShop : Specification where
  metadata := { name := "shop" }
  architecture := { components := [
    { id := "abc", name := "a b c" }, { id := "desk", name := "Desk", dependencies := ["abc"] }] }

/-- The service `aBC` is imported as `abc`. -/
theorem generate_imports_not_resolve :
    initialsShop.structuralErrors = [] ∧ initialsShop.IsOneLine ∧ Catalog.webReact ∈ Catalog.targets ∧
      ∃ result, generate .builtin initialsShop Catalog.webReact = .ok result ∧ result.success = true ∧
        ¬ ∀ file ∈ result.output.files, file.kind ∈ [.component, .model, .service] →
          ∀ specifier ∈ Imports.specifiers file.content,
            result.output.Provides (Imports.resolve file.path specifier) := by
  have valid : initialsShop.structuralErrors = [] := by decide
  have line : initialsShop.IsOneLine := ⟨by simp [initialsShop], by simp [initialsShop, OneLine]⟩
  have member : Catalog.webReact ∈ Catalog.targets := List.mem_cons_self
  obtain ⟨result, generates, generated⟩ := exists_generate valid (Catalog.isMeasured member)
  refine ⟨valid, line, member, result, generates, generated.success, fun resolve => ?_⟩
  have linked := (generated.imports_resolve_iff valid line rfl).mp resolve
  exact absurd linked.services (by decide)

end Generator

end Prism
