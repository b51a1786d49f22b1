import Prism.Command.Answer
import Prism.Proofs.Generation
import Prism.Proofs.Structure
import Prism.Proofs.Words.Canonical

namespace Prism

/-- A kind of choice of which all are listed. -/
class Listed (α : Type) [Labelled α] : Prop where
  mem_all (choice : α) : choice ∈ (Labelled.all : List α)

/-- What holds of every choice can be decided. -/
instance {α : Type} [Labelled α] [Listed α] {holds : α → Prop} [DecidablePred holds] :
    Decidable (∀ choice, holds choice) :=
  decidable_of_iff (∀ choice ∈ (Labelled.all : List α), holds choice)
    ⟨fun all choice => all choice (Listed.mem_all choice), fun all choice _ => all choice⟩

instance : Listed TemplateSet := ⟨fun set => by cases set <;> decide⟩
instance : Listed ArtifactKind := ⟨fun kind => by cases kind <;> decide⟩
instance : Listed Framework := ⟨fun framework => by cases framework <;> decide⟩
instance : Listed Language := ⟨fun language => by cases language <;> decide⟩
instance : Listed FieldType := ⟨fun type => by cases type <;> decide⟩
instance : Listed StepType := ⟨fun type => by cases type <;> decide⟩
instance : Listed Enforcement := ⟨fun enforcement => by cases enforcement <;> decide⟩

/-- The forms without separators lose where one number ends and the next begins. -/
def PathPart.blurs : PathPart → Bool
  | .pascal | .camel => true
  | .text _ | .kebab | .identifier => false

/-- What a form keeps of a name. -/
def Words.kept (blurred : Bool) (name : String) : String :=
  if blurred then canonical name else key name

def PathPart.isName : PathPart → Bool
  | .text _ => false
  | .pascal | .camel | .kebab | .identifier => true

theorem PathPart.render_eq_iff {convention : Convention} {part : PathPart} {a b : String}
    (named : part.isName = true) (snakes : part = .identifier → convention.casing = .snake) :
    part.render convention a = part.render convention b ↔ Words.kept part.blurs a = Words.kept part.blurs b := by
  cases part with
  | text value => exact absurd named Bool.false_ne_true
  | pascal =>
    change Words.pascal a = Words.pascal b ↔ Words.canonical a = Words.canonical b
    rw [Words.pascal_eq_iff, Words.canonical_eq_iff]
  | camel => exact Iff.rfl
  | kebab =>
    change Words.kebab a = Words.kebab b ↔ Words.key a = Words.key b
    rw [Words.kebab_eq_iff, Words.key_eq_iff]
  | identifier =>
    change convention.identifier a = convention.identifier b ↔ Words.key a = Words.key b
    constructor
    · intro same
      rw [Words.key_eq_iff, ← Words.splitChars_identifier_of_snake (snakes rfl) a, same,
        Words.splitChars_identifier_of_snake (snakes rfl)]
    · intro same
      have written : Words.snake a = Words.snake b := same
      simp only [Convention.identifier, snakes rfl, written]

namespace TemplateSet

/-- Whether the paths of a kind lose the difference between some names. -/
def blurs (set : TemplateSet) (kind : ArtifactKind) : Bool := (set.layout kind).any PathPart.blurs

theorem toList_path (set : TemplateSet) (kind : ArtifactKind) (convention : Convention) (name : String) :
    (set.path kind convention name).toList =
      (set.layout kind).flatMap fun part => (part.render convention name).toList := by
  rw [path, String.toList_join, List.flatMap_map]

/-- A path has the name once between two fixed texts; only components of Angular have it twice. -/
theorem layout_cases (set : TemplateSet) {kind : ArtifactKind} (own : kind ≠ .repository) :
    (∃ front part back, set.layout kind = [.text front, part, .text back] ∧ part.isName = true ∧
      (part = .identifier → set = .python)) ∨
    ∃ front middle back, set.layout kind = [.text front, .kebab, .text middle, .kebab, .text back] := by
  cases set <;> cases kind <;>
    first
    | exact absurd rfl own
    | exact Or.inl ⟨_, _, _, rfl, rfl, by decide⟩
    | exact Or.inr ⟨_, _, _, rfl⟩

/-- Two files of one kind lie at the same place exactly when the layout keeps the same of their names. -/
theorem path_eq_iff {set : TemplateSet} {kind : ArtifactKind} {convention : Convention} {a b : String}
    (own : kind ≠ .repository) (snakes : set = .python → convention.casing = .snake) :
    set.path kind convention a = set.path kind convention b ↔
      Words.kept (set.blurs kind) a = Words.kept (set.blurs kind) b := by
  rw [← String.toList_inj, toList_path, toList_path]
  rcases set.layout_cases own with ⟨front, part, back, layout, named, python⟩ | ⟨front, middle, back, layout⟩
  · have blurs : set.blurs kind = part.blurs := by
      simp [TemplateSet.blurs, layout, PathPart.blurs]
    rw [blurs, ← PathPart.render_eq_iff named fun identifier => snakes (python identifier), layout,
      ← String.toList_inj]
    simp [PathPart.render]
  · have blurs : set.blurs kind = PathPart.kebab.blurs := by
      simp [TemplateSet.blurs, layout, PathPart.blurs]
    rw [blurs, ← PathPart.render_eq_iff rfl (by simp : _ → convention.casing = .snake), layout, ← String.toList_inj]
    simp only [List.flatMap_cons, List.flatMap_nil, PathPart.render, List.append_nil, List.append_cancel_left_eq]
    constructor
    · intro same
      have lengths := congrArg List.length same
      simp only [List.length_append] at lengths
      exact (List.append_inj same (by omega)).1
    · intro same
      rw [same]

/-- The fixed text that every path of a layout starts with. -/
def front : List PathPart → List Char
  | .text value :: _ => value.toList
  | _ => []

/-- The fixed text that every path of a layout ends with. -/
def back (layout : List PathPart) : List Char := front layout.reverse

/-- Whether two layouts part at one of their ends. -/
def areDivided (layout other : List PathPart) : Bool :=
  !((front layout).isPrefixOf (front other) || (front other).isPrefixOf (front layout)) ||
    !((back layout).isSuffixOf (back other) || (back other).isSuffixOf (back layout))

section Divided

variable (convention : Convention) (name : String)

theorem front_isPrefix (layout : List PathPart) :
    front layout <+: layout.flatMap fun part => (part.render convention name).toList := by
  unfold front
  split
  · rw [List.flatMap_cons]
    exact List.prefix_append _ _
  · exact List.nil_prefix

theorem back_isSuffix (layout : List PathPart) :
    back layout <:+ layout.flatMap fun part => (part.render convention name).toList := by
  unfold back front
  split
  · next value rest last =>
    rw [← List.reverse_reverse layout, last, List.reverse_cons, List.flatMap_append, List.flatMap_singleton]
    exact List.suffix_append _ _
  · exact List.nil_suffix

/-- Divided layouts have no path in common. -/
theorem join_ne_of_areDivided {layout other : List PathPart} (divided : areDivided layout other = true)
    (another : String) : String.join (layout.map (PathPart.render convention name)) ≠
      String.join (other.map (PathPart.render convention another)) := by
  rw [ne_eq, ← String.toList_inj, String.toList_join, String.toList_join, List.flatMap_map, List.flatMap_map]
  intro same
  have starts := front_isPrefix convention another other
  have ends := back_isSuffix convention another other
  rw [← same] at starts ends
  have fronts := List.prefix_or_prefix_of_prefix (front_isPrefix convention name layout) starts
  have backs := List.suffix_or_suffix_of_suffix (back_isSuffix convention name layout) ends
  simp only [areDivided, Bool.or_eq_true, Bool.not_eq_true', ← Bool.not_eq_true,
    List.isPrefixOf_iff_prefix, List.isSuffixOf_iff_suffix] at divided
  tauto

theorem join_ne_text {layout : List PathPart} {path : String} (divided : areDivided layout [.text path] = true) :
    String.join (layout.map (PathPart.render convention name)) ≠ path := by
  simpa [PathPart.render] using join_ne_of_areDivided convention name divided name

end Divided

/-- Where the policy lies among the services, as if it were the service of a component with its name. -/
def sharesPolicy : TemplateSet → Bool
  | .react | .vue | .iosSwift => true
  | .angular | .androidKotlin | .nodejs | .python | .java => false

theorem areDivided_layout : ∀ {set : TemplateSet} {kind other : ArtifactKind}, kind ≠ other →
    (set.sharesPolicy = true → kind = .repository ∨ other = .repository → kind ≠ .service ∧ other ≠ .service) →
    areDivided (set.layout kind) (set.layout other) = true := by
  decide +kernel

theorem path_repository {set : TemplateSet} (shares : set.sharesPolicy = true) (convention : Convention)
    (name : String) :
    set.path .repository convention name = set.path .service convention "data access policy" := by
  have camel : Words.camel "data access policy" = "dataAccessPolicy" := by decide
  have pascal : Words.pascal "data access policy" = "DataAccessPolicy" := by decide
  rw [path, path]
  cases set <;>
    first
    | exact absurd shares Bool.false_ne_true
    | simp only [layout, List.map_cons, List.map_nil, PathPart.render, camel, pascal]
      decide

end TemplateSet

/-- The files beside the artifacts have places of their own. -/
theorem Framework.areDivided_configurationPaths : ∀ (framework : Framework) (kind : ArtifactKind),
    ∀ path ∈ framework.configurationPaths ++ ["README.md"],
      TemplateSet.areDivided (framework.templateSet.layout kind) [.text path] = true := by
  decide +kernel

/-- The names that the files of a kind have. -/
def Specification.namesOf (spec : Specification) : ArtifactKind → List String
  | .component | .model => spec.entities.map (·.name)
  | .page => spec.flows.map (·.name)
  | .service => spec.architecture.components.map (·.name)
  | .repository => if spec.compliance.rules.isEmpty then [] else ["data access policy"]

/-- The paths of the files of a kind. -/
def Specification.pathsOf (spec : Specification) (target : Target) (kind : ArtifactKind) : List String :=
  (spec.namesOf kind).map (target.framework.templateSet.path kind (Convention.of target.language))

/-- What keeps the files of a specification apart: names that differ in more than how their digits are
grouped, where the layout drops the grouping, and no component with the name of the policy, where the
policy lies beside the services. -/
structure Specification.IsApart (spec : Specification) (set : TemplateSet) : Prop where
  names : ∀ kind, set.blurs kind = true → ((spec.namesOf kind).map Words.canonical).Nodup
  policy : set.sharesPolicy = true → spec.compliance.rules ≠ [] →
    ∀ component ∈ spec.architecture.components, Words.canonical component.name ≠ "dataAccessPolicy"

theorem Specification.IsDistinct.namesOf {spec : Specification} (distinct : spec.IsDistinct) (kind : ArtifactKind) :
    ((spec.namesOf kind).map Words.key).Nodup := by
  cases kind with
  | component | model =>
    rw [Specification.namesOf, List.map_map]
    exact distinct.entities
  | page =>
    rw [Specification.namesOf, List.map_map]
    exact distinct.flows
  | service =>
    rw [Specification.namesOf, List.map_map]
    exact distinct.components
  | repository =>
    rw [Specification.namesOf]
    split <;> simp

theorem Catalog.casing_of_python {target : Target} (member : target ∈ Catalog.targets)
    (python : target.framework.templateSet = .python) : (Convention.of target.language).casing = .snake :=
  (by decide : ∀ target ∈ Catalog.targets, target.framework.templateSet = .python →
    (Convention.of target.language).casing = .snake) target member python

namespace Generator

variable {spec : Specification} {target : Target}

theorem paths_artifacts_perm (spec : Specification) (target : Target) :
    ((artifacts spec target).map (·.path)).Perm
      ((Labelled.all : List ArtifactKind).flatMap (spec.pathsOf target)) := by
  have entities := (List.map_append_flatMap_perm spec.entities
    (fun entity => (componentArtifact spec target entity).path)
    fun entity => [(modelArtifact spec target entity).path]).symm
  have policy : (policyArtifacts spec target).map (·.path) = spec.pathsOf target .repository := by
    rw [policyArtifacts, Specification.pathsOf, Specification.namesOf]
    split <;> rfl
  rw [← List.map_eq_flatMap] at entities
  rw [artifacts, List.map_append, List.map_append, List.map_append, List.map_flatMap, List.map_map, List.map_map,
    policy]
  refine ((entities.append_right _).append_right _ |>.append_right _).trans (.of_eq ?_)
  simp only [Labelled.all, List.flatMap_cons, List.flatMap_nil, List.append_nil, List.append_assoc,
    Specification.pathsOf, Specification.namesOf, List.map_map]
  rfl

/-- Files of one kind have different paths exactly when their names are kept apart. -/
theorem nodup_pathsOf_iff (distinct : spec.IsDistinct)
    (snakes : target.framework.templateSet = .python → (Convention.of target.language).casing = .snake)
    (kind : ArtifactKind) :
    (spec.pathsOf target kind).Nodup ↔
      (target.framework.templateSet.blurs kind = true → ((spec.namesOf kind).map Words.canonical).Nodup) := by
  by_cases own : kind = .repository
  · subst own
    have plain : target.framework.templateSet.blurs .repository = false := by
      cases target.framework.templateSet <;> rfl
    simp only [plain, Bool.false_eq_true, false_imp_iff, iff_true, Specification.pathsOf, Specification.namesOf]
    split <;> simp
  · have kept : (spec.pathsOf target kind).Nodup ↔
        ((spec.namesOf kind).map (Words.kept (target.framework.templateSet.blurs kind))).Nodup := by
      rw [Specification.pathsOf, List.nodup_iff_pairwise_ne, List.pairwise_map, List.nodup_iff_pairwise_ne,
        List.pairwise_map]
      simp only [ne_eq, TemplateSet.path_eq_iff own snakes]
    rw [kept]
    cases target.framework.templateSet.blurs kind with
    | false => exact iff_of_true (distinct.namesOf kind) fun blurred => absurd blurred Bool.false_ne_true
    | true => exact ⟨fun apart _ => apart, fun apart => apart rfl⟩

theorem disjoint_pathsOf {kind other : ArtifactKind} (spec : Specification)
    (divided : TemplateSet.areDivided (target.framework.templateSet.layout kind)
      (target.framework.templateSet.layout other) = true) :
    (spec.pathsOf target kind).Disjoint (spec.pathsOf target other) := by
  intro path here there
  obtain ⟨name, _, rfl⟩ := List.mem_map.mp here
  obtain ⟨another, _, same⟩ := List.mem_map.mp there
  exact TemplateSet.join_ne_of_areDivided _ name divided another same.symm

/-- Services keep clear of the policy exactly when no component has its name, or it lies elsewhere. -/
theorem disjoint_services_iff
    (snakes : target.framework.templateSet = .python → (Convention.of target.language).casing = .snake) :
    (spec.pathsOf target .service).Disjoint (spec.pathsOf target .repository) ↔
      (target.framework.templateSet.sharesPolicy = true → spec.compliance.rules ≠ [] →
        ∀ component ∈ spec.architecture.components, Words.canonical component.name ≠ "dataAccessPolicy") := by
  cases shares : target.framework.templateSet.sharesPolicy with
  | false =>
    simp only [Bool.false_eq_true, false_imp_iff, iff_true]
    exact disjoint_pathsOf spec (TemplateSet.areDivided_layout (by decide) (by simp [shares]))
  | true =>
    have blurs : target.framework.templateSet.blurs .service = true := by
      revert shares
      cases target.framework.templateSet <;> decide
    have same (name : String) : target.framework.templateSet.path .service (Convention.of target.language) name =
        target.framework.templateSet.path .repository (Convention.of target.language) "data access policy" ↔
          Words.canonical name = "dataAccessPolicy" := by
      rw [TemplateSet.path_repository shares, TemplateSet.path_eq_iff (by decide) snakes, blurs]
      exact Eq.congr_right (by decide)
    rw [Specification.pathsOf, Specification.pathsOf, Specification.namesOf, Specification.namesOf]
    by_cases rules : spec.compliance.rules = []
    · simp [rules]
    · simp [rules, same]

/-- The artifacts have different paths exactly when the specification keeps its files apart. -/
theorem nodup_paths_artifacts_iff (distinct : spec.IsDistinct)
    (snakes : target.framework.templateSet = .python → (Convention.of target.language).casing = .snake) :
    ((artifacts spec target).map (·.path)).Nodup ↔ spec.IsApart target.framework.templateSet := by
  rw [(paths_artifacts_perm spec target).nodup_iff, List.nodup_flatMap]
  constructor
  · rintro ⟨kinds, others⟩
    refine ⟨fun kind => (nodup_pathsOf_iff distinct snakes kind).mp (kinds kind (Listed.mem_all kind)),
      (disjoint_services_iff snakes).mp ?_⟩
    simp only [Labelled.all, List.pairwise_cons, List.mem_cons] at others
    exact others.2.2.2.1 .repository (Or.inl rfl)
  · rintro ⟨names, policy⟩
    refine ⟨fun kind _ => (nodup_pathsOf_iff distinct snakes kind).mpr (names kind), ?_⟩
    have services := (disjoint_services_iff snakes).mpr policy
    refine List.Pairwise.imp_of_mem ?_ (by decide : (Labelled.all : List ArtifactKind).Nodup)
    intro kind other _ _ differ
    by_cases beside : kind = .service ∧ other = .repository
    · obtain ⟨rfl, rfl⟩ := beside
      exact services
    · by_cases behind : kind = .repository ∧ other = .service
      · obtain ⟨rfl, rfl⟩ := behind
        exact services.symm
      · refine disjoint_pathsOf spec (TemplateSet.areDivided_layout differ fun _ policy => ?_)
        rcases policy with rfl | rfl
        · exact ⟨by decide, fun service => behind ⟨rfl, service⟩⟩
        · exact ⟨fun service => beside ⟨service, rfl⟩, by decide⟩

theorem IsGenerated.paths {result : GenerationResult} (generated : IsGenerated spec target result) :
    (Command.bundleFiles result.output).map (·.1) =
      (artifacts spec target).map (·.path) ++ (target.framework.configurationPaths ++ ["README.md"]) := by
  rw [Command.bundleFiles, List.map_append, List.map_append, List.map_map, List.map_map, List.map_map,
    ← generated.files, ← generated.configuration, ← generated.documentation, List.append_assoc]
  rfl

/-- Configuration and documentation never lie where an artifact does. -/
theorem nodup_paths_bundle_iff {result : GenerationResult} (generated : IsGenerated spec target result) :
    ((Command.bundleFiles result.output).map (·.1)).Nodup ↔ ((artifacts spec target).map (·.path)).Nodup := by
  rw [generated.paths, List.nodup_append']
  have fixed : (target.framework.configurationPaths ++ ["README.md"]).Nodup := by
    cases target.framework <;> decide
  refine ⟨And.left, fun nodup => ⟨nodup, fixed, fun path here there => ?_⟩⟩
  obtain ⟨kind, _, inKind⟩ := List.mem_flatMap.mp ((paths_artifacts_perm spec target).mem_iff.mp here)
  obtain ⟨name, _, rfl⟩ := List.mem_map.mp inKind
  have divided := target.framework.areDivided_configurationPaths kind _ there
  exact TemplateSet.join_ne_text _ name divided rfl

/-- For every specification without structural errors each built-in target has a bundle. The paths of all
its files differ exactly when the specification keeps its files apart under the layout of the target. -/
theorem generate_paths_nodup_iff (valid : spec.structuralErrors = []) (member : target ∈ Catalog.targets) :
    ∃ result, generate .builtin spec target = .ok result ∧ result.success = true ∧
      (((Command.bundleFiles result.output).map (·.1)).Nodup ↔ spec.IsApart target.framework.templateSet) := by
  obtain ⟨result, generates, generated⟩ := exists_generate valid (Catalog.isMeasured member)
  refine ⟨result, generates, generated.success, (nodup_paths_bundle_iff generated).trans ?_⟩
  exact nodup_paths_artifacts_iff (Specification.isDistinct_of_structuralErrors valid)
    (Catalog.casing_of_python member)

/-- Two components whose names differ only in how their digits are grouped. -/
def twinComponents : Specification where
  metadata := { name := "shop" }
  architecture := { components := [{ id := "one", name := "a1 2" }, { id := "two", name := "a12" }] }

theorem generate_paths_nodup_twinComponents :
    ∃ result, generate .builtin twinComponents Catalog.backendPython = .ok result ∧ result.success = true ∧
      ((Command.bundleFiles result.output).map (·.1)).Nodup := by
  obtain ⟨result, generates, success, apart⟩ := generate_paths_nodup_iff
    (by decide : twinComponents.structuralErrors = [])
    (by simp [Catalog.targets] : Catalog.backendPython ∈ Catalog.targets)
  refine ⟨result, generates, success, apart.mpr ⟨fun kind blurred => ?_, fun shared => ?_⟩⟩
  · exact absurd blurred (by cases kind <;> decide)
  · exact absurd shared (by decide)

/-- Both components have the same file in the bundle of another target. -/
theorem generate_paths_not_nodup :
    twinComponents.structuralErrors = [] ∧ Catalog.webReact ∈ Catalog.targets ∧
      ∃ result, generate .builtin twinComponents Catalog.webReact = .ok result ∧ result.success = true ∧
        ¬ ((Command.bundleFiles result.output).map (·.1)).Nodup := by
  have valid : twinComponents.structuralErrors = [] := by decide
  have member : Catalog.webReact ∈ Catalog.targets := List.mem_cons_self
  obtain ⟨result, generates, generated⟩ := exists_generate valid (Catalog.isMeasured member)
  refine ⟨valid, member, result, generates, generated.success, ?_⟩
  rw [nodup_paths_bundle_iff generated, nodup_paths_artifacts_iff (Specification.isDistinct_of_structuralErrors valid)
    (Catalog.casing_of_python member)]
  intro apart
  exact absurd (apart.names .service (by decide)) (by decide)

end Generator

end Prism
