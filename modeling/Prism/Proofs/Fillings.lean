import Prism.Proofs.Cleaning
import Prism.Proofs.Containment
import Prism.Proofs.Template

namespace Prism

/-- The fixed texts that stand around names in holes. -/
def Template.marks : List String :=
  ["", " ", "?", " *", " required", "? = null", "[]", "List<", ">", "@jakarta.validation.constraints.NotNull ",
    "@source ", "entity:", "flow:", "component:", "compliance:rules", "/api/", "/\x7bid\x7d", "*"]

/-- A property that names, marks and types have, and that texts put together keep. -/
structure Text.IsSteady (holds : String → Prop) : Prop where
  name : ∀ {text : String}, (∀ c ∈ text.toList, Words.isNameChar c = true) → holds text
  mark : ∀ text ∈ Template.marks, holds text
  type : ∀ (language : Language) (type : FieldType), holds ((Convention.of language).typeFor type).name
  append : ∀ {front back : String}, holds front → holds back → holds (front ++ back)
  listed : ∀ {text : String}, holds text → holds ("[" ++ text ++ "]")
  routed : ∀ {route : String}, holds route → holds (Text.replaceAll "\x7bid\x7d" ":id" route)

section Contexts

variable (holds : String → Prop)

/-- All texts that templates print of an entity have a property. -/
structure EntityContext.Has (context : EntityContext) : Prop where
  trace : holds context.trace
  name : holds context.entity.name
  className : holds context.entity.className
  varName : holds context.entity.varName
  description : holds context.entity.description
  relationNames : ∀ relation ∈ context.entity.relationships, holds relation.name
  relationClasses : ∀ relation ∈ context.entity.relationships, holds relation.targetClass
  relatedClasses : ∀ related ∈ context.entity.relatedClasses, holds related
  fieldNames : ∀ field ∈ context.fields, holds field.name
  fieldTexts : ∀ field ∈ context.fields, holds field.text
  fieldTypes : ∀ field ∈ context.fields, holds field.nativeType
  routes : ∀ operation ∈ context.operations, holds operation.route
  errors : ∀ code ∈ context.errors, holds code

structure PageContext.Has (context : PageContext) : Prop where
  trace : holds context.trace
  id : holds context.flow.id
  name : holds context.flow.name
  className : holds context.flow.className
  varName : holds context.flow.varName
  description : holds context.flow.description
  route : holds context.flow.route
  roles : ∀ role ∈ context.flow.roles, holds role
  stepIds : ∀ step ∈ context.steps, holds step.id
  stepTypes : ∀ step ∈ context.steps, holds step.type
  handlers : ∀ step ∈ context.steps, holds step.handler
  entityClasses : ∀ step ∈ context.steps, holds step.entityClass
  nextHandlers : ∀ step ∈ context.steps, ∀ next ∈ step.nextHandlers, holds next

structure ServiceContext.Has (context : ServiceContext) : Prop where
  trace : holds context.trace
  id : holds context.component.id
  name : holds context.component.name
  className : holds context.component.className
  type : holds context.component.type
  layer : holds context.component.layer
  responsibilities : ∀ text ∈ context.component.responsibilities, holds text
  dependencies : ∀ dependency ∈ context.component.dependencies, holds dependency

structure PolicyContext.Has (context : PolicyContext) : Prop where
  trace : holds context.trace
  ids : ∀ rule ∈ context.rules, holds rule.id
  names : ∀ rule ∈ context.rules, holds rule.name
  keywords : ∀ rule ∈ context.rules, holds rule.keyword
  functions : ∀ rule ∈ context.rules, holds rule.function
  locations : ∀ rule ∈ context.rules, holds rule.location
  frameworks : ∀ rule ∈ context.rules, holds rule.framework
  severities : ∀ rule ∈ context.rules, holds rule.severity

end Contexts

theorem Operation.isNameChar : ∀ operation ∈ Operation.all,
    ∀ text ∈ [operation.name, operation.method, Template.small operation.method, Template.titled operation.method],
      text.toList.all Words.isNameChar = true := by
  decide

theorem Text.holds_ite {holds : String → Prop} (test : Bool) {yes no : String} (first : holds yes) (second : holds no) :
    holds (if test then yes else no) := by
  cases test with
  | true => exact first
  | false => exact second

section Steady

variable {holds : String → Prop} (steady : Text.IsSteady holds)

include steady

namespace Text.IsSteady

theorem kebab (name : String) : holds (Words.kebab name) := steady.name (Words.isNameChar_kebab name)

theorem camel (name : String) : holds (Words.camel name) := steady.name (Words.isNameChar_camel name)

theorem pascal (name : String) : holds (Words.pascal name) := steady.name (Words.isNameChar_pascal name)

theorem identifier (convention : Convention) (name : String) : holds (convention.identifier name) :=
  steady.name (Words.isNameChar_identifier convention name)

theorem operation (view : OperationView) : holds view.name ∧ holds view.method ∧ holds (Template.small view.method) ∧
    holds (Template.titled view.method) := by
  have listed : view.operation ∈ Operation.all := by cases view.operation <;> decide
  have named (text : String) (member) :=
    steady.name (List.all_eq_true.mp (Operation.isNameChar view.operation listed text member))
  exact ⟨named _ (by simp [OperationView.name]), named _ (by simp [OperationView.method]),
    named _ (by simp [OperationView.method]), named _ (by simp [OperationView.method])⟩

/-- The marks that tell whether a field is required or a relationship leads to many. -/
theorem marked (test : Bool) : holds (if test then " *" else "") ∧ holds (if test then " required" else "") ∧
    holds (if test then "" else "? = null") ∧ holds (if test then "" else "?") ∧ holds (if test then "[]" else "") ∧
    holds (if test then "@jakarta.validation.constraints.NotNull " else "") := by
  have mark {text : String} (member : text ∈ Template.marks) := steady.mark text member
  refine ⟨holds_ite _ ?_ ?_, holds_ite _ ?_ ?_, holds_ite _ ?_ ?_, holds_ite _ ?_ ?_, holds_ite _ ?_ ?_,
    holds_ite _ ?_ ?_⟩ <;> exact mark (by simp [Template.marks])

/-- The type of a relationship in languages with lists. -/
theorem lists (many : Bool) {name : String} (named : holds name) :
    holds (if many then "List<" ++ name ++ ">" else name) ∧ holds (if many then "[" ++ name ++ "]" else name) := by
  refine ⟨holds_ite _ (steady.append (steady.append ?_ named) ?_) named, holds_ite _ (steady.listed named) named⟩
  · exact steady.mark _ (by simp [Template.marks])
  · exact steady.mark _ (by simp [Template.marks])

end Text.IsSteady

namespace Template

section Entity

variable {context : EntityContext} (has : context.Has holds)

include has

omit steady in
theorem holds_requiredFields : ∀ field ∈ context.requiredFields, holds field.name :=
  fun field member => has.fieldNames field (List.mem_of_mem_filter member)

theorem holds_recordParameters : ∀ text ∈ BackendJava.recordParameters context, holds text := by
  have space : holds " " := steady.mark _ (by simp [marks])
  simp only [BackendJava.recordParameters, List.forall_mem_append, List.forall_mem_map]
  constructor
  · intro field member
    have required := (steady.marked field.required).2.2.2.2.2
    exact steady.append (steady.append (steady.append required (has.fieldTypes field member)) space)
      (has.fieldNames field member)
  · intro relation member
    refine steady.append (steady.append ?_ space) (has.relationNames relation member)
    exact (steady.lists relation.many (has.relationClasses relation member)).1

theorem fills_component (set : TemplateSet) (other : set ≠ .python) :
    set.templates.component.template.Fills holds context := by
  cases set with
  | python => exact absurd rfl other
  | react | vue | angular | iosSwift | androidKotlin | nodejs | java =>
    simp +contextual only [TemplateSet.templates, Bundled.template, WebReact.component, WebVue.component,
      WebAngular.component, MobileIos.component, MobileAndroid.component, BackendNode.component, BackendJava.component,
      parts, only, Fills, and_self, implies_true, has.trace, has.name, has.className, has.varName, has.fieldNames,
      has.fieldTexts, has.routes, has.errors, steady.routed, steady.kebab, steady.camel, steady.operation,
      steady.marked, holds_requiredFields has]

theorem fills_model (set : TemplateSet) (other : set ≠ .python) :
    set.templates.model.template.Fills holds context := by
  cases set with
  | python => exact absurd rfl other
  | react | vue | angular | iosSwift | androidKotlin | nodejs | java =>
    simp +contextual only [TemplateSet.templates, Bundled.template, WebReact.model, WebAngular.model, MobileIos.model,
      MobileAndroid.model, BackendJava.model, parts, only, Fills, and_self, implies_true, has.trace, has.className,
      has.varName, has.description, has.fieldNames, has.fieldTypes, has.relationNames, has.relationClasses,
      has.relatedClasses, steady.kebab, steady.marked, steady.lists, holds_requiredFields has,
      holds_recordParameters steady has]

end Entity

theorem fills_page {context : PageContext} (has : context.Has holds) (set : TemplateSet) (other : set ≠ .python) :
    set.templates.page.template.Fills holds context := by
  cases set with
  | python => exact absurd rfl other
  | react | vue | angular | iosSwift | androidKotlin | nodejs | java =>
    have entries : ∀ step ∈ context.entrySteps, holds step.handler :=
      fun step member => has.handlers step (List.mem_of_mem_filter member)
    simp +contextual only [TemplateSet.templates, Bundled.template, WebReact.page, WebVue.page, WebAngular.page,
      MobileIos.page, MobileAndroid.page, BackendNode.page, BackendJava.page, parts, only, Fills, true_and, and_true,
      implies_true, has.trace, has.id, has.name, has.className, has.varName, has.description, has.route, has.roles,
      has.stepIds, has.stepTypes, has.handlers, has.entityClasses, entries, steady.kebab]
    exact has.nextHandlers

theorem fills_service {context : ServiceContext} (has : context.Has holds) (set : TemplateSet) (other : set ≠ .python) :
    set.templates.service.template.Fills holds context := by
  cases set with
  | python => exact absurd rfl other
  | react | vue | angular | iosSwift | androidKotlin | nodejs | java =>
    simp +contextual only [TemplateSet.templates, Bundled.template, WebReact.service, WebAngular.service,
      MobileIos.service, MobileAndroid.service, BackendJava.service, parts, only, Fills, and_self, implies_true,
      has.trace, has.id, has.name, has.className, has.type, has.layer, has.responsibilities, has.dependencies,
      steady.kebab, steady.camel]

omit steady in
theorem fills_repository {context : PolicyContext} (has : context.Has holds) (set : TemplateSet)
    (other : set ≠ .python) : set.templates.repository.template.Fills holds context := by
  cases set with
  | python => exact absurd rfl other
  | react | vue | angular | iosSwift | androidKotlin | nodejs | java =>
    simp +contextual only [TemplateSet.templates, Bundled.template, WebReact.repository, MobileIos.repository,
      MobileAndroid.repository, BackendJava.repository, parts, only, Fills, and_self, implies_true, has.trace, has.ids,
      has.names, has.keywords, has.functions, has.locations, has.frameworks, has.severities]

end Template

end Steady

/-- The texts of an entity that are printed as they are. -/
def Entity.verbatim (entity : Entity) : List String := [entity.id]

/-- The texts of an entity that are printed as prose. -/
def Entity.prose (entity : Entity) : List String := entity.name :: entity.description :: entity.fields.map (·.name)

def Flow.verbatim (flow : Flow) : List String := flow.id :: flow.steps.map (·.id)

def Flow.prose (flow : Flow) : List String := flow.name :: flow.description :: flow.auth.map (·.role)

def Component.verbatim (component : Component) : List String := [component.id, component.type]

def Component.prose (component : Component) : List String :=
  component.name :: component.layer :: component.responsibilities

def ComplianceRule.verbatim (rule : ComplianceRule) : List String := [rule.id, rule.location, rule.severity]

def ComplianceRule.prose (rule : ComplianceRule) : List String := [rule.name, rule.framework]

theorem Relationship.isNameChar_targetClass (spec : Specification) (relationship : Relationship) :
    ∀ c ∈ (relationship.targetClass spec).toList, Words.isNameChar c = true := by
  rw [targetClass]
  split <;> exact Words.isNameChar_pascal _

namespace Generator

variable {spec : Specification}

theorem exists_of_mem_relatedClasses (convention : Convention) (entity : Entity) :
    ∀ name ∈ (entityContext spec convention entity).entity.relatedClasses,
      ∃ relationship ∈ entity.relationships, name = relationship.targetClass spec := by
  intro name member
  have given := List.mem_of_mem_filter (List.mem_eraseDups.mp member)
  rw [List.map_map] at given
  obtain ⟨relationship, inside, rfl⟩ := List.mem_map.mp given
  exact ⟨relationship, inside, rfl⟩

theorem isNameChar_dependencies (component : Component) :
    ∀ name ∈ (ComponentView.of spec component).dependencies, ∀ c ∈ name.toList, Words.isNameChar c = true := by
  intro name member
  obtain ⟨dependency, _, found⟩ := List.mem_filterMap.mp member
  obtain ⟨used, _, rfl⟩ := Option.map_eq_some_iff.mp found
  exact Words.isNameChar_pascal used.name

theorem isNameChar_errorCodes : ∀ code ∈ spec.errorCodes, code.toList.all Words.isNameChar = true := by
  have known : ∀ code ∈ ["NOT_FOUND", "INVALID_INPUT", "UNAUTHORIZED"], code.toList.all Words.isNameChar = true := by
    decide
  intro code member
  refine known code ?_
  rw [Specification.errorCodes] at member
  split at member
  · exact member
  · exact List.mem_append_left ["UNAUTHORIZED"] member

theorem isNameChar_stepType : ∀ type : StepType, (label type).toList.all Words.isNameChar = true := by
  decide

variable {holds : String → Prop} (steady : Text.IsSteady holds)

include steady

theorem holds_trace {subject : String} (told : holds subject) : holds (traceMarker subject) :=
  steady.append (steady.mark _ (by simp [Template.marks])) told

theorem has_entityContext (language : Language) {entity : Entity} (verbatim : ∀ text ∈ entity.verbatim, holds text)
    (prose : ∀ text ∈ entity.prose, holds (Prose.clean text)) :
    (entityContext spec (Convention.of language) entity).Has holds where
  trace := by
    refine holds_trace steady (steady.append (steady.mark _ (by simp [Template.marks])) ?_)
    exact verbatim _ (List.mem_singleton_self _)
  name := prose _ (by simp [Entity.prose])
  className := steady.pascal _
  varName := steady.identifier _ _
  description := prose _ (by simp [Entity.prose])
  relationNames := List.forall_mem_map.mpr fun _ _ => steady.identifier _ _
  relationClasses := List.forall_mem_map.mpr fun relationship _ =>
    steady.name (relationship.isNameChar_targetClass spec)
  relatedClasses := by
    intro name member
    obtain ⟨relationship, _, rfl⟩ := exists_of_mem_relatedClasses _ entity name member
    exact steady.name (relationship.isNameChar_targetClass spec)
  fieldNames := List.forall_mem_map.mpr fun _ _ => steady.identifier _ _
  fieldTexts := by
    refine List.forall_mem_map.mpr fun field member => prose _ ?_
    exact List.mem_cons_of_mem _ (List.mem_cons_of_mem _ (List.mem_map_of_mem member))
  fieldTypes := List.forall_mem_map.mpr fun field _ => steady.type language field.type
  routes := by
    refine List.forall_mem_map.mpr fun operation _ => ?_
    refine steady.append (steady.append (steady.mark _ (by simp [Template.marks])) (steady.kebab _)) ?_
    exact steady.mark _ (by cases operation <;> simp [Operation.suffix, Template.marks])
  errors := fun code member => steady.name (List.all_eq_true.mp (isNameChar_errorCodes code member))

theorem has_pageContext (language : Language) {flow : Flow} (verbatim : ∀ text ∈ flow.verbatim, holds text)
    (prose : ∀ text ∈ flow.prose, holds (Prose.clean text)) :
    PageContext.Has holds
      { trace := traceMarker flow.subject, flow := FlowView.of (Convention.of language) flow
        steps := StepView.all spec (Convention.of language) flow } where
  trace := by
    refine holds_trace steady (steady.append (steady.mark _ (by simp [Template.marks])) ?_)
    exact verbatim _ (List.mem_cons_self ..)
  id := verbatim _ (List.mem_cons_self ..)
  name := prose _ (by simp [Flow.prose])
  className := steady.pascal _
  varName := steady.identifier _ _
  description := prose _ (by simp [Flow.prose])
  route := steady.kebab _
  roles := by
    intro role member
    obtain ⟨requirement, given, rfl⟩ := List.mem_map.mp (List.mem_eraseDups.mp member)
    exact prose _ (List.mem_cons_of_mem _ (List.mem_cons_of_mem _ (List.mem_map_of_mem given)))
  stepIds := List.forall_mem_map.mpr fun step member => verbatim _ (List.mem_cons_of_mem _ (List.mem_map_of_mem member))
  stepTypes := by
    refine List.forall_mem_map.mpr fun step _ => steady.name ?_
    exact List.all_eq_true.mp (isNameChar_stepType step.type)
  handlers := List.forall_mem_map.mpr fun _ _ => steady.identifier _ _
  entityClasses := by
    refine List.forall_mem_map.mpr fun step _ => ?_
    simp only [StepView.of]
    split
    · exact steady.pascal _
    · exact steady.mark _ (by simp [Template.marks])
  nextHandlers := by
    refine List.forall_mem_map.mpr fun step _ => ?_
    exact List.forall_mem_map.mpr fun _ _ => steady.identifier _ _

theorem has_serviceContext {component : Component} (verbatim : ∀ text ∈ component.verbatim, holds text)
    (prose : ∀ text ∈ component.prose, holds (Prose.clean text)) :
    ServiceContext.Has holds
      { trace := traceMarker component.subject, component := ComponentView.of spec component } where
  trace := by
    refine holds_trace steady (steady.append (steady.mark _ (by simp [Template.marks])) ?_)
    exact verbatim _ (List.mem_cons_self ..)
  id := verbatim _ (List.mem_cons_self ..)
  name := prose _ (by simp [Component.prose])
  className := steady.pascal _
  type := verbatim component.type (by simp [Component.verbatim])
  layer := prose _ (by simp [Component.prose])
  responsibilities := by
    refine List.forall_mem_map.mpr fun text member => prose _ ?_
    exact List.mem_cons_of_mem _ (List.mem_cons_of_mem _ member)
  dependencies := fun name member => steady.name (isNameChar_dependencies component name member)

theorem has_policyContext (language : Language)
    (verbatim : ∀ rule ∈ spec.compliance.rules, ∀ text ∈ rule.verbatim, holds text)
    (prose : ∀ rule ∈ spec.compliance.rules, ∀ text ∈ rule.prose, holds (Prose.clean text)) :
    PolicyContext.Has holds
      { trace := traceMarker policySubject
        rules := spec.compliance.rules.map (RuleView.of (Convention.of language)) } where
  trace := holds_trace steady (steady.mark _ (by simp [Template.marks, policySubject]))
  ids := List.forall_mem_map.mpr fun rule member => verbatim rule member rule.id (by simp [ComplianceRule.verbatim])
  names := List.forall_mem_map.mpr fun rule member => prose rule member _ (by simp [ComplianceRule.prose])
  keywords := by
    have plain : ∀ enforcement : Enforcement, enforcement.keyword.toList.all Words.isNameChar = true := by decide
    exact List.forall_mem_map.mpr fun rule _ => steady.name (List.all_eq_true.mp (plain rule.implementation))
  functions := List.forall_mem_map.mpr fun _ _ => steady.identifier _ _
  locations := by
    refine List.forall_mem_map.mpr fun rule member => ?_
    exact Text.holds_ite _ (steady.mark _ (by simp [Template.marks]))
      (verbatim rule member _ (by simp [ComplianceRule.verbatim]))
  frameworks := List.forall_mem_map.mpr fun rule member => prose rule member _ (by simp [ComplianceRule.prose])
  severities := List.forall_mem_map.mpr fun rule member =>
    verbatim rule member rule.severity (by simp [ComplianceRule.verbatim])

end Generator

end Prism
