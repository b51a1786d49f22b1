import Prism.Proofs.Decimal.Reading
import Prism.Proofs.Document.Extent
import Prism.Spec.Reader

namespace Prism

namespace Json

/-- The items of an array; anything else has none. -/
def items : Json → List Json
  | .list items => items
  | _ => []

def isList : Json → Bool
  | .list _ => true
  | _ => false

/-- The value of a member, null when there is none. -/
def get (name : String) (value : Json) : Json := (value.member? name).getD .null

/-- A member is there and is no array. -/
def misplaces (name : String) (value : Json) : Bool := (value.member? name).any fun given => !given.isList

theorem items_get_of_misplaces {name : String} {value : Json} (placed : value.misplaces name = true) :
    (value.get name).items = [] := by
  rw [misplaces] at placed
  rw [get]
  cases found : value.member? name with
  | none => rfl
  | some given =>
    cases given with
    | list items => simp [found, isList] at placed
    | null | bool | int | float | text | object => rfl

namespace IsInside

variable {document value : Json} (inside : document.IsInside value)

include inside

theorem member? {name : String} {inner : Json} (found : value.member? name = some inner) :
    document.IsInside inner := by
  cases value with
  | object members =>
    have each : ∀ member ∈ members, document.IsInside member.2 := fun _ => inside.member
    rw [Json.member?] at found
    clear inside
    induction members with
    | nil => simp [lookup] at found
    | cons member members ih =>
      obtain ⟨first, later⟩ := List.forall_mem_cons.mp each
      rw [lookup] at found
      split at found
      · exact Option.some.inj found ▸ first
      · exact ih found later
  | null | bool | int | float | text | list => simp [Json.member?] at found

theorem get (name : String) : document.IsInside (value.get name) := by
  rw [Json.get]
  cases found : value.member? name with
  | none => exact .absent
  | some inner => exact inside.member? found

theorem of_mem_items {inner : Json} (present : inner ∈ value.items) : document.IsInside inner := by
  cases value with
  | list values => exact inside.item present
  | null | bool | int | float | text | object => simp [items] at present

end IsInside

/-- The text that a value stands for where a name is asked for. -/
def naming? : Json → Option String
  | .bool b => some (if b then "true" else "false")
  | .int n => some n.repr
  | .float x => some (Decimal.shortText x)
  | .text s => if s = "" then none else some s
  | .null | .list _ | .object _ => none

/-- A text that names a choice, without regard to case and blanks around it. -/
def names (α : Type) [Labelled α] : Json → Bool
  | .text s => (Labelled.all : List α).any fun choice => label choice = Text.lower (Text.strip s)
  | _ => false

end Json

namespace Doc

open Json (naming?)

theorem ofJsonItems_eq_map (values : List Json) : ofJsonItems values = values.map ofJson := by
  induction values with
  | nil => rfl
  | cons value values ih => rw [ofJsonItems, ih, List.map_cons]

theorem ofJsonMembers_eq_map (members : List (String × Json)) :
    ofJsonMembers members = members.map fun member => (.text member.1, ofJson member.2) := by
  induction members with
  | nil => rfl
  | cons member members ih => simp [ofJsonMembers, ih]

theorem lookup_ofJson (name : String) (json : Json) :
    lookup name (ofJson json).entries = (json.member? name).map ofJson := by
  cases json with
  | null | bool | int | float | text | list => rfl
  | object members =>
    simp only [ofJson, entries, Json.member?]
    induction members with
    | nil => rfl
    | cons member members ih =>
      simp only [ofJsonMembers, lookup, Json.lookup, ih]
      split <;> rfl

theorem get_ofJson (name : String) (json : Json) : get name (ofJson json).entries = ofJson (json.get name) := by
  rw [get, lookup_ofJson, Json.get]
  cases json.member? name <;> rfl

theorem items_ofJson (json : Json) : (ofJson json).items = json.items.map ofJson := by
  cases json with
  | list values => exact ofJsonItems_eq_map values
  | null | bool | int | float | text | object => rfl

/-- A value of a document from JSON, or null in the place of one that is not there. -/
def IsInside (document : Json) (value : Doc) : Prop := ∃ json, document.IsInside json ∧ value = ofJson json

namespace IsInside

variable {document : Json} {value : Doc} (inside : IsInside document value)

include inside

theorem lookup {name : String} {inner : Doc} (found : Doc.lookup name value.entries = some inner) :
    IsInside document inner := by
  obtain ⟨json, inside, rfl⟩ := inside
  rw [lookup_ofJson, Option.map_eq_some_iff] at found
  obtain ⟨member, found, rfl⟩ := found
  exact ⟨member, inside.member? found, rfl⟩

theorem get (name : String) : IsInside document (Doc.get name value.entries) := by
  obtain ⟨json, inside, rfl⟩ := inside
  exact ⟨json.get name, inside.get name, get_ofJson name json⟩

theorem firstOf (names : List String) : IsInside document (Doc.firstOf names value.entries) := by
  rw [Doc.firstOf]
  cases found : names.findSome? fun name => (Doc.lookup name value.entries).filter (!·.isNull) with
  | none => exact ⟨.null, .absent, rfl⟩
  | some inner =>
    obtain ⟨name, _, kept⟩ := List.exists_of_findSome?_eq_some found
    exact inside.lookup (Option.filter_eq_some_iff.mp kept).1

theorem of_mem_items {inner : Doc} (present : inner ∈ value.items) : IsInside document inner := by
  obtain ⟨json, inside, rfl⟩ := inside
  rw [items_ofJson] at present
  obtain ⟨item, among, rfl⟩ := List.mem_map.mp present
  exact ⟨item, inside.of_mem_items among, rfl⟩

theorem isSpelled {room : Room} (within : document.IsWithin room) : value.isSpelled room = true := by
  obtain ⟨json, inside, rfl⟩ := inside
  obtain ⟨depth, fits, _⟩ := within
  exact isSpelled_ofJson (inside.fits fits)

theorem showingLimit? {room : Room} (within : document.IsWithin room) :
    value.showingLimit? room room.showing = none := by
  obtain ⟨json, inside, rfl⟩ := inside
  obtain ⟨depth, fits, _, showing⟩ := within
  exact showingLimit?_ofJson (inside.fits fits) showing

end IsInside

theorem filled?_ofJson (json : Json) : (ofJson json).filled? = json.naming? := by
  cases json with
  | null | list | object => rfl
  | bool b => cases b <;> rfl
  | int n => simp [ofJson, filled?, text?, naming?, Option.filter_some, Decimal.int_repr_ne_empty]
  | float x => simp [ofJson, filled?, text?, naming?, Option.filter_some, Decimal.shortText_ne_empty]
  | text s =>
    simp only [ofJson, filled?, text?, naming?, Option.filter_some]
    by_cases empty : s = "" <;> simp [empty]

theorem choice?_isSome_ofJson (α : Type) [Labelled α] (json : Json) :
    ((ofJson json).choice? : Option α).isSome = json.names α := by
  cases json with
  | null | bool | int | float | list | object => rfl
  | text s => exact List.isSome_find?

/-- A choice that is read is the one that the text names. -/
theorem label_of_choice?_ofJson {α : Type} [Labelled α] {json : Json} {choice : α}
    (read : (ofJson json).choice? = some choice) :
    ∃ text, json = .text text ∧ label choice = Text.lower (Text.strip text) := by
  cases json with
  | null | bool | int | float | list | object => exact absurd read (by simp [ofJson, choice?])
  | text s => exact ⟨s, rfl, by simpa using List.find?_some read⟩

/-- A section is read unless it is there and no array. -/
theorem section?_ofJson (name : String) (problem : DocumentProblem) (json : Json) :
    Doc.section? name problem (ofJson json).entries =
      if json.misplaces name then .error [problem] else .ok ((json.get name).items.map ofJson) := by
  rw [section?, lookup_ofJson, Json.misplaces, Json.get]
  cases json.member? name with
  | none => rfl
  | some value =>
    cases value with
    | list items => simp [ofJson, list?, ofJsonItems_eq_map, Json.isList, Json.items]
    | null | bool | int | float | text | object => rfl

end Doc

namespace Json

/-- The arrays of a document. -/
def entities (document : Json) : List Json := (document.get "entities").items
def flows (document : Json) : List Json := (document.get "flows").items
def components (document : Json) : List Json := ((document.get "architecture").get "components").items
def rules (document : Json) : List Json := ((document.get "compliance").get "rules").items

/-- The elements of an entity and of a flow. -/
def fields (entity : Json) : List Json := (entity.get "fields").items
def steps (flow : Json) : List Json := (flow.get "steps").items

/-- The name of an element that has an id or a name. -/
def label? (element : Json) : Option String := (element.get "id").naming? <|> (element.get "name").naming?

/-- Entities and flows have both. -/
def isNamed (element : Json) : Bool := (element.get "id").naming?.isSome && (element.get "name").naming?.isSome

/-- How a rule is put into force: its implementation, or the type of that. -/
def enforcement (rule : Json) : Json := ((rule.get "implementation").member? "type").getD (rule.get "implementation")

/-- An entity or a flow, of which one member is the array of its elements. -/
def isGroup (elements : String) (group : Json) : Bool := group.isNamed && !group.misplaces elements

/-- A field or a step, whose type is a choice. -/
def isElement (α : Type) [Labelled α] (element : Json) : Bool :=
  element.label?.isSome && (element.get "type").names α

def isRule (rule : Json) : Bool := (rule.get "id").naming?.isSome && rule.enforcement.names Enforcement

/-- What a document has to be to be read. -/
structure IsGrammatical (document : Json) : Prop where
  version : document.member? "version" = some (.text "0.1.0")
  metadata : ((document.get "metadata").get "name").naming?.isSome
  entities : document.misplaces "entities" = false
  flows : document.misplaces "flows" = false
  entity : ∀ entity ∈ document.entities, entity.isGroup "fields"
  field : ∀ entity ∈ document.entities, ∀ field ∈ entity.fields, field.isElement FieldType
  flow : ∀ flow ∈ document.flows, flow.isGroup "steps"
  step : ∀ flow ∈ document.flows, ∀ step ∈ flow.steps, step.isElement StepType
  component : ∀ component ∈ document.components, component.label?.isSome
  rule : ∀ rule ∈ document.rules, rule.isRule

end Json

/-- A section or an element of a document, the elements by their positions. -/
inductive Part where
  | metadata
  | entityList
  | flowList
  | entity (position : Nat)
  | field (owner position : Nat)
  | flow (position : Nat)
  | step (owner position : Nat)
  | component (position : Nat)
  | rule (position : Nat)
  deriving DecidableEq, Repr

namespace Part

/-- The part is there and does not follow the grammar. -/
def isMalformed (document : Json) : Part → Bool
  | metadata => !((document.get "metadata").get "name").naming?.isSome
  | entityList => document.misplaces "entities"
  | flowList => document.misplaces "flows"
  | entity position => document.entities[position]?.any fun entity => !entity.isGroup "fields"
  | field owner position => document.entities[owner]?.any fun entity =>
    entity.fields[position]?.any fun field => !field.isElement FieldType
  | flow position => document.flows[position]?.any fun flow => !flow.isGroup "steps"
  | step owner position => document.flows[owner]?.any fun flow =>
    flow.steps[position]?.any fun step => !step.isElement StepType
  | component position => document.components[position]?.any fun component => !component.label?.isSome
  | rule position => document.rules[position]?.any fun rule => !rule.isRule

/-- The part is an element of an entity or of a flow that has no id or no name. -/
def isHidden (document : Json) : Part → Bool
  | field owner _ => document.entities[owner]?.any fun entity => !entity.isNamed
  | step owner _ => document.flows[owner]?.any fun flow => !flow.isNamed
  | _ => false

/-- Where a part stands: the metadata first, then the arrays of entities and flows as such, then the entities
with their fields, the flows with their steps, the components and the rules. -/
def path : Part → List Nat
  | metadata => [0]
  | entityList => [1]
  | flowList => [2]
  | entity position => [3, position]
  | field owner position => [3, owner, position]
  | flow position => [4, position]
  | step owner position => [4, owner, position]
  | component position => [5, position]
  | rule position => [6, position]

/-- The problem that a malformed part has. -/
def problem (document : Json) : Part → DocumentProblem
  | metadata => .metadataName
  | entityList => .entitiesNotList
  | flowList => .flowsNotList
  | entity position =>
    if (document.entities.getD position .null).isNamed then .fieldsNotList position else .entityNames position
  | field owner position =>
    let entity := document.entities.getD owner .null
    let field := entity.fields.getD position .null
    let id := (entity.get "id").naming?.getD ""
    match field.label? with
    | none => .fieldName id position
    | some name => .fieldType id name (Doc.ofJson (field.get "type"))
  | flow position =>
    let flow := document.flows.getD position .null
    if flow.isNamed then .stepsNotList ((flow.get "id").naming?.getD "") else .flowNames position
  | step owner position =>
    let flow := document.flows.getD owner .null
    let step := flow.steps.getD position .null
    let id := (flow.get "id").naming?.getD ""
    match step.label? with
    | none => .stepName id position
    | some name => .stepType id name (Doc.ofJson (step.get "type"))
  | component position => .componentName position
  | rule position =>
    match ((document.rules.getD position .null).get "id").naming? with
    | none => .ruleId position
    | some id => .ruleImplementation id

/-- The problems of parts can be told. -/
theorem obstacle?_problem (document : Json) (part : Part) : (part.problem document).obstacle? = none := by
  cases part with
  | metadata | entityList | flowList | component => rfl
  | entity | flow =>
    rw [problem]
    split <;> rfl
  | field | step | rule =>
    simp only [problem]
    split <;> rfl

end Part

namespace Json

/-- An entity or a flow with its elements, which are looked at when it has an id and a name. -/
def groupParts (group : Nat → Part) (element : Nat → Nat → Part) (elements : String) (position : Nat)
    (json : Json) : List Part :=
  group position ::
    if json.isNamed then (json.get elements).items.mapIdx fun place _ => element position place else []

def entityParts : Nat → Json → List Part := groupParts .entity .field "fields"
def flowParts : Nat → Json → List Part := groupParts .flow .step "steps"

/-- The parts of a document that are looked at, in their order. -/
def parts (document : Json) : List Part :=
  .metadata :: .entityList :: .flowList :: ((document.entities.mapIdx entityParts).flatten ++
    ((document.flows.mapIdx flowParts).flatten ++ ((document.components.mapIdx fun place _ => .component place) ++
      document.rules.mapIdx fun place _ => .rule place)))

end Json

structure ValidationRule.IsFrom (json : Json) (rule : ValidationRule) : Prop where
  type : rule.type = (json.get "type").naming?.getD "custom"
  value : rule.value = Frozen.ofJson (json.get "value")
  message : rule.message = (json.get "message").naming?.getD ""

/-- A field comes from an element of a document. -/
structure Field.IsFrom (json : Json) (field : Field) : Prop where
  id : json.label? = some field.id
  name : field.name = (json.get "name").naming?.getD field.id
  type : ∃ text, json.get "type" = .text text ∧ label field.type = Text.lower (Text.strip text)
  default : field.default = Frozen.ofJson ((json.member? "defaultValue").getD (json.get "default"))
  validation : List.Forall₂ ValidationRule.IsFrom (json.get "validation").items field.validation

structure Entity.IsFrom (json : Json) (entity : Entity) : Prop where
  id : (json.get "id").naming? = some entity.id
  name : (json.get "name").naming? = some entity.name
  fields : List.Forall₂ Field.IsFrom json.fields entity.fields

structure FlowStep.IsFrom (json : Json) (step : FlowStep) : Prop where
  id : json.label? = some step.id
  name : step.name = (json.get "name").naming?.getD step.id
  type : ∃ text, json.get "type" = .text text ∧ label step.type = Text.lower (Text.strip text)

structure Flow.IsFrom (json : Json) (flow : Flow) : Prop where
  id : (json.get "id").naming? = some flow.id
  name : (json.get "name").naming? = some flow.name
  steps : List.Forall₂ FlowStep.IsFrom json.steps flow.steps

structure Component.IsFrom (json : Json) (component : Component) : Prop where
  id : json.label? = some component.id
  name : component.name = (json.get "name").naming?.getD component.id

structure ComplianceRule.IsFrom (json : Json) (rule : ComplianceRule) : Prop where
  id : (json.get "id").naming? = some rule.id
  name : rule.name = (json.get "name").naming?.getD rule.id
  implementation : ∃ text, json.enforcement = .text text ∧ label rule.implementation = Text.lower (Text.strip text)

/-- Nothing of the arrays of the document is dropped. -/
structure Specification.IsFrom (document : Json) (spec : Specification) : Prop where
  name : ((document.get "metadata").get "name").naming? = some spec.metadata.name
  entities : List.Forall₂ Entity.IsFrom document.entities spec.entities
  flows : List.Forall₂ Flow.IsFrom document.flows spec.flows
  components : List.Forall₂ Component.IsFrom document.components spec.architecture.components
  rules : List.Forall₂ ComplianceRule.IsFrom document.rules spec.compliance.rules

/-- A value of a field that was frozen from a value of the document. -/
def Frozen.IsFrom (document : Json) (frozen : Frozen) : Prop := ∃ json, document.IsInside json ∧ frozen = ofJson json

theorem Field.IsFrom.isFrom_frozen {document json : Json} {field : Field} (stands : field.IsFrom json)
    (inside : document.IsInside json) :
    field.default.IsFrom document ∧ ∀ rule ∈ field.validation, rule.value.IsFrom document := by
  refine ⟨⟨_, ?_, stands.default⟩, fun rule member => ?_⟩
  · cases found : json.member? "defaultValue" with
    | none => exact inside.get "default"
    | some value => exact inside.member? found
  · obtain ⟨item, among, alike⟩ := exists_of_mem_forall₂ stands.validation member
    exact ⟨_, ((inside.get "validation").of_mem_items among).get "value", alike.value⟩

/-- The frozen values of a specification come from its document. -/
theorem Specification.IsFrom.isFrom_frozen {document : Json} {spec : Specification} (stands : spec.IsFrom document) :
    ∀ entity ∈ spec.entities, ∀ field ∈ entity.fields,
      field.default.IsFrom document ∧ ∀ rule ∈ field.validation, rule.value.IsFrom document := by
  intro entity member field among
  obtain ⟨json, inside, alike⟩ := exists_of_mem_forall₂ stands.entities member
  obtain ⟨element, within, same⟩ := exists_of_mem_forall₂ alike.fields among
  have place := (Json.IsInside.whole.get "entities").of_mem_items inside
  exact same.isFrom_frozen ((place.get "fields").of_mem_items within)

namespace Checked

variable {α β : Type} {room : Room} {document : Json} {parts others : List Part}

/-- A section is read when none of its parts is malformed, and is otherwise refused with the problems of those
that are. In a document that does not keep the limits the reading may be stopped instead. -/
inductive Answers (room : Room) (document : Json) (holds : α → Prop) (parts : List Part) : Checked α → Prop
  | read {value : α} (well : ∀ part ∈ parts, part.isMalformed document = false) (here : holds value) :
    Answers room document holds parts (.ok value)
  | refused (ill : ∃ part ∈ parts, part.isMalformed document = true) :
    Answers room document holds parts
      (.error ((parts.filter (·.isMalformed document)).map (·.problem document)))
  | stopped {problems : List DocumentProblem} (met : ∃ problem ∈ problems, problem.obstacle?.isSome = true)
    (beyond : ¬ document.IsWithin room) : Answers room document holds parts (.error problems)

section Answers

variable {holds : α → Prop} {holdsToo : β → Prop} {checked first : Checked α} {second : Checked β}

theorem Answers.of_ok {value : α} (answers : Answers room document holds parts (.ok value)) :
    (∀ part ∈ parts, part.isMalformed document = false) ∧ holds value := by
  cases answers with
  | read well here => exact ⟨well, here⟩

theorem Answers.of_error {problems : List DocumentProblem}
    (answers : Answers room document holds parts (.error problems)) :
    (∃ problem ∈ problems, problem.obstacle?.isSome = true) ∧ ¬ document.IsWithin room ∨
      (∃ part ∈ parts, part.isMalformed document = true) ∧
        problems = (parts.filter (·.isMalformed document)).map (·.problem document) := by
  cases answers with
  | refused ill => exact .inr ⟨ill, rfl⟩
  | stopped met beyond => exact .inl ⟨met, beyond⟩

theorem Answers.imp {weaker : α → Prop} (answers : Answers room document holds parts checked)
    (keeps : ∀ value, holds value → weaker value) : Answers room document weaker parts checked := by
  cases answers with
  | read well here => exact .read well (keeps _ here)
  | refused ill => exact .refused ill
  | stopped met beyond => exact .stopped met beyond

theorem Answers.map {f : α → β} (answers : Answers room document holds parts checked)
    (keeps : ∀ value, holds value → holdsToo (f value)) :
    Answers room document holdsToo parts (checked.map f) := by
  cases answers with
  | read well here => exact .read well (keeps _ here)
  | refused ill => exact .refused ill
  | stopped met beyond => exact .stopped met beyond

/-- What has no parts of its own is read or stopped, and then comes what follows. -/
theorem Answers.bind {next : α → Checked β} (answers : Answers room document holds [] checked)
    (later : ∀ value, holds value → Answers room document holdsToo parts (next value)) :
    Answers room document holdsToo parts (checked >>= next) := by
  cases answers with
  | read _ here => exact later _ here
  | refused ill => simp at ill
  | stopped met beyond => exact .stopped met beyond

theorem both_error (problems : List DocumentProblem) (second : Checked β) :
    Checked.both (.error problems : Checked α) second = .error (problems ++ second.problems) := by
  cases second <;> rfl

theorem filter_isMalformed_of_forall (well : ∀ part ∈ parts, part.isMalformed document = false) :
    parts.filter (·.isMalformed document) = [] :=
  List.filter_eq_nil_iff.mpr fun part member => by simp [well part member]

theorem Answers.both (answers : Answers room document holds parts first)
    (answersToo : Answers room document holdsToo others second) :
    Answers room document (fun value => holds value.1 ∧ holdsToo value.2) (parts ++ others) (first.both second) := by
  cases answers with
  | read well here =>
    cases answersToo with
    | read wellToo there => exact .read (List.forall_mem_append.mpr ⟨well, wellToo⟩) ⟨here, there⟩
    | refused ill =>
      obtain ⟨part, member, malformed⟩ := ill
      have refused := @Answers.refused (α × β) room document (fun value => holds value.1 ∧ holdsToo value.2)
        (parts ++ others) ⟨part, List.mem_append_right _ member, malformed⟩
      rw [List.filter_append, filter_isMalformed_of_forall well] at refused
      exact refused
    | stopped met beyond => exact .stopped met beyond
  | refused ill =>
    rw [both_error]
    obtain ⟨part, member, malformed⟩ := ill
    have refused := @Answers.refused (α × β) room document (fun value => holds value.1 ∧ holdsToo value.2)
      (parts ++ others) ⟨part, List.mem_append_left _ member, malformed⟩
    rw [List.filter_append, List.map_append] at refused
    cases answersToo with
    | read wellToo =>
      rw [filter_isMalformed_of_forall wellToo] at refused
      exact refused
    | refused => exact refused
    | stopped met beyond =>
      obtain ⟨problem, inside, obstacle⟩ := met
      exact .stopped ⟨problem, List.mem_append_right _ inside, obstacle⟩ beyond
  | stopped met beyond =>
    rw [both_error]
    obtain ⟨problem, inside, obstacle⟩ := met
    exact .stopped ⟨problem, List.mem_append_left _ inside, obstacle⟩ beyond

/-- Beside a section, what has no parts of its own. -/
theorem Answers.beside (answers : Answers room document holds parts first)
    (answersToo : Answers room document holdsToo [] second) :
    Answers room document (fun value => holds value.1 ∧ holdsToo value.2) parts (first.both second) := by
  have both := answers.both answersToo
  rwa [List.append_nil] at both

end Answers

/-- The items of an array, each with parts of its own. -/
theorem answers_all {holds : Json → α → Prop} {items : List Json} {read : Nat → Doc → Checked α}
    {partsOf : Nat → Json → List Part}
    (each : ∀ position item, items[position]? = some item →
      Answers room document (holds item) (partsOf position item) (read position (Doc.ofJson item))) :
    Answers room document (List.Forall₂ holds items) (items.mapIdx partsOf).flatten
      (all ((items.map Doc.ofJson).mapIdx read)) := by
  induction items generalizing read partsOf with
  | nil => exact .read (by simp) .nil
  | cons item items ih =>
    have first := each 0 item rfl
    have later := ih fun position other place => each (position + 1) other place
    rw [List.map_cons, List.mapIdx_cons, List.mapIdx_cons, List.flatten_cons]
    exact (first.both later).map fun value here => .cons here.1 here.2

/-- The items of an array, each a part. -/
theorem answers_all_parts {holds : Json → α → Prop} {items : List Json} {read : Nat → Doc → Checked α}
    {part : Nat → Part}
    (each : ∀ position item, items[position]? = some item →
      Answers room document (holds item) [part position] (read position (Doc.ofJson item))) :
    Answers room document (List.Forall₂ holds items) (items.mapIdx fun place _ => part place)
      (all ((items.map Doc.ofJson).mapIdx read)) := by
  have single (items : List Json) (part : Nat → Part) :
      (items.mapIdx fun place _ => [part place]).flatten = items.mapIdx fun place _ => part place := by
    induction items generalizing part with
    | nil => rfl
    | cons item items ih => simp [List.mapIdx_cons, ih fun place => part (place + 1)]
  rw [← single]
  exact answers_all each

/-- Items without parts of their own. -/
theorem answers_each {holds : Json → α → Prop} {items : List Json} {read : Nat → Doc → Checked α}
    (each : ∀ position, ∀ item ∈ items, Answers room document (holds item) [] (read position (Doc.ofJson item))) :
    Answers room document (List.Forall₂ holds items) [] (all ((items.map Doc.ofJson).mapIdx read)) := by
  have none : (items.mapIdx fun _ _ => ([] : List Part)).flatten = [] := by simp
  rw [← none]
  exact answers_all fun position item place => each position item (List.mem_of_getElem? place)

theorem answers_each_alike {holds : Json → α → Prop} {items : List Json} {read : Doc → Checked α}
    (each : ∀ item ∈ items, Answers room document (holds item) [] (read (Doc.ofJson item))) :
    Answers room document (List.Forall₂ holds items) [] (all ((items.map Doc.ofJson).map read)) := by
  have same : (items.map Doc.ofJson).mapIdx (fun _ => read) = (items.map Doc.ofJson).map read :=
    List.ext_getElem (by simp) (by simp)
  rw [← same]
  exact answers_each fun _ => each

/-- One part by itself. -/
theorem answers_ok {holds : α → Prop} {part : Part} {value : α} (well : part.isMalformed document = false)
    (here : holds value) : Answers room document holds [part] (.ok value) := by
  exact .read (by simpa using well) here

theorem answers_error {holds : α → Prop} {part : Part} {problem : DocumentProblem}
    (ill : part.isMalformed document = true) (told : part.problem document = problem) :
    Answers room document holds [part] (.error [problem]) := by
  have answers := @Answers.refused _ room document holds [part] ⟨part, by simp, ill⟩
  simpa [ill, told] using answers

/-- What has no parts of its own and is read. -/
theorem answers_pure {holds : α → Prop} {value : α} (here : holds value) :
    Answers room document holds [] (pure value) := .read (by simp) here

theorem answers_spelled {values : List Doc}
    (each : document.IsWithin room → ∀ value ∈ values, value.isSpelled room = true) :
    Answers room document (fun _ => True) [] (spelled room values) := by
  rw [spelled]
  by_cases told : values.all (·.isSpelled room) = true
  · rw [if_pos told]
    exact .read (by simp) trivial
  · rw [if_neg told]
    refine .stopped ⟨_, List.mem_singleton_self _, rfl⟩ fun within => told ?_
    exact List.all_eq_true.mpr (each within)

theorem answers_shown {value : Doc} (inside : value.IsInside document) :
    Answers room document (fun _ => True) [] (shown room value) := by
  rw [shown]
  cases limit : value.showingLimit? room room.showing with
  | none => exact .read (by simp) trivial
  | some met =>
    refine .stopped ⟨_, List.mem_singleton_self _, rfl⟩ fun within => ?_
    simp [inside.showingLimit? within] at limit

end Checked

namespace Specification

open Checked (Answers answers_ok answers_error answers_all answers_all_parts answers_each answers_each_alike
  answers_pure answers_spelled answers_shown)
open Doc (ofJson get_ofJson lookup_ofJson items_ofJson filled?_ofJson)

variable {room : Room} {document : Json}

theorem filled?_get (name : String) (json : Json) :
    (Doc.get name (ofJson json).entries).filled? = (json.get name).naming? := by
  rw [get_ofJson, filled?_ofJson]

theorem textOr_get (otherwise name : String) (json : Json) :
    (Doc.get name (ofJson json).entries).textOr otherwise = (json.get name).naming?.getD otherwise := by
  rw [Doc.textOr, filled?_get]

/-- Texts of values of the document. -/
theorem answers_texts {values : List Doc} (each : ∀ value ∈ values, value.IsInside document) :
    Answers room document (fun _ => True) [] (Checked.spelled room values) :=
  answers_spelled fun within value member => (each value member).isSpelled within

/-- The values that are looked at for a name. -/
theorem answers_eitherOf {value : Doc} (inside : value.IsInside document) (first second : String) :
    Answers room document (fun _ => True) []
      (Checked.spelled room (Doc.eitherOf (Doc.get first value.entries) (Doc.get second value.entries))) := by
  rw [Doc.eitherOf]
  split <;> exact answers_texts (by simp [inside.get])

/-- Values of the document and the items of one more. -/
theorem isInside_append_items {values : List Doc} {list : Doc} (each : ∀ value ∈ values, value.IsInside document)
    (inside : list.IsInside document) : ∀ value ∈ values ++ list.items, value.IsInside document :=
  List.forall_mem_append.mpr ⟨each, fun _ => inside.of_mem_items⟩

theorem answers_readMetadata (room : Room) (document : Json) :
    Answers room document (fun metadata => ((document.get "metadata").get "name").naming? = some metadata.name)
      [.metadata] (readMetadata room (ofJson (document.get "metadata"))) := by
  have inside : (ofJson (document.get "metadata")).IsInside document := ⟨_, .get .whole "metadata", rfl⟩
  refine (answers_texts (by simp [inside.get])).bind fun _ _ => ?_
  simp only [filled?_get]
  cases named : ((document.get "metadata").get "name").naming? with
  | none => exact answers_error (by simp [Part.isMalformed, named]) rfl
  | some name =>
    exact (answers_texts (isInside_append_items (isInside_append_items (by simp [inside.get]) (inside.get "tags"))
      (inside.get "platforms"))).bind fun _ _ => answers_ok (by simp [Part.isMalformed, named]) rfl

/-- A section that has to be an array. -/
theorem answers_section {part : Part} {name : String} {problem : DocumentProblem} {json : Json}
    (malformed : part.isMalformed document = json.misplaces name)
    (told : json.misplaces name = true → part.problem document = problem) :
    Answers room document (fun _ => True) [part] (Doc.section? name problem (ofJson json).entries) := by
  rw [Doc.section?_ofJson]
  cases placed : json.misplaces name with
  | true => exact answers_error (malformed.trans placed) (told placed)
  | false => exact answers_ok (malformed.trans placed) trivial

/-- The rows of a section; one that is no array has none. -/
theorem rows_ofJson (name : String) (problem : DocumentProblem) (json : Json) :
    (Doc.section? name problem (ofJson json).entries).toOption.getD [] = (json.get name).items.map ofJson := by
  rw [Doc.section?_ofJson]
  cases placed : json.misplaces name with
  | true => rw [if_pos rfl, Json.items_get_of_misplaces placed]; rfl
  | false => rfl

/-- A value is frozen unless there are too few calls. -/
theorem answers_readFrozen {json : Json} {left : ℕ} (proper : json.IsProper)
    (enough : document.IsWithin room → json.freezingCalls ≤ left) :
    Answers room document (· = Frozen.ofJson json) [] (readFrozen room left (ofJson json)) := by
  rw [readFrozen, Frozen.ofDoc_ofJson room left json proper, Frozen.taking]
  by_cases calls : json.freezingCalls ≤ left
  · rw [if_pos calls]
    exact answers_pure rfl
  · rw [if_neg calls]
    exact .stopped ⟨_, List.mem_singleton_self _, rfl⟩ fun within => calls (enough within)

theorem answers_readValidationRule (proper : document.IsProper) {rule : Json} (inside : document.IsInside rule) :
    Answers room document (ValidationRule.IsFrom rule) [] (readValidationRule room (ofJson rule)) := by
  have doc : (ofJson rule).IsInside document := ⟨rule, inside, rfl⟩
  refine (answers_texts (by simp [doc.get])).bind fun _ _ => ?_
  rw [get_ofJson "value"]
  refine (answers_readFrozen ((inside.get "value").isProper proper) fun within => ?_).bind fun value frozen => ?_
  · have calls := (inside.get "value").freezingCalls_lt within
    omega
  refine (answers_texts (by simp [doc.get])).bind fun _ _ => answers_pure ?_
  exact ⟨textOr_get .., frozen, textOr_get ..⟩

theorem answers_readField (proper : document.IsProper) {entity field : Json} {owner position : Nat} {id : String}
    (atEntity : document.entities[owner]? = some entity) (named : (entity.get "id").naming? = some id)
    (atField : entity.fields[position]? = some field) (inside : document.IsInside field) :
    Answers room document (Field.IsFrom field) [.field owner position]
      (readField room id position (ofJson field)) := by
  have malformed : (Part.field owner position).isMalformed document = !field.isElement FieldType := by
    simp [Part.isMalformed, atEntity, atField]
  have told : (Part.field owner position).problem document = match field.label? with
      | none => .fieldName id position
      | some name => .fieldType id name (ofJson (field.get "type")) := by
    simp [Part.problem, List.getD_eq_getElem?_getD, atEntity, atField, named]
  have type := Doc.choice?_isSome_ofJson FieldType (field.get "type")
  have doc : (ofJson field).IsInside document := ⟨field, inside, rfl⟩
  refine (answers_eitherOf doc "id" "name").bind fun _ _ => ?_
  have given : (Doc.lookup "defaultValue" (ofJson field).entries).getD (Doc.get "default" (ofJson field).entries) =
      ofJson ((field.member? "defaultValue").getD (field.get "default")) := by
    rw [lookup_ofJson, get_ofJson]
    cases field.member? "defaultValue" <;> rfl
  have default : document.IsInside ((field.member? "defaultValue").getD (field.get "default")) := by
    cases found : field.member? "defaultValue" with
    | none => exact inside.get "default"
    | some value => exact inside.member? found
  simp only [filled?_get, given, get_ofJson "type", get_ofJson "validation", items_ofJson]
  rw [← Json.label?]
  cases label : field.label? with
  | none =>
    rw [label] at told
    exact answers_error (by simp [malformed, Json.isElement, label]) told
  | some name =>
    rw [label] at told
    cases chosen : ((ofJson (field.get "type")).choice? : Option FieldType) with
    | none =>
      refine (answers_shown ⟨_, inside.get "type", rfl⟩).bind fun _ _ => ?_
      exact answers_error (by simp [malformed, Json.isElement, ← type, chosen]) told
    | some choice =>
      refine (answers_texts (by simp [doc.get])).bind fun _ _ => ?_
      refine (answers_readFrozen (default.isProper proper) fun within =>
        (default.freezingCalls_lt within).le).bind fun value frozen => ?_
      refine (answers_each_alike fun rule member => answers_readValidationRule proper
        ((inside.get "validation").of_mem_items member)).bind fun rules each => ?_
      refine answers_ok (by simp [malformed, Json.isElement, label, ← type, chosen]) ?_
      exact ⟨label, textOr_get .., Doc.label_of_choice?_ofJson chosen, frozen, each⟩

/-- The elements of a group: the array that holds them, and each of them by itself. -/
theorem answers_elements {α : Type} (holds : Json → α → Prop) {group : Json} {name : String}
    {problem : DocumentProblem} {part : Part} {element : Nat → Part} {read : Nat → Doc → Checked α}
    (malformed : part.isMalformed document = group.misplaces name)
    (told : group.misplaces name = true → part.problem document = problem)
    (each : ∀ position item, (group.get name).items[position]? = some item →
      Answers room document (holds item) [element position] (read position (ofJson item))) :
    Answers room document (fun value => List.Forall₂ holds (group.get name).items value.2)
      (part :: (group.get name).items.mapIdx fun place _ => element place)
      ((Doc.section? name problem (ofJson group).entries).both
        (Checked.all (((Doc.section? name problem (ofJson group).entries).toOption.getD []).mapIdx read))) := by
  rw [rows_ofJson]
  exact ((answers_section malformed told).both (answers_all_parts each)).imp fun value here => here.2

section Plain

variable {value : Doc} (inside : value.IsInside document)

include inside

/-- The items of a member, which have no parts. -/
theorem answers_items {α : Type} {name : String} {read : Nat → Doc → Checked α}
    (each : ∀ {item : Doc}, item.IsInside document → ∀ position,
      Answers room document (fun _ => True) [] (read position item)) :
    Answers room document (fun _ => True) [] (Checked.all ((Doc.get name value.entries).items.mapIdx read)) := by
  obtain ⟨json, within, rfl⟩ := inside
  rw [get_ofJson, items_ofJson]
  exact (answers_each fun position item member => each ⟨item, (within.get name).of_mem_items member, rfl⟩ position).imp
    fun _ _ => trivial

theorem answers_items_alike {α : Type} {name : String} {read : Doc → Checked α}
    (each : ∀ {item : Doc}, item.IsInside document → Answers room document (fun _ => True) [] (read item)) :
    Answers room document (fun _ => True) [] (Checked.all ((Doc.get name value.entries).items.map read)) := by
  obtain ⟨json, within, rfl⟩ := inside
  rw [get_ofJson, items_ofJson]
  exact (answers_each_alike fun item member => each ⟨item, (within.get name).of_mem_items member, rfl⟩).imp
    fun _ _ => trivial

theorem answers_readRelationship (position : ℕ) :
    Answers room document (fun _ => True) [] (readRelationship room position value) :=
  (answers_texts (by simp [inside.get, inside.firstOf])).bind fun _ _ => answers_pure trivial

theorem answers_readConstraint (position : ℕ) :
    Answers room document (fun _ => True) [] (readConstraint room position value) :=
  (answers_texts (isInside_append_items (by simp [inside.get]) (inside.get "fields"))).bind
    fun _ _ => answers_pure trivial

theorem answers_readIndex (position : ℕ) :
    Answers room document (fun _ => True) [] (readIndex room position value) :=
  (answers_texts (isInside_append_items (by simp [inside.get]) (inside.get "fields"))).bind
    fun _ _ => answers_pure trivial

/-- The names of members are texts. -/
theorem answers_readSettings : Answers room document (fun _ => True) [] (readSettings room value.entries) := by
  refine (answers_spelled fun within => ?_).bind fun _ _ => answers_pure trivial
  intro item member
  obtain ⟨entry, kept, shown⟩ := List.mem_flatMap.mp member
  have present := List.mem_of_mem_filter kept
  obtain ⟨json, place, rfl⟩ := inside
  cases json with
  | object members =>
    rw [ofJson, Doc.entries, Doc.ofJsonMembers_eq_map] at present
    obtain ⟨pair, among, rfl⟩ := List.mem_map.mp present
    rcases List.mem_pair.mp shown with rfl | rfl
    · rfl
    · exact Doc.IsInside.isSpelled ⟨pair.2, place.member among, rfl⟩ within
  | null | bool | int | float | text | list => exact absurd present (by simp [ofJson, Doc.entries])

theorem answers_readTrigger (position : ℕ) :
    Answers room document (fun _ => True) [] (readTrigger room position value) :=
  (answers_texts (by simp [inside.get])).bind fun _ _ =>
    (answers_readSettings (inside.get "config")).bind fun _ _ => answers_pure trivial

theorem answers_readAuth : Answers room document (fun _ => True) [] (readAuth room value) :=
  (answers_texts (List.forall_mem_cons.mpr ⟨inside.get "role", fun _ => (inside.get "permissions").of_mem_items⟩)).bind
    fun _ _ => answers_pure trivial

theorem answers_readLayer? : Answers room document (fun _ => True) [] (readLayer? room value) := by
  rw [readLayer?.eq_def]
  split
  · exact answers_pure trivial
  · refine (answers_eitherOf inside "name" "id").bind fun _ _ => ?_
    split
    · exact answers_pure trivial
    · exact (answers_texts (by simp [inside.get])).bind fun _ _ => answers_pure trivial

theorem answers_readFramework? : Answers room document (fun _ => True) [] (readFramework? room value) := by
  rw [readFramework?.eq_def]
  split
  · exact answers_pure trivial
  · exact (answers_eitherOf inside "name" "id").bind fun _ _ => answers_pure trivial

end Plain

theorem answers_readEntity (proper : document.IsProper) {entity : Json} {position : Nat}
    (place : document.entities[position]? = some entity) :
    Answers room document (Entity.IsFrom entity) (Json.entityParts position entity)
      (readEntity room position (ofJson entity)) := by
  have inside : document.IsInside entity :=
    (Json.IsInside.whole.get "entities").of_mem_items (List.mem_of_getElem? place)
  have doc : (ofJson entity).IsInside document := ⟨entity, inside, rfl⟩
  have malformed : (Part.entity position).isMalformed document = !entity.isGroup "fields" := by
    simp [Part.isMalformed, place]
  have told : (Part.entity position).problem document =
      if entity.isNamed then .fieldsNotList position else .entityNames position := by
    simp [Part.problem, List.getD_eq_getElem?_getD, place]
  have refused (unnamed : entity.isNamed = false) :
      Answers room document (Entity.IsFrom entity) (Json.entityParts position entity)
        (.error [.entityNames position]) := by
    rw [Json.entityParts, Json.groupParts, unnamed]
    exact answers_error (by simp [malformed, Json.isGroup, unnamed]) (by simp [told, unnamed])
  refine (answers_texts (by simp [doc.get])).bind fun _ _ => ?_
  simp only [filled?_get]
  cases atId : (entity.get "id").naming? with
  | none => exact refused (by simp [Json.isNamed, atId])
  | some id =>
    cases atName : (entity.get "name").naming? with
    | none => exact refused (by simp [Json.isNamed, atName])
    | some name =>
      have named : entity.isNamed = true := by simp [Json.isNamed, atId, atName]
      rw [Json.entityParts, Json.groupParts, named]
      refine (Answers.beside (answers_elements Field.IsFrom (by simp [malformed, Json.isGroup, named])
        (by simp [told, named]) fun spot field here => ?_) ((answers_items doc answers_readRelationship).beside
        ((answers_items doc answers_readConstraint).beside ((answers_items doc answers_readIndex).beside
        (answers_texts (by simp [doc.get])))))).map fun value here => ⟨atId, atName, here.1⟩
      exact answers_readField proper place atId here
        ((inside.get "fields").of_mem_items (List.mem_of_getElem? here))

theorem answers_readStep {flow step : Json} {owner position : Nat} {id : String}
    (atFlow : document.flows[owner]? = some flow) (named : (flow.get "id").naming? = some id)
    (atStep : flow.steps[position]? = some step) (inside : document.IsInside step) :
    Answers room document (FlowStep.IsFrom step) [.step owner position]
      (readStep room id position (ofJson step)) := by
  have malformed : (Part.step owner position).isMalformed document = !step.isElement StepType := by
    simp [Part.isMalformed, atFlow, atStep]
  have told : (Part.step owner position).problem document = match step.label? with
      | none => .stepName id position
      | some name => .stepType id name (ofJson (step.get "type")) := by
    simp [Part.problem, List.getD_eq_getElem?_getD, atFlow, atStep, named]
  have type := Doc.choice?_isSome_ofJson StepType (step.get "type")
  have doc : (ofJson step).IsInside document := ⟨step, inside, rfl⟩
  refine (answers_eitherOf doc "id" "name").bind fun _ _ => ?_
  simp only [filled?_get, get_ofJson "type"]
  rw [← Json.label?]
  cases label : step.label? with
  | none =>
    rw [label] at told
    exact answers_error (by simp [malformed, Json.isElement, label]) told
  | some name =>
    rw [label] at told
    cases chosen : ((ofJson (step.get "type")).choice? : Option StepType) with
    | none =>
      refine (answers_shown ⟨_, inside.get "type", rfl⟩).bind fun _ _ => ?_
      exact answers_error (by simp [malformed, Json.isElement, ← type, chosen]) told
    | some choice =>
      refine (answers_texts (isInside_append_items ?_ (doc.firstOf _))).bind fun _ _ => ?_
      · have config := doc.get "config"
        split <;> simp [doc.get, doc.firstOf, config.firstOf]
      · refine answers_ok (by simp [malformed, Json.isElement, label, ← type, chosen]) ?_
        exact ⟨label, textOr_get .., Doc.label_of_choice?_ofJson chosen⟩

theorem answers_readFlow {flow : Json} {position : Nat} (place : document.flows[position]? = some flow) :
    Answers room document (Flow.IsFrom flow) (Json.flowParts position flow)
      (readFlow room position (ofJson flow)) := by
  have inside : document.IsInside flow := (Json.IsInside.whole.get "flows").of_mem_items (List.mem_of_getElem? place)
  have doc : (ofJson flow).IsInside document := ⟨flow, inside, rfl⟩
  have malformed : (Part.flow position).isMalformed document = !flow.isGroup "steps" := by
    simp [Part.isMalformed, place]
  have told : (Part.flow position).problem document =
      if flow.isNamed then .stepsNotList ((flow.get "id").naming?.getD "") else .flowNames position := by
    simp [Part.problem, List.getD_eq_getElem?_getD, place]
  have refused (unnamed : flow.isNamed = false) :
      Answers room document (Flow.IsFrom flow) (Json.flowParts position flow) (.error [.flowNames position]) := by
    rw [Json.flowParts, Json.groupParts, unnamed]
    exact answers_error (by simp [malformed, Json.isGroup, unnamed]) (by simp [told, unnamed])
  refine (answers_texts (by simp [doc.get])).bind fun _ _ => ?_
  simp only [filled?_get]
  cases atId : (flow.get "id").naming? with
  | none => exact refused (by simp [Json.isNamed, atId])
  | some id =>
    cases atName : (flow.get "name").naming? with
    | none => exact refused (by simp [Json.isNamed, atName])
    | some name =>
      have named : flow.isNamed = true := by simp [Json.isNamed, atId, atName]
      rw [Json.flowParts, Json.groupParts, named]
      refine (Answers.beside (answers_elements FlowStep.IsFrom (by simp [malformed, Json.isGroup, named])
        (by simp [told, named, atId]) fun spot step here => ?_) ((answers_items doc answers_readTrigger).beside
        ((answers_items_alike doc answers_readAuth).beside (answers_texts (by simp [doc.get]))))).map
        fun value here => ⟨atId, atName, here.1⟩
      exact answers_readStep place atId here ((inside.get "steps").of_mem_items (List.mem_of_getElem? here))

theorem answers_readComponent {component : Json} {position : Nat}
    (place : document.components[position]? = some component) :
    Answers room document (Component.IsFrom component) [.component position]
      (readComponent room position (ofJson component)) := by
  have inside : document.IsInside component :=
    ((Json.IsInside.whole.get "architecture").get "components").of_mem_items (List.mem_of_getElem? place)
  have doc : (ofJson component).IsInside document := ⟨component, inside, rfl⟩
  have malformed : (Part.component position).isMalformed document = !component.label?.isSome := by
    simp [Part.isMalformed, place]
  refine (answers_eitherOf doc "id" "name").bind fun _ _ => ?_
  simp only [filled?_get]
  rw [← Json.label?]
  cases label : component.label? with
  | none => exact answers_error (by simp [malformed, label]) rfl
  | some id =>
    exact (answers_texts (isInside_append_items (isInside_append_items (by simp [doc.get])
      (doc.get "responsibilities")) (doc.get "dependencies"))).bind fun _ _ =>
      answers_ok (by simp [malformed, label]) ⟨label, textOr_get ..⟩

theorem answers_readRule {rule : Json} {position : Nat} (place : document.rules[position]? = some rule) :
    Answers room document (ComplianceRule.IsFrom rule) [.rule position]
      (readRule room position (ofJson rule)) := by
  have inside : document.IsInside rule :=
    ((Json.IsInside.whole.get "compliance").get "rules").of_mem_items (List.mem_of_getElem? place)
  have doc : (ofJson rule).IsInside document := ⟨rule, inside, rfl⟩
  have malformed : (Part.rule position).isMalformed document = !rule.isRule := by
    simp [Part.isMalformed, place]
  have told : (Part.rule position).problem document = match (rule.get "id").naming? with
      | none => .ruleId position
      | some id => .ruleImplementation id := by
    simp [Part.problem, List.getD_eq_getElem?_getD, place]
  have enforcement : (Doc.lookup "type" (Doc.get "implementation" (ofJson rule).entries).entries).getD
      (Doc.get "implementation" (ofJson rule).entries) = ofJson rule.enforcement := by
    rw [get_ofJson, lookup_ofJson, Json.enforcement]
    cases (rule.get "implementation").member? "type" <;> rfl
  have location : ((Doc.lookup "location" (Doc.get "implementation" (ofJson rule).entries).entries).getD
      (Doc.get "location" (ofJson rule).entries)).IsInside document := by
    cases found : Doc.lookup "location" (Doc.get "implementation" (ofJson rule).entries).entries with
    | none => exact doc.get "location"
    | some value => exact (doc.get "implementation").lookup found
  have type := Doc.choice?_isSome_ofJson Enforcement rule.enforcement
  refine (answers_texts (by simp [doc.get])).bind fun _ _ => ?_
  simp only [filled?_get, enforcement]
  cases named : (rule.get "id").naming? with
  | none =>
    rw [named] at told
    exact answers_error (by simp [malformed, Json.isRule, named]) told
  | some id =>
    rw [named] at told
    cases chosen : ((ofJson rule.enforcement).choice? : Option Enforcement) with
    | none => exact answers_error (by simp [malformed, Json.isRule, ← type, chosen]) told
    | some choice =>
      refine (answers_texts (by simp [doc.get, location])).bind fun _ _ => ?_
      refine answers_ok (by simp [malformed, Json.isRule, named, ← type, chosen]) ?_
      exact ⟨named, textOr_get .., Doc.label_of_choice?_ofJson chosen⟩

theorem answers_readArchitecture (room : Room) (document : Json) :
    Answers room document
      (fun architecture => List.Forall₂ Component.IsFrom document.components architecture.components)
      (document.components.mapIdx fun place _ => .component place)
      (readArchitecture room (ofJson (document.get "architecture"))) := by
  have inside : (ofJson (document.get "architecture")).IsInside document := ⟨_, .get .whole "architecture", rfl⟩
  have components : Answers room document (List.Forall₂ Component.IsFrom document.components)
      (document.components.mapIdx fun place _ => .component place)
      (Checked.all ((Doc.get "components" (ofJson (document.get "architecture")).entries).items.mapIdx
        (readComponent room))) := by
    rw [get_ofJson, items_ofJson]
    exact answers_all_parts fun position component => answers_readComponent
  exact ((answers_items_alike inside answers_readLayer?).both (components.beside
    (answers_texts (by simp [inside.get])))).map fun value here => here.2.1

theorem answers_readCompliance (room : Room) (document : Json) :
    Answers room document (fun compliance => List.Forall₂ ComplianceRule.IsFrom document.rules compliance.rules)
      (document.rules.mapIdx fun place _ => .rule place)
      (readCompliance room (ofJson (document.get "compliance"))) := by
  have rules : Answers room document (List.Forall₂ ComplianceRule.IsFrom document.rules)
      (document.rules.mapIdx fun place _ => .rule place)
      (Checked.all ((Doc.get "rules" (ofJson (document.get "compliance")).entries).items.mapIdx (readRule room))) := by
    rw [get_ofJson, items_ofJson]
    exact answers_all_parts fun position rule => answers_readRule
  have inside : (ofJson (document.get "compliance")).IsInside document := ⟨_, .get .whole "compliance", rfl⟩
  exact ((answers_items_alike inside answers_readFramework?).both rules).map fun value here => here.2

/-- A document is read when none of its parts is malformed, and is otherwise refused with the problems of
those that are, unless it is stopped. -/
theorem answers_readSections (room : Room) (version : String) (proper : document.IsProper) :
    Answers room document (IsFrom document) document.parts (readSections room version (ofJson document).entries) := by
  have entityRows : Answers room document (fun _ => True) [.entityList]
      (Doc.section? "entities" .entitiesNotList (ofJson document).entries) := answers_section rfl fun _ => rfl
  have flowRows : Answers room document (fun _ => True) [.flowList]
      (Doc.section? "flows" .flowsNotList (ofJson document).entries) := answers_section rfl fun _ => rfl
  have entities : Answers room document (List.Forall₂ Entity.IsFrom document.entities)
      (document.entities.mapIdx Json.entityParts).flatten
      (Checked.all ((document.entities.map ofJson).mapIdx (readEntity room))) :=
    answers_all fun position entity => answers_readEntity proper
  have flows : Answers room document (List.Forall₂ Flow.IsFrom document.flows)
      (document.flows.mapIdx Json.flowParts).flatten
      (Checked.all ((document.flows.map ofJson).mapIdx (readFlow room))) :=
    answers_all fun position flow => answers_readFlow
  simp only [readSections, rows_ofJson, get_ofJson]
  refine ((answers_readMetadata room document).both (entityRows.both (flowRows.both (entities.both (flows.both
    ((answers_readArchitecture room document).both (answers_readCompliance room document))))))).map ?_
  rintro value ⟨name, _, _, entities, flows, components, rules⟩
  exact ⟨name, entities, flows, components, rules⟩

end Specification

namespace Json

variable {document : Json}

/-- A malformed part is looked at unless it is hidden. -/
theorem mem_parts_iff {part : Part} (ill : part.isMalformed document = true) :
    part ∈ document.parts ↔ part.isHidden document = false := by
  cases part with
  | metadata | entityList | flowList => simp [parts, Part.isHidden]
  | entity position | flow position | component position | rule position =>
    obtain ⟨item, place, _⟩ := (Option.any_eq_true _ _).mp ill
    have bound := (List.getElem?_eq_some_iff.mp place).1
    simpa [parts, entityParts, flowParts, groupParts, List.mem_mapIdx, Part.isHidden] using bound
  | field owner position | step owner position =>
    obtain ⟨group, atGroup, ill⟩ := (Option.any_eq_true _ _).mp ill
    obtain ⟨element, atElement, _⟩ := (Option.any_eq_true _ _).mp ill
    have inside := (List.getElem?_eq_some_iff.mp atElement).1
    obtain ⟨bound, rfl⟩ := List.getElem?_eq_some_iff.mp atGroup
    simp only [parts, entityParts, flowParts, groupParts, List.mem_cons, List.mem_append, List.mem_flatten,
      List.mem_mapIdx, Part.isHidden, atGroup]
    simp only [reduceCtorEq, ↓existsAndEq, List.mem_cons, List.mem_ite_nil_right, List.mem_mapIdx,
      Part.field.injEq, Part.step.injEq, exists_and_left, exists_prop, and_true, false_or, true_and, exists_false,
      and_false, or_self, or_false, Option.any_some, Bool.not_eq_eq_eq_not, Bool.not_false]
    constructor
    · rintro ⟨_, _, named, rfl, _⟩
      exact named
    · exact fun named => ⟨owner, bound, named, rfl, inside⟩

/-- Parts that stand one behind the other. -/
abbrev AreOrdered (parts : List Part) : Prop := parts.Pairwise fun first second => first.path < second.path

theorem areOrdered_mapIdx {item : Nat → Part} (items : List Json)
    (rises : ∀ i j, i < j → (item i).path < (item j).path) :
    AreOrdered (items.mapIdx fun place _ => item place) := by
  refine List.pairwise_iff_getElem.mpr fun i j _ _ below => ?_
  simpa using rises i j below

/-- Ordered parts, the first of which are of a kind and the others of later ones. -/
def StartsAt (kind : Nat) (parts : List Part) : Prop :=
  AreOrdered parts ∧ ∀ part ∈ parts, ∃ later rest, kind ≤ later ∧ part.path = later :: rest

theorem startsAt_append {kind : Nat} {parts others : List Part} (ordered : AreOrdered parts)
    (within : ∀ part ∈ parts, ∃ rest, part.path = kind :: rest) (behind : StartsAt (kind + 1) others) :
    StartsAt kind (parts ++ others) := by
  refine ⟨List.pairwise_append.mpr ⟨ordered, behind.1, fun first here second there => ?_⟩, fun part member => ?_⟩
  · obtain ⟨rest, path⟩ := within first here
    obtain ⟨later, others, above, pathToo⟩ := behind.2 second there
    rw [path, pathToo]
    exact List.cons_lt_cons_iff.mpr (.inl above)
  · rcases List.mem_append.mp member with here | there
    · obtain ⟨rest, path⟩ := within part here
      exact ⟨kind, rest, le_rfl, path⟩
    · obtain ⟨later, rest, above, path⟩ := behind.2 part there
      exact ⟨later, rest, by omega, path⟩

theorem startsAt_cons {kind : Nat} {part : Part} {others : List Part} (within : part.path = [kind])
    (behind : StartsAt (kind + 1) others) : StartsAt kind (part :: others) :=
  startsAt_append (List.pairwise_singleton ..) (by simp [within]) behind

theorem startsAt_mapIdx {kind : Nat} (item : Nat → Part) (items : List Json) (path : ∀ i, (item i).path = [kind, i])
    {others : List Part} (behind : StartsAt (kind + 1) others) :
    StartsAt kind ((items.mapIdx fun place _ => item place) ++ others) := by
  refine startsAt_append (areOrdered_mapIdx items fun i j below => ?_) (fun part member => ?_) behind
  · simpa [path, List.cons_lt_cons_iff] using below
  · obtain ⟨place, _, rfl⟩ := List.mem_mapIdx.mp member
    exact ⟨_, path place⟩

section Groups

variable {kind : Nat} (group : Nat → Part) (element : Nat → Nat → Part) (elements : String)

theorem path_of_mem_groupParts (atGroup : ∀ i, (group i).path = [kind, i])
    (atElement : ∀ i j, (element i j).path = [kind, i, j]) {position : Nat} {json : Json} {part : Part}
    (member : part ∈ groupParts group element elements position json) :
    ∃ rest, part.path = kind :: position :: rest := by
  rw [groupParts] at member
  rcases List.mem_cons.mp member with rfl | later
  · exact ⟨[], atGroup position⟩
  · split at later
    · obtain ⟨place, _, rfl⟩ := List.mem_mapIdx.mp later
      exact ⟨[place], atElement position place⟩
    · exact absurd later (by simp)

theorem areOrdered_groupParts (atGroup : ∀ i, (group i).path = [kind, i])
    (atElement : ∀ i j, (element i j).path = [kind, i, j]) (position : Nat) (json : Json) :
    AreOrdered (groupParts group element elements position json) := by
  rw [groupParts]
  split
  · refine List.pairwise_cons.mpr ⟨fun part member => ?_, areOrdered_mapIdx _ fun i j below => ?_⟩
    · obtain ⟨place, _, rfl⟩ := List.mem_mapIdx.mp member
      simp [atGroup, atElement]
    · simpa [atElement, List.cons_lt_cons_iff] using below
  · exact List.pairwise_singleton ..

/-- Each group with its elements stands before the next one. -/
theorem startsAt_groups (atGroup : ∀ i, (group i).path = [kind, i])
    (atElement : ∀ i j, (element i j).path = [kind, i, j]) (items : List Json) {others : List Part}
    (behind : StartsAt (kind + 1) others) :
    StartsAt kind ((items.mapIdx (groupParts group element elements)).flatten ++ others) := by
  refine startsAt_append (List.pairwise_flatten.mpr ⟨fun parts member => ?_,
    List.pairwise_iff_getElem.mpr fun i j _ _ below => ?_⟩) (fun part member => ?_) behind
  · obtain ⟨i, _, rfl⟩ := List.mem_mapIdx.mp member
    exact areOrdered_groupParts _ _ _ atGroup atElement i _
  · rw [List.getElem_mapIdx, List.getElem_mapIdx]
    intro first here second there
    obtain ⟨rest, path⟩ := path_of_mem_groupParts _ _ _ atGroup atElement here
    obtain ⟨others, pathToo⟩ := path_of_mem_groupParts _ _ _ atGroup atElement there
    simp [path, pathToo, List.cons_lt_cons_iff, below]
  · obtain ⟨parts, inside, here⟩ := List.mem_flatten.mp member
    obtain ⟨i, _, rfl⟩ := List.mem_mapIdx.mp inside
    obtain ⟨rest, path⟩ := path_of_mem_groupParts _ _ _ atGroup atElement here
    exact ⟨i :: rest, path⟩

end Groups

/-- The parts stand in the order of their paths. -/
theorem areOrdered_parts (document : Json) : AreOrdered document.parts := by
  have none : StartsAt 7 [] := ⟨List.Pairwise.nil, by simp⟩
  have rules : StartsAt 6 (document.rules.mapIdx fun place _ => .rule place) := by
    simpa using startsAt_mapIdx .rule document.rules (fun _ => rfl) none
  have components := startsAt_mapIdx .component document.components (fun _ => rfl) rules
  have flows := startsAt_groups .flow .step "steps" (fun _ => rfl) (fun _ _ => rfl) document.flows components
  have entities := startsAt_groups .entity .field "fields" (fun _ => rfl) (fun _ _ => rfl) document.entities
    flows
  exact (startsAt_cons rfl (startsAt_cons rfl (startsAt_cons rfl entities))).1

theorem any_getElem?_eq_false_iff {items : List Json} {test : Json → Bool} :
    (∀ position : Nat, items[position]?.any test = false) ↔ ∀ item ∈ items, test item = false := by
  constructor
  · intro none item member
    obtain ⟨position, place⟩ := List.mem_iff_getElem?.mp member
    simpa [place] using none position
  · intro all position
    cases place : items[position]? with
    | none => rfl
    | some item => exact all item (List.mem_of_getElem? place)

/-- No part of a document that follows the grammar is malformed. -/
theorem IsGrammatical.isMalformed (grammatical : document.IsGrammatical) (part : Part) :
    part.isMalformed document = false := by
  have each {items : List Json} {test : Json → Bool} (all : ∀ item ∈ items, test item) (position : Nat) :
      (items[position]?.any fun item => !test item) = false :=
    any_getElem?_eq_false_iff.mpr (fun item member => by rw [all item member]; rfl) position
  cases part with
  | metadata => simp [Part.isMalformed, grammatical.metadata]
  | entityList => exact grammatical.entities
  | flowList => exact grammatical.flows
  | entity position => exact each grammatical.entity position
  | field owner position =>
    exact any_getElem?_eq_false_iff.mpr (fun entity member => each (grammatical.field entity member) position) owner
  | flow position => exact each grammatical.flow position
  | step owner position =>
    exact any_getElem?_eq_false_iff.mpr (fun flow member => each (grammatical.step flow member) position) owner
  | component position => exact each grammatical.component position
  | rule position => exact each grammatical.rule position

/-- A document whose parts are well formed, those apart that are hidden, follows the grammar: nothing is hidden
in an entity or a flow that has an id and a name. -/
theorem isGrammatical_of_parts (version : document.member? "version" = some (.text "0.1.0"))
    (well : ∀ part ∈ document.parts, part.isMalformed document = false) : document.IsGrammatical := by
  have sound (part : Part) (seen : part.isHidden document = false) : part.isMalformed document = false := by
    refine Bool.eq_false_iff.mpr fun ill => ?_
    simp [well part ((mem_parts_iff ill).mpr seen)] at ill
  have each {items : List Json} {test : Json → Bool}
      (none : ∀ position : Nat, (items[position]?.any fun item => !test item) = false) : ∀ item ∈ items, test item :=
    fun item member => by simpa using any_getElem?_eq_false_iff.mp none item member
  have entity := each fun position => sound (.entity position) rfl
  have flow := each fun position => sound (.flow position) rfl
  have named {group : Json} {elements : String} (whole : group.isGroup elements = true) : group.isNamed = true :=
    (Bool.and_eq_true_iff.mp whole).1
  refine ⟨version, ?_, sound .entityList rfl, sound .flowList rfl, entity, ?_, flow, ?_,
    each fun position => sound (.component position) rfl, each fun position => sound (.rule position) rfl⟩
  · simpa [Part.isMalformed] using sound .metadata rfl
  · intro owner member
    obtain ⟨position, atEntity⟩ := List.mem_iff_getElem?.mp member
    refine each fun place => ?_
    have seen := sound (.field position place) (by simp [Part.isHidden, atEntity, named (entity owner member)])
    simpa [Part.isMalformed, atEntity] using seen
  · intro owner member
    obtain ⟨position, atFlow⟩ := List.mem_iff_getElem?.mp member
    refine each fun place => ?_
    have seen := sound (.step position place) (by simp [Part.isHidden, atFlow, named (flow owner member)])
    simpa [Part.isMalformed, atFlow] using seen

end Json

namespace Specification

open Doc (ofJson)

variable {room : Room} {document : Json}

theorem version?_ofJson (document : Json) (version : String) : version? (ofJson document).entries = some version ↔
    document.member? "version" = some (.text "0.1.0") ∧ version = "0.1.0" := by
  rw [version?, Doc.get_ofJson, Json.get]
  cases document.member? "version" with
  | none => simp [ofJson]
  | some value =>
    cases value with
    | text given =>
      by_cases known : given = "0.1.0"
      · simp [ofJson, supportedVersions, known, eq_comm]
      · simp [ofJson, supportedVersions, known]
    | null | bool | int | float | list | object => simp [ofJson]

theorem ofDoc_of_version (version : document.member? "version" = some (.text "0.1.0")) :
    ofDoc room (ofJson document) = (readSections room "0.1.0" (ofJson document).entries).mapError .ofProblems := by
  have known := (version?_ofJson document "0.1.0").mpr ⟨version, rfl⟩
  cases document with
  | object members => simp only [ofJson, ofDoc, Doc.entries] at known ⊢; rw [known]
  | null | bool | int | float | text | list => exact absurd version (by simp [Json.member?])

/-- Any other version is refused for what it is. -/
theorem ofDoc_of_not_version (other : document.member? "version" ≠ some (.text "0.1.0")) :
    ∃ fault, ofDoc room (ofJson document) = .error fault ∧
      (document.IsWithin room → ∀ obstacle, fault ≠ .stopped obstacle) := by
  cases document with
  | object members =>
    cases known : version? (ofJson (.object members)).entries with
    | some version => exact absurd ((version?_ofJson _ version).mp known).1 other
    | none =>
      simp only [ofJson, Doc.entries] at known
      cases limit : (Doc.get "version" (Doc.ofJsonMembers members)).showingLimit? room room.showing with
      | none =>
        refine ⟨.unsupportedVersion (Doc.get "version" (Doc.ofJsonMembers members)), ?_, by simp⟩
        simp only [ofJson, ofDoc, known, limit]
      | some met =>
        refine ⟨.stopped (.limit met), by simp only [ofJson, ofDoc, known, limit], fun within => ?_⟩
        have inside : (ofJson (.object members)).IsInside (.object members) := ⟨_, .whole, rfl⟩
        exact absurd ((inside.get "version").showingLimit? within) (by simp [ofJson, Doc.entries, limit])
  | null | bool | int | float | text | list => exact ⟨_, rfl, by simp⟩

theorem ofProblems_parts (parts : List Part) :
    DocumentFault.ofProblems (parts.map (·.problem document)) = .malformed (parts.map (·.problem document)) := by
  have told : (parts.map (·.problem document)).findSome? DocumentProblem.obstacle? = none := by
    refine List.findSome?_eq_none_iff.mpr fun problem member => ?_
    obtain ⟨part, _, rfl⟩ := List.mem_map.mp member
    exact Part.obstacle?_problem document part
  simp only [DocumentFault.ofProblems, told]

theorem exists_ofProblems_eq_stopped {problems : List DocumentProblem}
    (met : ∃ problem ∈ problems, problem.obstacle?.isSome = true) :
    ∃ obstacle, DocumentFault.ofProblems problems = .stopped obstacle := by
  cases found : problems.findSome? DocumentProblem.obstacle? with
  | some obstacle => exact ⟨obstacle, by simp only [DocumentFault.ofProblems, found]⟩
  | none =>
    obtain ⟨problem, member, some⟩ := met
    simp [List.findSome?_eq_none_iff.mp found problem member] at some

/-- Every outcome of reading a document of the right version. -/
theorem ofDoc_cases (room : Room) (proper : document.IsProper)
    (version : document.member? "version" = some (.text "0.1.0")) :
    (∃ spec, ofDoc room (ofJson document) = .ok spec ∧ document.IsGrammatical ∧ spec.IsFrom document) ∨
    ¬ document.IsGrammatical ∧ ofDoc room (ofJson document) = .error (.malformed
      ((document.parts.filter (·.isMalformed document)).map (·.problem document))) ∨
    ¬ document.IsWithin room ∧ ∃ obstacle, ofDoc room (ofJson document) = .error (.stopped obstacle) := by
  have answers := answers_readSections room "0.1.0" proper
  rw [ofDoc_of_version version]
  cases read : readSections room "0.1.0" (ofJson document).entries with
  | ok spec =>
    rw [read] at answers
    exact .inl ⟨spec, rfl, Json.isGrammatical_of_parts version answers.of_ok.1, answers.of_ok.2⟩
  | error problems =>
    rw [read] at answers
    rcases answers.of_error with ⟨met, beyond⟩ | ⟨⟨part, _, ill⟩, rfl⟩
    · obtain ⟨obstacle, stopped⟩ := exists_ofProblems_eq_stopped met
      exact .inr (.inr ⟨beyond, obstacle, congrArg Except.error stopped⟩)
    · refine .inr (.inl ⟨fun grammatical => ?_, congrArg Except.error (ofProblems_parts _)⟩)
      simp [grammatical.isMalformed part] at ill

/-- A document that keeps the limits is read to its end. -/
theorem ofDoc_ne_stopped (proper : document.IsProper) (within : document.IsWithin room) (obstacle : Obstacle) :
    ofDoc room (ofJson document) ≠ .error (.stopped obstacle) := by
  by_cases version : document.member? "version" = some (.text "0.1.0")
  · rcases ofDoc_cases room proper version with ⟨spec, read, _⟩ | ⟨_, refused⟩ | ⟨beyond, _⟩
    · simp [read]
    · simp [refused]
    · exact absurd within beyond
  · obtain ⟨fault, refused, told⟩ := ofDoc_of_not_version version
    rw [refused]
    exact fun same => told within obstacle (Except.error.inj same)

/-- What follows the grammar is read. -/
theorem exists_ofDoc_of_isGrammatical (proper : document.IsProper) (grammatical : document.IsGrammatical)
    (goes : ∀ obstacle, ofDoc room (ofJson document) ≠ .error (.stopped obstacle)) :
    ∃ spec, ofDoc room (ofJson document) = .ok spec := by
  rcases ofDoc_cases room proper grammatical.version with ⟨spec, read, _⟩ | ⟨broken, _⟩ | ⟨_, obstacle, stopped⟩
  · exact ⟨spec, read⟩
  · exact absurd grammatical broken
  · exact absurd stopped (goes obstacle)

/-- What is read follows the grammar, and nothing of it is dropped. -/
theorem isGrammatical_of_ofDoc (proper : document.IsProper) {spec : Specification}
    (read : ofDoc room (ofJson document) = .ok spec) : document.IsGrammatical ∧ spec.IsFrom document := by
  have version : document.member? "version" = some (.text "0.1.0") := by
    by_contra other
    obtain ⟨fault, refused, _⟩ := ofDoc_of_not_version other
    exact absurd (refused.symm.trans read) (by simp)
  rcases ofDoc_cases room proper version with ⟨found, whole, follows⟩ | ⟨_, refused⟩ | ⟨_, obstacle, stopped⟩
  · obtain rfl := Except.ok.inj (whole.symm.trans read)
    exact follows
  · simp [refused] at read
  · simp [stopped] at read

/-- A document of the right version that is not read is refused with the problems of its malformed parts. -/
theorem ofDoc_of_not_isGrammatical (proper : document.IsProper)
    (version : document.member? "version" = some (.text "0.1.0")) (broken : ¬ document.IsGrammatical)
    (goes : ∀ obstacle, ofDoc room (ofJson document) ≠ .error (.stopped obstacle)) :
    ofDoc room (ofJson document) = .error (.malformed
      ((document.parts.filter (·.isMalformed document)).map (·.problem document))) := by
  rcases ofDoc_cases room proper version with ⟨_, _, grammatical, _⟩ | ⟨_, refused⟩ | ⟨_, obstacle, stopped⟩
  · exact absurd grammatical broken
  · exact refused
  · exact absurd stopped (goes obstacle)

/-- Unless its reading is stopped, a document from JSON is read exactly when it follows the grammar, and then nothing
of it is dropped. If it is of the right version and does not, it is refused with one problem for every malformed part,
in the order of the document, but for the elements of entities and flows without an id or a name. The reading of a
document that keeps the limits is not stopped. -/
theorem ofDoc_follows_grammar (room : Room) (proper : document.IsProper) :
    ((∃ spec, ofDoc room (ofJson document) = .ok spec) ↔
      document.IsGrammatical ∧ ∀ obstacle, ofDoc room (ofJson document) ≠ .error (.stopped obstacle)) ∧
    (∀ spec, ofDoc room (ofJson document) = .ok spec → spec.IsFrom document) ∧
    (document.member? "version" = some (.text "0.1.0") → ¬ document.IsGrammatical →
      (∀ obstacle, ofDoc room (ofJson document) ≠ .error (.stopped obstacle)) →
      ∃ parts : List Part,
        ofDoc room (ofJson document) = .error (.malformed (parts.map (·.problem document))) ∧
        parts.Pairwise (fun first second => first.path < second.path) ∧
        ∀ part, part ∈ parts ↔ part.isMalformed document = true ∧ part.isHidden document = false) ∧
    (document.IsWithin room → ∀ obstacle, ofDoc room (ofJson document) ≠ .error (.stopped obstacle)) := by
  refine ⟨⟨fun ⟨spec, read⟩ => ⟨(isGrammatical_of_ofDoc proper read).1, by simp [read]⟩,
    fun ⟨grammatical, goes⟩ => exists_ofDoc_of_isGrammatical proper grammatical goes⟩,
    fun spec read => (isGrammatical_of_ofDoc proper read).2, fun version broken goes => ?_, ofDoc_ne_stopped proper⟩
  refine ⟨_, ofDoc_of_not_isGrammatical proper version broken goes, (Json.areOrdered_parts document).filter _,
    fun part => ?_⟩
  rw [List.mem_filter, and_comm]
  exact and_congr_right fun ill => Json.mem_parts_iff ill

/-- An entity without a name that has a field without a name. -/
def namelessItem : Json := .object [
  ("version", .text "0.1.0"),
  ("metadata", .object [("name", .text "shop")]),
  ("entities", .list [.object [("id", .text "item"), ("fields", .list [.object []])]])]

/-- A document with a field whose default holds an object inside an object. -/
def shopDocument : Json := .object [
  ("version", .text "0.1.0"),
  ("metadata", .object [("name", .text "shop")]),
  ("entities", .list [.object [("id", .text "item"), ("name", .text "Item"), ("fields", .list [.object [
    ("id", .text "size"), ("type", .text " JSON "),
    ("default", .object [("a", .int 1), ("b", .object [("x", .null), ("y", .bool true)])])]])]])]

theorem isProper_shopDocument : shopDocument.IsProper := by
  simp [shopDocument, Json.IsProper, Json.AreProper, Json.AreProperMembers]

theorem isGrammatical_shopDocument : shopDocument.IsGrammatical where
  version := rfl
  metadata := rfl
  entities := rfl
  flows := rfl
  entity := by decide
  field := by decide
  flow := by decide
  step := by decide
  component := by decide
  rule := by decide

theorem isWithin_shopDocument : shopDocument.IsWithin {} := ⟨8, by decide +kernel, by decide, by decide⟩

theorem exists_ofDoc_shopDocument : ∃ spec, ofDoc {} (ofJson shopDocument) = .ok spec :=
  exists_ofDoc_of_isGrammatical isProper_shopDocument isGrammatical_shopDocument
    (ofDoc_ne_stopped isProper_shopDocument isWithin_shopDocument)

/-- A document that follows the grammar is read. Of one with two malformed parts, of which one is hidden, one
problem is told. -/
theorem ofDoc_follows_grammar_shopDocument :
    shopDocument.IsWithin {} ∧ (∃ spec, ofDoc {} (ofJson shopDocument) = .ok spec ∧ spec.IsFrom shopDocument) ∧
    namelessItem.IsWithin {} ∧
    ∃ parts : List Part, ofDoc {} (ofJson namelessItem) = .error (.malformed (parts.map (·.problem namelessItem))) ∧
      .entity 0 ∈ parts ∧ .field 0 0 ∉ parts := by
  obtain ⟨read, whole, _, goes⟩ := ofDoc_follows_grammar {} isProper_shopDocument
  obtain ⟨spec, ok⟩ := read.mpr ⟨isGrammatical_shopDocument, goes isWithin_shopDocument⟩
  refine ⟨isWithin_shopDocument, ⟨spec, ok, whole spec ok⟩, ?_⟩
  have proper : namelessItem.IsProper := by
    simp [namelessItem, Json.IsProper, Json.AreProper, Json.AreProperMembers]
  have withinToo : namelessItem.IsWithin {} := ⟨5, by decide, by decide, by decide⟩
  have broken : ¬ namelessItem.IsGrammatical := fun grammatical =>
    absurd (grammatical.isMalformed (.entity 0)) (by decide)
  obtain ⟨_, _, told, goesToo⟩ := ofDoc_follows_grammar {} proper
  obtain ⟨parts, refused, _, listed⟩ := told rfl broken (goesToo withinToo)
  refine ⟨withinToo, parts, refused, (listed _).mpr (by decide), fun member => ?_⟩
  exact absurd ((listed _).mp member).2 (by decide)

/-- Two parts of a document are malformed, and one problem is told. -/
theorem ofDoc_namelessItem :
    (Part.entity 0).isMalformed namelessItem = true ∧ (Part.field 0 0).isMalformed namelessItem = true ∧
      ofDoc {} (ofJson namelessItem) = .error (.malformed [.entityNames 0]) :=
  ⟨by decide, by decide, rfl⟩

end Specification

end Prism
