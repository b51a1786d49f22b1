import Prism.Document.Coerce
import Prism.Spec.Problem

namespace Prism

/-- A part that was read, or all problems found in it. -/
abbrev Checked (α : Type) := Except (List DocumentProblem) α

namespace Checked

def problems {α : Type} : Checked α → List DocumentProblem
  | .ok _ => []
  | .error problems => problems

/-- Both parts, or the problems of both. -/
def both {α β : Type} : Checked α → Checked β → Checked (α × β)
  | .ok a, .ok b => .ok (a, b)
  | first, second => .error (first.problems ++ second.problems)

/-- All parts, or the problems of all. -/
def all {α : Type} : List (Checked α) → Checked (List α)
  | [] => .ok []
  | part :: parts => (part.both (all parts)).map fun (value, values) => value :: values

/-- Stops where the text of a value cannot be written. -/
def spelled (room : Room) (values : List Doc) : Checked Unit :=
  if values.all (·.isSpelled room) then .ok () else .error [.stopped (.limit room.unspelled)]

/-- Stops where a value cannot be shown. -/
def shown (room : Room) (value : Doc) : Checked Unit :=
  match value.showingLimit? room room.showing with
  | none => .ok ()
  | some met => .error [.stopped (.limit met)]

end Checked

namespace Doc

/-- A section that is a list; an absent one is empty. -/
def section? (name : String) (problem : DocumentProblem) (entries : List (Scalar × Doc)) :
    Checked (List Doc) :=
  match lookup name entries with
  | none => .ok []
  | some value => match value.list? with
    | some items => .ok items
    | none => .error [problem]

/-- The values that are looked at for a name: the first, and the second if the first is none. -/
def eitherOf (first second : Doc) : List Doc :=
  if first.filled?.isSome then [first] else [first, second]

end Doc

namespace Specification

open Checked (spelled shown)
open Doc (get firstOf lookup eitherOf)

variable (room : Room)

def readMetadata (raw : Doc) : Checked Metadata := do
  let data := raw.entries
  spelled room [get "name" data]
  match (get "name" data).filled? with
  | none => .error [.metadataName]
  | some name =>
    spelled room ([get "description" data, get "version" data] ++ (get "tags" data).items ++
      (get "platforms" data).items)
    return {
      name
      description := (get "description" data).textOr ""
      version := (get "version" data).textOr "1.0.0"
      tags := (get "tags" data).texts
      platforms := (get "platforms" data).texts }

/-- A value that is kept without the order of its maps, with so many calls. -/
def readFrozen (left : Nat) (raw : Doc) : Checked Frozen :=
  (Frozen.ofDoc room left raw).mapError fun obstacle => [.stopped obstacle]

/-- The rules of a field lie one call deeper than its default. -/
def readValidationRule (raw : Doc) : Checked ValidationRule := do
  let data := raw.entries
  spelled room [get "type" data]
  let value ← readFrozen room (room.freezing - 1) (get "value" data)
  spelled room [get "message" data]
  return {
    type := (get "type" data).textOr "custom"
    value
    message := (get "message" data).textOr "" }

def readField (entity : String) (position : Nat) (raw : Doc) : Checked Field := do
  let data := raw.entries
  spelled room (eitherOf (get "id" data) (get "name" data))
  match (get "id" data).filled? <|> (get "name" data).filled? with
  | none => .error [.fieldName entity position]
  | some id => match (get "type" data).choice? with
    | none =>
      shown room (get "type" data)
      .error [.fieldType entity id (get "type" data)]
    | some type =>
      spelled room [get "name" data]
      let value ← readFrozen room room.freezing ((lookup "defaultValue" data).getD (get "default" data))
      let validation ← Checked.all ((get "validation" data).items.map (readValidationRule room))
      return {
        id
        name := (get "name" data).textOr id
        type
        required := (get "required" data).flag
        unique := (get "unique" data).flag
        default := value
        validation }

def readRelationship (position : Nat) (raw : Doc) : Checked Relationship := do
  let data := raw.entries
  let spare := "rel" ++ position.repr
  let targetEntity := firstOf ["targetEntity", "target_entity"] data
  let onDelete := firstOf ["onDelete", "on_delete"] data
  spelled room [get "id" data, get "name" data, get "type" data, targetEntity, onDelete]
  return {
    id := (get "id" data).textOr ((get "name" data).textOr spare)
    name := (get "name" data).textOr ((get "id" data).textOr spare)
    type := (get "type" data).textOr "one-to-many"
    targetEntity := targetEntity.textOr ""
    onDelete := onDelete.text? }

def readConstraint (position : Nat) (raw : Doc) : Checked Constraint := do
  let data := raw.entries
  let spare := "constraint" ++ position.repr
  spelled room ([get "id" data, get "name" data, get "type" data, get "expression" data] ++
    (get "fields" data).items)
  return {
    id := (get "id" data).textOr spare
    name := (get "name" data).textOr ((get "id" data).textOr spare)
    type := (get "type" data).textOr "check"
    fields := (get "fields" data).texts
    expression := (get "expression" data).text? }

def readIndex (position : Nat) (raw : Doc) : Checked Index := do
  let data := raw.entries
  let spare := "index" ++ position.repr
  spelled room ([get "id" data, get "name" data] ++ (get "fields" data).items)
  return {
    id := (get "id" data).textOr spare
    name := (get "name" data).textOr ((get "id" data).textOr spare)
    fields := (get "fields" data).texts
    unique := (get "unique" data).flag }

def readEntity (position : Nat) (raw : Doc) : Checked Entity := do
  let data := raw.entries
  spelled room [get "id" data, get "name" data]
  match (get "id" data).filled?, (get "name" data).filled? with
  | some id, some name =>
    let rows := Doc.section? "fields" (.fieldsNotList position) data
    let fields := Checked.all ((rows.toOption.getD []).mapIdx (readField room id))
    let relationships := Checked.all ((get "relationships" data).items.mapIdx (readRelationship room))
    let constraints := Checked.all ((get "constraints" data).items.mapIdx (readConstraint room))
    let indexes := Checked.all ((get "indexes" data).items.mapIdx (readIndex room))
    let rest := spelled room [get "description" data]
    ((rows.both fields).both (relationships.both (constraints.both (indexes.both rest)))).map
      fun ((_, fields), relationships, constraints, indexes, _) =>
        { id
          name
          description := (get "description" data).textOr ""
          fields
          relationships
          constraints
          indexes }
  | _, _ => .error [.entityNames position]

def readStep (flow : String) (position : Nat) (raw : Doc) : Checked FlowStep := do
  let data := raw.entries
  spelled room (eitherOf (get "id" data) (get "name" data))
  match (get "id" data).filled? <|> (get "name" data).filled? with
  | none => .error [.stepName flow position]
  | some id => match (get "type" data).choice? with
    | none =>
      shown room (get "type" data)
      .error [.stepType flow id (get "type" data)]
    | some type =>
      let direct := firstOf ["entity"] data
      let configured := firstOf ["entity", "targetEntity"] (get "config" data).entries
      let entity := if direct.isGiven then direct else configured
      let nextSteps := firstOf ["nextSteps", "next_steps"] data
      spelled room ([get "name" data, entity] ++ nextSteps.items)
      return {
        id
        name := (get "name" data).textOr id
        type
        entity := entity.text?
        nextSteps := nextSteps.texts }

/-- The settings of a trigger that are single values, in order. -/
def readSettings (entries : List (Scalar × Doc)) : Checked (List (String × String)) := do
  let single := entries.filter fun (_, value) => value.itemText?.isSome
  spelled room (single.flatMap fun (key, value) => [.scalar key, value])
  let settings := single.filterMap fun (key, value) => value.itemText?.map fun text => (key.plain, text)
  return settings.mergeSort fun a b => a.1 < b.1 || (a.1 = b.1 && a.2 ≤ b.2)

def readTrigger (position : Nat) (raw : Doc) : Checked Trigger := do
  let data := raw.entries
  spelled room [get "id" data, get "type" data]
  let config ← readSettings room (get "config" data).entries
  return {
    id := (get "id" data).textOr ("trigger" ++ position.repr)
    type := (get "type" data).textOr "http"
    config }

def readAuth (raw : Doc) : Checked AuthRequirement := do
  let data := raw.entries
  spelled room (get "role" data :: (get "permissions" data).items)
  return {
    role := (get "role" data).textOr "user"
    permissions := (get "permissions" data).texts }

def readFlow (position : Nat) (raw : Doc) : Checked Flow := do
  let data := raw.entries
  spelled room [get "id" data, get "name" data]
  match (get "id" data).filled?, (get "name" data).filled? with
  | some id, some name =>
    let rows := Doc.section? "steps" (.stepsNotList id) data
    let steps := Checked.all ((rows.toOption.getD []).mapIdx (readStep room id))
    let triggers := Checked.all ((get "triggers" data).items.mapIdx (readTrigger room))
    let auth := Checked.all ((get "auth" data).items.map (readAuth room))
    let rest := spelled room [get "description" data, get "type" data]
    ((rows.both steps).both (triggers.both (auth.both rest))).map fun ((_, steps), triggers, auth, _) =>
      { id
        name
        description := (get "description" data).textOr ""
        type := (get "type" data).textOr "custom"
        steps
        triggers
        auth }
  | _, _ => .error [.flowNames position]

/-- A layer is a name alone or a map with a name or an id; what has neither is no layer. -/
def readLayer? : Doc → Checked (Option Layer)
  | .scalar (.text name) => .ok (some { name })
  | raw => do
    let data := raw.entries
    spelled room (eitherOf (get "name" data) (get "id" data))
    match (get "name" data).filled? <|> (get "id" data).filled? with
    | none => return none
    | some name =>
      spelled room [get "description" data]
      return some { name, description := (get "description" data).textOr "" }

def readComponent (position : Nat) (raw : Doc) : Checked Component := do
  let data := raw.entries
  spelled room (eitherOf (get "id" data) (get "name" data))
  match (get "id" data).filled? <|> (get "name" data).filled? with
  | none => .error [.componentName position]
  | some id =>
    spelled room ([get "name" data, get "type" data, get "layer" data] ++
      (get "responsibilities" data).items ++ (get "dependencies" data).items)
    return {
      id
      name := (get "name" data).textOr id
      type := (get "type" data).textOr "service"
      layer := (get "layer" data).textOr ""
      responsibilities := (get "responsibilities" data).texts
      dependencies := (get "dependencies" data).texts }

def readArchitecture (raw : Doc) : Checked Architecture :=
  let data := raw.entries
  let layers := Checked.all ((get "layers" data).items.map (readLayer? room))
  let components := Checked.all ((get "components" data).items.mapIdx (readComponent room))
  let rest := spelled room [get "pattern" data]
  (layers.both (components.both rest)).map fun (layers, components, _) =>
    { pattern := (get "pattern" data).textOr "layered"
      layers := layers.filterMap id
      components }

/-- A framework is a name alone or a map with a name or an id. -/
def readFramework? : Doc → Checked (Option String)
  | .scalar (.text name) => .ok (some name)
  | raw => do
    let data := raw.entries
    spelled room (eitherOf (get "name" data) (get "id" data))
    return (get "name" data).filled? <|> (get "id" data).filled?

def readRule (position : Nat) (raw : Doc) : Checked ComplianceRule := do
  let data := raw.entries
  let how := (get "implementation" data).entries
  let location := (lookup "location" how).getD (get "location" data)
  spelled room [get "id" data]
  match (get "id" data).filled? with
  | none => .error [.ruleId position]
  | some id => match ((lookup "type" how).getD (get "implementation" data)).choice? with
    | none => .error [.ruleImplementation id]
    | some implementation =>
      spelled room [get "name" data, get "framework" data, get "description" data, get "severity" data, location]
      return {
        id
        name := (get "name" data).textOr id
        implementation
        framework := (get "framework" data).textOr ""
        description := (get "description" data).textOr ""
        severity := (get "severity" data).textOr "medium"
        location := location.textOr "*" }

def readCompliance (raw : Doc) : Checked Compliance :=
  let data := raw.entries
  let frameworks := Checked.all ((get "frameworks" data).items.map (readFramework? room))
  let rules := Checked.all ((get "rules" data).items.mapIdx (readRule room))
  (frameworks.both rules).map fun (frameworks, rules) => { frameworks := frameworks.filterMap id, rules }

/-- Reads the sections of a document. The two sections that have to be lists are looked at before
their elements. -/
def readSections (version : String) (data : List (Scalar × Doc)) : Checked Specification :=
  let metadata := readMetadata room (get "metadata" data)
  let entityRows := Doc.section? "entities" .entitiesNotList data
  let flowRows := Doc.section? "flows" .flowsNotList data
  let entities := Checked.all ((entityRows.toOption.getD []).mapIdx (readEntity room))
  let flows := Checked.all ((flowRows.toOption.getD []).mapIdx (readFlow room))
  let architecture := readArchitecture room (get "architecture" data)
  let compliance := readCompliance room (get "compliance" data)
  let sections := metadata.both (entityRows.both (flowRows.both (entities.both (flows.both
    (architecture.both compliance)))))
  sections.map fun (metadata, _, _, entities, flows, architecture, compliance) =>
    { metadata, schemaVersion := version, entities, flows, architecture, compliance }

/-- The version of the document format, if it is one that can be read. -/
def version? (data : List (Scalar × Doc)) : Option String :=
  match get "version" data with
  | .scalar (.text version) => if supportedVersions.contains version then some version else none
  | _ => none

/-- Reads a document. The version is looked at before anything else. -/
def ofDoc : Doc → Except DocumentFault Specification
  | .map data => match version? data with
    | none => match (get "version" data).showingLimit? room room.showing with
      | none => .error (.unsupportedVersion (get "version" data))
      | some met => .error (.stopped (.limit met))
    | some version => (readSections room version data).mapError .ofProblems
  | _ => .error .rootNotMapping

end Specification

end Prism
