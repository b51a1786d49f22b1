import Prism.Document.Frozen

namespace Prism

inductive FieldType where
  | string | text | integer | float | boolean | date | datetime | time | email | url | file | image
  | json | uuid | enumeration | reference
  deriving DecidableEq, Repr, Inhabited

instance : Labelled FieldType where
  all := [.string, .text, .integer, .float, .boolean, .date, .datetime, .time, .email, .url, .file,
    .image, .json, .uuid, .enumeration, .reference]
  label
    | .string => "string"
    | .text => "text"
    | .integer => "integer"
    | .float => "float"
    | .boolean => "boolean"
    | .date => "date"
    | .datetime => "datetime"
    | .time => "time"
    | .email => "email"
    | .url => "url"
    | .file => "file"
    | .image => "image"
    | .json => "json"
    | .uuid => "uuid"
    | .enumeration => "enum"
    | .reference => "reference"

/-- The coarse shape of a value; two types of one family hold the same values. -/
inductive TypeFamily where
  | string | number | boolean | temporal | json | any
  deriving DecidableEq, Repr, Inhabited

instance : Labelled TypeFamily where
  all := [.string, .number, .boolean, .temporal, .json, .any]
  label
    | .string => "string"
    | .number => "number"
    | .boolean => "boolean"
    | .temporal => "temporal"
    | .json => "json"
    | .any => "any"

def FieldType.family : FieldType → TypeFamily
  | .string | .text | .email | .url | .file | .image | .uuid | .enumeration | .reference => .string
  | .integer | .float => .number
  | .boolean => .boolean
  | .date | .datetime | .time => .temporal
  | .json => .json

inductive StepType where
  | form | apiCall | dataTransform | validation | authCheck | notice | redirect | conditional | loop
  deriving DecidableEq, Repr, Inhabited

instance : Labelled StepType where
  all := [.form, .apiCall, .dataTransform, .validation, .authCheck, .notice, .redirect, .conditional,
    .loop]
  label
    | .form => "form"
    | .apiCall => "api-call"
    | .dataTransform => "data-transform"
    | .validation => "validation"
    | .authCheck => "auth-check"
    | .notice => "notification"
    | .redirect => "redirect"
    | .conditional => "conditional"
    | .loop => "loop"

inductive Enforcement where
  | validation | transformation | encryption | accessControl
  deriving DecidableEq, Repr, Inhabited

instance : Labelled Enforcement where
  all := [.validation, .transformation, .encryption, .accessControl]
  label
    | .validation => "validation"
    | .transformation => "transformation"
    | .encryption => "encryption"
    | .accessControl => "access-control"

structure ValidationRule where
  type : String
  value : Frozen
  message : String
  deriving Inhabited

structure Field where
  id : String
  name : String
  type : FieldType
  required : Bool := false
  unique : Bool := false
  default : Frozen := .null
  validation : List ValidationRule := []
  deriving Inhabited

def Field.family (field : Field) : TypeFamily := field.type.family

structure Relationship where
  id : String
  name : String
  type : String
  targetEntity : String
  onDelete : Option String
  deriving DecidableEq, Repr, Inhabited

structure Constraint where
  id : String
  name : String
  type : String
  fields : List String
  expression : Option String
  deriving DecidableEq, Repr, Inhabited

structure Index where
  id : String
  name : String
  fields : List String
  unique : Bool
  deriving DecidableEq, Repr, Inhabited

structure Entity where
  id : String
  name : String
  description : String := ""
  fields : List Field := []
  relationships : List Relationship := []
  constraints : List Constraint := []
  indexes : List Index := []
  deriving Inhabited

/-- The first field with that id or name. -/
def Entity.fieldNamed? (entity : Entity) (name : String) : Option Field :=
  entity.fields.find? fun field => field.id = name || field.name = name

structure FlowStep where
  id : String
  name : String
  type : StepType
  entity : Option String := none
  nextSteps : List String := []
  deriving DecidableEq, Repr, Inhabited

structure Trigger where
  id : String
  type : String
  config : List (String × String)
  deriving DecidableEq, Repr, Inhabited

structure AuthRequirement where
  role : String
  permissions : List String
  deriving DecidableEq, Repr, Inhabited

structure Flow where
  id : String
  name : String
  description : String := ""
  type : String := "custom"
  steps : List FlowStep := []
  triggers : List Trigger := []
  auth : List AuthRequirement := []
  deriving DecidableEq, Repr, Inhabited

structure Layer where
  name : String
  description : String := ""
  deriving DecidableEq, Repr, Inhabited

structure Component where
  id : String
  name : String
  type : String := "service"
  layer : String := ""
  responsibilities : List String := []
  dependencies : List String := []
  deriving DecidableEq, Repr, Inhabited

structure Architecture where
  pattern : String := "layered"
  layers : List Layer := []
  components : List Component := []
  deriving DecidableEq, Repr, Inhabited

structure ComplianceRule where
  id : String
  name : String
  implementation : Enforcement
  framework : String := ""
  description : String := ""
  severity : String := "medium"
  location : String := "*"
  deriving DecidableEq, Repr, Inhabited

/-- A rule without a place applies to every entity. -/
def ComplianceRule.isGeneral (rule : ComplianceRule) : Bool :=
  rule.location = "*" || rule.location = ""

def ComplianceRule.appliesTo (rule : ComplianceRule) (entityId : String) : Bool :=
  rule.isGeneral || rule.location = entityId

structure Compliance where
  frameworks : List String := []
  rules : List ComplianceRule := []
  deriving DecidableEq, Repr, Inhabited

structure Metadata where
  name : String
  description : String := ""
  version : String := "1.0.0"
  tags : List String := []
  platforms : List String := []
  deriving DecidableEq, Repr, Inhabited

/-- The versions of the document format that can be read. -/
def supportedVersions : List String := ["0.1.0"]

structure Specification where
  metadata : Metadata
  schemaVersion : String := "0.1.0"
  entities : List Entity := []
  flows : List Flow := []
  architecture : Architecture := {}
  compliance : Compliance := {}
  deriving Inhabited

namespace Specification

/-- The first entity with that id or name. -/
def entity? (spec : Specification) (reference : String) : Option Entity :=
  spec.entities.find? fun entity => entity.id = reference || entity.name = reference

/-- Some flow asks for a role. -/
def requiresAuth (spec : Specification) : Bool :=
  spec.flows.any fun flow => !flow.auth.isEmpty

end Specification

end Prism
