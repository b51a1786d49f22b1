import Prism.Spec.Model
import Prism.Target.Basic
import Prism.Words

namespace Prism

inductive Casing where
  | camel | snake
  deriving DecidableEq, Repr

def Casing.text : Casing → String
  | .camel => "camel"
  | .snake => "snake"

/-- A type of a language, with the family of the values that it keeps. -/
structure NativeType where
  name : String
  family : TypeFamily
  deriving DecidableEq, Repr

structure TypeNames where
  string : String
  integer : String
  number : String
  boolean : String
  date : String
  datetime : String
  time : NativeType
  json : String
  uuid : String
  deriving DecidableEq, Repr

/-- The words that cannot be names where names are cased with underscores. -/
def reservedWords : List String := [
  "False", "None", "True", "and", "as", "assert", "async", "await", "break", "class", "continue",
  "def", "del", "elif", "else", "except", "finally", "for", "from", "global", "if", "import", "in",
  "is", "lambda", "nonlocal", "not", "or", "pass", "raise", "return", "try", "while", "with",
  "yield"]

structure Convention where
  language : Language
  casing : Casing
  extension : String
  types : TypeNames
  deriving DecidableEq, Repr

namespace Convention

/-- The identifier for a name. A reserved word gets an underscore behind it. -/
def identifier (convention : Convention) (text : String) : String :=
  match convention.casing with
  | .camel => Words.camel text
  | .snake =>
    let name := Words.snake text
    if reservedWords.contains name then name ++ "_" else name

def typeFor (convention : Convention) (type : FieldType) : NativeType :=
  let names := convention.types
  match type with
  | .string | .text | .email | .url | .file | .image | .enumeration | .reference =>
    ⟨names.string, .string⟩
  | .uuid => ⟨names.uuid, .string⟩
  | .integer => ⟨names.integer, .number⟩
  | .float => ⟨names.number, .number⟩
  | .boolean => ⟨names.boolean, .boolean⟩
  | .date => ⟨names.date, .temporal⟩
  | .datetime => ⟨names.datetime, .temporal⟩
  | .time => names.time
  | .json => ⟨names.json, .json⟩

/-- TypeScript has no type for a time of day, so such values are strings there. -/
def typescript : Convention where
  language := .typescript
  casing := .camel
  extension := "ts"
  types := {
    string := "string", integer := "number", number := "number", boolean := "boolean",
    date := "Date", datetime := "Date", time := ⟨"string", .string⟩,
    json := "Record<string, unknown>", uuid := "string" }

/-- Swift has no type for a time of day either. -/
def swift : Convention where
  language := .swift
  casing := .camel
  extension := "swift"
  types := {
    string := "String", integer := "Int", number := "Double", boolean := "Bool",
    date := "Date", datetime := "Date", time := ⟨"String", .string⟩,
    json := "[String: AnyCodable]", uuid := "UUID" }

def kotlin : Convention where
  language := .kotlin
  casing := .camel
  extension := "kt"
  types := {
    string := "String", integer := "Int", number := "Double", boolean := "Boolean",
    date := "LocalDate", datetime := "Instant", time := ⟨"LocalTime", .temporal⟩,
    json := "Map<String, Any>", uuid := "String" }

def python : Convention where
  language := .python
  casing := .snake
  extension := "py"
  types := {
    string := "str", integer := "int", number := "float", boolean := "bool",
    date := "date", datetime := "datetime", time := ⟨"time", .temporal⟩,
    json := "dict", uuid := "str" }

def java : Convention where
  language := .java
  casing := .camel
  extension := "java"
  types := {
    string := "String", integer := "Long", number := "Double", boolean := "Boolean",
    date := "LocalDate", datetime := "Instant", time := ⟨"LocalTime", .temporal⟩,
    json := "Map<String, Object>", uuid := "UUID" }

/-- The convention of a language; those without one of their own follow TypeScript. -/
def of : Language → Convention
  | .swift => swift
  | .kotlin => kotlin
  | .python => python
  | .java => java
  | .typescript | .javascript | .go | .rust | .dart => typescript

end Convention

end Prism
