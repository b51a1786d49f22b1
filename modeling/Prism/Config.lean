import Prism.Document.Coerce
import Prism.Location
import Prism.Reading
import Prism.Yaml.Value

namespace Prism

/-- How targets are compiled: how many at once, how often again, and for how long. -/
structure CompilerSettings where
  targets : List String := []
  maxWorkers : Option Int := none
  maxRetries : Int := 2
  retryBackoff : Number := .float 0.1
  targetTimeout : Option Number := none
  runTimeout : Option Number := none
  cancelGrace : Number := .float 2.0

structure ValidationSettings where
  axes : List String := []
  tolerance : Number := .float 0.5

structure OutputSettings where
  directory : Option Location := none
  report : Option Location := none
  format : String := "json"

structure Config where
  root : Location
  compiler : CompilerSettings := {}
  validation : ValidationSettings := {}
  output : OutputSettings := {}
  templates : Option Location := none

inductive ConfigFault where
  | home (fault : HomeFault)
  | reading (fault : ReadingFault)
  | notYaml (name : String)
  | value (fault : Yaml.ValueFault)
  | number (fault : NumberFault)
  | limit (met : Limit)
  | rootNotMapping
  | workersNotInteger (given : String)
  | timeoutNotNumber (given : String)
  | tooFewWorkers
  | negativeRetries
  | timeoutNotPositive (name : String)
  | negativeTolerance
  | unknownFormat (given : String)
  deriving DecidableEq, Repr

namespace Config

def fileName : String := ".polygen.yml"

def workersVariable : String := "POLYGEN_MAX_WORKERS"

def timeoutVariable : String := "POLYGEN_TARGET_TIMEOUT"

def formats : List String := ["json", "markdown"]

end Config

open Config in
def ConfigFault.message : ConfigFault → String
  | .home fault => fault.message
  | .reading fault => fault.message
  | .notYaml name => "Failed to parse " ++ name
  | .value fault => fault.message
  | .number fault => fault.message
  | .limit met => met.message
  | .rootNotMapping => fileName ++ " must contain a mapping at the root"
  | .workersNotInteger given => workersVariable ++ " must be an integer, got " ++ Text.quoted given
  | .timeoutNotNumber given => timeoutVariable ++ " must be a number, got " ++ Text.quoted given
  | .tooFewWorkers => "compiler.max_workers must be at least 1"
  | .negativeRetries => "compiler.max_retries must not be negative"
  | .timeoutNotPositive name => "compiler." ++ name ++ " must be positive"
  | .negativeTolerance => "validation.performance_tolerance must not be negative"
  | .unknownFormat given => "output.format must be one of " ++ String.intercalate ", " formats ++
      ", got " ++ Text.quoted given

/-- Whether the settings themselves are at fault, and not what they are read from. -/
def ConfigFault.isRefusal : ConfigFault → Bool
  | .home _ | .reading _ | .value _ | .number _ | .limit _ => false
  | _ => true

namespace Config

def wholeNumber? (room : Room) : Doc → Option Int
  | .scalar (.int n) => some n
  | .scalar (.text s) => Decimal.readInt? room s
  | _ => none

/-- A number; whole numbers have to fit. -/
def number? : Doc → Except ConfigFault (Option Number)
  | .scalar (.int n) => match (Number.int n).toFloat with
    | .ok value => .ok (some (.float value))
    | .error fault => .error (.number fault)
  | .scalar (.float x) => .ok (some (.float x))
  | .scalar (.text s) => .ok ((Decimal.readFloat? s).map Number.float)
  | _ => .ok none

/-- Goes on when the texts of these values can be written. -/
def spelled (room : Room) (values : List Doc) : Except ConfigFault Unit :=
  if values.all (·.isSpelled room) then .ok () else .error (.limit room.unspelled)

/-- A place given by a text that is not empty, seen from the directory of the file. -/
def location? (root : Location) (value : Doc) : Option Location :=
  (value.itemText?.filter fun text => !text.isEmpty).map fun text => root.join (Location.ofText text)

def compilerOf (room : Room) (entries : List (Scalar × Doc)) : Except ConfigFault CompilerSettings := do
  let initial : CompilerSettings := {}
  spelled room (Doc.get "targets" entries).items
  let backoff ← number? (Doc.get "retry_backoff" entries)
  let targetTimeout ← number? (Doc.get "target_timeout" entries)
  let runTimeout ← number? (Doc.get "run_timeout" entries)
  let grace ← number? (Doc.get "cancel_grace" entries)
  return {
    targets := (Doc.get "targets" entries).texts
    maxWorkers := wholeNumber? room (Doc.get "max_workers" entries)
    maxRetries := (wholeNumber? room (Doc.get "max_retries" entries)).getD initial.maxRetries
    retryBackoff := backoff.getD initial.retryBackoff
    targetTimeout
    runTimeout
    cancelGrace := grace.getD initial.cancelGrace }

def validationOf (room : Room) (entries : List (Scalar × Doc)) : Except ConfigFault ValidationSettings := do
  let initial : ValidationSettings := {}
  spelled room (Doc.get "axes" entries).items
  let tolerance ← number? (Doc.get "performance_tolerance" entries)
  return {
    axes := (Doc.get "axes" entries).texts
    tolerance := tolerance.getD initial.tolerance }

def outputOf (room : Room) (root : Location) (entries : List (Scalar × Doc)) : Except ConfigFault OutputSettings := do
  let initial : OutputSettings := {}
  let format := (Doc.get "format" entries).itemText?.filter fun text => !text.isEmpty
  spelled room [Doc.get "directory" entries, Doc.get "report" entries, Doc.get "format" entries]
  return {
    directory := location? root (Doc.get "directory" entries)
    report := location? root (Doc.get "report" entries)
    format := Text.lower (format.getD initial.format) }

def ofDoc (room : Room) (root : Location) (document : Doc) : Except ConfigFault Config :=
  match document with
  | .map entries => do
    let compiler ← compilerOf room (Doc.get "compiler" entries).entries
    let validation ← validationOf room (Doc.get "validation" entries).entries
    let output ← outputOf room root (Doc.get "output" entries).entries
    spelled room [Doc.get "templates_dir" entries]
    return {
      root
      compiler
      validation
      output
      templates := location? root (Doc.get "templates_dir" entries) }
  | _ => .error .rootNotMapping

/-- The document of a settings file; a blank text has none. -/
def documentOf (room : Room) (name text : String) : Except ConfigFault Doc :=
  if (Text.strip text).isEmpty then .ok .null
  else match Doc.ofYaml room text with
    | .error .malformed => .error (.notYaml name)
    | .error (.value fault) => .error (.value fault)
    | .ok document => .ok document

def check (config : Config) : Except ConfigFault Unit := do
  let compiler := config.compiler
  if compiler.maxWorkers.any (· < 1) then throw .tooFewWorkers
  if compiler.maxRetries < 0 then throw .negativeRetries
  if compiler.targetTimeout.any (·.le 0) then throw (.timeoutNotPositive "target_timeout")
  if compiler.runTimeout.any (·.le 0) then throw (.timeoutNotPositive "run_timeout")
  if config.validation.tolerance.lt 0 then throw .negativeTolerance
  if !formats.contains config.output.format then throw (.unknownFormat config.output.format)

/-- Settings with a value that a variable of the environment gives. A variable that is empty gives none. -/
def overridden {α : Type} (name : String) (read : String → Option α) (fault : String → ConfigFault)
    (set : α → Config → Config) (environment : String → Option String) (config : Config) :
    Except ConfigFault Config :=
  match (environment name).filter fun text => !text.isEmpty with
  | none => .ok config
  | some given => match read given with
    | none => .error (fault given)
    | some value => .ok (set value config)

def withWorkers (room : Room) : (String → Option String) → Config → Except ConfigFault Config :=
  overridden workersVariable (Decimal.readInt? room) .workersNotInteger fun workers config =>
    { config with compiler := { config.compiler with maxWorkers := some workers } }

def withTimeout : (String → Option String) → Config → Except ConfigFault Config :=
  overridden timeoutVariable Decimal.readFloat? .timeoutNotNumber fun seconds config =>
    { config with compiler := { config.compiler with targetTimeout := some (.float seconds) } }

/-- Applies the environment and checks what comes of it. -/
def applied (room : Room) (environment : String → Option String) (config : Config) : Except ConfigFault Config := do
  let config ← withWorkers room environment config
  let config ← withTimeout environment config
  config.check
  return config

/-- The settings of a document with those of the environment; null counts as an empty mapping. -/
def ofDocument (room : Room) (root : Location) (document : Doc) (environment : String → Option String) :
    Except ConfigFault Config := do
  let config ← ofDoc room root (if document.isNull then .map [] else document)
  applied room environment config

/-- The settings of a file in a directory. Without the file only the environment counts. -/
def load (room : Room) (root : Location) (name : String) (stored : Stored) (environment : String → Option String) :
    Except ConfigFault Config :=
  match stored with
  | .absent | .blocked => applied room environment { root }
  | stored => do
    let text ← (stored.text (root.child name).text).mapError .reading
    ofDocument room root (← documentOf room name text) environment

end Config

end Prism
