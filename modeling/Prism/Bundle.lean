import Prism.Contract.Basic
import Prism.Layout

namespace Prism

structure Artifact where
  path : String
  kind : ArtifactKind
  language : String
  framework : String
  content : String
  source : String
  template : String
  capabilities : List String := []
  contracts : List Contract := []
  deriving DecidableEq, Repr, Inhabited

/-- The size of the content in octets. -/
def Artifact.size (artifact : Artifact) : Nat := artifact.content.utf8ByteSize

/-- The mark by which an artifact tells its source. -/
def traceMarker (source : String) : String := "@source " ++ source

structure ConfigurationFile where
  path : String
  format : String
  content : String
  deriving DecidableEq, Repr, Inhabited

inductive Scope where
  | runtime | development | system
  deriving DecidableEq, Repr, Inhabited

def Scope.text : Scope → String
  | .runtime => "runtime"
  | .development => "dev"
  | .system => "system"

structure Dependency where
  name : String
  version : String
  scope : Scope := .runtime
  deriving DecidableEq, Repr, Inhabited

structure BuildScript where
  name : String
  command : String
  deriving DecidableEq, Repr, Inhabited

structure DocumentationFile where
  path : String
  content : String
  deriving DecidableEq, Repr, Inhabited

structure OutputBundle where
  files : List Artifact := []
  configuration : List ConfigurationFile := []
  dependencies : List Dependency := []
  buildScripts : List BuildScript := []
  documentation : List DocumentationFile := []
  deriving DecidableEq, Repr, Inhabited

namespace OutputBundle

def totalBytes (bundle : OutputBundle) : Nat := total (bundle.files.map (·.size))

/-- The first artifact at a path. -/
def file? (bundle : OutputBundle) (path : String) : Option Artifact :=
  bundle.files.find? (·.path = path)

def ofKind (bundle : OutputBundle) (kind : ArtifactKind) : List Artifact :=
  bundle.files.filter (·.kind = kind)

end OutputBundle

end Prism
