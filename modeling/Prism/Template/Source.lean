import Prism.Template.Context
import Prism.Template.Project

namespace Prism

/-- Why a text in the place of a template cannot be loaded or printed. -/
structure PrintError where
  kind : String
  message : String
  deriving DecidableEq, Repr

inductive TemplateLoad where
  | bundled
  | replaced (text : String)
  | absent
  | unreadable (reason : String)
  | broken (error : PrintError)
  deriving DecidableEq, Repr

/-- What a template is printed with. -/
inductive PrintContext where
  | entity (context : EntityContext)
  | page (context : PageContext)
  | service (context : ServiceContext)
  | policy (context : PolicyContext)
  | project (context : ProjectContext)
  | readme (context : ReadmeContext)

class Printable (α : Type) where
  context : α → PrintContext

instance : Printable EntityContext := ⟨.entity⟩
instance : Printable PageContext := ⟨.page⟩
instance : Printable ServiceContext := ⟨.service⟩
instance : Printable PolicyContext := ⟨.policy⟩
instance : Printable ProjectContext := ⟨.project⟩
instance : Printable ReadmeContext := ⟨.readme⟩

/-- A text without marks is printed as it is, with common line ends and without the one at its end. -/
def unmarkedText (text : String) : String :=
  let chars := Text.plainLineEnds text.toList
  String.ofList (if chars.getLast? = some '\n' then chars.dropLast else chars)

/-- What stands in the place of each template, and how such a text is printed. -/
structure TemplateSource where
  load : String → TemplateLoad
  print : PrintContext → String → Except PrintError String := fun _ text => .ok (unmarkedText text)

def TemplateSource.builtin : TemplateSource where
  load _ := .bundled

/-- A failure of the source. The first three can pass when tried again. -/
inductive TemplateFault where
  | unreadable (name reason : String)
  | noDefault (name : String)
  | unavailable (name : String)
  | includedUnreadable (reason : String)
  | includedAbsent (name : String)
  | broken (error : PrintError)
  deriving DecidableEq, Repr

namespace TemplateFault

def message : TemplateFault → String
  | unreadable name reason => "Failed to read template '" ++ name ++ "': " ++ reason
  | noDefault name => "Default template '" ++ name ++ "' is unavailable"
  | unavailable name => "Template '" ++ name ++ "' is unavailable"
  | includedUnreadable reason => reason
  | includedAbsent name => name
  | broken error => error.message

def isTransient : TemplateFault → Bool
  | unreadable _ _ | noDefault _ | unavailable _ => true
  | includedUnreadable _ | includedAbsent _ | broken _ => false

end TemplateFault

/-- A bundled template, or a reference to another one by name, which is loaded when printed. -/
inductive Bundled (α : Type) where
  | own (template : Template α)
  | included (name : String) (template : Template α)

/-- A template that was found: the bundled one, or a text in its place. -/
inductive Found where
  | bundled
  | literal (text : String)
  deriving DecidableEq, Repr

namespace TemplateSource

variable {α : Type} [Printable α]

def find (source : TemplateSource) (name : String) : Except TemplateFault (Option Found) :=
  match source.load name with
  | .unreadable reason => .error (.unreadable name reason)
  | .broken error => .error (.broken error)
  | .absent => .ok none
  | .replaced text => .ok (some (.literal text))
  | .bundled => .ok (some .bundled)

/-- Prints a text that stands in the place of a template. -/
def printText (source : TemplateSource) (context : α) (text : String) : Except TemplateFault String :=
  (source.print (Printable.context context) text).mapError .broken

/-- Prints a bundled template; what it refers to is loaded only now. -/
def printBundled (source : TemplateSource) (context : α) : Bundled α → Except TemplateFault String
  | .own template => .ok (template.render context)
  | .included name template => match source.load name with
    | .bundled => .ok (template.render context)
    | .replaced text => source.printText context text
    | .absent => .error (.includedAbsent name)
    | .unreadable reason => .error (.includedUnreadable reason)
    | .broken error => .error (.broken error)

def printFound (source : TemplateSource) (template : Bundled α) (context : α) :
    Found → Except TemplateFault String
  | .literal text => source.printText context text
  | .bundled => source.printBundled context template

/-- Prints a template that has no substitute. -/
def printNamed (source : TemplateSource) (name : String) (template : Template α) (context : α) :
    Except TemplateFault String := do
  match ← source.find name with
  | none => throw (.unavailable name)
  | some found => source.printFound (.own template) context found

end TemplateSource

end Prism
