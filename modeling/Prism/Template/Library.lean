import Prism.Template.BackendJava
import Prism.Template.BackendNode
import Prism.Template.BackendPython
import Prism.Template.MobileAndroid
import Prism.Template.MobileIos
import Prism.Template.Source
import Prism.Template.WebAngular
import Prism.Template.WebReact
import Prism.Template.WebVue

namespace Prism

structure ArtifactTemplates where
  component : Bundled EntityContext
  model : Bundled EntityContext
  page : Bundled PageContext
  service : Bundled ServiceContext
  repository : Bundled PolicyContext

namespace TemplateSet

open Template

/-- The name under which the source knows a template. -/
def templateName (set : TemplateSet) (kind : ArtifactKind) : String :=
  label set ++ "/" ++ label kind ++ ".j2"

def default : TemplateSet := .react

/-- The bundled templates of each set; some are those of the default set. -/
def templates : TemplateSet → ArtifactTemplates
  | .react => {
      component := .own WebReact.component
      model := .own WebReact.model
      page := .own WebReact.page
      service := .own WebReact.service
      repository := .own WebReact.repository }
  | .vue => {
      component := .own WebVue.component
      model := .included (default.templateName .model) WebReact.model
      page := .own WebVue.page
      service := .included (default.templateName .service) WebReact.service
      repository := .included (default.templateName .repository) WebReact.repository }
  | .angular => {
      component := .own WebAngular.component
      model := .own WebAngular.model
      page := .own WebAngular.page
      service := .own WebAngular.service
      repository := .included (default.templateName .repository) WebReact.repository }
  | .iosSwift => {
      component := .own MobileIos.component
      model := .own MobileIos.model
      page := .own MobileIos.page
      service := .own MobileIos.service
      repository := .own MobileIos.repository }
  | .androidKotlin => {
      component := .own MobileAndroid.component
      model := .own MobileAndroid.model
      page := .own MobileAndroid.page
      service := .own MobileAndroid.service
      repository := .own MobileAndroid.repository }
  | .nodejs => {
      component := .own BackendNode.component
      model := .included (default.templateName .model) WebReact.model
      page := .own BackendNode.page
      service := .included (default.templateName .service) WebReact.service
      repository := .included (default.templateName .repository) WebReact.repository }
  | .python => {
      component := .own BackendPython.component
      model := .own BackendPython.model
      page := .own BackendPython.page
      service := .own BackendPython.service
      repository := .own BackendPython.repository }
  | .java => {
      component := .own BackendJava.component
      model := .own BackendJava.model
      page := .own BackendJava.page
      service := .own BackendJava.service
      repository := .own BackendJava.repository }

end TemplateSet

/-- Where a template was found: in which set, and whether that is the default set in place of
another. -/
structure Resolved where
  set : TemplateSet
  fellBack : Bool
  found : Found
  deriving DecidableEq, Repr

/-- Finds the template of a kind in a set, or else in the default set. -/
def TemplateSource.resolve (source : TemplateSource) (set : TemplateSet) (kind : ArtifactKind) :
    Except TemplateFault Resolved := do
  match ← source.find (set.templateName kind) with
  | some found => return { set, fellBack := false, found }
  | none =>
    match ← source.find (TemplateSet.default.templateName kind) with
    | some found => return { set := .default, fellBack := true, found }
    | none => throw (.noDefault (TemplateSet.default.templateName kind))

end Prism
