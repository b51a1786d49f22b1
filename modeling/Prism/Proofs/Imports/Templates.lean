import Prism.Proofs.Fillings
import Prism.Proofs.Imports.Lines

namespace Prism

open Text (OneLine)

theorem Text.oneLine_append {front back : String} (first : OneLine front) (second : OneLine back) :
    OneLine (front ++ back) := by
  rw [OneLine, String.toList_append, List.mem_append, not_or]
  exact ⟨first, second⟩

theorem Text.oneLine_replaceAll (part : String) {other text : String} (first : OneLine other) (second : OneLine text) :
    OneLine (replaceAll part other text) := by
  rw [OneLine, replaceAll, String.toList_ofList]
  exact fun member => (mem_replaceFrom member).elim first second

theorem Convention.oneLine_typeFor : ∀ (language : Language) (type : FieldType),
    OneLine ((Convention.of language).typeFor type).name := by
  decide +kernel

theorem Text.isSteady_oneLine : IsSteady OneLine where
  name named := fun member => absurd (named _ member) (by decide)
  mark := by decide
  type := Convention.oneLine_typeFor
  append := oneLine_append
  listed line := oneLine_append (oneLine_append (by simp [OneLine]) line) (by simp [OneLine])
  routed := oneLine_replaceAll _ (by simp [OneLine])

/-- Free text loses its line ends. -/
theorem Prose.oneLine_clean (text : String) : OneLine (clean text) := by
  rw [OneLine, toList_clean]
  exact fun member => absurd ((isNeat_cleanChars text.toList).line _ member) (by decide)

namespace TemplateSet

/-- The sets whose files are modules of one language and import each other. -/
def hasModules : TemplateSet → Bool
  | .react | .vue | .angular | .nodejs => true
  | .iosSwift | .androidKotlin | .python | .java => false

/-- How a model is imported, by its class. -/
def modelText (set : TemplateSet) (className : String) : String :=
  match set with
  | .angular => Words.kebab className ++ ".model"
  | _ => className

/-- How a service is imported, by its class. -/
def serviceText (set : TemplateSet) (className : String) : String :=
  match set with
  | .angular => Words.kebab className ++ ".service"
  | _ => Words.camel className

variable {set : TemplateSet} (modules : set.hasModules = true)

include modules

theorem ne_python_of_hasModules : set ≠ .python := by
  rintro rfl
  exact absurd modules Bool.false_ne_true

/-- A component imports the model of its entity. -/
theorem specifiers_component {context : EntityContext} (line : context.Has OneLine)
    (named : ∀ c ∈ context.entity.className.toList, Words.isNameChar c = true) :
    Imports.specifiers (set.templates.component.template.render context) =
      ["../models/" ++ set.modelText context.entity.className] := by
  have fills := Template.fills_component Text.isSteady_oneLine line set (ne_python_of_hasModules modules)
  have lone (opening) (shape) := @Imports.ofChars_parts EntityContext opening " \x7d from '../models/" "';\n"
    "type \x7b " " \x7d from " "../models/" "" shape context (·.entity.className) (·.entity.className) named named
  cases set with
  | react | nodejs =>
    refine (Imports.specifiers_template 4 5 fills (by decide +kernel) (lone _ ?_)).trans (by simp [modelText])
    simp only [String.reduceToList]
    decide
  | vue =>
    refine (Imports.specifiers_template 5 5 fills (by decide +kernel) (lone _ ?_)).trans (by simp [modelText])
    simp only [String.reduceToList]
    decide
  | angular =>
    refine Imports.specifiers_template 6 5 fills (by decide +kernel)
      (Imports.ofChars_parts "\x7b " " \x7d from " "../models/" ".model" ?_ named (Words.isNameChar_kebab _))
    simp only [String.reduceToList]
    decide
  | iosSwift | androidKotlin | python | java => exact absurd modules Bool.false_ne_true

/-- A model imports those of the entities that it refers to. -/
theorem specifiers_model {context : EntityContext} (line : context.Has OneLine)
    (related : ∀ name ∈ context.entity.relatedClasses, ∀ c ∈ name.toList, Words.isNameChar c = true) :
    Imports.specifiers (set.templates.model.template.render context) =
      context.entity.relatedClasses.map fun name => "./" ++ set.modelText name := by
  have fills := Template.fills_model Text.isSteady_oneLine line set (ne_python_of_hasModules modules)
  cases set with
  | react | vue | nodejs =>
    refine (Imports.specifiers_template 3 1 fills (by decide +kernel)
      (Imports.ofChars_each "type \x7b " " \x7d from " "./" "" ?_ related related)).trans (by simp [modelText])
    simp only [String.reduceToList]
    decide
  | angular =>
    refine Imports.specifiers_template 3 1 fills (by decide +kernel)
      (Imports.ofChars_each "\x7b " " \x7d from " "./" ".model" ?_ related fun _ _ => Words.isNameChar_kebab _)
    simp only [String.reduceToList]
    decide
  | iosSwift | androidKotlin | python | java => exact absurd modules Bool.false_ne_true

/-- A service imports those that it depends on. -/
theorem specifiers_service {context : ServiceContext} (line : context.Has OneLine)
    (named : ∀ name ∈ context.component.dependencies, ∀ c ∈ name.toList, Words.isNameChar c = true) :
    Imports.specifiers (set.templates.service.template.render context) =
      context.component.dependencies.map fun name => "./" ++ set.serviceText name := by
  have fills := Template.fills_service Text.isSteady_oneLine line set (ne_python_of_hasModules modules)
  cases set with
  | react | vue | nodejs =>
    refine (Imports.specifiers_template 3 1 fills (by decide +kernel) (Imports.ofChars_each "\x7b " " \x7d from " "./"
      "" ?_ named fun _ _ => Words.isNameChar_camel _)).trans (by simp [serviceText])
    simp only [String.reduceToList]
    decide
  | angular =>
    refine Imports.specifiers_template 4 1 fills (by decide +kernel) (Imports.ofChars_each "\x7b " " \x7d from " "./"
      ".service" ?_ named fun _ _ => Words.isNameChar_kebab _)
    simp only [String.reduceToList]
    decide
  | iosSwift | androidKotlin | python | java => exact absurd modules Bool.false_ne_true

end TemplateSet

end Prism
