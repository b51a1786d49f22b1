import Prism.View

namespace Prism

structure EntityContext where
  trace : String
  entity : EntityView
  fields : List FieldView
  operations : List OperationView
  errors : List String

namespace EntityContext

def requiredFields (context : EntityContext) : List FieldView :=
  context.fields.filter (·.required)

def optionalFields (context : EntityContext) : List FieldView :=
  context.fields.filter (!·.required)

/-- Some flow of the specification asks for a role. -/
def needsAuthorization (context : EntityContext) : Bool :=
  context.errors.contains "UNAUTHORIZED"

end EntityContext

structure PageContext where
  trace : String
  flow : FlowView
  steps : List StepView

def PageContext.entrySteps (context : PageContext) : List StepView :=
  context.steps.filter (·.isEntry)

structure ServiceContext where
  trace : String
  component : ComponentView

structure PolicyContext where
  trace : String
  rules : List RuleView

end Prism
