import Prism.Convention

namespace Prism

inductive ArtifactKind where
  | component | model | page | service | repository
  deriving DecidableEq, Repr, Inhabited

instance : Labelled ArtifactKind where
  all := [.component, .model, .page, .service, .repository]
  label
    | .component => "component"
    | .model => "model"
    | .page => "page"
    | .service => "service"
    | .repository => "repository"

/-- What an artifact of a kind makes use of. -/
def ArtifactKind.capabilities : ArtifactKind → List String
  | .component => ["components"]
  | .model => ["persistence"]
  | .page => ["routing"]
  | .service => ["async"]
  | .repository => ["security"]

inductive TemplateSet where
  | react | vue | angular | iosSwift | androidKotlin | nodejs | python | java
  deriving DecidableEq, Repr

instance : Labelled TemplateSet where
  all := [.react, .vue, .angular, .iosSwift, .androidKotlin, .nodejs, .python, .java]
  label
    | .react => "react"
    | .vue => "vue"
    | .angular => "angular"
    | .iosSwift => "ios_swift"
    | .androidKotlin => "android_kotlin"
    | .nodejs => "nodejs"
    | .python => "python"
    | .java => "java"

def Framework.ownSet? : Framework → Option TemplateSet
  | .react => some .react
  | .vue => some .vue
  | .angular => some .angular
  | .iosSwift => some .iosSwift
  | .androidKotlin => some .androidKotlin
  | .nodejs => some .nodejs
  | .python => some .python
  | .java => some .java
  | .svelte | .flutter | .reactNative | .electron | .go | .rust => none

/-- Every framework without a set of its own is served by that of React. -/
def Framework.templateSet (framework : Framework) : TemplateSet :=
  framework.ownSet?.getD .react

/-- A piece of a path: fixed text, or the name of the element in one of its forms. -/
inductive PathPart where
  | text (value : String)
  | pascal
  | camel
  | kebab
  | identifier
  deriving DecidableEq, Repr

def PathPart.render (convention : Convention) (name : String) : PathPart → String
  | .text value => value
  | .pascal => Words.pascal name
  | .camel => Words.camel name
  | .kebab => Words.kebab name
  | .identifier => convention.identifier name

def TemplateSet.layout : TemplateSet → ArtifactKind → List PathPart
  | .react, .component => [.text "src/components/", .pascal, .text ".tsx"]
  | .react, .model => [.text "src/models/", .pascal, .text ".ts"]
  | .react, .page => [.text "src/app/", .kebab, .text "/page.tsx"]
  | .react, .service => [.text "src/services/", .camel, .text ".ts"]
  | .react, .repository => [.text "src/services/dataAccessPolicy.ts"]
  | .vue, .component => [.text "src/components/", .pascal, .text ".vue"]
  | .vue, .model => [.text "src/models/", .pascal, .text ".ts"]
  | .vue, .page => [.text "src/views/", .pascal, .text "View.vue"]
  | .vue, .service => [.text "src/services/", .camel, .text ".ts"]
  | .vue, .repository => [.text "src/services/dataAccessPolicy.ts"]
  | .angular, .component => [.text "src/app/", .kebab, .text "/", .kebab, .text ".component.ts"]
  | .angular, .model => [.text "src/app/models/", .kebab, .text ".model.ts"]
  | .angular, .page => [.text "src/app/pages/", .kebab, .text ".page.ts"]
  | .angular, .service => [.text "src/app/services/", .kebab, .text ".service.ts"]
  | .angular, .repository => [.text "src/app/services/data-access-policy.ts"]
  | .iosSwift, .component => [.text "Sources/Views/", .pascal, .text "View.swift"]
  | .iosSwift, .model => [.text "Sources/Models/", .pascal, .text ".swift"]
  | .iosSwift, .page => [.text "Sources/Screens/", .pascal, .text "Screen.swift"]
  | .iosSwift, .service => [.text "Sources/Services/", .pascal, .text ".swift"]
  | .iosSwift, .repository => [.text "Sources/Services/DataAccessPolicy.swift"]
  | .androidKotlin, .component =>
    [.text "app/src/main/java/com/example/app/ui/", .pascal, .text "Card.kt"]
  | .androidKotlin, .model =>
    [.text "app/src/main/java/com/example/app/model/", .pascal, .text ".kt"]
  | .androidKotlin, .page =>
    [.text "app/src/main/java/com/example/app/ui/", .pascal, .text "Screen.kt"]
  | .androidKotlin, .service =>
    [.text "app/src/main/java/com/example/app/service/", .pascal, .text ".kt"]
  | .androidKotlin, .repository =>
    [.text "app/src/main/java/com/example/app/data/DataAccessPolicy.kt"]
  | .nodejs, .component => [.text "src/controllers/", .camel, .text "Controller.ts"]
  | .nodejs, .model => [.text "src/models/", .pascal, .text ".ts"]
  | .nodejs, .page => [.text "src/routes/", .camel, .text ".ts"]
  | .nodejs, .service => [.text "src/services/", .camel, .text ".ts"]
  | .nodejs, .repository => [.text "src/middleware/dataAccessPolicy.ts"]
  | .python, .component => [.text "app/routers/", .identifier, .text ".py"]
  | .python, .model => [.text "app/models/", .identifier, .text ".py"]
  | .python, .page => [.text "app/views/", .identifier, .text ".py"]
  | .python, .service => [.text "app/services/", .identifier, .text ".py"]
  | .python, .repository => [.text "app/policies/data_access.py"]
  | .java, .component =>
    [.text "src/main/java/com/example/app/controller/", .pascal, .text "Controller.java"]
  | .java, .model => [.text "src/main/java/com/example/app/model/", .pascal, .text ".java"]
  | .java, .page => [.text "src/main/java/com/example/app/flow/", .pascal, .text "Flow.java"]
  | .java, .service => [.text "src/main/java/com/example/app/service/", .pascal, .text ".java"]
  | .java, .repository => [.text "src/main/java/com/example/app/security/DataAccessPolicy.java"]

def TemplateSet.path (set : TemplateSet) (kind : ArtifactKind) (convention : Convention)
    (name : String) : String :=
  String.join ((set.layout kind).map (PathPart.render convention name))

end Prism
