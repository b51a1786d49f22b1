import Prism.Json.Basic
import Prism.Text.Basic

namespace Prism

inductive Platform where
  | web | mobile | desktop | backend | embedded
  deriving DecidableEq, Repr, Inhabited

instance : Labelled Platform where
  all := [.web, .mobile, .desktop, .backend, .embedded]
  label
    | .web => "web"
    | .mobile => "mobile"
    | .desktop => "desktop"
    | .backend => "backend"
    | .embedded => "embedded"

inductive Framework where
  | react | vue | angular | svelte | iosSwift | androidKotlin | flutter | reactNative | electron
  | nodejs | python | java | go | rust
  deriving DecidableEq, Repr, Inhabited

instance : Labelled Framework where
  all := [.react, .vue, .angular, .svelte, .iosSwift, .androidKotlin, .flutter, .reactNative,
    .electron, .nodejs, .python, .java, .go, .rust]
  label
    | .react => "react"
    | .vue => "vue"
    | .angular => "angular"
    | .svelte => "svelte"
    | .iosSwift => "ios-swift"
    | .androidKotlin => "android-kotlin"
    | .flutter => "flutter"
    | .reactNative => "react-native"
    | .electron => "electron"
    | .nodejs => "nodejs"
    | .python => "python"
    | .java => "java"
    | .go => "go"
    | .rust => "rust"

inductive Language where
  | typescript | javascript | swift | kotlin | python | java | go | rust | dart
  deriving DecidableEq, Repr, Inhabited

instance : Labelled Language where
  all := [.typescript, .javascript, .swift, .kotlin, .python, .java, .go, .rust, .dart]
  label
    | .typescript => "typescript"
    | .javascript => "javascript"
    | .swift => "swift"
    | .kotlin => "kotlin"
    | .python => "python"
    | .java => "java"
    | .go => "go"
    | .rust => "rust"
    | .dart => "dart"

inductive Maturity where
  | experimental | beta | stable | mature
  deriving DecidableEq, Repr, Inhabited

instance : Labelled Maturity where
  all := [.experimental, .beta, .stable, .mature]
  label
    | .experimental => "experimental"
    | .beta => "beta"
    | .stable => "stable"
    | .mature => "mature"

inductive OptimizationCategory where
  | performance | memory | size | battery
  deriving DecidableEq, Repr, Inhabited

instance : Labelled OptimizationCategory where
  all := [.performance, .memory, .size, .battery]
  label
    | .performance => "performance"
    | .memory => "memory"
    | .size => "size"
    | .battery => "battery"

inductive Impact where
  | low | medium | high | critical
  deriving DecidableEq, Repr, Inhabited

instance : Labelled Impact where
  all := [.low, .medium, .high, .critical]
  label
    | .low => "low"
    | .medium => "medium"
    | .high => "high"
    | .critical => "critical"

/-- The part of a measure that an optimization of that impact takes away. -/
def Impact.factor : Impact → Float
  | .low => 0.05
  | .medium => 0.10
  | .high => 0.20
  | .critical => 0.30

/-- Compilation time in milliseconds, size in bytes, a score of speed, memory in megabytes and time
to start in milliseconds. -/
structure Performance where
  compilationTime : Number
  outputSize : Number
  executionSpeed : Number
  memoryUsage : Number
  startupTime : Number
  deriving Inhabited

def Performance.toJson (performance : Performance) : Json := .object [
  ("compilation_time", .ofNumber performance.compilationTime),
  ("output_size", .ofNumber performance.outputSize),
  ("execution_speed", .ofNumber performance.executionSpeed),
  ("memory_usage", .ofNumber performance.memoryUsage),
  ("startup_time", .ofNumber performance.startupTime)]

structure Feature where
  id : String
  name : String
  implementation : String
  capabilities : List String
  deriving DecidableEq, Repr, Inhabited

structure Optimization where
  id : String
  name : String
  category : OptimizationCategory
  impact : Impact
  technique : String
  deriving DecidableEq, Repr, Inhabited

structure Target where
  id : String
  name : String
  platform : Platform
  framework : Framework
  language : Language
  maturity : Maturity
  baseline : Performance
  features : List Feature := []
  optimizations : List Optimization := []
  deriving Inhabited

namespace Target

def capabilities (target : Target) : List String :=
  target.features.flatMap (·.capabilities)

def hasUserInterface (target : Target) : Bool :=
  match target.platform with
  | .web | .mobile | .desktop => true
  | .backend | .embedded => false

def describe (target : Target) : Json := .object [
  ("id", .text target.id),
  ("name", .text target.name),
  ("platform", .text (label target.platform)),
  ("framework", .text (label target.framework)),
  ("language", .text (label target.language)),
  ("maturity", .text (label target.maturity)),
  ("capabilities", .texts (target.capabilities.eraseDups.mergeSort fun a b => a ≤ b)),
  ("features", .texts (target.features.map (·.id))),
  ("optimizations", .list (target.optimizations.map fun optimization => .object [
    ("id", .text optimization.id),
    ("category", .text (label optimization.category)),
    ("impact", .text (label optimization.impact)),
    ("technique", .text optimization.technique)])),
  ("baseline", target.baseline.toJson)]

end Target

end Prism
