import Prism.Target.Basic

namespace Prism.Catalog

def webReact : Target where
  id := "web-react"
  name := "React Web Application"
  platform := .web
  framework := .react
  language := .typescript
  maturity := .mature
  baseline := ⟨1200, 2500000, 95, 50, 800⟩
  features := [
    ⟨"react-components", "Component-Based Architecture",
      "Functional components with hooks",
      ["components", "routing"]⟩,
    ⟨"react-state", "State Management",
      "React Context and useReducer",
      ["state", "async", "security"]⟩]
  optimizations := [
    ⟨"react-memo", "Component Memoization", .performance, .medium,
      "React.memo and useMemo hooks"⟩,
    ⟨"react-lazy", "Lazy Loading", .performance, .high,
      "React.lazy and Suspense"⟩,
    ⟨"react-tree-shaking", "Tree Shaking", .size, .medium,
      "ES module tree shaking and code splitting"⟩]

def webVue : Target where
  id := "web-vue"
  name := "Vue.js Web Application"
  platform := .web
  framework := .vue
  language := .typescript
  maturity := .stable
  baseline := ⟨1000, 2200000, 90, 45, 700⟩
  features := [
    ⟨"vue-components", "Vue Components",
      "Composition API with reactive state",
      ["components", "routing"]⟩,
    ⟨"vue-reactivity", "Reactivity System",
      "ref, reactive, computed",
      ["state", "async", "security"]⟩]
  optimizations := [
    ⟨"vue-computed", "Computed Properties", .performance, .medium,
      "Computed properties with caching"⟩,
    ⟨"vue-async", "Async Components", .performance, .high,
      "defineAsyncComponent"⟩,
    ⟨"vue-tree-shaking", "Tree Shaking", .size, .medium,
      "Vite production build with tree shaking"⟩]

def webAngular : Target where
  id := "web-angular"
  name := "Angular Web Application"
  platform := .web
  framework := .angular
  language := .typescript
  maturity := .mature
  baseline := ⟨1800, 3200000, 85, 65, 1200⟩
  features := [
    ⟨"angular-components", "Angular Components",
      "Components with DI and services",
      ["components", "routing", "security"]⟩,
    ⟨"angular-rxjs", "RxJS Integration",
      "Observables and operators",
      ["state", "async"]⟩]
  optimizations := [
    ⟨"angular-change-detection", "Change Detection", .performance, .high,
      "OnPush change detection"⟩,
    ⟨"angular-lazy", "Lazy Loading", .performance, .high,
      "RouterModule lazy loading"⟩,
    ⟨"angular-aot", "Ahead-of-Time Compilation", .size, .high,
      "AOT compilation with build optimizer"⟩]

def mobileIosSwift : Target where
  id := "mobile-ios-swift"
  name := "iOS Swift Application"
  platform := .mobile
  framework := .iosSwift
  language := .swift
  maturity := .mature
  baseline := ⟨2500, 15000000, 98, 80, 500⟩
  features := [
    ⟨"ios-swiftui", "SwiftUI Interface",
      "SwiftUI views and modifiers",
      ["components", "routing"]⟩,
    ⟨"ios-combine", "Combine Framework",
      "Publishers and subscribers",
      ["state", "async", "security"]⟩]
  optimizations := [
    ⟨"ios-swift-performance", "Swift Performance", .performance, .high,
      "Whole module optimization"⟩,
    ⟨"ios-memory", "Memory Management", .memory, .high,
      "Automatic Reference Counting"⟩,
    ⟨"ios-background", "Background Scheduling", .battery, .medium,
      "BGTaskScheduler deferred work"⟩]

def mobileAndroidKotlin : Target where
  id := "mobile-android-kotlin"
  name := "Android Kotlin Application"
  platform := .mobile
  framework := .androidKotlin
  language := .kotlin
  maturity := .mature
  baseline := ⟨2200, 12000000, 96, 75, 600⟩
  features := [
    ⟨"android-jetpack", "Jetpack Compose",
      "Compose functions and modifiers",
      ["components", "routing"]⟩,
    ⟨"android-coroutines", "Kotlin Coroutines",
      "Coroutines and flow",
      ["state", "async", "security"]⟩]
  optimizations := [
    ⟨"android-compose", "Compose Performance", .performance, .high,
      "Remember and derivedState"⟩,
    ⟨"android-memory", "Memory Optimization", .memory, .high,
      "Memory leaks detection"⟩,
    ⟨"android-work-batching", "Work Batching", .battery, .medium,
      "WorkManager constraints and batching"⟩]

def backendNodejs : Target where
  id := "backend-nodejs"
  name := "Node.js Backend"
  platform := .backend
  framework := .nodejs
  language := .typescript
  maturity := .mature
  baseline := ⟨800, 800000, 88, 120, 300⟩
  features := [
    ⟨"nodejs-async", "Asynchronous I/O",
      "Async/await and promises",
      ["async", "security"]⟩,
    ⟨"nodejs-modules", "Module System",
      "Import/export system",
      ["components", "routing"]⟩]
  optimizations := [
    ⟨"nodejs-cluster", "Cluster Mode", .performance, .high,
      "Node.js cluster module"⟩,
    ⟨"nodejs-cache", "Caching", .performance, .medium,
      "Redis or memory cache"⟩]

def backendPython : Target where
  id := "backend-python"
  name := "Python Backend"
  platform := .backend
  framework := .python
  language := .python
  maturity := .stable
  baseline := ⟨500, 600000, 82, 100, 400⟩
  features := [
    ⟨"python-asyncio", "Asyncio Support",
      "Async/await syntax",
      ["async"]⟩,
    ⟨"python-frameworks", "Web Frameworks",
      "Framework-specific code generation",
      ["components", "routing", "security"]⟩]
  optimizations := [
    ⟨"python-cython", "Cython Optimization", .performance, .medium,
      "Cython compilation"⟩,
    ⟨"python-gunicorn", "Gunicorn Workers", .performance, .high,
      "Gunicorn with worker class"⟩]

def backendJava : Target where
  id := "backend-java"
  name := "Java Spring Backend"
  platform := .backend
  framework := .java
  language := .java
  maturity := .mature
  baseline := ⟨3000, 2000000, 92, 150, 1000⟩
  features := [
    ⟨"java-spring", "Spring Framework",
      "Spring Boot auto-configuration",
      ["components", "routing", "security"]⟩,
    ⟨"java-jvm", "JVM Optimization",
      "JIT compilation and GC",
      ["async", "concurrency"]⟩]
  optimizations := [
    ⟨"java-jit", "JIT Compilation", .performance, .high,
      "JVM JIT compiler"⟩,
    ⟨"java-gc", "Garbage Collection", .memory, .high,
      "G1 garbage collector"⟩]

def targets : List Target := [
  webReact, webVue, webAngular, mobileIosSwift,
  mobileAndroidKotlin, backendNodejs, backendPython, backendJava]

end Prism.Catalog
