import Prism.Proofs.Generation

namespace Prism

/-- The kinds of artifacts that a specification needs, in the order of their printing. -/
def Specification.kinds (spec : Specification) : List ArtifactKind :=
  (if spec.entities.isEmpty then [] else [.component, .model]) ++ (if spec.flows.isEmpty then [] else [.page]) ++
    (if spec.architecture.components.isEmpty then [] else [.service]) ++
    if spec.compliance.rules.isEmpty then [] else [.repository]

/-- Where the template of a set only refers to that of the default set. -/
def TemplateSet.includesDefault : TemplateSet → ArtifactKind → Bool
  | .vue, .model | .vue, .service | .vue, .repository => true
  | .nodejs, .model | .nodejs, .service | .nodejs, .repository => true
  | .angular, .repository => true
  | _, _ => false

/-- A bundled template is its own, or refers to that of the default set. -/
def Bundled.Refers {α : Type} (set : TemplateSet) (kind : ArtifactKind) : Bundled α → Prop
  | .own _ => set.includesDefault kind = false
  | .included name _ => set.includesDefault kind = true ∧ name = TemplateSet.default.templateName kind

/-- The template of each kind in a set. -/
inductive ArtifactTemplates.Picks : {α : Type} → ArtifactKind → (ArtifactTemplates → Bundled α) → Prop
  | component : Picks .component (·.component)
  | model : Picks .model (·.model)
  | page : Picks .page (·.page)
  | service : Picks .service (·.service)
  | repository : Picks .repository (·.repository)

namespace TemplateSource

/-- A source that can load and print every text it has in the place of a template. -/
structure IsSound (source : TemplateSource) : Prop where
  loads : ∀ name error, source.load name ≠ .broken error
  prints : ∀ context text, ∃ printed, source.print context text = .ok printed

/-- Whether a template can be had under a name. -/
def has (source : TemplateSource) (name : String) : Bool :=
  match source.load name with
  | .bundled | .replaced _ => true
  | .absent | .unreadable _ | .broken _ => false

/-- Whether an artifact of a kind can be printed. A template that is absent is replaced by that of the default
set. -/
def serves (source : TemplateSource) (set : TemplateSet) (kind : ArtifactKind) : Bool :=
  match source.load (set.templateName kind) with
  | .replaced _ => true
  | .bundled => !set.includesDefault kind || source.has (TemplateSet.default.templateName kind)
  | .absent => source.has (TemplateSet.default.templateName kind)
  | .unreadable _ | .broken _ => false

/-- Whether the template of a kind is there but refers to one that is not. -/
def losesIncluded (source : TemplateSource) (set : TemplateSet) (kind : ArtifactKind) : Bool :=
  source.load (set.templateName kind) = .bundled && set.includesDefault kind &&
    !source.has (TemplateSet.default.templateName kind)

/-- A step that fails exactly when one of the kinds cannot be printed. The fault of the first one is transient
unless it loses what it refers to. -/
def Decides {β : Type} (source : TemplateSource) (set : TemplateSet) (kinds : List ArtifactKind)
    (step : Except TemplateFault β) : Prop :=
  match kinds.find? fun kind => !source.serves set kind with
  | none => ∃ value, step = .ok value
  | some kind => ∃ fault, step = .error fault ∧ fault.isTransient = !source.losesIncluded set kind

section Decides

variable {source : TemplateSource} {set : TemplateSet} {β γ : Type}

theorem decides_ok (value : β) : source.Decides set [] (.ok value) := ⟨value, rfl⟩

theorem decides_of_serves {kind : ArtifactKind} {step : Except TemplateFault β} (serves : source.serves set kind = true)
    (done : ∃ value, step = .ok value) : source.Decides set [kind] step := by
  rw [Decides, List.find?_cons_of_neg (by rw [serves]; decide), List.find?_nil]
  exact done

theorem decides_of_not_serves {kind : ArtifactKind} {step : Except TemplateFault β}
    (fails : source.serves set kind = false)
    (failed : ∃ fault, step = .error fault ∧ fault.isTransient = !source.losesIncluded set kind) :
    source.Decides set [kind] step := by
  rw [Decides, List.find?_cons_of_pos (by rw [fails]; rfl)]
  exact failed

theorem Decides.bind {kinds more : List ArtifactKind} {step : Except TemplateFault β}
    {next : β → Except TemplateFault γ} (first : source.Decides set kinds step)
    (later : ∀ value, source.Decides set more (next value)) : source.Decides set (kinds ++ more) (step >>= next) := by
  rw [Decides] at first ⊢
  rw [List.find?_append]
  cases failing : kinds.find? fun kind => !source.serves set kind with
  | none =>
    rw [failing] at first
    obtain ⟨value, rfl⟩ := first
    exact later value
  | some kind =>
    rw [failing] at first
    obtain ⟨fault, rfl, transient⟩ := first
    exact ⟨fault, rfl, transient⟩

theorem Decides.map {kinds : List ArtifactKind} {step : Except TemplateFault β} (first : source.Decides set kinds step)
    (f : β → γ) : source.Decides set kinds (step >>= fun value => pure (f value)) := by
  have done := first.bind fun value => decides_ok (f value)
  rwa [List.append_nil] at done

/-- Only which kinds fail first matters, not how often they are printed. -/
theorem Decides.again {kinds : List ArtifactKind} {step : Except TemplateFault β}
    (twice : source.Decides set (kinds ++ kinds) step) : source.Decides set kinds step := by
  rw [Decides, List.find?_append, Option.or_self] at twice
  exact twice

theorem decides_mapM {α : Type} {kinds : List ArtifactKind} {print : α → Except TemplateFault β}
    (each : ∀ item, source.Decides set kinds (print item)) (items : List α) :
    source.Decides set (if items.isEmpty then [] else kinds) (items.mapM print) := by
  induction items with
  | nil => exact decides_ok []
  | cons item items ih =>
    rw [List.mapM_cons]
    have all := (each item).bind fun value => ih.map fun values => value :: values
    by_cases last : items.isEmpty = true
    · rw [if_pos last, List.append_nil] at all
      exact all
    · rw [if_neg last] at all
      exact all.again

end Decides

theorem exists_printText {α : Type} [Printable α] {source : TemplateSource} (sound : source.IsSound) (context : α)
    (text : String) : ∃ printed, source.printText context text = .ok printed := by
  obtain ⟨printed, prints⟩ := sound.prints (Printable.context context) text
  exact ⟨printed, by rw [printText, prints]; rfl⟩

/-- What a source gives for a template that has no substitute. -/
theorem printNamed_cases {α : Type} [Printable α] {source : TemplateSource} (sound : source.IsSound) (name : String)
    (template : Template α) (context : α) :
    (∃ text, source.printNamed name template context = .ok text) ∨
      ∃ fault, source.printNamed name template context = .error fault ∧ fault.isTransient = true := by
  cases load : source.load name with
  | bundled =>
    have found : source.find name = .ok (some .bundled) := by rw [find, load]
    exact Or.inl ⟨template.render context, by rw [printNamed, found]; rfl⟩
  | replaced text =>
    have found : source.find name = .ok (some (.literal text)) := by rw [find, load]
    obtain ⟨printed, prints⟩ := exists_printText sound context text
    exact Or.inl ⟨printed, by rw [printNamed, found, ← prints]; rfl⟩
  | absent =>
    have found : source.find name = .ok none := by rw [find, load]
    exact Or.inr ⟨.unavailable name, by rw [printNamed, found]; rfl, rfl⟩
  | unreadable reason =>
    have found : source.find name = .error (.unreadable name reason) := by rw [find, load]
    exact Or.inr ⟨.unreadable name reason, by rw [printNamed, found]; rfl, rfl⟩
  | broken error => exact absurd load (sound.loads name error)

/-- A bundled template is printed unless it refers to one that cannot be had. -/
theorem printBundled_cases {α : Type} [Printable α] {source : TemplateSource} (sound : source.IsSound)
    {set : TemplateSet} {kind : ArtifactKind} {bundled : Bundled α} (refers : bundled.Refers set kind) (context : α) :
    if !set.includesDefault kind || source.has (TemplateSet.default.templateName kind) then
      ∃ text, source.printBundled context bundled = .ok text
    else ∃ fault, source.printBundled context bundled = .error fault ∧ fault.isTransient = false := by
  cases bundled with
  | own template =>
    have own : set.includesDefault kind = false := refers
    rw [own]
    exact ⟨_, rfl⟩
  | included name template =>
    obtain ⟨includes, rfl⟩ := refers
    rw [includes, has, printBundled]
    cases load : source.load (TemplateSet.default.templateName kind) with
    | bundled => exact ⟨_, rfl⟩
    | replaced text => exact exists_printText sound context text
    | absent => exact ⟨_, rfl, rfl⟩
    | unreadable reason => exact ⟨_, rfl, rfl⟩
    | broken error => exact absurd load (sound.loads _ error)

end TemplateSource

namespace Generator

variable {source : TemplateSource} {spec : Specification} {target : Target}

/-- The templates of every set refer to the default set as listed. -/
def AllRefer {α : Type} (kind : ArtifactKind) (pick : ArtifactTemplates → Bundled α) : Prop :=
  ∀ set : TemplateSet, (pick set.templates).Refers set kind

theorem allRefer {α : Type} {kind : ArtifactKind} {pick : ArtifactTemplates → Bundled α}
    (picks : ArtifactTemplates.Picks kind pick) : AllRefer kind pick := by
  intro set
  cases picks <;> cases set <;> first | exact rfl | exact ⟨rfl, rfl⟩

section Render

variable {α : Type} [Printable α] {kind : ArtifactKind} {pick : ArtifactTemplates → Bundled α}
  {name subject : String} {context : α} {contracts : List Contract} {resolved : Resolved}

theorem exists_render (resolves : source.resolve target.framework.templateSet kind = .ok resolved)
    (prints : ∃ text, source.printFound (pick resolved.set.templates) context resolved.found = .ok text) :
    ∃ rendered, render source target kind pick name subject context contracts = .ok rendered := by
  obtain ⟨text, prints⟩ := prints
  rw [render, resolves]
  change ∃ rendered, (source.printFound (pick resolved.set.templates) context resolved.found >>= _) = .ok rendered
  rw [prints]
  exact ⟨_, rfl⟩

theorem decides_render_of_resolve_error {fault : TemplateFault}
    (fails : source.resolve target.framework.templateSet kind = .error fault) (transient : fault.isTransient = true)
    (serves : source.serves target.framework.templateSet kind = false)
    (loses : source.losesIncluded target.framework.templateSet kind = false) :
    source.Decides target.framework.templateSet [kind]
      (render source target kind pick name subject context contracts) := by
  refine TemplateSource.decides_of_not_serves serves ⟨fault, ?_, by rw [transient, loses]; rfl⟩
  rw [render, fails]
  rfl

theorem render_of_print_error {fault : TemplateFault}
    (resolves : source.resolve target.framework.templateSet kind = .ok resolved)
    (fails : source.printFound (pick resolved.set.templates) context resolved.found = .error fault) :
    render source target kind pick name subject context contracts = .error fault := by
  rw [render, resolves]
  change (source.printFound (pick resolved.set.templates) context resolved.found >>= _) = .error fault
  rw [fails]
  rfl

theorem decides_render (sound : source.IsSound) (refer : AllRefer kind pick) :
    source.Decides target.framework.templateSet [kind]
      (render source target kind pick name subject context contracts) := by
  have resolves := TemplateSource.resolve.eq_1 source target.framework.templateSet kind
  have serves := TemplateSource.serves.eq_1 source target.framework.templateSet kind
  have loses := TemplateSource.losesIncluded.eq_1 source target.framework.templateSet kind
  simp only [TemplateSource.find] at resolves
  cases load : source.load (target.framework.templateSet.templateName kind) with
  | replaced text =>
    simp only [load] at resolves serves
    exact TemplateSource.decides_of_serves serves
      (exists_render resolves (TemplateSource.exists_printText sound context text))
  | bundled =>
    simp only [load] at resolves serves
    have loses : source.losesIncluded target.framework.templateSet kind =
        !source.serves target.framework.templateSet kind := by
      rw [serves, loses, load, Bool.not_or, Bool.not_not]
      rfl
    have printed := TemplateSource.printBundled_cases sound (refer target.framework.templateSet) context
    rw [← serves] at printed
    cases given : source.serves target.framework.templateSet kind with
    | true =>
      rw [if_pos given] at printed
      exact TemplateSource.decides_of_serves given (exists_render resolves printed)
    | false =>
      rw [if_neg (by rw [given]; decide)] at printed
      obtain ⟨fault, fails, final⟩ := printed
      refine TemplateSource.decides_of_not_serves given ⟨fault, render_of_print_error resolves fails, ?_⟩
      rw [final, loses, given]
      rfl
  | unreadable reason =>
    simp only [load] at resolves serves loses
    exact decides_render_of_resolve_error resolves rfl serves loses
  | absent =>
    simp only [load, TemplateSource.has] at resolves serves loses
    -- the default set stands in, and none of its templates refers to another
    have plain : TemplateSet.default.includesDefault kind = false := by cases kind <;> rfl
    cases second : source.load (TemplateSet.default.templateName kind) with
    | replaced text =>
      simp only [second] at resolves serves
      exact TemplateSource.decides_of_serves serves
        (exists_render resolves (TemplateSource.exists_printText sound context text))
    | bundled =>
      simp only [second] at resolves serves
      have printed := TemplateSource.printBundled_cases sound (refer .default) context
      rw [plain, Bool.not_false, Bool.true_or, if_pos rfl] at printed
      exact TemplateSource.decides_of_serves serves (exists_render resolves printed)
    | absent =>
      simp only [second] at resolves serves
      exact decides_render_of_resolve_error resolves rfl serves loses
    | unreadable reason =>
      simp only [second] at resolves serves
      exact decides_render_of_resolve_error resolves rfl serves loses
    | broken error => exact absurd second (sound.loads _ error)
  | broken error => exact absurd load (sound.loads _ error)

end Render

/-- All artifacts are printed, or the first kind that cannot be printed decides. -/
theorem decides_renderAll (sound : source.IsSound) :
    source.Decides target.framework.templateSet spec.kinds (renderAll source spec target) := by
  have entity (entity : Entity) :
      source.Decides target.framework.templateSet [.component, .model] (renderEntity source spec target entity) := by
    refine TemplateSource.Decides.bind (decides_render sound (allRefer .component)) fun component => ?_
    exact (decides_render sound (allRefer .model)).map fun model => [component, model]
  have policy : source.Decides target.framework.templateSet
      (if spec.compliance.rules.isEmpty then [] else [.repository]) (renderPolicy source spec target) := by
    rw [renderPolicy]
    by_cases none : spec.compliance.rules.isEmpty = true
    · rw [if_pos none, if_pos none]
      exact TemplateSource.decides_ok []
    · rw [if_neg none, if_neg none]
      exact (decides_render sound (allRefer .repository)).map fun policy => [policy]
  rw [Specification.kinds, List.append_assoc, List.append_assoc]
  refine (TemplateSource.decides_mapM entity spec.entities).bind fun entities => ?_
  refine (TemplateSource.decides_mapM (fun flow => decides_render sound (allRefer .page))
    spec.flows).bind fun flows => ?_
  refine (TemplateSource.decides_mapM (fun component => decides_render sound (allRefer .service))
    spec.architecture.components).bind fun components => ?_
  exact policy.map fun policy => entities.flatten ++ flows ++ components ++ policy

/-- A manifest has templates without substitutes only. -/
theorem build_cases (sound : source.IsSound) (spec : Specification) (framework : Framework) :
    (∃ manifest, Manifest.build source spec framework = .ok manifest) ∨
      ∃ fault, Manifest.build source spec framework = .error fault ∧ fault.isTransient = true := by
  have files : (∃ files, Manifest.configurationFiles source spec framework = .ok files) ∨
      ∃ fault, Manifest.configurationFiles source spec framework = .error fault ∧ fault.isTransient = true := by
    have printed {α : Type} [Printable α] (name : String) (template : Template α) (context : α)
        (next : String → List ConfigurationFile) :
        (∃ files, (source.printNamed name template context >>= fun text => pure (next text)) = .ok files) ∨
          ∃ fault, (source.printNamed name template context >>= fun text => pure (next text)) = .error fault ∧
            fault.isTransient = true := by
      rcases TemplateSource.printNamed_cases sound name template context with ⟨text, prints⟩ | ⟨fault, fails, transient⟩
      · exact Or.inl ⟨next text, by rw [prints]; rfl⟩
      · exact Or.inr ⟨fault, by rw [fails]; rfl, transient⟩
    cases framework with
    | iosSwift | androidKotlin | python | java => exact printed _ _ _ _
    | react | vue | angular | svelte | flutter | reactNative | electron | nodejs | go | rust =>
      exact Or.inl ⟨_, rfl⟩
  rw [Manifest.build]
  rcases files with ⟨files, printed⟩ | ⟨fault, fails, transient⟩
  · exact Or.inl ⟨_, by rw [printed]; rfl⟩
  · exact Or.inr ⟨fault, by rw [fails]; rfl, transient⟩

theorem exists_assemble (spec : Specification) (measured : target.isMeasured = true) (rendered : List Rendered)
    (manifest : Manifest) (readme : String) :
    ∃ result, assemble spec target rendered manifest readme = .ok result ∧ result.success = true := by
  obtain ⟨performance, estimated, _⟩ := target.exists_estimate measured (rendered.map (·.artifact)).length
    (OutputBundle.totalBytes { files := rendered.map (·.artifact) })
  have total (bundle : OutputBundle) (files : bundle.files = rendered.map (·.artifact)) :
      target.estimate (rendered.map (·.artifact)).length bundle.totalBytes = .ok performance := by
    rw [← estimated, OutputBundle.totalBytes, OutputBundle.totalBytes, files]
  simp only [assemble, total, bind, Except.bind]
  exact ⟨_, rfl, rfl⟩

/-- When all artifacts are printed, generation succeeds or lacks a template that can be tried again. -/
theorem generate_of_renderAll {rendered : List Rendered} (sound : source.IsSound) (valid : spec.structuralErrors = [])
    (measured : target.isMeasured = true) (printed : renderAll source spec target = .ok rendered) :
    (∃ result, generate source spec target = .ok result ∧ result.success = true) ∨
      ∃ fault, generate source spec target = .error (.template fault) ∧ fault.isTransient = true := by
  rw [generate, if_neg (by simp [valid]), printed]
  simp only [Except.mapError, bind, Except.bind]
  rcases build_cases sound spec target.framework with ⟨manifest, built⟩ | ⟨fault, fails, transient⟩
  · rw [built]
    simp only
    rcases TemplateSource.printNamed_cases sound "readme.md.j2" Template.readme
      { metadata := spec.metadata, target, artifacts := rendered.map (·.artifact),
        dependencies := manifest.dependencies, buildScripts := manifest.buildScripts }
      with ⟨readme, prints⟩ | ⟨fault, fails, transient⟩
    · obtain ⟨result, made, success⟩ := exists_assemble spec measured rendered manifest readme
      rw [prints]
      exact Or.inl ⟨result, by simp only [made], success⟩
    · rw [fails]
      exact Or.inr ⟨fault, rfl, transient⟩
  · rw [fails]
    exact Or.inr ⟨fault, rfl, transient⟩

/-- One entity, so that a component and a model are needed. -/
def singleEntity : Specification where
  metadata := { name := "shop" }
  entities := [{ id := "order", name := "Order" }]

/-- A source that can read all templates but one. -/
def lacking (name : String) (load : TemplateLoad) : TemplateSource where
  load other := if other = name then load else .bundled

theorem isSound_lacking (name reason : String) : (lacking name (.unreadable reason)).IsSound where
  loads other error := by
    by_cases same : other = name <;> simp [lacking, same]
  prints context text := ⟨_, rfl⟩

end Generator

end Prism
