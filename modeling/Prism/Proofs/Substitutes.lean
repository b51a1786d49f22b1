import Prism.Proofs.Availability
import Prism.Proofs.Variations

namespace Prism

/-- Whether artifacts of a kind are printed with the template of the default set in place of another. -/
def TemplateSource.substitutes (source : TemplateSource) (framework : Framework) (kind : ArtifactKind) : Bool :=
  framework.ownSet?.isNone || source.load (framework.templateSet.templateName kind) = .absent

/-- The set whose template serves a kind. -/
def TemplateSource.servingSet (source : TemplateSource) (framework : Framework) (kind : ArtifactKind) : TemplateSet :=
  if source.substitutes framework kind then .default else framework.templateSet

/-- The text is what the template of a kind in a set prints for some element. -/
def TemplateSource.Prints (source : TemplateSource) (set : TemplateSet) (kind : ArtifactKind) (text : String) : Prop :=
  ∃ (α : Type) (_ : Printable α) (pick : ArtifactTemplates → Bundled α) (context : α) (found : Found),
    ArtifactTemplates.Picks kind pick ∧ source.find (set.templateName kind) = .ok (some found) ∧
    source.printFound (pick set.templates) context found = .ok text

/-- The artifact was printed with the template that serves its kind, and names it. -/
structure Artifact.IsServed (source : TemplateSource) (framework : Framework) (file : Artifact) : Prop where
  template : file.template = (source.servingSet framework file.kind).templateName file.kind
  content : source.Prints (source.servingSet framework file.kind) file.kind file.content

/-- Whether a variation tells of a template that is missing. -/
def Variation.tellsTemplate (variation : Variation) : Bool :=
  (label ErrorKind.templateMissing).toList.isPrefixOf variation.description.toList

/-- What a result tells of templates that are missing. -/
structure GenerationResult.TellsTemplates (source : TemplateSource) (spec : Specification) (target : Target)
    (result : GenerationResult) : Prop where
  files : ∀ file ∈ result.output.files, file.IsServed source target.framework
  distinct : ((result.variations.filter (·.tellsTemplate)).map (·.element)).Nodup
  mem_iff : ∀ kind : ArtifactKind, label kind ∈ (result.variations.filter (·.tellsTemplate)).map (·.element) ↔
    (∃ file ∈ result.output.files, file.kind = kind) ∧ source.substitutes target.framework kind = true
  each : ∀ variation ∈ result.variations, variation.tellsTemplate = true → variation.impact = .low ∧
    variation.dimension ∈ target.dimensions ∧ ∃ kind : ArtifactKind, variation.subject = "template:" ++ label kind ∧
      variation.element = label kind ∧ variation.actual = TemplateSet.default.templateName kind
  first : result.variations = result.variations.filter (·.tellsTemplate) ++
    (Comparison.compare target.id (spec.declared target) (result.output.files.flatMap (·.contracts))).variations

namespace Generator

variable {source : TemplateSource} {spec : Specification} {target : Target} {rendered : List Rendered}

/-- What holds of whatever is printed holds of all that is printed. -/
theorem forall_renderAll {holds : Rendered → Prop}
    (each : ∀ {α : Type} [Printable α] {kind : ArtifactKind} {pick : ArtifactTemplates → Bundled α}
      {name subject : String} {context : α} {contracts : List Contract} {item : Rendered},
      ArtifactTemplates.Picks kind pick →
      render source target kind pick name subject context contracts = .ok item → holds item)
    (printed : renderAll source spec target = .ok rendered) : ∀ item ∈ rendered, holds item := by
  obtain ⟨entities, first, printed⟩ := exists_of_bind_eq_ok printed
  obtain ⟨flows, second, printed⟩ := exists_of_bind_eq_ok printed
  obtain ⟨components, third, printed⟩ := exists_of_bind_eq_ok printed
  obtain ⟨policy, fourth, printed⟩ := exists_of_bind_eq_ok printed
  obtain rfl := Except.ok.inj printed
  simp only [List.forall_mem_append]
  refine ⟨⟨⟨?_, ?_⟩, ?_⟩, ?_⟩
  · intro item member
    obtain ⟨pair, inside, member⟩ := List.mem_flatten.mp member
    obtain ⟨entity, _, here⟩ := exists_of_mem_mapM_ok first inside
    obtain ⟨component, one, here⟩ := exists_of_bind_eq_ok here
    obtain ⟨model, other, here⟩ := exists_of_bind_eq_ok here
    obtain rfl := Except.ok.inj here
    rcases List.mem_cons.mp member with rfl | member
    · exact each .component one
    · exact List.mem_singleton.mp member ▸ each .model other
  · intro item member
    obtain ⟨flow, _, here⟩ := exists_of_mem_mapM_ok second member
    exact each .page here
  · intro item member
    obtain ⟨component, _, here⟩ := exists_of_mem_mapM_ok third member
    exact each .service here
  · intro item member
    rw [renderPolicy] at fourth
    split at fourth
    · exact absurd (Except.ok.inj fourth ▸ member) List.not_mem_nil
    · obtain ⟨only, here, fourth⟩ := exists_of_bind_eq_ok fourth
      obtain rfl := Except.ok.inj fourth
      exact List.mem_singleton.mp member ▸ each .repository here

theorem absent_iff_of_find {name : String} {own : Option Found} (found : source.find name = .ok own) :
    source.load name = .absent ↔ own = none := by
  cases load : source.load name <;>
    simp only [TemplateSource.find, load, Except.ok.injEq, reduceCtorEq] at found <;> simp [← found]

theorem resolve_spec {set : TemplateSet} {kind : ArtifactKind} {resolved : Resolved}
    (found : source.resolve set kind = .ok resolved) :
    resolved.fellBack = decide (source.load (set.templateName kind) = .absent) ∧
      resolved.set = (if resolved.fellBack then .default else set) ∧
      source.find (resolved.set.templateName kind) = .ok (some resolved.found) := by
  obtain ⟨own, first, found⟩ := exists_of_bind_eq_ok found
  cases own with
  | some own =>
    obtain rfl := Except.ok.inj found
    exact ⟨by simp [absent_iff_of_find first], rfl, first⟩
  | none =>
    obtain ⟨other, second, found⟩ := exists_of_bind_eq_ok found
    cases other with
    | some other =>
      obtain rfl := Except.ok.inj found
      exact ⟨by simp [absent_iff_of_find first], rfl, second⟩
    | none => exact absurd found (by simp [throw, throwThe, MonadExceptOf.throw])

theorem isServed_of_render {α : Type} [Printable α] {kind : ArtifactKind} {pick : ArtifactTemplates → Bundled α}
    {name subject : String} {context : α} {contracts : List Contract} {item : Rendered}
    (picks : ArtifactTemplates.Picks kind pick)
    (printed : render source target kind pick name subject context contracts = .ok item) :
    item.substituted = source.substitutes target.framework item.artifact.kind ∧
      item.artifact.IsServed source target.framework := by
  obtain ⟨resolved, found, printed⟩ := exists_of_bind_eq_ok printed
  obtain ⟨content, shown, printed⟩ := exists_of_bind_eq_ok printed
  obtain rfl := Except.ok.inj printed
  obtain ⟨fell, set, here⟩ := resolve_spec found
  have serving : resolved.set = source.servingSet target.framework kind := by
    rw [TemplateSource.servingSet, TemplateSource.substitutes, ← fell, set]
    cases own : target.framework.ownSet? with
    | none => simp [Framework.templateSet, own, TemplateSet.default]
    | some other => simp
  refine ⟨by rw [TemplateSource.substitutes, ← fell, Bool.or_comm], ?_, ?_⟩
  · simp only [serving]
  · exact ⟨α, inferInstance, pick, context, resolved.found, picks, serving ▸ here, serving ▸ shown⟩

/-- What is told of a kind that the default set serves in place of another. -/
def told (target : Target) (kind : ArtifactKind) : Variation :=
  substitution target { (default : Artifact) with kind, template := TemplateSet.default.templateName kind }

theorem nodup_eraseDups {α : Type} [DecidableEq α] (items : List α) : items.eraseDups.Nodup := by
  induction count : items.length using Nat.strong_induction_on generalizing items with
  | _ count ih =>
    cases items with
    | nil => exact List.nodup_nil
    | cons item items =>
      rw [List.eraseDups_cons, List.nodup_cons]
      have fewer := List.length_filter_le (fun other => !other == item) items
      exact ⟨by simp [List.mem_eraseDups], ih _ (by simp only [List.length_cons] at count; omega) _ rfl⟩

theorem label_kind_injective : Function.Injective (label : ArtifactKind → String) := by
  intro kind other
  cases kind <;> cases other <;> decide

theorem mem_substitutions_iff (printed : renderAll source spec target = .ok rendered) {variation : Variation} :
    variation ∈ substitutions target rendered ↔ ∃ kind, variation = told target kind ∧
      (∃ file ∈ rendered.map (·.artifact), file.kind = kind) ∧ source.substitutes target.framework kind = true := by
  have served := forall_renderAll isServed_of_render printed
  have named : ∀ item ∈ rendered, item.substituted = true →
      substitution target item.artifact = told target item.artifact.kind := by
    intro item member chosen
    obtain ⟨same, template, _⟩ := served item member
    rw [TemplateSource.servingSet, ← same, if_pos chosen] at template
    rw [told, substitution, substitution, template]
  simp only [substitutions, List.mem_eraseDups, List.mem_map, List.mem_filter]
  constructor
  · rintro ⟨item, ⟨member, chosen⟩, rfl⟩
    exact ⟨_, named item member chosen, ⟨_, ⟨item, member, rfl⟩, rfl⟩, (served item member).1 ▸ chosen⟩
  · rintro ⟨_, rfl, ⟨_, ⟨item, member, rfl⟩, rfl⟩, chosen⟩
    rw [← (served item member).1] at chosen
    exact ⟨item, ⟨member, chosen⟩, named item member chosen⟩

theorem tellsTemplate_told (target : Target) (kind : ArtifactKind) : (told target kind).tellsTemplate = true := by
  rw [Variation.tellsTemplate, List.isPrefixOf_iff_prefix]
  simp only [told, substitution, String.toList_append, List.append_assoc]
  exact List.prefix_append ..

theorem dimension_mem (target : Target) (kind : ArtifactKind) : kind.dimension target ∈ target.dimensions := by
  have listed : ∀ dimension, dimension ∈ Dimension.all := by intro dimension; cases dimension <;> decide
  rw [Target.dimensions, List.mem_filter, Target.applies]
  refine ⟨listed _, ?_⟩
  cases kind with
  | component => cases shown : target.hasUserInterface <;> simp [ArtifactKind.dimension, shown]
  | model | repository | page | service => simp [ArtifactKind.dimension]

/-- What is told of an element of a contract. -/
def contractNotes : List String :=
  ["element missing from emitted contract", "element renamed", "type family differs", "required flag differs",
    "shape differs"]

theorem description_mem {targetId : String} {dimension : Dimension} {subject : String} {expected : ContractElement}
    {contract : Contract} {variation : Variation}
    (member : variation ∈ Comparison.elementVariations targetId dimension subject expected contract) :
    variation.description ∈ contractNotes := by
  simp only [Comparison.elementVariations] at member
  cases found : Comparison.counterpart? contract expected.name with
  | none =>
    rw [found, List.mem_singleton] at member
    simp [member, contractNotes]
  | some actual =>
    simp only [found, List.mem_append] at member
    rcases member with ((member | member) | member) | member
    all_goals
      repeat' split at member
      all_goals first
        | exact absurd member List.not_mem_nil
        | simp [List.mem_singleton.mp member, contractNotes]

theorem not_tellsTemplate {targetId : String} {declared : Dimension → Option (List Contract)}
    {emitted : List Contract} {variation : Variation}
    (member : variation ∈ (Comparison.compare targetId declared emitted).variations) :
    variation.tellsTemplate = false := by
  obtain ⟨_, _, _, _, _, _, _, _, _, member⟩ := Comparison.mem_variations_iff.mp member
  have others : ∀ note ∈ contractNotes, (label ErrorKind.templateMissing).toList.isPrefixOf note.toList = false := by
    decide
  exact others _ (description_mem member)

/-- The templates that are missing are told once for each kind, before all contracts. -/
theorem tellsTemplates_of_renderAll (printed : renderAll source spec target = .ok rendered) {result : GenerationResult}
    (assembled : IsAssembled spec target rendered result) : result.TellsTemplates source spec target := by
  have served := forall_renderAll isServed_of_render printed
  have variations : result.variations = substitutions target rendered ++
      (Comparison.compare target.id (spec.declared target) (result.output.files.flatMap (·.contracts))).variations := by
    rw [assembled.files, assembled.variations]
  have told : result.variations.filter (·.tellsTemplate) = substitutions target rendered := by
    rw [variations, List.filter_append, List.filter_eq_self.mpr, List.filter_eq_nil_iff.mpr, List.append_nil]
    · exact fun variation member => by simp [not_tellsTemplate member]
    · intro variation member
      obtain ⟨kind, rfl, -⟩ := (mem_substitutions_iff printed).mp member
      exact tellsTemplate_told target kind
  constructor
  case files =>
    rw [assembled.files, List.forall_mem_map]
    exact fun item member => (served item member).2
  case distinct =>
    rw [told]
    refine List.Nodup.map_on (fun one here other there same => ?_) (nodup_eraseDups _)
    obtain ⟨kind, rfl, -⟩ := (mem_substitutions_iff printed).mp here
    obtain ⟨kindToo, rfl, -⟩ := (mem_substitutions_iff printed).mp there
    exact congrArg (Generator.told target) (label_kind_injective same)
  case mem_iff =>
    intro kind
    rw [told, List.mem_map, assembled.files]
    constructor
    · rintro ⟨variation, member, same⟩
      obtain ⟨kindToo, rfl, holds⟩ := (mem_substitutions_iff printed).mp member
      exact label_kind_injective same ▸ holds
    · intro holds
      exact ⟨_, (mem_substitutions_iff printed).mpr ⟨kind, rfl, holds⟩, rfl⟩
  case each =>
    intro variation member tells
    obtain ⟨kind, rfl, -⟩ := (mem_substitutions_iff printed).mp (told ▸ List.mem_filter.mpr ⟨member, tells⟩)
    exact ⟨rfl, dimension_mem target kind, kind, rfl, rfl, rfl⟩
  case first => rw [told, ← variations]

theorem tellsTemplates_failed (error : GenerationError) (fingerprint : String) (attempts : ℕ) :
    (GenerationResult.failed spec target error fingerprint attempts).TellsTemplates source spec target := by
  have none : (Comparison.compare target.id (spec.declared target) []).variations = [] := by
    refine List.eq_nil_iff_forall_not_mem.mpr fun variation member => ?_
    obtain ⟨_, _, _, _, _, _, found, _⟩ := Comparison.mem_variations_iff.mp member
    exact absurd found (by simp [Comparison.emittedFor?])
  refine ⟨fun _ member => absurd member List.not_mem_nil, List.nodup_nil,
    fun _ => iff_of_false List.not_mem_nil ?_, fun _ member => absurd member List.not_mem_nil, none.symm⟩
  rintro ⟨⟨_, member, _⟩, _⟩
  exact List.not_mem_nil member

/-- Whatever templates a source lacks, a result tells them once for each kind of artifact that the default set serves
in place of another. -/
theorem generate_tells_templates {source : TemplateSource} {spec : Specification} {target : Target}
    {result : GenerationResult} (generated : generate source spec target = .ok result) :
    result.TellsTemplates source spec target := by
  rcases generate_cases generated with rfl | ⟨rendered, printed, assembled⟩
  · exact tellsTemplates_failed ..
  · exact tellsTemplates_of_renderAll printed assembled

/-- A target whose framework has no templates of its own. -/
def webSvelte : Target := { Catalog.webReact with id := "web-svelte", framework := .svelte }

theorem generate_tells_templates_webSvelte : ∃ result, generate .builtin singleEntity webSvelte = .ok result ∧
    result.TellsTemplates .builtin singleEntity webSvelte ∧
    "model" ∈ (result.variations.filter (·.tellsTemplate)).map (·.element) := by
  obtain ⟨result, generated, whole⟩ := @exists_generate singleEntity webSvelte (by decide) (by decide +kernel)
  have tells := generate_tells_templates generated
  have inside : modelArtifact singleEntity webSvelte { id := "order", name := "Order" } ∈ result.output.files := by
    rw [whole.files]
    exact List.mem_of_getElem? (i := 1) rfl
  exact ⟨result, generated, tells, (tells.mem_iff .model).mpr ⟨⟨_, inside, rfl⟩, rfl⟩⟩

end Generator

end Prism
