import Prism.Proofs.Findings
import Prism.Proofs.Traces

namespace Prism

namespace Template

/-- A template with a part that prints a text for every rule. -/
def PrintsForRules (text : RuleView → String) (template : Template PolicyContext) : Prop :=
  ∃ (place inner : Nat) (body : Template (PolicyContext × RuleView)),
    template.items[place]? = some (.each (·.rules) body) ∧ body.items[inner]? = some (.hole fun (_, rule) => text rule)

theorem PrintsForRules.within {text : RuleView → String} {template : Template PolicyContext}
    (prints : template.PrintsForRules text) (context : PolicyContext) {rule : RuleView}
    (member : rule ∈ context.rules) : (text rule).toList <:+: (template.render context).toList := by
  obtain ⟨place, inner, body, atPlace, atInner⟩ := prints
  have inBody : body.Shows (text rule) (context, rule) := .of_mem_items (List.mem_of_getElem? atInner) (.hole rfl)
  have shown : template.Shows (text rule) context := .of_mem_items (List.mem_of_getElem? atPlace) (.each member inBody)
  rw [render, String.toList_ofList]
  exact shown.isInfix

/-- A policy names every rule as it is, in code or in the comment above it. -/
theorem prints_repository_id (set : TemplateSet) :
    set.templates.repository.template.PrintsForRules (·.id) := by
  cases set with
  | react | vue | angular | nodejs => exact ⟨13, 1, _, rfl, rfl⟩
  | iosSwift => exact ⟨17, 1, _, rfl, rfl⟩
  | androidKotlin => exact ⟨11, 1, _, rfl, rfl⟩
  | python => exact ⟨10, 6, _, rfl, rfl⟩
  | java => exact ⟨18, 2, _, rfl, rfl⟩

/-- The keyword of a rule as the policy of a set prints it. -/
def keywordText (set : TemplateSet) (keyword : String) : String :=
  if set = .python then scriptLiteral keyword else keyword

theorem prints_repository_keyword (set : TemplateSet) :
    set.templates.repository.template.PrintsForRules (keywordText set ·.keyword) := by
  cases set with
  | react | vue | angular | nodejs => exact ⟨13, 3, _, rfl, rfl⟩
  | iosSwift => exact ⟨17, 3, _, rfl, rfl⟩
  | androidKotlin => exact ⟨11, 3, _, rfl, rfl⟩
  | python => exact ⟨10, 14, _, rfl, rfl⟩
  | java => exact ⟨18, 15, _, rfl, rfl⟩

theorem keyword_isInfix (set : TemplateSet) (enforcement : Enforcement) :
    enforcement.keyword.toList <:+: (keywordText set enforcement.keyword).toList := by
  rw [keywordText]
  split
  · rw [← Text.within_iff]
    cases enforcement <;> decide
  · exact List.infix_rfl

end Template

theorem Generator.within_policyArtifact {spec : Specification} {rule : ComplianceRule}
    (member : rule ∈ spec.compliance.rules) (target : Target) :
    Text.within rule.id (policyArtifact spec target).content = true ∧
      Text.within rule.implementation.keyword (policyArtifact spec target).content = true := by
  let context : PolicyContext :=
    ⟨traceMarker policySubject, spec.compliance.rules.map (RuleView.of (Convention.of target.language))⟩
  have content : (policyArtifact spec target).content =
      target.framework.templateSet.templates.repository.template.render context := rfl
  have viewed : RuleView.of (Convention.of target.language) rule ∈ context.rules := List.mem_map_of_mem member
  have id := (Template.prints_repository_id target.framework.templateSet).within context viewed
  have keyword := (Template.prints_repository_keyword target.framework.templateSet).within context viewed
  rw [Text.within_iff, Text.within_iff, content]
  exact ⟨id, (Template.keyword_isInfix _ rule.implementation).trans keyword⟩

/-- What a specification needs is what the artifacts of its elements make use of. -/
theorem Specification.exists_source_of_required {spec : Specification} {capability : String}
    (required : capability ∈ spec.requiredCapabilities) :
    ∃ source ∈ spec.sources, capability ∈ source.1.capabilities := by
  simp only [requiredCapabilities, List.mem_append, List.mem_ite_nil_left, List.mem_singleton,
    List.isEmpty_iff] at required
  simp only [sources, List.mem_append, or_and_right, exists_or]
  rcases required with ((⟨some, rfl⟩ | ⟨some, rfl⟩) | ⟨some, rfl⟩) | ⟨some, rfl⟩
  · obtain ⟨entity, member⟩ := List.exists_mem_of_ne_nil _ some
    exact Or.inl (Or.inl (Or.inl
      ⟨_, List.mem_flatMap_of_mem member (List.mem_cons_self ..), List.mem_singleton_self _⟩))
  · obtain ⟨flow, member⟩ := List.exists_mem_of_ne_nil _ some
    exact Or.inl (Or.inl (Or.inr ⟨_, List.mem_map_of_mem member, List.mem_singleton_self _⟩))
  · obtain ⟨component, member⟩ := List.exists_mem_of_ne_nil _ some
    exact Or.inl (Or.inr ⟨_, List.mem_map_of_mem member, List.mem_singleton_self _⟩)
  · rw [if_neg (by simpa using some)]
    exact Or.inr ⟨_, List.mem_singleton_self _, List.mem_singleton_self _⟩

theorem Generator.capabilities_artifacts {spec : Specification} {target : Target} :
    ∀ file ∈ artifacts spec target, file.capabilities = file.kind.capabilities := by
  intro file member
  simp only [artifacts, policyArtifacts, List.mem_append, List.mem_flatMap, List.mem_cons, List.not_mem_nil, or_false,
    List.mem_map, List.mem_ite_nil_left] at member
  rcases member with ((⟨_, _, rfl | rfl⟩ | ⟨_, _, rfl⟩) | ⟨_, _, rfl⟩) | ⟨_, rfl⟩ <;> rfl

/-- Some artifact makes use of every needed capability. -/
theorem Generator.exists_exercising {spec : Specification} {capability : String}
    (required : capability ∈ spec.requiredCapabilities) (target : Target) :
    ∃ file ∈ artifacts spec target, capability ∈ file.capabilities := by
  obtain ⟨source, listed, offered⟩ := Specification.exists_source_of_required required
  rw [← sources_artifacts spec target] at listed
  obtain ⟨file, member, rfl⟩ := List.mem_map.mp listed
  exact ⟨file, member, capabilities_artifacts file member ▸ offered⟩

/-- The built-in targets have a feature for every capability that can be needed. -/
theorem Catalog.exists_feature {target : Target} (member : target ∈ Catalog.targets) {spec : Specification}
    {capability : String} (required : capability ∈ spec.requiredCapabilities) :
    ∃ feature ∈ target.features, capability ∈ feature.capabilities := by
  have all : ∀ target ∈ Catalog.targets, ∀ capability ∈ ["components", "routing", "async", "security"],
      ∃ feature ∈ target.features, capability ∈ feature.capabilities := by decide
  refine all target member capability ?_
  simp only [Specification.requiredCapabilities, List.mem_append, List.mem_ite_nil_left, List.mem_singleton] at required
  simp only [List.mem_cons, List.not_mem_nil, or_false]
  tauto

/-- The entry for a capability names the feature of the target that provides it. -/
theorem Specification.mem_mapFeatures {spec : Specification} {target : Target} {files : List Artifact}
    {entry : MappedFeature} (member : entry ∈ spec.mapFeatures target files)
    (offers : ∀ capability ∈ spec.requiredCapabilities,
      ∃ feature ∈ target.features, capability ∈ feature.capabilities) :
    (∃ feature ∈ target.features, entry.featureId = some feature.id ∧ entry.capability ∈ feature.capabilities) ∧
      (entry.exercised = true ↔ ∃ file ∈ files, entry.capability ∈ file.capabilities) := by
  obtain ⟨capability, required, rfl⟩ := List.mem_map.mp member
  refine ⟨?_, by simp⟩
  obtain ⟨feature, found⟩ : ∃ feature, target.features.find? (·.capabilities.contains capability) = some feature := by
    rw [← Option.isSome_iff_exists, List.find?_isSome]
    simpa using offers capability required
  refine ⟨feature, List.mem_of_find?_eq_some found, by simp only [found, Option.map_some], ?_⟩
  simpa using List.find?_some found

namespace Inspection

variable {inspection : Inspection}

theorem passed_ruleDetail_iff {contents : List String} {rule : ComplianceRule} :
    (ruleDetail contents rule).passed = true ↔ ∃ content ∈ contents,
      Text.within rule.id content = true ∧ Text.within rule.implementation.keyword content = true := by
  rw [passed_ruleDetail, isEnforced, List.any_eq_true]
  simp only [Bool.and_eq_true]

theorem passed_security_iff : (inspection.security.outcome (label Axis.security)).passed = true ↔
    ∀ rule ∈ inspection.spec.compliance.rules, ∃ file ∈ inspection.result.output.files,
      Text.within rule.id file.content = true ∧ Text.within rule.implementation.keyword file.content = true := by
  rw [Findings.passed_outcome, security, List.forall_mem_map]
  simp only [passed_ruleDetail_iff, List.mem_map, exists_exists_and_eq_and]

theorem passed_platformCompliance_iff :
    (inspection.platformCompliance.outcome (label Axis.platformCompliance)).passed = true ↔
    ∀ capability ∈ inspection.spec.requiredCapabilities, capability ∈ inspection.target.capabilities ∧
      ∃ file ∈ inspection.result.output.files, capability ∈ file.capabilities := by
  rw [Findings.passed_outcome, platformCompliance, List.forall_mem_map]
  refine forall₂_congr fun capability _ => ?_
  rw [passed_capabilityDetail, capabilityProblems, ← List.mem_flatMap, ← List.contains_iff_mem,
    ← List.contains_iff_mem]
  cases inspection.target.capabilities.contains capability <;>
    cases (inspection.result.output.files.flatMap (·.capabilities)).contains capability <;>
    simp

end Inspection

/-- What is generated for a built-in target passes the checks of security and of compliance with the platform: a file
holds the id and the keyword of each rule, and each needed capability is one that a feature of the target provides and
that a file makes use of. -/
theorem Generator.generate_enforces_rules {spec : Specification} {target : Target} (valid : spec.structuralErrors = [])
    (builtin : target ∈ Catalog.targets) :
    ∃ result, generate .builtin spec target = .ok result ∧
      (∀ room tolerance, ∀ axis ∈ [Axis.security, Axis.platformCompliance],
        ∃ outcome, Inspection.check room ⟨spec, target, result, tolerance⟩ axis = .ok outcome ∧
          outcome.passed = true) ∧
      (∀ rule ∈ spec.compliance.rules, ∃ file ∈ result.output.files, Text.within rule.id file.content = true ∧
        Text.within rule.implementation.keyword file.content = true) ∧
      (∀ capability ∈ spec.requiredCapabilities, capability ∈ target.capabilities ∧
        ∃ file ∈ result.output.files, capability ∈ file.capabilities) ∧
      result.features.map (·.capability) = spec.requiredCapabilities ∧
      ∀ entry ∈ result.features, entry.exercised = true ∧
        ∃ feature ∈ target.features, entry.featureId = some feature.id ∧ entry.capability ∈ feature.capabilities := by
  obtain ⟨result, generates, generated⟩ := exists_generate valid (Catalog.isMeasured builtin)
  have rules : ∀ rule ∈ spec.compliance.rules, ∃ file ∈ result.output.files,
      Text.within rule.id file.content = true ∧ Text.within rule.implementation.keyword file.content = true := by
    intro rule member
    refine ⟨policyArtifact spec target, ?_, within_policyArtifact member target⟩
    have some : spec.compliance.rules.isEmpty = false := List.isEmpty_eq_false_iff.mpr (List.ne_nil_of_mem member)
    rw [generated.files, artifacts, policyArtifacts, some]
    exact List.mem_append_right _ (List.mem_singleton_self _)
  have capabilities : ∀ capability ∈ spec.requiredCapabilities, capability ∈ target.capabilities ∧
      ∃ file ∈ result.output.files, capability ∈ file.capabilities := by
    intro capability required
    rw [generated.files]
    exact ⟨List.mem_flatMap.mpr (Catalog.exists_feature builtin required), exists_exercising required target⟩
  refine ⟨result, generates, ?_, rules, capabilities, ?_, ?_⟩
  · simp only [List.forall_mem_cons, List.not_mem_nil, false_imp_iff, implies_true, and_true]
    exact fun room tolerance => ⟨⟨_, rfl, Inspection.passed_security_iff.mpr rules⟩,
      ⟨_, rfl, Inspection.passed_platformCompliance_iff.mpr capabilities⟩⟩
  · rw [generated.features, Specification.mapFeatures, List.map_map]
    exact List.map_id _
  · intro entry member
    rw [generated.features] at member
    obtain ⟨offered, exercised⟩ := Specification.mem_mapFeatures member fun _ => Catalog.exists_feature builtin
    refine ⟨exercised.mpr ?_, offered⟩
    obtain ⟨capability, required, rfl⟩ := List.mem_map.mp member
    exact exists_exercising required target

/-- A rule whose id has characters that literals escape. -/
def quotedRule : Specification where
  metadata := { name := "guarded" }
  compliance := { rules := [{ id := "it's <\"secret\">\n\\", name := "Secret", implementation := .accessControl }] }

theorem Generator.generate_enforces_quotedRule :
    quotedRule.structuralErrors = [] ∧ Catalog.backendPython ∈ Catalog.targets ∧
      ∃ result, generate .builtin quotedRule Catalog.backendPython = .ok result ∧
        (∃ file ∈ result.output.files, Text.within "it's <\"secret\">\n\\" file.content = true ∧
          Text.within "authorize" file.content = true) ∧
        result.features.map (·.capability) = ["security"] := by
  have valid : quotedRule.structuralErrors = [] := by decide
  have builtin : Catalog.backendPython ∈ Catalog.targets := by simp [Catalog.targets]
  obtain ⟨result, generates, _, rules, _, features, _⟩ := generate_enforces_rules valid builtin
  exact ⟨valid, builtin, result, generates, rules _ (List.mem_singleton_self _), features⟩

end Prism
