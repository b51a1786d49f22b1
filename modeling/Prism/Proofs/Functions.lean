import Prism.Proofs.Paths
import Prism.Proofs.Template

namespace Prism

namespace Convention

/-- The words that the identifiers of a language tell. Camel case does not show where one number ends and the next
begins. -/
def words (convention : Convention) (text : String) : List (List Char) :=
  match convention.casing with
  | .camel => Words.fused (Words.splitChars text.toList)
  | .snake => Words.splitChars text.toList

variable {convention : Convention}

theorem identifier_eq_iff {a b : String} :
    convention.identifier a = convention.identifier b ↔ convention.words a = convention.words b := by
  cases casing : convention.casing with
  | camel =>
    simp only [words, casing]
    rw [Words.identifier_of_camel casing, Words.identifier_of_camel casing, Words.canonical_eq_iff]
  | snake =>
    simp only [words, casing]
    rw [← Words.key_eq_iff]
    exact @PathPart.render_eq_iff convention .identifier a b rfl fun _ => casing

/-- A word of letters that an underscore divides from a text stays the first word. -/
theorem words_append_underscore {word : String} (isWord : Words.IsWord word.toList)
    (letters : Words.isNumber word.toList = false) (text : String) :
    convention.words (word ++ "_" ++ text) = word.toList :: convention.words text := by
  rw [words, words, Words.splitChars_append_underscore isWord]
  cases convention.casing with
  | camel => exact Words.fused_cons_of_not_isNumber letters
  | snake => rfl

theorem stepHandler_eq_iff {a b : String} :
    convention.stepHandler a = convention.stepHandler b ↔ convention.words a = convention.words b := by
  have isWord : Words.IsWord "handle".toList := ⟨by decide, Or.inl (by simp)⟩
  have first (id : String) : convention.words ("handle_" ++ id) = "handle".toList :: convention.words id :=
    words_append_underscore isWord (by decide) id
  rw [stepHandler, stepHandler, identifier_eq_iff, first, first, List.cons.injEq, and_iff_right rfl]

end Convention

theorem Enforcement.isWord_keyword (implementation : Enforcement) :
    Words.IsWord implementation.keyword.toList ∧ Words.isNumber implementation.keyword.toList = false := by
  cases implementation <;> exact ⟨⟨by decide, Or.inl (by simp [keyword])⟩, by decide⟩

theorem Enforcement.keyword_inj {implementation other : Enforcement} :
    implementation.keyword = other.keyword ↔ implementation = other := by
  cases implementation <;> cases other <;> decide

theorem RuleView.function_eq_iff {convention : Convention} {rule other : ComplianceRule} :
    (RuleView.of convention rule).function = (RuleView.of convention other).function ↔
      rule.implementation = other.implementation ∧ convention.words rule.id = convention.words other.id := by
  obtain ⟨isWord, letters⟩ := rule.implementation.isWord_keyword
  obtain ⟨isOther, otherLetters⟩ := other.implementation.isWord_keyword
  refine Convention.identifier_eq_iff.trans ?_
  rw [Convention.words_append_underscore isWord letters, Convention.words_append_underscore isOther otherLetters,
    List.cons.injEq, String.toList_inj, Enforcement.keyword_inj]

/-- How a function is written: what stands in front of its name, and what comes behind it. -/
structure FunctionForm where
  opening : String
  signature : String

namespace FunctionForm

def text (form : FunctionForm) (name : String) : List Char :=
  form.opening.toList ++ name.toList ++ form.signature.toList

/-- The definitions of the names stand in a text one behind the other. -/
def Defines (form : FunctionForm) : List String → List Char → Prop
  | [], _ => True
  | name :: names, text => ∃ before after, text = before ++ form.text name ++ after ∧ form.Defines names after

variable {form : FunctionForm} {names others : List String} {text more : List Char}

theorem Defines.append_right (defines : form.Defines names text) : form.Defines names (text ++ more) := by
  induction names generalizing text with
  | nil => trivial
  | cons name names ih =>
    obtain ⟨before, after, rfl, later⟩ := defines
    exact ⟨before, after ++ more, by rw [List.append_assoc], ih later⟩

theorem Defines.append_left (defines : form.Defines names text) : form.Defines names (more ++ text) := by
  cases names with
  | nil => trivial
  | cons name names =>
    obtain ⟨before, after, rfl, later⟩ := defines
    exact ⟨more ++ before, after, by simp only [List.append_assoc], later⟩

theorem Defines.append (defines : form.Defines names text) (another : form.Defines others more) :
    form.Defines (names ++ others) (text ++ more) := by
  induction names generalizing text with
  | nil => exact another.append_left
  | cons name names ih =>
    obtain ⟨before, after, rfl, later⟩ := defines
    exact ⟨before, after ++ more, by rw [List.append_assoc], ih later⟩

theorem Defines.flatMap {α : Type} {items : List α} {name : α → String} {text : α → List Char}
    (each : ∀ item ∈ items, form.Defines [name item] (text item)) :
    form.Defines (items.map name) (items.flatMap text) := by
  induction items with
  | nil => trivial
  | cons item items ih =>
    obtain ⟨here, later⟩ := List.forall_mem_cons.mp each
    exact here.append (ih later)

end FunctionForm

/-- How the page of a set defines the handler of a step. -/
def TemplateSet.handlerForm : TemplateSet → FunctionForm
  | .react | .nodejs => ⟨"export async function ", "(context: StepContext): Promise<StepContext> \x7b\n"⟩
  | .vue => ⟨"async function ", "(context: StepContext): Promise<StepContext> \x7b\n"⟩
  | .angular => ⟨"  async ", "(context: StepContext): Promise<StepContext> \x7b\n"⟩
  | .iosSwift => ⟨"    func ", "(_ context: StepContext) async -> StepContext \x7b\n"⟩
  | .androidKotlin => ⟨"    suspend fun ", "(context: StepContext): StepContext \x7b\n"⟩
  | .python => ⟨"async def ", "(context: StepContext) -> StepContext:\n"⟩
  | .java => ⟨"    public Map<String, Object> ", "(Map<String, Object> context) \x7b\n"⟩

/-- How the policy of a set defines the function of a rule. -/
def TemplateSet.ruleForm : TemplateSet → FunctionForm
  | .react | .vue | .angular | .nodejs =>
    ⟨"export function ", "(record: Record<string, unknown>): Record<string, unknown> \x7b\n"⟩
  | .iosSwift => ⟨"    static func ", "(_ record: [String: String]) -> [String: String] \x7b\n"⟩
  | .androidKotlin => ⟨"    fun ", "(record: Map<String, String>): Map<String, String> =\n"⟩
  | .python => ⟨"def ", "(record: Dict[str, Any]) -> Dict[str, Any]:\n"⟩
  | .java => ⟨"    public static Map<String, Object> ", "(Map<String, Object> record) \x7b\n"⟩

namespace Template

/-- A template with a part that writes a function for every item. -/
def WritesFunctions {α β : Type} (form : FunctionForm) (items : α → List β) (name : β → String)
    (template : Template α) : Prop :=
  ∃ (place inner : Nat) (body : Template (α × β)) (rest : List (Template (α × β))),
    template.items[place]? = some (.each items body) ∧
    body.items.drop inner = .text form.opening :: .hole (fun pair => name pair.2) :: .text form.signature :: rest

/-- A part of a template defines what it defines wherever it stands. -/
theorem defines_of_mem_items {α : Type} {form : FunctionForm} {names : List String} {template part : Template α}
    {context : α} (member : part ∈ template.items) (defines : form.Defines names (part.renderChars context)) :
    form.Defines names (template.renderChars context) := by
  obtain ⟨before, after, parts⟩ := List.append_of_mem member
  rw [renderChars_eq_flatMap_items, parts, List.flatMap_append, List.flatMap_cons]
  exact defines.append_right.append_left

theorem WritesFunctions.defines {α β : Type} {form : FunctionForm} {items : α → List β} {name : β → String}
    {template : Template α} (writes : template.WritesFunctions form items name) (context : α) :
    form.Defines ((items context).map name) (template.render context).toList := by
  obtain ⟨place, inner, body, rest, atPlace, atInner⟩ := writes
  rw [render, String.toList_ofList]
  refine defines_of_mem_items (List.mem_of_getElem? atPlace) ?_
  rw [renderChars]
  refine FunctionForm.Defines.flatMap fun item _ => ?_
  rw [renderChars_eq_flatMap_items, ← List.take_append_drop inner body.items, atInner, List.flatMap_append]
  refine FunctionForm.Defines.append_left ⟨[], rest.flatMap (·.renderChars (context, item)), ?_, trivial⟩
  simp only [List.flatMap_cons, renderChars, FunctionForm.text, List.nil_append, List.append_assoc]

theorem writes_page (set : TemplateSet) :
    set.templates.page.template.WritesFunctions set.handlerForm (·.steps) (·.handler) := by
  cases set with
  | react => exact ⟨15, 7, _, _, rfl, rfl⟩
  | vue => exact ⟨12, 7, _, _, rfl, rfl⟩
  | angular => exact ⟨23, 7, _, _, rfl, rfl⟩
  | iosSwift => exact ⟨16, 7, _, _, rfl, rfl⟩
  | androidKotlin => exact ⟨19, 7, _, _, rfl, rfl⟩
  | nodejs => exact ⟨9, 7, _, _, rfl, rfl⟩
  | python => exact ⟨24, 2, _, _, rfl, rfl⟩
  | java => exact ⟨20, 8, _, _, rfl, rfl⟩

theorem writes_repository (set : TemplateSet) :
    set.templates.repository.template.WritesFunctions set.ruleForm (·.rules) (·.function) := by
  cases set with
  | react | vue | angular | nodejs => exact ⟨16, 6, _, _, rfl, rfl⟩
  | iosSwift => exact ⟨20, 6, _, _, rfl, rfl⟩
  | androidKotlin => exact ⟨14, 6, _, _, rfl, rfl⟩
  | python => exact ⟨10, 2, _, _, rfl, rfl⟩
  | java => exact ⟨18, 7, _, _, rfl, rfl⟩

end Template

namespace Specification

/-- In every flow a language can tell steps with different ids apart. -/
def TellsSteps (spec : Specification) (convention : Convention) : Prop :=
  ∀ flow ∈ spec.flows, ∀ step ∈ flow.steps, ∀ other ∈ flow.steps, step.id ≠ other.id →
    convention.words step.id ≠ convention.words other.id

/-- A language can tell rules with different ids apart that are enforced in the same way. -/
def TellsRules (spec : Specification) (convention : Convention) : Prop :=
  ∀ rule ∈ spec.compliance.rules, ∀ other ∈ spec.compliance.rules, rule.id ≠ other.id →
    rule.implementation = other.implementation → convention.words rule.id ≠ convention.words other.id

variable {spec : Specification} {convention : Convention}

theorem handlers_differ_iff :
    (∀ flow ∈ spec.flows, ∀ view ∈ StepView.all spec convention flow, ∀ other ∈ StepView.all spec convention flow,
      view.id ≠ other.id → view.handler ≠ other.handler) ↔ spec.TellsSteps convention := by
  simp only [StepView.all, List.forall_mem_map, StepView.of, ne_eq, Convention.stepHandler_eq_iff]
  rfl

theorem functions_differ_iff :
    (∀ view ∈ spec.compliance.rules.map (RuleView.of convention),
      ∀ other ∈ spec.compliance.rules.map (RuleView.of convention),
      view.id ≠ other.id → view.function ≠ other.function) ↔ spec.TellsRules convention := by
  simp only [List.forall_mem_map, ne_eq, RuleView.function_eq_iff, not_and]
  rfl

end Specification

namespace Generator

variable {spec : Specification} {target : Target}

/-- The page of a flow defines the handlers of its steps, and they differ where the language can tell the ids. -/
theorem defines_pageArtifact (spec : Specification) (target : Target) (flow : Flow) :
    let convention := Convention.of target.language
    let handlers := (StepView.all spec convention flow).map (·.handler)
    target.framework.templateSet.handlerForm.Defines handlers (pageArtifact spec target flow).content.toList ∧
      (handlers.Nodup ↔ (flow.steps.map fun step => convention.words step.id).Nodup) := by
  let context : PageContext :=
    ⟨traceMarker flow.subject, FlowView.of (Convention.of target.language) flow,
      StepView.all spec (Convention.of target.language) flow⟩
  refine ⟨(Template.writes_page target.framework.templateSet).defines context, ?_⟩
  simp only [StepView.all, List.Nodup, List.pairwise_map, StepView.of, ne_eq, Convention.stepHandler_eq_iff]

/-- The policy defines the functions of the rules. -/
theorem defines_policyArtifact (spec : Specification) (target : Target) :
    let convention := Convention.of target.language
    let functions := (spec.compliance.rules.map (RuleView.of convention)).map (·.function)
    target.framework.templateSet.ruleForm.Defines functions (policyArtifact spec target).content.toList ∧
      (functions.Nodup ↔
        (spec.compliance.rules.map fun rule => (rule.implementation, convention.words rule.id)).Nodup) := by
  let context : PolicyContext :=
    ⟨traceMarker policySubject, spec.compliance.rules.map (RuleView.of (Convention.of target.language))⟩
  refine ⟨(Template.writes_repository target.framework.templateSet).defines context, ?_⟩
  simp only [List.Nodup, List.pairwise_map, ne_eq, RuleView.function_eq_iff, Prod.mk.injEq]

/-- In every language steps and rules with different ids have different functions exactly when the language can tell
the ids. The pages and the policy of a built-in target define these functions and no two of the same name exactly
when it can tell all elements. -/
theorem generate_functions_iff (valid : spec.structuralErrors = []) :
    (∀ language,
      let convention := Convention.of language
      ((∀ flow ∈ spec.flows, ∀ view ∈ StepView.all spec convention flow,
        ∀ other ∈ StepView.all spec convention flow, view.id ≠ other.id → view.handler ≠ other.handler) ↔
          spec.TellsSteps convention) ∧
      ((∀ view ∈ spec.compliance.rules.map (RuleView.of convention),
        ∀ other ∈ spec.compliance.rules.map (RuleView.of convention), view.id ≠ other.id →
          view.function ≠ other.function) ↔ spec.TellsRules convention)) ∧
    ∀ target ∈ Catalog.targets, ∃ result, generate .builtin spec target = .ok result ∧ result.success = true ∧
      let convention := Convention.of target.language
      (∀ flow ∈ spec.flows, ∃ page ∈ result.output.files, page.kind = .page ∧ page.source = flow.subject ∧
        let handlers := (StepView.all spec convention flow).map (·.handler)
        target.framework.templateSet.handlerForm.Defines handlers page.content.toList ∧
          (handlers.Nodup ↔ (flow.steps.map fun step => convention.words step.id).Nodup)) ∧
      (spec.compliance.rules ≠ [] → ∃ policy ∈ result.output.files, policy.kind = .repository ∧
        let functions := (spec.compliance.rules.map (RuleView.of convention)).map (·.function)
        target.framework.templateSet.ruleForm.Defines functions policy.content.toList ∧
          (functions.Nodup ↔
            (spec.compliance.rules.map fun rule => (rule.implementation, convention.words rule.id)).Nodup)) := by
  refine ⟨fun language => ⟨Specification.handlers_differ_iff, Specification.functions_differ_iff⟩, ?_⟩
  intro target builtin
  obtain ⟨result, generates, generated⟩ := exists_generate valid (Catalog.isMeasured builtin)
  refine ⟨result, generates, generated.success, ?_, ?_⟩
  · intro flow member
    refine ⟨pageArtifact spec target flow, ?_, rfl, rfl, defines_pageArtifact spec target flow⟩
    rw [generated.files, artifacts]
    exact List.mem_append_left _ (List.mem_append_left _ (List.mem_append_right _ (List.mem_map_of_mem member)))
  · intro some
    refine ⟨policyArtifact spec target, ?_, rfl, defines_policyArtifact spec target⟩
    rw [generated.files, artifacts, policyArtifacts, if_neg (by simpa using some)]
    exact List.mem_append_right _ (List.mem_singleton_self _)

/-- Ids that differ only in how their digits are grouped. -/
def groupedDigits : Specification where
  metadata := { name := "shop" }
  flows := [{
    id := "sell", name := "Sell"
    steps := [
      { id := "pay 1 2", name := "Pay", type := .form },
      { id := "pay 12", name := "Pay", type := .form }] }]
  compliance := { rules := [
    { id := "keep 1 2", name := "Keep", implementation := .encryption },
    { id := "keep 12", name := "Keep", implementation := .encryption }] }

/-- Underscores keep them apart. -/
theorem generate_functions_groupedDigits :
    groupedDigits.structuralErrors = [] ∧ Catalog.backendPython ∈ Catalog.targets ∧
      groupedDigits.TellsSteps .python ∧ groupedDigits.TellsRules .python ∧
      ∃ result, generate .builtin groupedDigits Catalog.backendPython = .ok result ∧
        (∃ page ∈ result.output.files, TemplateSet.python.handlerForm.Defines
          ["handle_pay_1_2", "handle_pay_12"] page.content.toList) ∧
        ∃ policy ∈ result.output.files, TemplateSet.python.ruleForm.Defines
          ["encrypt_keep_1_2", "encrypt_keep_12"] policy.content.toList := by
  have valid : groupedDigits.structuralErrors = [] := by decide
  have builtin : Catalog.backendPython ∈ Catalog.targets := by simp [Catalog.targets]
  obtain ⟨views, files⟩ := generate_functions_iff valid
  obtain ⟨result, generates, _, pages, policies⟩ := files Catalog.backendPython builtin
  obtain ⟨page, inPages, _, _, handlers, _⟩ := pages _ (List.mem_singleton_self _)
  obtain ⟨policy, inPolicies, _, functions, _⟩ := policies (by decide)
  refine ⟨valid, builtin, (views .python).1.mp (by decide), (views .python).2.mp (by decide), result, generates,
    ⟨page, inPages, ?_⟩, policy, inPolicies, ?_⟩
  · exact handlers
  · exact functions

/-- A flow with two steps whose ids have the same words. -/
def twinSteps : Flow where
  id := "enter"
  name := "Enter"
  steps := [
    { id := "sign-in", name := "Sign in", type := .form },
    { id := "sign_in", name := "Sign in again", type := .form }]

/-- The flow beside two rules of that kind. -/
def twinIds : Specification where
  metadata := { name := "shop" }
  flows := [twinSteps]
  compliance := { rules := [
    { id := "keep-safe", name := "Keep", implementation := .encryption },
    { id := "keep_safe", name := "Keep again", implementation := .encryption }] }

/-- They have the same functions in every language, and a page and a policy define them twice. -/
theorem generate_functions_twice :
    twinIds.structuralErrors = [] ∧
      (∀ language, ∃ flow ∈ twinIds.flows, ∃ view ∈ StepView.all twinIds (Convention.of language) flow,
        ∃ other ∈ StepView.all twinIds (Convention.of language) flow,
          view.id ≠ other.id ∧ view.handler = other.handler) ∧
      (∀ language, ∃ view ∈ twinIds.compliance.rules.map (RuleView.of (Convention.of language)),
        ∃ other ∈ twinIds.compliance.rules.map (RuleView.of (Convention.of language)),
          view.id ≠ other.id ∧ view.function = other.function) ∧
      ∃ result, generate .builtin twinIds Catalog.webReact = .ok result ∧ result.success = true ∧
        (∃ page ∈ result.output.files, TemplateSet.react.handlerForm.Defines
          ["handleSignIn", "handleSignIn"] page.content.toList) ∧
        ∃ policy ∈ result.output.files, TemplateSet.react.ruleForm.Defines
          ["encryptKeepSafe", "encryptKeepSafe"] policy.content.toList := by
  have valid : twinIds.structuralErrors = [] := by decide
  obtain ⟨result, generates, generated⟩ := exists_generate valid
    (Catalog.isMeasured (List.mem_cons_self .. : Catalog.webReact ∈ Catalog.targets))
  refine ⟨valid, ?_, ?_, result, generates, generated.success, ?_, ?_⟩
  · intro language
    cases language <;> decide
  · intro language
    cases language <;> decide
  · refine ⟨pageArtifact twinIds Catalog.webReact twinSteps, ?_,
      (defines_pageArtifact twinIds Catalog.webReact twinSteps).1⟩
    rw [generated.files]
    exact List.mem_cons_self ..
  · refine ⟨policyArtifact twinIds Catalog.webReact, ?_, (defines_policyArtifact twinIds Catalog.webReact).1⟩
    rw [generated.files]
    exact List.mem_cons_of_mem _ (List.mem_cons_self ..)

end Generator

end Prism
