import Mathlib.Data.List.Infix
import Prism.Proofs.Ascii
import Prism.Proofs.Generation

namespace Prism

theorem Text.occursIn_iff {part text : List Char} : occursIn part text = true ↔ part <:+: text := by
  induction text with
  | nil => rw [occursIn, List.isEmpty_iff, List.infix_nil]
  | cons c rest ih => rw [occursIn, Bool.or_eq_true, List.isPrefixOf_iff_prefix, ih, List.infix_cons_iff]

theorem Text.within_iff {part text : String} : within part text = true ↔ part.toList <:+: text.toList :=
  occursIn_iff

namespace Template

/-- A template in a context prints a text in one of its holes. -/
inductive Shows (text : String) : {α : Type} → Template α → α → Prop where
  | hole {α : Type} {fill : α → String} {context : α} (same : fill context = text) : Shows text (.hole fill) context
  | first {α : Type} {first second : Template α} {context : α} (shown : Shows text first context) :
    Shows text (.append first second) context
  | second {α : Type} {first second : Template α} {context : α} (shown : Shows text second context) :
    Shows text (.append first second) context
  | each {α β : Type} {items : α → List β} {body : Template (α × β)} {context : α} {item : β}
    (member : item ∈ items context) (shown : Shows text body (context, item)) :
    Shows text (.each items body) context

theorem Shows.isInfix {text : String} {α : Type} {template : Template α} {context : α}
    (shown : template.Shows text context) : text.toList <:+: template.renderChars context := by
  induction shown with
  | hole same =>
    rw [renderChars, same]
  | first _ ih => exact ih.trans (List.prefix_append _ _).isInfix
  | second _ ih => exact ih.trans (List.suffix_append _ _).isInfix
  | each member _ ih => exact ih.trans (List.infix_of_mem_flatten (List.mem_map_of_mem member))

/-- A page names the handlers of all its steps. -/
theorem shows_page (set : TemplateSet) (context : PageContext) {step : StepView} (member : step ∈ context.steps) :
    set.templates.page.template.Shows step.handler context := by
  cases set <;>
    simp only [TemplateSet.templates, Bundled.template, WebReact.page, WebVue.page, WebAngular.page, MobileIos.page,
      MobileAndroid.page, BackendNode.page, BackendPython.page, BackendJava.page, parts]
  all_goals
    repeat
      first
      | (apply Shows.first; apply Shows.hole; with_reducible rfl)
      | (apply Shows.first; apply Shows.each member)
      | (apply Shows.first; apply Shows.second)
      | apply Shows.second

/-- The parts of a template that stand one after another. -/
def items : {α : Type} → Template α → List (Template α)
  | _, .empty => []
  | _, .append first second => first.items ++ second.items
  | _, part => [part]

theorem renderChars_eq_flatMap_items {α : Type} (template : Template α) (context : α) :
    template.renderChars context = template.items.flatMap fun part => part.renderChars context := by
  induction template with
  | empty => rfl
  | append first second ihFirst ihSecond =>
    rw [renderChars, items, List.flatMap_append, ← ihFirst, ← ihSecond]
  | text | hole | each | joined | choose => exact (List.flatMap_singleton ..).symm

/-- What all texts in the holes of a template have in common. -/
def Fills (holds : String → Prop) : {α : Type} → Template α → α → Prop
  | _, .empty, _ => True
  | _, .text _, _ => True
  | _, .hole fill, context => holds (fill context)
  | _, .append first second, context => first.Fills holds context ∧ second.Fills holds context
  | _, .each items body, context => ∀ item ∈ items context, body.Fills holds (context, item)
  | _, .joined _ items body, context => ∀ item ∈ items context, body.Fills holds (context, item)
  | _, .choose _ yes no, context => yes.Fills holds context ∧ no.Fills holds context

theorem Fills.items {holds : String → Prop} {α : Type} {template : Template α} {context : α}
    (fills : template.Fills holds context) : ∀ part ∈ template.items, part.Fills holds context := by
  induction template with
  | empty => exact fun _ member => absurd member List.not_mem_nil
  | append first second ihFirst ihSecond =>
    intro part member
    rcases List.mem_append.mp member with inFirst | inSecond
    · exact ihFirst fills.1 part inFirst
    · exact ihSecond fills.2 part inSecond
  | text | hole | each | joined | choose =>
    intro part member
    rwa [List.mem_singleton.mp member]

section Reading

variable {σ : Type} [DecidableEq σ] (read : σ → Char → σ) (calm : σ → Bool)

/-- The state in which a reader leaves a template. Fixed texts are ASCII, holes are passed in calm states only, every
repetition ends in the state in which it began, and alternatives end in the same. -/
def follow : {α : Type} → Template α → σ → Option σ
  | _, .empty, state => some state
  | _, .text value, state => (Text.ascii? value).map (·.foldl read state)
  | _, .hole _, state => if calm state then some state else none
  | _, .append first second, state => (first.follow state).bind second.follow
  | _, .each _ body, state => if body.follow state = some state then some state else none
  | _, .joined separator _ body, state =>
    if body.follow state = some state && (Text.ascii? separator).map (·.foldl read state) = some state then some state
    else none
  | _, .choose _ yes no, state => if no.follow state = yes.follow state then yes.follow state else none

def followAll {α : Type} (parts : List (Template α)) (state : σ) : Option σ :=
  parts.foldlM (fun state part => part.follow read calm state) state

variable {read calm} {holds : String → Prop}
  (passes : ∀ text state, holds text → calm state = true → text.toList.foldl read state = state)

include passes in
/-- A reader leaves the text of a template in the state in which it leaves the template. -/
theorem foldl_of_follow {α : Type} {template : Template α} {context : α} (fills : template.Fills holds context)
    {state after : σ} (follows : template.follow read calm state = some after) :
    (template.renderChars context).foldl read state = after := by
  induction template generalizing state after with
  | empty => exact Option.some.inj follows
  | text value =>
    obtain ⟨chars, ascii, reads⟩ := Option.map_eq_some_iff.mp follows
    rwa [renderChars, Text.toList_of_ascii? ascii]
  | hole fill =>
    rw [follow] at follows
    split at follows
    · next isCalm =>
      obtain rfl := Option.some.inj follows
      exact passes _ _ fills isCalm
    · exact absurd follows (by simp)
  | append first second ihFirst ihSecond =>
    rw [follow] at follows
    obtain ⟨middle, atFirst, atSecond⟩ := Option.bind_eq_some_iff.mp follows
    rw [renderChars, List.foldl_append, ihFirst fills.1 atFirst, ihSecond fills.2 atSecond]
  | each items body ih =>
    rw [follow] at follows
    split at follows
    · next returns =>
      obtain rfl := Option.some.inj follows
      rw [renderChars, List.foldl_flatMap]
      rw [Fills] at fills
      generalize items context = list at fills ⊢
      induction list with
      | nil => rfl
      | cons item rest ihItems =>
        obtain ⟨here, later⟩ := List.forall_mem_cons.mp fills
        rw [List.foldl_cons, ih here returns]
        exact ihItems later
    · exact absurd follows (by simp)
  | joined separator items body ih =>
    rw [follow] at follows
    split at follows
    · next returns =>
      obtain rfl := Option.some.inj follows
      rw [Bool.and_eq_true, decide_eq_true_eq, decide_eq_true_eq] at returns
      obtain ⟨chars, ascii, between⟩ := Option.map_eq_some_iff.mp returns.2
      rw [renderChars, Text.toList_of_ascii? ascii]
      rw [Fills] at fills
      generalize items context = list at fills ⊢
      induction list with
      | nil => rfl
      | cons item rest ihItems =>
        obtain ⟨here, later⟩ := List.forall_mem_cons.mp fills
        cases rest with
        | nil =>
          rw [List.map_singleton, List.intercalate_singleton]
          exact ih here returns.1
        | cons next rest =>
          rw [List.map_cons, List.map_cons, List.intercalate_cons_cons, List.foldl_append, List.foldl_append,
            ih here returns.1, between]
          exact ihItems later
    · exact absurd follows (by simp)
  | choose test yes no ihYes ihNo =>
    rw [follow] at follows
    split at follows
    · next agree =>
      rw [renderChars]
      split
      · exact ihYes fills.1 follows
      · exact ihNo fills.2 (agree ▸ follows)
    · exact absurd follows (by simp)

include passes in
theorem foldl_of_followAll {α : Type} {parts : List (Template α)} {context : α}
    (fills : ∀ part ∈ parts, part.Fills holds context) {state after : σ}
    (follows : followAll read calm parts state = some after) :
    (parts.flatMap fun part => part.renderChars context).foldl read state = after := by
  induction parts generalizing state with
  | nil => exact Option.some.inj follows
  | cons part parts ih =>
    obtain ⟨here, later⟩ := List.forall_mem_cons.mp fills
    rw [followAll, List.foldlM_cons] at follows
    obtain ⟨middle, first, rest⟩ := Option.bind_eq_some_iff.mp follows
    rw [List.flatMap_cons, List.foldl_append, foldl_of_follow passes here first, ih later rest]

end Reading

end Template

end Prism
