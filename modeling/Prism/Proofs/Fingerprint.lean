import Prism.Proofs.Document.Grammar
import Prism.Proofs.Json.Injectivity
import Prism.Spec.Fingerprint

namespace Prism

/-- Two texts with one digest. -/
def Sha256.IsCollision (text other : String) : Prop :=
  text ≠ other ∧ hexDigestOfText text = hexDigestOfText other

/-- Two orders of the same entries are one where their keys, which are distinct, are in one order. -/
theorem eq_of_perm_of_keys {α : Type} {entries others : List (String × α)} (perm : entries.Perm others)
    (keys : entries.map Prod.fst = others.map Prod.fst) (distinct : (entries.map Prod.fst).Nodup) :
    entries = others := by
  induction entries generalizing others with
  | nil => exact perm.nil_eq
  | cons entry entries ih =>
    cases others with
    | nil => exact absurd keys (by simp)
    | cons other others =>
      obtain ⟨key, later⟩ := List.cons.inj keys
      obtain ⟨alone, distinct⟩ := List.nodup_cons.mp distinct
      have first : entry = other := by
        rcases List.mem_cons.mp (perm.subset List.mem_cons_self) with here | inside
        · exact here
        · exact absurd (later ▸ List.mem_map_of_mem inside) alone
      subst first
      rw [ih perm.cons_inv later distinct]

namespace Json

/-- The values of two objects are the same in order, whatever their names. -/
@[simp] def SameValues : List (String × Json) → List (String × Json) → Prop
  | [], [] => True
  | member :: members, other :: others => member.2.sorted = other.2.sorted ∧ SameValues members others
  | _, _ => False

theorem sameValues_of_sortedMembers {members others : List (String × Json)}
    (same : sortedMembers members = sortedMembers others) : SameValues members others := by
  induction members generalizing others with
  | nil =>
    cases others with
    | nil => trivial
    | cons other others => exact absurd same (by simp [sortedMembers])
  | cons member members ih =>
    cases others with
    | nil => exact absurd same (by simp [sortedMembers])
    | cons other others =>
      obtain ⟨here, later⟩ := List.cons.inj same
      exact ⟨(Prod.mk.inj here).2, ih later⟩

/-- Sorting only forgets the place of each member. -/
theorem perm_of_sorted {members others : List (String × Json)}
    (same : (object members).sorted = (object others).sorted) :
    (sortedMembers members).Perm (sortedMembers others) := by
  rw [sorted, sorted] at same
  calc (sortedMembers members).Perm (sortMembers (sortedMembers members)) := (List.mergeSort_perm _ _).symm
    _ = sortMembers (sortedMembers others) := object.inj same
    List.Perm _ (sortedMembers others) := List.mergeSort_perm _ _

/-- Where two objects have the same names in the same places, sorting their members loses nothing: the names give
each member its place back. -/
theorem sameValues_of_sorted {members others : List (String × Json)}
    (same : (object members).sorted = (object others).sorted) (names : members.map Prod.fst = others.map Prod.fst)
    (distinct : (members.map Prod.fst).Nodup) : SameValues members others := by
  refine sameValues_of_sortedMembers (eq_of_perm_of_keys (perm_of_sorted same) ?_ ?_)
  · rw [sortedMembers_fst, sortedMembers_fst, names]
  · rwa [sortedMembers_fst]

theorem eq_of_sorted_list {α : Type} {encode : α → Json} {xs ys : List α}
    (tells : ∀ x ∈ xs, ∀ y ∈ ys, (encode x).sorted = (encode y).sorted → x = y)
    (same : (list (xs.map encode)).sorted = (list (ys.map encode)).sorted) : xs = ys := by
  rw [sorted, sorted, sortedItems_eq_map, sortedItems_eq_map, List.map_map, List.map_map] at same
  have items := list.inj same
  induction xs generalizing ys with
  | nil => exact (List.map_eq_nil_iff.mp items.symm).symm
  | cons x xs ih =>
    cases ys with
    | nil => exact absurd items (by simp)
    | cons y ys =>
      obtain ⟨here, later⟩ := List.cons.inj items
      rw [tells x List.mem_cons_self y List.mem_cons_self here]
      rw [ih (fun x inside y insideToo => tells x (List.mem_cons_of_mem _ inside) y (List.mem_cons_of_mem _ insideToo))
        (congrArg list later) later]

/-- The encoding tells items apart even where the members are put in order. -/
def IsFaithful {α : Type} (encode : α → Json) : Prop := ∀ ⦃x y⦄, (encode x).sorted = (encode y).sorted → x = y

theorem IsFaithful.list_inj {α : Type} {encode : α → Json} (faithful : IsFaithful encode) {xs ys : List α} :
    (list (xs.map encode)).sorted = (list (ys.map encode)).sorted ↔ xs = ys :=
  ⟨eq_of_sorted_list fun _ _ _ _ here => faithful here, fun same => by rw [same]⟩

@[simp] theorem sorted_text_inj {x y : String} : (text x).sorted = (text y).sorted ↔ x = y := by simp [sorted]

@[simp] theorem sorted_bool_inj {x y : Bool} : (bool x).sorted = (bool y).sorted ↔ x = y := by simp [sorted]

@[simp] theorem sorted_texts_inj {xs ys : List String} : (texts xs).sorted = (texts ys).sorted ↔ xs = ys :=
  IsFaithful.list_inj fun _ _ => sorted_text_inj.mp

@[simp] theorem sorted_ofOption_inj {x y : Option String} :
    (ofOption text x).sorted = (ofOption text y).sorted ↔ x = y := by
  cases x <;> cases y <;> simp [ofOption, sorted]

end Json

section Label

variable {α : Type} [Labelled α]

theorem label_injective (found : ∀ choice : α, Labelled.find? (label choice) = some choice) :
    Function.Injective (label : α → String) := by
  intro first second same
  exact Option.some.inj (by rw [← found first, ← found second, same])

theorem label_inj (found : ∀ choice : α, Labelled.find? (label choice) = some choice) {first second : α} :
    label first = label second ↔ first = second :=
  (label_injective found).eq_iff

end Label

theorem FieldType.find?_label (type : FieldType) : Labelled.find? (label type) = some type := by
  cases type <;> rfl

theorem StepType.find?_label (type : StepType) : Labelled.find? (label type) = some type := by
  cases type <;> rfl

theorem Enforcement.find?_label (choice : Enforcement) : Labelled.find? (label choice) = some choice := by
  cases choice <;> rfl

attribute [ext] ValidationRule Field Relationship Constraint Index Entity FlowStep Trigger AuthRequirement Flow Layer
  Component Architecture ComplianceRule Compliance Metadata Specification

open Json (IsFaithful sorted_text_inj sorted_bool_inj sameValues_of_sorted)

theorem Relationship.isFaithful_toJson : IsFaithful Relationship.toJson := by
  intro x y same
  simpa [Relationship.ext_iff] using sameValues_of_sorted same rfl (by simp)

theorem Constraint.isFaithful_toJson : IsFaithful Constraint.toJson := by
  intro x y same
  simpa [Constraint.ext_iff] using sameValues_of_sorted same rfl (by simp)

theorem Index.isFaithful_toJson : IsFaithful Index.toJson := by
  intro x y same
  simpa [Index.ext_iff] using sameValues_of_sorted same rfl (by simp)

theorem FlowStep.isFaithful_toJson : IsFaithful FlowStep.toJson := by
  intro x y same
  simpa [FlowStep.ext_iff, label_inj StepType.find?_label] using sameValues_of_sorted same rfl (by simp)

theorem isFaithful_setting : IsFaithful fun setting : String × String => .texts [setting.1, setting.2] := by
  intro x y same
  simpa [Prod.ext_iff] using same

theorem Trigger.isFaithful_toJson : IsFaithful Trigger.toJson := by
  intro x y same
  simpa [Trigger.ext_iff, isFaithful_setting.list_inj] using sameValues_of_sorted same rfl (by simp)

theorem AuthRequirement.isFaithful_toJson : IsFaithful AuthRequirement.toJson := by
  intro x y same
  simpa [AuthRequirement.ext_iff] using sameValues_of_sorted same rfl (by simp)

theorem Flow.isFaithful_toJson : IsFaithful Flow.toJson := by
  intro x y same
  simpa [Flow.ext_iff, FlowStep.isFaithful_toJson.list_inj, Trigger.isFaithful_toJson.list_inj,
    AuthRequirement.isFaithful_toJson.list_inj] using sameValues_of_sorted same rfl (by simp)

theorem Layer.isFaithful_toJson : IsFaithful Layer.toJson := by
  intro x y same
  simpa [Layer.ext_iff] using sameValues_of_sorted same rfl (by simp)

theorem Component.isFaithful_toJson : IsFaithful Component.toJson := by
  intro x y same
  simpa [Component.ext_iff] using sameValues_of_sorted same rfl (by simp)

theorem Architecture.isFaithful_toJson : IsFaithful Architecture.toJson := by
  intro x y same
  simpa [Architecture.ext_iff, Layer.isFaithful_toJson.list_inj, Component.isFaithful_toJson.list_inj] using
    sameValues_of_sorted same rfl (by simp)

theorem ComplianceRule.isFaithful_toJson : IsFaithful ComplianceRule.toJson := by
  intro x y same
  simpa [ComplianceRule.ext_iff, label_inj Enforcement.find?_label] using sameValues_of_sorted same rfl (by simp)

theorem Compliance.isFaithful_toJson : IsFaithful Compliance.toJson := by
  intro x y same
  simpa [Compliance.ext_iff, ComplianceRule.isFaithful_toJson.list_inj] using sameValues_of_sorted same rfl (by simp)

theorem Metadata.isFaithful_toJson : IsFaithful Metadata.toJson := by
  intro x y same
  simpa [Metadata.ext_iff] using sameValues_of_sorted same rfl (by simp)

namespace Frozen

theorem eq_of_sorted_scalar {value other : Scalar} (plain : IsPlain (.scalar value))
    (plainToo : IsPlain (.scalar other))
    (same : (Doc.scalarJson encode value).sorted = (Doc.scalarJson encode other).sorted) : value = other := by
  cases value <;> cases other <;> simp_all [Doc.scalarJson, Json.sorted, IsPlain]

mutual

/-- No two plain values have the same JSON. -/
theorem eq_of_sorted {frozen other : Frozen} (plain : frozen.IsPlain) (plainToo : other.IsPlain)
    (same : (frozen.toJson encode).sorted = (other.toJson encode).sorted) : frozen = other := by
  cases frozen with
  | kept value => exact plain.elim
  | scalar value =>
    cases other with
    | kept value => exact plainToo.elim
    | scalar other => rw [eq_of_sorted_scalar plain plainToo same]
    | list items => cases value <;> simp_all [toJson, Doc.scalarJson, Json.sorted, IsPlain]
  | list items =>
    cases other with
    | kept value => exact plainToo.elim
    | scalar value => cases value <;> simp_all [toJson, Doc.scalarJson, Json.sorted, IsPlain]
    | list others => rw [eq_of_sortedItems plain plainToo (Json.list.inj same)]

theorem eq_of_sortedItems {items others : List Frozen} (plain : ArePlain items) (plainToo : ArePlain others)
    (same : Json.sortedItems (itemsJson encode items) = Json.sortedItems (itemsJson encode others)) :
    items = others := by
  cases items with
  | nil =>
    cases others with
    | nil => rfl
    | cons other others => exact absurd same (by simp [itemsJson, Json.sortedItems])
  | cons item items =>
    cases others with
    | nil => exact absurd same (by simp [itemsJson, Json.sortedItems])
    | cons other others =>
      obtain ⟨here, later⟩ := List.cons.inj same
      rw [eq_of_sorted plain.1 plainToo.1 here, eq_of_sortedItems plain.2 plainToo.2 later]

end

end Frozen

def Field.IsPlain (field : Field) : Prop :=
  field.default.IsPlain ∧ ∀ rule ∈ field.validation, rule.value.IsPlain

def Entity.IsPlain (entity : Entity) : Prop := ∀ field ∈ entity.fields, field.IsPlain

def Specification.IsPlain (spec : Specification) : Prop := ∀ entity ∈ spec.entities, entity.IsPlain

section

variable {encode : Doc → Json}

theorem ValidationRule.eq_of_sorted {rule other : ValidationRule} (plain : rule.value.IsPlain)
    (plainToo : other.value.IsPlain) (same : (rule.toJson encode).sorted = (other.toJson encode).sorted) :
    rule = other := by
  obtain ⟨type, value, message, -⟩ := sameValues_of_sorted same rfl (by simp)
  exact ValidationRule.ext (sorted_text_inj.mp type) (Frozen.eq_of_sorted plain plainToo value)
    (sorted_text_inj.mp message)

theorem Field.eq_of_sorted {field other : Field} (plain : field.IsPlain) (plainToo : other.IsPlain)
    (same : (field.toJson encode).sorted = (other.toJson encode).sorted) : field = other := by
  obtain ⟨id, name, type, required, unique, default, validation, -⟩ := sameValues_of_sorted same rfl (by simp)
  have rules := Json.eq_of_sorted_list (fun rule inside another insideToo =>
    ValidationRule.eq_of_sorted (plain.2 rule inside) (plainToo.2 another insideToo)) validation
  exact Field.ext (sorted_text_inj.mp id) (sorted_text_inj.mp name)
    (label_injective FieldType.find?_label (sorted_text_inj.mp type)) (sorted_bool_inj.mp required)
    (sorted_bool_inj.mp unique) (Frozen.eq_of_sorted plain.1 plainToo.1 default) rules

theorem Entity.eq_of_sorted {entity other : Entity} (plain : entity.IsPlain) (plainToo : other.IsPlain)
    (same : (entity.toJson encode).sorted = (other.toJson encode).sorted) : entity = other := by
  obtain ⟨id, name, description, fields, relationships, constraints, indexes, -⟩ :=
    sameValues_of_sorted same rfl (by simp)
  have rows := Json.eq_of_sorted_list (fun field inside another insideToo =>
    Field.eq_of_sorted (plain field inside) (plainToo another insideToo)) fields
  exact Entity.ext (sorted_text_inj.mp id) (sorted_text_inj.mp name) (sorted_text_inj.mp description) rows
    (Relationship.isFaithful_toJson.list_inj.mp relationships) (Constraint.isFaithful_toJson.list_inj.mp constraints)
    (Index.isFaithful_toJson.list_inj.mp indexes)

theorem Specification.eq_of_sorted {spec other : Specification} (plain : spec.IsPlain) (plainToo : other.IsPlain)
    (same : (spec.toJson encode).sorted = (other.toJson encode).sorted) : spec = other := by
  obtain ⟨metadata, version, entities, flows, architecture, compliance, -⟩ := sameValues_of_sorted same rfl (by simp)
  have rows := Json.eq_of_sorted_list (fun entity inside another insideToo =>
    Entity.eq_of_sorted (plain entity inside) (plainToo another insideToo)) entities
  exact Specification.ext (Metadata.isFaithful_toJson metadata) (sorted_text_inj.mp version) rows
    (Flow.isFaithful_toJson.list_inj.mp flows) (Architecture.isFaithful_toJson architecture)
    (Compliance.isFaithful_toJson compliance)

end

namespace Specification

/-- A specification from JSON holds only what JSON has. -/
theorem isPlain_of_ofDoc {room : Room} {document : Json} (proper : document.IsProper) {spec : Specification}
    (read : ofDoc room (Doc.ofJson document) = .ok spec) : spec.IsPlain := by
  have plain {frozen : Frozen} (stands : frozen.IsFrom document) : frozen.IsPlain := by
    obtain ⟨json, _, rfl⟩ := stands
    exact Frozen.isPlain_ofJson json
  intro entity member field among
  obtain ⟨default, rules⟩ := (isGrammatical_of_ofDoc proper read).2.isFrom_frozen entity member field among
  exact ⟨plain default, fun rule inside => plain (rules rule inside)⟩

theorem eq_of_payload {first second : Specification} (plain : first.IsPlain) (plainToo : second.IsPlain)
    (same : first.payload = second.payload) : first = second :=
  eq_of_sorted plain plainToo (Json.write_injective same)

/-- Specifications that were read from JSON are equal where the texts behind their fingerprints are. Where only
the fingerprints are equal, the specifications are too unless the texts are a collision. -/
theorem fingerprint_tells_specification {room : Room} {document other : Json} (proper : document.IsProper)
    (properToo : other.IsProper) {first second : Specification} (read : ofDoc room (Doc.ofJson document) = .ok first)
    (readToo : ofDoc room (Doc.ofJson other) = .ok second) :
    (first.payload = second.payload → first = second) ∧
      (first.fingerprint = second.fingerprint →
        first = second ∨ Sha256.IsCollision first.payload second.payload) := by
  have tells : first.payload = second.payload → first = second :=
    eq_of_payload (isPlain_of_ofDoc proper read) (isPlain_of_ofDoc properToo readToo)
  refine ⟨tells, fun same => ?_⟩
  by_cases texts : first.payload = second.payload
  · exact .inl (tells texts)
  · exact .inr ⟨texts, same⟩

/-- A document with one field that has a default value. -/
def counterDocument (start : Json) : Json := .object [
  ("version", .text "0.1.0"),
  ("metadata", .object [("name", .text "tally")]),
  ("entities", .list [.object [
    ("id", .text "counter"),
    ("name", .text "Counter"),
    ("fields", .list [.object [
      ("id", .text "start"),
      ("type", .text "integer"),
      ("default", start)]])]])]

def counter (start : Scalar) : Specification where
  metadata := { name := "tally" }
  entities := [{
    id := "counter"
    name := "Counter"
    fields := [{ id := "start", name := "start", type := .integer, default := .scalar start }] }]

theorem fingerprint_tells_counters :
    ofDoc {} (Doc.ofJson (counterDocument (.int 1))) = .ok (counter (.int 1)) ∧
      ofDoc {} (Doc.ofJson (counterDocument (.float 1.0))) = .ok (counter (.float 1.0)) ∧
      (counter (.int 1)).payload ≠ (counter (.float 1.0)).payload ∧
      ((counter (.int 1)).fingerprint = (counter (.float 1.0)).fingerprint →
        Sha256.IsCollision (counter (.int 1)).payload (counter (.float 1.0)).payload) := by
  have read : ofDoc {} (Doc.ofJson (counterDocument (.int 1))) = .ok (counter (.int 1)) := rfl
  have readToo : ofDoc {} (Doc.ofJson (counterDocument (.float 1.0))) = .ok (counter (.float 1.0)) := rfl
  have proper : (counterDocument (.int 1)).IsProper := by
    simp [counterDocument, Json.IsProper, Json.AreProper, Json.AreProperMembers]
  have properToo : (counterDocument (.float 1.0)).IsProper := by
    simp [counterDocument, Json.IsProper, Json.AreProper, Json.AreProperMembers]
  have differ : counter (.int 1) ≠ counter (.float 1.0) := by simp [counter]
  obtain ⟨texts, digests⟩ := fingerprint_tells_specification proper properToo read readToo
  exact ⟨read, readToo, mt texts differ, fun same => (digests same).resolve_left differ⟩

end Specification

end Prism
