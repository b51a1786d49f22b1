import Mathlib.Data.List.Nodup
import Mathlib.Data.String.Basic
import Prism.Proofs.Document.Proper

namespace Prism

/-- Lists with the same items are the same when sorted, unless the order leaves two items apart that differ. -/
theorem mergeSort_eq_of_perm {α : Type} {le : α → α → Bool} {first second : List α}
    (trans : ∀ a b c, le a b → le b c → le a c) (total : ∀ a b, (le a b || le b a) = true)
    (apart : ∀ a ∈ first, ∀ b ∈ first, le a b → le b a → a = b) (moved : first.Perm second) :
    first.mergeSort le = second.mergeSort le := by
  have sorted (items : List α) := List.pairwise_mergeSort trans total items
  have same : (first.mergeSort le).Perm (second.mergeSort le) :=
    (List.mergeSort_perm ..).trans (moved.trans (List.mergeSort_perm ..).symm)
  refine same.eq_of_pairwise (fun a b inside other => ?_) (sorted first) (sorted second)
  exact apart a (List.mem_mergeSort.mp inside) b (moved.mem_iff.mpr (List.mem_mergeSort.mp other))

/-- Pairs with distinct keys have one order by key. -/
theorem mergeSort_key_eq_of_perm {α : Type} {first second : List (String × α)}
    (distinct : (first.map (·.1)).Nodup) (moved : first.Perm second) :
    (first.mergeSort fun a b => a.1 ≤ b.1) = second.mergeSort fun a b => a.1 ≤ b.1 := by
  refine mergeSort_eq_of_perm (fun a b c => ?_) (fun a b => ?_) (fun a here b there => ?_) moved
  · simpa using le_trans
  · simpa using le_total a.1 b.1
  · intro below above
    have same : a.1 = b.1 := le_antisymm (of_decide_eq_true below) (of_decide_eq_true above)
    exact List.inj_on_of_nodup_map distinct here there same

section Lookup

variable {α β : Type} {entries others : List (String × α)} {key : String}

theorem lookup_eq_some_iff_mem (distinct : (entries.map (·.1)).Nodup) {value : α} :
    entries.lookup key = some value ↔ (key, value) ∈ entries := by
  induction entries with
  | nil => simp
  | cons entry entries ih =>
    obtain ⟨name, first⟩ := entry
    obtain ⟨alone, distinct⟩ := List.nodup_cons.mp distinct
    rw [List.lookup_cons, List.mem_cons, Prod.mk.injEq]
    by_cases same : key = name
    · subst same
      have absent : (key, value) ∉ entries := fun member => alone (List.mem_map.mpr ⟨_, member, rfl⟩)
      simp [absent, eq_comm]
    · have other : (key == name) = false := beq_eq_false_iff_ne.mpr same
      simp [same, other, ih distinct]

theorem lookup_eq_none_iff : entries.lookup key = none ↔ key ∉ entries.map (·.1) := by
  rw [List.lookup_eq_none_iff, List.mem_map, not_exists]
  simp only [not_and, bne_iff_ne, ne_eq]
  exact forall₂_congr fun entry _ => ⟨fun other same => other same.symm, fun other same => other same.symm⟩

/-- What is found under a key does not depend on the order. -/
theorem lookup_of_perm (distinct : (entries.map (·.1)).Nodup) (moved : entries.Perm others) :
    entries.lookup key = others.lookup key := by
  have distinctToo : (others.map (·.1)).Nodup := (moved.map _).nodup_iff.mp distinct
  ext value
  rw [lookup_eq_some_iff_mem distinct, lookup_eq_some_iff_mem distinctToo, moved.mem_iff]

theorem lookup_map_values (f : α → β) :
    (entries.map fun entry => (entry.1, f entry.2)).lookup key = (entries.lookup key).map f := by
  induction entries with
  | nil => rfl
  | cons entry entries ih =>
    rw [List.map_cons, List.lookup_cons, List.lookup_cons]
    cases key == entry.1 <;> simp [ih]

end Lookup

namespace Json

theorem lookup_eq (name : String) (members : List (String × Json)) : lookup name members = members.lookup name := by
  induction members with
  | nil => rfl
  | cons member members ih =>
    rw [lookup, List.lookup_cons, ih]
    by_cases same : member.1 = name
    · simp [same]
    · have other : (name == member.1) = false := by simpa using Ne.symm same
      simp [same, other]

theorem sortedItems_eq_map (items : List Json) : sortedItems items = items.map sorted := by
  induction items with
  | nil => rfl
  | cons item items ih => rw [sortedItems, List.map_cons, ih]

theorem sortedMembers_eq_map (members : List (String × Json)) :
    sortedMembers members = members.map fun member => (member.1, member.2.sorted) := by
  induction members with
  | nil => rfl
  | cons member members ih => rw [sortedMembers, List.map_cons, ih]

theorem sortedMembers_fst (members : List (String × Json)) :
    (sortedMembers members).map Prod.fst = members.map Prod.fst := by
  rw [sortedMembers_eq_map, List.map_map]
  rfl

/-- The members of an object in order, at every depth. -/
def inOrder (members : List (String × Json)) : List (String × Json) := sortMembers (sortedMembers members)

theorem sorted_object (members : List (String × Json)) : (object members).sorted = object (inOrder members) := by
  rw [sorted, inOrder]

theorem inOrder_perm (members : List (String × Json)) : (inOrder members).Perm (sortedMembers members) :=
  List.mergeSort_perm ..

theorem nodup_inOrder {members : List (String × Json)} (distinct : (members.map (·.1)).Nodup) :
    ((inOrder members).map (·.1)).Nodup := by
  rw [((inOrder_perm members).map _).nodup_iff]
  exact sortedMembers_fst members ▸ distinct

theorem lookup_inOrder {members : List (String × Json)} (distinct : (members.map (·.1)).Nodup) (name : String) :
    lookup name (inOrder members) = (lookup name members).map sorted := by
  rw [lookup_eq, lookup_eq, lookup_of_perm (nodup_inOrder distinct) (inOrder_perm members), sortedMembers_eq_map,
    lookup_map_values]

theorem isObject_sorted (value : Json) : value.sorted.isObject = value.isObject := by
  cases value <;> rfl

theorem isProper_sorted {value : Json} (proper : value.IsProper) : value.sorted.IsProper := by
  induction value using nested with
  | null | bool | int | float | text => trivial
  | list items ih =>
    rw [sorted, sortedItems_eq_map]
    refine areProper_iff.mpr (List.forall_mem_map.mpr fun item inside => ?_)
    exact ih item inside (areProper_iff.mp proper item inside)
  | object members ih =>
    refine ⟨nodup_inOrder proper.1, areProperMembers_iff.mpr fun member inside => ?_⟩
    have moved := (inOrder_perm _).mem_iff.mp inside
    rw [sortedMembers_eq_map] at moved
    obtain ⟨given, there, rfl⟩ := List.mem_map.mp moved
    exact ih given there (areProperMembers_iff.mp proper.2 given there)

theorem sortedMembers_sortMembers (members : List (String × Json)) :
    sortedMembers (sortMembers members) = sortMembers (sortedMembers members) := by
  rw [sortedMembers_eq_map, sortedMembers_eq_map, sortMembers, sortMembers]
  exact List.map_mergeSort fun _ _ _ _ => rfl

theorem sortMembers_sortMembers (members : List (String × Json)) :
    sortMembers (sortMembers members) = sortMembers members := by
  rw [sortMembers, sortMembers]
  refine List.mergeSort_of_pairwise (List.pairwise_mergeSort (fun a b c => ?_) (fun a b => ?_) members)
  · simpa using le_trans
  · simpa using le_total a.1 b.1

/-- What is in order stays as it is. -/
theorem sorted_sorted (value : Json) : value.sorted.sorted = value.sorted := by
  induction value using nested with
  | null | bool | int | float | text => rfl
  | list items ih =>
    rw [sorted, sorted, sortedItems_eq_map, sortedItems_eq_map, List.map_map]
    exact congrArg list (List.map_congr_left ih)
  | object members ih =>
    rw [sorted, sorted, sortedMembers_sortMembers, sortMembers_sortMembers, sortedMembers_eq_map, sortedMembers_eq_map,
      List.map_map]
    refine congrArg (fun members => object (sortMembers members)) (List.map_congr_left fun member inside => ?_)
    exact congrArg (Prod.mk member.1) (ih member inside)

end Json

end Prism
