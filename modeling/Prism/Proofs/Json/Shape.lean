import Prism.Proofs.Json.Reading

namespace Prism.Json

mutual

/-- The whole numbers in a value, at any depth. -/
def wholes : Json → List ℤ
  | .int n => [n]
  | .list items => wholesOfItems items
  | .object members => wholesOfMembers members
  | .null | .bool _ | .float _ | .text _ => []

def wholesOfItems : List Json → List ℤ
  | [] => []
  | item :: items => item.wholes ++ wholesOfItems items

def wholesOfMembers : List (String × Json) → List ℤ
  | [] => []
  | (_, value) :: members => value.wholes ++ wholesOfMembers members

end

theorem forall_mem_wholesOfItems {items : List Json} {holds : ℤ → Prop} :
    (∀ n ∈ wholesOfItems items, holds n) ↔ ∀ item ∈ items, ∀ n ∈ item.wholes, holds n := by
  induction items with
  | nil => simp [wholesOfItems]
  | cons item items ih => rw [wholesOfItems, List.forall_mem_append, ih, List.forall_mem_cons]

theorem forall_mem_wholesOfMembers {members : List (String × Json)} {holds : ℤ → Prop} :
    (∀ n ∈ wholesOfMembers members, holds n) ↔ ∀ member ∈ members, ∀ n ∈ member.2.wholes, holds n := by
  induction members with
  | nil => simp [wholesOfMembers]
  | cons member members ih => rw [wholesOfMembers, List.forall_mem_append, ih, List.forall_mem_cons]

theorem areSpelled_eq_all (room : Room) (items : List Json) :
    areSpelled room items = items.all fun item => item.isSpelled room := by
  induction items with
  | nil => rfl
  | cons item items ih => rw [areSpelled, ih, List.all_cons]

theorem membersSpelled_eq_all (room : Room) (members : List (String × Json)) :
    membersSpelled room members = members.all fun member => member.2.isSpelled room := by
  induction members with
  | nil => rfl
  | cons member members ih => rw [membersSpelled, ih, List.all_cons]

theorem isSpelled_sorted {room : Room} (value : Json) : value.sorted.isSpelled room = value.isSpelled room := by
  induction value using nested with
  | null | bool | int | float | text => rfl
  | list items ih =>
    rw [sorted, isSpelled, isSpelled, sortedItems_eq_map, areSpelled_eq_all, areSpelled_eq_all, List.all_map]
    exact all_congr ih
  | object members ih =>
    rw [sorted_object, isSpelled, isSpelled, membersSpelled_eq_all, (inOrder_perm members).all_eq,
      sortedMembers_eq_map, membersSpelled_eq_all, List.all_map]
    exact all_congr ih

/-- A value can be written where all its whole numbers can. -/
theorem isSpelled_iff {room : Room} {value : Json} :
    value.isSpelled room = true ↔ ∀ n ∈ value.wholes, room.spells n = true := by
  induction value using nested with
  | null | bool | int | float | text => simp [isSpelled, wholes]
  | list items ih =>
    rw [wholes, forall_mem_wholesOfItems, isSpelled, areSpelled_eq_all, List.all_eq_true]
    exact forall₂_congr ih
  | object members ih =>
    rw [wholes, forall_mem_wholesOfMembers, isSpelled, membersSpelled_eq_all, List.all_eq_true]
    exact forall₂_congr ih

theorem itemsCalls_le_iff {items : List Json} {most : ℕ} :
    itemsCalls items ≤ most ↔ ∀ item ∈ items, item.writingCalls ≤ most := by
  induction items with
  | nil => simp [itemsCalls]
  | cons item items ih => rw [itemsCalls, max_le_iff, ih, List.forall_mem_cons]

theorem membersCalls_le_iff {members : List (String × Json)} {most : ℕ} :
    membersCalls members ≤ most ↔ ∀ member ∈ members, member.2.writingCalls ≤ most := by
  induction members with
  | nil => simp [membersCalls]
  | cons member members ih => rw [membersCalls, max_le_iff, ih, List.forall_mem_cons]

theorem writingCalls_list_le_iff {items : List Json} {most : ℕ} : (list items).writingCalls ≤ most ↔
    1 + min items.length 1 ≤ most ∧ ∀ item ∈ items, item.writingCalls + 1 ≤ most := by
  obtain _ | most := most
  · simp [writingCalls]
  · simp only [writingCalls, Nat.add_comm 1, Nat.add_le_add_iff_right, max_le_iff, itemsCalls_le_iff]

theorem writingCalls_object_le_iff {members : List (String × Json)} {most : ℕ} :
    (object members).writingCalls ≤ most ↔
      1 + min members.length 2 ≤ most ∧ ∀ member ∈ members, member.2.writingCalls + 1 ≤ most := by
  obtain _ | most := most
  · simp [writingCalls]
  · simp only [writingCalls, Nat.add_comm 1, Nat.add_le_add_iff_right, max_le_iff, membersCalls_le_iff]

theorem writingCalls_sorted (value : Json) : value.sorted.writingCalls = value.writingCalls := by
  induction value using nested with
  | null | bool | int | float | text => rfl
  | list items ih =>
    refine eq_of_forall_ge_iff fun most => ?_
    rw [sorted, sortedItems_eq_map, writingCalls_list_le_iff, writingCalls_list_le_iff, List.length_map,
      List.forall_mem_map]
    exact and_congr_right fun _ => forall₂_congr fun item inside => by rw [ih item inside]
  | object members ih =>
    refine eq_of_forall_ge_iff fun most => ?_
    rw [sorted_object, writingCalls_object_le_iff, writingCalls_object_le_iff, (inOrder_perm members).length_eq,
      sortedMembers_eq_map, List.length_map]
    simp only [(inOrder_perm members).mem_iff, sortedMembers_eq_map, List.forall_mem_map]
    exact and_congr_right fun _ => forall₂_congr fun member inside => by rw [ih member inside]

/-- What can be written can be read where reading may go as deep. -/
theorem fits_of_writingCalls_le {room : Room} {value : Json} {depth : ℕ} (spelled : value.isSpelled room = true)
    (calls : value.writingCalls ≤ depth) : value.fits room depth = true := by
  induction value using nested generalizing depth with
  | null | bool | int | float | text => exact spelled
  | list items ih =>
    rw [isSpelled, areSpelled_eq_all, List.all_eq_true] at spelled
    obtain ⟨_, each⟩ := writingCalls_list_le_iff.mp calls
    exact fits_list_iff.mpr ⟨by omega, fun item inside =>
      ih item inside (spelled item inside) (Nat.le_sub_of_add_le (each item inside))⟩
  | object members ih =>
    rw [isSpelled, membersSpelled_eq_all, List.all_eq_true] at spelled
    obtain ⟨_, each⟩ := writingCalls_object_le_iff.mp calls
    exact fits_object_iff.mpr ⟨by omega, fun member inside =>
      ih member inside (spelled member inside) (Nat.le_sub_of_add_le (each member inside))⟩

/-- A value at most so deep, with distinct names in every object. -/
inductive IsShaped : ℕ → Json → Prop
  | atom {depth : ℕ} {value : Json} (atom : value.isAtom = true) : IsShaped depth value
  | text {depth : ℕ} (text : String) : IsShaped depth (.text text)
  | list {depth : ℕ} {items : List Json} (each : ∀ item ∈ items, IsShaped depth item) :
    IsShaped (depth + 1) (.list items)
  | object {depth : ℕ} {members : List (String × Json)} (distinct : (members.map (·.1)).Nodup)
    (each : ∀ member ∈ members, IsShaped depth member.2) : IsShaped (depth + 1) (.object members)

theorem IsShaped.isProper {depth : ℕ} {value : Json} (shaped : IsShaped depth value) : value.IsProper := by
  induction shaped with
  | @atom _ value atom => cases value <;> simp_all [isAtom, IsProper]
  | text => trivial
  | list _ ih => exact areProper_iff.mpr ih
  | object distinct _ ih => exact ⟨distinct, areProperMembers_iff.mpr ih⟩

/-- Such a value is read where its numbers are short. -/
theorem IsShaped.fits_iff {room : Room} {depth : ℕ} {value : Json} (shaped : IsShaped depth value) :
    value.fits room depth = true ↔ ∀ n ∈ value.wholes, room.spells n = true := by
  induction shaped with
  | @atom _ value atom => cases value <;> simp_all [isAtom, fits, wholes]
  | text => simp [fits, wholes]
  | list _ ih =>
    rw [wholes, forall_mem_wholesOfItems]
    simpa [fits, fitsItems_eq_all] using forall₂_congr ih
  | object _ _ ih =>
    rw [wholes, forall_mem_wholesOfMembers]
    simpa [fits, fitsMembers_eq_all] using forall₂_congr ih

section Parts

variable (depth : ℕ)

@[simp] theorem isShaped_text (text : String) : IsShaped depth (.text text) := .text text

@[simp] theorem isShaped_bool (b : Bool) : IsShaped depth (.bool b) := .atom rfl

@[simp] theorem isShaped_float (x : Float) : IsShaped depth (.float x) := .atom rfl

@[simp] theorem isShaped_ofNat (n : ℕ) : IsShaped depth (.ofNat n) := .atom rfl

@[simp] theorem isShaped_ofNumber (number : Number) : IsShaped depth (.ofNumber number) := by
  cases number <;> exact .atom rfl

@[simp] theorem isShaped_texts (texts : List String) : IsShaped (depth + 1) (.texts texts) :=
  .list (List.forall_mem_map.mpr fun text _ => .text text)

theorem isShaped_ofOption {α : Type} {encode : α → Json} (each : ∀ value, IsShaped depth (encode value))
    (value : Option α) : IsShaped depth (.ofOption encode value) := by
  cases value with
  | none => exact .atom rfl
  | some value => exact each value

end Parts

end Prism.Json
