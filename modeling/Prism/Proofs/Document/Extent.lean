import Prism.Document.Coerce
import Prism.Proofs.Document.Proper

namespace Prism

namespace Json

mutual

/-- Whether a value that may lie so much deeper keeps the limits of reading. -/
def fits (room : Room) (depth : ℕ) : Json → Bool
  | .int n => room.spells n
  | .list items => 0 < depth && fitsItems room (depth - 1) items
  | .object members => 0 < depth && fitsMembers room (depth - 1) members
  | .null | .bool _ | .float _ | .text _ => true

def fitsItems (room : Room) (depth : ℕ) : List Json → Bool
  | [] => true
  | item :: items => item.fits room depth && fitsItems room depth items

def fitsMembers (room : Room) (depth : ℕ) : List (String × Json) → Bool
  | [] => true
  | (_, value) :: members => value.fits room depth && fitsMembers room depth members

end

variable {room : Room} {depth : ℕ} {value document : Json}

theorem fitsItems_eq_all (depth : ℕ) (items : List Json) :
    fitsItems room depth items = items.all fun item => item.fits room depth := by
  induction items with
  | nil => rfl
  | cons item items ih => rw [fitsItems, ih, List.all_cons]

theorem fitsMembers_eq_all (depth : ℕ) (members : List (String × Json)) :
    fitsMembers room depth members = members.all fun member => member.2.fits room depth := by
  induction members with
  | nil => rfl
  | cons member members ih => rw [fitsMembers, ih, List.all_cons]

theorem fits_list_iff {items : List Json} : (list items).fits room depth = true ↔
    0 < depth ∧ ∀ item ∈ items, item.fits room (depth - 1) = true := by
  rw [fits, fitsItems_eq_all, Bool.and_eq_true, decide_eq_true_iff, List.all_eq_true]

theorem fits_object_iff {members : List (String × Json)} : (object members).fits room depth = true ↔
    0 < depth ∧ ∀ member ∈ members, member.2.fits room (depth - 1) = true := by
  rw [fits, fitsMembers_eq_all, Bool.and_eq_true, decide_eq_true_iff, List.all_eq_true]

theorem fits_mono {more : ℕ} (fits : value.fits room depth = true) (deeper : depth ≤ more) :
    value.fits room more = true := by
  induction value using nested generalizing depth more with
  | null | bool | int | float | text => exact fits
  | list items ih =>
    obtain ⟨positive, each⟩ := fits_list_iff.mp fits
    exact fits_list_iff.mpr ⟨by omega, fun item inside => ih item inside (each item inside) (by omega)⟩
  | object members ih =>
    obtain ⟨positive, each⟩ := fits_object_iff.mp fits
    exact fits_object_iff.mpr ⟨by omega, fun member inside => ih member inside (each member inside) (by omega)⟩

/-- Freezing takes two calls for a level. -/
theorem freezingCalls_le_of_fits (fits : value.fits room depth = true) : value.freezingCalls ≤ 2 * depth + 1 := by
  induction value using nested generalizing depth with
  | null | bool | int | float | text => exact Nat.le_add_left ..
  | list items ih =>
    obtain ⟨positive, each⟩ := fits_list_iff.mp fits
    have inner : itemsFreezing items ≤ 2 * (depth - 1) + 1 :=
      itemsFreezing_le_iff.mpr fun item inside => ih item inside (each item inside)
    rw [freezingCalls]
    omega
  | object members ih =>
    obtain ⟨positive, each⟩ := fits_object_iff.mp fits
    have inner : membersFreezing members ≤ 2 * (depth - 1) + 1 :=
      membersFreezing_le_iff.mpr fun member inside => ih member inside (each member inside)
    rw [freezingCalls]
    omega

/-- A value that stands somewhere in a document, or null in the place of one that is not there. -/
inductive IsInside (document : Json) : Json → Prop
  | whole : IsInside document document
  | absent : IsInside document .null
  | item {items : List Json} {item : Json} (inside : IsInside document (.list items)) (present : item ∈ items) :
    IsInside document item
  | member {members : List (String × Json)} {member : String × Json} (inside : IsInside document (.object members))
    (present : member ∈ members) : IsInside document member.2

theorem IsInside.isProper (inside : document.IsInside value) (proper : document.IsProper) : value.IsProper := by
  induction inside with
  | whole => exact proper
  | absent => trivial
  | item _ present ih => exact areProper_iff.mp ih _ present
  | member _ present ih => exact areProperMembers_iff.mp ih.2 _ present

theorem IsInside.fits (inside : document.IsInside value) (fits : document.fits room depth = true) :
    value.fits room depth = true := by
  induction inside with
  | whole => exact fits
  | absent => rfl
  | item _ present ih => exact fits_mono ((fits_list_iff.mp ih).2 _ present) (Nat.sub_le ..)
  | member _ present ih => exact fits_mono ((fits_object_iff.mp ih).2 _ present) (Nat.sub_le ..)

/-- A document that is read without meeting a limit. Freezing takes two calls for a level, and one more in the rules of
a field; showing takes one. -/
def IsWithin (room : Room) (document : Json) : Prop :=
  ∃ depth, document.fits room depth = true ∧ 2 * depth + 2 ≤ room.freezing ∧ depth < room.showing

theorem IsInside.freezingCalls_lt (inside : document.IsInside value) (within : document.IsWithin room) :
    value.freezingCalls < room.freezing := by
  obtain ⟨depth, fits, freezing, _⟩ := within
  have calls := freezingCalls_le_of_fits (inside.fits fits)
  omega

end Json

namespace Doc

open Json (fits_list_iff fits_object_iff)

variable {room : Room} {depth left : ℕ} {json : Json}

theorem isSpelled_ofJson (fits : json.fits room depth = true) : (ofJson json).isSpelled room = true := by
  cases json with
  | int n => exact fits
  | null | bool | float | text | list | object => rfl

theorem itemsLimit?_ofJsonItems {items : List Json}
    (each : ∀ item ∈ items, (ofJson item).showingLimit? room left = none) :
    itemsLimit? room left (ofJsonItems items) = none := by
  induction items with
  | nil => rfl
  | cons item items ih =>
    obtain ⟨first, later⟩ := List.forall_mem_cons.mp each
    rw [ofJsonItems, itemsLimit?, first, ih later, Option.or_none]

theorem entriesLimit?_ofJsonMembers {members : List (String × Json)}
    (each : ∀ member ∈ members, (ofJson member.2).showingLimit? room left = none) :
    entriesLimit? room left (ofJsonMembers members) = none := by
  induction members with
  | nil => rfl
  | cons member members ih =>
    obtain ⟨first, later⟩ := List.forall_mem_cons.mp each
    rw [ofJsonMembers, entriesLimit?, first, ih later, Option.or_none, Option.or_none]
    rfl

/-- Showing takes a call for a level. -/
theorem showingLimit?_ofJson (fits : json.fits room depth = true) (enough : depth < left) :
    (ofJson json).showingLimit? room left = none := by
  have positive : left ≠ 0 := by omega
  induction json using Json.nested generalizing depth left with
  | null | bool | float | text => exact if_neg positive
  | int n =>
    rw [Json.fits] at fits
    simp [ofJson, showingLimit?, positive, spellingLimit?, Scalar.isSpelled, fits]
  | list items ih =>
    obtain ⟨_, each⟩ := fits_list_iff.mp fits
    rw [ofJson, showingLimit?, if_neg positive]
    exact itemsLimit?_ofJsonItems fun item inside => ih item inside (each item inside) (by omega) (by omega)
  | object members ih =>
    obtain ⟨_, each⟩ := fits_object_iff.mp fits
    rw [ofJson, showingLimit?, if_neg positive]
    exact entriesLimit?_ofJsonMembers fun member inside => ih member inside (each member inside) (by omega) (by omega)

end Doc

namespace Frozen

open Json (fits_list_iff fits_object_iff)

variable {room : Room} {depth left : ℕ} {json : Json}

theorem areCopied_docs {items : List Frozen} : Doc.areCopied left (docs items) = items.all (·.isCopied left) := by
  induction items with
  | nil => rfl
  | cons item items ih => rw [docs, Doc.areCopied, ih, List.all_cons, isCopied]

theorem areWritten_docs {items : List Frozen} : Doc.areWritten room (docs items) = items.all (·.isWritten room) := by
  induction items with
  | nil => rfl
  | cons item items ih => rw [docs, Doc.areWritten, ih, List.all_cons, isWritten]

theorem isCopied_list {items : List Frozen} (enough : 2 ≤ left)
    (each : ∀ item ∈ items, item.isCopied (left - 2) = true) : (list items).isCopied left = true := by
  rw [isCopied, toDoc, Doc.isCopied, areCopied_docs, decide_eq_true enough, Bool.true_and]
  exact List.all_eq_true.mpr each

theorem isWritten_list {items : List Frozen} (each : ∀ item ∈ items, item.isWritten room = true) :
    (list items).isWritten room = true := by
  rw [isWritten, toDoc, Doc.isWritten, areWritten_docs]
  exact List.all_eq_true.mpr each

/-- Copying takes four calls for a level, those of an object and of the pairs in it, and three for what stands at the
end. -/
theorem isCopied_ofJson (fits : json.fits room depth = true) (enough : 4 * depth + 3 ≤ left) :
    (ofJson json).isCopied left = true := by
  induction json using Json.nested generalizing depth left with
  | null | bool | int | float | text => exact decide_eq_true (by omega)
  | list items ih =>
    obtain ⟨positive, each⟩ := fits_list_iff.mp fits
    refine isCopied_list (by omega) ?_
    rw [ofJsonItems_eq_map]
    simpa using fun item inside => ih item inside (each item inside) (by omega)
  | object members ih =>
    obtain ⟨positive, each⟩ := fits_object_iff.mp fits
    refine isCopied_list (by omega) (forall_mem_ofJson_object fun member inside => isCopied_list (by omega) ?_)
    have key : (scalar (.text member.1)).isCopied (left - 2 - 2) = true := decide_eq_true (by omega)
    have value := ih member inside (each member inside) (by omega : _ ≤ left - 2 - 2)
    exact List.forall_mem_cons.mpr ⟨key, List.forall_mem_singleton.mpr value⟩

/-- The whole numbers of a value that is frozen are those that it had before. -/
theorem isWritten_ofJson (fits : json.fits room depth = true) : (ofJson json).isWritten room = true := by
  induction json using Json.nested generalizing depth with
  | null | bool | float | text => rfl
  | int n => exact fits
  | list items ih =>
    refine isWritten_list ?_
    rw [ofJsonItems_eq_map]
    simpa using fun item inside => ih item inside ((fits_list_iff.mp fits).2 item inside)
  | object members ih =>
    refine isWritten_list (forall_mem_ofJson_object fun member inside => isWritten_list ?_)
    have value := ih member inside ((fits_object_iff.mp fits).2 member inside)
    exact List.forall_mem_cons.mpr ⟨rfl, List.forall_mem_singleton.mpr value⟩

end Frozen

end Prism
