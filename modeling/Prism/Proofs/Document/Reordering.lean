import Prism.Proofs.Document.Grammar
import Prism.Proofs.Json.Sorting
import Prism.Spec.Fingerprint

namespace Prism

namespace Json

mutual

/-- The same value with the members of its objects, at any depth, in another order. -/
inductive IsReordering : Json → Json → Prop
  | null : IsReordering .null .null
  | bool (value : Bool) : IsReordering (.bool value) (.bool value)
  | int (value : Int) : IsReordering (.int value) (.int value)
  | float (value : Float) : IsReordering (.float value) (.float value)
  | text (value : String) : IsReordering (.text value) (.text value)
  | list {items others : List Json} (each : AreReorderings items others) :
    IsReordering (.list items) (.list others)
  | object {members changed others : List (String × Json)} (each : AreReorderedMembers members changed)
    (moved : changed.Perm others) : IsReordering (.object members) (.object others)

inductive AreReorderings : List Json → List Json → Prop
  | nil : AreReorderings [] []
  | cons {item other : Json} {items others : List Json} (first : IsReordering item other)
    (later : AreReorderings items others) : AreReorderings (item :: items) (other :: others)

/-- The same names in the same order, each with a reordering of its value. -/
inductive AreReorderedMembers : List (String × Json) → List (String × Json) → Prop
  | nil : AreReorderedMembers [] []
  | cons {name : String} {value other : Json} {members others : List (String × Json)}
    (first : IsReordering value other) (later : AreReorderedMembers members others) :
    AreReorderedMembers ((name, value) :: members) ((name, other) :: others)

end

theorem AreReorderedMembers.names {members others : List (String × Json)}
    (each : AreReorderedMembers members others) : others.map (·.1) = members.map (·.1) := by
  induction members generalizing others with
  | nil =>
    cases each
    rfl
  | cons member members ih =>
    cases each with
    | cons first later => simp [ih later]

/-- Putting the members in order is a reordering. -/
theorem isReordering_sorted (value : Json) : value.IsReordering value.sorted := by
  induction value using nested with
  | null => exact .null
  | bool b => exact .bool b
  | int n => exact .int n
  | float x => exact .float x
  | text s => exact .text s
  | list items ih =>
    refine .list ?_
    induction items with
    | nil => exact .nil
    | cons item items later => exact .cons (ih item (by simp)) (later fun item inside => ih item (by simp [inside]))
  | object members ih =>
    refine .object ?_ (inOrder_perm members).symm
    induction members with
    | nil => exact .nil
    | cons member members later =>
      exact .cons (ih member (by simp)) (later fun member inside => ih member (by simp [inside]))

end Json

namespace Doc

/-- Two values from JSON of which the second is a reordering of the first. -/
def Alike (value other : Doc) : Prop :=
  ∃ json again : Json, json.IsProper ∧ json.IsReordering again ∧ value = ofJson json ∧ other = ofJson again

/-- Nothing twice, or two such values. -/
def AlikeOptions (value? other? : Option Doc) : Prop :=
  value? = none ∧ other? = none ∨ ∃ value other, value? = some value ∧ other? = some other ∧ Alike value other

theorem alike_null : Alike null null := ⟨.null, .null, trivial, .null, rfl, rfl⟩

theorem alike_ofJsonItems {items others : List Json} (proper : Json.AreProper items)
    (each : Json.AreReorderings items others) : List.Forall₂ Alike (ofJsonItems items) (ofJsonItems others) := by
  induction items generalizing others with
  | nil =>
    cases each
    exact .nil
  | cons item items ih =>
    cases each with
    | cons first later => exact .cons ⟨_, _, proper.1, first, rfl, rfl⟩ (ih proper.2 later)

theorem alike_ofJsonMembers {members others : List (String × Json)} (proper : Json.AreProperMembers members)
    (each : Json.AreReorderedMembers members others) :
    List.Forall₂ (fun entry other => entry.1 = other.1 ∧ Alike entry.2 other.2) (ofJsonMembers members)
      (ofJsonMembers others) := by
  induction members generalizing others with
  | nil =>
    cases each
    exact .nil
  | cons member members ih =>
    cases each with
    | cons first later => exact .cons ⟨rfl, _, _, proper.1, first, rfl, rfl⟩ (ih proper.2 later)

theorem lookup_alike {name : String} {entries others : List (Scalar × Doc)}
    (each : List.Forall₂ (fun entry other => entry.1 = other.1 ∧ Alike entry.2 other.2) entries others) :
    AlikeOptions (lookup name entries) (lookup name others) := by
  induction each with
  | nil => exact .inl ⟨rfl, rfl⟩
  | @cons entry other entries others here _ ih =>
    obtain ⟨key, value⟩ := entry
    obtain ⟨otherKey, otherValue⟩ := other
    obtain ⟨same, alike⟩ := here
    obtain rfl : key = otherKey := same
    cases key with
    | text key =>
      simp only [lookup]
      split
      · exact .inr ⟨_, _, rfl, rfl, alike⟩
      · exact ih
    | null | bool | int | float | moment | octets => exact ih

namespace Alike

theorem filterMap {α : Type} {items others : List Doc} (each : List.Forall₂ Alike items others)
    {read : Doc → Option α} (same : ∀ value other, Alike value other → read value = read other) :
    items.filterMap read = others.filterMap read := by
  induction each with
  | nil => rfl
  | cons here _ ih => rw [List.filterMap_cons, List.filterMap_cons, same _ _ here, ih]

variable {value other : Doc} (alike : Alike value other)

include alike

theorem lookup (name : String) :
    AlikeOptions (Doc.lookup name value.entries) (Doc.lookup name other.entries) := by
  obtain ⟨json, again, proper, reordered, rfl, rfl⟩ := alike
  cases reordered with
  | null | bool | int | float | text | list => exact .inl ⟨rfl, rfl⟩
  | @object members changed others each moved =>
    have distinct : (changed.map (·.1)).Nodup := each.names ▸ proper.1
    have found := @lookup_alike name _ _ (alike_ofJsonMembers proper.2 each)
    have moves : Doc.lookup name (ofJsonMembers changed) = Doc.lookup name (ofJsonMembers others) := by
      refine (lookup_ofJson name (.object changed)).trans (Eq.trans ?_ (lookup_ofJson name (.object others)).symm)
      rw [Json.member?, Json.member?, Json.lookup_eq, Json.lookup_eq, lookup_of_perm distinct moved]
    rwa [moves] at found

/-- The value under a name, or another one when there is none. -/
theorem lookupOr (name : String) {spare otherSpare : Doc} (spared : Alike spare otherSpare) :
    Alike ((Doc.lookup name value.entries).getD spare) ((Doc.lookup name other.entries).getD otherSpare) := by
  rcases alike.lookup name with ⟨here, there⟩ | ⟨found, again, here, there, same⟩
  · rwa [here, there]
  · rwa [here, there]

theorem get (name : String) :
    Alike (Doc.get name value.entries) (Doc.get name other.entries) :=
  alike.lookupOr name alike_null

theorem isNull : value.isNull = other.isNull := by
  obtain ⟨json, again, _, reordered, rfl, rfl⟩ := alike
  cases reordered <;> rfl

theorem firstOf (names : List String) :
    Alike (Doc.firstOf names value.entries) (Doc.firstOf names other.entries) := by
  simp only [Doc.firstOf]
  induction names with
  | nil => exact alike_null
  | cons name names ih =>
    rcases alike.lookup name with ⟨here, there⟩ | ⟨found, again, here, there, same⟩
    · simpa only [List.findSome?_cons, here, there, Option.filter_none] using ih
    · cases null : again.isNull with
      | true => simpa [List.findSome?_cons, here, there, same.isNull, null] using ih
      | false => simpa [List.findSome?_cons, here, there, Option.filter_some, same.isNull, null] using same

theorem list? : value.list? = none ∧ other.list? = none ∨
    ∃ items others, value.list? = some items ∧ other.list? = some others ∧ List.Forall₂ Alike items others := by
  obtain ⟨json, again, proper, reordered, rfl, rfl⟩ := alike
  cases reordered with
  | null | bool | int | float | text | object => exact .inl ⟨rfl, rfl⟩
  | list each => exact .inr ⟨_, _, rfl, rfl, alike_ofJsonItems proper each⟩

theorem items : List.Forall₂ Alike value.items other.items := by
  rcases alike.list? with ⟨here, there⟩ | ⟨items, others, here, there, each⟩
  · simp [Doc.items, here, there]
  · simpa [Doc.items, here, there] using each

theorem text? : value.text? = other.text? := by
  obtain ⟨json, again, _, reordered, rfl, rfl⟩ := alike
  cases reordered <;> rfl

theorem filled? : value.filled? = other.filled? := by
  rw [Doc.filled?, Doc.filled?, alike.text?]

theorem flag : value.flag = other.flag := by
  obtain ⟨json, again, _, reordered, rfl, rfl⟩ := alike
  cases reordered <;> rfl

theorem choice? {α : Type} [Labelled α] : (value.choice? : Option α) = other.choice? := by
  obtain ⟨json, again, _, reordered, rfl, rfl⟩ := alike
  cases reordered <;> rfl

theorem itemText? : value.itemText? = other.itemText? := by
  obtain ⟨json, again, _, reordered, rfl, rfl⟩ := alike
  cases reordered <;> rfl

theorem isGiven : value.isGiven = other.isGiven := by
  obtain ⟨json, again, _, reordered, rfl, rfl⟩ := alike
  cases reordered with
  | null | bool | int | float | text => rfl
  | list each => cases each <;> rfl
  | @object members changed others each moved =>
    have counted : members.length = others.length := by
      simpa using (congrArg List.length each.names).symm.trans (moved.map (·.1)).length_eq
    simp only [ofJson, Doc.isGiven, ofJsonMembers_eq_map]
    cases members <;> cases others <;> simp at counted ⊢

theorem isSpelled {room : Room} : value.isSpelled room = other.isSpelled room := by
  obtain ⟨json, again, _, reordered, rfl, rfl⟩ := alike
  cases reordered <;> rfl

theorem texts : value.texts = other.texts := by
  have each := alike.items
  obtain ⟨json, again, _, reordered, rfl, rfl⟩ := alike
  cases reordered with
  | null | bool | int | float | text | object => rfl
  | list => exact filterMap each fun _ _ same => same.itemText?

theorem filledAt (name : String) :
    (Doc.get name value.entries).filled? = (Doc.get name other.entries).filled? := (alike.get name).filled?

theorem textsAt (name : String) :
    (Doc.get name value.entries).texts = (Doc.get name other.entries).texts := (alike.get name).texts

theorem flagAt (name : String) :
    (Doc.get name value.entries).flag = (Doc.get name other.entries).flag := (alike.get name).flag

end Alike

end Doc

namespace Json

theorem membersFreezing_of_perm {members others : List (String × Json)} (moved : members.Perm others) :
    membersFreezing members = membersFreezing others := by
  refine eq_of_forall_ge_iff fun left => ?_
  rw [membersFreezing_le_iff, membersFreezing_le_iff]
  exact forall_congr' fun member => by rw [moved.mem_iff]

mutual

/-- A reordering takes the same calls, and its frozen form is the same. -/
theorem IsReordering.frozen {json other : Json} (proper : json.IsProper) (reordered : json.IsReordering other) :
    other.IsProper ∧ json.freezingCalls = other.freezingCalls ∧ Frozen.ofJson json = Frozen.ofJson other := by
  cases json with
  | null | bool | int | float | text =>
    cases reordered
    exact ⟨trivial, rfl, rfl⟩
  | list items =>
    cases reordered with
    | list each =>
      obtain ⟨properToo, calls, same⟩ := each.frozen proper
      exact ⟨properToo, congrArg (2 + ·) calls, congrArg Frozen.list same⟩
  | object members =>
    cases reordered with
    | @object _ changed others each moved =>
      obtain ⟨properToo, calls, same⟩ := each.frozen proper.2
      have names : (Frozen.ofJsonMembers changed).map (·.1) = changed.map (·.1) := by
        simp [Frozen.ofJsonMembers_eq_map, Function.comp_def]
      have distinct : (changed.map (·.1)).Nodup := each.names ▸ proper.1
      have shuffled : (Frozen.ofJsonMembers changed).Perm (Frozen.ofJsonMembers others) := by
        rw [Frozen.ofJsonMembers_eq_map, Frozen.ofJsonMembers_eq_map]
        exact moved.map _
      refine ⟨⟨(moved.map _).nodup_iff.mp distinct, ?_⟩, ?_, ?_⟩
      · exact areProperMembers_iff.mpr fun member inside =>
          areProperMembers_iff.mp properToo member (moved.mem_iff.mpr inside)
      · rw [freezingCalls, freezingCalls, calls, membersFreezing_of_perm moved]
      · rw [Frozen.ofJson, Frozen.ofJson, same, mergeSort_key_eq_of_perm (names ▸ distinct) shuffled]

theorem AreReorderings.frozen {items others : List Json} (proper : AreProper items)
    (each : AreReorderings items others) : AreProper others ∧ itemsFreezing items = itemsFreezing others ∧
      Frozen.ofJsonItems items = Frozen.ofJsonItems others := by
  cases items with
  | nil =>
    cases each
    exact ⟨trivial, rfl, rfl⟩
  | cons item items =>
    cases each with
    | cons first later =>
      obtain ⟨properToo, calls, same⟩ := first.frozen proper.1
      obtain ⟨properLater, callsLater, sameLater⟩ := later.frozen proper.2
      exact ⟨⟨properToo, properLater⟩, congrArg₂ max calls callsLater, congrArg₂ List.cons same sameLater⟩

theorem AreReorderedMembers.frozen {members others : List (String × Json)} (proper : AreProperMembers members)
    (each : AreReorderedMembers members others) : AreProperMembers others ∧
      membersFreezing members = membersFreezing others ∧
      Frozen.ofJsonMembers members = Frozen.ofJsonMembers others := by
  cases members with
  | nil =>
    cases each
    exact ⟨trivial, rfl, rfl⟩
  | cons member members =>
    cases each with
    | cons first later =>
      obtain ⟨properToo, calls, same⟩ := first.frozen proper.1
      obtain ⟨properLater, callsLater, sameLater⟩ := later.frozen proper.2
      exact ⟨⟨properToo, properLater⟩, congrArg₂ max calls callsLater,
        congrArg₂ (fun value entries => (_, value) :: entries) same sameLater⟩

end

end Json

/-- A frozen value does not depend on the order of members. -/
theorem Doc.Alike.frozen {value other : Doc} (alike : Alike value other) (room : Room) (left : ℕ) :
    Frozen.ofDoc room left value = Frozen.ofDoc room left other := by
  obtain ⟨json, again, proper, reordered, rfl, rfl⟩ := alike
  obtain ⟨properToo, calls, same⟩ := reordered.frozen proper
  rw [Frozen.ofDoc_ofJson room left json proper, Frozen.ofDoc_ofJson room left again properToo, calls, same]

namespace Checked

variable {α β : Type}

/-- Two parts that are read as related values, or of which neither is read. -/
inductive Agree (related : α → α → Prop) : Checked α → Checked α → Prop
  | ok {first second : α} (here : related first second) : Agree related (.ok first) (.ok second)
  | error (first second : List DocumentProblem) : Agree related (.error first) (.error second)

theorem agree_of_eq {first second : Checked α} (same : first = second) : Agree Eq first second := by
  subst same
  cases first with
  | ok value => exact .ok rfl
  | error problems => exact .error problems problems

theorem Agree.ok_of_eq_ok {first second : Checked α} (agree : Agree Eq first second) {value : α}
    (read : first = .ok value) : second = .ok value := by
  cases agree with
  | ok here => rwa [← here]
  | error => exact absurd read (by simp)

theorem Agree.map {related : α → α → Prop} {relatedToo : β → β → Prop} {first second : Checked α}
    (agree : Agree related first second) {f g : α → β}
    (keeps : ∀ value other, related value other → relatedToo (f value) (g other)) :
    Agree relatedToo (first.map f) (second.map g) := by
  cases agree with
  | ok here => exact .ok (keeps _ _ here)
  | error first second => exact .error first second

theorem Agree.both {related : α → α → Prop} {relatedToo : β → β → Prop} {first second : Checked α}
    {third fourth : Checked β} (agree : Agree related first second) (agreeToo : Agree relatedToo third fourth) :
    Agree (fun value other => related value.1 other.1 ∧ relatedToo value.2 other.2) (first.both third)
      (second.both fourth) := by
  cases agree with
  | ok here =>
    cases agreeToo with
    | ok there => exact .ok ⟨here, there⟩
    | error => exact .error ..
  | error => cases agreeToo <;> exact .error ..

theorem Agree.bind {related : α → α → Prop} {relatedToo : β → β → Prop} {first second : Checked α}
    (agree : Agree related first second) {f g : α → Checked β}
    (later : ∀ value other, related value other → Agree relatedToo (f value) (g other)) :
    Agree relatedToo (first >>= f) (second >>= g) := by
  cases agree with
  | ok here => exact later _ _ here
  | error first second => exact .error first second

theorem Agree.trans {first second third : Checked α} (agree : Agree Eq first second)
    (agreeToo : Agree Eq second third) : Agree Eq first third := by
  cases agree with
  | ok here => exact here ▸ agreeToo
  | error =>
    cases agreeToo
    exact .error ..

theorem agree_refused {related : α → α → Prop} (first second : Checked β) (problems others : List DocumentProblem) :
    Agree related (first >>= fun _ => .error problems) (second >>= fun _ => .error others) := by
  cases first <;> cases second <;> exact .error ..

theorem agree_all {first second : List (Checked α)} (each : List.Forall₂ (Agree Eq) first second) :
    Agree Eq (all first) (all second) := by
  induction each with
  | nil => exact .ok rfl
  | cons here _ ih =>
    refine (here.both ih).map fun value other same => ?_
    obtain rfl : value = other := Prod.ext same.1 same.2
    rfl

end Checked

namespace Specification

open Checked (Agree agree_all agree_of_eq agree_refused)
open Doc (Alike get firstOf)

section Lists

variable {α β : Type} {related : β → β → Prop} {items others : List Doc}

theorem forall₂_mapIdx (each : List.Forall₂ Alike items others) {read : Nat → Doc → β}
    (same : ∀ position value other, Alike value other → related (read position value) (read position other)) :
    List.Forall₂ related (items.mapIdx read) (others.mapIdx read) := by
  induction each generalizing read with
  | nil => exact .nil
  | cons here _ ih =>
    rw [List.mapIdx_cons, List.mapIdx_cons]
    exact .cons (same 0 _ _ here) (ih fun position => same (position + 1))

theorem agree_all_mapIdx (each : List.Forall₂ Alike items others) {read : Nat → Doc → Checked α}
    (same : ∀ position value other, Alike value other → Agree Eq (read position value) (read position other)) :
    Agree Eq (Checked.all (items.mapIdx read)) (Checked.all (others.mapIdx read)) :=
  agree_all (forall₂_mapIdx each same)

theorem agree_all_map (each : List.Forall₂ Alike items others) {read : Doc → Checked α}
    (same : ∀ value other, Alike value other → Agree Eq (read value) (read other)) :
    Agree Eq (Checked.all (items.map read)) (Checked.all (others.map read)) :=
  agree_all (List.forall₂_map_left_iff.mpr (List.forall₂_map_right_iff.mpr (each.imp same)))

theorem agree_spelled (room : Room) {values changed : List Doc}
    (same : values.all (·.isSpelled room) = changed.all (·.isSpelled room)) :
    Agree (fun _ _ => True) (Checked.spelled room values) (Checked.spelled room changed) := by
  rw [Checked.spelled, Checked.spelled, same]
  split
  · exact .ok trivial
  · exact .error ..

/-- The texts of values can be written if those of their reorderings can. -/
theorem agree_texts (room : Room) (each : List.Forall₂ Alike items others) :
    Agree (fun _ _ => True) (Checked.spelled room items) (Checked.spelled room others) := by
  refine agree_spelled room ?_
  induction each with
  | nil => rfl
  | cons here _ ih => rw [List.all_cons, List.all_cons, here.isSpelled, ih]

theorem agree_section {value other : Doc} (alike : Alike value other) (name : String) (problem : DocumentProblem) :
    Agree (List.Forall₂ Alike) (Doc.section? name problem value.entries)
      (Doc.section? name problem other.entries) := by
  rcases alike.lookup name with ⟨here, there⟩ | ⟨found, again, here, there, same⟩
  · simp only [Doc.section?, here, there]
    exact .ok .nil
  · rcases same.list? with ⟨first, second⟩ | ⟨items, others, first, second, each⟩
    · simp only [Doc.section?, here, there, first, second]
      exact .error ..
    · simp only [Doc.section?, here, there, first, second]
      exact .ok each

theorem rows_alike {first second : Checked (List Doc)} (agree : Agree (List.Forall₂ Alike) first second) :
    List.Forall₂ Alike (first.toOption.getD []) (second.toOption.getD []) := by
  cases agree with
  | ok each => exact each
  | error => exact .nil

end Lists

/-- The order of settings, by key and then by value. -/
theorem mergeSort_settings_of_perm {first second : List (String × String)} (moved : first.Perm second) :
    (first.mergeSort fun a b => a.1 < b.1 || (a.1 = b.1 && a.2 ≤ b.2)) =
      second.mergeSort fun a b => a.1 < b.1 || (a.1 = b.1 && a.2 ≤ b.2) := by
  refine mergeSort_eq_of_perm (fun a b c => ?_) (fun a b => ?_) (fun a _ b _ => ?_) moved
  · simp only [Bool.or_eq_true, Bool.and_eq_true, decide_eq_true_eq]
    rintro (below | ⟨same, below⟩) (above | ⟨alike, above⟩)
    · exact .inl (lt_trans below above)
    · exact .inl (alike ▸ below)
    · exact .inl (same ▸ above)
    · exact .inr ⟨same.trans alike, le_trans below above⟩
  · simp only [Bool.or_eq_true, Bool.and_eq_true, decide_eq_true_eq]
    rcases lt_trichotomy a.1 b.1 with below | same | above
    · exact .inl (.inl below)
    · exact (le_total a.2 b.2).imp (fun under => .inr ⟨same, under⟩) fun above => .inr ⟨same.symm, above⟩
    · exact .inr (.inl above)
  · simp only [Bool.or_eq_true, Bool.and_eq_true, decide_eq_true_eq]
    rintro (below | ⟨same, below⟩) (above | ⟨_, above⟩)
    · exact absurd above (lt_asymm below)
    · simp_all
    · simp_all
    · exact Prod.ext same (le_antisymm below above)

section Settings

variable (room : Room) {entries others : List (Scalar × Doc)}

/-- The settings are those of the same entries in any order. -/
theorem agree_readSettings_of_perm (moved : entries.Perm others) :
    Agree Eq (readSettings room entries) (readSettings room others) := by
  have kept := moved.filter fun entry => entry.2.itemText?.isSome
  refine (agree_spelled room (kept.flatMap_right _).all_eq).bind fun _ _ _ => ?_
  exact agree_of_eq (congrArg pure (mergeSort_settings_of_perm (kept.filterMap _)))

theorem agree_readSettings_of_forall₂
    (each : List.Forall₂ (fun entry other => entry.1 = other.1 ∧ Alike entry.2 other.2) entries others) :
    Agree Eq (readSettings room entries) (readSettings room others) := by
  have same : ((entries.filter fun entry => entry.2.itemText?.isSome).flatMap fun entry =>
      [.scalar entry.1, entry.2]).all (·.isSpelled room) =
      ((others.filter fun entry => entry.2.itemText?.isSome).flatMap fun entry =>
        [.scalar entry.1, entry.2]).all (·.isSpelled room) ∧
      ((entries.filter fun entry => entry.2.itemText?.isSome).filterMap fun entry =>
        entry.2.itemText?.map fun text => (entry.1.plain, text)) =
      (others.filter fun entry => entry.2.itemText?.isSome).filterMap fun entry =>
        entry.2.itemText?.map fun text => (entry.1.plain, text) := by
    induction each with
    | nil => exact ⟨rfl, rfl⟩
    | cons here _ ih =>
      rw [List.filter_cons, List.filter_cons, here.2.itemText?]
      split
      · refine ⟨by simp only [List.flatMap_cons, List.all_append, ih.1, List.all_cons, here.1, here.2.isSpelled], ?_⟩
        rw [List.filterMap_cons, List.filterMap_cons, here.1, here.2.itemText?, ih.2]
      · exact ih
  refine (agree_spelled room same.1).bind fun _ _ _ => ?_
  exact agree_of_eq (congrArg pure (mergeSort_settings_of_perm (.of_eq same.2)))

end Settings

section Readers

variable (room : Room) {value other : Doc} (owner version : String) (position : Nat) (alike : Alike value other)

include alike

/-- The values that are looked at for a name. -/
theorem agree_eitherOf (first second : String) :
    Agree (fun _ _ => True) (Checked.spelled room (Doc.eitherOf (get first value.entries) (get second value.entries)))
      (Checked.spelled room (Doc.eitherOf (get first other.entries) (get second other.entries))) := by
  rw [Doc.eitherOf, Doc.eitherOf, alike.filledAt]
  split
  · exact agree_texts room (.cons (alike.get first) .nil)
  · exact agree_texts room (.cons (alike.get first) (.cons (alike.get second) .nil))

theorem agree_readMetadata : Agree Eq (readMetadata room value) (readMetadata room other) := by
  refine (agree_texts room (.cons (alike.get "name") .nil)).bind fun _ _ _ => ?_
  simp only [Doc.textOr, alike.filledAt, alike.textsAt]
  split
  · exact .error ..
  · refine (agree_texts room (List.rel_append (List.rel_append ?_ (alike.get "tags").items)
      (alike.get "platforms").items)).bind fun _ _ _ => .ok rfl
    exact .cons (alike.get _) (.cons (alike.get _) .nil)

theorem agree_readFrozen (left : ℕ) : Agree Eq (readFrozen room left value) (readFrozen room left other) :=
  agree_of_eq (by rw [readFrozen, readFrozen, alike.frozen])

theorem agree_readValidationRule : Agree Eq (readValidationRule room value) (readValidationRule room other) := by
  refine (agree_texts room (.cons (alike.get "type") .nil)).bind fun _ _ _ => ?_
  refine (agree_readFrozen room (alike.get "value") _).bind fun _ _ same => ?_
  refine (agree_texts room (.cons (alike.get "message") .nil)).bind fun _ _ _ => ?_
  simp only [Doc.textOr, alike.filledAt, same]
  exact .ok rfl

theorem agree_readField : Agree Eq (readField room owner position value) (readField room owner position other) := by
  have kind : ((get "type" value.entries).choice? : Option FieldType) = (get "type" other.entries).choice? :=
    (alike.get "type").choice?
  refine (agree_eitherOf room alike "id" "name").bind fun _ _ _ => ?_
  simp only [Doc.textOr, alike.filledAt, alike.flagAt, kind]
  split
  · exact .error ..
  · split
    · exact agree_refused ..
    · refine (agree_texts room (.cons (alike.get "name") .nil)).bind fun _ _ _ => ?_
      refine (agree_readFrozen room (alike.lookupOr "defaultValue" (alike.get "default")) _).bind fun _ _ same => ?_
      refine (agree_all_map (alike.get "validation").items fun _ _ => agree_readValidationRule room).bind
        fun _ _ rules => ?_
      rw [same, rules]
      exact agree_of_eq rfl

theorem agree_readRelationship :
    Agree Eq (readRelationship room position value) (readRelationship room position other) := by
  refine (agree_texts room (.cons (alike.get _) (.cons (alike.get _) (.cons (alike.get _) (.cons (alike.firstOf _)
    (.cons (alike.firstOf _) .nil)))))).bind fun _ _ _ => ?_
  have first (names : List String) := (alike.firstOf names).filled?
  have text (names : List String) := (alike.firstOf names).text?
  simp only [Doc.textOr, alike.filledAt, first, text]
  exact .ok rfl

theorem agree_readConstraint : Agree Eq (readConstraint room position value) (readConstraint room position other) := by
  refine (agree_texts room (List.rel_append ?_ (alike.get "fields").items)).bind fun _ _ _ => ?_
  · exact .cons (alike.get _) (.cons (alike.get _) (.cons (alike.get _) (.cons (alike.get _) .nil)))
  have text (name : String) := (alike.get name).text?
  simp only [Doc.textOr, alike.filledAt, text, alike.textsAt]
  exact .ok rfl

theorem agree_readIndex : Agree Eq (readIndex room position value) (readIndex room position other) := by
  refine (agree_texts room (List.rel_append ?_ (alike.get "fields").items)).bind fun _ _ _ => ?_
  · exact .cons (alike.get _) (.cons (alike.get _) .nil)
  simp only [Doc.textOr, alike.filledAt, alike.flagAt, alike.textsAt]
  exact .ok rfl

theorem agree_readEntity : Agree Eq (readEntity room position value) (readEntity room position other) := by
  refine (agree_texts room (.cons (alike.get _) (.cons (alike.get _) .nil))).bind fun _ _ _ => ?_
  have rows := agree_section alike "fields" (.fieldsNotList position)
  have relationships := agree_all_mapIdx (alike.get "relationships").items
    fun place _ _ => agree_readRelationship room place
  have constraints := agree_all_mapIdx (alike.get "constraints").items
    fun place _ _ => agree_readConstraint room place
  have indexes := agree_all_mapIdx (alike.get "indexes").items fun place _ _ => agree_readIndex room place
  have rest := agree_texts room (.cons (alike.get "description") .nil)
  simp only [Doc.textOr, alike.filledAt]
  split
  · next id name _ _ =>
    have fields := agree_all_mapIdx (rows_alike rows) fun place _ _ => agree_readField room id place
    exact ((rows.both fields).both (relationships.both (constraints.both (indexes.both rest)))).map
      fun _ _ same => by rw [same.1.2, same.2.1, same.2.2.1, same.2.2.2.1]
  · exact .error ..

theorem agree_readStep : Agree Eq (readStep room owner position value) (readStep room owner position other) := by
  have kind : ((get "type" value.entries).choice? : Option StepType) = (get "type" other.entries).choice? :=
    (alike.get "type").choice?
  refine (agree_eitherOf room alike "id" "name").bind fun _ _ _ => ?_
  simp only [Doc.textOr, alike.filledAt, kind]
  split
  · exact .error ..
  · split
    · exact agree_refused ..
    · have direct := alike.firstOf ["entity"]
      have configured := (alike.get "config").firstOf ["entity", "targetEntity"]
      have next := alike.firstOf ["nextSteps", "next_steps"]
      have entity : Alike (if (firstOf ["entity"] value.entries).isGiven then firstOf ["entity"] value.entries
          else firstOf ["entity", "targetEntity"] (get "config" value.entries).entries)
          (if (firstOf ["entity"] other.entries).isGiven then firstOf ["entity"] other.entries
          else firstOf ["entity", "targetEntity"] (get "config" other.entries).entries) := by
        rw [direct.isGiven]
        split
        · exact direct
        · exact configured
      refine (agree_texts room (List.rel_append (.cons (alike.get "name") (.cons entity .nil)) next.items)).bind
        fun _ _ _ => ?_
      rw [entity.text?, next.texts]
      exact agree_of_eq rfl

theorem agree_readSettings : Agree Eq (readSettings room value.entries) (readSettings room other.entries) := by
  obtain ⟨json, again, proper, reordered, rfl, rfl⟩ := alike
  cases reordered with
  | null | bool | int | float | text | list => exact agree_of_eq rfl
  | @object members changed others each moved =>
    have same := agree_readSettings_of_forall₂ room (Doc.alike_ofJsonMembers proper.2 each)
    have shuffled : (Doc.ofJsonMembers changed).Perm (Doc.ofJsonMembers others) := by
      rw [Doc.ofJsonMembers_eq_map, Doc.ofJsonMembers_eq_map]
      exact moved.map _
    exact same.trans (agree_readSettings_of_perm room shuffled)

theorem agree_readTrigger : Agree Eq (readTrigger room position value) (readTrigger room position other) := by
  refine (agree_texts room (.cons (alike.get _) (.cons (alike.get _) .nil))).bind fun _ _ _ => ?_
  refine (agree_readSettings room (alike.get "config")).bind fun _ _ same => ?_
  simp only [Doc.textOr, alike.filledAt, same]
  exact .ok rfl

theorem agree_readAuth : Agree Eq (readAuth room value) (readAuth room other) := by
  refine (agree_texts room (.cons (alike.get _) (alike.get "permissions").items)).bind fun _ _ _ => ?_
  simp only [Doc.textOr, alike.filledAt, alike.textsAt]
  exact .ok rfl

theorem agree_readFlow : Agree Eq (readFlow room position value) (readFlow room position other) := by
  refine (agree_texts room (.cons (alike.get _) (.cons (alike.get _) .nil))).bind fun _ _ _ => ?_
  have triggers := agree_all_mapIdx (alike.get "triggers").items fun place _ _ => agree_readTrigger room place
  have auth := agree_all_map (alike.get "auth").items fun _ _ => agree_readAuth room
  have rest := agree_texts room (.cons (alike.get "description") (.cons (alike.get "type") .nil))
  simp only [Doc.textOr, alike.filledAt]
  split
  · next id name _ _ =>
    have rows := agree_section alike "steps" (.stepsNotList id)
    have steps := agree_all_mapIdx (rows_alike rows) fun place _ _ => agree_readStep room id place
    exact ((rows.both steps).both (triggers.both (auth.both rest))).map
      fun _ _ same => by rw [same.1.2, same.2.1, same.2.2.1]
  · exact .error ..

/-- What stands under a name is read from any value but a text. -/
theorem agree_readLayer? : Agree Eq (readLayer? room value) (readLayer? room other) := by
  have names := agree_eitherOf room alike "name" "id"
  have rest := agree_texts room (.cons (alike.get "description") .nil)
  have filled (name : String) := (alike.get name).filled?
  obtain ⟨json, again, _, reordered, rfl, rfl⟩ := alike
  cases reordered with
  | null | bool | int | float | text | list => exact agree_of_eq rfl
  | object =>
    refine names.bind fun _ _ _ => ?_
    simp only [Doc.textOr, filled]
    split
    · exact .ok rfl
    · exact rest.bind fun _ _ _ => .ok rfl

theorem agree_readComponent : Agree Eq (readComponent room position value) (readComponent room position other) := by
  refine (agree_eitherOf room alike "id" "name").bind fun _ _ _ => ?_
  simp only [Doc.textOr, alike.filledAt, alike.textsAt]
  split
  · exact .error ..
  · refine (agree_texts room (List.rel_append (List.rel_append ?_ (alike.get "responsibilities").items)
      (alike.get "dependencies").items)).bind fun _ _ _ => .ok rfl
    exact .cons (alike.get _) (.cons (alike.get _) (.cons (alike.get _) .nil))

theorem agree_readArchitecture : Agree Eq (readArchitecture room value) (readArchitecture room other) := by
  have layers := agree_all_map (alike.get "layers").items fun _ _ => agree_readLayer? room
  have components := agree_all_mapIdx (alike.get "components").items fun place _ _ => agree_readComponent room place
  have rest := agree_texts room (.cons (alike.get "pattern") .nil)
  refine (layers.both (components.both rest)).map fun _ _ same => ?_
  simp only [Doc.textOr, alike.filledAt, same.1, same.2.1]

theorem agree_readFramework? : Agree Eq (readFramework? room value) (readFramework? room other) := by
  have names := agree_eitherOf room alike "name" "id"
  have filled (name : String) := (alike.get name).filled?
  obtain ⟨json, again, _, reordered, rfl, rfl⟩ := alike
  cases reordered with
  | null | bool | int | float | text | list => exact agree_of_eq rfl
  | object =>
    refine names.bind fun _ _ _ => ?_
    simp only [filled]
    exact .ok rfl

theorem agree_readRule : Agree Eq (readRule room position value) (readRule room position other) := by
  have how := alike.get "implementation"
  have kind : (((Doc.lookup "type" (get "implementation" value.entries).entries).getD
      (get "implementation" value.entries)).choice? : Option Enforcement) =
      ((Doc.lookup "type" (get "implementation" other.entries).entries).getD
        (get "implementation" other.entries)).choice? := (how.lookupOr "type" how).choice?
  have location := how.lookupOr "location" (alike.get "location")
  refine (agree_texts room (.cons (alike.get "id") .nil)).bind fun _ _ _ => ?_
  simp only [Doc.textOr, alike.filledAt, kind, location.filled?]
  split
  · exact .error ..
  · split
    · exact .error ..
    · exact (agree_texts room (.cons (alike.get _) (.cons (alike.get _) (.cons (alike.get _) (.cons (alike.get _)
        (.cons location .nil)))))).bind fun _ _ _ => .ok rfl

theorem agree_readCompliance : Agree Eq (readCompliance room value) (readCompliance room other) := by
  have frameworks := agree_all_map (alike.get "frameworks").items fun _ _ => agree_readFramework? room
  have rules := agree_all_mapIdx (alike.get "rules").items fun place _ _ => agree_readRule room place
  refine (frameworks.both rules).map ?_
  rintro ⟨_, _⟩ ⟨_, _⟩ ⟨rfl, rfl⟩
  rfl

theorem agree_readSections :
    Agree Eq (readSections room version value.entries) (readSections room version other.entries) := by
  have metadata := agree_readMetadata room (alike.get "metadata")
  have entityRows := agree_section alike "entities" .entitiesNotList
  have flowRows := agree_section alike "flows" .flowsNotList
  have entities := agree_all_mapIdx (rows_alike entityRows) fun place _ _ => agree_readEntity room place
  have flows := agree_all_mapIdx (rows_alike flowRows) fun place _ _ => agree_readFlow room place
  have architecture := agree_readArchitecture room (alike.get "architecture")
  have compliance := agree_readCompliance room (alike.get "compliance")
  refine (metadata.both (entityRows.both (flowRows.both (entities.both (flows.both
    (architecture.both compliance)))))).map ?_
  rintro ⟨_, _, _, _, _, _, _⟩ ⟨_, _, _, _, _, _, _⟩ ⟨rfl, _, _, rfl, rfl, rfl, rfl⟩
  rfl

theorem version?_alike : version? value.entries = version? other.entries := by
  have given := alike.get "version"
  rw [version?, version?]
  obtain ⟨json, again, _, reordered, here, there⟩ := given
  rw [here, there]
  cases reordered <;> rfl

end Readers

/-- A document whose members are put in another order is read as the same specification, which has the same
fingerprint. -/
theorem ofDoc_reordered_members {room : Room} {json other : Json} (proper : json.IsProper)
    (reordered : json.IsReordering other) {spec : Specification} (read : ofDoc room (Doc.ofJson json) = .ok spec) :
    ∃ again, ofDoc room (Doc.ofJson other) = .ok again ∧ again = spec ∧ again.fingerprint = spec.fingerprint := by
  refine ⟨spec, ?_, rfl, rfl⟩
  have alike : Alike (Doc.ofJson json) (Doc.ofJson other) := ⟨json, other, proper, reordered, rfl, rfl⟩
  have versions := version?_alike alike
  cases reordered with
  | null | bool | int | float | text | list => exact read
  | object =>
    rw [Doc.ofJson, ofDoc] at read ⊢
    simp only [Doc.ofJson, Doc.entries] at versions
    rw [← versions]
    split at read
    · split at read <;> exact absurd read (by simp)
    · next version _ =>
      have agree := agree_readSections room version alike
      exact congrArg (Except.mapError _) (agree.ok_of_eq_ok (ok_of_mapError read))

/-- The same document with two members exchanged at its root and in both objects of the default. -/
def turnedDocument : Json := .object [
  ("metadata", .object [("name", .text "shop")]),
  ("version", .text "0.1.0"),
  ("entities", .list [.object [("id", .text "item"), ("name", .text "Item"), ("fields", .list [.object [
    ("id", .text "size"), ("type", .text " JSON "),
    ("default", .object [("b", .object [("y", .bool true), ("x", .null)]), ("a", .int 1)])]])]])]

theorem ofDoc_reordered_members_turnedDocument :
    ∃ spec again, ofDoc {} (Doc.ofJson shopDocument) = .ok spec ∧ ofDoc {} (Doc.ofJson turnedDocument) = .ok again ∧
      again = spec ∧ again.fingerprint = spec.fingerprint := by
  have default : Json.IsReordering (.object [("a", .int 1), ("b", .object [("x", .null), ("y", .bool true)])])
      (.object [("b", .object [("y", .bool true), ("x", .null)]), ("a", .int 1)]) :=
    .object (.cons (.int 1) (.cons (.object (.cons .null (.cons (.bool true) .nil)) (.swap ..)) .nil)) (.swap ..)
  have field := Json.IsReordering.object
    (.cons (.text "size") (.cons (.text " JSON ") (.cons default .nil)))
    (.refl [("id", _), ("type", _), ("default", _)])
  have entity := Json.IsReordering.object
    (.cons (.text "item") (.cons (.text "Item") (.cons (.list (.cons field .nil)) .nil)))
    (.refl [("id", _), ("name", _), ("fields", _)])
  have reordered : shopDocument.IsReordering turnedDocument :=
    .object (.cons (.text "0.1.0") (.cons (.object (.cons (.text "shop") .nil) (.refl _))
      (.cons (.list (.cons entity .nil)) .nil))) (.swap ..)
  obtain ⟨spec, read⟩ := exists_ofDoc_shopDocument
  obtain ⟨again, other, same, digest⟩ := ofDoc_reordered_members isProper_shopDocument reordered read
  exact ⟨spec, again, read, other, same, digest⟩

end Specification

end Prism
