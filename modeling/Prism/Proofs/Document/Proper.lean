import Prism.Document.Frozen
import Prism.Json.Reader
import Prism.Proofs.Fallible

namespace Prism

namespace Json

mutual

/-- The members of every object have distinct names. -/
def IsProper : Json → Prop
  | .list items => AreProper items
  | .object members => (members.map (·.1)).Nodup ∧ AreProperMembers members
  | .null | .bool _ | .int _ | .float _ | .text _ => True

def AreProper : List Json → Prop
  | [] => True
  | item :: items => item.IsProper ∧ AreProper items

def AreProperMembers : List (String × Json) → Prop
  | [] => True
  | (_, value) :: members => value.IsProper ∧ AreProperMembers members

end

/-- A property of values that a collection has when all inside it do. -/
@[elab_as_elim]
theorem nested {motive : Json → Prop} (null : motive .null) (bool : ∀ b, motive (.bool b)) (int : ∀ n, motive (.int n))
    (float : ∀ x, motive (.float x)) (text : ∀ s, motive (.text s))
    (list : ∀ items, (∀ item ∈ items, motive item) → motive (.list items))
    (object : ∀ members : List (String × Json), (∀ member ∈ members, motive member.2) → motive (.object members))
    (value : Json) : motive value :=
  @Json.rec motive (fun items => ∀ item ∈ items, motive item) (fun members => ∀ member ∈ members, motive member.2)
    (fun member => motive member.2) null bool int float text list object (by simp)
    (fun _ _ here later => List.forall_mem_cons.mpr ⟨here, later⟩) (by simp)
    (fun _ _ here later => List.forall_mem_cons.mpr ⟨here, later⟩) (fun _ _ here => here) value

theorem areProper_iff {items : List Json} : AreProper items ↔ ∀ item ∈ items, item.IsProper := by
  induction items with
  | nil => simp [AreProper]
  | cons item items ih => rw [AreProper, ih, List.forall_mem_cons]

theorem areProperMembers_iff {members : List (String × Json)} :
    AreProperMembers members ↔ ∀ member ∈ members, member.2.IsProper := by
  induction members with
  | nil => simp [AreProperMembers]
  | cons member members ih => rw [AreProperMembers, ih, List.forall_mem_cons]

mutual

/-- The calls that freezing a value takes. -/
def freezingCalls : Json → ℕ
  | .list items => 2 + itemsFreezing items
  | .object members => 2 + membersFreezing members
  | .null | .bool _ | .int _ | .float _ | .text _ => 1

def itemsFreezing : List Json → ℕ
  | [] => 0
  | item :: items => max item.freezingCalls (itemsFreezing items)

def membersFreezing : List (String × Json) → ℕ
  | [] => 0
  | (_, value) :: members => max value.freezingCalls (membersFreezing members)

end

theorem itemsFreezing_le_iff {items : List Json} {left : ℕ} :
    itemsFreezing items ≤ left ↔ ∀ item ∈ items, item.freezingCalls ≤ left := by
  induction items with
  | nil => simp [itemsFreezing]
  | cons item items ih => rw [itemsFreezing, max_le_iff, ih, List.forall_mem_cons]

theorem membersFreezing_le_iff {members : List (String × Json)} {left : ℕ} :
    membersFreezing members ≤ left ↔ ∀ member ∈ members, member.2.freezingCalls ≤ left := by
  induction members with
  | nil => simp [membersFreezing]
  | cons member members ih => rw [membersFreezing, max_le_iff, ih, List.forall_mem_cons]

end Json

namespace Frozen

theorem compareTwins_of_nodup (earlier : List (String × Frozen)) {entries : List (String × Frozen)}
    (distinct : ((earlier ++ entries).map (·.1)).Nodup) : compareTwins earlier entries = .ok () := by
  induction entries generalizing earlier with
  | nil => rfl
  | cons entry entries ih =>
    have alone : earlier.filter (·.1 = entry.1) = [] := by
      rw [List.filter_eq_nil_iff]
      intro other member same
      rw [List.map_append, List.nodup_append] at distinct
      exact distinct.2.2 other.1 (List.mem_map_of_mem member) entry.1 (by simp) (of_decide_eq_true same)
    have moved : ((entry :: earlier ++ entries).map (·.1)).Nodup :=
      ((List.perm_middle.symm).map _).nodup_iff.mpr distinct
    simp only [compareTwins, alone, List.forIn_nil, pure_bind]
    exact ih _ moved

theorem foldlM_place_of_nodup (placed : List (String × Frozen)) {entries : List (String × Frozen)}
    (distinct : ((placed ++ entries).map (·.1)).Nodup) :
    entries.foldlM (fun placed entry => place entry placed) placed = .ok (entries.reverse ++ placed) := by
  induction entries generalizing placed with
  | nil => rfl
  | cons entry entries ih =>
    have moved : ((entry :: placed ++ entries).map (·.1)).Nodup :=
      ((List.perm_middle.symm).map _).nodup_iff.mpr distinct
    have put : place entry placed = .ok (entry :: placed) := by
      cases placed with
      | nil => rfl
      | cons last others =>
        have differs : last.1 ≠ entry.1 := by
          intro same
          simp [same] at moved
        rw [place, if_pos differs]
    rw [List.foldlM_cons, put, List.reverse_cons, List.append_assoc]
    exact ih _ moved

/-- Entries with distinct keys are sorted by key alone. -/
theorem arrange_of_nodup {entries : List (String × Frozen)} (distinct : (entries.map (·.1)).Nodup) :
    arrange entries = .ok (entries.mergeSort fun a b => a.1 ≤ b.1) := by
  have sorted : ((entries.mergeSort fun a b => a.1 ≤ b.1).map (·.1)).Nodup :=
    ((List.mergeSort_perm entries _).map _).nodup_iff.mpr distinct
  have compared := compareTwins_of_nodup [] distinct
  have placed := foldlM_place_of_nodup [] sorted
  simp only [arrange, compared, placed, bind, Except.bind, List.append_nil, List.reverse_reverse]
  rfl

mutual

/-- The value holds only what JSON has. -/
def IsPlain : Frozen → Prop
  | .scalar (.moment _) | .scalar (.octets _) | .kept _ => False
  | .scalar _ => True
  | .list items => ArePlain items

def ArePlain : List Frozen → Prop
  | [] => True
  | item :: items => item.IsPlain ∧ ArePlain items

end

theorem arePlain_iff {items : List Frozen} : ArePlain items ↔ ∀ item ∈ items, item.IsPlain := by
  induction items with
  | nil => simp [ArePlain]
  | cons item items ih => simp [ArePlain, ih]

mutual

/-- The frozen form of a JSON value: an object becomes the pairs of its members in the order of their names. -/
def ofJson : Json → Frozen
  | .null => .scalar .null
  | .bool b => .scalar (.bool b)
  | .int n => .scalar (.int n)
  | .float x => .scalar (.float x)
  | .text s => .scalar (.text s)
  | .list items => .list (ofJsonItems items)
  | .object members =>
    .list (((ofJsonMembers members).mergeSort fun a b => a.1 ≤ b.1).map fun entry => pair entry.1 entry.2)

def ofJsonItems : List Json → List Frozen
  | [] => []
  | item :: items => ofJson item :: ofJsonItems items

def ofJsonMembers : List (String × Json) → List (String × Frozen)
  | [] => []
  | (name, value) :: members => (name, ofJson value) :: ofJsonMembers members

end

theorem ofJsonItems_eq_map (items : List Json) : ofJsonItems items = items.map ofJson := by
  induction items with
  | nil => rfl
  | cons item items ih => rw [ofJsonItems, ih, List.map_cons]

theorem ofJsonMembers_eq_map (members : List (String × Json)) :
    ofJsonMembers members = members.map fun member => (member.1, ofJson member.2) := by
  induction members with
  | nil => rfl
  | cons member members ih => rw [ofJsonMembers, ih, List.map_cons]

/-- What holds of the pairs of all members holds of the items of a frozen object. -/
theorem forall_mem_ofJson_object {holds : Frozen → Prop} {members : List (String × Json)}
    (each : ∀ member ∈ members, holds (pair member.1 (ofJson member.2))) :
    ∀ item ∈ ((ofJsonMembers members).mergeSort fun a b => a.1 ≤ b.1).map fun entry => pair entry.1 entry.2,
      holds item := by
  intro item inside
  obtain ⟨entry, sorted, rfl⟩ := List.mem_map.mp inside
  have present := (List.mergeSort_perm _ _).subset sorted
  rw [ofJsonMembers_eq_map] at present
  obtain ⟨member, there, rfl⟩ := List.mem_map.mp present
  exact each member there

/-- A frozen JSON value holds only what JSON has. -/
theorem isPlain_ofJson (json : Json) : (ofJson json).IsPlain := by
  induction json using Json.nested with
  | null | bool | int | float | text => trivial
  | list items ih =>
    rw [ofJson, IsPlain, arePlain_iff, ofJsonItems_eq_map]
    simpa using ih
  | object members ih =>
    rw [ofJson, IsPlain, arePlain_iff]
    exact forall_mem_ofJson_object fun member inside => ⟨trivial, ih member inside, trivial⟩

/-- Two parts that are gone through with the same calls take those of the larger one. -/
theorem taking_both {α β γ : Type} (calls more left : ℕ) (value : α) (other : β) (f : α → β → γ) :
    (taking calls left (.ok value) >>= fun first => taking more left (.ok other) >>= fun second =>
      .ok (f first second)) = taking (max calls more) left (.ok (f value other)) := by
  by_cases enough : calls ≤ left <;> by_cases enoughToo : more ≤ left <;>
    simp [taking, enough, enoughToo, bind, Except.bind]

theorem taking_taking {α : Type} (calls more left : ℕ) (next : Except Obstacle α) :
    taking calls left (taking more (left - calls) next) = taking (calls + more) left next := by
  by_cases enough : calls + more ≤ left
  · have first : calls ≤ left := by omega
    have second : more ≤ left - calls := by omega
    rw [taking, if_pos first, taking, if_pos second, taking, if_pos enough]
  · rw [taking, taking, taking, if_neg enough]
    by_cases first : calls ≤ left
    · rw [if_pos first, if_neg (by omega)]
    · rw [if_neg first]

theorem taking_map {α β : Type} (calls left : ℕ) (value : α) (f : α → β) :
    (taking calls left (.ok value) >>= fun found => .ok (f found)) = taking calls left (.ok (f value)) := by
  by_cases enough : calls ≤ left <;> simp [taking, enough, bind, Except.bind]

mutual

/-- A JSON value is frozen exactly when there are calls enough. -/
theorem ofDoc_ofJson (room : Room) (left : ℕ) (json : Json) (proper : json.IsProper) :
    ofDoc room left (Doc.ofJson json) = taking json.freezingCalls left (.ok (ofJson json)) := by
  cases json with
  | null | bool | int | float | text => rfl
  | list items =>
    rw [Json.freezingCalls, ← taking_taking, Doc.ofJson, ofDoc, ofItems_ofJson room _ items proper, ofJson]
    exact congrArg _ (taking_map ..)
  | object members =>
    have names : (ofJsonMembers members).map (·.1) = members.map (·.1) := by
      simp [ofJsonMembers_eq_map, Function.comp_def]
    have arranged := arrange_of_nodup (names ▸ proper.1)
    rw [Json.freezingCalls, ← taking_taking, Doc.ofJson, ofDoc, ofEntries_ofJson room _ members proper.2, ofJson]
    by_cases enough : Json.membersFreezing members ≤ left - 2
    · simp only [taking, enough, if_true, bind, Except.bind, arranged, Except.mapError]
      rfl
    · simp only [taking, enough, if_false, bind, Except.bind]

theorem ofItems_ofJson (room : Room) (left : ℕ) (items : List Json) (proper : Json.AreProper items) :
    ofItems room left (Doc.ofJsonItems items) = taking (Json.itemsFreezing items) left (.ok (ofJsonItems items)) := by
  cases items with
  | nil => rfl
  | cons item items =>
    rw [Doc.ofJsonItems, ofItems, ofDoc_ofJson room left item proper.1, ofItems_ofJson room left items proper.2,
      ofJsonItems, Json.itemsFreezing]
    exact taking_both ..

theorem ofEntries_ofJson (room : Room) (left : ℕ) (members : List (String × Json))
    (proper : Json.AreProperMembers members) :
    ofEntries room left (Doc.ofJsonMembers members) =
      taking (Json.membersFreezing members) left (.ok (ofJsonMembers members)) := by
  cases members with
  | nil => rfl
  | cons member members =>
    rw [Doc.ofJsonMembers, ofEntries, ofDoc_ofJson room left member.2 proper.1,
      ofEntries_ofJson room left members proper.2, ofJsonMembers, Json.membersFreezing]
    exact taking_both _ _ _ _ _ fun value others => (member.1, value) :: others

end

end Frozen

end Prism
