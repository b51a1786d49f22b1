import Mathlib

namespace Prism

theorem exists_of_bind_eq_ok {ε α β : Type} {x : Except ε α} {f : α → Except ε β} {result : β}
    (ok : (x >>= f) = .ok result) : ∃ value, x = .ok value ∧ f value = .ok result := by
  cases x with
  | error fault => exact absurd ok (by simp [bind, Except.bind])
  | ok value => exact ⟨value, rfl, ok⟩

theorem exists_of_map_eq_ok {ε α β : Type} {x : Except ε α} {f : α → β} {result : β}
    (ok : x.map f = .ok result) : ∃ value, x = .ok value ∧ f value = result := by
  cases x with
  | error fault => exact absurd ok (by simp [Except.map])
  | ok value => exact ⟨value, rfl, Except.ok.inj ok⟩

theorem ok_of_mapError {ε δ α : Type} {x : Except ε α} {f : ε → δ} {value : α}
    (ok : x.mapError f = .ok value) : x = .ok value := by
  cases x with
  | error fault => exact absurd ok (by simp [Except.mapError])
  | ok other => exact congrArg Except.ok (Except.ok.inj ok)

section Lists

variable {α β ε : Type} {f : α → Except ε β} {items : List α} {values : List β}

/-- The values of a list are those of its items, one for each. -/
theorem mapM_eq_ok_iff :
    items.mapM f = .ok values ↔ List.Forall₂ (fun item value => f item = .ok value) items values := by
  constructor
  · intro ok
    induction items generalizing values with
    | nil => exact Except.ok.inj ok ▸ .nil
    | cons item items ih =>
      rw [List.mapM_cons] at ok
      obtain ⟨value, here, ok⟩ := exists_of_bind_eq_ok ok
      obtain ⟨others, later, ok⟩ := exists_of_bind_eq_ok ok
      obtain rfl := Except.ok.inj ok
      exact .cons here (ih later)
  · intro pairs
    induction pairs with
    | nil => rfl
    | cons here _ later =>
      rw [List.mapM_cons, here, later]
      rfl

theorem forall₂_of_mapM_ok (ok : items.mapM f = .ok values) :
    List.Forall₂ (fun item value => f item = .ok value) items values :=
  mapM_eq_ok_iff.mp ok

/-- What every value has in common with its item, the lists have in common. -/
theorem map_of_mapM_ok {γ : Type} {left : β → γ} {right : α → γ}
    (each : ∀ item value, f item = .ok value → left value = right item)
    (ok : items.mapM f = .ok values) : values.map left = items.map right := by
  have pairs := forall₂_of_mapM_ok ok
  clear ok
  induction pairs with
  | nil => rfl
  | cons here _ ih => rw [List.map_cons, List.map_cons, each _ _ here, ih]

theorem exists_of_mem_forall₂ {R : α → β → Prop} (pairs : List.Forall₂ R items values) {value : β}
    (member : value ∈ values) : ∃ item ∈ items, R item value := by
  obtain ⟨index, place, rfl⟩ := List.mem_iff_getElem.mp member
  have bound : index < items.length := pairs.length_eq ▸ place
  exact ⟨items.get ⟨index, bound⟩, List.get_mem .., pairs.get bound place⟩

theorem exists_of_mem_mapM_ok (ok : items.mapM f = .ok values) {value : β} (member : value ∈ values) :
    ∃ item ∈ items, f item = .ok value :=
  exists_of_mem_forall₂ (forall₂_of_mapM_ok ok) member

/-- Where every item gives a value, so does the list; every value comes from an item. -/
theorem exists_mapM_ok (each : ∀ item ∈ items, ∃ value, f item = .ok value) :
    ∃ values, items.mapM f = .ok values ∧ ∀ value ∈ values, ∃ item ∈ items, f item = .ok value := by
  have given : ∃ values, items.mapM f = .ok values := by
    induction items with
    | nil => exact ⟨[], rfl⟩
    | cons item items ih =>
      obtain ⟨here, later⟩ := List.forall_mem_cons.mp each
      obtain ⟨value, gives⟩ := here
      obtain ⟨values, others⟩ := ih later
      exact ⟨value :: values, by rw [List.mapM_cons, gives, others]; rfl⟩
  exact given.imp fun values ok => ⟨ok, fun value => exists_of_mem_mapM_ok ok⟩

theorem exists_mem_mapM_ok (ok : items.mapM f = .ok values) {item : α} (member : item ∈ items) :
    ∃ value ∈ values, f item = .ok value :=
  exists_of_mem_forall₂ (forall₂_of_mapM_ok ok).flip member

theorem exists_mapM_ok_iff :
    (∃ values, items.mapM f = .ok values) ↔ ∀ item ∈ items, ∃ value, f item = .ok value := by
  constructor
  · rintro ⟨values, ok⟩ item member
    exact (exists_mem_mapM_ok ok member).imp fun _ found => found.2
  · intro each
    exact (exists_mapM_ok each).imp fun _ found => found.1

/-- Items in another order give the same values in another order. -/
theorem exists_mapM_ok_perm {others : List α} (ok : items.mapM f = .ok values) (moved : items.Perm others) :
    ∃ changed, others.mapM f = .ok changed ∧ values.Perm changed := by
  obtain ⟨changed, gives, same⟩ := List.perm_comp_forall₂ moved.symm (forall₂_of_mapM_ok ok)
  exact ⟨changed, mapM_eq_ok_iff.mpr gives, same.symm⟩

theorem exists_foldlM_ok {f : β → α → Except ε β} (start : β)
    (each : ∀ before, ∀ item ∈ items, ∃ after, f before item = .ok after) :
    ∃ final, items.foldlM f start = .ok final := by
  induction items generalizing start with
  | nil => exact ⟨start, rfl⟩
  | cons item items ih =>
    obtain ⟨after, here⟩ := each start item List.mem_cons_self
    rw [List.foldlM_cons, here]
    exact ih after fun before other inside => each before other (List.mem_cons_of_mem _ inside)

end Lists

/-- What each item keeps, from its own position to the next, holds at the end. -/
theorem of_foldlM_zipIdx_eq_ok {α β ε : Type} {motive : Nat → β → Prop} {f : β → α × Nat → Except ε β}
    {items : List α} {position : Nat} {start final : β} (holds : motive position start)
    (keeps : ∀ before index item, items[index]? = some item → motive (position + index) before →
      ∀ after, f before (item, position + index) = .ok after → motive (position + index + 1) after)
    (folded : (items.zipIdx position).foldlM f start = .ok final) : motive (position + items.length) final := by
  induction items generalizing position start with
  | nil => exact Except.ok.inj folded ▸ holds
  | cons item items ih =>
    rw [List.zipIdx_cons, List.foldlM_cons] at folded
    obtain ⟨next, first, folded⟩ := exists_of_bind_eq_ok folded
    have moved := keeps start 0 item rfl holds next first
    rw [List.length_cons, Nat.add_comm items.length, ← Nat.add_assoc]
    refine ih moved (fun before index other place reached after turned => ?_) folded
    have shifted : position + 1 + index = position + (index + 1) := by omega
    rw [shifted] at reached turned ⊢
    exact keeps before (index + 1) other place reached after turned

theorem of_foldl_zipIdx {α β : Type} {motive : Nat → β → Prop} {f : β → α × Nat → β} {items : List α} {start : β}
    (holds : motive 0 start)
    (keeps : ∀ before index item, items[index]? = some item → motive index before →
      motive (index + 1) (f before (item, index))) : motive items.length (items.zipIdx.foldl f start) := by
  have folded : items.zipIdx.foldlM (fun before place => (.ok (f before place) : Except Empty β)) start =
      .ok (items.zipIdx.foldl f start) := List.foldlM_pure
  have done := of_foldlM_zipIdx_eq_ok holds (fun before index item place reached after turned => ?_) folded
  · rwa [Nat.zero_add] at done
  · rw [Nat.zero_add] at reached turned ⊢
    exact Except.ok.inj turned ▸ keeps before index item place reached

theorem eq_some_of_orElse {α : Type} {first second : Option α} {value : α}
    (found : (first <|> second) = some value) : first = some value ∨ second = some value := by
  cases first with
  | none => exact Or.inr found
  | some other => exact Or.inl found

/-- A value that is there is found by its key, or another with the same key is. -/
theorem exists_find? {α : Type} {key : α → String} {items : List α} {item : α} (member : item ∈ items) :
    ∃ found ∈ items, key found = key item ∧ items.find? (fun other => key other = key item) = some found := by
  cases search : items.find? (fun other => key other = key item) with
  | none => exact absurd (decide_eq_true rfl) (List.find?_eq_none.mp search item member)
  | some found => exact ⟨found, List.mem_of_find?_eq_some search, by simpa using List.find?_some search, rfl⟩

/-- Among values with different keys each is found by its key. -/
theorem find?_of_nodup {α : Type} {key : α → String} {items : List α} {item : α} (nodup : (items.map key).Nodup)
    (member : item ∈ items) : items.find? (fun other => key other = key item) = some item := by
  obtain ⟨found, inside, same, search⟩ := @exists_find? α key items item member
  rw [search, List.inj_on_of_nodup_map nodup inside member same]

end Prism
