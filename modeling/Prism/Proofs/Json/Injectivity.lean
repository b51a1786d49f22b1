import Prism.Proofs.Json.Reading

namespace Prism.Json

theorem writeText_append_injective {text other : String} {rest others : List Char}
    (same : (writeText text).toList ++ rest = (writeText other).toList ++ others) : text = other ∧ rest = others := by
  simp only [writeText, String.toList_ofList, List.append_assoc, List.cons_append, List.nil_append,
    List.cons.injEq, true_and] at same
  have scanned := congrArg (scanText []) same
  rw [scanText_escaped, scanText_escaped] at scanned
  obtain ⟨texts, rests⟩ := Prod.mk.inj (Except.ok.inj scanned)
  exact ⟨String.toList_inj.mp texts, rests⟩

/-- Where digits have no limit, a number or a word is read back. -/
theorem scanValue_of_isAtom {value : Json} (atom : value.isAtom = true) {rest : List Char} (ends : Ends rest) :
    scanValue { digits := none } 0 1 (value.write.toList ++ rest) = .ok (value, rest) := by
  have reads := @reads_atom { digits := none } 0 0 value atom rest ends
  have kept : value.fits { digits := none } 0 = true := by
    cases value with
    | text | list | object => exact absurd atom (by simp [isAtom])
    | null | bool | int | float => rfl
  rw [kept] at reads
  generalize scanValue { digits := none } 0 1 (value.write.toList ++ rest) = scanned at reads ⊢
  cases reads
  rfl

/-- The item and what stands behind it can be told from the text. -/
def IsDetermined {α : Type} (encode : α → List Char) (x : α) : Prop :=
  ∀ y {rest others : List Char}, Ends rest → Ends others → encode x ++ rest = encode y ++ others →
    x = y ∧ rest = others

section Sequence

variable {α : Type} {encode : α → List Char} {close : Char} {gap : List Char} {xs ys : List α}
  {rest others : List Char}

theorem follows_injective (ends : isAtomChar close = false) (noComma : close ≠ ',')
    (determined : ∀ x ∈ xs, IsDetermined encode x)
    (same : follows gap encode xs ++ close :: rest = follows gap encode ys ++ close :: others) :
    xs = ys ∧ rest = others := by
  induction xs generalizing ys with
  | nil =>
    cases ys with
    | nil => exact ⟨rfl, (List.cons.inj same).2⟩
    | cons y ys => exact absurd (List.cons.inj same).1 noComma
  | cons x xs ih =>
    cases ys with
    | nil => exact absurd (List.cons.inj same).1.symm noComma
    | cons y ys =>
      have items : encode x ++ (follows gap encode xs ++ close :: rest) =
          encode y ++ (follows gap encode ys ++ close :: others) := by
        simpa [follows] using same
      obtain ⟨rfl, tails⟩ := determined x List.mem_cons_self y (ends_follows ends) (ends_follows ends) items
      obtain ⟨rfl, behind⟩ := ih (fun x member => determined x (List.mem_cons_of_mem _ member)) tails
      exact ⟨rfl, behind⟩

/-- The items between brackets can be told from the text. -/
theorem bracketed_injective {opening closing : Char} {gaps : Gaps} (closes : isAtomChar closing = false)
    (noComma : closing ≠ ',') (noSpace : isSpace closing = false)
    (starts : ∀ x, ∃ c tail, encode x = c :: tail ∧ c ≠ closing) (determined : ∀ x ∈ xs, IsDetermined encode x)
    (same : bracketed opening closing gaps encode xs ++ rest = bracketed opening closing gaps encode ys ++ others) :
    xs = ys ∧ rest = others := by
  have filled (x : α) (tail : List Char) : (gaps.first ++ (encode x ++ tail)).head? ≠ some closing := by
    obtain ⟨c, more, shape, other⟩ := starts x
    cases blanks : gaps.first with
    | nil => simpa [shape] using other
    | cons d blanks =>
      rintro ⟨⟩
      exact absurd (gaps.blank closing (by simp [blanks])) (by simp [noSpace])
  obtain ⟨last, tail, shape, other, unlike⟩ : ∃ last tail, gaps.last ++ [closing] = last :: tail ∧
      isAtomChar last = false ∧ last ≠ ',' := by
    cases blanks : gaps.last with
    | nil => exact ⟨closing, [], rfl, closes, noComma⟩
    | cons c blanks =>
      have space := gaps.blank c (by simp [blanks])
      simp only [isSpace, Bool.or_eq_true, decide_eq_true_eq] at space
      refine ⟨c, _, rfl, ?_⟩
      rcases space with ((rfl | rfl) | rfl) | rfl <;> decide
  cases xs with
  | nil =>
    cases ys with
    | nil => exact ⟨rfl, List.append_cancel_left same⟩
    | cons y ys =>
      simp only [bracketed, List.cons_append, List.append_assoc] at same
      exact absurd (congrArg List.head? (List.cons.inj same).2).symm (filled y _)
  | cons x xs =>
    cases ys with
    | nil =>
      simp only [bracketed, List.cons_append, List.append_assoc] at same
      exact absurd (congrArg List.head? (List.cons.inj same).2) (filled x _)
    | cons y ys =>
      simp only [bracketed, shape, List.cons_append, List.append_assoc] at same
      have items := List.append_cancel_left (List.cons.inj same).2
      obtain ⟨rfl, tails⟩ := determined x List.mem_cons_self y (ends_follows other) (ends_follows other) items
      obtain ⟨rfl, behind⟩ := follows_injective other unlike
        (fun x member => determined x (List.mem_cons_of_mem _ member)) tails
      exact ⟨rfl, List.append_cancel_left behind⟩

end Sequence

theorem isDetermined_memberText {encode : Json → List Char} {member : String × Json}
    (determined : IsDetermined encode member.2) : IsDetermined (memberText encode) member := by
  intro other rest others ends endsToo same
  rw [memberText, memberText, List.append_assoc, List.append_assoc] at same
  obtain ⟨name, behind⟩ := writeText_append_injective same
  obtain ⟨value, tails⟩ := determined other.2 ends endsToo (List.cons.inj (List.cons.inj behind).2).2
  exact ⟨Prod.ext name value, tails⟩

namespace IsLayout

variable {gaps : ℕ → Gaps} {encode : ℕ → Json → List Char} (layout : IsLayout gaps encode) {level : ℕ}
  {value other : Json} {rest others : List Char}

include layout

/-- Two values that start alike are of one kind. -/
theorem opening_eq (same : encode level value ++ rest = encode level other ++ others) :
    value.opening = other.opening := by
  obtain ⟨c, tail, shape, kind⟩ := layout.exists_cons level value
  obtain ⟨d, tailToo, shapeToo, kindToo⟩ := layout.exists_cons level other
  rw [shape, shapeToo] at same
  rw [kind, kindToo, (List.cons.inj same).1]

theorem isDetermined_of_isAtom (atom : value.isAtom = true) : IsDetermined (encode level) value := by
  intro other rest others ends endsToo same
  have atomToo : other.isAtom = true := by
    have kind := layout.opening_eq same
    rw [opening_of_isAtom atom] at kind
    cases other <;> simp_all [opening, isAtom]
  rw [layout.atom level atom, layout.atom level atomToo] at same
  have scanned := scanValue_of_isAtom atom ends
  rw [same, scanValue_of_isAtom atomToo endsToo] at scanned
  exact (Prod.mk.inj (Except.ok.inj scanned)).imp Eq.symm Eq.symm

/-- A value and what stands behind it can be told from the text. The induction is on that value; another one with
the same text starts alike and so is of the same kind. -/
theorem isDetermined (level : ℕ) (value : Json) : IsDetermined (encode level) value := by
  induction value using nested generalizing level with
  | null | bool | int | float => exact layout.isDetermined_of_isAtom rfl
  | text s =>
    intro other rest others _ _ same
    cases other with
    | text t =>
      rw [layout.text, layout.text] at same
      obtain ⟨rfl, behind⟩ := writeText_append_injective same
      exact ⟨rfl, behind⟩
    | null | bool | int | float | list | object => exact absurd (layout.opening_eq same) (by simp [opening])
  | list items ih =>
    intro other rest others _ _ same
    cases other with
    | list otherItems =>
      rw [layout.list, layout.list] at same
      have start (item : Json) : ∃ c tail, encode (level + 1) item = c :: tail ∧ c ≠ ']' := by
        obtain ⟨c, tail, shape, _, other⟩ := layout.starts (level + 1) item
        exact ⟨c, tail, shape, other⟩
      obtain ⟨rfl, behind⟩ := bracketed_injective (by decide) (by decide) (by decide) start
        (fun item inside => ih item inside (level + 1)) same
      exact ⟨rfl, behind⟩
    | null | bool | int | float | text | object => exact absurd (layout.opening_eq same) (by simp [opening])
  | object members ih =>
    intro other rest others _ _ same
    cases other with
    | object otherMembers =>
      rw [layout.object, layout.object] at same
      have start (member : String × Json) : ∃ c tail, memberText (encode (level + 1)) member = c :: tail ∧ c ≠ '\x7d' :=
        ⟨'"', _, by rw [memberText, writeText, String.toList_ofList]; rfl, by decide⟩
      obtain ⟨rfl, behind⟩ := bracketed_injective (by decide) (by decide) (by decide) start
        (fun member inside => isDetermined_memberText (ih member inside (level + 1))) same
      exact ⟨rfl, behind⟩
    | null | bool | int | float | text | list => exact absurd (layout.opening_eq same) (by simp [opening])

end IsLayout

/-- No two values have the same text. -/
theorem write_injective {value other : Json} (same : value.write = other.write) : value = other :=
  (isLayout_write.isDetermined 0 value other ends_nil ends_nil (by simp only [same])).1

/-- No two values have the same text over several lines. -/
theorem pretty_injective {value other : Json} (same : value.pretty = other.pretty) : value = other :=
  (isLayout_lined.isDetermined 0 value other ends_nil ends_nil (congrArg (·.toList ++ []) same)).1

end Prism.Json
