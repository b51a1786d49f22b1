import Prism.Proofs.Words.Keys

namespace Prism.Words

section Rows

variable {α : Type*} {sticks : α → α → Bool} {a b : α} {rest : List α}

theorem splitBy_of_not_sticks (apart : sticks a b = false) :
    (a :: b :: rest).splitBy sticks = [a] :: (b :: rest).splitBy sticks :=
  List.splitBy_append_cons (l := [a]) rest (by simpa using apart)

theorem splitBy_of_sticks {row : List α} {rows : List (List α)} (joined : sticks a b = true)
    (later : (b :: rest).splitBy sticks = row :: rows) :
    (a :: b :: rest).splitBy sticks = (a :: row) :: rows := by
  rw [List.splitBy_eq_iff] at later ⊢
  obtain ⟨whole, filled, chains, ends⟩ := later
  simp only [List.mem_cons, not_or] at filled
  obtain ⟨c, more, rfl⟩ := List.exists_cons_of_ne_nil (Ne.symm filled.1)
  obtain ⟨rfl, -⟩ := List.cons.inj whole
  obtain ⟨chain, chainsLater⟩ := List.forall_mem_cons.mp chains
  refine ⟨by rw [whole]; rfl, by simpa using filled.2, ?_, ?_⟩
  · exact List.forall_mem_cons.mpr ⟨List.isChain_cons_cons.mpr ⟨joined, chain⟩, chainsLater⟩
  · obtain ⟨next, endsLater⟩ := List.isChain_cons.mp ends
    refine List.isChain_cons.mpr ⟨fun follower head => ?_, endsLater⟩
    obtain ⟨some, someToo, apart⟩ := next follower head
    exact ⟨List.cons_ne_nil _ _, someToo, by simpa using apart⟩

end Rows

/-- Joining the words of each row is the same as gluing words that stick together. -/
theorem map_join_splitBy (sticks : List Char → List Char → Bool) (words : List (List Char)) :
    ((words.map String.ofList).splitBy fun word next => sticks word.toList next.toList).map String.join =
      (glue sticks words).map String.ofList := by
  induction words with
  | nil => rfl
  | cons word words ih =>
    cases words with
    | nil => simp [glue, List.splitBy, List.splitBy.loop]
    | cons next words =>
      simp only [List.map_cons] at ih ⊢
      by_cases joined : sticks word next = true
      · obtain ⟨more, others, later⟩ := glue_cons sticks next words
        rw [later] at ih
        obtain ⟨row, rows, rowsLater, first, behind⟩ := List.map_eq_cons_iff.mp ih
        rw [splitBy_of_sticks (by simpa using joined) rowsLater, glue_of_sticks joined later]
        simp [first, behind]
      · have apart : sticks word next = false := by simpa using joined
        rw [splitBy_of_not_sticks (by simpa using apart), glue_of_not_sticks apart, List.map_cons, ih]
        simp

/-- The words with every row of numbers as one number. -/
def numbersJoined (words : List String) : List String :=
  (words.splitBy fun word next => isNumber word.toList && isNumber next.toList).map String.join

theorem map_toList_split (text : String) : (split text).map String.toList = splitChars text.toList := by
  simp [split, Function.comp_def]

theorem numbersJoined_split_eq_iff {a b : String} :
    numbersJoined (split a) = numbersJoined (split b) ↔
      fused (splitChars a.toList) = fused (splitChars b.toList) := by
  have joined (text : String) :
      numbersJoined (split text) = (fused (splitChars text.toList)).map String.ofList :=
    map_join_splitBy (fun word next => isNumber word && isNumber next) _
  rw [joined, joined, (List.map_injective_iff.mpr fun _ _ => String.ofList_injective).eq_iff]

theorem fused_of_apart {words : List (List Char)} (areWords : ∀ word ∈ words, IsWord word)
    (apart : Apart isNumber words) : fused words = words :=
  (glue_eq_self_iff fun word member => (areWords word member).1).mpr apart

/-- Two names have the same capitals in front of all words, or of all but the first, exactly when they have the same
words with every row of numbers as one number. Names with different keys then have numbers that follow each other. -/
theorem capitals_eq_iff_numbersJoined (a b : String) :
    [pascal a = pascal b, camel a = camel b, numbersJoined (split a) = numbersJoined (split b)].TFAE ∧
    (key a ≠ key b → pascal a = pascal b →
      ¬Apart isNumber ((split a).map String.toList) ∨ ¬Apart isNumber ((split b).map String.toList)) := by
  refine ⟨?_, fun differ same => ?_⟩
  · tfae_have 1 ↔ 3 := pascal_eq_iff.trans numbersJoined_split_eq_iff.symm
    tfae_have 2 ↔ 3 := canonical_eq_iff.trans numbersJoined_split_eq_iff.symm
    tfae_finish
  · rw [map_toList_split, map_toList_split, ← not_and_or]
    rintro ⟨apart, apartToo⟩
    have words := pascal_eq_iff.mp same
    rw [fused_of_apart (fun _ => isWord_of_mem_splitChars) apart,
      fused_of_apart (fun _ => isWord_of_mem_splitChars) apartToo] at words
    exact differ (key_eq_iff.mpr words)

theorem capitals_eq_version : key "version 1.2" ≠ key "version 12" ∧ pascal "version 1.2" = pascal "version 12" ∧
    (¬Apart isNumber ((split "version 1.2").map String.toList) ∨
      ¬Apart isNumber ((split "version 12").map String.toList)) := by
  have differ : key "version 1.2" ≠ key "version 12" := by decide +kernel
  have same : pascal "version 1.2" = pascal "version 12" := by decide +kernel
  exact ⟨differ, same, (capitals_eq_iff_numbersJoined _ _).2 differ same⟩

theorem isChain_sticksRead_iff {words : List (List Char)} :
    (words.IsChain fun word next => sticksRead word next = false) ↔ Apart isLetter words ∧ Apart isNumber words := by
  simp only [Apart, List.isChain_iff_getElem, sticksRead, Bool.or_eq_false_iff, forall_and]

/-- A name with capitals in front of all words is read as its words exactly when no two single letters and no two
numbers follow each other; and one with a small first word is its own canonical name exactly when no two single letters
follow each other behind the first word. -/
theorem capitals_read_again_iff (text : String) :
    (split (pascal text) = split text ↔
      Apart isLetter ((split text).map String.toList) ∧ Apart isNumber ((split text).map String.toList)) ∧
    (canonical (camel text) = camel text ↔ Apart isLetter ((split text).map String.toList).tail) := by
  rw [map_toList_split]
  refine ⟨?_, canonical_camel_iff⟩
  have areWords : ∀ word ∈ splitChars text.toList, IsWord word := fun _ => isWord_of_mem_splitChars
  rw [split_eq_iff, toList_pascal, splitChars_pascalChars areWords,
    glue_eq_self_iff fun word member => (areWords word member).1, isChain_sticksRead_iff]

end Prism.Words
