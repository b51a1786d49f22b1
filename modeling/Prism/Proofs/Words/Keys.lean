import Prism.Layout
import Prism.Proofs.Words.Canonical

namespace Prism.Words

theorem split_eq_iff {a b : String} : split a = split b ↔ splitChars a.toList = splitChars b.toList := by
  rw [split, split, (List.map_injective_iff.mpr fun _ _ => String.ofList_injective).eq_iff]

theorem split_of_toList_eq {text : String} {c : Char} (separator : IsSeparator c) {name : String}
    (joined : name.toList = joinChars c (splitChars text.toList)) : split name = split text := by
  rw [split_eq_iff, joined, splitChars_joinChars separator fun _ => isWord_of_mem_splitChars]

/-- Every form of a name is made of its words. -/
theorem identifier_congr {a b : String} (same : splitChars a.toList = splitChars b.toList) (convention : Convention) :
    convention.identifier a = convention.identifier b := by
  have camels : camel a = camel b := by rw [camel, same, camel]
  have snakes : snake a = snake b := by rw [snake, same, snake]
  rw [Convention.identifier, camels, snakes, Convention.identifier]

theorem path_congr {a b : String} (same : splitChars a.toList = splitChars b.toList) (set : TemplateSet)
    (kind : ArtifactKind) (convention : Convention) : set.path kind convention a = set.path kind convention b := by
  have parts : PathPart.render convention a = PathPart.render convention b := by
    funext part
    cases part with
    | text => rfl
    | pascal => simp only [PathPart.render, pascal, same]
    | camel => simp only [PathPart.render, camel, same]
    | kebab => simp only [PathPart.render, kebab, same]
    | identifier => exact identifier_congr same convention
  rw [TemplateSet.path, parts, TemplateSet.path]

/-- No reserved word ends with the underscore that is put behind one. -/
theorem identifier_notMem_reservedWords {convention : Convention} (snakes : convention.casing = .snake)
    (text : String) : convention.identifier text ∉ reservedWords := by
  simp only [Convention.identifier, snakes]
  split
  · next reserved =>
    intro member
    have ends : ∀ word ∈ reservedWords, word.toList.getLast? ≠ some '_' := by decide +kernel
    exact ends _ member (by simp)
  · next free => simpa using free

/-- Names with the same key have the same words, the same hyphenated form and the same identifier in a language with
underscores, and each of these decides the key; then all their identifiers and paths are the same. Words that are
joined by a separator are read again as they were, and no such identifier is a reserved word. -/
theorem key_decides_names (a b : String) :
    [key a = key b, split a = split b, kebab a = kebab b,
      (Convention.of .python).identifier a = (Convention.of .python).identifier b].TFAE ∧
    (key a = key b → (∀ language, (Convention.of language).identifier a = (Convention.of language).identifier b) ∧
      ∀ (set : TemplateSet) (kind : ArtifactKind) (convention : Convention),
        set.path kind convention a = set.path kind convention b) ∧
    split (snake a) = split a ∧ split (kebab a) = split a ∧
    (Convention.of .python).identifier a ∉ reservedWords := by
  refine ⟨?_, ?_, split_of_toList_eq isSeparator_underscore (toList_snake a),
    split_of_toList_eq isSeparator_hyphen (toList_kebab a), identifier_notMem_reservedWords rfl a⟩
  · tfae_have 1 ↔ 2 := key_eq_iff.trans split_eq_iff.symm
    tfae_have 2 ↔ 3 := split_eq_iff.trans kebab_eq_iff.symm
    tfae_have 2 → 4 := fun same => identifier_congr (split_eq_iff.mp same) _
    tfae_have 4 → 2 := by
      intro same
      have snakes : (Convention.of .python).casing = .snake := rfl
      rw [split_eq_iff, ← splitChars_identifier_of_snake snakes a, same, splitChars_identifier_of_snake snakes]
    tfae_finish
  · intro same
    have words := key_eq_iff.mp same
    exact ⟨fun language => identifier_congr words _, path_congr words⟩

theorem key_decides_orderItem : key "orderItem" = key "Order-item" ∧
    TemplateSet.vue.path .page Convention.typescript "orderItem" =
      TemplateSet.vue.path .page Convention.typescript "Order-item" := by
  have same : key "orderItem" = key "Order-item" := by decide +kernel
  exact ⟨same, ((key_decides_names "orderItem" "Order-item").2.1 same).2 .vue .page Convention.typescript⟩

end Prism.Words
