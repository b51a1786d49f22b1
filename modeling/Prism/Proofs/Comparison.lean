import Prism.Proofs.Coverage
import Prism.Proofs.Variations

namespace Prism

/-- The number of elements of some contracts. -/
def Contract.countElements (contracts : List Contract) : Nat := total (contracts.map (·.elements.length))

theorem Contract.countElements_filter_cons (test : Contract → Bool) (contract : Contract) (contracts : List Contract) :
    countElements ((contract :: contracts).filter test) =
      (if test contract then contract.elements.length else 0) + countElements (contracts.filter test) := by
  rw [List.filter_cons]
  split
  · rfl
  · rw [Nat.zero_add]

/-- An emitted element agrees with a declared one, whatever its name is: it has the family, if one is declared, the
same flag and, where the shape counts, the same shape. -/
@[mk_iff]
structure ContractElement.Agrees (dimension : Dimension) (declared actual : ContractElement) : Prop where
  family : declared.family = none ∨ actual.family = declared.family
  required : actual.required = declared.required
  shape : dimension = .apiContracts → actual.nativeType = declared.nativeType

namespace Comparison

variable {targetId : String} {emitted : List Contract} {dimension : Dimension} {contracts : List Contract}

theorem weight_ne_low (required : Bool) : (if required = true then Impact.high else .medium) ≠ .low := by
  cases required <;> decide

/-- All differences weigh little exactly when there is a counterpart that agrees. -/
theorem forall_impact_eq_low_iff {subject : String} {declared : ContractElement} {actual : Contract} :
    (∀ variation ∈ elementVariations targetId dimension subject declared actual, variation.impact = .low) ↔
      ∃ element ∈ counterpart? actual declared.name, declared.Agrees dimension element := by
  cases found : counterpart? actual declared.name with
  | none => simp [elementVariations, found, weight_ne_low]
  | some element =>
    have heavy : Impact.high ≠ .low := by decide
    have shape : (decide (dimension ≠ .apiContracts) || decide (element.nativeType = declared.nativeType)) = true ↔
        (dimension = .apiContracts → element.nativeType = declared.nativeType) := by
      rw [Bool.or_eq_true, decide_eq_true_iff, decide_eq_true_iff, imp_iff_not_or]
    cases family : declared.family <;>
      simp only [elementVariations, found, family, List.forall_mem_append, forall_mem_unless_iff, weight_ne_low, heavy,
        shape, ContractElement.agrees_iff, and_assoc, or_true, true_or, or_false, false_or, true_and, Option.mem_def,
        Option.some.injEq, exists_eq_left', List.not_mem_nil, false_implies, implies_true, reduceCtorEq]

/-- Every difference names the element that was declared. -/
theorem names_of_mem {subject : String} {declared : ContractElement} {actual : Contract} :
    ∀ variation ∈ elementVariations targetId dimension subject declared actual,
      variation.dimension = dimension ∧ variation.subject = subject ∧ variation.element = declared.name := by
  cases found : counterpart? actual declared.name with
  | none => simp [elementVariations, found]
  | some element =>
    cases family : declared.family <;>
      simp only [elementVariations, found, family, List.forall_mem_append, forall_mem_unless_iff, and_self, or_true,
        List.not_mem_nil, false_implies, implies_true]

section Counts

variable (targetId emitted dimension)

/-- The number of elements of an emitted contract that have a difference of more weight than a new name. -/
def deviatingIn (contract : Contract) : Nat :=
  ((emittedFor? emitted dimension contract.subject).map fun actual => contract.elements.countP fun declared =>
    (elementVariations targetId dimension contract.subject declared actual).any (·.impact ≠ .low)).getD 0

/-- The number of such elements in all emitted contracts. -/
def countDeviating (contracts : List Contract) : Nat :=
  total (contracts.map (deviatingIn targetId emitted dimension))

end Counts

/-- An emitted contract has the findings of each of its elements, any other has none. -/
theorem length_contractFindings (contract : Contract) :
    (contractFindings targetId emitted dimension contract).length =
      if isCovered emitted dimension contract then contract.elements.length else 0 := by
  unfold contractFindings isCovered
  cases emittedFor? emitted dimension contract.subject <;> simp

theorem length_findings : (findings targetId emitted dimension contracts).length =
    Contract.countElements (contracts.filter (isCovered emitted dimension)) := by
  induction contracts with
  | nil => rfl
  | cons contract contracts ih =>
    rw [findings, List.flatMap_cons, List.length_append, length_contractFindings, ← findings, ih,
      Contract.countElements_filter_cons]

/-- The elements of an emitted contract are matched or deviate, those of any other are uncovered. -/
theorem contract_accounted (contract : Contract) :
    (contractFindings targetId emitted dimension contract).countP (fun found => found.all (·.impact = .low)) +
        deviatingIn targetId emitted dimension contract +
        (if isCovered emitted dimension contract then 0 else contract.elements.length) =
      contract.elements.length := by
  unfold contractFindings deviatingIn isCovered
  cases emittedFor? emitted dimension contract.subject with
  | none => simp
  | some actual =>
    have whole := List.length_eq_countP_add_countP (l := contract.elements) fun declared =>
      (elementVariations targetId dimension contract.subject declared actual).all (·.impact = .low)
    simp only [List.countP_map, Option.map_some, Option.getD_some, Option.isSome_some, if_true, Nat.add_zero]
    rw [whole]
    congr 1
    refine List.countP_congr fun declared _ => ?_
    simp

/-- Every element of a dimension is accounted for once. -/
theorem findings_accounted :
    (findings targetId emitted dimension contracts).countP (fun found => found.all (·.impact = .low)) +
        countDeviating targetId emitted dimension contracts +
        Contract.countElements (contracts.filter fun contract => !isCovered emitted dimension contract) =
      Contract.countElements contracts := by
  induction contracts with
  | nil => rfl
  | cons contract contracts ih =>
    have here := @contract_accounted targetId emitted dimension contract
    have deviating : countDeviating targetId emitted dimension (contract :: contracts) =
      deviatingIn targetId emitted dimension contract + countDeviating targetId emitted dimension contracts := rfl
    have elements : Contract.countElements (contract :: contracts) =
      contract.elements.length + Contract.countElements contracts := rfl
    rw [findings, List.flatMap_cons, List.countP_append, ← findings, deviating, elements,
      Contract.countElements_filter_cons]
    cases covered : isCovered emitted dimension contract <;>
      simp only [covered, Bool.not_true, Bool.not_false, Bool.false_eq_true, if_true, if_false] at here ⊢ <;> omega

end Comparison

/-- What the counts of a declared dimension account for: each element is matched, deviates or is uncovered, no more
elements vary than belong to emitted contracts, and no more contracts are covered than there are. -/
structure Tally.Accounts (targetId : String) (emitted contracts : List Contract) (tally : Tally) : Prop where
  elements : tally.elements = Contract.countElements contracts
  subjects : tally.total = contracts.length
  accounted : tally.matched + Comparison.countDeviating targetId emitted tally.dimension contracts +
      Contract.countElements (contracts.filter fun contract => !Comparison.isCovered emitted tally.dimension contract) =
    tally.elements
  varied : tally.varied ≤
    Contract.countElements (contracts.filter (Comparison.isCovered emitted tally.dimension))
  covered : tally.covered ≤ tally.total

namespace Comparison

theorem tally_accounts (targetId : String) (emitted : List Contract) (dimension : Dimension)
    (contracts : List Contract) : (tally targetId emitted dimension contracts).Accounts targetId emitted contracts where
  elements := rfl
  subjects := rfl
  accounted := findings_accounted
  varied := (@length_findings targetId emitted dimension contracts) ▸ List.countP_le_length
  covered := List.countP_le_length

section Whole

variable {declared : Dimension → Option (List Contract)}

theorem mem_tallies_iff {counted : Tally} : counted ∈ (compare targetId declared emitted).tallies ↔
    ∃ dimension, ∃ contracts ∈ declared dimension, tally targetId emitted dimension contracts = counted := by
  simp [compare, Dimension.mem_all]

/-- There is a tally for each declared dimension, in the order of dimensions. -/
theorem dimensions_tallies : (compare targetId declared emitted).tallies.map (·.dimension) =
    Dimension.all.filter fun dimension => (declared dimension).isSome := by
  unfold compare
  induction Dimension.all with
  | nil => rfl
  | cons dimension dimensions ih =>
    cases given : declared dimension with
    | none => simpa [given] using ih
    | some contracts => simpa [given, tally] using ih

/-- What a comparison accounts for. Every declared dimension has a tally that accounts for its elements, and these
tallies are what its coverage tells. Every variation names a declared element, and an element of an emitted contract
has one of more weight than a new name exactly when no counterpart agrees with it. -/
structure Accounts (targetId : String) (declared : Dimension → Option (List Contract)) (emitted : List Contract)
    (comparison : Comparison) : Prop where
  dimensions : comparison.tallies.map (·.dimension) =
    Dimension.all.filter fun dimension => (declared dimension).isSome
  tallies : ∀ tally ∈ comparison.tallies, ∃ contracts ∈ declared tally.dimension,
    tally.Accounts targetId emitted contracts
  coverage : comparison.coverage.filter (·.applicable) = comparison.tallies.map fun tally =>
    { dimension := tally.dimension, covered := tally.covered, total := tally.total }
  names : ∀ variation ∈ comparison.variations, ∃ contracts ∈ declared variation.dimension,
    ∃ contract ∈ contracts, contract.subject = variation.subject ∧
      ∃ element ∈ contract.elements, element.name = variation.element
  deviates : ∀ dimension, ∀ contracts ∈ declared dimension, ∀ contract ∈ contracts,
    ∀ actual ∈ emittedFor? emitted dimension contract.subject, ∀ element ∈ contract.elements,
      (∃ variation ∈ elementVariations targetId dimension contract.subject element actual,
        variation ∈ comparison.variations ∧ variation.impact ≠ .low) ↔
      ¬ ∃ other ∈ counterpart? actual element.name, element.Agrees dimension other

theorem compare_accounts : (compare targetId declared emitted).Accounts targetId declared emitted where
  dimensions := dimensions_tallies
  tallies counted member := by
    obtain ⟨dimension, contracts, given, rfl⟩ := mem_tallies_iff.mp member
    exact ⟨contracts, given, tally_accounts targetId emitted dimension contracts⟩
  coverage := applicable_coverage targetId declared emitted
  names variation member := by
    obtain ⟨dimension, contracts, given, contract, inside, actual, _, element, one, found⟩ :=
      mem_variations_iff.mp member
    obtain ⟨rfl, subject, name⟩ := names_of_mem variation found
    exact ⟨contracts, given, contract, inside, subject.symm, element, one, name.symm⟩
  deviates dimension contracts given contract inside actual found element one := by
    rw [← forall_impact_eq_low_iff]
    simp only [not_forall, exists_prop]
    refine exists_congr fun variation => and_congr_right fun member => and_iff_right ?_
    exact mem_variations_iff.mpr
      ⟨dimension, contracts, given, contract, inside, actual, found, element, one, member⟩

end Whole

end Comparison

/-- A count over all declared dimensions. -/
def Comparison.sum (comparison : Comparison) (count : Tally → Nat) : Nat := total (comparison.tallies.map count)

theorem Comparison.sum_le {comparison : Comparison} {part whole : Tally → Nat}
    (each : ∀ tally ∈ comparison.tallies, part tally ≤ whole tally) : comparison.sum part ≤ comparison.sum whole :=
  List.sum_le_sum each

/-- The score of a part in its whole. -/
def Score.share (part whole : Nat) (text : String) : Score where
  value := .float (fraction part whole)
  notes := Preservation.note part whole text

/-- The scores of a comparison and of some artifacts: each is made of a part and a whole that is not exceeded, and
consistency tells the part that does not vary. -/
structure Preservation.IsMadeOf (comparison : Comparison) (artifacts : List Artifact) (scores : Preservation) :
    Prop where
  consistency : scores.consistency = ⟨.float (if comparison.sum (·.elements) = 0 then 1.0
      else 1.0 - fraction (comparison.sum (·.varied)) (comparison.sum (·.elements))),
    note (comparison.sum (·.varied)) (comparison.sum (·.elements)) "declared elements varied"⟩
  varied : comparison.sum (·.varied) ≤ comparison.sum (·.elements)
  completeness : scores.completeness =
    .share (comparison.sum (·.covered)) (comparison.sum (·.total)) "declared contracts produced an artifact"
  applicable : ((comparison.coverage.filter (·.applicable)).map (·.covered)).sum = comparison.sum (·.covered) ∧
    ((comparison.coverage.filter (·.applicable)).map (·.total)).sum = comparison.sum (·.total)
  covered : comparison.sum (·.covered) ≤ comparison.sum (·.total)
  accuracy : scores.accuracy =
    .share (comparison.sum (·.matched)) (comparison.sum (·.elements)) "elements match in type and requiredness"
  matched : comparison.sum (·.matched) ≤ comparison.sum (·.elements)
  traceability : scores.traceability =
    .share (artifacts.countP (·.isTraced)) artifacts.length "artifacts carry a trace marker"
  traced : artifacts.countP (·.isTraced) ≤ artifacts.length

theorem Tally.Accounts.varied_le_elements {targetId : String} {emitted contracts : List Contract} {tally : Tally}
    (accounts : tally.Accounts targetId emitted contracts) : tally.varied ≤ tally.elements := by
  have fewer : Contract.countElements (contracts.filter (Comparison.isCovered emitted tally.dimension)) ≤
      Contract.countElements contracts :=
    (List.filter_sublist.map _).sum_le_sum fun _ _ => Nat.zero_le _
  exact accounts.elements ▸ accounts.varied.trans fewer

theorem Preservation.score_isMadeOf {targetId : String} {declared : Dimension → Option (List Contract)}
    {emitted : List Contract} {comparison : Comparison} (accounts : comparison.Accounts targetId declared emitted)
    (artifacts : List Artifact) : (score comparison artifacts).IsMadeOf comparison artifacts where
  consistency := rfl
  varied := Comparison.sum_le fun tally member => by
    obtain ⟨contracts, _, accounts⟩ := accounts.tallies tally member
    exact accounts.varied_le_elements
  completeness := rfl
  applicable := by
    rw [accounts.coverage, List.map_map, List.map_map]
    exact ⟨Comparison.sum_tallies _ _, Comparison.sum_tallies _ _⟩
  covered := Comparison.sum_le fun tally member => by
    obtain ⟨contracts, _, accounts⟩ := accounts.tallies tally member
    exact accounts.covered
  accuracy := rfl
  matched := Comparison.sum_le fun tally member => by
    obtain ⟨contracts, _, accounts⟩ := accounts.tallies tally member
    exact accounts.accounted ▸ (Nat.le_add_right _ _).trans (Nat.le_add_right _ _)
  traceability := rfl
  traced := List.countP_le_length

namespace Comparison

/-- A comparison accounts for every declared element once, and none of the scores made from it tells a part of more
than its whole. -/
theorem compare_accounts_once (targetId : String) (declared : Dimension → Option (List Contract))
    (emitted : List Contract) :
    (compare targetId declared emitted).Accounts targetId declared emitted ∧
      ∀ artifacts, (Preservation.score (compare targetId declared emitted) artifacts).IsMadeOf
        (compare targetId declared emitted) artifacts :=
  ⟨compare_accounts, Preservation.score_isMadeOf compare_accounts⟩

/-- The declared contracts of all dimensions. -/
def allDeclared (declared : Dimension → Option (List Contract)) : List Contract :=
  Dimension.all.flatMap fun dimension => (declared dimension).getD []

/-- Declared contracts that can be told apart: each is stored under its own dimension, the subjects of a dimension
are distinct, and so are the names of the elements of a contract. -/
structure IsDistinct (declared : Dimension → Option (List Contract)) : Prop where
  own : ∀ dimension, ∀ contracts ∈ declared dimension, ∀ contract ∈ contracts, contract.dimension = dimension
  subjects : ∀ dimension, ∀ contracts ∈ declared dimension, (contracts.map (·.subject)).Nodup
  names : ∀ dimension, ∀ contracts ∈ declared dimension, ∀ contract ∈ contracts,
    (contract.elements.map (·.name)).Nodup

/-- Contracts of one dimension and one subject: the one that is emitted last is found. -/
def SameKey (contract other : Contract) : Prop :=
  contract.dimension = other.dimension ∧ contract.subject = other.subject

/-- The lists in which all declared contracts are emitted: the declared ones in any order, with contracts that
nothing declared has the key of added anywhere, and others added in front of the declared one of their key. -/
inductive Repeats (declared : Dimension → Option (List Contract)) : List Contract → Prop where
  | reordered {emitted : List Contract} (same : emitted.Perm (allDeclared declared)) : Repeats declared emitted
  | foreign {front back : List Contract} {contract : Contract} (repeats : Repeats declared (front ++ back))
      (unknown : ∀ own ∈ allDeclared declared, ¬ SameKey own contract) : Repeats declared (front ++ contract :: back)
  | replaced {front back : List Contract} {contract own : Contract} (repeats : Repeats declared (front ++ back))
      (known : own ∈ allDeclared declared) (behind : own ∈ back) (same : SameKey own contract) :
      Repeats declared (front ++ contract :: back)

section Repeated

variable {declared : Dimension → Option (List Contract)}

theorem mem_allDeclared_iff {contract : Contract} : contract ∈ allDeclared declared ↔
    ∃ dimension, ∃ contracts ∈ declared dimension, contract ∈ contracts := by
  simp only [allDeclared, List.mem_flatMap, Dimension.mem_all, true_and]
  refine exists_congr fun dimension => ?_
  cases declared dimension <;> simp

/-- A contract that is added changes what is found only of its own key, and there only when none of that key comes
behind it. -/
theorem emittedFor?_insert {front back : List Contract} {contract : Contract} {subject : String}
    (hidden : (contract.dimension = dimension ∧ contract.subject = subject) →
      ∃ later ∈ back, later.dimension = dimension ∧ later.subject = subject) :
    emittedFor? (front ++ contract :: back) dimension subject = emittedFor? (front ++ back) dimension subject := by
  simp only [emittedFor?, List.reverse_append, List.reverse_cons, List.append_assoc, List.find?_append,
    List.singleton_append]
  by_cases here : contract.dimension = dimension ∧ contract.subject = subject
  · obtain ⟨later, behind, key⟩ := hidden here
    have hit : (back.reverse.find? fun other => other.dimension = dimension && other.subject = subject).isSome =
        true := List.find?_isSome.mpr ⟨later, List.mem_reverse.mpr behind, by simpa using key⟩
    rw [Option.or_of_isSome hit, Option.or_of_isSome hit]
  · rw [List.find?_cons_of_neg (by simpa using here)]

/-- Every declared contract is found. -/
def Finds (declared : Dimension → Option (List Contract)) (emitted : List Contract) : Prop :=
  ∀ dimension, ∀ contracts ∈ declared dimension, ∀ contract ∈ contracts,
    emittedFor? emitted dimension contract.subject = some contract

/-- Declared contracts that can be told apart are found in any order. -/
theorem IsDistinct.finds_of_perm (distinct : IsDistinct declared) (same : emitted.Perm (allDeclared declared)) :
    Finds declared emitted := by
  intro dimension contracts given contract inside
  have member : contract ∈ emitted.reverse :=
    List.mem_reverse.mpr (same.mem_iff.mpr (mem_allDeclared_iff.mpr ⟨dimension, contracts, given, inside⟩))
  cases found : emittedFor? emitted dimension contract.subject with
  | none =>
    have differs := List.find?_eq_none.mp found contract member
    exact absurd (distinct.own dimension contracts given contract inside) (by simpa using differs)
  | some other =>
    have key : other.dimension = dimension ∧ other.subject = contract.subject := by
      simpa using List.find?_some found
    obtain ⟨place, stored, there, listed⟩ := mem_allDeclared_iff.mp
      (same.mem_iff.mp (List.mem_reverse.mp (List.mem_of_find?_eq_some found)))
    obtain rfl : place = dimension := (distinct.own place stored there other listed).symm.trans key.1
    obtain rfl : stored = contracts := Option.some.inj (there.symm.trans given)
    rw [List.inj_on_of_nodup_map (distinct.subjects place stored there) listed inside key.2]

/-- What is added to a list changes nothing that is found. -/
theorem Repeats.finds (distinct : IsDistinct declared) (repeats : Repeats declared emitted) :
    Finds declared emitted := by
  induction repeats with
  | reordered same => exact distinct.finds_of_perm same
  | @foreign front back added repeats unknown ih =>
    intro dimension contracts given contract inside
    rw [emittedFor?_insert, ih dimension contracts given contract inside]
    rintro ⟨place, subject⟩
    have own := distinct.own dimension contracts given contract inside
    exact absurd ⟨own.trans place.symm, subject.symm⟩
      (unknown contract (mem_allDeclared_iff.mpr ⟨dimension, contracts, given, inside⟩))
  | @replaced front back added own repeats known behind same ih =>
    intro dimension contracts given contract inside
    rw [emittedFor?_insert, ih dimension contracts given contract inside]
    rintro ⟨place, subject⟩
    exact ⟨own, behind, same.1.trans place, same.2.trans subject⟩

/-- A contract that is found as it was declared has no differences. -/
theorem Finds.findings_eq_nil (finds : Finds declared emitted) (distinct : IsDistinct declared)
    (given : contracts ∈ declared dimension) : ∀ found ∈ findings targetId emitted dimension contracts, found = [] := by
  intro found member
  obtain ⟨contract, inside, member⟩ := List.mem_flatMap.mp member
  rw [contractFindings, finds dimension contracts given contract inside] at member
  obtain ⟨element, one, rfl⟩ := List.mem_map.mp member
  exact elementVariations_of_mem one fun other listed name =>
    List.inj_on_of_nodup_map (distinct.names dimension contracts given contract inside) listed one name

theorem Finds.isCovered (finds : Finds declared emitted) (given : contracts ∈ declared dimension) :
    ∀ contract ∈ contracts, isCovered emitted dimension contract = true := by
  intro contract inside
  rw [Comparison.isCovered, finds dimension contracts given contract inside]
  rfl

/-- All that is declared is covered and matched, and nothing varies. -/
structure IsPerfect (declared : Dimension → Option (List Contract)) (comparison : Comparison) : Prop where
  variations : comparison.variations = []
  dimensions : comparison.tallies.map (·.dimension) =
    Dimension.all.filter fun dimension => (declared dimension).isSome
  tallies : ∀ tally ∈ comparison.tallies, ∃ contracts ∈ declared tally.dimension,
    tally.total = contracts.length ∧ tally.covered = tally.total ∧
    tally.elements = Contract.countElements contracts ∧ tally.matched = tally.elements ∧ tally.varied = 0
  coverage : ∀ entry ∈ comparison.coverage, entry.covered = entry.total

/-- Contracts that are emitted as they were declared, in any order, with others of unknown keys among them and
others of their own keys in front of them, make a perfect comparison. -/
theorem compare_repeated (distinct : IsDistinct declared) (repeats : Repeats declared emitted) :
    (compare targetId declared emitted).IsPerfect declared where
  variations := by
    refine List.flatMap_eq_nil_iff.mpr fun dimension _ => ?_
    cases given : declared dimension with
    | none => rfl
    | some contracts => exact List.flatten_eq_nil_iff.mpr ((repeats.finds distinct).findings_eq_nil distinct given)
  dimensions := dimensions_tallies
  tallies counted member := by
    obtain ⟨dimension, contracts, given, rfl⟩ := mem_tallies_iff.mp member
    have finds := repeats.finds distinct
    have covers := finds.isCovered given
    have none : ∀ found ∈ findings targetId emitted dimension contracts, found = [] :=
      finds.findings_eq_nil distinct given
    refine ⟨contracts, given, rfl, List.countP_eq_length.mpr covers, rfl, ?_, ?_⟩
    · calc (findings targetId emitted dimension contracts).countP (fun found => found.all (·.impact = .low))
        _ = (findings targetId emitted dimension contracts).length :=
          List.countP_eq_length.mpr fun found inside => none found inside ▸ rfl
        _ = Contract.countElements (contracts.filter (isCovered emitted dimension)) := length_findings
        _ = Contract.countElements contracts := by rw [List.filter_eq_self.mpr covers]
    · exact List.countP_eq_zero.mpr fun found inside => by simp [none found inside]
  coverage entry member := by
    obtain ⟨dimension, _, rfl⟩ := List.mem_map.mp member
    cases given : declared dimension with
    | none => rfl
    | some contracts =>
      exact congrArg Int.ofNat (List.countP_eq_length.mpr ((repeats.finds distinct).isCovered given))

/-- A flow with two steps of one canonical name, an empty one, and the operations of an entity. -/
def sampleDeclared : Dimension → Option (List Contract)
  | .businessLogic => some [
      ⟨.businessLogic, "flow:sell", [{ name := "hand_over" }, { name := "handOver", required := true }]⟩,
      ⟨.businessLogic, "flow:idle", []⟩]
  | .apiContracts => some [⟨.apiContracts, "entity:item", [{ name := "list", nativeType := "GET /api/item" }]⟩]
  | _ => none

/-- The declared contracts in another order, an older version of the first flow in front, and a contract that is not
declared. -/
def sampleEmitted : List Contract := [
  ⟨.businessLogic, "flow:sell", []⟩,
  ⟨.apiContracts, "entity:item", [{ name := "list", nativeType := "GET /api/item" }]⟩,
  ⟨.apiContracts, "flow:sell", []⟩,
  ⟨.businessLogic, "flow:idle", []⟩,
  ⟨.businessLogic, "flow:sell", [{ name := "hand_over" }, { name := "handOver", required := true }]⟩]

theorem compare_repeated_sample : IsDistinct sampleDeclared ∧ Repeats sampleDeclared sampleEmitted ∧
    (compare "web-vue" sampleDeclared sampleEmitted).IsPerfect sampleDeclared := by
  have distinct : IsDistinct sampleDeclared := by
    constructor <;> intro dimension contracts given <;> cases dimension <;> cases given <;> decide
  have repeats : Repeats sampleDeclared sampleEmitted := by
    refine @Repeats.replaced _ [] sampleEmitted.tail _ sampleEmitted[4] ?_ (by decide) (by decide) ⟨rfl, rfl⟩
    refine @Repeats.foreign _ (sampleEmitted.tail.take 1) (sampleEmitted.drop 3) _ ?_ (by unfold SameKey; decide)
    exact .reordered (by decide)
  exact ⟨distinct, repeats, compare_repeated distinct repeats⟩

end Repeated

end Comparison

end Prism
