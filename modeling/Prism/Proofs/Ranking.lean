import Prism.Proofs.Analysis
import Prism.Proofs.Json.Sorting

namespace Prism

namespace OptimizationReport

/-- The first item of the smallest size: what stands in front of it is larger, what stands behind it is no smaller. -/
def IsFirstSmallest {α : Type} (size : α → Nat) (items : List α) (item : α) : Prop :=
  ∃ before after, items = before ++ item :: after ∧ (∀ other ∈ before, size item < size other) ∧
    ∀ other ∈ after, size item ≤ size other

/-- A larger item in front does not matter. -/
theorem IsFirstSmallest.cons {α : Type} {size : α → Nat} {items : List α} {item first : α}
    (smallest : IsFirstSmallest size items item) (larger : size item < size first) :
    IsFirstSmallest size (first :: items) item := by
  obtain ⟨before, after, rfl, front, back⟩ := smallest
  exact ⟨first :: before, after, rfl, List.forall_mem_cons.mpr ⟨larger, front⟩, back⟩

/-- Nor does an item right behind the first one that is no smaller. -/
theorem IsFirstSmallest.insert {α : Type} {size : α → Nat} {items : List α} {item first other : α}
    (smallest : IsFirstSmallest size (first :: items) item) (larger : size first ≤ size other) :
    IsFirstSmallest size (first :: other :: items) item := by
  obtain ⟨before, after, shape, front, back⟩ := smallest
  cases before with
  | nil =>
    obtain ⟨rfl, rfl⟩ := List.cons.inj shape
    exact ⟨[], other :: items, rfl, by simp, List.forall_mem_cons.mpr ⟨larger, back⟩⟩
  | cons _ before =>
    obtain ⟨rfl, rfl⟩ := List.cons.inj shape
    obtain ⟨here, later⟩ := List.forall_mem_cons.mp front
    refine ⟨first :: other :: before, after, rfl, ?_, back⟩
    exact List.forall_mem_cons.mpr ⟨here, List.forall_mem_cons.mpr ⟨here.trans_le larger, later⟩⟩

theorem IsFirstSmallest.le {α : Type} {size : α → Nat} {items : List α} {item other : α}
    (smallest : IsFirstSmallest size items item) (member : other ∈ items) : size item ≤ size other := by
  obtain ⟨before, after, rfl, front, back⟩ := smallest
  rcases List.mem_append.mp member with inside | inside
  · exact (front other inside).le
  · rcases List.mem_cons.mp inside with rfl | inside
    · exact le_rfl
    · exact back other inside

/-- The comparison is strict, so the first of equals stays. -/
theorem isFirstSmallest_foldl (items : List (String × Nat)) (first : String × Nat) :
    IsFirstSmallest (·.2) (first :: items)
      (items.foldl (fun best next => if next.2 < best.2 then next else best) first) := by
  induction items generalizing first with
  | nil => exact ⟨[], [], rfl, by simp, by simp⟩
  | cons next items ih =>
    rw [List.foldl_cons]
    by_cases smaller : next.2 < first.2
    · rw [if_pos smaller]
      have rest := ih next
      exact rest.cons ((rest.le List.mem_cons_self).trans_lt smaller)
    · rw [if_neg smaller]
      exact (ih first).insert (Nat.not_lt.mp smaller)

theorem isFirstSmallest_of_smallest? {items : List (String × Nat)} {item : String × Nat}
    (found : smallest? items = some item) : IsFirstSmallest (·.2) items item := by
  cases items with
  | nil => exact nomatch found
  | cons first items =>
    obtain rfl := Option.some.inj found
    exact isFirstSmallest_foldl items first

theorem smallest?_eq_none_iff {items : List (String × Nat)} : smallest? items = none ↔ items = [] := by
  cases items with
  | nil => exact iff_of_true rfl rfl
  | cons first items => exact iff_of_false (Option.some_ne_none _) (List.cons_ne_nil _ _)

/-- Whatever the scores, and be they undefined, the largest is one of them. -/
theorem mem_of_largest? {items : List (String × Float)} {item : String × Float} (found : largest? items = some item) :
    item ∈ items := by
  cases items with
  | nil => exact nomatch found
  | cons first items =>
    obtain rfl := Option.some.inj found
    clear found
    induction items generalizing first with
    | nil => exact List.mem_cons_self
    | cons next items ih =>
      rw [List.foldl_cons]
      split
      · exact List.mem_cons_of_mem _ (ih next)
      · rcases List.mem_cons.mp (ih first) with here | inside
        · rw [here]
          exact List.mem_cons_self
        · exact List.mem_cons_of_mem _ (List.mem_cons_of_mem _ inside)

end OptimizationReport

/-- An id is registered no later than another. -/
def Registry.HasNoLater (registry : Registry) (id other : String) : Prop :=
  ∃ place later : Nat, place ≤ later ∧ (registry.targets.map (·.id))[place]? = some id ∧
    (registry.targets.map (·.id))[later]? = some other

/-- Of two ids one comes first, unless they are the same. -/
theorem Registry.HasNoLater.antisymm {registry : Registry} {id other : String} (first : registry.HasNoLater id other)
    (second : registry.HasNoLater other id) : id = other := by
  obtain ⟨place, later, le, here, there⟩ := first
  obtain ⟨start, finish, ge, begins, ends⟩ := second
  have one : place = finish :=
    (List.getElem?_inj (List.getElem?_eq_some_iff.mp here).1 registry.distinct).mp (here.trans ends.symm)
  have two : later = start :=
    (List.getElem?_inj (List.getElem?_eq_some_iff.mp there).1 registry.distinct).mp (there.trans begins.symm)
  have same : place = later := by omega
  exact Option.some.inj (here.symm.trans (same ▸ there))

/-- A result that succeeded with the fewest bytes, and whose target is registered no later than those of all that
have as few. -/
structure Registry.PutsFirst (registry : Registry) (results : List GenerationResult) (result : GenerationResult) :
    Prop where
  member : result ∈ results
  success : result.success = true
  fewest : ∀ other ∈ results, other.success = true → result.output.totalBytes ≤ other.output.totalBytes
  earliest : ∀ other ∈ results, other.success = true → other.output.totalBytes = result.output.totalBytes →
    registry.HasNoLater result.targetId other.targetId

theorem Registry.PutsFirst.targetId_unique {registry : Registry} {results : List GenerationResult}
    {result other : GenerationResult} (first : registry.PutsFirst results result)
    (second : registry.PutsFirst results other) : result.targetId = other.targetId := by
  have le := first.fewest other second.member second.success
  have ge := second.fewest result first.member first.success
  exact (first.earliest other second.member second.success (by omega)).antisymm
    (second.earliest result first.member first.success (by omega))

namespace OptimizationReport

variable {registry : Registry} {results : List GenerationResult} {items : List Placed}

theorem Placed.IsOf.getElem? {item : Placed} {result : GenerationResult} (own : item.IsOf registry result) :
    (registry.targets.map (·.id))[item.place]? = some result.targetId := by
  rw [List.getElem?_map, own.target, Option.map_some, own.named]

/-- Results of distinct targets have places of their own. -/
theorem eq_of_place (distinct : (results.map (·.targetId)).Nodup)
    (known : ∀ result ∈ results, result.IsRegistered registry) (found : results.mapM (placed registry) = .ok items)
    {item other : Placed} (member : item ∈ items) (inside : other ∈ items) (same : item.place = other.place) :
    item = other := by
  obtain ⟨result, here, gives⟩ := exists_of_mem_mapM_ok found member
  obtain ⟨second, there, yields⟩ := exists_of_mem_mapM_ok found inside
  have first := (isOf_of_placed (known result here) gives).getElem?
  rw [same, (isOf_of_placed (known second there) yields).getElem?] at first
  have one : second = result := List.inj_on_of_nodup_map distinct there here (Option.some.inj first)
  rw [one] at yields
  exact Except.ok.inj (gives.symm.trans yields)

theorem place_trans (a b c : Placed) (first : decide (a.place ≤ b.place) = true)
    (second : decide (b.place ≤ c.place) = true) : decide (a.place ≤ c.place) = true := by
  rw [decide_eq_true_eq] at *
  omega

theorem place_total (a b : Placed) : (decide (a.place ≤ b.place) || decide (b.place ≤ a.place)) = true := by
  rw [Bool.or_eq_true, decide_eq_true_eq, decide_eq_true_eq]
  omega

/-- In the order of the registry the results are the same, whatever order they came in. -/
theorem inOrder_eq_of_perm (distinct : (results.map (·.targetId)).Nodup)
    (known : ∀ result ∈ results, result.IsRegistered registry) (found : results.mapM (placed registry) = .ok items)
    {others : List Placed} (moved : items.Perm others) : inOrder items = inOrder others := by
  refine mergeSort_eq_of_perm place_trans place_total (fun a member b inside le ge => ?_) moved
  rw [decide_eq_true_eq] at le ge
  exact eq_of_place distinct known found member inside (by omega)

/-- The report does not depend on the order of the results; nor does what is told when there is none. -/
theorem analyze_eq_of_perm (distinct : (results.map (·.targetId)).Nodup)
    (known : ∀ result ∈ results, result.IsRegistered registry.orBuiltin) {others : List GenerationResult}
    (moved : results.Perm others) : analyze registry others = analyze registry results := by
  obtain ⟨items, found, _⟩ := exists_mapM_placed known
  obtain ⟨changed, gives, same⟩ := exists_mapM_ok_perm found moved
  rw [analyze_of_placed found, analyze_of_placed gives, inOrder_eq_of_perm distinct known found same]

/-- The results that succeeded, in the order of the registry. -/
def successful (items : List Placed) : List GenerationResult := ((inOrder items).map (·.result)).filter (·.success)

section Successful

variable (known : ∀ result ∈ results, result.IsRegistered registry)
  (found : results.mapM (placed registry) = .ok items)

include known found

theorem mem_successful_iff {result : GenerationResult} :
    result ∈ successful items ↔ result ∈ results ∧ result.success = true := by
  rw [successful, List.mem_filter, List.mem_map]
  refine and_congr_left fun _ => ⟨?_, fun inside => ?_⟩
  · rintro ⟨item, member, rfl⟩
    obtain ⟨result, inside, gives⟩ := exists_of_mem_mapM_ok found (List.mem_mergeSort.mp member)
    rwa [(isOf_of_placed (known result inside) gives).own]
  · obtain ⟨item, member, gives⟩ := exists_mem_mapM_ok found inside
    exact ⟨item, List.mem_mergeSort.mpr member, (isOf_of_placed (known result inside) gives).own⟩

theorem pairwise_successful :
    (successful items).Pairwise fun result other => registry.HasNoLater result.targetId other.targetId := by
  have at_place (item : Placed) (member : item ∈ inOrder items) :
      (registry.targets.map (·.id))[item.place]? = some item.result.targetId := by
    obtain ⟨result, inside, gives⟩ := exists_of_mem_mapM_ok found (List.mem_mergeSort.mp member)
    have own := isOf_of_placed (known result inside) gives
    rw [own.getElem?, own.own]
  have sorted := List.pairwise_mergeSort place_trans place_total items
  refine List.Pairwise.filter _ (List.pairwise_map.mpr (sorted.imp_of_mem fun {item other} member inside le => ?_))
  exact ⟨item.place, other.place, of_decide_eq_true le, at_place item member, at_place other inside⟩

/-- The first of the smallest, in the order of the registry, is the one to be put first. -/
theorem putsFirst_of_smallest? {item : String × Nat}
    (smallest : smallest? ((successful items).map fun result => (result.targetId, result.output.totalBytes)) =
      some item) : ∃ result, registry.PutsFirst results result ∧ result.targetId = item.1 := by
  obtain ⟨before, after, shape, front, back⟩ := isFirstSmallest_of_smallest? smallest
  obtain ⟨earlier, rest, split, rfl, others⟩ := List.map_eq_append_iff.mp shape
  obtain ⟨result, later, rfl, rfl, rfl⟩ := List.map_eq_cons_iff.mp others
  have listed {other : GenerationResult} :
      other ∈ earlier ++ result :: later ↔ other ∈ results ∧ other.success = true := by
    rw [← split]
    exact mem_successful_iff known found
  have order := pairwise_successful known found
  rw [split, List.pairwise_append, List.pairwise_cons] at order
  rw [List.forall_mem_map] at front back
  have own := listed.mp (List.mem_append_right _ List.mem_cons_self)
  refine ⟨result, ⟨own.1, own.2, fun other inside success => ?_, fun other inside success same => ?_⟩, rfl⟩
  · rcases List.mem_append.mp (listed.mpr ⟨inside, success⟩) with ahead | behind
    · exact (front other ahead).le
    · rcases List.mem_cons.mp behind with rfl | behind
      · exact le_rfl
      · exact back other behind
  · rcases List.mem_append.mp (listed.mpr ⟨inside, success⟩) with ahead | behind
    · have larger := front other ahead
      simp only at larger
      omega
    · rcases List.mem_cons.mp behind with rfl | behind
      · obtain ⟨item, _, gives⟩ := exists_mem_mapM_ok found inside
        have place := (isOf_of_placed (known _ inside) gives).getElem?
        exact ⟨item.place, item.place, le_rfl, place, place⟩
      · exact order.2.1.1 other behind

end Successful

section Reported

variable (known : ∀ result ∈ results, result.IsRegistered registry.orBuiltin) {report : OptimizationReport}
  (made : analyze registry results = .ok report)

include known made

/-- What is told of the best targets, once there is a report. -/
theorem exists_successful :
    ∃ items, results.mapM (placed registry.orBuiltin) = .ok items ∧
      report.summary.mostOptimized = (smallest? ((successful items).map fun result =>
        (result.targetId, result.output.totalBytes))).map (·.1) ∧
      ∃ score : String → Float, report.summary.bestPerforming =
        (largest? ((successful items).map fun result => (result.targetId, score result.targetId))).map (·.1) := by
  obtain ⟨items, found, _⟩ := exists_mapM_placed known
  rw [analyze_of_placed found] at made
  obtain ⟨all, _, rfl⟩ := exists_of_map_eq_ok made
  exact ⟨items, found, rfl, fun id => mean ((all.flatten.filter (·.targetId = id)).map (·.improvement)), rfl⟩

theorem mostOptimized_eq_none_iff :
    report.summary.mostOptimized = none ↔ ∀ result ∈ results, result.success = false := by
  obtain ⟨items, found, most, _⟩ := exists_successful known made
  rw [most, Option.map_eq_none_iff, smallest?_eq_none_iff, List.map_eq_nil_iff, List.eq_nil_iff_forall_not_mem]
  simp only [mem_successful_iff known found, not_and, Bool.not_eq_true]

theorem mostOptimized_eq_some_iff {id : String} :
    report.summary.mostOptimized = some id ↔
      ∃ result, registry.orBuiltin.PutsFirst results result ∧ result.targetId = id := by
  obtain ⟨items, found, most, _⟩ := exists_successful known made
  have first {id : String} (told : report.summary.mostOptimized = some id) :
      ∃ result, registry.orBuiltin.PutsFirst results result ∧ result.targetId = id := by
    obtain ⟨item, smallest, rfl⟩ := Option.map_eq_some_iff.mp (most.symm.trans told)
    exact putsFirst_of_smallest? known found smallest
  refine ⟨first, ?_⟩
  rintro ⟨result, leads, rfl⟩
  cases told : report.summary.mostOptimized with
  | none =>
    have failed := (mostOptimized_eq_none_iff known made).mp told result leads.member
    exact absurd (leads.success.symm.trans failed) (by decide)
  | some id =>
    obtain ⟨other, ahead, rfl⟩ := first told
    rw [leads.targetId_unique ahead]

/-- Best performing is a target that succeeded. -/
theorem exists_of_bestPerforming {id : String} (told : report.summary.bestPerforming = some id) :
    ∃ result ∈ results, result.success = true ∧ result.targetId = id := by
  obtain ⟨items, found, _, score, best⟩ := exists_successful known made
  obtain ⟨item, largest, rfl⟩ := Option.map_eq_some_iff.mp (best.symm.trans told)
  obtain ⟨result, member, rfl⟩ := List.mem_map.mp (mem_of_largest? largest)
  obtain ⟨inside, success⟩ := (mem_successful_iff known found).mp member
  exact ⟨result, inside, success, rfl⟩

end Reported

/-- How registered targets are ranked. Results of distinct registered targets give the same report in any order; there
is one exactly when the measures that optimizations act on lie in the range of floating-point numbers. Most optimized is
the target that succeeded with the fewest bytes, the one registered first where several have as few, and none when all
failed. A target that failed is neither most optimized nor best performing. -/
theorem analyze_ranks_registered {registry : Registry} {results : List GenerationResult}
    (distinct : (results.map (·.targetId)).Nodup)
    (known : ∀ result ∈ results, result.IsRegistered registry.orBuiltin) :
    (∀ others, results.Perm others → analyze registry others = analyze registry results) ∧
    ((∃ report, analyze registry results = .ok report) ↔
      ∀ result ∈ results, ∀ target ∈ registry.orBuiltin.targets, target.id = result.targetId →
        ∀ optimization ∈ target.optimizations, IsComparable target result optimization) ∧
    ∀ report, analyze registry results = .ok report →
      (report.summary.mostOptimized = none ↔ ∀ result ∈ results, result.success = false) ∧
      (∀ id, report.summary.mostOptimized = some id ↔
        ∃ result, registry.orBuiltin.PutsFirst results result ∧ result.targetId = id) ∧
      ∀ result ∈ results, result.success = false →
        report.summary.mostOptimized ≠ some result.targetId ∧ report.summary.bestPerforming ≠ some result.targetId := by
  refine ⟨fun others => analyze_eq_of_perm distinct known, exists_analyze_iff known, fun report made => ?_⟩
  have failing {result other : GenerationResult} (inside : result ∈ results) (failed : result.success = false)
      (listed : other ∈ results) (success : other.success = true) : other.targetId ≠ result.targetId := by
    intro same
    have one : other = result := List.inj_on_of_nodup_map distinct listed inside same
    exact absurd (success.symm.trans (one ▸ failed)) (by decide)
  refine ⟨mostOptimized_eq_none_iff known made, fun id => mostOptimized_eq_some_iff known made,
    fun result inside failed => ⟨fun told => ?_, fun told => ?_⟩⟩
  · obtain ⟨other, leads, same⟩ := (mostOptimized_eq_some_iff known made).mp told
    exact failing inside failed leads.member leads.success same
  · obtain ⟨other, listed, success, same⟩ := exists_of_bestPerforming known made told
    exact failing inside failed listed success same

/-- Three targets in an order of their own. -/
def turnedRegistry : Registry where
  targets := [Catalog.webVue, Catalog.webReact, Catalog.webAngular]
  distinct := by decide

/-- A result of a target that is as its baseline and has no files. -/
def emptyResult (target : Target) (success : Bool) : GenerationResult :=
  { GenerationResult.failed { metadata := { name := "shop" } } target ⟨.generationError, "away", []⟩ "x" 1 with
    success }

/-- Two targets that gave equally little, the one registered later in front, and one that failed. -/
def evenResults : List GenerationResult :=
  [emptyResult Catalog.webAngular false, emptyResult Catalog.webReact true, emptyResult Catalog.webVue true]

theorem isRegistered_evenResults : ∀ result ∈ evenResults, result.IsRegistered turnedRegistry.orBuiltin := by
  intro result member
  simp only [evenResults, List.mem_cons, List.not_mem_nil, or_false] at member
  rcases member with rfl | rfl | rfl
  · exact ⟨Catalog.webAngular, by simp [Registry.orBuiltin, turnedRegistry], rfl⟩
  · exact ⟨Catalog.webReact, by simp [Registry.orBuiltin, turnedRegistry], rfl⟩
  · exact ⟨Catalog.webVue, by simp [Registry.orBuiltin, turnedRegistry], rfl⟩

theorem analyze_ranks_evenResults :
    (evenResults.map (·.targetId)).Nodup ∧
      ∃ report, analyze turnedRegistry evenResults = .ok report ∧
        analyze turnedRegistry evenResults.reverse = .ok report ∧ report.summary.mostOptimized = some "web-vue" ∧
        report.summary.bestPerforming ≠ some "web-angular" := by
  have distinct : (evenResults.map (·.targetId)).Nodup := by decide
  obtain ⟨moved, reported, ranked⟩ := analyze_ranks_registered distinct isRegistered_evenResults
  have measured (target : Target) (listed : target ∈ turnedRegistry.targets) (metric : Metric) :
      (target.baseline.get metric).fits = true := by
    refine target.fits_baseline ?_ metric
    simp only [turnedRegistry, List.mem_cons, List.not_mem_nil, or_false] at listed
    rcases listed with rfl | rfl | rfl <;> decide +kernel
  obtain ⟨report, made⟩ := reported.mpr fun result member target listed _ optimization _ => by
    refine ⟨measured target listed _, ?_⟩
    simp only [evenResults, List.mem_cons, List.not_mem_nil, or_false] at member
    rcases member with rfl | rfl | rfl <;> exact measured _ (by simp [turnedRegistry]) _
  obtain ⟨_, most, failing⟩ := ranked report made
  have first : turnedRegistry.PutsFirst evenResults (emptyResult Catalog.webVue true) := by
    refine ⟨by simp [evenResults], rfl, fun _ _ _ => Nat.zero_le _, fun other member success _ => ?_⟩
    simp only [evenResults, List.mem_cons, List.not_mem_nil, or_false] at member
    rcases member with rfl | rfl | rfl
    · exact absurd success Bool.false_ne_true
    · exact ⟨0, 1, by decide, rfl, rfl⟩
    · exact ⟨0, 0, le_rfl, rfl, rfl⟩
  refine ⟨distinct, report, made, ?_, (most "web-vue").mpr ⟨_, first, rfl⟩, ?_⟩
  · rw [moved _ (List.reverse_perm _).symm, made]
  · exact (failing (emptyResult Catalog.webAngular false) (by simp [evenResults]) rfl).2

end OptimizationReport

end Prism
