import Mathlib.Logic.Function.Basic
import Prism.Cache
import Prism.Proofs.Json.Shape
import Prism.Proofs.Utf8

namespace Prism

namespace Text

theorem plainLineEnds_of_notMem {chars : List Char} (none : '\r' ∉ chars) : plainLineEnds chars = chars := by
  induction chars with
  | nil => rfl
  | cons c chars ih =>
    rw [List.mem_cons, not_or] at none
    rw [plainLineEnds, ih none.2]
    · exact fun _ same => absurd same.symm none.1
    · exact fun same => absurd same.symm none.1

end Text

theorem toList_loop_eq (octets : ByteArray) (place : ℕ) (before : List UInt8) :
    ByteArray.toList.loop octets place before = before.reverse ++ octets.data.toList.drop place := by
  induction place, before using ByteArray.toList.loop.induct octets with
  | case1 place before inside ih =>
    have bound : place < octets.data.toList.length := by simpa using inside
    have here : octets.get! place = octets.data.toList[place] := getElem!_pos octets.data place inside
    rw [ByteArray.toList.loop, if_pos inside, ih, List.drop_eq_getElem_cons bound, here]
    simp
  | case2 place before outside =>
    rw [ByteArray.toList.loop, if_neg outside, List.drop_eq_nil_of_le (by simpa using outside), List.append_nil]

/-- A file of plain characters is read as it was written. -/
theorem Stored.text_ofText {text : String} (plain : text.toList.all Json.isPlain = true) (path : String) :
    (Stored.ofText text).text path = .ok text := by
  have octets : text.toUTF8.toList = text.toByteArray.data.toList := by
    rw [ByteArray.toList, toList_loop_eq]
    rfl
  have noReturn : '\r' ∉ text.toList := fun inside =>
    absurd (List.all_eq_true.mp plain '\r' inside) (by decide)
  refine Stored.text_eq_ok_iff.mpr ⟨text, ?_, ?_⟩
  · rw [Stored.ofText, octets, Text.octets]
  · rw [Text.plainLineEnds_of_notMem noReturn, String.ofList_toList]

/-- What is kept for a fingerprint: the targets, and the report with the members of its objects in order. -/
structure Kept where
  targets : List String
  report : Json

/-- The reports by their fingerprints. -/
abbrev ReportMap := String → Option Kept

/-- A report can be written to a file, where it lies at the third level beside a list of targets. -/
def Json.IsStorable (room : Room) (report : Json) : Prop :=
  report.isSpelled room = true ∧ 3 + max 2 report.writingCalls ≤ room.writing

/-- A map can be written to a file. -/
structure ReportMap.IsWritable (room : Room) (map : ReportMap) : Prop where
  version : room.spells ReportCache.version = true
  levels : 3 ≤ room.writing
  reports : ∀ fingerprint kept, map fingerprint = some kept → kept.report.IsStorable room

/-- What can be done with a cache that has a file. -/
inductive CacheAction where
  | store (fingerprint : String) (targets : List String) (report : Json) (time : String)
  | prune (keep : List String)
  | clear
  | persist
  | reopen

namespace CacheAction

/-- Only objects whose members have distinct names are stored. -/
def IsProper : CacheAction → Prop
  | .store _ _ report _ => report.isObject = true ∧ report.IsProper
  | .prune _ | .clear | .persist | .reopen => True

/-- Only reports that can be written are stored. -/
def IsModest (room : Room) : CacheAction → Prop
  | .store _ _ report _ => report.IsStorable room
  | .prune _ | .clear | .persist | .reopen => True

end CacheAction

/-- The map in memory and the map in the file. -/
structure Ledger where
  current : ReportMap
  saved : ReportMap

namespace Ledger

/-- Nothing was stored yet. -/
def blank : Ledger := ⟨fun _ => none, fun _ => none⟩

def act (ledger : Ledger) : CacheAction → Ledger
  | .store fingerprint targets report _ =>
    { ledger with current := Function.update ledger.current fingerprint (some ⟨targets, report.sorted⟩) }
  | .prune keep => { ledger with current := fun key => if key ∈ keep then ledger.current key else none }
  | .clear => { ledger with current := fun _ => none }
  | .persist => { ledger with saved := ledger.current }
  | .reopen => { ledger with current := ledger.saved }

def after (actions : List CacheAction) : Ledger := actions.foldl act blank

end Ledger

namespace CacheFile

def act (room : Room) (file : CacheFile) : CacheAction → Except ReportCache.Fault CacheFile
  | .store fingerprint targets report time =>
    .ok { file with cache := file.cache.store fingerprint targets report time }
  | .prune keep => .ok { file with cache := file.cache.prune keep }
  | .clear => .ok { file with cache := file.cache.clear }
  | .persist => (file.persist room).mapError .limit
  | .reopen => file.reopen room

/-- The file after some actions, and those of them that were done. An action that fails changes nothing. -/
def run (room : Room) (file : CacheFile) : List CacheAction → CacheFile × List CacheAction
  | [] => (file, [])
  | action :: actions => match file.act room action with
    | .ok next => let later := run room next actions; (later.1, action :: later.2)
    | .error _ => run room file actions

end CacheFile

/-- A cache answers as a map does. -/
structure ReportCache.Answers (cache : ReportCache) (map : ReportMap) : Prop where
  get : ∀ fingerprint, (cache.get? fingerprint).map Json.sorted = (map fingerprint).map (·.report)
  targets : ∀ fingerprint, cache.targets fingerprint = ((map fingerprint).map (·.targets)).getD []
  sorted : cache.fingerprints.Pairwise (· < ·)
  fingerprints : ∀ fingerprint, fingerprint ∈ cache.fingerprints ↔ (map fingerprint).isSome = true

/-- A cache with its file answers as a ledger does. A cache that is not changed has the map of its file. Persisting
fails only where a change cannot be written. To open the file anew gives the map in it, and fails only where less
can be read than written. -/
structure CacheFile.Refines (room : Room) (file : CacheFile) (ledger : Ledger) : Prop where
  answers : file.cache.Answers ledger.current
  unchanged : file.cache.changed = false → ledger.current = ledger.saved
  persists : (∃ next, file.persist room = .ok next) ↔
    (file.cache.changed = true → ledger.current.IsWritable room)
  reopened : ∀ next, file.reopen room = .ok next →
    next.text = file.text ∧ next.cache.Answers ledger.saved ∧ next.cache.changed = false
  reopens : room.writing ≤ room.reading → ∃ next, file.reopen room = .ok next

/-- An entry as it is stored, with its members in any order. -/
def CacheEntry.Tells (members : CacheEntry) (kept : Kept) : Prop :=
  ∃ report time, members.Perm [("targets", .texts kept.targets), ("report", report), ("updated_at", .text time)] ∧
    report.isObject = true ∧ report.IsProper ∧ report.sorted = kept.report

section Entry

variable {members : CacheEntry} {kept : Kept} (tells : CacheEntry.Tells members kept)

include tells

theorem CacheEntry.Tells.distinct : (members.map (·.1)).Nodup := by
  obtain ⟨report, time, shape, -⟩ := tells
  rw [(shape.map _).nodup_iff]
  simp

theorem CacheEntry.Tells.isProper : (Json.object members).IsProper := by
  refine ⟨tells.distinct, Json.areProperMembers_iff.mpr fun member inside => ?_⟩
  obtain ⟨report, time, shape, -, proper, -⟩ := tells
  rcases List.mem_cons.mp (shape.mem_iff.mp inside) with rfl | later
  · exact Json.areProper_iff.mpr fun item text => by
      obtain ⟨target, -, rfl⟩ := List.mem_map.mp text
      trivial
  rcases List.mem_cons.mp later with rfl | last
  · exact proper
  · rw [List.mem_singleton.mp last]
    trivial

theorem CacheEntry.Tells.report :
    ∃ report, Json.lookup "report" members = some report ∧ report.isObject = true ∧ report.sorted = kept.report := by
  have distinct := tells.distinct
  obtain ⟨report, time, shape, object, -, sorted⟩ := tells
  refine ⟨report, ?_, object, sorted⟩
  rw [Json.lookup_eq, lookup_of_perm distinct shape]
  rfl

theorem CacheEntry.Tells.targets :
    Json.lookup "targets" members = some (.texts kept.targets) := by
  have distinct := tells.distinct
  obtain ⟨report, time, shape, -⟩ := tells
  rw [Json.lookup_eq, lookup_of_perm distinct shape]
  rfl

/-- What it takes to write an entry is what its report takes. -/
theorem CacheEntry.Tells.writingCalls_le_iff {most : ℕ} :
    (Json.object members).writingCalls ≤ most ↔ 1 + max 2 kept.report.writingCalls ≤ most := by
  obtain ⟨report, time, shape, -, -, sorted⟩ := tells
  have texts : (Json.texts kept.targets).writingCalls ≤ 2 := by
    rw [Json.texts, Json.writingCalls_list_le_iff]
    exact ⟨by omega, by simp [Json.writingCalls]⟩
  rw [Json.writingCalls_object_le_iff, shape.length_eq, ← sorted, Json.writingCalls_sorted]
  simp only [shape.mem_iff, List.forall_mem_cons, List.length_cons, List.length_nil, Json.writingCalls]
  grind

theorem CacheEntry.Tells.isSpelled {room : Room} :
    (Json.object members).isSpelled room = kept.report.isSpelled room := by
  obtain ⟨report, time, shape, -, -, sorted⟩ := tells
  have texts : (Json.texts kept.targets).isSpelled room = true := by
    rw [Json.texts, Json.isSpelled, Json.areSpelled_eq_all]
    simp [Json.isSpelled]
  rw [Json.isSpelled, Json.membersSpelled_eq_all, shape.all_eq, ← sorted, Json.isSpelled_sorted]
  simp [texts, Json.isSpelled]

theorem CacheEntry.Tells.inOrder : CacheEntry.Tells (Json.inOrder members) kept := by
  obtain ⟨report, time, shape, object, proper, sorted⟩ := tells
  refine ⟨report.sorted, time, ?_, ?_, Json.isProper_sorted proper, by rw [Json.sorted_sorted, sorted]⟩
  · have texts (targets : List String) : (Json.texts targets).sorted = .texts targets := by
      rw [Json.texts, Json.sorted, Json.sortedItems_eq_map, List.map_map]
      rfl
    refine (Json.inOrder_perm members).trans ?_
    rw [Json.sortedMembers_eq_map]
    simpa only [List.map_cons, List.map_nil, texts, Json.sorted] using
      shape.map fun member => (member.1, member.2.sorted)
  · rw [Json.isObject_sorted, object]

end Entry

namespace ReportCache

/-- A cache with a file holds a map: it has one entry for each fingerprint of the map and no other. -/
structure Holds (cache : ReportCache) (map : ReportMap) : Prop where
  durable : cache.durable = true
  distinct : (cache.entries.map (·.1)).Nodup
  entries : ∀ fingerprint, Option.Rel CacheEntry.Tells (cache.entries.lookup fingerprint) (map fingerprint)

theorem holds_blank : Holds {} fun _ => none where
  durable := rfl
  distinct := List.nodup_nil
  entries _ := .none

theorem mem_fingerprints {cache : ReportCache} {fingerprint : String} :
    fingerprint ∈ cache.fingerprints ↔ (cache.entries.lookup fingerprint).isSome = true := by
  rw [fingerprints, List.mem_mergeSort, Option.isSome_iff_ne_none, ne_eq, lookup_eq_none_iff, not_not]

theorem sorted_fingerprints {cache : ReportCache} (distinct : (cache.entries.map (·.1)).Nodup) :
    cache.fingerprints.Pairwise (· < ·) := by
  have ordered : cache.fingerprints.Pairwise fun a b => decide (a ≤ b) = true :=
    List.pairwise_mergeSort (by simpa using fun _ _ _ => le_trans) (by simpa using le_total) _
  have apart : cache.fingerprints.Nodup := (List.mergeSort_perm _ _).nodup_iff.mpr distinct
  exact ordered.imp₂ (fun _ _ below other => lt_of_le_of_ne (of_decide_eq_true below) other) apart

theorem Holds.cases {cache : ReportCache} {map : ReportMap} (holds : cache.Holds map) (fingerprint : String) :
    cache.entries.lookup fingerprint = none ∧ map fingerprint = none ∨
      ∃ members kept, cache.entries.lookup fingerprint = some members ∧ map fingerprint = some kept ∧
        CacheEntry.Tells members kept := by
  have same := holds.entries fingerprint
  generalize cache.entries.lookup fingerprint = found at same
  generalize map fingerprint = kept at same
  cases same with
  | none => exact .inl ⟨rfl, rfl⟩
  | some tells => exact .inr ⟨_, _, rfl, rfl, tells⟩

theorem Holds.answers {cache : ReportCache} {map : ReportMap} (holds : cache.Holds map) : cache.Answers map where
  get fingerprint := by
    rw [get?, entry]
    rcases holds.cases fingerprint with ⟨absent, none⟩ | ⟨members, kept, found, same, tells⟩
    · rw [absent, none]
      rfl
    · obtain ⟨report, here, object, sorted⟩ := tells.report
      simp [found, same, here, object, sorted]
  targets fingerprint := by
    rw [targets, entry]
    rcases holds.cases fingerprint with ⟨absent, none⟩ | ⟨members, kept, found, same, tells⟩
    · rw [absent, none]
      rfl
    · simp only [found, same, Option.getD_some, tells.targets, Json.texts, List.map_map, Option.map_some]
      exact List.map_id _
  sorted := sorted_fingerprints holds.distinct
  fingerprints fingerprint := by
    rw [mem_fingerprints]
    rcases holds.cases fingerprint with ⟨absent, none⟩ | ⟨members, kept, found, same, -⟩
    · simp [absent, none]
    · simp [found, same]

section Changes

variable {cache : ReportCache} {map : ReportMap}

theorem lookup_cons_ite (name key : String) (entry : CacheEntry) (entries : List (String × CacheEntry)) :
    ((name, entry) :: entries).lookup key = if key = name then some entry else entries.lookup key := by
  rw [List.lookup_cons]
  by_cases same : key = name
  · simp [same]
  · rw [if_neg same, beq_eq_false_iff_ne.mpr same]

theorem setEntry_names (fingerprint : String) (entry : CacheEntry) (entries : List (String × CacheEntry)) :
    (setEntry fingerprint entry entries).map (·.1) =
      if fingerprint ∈ entries.map (·.1) then entries.map (·.1) else entries.map (·.1) ++ [fingerprint] := by
  induction entries with
  | nil => rfl
  | cons first entries ih =>
    obtain ⟨key, old⟩ := first
    by_cases same : key = fingerprint
    · simp [setEntry, same]
    · have other : ¬ fingerprint = key := fun back => same back.symm
      simp only [setEntry, if_neg same, List.map_cons, ih, List.mem_cons, other, false_or]
      split <;> rfl

theorem lookup_setEntry (fingerprint key : String) (entry : CacheEntry) (entries : List (String × CacheEntry)) :
    (setEntry fingerprint entry entries).lookup key =
      if key = fingerprint then some entry else entries.lookup key := by
  induction entries with
  | nil => rw [setEntry, lookup_cons_ite]
  | cons first entries ih =>
    obtain ⟨name, old⟩ := first
    rw [setEntry]
    by_cases here : name = fingerprint
    · subst here
      rw [if_pos rfl, lookup_cons_ite, lookup_cons_ite]
      split <;> rfl
    · rw [if_neg here, lookup_cons_ite, lookup_cons_ite, ih]
      by_cases same : key = name
      · rw [if_pos same, if_neg (same ▸ here), if_pos same]
      · rw [if_neg same, if_neg same]

theorem Holds.store (holds : cache.Holds map) (fingerprint : String) (targets : List String) {report : Json}
    (object : report.isObject = true) (proper : report.IsProper) (time : String) :
    (cache.store fingerprint targets report time).Holds
      (Function.update map fingerprint (some ⟨targets, report.sorted⟩)) where
  durable := holds.durable
  distinct := by
    simp only [ReportCache.store, storeValues, setEntry_names]
    split
    · exact holds.distinct
    · next fresh => exact List.nodup_append_comm.mpr (List.nodup_cons.mpr ⟨fresh, holds.distinct⟩)
  entries key := by
    simp only [ReportCache.store, storeValues, lookup_setEntry, Function.update_apply]
    split
    · exact .some ⟨report, time, .refl _, object, proper, rfl⟩
    · exact holds.entries key

theorem lookup_filter_key (keep : List String) (key : String) (entries : List (String × CacheEntry)) :
    (entries.filter fun entry => keep.contains entry.1).lookup key =
      if key ∈ keep then entries.lookup key else none := by
  induction entries with
  | nil => simp
  | cons first entries ih =>
    obtain ⟨name, entry⟩ := first
    by_cases kept : name ∈ keep
    · rw [List.filter_cons_of_pos (by simpa using kept), lookup_cons_ite, lookup_cons_ite, ih]
      by_cases same : key = name
      · rw [if_pos same, if_pos (same ▸ kept), if_pos same]
      · rw [if_neg same, if_neg same]
    · rw [List.filter_cons_of_neg (by simpa using kept), lookup_cons_ite, ih]
      by_cases same : key = name
      · rw [if_neg (same ▸ kept), if_neg (same ▸ kept)]
      · rw [if_neg same]

theorem Holds.prune (holds : cache.Holds map) (keep : List String) :
    (cache.prune keep).Holds fun key => if key ∈ keep then map key else none where
  durable := holds.durable
  distinct := holds.distinct.sublist (List.filter_sublist.map _)
  entries key := by
    simp only [ReportCache.prune, lookup_filter_key]
    split
    · exact holds.entries key
    · exact .none

/-- Pruning that leaves a cache unchanged takes nothing away. -/
theorem Holds.eq_of_prune (holds : cache.Holds map) {keep : List String}
    (unchanged : (cache.prune keep).changed = false) : (fun key => if key ∈ keep then map key else none) = map := by
  simp only [ReportCache.prune, Bool.or_eq_false_iff, List.any_eq_false, Bool.not_eq_true', Bool.not_eq_false,
    List.contains_iff_mem] at unchanged
  funext key
  by_cases kept : key ∈ keep
  · rw [if_pos kept]
  · rw [if_neg kept]
    rcases holds.cases key with ⟨-, none⟩ | ⟨members, -, found, -⟩
    · exact none.symm
    · have inside := (lookup_eq_some_iff_mem holds.distinct).mp found
      exact absurd (unchanged.2 (key, members) inside) kept

end Changes

theorem isVersion_version : isVersion (.int version) = true := rfl

/-- The entries that are read from the file. -/
def inOrder (cache : ReportCache) : List (String × CacheEntry) :=
  (cache.entries.map fun entry => (entry.1, Json.inOrder entry.2)).mergeSort fun a b => a.1 ≤ b.1

section File

variable {cache : ReportCache} {map : ReportMap} (holds : cache.Holds map)

include holds

theorem Holds.tells {entry : String × CacheEntry} (member : entry ∈ cache.entries) :
    ∃ kept, map entry.1 = some kept ∧ CacheEntry.Tells entry.2 kept := by
  have found := (lookup_eq_some_iff_mem holds.distinct).mpr member
  rcases holds.cases entry.1 with ⟨absent, -⟩ | ⟨members, kept, here, same, tells⟩
  · exact absurd (absent.symm.trans found) (by simp)
  · obtain rfl := Option.some.inj (here.symm.trans found)
    exact ⟨kept, same, tells⟩

theorem Holds.isProper : cache.toJson.IsProper := by
  refine ⟨by simp, trivial, ⟨?_, Json.areProperMembers_iff.mpr fun member inside => ?_⟩, trivial⟩
  · rw [List.map_map]
    exact holds.distinct
  · obtain ⟨entry, here, rfl⟩ := List.mem_map.mp inside
    obtain ⟨kept, -, tells⟩ := holds.tells here
    exact tells.isProper

theorem Holds.forall_entries_iff {property : CacheEntry → Prop} {same : Kept → Prop}
    (agree : ∀ members kept, CacheEntry.Tells members kept → (property members ↔ same kept)) :
    (∀ entry ∈ cache.entries, property entry.2) ↔ ∀ fingerprint kept, map fingerprint = some kept → same kept := by
  constructor
  · intro all fingerprint kept given
    rcases holds.cases fingerprint with ⟨-, none⟩ | ⟨members, found, here, told, tells⟩
    · exact absurd (given.symm.trans none) (by simp)
    · obtain rfl := Option.some.inj (told.symm.trans given)
      have inside := (lookup_eq_some_iff_mem holds.distinct).mp here
      exact (agree members found tells).mp (all (fingerprint, members) inside)
  · intro all entry inside
    obtain ⟨kept, told, tells⟩ := holds.tells inside
    exact (agree entry.2 kept tells).mpr (all entry.1 kept told)

theorem Holds.isSpelled_iff {room : Room} : cache.toJson.isSpelled room = true ↔
    room.spells version = true ∧ ∀ fingerprint kept, map fingerprint = some kept →
      kept.report.isSpelled room = true := by
  have entry (members : CacheEntry) (kept : Kept) (tells : CacheEntry.Tells members kept) :
      (Json.object members).isSpelled room = true ↔ kept.report.isSpelled room = true := by rw [tells.isSpelled]
  rw [← holds.forall_entries_iff entry, toJson, Json.isSpelled, Json.membersSpelled_eq_all]
  simp [Json.isSpelled, Json.membersSpelled_eq_all]

theorem Holds.writingCalls_le_iff {most : ℕ} : cache.toJson.writingCalls ≤ most ↔
    3 ≤ most ∧ ∀ fingerprint kept, map fingerprint = some kept → 3 + max 2 kept.report.writingCalls ≤ most := by
  have entry (members : CacheEntry) (kept : Kept) (tells : CacheEntry.Tells members kept) :
      2 + (Json.object members).writingCalls ≤ most ↔ 3 + max 2 kept.report.writingCalls ≤ most := by
    have least := tells.writingCalls_le_iff.mp le_rfl
    have enough := tells.writingCalls_le_iff.mpr le_rfl
    omega
  have entries : (Json.object (cache.entries.map fun entry => (entry.1, .object entry.2))).writingCalls + 1 ≤ most ↔
      2 + min cache.entries.length 2 ≤ most ∧
        ∀ entry ∈ cache.entries, 2 + (Json.object entry.2).writingCalls ≤ most := by
    obtain _ | most := most
    · simp
    · rw [Nat.add_le_add_iff_right, Json.writingCalls_object_le_iff, List.length_map, List.forall_mem_map]
      refine and_congr (by omega) (forall₂_congr fun entry _ => ?_)
      dsimp only
      omega
  have shape : cache.toJson.writingCalls ≤ most ↔ 3 ≤ most ∧
      (Json.object (cache.entries.map fun entry => (entry.1, .object entry.2))).writingCalls + 1 ≤ most := by
    rw [toJson, Json.writingCalls_object_le_iff, List.forall_mem_cons, List.forall_mem_singleton]
    change 3 ≤ most ∧ 2 ≤ most ∧ _ ↔ _
    exact and_congr_right fun levels => and_iff_right (by omega)
  rw [← holds.forall_entries_iff entry, shape, entries]
  refine and_congr_right fun levels => and_iff_right_of_imp fun each => ?_
  -- An entry takes more calls than the two for the names of the entries.
  cases given : cache.entries with
  | nil => exact (by omega : 2 ≤ most)
  | cons first others =>
    have inside : first ∈ cache.entries := given ▸ List.mem_cons_self
    obtain ⟨kept, -, tells⟩ := holds.tells inside
    have calls := (entry first.2 kept tells).mp (each first inside)
    omega

/-- A cache can be written where its map can. -/
theorem Holds.writingLimit?_eq_none_iff {room : Room} :
    cache.writingLimit? room = none ↔ map.IsWritable room := by
  have within : cache.writingLimit? room = none ↔
      cache.toJson.isSpelled room = true ∧ cache.toJson.writingCalls ≤ room.writing := by
    rw [writingLimit?]
    grind
  rw [within, holds.isSpelled_iff, holds.writingCalls_le_iff]
  constructor
  · rintro ⟨⟨version, spelled⟩, levels, calls⟩
    exact ⟨version, levels, fun fingerprint kept same => ⟨spelled fingerprint kept same, calls fingerprint kept same⟩⟩
  · rintro ⟨version, levels, reports⟩
    exact ⟨⟨version, fun fingerprint kept same => (reports fingerprint kept same).1⟩, levels,
      fun fingerprint kept same => (reports fingerprint kept same).2⟩

theorem entriesOf_sorted : entriesOf cache.toJson.sorted = cache.inOrder := by
  let asMember (entry : String × CacheEntry) : String × Json := (entry.1, .object entry.2)
  have inside : Json.inOrder (cache.entries.map asMember) = cache.inOrder.map asMember := by
    have sorts (entries : List (String × CacheEntry)) : (entries.mergeSort fun a b => a.1 ≤ b.1).map asMember =
        (entries.map asMember).mergeSort fun a b => a.1 ≤ b.1 := List.map_mergeSort fun _ _ _ _ => rfl
    rw [Json.inOrder, Json.sortMembers, Json.sortedMembers_eq_map, inOrder, sorts, List.map_map, List.map_map]
    refine congrArg (List.mergeSort · _) (List.map_congr_left fun entry _ => ?_)
    exact Prod.ext rfl (Json.sorted_object entry.2)
  have versionFound : (cache.toJson.sorted.member? "version") = some (.int version) := by
    rw [toJson, Json.sorted_object, Json.member?, Json.lookup_inOrder (by simp)]
    rfl
  have entriesFound : cache.toJson.sorted.member? "entries" = some (.object (cache.inOrder.map asMember)) := by
    rw [toJson, Json.sorted_object, Json.member?, Json.lookup_inOrder (by simp), ← inside, ← Json.sorted_object]
    rfl
  have valid : ∀ entry ∈ cache.inOrder, entry? (asMember entry) = some entry := by
    intro entry member
    obtain ⟨before, here, rfl⟩ := List.mem_map.mp (List.mem_mergeSort.mp member)
    obtain ⟨kept, -, tells⟩ := holds.tells here
    obtain ⟨report, found, object, -⟩ := tells.inOrder.report
    simp [asMember, entry?, found, object]
  rw [entriesOf, versionFound, entriesFound, Option.any_some, isVersion_version, if_pos rfl]
  simp only [List.filterMap_map]
  exact (List.filterMap_congr valid).trans List.filterMap_some

theorem Holds.reloaded : Holds { entries := entriesOf cache.toJson.sorted } map := by
  have moved : cache.inOrder.Perm (cache.entries.map fun entry => (entry.1, Json.inOrder entry.2)) :=
    List.mergeSort_perm _ _
  have distinct : (cache.inOrder.map (·.1)).Nodup := by
    rw [(moved.map _).nodup_iff, List.map_map]
    exact holds.distinct
  rw [entriesOf_sorted holds]
  refine ⟨rfl, distinct, fun fingerprint => ?_⟩
  rw [lookup_of_perm distinct moved, lookup_map_values]
  rcases holds.cases fingerprint with ⟨absent, none⟩ | ⟨members, kept, found, same, tells⟩
  · rw [absent, none]
    exact .none
  · rw [found, same]
    exact .some tells.inOrder

/-- Only a limit keeps the text of a cache from being opened as a cache with the same entries. -/
theorem Holds.ofFile_cases (room : Room) :
    ReportCache.ofFile room (.ofText cache.text) = .ok { entries := entriesOf cache.toJson.sorted } ∨
      cache.toJson.fits room room.reading = false ∧
        ∃ fault, ReportCache.ofFile room (.ofText cache.text) = .error fault := by
  have plain : (Stored.ofText cache.text).text "" = .ok cache.text :=
    Stored.text_ofText (Json.all_isPlain_prettyAt cache.toJson.sorted 0) ""
  rw [ReportCache.ofFile, plain, ← Json.fits_sorted]
  rcases @Json.read_pretty room _ (Json.isProper_sorted holds.isProper) with ⟨-, reads⟩ | ⟨large, met, reads⟩
  · exact .inl (by simp only [text, reads])
  · exact .inr ⟨large, by simp only [text, reads, Except.error.injEq, exists_eq']⟩

theorem Holds.ofFile {room : Room} {again : ReportCache}
    (opened : ReportCache.ofFile room (.ofText cache.text) = .ok again) : again.Holds map ∧ again.changed = false := by
  rcases holds.ofFile_cases room with same | ⟨-, fault, fails⟩
  · exact Except.ok.inj (same.symm.trans opened) ▸ ⟨holds.reloaded, rfl⟩
  · exact absurd (fails.symm.trans opened) (by simp)

/-- What was written is opened again where reading may go as deep as writing. -/
theorem Holds.exists_ofFile {room : Room} (written : map.IsWritable room) (deep : room.writing ≤ room.reading) :
    ∃ again, ReportCache.ofFile room (.ofText cache.text) = .ok again := by
  have spelled : cache.toJson.isSpelled room = true :=
    holds.isSpelled_iff.mpr ⟨written.version, fun key kept same => (written.reports key kept same).1⟩
  have calls : cache.toJson.writingCalls ≤ room.writing :=
    holds.writingCalls_le_iff.mpr ⟨written.levels, fun key kept same => (written.reports key kept same).2⟩
  rcases holds.ofFile_cases room with same | ⟨large, -⟩
  · exact ⟨_, same⟩
  · exact absurd ((Json.fits_of_writingCalls_le spelled (calls.trans deep)).symm.trans large) (by simp)

end File

end ReportCache

/-- What holds of a cache with its file and a ledger between any two actions. -/
structure CacheFile.Follows (room : Room) (file : CacheFile) (ledger : Ledger) : Prop where
  current : file.cache.Holds ledger.current
  unchanged : file.cache.changed = false → ledger.current = ledger.saved
  saved : file.text = none ∧ ledger.saved = (fun _ => none) ∨
    ∃ cache : ReportCache, file.text = some cache.text ∧ cache.Holds ledger.saved ∧ ledger.saved.IsWritable room

namespace CacheFile

variable {room : Room} {file next : CacheFile} {ledger : Ledger}

theorem Follows.reopened (follows : file.Follows room ledger) (opened : file.reopen room = .ok next) :
    next.text = file.text ∧ next.cache.Holds ledger.saved ∧ next.cache.changed = false := by
  obtain ⟨cache, read, rfl⟩ := exists_of_map_eq_ok opened
  refine ⟨rfl, ?_⟩
  rcases follows.saved with ⟨absent, blank⟩ | ⟨written, text, holds, -⟩
  · rw [absent] at read
    obtain rfl := Except.ok.inj read
    exact ⟨blank ▸ ReportCache.holds_blank, rfl⟩
  · rw [text] at read
    exact holds.ofFile read

theorem Follows.exists_reopen (follows : file.Follows room ledger) (deep : room.writing ≤ room.reading) :
    ∃ next, file.reopen room = .ok next := by
  rcases follows.saved with ⟨absent, -⟩ | ⟨written, text, holds, writable⟩
  · exact ⟨{ file with cache := {} }, by rw [reopen, absent]; rfl⟩
  · obtain ⟨again, opened⟩ := holds.exists_ofFile writable deep
    refine ⟨{ file with cache := again }, ?_⟩
    rw [reopen, text, Option.map_some, Option.getD_some, opened]
    rfl

/-- Persisting does nothing, or writes the map, or fails. -/
theorem Follows.persist_cases (follows : file.Follows room ledger) :
    (file.cache.changed = false ∧ file.persist room = .ok file) ∨
    (file.cache.changed = true ∧ ledger.current.IsWritable room ∧
      file.persist room = .ok ⟨{ file.cache with changed := false }, some file.cache.text⟩) ∨
    file.cache.changed = true ∧ ¬ ledger.current.IsWritable room ∧ ∃ met, file.persist room = .error met := by
  have durable := follows.current.durable
  have limit : file.cache.writingLimit? room = none ↔ _ := follows.current.writingLimit?_eq_none_iff
  cases changed : file.cache.changed with
  | false => exact .inl ⟨rfl, by simp [CacheFile.persist, ReportCache.persist, changed, Except.map]⟩
  | true =>
    cases met : file.cache.writingLimit? room with
    | none => exact .inr (.inl ⟨rfl, limit.mp met, by
        simp [CacheFile.persist, ReportCache.persist, changed, durable, met, Except.map]⟩)
    | some met' =>
      refine .inr (.inr ⟨rfl, fun writable => absurd (met.symm.trans (limit.mpr writable)) (by simp), met', ?_⟩)
      simp [CacheFile.persist, ReportCache.persist, changed, durable, met, Except.map]

theorem Follows.refines (follows : file.Follows room ledger) : file.Refines room ledger where
  answers := follows.current.answers
  unchanged := follows.unchanged
  persists := by
    rcases follows.persist_cases with ⟨same, done⟩ | ⟨changed, writable, done⟩ | ⟨changed, large, met, failed⟩
    · simp [same, done]
    · simp [changed, writable, done]
    · simp [changed, large, failed]
  reopened next opened := by
    obtain ⟨text, holds, fresh⟩ := follows.reopened opened
    exact ⟨text, holds.answers, fresh⟩
  reopens := follows.exists_reopen

/-- Changes in memory leave the file as it is. -/
theorem Follows.change (follows : file.Follows room ledger) {cache : ReportCache} {map : ReportMap}
    (holds : cache.Holds map) (unchanged : cache.changed = false → map = ledger.saved) :
    ({ file with cache } : CacheFile).Follows room { ledger with current := map } where
  current := holds
  unchanged := unchanged
  saved := follows.saved

theorem Follows.persist (follows : file.Follows room ledger) (done : file.persist room = .ok next) :
    next.Follows room (ledger.act .persist) := by
  rcases follows.persist_cases with ⟨same, kept⟩ | ⟨-, writable, written⟩ | ⟨-, -, met, failed⟩
  · obtain rfl := Except.ok.inj (kept.symm.trans done)
    have still : ledger.act .persist = ledger :=
      congrArg (fun saved => ({ ledger with saved } : Ledger)) (follows.unchanged same)
    exact still.symm ▸ follows
  · obtain rfl := Except.ok.inj (written.symm.trans done)
    obtain ⟨durable, distinct, entries⟩ := follows.current
    exact ⟨⟨durable, distinct, entries⟩, fun _ => rfl, .inr ⟨file.cache, rfl, follows.current, writable⟩⟩
  · exact absurd (failed.symm.trans done) (by simp)

/-- One action that is done keeps a cache in step with the ledger. -/
theorem Follows.act (follows : file.Follows room ledger) {action : CacheAction} (proper : action.IsProper)
    (done : file.act room action = .ok next) : next.Follows room (ledger.act action) := by
  cases action with
  | store fingerprint targets report time =>
    obtain rfl := Except.ok.inj done
    refine follows.change (follows.current.store fingerprint targets proper.1 proper.2 time) ?_
    exact fun unchanged => absurd unchanged (by simp [ReportCache.store, ReportCache.storeValues])
  | prune keep =>
    obtain rfl := Except.ok.inj done
    refine follows.change (follows.current.prune keep) fun unchanged => ?_
    have before : file.cache.changed = false := by
      rw [ReportCache.prune, Bool.or_eq_false_iff] at unchanged
      exact unchanged.1
    rw [follows.current.eq_of_prune unchanged, follows.unchanged before]
  | clear =>
    obtain rfl := Except.ok.inj done
    have empty : file.cache.clear.Holds fun _ => none :=
      ⟨follows.current.durable, List.nodup_nil, fun _ => .none⟩
    exact follows.change empty fun unchanged => absurd unchanged (by simp [ReportCache.clear])
  | persist => exact follows.persist (ok_of_mapError done)
  | reopen =>
    obtain ⟨text, holds, fresh⟩ := follows.reopened done
    exact ⟨holds, fun _ => rfl, text ▸ follows.saved⟩

theorem follows_blank : Follows room {} Ledger.blank where
  current := ReportCache.holds_blank
  unchanged _ := rfl
  saved := .inl ⟨rfl, rfl⟩

theorem Follows.run (follows : file.Follows room ledger) {actions : List CacheAction}
    (proper : ∀ action ∈ actions, action.IsProper) :
    (file.run room actions).1.Follows room ((file.run room actions).2.foldl Ledger.act ledger) := by
  induction actions generalizing file ledger with
  | nil => exact follows
  | cons action actions ih =>
    obtain ⟨here, later⟩ := List.forall_mem_cons.mp proper
    rw [CacheFile.run]
    cases done : file.act room action with
    | ok next => exact ih (follows.act here done) later
    | error => exact ih follows later

end CacheFile

/-- Where only reports that can be written are stored, all maps can be written. -/
theorem Ledger.isWritable_act {room : Room} {ledger : Ledger} {action : CacheAction} (modest : action.IsModest room)
    (current : ledger.current.IsWritable room) (saved : ledger.saved.IsWritable room) :
    (ledger.act action).current.IsWritable room ∧ (ledger.act action).saved.IsWritable room := by
  cases action with
  | store fingerprint targets report time =>
    refine ⟨⟨current.version, current.levels, fun key kept same => ?_⟩, saved⟩
    simp only [act, Function.update_apply] at same
    split at same
    · obtain rfl := Option.some.inj same
      rw [Json.IsStorable, Json.isSpelled_sorted, Json.writingCalls_sorted]
      exact modest
    · exact current.reports key kept same
  | prune keep =>
    refine ⟨⟨current.version, current.levels, fun key kept same => ?_⟩, saved⟩
    simp only [act] at same
    split at same
    · exact current.reports key kept same
    · exact absurd same (by simp)
  | clear => exact ⟨⟨current.version, current.levels, fun key kept same => absurd same (by simp [act])⟩, saved⟩
  | persist => exact ⟨current, current⟩
  | reopen => exact ⟨saved, saved⟩

namespace CacheFile

variable {room : Room}

/-- Nothing fails where all maps can be written and reading may go as deep as writing. -/
theorem Follows.exists_act {file : CacheFile} {ledger : Ledger} (follows : file.Follows room ledger)
    (deep : room.writing ≤ room.reading) (writable : ledger.current.IsWritable room) (action : CacheAction) :
    ∃ next, file.act room action = .ok next := by
  cases action with
  | store | prune | clear => exact ⟨_, rfl⟩
  | persist =>
    obtain ⟨next, done⟩ := follows.refines.persists.mpr fun _ => writable
    exact ⟨next, by rw [CacheFile.act, done]; rfl⟩
  | reopen => exact follows.exists_reopen deep

theorem Follows.run_done {file : CacheFile} {ledger : Ledger} (follows : file.Follows room ledger)
    (deep : room.writing ≤ room.reading) (current : ledger.current.IsWritable room)
    (saved : ledger.saved.IsWritable room) {actions : List CacheAction}
    (proper : ∀ action ∈ actions, action.IsProper) (modest : ∀ action ∈ actions, action.IsModest room) :
    (file.run room actions).2 = actions := by
  induction actions generalizing file ledger with
  | nil => rfl
  | cons action actions ih =>
    obtain ⟨here, later⟩ := List.forall_mem_cons.mp proper
    obtain ⟨modestHere, modestLater⟩ := List.forall_mem_cons.mp modest
    obtain ⟨next, done⟩ := follows.exists_act deep current action
    obtain ⟨currentNext, savedNext⟩ := Ledger.isWritable_act modestHere current saved
    rw [CacheFile.run, done]
    exact congrArg (action :: ·) (ih (follows.act here done) currentNext savedNext later modestLater)

end CacheFile

end Prism
