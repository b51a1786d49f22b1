import Prism.Proofs.Cache
import Prism.Proofs.Json.Limits

namespace Prism

/-- The values that are equal to one. -/
def Json.IsOne (value : Json) : Prop :=
  value = .int 1 ∨ value = .bool true ∨ ∃ x : Float, value = .float x ∧ (x == 1) = true

/-- An object of the first version with these entries. -/
def Json.IsCacheWith (value : Json) (entries : List (String × Json)) : Prop :=
  ∃ members version, value = .object members ∧ ("version", version) ∈ members ∧ version.IsOne ∧
    ("entries", .object entries) ∈ members

/-- The report of an entry is an object. -/
def CacheEntry.IsReported (entry : CacheEntry) : Prop := ∃ report, ("report", .object report) ∈ entry

/-- The file is JSON of this value. -/
def Stored.IsJson (room : Room) (stored : Stored) (value : Json) : Prop :=
  ∃ text, stored.Reads text ∧ Json.read room text = .ok value

namespace ReportCache

/-- A cache that was just opened on this file. -/
structure OpenedOn (room : Room) (cache : ReportCache) (stored : Stored) : Prop where
  durable : cache.durable = true
  unchanged : cache.changed = false
  distinct : (cache.entries.map (·.1)).Nodup
  mem_iff : ∀ key entry, (key, entry) ∈ cache.entries ↔ ∃ value entries, stored.IsJson room value ∧
    value.IsCacheWith entries ∧ (key, .object entry) ∈ entries ∧ CacheEntry.IsReported entry
  ordered : ∀ value entries, stored.IsJson room value → value.IsCacheWith entries →
    (cache.entries.map fun entry => (entry.1, Json.object entry.2)).Sublist entries

theorem isVersion_iff {value : Json} : isVersion value = true ↔ value.IsOne := by
  have one : Float.ofInt version = 1 := by decide +kernel
  cases value with
  | int n => simp [isVersion, Json.IsOne, show version = 1 from rfl]
  | float x => simp [isVersion, Json.IsOne, one]
  | null | bool | text | list | object => simp [isVersion, Json.IsOne]

section Proper

variable {value : Json} (proper : value.IsProper) {entries : List (String × Json)}
include proper

theorem member?_eq_some_iff {name : String} {found : Json} :
    value.member? name = some found ↔ ∃ members, value = .object members ∧ (name, found) ∈ members := by
  cases value with
  | object members =>
    rw [Json.member?, Json.lookup_eq, lookup_eq_some_iff_mem proper.1]
    constructor
    · exact fun inside => ⟨members, rfl, inside⟩
    · rintro ⟨_, same, inside⟩
      exact Json.object.inj same ▸ inside
  | null | bool | int | float | text | list => simp [Json.member?]

theorem isCacheWith_iff : value.IsCacheWith entries ↔
    (value.member? "version").any isVersion = true ∧ value.member? "entries" = some (.object entries) := by
  rw [Option.any_eq_true, member?_eq_some_iff proper]
  constructor
  · rintro ⟨members, version, rfl, stated, one, inside⟩
    have found := (member?_eq_some_iff proper).mpr ⟨members, rfl, stated⟩
    exact ⟨⟨version, found, isVersion_iff.mpr one⟩, members, rfl, inside⟩
  · rintro ⟨⟨version, found, one⟩, members, rfl, inside⟩
    obtain ⟨_, same, stated⟩ := (member?_eq_some_iff proper).mp found
    obtain rfl := Json.object.inj same
    exact ⟨members, version, rfl, stated, isVersion_iff.mp one, inside⟩

/-- A value that is no cache has no entries. -/
theorem entriesOf_cases : (∃ entries, value.IsCacheWith entries ∧ entriesOf value = entries.filterMap entry?) ∨
    (∀ entries, ¬ value.IsCacheWith entries) ∧ entriesOf value = [] := by
  simp only [isCacheWith_iff proper, entriesOf]
  split
  · next one =>
    split
    · next members found => exact .inl ⟨members, ⟨one, found⟩, rfl⟩
    · next none => exact .inr ⟨fun entries given => none entries given.2, rfl⟩
  · next other => exact .inr ⟨fun entries given => other given.1, rfl⟩

theorem IsCacheWith.isProper (cached : value.IsCacheWith entries) : (Json.object entries).IsProper := by
  obtain ⟨members, _, rfl, _, _, inside⟩ := cached
  exact Json.areProperMembers_iff.mp proper.2 _ inside

theorem IsCacheWith.eq (cached : value.IsCacheWith entries) {others : List (String × Json)}
    (again : value.IsCacheWith others) : entries = others := by
  have first := ((isCacheWith_iff proper).mp cached).2
  have second := ((isCacheWith_iff proper).mp again).2
  exact Json.object.inj (Option.some.inj (first.symm.trans second))

end Proper

theorem isReported_iff {entry : CacheEntry} (proper : (Json.object entry).IsProper) :
    (Json.lookup "report" entry).any Json.isObject = true ↔ CacheEntry.IsReported entry := by
  rw [Option.any_eq_true]
  constructor
  · rintro ⟨report, found, isObject⟩
    obtain ⟨_, same, inside⟩ := (member?_eq_some_iff proper).mp found
    obtain rfl := Json.object.inj same
    cases report with
    | object members => exact ⟨members, inside⟩
    | null | bool | int | float | text | list => exact absurd isObject (by simp [Json.isObject])
  · rintro ⟨report, inside⟩
    exact ⟨.object report, (member?_eq_some_iff proper).mpr ⟨entry, rfl, inside⟩, rfl⟩

theorem eq_of_entry? {member : String × Json} {entry : String × CacheEntry} (found : entry? member = some entry) :
    member = (entry.1, .object entry.2) := by
  unfold entry? at found
  split at found
  · obtain rfl := Option.some.inj (Option.ite_none_right_eq_some.mp found).2
    rfl
  · exact absurd found (by simp)

theorem entry?_eq_some_iff {member : String × Json} {key : String} {entry : CacheEntry} (proper : member.2.IsProper) :
    entry? member = some (key, entry) ↔ member = (key, .object entry) ∧ CacheEntry.IsReported entry := by
  constructor
  · intro found
    obtain rfl := eq_of_entry? found
    rw [ entry?, Option.ite_none_right_eq_some, isReported_iff proper] at found
    exact ⟨rfl, found.1⟩
  · rintro ⟨rfl, reported⟩
    rw [ entry?, if_pos ((isReported_iff proper).mpr reported)]

/-- The entries of a cache are among those that its file has, in their order. -/
theorem sublist_filterMap_entry? (entries : List (String × Json)) :
    ((entries.filterMap entry?).map fun entry => (entry.1, Json.object entry.2)).Sublist entries := by
  induction entries with
  | nil => exact .slnil
  | cons member entries ih =>
    rw [List.filterMap_cons]
    split
    · exact ih.cons member
    · next entry found =>
      rw [List.map_cons, ← eq_of_entry? found]
      exact ih.cons_cons member

variable {room : Room} {stored : Stored} {text : String} {value : Json}

theorem openedOn_blank (none : ∀ value entries, stored.IsJson room value → ¬ value.IsCacheWith entries) :
    OpenedOn room {} stored where
  durable := rfl
  unchanged := rfl
  distinct := List.nodup_nil
  mem_iff _ _ := iff_of_false List.not_mem_nil fun ⟨value, entries, written, cached, _⟩ =>
    none value entries written cached
  ordered value entries written cached := absurd cached (none value entries written)

theorem openedOn_of_read (reads : stored.Reads text) (read : Json.read room text = .ok value) :
    OpenedOn room { entries := entriesOf value } stored := by
  have proper := Json.isProper_of_read read
  have only : ∀ {other}, stored.IsJson room other → other = value := fun ⟨_, again, readAgain⟩ =>
    Except.ok.inj (readAgain.symm.trans (reads.eq again ▸ read))
  rcases entriesOf_cases proper with ⟨entries, cached, same⟩ | ⟨none, same⟩ <;> rw [same]
  · have each := IsCacheWith.isProper proper cached
    have sublist := sublist_filterMap_entry? entries
    have others {value : Json} {others : List (String × Json)} (written : stored.IsJson room value)
        (given : value.IsCacheWith others) : others = entries := by
      obtain rfl := only written
      exact IsCacheWith.eq proper given cached
    refine ⟨rfl, rfl, ?_, fun key entry => ?_, fun _ _ written given => others written given ▸ sublist⟩
    · have names := sublist.map Prod.fst
      rw [List.map_map] at names
      exact names.nodup each.1
    · rw [List.mem_filterMap]
      constructor
      · rintro ⟨member, inside, found⟩
        obtain ⟨rfl, reported⟩ := (entry?_eq_some_iff (Json.areProperMembers_iff.mp each.2 member inside)).mp found
        exact ⟨value, entries, ⟨text, reads, read⟩, cached, inside, reported⟩
      · rintro ⟨other, found, written, given, inside, reported⟩
        obtain rfl := others written given
        exact ⟨_, inside, (entry?_eq_some_iff (Json.areProperMembers_iff.mp each.2 _ inside)).mpr ⟨rfl, reported⟩⟩
  · exact openedOn_blank fun other entries written given => none entries (only written ▸ given)

theorem openedOn_of_ofFile {cache : ReportCache} (opened : ofFile room stored = .ok cache) :
    cache.OpenedOn room stored := by
  have blank (none : ∀ value, ¬ stored.IsJson room value) : OpenedOn room {} stored :=
    openedOn_blank fun value _ written => absurd written (none value)
  unfold ofFile at opened
  split at opened
  · exact absurd opened (by simp)
  · exact absurd opened (by simp)
  · next found =>
    obtain rfl := Except.ok.inj opened
    refine blank fun value ⟨text, reads, _⟩ => ?_
    rw [Stored.text_eq_ok_iff.mpr reads] at found
    exact absurd found (by simp)
  · next text found =>
    have reads := Stored.text_eq_ok_iff.mp found
    split at opened
    · exact absurd opened (by simp)
    · next refused =>
      obtain rfl := Except.ok.inj opened
      refine blank fun value ⟨other, again, read⟩ => ?_
      rw [← reads.eq again, refused] at read
      exact absurd read (by simp)
    · next value read =>
      obtain rfl := Except.ok.inj opened
      exact openedOn_of_read reads read

theorem exists_ofFile_iff : (∃ cache, ofFile room stored = .ok cache) ↔ stored.IsLegible room := by
  constructor
  · rintro ⟨cache, opened⟩
    refine ⟨?_, ?_⟩
    · rintro rfl
      exact absurd opened (by simp [ofFile, Stored.text])
    · rintro values rfl
      rcases Stored.text_octets_cases "" values with ⟨text, read⟩ | ⟨fault, refused⟩
      · refine ⟨text, Stored.text_eq_ok_iff.mp read, fun met limited => ?_⟩
        simp only [ofFile, read, limited, reduceCtorEq] at opened
      · simp only [ofFile, refused, reduceCtorEq] at opened
  · rintro ⟨named, legible⟩
    cases stored with
    | octets values =>
      obtain ⟨text, reads, proceeds⟩ := legible values rfl
      rw [ofFile, Stored.text_eq_ok_iff.mpr reads]
      dsimp only
      split
      · next met limited => exact absurd limited (proceeds met)
      · exact ⟨_, rfl⟩
      · exact ⟨_, rfl⟩
    | nullName => exact absurd rfl named
    | absent | directory | blocked | overlong => exact ⟨{}, rfl⟩

/-- A file of the first version by another spelling of one, with an entry and something else. -/
def mixedFile : Stored :=
  let text := "\x7b\"version\": true, \"entries\": \x7b\"a\": \x7b\"report\": \x7b\x7d\x7d, \"b\": 3\x7d\x7d"
  .octets (text.toList.map Char.toNat)

/-- A value that is too large to be read is not ignored. -/
theorem ofFile_of_not_fits (proper : value.IsProper) (large : value.fits room room.reading = false) :
    ∃ met, ofFile room (.ofText value.pretty) = .error (.limit met) := by
  have plain : (Stored.ofText value.pretty).text "" = .ok value.pretty :=
    Stored.text_ofText (Json.all_isPlain_prettyAt value 0) ""
  rw [ofFile, plain]
  rcases @Json.read_pretty room _ proper with ⟨fits, _⟩ | ⟨_, met, read⟩
  · exact absurd (fits.symm.trans large) (by simp)
  · exact ⟨met, by simp only [read]⟩

end ReportCache

end Prism
