import Prism.Command.Answer
import Prism.Proofs.Document.Refusal
import Prism.Proofs.Json.Limits

namespace Prism

open Run

/-- A text of YAML of which all values can be made, and whose document is read without an obstacle. -/
def Yaml.IsTenable (room : Room) (text : String) : Prop :=
  (∀ fault, Doc.ofYaml room text ≠ .error (.value fault)) ∧
    ∀ document obstacle, Doc.ofYaml room text = .ok document →
      Specification.ofDoc room document ≠ .error (.stopped obstacle)

/-- A text of JSON that meets no limit, and whose document is read without an obstacle. -/
def Json.IsTenable (room : Room) (text : String) : Prop :=
  (∀ met, Json.read room text ≠ .error (.limit met)) ∧
    ∀ value obstacle, Json.read room text = .ok value →
      Specification.ofDoc room (Doc.ofJson value) ≠ .error (.stopped obstacle)

/-- The file can be judged by its name and what it holds. -/
def Stored.IsJudged (room : Room) (name : String) (stored : Stored) : Prop :=
  stored ≠ .nullName ∧ ∀ values, stored = .octets values → ∃ text, stored.Reads text ∧
    if isYamlName name then Yaml.IsTenable room text else Json.IsTenable room text

namespace Specification

/-- The file is refused with this error by every run and by the check of it. -/
structure IsRefusedWith (room : Room) (homes : Homes) (find : Location → Stored) (path : Location)
    (error : GenerationError) : Prop where
  kind : error.kind = .specInvalid ∨ error.kind = .schemaVersionUnsupported
  runs : ∀ {ε : Type} (compiler : Compiler) (ids : List String) (script : Script ε), compiler.room = room →
    ∃ record, compiler.compileFile homes find path ids script = .ok record ∧ record.outcome.state = .failed ∧
      record.outcome.error = some error ∧ record.outcome.exitCode = 2
  checks : ∀ surroundings : Surroundings, surroundings.room = room → surroundings.homes = homes →
    surroundings.disk.find = find → ∃ answer, Command.checked surroundings path = .ok answer ∧ answer.status = 2

/-- What gives no specification without being refused. -/
def Escapes (given : Except SpecFileFault Specification) : Prop :=
  ∃ fault, given = .error fault ∧ fault.isRefusal = false

theorem escapes_error_iff {fault : SpecFileFault} : Escapes (.error fault) ↔ fault.isRefusal = false :=
  ⟨fun ⟨_, same, loose⟩ => Except.error.inj same ▸ loose, fun loose => ⟨fault, rfl, loose⟩⟩

theorem escapes_document_iff {given : Except DocumentFault Specification} :
    Escapes (given.mapError .document) ↔ ∃ obstacle, given = .error (.stopped obstacle) := by
  cases given with
  | ok spec => simp [Escapes, Except.mapError]
  | error fault =>
    rw [Except.mapError, escapes_error_iff]
    cases fault <;> simp [SpecFileFault.isRefusal]

variable {room : Room} {name text : String}

theorem escapes_json_iff (json : isYamlName name = false) :
    Escapes (documentOf room name text >>= fun document => (ofDoc room document).mapError .document) ↔
      ¬ Json.IsTenable room text := by
  rw [documentOf, if_neg (by simp [json]), Json.IsTenable]
  cases Json.read room text with
  | ok value => exact escapes_document_iff.trans (by simp)
  | error fault =>
    cases fault with
    | limit met => exact iff_of_true (escapes_error_iff.mpr rfl) (by simp)
    | unexpected expectation position =>
      exact iff_of_false (fun escapes => Bool.noConfusion (escapes_error_iff.mp escapes)) (by simp)

theorem escapes_yaml_iff (yaml : isYamlName name = true) :
    Escapes (documentOf room name text >>= fun document => (ofDoc room document).mapError .document) ↔
      ¬ Yaml.IsTenable room text := by
  rw [documentOf, if_pos yaml, Yaml.IsTenable]
  cases Doc.ofYaml room text with
  | ok document => exact escapes_document_iff.trans (by simp)
  | error fault =>
    cases fault with
    | malformed => exact iff_of_false (fun escapes => Bool.noConfusion (escapes_error_iff.mp escapes)) (by simp)
    | value fault => exact iff_of_true (escapes_error_iff.mpr rfl) (by simp)

variable {homes : Homes} {find : Location → Stored} {path place : Location}

theorem ofFile_of_reads (led : path.expand homes = .ok place) (reads : (find place).Reads text) :
    ofFile room homes find path =
      documentOf room place.name text >>= fun document => (ofDoc room document).mapError .document := by
  simp only [ofFile, led, Stored.text_eq_ok_iff.mpr reads, Except.mapError, bind, Except.bind]

theorem forall_reads_iff {stored : Stored} (reads : stored.Reads text) (holds : String → Prop) :
    (∀ values, stored = .octets values → ∃ text, stored.Reads text ∧ holds text) ↔ holds text := by
  refine ⟨fun each => ?_, fun held _ _ => ⟨text, reads, held⟩⟩
  obtain ⟨written, same, _⟩ := id reads
  obtain ⟨other, again, held⟩ := each _ same
  rwa [reads.eq again]

theorem isJudged_iff_of_reads {stored : Stored} (reads : stored.Reads text) : stored.IsJudged room name ↔
    if isYamlName name then Yaml.IsTenable room text else Json.IsTenable room text := by
  have named : stored ≠ .nullName := by
    obtain ⟨written, rfl, _⟩ := reads
    simp
  rw [Stored.IsJudged, and_iff_right named]
  exact forall_reads_iff reads fun text =>
    if isYamlName name then Yaml.IsTenable room text else Json.IsTenable room text

theorem escapes_of_error (led : path.expand homes = .ok place) {reason : ReadingFault}
    (found : (find place).text place.text = .error reason) :
    Escapes (ofFile room homes find path) ↔ reason = .nullName ∨ ∃ fault, reason = .encoding fault := by
  simp only [ofFile, led, found, Except.mapError, bind, Except.bind]
  rw [escapes_error_iff]
  cases reason <;> simp [SpecFileFault.isRefusal]

theorem isJudged_iff_of_error {stored : Stored} {reason : ReadingFault}
    (found : stored.text place.text = .error reason) :
    stored.IsJudged room name ↔ ¬ (reason = .nullName ∨ ∃ fault, reason = .encoding fault) := by
  cases stored with
  | octets values =>
    rcases Stored.text_octets_cases place.text values with ⟨text, read⟩ | ⟨fault, refused⟩
    · exact absurd (found.symm.trans read) (by simp)
    · obtain rfl := Except.error.inj (found.symm.trans refused)
      have none : ∀ text, ¬ (Stored.octets values).Reads text := fun text reads =>
        absurd (found.symm.trans (Stored.text_eq_ok_iff.mpr reads)) (by simp)
      simp [Stored.IsJudged, none]
  | absent | directory | blocked | overlong | nullName =>
    obtain rfl := Except.error.inj found
    simp [Stored.IsJudged]

/-- A file can be judged unless its fault is no refusal. -/
theorem escapes_iff (led : path.expand homes = .ok place) :
    Escapes (ofFile room homes find path) ↔ ¬ (find place).IsJudged room place.name := by
  cases found : (find place).text place.text with
  | error reason => rw [escapes_of_error led found, isJudged_iff_of_error found, not_not]
  | ok text =>
    have reads := Stored.text_eq_ok_iff.mp found
    rw [ofFile_of_reads led reads, isJudged_iff_of_reads reads]
    cases yaml : isYamlName place.name with
    | true => simpa using escapes_yaml_iff yaml
    | false => simpa using escapes_json_iff yaml

theorem isRefusedWith {fault : SpecFileFault} (given : ofFile room homes find path = .error fault)
    (refusal : fault.isRefusal = true) : IsRefusedWith room homes find path (.ofFile fault) where
  kind := by
    cases fault with
    | document fault => cases fault <;> simp [GenerationError.ofFile, GenerationError.ofDocument]
    | unreadable | encoding | notYaml | notJson | home | nullName | value | limit => exact .inl rfl
  runs compiler ids script same := by
    refine ⟨Compiler.refused (.ofFile fault), ?_, rfl, rfl, rfl⟩
    simp only [Compiler.compileFile, same, given, refusal, if_true]
  checks surroundings same led there := by
    simp only [Command.checked, same, led, there, given, refusal, if_true]
    exact ⟨_, rfl, rfl⟩

/-- The file gives a specification or is refused. -/
def IsSettled (room : Room) (homes : Homes) (find : Location → Stored) (path : Location) : Prop :=
  (∃ spec, ofFile room homes find path = .ok spec) ∨ ∃ error, IsRefusedWith room homes find path error

theorem isSettled_iff_not_escapes :
    IsSettled room homes find path ↔ ¬ Escapes (ofFile room homes find path) := by
  constructor
  · rintro settled ⟨fault, given, loose⟩
    rcases settled with ⟨spec, loaded⟩ | ⟨error, refused⟩
    · exact absurd (given.symm.trans loaded) (by simp)
    · obtain ⟨record, run, -⟩ := @IsRefusedWith.runs _ _ _ _ _ refused Empty { room } [] {} rfl
      simp only [Compiler.compileFile, given, loose, Bool.false_eq_true, if_false] at run
      exact absurd run (by simp)
  · intro kept
    cases given : ofFile room homes find path with
    | ok spec => exact .inl ⟨spec, given⟩
    | error fault =>
      refine .inr ⟨_, isRefusedWith given ?_⟩
      rw [← Bool.not_eq_false]
      exact fun loose => kept ⟨fault, given, loose⟩

/-- A text of JSON that opens few brackets and has no long rows of digits is tenable. -/
theorem isTenable_of_isModest {depth : ℕ} (modest : Json.IsModest room depth text.toList)
    (reading : depth ≤ room.reading) (freezing : 2 * depth + 2 ≤ room.freezing) (showing : depth < room.showing) :
    Json.IsTenable room text := by
  have shallow : Json.IsModest room room.reading text.toList := ⟨modest.shallow.trans reading, modest.short⟩
  refine ⟨Json.read_ne_limit shallow, fun value obstacle read => ?_⟩
  exact ofDoc_ne_stopped (Json.isProper_of_read read) ⟨depth, Json.fits_of_read read modest, freezing, showing⟩ obstacle

/-- The text of a document that is accepted. -/
def shopText : String := "\x7b\"version\": \"0.1.0\", \"metadata\": \x7b\"name\": \"shop\"\x7d\x7d"

end Specification

end Prism
