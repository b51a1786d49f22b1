import Prism.Proofs.Document.Grammar
import Prism.Spec.File

namespace Prism

namespace Specification

variable {room : Room}

theorem schemaVersion_of_readSections {version : String} {data : List (Scalar × Doc)} {spec : Specification}
    (read : readSections room version data = .ok spec) : spec.schemaVersion = version := by
  unfold readSections at read
  extract_lets metadata entityRows flowRows entities flows architecture compliance sections at read
  cases all : sections with
  | error problems => simp [all, Except.map] at read
  | ok parts =>
    rw [all] at read
    obtain rfl := Except.ok.inj read
    rfl

/-- Only documents of a supported version are read. -/
theorem supportedVersions_of_ofDoc {document : Doc} {spec : Specification} (read : ofDoc room document = .ok spec) :
    supportedVersions.contains spec.schemaVersion = true := by
  unfold ofDoc at read
  split at read
  · next data =>
    split at read
    · split at read <;> exact absurd read (by simp)
    · next version known =>
      have supported : supportedVersions.contains version = true := by
        unfold version? at known
        split at known
        · split at known
          · next contained => exact Option.some.inj known ▸ contained
          · exact absurd known (by simp)
        · exact absurd known (by simp)
      cases sections : readSections room version data with
      | error problems => simp [sections, Except.mapError] at read
      | ok other =>
        rw [sections] at read
        obtain rfl := Except.ok.inj read
        rwa [schemaVersion_of_readSections sections]
  · exact absurd read (by simp)

end Specification

end Prism
