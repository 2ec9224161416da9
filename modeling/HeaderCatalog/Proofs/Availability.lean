import HeaderCatalog.Availability.Basic
import HeaderCatalog.Proofs.Json.Record
import HeaderCatalog.Proofs.Version

/-!
# Reading back availability

What is written of a note, and of all that is said of a declaration, is read back as it was (`reads_toJson`), if its
versions are normal. All that is ever read has normal versions.
-/

namespace HeaderCatalog

open Json

/-! ## Versions -/

/-- A normal version is read back from its written form. -/
theorem Version.reads_toJson {v : Version} (h : v.IsNormal) : Reads Version.read v.toJson v := by
  refine reads_refined ?_
  rw [parse?_text h]

/-- Every version that is ever read is normal. -/
theorem Version.yields_isNormal : Yields Version.read Version.IsNormal := by
  refine .refined fun s v h => ?_
  cases hparse : parse? s with
  | none => rw [hparse] at h; cases h
  | some w =>
    rw [hparse] at h
    cases h
    exact isNormal_of_parse? hparse

/-! ## Notes -/

namespace PlatformNote

/-- The versions of a note. -/
def versions (note : PlatformNote) : List Version :=
  note.introduced?.toList ++ note.deprecated?.toList ++ note.obsoleted?.toList

theorem mem_versions {note : PlatformNote} {v : Version} : v ∈ note.versions ↔
    note.introduced? = some v ∨ note.deprecated? = some v ∨ note.obsoleted? = some v := by
  simp [versions]

/-- A note is read back, every part as it was. -/
theorem reads_toJson {note : PlatformNote} (h : ∀ v ∈ note.versions, v.IsNormal) :
    Reads schema.read note.toJson note := by
  have hversion : ∀ v ∈ note.versions, Reads Version.read v.toJson v ∧ v.toJson ≠ .null := fun v hv =>
    ⟨Version.reads_toJson (h v hv), nofun⟩
  refine reads_of_fills (by decide) ?_
  refine .required (reads_text _) ?_
  refine .optional (fun v hv => hversion v (mem_versions.mpr (.inl hv))) rfl ?_
  refine .optional (fun v hv => hversion v (mem_versions.mpr (.inr (.inl hv)))) rfl ?_
  refine .optional (fun v hv => hversion v (mem_versions.mpr (.inr (.inr hv)))) rfl ?_
  refine .defaulted (reads_bool _) ?_
  refine .optionalText rfl ?_
  exact .done

theorem depth_toJson_le (note : PlatformNote) : note.toJson.depth ≤ 1 := by
  refine depth_record_le ?_
  simp [Version.toJson]

/-- Every note that is ever read has normal versions. -/
theorem yields_isNormal : Yields schema.read fun note => ∀ v ∈ note.versions, v.IsNormal := by
  have hversion := Version.yields_isNormal.option
  refine yields_read (by simp [schema, blank, versions]) ?_
  simp only [schema, List.forall_mem_cons, List.not_mem_nil, false_implies, implies_true, and_true]
  refine ⟨keeps_of_frame fun _ _ hdraft => hdraft, ?_, ?_, ?_, keeps_of_frame fun _ _ hdraft => hdraft,
    keeps_of_frame fun _ _ hdraft => hdraft⟩
  · refine keeps_of_set hversion fun a ha draft hdraft v hv => ?_
    rcases mem_versions.mp hv with hv | hv
    · exact ha v hv
    · exact hdraft v (mem_versions.mpr (.inr hv))
  · refine keeps_of_set hversion fun a ha draft hdraft v hv => ?_
    rcases mem_versions.mp hv with hv | hv | hv
    · exact hdraft v (mem_versions.mpr (.inl hv))
    · exact ha v hv
    · exact hdraft v (mem_versions.mpr (.inr (.inr hv)))
  · refine keeps_of_set hversion fun a ha draft hdraft v hv => ?_
    rcases mem_versions.mp hv with hv | hv | hv
    · exact hdraft v (mem_versions.mpr (.inl hv))
    · exact hdraft v (mem_versions.mpr (.inr (.inl hv)))
    · exact ha v hv

end PlatformNote

/-- The versions that notes name. -/
def notesVersions (notes : List PlatformNote) : List Version := notes.flatMap PlatformNote.versions

/-- Notes are read back one by one. -/
theorem reads_notes {notes : List PlatformNote} (h : ∀ v ∈ notesVersions notes, v.IsNormal) :
    Reads (.list PlatformNote.schema.read) (.array (notes.map PlatformNote.toJson)) notes :=
  reads_list fun _ hnote => PlatformNote.reads_toJson fun v hv => h v (List.mem_flatMap_of_mem hnote hv)

/-! ## All that is said of a declaration -/

namespace Availability

/-- All versions that are named. -/
def versions (a : Availability) : List Version := a.notes.flatMap PlatformNote.versions

/-- Availability is read back note by note. -/
theorem reads_toJson {a : Availability} (h : ∀ v ∈ a.versions, v.IsNormal) : Reads schema.read a.toJson a := by
  refine reads_of_fills (by decide) ?_
  refine .defaulted (reads_bool _) ?_
  refine .optionalText rfl ?_
  refine .defaulted (reads_bool _) ?_
  refine .optionalText rfl ?_
  refine .defaulted (reads_notes h) ?_
  exact .done

theorem depth_toJson_le (a : Availability) : a.toJson.depth ≤ 3 := by
  have hnotes := depth_array_le PlatformNote.depth_toJson_le a.notes
  refine depth_record_le ?_
  simp [hnotes]

/-- All availability that is ever read has normal versions. -/
theorem yields_isNormal : Yields schema.read fun a => ∀ v ∈ a.versions, v.IsNormal := by
  refine yields_read (by simp [schema, blank, versions]) ?_
  simp only [schema, List.forall_mem_cons, List.not_mem_nil, false_implies, implies_true, and_true]
  refine ⟨keeps_of_frame fun _ _ hdraft => hdraft, keeps_of_frame fun _ _ hdraft => hdraft,
    keeps_of_frame fun _ _ hdraft => hdraft, keeps_of_frame fun _ _ hdraft => hdraft, ?_⟩
  refine keeps_of_set PlatformNote.yields_isNormal.list fun notes hnotes draft _ v hv => ?_
  obtain ⟨note, hnote, hv⟩ := List.mem_flatMap.mp hv
  exact hnotes note hnote v hv

end Availability

end HeaderCatalog
