import HeaderCatalog.Proofs.Json.Place
import HeaderCatalog.Proofs.Snapshot.RoundTrip

/-!
# A value of a wrong type is reported at its place

The readers of nodes tell every place in what is written for a node (`pinpoints_toJson`), from the notes of a
declaration up to the snapshot. So a snapshot's document is refused as soon as one of its values, at whatever place, is
of a wrong type, and the message names that place as it is written (`ofText_put_misfit`). Truth values stand in the
document just where a node has one, so that the type that belongs to a place shows in the value there.
-/

namespace HeaderCatalog

open Json

/-! ## Parts of nodes -/

theorem Version.pinpoints_toJson (v : Version) : Pinpoints read v.toJson := pinpoints_refined _ _

theorem CursorId.pinpoints_toJson (id : CursorId) : Pinpoints read id.toJson := (pinpoints_uint32 _).map CursorId.mk

theorem TypeId.pinpoints_toJson (id : TypeId) : Pinpoints read id.toJson := (pinpoints_uint32 _).map TypeId.mk

theorem CursorKind.pinpoints_toJson (kind : CursorKind) : Pinpoints read kind.toJson := pinpoints_variant _ _

theorem Nullability.pinpoints_toJson (nullability : Nullability) : Pinpoints read nullability.toJson :=
  pinpoints_variant _ _

/-- The cursors that a node names, each at its place. -/
theorem pinpoints_cursors (ids : List CursorId) :
    Pinpoints (.list CursorId.read) (.array (ids.map CursorId.toJson)) :=
  pinpoints_list (fun id _ => id.reads_toJson) fun id _ => id.pinpoints_toJson

/-- The types that a node names, each at its place. -/
theorem pinpoints_types (ids : List TypeId) : Pinpoints (.list TypeId.read) (.array (ids.map TypeId.toJson)) :=
  pinpoints_list (fun id _ => id.reads_toJson) fun id _ => id.pinpoints_toJson

/-- A cursor that a node may name. -/
theorem pinpoints_cursor? (id : CursorId) : Pinpoints CursorId.read id.toJson ∧ id.toJson ≠ .null :=
  ⟨id.pinpoints_toJson, nofun⟩

/-- A type that a node may name. -/
theorem pinpoints_type? (id : TypeId) : Pinpoints TypeId.read id.toJson ∧ id.toJson ≠ .null :=
  ⟨id.pinpoints_toJson, nofun⟩

/-! ## Nodes -/

/-- Every place in a note is told. -/
theorem PlatformNote.pinpoints_toJson {note : PlatformNote} (h : ∀ v ∈ note.versions, v.IsNormal) :
    Pinpoints schema.read note.toJson := by
  have hversion : ∀ v : Version, Pinpoints Version.read v.toJson ∧ v.toJson ≠ .null := fun v =>
    ⟨v.pinpoints_toJson, nofun⟩
  refine pinpoints_record (by decide) (PlatformNote.reads_toJson h) ?_
  refine .cons (.given (pinpoints_text _)) ?_
  refine .cons (.optional fun v _ => hversion v) ?_
  refine .cons (.optional fun v _ => hversion v) ?_
  refine .cons (.optional fun v _ => hversion v) ?_
  refine .cons (.given (pinpoints_bool _)) ?_
  refine .cons .optionalText ?_
  exact .nil

/-- Every place in what is said of a declaration is told, those in its notes too. -/
theorem Availability.pinpoints_toJson {a : Availability} (h : ∀ v ∈ a.versions, v.IsNormal) :
    Pinpoints schema.read a.toJson := by
  have hnormal : ∀ note ∈ a.notes, ∀ v ∈ note.versions, v.IsNormal := fun note hnote v hv =>
    h v (List.mem_flatMap_of_mem hnote hv)
  have hnotes : Pinpoints (.list PlatformNote.schema.read) (.array (a.notes.map PlatformNote.toJson)) :=
    pinpoints_list (fun note hnote => PlatformNote.reads_toJson (hnormal note hnote))
      fun note hnote => PlatformNote.pinpoints_toJson (hnormal note hnote)
  refine pinpoints_record (by decide) (Availability.reads_toJson h) ?_
  refine .cons (.given (pinpoints_bool _)) ?_
  refine .cons .optionalText ?_
  refine .cons (.given (pinpoints_bool _)) ?_
  refine .cons .optionalText ?_
  refine .cons (.given hnotes) ?_
  exact .nil

/-- Every place in a cursor is told. -/
theorem CursorNode.pinpoints_toJson {c : CursorNode} (h : ∀ v ∈ c.availability.versions, v.IsNormal) :
    Pinpoints schema.read c.toJson := by
  refine pinpoints_record (by decide) (CursorNode.reads_toJson h) ?_
  refine .cons (.given c.kind.pinpoints_toJson) ?_
  refine .cons (.given (pinpoints_text _)) ?_
  refine .cons .optionalText ?_
  refine .cons .optionalText ?_
  refine .cons (.given (pinpoints_bool _)) ?_
  refine .cons (.given (pinpoints_cursors _)) ?_
  refine .cons (.optional fun id _ => pinpoints_type? id) ?_
  refine .cons (.optional fun id _ => pinpoints_type? id) ?_
  refine .cons (.given (pinpoints_cursors _)) ?_
  refine .cons (.optional fun k _ => ⟨pinpoints_int32 k.toInt, nofun⟩) ?_
  refine .cons (.given (pinpoints_uint32 _)) ?_
  refine .cons .optionalText ?_
  refine .cons .optionalText ?_
  refine .cons (.given (Availability.pinpoints_toJson h)) ?_
  refine .cons (.optional fun id _ => pinpoints_cursor? id) ?_
  refine .cons (.optional fun id _ => pinpoints_cursor? id) ?_
  exact .nil

/-- Every place in a type is told. -/
theorem TypeNode.pinpoints_toJson (t : TypeNode) : Pinpoints schema.read t.toJson := by
  refine pinpoints_record (by decide) t.reads_toJson ?_
  refine .cons (.given (pinpoints_text _)) ?_
  refine .cons (.given (pinpoints_text _)) ?_
  refine .cons (.optional fun id _ => pinpoints_type? id) ?_
  refine .cons (.given t.nullability.pinpoints_toJson) ?_
  refine .cons (.given (pinpoints_int64 _)) ?_
  refine .cons (.given (pinpoints_int64 _)) ?_
  refine .cons (.optional fun id _ => pinpoints_type? id) ?_
  refine .cons (.given (pinpoints_int64 _)) ?_
  refine .cons (.optional fun id _ => pinpoints_type? id) ?_
  refine .cons (.optional fun id _ => pinpoints_type? id) ?_
  refine .cons (.optional fun ids _ => ⟨pinpoints_types ids, nofun⟩) ?_
  refine .cons (.optional fun id _ => pinpoints_cursor? id) ?_
  exact .nil

/-! ## Snapshots -/

/-- The message of a malformed document names the place and the cause. -/
theorem LoadError.message_malformed (p : Path) (cause : Cause) : (malformed ⟨p, cause⟩).message =
    "malformed snapshot: at JSON path " ++ p.render ++ " → " ++ cause.message := by
  have hwords : "malformed snapshot: at JSON path " = "malformed snapshot: " ++ "at JSON path " := by decide
  have hmessage : (malformed ⟨p, cause⟩).message =
      "malformed snapshot: " ++ ("at JSON path " ++ p.render ++ " → " ++ cause.message) := rfl
  rw [hmessage, hwords]
  simp only [String.append_assoc]

namespace Snapshot

/-- Every place in a snapshot is told. -/
theorem pinpoints_toJson {s : Snapshot} (h : ∀ v ∈ s.versions, v.IsNormal) : Pinpoints schema.read s.toJson := by
  have hnormal : ∀ c ∈ s.cursors.toList, ∀ v ∈ c.availability.versions, v.IsNormal := fun c hc v hv =>
    h v (List.mem_flatMap_of_mem hc hv)
  have hcursors : Pinpoints (.list CursorNode.schema.read) (.array (s.cursors.toList.map CursorNode.toJson)) :=
    pinpoints_list (fun c hc => CursorNode.reads_toJson (hnormal c hc))
      fun c hc => CursorNode.pinpoints_toJson (hnormal c hc)
  have htypes : Pinpoints (.list TypeNode.schema.read) (.array (s.types.toList.map TypeNode.toJson)) :=
    pinpoints_list (fun t _ => t.reads_toJson) fun t _ => t.pinpoints_toJson
  refine pinpoints_record (by decide) (reads_toJson h) ?_
  refine .cons (.given s.root.pinpoints_toJson) ?_
  refine .cons (.given hcursors) ?_
  refine .cons (.given htypes) ?_
  exact .nil

/-- **The place of a wrong type.** If a value in a snapshot's document, at whatever place, is replaced by `true` where
it is no truth value and by `0` where it is one, then the document is refused as malformed, and the message names
just that place: members by their names with points between them, items of arrays by their numbers in brackets, and
the document as a whole by a point. -/
theorem ofText_put_misfit (s : Snapshot) (hnormal : ∀ v ∈ s.versions, v.IsNormal) :
    (∀ (p : Path) (part : Json), s.toJson.at? p = some part →
      ∃ cause, ofText (s.toJson.put p part.misfit).compactText = .error (.malformed ⟨p, cause⟩) ∧
        (LoadError.malformed ⟨p, cause⟩).message =
          "malformed snapshot: at JSON path " ++ p.render ++ " → " ++ cause.message) ∧
    Path.render [] = "." ∧
    (∀ (p : Path) (name : String), Path.render (p ++ [.key name]) = if p = [] then name else p.render ++ "." ++ name) ∧
    ∀ (p : Path) (i : Nat), Path.render (p ++ [.index i]) =
      (if p = [] then "" else p.render) ++ "[" ++ toString i ++ "]" := by
  refine ⟨fun p part hp => ?_, rfl, Path.render_key, Path.render_index⟩
  obtain ⟨cause, hcause⟩ := pinpoints_toJson hnormal maxDepth s.depth_toJson_le_maxDepth p part hp
  refine ⟨cause, ?_, LoadError.message_malformed p cause⟩
  rw [ofText, Reader.run, ofText_compactText, hcause]
  rfl

namespace Example

/-- A truth value in place of a note's version, and a number in place of a truth value. -/
theorem ofText_put_misfit_noted :
    let version : Path := [.key "cursors", .index 1, .key "availability", .key "platforms", .index 0, .key "introduced"]
    let truth : Path := [.key "cursors", .index 0, .key "isDefinition"]
    (∀ v ∈ noted.versions, v.IsNormal) ∧
      (noted.toJson.at? version = some (.string "10.4") ∧
        version.render = "cursors[1].availability.platforms[0].introduced" ∧
          ∃ cause, ofText (noted.toJson.put version (.bool true)).compactText = .error (.malformed ⟨version, cause⟩)) ∧
      noted.toJson.at? truth = some (.bool true) ∧ truth.render = "cursors[0].isDefinition" ∧
        ∃ cause, ofText (noted.toJson.put truth (.int 0)).compactText = .error (.malformed ⟨truth, cause⟩) := by
  intro version truth
  have hnormal : ∀ v ∈ noted.versions, v.IsNormal := by decide
  have hversion : noted.toJson.at? version = some (.string "10.4") := rfl
  have htruth : noted.toJson.at? truth = some (.bool true) := rfl
  obtain ⟨cause, hload, -⟩ := (ofText_put_misfit noted hnormal).1 version _ hversion
  obtain ⟨cause', hload', -⟩ := (ofText_put_misfit noted hnormal).1 truth _ htruth
  exact ⟨hnormal, ⟨hversion, by decide, cause, hload⟩, htruth, by decide, cause', hload'⟩

end Example

end Snapshot

end HeaderCatalog
