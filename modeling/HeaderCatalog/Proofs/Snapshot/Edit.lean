import HeaderCatalog.Proofs.Json.Edit
import HeaderCatalog.Proofs.Snapshot.RoundTrip

/-!
# Many documents of one snapshot

The layouts of the five kinds of records that a snapshot's document holds, by the names of their members, those that
must be present, and their blank records; the readers suit them (`layout_suits`) and so respect every edit of the
document (`respects_form`). A sound snapshot is therefore loaded from its document however that is edited: with its
members in another order, without those that say what a blank record says, with `null` for absent ones, and with
members that are not known (`ofText_edited`).
-/

namespace HeaderCatalog

open Json

/-! ## Notes -/

namespace PlatformNote

/-- The members of a note. -/
def layout : Layout where
  names := ["platform", "introduced", "deprecated", "obsoleted", "unavailable", "message"]
  required := ["platform"]
  blank := (blank "").toJson

/-- A note has no parts that are records. -/
def form : Form := .record layout []

theorem layout_defaults : layout.defaults = [("unavailable", .bool false)] := rfl

theorem layout_optional : layout.optional = ["introduced", "deprecated", "obsoleted", "message"] := by decide

theorem layout_suits : layout.Suits schema where
  names := rfl
  required := by simp [schema, layout, Field.required, Field.defaulted, Field.optional]
  defaults := by
    rw [layout_defaults, List.forall_mem_singleton]
    exact Schema.idle_of_reads rfl (reads_bool false) rfl
  optional := by
    simp only [layout_optional, List.forall_mem_cons, List.not_mem_nil, false_implies, implies_true, and_true]
    exact ⟨Schema.idle_null rfl rfl, Schema.idle_null rfl rfl, Schema.idle_null rfl rfl, Schema.idle_null rfl rfl⟩
  commute := by
    simp only [schema, List.pairwise_cons, List.forall_mem_cons, List.not_mem_nil, false_implies, implies_true,
      and_true, List.Pairwise.nil]
    repeat' apply And.intro
    all_goals exact commute_of_set fun _ _ _ => rfl

theorem respects_form : Respects form schema.read := layout_suits.respects (by simp)

end PlatformNote

/-! ## All that is said of a declaration -/

namespace Availability

/-- The members of what is said of a declaration. -/
def layout : Layout where
  names := ["alwaysDeprecated", "deprecatedMessage", "alwaysUnavailable", "unavailableMessage", "platforms"]
  required := []
  blank := blank.toJson

/-- Its notes are records. -/
def form : Form := .record layout [("platforms", .list PlatformNote.form)]

theorem layout_defaults : layout.defaults =
    [("alwaysDeprecated", .bool false), ("alwaysUnavailable", .bool false), ("platforms", .array [])] := rfl

theorem layout_optional : layout.optional = ["deprecatedMessage", "unavailableMessage"] := by decide

theorem layout_suits : layout.Suits schema where
  names := rfl
  required := by simp [schema, layout, Field.defaulted, Field.optional]
  defaults := by
    have hnotes : Reads (.list PlatformNote.schema.read) (.array ([].map PlatformNote.toJson)) [] := reads_notes (List.forall_mem_nil _)
    simp only [layout_defaults, List.forall_mem_cons, List.not_mem_nil, false_implies, implies_true, and_true]
    refine ⟨?_, ?_, ?_⟩
    · exact Schema.idle_of_reads rfl (reads_bool false) rfl
    · exact Schema.idle_of_reads rfl (reads_bool false) rfl
    · exact Schema.idle_of_reads rfl hnotes rfl
  optional := by
    simp only [layout_optional, List.forall_mem_cons, List.not_mem_nil, false_implies, implies_true, and_true]
    exact ⟨Schema.idle_null rfl rfl, Schema.idle_null rfl rfl⟩
  commute := by
    simp only [schema, List.pairwise_cons, List.forall_mem_cons, List.not_mem_nil, false_implies, implies_true,
      and_true, List.Pairwise.nil]
    repeat' apply And.intro
    all_goals exact commute_of_set fun _ _ _ => rfl

theorem respects_form : Respects form schema.read := by
  refine layout_suits.respects ?_
  rw [List.forall_mem_singleton]
  exact ⟨_, rfl, PlatformNote.respects_form.list.map _⟩

end Availability

/-! ## Nodes -/

namespace CursorNode

/-- The members of a cursor. -/
def layout : Layout where
  names := ["kind", "spelling", "prettyPrinted", "file", "isDefinition", "children", "type", "resultType", "arguments",
    "numArguments", "propertyAttributes", "getter", "setter", "availability", "referenced", "definition"]
  required := ["kind"]
  blank := (blank .other "").toJson

/-- What is said of its availability is a record. -/
def form : Form := .record layout [("availability", Availability.form)]

theorem layout_defaults : layout.defaults = [("spelling", .string ""), ("isDefinition", .bool true),
    ("children", .array []), ("arguments", .array []), ("propertyAttributes", .nat 0),
    ("availability", Availability.blank.toJson)] := rfl

theorem layout_optional : layout.optional = ["prettyPrinted", "file", "type", "resultType", "numArguments", "getter",
    "setter", "referenced", "definition"] := by decide

theorem layout_suits : layout.Suits schema where
  names := rfl
  required := by simp [schema, layout, Field.required, Field.defaulted, Field.optional]
  defaults := by
    simp only [layout_defaults, List.forall_mem_cons, List.not_mem_nil, false_implies, implies_true, and_true]
    have hids : Reads (.list CursorId.read) (.array ([].map CursorId.toJson)) [] :=
      reads_list (List.forall_mem_nil _)
    refine ⟨?_, ?_, ?_, ?_, ?_, ?_⟩
    · exact Schema.idle_of_reads rfl (reads_text "") rfl
    · exact Schema.idle_of_reads rfl (reads_bool true) rfl
    · exact Schema.idle_of_reads rfl hids rfl
    · exact Schema.idle_of_reads rfl hids rfl
    · exact Schema.idle_of_reads rfl (reads_uint32 0) rfl
    · exact Schema.idle_of_reads rfl (Availability.reads_toJson (a := .blank) (List.forall_mem_nil _)) rfl
  optional := by
    simp only [layout_optional, List.forall_mem_cons, List.not_mem_nil, false_implies, implies_true, and_true]
    refine ⟨?_, ?_, ?_, ?_, ?_, ?_, ?_, ?_, ?_⟩
    all_goals exact Schema.idle_null rfl rfl
  commute := by
    simp only [schema, List.pairwise_cons, List.forall_mem_cons, List.not_mem_nil, false_implies, implies_true,
      and_true, List.Pairwise.nil]
    repeat' apply And.intro
    all_goals exact commute_of_set fun _ _ _ => rfl

theorem respects_form : Respects form schema.read := by
  refine layout_suits.respects ?_
  rw [List.forall_mem_singleton]
  exact ⟨_, rfl, Availability.respects_form.map _⟩

end CursorNode

namespace TypeNode

/-- The members of a type. -/
def layout : Layout where
  names := ["spelling", "kind", "canonical", "nullability", "size", "align", "element", "arraySize", "pointee", "result",
    "arguments", "declaration"]
  required := ["spelling", "kind"]
  blank := (blank "" "").toJson

/-- A type has no parts that are records. -/
def form : Form := .record layout []

theorem layout_defaults : layout.defaults = [("nullability", .string "INVALID"), ("size", .int (-1)),
    ("align", .int (-1)), ("arraySize", .int (-1))] := rfl

theorem layout_optional :
    layout.optional = ["canonical", "element", "pointee", "result", "arguments", "declaration"] := by decide

theorem layout_suits : layout.Suits schema where
  names := rfl
  required := by simp [schema, layout, Field.required, Field.defaulted, Field.optional]
  defaults := by
    simp only [layout_defaults, List.forall_mem_cons, List.not_mem_nil, false_implies, implies_true, and_true]
    refine ⟨?_, ?_, ?_, ?_⟩
    · exact Schema.idle_of_reads rfl Nullability.invalid.reads_toJson rfl
    · exact Schema.idle_of_reads rfl (reads_int64 (-1)) rfl
    · exact Schema.idle_of_reads rfl (reads_int64 (-1)) rfl
    · exact Schema.idle_of_reads rfl (reads_int64 (-1)) rfl
  optional := by
    simp only [layout_optional, List.forall_mem_cons, List.not_mem_nil, false_implies, implies_true, and_true]
    refine ⟨?_, ?_, ?_, ?_, ?_, ?_⟩
    all_goals exact Schema.idle_null rfl rfl
  commute := by
    simp only [schema, List.pairwise_cons, List.forall_mem_cons, List.not_mem_nil, false_implies, implies_true,
      and_true, List.Pairwise.nil]
    repeat' apply And.intro
    all_goals exact commute_of_set fun _ _ _ => rfl

theorem respects_form : Respects form schema.read := layout_suits.respects (by simp)

end TypeNode

/-! ## Snapshots -/

namespace Snapshot

/-- The members of a snapshot. -/
def layout : Layout where
  names := ["root", "cursors", "types"]
  required := []
  blank := blank.toJson

/-- Its nodes are records. -/
def form : Form := .record layout [("cursors", .list CursorNode.form), ("types", .list TypeNode.form)]

theorem layout_defaults : layout.defaults = [("root", .nat 0), ("cursors", .array []), ("types", .array [])] := rfl

theorem layout_optional : layout.optional = [] := by decide

theorem layout_suits : layout.Suits schema where
  names := rfl
  required := by simp [schema, Field.defaulted]
  defaults := by
    have hcursors : Reads (.list CursorNode.schema.read) (.array ([].map CursorNode.toJson)) [] :=
      reads_list (List.forall_mem_nil _)
    have htypes : Reads (.list TypeNode.schema.read) (.array ([].map TypeNode.toJson)) [] :=
      reads_list (List.forall_mem_nil _)
    simp only [layout_defaults, List.forall_mem_cons, List.not_mem_nil, false_implies, implies_true, and_true]
    refine ⟨?_, ?_, ?_⟩
    · exact Schema.idle_of_reads rfl (CursorId.ofNat 0).reads_toJson rfl
    · exact Schema.idle_of_reads rfl hcursors rfl
    · exact Schema.idle_of_reads rfl htypes rfl
  optional := by
    rw [layout_optional]
    exact List.forall_mem_nil _
  commute := by
    simp only [schema, List.pairwise_cons, List.forall_mem_cons, List.not_mem_nil, false_implies, implies_true,
      and_true, List.Pairwise.nil]
    repeat' apply And.intro
    all_goals exact commute_of_set fun _ _ _ => rfl

theorem respects_form : Respects form schema.read := by
  refine layout_suits.respects ?_
  rw [List.forall_mem_cons, List.forall_mem_singleton]
  exact ⟨⟨_, rfl, CursorNode.respects_form.list.map _⟩, _, rfl, TypeNode.respects_form.list.map _⟩

/-- **Many documents of one snapshot.** A sound snapshot with normal versions is loaded from its document, however that
is edited: with the members of its records in another order, without those that have the blank records' values, with
`null` for absent ones, and with members of unknown names and any values. The blank records' values are those listed. -/
theorem ofText_edited :
    (∀ s : Snapshot, s.validate = .ok () → (∀ v ∈ s.versions, v.IsNormal) →
      ∀ j, Relation.ReflTransGen (Edit form) s.toJson j → ofText j.compactText = .ok s) ∧
    layout.defaults = [("root", .nat 0), ("cursors", .array []), ("types", .array [])] ∧
    CursorNode.layout.defaults = [("spelling", .string ""), ("isDefinition", .bool true), ("children", .array []),
      ("arguments", .array []), ("propertyAttributes", .nat 0), ("availability", Availability.blank.toJson)] ∧
    TypeNode.layout.defaults = [("nullability", .string "INVALID"), ("size", .int (-1)), ("align", .int (-1)),
      ("arraySize", .int (-1))] ∧
    Availability.layout.defaults =
      [("alwaysDeprecated", .bool false), ("alwaysUnavailable", .bool false), ("platforms", .array [])] ∧
    PlatformNote.layout.defaults = [("unavailable", .bool false)] := by
  refine ⟨fun s hvalid hnormal j hedits => ?_, layout_defaults, CursorNode.layout_defaults, TypeNode.layout_defaults,
    Availability.layout_defaults, PlatformNote.layout_defaults⟩
  have hread := (reads_toJson hnormal maxDepth).ok s.depth_toJson_le_maxDepth
  exact ofText_of_read hvalid (respects_form.run hedits hread)

namespace Example

/-- A header's document with nothing that goes without saying, and with more than is known. -/
def edited : Json := .object [
  ("generator", .array [.null]),
  ("cursors", .array [.object [("file", .null), ("kind", .string "TranslationUnit"), ("spelling", .string "a.h")]])]

/-- Of the header's cursor only kind and spelling need to be said. -/
theorem edits_header : Relation.ReflTransGen (Edit CursorNode.form) (CursorNode.blank .translationUnit "a.h").toJson
    (.object [("file", .null), ("kind", .string "TranslationUnit"), ("spelling", .string "a.h")]) := by
  let said : List (String × Json) := [("kind", .string "TranslationUnit"), ("spelling", .string "a.h")]
  let unsaid : List (String × Json) := [("isDefinition", .bool true), ("children", .array []), ("arguments", .array []),
    ("propertyAttributes", .nat 0), ("availability", Availability.blank.toJson)]
  have hperm : (said ++ unsaid).Perm (unsaid ++ said) := List.perm_append_comm
  have hmem : ∀ m ∈ unsaid, m ∈ CursorNode.layout.defaults := by
    rw [CursorNode.layout_defaults]
    exact fun m hm => List.mem_cons_of_mem _ hm
  refine .head (.permute hperm) ?_
  refine .trans (edits_leaveOut hmem) ?_
  exact .single (.addNull (by rw [CursorNode.layout_optional]; decide) (by decide))

/-- The header is loaded from the edited document, in which also the snapshot's own members are moved and left out. -/
theorem ofText_edited_bare : bare.validate = .ok () ∧ (∀ v ∈ bare.versions, v.IsNormal) ∧
    Relation.ReflTransGen (Edit form) bare.toJson edited ∧ ofText edited.compactText = .ok bare := by
  have hvalid : bare.validate = .ok () := rfl
  have hnormal : ∀ v ∈ bare.versions, v.IsNormal := by decide
  have hdefaults : ("root", .nat 0) ∈ layout.defaults ∧ ("types", .array []) ∈ layout.defaults := by
    rw [layout_defaults]
    exact ⟨.head _, .tail _ (.tail _ (.head _))⟩
  have hedits : Relation.ReflTransGen (Edit form) bare.toJson edited := by
    refine .head (.leaveOut _ hdefaults.1) ?_
    refine .head (.permute (.swap _ _ _)) ?_
    refine .head (.leaveOut _ hdefaults.2) ?_
    refine .trans ?_ (.single (.addUnknown _ _ (by decide)))
    have hpart : ∀ j j', Edit CursorNode.form j j' →
        Edit form (.object [("cursors", .array [j])]) (.object [("cursors", .array [j'])]) :=
      fun j j' hedit => .part [] (.head _) (.item [] [] hedit)
    exact Relation.ReflTransGen.lift (fun j => Json.object [("cursors", .array [j])]) hpart _ _ edits_header
  exact ⟨hvalid, hnormal, hedits, ofText_edited.1 bare hvalid hnormal edited hedits⟩

end Example

end Snapshot

end HeaderCatalog
