import HeaderCatalog.Proofs.Json.Continuation
import HeaderCatalog.Proofs.Json.Whole
import HeaderCatalog.Proofs.Snapshot.RoundTrip

/-!
# What follows a snapshot is not looked at

A snapshot is loaded from the first document of a text. That document is an array or an object and is read to its end
(`needsWhole`), so whatever follows it, blanks or anything else, is neither read nor refused (`ofText_append`).
-/

namespace HeaderCatalog

open Json

/-! ## Records are read from whole documents -/

theorem PlatformNote.needsWhole : NeedsWhole schema.read := by
  have hversion : NeedsWhole Version.read := needsWhole_refined _
  refine needsWhole_read ?_
  simp only [schema, List.forall_mem_cons, List.not_mem_nil, false_implies, implies_true, and_true]
  exact ⟨needsWhole_text.map _, hversion.option.map _, hversion.option.map _, hversion.option.map _,
    needsWhole_bool.map _, needsWhole_text.option.map _⟩

theorem Availability.needsWhole : NeedsWhole schema.read := by
  refine needsWhole_read ?_
  simp only [schema, List.forall_mem_cons, List.not_mem_nil, false_implies, implies_true, and_true]
  exact ⟨needsWhole_bool.map _, needsWhole_text.option.map _, needsWhole_bool.map _, needsWhole_text.option.map _,
    PlatformNote.needsWhole.list.map _⟩

theorem CursorId.needsWhole : NeedsWhole read := needsWhole_uint32.map CursorId.mk

theorem TypeId.needsWhole : NeedsWhole read := needsWhole_uint32.map TypeId.mk

theorem CursorNode.needsWhole : NeedsWhole schema.read := by
  refine needsWhole_read ?_
  simp only [schema, List.forall_mem_cons, List.not_mem_nil, false_implies, implies_true, and_true]
  exact ⟨(needsWhole_variant _).map _, needsWhole_text.map _, needsWhole_text.option.map _,
    needsWhole_text.option.map _, needsWhole_bool.map _, CursorId.needsWhole.list.map _,
    TypeId.needsWhole.option.map _, TypeId.needsWhole.option.map _, CursorId.needsWhole.list.map _,
    needsWhole_int32.option.map _, needsWhole_uint32.map _, needsWhole_text.option.map _,
    needsWhole_text.option.map _, Availability.needsWhole.map _, CursorId.needsWhole.option.map _,
    CursorId.needsWhole.option.map _⟩

theorem TypeNode.needsWhole : NeedsWhole schema.read := by
  refine needsWhole_read ?_
  simp only [schema, List.forall_mem_cons, List.not_mem_nil, false_implies, implies_true, and_true]
  exact ⟨needsWhole_text.map _, needsWhole_text.map _, TypeId.needsWhole.option.map _, (needsWhole_variant _).map _,
    needsWhole_int64.map _, needsWhole_int64.map _, TypeId.needsWhole.option.map _, needsWhole_int64.map _,
    TypeId.needsWhole.option.map _, TypeId.needsWhole.option.map _, TypeId.needsWhole.list.option.map _,
    CursorId.needsWhole.option.map _⟩

namespace Snapshot

theorem needsWhole : NeedsWhole schema.read := by
  refine needsWhole_read ?_
  simp only [schema, List.forall_mem_cons, List.not_mem_nil, false_implies, implies_true, and_true]
  exact ⟨CursorId.needsWhole.map _, CursorNode.needsWhole.list.map _, TypeNode.needsWhole.list.map _⟩

/-! ## Loading -/

/-- A text that goes on behind a snapshot has the same first document. -/
theorem tree_append {given : String} {n : Nat} {s : Snapshot} (h : schema.read n (Tree.ofText given) = .ok s)
    (more : String) : Tree.ofText (given ++ more) = Tree.ofText given := by
  have hnumeral : ∀ value, Tree.ofText given ≠ .number value := by
    intro value hvalue
    rw [hvalue] at h
    exact mismatch_ne_ok ("struct " ++ schema.label) (.number value) s (by simpa only [Schema.read] using h)
  rw [Tree.ofText, String.toList_append]
  exact ofChars_append (needsWhole n _ s h) hnumeral

/-- **Loading looks at the first document only.** If a text is loaded as a snapshot, every text that begins with it is
loaded as the same snapshot, whatever follows. -/
theorem ofText_append (given : String) (s : Snapshot) (h : ofText given = .ok s) (more : String) :
    ofText (given ++ more) = .ok s := by
  obtain ⟨t, hread, -⟩ := exists_of_bind_eq_ok h
  have htree := tree_append (eq_ok_of_mapError hread) more
  have hrun : schema.read.run (given ++ more) = schema.read.run given := by rw [Reader.run, htree, Reader.run]
  rw [ofText, hrun]
  exact h

namespace Example

/-- Two written forms one after the other are loaded as the first. -/
theorem ofText_bare_twice : ofText bare.text = .ok bare ∧ ofText (bare.text ++ bare.text) = .ok bare := by
  have hload : ofText bare.text = .ok bare := ofText_of_validate rfl (by decide)
  exact ⟨hload, ofText_append bare.text bare hload bare.text⟩

end Example

end Snapshot

end HeaderCatalog
