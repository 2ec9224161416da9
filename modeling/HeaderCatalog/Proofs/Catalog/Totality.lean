import HeaderCatalog.Proofs.Catalog.Renaming
import HeaderCatalog.Proofs.Snapshot.Walk

/-!
# No question about a sound snapshot is left open

An extraction fails only where the check of the snapshot does, and then for the same reason, which is a defect of the
snapshot (`extract_total`): it never meets a position that does not exist, and always comes to its end. In a sound
snapshot this holds of every question by itself (`Answering`): nodes answer with nodes that exist, types unfold, and
walks end.
-/

namespace HeaderCatalog.Snapshot

/-- Nodes that exist answer with nodes that exist, every type unfolds and every walk ends, at any depth beyond the
number of nodes alike. -/
structure Answering (s : Snapshot) : Prop where
  cursor : ∀ id, s.hasCursor id → ∃ c, s.cursor id = .ok c ∧ c.AnswersIn s id
  type : ∀ id, s.hasType id → ∃ t, s.type id = .ok t ∧ t.AnswersIn s id
  resolve : ∀ id, s.hasType id → ∃ info, s.resolve id = .ok info ∧
    ∀ depth, s.types.size < depth → s.typeOracle.resolve depth id = .ok info
  walk : ∀ {σ : Type} (visitor : σ → CursorId → Visit × σ) (start : CursorId) (state : σ), s.hasCursor start →
    ∃ result, s.walk visitor start state = .ok result.2 ∧
      ∀ depth, s.cursors.size < depth → s.walkBelow visitor depth start state = .ok result

variable {s : Snapshot}

theorem Sound.answering (h : s.Sound) : s.Answering where
  cursor id hid := by
    obtain ⟨c, hc⟩ := exists_cursor hid
    exact ⟨c, hc, h.cursorAnswers hc⟩
  type id hid := by
    obtain ⟨t, ht⟩ := exists_type hid
    exact ⟨t, ht, h.typeAnswers ht⟩
  resolve id hid := by
    obtain ⟨info, hinfo⟩ := h.exists_resolve hid
    exact ⟨info, hinfo _ (Nat.lt_succ_self _), hinfo⟩
  walk visitor start state hstart := h.exists_walk visitor hstart state

/-- A sound snapshot has a catalogue: it has findings, as it agrees with itself. -/
theorem exists_extract (h : s.validate = .ok ()) (o : Options) : ∃ catalog log, s.extract o = .ok (catalog, log) := by
  have hsound := sound_of_validate h
  obtain ⟨found, hfound, -⟩ := (Renaming.refl s).findings_agree hsound hsound o
  exact ⟨_, _, extract_of_findings h hfound⟩

/-- An extraction fails exactly as the check does. -/
theorem extract_eq_error_iff {o : Options} {e : Failure} : s.extract o = .error e ↔ s.validate = .error e := by
  cases h : s.validate with
  | error e' =>
    have hextract : s.extract o = .error e' := by
      unfold extract
      rw [h]
      rfl
    simp only [hextract, Except.error.injEq]
  | ok _ =>
    obtain ⟨catalog, log, hextract⟩ := exists_extract h o
    simp only [hextract, reduceCtorEq]

/-- **Extraction is total.** It fails exactly where the check fails and with the same reason, a defect of the
snapshot; after a check that passed, it and every single question about the snapshot are answered. -/
theorem extract_total (s : Snapshot) :
    (∀ o e, s.extract o = .error e ↔ s.validate = .error e) ∧
      (∀ e, s.validate = .error e → ∃ d, e = .defect d) ∧
      (s.validate = .ok () → s.Answering ∧ ∀ o, ∃ catalog log, s.extract o = .ok (catalog, log)) :=
  ⟨fun _ _ => extract_eq_error_iff, fun _ => defect_of_validate, fun h =>
    ⟨(sound_of_validate h).answering, exists_extract h⟩⟩

/-- Two equal classes are such a snapshot. -/
theorem Example.extract_twice : twice.Answering ∧ ∀ o, ∃ catalog log, twice.extract o = .ok (catalog, log) :=
  (extract_total twice).2.2 rfl

end HeaderCatalog.Snapshot
