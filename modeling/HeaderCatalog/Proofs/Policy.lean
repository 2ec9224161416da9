import HeaderCatalog.Availability.Policy

/-!
# What the gate lets pass

The gate has no reason against a declaration exactly where the two remarks that hold everywhere give none and no note
on the platform does (`reason?_eq_none_iff`). One policy relaxes to another (`Policy.Relaxes`) that aims at the same and
keeps deprecated declarations if the first one does: what the first one lets pass, the second one does
(`Relaxes.reason?_eq_none`).
-/

namespace HeaderCatalog.Policy

variable {p p' : Policy}

/-! ## No reason -/

theorem noteReason?_eq_none_iff {note : PlatformNote} : p.noteReason? note = none ↔
    note.unavailable = false ∧ (∀ v ∈ note.obsoleted?, p.reached v = false) ∧
      (∀ v ∈ note.introduced?, p.beyond v = false) ∧
        (p.keepDeprecated = true ∨ ∀ v ∈ note.deprecated?, p.reached v = false) := by
  unfold noteReason?
  cases note.unavailable <;> cases p.keepDeprecated <;> simp [Option.filter_eq_none_iff]

theorem reason?_eq_none_iff {a : Availability} : p.reason? a = none ↔
    a.alwaysUnavailable = false ∧ (∀ note ∈ a.notes, p.concerns note = true → p.noteReason? note = none) ∧
      (a.alwaysDeprecated = true → p.keepDeprecated = true) := by
  unfold reason?
  cases a.alwaysUnavailable <;> simp [List.findSome?_eq_none_iff]

theorem check_eq_available {a : Availability} (h : p.reason? a = none) : p.check a = .available a.notes := by
  rw [check, h]

/-- Notes that pass with the remarks of their declaration pass without any. -/
theorem check_of_notes {a b : Availability} (h : p.reason? a = none) (hnotes : b.notes = a.notes)
    (havailable : b.alwaysUnavailable = false) (hcurrent : b.alwaysDeprecated = false) :
    p.check b = .available a.notes := by
  obtain ⟨-, hall, -⟩ := reason?_eq_none_iff.mp h
  rw [← hnotes] at hall ⊢
  refine check_eq_available (reason?_eq_none_iff.mpr ⟨havailable, hall, fun hdeprecated => ?_⟩)
  rw [hcurrent] at hdeprecated
  cases hdeprecated

/-! ## Relaxed policies -/

/-- The second policy aims at the same platform and version, the latter up to the way it is written, and keeps
deprecated declarations if the first one does. -/
structure Relaxes (p p' : Policy) : Prop where
  platform : p'.platform = p.platform
  target : p'.target?.map Version.key = p.target?.map Version.key
  keepDeprecated : p.keepDeprecated = true → p'.keepDeprecated = true

namespace Relaxes

variable (h : Relaxes p p')

include h

theorem concerns_eq : p'.concerns = p.concerns := by
  funext note
  rw [concerns, concerns, h.platform]

/-- Either no version is aimed at, or two that nothing is before or behind of only one. -/
theorem target_cases : (p'.target? = none ∧ p.target? = none) ∨
    ∃ t t', p'.target? = some t' ∧ p.target? = some t ∧ ∀ v : Version, v.atMost t' = v.atMost t := by
  have htarget := h.target
  cases ht : p.target? with
  | none =>
    rw [ht] at htarget
    exact Or.inl ⟨Option.map_eq_none_iff.mp htarget, rfl⟩
  | some t =>
    rw [ht] at htarget
    obtain ⟨t', ht', hkey⟩ := Option.map_eq_some_iff.mp htarget
    refine Or.inr ⟨t, t', ht', rfl, fun v => ?_⟩
    rw [Version.atMost, Version.atMost, Version.compare, Version.compare, hkey]

theorem reached_eq : p'.reached = p.reached := by
  funext v
  unfold reached
  rcases h.target_cases with ⟨ht', ht⟩ | ⟨t, t', ht', ht, hatMost⟩
  · rw [ht', ht]
  · rw [ht', ht]
    exact hatMost v

theorem beyond_eq : p'.beyond = p.beyond := by
  funext v
  unfold beyond
  rcases h.target_cases with ⟨ht', ht⟩ | ⟨t, t', ht', ht, hatMost⟩
  · rw [ht', ht]
  · rw [ht', ht]
    exact congrArg (!·) (hatMost v)

theorem noteReason?_eq_none {note : PlatformNote} (hnote : p.noteReason? note = none) : p'.noteReason? note = none := by
  rw [noteReason?_eq_none_iff] at hnote ⊢
  rw [h.reached_eq, h.beyond_eq]
  obtain ⟨havailable, hobsoleted, hintroduced, hdeprecated⟩ := hnote
  exact ⟨havailable, hobsoleted, hintroduced, hdeprecated.imp h.keepDeprecated id⟩

/-- What a policy lets pass, a relaxed one does. -/
theorem reason?_eq_none {a : Availability} (ha : p.reason? a = none) : p'.reason? a = none := by
  rw [reason?_eq_none_iff] at ha ⊢
  obtain ⟨havailable, hnotes, hcurrent⟩ := ha
  refine ⟨havailable, fun note hnote hconcerns => ?_, fun hdeprecated => h.keepDeprecated (hcurrent hdeprecated)⟩
  exact h.noteReason?_eq_none (hnotes note hnote (h.concerns_eq ▸ hconcerns))

end Relaxes

end HeaderCatalog.Policy
