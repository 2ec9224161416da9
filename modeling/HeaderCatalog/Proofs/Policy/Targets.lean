import HeaderCatalog.Proofs.Policy.Reasons

/-!
# One gate under many targets

A policy can aim at any version or at none (`Policy.aimedAt`). A higher target reaches more versions and falls short of
fewer, so what speaks against a declaration under a target speaks against it under every higher one or under every
lower one (`Gives.below_or_above`).

* The targets under which a declaration passes have no gaps, and to aim at no version is to aim at the greatest one
  (`check_between_targets`).
-/

namespace HeaderCatalog

/-- The greatest version that can be written. -/
def Version.greatest : Version := ⟨4294967295, some 4294967295, some 4294967295⟩

/-- No version is beyond the greatest one. -/
theorem Version.rank_le_greatest (v : Version) : v.rank ≤ Version.greatest.rank := by
  have hle : ∀ n : UInt32, n.toNat ≤ (4294967295 : UInt32).toNat := fun n => Nat.le_of_lt_succ n.toNat_lt
  -- one number after another: smaller, or equal and then the next one decides
  refine Prod.Lex.toLex_le_toLex.mpr ((hle _).lt_or_eq.imp_right fun hmajor => ⟨hmajor, ?_⟩)
  exact Prod.Lex.toLex_le_toLex.mpr ((hle _).lt_or_eq.imp_right fun hminor => ⟨hminor, hle _⟩)

namespace Policy

/-- The same policy with another target. -/
def aimedAt (p : Policy) (target? : Option Version) : Policy := { p with target? := target? }

variable {p p' : Policy} {a : Availability} {note : PlatformNote} {target? low? high? : Option Version}

/-! ## Versions and the target -/

@[simp] theorem reaches_aimedAt_some {t v : Version} : (p.aimedAt (some t)).Reaches v ↔ v.rank ≤ t.rank := by
  simp [Reaches, aimedAt]

@[simp] theorem fallsShort_aimedAt_some {t v : Version} : (p.aimedAt (some t)).FallsShort v ↔ t.rank < v.rank := by
  simp [FallsShort, aimedAt]

@[simp] theorem reaches_aimedAt_none {v : Version} : (p.aimedAt none).Reaches v := by
  simp [Reaches, aimedAt]

@[simp] theorem not_fallsShort_aimedAt_none {v : Version} : ¬(p.aimedAt none).FallsShort v := by
  simp [FallsShort, aimedAt]

/-! ## Grounds and the target -/

section

variable (hshort : ∀ v, (p.aimedAt target?).FallsShort v → (p.aimedAt low?).FallsShort v)
  (hreaches : ∀ v, (p.aimedAt target?).Reaches v → (p.aimedAt high?).Reaches v)

include hshort hreaches

theorem NoteGives.below_or_above {g : NoteGround} {r : Reason} (h : (p.aimedAt target?).NoteGives note g r) :
    (p.aimedAt low?).NoteGives note g r ∨ (p.aimedAt high?).NoteGives note g r := by
  cases h with
  | marked hmarked => exact Or.inl (.marked hmarked)
  | obsoleted hv hreached => exact Or.inr (.obsoleted hv (hreaches _ hreached))
  | introduced hv hbeyond => exact Or.inl (.introduced hv (hshort _ hbeyond))
  | deprecated hkeep hv hreached => exact Or.inr (.deprecated hkeep hv (hreaches _ hreached))

/-- A ground that does not hold under a lower target holds under a higher one. -/
theorem Gives.below_or_above {g : Ground} {r : Reason} (h : (p.aimedAt target?).Gives a g r) :
    (p.aimedAt low?).Gives a g r ∨ (p.aimedAt high?).Gives a g r := by
  cases h with
  | alwaysUnavailable hremark => exact Or.inl (.alwaysUnavailable hremark)
  | atNote hnote hplatform hgives =>
    exact (hgives.below_or_above hshort hreaches).imp (.atNote hnote hplatform) (.atNote hnote hplatform)
  | alwaysDeprecated hkeep hremark => exact Or.inl (.alwaysDeprecated hkeep hremark)

end

/-! ## The verdict -/

/-- Policies with the same grounds give the same verdict. -/
theorem check_congr (h : ∀ g r, p.Gives a g r ↔ p'.Gives a g r) : p.check a = p'.check a := by
  cases hcheck : p.check a with
  | unavailable r =>
    obtain ⟨g, hgives, hfirst⟩ := check_eq_unavailable_iff.mp hcheck
    have hfirst' : p'.FirstGives a r := ⟨g, (h g r).mp hgives, fun g' r' h' => hfirst g' r' ((h g' r').mpr h')⟩
    exact (check_eq_unavailable_iff.mpr hfirst').symm
  | available notes =>
    obtain ⟨hnotes, hnone⟩ := check_eq_available_iff.mp hcheck
    exact (check_eq_available_iff.mpr ⟨hnotes, fun g r h' => hnone g r ((h g r).mpr h')⟩).symm

/-- What passes under two targets passes under those between them. -/
theorem available_between {low target high : Version} {notes notes' : List PlatformNote}
    (hlow : low.rank ≤ target.rank) (hhigh : target.rank ≤ high.rank)
    (h : (p.aimedAt (some low)).check a = .available notes)
    (h' : (p.aimedAt (some high)).check a = .available notes') :
    (p.aimedAt (some target)).check a = .available notes := by
  obtain ⟨hnotes, hnone⟩ := check_eq_available_iff.mp h
  have hnone' := (check_eq_available_iff.mp h').2
  refine check_eq_available_iff.mpr ⟨hnotes, fun g r hgives => ?_⟩
  have hshort : ∀ v, (p.aimedAt (some target)).FallsShort v → (p.aimedAt (some low)).FallsShort v := fun v hv =>
    fallsShort_aimedAt_some.mpr (hlow.trans_lt (fallsShort_aimedAt_some.mp hv))
  have hreaches : ∀ v, (p.aimedAt (some target)).Reaches v → (p.aimedAt (some high)).Reaches v := fun v hv =>
    reaches_aimedAt_some.mpr ((reaches_aimedAt_some.mp hv).trans hhigh)
  have hends := hgives.below_or_above hshort hreaches
  exact hends.elim (hnone g r) (hnone' g r)

/-- The greatest target reaches every version and falls short of none, as if there were no target. -/
theorem gives_none_iff_greatest {g : Ground} {r : Reason} :
    (p.aimedAt none).Gives a g r ↔ (p.aimedAt (some .greatest)).Gives a g r := by
  constructor
  · intro h
    exact or_self_iff.mp (h.below_or_above (fun v hv => absurd hv not_fallsShort_aimedAt_none)
      fun v _ => reaches_aimedAt_some.mpr v.rank_le_greatest)
  · intro h
    exact or_self_iff.mp (h.below_or_above
      (fun v hv => absurd (fallsShort_aimedAt_some.mp hv) (not_lt_of_ge v.rank_le_greatest))
      fun v _ => reaches_aimedAt_none)

/-- **The targets under which a declaration passes have no gaps.** What passes under two targets passes under every one
between them, with the same notes. No target is above the greatest version, and a policy without a target gives the
same verdict, with the same reason if there is one, as a policy that aims at that version. -/
theorem check_between_targets (p : Policy) (a : Availability) :
    (∀ (low target high : Version) (notes notes' : List PlatformNote),
      low.atMost target = true → target.atMost high = true →
        (p.aimedAt (some low)).check a = .available notes → (p.aimedAt (some high)).check a = .available notes' →
          (p.aimedAt (some target)).check a = .available notes ∧ notes' = notes) ∧
      (∀ v : Version, v.atMost .greatest = true) ∧
        (p.aimedAt none).check a = (p.aimedAt (some .greatest)).check a := by
  refine ⟨fun low target high notes notes' hlow hhigh h h' => ⟨?_, ?_⟩, fun v => ?_, ?_⟩
  · exact available_between (Version.atMost_iff.mp hlow) (Version.atMost_iff.mp hhigh) h h'
  · rw [(check_eq_available_iff.mp h').1, (check_eq_available_iff.mp h).1]
  · exact Version.atMost_iff.mpr v.rank_le_greatest
  · exact check_congr fun g r => gives_none_iff_greatest

namespace Example

/-- A policy that aims at no version. -/
def anyVersion : Policy := ⟨"macOS", none, false⟩

/-- A declaration of the releases from 11 up to, but not including, 12.3. -/
def brief : Availability :=
  { Availability.blank with notes := [⟨"macos", some ⟨11, none, none⟩, none, some ⟨12, some 3, none⟩, false, none⟩] }

/-- It passes at 11.0.0, which is no other version than 11, and at 12.2.9, so it passes at 12; it is obsolete without a
target as it is at the greatest version. -/
theorem brief_between : (anyVersion.aimedAt (some ⟨12, none, none⟩)).check brief = .available brief.notes ∧
    anyVersion.check brief = .unavailable (.obsoleted "macos" ⟨12, some 3, none⟩) ∧
      (anyVersion.aimedAt (some .greatest)).check brief = .unavailable (.obsoleted "macos" ⟨12, some 3, none⟩) := by
  obtain ⟨hbetween, -, hgreatest⟩ := check_between_targets anyVersion brief
  have hpasses := hbetween ⟨11, some 0, some 0⟩ ⟨12, none, none⟩ ⟨12, some 2, some 9⟩ brief.notes brief.notes
    (by decide) (by decide) (by decide) (by decide)
  have hobsolete : anyVersion.check brief = .unavailable (.obsoleted "macos" ⟨12, some 3, none⟩) := by decide
  exact ⟨hpasses.1, hobsolete, hgreatest.symm.trans hobsolete⟩

end Example

end Policy

end HeaderCatalog
