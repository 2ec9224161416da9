import HeaderCatalog.Proofs.Snapshot.Step

/-!
# Building a snapshot

A snapshot that passes the check is built on safely by steps that fit. Validity can so be followed step by step: all
snapshots on the way pass the check exactly when every step fits the one before it (`build_valid_iff`).
-/

namespace HeaderCatalog.Snapshot

open Relation

variable {s t : Snapshot}

/-! ## A run of steps -/

/-- A step of building. -/
inductive BuildStep where
  | pushCursor (node : CursorNode)
  | pushType (node : TypeNode)
  | addChild (parent child : CursorId)

/-- Whether a step fits the snapshot before it. -/
def BuildStep.Fits (s : Snapshot) : BuildStep → Prop
  | .pushCursor node => node.Fits s
  | .pushType node => node.Fits s
  | .addChild parent child => s.ChildFits parent child

/-- The snapshot after a step. A cursor that is not there gets no child. -/
def step? (s : Snapshot) : BuildStep → Option Snapshot
  | .pushCursor node => some (s.pushCursor node).2
  | .pushType node => some (s.pushType node).2
  | .addChild parent child => s.addChild? parent child

/-- The snapshot after some steps. -/
def build? (s : Snapshot) (steps : List BuildStep) : Option Snapshot := steps.foldlM step? s

@[simp] theorem build?_nil (s : Snapshot) : s.build? [] = some s := rfl

@[simp] theorem build?_cons (s : Snapshot) (step : BuildStep) (steps : List BuildStep) :
    s.build? (step :: steps) = (s.step? step).bind fun t => t.build? steps := rfl

/-- A step keeps a sound snapshot sound exactly if it fits. -/
theorem sound_step_iff (hs : s.Sound) {step : BuildStep} (h : s.step? step = some t) :
    t.Sound ↔ step.Fits s := by
  cases step with
  | pushCursor node =>
    cases h
    have hpushed := cursorPushed s node
    exact ⟨hpushed.fits_of_sound, hpushed.sound_of_fits hs⟩
  | pushType node =>
    cases h
    have hpushed := typePushed s node
    exact ⟨hpushed.fits_of_sound, hpushed.sound_of_fits hs⟩
  | addChild parent child => exact (childAdded h).sound_iff hs

/-- The snapshots on the way are all sound exactly if each step fits the one before it. -/
theorem sound_build_iff (hs : s.Sound) {steps : List BuildStep} (h : s.build? steps = some t) :
    (∀ k u, s.build? (steps.take k) = some u → u.Sound) ↔
      ∀ k step u, steps[k]? = some step → s.build? (steps.take k) = some u → step.Fits u := by
  induction steps generalizing s with
  | nil =>
    constructor
    · intro _ k step u hstep
      cases hstep
    · intro _ k u hu
      rw [List.take_nil] at hu
      cases hu
      exact hs
  | cons first rest ih =>
    obtain ⟨v, hv, hrest⟩ := Option.bind_eq_some_iff.mp ((build?_cons s first rest).symm.trans h)
    have htail : ∀ k, s.build? ((first :: rest).take (k + 1)) = v.build? (rest.take k) := by
      intro k
      rw [List.take_succ_cons, build?_cons, hv, Option.bind_some]
    constructor
    · intro hsound
      have hvsound : v.Sound := hsound 1 v (by rw [htail, List.take_zero, build?_nil])
      have hfits := (ih hvsound hrest).mp fun k u hu => hsound (k + 1) u (by rw [htail]; exact hu)
      intro k step u hstep hu
      cases k with
      | zero =>
        cases hstep
        cases hu
        exact (sound_step_iff hs hv).mp hvsound
      | succ k =>
        rw [htail] at hu
        exact hfits k step u hstep hu
    · intro hfits
      have hvsound : v.Sound := (sound_step_iff hs hv).mpr (hfits 0 first s rfl rfl)
      have hsound := (ih hvsound hrest).mpr fun k step u hstep hu =>
        hfits (k + 1) step u hstep (by rw [htail]; exact hu)
      intro k u hu
      cases k with
      | zero =>
        cases hu
        exact hs
      | succ k =>
        rw [htail] at hu
        exact hsound k u hu

/-! ## The check -/

/-- The check of what a step makes of a snapshot that passes it passes exactly if the step fits. -/
theorem validate_step_iff (hs : s.validate = .ok ()) (step : BuildStep) (h : s.step? step = some t) :
    t.validate = .ok () ↔ step.Fits s := by
  rw [← sound_step_iff (sound_of_validate hs) h]
  exact ⟨sound_of_validate, validate_of_sound⟩

/-- **A snapshot that passes the check is built on safely by steps that fit.** The steps answer with the position of
what they put behind the rest, change nothing else, and keep the check passing exactly if they fit. -/
theorem build_valid_iff (hs : s.validate = .ok ()) (hcursors : s.cursors.size < 4294967295)
    (htypes : s.types.size < 4294967295) :
    (∀ node : CursorNode, (s.pushCursor node).1.toNat = s.cursors.size ∧ CursorPushed s node (s.pushCursor node).2 ∧
      ((s.pushCursor node).2.validate = .ok () ↔ node.Fits s)) ∧
    (∀ node : TypeNode, (s.pushType node).1.toNat = s.types.size ∧ TypePushed s node (s.pushType node).2 ∧
      ((s.pushType node).2.validate = .ok () ↔ node.Fits s)) ∧
    (∀ parent child : CursorId, s.hasCursor parent → ∃ t, s.addChild? parent child = some t ∧
      ChildAdded s parent child t ∧ (t.validate = .ok () ↔ s.ChildFits parent child)) ∧
    ∀ (steps : List BuildStep) (t : Snapshot), s.build? steps = some t →
      ((∀ k u, s.build? (steps.take k) = some u → u.validate = .ok ()) ↔
        ∀ k step u, steps[k]? = some step → s.build? (steps.take k) = some u → step.Fits u) := by
  refine ⟨fun node => ⟨?_, cursorPushed s node, ?_⟩, fun node => ⟨?_, typePushed s node, ?_⟩,
    fun parent child hparent => ?_, fun steps t hsteps => ?_⟩
  · exact UInt32.toNat_ofNat_of_lt (Nat.lt_succ_of_lt hcursors)
  · exact validate_step_iff hs (.pushCursor node) rfl
  · exact UInt32.toNat_ofNat_of_lt (Nat.lt_succ_of_lt htypes)
  · exact validate_step_iff hs (.pushType node) rfl
  · obtain ⟨t, ht⟩ := exists_addChild? parent child hparent
    exact ⟨t, ht, childAdded ht, validate_step_iff hs (.addChild parent child) ht⟩
  · rw [← sound_build_iff (sound_of_validate hs) hsteps]
    constructor
    · exact fun hvalid k u hu => sound_of_validate (hvalid k u hu)
    · exact fun hsound k u hu => validate_of_sound (hsound k u hu)

namespace Example

/-- A class with a property. -/
def nest : Snapshot where
  root := .ofNat 0
  cursors := #[
    { CursorNode.blank .translationUnit "" with children := [.ofNat 1] },
    { CursorNode.blank .interfaceDeclaration "A" with children := [.ofNat 2] },
    { CursorNode.blank .propertyDeclaration "p" with type? := some (.ofNat 0) }]
  types := #[.builtin "int" "Int" 4]

/-- A property that is its own definition. -/
def second : CursorNode :=
  { CursorNode.blank .propertyDeclaration "q" with type? := some (.ofNat 0), definition? := some (.ofNat 3) }

/-- A cursor may come that is its own definition; the root must not become a child. -/
theorem build_nest : nest.validate = .ok () ∧ nest.cursors.size < 4294967295 ∧ nest.types.size < 4294967295 ∧
    (nest.pushCursor second).2.validate = .ok () ∧
    ∃ t, nest.addChild? (.ofNat 2) (.ofNat 0) = some t ∧ t.validate ≠ .ok () := by
  obtain ⟨hcursor, -, hchild, -⟩ := build_valid_iff (s := nest) rfl (by decide) (by decide)
  refine ⟨rfl, by decide, by decide, ?_, ?_⟩
  · refine (hcursor second).2.2.mpr ⟨?_, ?_, ?_, ?_, ?_, ?_⟩
    · exact fun id hid => nomatch hid
    · exact fun id hid => nomatch hid
    · exact fun id hid => nomatch hid
    · rintro id ⟨⟩; decide
    · rintro id ⟨⟩; decide
    · exact fun id hid => nomatch hid
  · obtain ⟨t, ht, -, hvalid⟩ := hchild (.ofNat 2) (.ofNat 0) rfl
    refine ⟨t, ht, fun h => (hvalid.mp h).2 ?_⟩
    have hclass : nest.HasChild 0 1 := ⟨_, rfl, .ofNat 1, List.mem_singleton.mpr rfl, rfl⟩
    have hproperty : nest.HasChild 1 2 := ⟨_, rfl, .ofNat 2, List.mem_singleton.mpr rfl, rfl⟩
    exact .tail (.single hclass) hproperty

end Example

end HeaderCatalog.Snapshot
