import HeaderCatalog.Proofs.Policy
import HeaderCatalog.Proofs.Version.Order

/-!
# The first reason decides

A remark that holds everywhere, or a note on the platform, can be a ground to leave a declaration out, and each ground
gives its own reason (`Policy.Gives`). Grounds have a place in the order in which they count (`Policy.Ground.place`):
first the remark that the declaration is nowhere available, then the notes one by one, of which each has four grounds,
and last the remark that it is everywhere deprecated.

* A declaration is left out exactly if there is a ground, for the reason of the first one (`check_first_reason`).
* Platforms are compared up to the case of ASCII letters (`concerns_iff`), versions as such (`reached_iff`,
  `beyond_iff`).
-/

namespace HeaderCatalog

/-! ## Platforms -/

theorem foldCase_eq_toLower (c : Char) : foldCase c = c.toLower := by
  unfold foldCase Char.toLower
  by_cases h : 'A' ≤ c ∧ c ≤ 'Z'
  · have hval : c.val ≥ 'A'.val ∧ c.val ≤ 'Z'.val := h
    have hhigh : c.val.toNat ≤ 90 := hval.2
    have hvalid : (c.toNat + 32).isValidChar := Or.inl (by rw [Char.toNat]; omega)
    rw [if_pos h, dif_pos hval]
    apply Char.ext
    apply UInt32.toNat_inj.mp
    rw [Char.ofNat, dif_pos hvalid, UInt32.toNat_add]
    show c.val.toNat + 32 = (c.val.toNat + 32) % 4294967296
    omega
  · have hval : ¬(c.val ≥ 'A'.val ∧ c.val ≤ 'Z'.val) := h
    rw [if_neg h, dif_neg hval]

theorem sameUpToCase_iff {a b : String} : sameUpToCase a b = true ↔ a.toLower = b.toLower := by
  have hfold : foldCase = Char.toLower := funext foldCase_eq_toLower
  unfold sameUpToCase String.toLower
  rw [beq_iff_eq, hfold, ← String.toList_map, ← String.toList_map, String.toList_inj]

namespace Policy

variable {p : Policy} {a : Availability} {note : PlatformNote}

/-- A note is on the platform that is aimed at; the case of ASCII letters makes no difference. -/
def OnPlatform (p : Policy) (note : PlatformNote) : Prop := note.platform.toLower = p.platform.toLower

/-- A version is at most the one aimed at, if one is. -/
def Reaches (p : Policy) (v : Version) : Prop := ∀ target, p.target? = some target → v.rank ≤ target.rank

/-- A version is aimed at, and it is before the given one. -/
def FallsShort (p : Policy) (v : Version) : Prop := ∃ target, p.target? = some target ∧ target.rank < v.rank

theorem concerns_iff : p.concerns note = true ↔ p.OnPlatform note := sameUpToCase_iff

theorem reached_iff {v : Version} : p.reached v = true ↔ p.Reaches v := by
  unfold reached Reaches
  cases p.target? with
  | none => simp
  | some target => simp [Version.atMost_iff]

theorem beyond_iff {v : Version} : p.beyond v = true ↔ p.FallsShort v := by
  unfold beyond FallsShort
  cases p.target? with
  | none => simp
  | some target => simp [← Version.atMost_iff, ← not_le]

/-! ## The grounds of a note -/

/-- What a note on the platform can have against a declaration. -/
inductive NoteGround where
  | marked
  | obsoleted
  | introduced
  | deprecated

/-- The place of a ground among those of its note. -/
def NoteGround.place : NoteGround → Nat
  | marked => 0
  | obsoleted => 1
  | introduced => 2
  | deprecated => 3

/-- A note has something against a declaration, which gives a reason. -/
inductive NoteGives (p : Policy) (note : PlatformNote) : NoteGround → Reason → Prop
  | marked (hmarked : note.unavailable = true) : NoteGives p note .marked (.markedUnavailable note.platform)
  | obsoleted {v : Version} (hv : note.obsoleted? = some v) (hreaches : p.Reaches v) :
      NoteGives p note .obsoleted (.obsoleted note.platform v)
  | introduced {v : Version} (hv : note.introduced? = some v) (hshort : p.FallsShort v) :
      NoteGives p note .introduced (.notYetIntroduced note.platform v)
  | deprecated {v : Version} (hkeep : p.keepDeprecated = false) (hv : note.deprecated? = some v)
      (hreaches : p.Reaches v) : NoteGives p note .deprecated (.deprecated note.platform v)

/-- A ground gives one reason. -/
theorem NoteGives.reason_eq {g : NoteGround} {r r' : Reason} (h : p.NoteGives note g r) (h' : p.NoteGives note g r') :
    r = r' := by
  cases h <;> cases h' <;> simp_all

/-- A note gives no reason where it has no ground. -/
theorem noteReason?_eq_none_iff_forall : p.noteReason? note = none ↔ ∀ g r, ¬p.NoteGives note g r := by
  rw [noteReason?_eq_none_iff]
  simp only [← Bool.not_eq_true, reached_iff, beyond_iff]
  constructor
  · rintro ⟨hmarked, hobsoleted, hintroduced, hdeprecated⟩ g r hgives
    cases hgives with
    | marked h => exact hmarked h
    | obsoleted hv hreaches => exact hobsoleted _ hv hreaches
    | introduced hv hshort => exact hintroduced _ hv hshort
    | deprecated hkeep hv hreaches =>
      rw [hkeep] at hdeprecated
      exact hdeprecated.resolve_left Bool.false_ne_true _ hv hreaches
  · intro h
    refine ⟨fun hmarked => h _ _ (.marked hmarked), fun v hv hreaches => h _ _ (.obsoleted hv hreaches),
      fun v hv hshort => h _ _ (.introduced hv hshort), ?_⟩
    by_cases hkeep : p.keepDeprecated = true
    · exact Or.inl hkeep
    · exact Or.inr fun v hv hreaches => h _ _ (.deprecated (by simpa using hkeep) hv hreaches)

/-- The reason of a note is that of its first ground. -/
theorem exists_first_of_noteReason? {r : Reason} (h : p.noteReason? note = some r) :
    ∃ g, p.NoteGives note g r ∧ ∀ g' r', p.NoteGives note g' r' → g.place ≤ g'.place := by
  unfold noteReason? at h
  by_cases hmarked : note.unavailable = true
  · rw [if_pos hmarked] at h
    cases h
    exact ⟨.marked, .marked hmarked, fun g' _ _ => Nat.zero_le _⟩
  rw [if_neg hmarked] at h
  simp only [Option.or_eq_some_iff, Option.map_eq_some_iff, Option.map_eq_none_iff, Option.filter_eq_some_iff,
    Option.filter_eq_none_iff, reached_iff, beyond_iff] at h
  rcases h with ⟨v, ⟨hv, hreaches⟩, rfl⟩ | ⟨hobsoleted, ⟨v, ⟨hv, hshort⟩, rfl⟩ | ⟨hintroduced, h⟩⟩
  · refine ⟨.obsoleted, .obsoleted hv hreaches, fun g' r' h' => ?_⟩
    cases h' with
    | marked h' => exact absurd h' hmarked
    | _ => decide
  · refine ⟨.introduced, .introduced hv hshort, fun g' r' h' => ?_⟩
    cases h' with
    | marked h' => exact absurd h' hmarked
    | obsoleted hv' hreaches' => exact absurd hreaches' (hobsoleted _ hv')
    | _ => decide
  · by_cases hkeep : p.keepDeprecated = true
    · rw [if_pos hkeep] at h
      cases h
    rw [if_neg hkeep] at h
    simp only [Option.map_eq_some_iff, Option.filter_eq_some_iff, reached_iff] at h
    obtain ⟨v, ⟨hv, hreaches⟩, rfl⟩ := h
    refine ⟨.deprecated, .deprecated (by simpa using hkeep) hv hreaches, fun g' r' h' => ?_⟩
    cases h' with
    | marked h' => exact absurd h' hmarked
    | obsoleted hv' hreaches' => exact absurd hreaches' (hobsoleted _ hv')
    | introduced hv' hshort' => exact absurd hshort' (hintroduced _ hv')
    | deprecated => decide

/-! ## The grounds of a declaration -/

/-- What can be held against a declaration: a remark that holds everywhere, or something about the note at a position
of the list. -/
inductive Ground where
  | alwaysUnavailable
  | atNote (position : Nat) (g : NoteGround)
  | alwaysDeprecated

/-- The place of a ground in the order in which grounds count. -/
def Ground.place : Ground → Nat ×ₗ Nat ×ₗ Nat
  | alwaysUnavailable => toLex (0, toLex (0, 0))
  | atNote position g => toLex (1, toLex (position, g.place))
  | alwaysDeprecated => toLex (2, toLex (0, 0))

/-- There is something against a declaration, which gives a reason. -/
inductive Gives (p : Policy) (a : Availability) : Ground → Reason → Prop
  | alwaysUnavailable (hremark : a.alwaysUnavailable = true) :
      Gives p a .alwaysUnavailable (.alwaysUnavailable a.unavailableMessage?)
  | atNote {position : Nat} {note : PlatformNote} {g : NoteGround} {r : Reason}
      (hnote : a.notes[position]? = some note) (hplatform : p.OnPlatform note) (hgives : p.NoteGives note g r) :
      Gives p a (.atNote position g) r
  | alwaysDeprecated (hkeep : p.keepDeprecated = false) (hremark : a.alwaysDeprecated = true) :
      Gives p a .alwaysDeprecated (.alwaysDeprecated a.deprecatedMessage?)

/-- A reason is given by a ground before which there is no other. -/
def FirstGives (p : Policy) (a : Availability) (r : Reason) : Prop :=
  ∃ g, p.Gives a g r ∧ ∀ g' r', p.Gives a g' r' → g.place ≤ g'.place

theorem NoteGround.place_inj {g g' : NoteGround} (h : g.place = g'.place) : g = g' := by
  cases g <;> cases g' <;> first | rfl | cases h

/-- Different grounds have different places. -/
theorem Ground.place_inj {g g' : Ground} (h : g.place = g'.place) : g = g' := by
  cases g <;> cases g' <;> simp only [place, toLex_inj, Prod.mk.injEq] at h
  case alwaysUnavailable.alwaysUnavailable => rfl
  case alwaysDeprecated.alwaysDeprecated => rfl
  case atNote.atNote =>
    obtain ⟨-, rfl, hplace⟩ := h
    rw [NoteGround.place_inj hplace]
  all_goals exact absurd h.1 (by decide)

/-- A ground gives one reason. -/
theorem Gives.reason_eq {g : Ground} {r r' : Reason} (h : p.Gives a g r) (h' : p.Gives a g r') : r = r' := by
  cases h with
  | alwaysUnavailable => cases h'; rfl
  | atNote hnote _ hgives =>
    cases h' with
    | atNote hnote' _ hgives' =>
      obtain rfl := Option.some.inj (hnote.symm.trans hnote')
      exact hgives.reason_eq hgives'
  | alwaysDeprecated => cases h'; rfl

/-- A declaration has one first reason. -/
theorem FirstGives.reason_eq {r r' : Reason} (h : p.FirstGives a r) (h' : p.FirstGives a r') : r = r' := by
  obtain ⟨g, hgives, hfirst⟩ := h
  obtain ⟨g', hgives', hfirst'⟩ := h'
  obtain rfl : g = g' := Ground.place_inj (le_antisymm (hfirst g' r' hgives') (hfirst' g r hgives))
  exact hgives.reason_eq hgives'

/-- There is no reason exactly where there is no ground. -/
theorem reason?_eq_none_iff_forall : p.reason? a = none ↔ ∀ g r, ¬p.Gives a g r := by
  rw [reason?_eq_none_iff]
  constructor
  · rintro ⟨havailable, hnotes, hcurrent⟩ g r hgives
    cases hgives with
    | alwaysUnavailable hremark =>
      rw [havailable] at hremark
      cases hremark
    | atNote hnote hplatform hgives =>
      have hnone := hnotes _ (List.mem_of_getElem? hnote) (concerns_iff.mpr hplatform)
      exact noteReason?_eq_none_iff_forall.mp hnone _ _ hgives
    | alwaysDeprecated hkeep hremark =>
      rw [hcurrent hremark] at hkeep
      cases hkeep
  · intro h
    refine ⟨?_, fun note hnote hconcerns => noteReason?_eq_none_iff_forall.mpr fun g r hgives => ?_, fun hremark => ?_⟩
    · by_contra hremark
      exact h _ _ (.alwaysUnavailable (by simpa using hremark))
    · obtain ⟨position, hposition⟩ := List.mem_iff_getElem?.mp hnote
      exact h _ _ (.atNote hposition (concerns_iff.mp hconcerns) hgives)
    · by_contra hkeep
      exact h _ _ (.alwaysDeprecated (by simpa using hkeep) hremark)

/-- The first reason among the notes on the platform is that of a note before which no other has a ground. -/
theorem exists_position_of_findSome? {notes : List PlatformNote} {r : Reason}
    (h : (notes.filter p.concerns).findSome? p.noteReason? = some r) :
    ∃ (position : Nat) (note : PlatformNote), notes[position]? = some note ∧ p.OnPlatform note ∧
      p.noteReason? note = some r ∧
        ∀ (i : Nat) (before : PlatformNote), i < position → notes[i]? = some before → p.OnPlatform before →
          p.noteReason? before = none := by
  induction notes with
  | nil => cases h
  | cons first notes ih =>
    rw [List.filter_cons] at h
    by_cases hconcerns : p.concerns first = true
    · rw [if_pos hconcerns, List.findSome?_cons] at h
      cases hfirst : p.noteReason? first with
      | some r' =>
        rw [hfirst] at h
        cases h
        exact ⟨0, first, rfl, concerns_iff.mp hconcerns, hfirst, fun i _ hi => absurd hi (Nat.not_lt_zero i)⟩
      | none =>
        rw [hfirst] at h
        obtain ⟨position, note, hnote, hplatform, hreason, hbefore⟩ := ih h
        refine ⟨position + 1, note, hnote, hplatform, hreason, fun i before hi hget honplatform => ?_⟩
        cases i with
        | zero => cases hget; exact hfirst
        | succ i => exact hbefore i before (by omega) hget honplatform
    · rw [if_neg hconcerns] at h
      obtain ⟨position, note, hnote, hplatform, hreason, hbefore⟩ := ih h
      refine ⟨position + 1, note, hnote, hplatform, hreason, fun i before hi hget honplatform => ?_⟩
      cases i with
      | zero => cases hget; exact absurd (concerns_iff.mpr honplatform) hconcerns
      | succ i => exact hbefore i before (by omega) hget honplatform

/-- The reason of the gate is that of the first ground. -/
theorem firstGives_of_reason? {r : Reason} (h : p.reason? a = some r) : p.FirstGives a r := by
  unfold reason? at h
  by_cases hremark : a.alwaysUnavailable = true
  · rw [if_pos hremark] at h
    cases h
    refine ⟨.alwaysUnavailable, .alwaysUnavailable hremark, fun g' r' _ => ?_⟩
    cases g' <;> simp [Ground.place, Prod.Lex.toLex_le_toLex]
  rw [if_neg hremark, Option.or_eq_some_iff] at h
  rcases h with h | ⟨hnotes, h⟩
  · obtain ⟨position, note, hnote, hplatform, hreason, hbefore⟩ := exists_position_of_findSome? h
    obtain ⟨g, hgives, hfirst⟩ := exists_first_of_noteReason? hreason
    refine ⟨.atNote position g, .atNote hnote hplatform hgives, fun g' r' h' => ?_⟩
    cases h' with
    | alwaysUnavailable hremark' => exact absurd hremark' hremark
    | alwaysDeprecated => simp [Ground.place, Prod.Lex.toLex_le_toLex]
    | @atNote i note' g' _ hnote' hplatform' hgives' =>
      -- a ground of an earlier note would have been the reason
      have hle : position ≤ i := by
        by_contra hlt
        have hnone := hbefore i note' (by omega) hnote' hplatform'
        exact noteReason?_eq_none_iff_forall.mp hnone _ _ hgives'
      rcases Nat.lt_or_eq_of_le hle with hlt | rfl
      · simp [Ground.place, Prod.Lex.toLex_le_toLex, hlt]
      · obtain rfl := Option.some.inj (hnote.symm.trans hnote')
        simpa [Ground.place, Prod.Lex.toLex_le_toLex] using hfirst g' r' hgives'
  · by_cases hdeprecated : (a.alwaysDeprecated && !p.keepDeprecated) = true
    · rw [if_pos hdeprecated] at h
      cases h
      simp only [Bool.and_eq_true, Bool.not_eq_true'] at hdeprecated
      refine ⟨.alwaysDeprecated, .alwaysDeprecated hdeprecated.2 hdeprecated.1, fun g' r' h' => ?_⟩
      cases h' with
      | alwaysUnavailable hremark' => exact absurd hremark' hremark
      | alwaysDeprecated => exact le_rfl
      | @atNote i note' g' _ hnote' hplatform' hgives' =>
        rw [List.findSome?_eq_none_iff] at hnotes
        have hmem := List.mem_filter.mpr ⟨List.mem_of_getElem? hnote', concerns_iff.mpr hplatform'⟩
        exact absurd hgives' (noteReason?_eq_none_iff_forall.mp (hnotes note' hmem) _ _)
    · rw [if_neg hdeprecated] at h
      cases h

/-- A declaration is left out for its first reason. -/
theorem check_eq_unavailable_iff {r : Reason} : p.check a = .unavailable r ↔ p.FirstGives a r := by
  unfold check
  cases hreason : p.reason? a with
  | some r' =>
    have hfirst := firstGives_of_reason? hreason
    constructor
    · intro h
      cases h
      exact hfirst
    · intro h
      rw [hfirst.reason_eq h]
  | none =>
    constructor
    · intro h
      cases h
    · rintro ⟨g, hgives, -⟩
      exact absurd hgives (reason?_eq_none_iff_forall.mp hreason g r)

/-- A declaration passes exactly where there is no ground, and then with all its notes. -/
theorem check_eq_available_iff {notes : List PlatformNote} :
    p.check a = .available notes ↔ notes = a.notes ∧ ∀ g r, ¬p.Gives a g r := by
  rw [← reason?_eq_none_iff_forall]
  unfold check
  cases p.reason? a with
  | some r => simp
  | none => simp [eq_comm]

theorem exists_noteGives_iff : (∃ g r, p.NoteGives note g r) ↔
    note.unavailable = true ∨ (∃ v ∈ note.obsoleted?, p.Reaches v) ∨ (∃ v ∈ note.introduced?, p.FallsShort v) ∨
      p.keepDeprecated = false ∧ ∃ v ∈ note.deprecated?, p.Reaches v := by
  constructor
  · rintro ⟨g, r, hgives⟩
    cases hgives with
    | marked hmarked => exact Or.inl hmarked
    | obsoleted hv hreaches => exact Or.inr (Or.inl ⟨_, hv, hreaches⟩)
    | introduced hv hshort => exact Or.inr (Or.inr (Or.inl ⟨_, hv, hshort⟩))
    | deprecated hkeep hv hreaches => exact Or.inr (Or.inr (Or.inr ⟨hkeep, _, hv, hreaches⟩))
  · rintro (hmarked | ⟨v, hv, hreaches⟩ | ⟨v, hv, hshort⟩ | ⟨hkeep, v, hv, hreaches⟩)
    · exact ⟨_, _, .marked hmarked⟩
    · exact ⟨_, _, .obsoleted hv hreaches⟩
    · exact ⟨_, _, .introduced hv hshort⟩
    · exact ⟨_, _, .deprecated hkeep hv hreaches⟩

theorem exists_gives_iff : (∃ g r, p.Gives a g r) ↔
    a.alwaysUnavailable = true ∨ (∃ note ∈ a.notes, p.OnPlatform note ∧ ∃ g r, p.NoteGives note g r) ∨
      p.keepDeprecated = false ∧ a.alwaysDeprecated = true := by
  constructor
  · rintro ⟨g, r, hgives⟩
    cases hgives with
    | alwaysUnavailable hremark => exact Or.inl hremark
    | atNote hnote hplatform hgives =>
      exact Or.inr (Or.inl ⟨_, List.mem_of_getElem? hnote, hplatform, _, _, hgives⟩)
    | alwaysDeprecated hkeep hremark => exact Or.inr (Or.inr ⟨hkeep, hremark⟩)
  · rintro (hremark | ⟨note, hnote, hplatform, g, r, hgives⟩ | ⟨hkeep, hremark⟩)
    · exact ⟨_, _, .alwaysUnavailable hremark⟩
    · obtain ⟨position, hposition⟩ := List.mem_iff_getElem?.mp hnote
      exact ⟨_, _, .atNote hposition hplatform hgives⟩
    · exact ⟨_, _, .alwaysDeprecated hkeep hremark⟩

/-- **The first reason decides.** A declaration is left out exactly if a remark that holds everywhere or a note on the
platform is against it, for the reason of the first ground. If none is, the gate answers with all its notes. -/
theorem check_first_reason (p : Policy) (a : Availability) :
    ((∃ r, p.check a = .unavailable r) ↔
      a.alwaysUnavailable = true ∨
        (∃ note ∈ a.notes, p.OnPlatform note ∧
          (note.unavailable = true ∨ (∃ v ∈ note.obsoleted?, p.Reaches v) ∨ (∃ v ∈ note.introduced?, p.FallsShort v) ∨
            p.keepDeprecated = false ∧ ∃ v ∈ note.deprecated?, p.Reaches v)) ∨
          p.keepDeprecated = false ∧ a.alwaysDeprecated = true) ∧
      (∀ r, p.check a = .unavailable r ↔ p.FirstGives a r) ∧
        ∀ notes, p.check a = .available notes ↔ notes = a.notes ∧ ∀ r, p.check a ≠ .unavailable r := by
  have hunavailable : (∃ r, p.check a = .unavailable r) ↔ ∃ g r, p.Gives a g r := by
    cases hcheck : p.check a with
    | unavailable r =>
      obtain ⟨g, hgives, -⟩ := check_eq_unavailable_iff.mp hcheck
      exact ⟨fun _ => ⟨g, r, hgives⟩, fun _ => ⟨r, rfl⟩⟩
    | available notes =>
      have hnone := (check_eq_available_iff.mp hcheck).2
      constructor
      · rintro ⟨r, h⟩
        cases h
      · rintro ⟨g, r, hgives⟩
        exact absurd hgives (hnone g r)
  refine ⟨?_, fun r => check_eq_unavailable_iff, fun notes => ?_⟩
  · simp only [hunavailable, exists_gives_iff, exists_noteGives_iff]
  · rw [check_eq_available_iff, ← not_exists, hunavailable]
    simp only [not_exists]

/-- The first of two notes on one platform decides, though the second one alone would rule the declaration out too. -/
example : check ⟨"macos", none, false⟩ { Availability.blank with notes := [
      ⟨"iOS", none, none, none, true, none⟩,
      ⟨"macOS", none, some ⟨10, none, none⟩, none, false, none⟩,
      ⟨"macos", none, none, none, true, none⟩] } =
    .unavailable (.deprecated "macOS" ⟨10, none, none⟩) := by decide

end Policy

end HeaderCatalog
