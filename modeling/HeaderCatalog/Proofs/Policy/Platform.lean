import HeaderCatalog.Proofs.Policy.Reasons
import Mathlib.Data.List.Forall2
import Mathlib.Logic.Relation

/-!
# Only the notes on the platform count

Two policies are the same (`Policy.Same`) if they differ at most in the case of the platform's letters and in the way
in which the target is written. Two declarations look the same under them (`Policy.SeesSame`) if the remarks that hold
everywhere agree, and the notes on the platform do one by one, but for messages and the writing of versions. Then either
both pass, or both are left out for the same reason.

* `Policy.Same.noteReason?_same`: notes that are the same give the same reason, or none.
* An edit of the other notes, or of a message (`Policy.Edit`), leaves the notes on the platform in place
  (`platformNotes_of_edit`), and so do many edits (`platformNotes_of_edits`).
* `Policy.check_on_platform`: the verdict depends on nothing else.
-/

namespace HeaderCatalog

open Relation

/-! ## What is the same -/

/-- Both versions are missing, or they are the same. -/
def Version.SameIfAny (v? w? : Option Version) : Prop := Option.Rel (fun v w => v.same w = true) v? w?

/-- Two notes differ at most in the way in which their versions are written, and in their messages. -/
structure PlatformNote.Same (note note' : PlatformNote) : Prop where
  platform : note.platform = note'.platform
  unavailable : note.unavailable = note'.unavailable
  introduced : Version.SameIfAny note.introduced? note'.introduced?
  deprecated : Version.SameIfAny note.deprecated? note'.deprecated?
  obsoleted : Version.SameIfAny note.obsoleted? note'.obsoleted?

/-- A note without its message. -/
def PlatformNote.wordless (note : PlatformNote) : PlatformNote := { note with message? := none }

/-- Two reasons differ at most in the way in which their version is written. -/
inductive Reason.Same : Reason → Reason → Prop
  | alwaysUnavailable (message? : Option String) : Same (.alwaysUnavailable message?) (.alwaysUnavailable message?)
  | markedUnavailable (platform : String) : Same (.markedUnavailable platform) (.markedUnavailable platform)
  | obsoleted (platform : String) {v w : Version} (h : v.same w = true) :
      Same (.obsoleted platform v) (.obsoleted platform w)
  | notYetIntroduced (platform : String) {v w : Version} (h : v.same w = true) :
      Same (.notYetIntroduced platform v) (.notYetIntroduced platform w)
  | alwaysDeprecated (message? : Option String) : Same (.alwaysDeprecated message?) (.alwaysDeprecated message?)
  | deprecated (platform : String) {v w : Version} (h : v.same w = true) :
      Same (.deprecated platform v) (.deprecated platform w)

/-- Why a verdict leaves a declaration out, if it does. -/
def Verdict.reason? : Verdict → Option Reason
  | available _ => none
  | unavailable reason => some reason

namespace Policy

/-- Two policies differ at most in the case of the platform's letters and in the way in which the target is written. -/
structure Same (p p' : Policy) : Prop where
  platform : sameUpToCase p.platform p'.platform = true
  target : Version.SameIfAny p.target? p'.target?
  keepDeprecated : p.keepDeprecated = p'.keepDeprecated

/-- Of two declarations the same is said everywhere, and the same in the notes on each policy's platform, one by one. -/
structure SeesSame (p p' : Policy) (a a' : Availability) : Prop where
  alwaysUnavailable : a.alwaysUnavailable = a'.alwaysUnavailable
  unavailableMessage : a.unavailableMessage? = a'.unavailableMessage?
  alwaysDeprecated : a.alwaysDeprecated = a'.alwaysDeprecated
  deprecatedMessage : a.deprecatedMessage? = a'.deprecatedMessage?
  notes : List.Forall₂ PlatformNote.Same (a.notes.filter p.concerns) (a'.notes.filter p'.concerns)

@[simp] theorem reason?_check (p : Policy) (a : Availability) : (p.check a).reason? = p.reason? a := by
  unfold check
  cases p.reason? a <;> rfl

/-! ## Searches with related results -/

section Searches

variable {α β γ δ : Type} {R : α → β → Prop} {S : γ → δ → Prop}

theorem rel_or {x? y? : Option γ} {x?' y?' : Option δ} (hx : Option.Rel S x? x?') (hy : Option.Rel S y? y?') :
    Option.Rel S (x?.or y?) (x?'.or y?') := by
  cases hx with
  | none => simpa using hy
  | some h => exact .some h

/-- Of two lists that are related one by one the first finds are related. -/
theorem rel_findSome? {f : α → Option γ} {g : β → Option δ} {as : List α} {bs : List β}
    (hfg : ∀ a b, R a b → Option.Rel S (f a) (g b)) (h : List.Forall₂ R as bs) :
    Option.Rel S (as.findSome? f) (bs.findSome? g) := by
  induction h with
  | nil => exact .none
  | @cons a b as bs hab _ ih =>
    have hfirst := hfg a b hab
    rw [List.findSome?_cons, List.findSome?_cons]
    generalize f a = x?, g b = y? at hfirst
    cases hfirst with
    | none => exact ih
    | some h => exact .some h

/-- Two related values pass tests that agree, or neither does. -/
theorem rel_filter_map {f : α → Bool} {g : β → Bool} {h : α → γ} {k : β → δ} {a? : Option α} {b? : Option β}
    (hrel : Option.Rel R a? b?) (htest : ∀ a b, R a b → f a = g b) (hmap : ∀ a b, R a b → S (h a) (k b)) :
    Option.Rel S ((a?.filter f).map h) ((b?.filter g).map k) := by
  cases hrel with
  | none => exact .none
  | @some a b hab =>
    rw [Option.filter_some, Option.filter_some, htest a b hab]
    split
    · exact .some (hmap a b hab)
    · exact .none

end Searches

/-! ## The same reasons -/

namespace Same

variable {p p' : Policy} (h : p.Same p')

include h

theorem reached_eq {v w : Version} (hvw : v.same w = true) : p.reached v = p'.reached w := by
  have htarget := h.target
  unfold reached
  generalize p.target? = target?, p'.target? = target?' at htarget
  cases htarget with
  | none => rfl
  | some ht => exact Version.atMost_congr hvw ht

theorem beyond_eq {v w : Version} (hvw : v.same w = true) : p.beyond v = p'.beyond w := by
  have htarget := h.target
  unfold beyond
  generalize p.target? = target?, p'.target? = target?' at htarget
  cases htarget with
  | none => rfl
  | some ht => exact congrArg (!·) (Version.atMost_congr hvw ht)

/-- Notes that are the same give the same reason, or none. -/
theorem noteReason?_same {note note' : PlatformNote} (hnote : note.Same note') :
    Option.Rel Reason.Same (p.noteReason? note) (p'.noteReason? note') := by
  obtain ⟨hplatform, hunavailable, hintroduced, hdeprecated, hobsoleted⟩ := hnote
  unfold noteReason?
  rw [← hplatform, ← hunavailable, ← h.keepDeprecated]
  split
  · exact .some (.markedUnavailable _)
  · have hreached : ∀ v w : Version, v.same w = true → p.reached v = p'.reached w := fun v w => h.reached_eq
    have hbeyond : ∀ v w : Version, v.same w = true → p.beyond v = p'.beyond w := fun v w => h.beyond_eq
    refine rel_or (rel_filter_map hobsoleted hreached fun _ _ => .obsoleted _) ?_
    refine rel_or (rel_filter_map hintroduced hbeyond fun _ _ => .notYetIntroduced _) ?_
    split
    · exact .none
    · exact rel_filter_map hdeprecated hreached fun _ _ => .deprecated _

/-- Declarations that look the same are left out for the same reason, or not at all. -/
theorem reason?_same {a a' : Availability} (ha : p.SeesSame p' a a') :
    Option.Rel Reason.Same (p.reason? a) (p'.reason? a') := by
  obtain ⟨hunavailable, hmessage, halways, hmessage', hnotes⟩ := ha
  unfold reason?
  rw [← hunavailable, ← hmessage, ← halways, ← hmessage', ← h.keepDeprecated]
  split
  · exact .some (.alwaysUnavailable _)
  · refine rel_or (rel_findSome? (fun _ _ => h.noteReason?_same) hnotes) ?_
    split
    · exact .some (.alwaysDeprecated _)
    · exact .none

end Same

/-! ## Edits that make no difference -/

variable {p : Policy} {a : Availability} {notes notes' : List PlatformNote}

/-- An edit of a list of notes that does not touch what is said of the platform: a note on another platform is put in,
taken out, replaced by one on another platform or moved past others, or a message is replaced. -/
inductive Edit (p : Policy) : List PlatformNote → List PlatformNote → Prop
  | insert {before after : List PlatformNote} {note : PlatformNote} : ¬p.OnPlatform note →
      Edit p (before ++ after) (before ++ note :: after)
  | delete {before after : List PlatformNote} {note : PlatformNote} : ¬p.OnPlatform note →
      Edit p (before ++ note :: after) (before ++ after)
  | change {before after : List PlatformNote} {note note' : PlatformNote} : ¬p.OnPlatform note → ¬p.OnPlatform note' →
      Edit p (before ++ note :: after) (before ++ note' :: after)
  | moveBehind {before between after : List PlatformNote} {note : PlatformNote} : ¬p.OnPlatform note →
      Edit p (before ++ note :: between ++ after) (before ++ between ++ note :: after)
  | moveBefore {before between after : List PlatformNote} {note : PlatformNote} : ¬p.OnPlatform note →
      Edit p (before ++ between ++ note :: after) (before ++ note :: between ++ after)
  | reword {before after : List PlatformNote} {note : PlatformNote} (message? : Option String) :
      Edit p (before ++ note :: after) (before ++ { note with message? := message? } :: after)

/-- The notes on the platform, without their messages. -/
def platformNotes (p : Policy) (notes : List PlatformNote) : List PlatformNote :=
  (notes.filter p.concerns).map PlatformNote.wordless

theorem platformNotes_append (before after : List PlatformNote) :
    p.platformNotes (before ++ after) = p.platformNotes before ++ p.platformNotes after := by
  simp only [platformNotes, List.filter_append, List.map_append]

theorem platformNotes_cons_of_not {note : PlatformNote} (h : ¬p.OnPlatform note) :
    p.platformNotes (note :: notes) = p.platformNotes notes := by
  have hnot : ¬p.concerns note = true := fun hconcerns => h (concerns_iff.mp hconcerns)
  rw [platformNotes, List.filter_cons_of_neg hnot, platformNotes]

theorem platformNotes_reword (note : PlatformNote) (message? : Option String) :
    p.platformNotes ({ note with message? := message? } :: notes) = p.platformNotes (note :: notes) := by
  have hconcerns : p.concerns { note with message? := message? } = p.concerns note := rfl
  simp only [platformNotes, List.filter_cons, hconcerns]
  split <;> rfl

/-- An edit leaves the notes on the platform as they are, but for messages. -/
theorem platformNotes_of_edit (h : p.Edit notes notes') : p.platformNotes notes' = p.platformNotes notes := by
  cases h with
  | insert hnot => rw [platformNotes_append, platformNotes_append, platformNotes_cons_of_not hnot]
  | delete hnot => rw [platformNotes_append, platformNotes_append, platformNotes_cons_of_not hnot]
  | change hnot hnot' =>
    rw [platformNotes_append, platformNotes_append, platformNotes_cons_of_not hnot, platformNotes_cons_of_not hnot']
  | moveBehind hnot =>
    simp only [List.append_assoc, List.cons_append, platformNotes_append, platformNotes_cons_of_not hnot]
  | moveBefore hnot =>
    simp only [List.append_assoc, List.cons_append, platformNotes_append, platformNotes_cons_of_not hnot]
  | reword message? => rw [platformNotes_append, platformNotes_append, platformNotes_reword]

/-- So do many edits. -/
theorem platformNotes_of_edits (h : ReflTransGen p.Edit notes notes') :
    p.platformNotes notes' = p.platformNotes notes := by
  induction h with
  | refl => rfl
  | tail _ hedit ih => exact (platformNotes_of_edit hedit).trans ih

/-- A note's reason does not depend on its message, so the first one is that of the notes on the platform without. -/
theorem findSome?_platformNotes :
    (notes.filter p.concerns).findSome? p.noteReason? = (p.platformNotes notes).findSome? p.noteReason? := by
  rw [platformNotes, List.findSome?_map]
  rfl

/-- Notes that agree on the platform give a declaration the same reason. -/
theorem reason?_of_platformNotes (h : p.platformNotes notes = p.platformNotes a.notes) :
    p.reason? { a with notes := notes } = p.reason? a := by
  unfold reason?
  simp only [findSome?_platformNotes, h]

/-- **Only the notes on the platform count.** Of two policies that are the same either both let pass what looks the
same to them, or both leave it out, for the same reason. No edit of the notes on other platforms and no other message
changes the reason. -/
theorem check_on_platform (p : Policy) (a : Availability) :
    (∀ p' a', p.Same p' → p.SeesSame p' a a' → Option.Rel Reason.Same (p.check a).reason? (p'.check a').reason?) ∧
      ∀ notes, ReflTransGen p.Edit a.notes notes →
        (p.check { a with notes := notes }).reason? = (p.check a).reason? := by
  constructor
  · intro p' a' hp ha
    rw [reason?_check, reason?_check]
    exact hp.reason?_same ha
  · intro notes hedits
    rw [reason?_check, reason?_check]
    exact reason?_of_platformNotes (platformNotes_of_edits hedits)

namespace Example

/-- A policy that aims at version 11. -/
def steady : Policy := ⟨"macOS", some ⟨11, none, none⟩, false⟩

/-- The same policy, written differently. -/
def loud : Policy := ⟨"MACOS", some ⟨11, some 0, some 0⟩, false⟩

/-- A declaration that was deprecated in 10.15, on a platform that has it; another one does not. -/
def noted : Availability :=
  { Availability.blank with notes := [
      ⟨"iOS", none, none, none, true, some "not there"⟩,
      ⟨"macos", none, some ⟨10, some 15, none⟩, none, false, some "old"⟩] }

/-- The same is said of the platform, in other words, and something else of a third one. -/
def renoted : Availability :=
  { Availability.blank with notes := [
      ⟨"macos", none, some ⟨10, some 15, some 0⟩, none, false, none⟩,
      ⟨"watchOS", none, none, some ⟨1, none, none⟩, false, none⟩] }

/-- Both declarations are left out for the same reason. Where the first one's note on the other platform moves to the
end, it is left out for the very reason that it was. -/
theorem noted_on_platform : steady.Same loud ∧ steady.SeesSame loud noted renoted ∧
    Option.Rel Reason.Same (steady.check noted).reason? (loud.check renoted).reason? ∧
      ReflTransGen steady.Edit noted.notes noted.notes.reverse ∧
        (steady.check { noted with notes := noted.notes.reverse }).reason? =
          some (.deprecated "macos" ⟨10, some 15, none⟩) := by
  obtain ⟨hsame, hedits⟩ := check_on_platform steady noted
  have hpolicy : steady.Same loud := ⟨by decide, .some (by decide), rfl⟩
  have hnote : PlatformNote.Same noted.notes[1] renoted.notes[0] := ⟨rfl, rfl, .none, .some (by decide), .none⟩
  have hsees : steady.SeesSame loud noted renoted := ⟨rfl, rfl, rfl, rfl, .cons hnote .nil⟩
  have hother : ¬steady.OnPlatform noted.notes[0] := fun h => absurd (concerns_iff.mpr h) (by decide)
  have hmove : steady.Edit noted.notes noted.notes.reverse :=
    @Edit.moveBehind steady [] [noted.notes[1]] [] _ hother
  exact ⟨hpolicy, hsees, hsame loud renoted hpolicy hsees, .single hmove, hedits _ (.single hmove)⟩

end Example

end Policy

end HeaderCatalog
