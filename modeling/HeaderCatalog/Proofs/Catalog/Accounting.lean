import HeaderCatalog.Proofs.Catalog.Messages
import HeaderCatalog.Proofs.Catalog.Totality
import HeaderCatalog.Proofs.Catalog.Origin

/-!
# The log accounts for every class and member

Counts of messages add up over the children of the root (`Tally`): each child is counted on one path only
(`tally_single`), and what a class reports tells how many of its children became members (`classTally`). Beside these
events there are only those of classes that are passed over.

`extract_accounted`: no class and no member is lost without an event, and none is counted twice.
-/

namespace HeaderCatalog

namespace Snapshot

variable {s : Snapshot} {o : Options} {p : Policy} {c : CursorNode}

/-! ## Children by kind -/

/-- Whether the cursor at a position is of one of the given kinds. -/
def hasKind (s : Snapshot) (kinds : List CursorKind) (id : CursorId) : Bool :=
  (s.cursor? id).any fun c => decide (c.kind ∈ kinds)

/-- How many children of a cursor are of one of the given kinds. -/
def countKind (s : Snapshot) (kinds : List CursorKind) (c : CursorNode) : Nat := c.children.countP (s.hasKind kinds)

theorem hasKind_of_cursor {kinds : List CursorKind} {id : CursorId} (h : s.cursor id = .ok c) :
    s.hasKind kinds id = decide (c.kind ∈ kinds) := by
  rw [hasKind, cursor?, cursor_eq_ok_iff.mp h, Option.any_some]

/-- Of items side by side as many have a property as of the others, if each pair has it together or not at all. -/
theorem countP_eq_of_forall₂ {α β : Type} {r : α → β → Prop} {p : α → Bool} {q : β → Bool} {as : List α} {bs : List β}
    (h : List.Forall₂ r as bs) (hpq : ∀ a b, r a b → p a = q b) : as.countP p = bs.countP q := by
  induction h with
  | nil => rfl
  | cons hab _ ih => rw [List.countP_cons, List.countP_cons, ih, hpq _ _ hab]

/-! ## What a class reports -/

section Class

variable {id : CursorId} {members : List Member}

/-- A child of a class is a property or a method exactly if it ends up among the members or was left out. -/
theorem hasKind_gated_of_member {m : Member} (h : s.member p id = .ok m) :
    (if s.hasKind gatedKinds id then 1 else 0) = (if m.isSkipped then 1 else 0) +
      ((if m.property?.isSome then 1 else 0) + (if m.instanceMethod?.isSome then 1 else 0) +
        (if m.classMethod?.isSome then 1 else 0)) := by
  obtain ⟨c, hc, -⟩ := exists_of_bind_eq_ok h
  rw [hasKind_of_cursor hc]
  cases (member_eq_ok_iff hc).mp h with
  | superclass hkind => rw [hkind]; rfl
  | protocol hkind => rw [hkind]; rfl
  | property hkind => rw [hkind]; rfl
  | instanceMethod hkind => rw [hkind]; rfl
  | classMethod hkind => rw [hkind]; rfl
  | skipped hkind => rw [decide_eq_true hkind]; rfl
  | unrelated hkind =>
    have hgated : c.kind ∉ gatedKinds := fun hmem => hkind (List.mem_cons_of_mem _ (List.mem_cons_of_mem _ hmem))
    rw [decide_eq_false hgated]
    rfl

/-- A child of a class is a reference to a superclass exactly if the class gets a superclass from it. -/
theorem hasKind_superclass_of_member {m : Member} (h : s.member p id = .ok m) :
    s.hasKind [.superclassReference] id = m.superclass?.isSome := by
  obtain ⟨c, hc, -⟩ := exists_of_bind_eq_ok h
  rw [hasKind_of_cursor hc]
  cases (member_eq_ok_iff hc).mp h with
  | superclass hkind => rw [hkind]; rfl
  | protocol hkind => rw [hkind]; rfl
  | property hkind => rw [hkind]; rfl
  | instanceMethod hkind => rw [hkind]; rfl
  | classMethod hkind => rw [hkind]; rfl
  | skipped hkind =>
    have hother : c.kind ∉ [CursorKind.superclassReference] := fun hmem => by
      rw [List.mem_singleton.mp hmem] at hkind
      exact absurd hkind (by decide)
    rw [decide_eq_false hother]
    rfl
  | unrelated hkind =>
    have hother : c.kind ∉ [CursorKind.superclassReference] := fun hmem =>
      hkind (List.mem_singleton.mp hmem ▸ List.mem_cons_self)
    rw [decide_eq_false hother]
    rfl

/-- Each property or method among the children of a class is one of its members or was left out. -/
theorem countKind_gated (hmembers : c.children.mapM (s.member p) = .ok members) (notes : List PlatformNote) :
    s.countKind gatedKinds c = members.countP Member.isSkipped + (Interface.ofMembers c notes members).memberCount := by
  unfold countKind Interface.memberCount Interface.ofMembers
  simp only [List.length_filterMap_eq_countP]
  rw [mapM_eq_ok_iff] at hmembers
  generalize c.children = ids at hmembers ⊢
  induction hmembers with
  | nil => rfl
  | @cons id m ids members hm _ ih =>
    have hone := hasKind_gated_of_member hm
    simp only [List.countP_cons]
    omega

theorem countKind_superclass (hmembers : c.children.mapM (s.member p) = .ok members) :
    s.countKind [.superclassReference] c = members.countP fun m => m.superclass?.isSome :=
  countP_eq_of_forall₂ (mapM_eq_ok_iff.mp hmembers) fun _ _ hm => hasKind_superclass_of_member hm

/-- What the events of a class say about its children. -/
structure ClassTally (s : Snapshot) (c : CursorNode) (i : Interface) (log : List Event) : Prop where
  skipped : s.countKind gatedKinds c = occurrences "skipping declaration" log + i.memberCount
  superclasses : occurrences "multiple superclass references" log = s.countKind [.superclassReference] c - 1
  extracted : occurrences "extracted interface" log = 1
  others : ∀ message, message ∉ ["skipping declaration", "multiple superclass references", "extracted interface"] →
    occurrences message log = 0

theorem classTally {i : Interface} {log : List Event} (h : s.interface p c = .ok (.ok (i, log))) :
    s.ClassTally c i log := by
  obtain ⟨-, members, hmembers, rfl, rfl⟩ := interface_eq_ok_iff.mp h
  refine ⟨?_, ?_, ?_, fun message hmessage => ?_⟩
  · rw [occurrences_append, occurrences_skipped_memberLog]
    exact countKind_gated hmembers _
  · rw [occurrences_append, occurrences_superclass_memberLog, countKind_superclass hmembers]
    rfl
  · have hnone : occurrences "extracted interface" (memberLog c.spelling none members) = 0 := by
      refine occurrences_eq_zero fun e he => ?_
      rcases message_of_mem_memberLog he with heq | heq <;> rw [heq] <;> decide
    rw [occurrences_append, hnone]
    rfl
  · refine occurrences_eq_zero fun e he heq => hmessage ?_
    subst heq
    rcases List.mem_append.mp he with he | he
    · rcases message_of_mem_memberLog he with heq | heq <;> rw [heq] <;> decide
    · rw [List.mem_singleton.mp he]
      simp [Interface.event, Event.message]

end Class

/-! ## What the children of the root report -/

/-- The class that a child of the root yields, with the cursor that it comes from. -/
def yield? (s : Snapshot) (o : Options) (id : CursorId) : Option (CursorNode × Interface) :=
  match s.cursor? id, s.finding o id with
  | some c, .ok (.interface i _) => some (c, i)
  | _, _ => none

/-- The classes that some children of the root yield, with the cursors that they come from. -/
def yielded (s : Snapshot) (o : Options) (ids : List CursorId) : List (CursorNode × Interface) :=
  ids.filterMap (s.yield? o)

/-- What the events of some children of the root, each by itself, say about them. -/
structure Tally (s : Snapshot) (o : Options) (ids : List CursorId) (found : List Finding) (log : List Event) :
    Prop where
  classes : ids.countP (s.hasKind [.interfaceDeclaration]) =
    occurrences "skipping forward declaration" log + found.countP Finding.isOutside +
      found.countP Finding.isFiltered + (foundInterfaces found).length
  extracted : occurrences "extracted interface" log = (foundInterfaces found).length
  members : ∀ y ∈ s.yielded o ids, y.2.memberCount ≤ s.countKind gatedKinds y.1
  skipped : occurrences "skipping declaration" log = found.countP Finding.isFiltered +
    ((s.yielded o ids).map fun y => s.countKind gatedKinds y.1 - y.2.memberCount).sum
  superclasses : occurrences "multiple superclass references" log =
    ((s.yielded o ids).map fun y => s.countKind [.superclassReference] y.1 - 1).sum
  duplicates : occurrences "duplicate interface definition" log = 0
  catalogs : occurrences "extracted framework metadata" log = 0

/-- Tallies add up. -/
theorem Tally.append {ids ids' : List CursorId} {found found' : List Finding} {log log' : List Event}
    (h : s.Tally o ids found log) (h' : s.Tally o ids' found' log') :
    s.Tally o (ids ++ ids') (found ++ found') (log ++ log') where
  classes := by
    simp only [foundInterfaces, List.countP_append, occurrences_append, List.filterMap_append, List.length_append,
      h.classes, h'.classes]
    omega
  extracted := by
    simp only [foundInterfaces, occurrences_append, List.filterMap_append, List.length_append, h.extracted,
      h'.extracted]
  members y hy := by
    rw [yielded, List.filterMap_append, List.mem_append] at hy
    rcases hy with hy | hy
    · exact h.members y hy
    · exact h'.members y hy
  skipped := by
    simp only [yielded, List.countP_append, occurrences_append, List.filterMap_append, List.map_append,
      List.sum_append, h.skipped, h'.skipped]
    omega
  superclasses := by
    simp only [yielded, occurrences_append, List.filterMap_append, List.map_append, List.sum_append, h.superclasses,
      h'.superclasses]
  duplicates := by rw [occurrences_append, h.duplicates, h'.duplicates]
  catalogs := by rw [occurrences_append, h.catalogs, h'.catalogs]

/-- Whatever is a class turns out to be related to the catalogue, and nothing else does. -/
theorem hasKind_class_of_finding {id : CursorId} {f : Finding} (h : s.finding o id = .ok f) :
    s.hasKind [.interfaceDeclaration] id ↔ f ≠ .unrelated := by
  obtain ⟨c, hc, h⟩ := exists_of_bind_eq_ok h
  rw [hasKind_of_cursor hc, decide_eq_true_iff, List.mem_singleton]
  by_cases hkind : c.kind = .interfaceDeclaration
  · simp only [hkind, true_iff]
    rintro rfl
    -- no branch behind the look at the kind ends in an unrelated finding
    simp only [hkind, ne_eq, not_true_eq_false, if_false] at h
    split at h
    · cases h
    split at h
    · cases h
    obtain ⟨result, -, h⟩ := exists_of_bind_eq_ok h
    cases result <;> cases h
  · rw [if_pos hkind] at h
    cases h
    simp only [hkind, ne_eq, not_true_eq_false]

theorem yielded_of_interface {id : CursorId} {i : Interface} {log : List Event} (hc : s.cursor id = .ok c)
    (h : s.finding o id = .ok (.interface i log)) : s.yielded o [id] = [(c, i)] := by
  have hcursor : s.cursor? id = some c := cursor_eq_ok_iff.mp hc
  have hyield : s.yield? o id = some (c, i) := by rw [yield?, hcursor, h]
  exact List.filterMap_cons_some hyield

theorem yielded_eq_nil {id : CursorId} {f : Finding} (h : s.finding o id = .ok f) (hf : f.interface? = none) :
    s.yielded o [id] = [] := by
  refine List.filterMap_cons_none ?_
  rw [yield?, h]
  split
  · rename_i i log hfound
    cases hfound
    cases hf
  · rfl

/-- The tally of one child of the root. -/
theorem tally_single {id : CursorId} {f : Finding} (h : s.finding o id = .ok f) : s.Tally o [id] [f] f.events := by
  have hkind := hasKind_class_of_finding h
  cases f with
  | interface i log =>
    obtain ⟨c, hc, -, -, -, hinterface⟩ := finding_eq_interface_iff.mp h
    have htally := classTally hinterface
    have hyielded := yielded_of_interface hc h
    have hclass : s.hasKind [.interfaceDeclaration] id = true := hkind.mpr (by simp)
    have hforward : occurrences "skipping forward declaration" log = 0 := htally.others _ (by decide)
    have hskipped := htally.skipped
    refine ⟨?_, htally.extracted, ?_, ?_, ?_, htally.others _ (by decide), htally.others _ (by decide)⟩
    · rw [List.countP_cons_of_pos hclass, Finding.events, hforward]
      rfl
    · rw [hyielded]
      intro y hy
      rw [List.mem_singleton.mp hy, hskipped]
      exact Nat.le_add_left ..
    · rw [hyielded, List.map_singleton, List.sum_singleton, hskipped, Nat.add_sub_cancel]
      exact (Nat.zero_add _).symm
    · rw [hyielded, List.map_singleton, List.sum_singleton]
      exact htally.superclasses
  | unrelated =>
    have hclass : ¬s.hasKind [.interfaceDeclaration] id = true := fun htrue => hkind.mp htrue rfl
    have hyielded := yielded_eq_nil h rfl
    refine ⟨?_, rfl, ?_, ?_, ?_, rfl, rfl⟩
    · rw [List.countP_cons_of_neg hclass]
      rfl
    all_goals rw [hyielded]
    · exact fun _ hy => (List.not_mem_nil hy).elim
    · rfl
    · rfl
  | forward | outside | filtered =>
    have hclass : s.hasKind [.interfaceDeclaration] id = true := hkind.mpr (by simp)
    have hyielded := yielded_eq_nil h rfl
    refine ⟨?_, rfl, ?_, ?_, ?_, rfl, rfl⟩
    · rw [List.countP_cons_of_pos hclass]
      rfl
    all_goals rw [hyielded]
    · exact fun _ hy => (List.not_mem_nil hy).elim
    · rfl
    · rfl

/-- The tally of all children of the root. -/
theorem tally {ids : List CursorId} {found : List Finding} (h : ids.mapM (s.finding o) = .ok found) :
    s.Tally o ids found (found.flatMap Finding.events) := by
  rw [mapM_eq_ok_iff] at h
  induction h with
  | nil => exact ⟨rfl, rfl, fun _ hy => (List.not_mem_nil hy).elim, rfl, rfl, rfl, rfl⟩
  | cons hf _ ih => exact (tally_single hf).append ih

/-! ## The log of a run -/

/-- What the log of an extraction says about the snapshot and the catalogue. -/
structure Accounts (s : Snapshot) (o : Options) (root : CursorNode) (catalog : Catalog) (log : List Event)
    (outside filtered : Nat) : Prop where
  last : log.getLast? = some (.catalog o.framework? o.platform catalog.interfaces.length outside filtered)
  single : occurrences "extracted framework metadata" log = 1
  classes : s.countKind [.interfaceDeclaration] root = occurrences "skipping forward declaration" log + outside +
    filtered + catalog.interfaces.length + occurrences "duplicate interface definition" log
  extracted : occurrences "extracted interface" log =
    catalog.interfaces.length + occurrences "duplicate interface definition" log
  members : ∀ y ∈ s.yielded o root.children, y.2.memberCount ≤ s.countKind gatedKinds y.1
  skipped : occurrences "skipping declaration" log =
    filtered + ((s.yielded o root.children).map fun y => s.countKind gatedKinds y.1 - y.2.memberCount).sum
  superclasses : occurrences "multiple superclass references" log =
    ((s.yielded o root.children).map fun y => s.countKind [.superclassReference] y.1 - 1).sum

/-- The log of an extraction has the events of the single findings, those of passing classes over, and one more. -/
theorem occurrences_log (message : String) (found : List Finding) :
    occurrences message (findingsLog [] found ++ [Catalog.event o found]) =
      occurrences message (found.flatMap Finding.events) +
        occurrences message (Interface.firstsLog [] (foundInterfaces found)) +
          if "extracted framework metadata" = message then 1 else 0 := by
  rw [occurrences_append, occurrences_perm (findingsLog_perm [] found), occurrences_append, occurrences_cons]
  rfl

theorem occurrences_log_of_ne {message : String} (hduplicate : message ≠ "duplicate interface definition")
    (hcatalog : "extracted framework metadata" ≠ message) (found : List Finding) :
    occurrences message (findingsLog [] found ++ [Catalog.event o found]) =
      occurrences message (found.flatMap Finding.events) := by
  rw [occurrences_log, Interface.occurrences_firstsLog_of_ne hduplicate, if_neg hcatalog, Nat.add_zero]

/-- The classes that were found either stand or were passed over. -/
theorem length_add_duplicates {ids : List CursorId} {found : List Finding}
    (h : s.Tally o ids found (found.flatMap Finding.events)) :
    (Catalog.ofFindings o found).interfaces.length +
      occurrences "duplicate interface definition" (findingsLog [] found ++ [Catalog.event o found]) =
        (foundInterfaces found).length := by
  have hpassed : occurrences "duplicate interface definition" (Interface.firstsLog [] (foundInterfaces found)) =
      (Interface.firstsLog [] (foundInterfaces found)).length :=
    occurrences_eq_length fun _ => Interface.message_of_mem_firstsLog
  rw [occurrences_log, h.duplicates, hpassed, if_neg (by decide), Nat.add_zero, Nat.zero_add]
  exact Interface.length_firstsLog.trans (Nat.zero_add _)

/-- **Every class and member is accounted for.** An extraction of a snapshot that passes the check reports each class
among the children of the root on exactly one path, and each child of a class that could have become a member. -/
theorem extract_accounted {s : Snapshot} (h : s.validate = .ok ()) (o : Options) :
    ∃ root catalog log outside filtered, s.cursor? s.root = some root ∧ s.extract o = .ok (catalog, log) ∧
      s.Accounts o root catalog log outside filtered := by
  have hsound := sound_of_validate h
  obtain ⟨found, hfound, -⟩ := (Renaming.refl s).findings_agree hsound hsound o
  obtain ⟨root, hroot, hchildren⟩ := findings_eq_ok_iff.mp hfound
  have htally := tally hchildren
  have hstand := length_add_duplicates htally
  refine ⟨root, .ofFindings o found, findingsLog [] found ++ [Catalog.event o found], found.countP Finding.isOutside,
    found.countP Finding.isFiltered, cursor_eq_ok_iff.mp hroot, extract_of_findings h hfound, ?_⟩
  constructor
  · rw [List.getLast?_append, List.getLast?_singleton]
    rfl
  · rw [occurrences_log, htally.catalogs, Interface.occurrences_firstsLog_of_ne (by decide)]
    rfl
  · have hclasses := htally.classes
    rw [occurrences_log_of_ne (by decide) (by decide), countKind]
    omega
  · rw [occurrences_log_of_ne (by decide) (by decide), htally.extracted]
    exact hstand.symm
  · exact htally.members
  · rw [occurrences_log_of_ne (by decide) (by decide)]
    exact htally.skipped
  · rw [occurrences_log_of_ne (by decide) (by decide)]
    exact htally.superclasses

namespace Example

/-- A class that is announced and defined twice, with two superclasses and a deprecated member, and one that is not
available. -/
def crowd : Snapshot where
  root := .ofNat 0
  cursors := #[
    { CursorNode.blank .translationUnit "" with children := [.ofNat 1, .ofNat 2, .ofNat 3, .ofNat 4] },
    { CursorNode.blank .interfaceDeclaration "A" with isDefinition := false },
    { CursorNode.blank .interfaceDeclaration "A" with children := [.ofNat 5, .ofNat 6, .ofNat 7, .ofNat 8] },
    .blank .interfaceDeclaration "A",
    { CursorNode.blank .interfaceDeclaration "B" with
      availability := { Availability.blank with alwaysUnavailable := true } },
    .blank .superclassReference "R",
    .blank .superclassReference "S",
    .blank .propertyDeclaration "p",
    { CursorNode.blank .instanceMethodDeclaration "m" with
      availability := { Availability.blank with alwaysDeprecated := true } }]
  types := #[]

/-- Four classes: one announced, one left out, one kept and one passed over. -/
theorem extract_crowd : crowd.validate = .ok () ∧
    ∃ root catalog log outside filtered, crowd.cursor? crowd.root = some root ∧
      crowd.extract .standard = .ok (catalog, log) ∧ crowd.Accounts .standard root catalog log outside filtered :=
  ⟨rfl, extract_accounted rfl .standard⟩

example : (crowd.extract .standard).map (fun result => result.2.map Event.message) = .ok [
    "skipping forward declaration", "multiple superclass references", "skipping declaration", "extracted interface",
    "extracted interface", "duplicate interface definition", "skipping declaration",
    "extracted framework metadata"] := rfl

end Example

end Snapshot

end HeaderCatalog
