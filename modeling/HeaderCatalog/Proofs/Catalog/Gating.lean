import HeaderCatalog.Proofs.Catalog.Origin
import HeaderCatalog.Proofs.Catalog.Totality
import HeaderCatalog.Proofs.Policy

/-!
# Nothing that the gate leaves out is in a catalogue

A declaration is *admitted* (`Policy.Admitted`) when its notes are those of the cursor that it was built from, nothing
is said of this cursor that holds against it everywhere, and the gate lets the notes pass by themselves. All that is
built behind the gate is admitted (`admitted_of_gated`), so a class is with all its members (`admittedAt_of_interface`).
Passing over later classes of a name and merging catalogues only ever take classes away, so this holds of every class
in a catalogue and in a merger of catalogues (`extract_admitted`).
-/

namespace HeaderCatalog

/-- A declaration with the given notes was admitted at a cursor. -/
structure Policy.Admitted (p : Policy) (c : CursorNode) (notes : List PlatformNote) : Prop where
  own : notes = c.availability.notes
  available : c.availability.alwaysUnavailable = false
  current : p.keepDeprecated = false → c.availability.alwaysDeprecated = false
  /-- the gate lets the notes pass, with no remark beside them -/
  check : ∀ a : Availability, a.notes = notes → a.alwaysUnavailable = false → a.alwaysDeprecated = false →
    p.check a = .available notes

/-- The gate admits what it has no reason against. -/
theorem Policy.admitted_of_reason? {p : Policy} {c : CursorNode} (h : p.reason? c.availability = none) :
    p.Admitted c c.availability.notes where
  own := rfl
  available := (reason?_eq_none_iff.mp h).1
  current hkeep := by
    by_contra hdeprecated
    have hkept := (reason?_eq_none_iff.mp h).2.2 (by simpa using hdeprecated)
    rw [hkeep] at hkept
    cases hkept
  check _ hnotes havailable hcurrent := check_of_notes h hnotes havailable hcurrent

namespace Snapshot

variable {s : Snapshot} {p : Policy} {c : CursorNode}

/-! ## Members -/

/-- A member was built from a child of the given kind, and admitted there. -/
def AdmittedChild {α : Type} (s : Snapshot) (p : Policy) (c : CursorNode) (kind : CursorKind)
    (build : CursorNode → Except Fault (Except Reason α)) (notes : α → List PlatformNote) (a : α) : Prop :=
  ∃ id ∈ c.children, ∃ child, s.cursor id = .ok child ∧ child.kind = kind ∧ build child = .ok (.ok a) ∧
    p.Admitted child (notes a)

/-- What is built with the notes that it is given is admitted. -/
theorem admitted_of_gated {α : Type} {build : List PlatformNote → Except Fault α} {notes : α → List PlatformNote}
    (hbuild : ∀ given a, build given = .ok a → notes a = given) {a : α} (h : gated p c build = .ok (.ok a)) :
    p.Admitted c (notes a) := by
  obtain ⟨hreason, ha⟩ := gated_eq_ok_iff.mp h
  rw [hbuild _ a ha]
  exact p.admitted_of_reason? hreason

theorem admitted_of_property {d : Property} (h : s.property p c = .ok (.ok d)) : p.Admitted c d.notes := by
  refine admitted_of_gated (fun notes d hd => ?_) h
  obtain ⟨type, -, hd⟩ := exists_of_bind_eq_ok hd
  cases hd
  rfl

theorem admitted_of_method {m : Method} (h : s.method p c = .ok (.ok m)) : p.Admitted c m.notes := by
  refine admitted_of_gated (fun notes m hm => ?_) h
  obtain ⟨parameters, -, hm⟩ := exists_of_bind_eq_ok hm
  obtain ⟨result, -, hm⟩ := exists_of_bind_eq_ok hm
  cases hm
  rfl

/-- Members of one sort are admitted if whatever is built as one is. -/
theorem admittedChild_of_mem {α : Type} {pick : Member → Option α} {kind : CursorKind}
    {build : CursorNode → Except Fault (Except Reason α)} {notes : α → List PlatformNote} {members : List Member}
    (hmembers : c.children.mapM (s.member p) = .ok members)
    (hpick : ∀ {child m a}, s.MemberOf p child m → pick m = some a → child.kind = kind ∧ build child = .ok (.ok a))
    (hadmitted : ∀ {child a}, build child = .ok (.ok a) → p.Admitted child (notes a)) :
    ∀ a ∈ members.filterMap pick, s.AdmittedChild p c kind build notes a := by
  intro a ha
  obtain ⟨m, hm, ha⟩ := List.mem_filterMap.mp ha
  obtain ⟨id, hid, hmember⟩ := exists_of_mem_mapM hmembers hm
  obtain ⟨child, hchild, -⟩ := exists_of_bind_eq_ok hmember
  obtain ⟨hkind, hbuilt⟩ := hpick ((member_eq_ok_iff hchild).mp hmember) ha
  exact ⟨id, hid, child, hchild, hkind, hbuilt, hadmitted hbuilt⟩

/-! ## Classes -/

/-- A class was built from a cursor, and admitted with all its members. -/
structure AdmittedAt (s : Snapshot) (p : Policy) (c : CursorNode) (i : Interface) : Prop where
  built : ∃ log, s.interface p c = .ok (.ok (i, log))
  self : p.Admitted c i.notes
  property : ∀ d ∈ i.properties, s.AdmittedChild p c .propertyDeclaration (s.property p) Property.notes d
  instanceMethod : ∀ m ∈ i.instanceMethods,
    s.AdmittedChild p c .instanceMethodDeclaration (s.method p) Method.notes m
  classMethod : ∀ m ∈ i.classMethods, s.AdmittedChild p c .classMethodDeclaration (s.method p) Method.notes m

/-- A class that was built is admitted, with all its members. -/
theorem admittedAt_of_interface {i : Interface} {log : List Event} (h : s.interface p c = .ok (.ok (i, log))) :
    s.AdmittedAt p c i := by
  obtain ⟨hreason, members, hmembers, rfl, -⟩ := interface_eq_ok_iff.mp h
  exact {
    built := ⟨log, h⟩
    self := p.admitted_of_reason? hreason
    property := admittedChild_of_mem hmembers (fun hm hd => hm.of_property? hd) admitted_of_property
    instanceMethod := admittedChild_of_mem hmembers (fun hm hd => hm.of_instanceMethod? hd) admitted_of_method
    classMethod := admittedChild_of_mem hmembers (fun hm hd => hm.of_classMethod? hd) admitted_of_method }

/-! ## Catalogues -/

/-- A class was built from a child of the root, and admitted with all its members. -/
def AdmittedIn (s : Snapshot) (p : Policy) (i : Interface) : Prop :=
  ∃ root, s.cursor s.root = .ok root ∧ ∃ id ∈ root.children, ∃ c, s.cursor id = .ok c ∧
    c.kind = .interfaceDeclaration ∧ s.AdmittedAt p c i

/-- Every class of a catalogue is admitted, with all its members. -/
theorem admittedIn_of_extract {o : Options} {catalog : Catalog} {log : List Event}
    (h : s.extract o = .ok (catalog, log)) : ∀ i ∈ catalog.interfaces, s.AdmittedIn o.policy i := by
  intro i hi
  obtain ⟨root, hroot, id, hid, log, hfinding⟩ := exists_finding h hi
  obtain ⟨c, hc, hkind, -, -, hinterface⟩ := finding_eq_interface_iff.mp hfinding
  exact ⟨root, hroot, id, hid, c, hc, hkind, admittedAt_of_interface hinterface⟩

/-- Every class of a merger is admitted in one of the snapshots. -/
theorem admittedIn_of_merge {o : Options} (o' : Options) {parts : List (Snapshot × Catalog)}
    (h : ∀ part ∈ parts, ∃ log, part.1.extract o = .ok (part.2, log)) :
    ∀ i ∈ (Catalog.merge o' (parts.map Prod.snd)).interfaces, ∃ part ∈ parts, part.1.AdmittedIn o.policy i := by
  intro i hi
  obtain ⟨catalog, hcatalog, hi⟩ := List.mem_flatMap.mp (Interface.mem_of_mem_firsts hi)
  obtain ⟨part, hpart, rfl⟩ := List.mem_map.mp hcatalog
  obtain ⟨log, hextract⟩ := h part hpart
  exact ⟨part, hpart, admittedIn_of_extract hextract i hi⟩

/-- **Nothing that the gate leaves out is in a catalogue**, nor in a catalogue that such catalogues are merged into. -/
theorem extract_admitted (o : Options) :
    (∀ s : Snapshot, s.validate = .ok () → ∃ catalog log, s.extract o = .ok (catalog, log) ∧
      ∀ i ∈ catalog.interfaces, s.AdmittedIn o.policy i) ∧
    ∀ parts : List (Snapshot × Catalog), (∀ part ∈ parts, ∃ log, part.1.extract o = .ok (part.2, log)) →
      ∀ o', ∀ i ∈ (Catalog.merge o' (parts.map Prod.snd)).interfaces,
        ∃ part ∈ parts, part.1.AdmittedIn o.policy i := by
  refine ⟨fun s hvalid => ?_, fun parts hparts o' => admittedIn_of_merge o' hparts⟩
  obtain ⟨catalog, log, hextract⟩ := exists_extract hvalid o
  exact ⟨catalog, log, hextract, admittedIn_of_extract hextract⟩

namespace Example

/-- A class with three members, of which one is deprecated and one unavailable. -/
def mixed : Snapshot where
  root := .ofNat 0
  cursors := #[
    { CursorNode.blank .translationUnit "" with children := [.ofNat 1] },
    { CursorNode.blank .interfaceDeclaration "A" with children := [.ofNat 2, .ofNat 3, .ofNat 4] },
    { CursorNode.blank .propertyDeclaration "p" with
      availability := { Availability.blank with
        notes := [⟨"macos", some ⟨10, none, none⟩, none, none, false, none⟩] } },
    { CursorNode.blank .propertyDeclaration "q" with
      availability := { Availability.blank with alwaysDeprecated := true } },
    { CursorNode.blank .instanceMethodDeclaration "m" with
      availability := { Availability.blank with alwaysUnavailable := true } }]
  types := #[]

/-- What is left of it. -/
def mixedCatalog : Catalog where
  framework? := none
  platform := "macos"
  interfaces := [{
    name := "A"
    file := ""
    superclass? := none
    protocols := []
    properties := [{
      name := "p"
      type := .invalid
      getter := "p"
      setter := "setP:"
      isClassLevel := false
      isReadonly := false
      isNonatomic := false
      isWeak := false
      notes := [⟨"macos", some ⟨10, none, none⟩, none, none, false, none⟩] }]
    instanceMethods := []
    classMethods := []
    notes := []
    header := "A" }]

/-- Only one of the three members is admitted, alone or when the catalogue is merged with itself. -/
theorem extract_mixed_admitted :
    mixed.validate = .ok () ∧ (∃ log, mixed.extract .standard = .ok (mixedCatalog, log)) ∧
      (∃ catalog log, mixed.extract .standard = .ok (catalog, log) ∧
        ∀ i ∈ catalog.interfaces, mixed.AdmittedIn Options.standard.policy i) ∧
      ∀ i ∈ (Catalog.merge .standard [mixedCatalog, mixedCatalog]).interfaces,
        ∃ part ∈ [(mixed, mixedCatalog), (mixed, mixedCatalog)], part.1.AdmittedIn Options.standard.policy i := by
  have hextract : ∃ log, mixed.extract .standard = .ok (mixedCatalog, log) := ⟨_, rfl⟩
  have hparts : ∀ part ∈ [(mixed, mixedCatalog), (mixed, mixedCatalog)],
      ∃ log, part.1.extract .standard = .ok (part.2, log) := by simpa using hextract
  exact ⟨rfl, hextract, (extract_admitted .standard).1 mixed rfl, (extract_admitted .standard).2 _ hparts .standard⟩

end Example

end Snapshot

end HeaderCatalog
