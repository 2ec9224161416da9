import HeaderCatalog.Catalog.Extract
import HeaderCatalog.Proofs.TypeInfo.Resolve

/-!
# Positions do not show in a catalogue

A renaming of a snapshot (`Snapshot.Renaming`) sends its positions to positions of another one, so that the node there
is the node here with every position in it sent along. Positions may be permuted, several equal nodes may be sent to
one, and the other snapshot may have nodes of its own. Everything that an extraction asks is answered alike on both
sides: a renamed type unfolds to the same tree, and each kind of declaration agrees with its renamed one, up to the
list of findings (`Renaming.findings_agree`), which determines the catalogue and its log (`extract_renaming`).
-/

namespace HeaderCatalog

/-- The cursor with other positions in place of those it names. -/
def CursorNode.rename (f : CursorId → CursorId) (g : TypeId → TypeId) (c : CursorNode) : CursorNode :=
  { c with
    children := c.children.map f
    type? := c.type?.map g
    resultType? := c.resultType?.map g
    arguments := c.arguments.map f
    referenced? := c.referenced?.map f
    definition? := c.definition?.map f }

/-- The type with other positions in place of those it names. -/
def TypeNode.rename (f : CursorId → CursorId) (g : TypeId → TypeId) (t : TypeNode) : TypeNode :=
  { t with
    canonical? := t.canonical?.map g
    element? := t.element?.map g
    pointee? := t.pointee?.map g
    result? := t.result?.map g
    arguments? := t.arguments?.map fun ids => ids.map g
    declaration? := t.declaration?.map f }

namespace Snapshot

/-- Where each cursor and each type of a snapshot stands in another one. -/
structure Renaming (s t : Snapshot) where
  cursor : CursorId → CursorId
  type : TypeId → TypeId
  root : cursor s.root = t.root
  cursors : ∀ id c, s.cursor? id = some c → t.cursor? (cursor id) = some (c.rename cursor type)
  types : ∀ id n, s.type? id = some n → t.type? (type id) = some (n.rename cursor type)

/-- Every snapshot is a renaming of itself. -/
def Renaming.refl (s : Snapshot) : Renaming s s where
  cursor := id
  type := id
  root := rfl
  cursors _ c h := by
    rw [id_eq, h]
    simp [CursorNode.rename]
  types _ n h := by
    rw [id_eq, h]
    simp [TypeNode.rename]

namespace Renaming

variable {s t : Snapshot} (ρ : Renaming s t)

/-! ## Lookups and answers -/

/-- The node of a cursor in the other snapshot. -/
abbrev node (c : CursorNode) : CursorNode := c.rename ρ.cursor ρ.type

theorem cursor_eq {id : CursorId} {c : CursorNode} (h : s.cursor id = .ok c) :
    t.cursor (ρ.cursor id) = .ok (ρ.node c) :=
  cursor_eq_ok_iff.mpr (ρ.cursors id c (cursor_eq_ok_iff.mp h))

theorem type_eq {id : TypeId} {n : TypeNode} (h : s.type id = .ok n) :
    t.type (ρ.type id) = .ok (n.rename ρ.cursor ρ.type) :=
  type_eq_ok_iff.mpr (ρ.types id n (type_eq_ok_iff.mp h))

theorem argumentCount_node (c : CursorNode) : (ρ.node c).argumentCount = c.argumentCount := by
  simp [CursorNode.argumentCount, CursorNode.rename]

theorem definedBy?_node (c : CursorNode) (id : CursorId) :
    (ρ.node c).definedBy? (ρ.cursor id) = (c.definedBy? id).map ρ.cursor := by
  unfold CursorNode.definedBy?
  cases hd : c.definition? with
  | some d => simp [CursorNode.rename, hd]
  | none => cases hb : c.isDefinition <;> simp [CursorNode.rename, hd, hb]

theorem view_rename (n : TypeNode) (id : TypeId) :
    (n.rename ρ.cursor ρ.type).view (ρ.type id) = (n.view id).map ρ.type := by
  have hcanonical : (n.rename ρ.cursor ρ.type).canonical (ρ.type id) = ρ.type (n.canonical id) := by
    unfold TypeNode.canonical
    cases h : n.canonical? <;> simp [TypeNode.rename, h]
  have hcount : (n.rename ρ.cursor ρ.type).argumentCount = n.argumentCount := by
    unfold TypeNode.argumentCount
    cases h : n.arguments? <;> simp [TypeNode.rename, h]
  have hargument : (n.rename ρ.cursor ρ.type).argument? = fun i => (n.argument? i).map ρ.type := by
    funext i
    unfold TypeNode.argument?
    cases h : n.arguments? <;> simp [TypeNode.rename, h]
  simp only [TypeNode.view, TypeView.map, hcanonical, hcount, hargument]
  rfl

/-! ## Types -/

theorem fileOf?_agree {id? : Option CursorId} (h : ∀ id, id? = some id → s.hasCursor id) :
    Agree (s.fileOf? id?) (t.fileOf? (id?.map ρ.cursor)) := by
  cases id? with
  | none => exact Agree.ok none
  | some id =>
    obtain ⟨c, hc⟩ := exists_cursor (h id rfl)
    refine ⟨c.file?, ?_, ?_⟩
    · show (do return (← s.cursor id).file?) = _
      rw [hc]
      rfl
    · show (do return (← t.cursor (ρ.cursor id)).file?) = _
      rw [ρ.cursor_eq hc]
      rfl

theorem declaration?_rename {id : TypeId} {declaration? : Option CursorId}
    (h : s.typeOracle.declaration? id = .ok declaration?) :
    t.typeOracle.declaration? (ρ.type id) = .ok (declaration?.map ρ.cursor) := by
  obtain ⟨n, hn, h⟩ := exists_of_bind_eq_ok h
  cases h
  exact typeOracle_declaration? (ρ.type_eq hn)

theorem definition?_rename {id : CursorId} {definition? : Option CursorId}
    (h : s.typeOracle.definition? id = .ok definition?) :
    t.typeOracle.definition? (ρ.cursor id) = .ok (definition?.map ρ.cursor) := by
  obtain ⟨c, hc, h⟩ := exists_of_bind_eq_ok h
  cases h
  rw [typeOracle_definition? (ρ.cursor_eq hc), ρ.definedBy?_node]

theorem file?_rename {id : CursorId} {file? : Option String} (h : s.typeOracle.file? id = .ok file?) :
    t.typeOracle.file? (ρ.cursor id) = .ok file? := by
  obtain ⟨c, hc, h⟩ := exists_of_bind_eq_ok h
  cases h
  rw [typeOracle_file? (ρ.cursor_eq hc)]
  rfl

/-- A type is defined in the same file as the renamed one. -/
theorem definedIn_rename {id : TypeId} {file? : Option String} (h : s.typeOracle.DefinedIn id file?) :
    t.typeOracle.DefinedIn (ρ.type id) file? := by
  cases h with
  | undeclared hdeclaration => exact .undeclared (ρ.declaration?_rename hdeclaration)
  | undefined hdeclaration hdefinition =>
    exact .undefined (ρ.declaration?_rename hdeclaration) (ρ.definition?_rename hdefinition)
  | defined hdeclaration hdefinition hfile =>
    exact .defined (ρ.declaration?_rename hdeclaration) (ρ.definition?_rename hdefinition) (ρ.file?_rename hfile)

/-- What the one snapshot answers about types is what the other answers about the renamed ones. -/
theorem maps : s.typeOracle.Maps t.typeOracle ρ.type (fun id => s.hasType id) (fun id => t.hasType id) where
  mem id h := by
    obtain ⟨n, hn⟩ := exists_type h
    exact hasType_of_type (ρ.type_eq hn)
  view id v h hv := by
    obtain ⟨n, hn⟩ := exists_type h
    obtain rfl : n.view id = v := eq_of_eq_ok (typeOracle_view hn) hv
    rw [typeOracle_view (ρ.type_eq hn), ρ.view_rename]
  file _ _ _ h := ρ.definedIn_rename h

variable (hs : s.Sound) (ht : t.Sound)

include hs ht in
/-- A type unfolds like the renamed one. -/
theorem resolve_agree {id : TypeId} (h : s.hasType id) : Agree (s.resolve id) (t.resolve (ρ.type id)) := by
  have hheight := hs.partHeight_lt_size h
  have hheight' := ht.partHeight_lt_size (ρ.maps.mem id h)
  exact TypeOracle.resolve_agree hs.grounded ht.grounded ρ.maps h (by omega) (by omega)

include hs ht in
theorem resolveOrInvalid_agree {id? : Option TypeId} (h : ∀ id, id? = some id → s.hasType id) :
    Agree (s.resolveOrInvalid id?) (t.resolveOrInvalid (id?.map ρ.type)) := by
  cases id? with
  | none => exact Agree.ok TypeInfo.invalid
  | some id => exact ρ.resolve_agree hs ht (h id rfl)

/-! ## Declarations -/

/-- A declaration behind the gate agrees if what is built of it does. -/
theorem gated_agree {α : Type} (p : Policy) (c : CursorNode) {build build' : List PlatformNote → Except Fault α}
    (h : ∀ notes, Agree (build notes) (build' notes)) : Agree (gated p c build) (gated p (ρ.node c) build') := by
  have hcheck : p.check (ρ.node c).availability = p.check c.availability := rfl
  unfold gated
  rw [hcheck]
  cases p.check c.availability with
  | unavailable reason => exact Agree.ok _
  | available notes => exact (h notes).bind fun a => Agree.ok _

include hs ht in
theorem property_agree (p : Policy) {id : CursorId} {c : CursorNode} (hc : s.cursor id = .ok c) :
    Agree (s.property p c) (t.property p (ρ.node c)) := by
  refine ρ.gated_agree p c fun notes => ?_
  exact (ρ.resolveOrInvalid_agree hs ht (hs.cursorAnswers hc).type).bind fun type => Agree.ok _

include hs ht in
theorem parameter_agree {argument? : Option CursorId} (h : ∀ id, argument? = some id → s.hasCursor id) :
    Agree (s.parameter argument?) (t.parameter (argument?.map ρ.cursor)) := by
  cases argument? with
  | none => exact Agree.ok Parameter.unknown
  | some id =>
    obtain ⟨c, hc⟩ := exists_cursor (h id rfl)
    simp only [parameter, Option.map_some]
    rw [hc, ρ.cursor_eq hc]
    exact (ρ.resolveOrInvalid_agree hs ht (hs.cursorAnswers hc).type).bind fun type => Agree.ok _

include hs ht in
theorem method_agree (p : Policy) {id : CursorId} {c : CursorNode} (hc : s.cursor id = .ok c) :
    Agree (s.method p c) (t.method p (ρ.node c)) := by
  refine ρ.gated_agree p c fun notes => ?_
  rw [ρ.argumentCount_node]
  refine Agree.bind (Agree.mapM fun i _ => ?_) fun parameters => ?_
  · have hargument : (ρ.node c).arguments[i]? = c.arguments[i]?.map ρ.cursor := List.getElem?_map
    rw [hargument]
    exact ρ.parameter_agree hs ht ((hs.cursorAnswers hc).argument i)
  · exact (ρ.resolveOrInvalid_agree hs ht (hs.cursorAnswers hc).resultType).bind fun result => Agree.ok _

include hs in
theorem classReference_agree {id : CursorId} {c : CursorNode} (hc : s.cursor id = .ok c) :
    Agree (s.classReference c) (t.classReference (ρ.node c)) :=
  (ρ.fileOf?_agree (hs.cursorAnswers hc).referenced).bind fun _ => Agree.ok _

include hs ht in
/-- A child of a class is to it what the renamed child is. -/
theorem member_agree (p : Policy) {id : CursorId} (h : s.hasCursor id) :
    Agree (s.member p id) (t.member p (ρ.cursor id)) := by
  obtain ⟨c, hc⟩ := exists_cursor h
  unfold member
  rw [hc, ρ.cursor_eq hc, ok_bind, ok_bind]
  rw [show (ρ.node c).kind = c.kind from rfl]
  cases c.kind with
  | superclassReference => exact (ρ.classReference_agree hs hc).bind fun r => Agree.ok _
  | propertyDeclaration => exact (ρ.property_agree hs ht p hc).bind fun m => Agree.ok _
  | instanceMethodDeclaration => exact (ρ.method_agree hs ht p hc).bind fun m => Agree.ok _
  | classMethodDeclaration => exact (ρ.method_agree hs ht p hc).bind fun m => Agree.ok _
  | _ => exact Agree.ok _

include hs ht in
theorem interface_agree (p : Policy) {id : CursorId} {c : CursorNode} (hc : s.cursor id = .ok c) :
    Agree (s.interface p c) (t.interface p (ρ.node c)) := by
  refine ρ.gated_agree p c fun notes => ?_
  refine Agree.bind (Agree.mapM_map fun child hchild => ?_) fun members => Agree.ok _
  exact ρ.member_agree hs ht p ((hs.cursorAnswers hc).child child hchild)

/-! ## Catalogues -/

include hs ht in
/-- A child of the root turns out to be what the renamed child does. -/
theorem finding_agree (o : Options) {id : CursorId} (h : s.hasCursor id) :
    Agree (s.finding o id) (t.finding o (ρ.cursor id)) := by
  obtain ⟨c, hc⟩ := exists_cursor h
  unfold finding
  rw [hc, ρ.cursor_eq hc, ok_bind, ok_bind]
  refine Agree.ite (Agree.ok _) (Agree.ite (Agree.ok _) (Agree.ite (Agree.ok _) ?_))
  refine (ρ.interface_agree hs ht o.policy hc).bind fun result => ?_
  cases result with
  | error reason => exact Agree.ok _
  | ok found => exact Agree.ok _

include ρ hs ht in
/-- The children of the root turn out to be what the renamed ones do. -/
theorem findings_agree (o : Options) : Agree (s.findings o) (t.findings o) := by
  obtain ⟨c, hc⟩ := exists_cursor hs.root
  unfold findings
  rw [← ρ.root, hc, ρ.cursor_eq hc, ok_bind, ok_bind]
  exact Agree.mapM_map fun id hid => ρ.finding_agree hs ht o ((hs.cursorAnswers hc).child id hid)

end Renaming

/-- What a sound snapshot yields is what its findings determine. -/
theorem extract_of_findings {s : Snapshot} {o : Options} {found : List Finding} (hvalid : s.validate = .ok ())
    (hfound : s.findings o = .ok found) :
    s.extract o = .ok (.ofFindings o found, findingsLog [] found ++ [Catalog.event o found]) := by
  unfold extract
  rw [hvalid, hfound]
  rfl

/-- **The numbering of nodes does not matter.** Sound snapshots of which one is a renaming of the other give the same
catalogue and the same log. -/
theorem extract_renaming {s t : Snapshot} (ρ : Renaming s t) (hs : s.validate = .ok ()) (ht : t.validate = .ok ())
    (o : Options) : ∃ result, s.extract o = .ok result ∧ t.extract o = .ok result := by
  obtain ⟨found, hfound, hfound'⟩ := ρ.findings_agree (sound_of_validate hs) (sound_of_validate ht) o
  exact ⟨_, extract_of_findings hs hfound, extract_of_findings ht hfound'⟩

namespace Example

/-- Two equal classes with one property, a pointer. -/
def twice : Snapshot where
  root := .ofNat 0
  cursors := #[
    { CursorNode.blank .translationUnit "" with children := [.ofNat 1, .ofNat 2] },
    { CursorNode.blank .interfaceDeclaration "A" with children := [.ofNat 3] },
    { CursorNode.blank .interfaceDeclaration "A" with children := [.ofNat 3] },
    { CursorNode.blank .propertyDeclaration "p" with type? := some (.ofNat 0) }]
  types := #[.pointer "int *" (.ofNat 1), .builtin "int" "Int" 4]

/-- The same in another order, the classes merged, and with a cursor and a type that nothing leads to. -/
def merged : Snapshot where
  root := .ofNat 2
  cursors := #[
    { CursorNode.blank .interfaceDeclaration "A" with children := [.ofNat 1] },
    { CursorNode.blank .propertyDeclaration "p" with type? := some (.ofNat 2) },
    { CursorNode.blank .translationUnit "" with children := [.ofNat 0, .ofNat 0] },
    .blank .enumDeclaration "unused"]
  types := #[.builtin "int" "Int" 4, .blank "unused" "", .pointer "int *" (.ofNat 0)]

/-- Where the nodes of the one stand in the other. -/
def twiceToMerged : Renaming twice merged where
  cursor id := match id.toNat with
    | 0 => .ofNat 2
    | 1 => .ofNat 0
    | 2 => .ofNat 0
    | _ => .ofNat 1
  type id := match id.toNat with
    | 0 => .ofNat 2
    | _ => .ofNat 0
  root := rfl
  cursors id c h := by
    unfold cursor? at h
    generalize hn : id.toNat = n at h
    match n, h with
    | 0, h => cases h; rfl
    | 1, h => cases h; rfl
    | 2, h => cases h; rfl
    | 3, h => cases h; rfl
  types id n h := by
    unfold type? at h
    generalize hm : id.toNat = m at h
    match m, h with
    | 0, h => cases h; rfl
    | 1, h => cases h; rfl

/-- Merging two equal classes, another order and unused nodes change nothing. -/
theorem extract_twice_merged : twice.validate = .ok () ∧ merged.validate = .ok () ∧
    ∃ result, twice.extract .standard = .ok result ∧ merged.extract .standard = .ok result :=
  ⟨rfl, rfl, extract_renaming twiceToMerged rfl rfl .standard⟩

end Example

end Snapshot

end HeaderCatalog
