import HeaderCatalog.Proofs.Catalog.Gating

/-!
# Relaxed options lose nothing

Options relax to others (`Options.Relaxes`) that aim at the same, keep deprecated declarations if the first ones do,
and cover the same framework or all of them. What passes the gate still passes it and is built alike
(`gated_relaxed`), so each child of a class keeps what it is to the class, unless the gate had left it out
(`member_relaxed`). Hence a class only gains properties and methods between those it has (`interface_relaxed`), and no
name of a catalogue is lost (`extract_relaxed`). The class that stands for a name may be another one: an earlier
definition may have been left out before.
-/

namespace HeaderCatalog

/-! ## Options and classes -/

/-- The second options aim at the same, keep deprecated declarations if the first ones do, and name the same framework
or none. -/
structure Options.Relaxes (o o' : Options) : Prop where
  policy : o.policy.Relaxes o'.policy
  framework : o'.framework? = o.framework? ∨ o'.framework? = none

/-- Every file that is covered stays so. -/
theorem Options.Relaxes.covers {o o' : Options} (h : o.Relaxes o') {file? : Option String}
    (hfile : o.covers file? = true) : o'.covers file? = true := by
  unfold Options.covers Options.marker? at *
  rcases h.framework with hsame | hnone
  · rw [hsame]
    exact hfile
  · rw [hnone]
    rfl

/-- The second class is the first one, with perhaps more properties and methods between those of the first. -/
structure Interface.Within (i i' : Interface) : Prop where
  name : i'.name = i.name
  file : i'.file = i.file
  superclass? : i'.superclass? = i.superclass?
  protocols : i'.protocols = i.protocols
  notes : i'.notes = i.notes
  header : i'.header = i.header
  properties : i.properties.Sublist i'.properties
  instanceMethods : i.instanceMethods.Sublist i'.instanceMethods
  classMethods : i.classMethods.Sublist i'.classMethods

/-! ## Members -/

/-- A member that the gate left out may become a property or a method; any other one stays what it is. -/
inductive Member.Keeps : Member → Member → Prop
  | same (m : Member) : Keeps m m
  | skipped {kind : CursorKind} {name : String} {reason : Reason} {m : Member} (hsuperclass : m.superclass? = none)
      (hprotocol : m.protocol? = none) : Keeps (.skipped kind name reason) m

section Members

variable {members members' : List Member} (h : List.Forall₂ Member.Keeps members members')

include h

/-- What the gate cannot leave out stays the same. -/
theorem filterMap_eq_of_keeps {α : Type} {pick : Member → Option α}
    (hpick : ∀ {m m'}, Member.Keeps m m' → pick m' = pick m) : members'.filterMap pick = members.filterMap pick := by
  induction h with
  | nil => rfl
  | cons hm _ ih => rw [List.filterMap_cons, List.filterMap_cons, hpick hm, ih]

/-- What is picked out stays there, in the same order. -/
theorem filterMap_sublist_of_keeps {α : Type} {pick : Member → Option α}
    (hpick : ∀ kind name reason, pick (.skipped kind name reason) = none) :
    (members.filterMap pick).Sublist (members'.filterMap pick) := by
  induction h with
  | nil => exact .slnil
  | @cons m m' members members' hm _ ih =>
    cases hm with
    | same m =>
      cases ha : pick m with
      | none => rwa [List.filterMap_cons_none ha, List.filterMap_cons_none ha]
      | some a =>
        rw [List.filterMap_cons_some ha, List.filterMap_cons_some ha]
        exact ih.cons_cons a
    | skipped =>
      rw [List.filterMap_cons_none (hpick _ _ _)]
      cases ha : pick m' with
      | none => rwa [List.filterMap_cons_none ha]
      | some a =>
        rw [List.filterMap_cons_some ha]
        exact ih.cons a

/-- The class with the kept members is the one that it was, with perhaps more members. -/
theorem Interface.ofMembers_within (c : CursorNode) (notes : List PlatformNote) :
    (ofMembers c notes members).Within (ofMembers c notes members') where
  name := rfl
  file := rfl
  superclass? := congrArg List.getLast? <| filterMap_eq_of_keeps h fun hm => by
    cases hm with
    | same => rfl
    | skipped hsuperclass => exact hsuperclass
  protocols := filterMap_eq_of_keeps h fun hm => by
    cases hm with
    | same => rfl
    | skipped _ hprotocol => exact hprotocol
  notes := rfl
  header := rfl
  properties := filterMap_sublist_of_keeps h fun _ _ _ => rfl
  instanceMethods := filterMap_sublist_of_keeps h fun _ _ _ => rfl
  classMethods := filterMap_sublist_of_keeps h fun _ _ _ => rfl

end Members

namespace Snapshot

variable {s : Snapshot} {p p' : Policy} {c : CursorNode}

/-! ## Two policies -/

/-- What passes the gate passes it under a relaxed policy, and is built alike. -/
theorem gated_relaxed (h : p.Relaxes p') {α : Type} {build : List PlatformNote → Except Fault α} {a : α}
    (ha : gated p c build = .ok (.ok a)) : gated p' c build = .ok (.ok a) := by
  rw [gated_eq_ok_iff] at ha ⊢
  exact ⟨h.reason?_eq_none ha.1, ha.2⟩

namespace MemberOf

/-- What is behind a gate is neither a superclass nor a protocol. -/
theorem no_reference {m : Member} (hm : s.MemberOf p c m) (hkind : c.kind ∈ gatedKinds) :
    m.superclass? = none ∧ m.protocol? = none := by
  cases hm with
  | superclass hkind' => simp [gatedKinds, hkind'] at hkind
  | protocol hkind' => simp [gatedKinds, hkind'] at hkind
  | _ => exact ⟨rfl, rfl⟩

/-- What a cursor is to its class it is under a relaxed policy, unless the gate had left it out. -/
theorem relaxed (h : p.Relaxes p') {m : Member} (hm : s.MemberOf p c m) :
    s.MemberOf p' c m ∨ c.kind ∈ gatedKinds ∧ ∃ kind name reason, m = .skipped kind name reason := by
  cases hm with
  | superclass hkind hbuilt => exact Or.inl (.superclass hkind hbuilt)
  | protocol hkind => exact Or.inl (.protocol hkind)
  | property hkind hbuilt => exact Or.inl (.property hkind (gated_relaxed h hbuilt))
  | instanceMethod hkind hbuilt => exact Or.inl (.instanceMethod hkind (gated_relaxed h hbuilt))
  | classMethod hkind hbuilt => exact Or.inl (.classMethod hkind (gated_relaxed h hbuilt))
  | unrelated hkind => exact Or.inl (.unrelated hkind)
  | skipped hkind => exact Or.inr ⟨hkind, _, _, _, rfl⟩

end MemberOf

theorem member_relaxed (h : p.Relaxes p') {id : CursorId} {m m' : Member} (hm : s.member p id = .ok m)
    (hm' : s.member p' id = .ok m') : m.Keeps m' := by
  obtain ⟨c, hc, -⟩ := exists_of_bind_eq_ok hm
  rw [member_eq_ok_iff hc] at hm hm'
  rcases hm.relaxed h with hagain | ⟨hkind, kind, name, reason, rfl⟩
  · obtain rfl : m = m' := eq_of_eq_ok ((member_eq_ok_iff hc).mpr hagain) ((member_eq_ok_iff hc).mpr hm')
    exact .same m
  · obtain ⟨hsuperclass, hprotocol⟩ := hm'.no_reference hkind
    exact .skipped hsuperclass hprotocol

theorem members_relaxed (h : p.Relaxes p') {ids : List CursorId} {members members' : List Member}
    (hm : ids.mapM (s.member p) = .ok members) (hm' : ids.mapM (s.member p') = .ok members') :
    List.Forall₂ Member.Keeps members members' := by
  rw [mapM_eq_ok_iff] at hm hm'
  induction hm generalizing members' with
  | nil =>
    cases hm'
    exact .nil
  | cons hfirst _ ih =>
    cases hm' with
    | cons hfirst' hrest' => exact .cons (member_relaxed h hfirst hfirst') (ih hrest')

/-- A class that is built under a policy is built under a relaxed one, with perhaps more members. -/
theorem interface_relaxed (hs : s.Sound) (h : p.Relaxes p') {id : CursorId} (hc : s.cursor id = .ok c)
    {i : Interface} {log : List Event} (hi : s.interface p c = .ok (.ok (i, log))) :
    ∃ i' log', s.interface p' c = .ok (.ok (i', log')) ∧ i.Within i' := by
  obtain ⟨hreason, members, hmembers, rfl, -⟩ := interface_eq_ok_iff.mp hi
  -- in a sound snapshot every child is something to the class, under whatever policy
  have htotal : Agree (c.children.mapM (s.member p')) (c.children.mapM (s.member p')) :=
    Agree.mapM fun child hchild =>
      (Renaming.refl s).member_agree hs hs p' ((hs.cursorAnswers hc).child child hchild)
  obtain ⟨members', hmembers', -⟩ := htotal
  refine ⟨_, _, interface_eq_ok_iff.mpr ⟨h.reason?_eq_none hreason, members', hmembers', rfl, rfl⟩, ?_⟩
  exact Interface.ofMembers_within (members_relaxed h hmembers hmembers') c _

/-! ## Catalogues -/

variable {o o' : Options}

/-- A class that is found is found under relaxed options. -/
theorem finding_relaxed (hs : s.Sound) (h : o.Relaxes o') {id : CursorId} {i : Interface} {log : List Event}
    (hi : s.finding o id = .ok (.interface i log)) :
    ∃ i' log', s.finding o' id = .ok (.interface i' log') ∧ i.Within i' := by
  obtain ⟨c, hc, hkind, hdefinition, hcovers, hbuilt⟩ := finding_eq_interface_iff.mp hi
  obtain ⟨i', log', hbuilt', hwithin⟩ := interface_relaxed hs h.policy hc hbuilt
  exact ⟨i', log', finding_eq_interface_iff.mpr ⟨c, hc, hkind, hdefinition, h.covers hcovers, hbuilt'⟩, hwithin⟩

/-- Every class of a catalogue leaves one of its name in that of relaxed options. -/
theorem exists_name_of_relaxed (h : o.Relaxes o') {catalog catalog' : Catalog} {log log' : List Event}
    (hextract : s.extract o = .ok (catalog, log)) (hextract' : s.extract o' = .ok (catalog', log')) :
    ∀ i ∈ catalog.interfaces, ∃ i' ∈ catalog'.interfaces, i'.name = i.name := by
  intro i hi
  obtain ⟨hvalid, found', hfound', rfl⟩ := findings_of_extract hextract'
  obtain ⟨root, hroot, id, hid, log, hfinding⟩ := exists_finding hextract hi
  obtain ⟨i', log', hfinding', hwithin⟩ := finding_relaxed (sound_of_validate hvalid) h hfinding
  obtain ⟨root', hroot', hfound'⟩ := findings_eq_ok_iff.mp hfound'
  obtain rfl : root = root' := eq_of_eq_ok hroot hroot'
  obtain ⟨finding, hmem, hsame⟩ := exists_mem_of_mapM hfound' hid
  obtain rfl : Finding.interface i' log' = finding := eq_of_eq_ok hfinding' hsame
  obtain ⟨first, hfirst, hname⟩ := Interface.exists_mem_firsts (mem_foundInterfaces.mpr ⟨log', hmem⟩)
  exact ⟨first, hfirst, hname.trans hwithin.name⟩

/-- **Relaxed options lose nothing.** Every name of the catalogue is a name of the relaxed one, and a class that any
cursor stands for becomes the same class with perhaps more properties and methods between those it has. -/
theorem extract_relaxed (hvalid : s.validate = .ok ()) (h : o.Relaxes o') :
    (∃ catalog log catalog' log', s.extract o = .ok (catalog, log) ∧ s.extract o' = .ok (catalog', log') ∧
      ∀ i ∈ catalog.interfaces, ∃ i' ∈ catalog'.interfaces, i'.name = i.name) ∧
    ∀ id c i log, s.cursor id = .ok c → s.interface o.policy c = .ok (.ok (i, log)) →
      ∃ i' log', s.interface o'.policy c = .ok (.ok (i', log')) ∧ i.Within i' := by
  refine ⟨?_, fun id c i log hc hi => interface_relaxed (sound_of_validate hvalid) h.policy hc hi⟩
  obtain ⟨catalog, log, hextract⟩ := exists_extract hvalid o
  obtain ⟨catalog', log', hextract'⟩ := exists_extract hvalid o'
  exact ⟨catalog, log, catalog', log', hextract, hextract', exists_name_of_relaxed h hextract hextract'⟩

/-- With deprecated declarations kept, the class gets back its second property behind the first. -/
theorem Example.extract_mixed_relaxed :
    (∃ catalog log catalog' log', mixed.extract .standard = .ok (catalog, log) ∧
      mixed.extract { Options.standard with keepDeprecated := true } = .ok (catalog', log') ∧
        ∀ i ∈ catalog.interfaces, ∃ i' ∈ catalog'.interfaces, i'.name = i.name) ∧
    ∀ id c i log, mixed.cursor id = .ok c → mixed.interface Options.standard.policy c = .ok (.ok (i, log)) →
      ∃ i' log', mixed.interface { Options.standard.policy with keepDeprecated := true } c = .ok (.ok (i', log')) ∧
        i.Within i' :=
  extract_relaxed rfl ⟨⟨rfl, rfl, fun h => nomatch h⟩, Or.inl rfl⟩

end Snapshot

end HeaderCatalog
