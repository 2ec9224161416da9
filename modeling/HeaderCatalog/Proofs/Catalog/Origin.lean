import HeaderCatalog.Catalog.Extract
import HeaderCatalog.Proofs.Catalog.Firsts
import HeaderCatalog.Proofs.Result
import HeaderCatalog.Proofs.Snapshot.Agreement

/-!
# Where declarations come from

Every declaration of a catalogue is what some cursor was built into. Read backwards, the way leads from the catalogue
to a finding (`exists_finding`), from the finding to the class at a child of the root
(`finding_eq_interface_iff`), from the class to its members (`interface_eq_ok_iff`), and from a member to the cursor
that it stands for (`member_eq_ok_iff`). Each step but the first says all that the step of the extraction does.
-/

namespace HeaderCatalog

namespace Snapshot

variable {s : Snapshot} {p : Policy} {c : CursorNode}

/-- A declaration is built exactly where the gate has no reason against it. -/
theorem gated_eq_ok_iff {α : Type} {build : List PlatformNote → Except Fault α} {a : α} :
    gated p c build = .ok (.ok a) ↔ p.reason? c.availability = none ∧ build c.availability.notes = .ok a := by
  unfold gated Policy.check
  cases p.reason? c.availability with
  | some reason => simp
  | none =>
    constructor
    · intro h
      obtain ⟨b, hb, h⟩ := exists_of_bind_eq_ok h
      cases h
      exact ⟨rfl, hb⟩
    · rintro ⟨-, hbuild⟩
      simp only [hbuild]
      rfl

/-- It is left out exactly where the gate has a reason. -/
theorem gated_eq_error_iff {α : Type} {build : List PlatformNote → Except Fault α} {reason : Reason} :
    gated p c build = .ok (.error reason) ↔ p.reason? c.availability = some reason := by
  unfold gated Policy.check
  cases p.reason? c.availability with
  | some reason => simp
  | none =>
    constructor
    · intro h
      obtain ⟨b, -, h⟩ := exists_of_bind_eq_ok h
      cases h
    · intro h
      cases h

/-! ## Members of a class -/

/-- The kinds of cursors that are members with a gate of their own. -/
def gatedKinds : List CursorKind := [.propertyDeclaration, .instanceMethodDeclaration, .classMethodDeclaration]

/-- What a cursor is to the class whose child it is. -/
inductive MemberOf (s : Snapshot) (p : Policy) (c : CursorNode) : Member → Prop
  | superclass {r : ClassReference} (hkind : c.kind = .superclassReference) (hbuilt : s.classReference c = .ok r) :
      MemberOf s p c (.superclass r)
  | protocol (hkind : c.kind = .protocolReference) : MemberOf s p c (.protocol c.spelling)
  | property {d : Property} (hkind : c.kind = .propertyDeclaration) (hbuilt : s.property p c = .ok (.ok d)) :
      MemberOf s p c (.property d)
  | instanceMethod {m : Method} (hkind : c.kind = .instanceMethodDeclaration) (hbuilt : s.method p c = .ok (.ok m)) :
      MemberOf s p c (.instanceMethod m)
  | classMethod {m : Method} (hkind : c.kind = .classMethodDeclaration) (hbuilt : s.method p c = .ok (.ok m)) :
      MemberOf s p c (.classMethod m)
  | skipped {reason : Reason} (hkind : c.kind ∈ gatedKinds) (hreason : p.reason? c.availability = some reason) :
      MemberOf s p c (.skipped c.kind c.spelling reason)
  | unrelated (hkind : c.kind ∉ .superclassReference :: .protocolReference :: gatedKinds) : MemberOf s p c .unrelated

/-- What comes of a member behind the gate: the declaration, or the trace of one that was left out. -/
theorem MemberOf.ofGate {α : Type} {wrap : α → Member} {result : Except Reason α} (hkind : c.kind ∈ gatedKinds)
    (hok : ∀ a, result = .ok a → MemberOf s p c (wrap a))
    (herror : ∀ reason, result = .error reason → p.reason? c.availability = some reason) :
    MemberOf s p c (.ofGate c wrap result) := by
  cases result with
  | ok a => exact hok a rfl
  | error reason => exact .skipped hkind (herror reason rfl)

theorem memberOf_of_member {id : CursorId} {m : Member} (hc : s.cursor id = .ok c) (h : s.member p id = .ok m) :
    s.MemberOf p c m := by
  obtain ⟨c', hc', h⟩ := exists_of_bind_eq_ok h
  obtain rfl : c = c' := eq_of_eq_ok hc hc'
  cases hkind : c.kind <;> rw [hkind] at h
  case superclassReference =>
    obtain ⟨r, hr, h⟩ := exists_of_bind_eq_ok h
    cases h
    exact .superclass hkind hr
  case protocolReference =>
    cases h
    exact .protocol hkind
  case propertyDeclaration =>
    obtain ⟨result, hresult, h⟩ := exists_of_bind_eq_ok h
    cases h
    exact .ofGate (by simp [hkind, gatedKinds]) (fun d hd => .property hkind (hd ▸ hresult)) fun reason hreason =>
      gated_eq_error_iff.mp (hreason ▸ hresult)
  case instanceMethodDeclaration =>
    obtain ⟨result, hresult, h⟩ := exists_of_bind_eq_ok h
    cases h
    exact .ofGate (by simp [hkind, gatedKinds]) (fun m hm => .instanceMethod hkind (hm ▸ hresult))
      fun reason hreason => gated_eq_error_iff.mp (hreason ▸ hresult)
  case classMethodDeclaration =>
    obtain ⟨result, hresult, h⟩ := exists_of_bind_eq_ok h
    cases h
    exact .ofGate (by simp [hkind, gatedKinds]) (fun m hm => .classMethod hkind (hm ▸ hresult))
      fun reason hreason => gated_eq_error_iff.mp (hreason ▸ hresult)
  all_goals
    cases h
    exact .unrelated (by simp [hkind, gatedKinds])

theorem member_of_memberOf {id : CursorId} {m : Member} (hc : s.cursor id = .ok c) (h : s.MemberOf p c m) :
    s.member p id = .ok m := by
  unfold member
  rw [hc, ok_bind]
  cases h with
  | superclass hkind hbuilt | property hkind hbuilt | instanceMethod hkind hbuilt | classMethod hkind hbuilt =>
    simp only [hkind, hbuilt]
    rfl
  | protocol hkind =>
    simp only [hkind]
    rfl
  | skipped hkind hreason =>
    simp only [gatedKinds, List.mem_cons, List.not_mem_nil, or_false] at hkind
    have hproperty : s.property p c = .ok (.error _) := gated_eq_error_iff.mpr hreason
    have hmethod : s.method p c = .ok (.error _) := gated_eq_error_iff.mpr hreason
    rcases hkind with hkind | hkind | hkind <;> simp only [hkind, hproperty, hmethod, ok_bind, Member.ofGate] <;> rfl
  | unrelated hkind =>
    simp only [gatedKinds, List.mem_cons, List.not_mem_nil, or_false, not_or] at hkind
    split
    case h_6 => rfl
    all_goals simp_all

/-- A child of a class is to it what its cursor makes of it, and nothing else. -/
theorem member_eq_ok_iff {id : CursorId} {m : Member} (hc : s.cursor id = .ok c) :
    s.member p id = .ok m ↔ s.MemberOf p c m :=
  ⟨memberOf_of_member hc, member_of_memberOf hc⟩

namespace MemberOf

variable {m : Member} (h : s.MemberOf p c m)

include h

theorem of_property? {d : Property} (hd : m.property? = some d) :
    c.kind = .propertyDeclaration ∧ s.property p c = .ok (.ok d) := by
  cases h with
  | property hkind hbuilt =>
    cases hd
    exact ⟨hkind, hbuilt⟩
  | _ => cases hd

theorem of_instanceMethod? {d : Method} (hd : m.instanceMethod? = some d) :
    c.kind = .instanceMethodDeclaration ∧ s.method p c = .ok (.ok d) := by
  cases h with
  | instanceMethod hkind hbuilt =>
    cases hd
    exact ⟨hkind, hbuilt⟩
  | _ => cases hd

theorem of_classMethod? {d : Method} (hd : m.classMethod? = some d) :
    c.kind = .classMethodDeclaration ∧ s.method p c = .ok (.ok d) := by
  cases h with
  | classMethod hkind hbuilt =>
    cases hd
    exact ⟨hkind, hbuilt⟩
  | _ => cases hd

end MemberOf

/-! ## Classes -/

/-- A class is built of its members where the gate has no reason against it. -/
theorem interface_eq_ok_iff {i : Interface} {log : List Event} :
    s.interface p c = .ok (.ok (i, log)) ↔ p.reason? c.availability = none ∧
      ∃ members, c.children.mapM (s.member p) = .ok members ∧
        i = Interface.ofMembers c c.availability.notes members ∧
          log = memberLog c.spelling none members ++ [i.event] := by
  refine gated_eq_ok_iff.trans (and_congr_right fun _ => ?_)
  constructor
  · intro h
    obtain ⟨members, hmembers, h⟩ := exists_of_bind_eq_ok h
    cases h
    exact ⟨members, hmembers, rfl, rfl⟩
  · rintro ⟨members, hmembers, rfl, rfl⟩
    rw [hmembers]
    rfl

/-! ## Findings -/

variable {o : Options}

/-- A child of the root is a class where its cursor says so, within the framework, and the gate lets it pass. -/
theorem finding_eq_interface_iff {id : CursorId} {i : Interface} {log : List Event} :
    s.finding o id = .ok (.interface i log) ↔ ∃ c, s.cursor id = .ok c ∧ c.kind = .interfaceDeclaration ∧
      c.isDefinition = true ∧ o.covers c.file? = true ∧ s.interface o.policy c = .ok (.ok (i, log)) := by
  constructor
  · intro h
    obtain ⟨c, hc, h⟩ := exists_of_bind_eq_ok h
    refine ⟨c, hc, ?_⟩
    split at h
    · cases h
    rename_i hkind
    split at h
    · cases h
    rename_i hdefinition
    split at h
    · cases h
    rename_i hcovers
    obtain ⟨result, hresult, h⟩ := exists_of_bind_eq_ok h
    cases result with
    | error reason => cases h
    | ok found =>
      cases h
      exact ⟨by simpa using hkind, by simpa using hdefinition, by simpa using hcovers, hresult⟩
  · rintro ⟨c, hc, hkind, hdefinition, hcovers, hresult⟩
    unfold finding
    rw [hc, ok_bind]
    simp only [hkind, hdefinition, hcovers, hresult, ne_eq, not_true_eq_false, Bool.not_true, Bool.false_eq_true,
      if_false, ok_bind]
    rfl

theorem findings_eq_ok_iff {found : List Finding} :
    s.findings o = .ok found ↔ ∃ c, s.cursor s.root = .ok c ∧ c.children.mapM (s.finding o) = .ok found := by
  constructor
  · exact exists_of_bind_eq_ok
  · rintro ⟨c, hc, hfound⟩
    unfold findings
    rw [hc, ok_bind, hfound]

/-! ## Catalogues -/

theorem mem_foundInterfaces {found : List Finding} {i : Interface} :
    i ∈ foundInterfaces found ↔ ∃ log, Finding.interface i log ∈ found := by
  unfold foundInterfaces
  rw [List.mem_filterMap]
  constructor
  · rintro ⟨finding, hmem, hi⟩
    cases finding with
    | interface j log =>
      cases hi
      exact ⟨log, hmem⟩
    | _ => cases hi
  · rintro ⟨log, hmem⟩
    exact ⟨_, hmem, rfl⟩

/-- A catalogue is that of the findings of a snapshot that passed the check. -/
theorem findings_of_extract {catalog : Catalog} {log : List Event} (h : s.extract o = .ok (catalog, log)) :
    s.validate = .ok () ∧ ∃ found, s.findings o = .ok found ∧ catalog = .ofFindings o found := by
  obtain ⟨_, hvalid, h⟩ := exists_of_bind_eq_ok h
  refine ⟨hvalid, ?_⟩
  split at h
  · cases h
  · rename_i found hfound
    cases h
    exact ⟨found, hfound, rfl⟩

/-- Every class of a catalogue was found at a child of the root. -/
theorem exists_finding {catalog : Catalog} {log : List Event} (h : s.extract o = .ok (catalog, log)) {i : Interface}
    (hi : i ∈ catalog.interfaces) :
    ∃ root, s.cursor s.root = .ok root ∧ ∃ id ∈ root.children, ∃ log, s.finding o id = .ok (.interface i log) := by
  obtain ⟨-, found, hfound, rfl⟩ := findings_of_extract h
  obtain ⟨root, hroot, hfound⟩ := findings_eq_ok_iff.mp hfound
  obtain ⟨log, hlog⟩ := mem_foundInterfaces.mp (Interface.mem_of_mem_firsts hi)
  obtain ⟨id, hid, hfinding⟩ := exists_of_mem_mapM hfound hlog
  exact ⟨root, hroot, id, hid, log, hfinding⟩

end Snapshot

end HeaderCatalog
