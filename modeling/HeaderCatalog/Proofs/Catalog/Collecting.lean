import HeaderCatalog.Proofs.Catalog.Splitting
import HeaderCatalog.Proofs.Catalog.Totality

/-!
# What a class collects from its children

A class goes through its children once and files each under what it is. What is picked from the answers about children
is built of those that qualify, in their order (`filterMap_answers`), so one of its lists has the children of one kind
without those that the gate leaves out (`filterMap_members`); of the superclasses the last one stands. A method takes as
many parameters as it reports arguments, and nothing is known of those that are only counted
(`takesArguments_of_method`).

* The gate alone decides whether a class, a property or a method comes of a cursor, and children of other kinds, the
  order among kinds and what lies below the children make no difference to a class (`interface_collects`).
-/

namespace HeaderCatalog

/-- What was built, if the gate let it pass. -/
def passed? {α : Type} : Except Fault (Except Reason α) → Option α
  | .ok (.ok a) => some a
  | _ => none

/-- Something was left out exactly for the gate's reason, and built exactly where the gate has none. -/
structure Policy.Decides {α : Type} (p : Policy) (c : CursorNode) (x : Except Fault (Except Reason α)) : Prop where
  leftOut : ∀ r, x = .ok (.error r) ↔ p.check c.availability = .unavailable r
  built : (∃ a, x = .ok (.ok a)) ↔ ∃ notes, p.check c.availability = .available notes

namespace Snapshot

variable {s : Snapshot} {p : Policy} {c : CursorNode}

/-! ## Children -/

/-- The children of a cursor, in their order. -/
def childNodes (s : Snapshot) (c : CursorNode) : List CursorNode := c.children.filterMap s.cursor?

/-- The children of one kind, in their order. -/
def childrenOf (s : Snapshot) (kind : CursorKind) (c : CursorNode) : List CursorNode :=
  (s.childNodes c).filter fun child => child.kind = kind

/-- The class that a reference names, in the file of that class, else that of the reference, else in none. -/
def referenceOf (s : Snapshot) (c : CursorNode) : ClassReference where
  name := c.spelling
  file := (((c.referenced?.bind s.cursor?).bind (·.file?)).or c.file?).getD ""

/-- What a class collects from the children of its cursor. -/
structure Collects (s : Snapshot) (p : Policy) (c : CursorNode) (i : Interface) : Prop where
  children : List.Forall₂ (fun id child => s.cursor? id = some child) c.children (s.childNodes c)
  superclass : i.superclass? = (s.childrenOf .superclassReference c).getLast?.map s.referenceOf
  protocols : i.protocols = (s.childrenOf .protocolReference c).map (·.spelling)
  properties : i.properties =
    (s.childrenOf .propertyDeclaration c).filterMap fun child => passed? (s.property p child)
  instanceMethods : i.instanceMethods =
    (s.childrenOf .instanceMethodDeclaration c).filterMap fun child => passed? (s.method p child)
  classMethods : i.classMethods =
    (s.childrenOf .classMethodDeclaration c).filterMap fun child => passed? (s.method p child)

/-- The parameters of a method are as many as its cursor reports arguments, each known from the argument at its place
if there is one. -/
structure TakesArguments (s : Snapshot) (c : CursorNode) (m : Method) : Prop where
  length : (m.parameters.length : Int) = max 0 c.argumentCount
  answered : ∀ (i : Nat) (a : CursorId) (d : Parameter), c.arguments[i]? = some a → m.parameters[i]? = some d →
    ∃ argument, s.cursor? a = some argument ∧ d.name = argument.spelling ∧
      s.resolveOrInvalid argument.type? = .ok d.type ∧ d.declarationText = argument.declarationText
  unanswered : ∀ (i : Nat) (d : Parameter), c.arguments[i]? = none → m.parameters[i]? = some d → d = ⟨"", .invalid, ""⟩

/-- The kinds of children that a class collects. -/
def collectedKinds : List CursorKind := .superclassReference :: .protocolReference :: gatedKinds

/-- Two cursors have the same children of every kind that is collected, up to what lies below the children. -/
def SameMembers (s : Snapshot) (c c' : CursorNode) : Prop :=
  ∀ kind ∈ collectedKinds,
    (s.childrenOf kind c).map (·.withChildren []) = (s.childrenOf kind c').map (·.withChildren [])

instance (s : Snapshot) (c c' : CursorNode) : Decidable (s.SameMembers c c') :=
  inferInstanceAs (Decidable (∀ kind ∈ collectedKinds, _))

theorem cursor?_of_cursor {id : CursorId} (h : s.cursor id = .ok c) : s.cursor? id = some c :=
  cursor_eq_ok_iff.mp h

/-- All children of a cursor that answers with cursors stand among its children. -/
theorem forall₂_childNodes (h : ∀ id ∈ c.children, s.hasCursor id) :
    List.Forall₂ (fun id child => s.cursor? id = some child) c.children (s.childNodes c) := by
  unfold childNodes
  generalize c.children = ids at h ⊢
  induction ids with
  | nil => exact .nil
  | cons id ids ih =>
    obtain ⟨child, hchild⟩ := exists_cursor (h id List.mem_cons_self)
    have hsome : s.cursor? id = some child := cursor?_of_cursor hchild
    rw [List.filterMap_cons_some hsome]
    exact .cons hsome (ih fun id' hid' => h id' (List.mem_cons_of_mem _ hid'))

/-- What is picked from the answers about the children is what is built of those children that qualify. -/
theorem filterMap_answers {α β : Type} {ask : CursorId → Except Fault β} {pick : β → Option α} {q : CursorNode → Bool}
    {build : CursorNode → Option α} {answers : List β}
    (hpick : ∀ id b, ask id = .ok b →
      ∃ child, s.cursor? id = some child ∧ ∀ a, pick b = some a ↔ q child = true ∧ build child = some a)
    (h : c.children.mapM ask = .ok answers) :
    answers.filterMap pick = ((s.childNodes c).filter q).filterMap build := by
  unfold childNodes
  rw [mapM_eq_ok_iff] at h
  generalize c.children = ids at h ⊢
  induction h with
  | nil => rfl
  | @cons id b ids answers hb _ ih =>
    obtain ⟨child, hchild, hiff⟩ := hpick id b hb
    rw [List.filterMap_cons_some hchild]
    by_cases hq : q child = true
    · have hbuild : pick b = build child := Option.ext fun a => by rw [hiff a, and_iff_right hq]
      rw [List.filter_cons_of_pos hq, List.filterMap_cons, List.filterMap_cons, hbuild, ih]
    · have hnone : pick b = none := Option.eq_none_iff_forall_ne_some.mpr fun a ha => hq ((hiff a).mp ha).1
      rw [List.filter_cons_of_neg hq, List.filterMap_cons_none hnone, ih]

/-! ## The gate -/

theorem decides_gated {α : Type} {build : List PlatformNote → Except Fault α}
    (h : ∃ x, gated p c build = .ok x) : p.Decides c (gated p c build) := by
  obtain ⟨x, hx⟩ := h
  unfold gated at hx ⊢
  cases hcheck : p.check c.availability with
  | unavailable reason => exact ⟨fun r => by simp [hcheck], by simp [hcheck]⟩
  | available notes =>
    rw [hcheck] at hx
    obtain ⟨a, ha, -⟩ := exists_of_bind_eq_ok hx
    refine ⟨fun r => ?_, ?_⟩
    · simp only [ha, ok_bind, hcheck, reduceCtorEq, iff_false]
      intro h
      cases h
    · simp only [ha, ok_bind, hcheck]
      exact ⟨fun _ => ⟨notes, rfl⟩, fun _ => ⟨a, rfl⟩⟩

/-- The gate decides whether a class comes of a cursor of a sound snapshot. -/
theorem Sound.decides_interface (h : s.Sound) {id : CursorId} (hc : s.cursor id = .ok c) (p : Policy) :
    p.Decides c (s.interface p c) := by
  obtain ⟨x, hx, -⟩ := (Renaming.refl s).interface_agree h h p hc
  exact decides_gated ⟨x, hx⟩

/-- What passed was built. -/
theorem passed?_eq_some_iff {α : Type} {x : Except Fault (Except Reason α)} {a : α} :
    passed? x = some a ↔ x = .ok (.ok a) := by
  constructor
  · intro h
    match x, h with
    | .ok (.ok b), h => rw [Option.some.inj h]
  · rintro rfl
    rfl

/-! ## Members -/

namespace MemberOf

variable {id : CursorId} {m m' : Member} (hc : s.cursor id = .ok c) (h : s.MemberOf p c m)

include hc h

/-- A child is one thing to its class. -/
theorem unique (h' : s.MemberOf p c m') : m = m' :=
  eq_of_eq_ok (member_of_memberOf hc h) (member_of_memberOf hc h')

/-- A declaration is picked from a member exactly if it was built from a child of the kind that becomes one. -/
theorem picked_iff {α : Type} {pick : Member → Option α} {wrap : α → Member} {kind : CursorKind}
    {built : Except Fault (Except Reason α)} (hof : ∀ {a}, pick m = some a → c.kind = kind ∧ built = .ok (.ok a))
    (hwrap : ∀ {a}, c.kind = kind → built = .ok (.ok a) → s.MemberOf p c (wrap a)) (hpick : ∀ a, pick (wrap a) = some a)
    (a : α) : pick m = some a ↔ c.kind = kind ∧ passed? built = some a := by
  rw [passed?_eq_some_iff]
  constructor
  · exact hof
  · rintro ⟨hkind, hbuilt⟩
    rw [unique hc h (hwrap hkind hbuilt), hpick]

theorem protocol?_eq_some_iff {name : String} : m.protocol? = some name ↔
    c.kind = .protocolReference ∧ some c.spelling = some name := by
  constructor
  · intro hname
    cases h with
    | protocol hkind => exact ⟨hkind, hname⟩
    | _ => cases hname
  · rintro ⟨hkind, hname⟩
    rw [unique hc h (.protocol hkind)]
    exact hname

end MemberOf

/-- A reference is built from what it refers to. -/
theorem classReference_eq {r : ClassReference} (h : s.classReference c = .ok r) : r = s.referenceOf c := by
  obtain ⟨file?, hfile, h⟩ := exists_of_bind_eq_ok h
  cases h
  cases hreferenced : c.referenced? with
  | none =>
    rw [hreferenced] at hfile
    cases hfile
    simp [referenceOf, hreferenced]
  | some id =>
    rw [hreferenced] at hfile
    obtain ⟨target, htarget, hfile⟩ := exists_of_bind_eq_ok hfile
    cases hfile
    simp [referenceOf, hreferenced, cursor?_of_cursor htarget]

theorem MemberOf.superclass?_eq_some_iff {m : Member} (h : s.MemberOf p c m) {r : ClassReference} :
    m.superclass? = some r ↔ c.kind = .superclassReference ∧ some (s.referenceOf c) = some r := by
  constructor
  · intro hr
    cases h with
    | superclass hkind hbuilt =>
      rw [← classReference_eq hbuilt]
      exact ⟨hkind, hr⟩
    | _ => cases hr
  · rintro ⟨hkind, hr⟩
    cases h with
    | superclass _ hbuilt =>
      rw [← hr, ← classReference_eq hbuilt]
      rfl
    | protocol hkind' | property hkind' | instanceMethod hkind' | classMethod hkind' =>
      rw [hkind] at hkind'
      cases hkind'
    | skipped hkind' | unrelated hkind' => simp [hkind, gatedKinds] at hkind'

/-- What is picked from the members of a class is what is built of the children of one kind. -/
theorem filterMap_members {α : Type} {pick : Member → Option α} {kind : CursorKind} {build : CursorNode → Option α}
    (hpick : ∀ id child m, s.cursor id = .ok child → s.MemberOf p child m →
      ∀ a, pick m = some a ↔ child.kind = kind ∧ build child = some a)
    {members : List Member} (h : c.children.mapM (s.member p) = .ok members) :
    members.filterMap pick = (s.childrenOf kind c).filterMap build := by
  refine filterMap_answers (fun id m hm => ?_) h
  obtain ⟨child, hchild, -⟩ := exists_of_bind_eq_ok hm
  refine ⟨child, cursor?_of_cursor hchild, fun a => ?_⟩
  rw [hpick id child m hchild (memberOf_of_member hchild hm), decide_eq_true_iff]

/-! ## Classes and methods -/

/-- A class that was built collects from the children of its cursor. -/
theorem collects_of_interface {i : Interface} {log : List Event} (hchildren : ∀ id ∈ c.children, s.hasCursor id)
    (h : s.interface p c = .ok (.ok (i, log))) : s.Collects p c i := by
  obtain ⟨-, members, hmembers, rfl, -⟩ := interface_eq_ok_iff.mp h
  have hsuperclass : members.filterMap Member.superclass? =
      (s.childrenOf .superclassReference c).map s.referenceOf := by
    rw [filterMap_members (fun id child m _ hm r => hm.superclass?_eq_some_iff) hmembers, ← List.filterMap_eq_map]
    rfl
  have hprotocols : members.filterMap Member.protocol? = (s.childrenOf .protocolReference c).map (·.spelling) := by
    rw [filterMap_members (fun id child m hc hm name => hm.protocol?_eq_some_iff hc) hmembers, ← List.filterMap_eq_map]
    rfl
  exact {
    children := forall₂_childNodes hchildren
    superclass := by
      show (members.filterMap Member.superclass?).getLast? = _
      rw [hsuperclass, List.getLast?_map]
    protocols := hprotocols
    properties := filterMap_members
      (fun id child m hc hm => hm.picked_iff hc hm.of_property? .property fun _ => rfl) hmembers
    instanceMethods := filterMap_members
      (fun id child m hc hm => hm.picked_iff hc hm.of_instanceMethod? .instanceMethod fun _ => rfl) hmembers
    classMethods := filterMap_members
      (fun id child m hc hm => hm.picked_iff hc hm.of_classMethod? .classMethod fun _ => rfl) hmembers }

/-- A method that was built takes the arguments of its cursor. -/
theorem takesArguments_of_method {m : Method} (h : s.method p c = .ok (.ok m)) : s.TakesArguments c m := by
  obtain ⟨-, h⟩ := gated_eq_ok_iff.mp h
  obtain ⟨parameters, hparameters, h⟩ := exists_of_bind_eq_ok h
  obtain ⟨result, -, h⟩ := exists_of_bind_eq_ok h
  cases h
  obtain ⟨hlength, hparts⟩ := forall₂_range_iff.mp (mapM_eq_ok_iff.mp hparameters)
  refine ⟨?_, fun i a d ha hd => ?_, fun i d ha hd => ?_⟩
  · show (parameters.length : Int) = max 0 c.argumentCount
    omega
  · have hd := hparts i d hd
    rw [ha] at hd
    obtain ⟨argument, hargument, hd⟩ := exists_of_bind_eq_ok hd
    obtain ⟨type, htype, hd⟩ := exists_of_bind_eq_ok hd
    cases hd
    exact ⟨argument, cursor?_of_cursor hargument, rfl, htype, rfl⟩
  · have hd := hparts i d hd
    rw [ha] at hd
    exact (Except.ok.inj hd).symm

/-- The children of one kind, of two cursors with the same members, are built alike. -/
theorem SameMembers.map_eq {c' : CursorNode} (h : s.SameMembers c c') {kind : CursorKind}
    (hkind : kind ∈ collectedKinds) {α : Type} {f : CursorNode → α} (hf : ∀ child, f (child.withChildren []) = f child) :
    (s.childrenOf kind c).map f = (s.childrenOf kind c').map f := by
  have hbare : ∀ children : List CursorNode, children.map f = (children.map (·.withChildren [])).map f := by
    intro children
    rw [List.map_map]
    exact List.map_congr_left fun child _ => (hf child).symm
  rw [hbare, h kind hkind, ← hbare]

/-- Cursors with the same members give classes with the same lists. -/
theorem Collects.lists_eq {c' : CursorNode} {i i' : Interface} (h : s.Collects p c i) (h' : s.Collects p c' i')
    (hsame : s.SameMembers c c') : i.superclass? = i'.superclass? ∧ i.protocols = i'.protocols ∧
      i.properties = i'.properties ∧ i.instanceMethods = i'.instanceMethods ∧ i.classMethods = i'.classMethods := by
  have hpassed : ∀ {α : Type} {kind : CursorKind} {f : CursorNode → Option α}, kind ∈ collectedKinds →
      (∀ child, f (child.withChildren []) = f child) →
        (s.childrenOf kind c).filterMap f = (s.childrenOf kind c').filterMap f := by
    intro α kind f hkind hf
    have hmap := congrArg (List.filterMap id) (hsame.map_eq hkind hf)
    rwa [List.filterMap_map, List.filterMap_map] at hmap
  refine ⟨?_, ?_, ?_, ?_, ?_⟩
  · rw [h.superclass, h'.superclass, ← List.getLast?_map, ← List.getLast?_map]
    exact congrArg List.getLast? (hsame.map_eq (by decide) fun _ => rfl)
  · rw [h.protocols, h'.protocols]
    exact hsame.map_eq (by decide) fun _ => rfl
  · rw [h.properties, h'.properties]
    exact hpassed (by decide) fun _ => rfl
  · rw [h.instanceMethods, h'.instanceMethods]
    exact hpassed (by decide) fun _ => rfl
  · rw [h.classMethods, h'.classMethods]
    exact hpassed (by decide) fun _ => rfl

/-- **A class collects its children by kind.** Of a cursor in a snapshot that passes the check a class, a property or a
method comes exactly where the gate has no reason against it. The lists of a class are those of the children of each
kind, in their order, built where the gate lets them pass; its superclass is the last that is named. A method has a
parameter for each argument that is reported. Two cursors with the same children of each kind give classes with the
same lists, whatever the order among kinds, the other children, and what lies below them. -/
theorem interface_collects (hvalid : s.validate = .ok ()) (p : Policy) {id : CursorId} (hc : s.cursor? id = some c) :
    (p.Decides c (s.interface p c) ∧ p.Decides c (s.property p c) ∧ p.Decides c (s.method p c)) ∧
      (∀ i log, s.interface p c = .ok (.ok (i, log)) → s.Collects p c i) ∧
        (∀ m, s.method p c = .ok (.ok m) → s.TakesArguments c m) ∧
          ∀ id' c' i log i' log', s.cursor? id' = some c' → s.SameMembers c c' →
            s.interface p c = .ok (.ok (i, log)) → s.interface p c' = .ok (.ok (i', log')) →
              i.superclass? = i'.superclass? ∧ i.protocols = i'.protocols ∧ i.properties = i'.properties ∧
                i.instanceMethods = i'.instanceMethods ∧ i.classMethods = i'.classMethods := by
  have hsound := sound_of_validate hvalid
  have hcursor : s.cursor id = .ok c := cursor_eq_ok_iff.mpr hc
  have hcollects : ∀ {id c i log}, s.cursor? id = some c → s.interface p c = .ok (.ok (i, log)) →
      s.Collects p c i := fun hc hi =>
    collects_of_interface (hsound.cursorAnswers (cursor_eq_ok_iff.mpr hc)).child hi
  refine ⟨⟨hsound.decides_interface hcursor p, ?_, ?_⟩, fun i log hi => hcollects hc hi,
    fun m hm => takesArguments_of_method hm, ?_⟩
  · obtain ⟨x, hx, -⟩ := (Renaming.refl s).property_agree hsound hsound p hcursor
    exact decides_gated ⟨x, hx⟩
  · obtain ⟨x, hx, -⟩ := (Renaming.refl s).method_agree hsound hsound p hcursor
    exact decides_gated ⟨x, hx⟩
  · intro id' c' i log i' log' hc' hsame hi hi'
    exact (hcollects hc hi).lists_eq (hcollects hc' hi') hsame

namespace Example

/-- Two classes with the same members, one of them deprecated, in another order and among others. -/
def shuffled : Snapshot where
  root := .ofNat 0
  cursors := #[
    { CursorNode.blank .translationUnit "" with children := [.ofNat 1, .ofNat 2] },
    { CursorNode.blank .interfaceDeclaration "A" with
      children := [.ofNat 3, .ofNat 4, .ofNat 5, .ofNat 6, .ofNat 7] },
    { CursorNode.blank .interfaceDeclaration "B" with
      children := [.ofNat 8, .ofNat 6, .ofNat 3, .ofNat 5, .ofNat 7, .ofNat 4] },
    .blank .propertyDeclaration "p",
    { CursorNode.blank .instanceMethodDeclaration "m:n:" with
      arguments := [.ofNat 8], argumentCount? := some 2 },
    { CursorNode.blank .propertyDeclaration "q" with
      availability := { Availability.blank with alwaysDeprecated := true } },
    { CursorNode.blank .superclassReference "R" with file? := some "R.h" },
    .blank .protocolReference "P",
    .blank .parameterDeclaration "x"]
  types := #[]

/-- The gate leaves out one property of both classes, and their method has two parameters, of which one is known. -/
theorem shuffled_collects : ∃ a b n i log i' log' m,
    shuffled.cursor? (.ofNat 1) = some a ∧ shuffled.cursor? (.ofNat 2) = some b ∧
      shuffled.cursor? (.ofNat 4) = some n ∧
        shuffled.interface Options.standard.policy a = .ok (.ok (i, log)) ∧
          shuffled.interface Options.standard.policy b = .ok (.ok (i', log')) ∧
            shuffled.method Options.standard.policy n = .ok (.ok m) ∧
              shuffled.Collects Options.standard.policy a i ∧ shuffled.TakesArguments n m ∧
                i.superclass? = i'.superclass? ∧ i.properties = i'.properties ∧
                  i.instanceMethods = i'.instanceMethods := by
  have hvalid : shuffled.validate = .ok () := rfl
  have hclass : shuffled.cursor? (.ofNat 1) = some _ := rfl
  have hnode : shuffled.cursor? (.ofNat 4) = some _ := rfl
  obtain ⟨-, hcollects, -, hsame⟩ := interface_collects hvalid Options.standard.policy hclass
  obtain ⟨-, -, hmethod, -⟩ := interface_collects hvalid Options.standard.policy hnode
  obtain ⟨hsuperclass, -, hproperties, hmethods, -⟩ := hsame (.ofNat 2) _ _ _ _ _ rfl (by decide) rfl rfl
  exact ⟨_, _, _, _, _, _, _, _, rfl, rfl, rfl, rfl, rfl, rfl, hcollects _ _ rfl, hmethod _ rfl, hsuperclass,
    hproperties, hmethods⟩

end Example

end Snapshot

end HeaderCatalog
