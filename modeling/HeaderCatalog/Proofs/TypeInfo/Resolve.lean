import HeaderCatalog.Proofs.Result
import HeaderCatalog.Proofs.Snapshot.Agreement
import HeaderCatalog.Proofs.Snapshot.Answers
import HeaderCatalog.TypeInfo.Resolve

/-!
# Unfolding types of an oracle that answers

The file of a type is asked for in three steps, each of which may end at nothing (`TypeOracle.DefinedIn`). An oracle is
*grounded* on a set of handles (`TypeOracle.Grounded`) when it answers every question about them with handles of the
set, and the parts of a type lie lower than the type. It *maps* to another oracle (`TypeOracle.Maps`) when the other
gives the same answers about the images of the handles. `resolve_agree`: if both are grounded, a type
and its image unfold alike, at any two depths beyond their heights. With one oracle and the identity this says that a
type unfolds, and that the depth does not matter.
-/

namespace HeaderCatalog

/-- A type is composed of another, as an oracle answers. -/
inductive TypeView.HasPart {τ : Type} (v : TypeView τ) (u : τ) : Prop
  | element : v.element? = some u → HasPart v u
  | pointee : v.pointee? = some u → HasPart v u
  | result : v.result? = some u → HasPart v u
  | argument (i : Nat) : v.argument? i = some u → HasPart v u

/-- The same answers in terms of other handles. -/
def TypeView.map {τ υ : Type} (g : τ → υ) (v : TypeView τ) : TypeView υ where
  spelling := v.spelling
  kind := v.kind
  canonical := g v.canonical
  nullability := v.nullability
  size := v.size
  align := v.align
  element? := v.element?.map g
  arraySize := v.arraySize
  pointee? := v.pointee?.map g
  result? := v.result?.map g
  argumentCount := v.argumentCount
  argument? := fun i => (v.argument? i).map g

theorem TypeView.map_id {τ : Type} (v : TypeView τ) : v.map id = v := by
  simp [TypeView.map]

namespace TypeOracle

variable {τ δ υ ε : Type} {o : TypeOracle τ δ} {o' : TypeOracle υ ε} {P : τ → Prop} {P' : υ → Prop}
  {height : τ → Nat} {height' : υ → Nat} {g : τ → υ} {t : τ} {file? : Option String}

/-! ## The file of a type -/

/-- The file in which a type is defined: that of the definition of its declaration, if there are both. -/
inductive DefinedIn (o : TypeOracle τ δ) (t : τ) : Option String → Prop
  | undeclared (hdeclaration : o.declaration? t = .ok none) : DefinedIn o t none
  | undefined {d : δ} (hdeclaration : o.declaration? t = .ok (some d)) (hdefinition : o.definition? d = .ok none) :
      DefinedIn o t none
  | defined {d e : δ} {file? : Option String} (hdeclaration : o.declaration? t = .ok (some d))
      (hdefinition : o.definition? d = .ok (some e)) (hfile : o.file? e = .ok file?) : DefinedIn o t file?

theorem definitionFile_eq_ok_iff : o.definitionFile t = .ok file? ↔ o.DefinedIn t file? := by
  unfold definitionFile
  constructor
  · intro h
    obtain ⟨declaration?, hdeclaration, h⟩ := exists_of_bind_eq_ok h
    cases declaration? with
    | none =>
      cases h
      exact .undeclared hdeclaration
    | some d =>
      obtain ⟨definition?, hdefinition, h⟩ := exists_of_bind_eq_ok h
      cases definition? with
      | none =>
        cases h
        exact .undefined hdeclaration hdefinition
      | some e => exact .defined hdeclaration hdefinition h
  · intro h
    cases h with
    | undeclared hdeclaration =>
      rw [hdeclaration]
      rfl
    | undefined hdeclaration hdefinition =>
      simp only [hdeclaration, ok_bind, hdefinition]
      rfl
    | defined hdeclaration hdefinition hfile =>
      simp only [hdeclaration, ok_bind, hdefinition]
      exact hfile

/-! ## Oracles that answer alike -/

/-- On a set of handles, every question is answered by handles of the set, and parts lie lower. -/
structure Grounded (o : TypeOracle τ δ) (P : τ → Prop) (height : τ → Nat) : Prop where
  view : ∀ t, P t → ∃ v, o.view t = .ok v ∧ P v.canonical ∧ ∀ u, v.HasPart u → P u ∧ height u < height t
  file : ∀ t, P t → ∃ file?, o.DefinedIn t file?

/-- On a set of handles, another oracle answers alike about their images. -/
structure Maps (o : TypeOracle τ δ) (o' : TypeOracle υ ε) (g : τ → υ) (P : τ → Prop) (P' : υ → Prop) : Prop where
  mem : ∀ t, P t → P' (g t)
  view : ∀ t v, P t → o.view t = .ok v → o'.view (g t) = .ok (v.map g)
  file : ∀ t file?, P t → o.DefinedIn t file? → o'.DefinedIn (g t) file?

/-- An oracle maps to itself. -/
theorem Maps.refl (o : TypeOracle τ δ) (P : τ → Prop) : o.Maps o id P P where
  mem _ h := h
  view _ v _ h := by rw [v.map_id]; exact h
  file _ _ _ h := h

/-- A part and its image both lie lower than the type and its image. -/
theorem lower_of_hasPart (hground : o.Grounded P height) (hground' : o'.Grounded P' height')
    (hmaps : o.Maps o' g P P') {u : τ} {v : TypeView τ} (ht : P t) (hv : o.view t = .ok v) (hu : v.HasPart u) :
    P u ∧ height u < height t ∧ height' (g u) < height' (g t) := by
  obtain ⟨w, hw, -, hlower⟩ := hground.view t ht
  obtain ⟨w', hw', -, hlower'⟩ := hground'.view (g t) (hmaps.mem t ht)
  obtain rfl : w = v := eq_of_eq_ok hw hv
  obtain rfl : w' = w.map g := eq_of_eq_ok hw' (hmaps.view t w ht hw)
  have himage : (w.map g).HasPart (g u) := by
    rcases hu with h | h | h | ⟨i, h⟩
    · exact .element (by simp [TypeView.map, h])
    · exact .pointee (by simp [TypeView.map, h])
    · exact .result (by simp [TypeView.map, h])
    · exact .argument i (by simp [TypeView.map, h])
  exact ⟨(hlower u hu).1, (hlower u hu).2, (hlower' _ himage).2⟩

/-- The kinds of canonical forms agree. -/
theorem canonicalKind_agree (hground : o.Grounded P height) (hmaps : o.Maps o' g P P') (ht : P t) :
    Agree (o.canonicalKind t) (o'.canonicalKind (g t)) := by
  obtain ⟨v, hv, hcanonical, -⟩ := hground.view t ht
  obtain ⟨w, hw, -, -⟩ := hground.view v.canonical hcanonical
  unfold canonicalKind
  rw [hv, hmaps.view t v ht hv]
  simp only [ok_bind, TypeView.map]
  rw [hw, hmaps.view v.canonical w hcanonical hw]
  exact Agree.ok w.kind

section Signature

variable {f : τ → Except Fault TypeInfo} {f' : υ → Except Fault TypeInfo}

theorem returnType?_agree (hground : o.Grounded P height) (hmaps : o.Maps o' g P P') {result? : Option τ}
    (hresult : ∀ u, result? = some u → P u ∧ Agree (f u) (f' (g u))) :
    Agree (o.returnType? f result?) (o'.returnType? f' (result?.map g)) := by
  cases result? with
  | none => exact Agree.ok none
  | some u =>
    obtain ⟨hu, hagree⟩ := hresult u rfl
    refine (canonicalKind_agree hground hmaps hu).bind fun kind => ?_
    cases isNoResult kind with
    | true => exact Agree.ok none
    | false => exact hagree.map some

theorem parameterType_agree {argument? : Option τ} (h : ∀ u, argument? = some u → Agree (f u) (f' (g u))) :
    Agree (parameterType f argument?) (parameterType f' (argument?.map g)) := by
  cases argument? with
  | none => exact Agree.ok TypeInfo.invalid
  | some u => exact h u rfl

/-- The signatures of a block agree, if its result and its arguments unfold alike. -/
theorem signature_agree (hground : o.Grounded P height) (hmaps : o.Maps o' g P P') (ht : P t)
    (hparts : ∀ v u, o.view t = .ok v → v.HasPart u → Agree (f u) (f' (g u))) :
    Agree (o.signature f t) (o'.signature f' (g t)) := by
  obtain ⟨v, hv, -, hlower⟩ := hground.view t ht
  unfold signature
  rw [hv, hmaps.view t v ht hv]
  simp only [ok_bind, TypeView.map]
  refine Agree.bind (returnType?_agree hground hmaps fun u hu => ?_) fun returnType? => ?_
  · exact ⟨(hlower u (.result hu)).1, hparts v u hv (.result hu)⟩
  · refine Agree.bind (Agree.mapM fun i _ => ?_) fun parameters => Agree.ok _
    exact parameterType_agree fun u hu => hparts v u hv (.argument i hu)

/-- So do the signatures that are only there for blocks. -/
theorem block?_agree (hground : o.Grounded P height) (hmaps : o.Maps o' g P P') (kind : String) {pointee? : Option τ}
    (hpointee : ∀ t, pointee? = some t → P t ∧ ∀ v u, o.view t = .ok v → v.HasPart u → Agree (f u) (f' (g u))) :
    Agree (o.block? f kind pointee?) (o'.block? f' kind (pointee?.map g)) := by
  cases pointee? with
  | none => exact Agree.ok none
  | some t =>
    obtain ⟨ht, hparts⟩ := hpointee t rfl
    unfold block?
    simp only [Option.map_some]
    cases kind == blockKind with
    | true => exact (signature_agree hground hmaps ht hparts).map some
    | false => exact Agree.ok none

end Signature

/-- A type and its image unfold alike, at any depths beyond their heights. -/
theorem resolve_agree (hground : o.Grounded P height) (hground' : o'.Grounded P' height')
    (hmaps : o.Maps o' g P P') :
    ∀ {depth depth' : Nat} {t : τ}, P t → height t < depth → height' (g t) < depth' →
      Agree (o.resolve depth t) (o'.resolve depth' (g t)) := by
  intro depth
  induction depth with
  | zero => intro _ _ _ h; omega
  | succ depth ih =>
    intro depth' t ht hdepth hdepth'
    cases depth' with
    | zero => omega
    | succ depth' =>
      obtain ⟨v, hv, hcanonical, -⟩ := hground.view t ht
      obtain ⟨w, hw, -, -⟩ := hground.view v.canonical hcanonical
      obtain ⟨file?, hfile⟩ := hground.file t ht
      have hpart : ∀ u, v.HasPart u → Agree (o.resolve depth u) (o'.resolve depth' (g u)) := fun u hu => by
        obtain ⟨hmem, hlt, hlt'⟩ := lower_of_hasPart hground hground' hmaps ht hv hu
        exact ih hmem (by omega) (by omega)
      -- a block's signature is unfolded without its pointee, so its parts lie two levels down
      have hsignature : ∀ p, v.pointee? = some p → P p ∧ ∀ v' u, o.view p = .ok v' → v'.HasPart u →
          Agree (o.resolve depth u) (o'.resolve depth' (g u)) := fun p hp => by
        obtain ⟨hmem, hlt, hlt'⟩ := lower_of_hasPart hground hground' hmaps ht hv (.pointee hp)
        refine ⟨hmem, fun v' u hv' hu => ?_⟩
        obtain ⟨hmem', hlt₂, hlt₂'⟩ := lower_of_hasPart hground hground' hmaps hmem hv' hu
        exact ih hmem' (by omega) (by omega)
      unfold resolve
      rw [hv, hmaps.view t v ht hv]
      simp only [ok_bind, TypeView.map]
      rw [hw, hmaps.view _ w hcanonical hw]
      simp only [ok_bind, TypeView.map]
      refine Agree.bind (block?_agree hground hmaps w.kind hsignature) fun block? => ?_
      refine Agree.bind (Agree.option fun u hu => hpart u (.element hu)) fun element? => ?_
      refine Agree.bind (Agree.option fun u hu => hpart u (.pointee hu)) fun pointee? => ?_
      rw [definitionFile_eq_ok_iff.mpr hfile, definitionFile_eq_ok_iff.mpr (hmaps.file t file? ht hfile)]
      exact Agree.ok _

end TypeOracle

namespace Snapshot

variable {s : Snapshot}

theorem typeOracle_view {id : TypeId} {t : TypeNode} (h : s.type id = .ok t) :
    s.typeOracle.view id = .ok (t.view id) := by
  show (do return (← s.type id).view id) = _
  rw [h]
  rfl

theorem typeOracle_declaration? {id : TypeId} {t : TypeNode} (h : s.type id = .ok t) :
    s.typeOracle.declaration? id = .ok t.declaration? := by
  show (do return (← s.type id).declaration?) = _
  rw [h]
  rfl

theorem typeOracle_definition? {id : CursorId} {c : CursorNode} (h : s.cursor id = .ok c) :
    s.typeOracle.definition? id = .ok (c.definedBy? id) := by
  show (do return (← s.cursor id).definedBy? id) = _
  rw [h]
  rfl

theorem typeOracle_file? {id : CursorId} {c : CursorNode} (h : s.cursor id = .ok c) :
    s.typeOracle.file? id = .ok c.file? := by
  show (do return (← s.cursor id).file?) = _
  rw [h]
  rfl

/-- A part of what a type answers is a part of the type. -/
theorem hasPart_of_view {t : TypeNode} {self u : TypeId} (h : (t.view self).HasPart u) : t.HasPart u := by
  rcases h with h | h | h | ⟨i, h⟩
  · exact .element h
  · exact .pointee h
  · exact .result h
  · exact TypeNode.hasPart_of_argument? h

/-- In a linked snapshot it is known of every type whether it is defined in a file. -/
theorem Linked.exists_definedIn (h : s.Linked) {id : TypeId} (hid : s.hasType id) :
    ∃ file?, s.typeOracle.DefinedIn id file? := by
  obtain ⟨t, ht⟩ := exists_type hid
  have hdeclaration := typeOracle_declaration? ht
  cases hdeclared : t.declaration? with
  | none => exact ⟨none, .undeclared (hdeclared ▸ hdeclaration)⟩
  | some d =>
    rw [hdeclared] at hdeclaration
    obtain ⟨c, hc⟩ := exists_cursor ((h.typeAnswers ht).declaration d hdeclared)
    have hdefinition := typeOracle_definition? hc
    cases hdefined : c.definedBy? d with
    | none => exact ⟨none, .undefined hdeclaration (hdefined ▸ hdefinition)⟩
    | some e =>
      rw [hdefined] at hdefinition
      obtain ⟨target, htarget⟩ := exists_cursor ((h.cursorAnswers hc).definedBy e hdefined)
      exact ⟨target.file?, .defined hdeclaration hdefinition (typeOracle_file? htarget)⟩

/-- The types of a sound snapshot are grounded: it answers every question about them, and parts lie lower. -/
theorem Sound.grounded (h : s.Sound) : s.typeOracle.Grounded (fun id => s.hasType id) s.partHeight where
  view id hid := by
    obtain ⟨t, ht⟩ := exists_type hid
    refine ⟨t.view id, typeOracle_view ht, (h.typeAnswers ht).canonical, fun u hu => ?_⟩
    have hpart := hasPart_of_view hu
    exact ⟨(h.types _ _ (type_eq_ok_iff.mp ht)).parts u hpart, h.partHeight_lt ht hpart⟩
  file _ hid := h.exists_definedIn hid

/-- Every type of a sound snapshot unfolds, and more depth than there are types makes no difference. -/
theorem Sound.exists_resolve (h : s.Sound) {id : TypeId} (hid : s.hasType id) :
    ∃ info, ∀ depth, s.types.size < depth → s.typeOracle.resolve depth id = .ok info := by
  have hheight := h.partHeight_lt_size hid
  have hagree : ∀ depth, s.types.size < depth →
      Agree (s.resolve id) (s.typeOracle.resolve depth id) := fun depth hdepth =>
    TypeOracle.resolve_agree h.grounded h.grounded (TypeOracle.Maps.refl _ _) hid (by omega)
      (show s.partHeight id < depth by omega)
  obtain ⟨info, hinfo, -⟩ := hagree (s.types.size + 1) (Nat.lt_succ_self _)
  refine ⟨info, fun depth hdepth => ?_⟩
  rw [← (hagree depth hdepth).eq, hinfo]

end Snapshot

end HeaderCatalog
