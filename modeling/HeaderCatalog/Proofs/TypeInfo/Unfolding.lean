import HeaderCatalog.Proofs.TypeInfo.Level

/-!
# A resolved type is the unfolding of its handle

`TypeOracle.resolve` gives a type if enough levels are allowed, and then always the same (`ResolvesIn.mono`): the
unfolding of the handle (`TypeOracle.Unfolds`). Its parts are unfoldings again (`Unfolds.writtenOut`), so by induction
it has at the end of a path the unfolding of the handle that the oracle leads to (`exists_at?_of_reaches`,
`exists_reaches_of_at?`). What is founded unfolds, as no steps go on forever (`Founded.exists_unfolds`).

* Every type of a founded oracle, and every type of a snapshot that passes the check, is written out as what the
  oracle leads to along its paths (`resolve_mirrors`).
-/

namespace HeaderCatalog

namespace TypeOracle

variable {τ δ : Type} {o : TypeOracle τ δ} {P : τ → Prop} {t : τ} {t? u? : Option τ} {v c w : TypeView τ}
  {path : List TypeStep} {info part : TypeInfo} {depth : Nat}

/-! ## Enough levels -/

theorem ResolvesIn.succ (h : o.ResolvesIn depth t info) : o.ResolvesIn (depth + 1) t info := by
  induction depth generalizing t info with
  | zero => cases h
  | succ depth ih =>
    obtain ⟨v, c, hout⟩ := resolve_succ_eq_ok_iff.mp h
    exact resolve_succ_eq_ok_iff.mpr ⟨v, c, hout.mono fun _ _ => ih⟩

/-- More levels than enough make no difference. -/
theorem ResolvesIn.mono {depth' : Nat} (h : o.ResolvesIn depth t info) (hle : depth ≤ depth') :
    o.ResolvesIn depth' t info := by
  induction hle with
  | refl => exact h
  | step _ ih => exact ih.succ

/-- A type is the unfolding of a handle: `resolve` gives it whenever enough levels are allowed. -/
def Unfolds (o : TypeOracle τ δ) (t : τ) (info : TypeInfo) : Prop :=
  ∃ levels, ∀ depth, levels ≤ depth → o.resolve depth t = .ok info

theorem ResolvesIn.unfolds (h : o.ResolvesIn depth t info) : o.Unfolds t info :=
  ⟨depth, fun _ hle => h.mono hle⟩

theorem Unfolds.exists_depth (h : o.Unfolds t info) : ∃ depth, o.ResolvesIn depth t info := by
  obtain ⟨levels, hlevels⟩ := h
  exact ⟨levels, hlevels levels (Nat.le_refl levels)⟩

/-- A handle has one unfolding. -/
theorem Unfolds.eq_of_resolvesIn (h : o.Unfolds t info) (h' : o.ResolvesIn depth t part) : part = info := by
  obtain ⟨levels, hlevels⟩ := h
  have hmax : o.resolve (max levels depth) t = .ok info := hlevels _ (Nat.le_max_left _ _)
  exact eq_of_eq_ok (h'.mono (Nat.le_max_right _ _)) hmax

/-- In the unfolding of a handle its parts are unfolded. -/
theorem Unfolds.writtenOut (h : o.Unfolds t info) : ∃ v c, o.WrittenOut o.Unfolds t v c info := by
  obtain ⟨depth, hdepth⟩ := h.exists_depth
  cases depth with
  | zero => cases hdepth
  | succ depth =>
    obtain ⟨v, c, hout⟩ := resolve_succ_eq_ok_iff.mp hdepth
    exact ⟨v, c, hout.mono fun _ _ => ResolvesIn.unfolds⟩

/-! ## Paths -/

/-- Where the oracle leads along a path, the unfolding has the type of the handle reached. -/
theorem exists_at?_of_reaches (h : OrInvalid o.Unfolds t? info) (hpath : o.Reaches t? path u?) :
    ∃ part, info.at? path = some part ∧ OrInvalid o.Unfolds u? part := by
  induction hpath generalizing info with
  | here => exact ⟨info, rfl, h⟩
  | step hstep _ ih =>
    obtain ⟨v, c, hout⟩ := Unfolds.writtenOut h
    obtain ⟨part, hpart, hunfolds⟩ := hout.exists_part hstep
    obtain ⟨last, hlast, hu⟩ := ih hunfolds
    exact ⟨last, by rw [TypeInfo.at?_cons, hpart, Option.bind_some, hlast], hu⟩

/-- Where the unfolding has a type at the end of a path, the oracle leads along that path. -/
theorem exists_reaches_of_at? (h : OrInvalid o.Unfolds t? info) (hpart : info.at? path = some part) :
    ∃ u?, o.Reaches t? path u? := by
  induction path generalizing t? info with
  | nil => exact ⟨t?, .here⟩
  | cons x path ih =>
    obtain ⟨next, hnext, hrest⟩ := Option.bind_eq_some_iff.mp hpart
    cases t? with
    | none =>
      obtain rfl : info = .invalid := h
      rw [TypeInfo.part?_invalid] at hnext
      cases hnext
    | some t =>
      obtain ⟨v, c, hout⟩ := Unfolds.writtenOut h
      obtain ⟨next?, hleads⟩ := hout.exists_leads hnext
      obtain ⟨next', hnext', hunfolds⟩ := hout.exists_part hleads
      obtain rfl : next' = next := Option.some.inj (hnext'.symm.trans hnext)
      obtain ⟨u?, hreaches⟩ := ih hunfolds hrest
      exact ⟨u?, .step hleads hreaches⟩

/-! ## What is founded unfolds -/

theorem exists_depth_rel {part? : Option TypeInfo} (h : Option.Rel o.Unfolds t? part?) :
    ∃ depth, Option.Rel (o.ResolvesIn depth) t? part? := by
  cases h with
  | none => exact ⟨0, .none⟩
  | some h =>
    obtain ⟨depth, hdepth⟩ := h.exists_depth
    exact ⟨depth, .some hdepth⟩

theorem ReturnOf.exists_depth {r? : Option TypeInfo} (h : o.ReturnOf o.Unfolds w r?) :
    ∃ depth, o.ReturnOf (o.ResolvesIn depth) w r? := by
  cases h with
  | absent hu => exact ⟨0, .absent hu⟩
  | void hu hkind hvoid => exact ⟨0, .void hu hkind hvoid⟩
  | type hu hkind hresult hpart =>
    obtain ⟨depth, hdepth⟩ := hpart.exists_depth
    exact ⟨depth, .type hu hkind hresult hdepth⟩

theorem exists_depth_parameters {argument? : Nat → Option τ} {is : List Nat} {parts : List TypeInfo}
    (h : List.Forall₂ (fun i => OrInvalid o.Unfolds (argument? i)) is parts) :
    ∃ depth, List.Forall₂ (fun i => OrInvalid (o.ResolvesIn depth) (argument? i)) is parts := by
  induction h with
  | nil => exact ⟨0, .nil⟩
  | @cons i part is parts hpart _ ih =>
    obtain ⟨rest, hrest⟩ := ih
    have hfirst : ∃ first, OrInvalid (o.ResolvesIn first) (argument? i) part := by
      cases hargument : argument? i with
      | none =>
        rw [hargument] at hpart
        exact ⟨0, hpart⟩
      | some u =>
        rw [hargument] at hpart
        exact Unfolds.exists_depth hpart
    obtain ⟨first, hfirst⟩ := hfirst
    refine ⟨max first rest, .cons ?_ (hrest.imp fun j part' hpart' => ?_)⟩
    · exact hfirst.mono fun _ _ hu => hu.mono (Nat.le_max_left _ _)
    · exact hpart'.mono fun _ _ hu => hu.mono (Nat.le_max_right _ _)

theorem BlockOf.exists_depth {b? : Option (BlockSignature TypeInfo)} (h : o.BlockOf o.Unfolds v c b?) :
    ∃ depth, o.BlockOf (o.ResolvesIn depth) v c b? := by
  cases h with
  | none hnone => exact ⟨0, .none hnone⟩
  | block hkind hp hw hb =>
    obtain ⟨result, hresult⟩ := hb.result.exists_depth
    obtain ⟨rest, hrest⟩ := exists_depth_parameters hb.parameters
    refine ⟨max result rest, .block hkind hp hw ⟨?_, hrest.imp fun i part hpart => ?_⟩⟩
    · exact hresult.mono fun _ _ hu => hu.mono (Nat.le_max_left _ _)
    · exact hpart.mono fun _ _ hu => hu.mono (Nat.le_max_right _ _)

/-- What is written out with unfolded parts is the unfolding. -/
theorem WrittenOut.unfolds (h : o.WrittenOut o.Unfolds t v c info) : o.Unfolds t info := by
  obtain ⟨element, helement⟩ := exists_depth_rel h.element
  obtain ⟨pointee, hpointee⟩ := exists_depth_rel h.pointee
  obtain ⟨block, hblock⟩ := h.block.exists_depth
  let depth := max element (max pointee block)
  have hresolve : o.ResolvesIn (depth + 1) t info := by
    refine resolve_succ_eq_ok_iff.mpr ⟨v, c, h.toDescribes, ?_, ?_, ?_⟩
    · exact rel_mono (fun _ _ hu => hu.mono (by omega)) helement
    · exact rel_mono (fun _ _ hu => hu.mono (by omega)) hpointee
    · exact hblock.mono fun _ _ hu => hu.mono (by omega)
  exact hresolve.unfolds

/-- Every handle of a founded set unfolds, by induction along the steps. -/
theorem Founded.exists_unfolds (h : o.Founded P) (ht : P t) : ∃ info, o.Unfolds t info := by
  induction h.acc t ht with
  | intro t _ ih =>
    have hparts : ∀ x u, o.Leads t x (some u) → ∃ part, o.Unfolds u part := fun x u hx =>
      ih u ⟨x, hx⟩ (h.of_leads ht hx)
    obtain ⟨v, c, info, hout⟩ := h.exists_writtenOut hparts ht
    exact ⟨info, hout.unfolds⟩

/-! ## Types and paths, side by side -/

/-- Along every path a type and the oracle go together. The type has something at the end of a path exactly if the
oracle leads along it; where a handle is reached, what stands there unfolds the handle and says of itself what the
oracle answers about it; where the type of a parameter is not answered, nothing is known and the path ends. -/
structure Mirrors (o : TypeOracle τ δ) (unfolds : τ → TypeInfo → Prop) (t : τ) (info : TypeInfo) : Prop where
  path : ∀ path, (∃ part, info.at? path = some part) ↔ ∃ u?, o.Reaches (some t) path u?
  type : ∀ path u, o.Reaches (some t) path (some u) →
    ∃ part, info.at? path = some part ∧ unfolds u part ∧ ∃ v c, o.Describes u v c part
  unknown : ∀ path, o.Reaches (some t) path none →
    info.at? path = some .invalid ∧ ∀ x, info.at? (path ++ [x]) = none

theorem Unfolds.mirrors (h : o.Unfolds t info) : o.Mirrors o.Unfolds t info := by
  have hstart : OrInvalid o.Unfolds (some t) info := h
  refine ⟨fun path => ⟨?_, ?_⟩, fun path u hpath => ?_, fun path hpath => ?_⟩
  · rintro ⟨part, hpart⟩
    exact exists_reaches_of_at? hstart hpart
  · rintro ⟨u?, hpath⟩
    obtain ⟨part, hpart, -⟩ := exists_at?_of_reaches hstart hpath
    exact ⟨part, hpart⟩
  · obtain ⟨part, hpart, hunfolds⟩ := exists_at?_of_reaches hstart hpath
    obtain ⟨v, c, hout⟩ := Unfolds.writtenOut hunfolds
    exact ⟨part, hpart, hunfolds, v, c, hout.toDescribes⟩
  · obtain ⟨part, hpart, rfl⟩ := exists_at?_of_reaches hstart hpath
    refine ⟨hpart, fun x => ?_⟩
    rw [TypeInfo.at?_append, hpart, Option.bind_some, TypeInfo.at?_cons, TypeInfo.part?_invalid, Option.bind_none]

/-- What stands for the handles that are reached may be put in other words. -/
theorem Mirrors.imp {unfolds unfolds' : τ → TypeInfo → Prop} (h : o.Mirrors unfolds t info)
    (himp : ∀ path u part, o.Reaches (some t) path (some u) → unfolds u part → unfolds' u part) :
    o.Mirrors unfolds' t info where
  path := h.path
  type path u hpath := by
    obtain ⟨part, hpart, hunfolds, hdescribes⟩ := h.type path u hpath
    exact ⟨part, hpart, himp path u part hpath hunfolds, hdescribes⟩
  unknown := h.unknown

end TypeOracle

/-- In a sound snapshot the unfolding of a type is what it resolves to. -/
theorem Snapshot.Sound.resolve_of_unfolds {s : Snapshot} (h : s.Sound) {id : TypeId} {info : TypeInfo}
    (hid : s.hasType id) (hunfolds : s.typeOracle.Unfolds id info) : s.resolve id = .ok info := by
  obtain ⟨info', hinfo'⟩ := h.exists_resolve hid
  have hresolve : s.resolve id = .ok info' := hinfo' _ (Nat.lt_succ_self _)
  rw [hresolve, hunfolds.eq_of_resolvesIn hresolve]

/-- **A resolved type is the unfolding of its handle.** Whatever the oracle, if it is founded on a set of handles, each
of them unfolds, and the unfolding goes together with what the oracle allows along every path. In a snapshot that
passes the check, `resolve` gives that unfolding of every type, and at the end of a path what it gives of the type
reached. -/
theorem resolve_mirrors :
    (∀ (τ δ : Type) (o : TypeOracle τ δ) (P : τ → Prop), o.Founded P → ∀ t, P t →
      ∃ info, o.Unfolds t info ∧ o.Mirrors o.Unfolds t info) ∧
    ∀ s : Snapshot, s.validate = .ok () → ∀ id, s.hasType id = true →
      ∃ info, s.resolve id = .ok info ∧ s.typeOracle.Mirrors (fun u part => s.resolve u = .ok part) id info := by
  constructor
  · intro τ δ o P hfounded t ht
    obtain ⟨info, hunfolds⟩ := hfounded.exists_unfolds ht
    exact ⟨info, hunfolds, hunfolds.mirrors⟩
  · intro s hvalid id hid
    have hsound := Snapshot.sound_of_validate hvalid
    have hfounded : s.typeOracle.Founded fun id => s.hasType id := hsound.grounded.founded
    obtain ⟨info, hunfolds⟩ := hfounded.exists_unfolds hid
    refine ⟨info, hsound.resolve_of_unfolds hid hunfolds, hunfolds.mirrors.imp fun path u part hpath hpart => ?_⟩
    have hstart : ∀ t, some id = some t → s.hasType t := fun t ht => Option.some.inj ht ▸ hid
    exact hsound.resolve_of_unfolds (hfounded.of_reaches hstart hpath u rfl) hpart

namespace TypeOracle.Example

/-- A block that counts two parameters and answers the type of one. -/
inductive Gappy where
  | block
  | signature
  | int

/-- What is answered about a type without parts. -/
def Gappy.plain (t : Gappy) (spelling kind : String) (size : Int64) : TypeView Gappy where
  spelling := spelling
  kind := kind
  canonical := t
  nullability := .invalid
  size := size
  align := size
  element? := none
  arraySize := -1
  pointee? := none
  result? := none
  argumentCount := -1
  argument? _ := none

/-- What is answered about each type. -/
def Gappy.view : Gappy → TypeView Gappy
  | .block => { plain .block "void (^)(int, T)" "BlockPointer" 8 with pointee? := some .signature }
  | .signature => { plain .signature "void (int, T)" "FunctionProto" (-1) with
      argumentCount := 2, argument? := fun i => if i = 0 then some .int else none }
  | .int => plain .int "int" "Int" 4

/-- An oracle of which only the block has a declaration, which nothing defines. -/
def gappy : TypeOracle Gappy Unit where
  view t := .ok t.view
  declaration?
    | .block => .ok (some ())
    | _ => .ok none
  definition? _ := .ok none
  file? _ := .ok none

/-- A snapshot with a name for a block that takes a number and gives nothing. -/
def handler : Snapshot where
  root := .ofNat 0
  cursors := #[CursorNode.blank .translationUnit ""]
  types := #[
    .builtin "int" "Int" 4,
    .builtin "void" "Void" (-1),
    { TypeNode.blank "void (int)" "FunctionProto" with
      result? := some (.ofNat 1), arguments? := some [.ofNat 0] },
    .block "void (^)(int)" (.ofNat 2),
    { TypeNode.blank "Handler" "Typedef" with canonical? := some (.ofNat 3), pointee? := some (.ofNat 2) }]

/-- How many levels a type goes down. -/
def Gappy.height : Gappy → Nat
  | .block => 2
  | .signature => 1
  | .int => 0

theorem gappy_founded : gappy.Founded fun _ => True := by
  have hlower : ∀ t u : Gappy, t.view.HasPart u → u.height < t.height := by
    intro t u hu
    cases t with
    | block =>
      rcases hu with h | h | h | ⟨i, h⟩ <;> cases h
      exact Nat.lt_succ_self 1
    | signature =>
      rcases hu with h | h | h | ⟨i, h⟩
      · cases h
      · cases h
      · cases h
      · obtain ⟨-, hu⟩ := Option.ite_none_right_eq_some.mp h
        cases hu
        exact Nat.lt_succ_self 0
    | int => rcases hu with h | h | h | ⟨i, h⟩ <;> cases h
  have hfile : ∀ t, gappy.DefinedIn t none := by
    intro t
    cases t with
    | block => exact .undefined rfl rfl
    | signature => exact .undeclared rfl
    | int => exact .undeclared rfl
  have hgrounded : gappy.Grounded (fun _ => True) Gappy.height :=
    ⟨fun t _ => ⟨t.view, rfl, trivial, fun u hu => ⟨trivial, hlower t u hu⟩⟩, fun t _ => ⟨none, hfile t⟩⟩
  exact hgrounded.founded

theorem gappy_leads {i : Nat} (hi : i < 2) :
    gappy.Leads .block (.blockParameter i) (Gappy.signature.view.argument? i) := by
  have hsignature : gappy.HasSignature .block Gappy.signature.view :=
    ⟨rfl, Gappy.block.view, .signature, rfl, rfl, rfl⟩
  have hcount : Gappy.signature.view.argumentCount = 2 := rfl
  exact .blockParameter hsignature (by omega)

theorem handler_leads : handler.typeOracle.Leads (.ofNat 4) (.blockParameter 0) (some (.ofNat 0)) :=
  .blockParameter (w := (handler.types[2]).view (.ofNat 2)) ⟨by rfl, _, .ofNat 2, rfl, rfl, rfl⟩ (by decide)

/-- Of the block's two parameters one is written out and nothing is known of the other one; the named block of the
snapshot takes the number that the snapshot resolves. -/
theorem resolve_gappy_handler :
    (∃ info, gappy.Unfolds .block info ∧ (∃ part, info.at? [.blockParameter 0] = some part ∧ part.name = "int") ∧
      info.at? [.blockParameter 1] = some .invalid) ∧
    ∃ info part, handler.resolve (.ofNat 4) = .ok info ∧ info.at? [.blockParameter 0] = some part ∧
      handler.resolve (.ofNat 0) = .ok part := by
  constructor
  · obtain ⟨info, hunfolds, hmirrors⟩ := resolve_mirrors.1 Gappy Unit gappy _ gappy_founded .block trivial
    refine ⟨info, hunfolds, ?_, ?_⟩
    · obtain ⟨part, hpart, -, v, c, hdescribes⟩ :=
        hmirrors.type [.blockParameter 0] .int (.step (gappy_leads (by decide)) .here)
      obtain rfl : Gappy.int.view = v := eq_of_eq_ok rfl hdescribes.view
      exact ⟨part, hpart, hdescribes.name⟩
    · exact (hmirrors.unknown [.blockParameter 1] (.step (gappy_leads (by decide)) .here)).1
  · obtain ⟨info, hinfo, hmirrors⟩ := resolve_mirrors.2 handler rfl (.ofNat 4) rfl
    obtain ⟨part, hpart, hresolve, -⟩ := hmirrors.type [.blockParameter 0] (.ofNat 0) (.step handler_leads .here)
    exact ⟨info, part, hinfo, hpart, hresolve⟩

end TypeOracle.Example

end HeaderCatalog
