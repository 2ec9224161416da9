import HeaderCatalog.Proofs.TypeInfo.Path

/-!
# One level of a type

One level of `TypeOracle.resolve` writes a handle out (`TypeOracle.WrittenOut`): what the type says of itself comes from
the oracle's answers (`TypeOracle.Describes`), and its parts are whatever stands for the handles that it is composed of
(`resolve_succ_eq_ok_iff`). A step on the type then leads where the oracle leads by the same step
(`WrittenOut.exists_part`, `WrittenOut.exists_leads`). A handle is written out if its questions are answered and
something stands for every handle that it leads to (`Answering.exists_writtenOut`).
-/

namespace HeaderCatalog

/-! ## Sizes -/

/-- A size is known if it is not below zero, and it is that number. -/
theorem knownSize?_eq_some_iff {raw : Int64} {n : UInt64} : knownSize? raw = some n ↔ (n.toNat : Int) = raw.toInt := by
  unfold knownSize?
  by_cases hraw : raw < 0
  · have hneg : raw.toInt < 0 := Int64.lt_iff_toInt_lt.mp hraw
    rw [if_pos hraw]
    constructor
    · intro h
      cases h
    · intro h
      omega
  · have hnonneg : 0 ≤ raw := Int64.not_lt.mp hraw
    have hint : 0 ≤ raw.toInt := Int64.le_iff_toInt_le.mp hnonneg
    have hvalue : (raw.toUInt64.toNat : Int) = raw.toInt := by
      rw [Int64.toNat_toUInt64_of_le hnonneg]
      exact Int.toNat_of_nonneg hint
    rw [if_neg hraw, Option.some.injEq, ← hvalue, Int.ofNat_inj, UInt64.toNat_inj, eq_comm]

theorem eq_knownSize?_iff {raw : Int64} {n? : Option UInt64} :
    n? = knownSize? raw ↔ ∀ n, n? = some n ↔ (n.toNat : Int) = raw.toInt := by
  simp only [← knownSize?_eq_some_iff]
  constructor
  · rintro rfl n
    rfl
  · exact Option.ext

namespace TypeOracle

variable {τ δ : Type} {o : TypeOracle τ δ} {P : τ → Prop} {t u : τ} {t? u? : Option τ} {v c w : TypeView τ}
  {x : TypeStep} {path : List TypeStep} {info part : TypeInfo} {sub sub' : τ → TypeInfo → Prop} {depth : Nat}

/-! ## One level -/

/-- What a type says of itself is what the oracle answers about it (`v`) and about its canonical form (`c`). -/
structure Describes (o : TypeOracle τ δ) (t : τ) (v c : TypeView τ) (info : TypeInfo) : Prop where
  view : o.view t = .ok v
  canonicalView : o.view v.canonical = .ok c
  name : info.name = v.spelling
  file : o.DefinedIn t info.file?
  kind : info.kind = v.kind
  nullability : info.nullability = v.nullability
  canonical : info.canonical = c.spelling
  canonicalKind : info.canonicalKind = c.kind
  size : ∀ n, info.size? = some n ↔ (n.toNat : Int) = v.size.toInt
  alignment : ∀ n, info.alignment? = some n ↔ (n.toNat : Int) = v.align.toInt
  arraySize : ∀ n, info.arraySize? = some n ↔ (n.toNat : Int) = v.arraySize.toInt

/-- A type with the given file and parts that says of itself what is answered about it and its canonical form. -/
def described (v c : TypeView τ) (file? : Option String) (element? pointee? : Option TypeInfo)
    (block? : Option (BlockSignature TypeInfo)) : TypeInfo where
  name := v.spelling
  file? := file?
  kind := v.kind
  nullability := v.nullability
  canonical := c.spelling
  canonicalKind := c.kind
  size? := knownSize? v.size
  alignment? := knownSize? v.align
  element? := element?
  pointee? := pointee?
  arraySize? := knownSize? v.arraySize
  block? := block?

theorem describes_described {file? : Option String} {element? pointee? : Option TypeInfo}
    {block? : Option (BlockSignature TypeInfo)} (hv : o.view t = .ok v) (hc : o.view v.canonical = .ok c)
    (hfile : o.DefinedIn t file?) :
    o.Describes t v c (described v c file? element? pointee? block?) where
  view := hv
  canonicalView := hc
  name := rfl
  file := hfile
  kind := rfl
  nullability := rfl
  canonical := rfl
  canonicalKind := rfl
  size := eq_knownSize?_iff.mp rfl
  alignment := eq_knownSize?_iff.mp rfl
  arraySize := eq_knownSize?_iff.mp rfl

/-- Nothing but its file and its parts is left open by what a type says of itself. -/
theorem Describes.eq_described (h : o.Describes t v c info) :
    info = described v c info.file? info.element? info.pointee? info.block? := by
  rw [described, ← h.name, ← h.kind, ← h.nullability, ← h.canonical, ← h.canonicalKind,
    ← eq_knownSize?_iff.mpr h.size, ← eq_knownSize?_iff.mpr h.alignment, ← eq_knownSize?_iff.mpr h.arraySize]
  cases info
  rfl

/-- A type stands for a handle, the one about which nothing is known for a handle that is not answered. -/
def OrInvalid (sub : τ → TypeInfo → Prop) : Option τ → TypeInfo → Prop
  | none, info => info = .invalid
  | some u, info => sub u info

/-- The result of a block whose signature answers `w`. -/
inductive ReturnOf (o : TypeOracle τ δ) (sub : τ → TypeInfo → Prop) (w : TypeView τ) : Option TypeInfo → Prop
  | absent (hu : w.result? = none) : ReturnOf o sub w none
  | void {u : τ} {kind : String} (hu : w.result? = some u) (hkind : o.canonicalKind u = .ok kind)
      (hvoid : isNoResult kind = true) : ReturnOf o sub w none
  | type {u : τ} {kind : String} {part : TypeInfo} (hu : w.result? = some u) (hkind : o.canonicalKind u = .ok kind)
      (hresult : isNoResult kind = false) (hpart : sub u part) : ReturnOf o sub w (some part)

/-- The signature of a block, which answers `w`. -/
structure SignatureOf (o : TypeOracle τ δ) (sub : τ → TypeInfo → Prop) (w : TypeView τ)
    (b : BlockSignature TypeInfo) : Prop where
  result : o.ReturnOf sub w b.returnType?
  parameters : List.Forall₂ (fun i => OrInvalid sub (w.argument? i)) (List.range w.argumentCount.toNat) b.parameters

/-- The signature of a type, if it is a block. -/
inductive BlockOf (o : TypeOracle τ δ) (sub : τ → TypeInfo → Prop) (v c : TypeView τ) :
    Option (BlockSignature TypeInfo) → Prop
  | none (hnone : c.kind = blockKind → v.pointee? = .none) : BlockOf o sub v c .none
  | block {p : τ} {w : TypeView τ} {b : BlockSignature TypeInfo} (hkind : c.kind = blockKind)
      (hp : v.pointee? = some p) (hw : o.view p = .ok w) (hb : o.SignatureOf sub w b) : BlockOf o sub v c (some b)

/-- A type is written out: it says of itself what the oracle answers, and `sub` says what stands for its parts. -/
structure WrittenOut (o : TypeOracle τ δ) (sub : τ → TypeInfo → Prop) (t : τ) (v c : TypeView τ) (info : TypeInfo) :
    Prop extends o.Describes t v c info where
  element : Option.Rel sub v.element? info.element?
  pointee : Option.Rel sub v.pointee? info.pointee?
  block : o.BlockOf sub v c info.block?

/-- A number of levels is enough to write a type out. -/
def ResolvesIn (o : TypeOracle τ δ) (depth : Nat) (t : τ) (info : TypeInfo) : Prop := o.resolve depth t = .ok info

theorem returnType?_eq_ok_iff {f : τ → Except Fault TypeInfo} {r? : Option TypeInfo} :
    o.returnType? f w.result? = .ok r? ↔ o.ReturnOf (fun u part => f u = .ok part) w r? := by
  constructor
  · intro h
    cases hu : w.result? with
    | none =>
      rw [hu] at h
      cases h
      exact .absent hu
    | some u =>
      rw [hu] at h
      obtain ⟨kind, hkind, h⟩ := exists_of_bind_eq_ok h
      cases hvoid : isNoResult kind with
      | true =>
        rw [hvoid] at h
        cases h
        exact .void hu hkind hvoid
      | false =>
        rw [hvoid] at h
        obtain ⟨part, hpart, rfl⟩ := exists_of_map_eq_ok h
        exact .type hu hkind hvoid hpart
  · intro h
    cases h with
    | absent hu =>
      rw [hu]
      rfl
    | void hu hkind hvoid =>
      simp only [hu, returnType?, hkind, ok_bind, hvoid]
      rfl
    | type hu hkind hresult hpart =>
      simp only [hu, returnType?, hkind, ok_bind, hresult, hpart]
      rfl

theorem parameterType_eq_ok_iff {f : τ → Except Fault TypeInfo} :
    parameterType f u? = .ok part ↔ OrInvalid (fun u part => f u = .ok part) u? part := by
  cases u? with
  | none =>
    constructor
    · intro h
      exact (Except.ok.inj h).symm
    · rintro rfl
      rfl
  | some u => rfl

theorem signature_eq_ok_iff {f : τ → Except Fault TypeInfo} {p : τ} {b : BlockSignature TypeInfo}
    (hw : o.view p = .ok w) : o.signature f p = .ok b ↔ o.SignatureOf (fun u part => f u = .ok part) w b := by
  unfold signature
  rw [hw, ok_bind]
  constructor
  · intro h
    obtain ⟨r?, hresult, h⟩ := exists_of_bind_eq_ok h
    obtain ⟨parameters, hparameters, h⟩ := exists_of_bind_eq_ok h
    cases h
    exact ⟨returnType?_eq_ok_iff.mp hresult,
      (mapM_eq_ok_iff.mp hparameters).imp fun _ _ hpart => parameterType_eq_ok_iff.mp hpart⟩
  · rintro ⟨hresult, hparameters⟩
    have hparameters := mapM_eq_ok_iff.mpr (hparameters.imp fun _ _ hpart => parameterType_eq_ok_iff.mpr hpart)
    rw [returnType?_eq_ok_iff.mpr hresult, ok_bind, hparameters]
    rfl

theorem block?_eq_ok_iff {f : τ → Except Fault TypeInfo} {b? : Option (BlockSignature TypeInfo)} :
    o.block? f c.kind v.pointee? = .ok b? ↔ o.BlockOf (fun u part => f u = .ok part) v c b? := by
  constructor
  · intro h
    cases hp : v.pointee? with
    | none =>
      rw [hp] at h
      cases h
      exact .none fun _ => hp
    | some p =>
      rw [hp] at h
      by_cases hkind : c.kind = blockKind
      · rw [block?, if_pos (beq_iff_eq.mpr hkind)] at h
        obtain ⟨b, hb, rfl⟩ := exists_of_map_eq_ok h
        obtain ⟨w, hw, -⟩ := exists_of_bind_eq_ok hb
        exact .block hkind hp hw ((signature_eq_ok_iff hw).mp hb)
      · rw [block?, if_neg (fun hbeq => hkind (beq_iff_eq.mp hbeq))] at h
        cases h
        exact .none fun hblock => absurd hblock hkind
  · intro h
    cases h with
    | none hnone =>
      cases hp : v.pointee? with
      | none => rfl
      | some p =>
        have hkind : ¬(c.kind == blockKind) = true := fun hbeq => by
          rw [hnone (beq_iff_eq.mp hbeq)] at hp
          cases hp
        rw [block?, if_neg hkind]
        rfl
    | block hkind hp hw hb =>
      rw [hp, block?, if_pos (beq_iff_eq.mpr hkind), (signature_eq_ok_iff hw).mpr hb]
      rfl

/-- One level more writes a type out whose parts the levels before give. -/
theorem resolve_succ_eq_ok_iff :
    o.resolve (depth + 1) t = .ok info ↔ ∃ v c, o.WrittenOut (o.ResolvesIn depth) t v c info := by
  constructor
  · intro h
    obtain ⟨v, hv, h⟩ := exists_of_bind_eq_ok h
    obtain ⟨c, hc, h⟩ := exists_of_bind_eq_ok h
    obtain ⟨block?, hblock, h⟩ := exists_of_bind_eq_ok h
    obtain ⟨element?, helement, h⟩ := exists_of_bind_eq_ok h
    obtain ⟨pointee?, hpointee, h⟩ := exists_of_bind_eq_ok h
    obtain ⟨file?, hfile, h⟩ := exists_of_bind_eq_ok h
    cases h
    exact ⟨v, c, describes_described hv hc (definitionFile_eq_ok_iff.mp hfile), option_mapM_eq_ok_iff.mp helement,
      option_mapM_eq_ok_iff.mp hpointee, block?_eq_ok_iff.mp hblock⟩
  · rintro ⟨v, c, h⟩
    have hblock : o.block? (o.resolve depth) c.kind v.pointee? = .ok info.block? := block?_eq_ok_iff.mpr h.block
    have helement : v.element?.mapM (o.resolve depth) = .ok info.element? := option_mapM_eq_ok_iff.mpr h.element
    have hpointee : v.pointee?.mapM (o.resolve depth) = .ok info.pointee? := option_mapM_eq_ok_iff.mpr h.pointee
    unfold resolve
    rw [h.view, ok_bind, h.canonicalView, ok_bind, hblock, ok_bind, helement, ok_bind, hpointee, ok_bind,
      definitionFile_eq_ok_iff.mpr h.file, ok_bind]
    exact congrArg Except.ok h.eq_described.symm

/-! ## Other things that stand for parts -/

section Mono

variable (hsub : ∀ u part, sub u part → sub' u part)

include hsub

theorem OrInvalid.mono (h : OrInvalid sub t? info) : OrInvalid sub' t? info := by
  cases t? with
  | none => exact h
  | some t => exact hsub t info h

theorem rel_mono {part? : Option TypeInfo} (h : Option.Rel sub t? part?) : Option.Rel sub' t? part? := by
  cases h with
  | none => exact .none
  | some h => exact .some (hsub _ _ h)

theorem ReturnOf.mono {r? : Option TypeInfo} (h : o.ReturnOf sub w r?) : o.ReturnOf sub' w r? := by
  cases h with
  | absent hu => exact .absent hu
  | void hu hkind hvoid => exact .void hu hkind hvoid
  | type hu hkind hresult hpart => exact .type hu hkind hresult (hsub _ _ hpart)

theorem SignatureOf.mono {b : BlockSignature TypeInfo} (h : o.SignatureOf sub w b) : o.SignatureOf sub' w b where
  result := h.result.mono hsub
  parameters := h.parameters.imp fun _ _ hpart => hpart.mono hsub

theorem BlockOf.mono {b? : Option (BlockSignature TypeInfo)} (h : o.BlockOf sub v c b?) : o.BlockOf sub' v c b? := by
  cases h with
  | none hnone => exact .none hnone
  | block hkind hp hw hb => exact .block hkind hp hw (hb.mono hsub)

theorem WrittenOut.mono (h : o.WrittenOut sub t v c info) : o.WrittenOut sub' t v c info where
  toDescribes := h.toDescribes
  element := rel_mono hsub h.element
  pointee := rel_mono hsub h.pointee
  block := h.block.mono hsub

end Mono

/-! ## Steps -/

theorem canonicalKind_of_view (hv : o.view t = .ok v) (hc : o.view v.canonical = .ok c) :
    o.canonicalKind t = .ok c.kind := by
  rw [canonicalKind, hv, ok_bind, hc]
  rfl

theorem Describes.canonicalKind_eq (h : o.Describes t v c info) : o.canonicalKind t = .ok c.kind :=
  canonicalKind_of_view h.view h.canonicalView

/-- The signature of a type that is a block, seen from the type and from its answers. -/
theorem WrittenOut.exists_signature (h : o.WrittenOut sub t v c info) (hw : o.HasSignature t w) :
    ∃ b, info.block? = some b ∧ o.SignatureOf sub w b := by
  have hkind : c.kind = blockKind := eq_of_eq_ok h.canonicalKind_eq hw.kind
  obtain ⟨v', p, hv', hp, hw⟩ := hw.pointee
  obtain rfl : v' = v := eq_of_eq_ok hv' h.view
  have hblock := h.block
  generalize info.block? = b? at hblock
  cases hblock with
  | none hnone =>
    rw [hnone hkind] at hp
    cases hp
  | @block p' w' b _ hp' hw' hb =>
    obtain rfl : p' = p := Option.some.inj (hp'.symm.trans hp)
    obtain rfl : w' = w := eq_of_eq_ok hw' hw
    exact ⟨b, rfl, hb⟩

theorem WrittenOut.hasSignature_of_block {b : BlockSignature TypeInfo} (h : o.WrittenOut sub t v c info)
    (hb : info.block? = some b) : ∃ w, o.HasSignature t w ∧ o.SignatureOf sub w b := by
  have hblock := h.block
  rw [hb] at hblock
  cases hblock with
  | block hkind hp hw hb => exact ⟨_, ⟨h.canonicalKind_eq.trans (congrArg Except.ok hkind), v, _, h.view, hp, hw⟩, hb⟩

theorem exists_of_rel {a? : Option τ} {b? : Option TypeInfo} (h : Option.Rel sub a? b?) (ha : a? = some u) :
    ∃ part, b? = some part ∧ sub u part := by
  cases h with
  | none => cases ha
  | some h =>
    cases ha
    exact ⟨_, rfl, h⟩

theorem exists_of_rel_right {a? : Option τ} {b? : Option TypeInfo} (h : Option.Rel sub a? b?) (hb : b? = some part) :
    ∃ u, a? = some u := by
  cases h with
  | none => cases hb
  | some h => exact ⟨_, rfl⟩

theorem isNoResult_eq_false_iff {kind : String} : isNoResult kind = false ↔ kind ≠ "Void" ∧ kind ≠ "Invalid" := by
  simp [isNoResult]

/-- Where the oracle leads by a step, the type has a part. -/
theorem WrittenOut.exists_part (h : o.WrittenOut sub t v c info) (hx : o.Leads t x t?) :
    ∃ part, info.part? x = some part ∧ OrInvalid sub t? part := by
  cases hx with
  | element hv hu =>
    obtain rfl := eq_of_eq_ok hv h.view
    obtain ⟨part, hpart, hsub⟩ := exists_of_rel h.element hu
    exact ⟨part, hpart, hsub⟩
  | pointee hv hu =>
    obtain rfl := eq_of_eq_ok hv h.view
    obtain ⟨part, hpart, hsub⟩ := exists_of_rel h.pointee hu
    exact ⟨part, hpart, hsub⟩
  | blockResult hw hu hkind hresult =>
    obtain ⟨b, hb, hsignature⟩ := h.exists_signature hw
    have hreturn := hsignature.result
    generalize hr? : b.returnType? = r? at hreturn
    cases hreturn with
    | absent hnone =>
      rw [hnone] at hu
      cases hu
    | void hu' hkind' hvoid =>
      obtain rfl := Option.some.inj (hu'.symm.trans hu)
      obtain rfl := eq_of_eq_ok hkind' hkind
      rw [isNoResult_eq_false_iff.mpr hresult] at hvoid
      cases hvoid
    | type hu' _ _ hpart =>
      obtain rfl := Option.some.inj (hu'.symm.trans hu)
      exact ⟨_, by rw [TypeInfo.part?, hb, Option.bind_some, hr?], hpart⟩
  | @blockParameter w i hw hi =>
    obtain ⟨b, hb, hsignature⟩ := h.exists_signature hw
    obtain ⟨hlength, hparts⟩ := forall₂_range_iff.mp hsignature.parameters
    have hlt : i < b.parameters.length := by omega
    have hget : b.parameters[i]? = some b.parameters[i] := List.getElem?_eq_getElem hlt
    exact ⟨_, by rw [TypeInfo.part?, hb, Option.bind_some, hget], hparts i _ hget⟩

/-- Where the type has a part, the oracle leads by the same step. -/
theorem WrittenOut.exists_leads (h : o.WrittenOut sub t v c info) (hpart : info.part? x = some part) :
    ∃ t?, o.Leads t x t? := by
  cases x with
  | element =>
    obtain ⟨u, hu⟩ := exists_of_rel_right h.element hpart
    exact ⟨_, .element h.view hu⟩
  | pointee =>
    obtain ⟨u, hu⟩ := exists_of_rel_right h.pointee hpart
    exact ⟨_, .pointee h.view hu⟩
  | blockResult =>
    obtain ⟨b, hb, hr⟩ := Option.bind_eq_some_iff.mp hpart
    obtain ⟨w, hw, hsignature⟩ := h.hasSignature_of_block hb
    have hreturn := hsignature.result
    rw [hr] at hreturn
    cases hreturn with
    | type hu hkind hresult _ => exact ⟨_, .blockResult hw hu hkind (isNoResult_eq_false_iff.mp hresult)⟩
  | blockParameter i =>
    obtain ⟨b, hb, hget⟩ := Option.bind_eq_some_iff.mp hpart
    obtain ⟨w, hw, hsignature⟩ := h.hasSignature_of_block hb
    have hlength := (forall₂_range_iff.mp hsignature.parameters).1
    have hlt : i < b.parameters.length := (List.getElem?_eq_some_iff.mp hget).1
    exact ⟨_, .blockParameter hw (by omega)⟩

/-! ## Every handle that answers is written out -/

theorem exists_rel (h : ∀ u, t? = some u → ∃ part, sub u part) : ∃ part?, Option.Rel sub t? part? := by
  cases t? with
  | none => exact ⟨none, .none⟩
  | some t =>
    obtain ⟨part, hpart⟩ := h t rfl
    exact ⟨some part, .some hpart⟩

theorem Answering.exists_canonicalKind (h : o.Answering P) (ht : P t) : ∃ kind, o.canonicalKind t = .ok kind := by
  obtain ⟨v, hv, hcanonical, -⟩ := h.view t ht
  obtain ⟨c, hc, -, -⟩ := h.view v.canonical hcanonical
  exact ⟨c.kind, canonicalKind_of_view hv hc⟩

section Exists

variable (hsub : ∀ x u, o.Leads t x (some u) → ∃ part, sub u part)

include hsub

theorem Answering.exists_signatureOf (h : o.Answering P) (hw : o.HasSignature t w)
    (hresult : ∀ u, w.result? = some u → P u) : ∃ b, o.SignatureOf sub w b := by
  have hparameters : ∃ parts, List.Forall₂ (fun i => OrInvalid sub (w.argument? i)) (List.range w.argumentCount.toNat)
      parts := by
    refine exists_forall₂ fun i hi => ?_
    have hlt : i < w.argumentCount.toNat := List.mem_range.mp hi
    have hleads : o.Leads t (.blockParameter i) (w.argument? i) := .blockParameter hw (by omega)
    cases hargument : w.argument? i with
    | none => exact ⟨.invalid, rfl⟩
    | some u => exact hsub _ u (hargument ▸ hleads)
  have hreturn : ∃ r?, o.ReturnOf sub w r? := by
    cases hu : w.result? with
    | none => exact ⟨none, .absent hu⟩
    | some u =>
      obtain ⟨kind, hkind⟩ := h.exists_canonicalKind (hresult u hu)
      cases hvoid : isNoResult kind with
      | true => exact ⟨none, .void hu hkind hvoid⟩
      | false =>
        obtain ⟨part, hpart⟩ := hsub _ u (.blockResult hw hu hkind (isNoResult_eq_false_iff.mp hvoid))
        exact ⟨some part, .type hu hkind hvoid hpart⟩
  obtain ⟨parts, hparts⟩ := hparameters
  obtain ⟨r?, hr⟩ := hreturn
  exact ⟨⟨r?, parts⟩, hr, hparts⟩

/-- A handle is written out if everything is that it leads to. -/
theorem Answering.exists_writtenOut (h : o.Answering P) (ht : P t) : ∃ v c info, o.WrittenOut sub t v c info := by
  obtain ⟨v, hv, hcanonical, hparts⟩ := h.view t ht
  obtain ⟨c, hc, -, -⟩ := h.view v.canonical hcanonical
  obtain ⟨file?, hfile⟩ := h.file t ht
  obtain ⟨element?, helement⟩ := exists_rel fun u (hu : v.element? = some u) => hsub _ u (.element hv hu)
  obtain ⟨pointee?, hpointee⟩ := exists_rel fun u (hu : v.pointee? = some u) => hsub _ u (.pointee hv hu)
  have hblock : ∃ block?, o.BlockOf sub v c block? := by
    by_cases hkind : c.kind = blockKind
    · cases hp : v.pointee? with
      | none => exact ⟨none, .none fun _ => hp⟩
      | some p =>
        obtain ⟨w, hw, -, hpartsOf⟩ := h.view p (hparts p (.pointee hp))
        have hcanonicalKind : o.canonicalKind t = .ok "BlockPointer" :=
          (canonicalKind_of_view hv hc).trans (congrArg Except.ok hkind)
        obtain ⟨b, hb⟩ := h.exists_signatureOf hsub ⟨hcanonicalKind, v, p, hv, hp, hw⟩
          fun u hu => hpartsOf u (.result hu)
        exact ⟨some b, .block hkind hp hw hb⟩
    · exact ⟨none, .none fun hblock => absurd hblock hkind⟩
  obtain ⟨block?, hblock⟩ := hblock
  have hdescribes : o.Describes t v c (described v c file? element? pointee? block?) := describes_described hv hc hfile
  exact ⟨v, c, _, hdescribes, helement, hpointee, hblock⟩

end Exists

end TypeOracle

end HeaderCatalog
