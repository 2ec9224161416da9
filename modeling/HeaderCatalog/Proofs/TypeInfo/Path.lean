import HeaderCatalog.Proofs.TypeInfo.Resolve

/-!
# Steps and paths

From a type one can step to its element, to its pointee, to the result and to the parameters of a block
(`TypeStep`). On a type that is written out the steps are read off (`TypeInfo.part?`), and a path of them leads to a
type within it or nowhere (`TypeInfo.at?`). An oracle allows the same steps among its handles by what it answers
(`TypeOracle.Leads`), and leads along a path (`TypeOracle.Reaches`); a block may count a parameter whose type the
oracle does not answer, where the path ends at nothing.

An oracle is *founded* on a set of handles (`TypeOracle.Founded`) when it answers every question about them with
handles of the set, and no allowed steps go on forever. This is so if the composition of types has no endless
descent (`TypeOracle.Founded.of_composition`).
-/

namespace HeaderCatalog

/-- A step from a type to one that it is composed of. -/
inductive TypeStep where
  | element
  | pointee
  | blockResult
  | blockParameter (i : Nat)
deriving DecidableEq

namespace TypeInfo

/-- The type one step away. -/
def part? (info : TypeInfo) : TypeStep → Option TypeInfo
  | .element => info.element?
  | .pointee => info.pointee?
  | .blockResult => info.block?.bind (·.returnType?)
  | .blockParameter i => info.block?.bind (·.parameters[i]?)

/-- The type at the end of a path. -/
def at? (info : TypeInfo) : List TypeStep → Option TypeInfo
  | [] => some info
  | x :: path => (info.part? x).bind fun part => part.at? path

@[simp] theorem at?_cons {info : TypeInfo} {x : TypeStep} {path : List TypeStep} :
    info.at? (x :: path) = (info.part? x).bind fun part => part.at? path := rfl

theorem at?_append {info : TypeInfo} {path rest : List TypeStep} :
    info.at? (path ++ rest) = (info.at? path).bind fun part => part.at? rest := by
  induction path generalizing info with
  | nil => rfl
  | cons x path ih => rw [List.cons_append, at?_cons, at?_cons, Option.bind_assoc]; simp only [ih]

/-- No step leads on from a type about which nothing is known. -/
@[simp] theorem part?_invalid {x : TypeStep} : invalid.part? x = none := by
  cases x <;> rfl

end TypeInfo

namespace TypeOracle

variable {τ δ : Type} {o : TypeOracle τ δ} {P : τ → Prop} {height : τ → Nat} {t u : τ} {t? u? : Option τ}
  {x : TypeStep} {path : List TypeStep}

/-! ## Steps that an oracle allows -/

/-- A type is a block: its canonical form is of the kind of blocks, and it points to a type that answers `w`. -/
structure HasSignature (o : TypeOracle τ δ) (t : τ) (w : TypeView τ) : Prop where
  kind : o.canonicalKind t = .ok "BlockPointer"
  pointee : ∃ v p, o.view t = .ok v ∧ v.pointee? = some p ∧ o.view p = .ok w

/-- An oracle allows a step, to a type or to one that it does not answer. -/
inductive Leads (o : TypeOracle τ δ) (t : τ) : TypeStep → Option τ → Prop
  | element {v : TypeView τ} {u : τ} (hv : o.view t = .ok v) (hu : v.element? = some u) : Leads o t .element (some u)
  | pointee {v : TypeView τ} {u : τ} (hv : o.view t = .ok v) (hu : v.pointee? = some u) : Leads o t .pointee (some u)
  | blockResult {w : TypeView τ} {u : τ} {kind : String} (hw : o.HasSignature t w) (hu : w.result? = some u)
      (hkind : o.canonicalKind u = .ok kind) (hresult : kind ≠ "Void" ∧ kind ≠ "Invalid") :
      Leads o t .blockResult (some u)
  | blockParameter {w : TypeView τ} {i : Nat} (hw : o.HasSignature t w) (hi : (i : Int) < max 0 w.argumentCount) :
      Leads o t (.blockParameter i) (w.argument? i)

/-- An oracle allows a path, to a type or to one that it does not answer; from there no path leads on. -/
inductive Reaches (o : TypeOracle τ δ) : Option τ → List TypeStep → Option τ → Prop
  | here {t? : Option τ} : Reaches o t? [] t?
  | step {t : τ} {t? u? : Option τ} {x : TypeStep} {path : List TypeStep} (hstep : o.Leads t x t?)
      (hrest : Reaches o t? path u?) : Reaches o (some t) (x :: path) u?

/-! ## Founded oracles -/

/-- One type is composed of another, as an oracle answers. -/
def Composed (o : TypeOracle τ δ) (u t : τ) : Prop := ∃ v, o.view t = .ok v ∧ v.HasPart u

/-- One type is a step away from another. -/
def OneStep (o : TypeOracle τ δ) (u t : τ) : Prop := ∃ x, o.Leads t x (some u)

/-- On a set of handles, every question is answered by handles of the set. -/
structure Answering (o : TypeOracle τ δ) (P : τ → Prop) : Prop where
  view : ∀ t, P t → ∃ v, o.view t = .ok v ∧ P v.canonical ∧ ∀ u, v.HasPart u → P u
  file : ∀ t, P t → ∃ file?, o.DefinedIn t file?

/-- Moreover no steps from a handle of the set go on forever. -/
structure Founded (o : TypeOracle τ δ) (P : τ → Prop) : Prop extends o.Answering P where
  acc : ∀ t, P t → Acc o.OneStep t

/-- A step goes one or two levels down. -/
theorem Leads.composed (h : o.Leads t x (some u)) : Relation.TransGen o.Composed u t := by
  generalize hu? : some u = u? at h
  cases h with
  | element hv hu => cases hu?; exact .single ⟨_, hv, .element hu⟩
  | pointee hv hu => cases hu?; exact .single ⟨_, hv, .pointee hu⟩
  | blockResult hw hu =>
    cases hu?
    obtain ⟨v, p, hv, hp, hw⟩ := hw.pointee
    exact .tail (.single ⟨_, hw, .result hu⟩) ⟨_, hv, .pointee hp⟩
  | @blockParameter w i hw =>
    obtain ⟨v, p, hv, hp, hw⟩ := hw.pointee
    exact .tail (.single ⟨_, hw, .argument i hu?.symm⟩) ⟨_, hv, .pointee hp⟩

/-- Where the composition of types has no endless descent, steps have none. -/
theorem Founded.of_composition (h : o.Answering P) (hacc : ∀ t, P t → Acc o.Composed t) : o.Founded P where
  toAnswering := h
  acc t ht := Subrelation.accessible (fun ⟨_, hx⟩ => hx.composed) (hacc t ht).transGen

theorem Answering.of_composed (h : o.Answering P) (ht : P t) (hu : o.Composed u t) : P u := by
  obtain ⟨v, hv, hpart⟩ := hu
  obtain ⟨w, hw, -, hparts⟩ := h.view t ht
  obtain rfl := eq_of_eq_ok hw hv
  exact hparts u hpart

/-- Steps from a handle of the set stay in it. -/
theorem Answering.of_leads (h : o.Answering P) (ht : P t) (hu : o.Leads t x (some u)) : P u := by
  have hdown := hu.composed
  clear hu
  induction hdown using Relation.TransGen.head_induction_on with
  | single hu => exact h.of_composed ht hu
  | head hu _ ih => exact h.of_composed ih hu

/-- Paths from a handle of the set stay in it. -/
theorem Answering.of_reaches (h : o.Answering P) {t? : Option τ} (ht : ∀ t, t? = some t → P t)
    (hpath : o.Reaches t? path u?) : ∀ u, u? = some u → P u := by
  induction hpath with
  | here => exact ht
  | step hstep _ ih => exact ih fun u hu => h.of_leads (ht _ rfl) (hu ▸ hstep)

/-- If parts lie lower, the composition of types has no endless descent. -/
theorem Grounded.acc_composed (h : o.Grounded P height) (ht : P t) : Acc o.Composed t := by
  induction hheight : height t using Nat.strong_induction_on generalizing t with
  | _ n ih =>
    refine ⟨t, fun u ⟨v, hv, hpart⟩ => ?_⟩
    obtain ⟨w, hw, -, hparts⟩ := h.view t ht
    obtain rfl := eq_of_eq_ok hw hv
    obtain ⟨hu, hlt⟩ := hparts u hpart
    exact ih (height u) (hheight ▸ hlt) hu rfl

/-- An oracle all of whose parts lie lower is founded. -/
theorem Grounded.founded (h : o.Grounded P height) : o.Founded P := by
  refine Founded.of_composition ⟨fun t ht => ?_, h.file⟩ fun t ht => h.acc_composed ht
  obtain ⟨v, hv, hcanonical, hparts⟩ := h.view t ht
  exact ⟨v, hv, hcanonical, fun u hu => (hparts u hu).1⟩

end TypeOracle

end HeaderCatalog
