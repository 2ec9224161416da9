import HeaderCatalog.CommandLine.Request
import HeaderCatalog.Proofs.CommandLine.Words

/-!
# What a command line means

A command line names an action behind flags, and the words behind the name say what the command is to do (`Means`): its
inputs and options (`Chooses`), whether the text is compact, and where it goes. So words mean one command at most
(`Means.unique`).
-/

namespace HeaderCatalog.CommandLine

/-- A flag gives a text, once, or is not said at all. -/
def Gives (said : List Pending) (f : Flag) (text? : Option String) : Prop :=
  said.filter (·.flag = f) = text?.toList.map fun text => ⟨f, [text]⟩

namespace Gives

variable {said : List Pending} {f : Flag} {text? : Option String}

theorem unique {text?' : Option String} (h : Gives said f text?) (h' : Gives said f text?') : text? = text?' := by
  have hsame := h.symm.trans h'
  cases text? <;> cases text?' <;> simp_all

end Gives

/-- Words name an action behind flags, and others follow. -/
def Names (words : List String) (name : String) (after : List String) : Prop :=
  ∃ before, words = before ++ name :: after ∧ ∀ word ∈ before, ¬IsValue word

/-- What the words behind the name of an action say chooses its inputs and options. -/
structure Chooses (after : List String) (said : List Pending) (inputs : List String) (o : Options) : Prop where
  ne_nil : inputs ≠ []
  inputs : inputs = (said.filter (·.flag = .input)).flatMap (·.values)
  platform : ∃ text?, Gives said .platform text? ∧ o.platform = text?.getD "macos"
  target : ∃ text?, Gives said .target text? ∧ Option.Rel (fun text v => Version.parse? text = some v) text? o.target?
  framework : Gives said .framework o.framework?
  deprecated : o.keepDeprecated = true ↔ "--include-deprecated" ∈ after

/-- What a command line asks for. -/
inductive Means (words : List String) : Command → Prop
  | extract {after : List String} {said : List Pending} {inputs : List String} {o : Options} {out? : Option String}
      {isCompact : Bool} (hname : Names words "extract" after) (hsay : WordsSay after said)
      (hchooses : Chooses after said inputs o) (hout : Gives said .out out?)
      (hcompact : isCompact = true ↔ "--compact" ∈ after) (hnoOp : "--no-op" ∉ after) :
      Means words (.extract inputs o out? isCompact)
  | nothing {after : List String} (hname : Names words "extract" after) (hnoOp : "--no-op" ∈ after) :
      Means words .nothing
  | list {after : List String} {said : List Pending} {inputs : List String} {o : Options}
      (hname : Names words "list" after) (hsay : WordsSay after said) (hchooses : Chooses after said inputs o) :
      Means words (.list inputs o)

/-! ## A command line asks for one command -/

theorem isValue_extract : IsValue "extract" := fun _ _ h => nomatch h

theorem isValue_list : IsValue "list" := fun _ _ h => nomatch h

/-- The action is named by the first word that is a value, by induction on the flags in front. -/
theorem Names.unique {words after after' : List String} {name name' : String} (h : Names words name after)
    (h' : Names words name' after') (hname : IsValue name) (hname' : IsValue name') :
    name = name' ∧ after = after' := by
  obtain ⟨before, rfl, hbefore⟩ := h
  obtain ⟨before', hwords, hbefore'⟩ := h'
  induction before generalizing before' with
  | nil =>
    cases before' with
    | nil => exact List.cons.inj hwords
    | cons word before' =>
      obtain ⟨rfl, -⟩ := List.cons.inj hwords
      exact absurd hname (hbefore' name List.mem_cons_self)
  | cons word before ih =>
    cases before' with
    | nil =>
      obtain ⟨rfl, -⟩ := List.cons.inj hwords
      exact absurd hname' (hbefore word List.mem_cons_self)
    | cons word' before' =>
      obtain ⟨-, hwords⟩ := List.cons.inj hwords
      exact ih (List.forall_mem_cons.mp hbefore).2 before' hwords (List.forall_mem_cons.mp hbefore').2

theorem Names.not_list {words after after' : List String} (h : Names words "extract" after) :
    ¬Names words "list" after' := by
  intro h'
  obtain ⟨hsame, -⟩ := h.unique h' isValue_extract isValue_list
  exact absurd hsame (by decide)

theorem parsed_unique {text? : Option String} {v? v?' : Option Version}
    (h : Option.Rel (fun text v => Version.parse? text = some v) text? v?)
    (h' : Option.Rel (fun text v => Version.parse? text = some v) text? v?') : v? = v?' := by
  cases h with
  | none =>
    cases h'
    rfl
  | some hv =>
    cases h' with
    | some hv' => exact hv.symm.trans hv'

/-- What is said chooses one list of inputs and one set of options. -/
theorem Chooses.unique {after inputs inputs' : List String} {said : List Pending} {o o' : Options}
    (h : Chooses after said inputs o) (h' : Chooses after said inputs' o') : inputs = inputs' ∧ o = o' := by
  obtain ⟨platform?, hplatform, hvalue⟩ := h.platform
  obtain ⟨platform?', hplatform', hvalue'⟩ := h'.platform
  obtain ⟨target?, htarget, hparse⟩ := h.target
  obtain ⟨target?', htarget', hparse'⟩ := h'.target
  have hframework := h.framework.unique h'.framework
  have hdeprecated := Bool.eq_iff_iff.mpr (h.deprecated.trans h'.deprecated.symm)
  obtain rfl := hplatform.unique hplatform'
  obtain rfl := htarget.unique htarget'
  have hversion := parsed_unique hparse hparse'
  refine ⟨h.inputs.trans h'.inputs.symm, ?_⟩
  cases o
  cases o'
  simp_all

/-- Words mean one command. -/
theorem Means.unique {words : List String} {command command' : Command} (h : Means words command)
    (h' : Means words command') : command = command' := by
  cases h with
  | extract hname hsay hchooses hout hcompact hnoOp =>
    cases h' with
    | extract hname' hsay' hchooses' hout' hcompact' =>
      obtain ⟨-, rfl⟩ := hname.unique hname' isValue_extract isValue_extract
      obtain rfl := hsay.unique hsay'
      obtain ⟨rfl, rfl⟩ := hchooses.unique hchooses'
      obtain rfl := hout.unique hout'
      rw [Bool.eq_iff_iff.mpr (hcompact.trans hcompact'.symm)]
    | nothing hname' hnoOp' =>
      obtain ⟨-, rfl⟩ := hname.unique hname' isValue_extract isValue_extract
      exact absurd hnoOp' hnoOp
    | list hname' => exact (hname.not_list hname').elim
  | nothing hname hnoOp =>
    cases h' with
    | extract hname' _ _ _ _ hnoOp' =>
      obtain ⟨-, rfl⟩ := hname.unique hname' isValue_extract isValue_extract
      exact absurd hnoOp hnoOp'
    | nothing => rfl
    | list hname' => exact (hname.not_list hname').elim
  | list hname hsay hchooses =>
    cases h' with
    | extract hname' => exact (hname'.not_list hname).elim
    | nothing hname' => exact (hname'.not_list hname).elim
    | list hname' hsay' hchooses' =>
      obtain ⟨-, rfl⟩ := hname.unique hname' isValue_list isValue_list
      obtain rfl := hsay.unique hsay'
      obtain ⟨rfl, rfl⟩ := hchooses.unique hchooses'
      rfl

end HeaderCatalog.CommandLine
