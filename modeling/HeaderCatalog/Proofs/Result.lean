import Mathlib.Data.List.Forall2

/-!
# What a result comes from

A computation that may fail gives a result only through the results of its parts: those of a sequence
(`exists_of_bind_eq_ok`), of a function of a result (`exists_of_map_eq_ok`), and of one computation for each item of a
list, where results and items stand side by side (`mapM_eq_ok_iff`), or for a value that may be missing
(`option_mapM_eq_ok_iff`).
-/

namespace HeaderCatalog

variable {α β ε : Type}

/-- What follows a result is computed from that result. -/
@[simp]
theorem ok_bind (a : α) (f : α → Except ε β) : ((Except.ok a : Except ε α) >>= f) = f a := rfl

theorem exists_of_bind_eq_ok {x : Except ε α} {f : α → Except ε β} {b : β} (h : x >>= f = .ok b) :
    ∃ a, x = .ok a ∧ f a = .ok b := by
  cases x with
  | error e => cases h
  | ok a => exact ⟨a, rfl, h⟩

/-- A computation has one result. -/
theorem eq_of_eq_ok {x : Except ε α} {a b : α} (ha : x = .ok a) (hb : x = .ok b) : a = b :=
  Except.ok.inj (ha.symm.trans hb)

theorem exists_of_map_eq_ok {x : Except ε α} {f : α → β} {b : β} (h : x.map f = .ok b) :
    ∃ a, x = .ok a ∧ f a = b := by
  cases x with
  | error e => cases h
  | ok a => exact ⟨a, rfl, Except.ok.inj h⟩

theorem eq_ok_of_mapError {ε' : Type} {x : Except ε α} {f : ε → ε'} {a : α} (h : x.mapError f = .ok a) :
    x = .ok a := by
  cases x with
  | error e => cases h
  | ok b => exact congrArg Except.ok (Except.ok.inj h)

/-- What goes wrong in a sequence goes wrong in its first part or in the rest. -/
theorem of_bind_eq_error {x : Except ε α} {f : α → Except ε β} {e : ε} (h : x >>= f = .error e) :
    x = .error e ∨ ∃ a, x = .ok a ∧ f a = .error e := by
  cases x with
  | error e' =>
    cases h
    exact Or.inl rfl
  | ok a => exact Or.inr ⟨a, rfl, h⟩

theorem exists_of_mapError_eq_error {ε' : Type} {x : Except ε α} {f : ε → ε'} {e : ε'}
    (h : x.mapError f = .error e) : ∃ e', x = .error e' ∧ f e' = e := by
  cases x with
  | error e' => exact ⟨e', rfl, Except.error.inj h⟩
  | ok a => cases h

/-! ## One computation for each item -/

variable {f : α → Except ε β} {as : List α} {bs : List β}

/-- The results are those of the items, one by one. -/
theorem mapM_eq_ok_iff : as.mapM f = .ok bs ↔ List.Forall₂ (fun a b => f a = .ok b) as bs := by
  induction as generalizing bs with
  | nil =>
    rw [List.mapM_nil, List.forall₂_nil_left_iff]
    exact ⟨fun h => (Except.ok.inj h).symm, fun h => congrArg Except.ok h.symm⟩
  | cons a as ih =>
    rw [List.mapM_cons, List.forall₂_cons_left_iff]
    constructor
    · intro h
      obtain ⟨b, hb, h⟩ := exists_of_bind_eq_ok h
      obtain ⟨bs', hbs, h⟩ := exists_of_bind_eq_ok h
      exact ⟨b, bs', hb, ih.mp hbs, (Except.ok.inj h).symm⟩
    · rintro ⟨b, bs', hb, hbs, rfl⟩
      rw [hb, ih.mpr hbs]
      rfl

/-- Of two lists that are related one by one, each item of the second is related to one of the first. -/
theorem exists_mem_of_forall₂ {R : α → β → Prop} (h : List.Forall₂ R as bs) {b : β} (hb : b ∈ bs) :
    ∃ a ∈ as, R a b := by
  induction h with
  | nil => cases hb
  | @cons a b' as bs ha _ ih =>
    rcases List.mem_cons.mp hb with rfl | hb
    · exact ⟨a, List.mem_cons_self, ha⟩
    · obtain ⟨a', hmem, ha'⟩ := ih hb
      exact ⟨a', List.mem_cons_of_mem _ hmem, ha'⟩

/-- Every result is that of an item. -/
theorem exists_of_mem_mapM (h : as.mapM f = .ok bs) {b : β} (hb : b ∈ bs) : ∃ a ∈ as, f a = .ok b :=
  exists_mem_of_forall₂ (mapM_eq_ok_iff.mp h) hb

/-- Every item has a result. -/
theorem exists_mem_of_mapM (h : as.mapM f = .ok bs) {a : α} (ha : a ∈ as) : ∃ b ∈ bs, f a = .ok b :=
  exists_mem_of_forall₂ (mapM_eq_ok_iff.mp h).flip ha

/-- A list stands beside the first so many numbers if it has that many items, each related to its place. -/
theorem forall₂_range_iff {R : Nat → β → Prop} {n : Nat} :
    List.Forall₂ R (List.range n) bs ↔ bs.length = n ∧ ∀ i b, bs[i]? = some b → R i b := by
  rw [List.forall₂_iff_get]
  constructor
  · rintro ⟨hlength, h⟩
    refine ⟨by simpa using hlength.symm, fun i b hb => ?_⟩
    obtain ⟨hi, rfl⟩ := List.getElem?_eq_some_iff.mp hb
    simpa using h i (by omega) hi
  · rintro ⟨hlength, h⟩
    refine ⟨by simpa using hlength.symm, fun i _ hi => ?_⟩
    simpa using h i bs[i] (List.getElem?_eq_getElem hi)

/-- If each item is related to something, a list of items is, one by one. -/
theorem exists_forall₂ {R : α → β → Prop} (h : ∀ a ∈ as, ∃ b, R a b) : ∃ bs, List.Forall₂ R as bs := by
  induction as with
  | nil => exact ⟨[], .nil⟩
  | cons a as ih =>
    obtain ⟨b, hb⟩ := h a List.mem_cons_self
    obtain ⟨bs, hbs⟩ := ih fun a' ha' => h a' (List.mem_cons_of_mem _ ha')
    exact ⟨b :: bs, .cons hb hbs⟩

/-- If each item has a result, all of them have. -/
theorem exists_mapM_eq_ok (h : ∀ a ∈ as, ∃ b, f a = .ok b) : ∃ bs, as.mapM f = .ok bs := by
  obtain ⟨bs, hbs⟩ := exists_forall₂ h
  exact ⟨bs, mapM_eq_ok_iff.mpr hbs⟩

/-- What goes wrong for a list goes wrong for one of its items. -/
theorem exists_of_mapM_eq_error {e : ε} (h : as.mapM f = .error e) : ∃ a ∈ as, f a = .error e := by
  induction as with
  | nil => cases h
  | cons a as ih =>
    rw [List.mapM_cons] at h
    cases hb : f a with
    | error e' =>
      rw [hb] at h
      cases h
      exact ⟨a, List.mem_cons_self, hb⟩
    | ok b =>
      rw [hb, ok_bind] at h
      cases hbs : as.mapM f with
      | error e' =>
        rw [hbs] at h
        cases h
        obtain ⟨a', ha', he⟩ := ih hbs
        exact ⟨a', List.mem_cons_of_mem _ ha', he⟩
      | ok bs =>
        rw [hbs] at h
        cases h

/-- The results of a list that is cut into chunks are those of the chunks, one chunk after the other. -/
theorem exists_parts_of_mapM {chunks : List (List α)} (h : chunks.flatten.mapM f = .ok bs) :
    ∃ parts : List (List β), List.Forall₂ (fun chunk part => chunk.mapM f = .ok part) chunks parts ∧
      parts.flatten = bs := by
  induction chunks generalizing bs with
  | nil => exact ⟨[], .nil, Except.ok.inj h⟩
  | cons chunk chunks ih =>
    rw [List.flatten_cons, List.mapM_append] at h
    obtain ⟨part, hpart, h⟩ := exists_of_bind_eq_ok h
    obtain ⟨rest, hrest, h⟩ := exists_of_bind_eq_ok h
    obtain ⟨parts, hparts, rfl⟩ := ih hrest
    exact ⟨part :: parts, .cons hpart hparts, Except.ok.inj h⟩

/-! ## A value that may be missing -/

/-- There is a result where there is a value. -/
theorem option_mapM_eq_ok_iff {a? : Option α} {b? : Option β} :
    a?.mapM f = .ok b? ↔ Option.Rel (fun a b => f a = .ok b) a? b? := by
  cases a? with
  | none =>
    constructor
    · intro h
      cases h
      exact .none
    · rintro ⟨⟩
      rfl
  | some a =>
    constructor
    · intro h
      obtain ⟨b, hb, rfl⟩ := exists_of_map_eq_ok h
      exact .some hb
    · rintro ⟨⟩
      rename_i b hb
      show f a >>= _ = _
      rw [hb]
      rfl

end HeaderCatalog
