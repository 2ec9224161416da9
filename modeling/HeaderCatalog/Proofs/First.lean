import Mathlib.Data.Set.Lattice

/-!
# Searches that find what comes first

Something may be found at places that have an order. A search finds what is at a first place (`FindsFirst`) if it goes
through the places in their order: one set of places after another (`FindsFirst.or`), the places of the items of a list
(`findsFirst_find?`), or a set of places for each item (`findsFirst_findSome?`).
-/

namespace HeaderCatalog

variable {ι δ : Type} [LE ι] {At : ι → δ → Prop} {P Q : Set ι}

/-- Among the places of a set a search finds what is at a first one, or there is nothing at any of them. -/
def FindsFirst (At : ι → δ → Prop) (P : Set ι) : Option δ → Prop
  | none => ∀ k ∈ P, ∀ d, ¬At k d
  | some d => ∃ k ∈ P, At k d ∧ ∀ k' ∈ P, ∀ d', At k' d' → k ≤ k'

/-- Places at which there is nothing make no difference. -/
theorem FindsFirst.congr {d? : Option δ} (h : FindsFirst At P d?) (hP : ∀ k ∈ P, k ∈ Q)
    (hQ : ∀ k ∈ Q, ∀ d, At k d → k ∈ P) : FindsFirst At Q d? := by
  cases d? with
  | none => exact fun k hk d hd => h k (hQ k hk d hd) d hd
  | some d =>
    obtain ⟨k, hk, hd, hfirst⟩ := h
    exact ⟨k, hP k hk, hd, fun k' hk' d' hd' => hfirst k' (hQ k' hk' d' hd') d' hd'⟩

/-- One search after another, if the places of the first come before those of the second. -/
theorem FindsFirst.or {d? e? : Option δ} (hd : FindsFirst At P d?) (he : FindsFirst At Q e?)
    (hbefore : ∀ k ∈ P, ∀ k' ∈ Q, k ≤ k') : FindsFirst At (P ∪ Q) (d?.or e?) := by
  cases d? with
  | some d =>
    obtain ⟨k, hk, hat, hfirst⟩ := hd
    refine ⟨k, Or.inl hk, hat, fun k' hk' d' hat' => ?_⟩
    rcases hk' with hk' | hk'
    · exact hfirst k' hk' d' hat'
    · exact hbefore k hk k' hk'
  | none =>
    refine he.congr (fun k hk => Or.inr hk) fun k hk d hat => ?_
    exact hk.resolve_left fun hk => hd k hk d hat

/-- The first item of a list that passes a test, if there is something exactly at the places of such items. -/
theorem findsFirst_find? {α : Type} {items : List α} {test : α → Bool} {defect : α → δ} {place : Nat → ι}
    (hat : ∀ n d, At (place n) d ↔ ∃ a, items[n]? = some a ∧ test a = true ∧ d = defect a)
    (hplace : ∀ n n', n ≤ n' → place n ≤ place n') :
    FindsFirst At (Set.range place) ((items.find? test).map defect) := by
  cases hfind : items.find? test with
  | none =>
    rintro k ⟨n, rfl⟩ d hd
    obtain ⟨a, ha, htest, -⟩ := (hat n d).mp hd
    exact List.find?_eq_none.mp hfind a (List.mem_of_getElem? ha) htest
  | some a =>
    obtain ⟨htest, n, hn, ha, hbefore⟩ := List.find?_eq_some_iff_getElem.mp hfind
    refine ⟨place n, ⟨n, rfl⟩, (hat n _).mpr ⟨a, ?_, htest, rfl⟩, ?_⟩
    · rw [List.getElem?_eq_getElem hn, ha]
    · rintro k' ⟨n', rfl⟩ d' hd'
      refine hplace n n' (Nat.le_of_not_lt fun hlt => ?_)
      obtain ⟨b, hb, htest', -⟩ := (hat n' d').mp hd'
      obtain ⟨hn', rfl⟩ := List.getElem?_eq_some_iff.mp hb
      have hfails := hbefore n' hlt
      rw [htest'] at hfails
      cases hfails

/-- What is found in the items of a list, one after the other. -/
theorem findsFirst_findSome? {α : Type} {items : List α} {f : α → Option δ} {P : Nat → Set ι}
    (hitem : ∀ n a, items[n]? = some a → FindsFirst At (P n) (f a))
    (hbefore : ∀ n n', n < n' → ∀ k ∈ P n, ∀ k' ∈ P n', k ≤ k') :
    FindsFirst At (⋃ n < items.length, P n) (items.findSome? f) := by
  induction items generalizing P with
  | nil => intro k hk; simp at hk
  | cons a items ih =>
    have hfirst : FindsFirst At (P 0) (f a) := hitem 0 a rfl
    have hrest := ih (P := fun n => P (n + 1)) (fun n b hb => hitem (n + 1) b hb)
      fun n n' hlt => hbefore (n + 1) (n' + 1) (by omega)
    have hor : (a :: items).findSome? f = (f a).or (items.findSome? f) := by
      rw [List.findSome?_cons]
      cases f a <;> rfl
    rw [hor]
    refine (hfirst.or hrest fun k hk k' hk' => ?_).congr (fun k hk => ?_) fun k hk d _ => ?_
    · obtain ⟨n, -, hk'⟩ := Set.mem_iUnion₂.mp hk'
      exact hbefore 0 (n + 1) (by omega) k hk k' hk'
    · rcases hk with hk | hk
      · exact Set.mem_iUnion₂.mpr ⟨0, by simp, hk⟩
      · obtain ⟨n, hn, hk⟩ := Set.mem_iUnion₂.mp hk
        exact Set.mem_iUnion₂.mpr ⟨n + 1, by simpa using hn, hk⟩
    · obtain ⟨n, hn, hk⟩ := Set.mem_iUnion₂.mp hk
      cases n with
      | zero => exact Or.inl hk
      | succ n => exact Or.inr (Set.mem_iUnion₂.mpr ⟨n, by simpa using hn, hk⟩)

end HeaderCatalog
