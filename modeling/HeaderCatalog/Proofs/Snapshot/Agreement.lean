import HeaderCatalog.Proofs.Result
import HeaderCatalog.Snapshot.Validity

/-!
# Questions with the same answer

Two questions agree (`Agree`) when both are answered, and alike. Agreement goes through everything that answers are
built with: one question after another (`Agree.bind`), a function of an answer (`Agree.map`), a question for each item
of a list (`Agree.mapM`).
-/

namespace HeaderCatalog

/-- Both questions are answered, and alike. -/
def Agree {α : Type} (a b : Except Fault α) : Prop := ∃ x, a = .ok x ∧ b = .ok x

namespace Agree

variable {α β γ : Type}

theorem ok (x : α) : Agree (.ok x) (.ok x) := ⟨x, rfl, rfl⟩

theorem eq {a b : Except Fault α} (h : Agree a b) : a = b := by
  obtain ⟨x, ha, hb⟩ := h
  rw [ha, hb]

theorem bind {a b : Except Fault α} {f g : α → Except Fault β} (h : Agree a b) (hfg : ∀ x, Agree (f x) (g x)) :
    Agree (a >>= f) (b >>= g) := by
  obtain ⟨x, rfl, rfl⟩ := h
  exact hfg x

theorem map {a b : Except Fault α} (f : α → β) (h : Agree a b) : Agree (f <$> a) (f <$> b) := by
  obtain ⟨x, rfl, rfl⟩ := h
  exact ⟨f x, rfl, rfl⟩

theorem mapM {f g : α → Except Fault β} {as : List α} (h : ∀ a ∈ as, Agree (f a) (g a)) :
    Agree (as.mapM f) (as.mapM g) := by
  induction as with
  | nil => exact ok []
  | cons a as ih =>
    rw [List.mapM_cons, List.mapM_cons]
    exact (h a List.mem_cons_self).bind fun b =>
      (ih fun a ha => h a (List.mem_cons_of_mem _ ha)).bind fun bs => ok (b :: bs)

theorem ite {p : Prop} [Decidable p] {a a' b b' : Except Fault α} (h : Agree a a') (h' : Agree b b') :
    Agree (if p then a else b) (if p then a' else b') := by
  split
  · exact h
  · exact h'

/-- The second list may consist of the images of the items of the first. -/
theorem mapM_map {f : α → Except Fault β} {g : γ → Except Fault β} {h : α → γ} {as : List α}
    (hfg : ∀ a ∈ as, Agree (f a) (g (h a))) : Agree (as.mapM f) ((as.map h).mapM g) := by
  rw [List.mapM_map]
  exact mapM hfg

/-- Instead of a list there may be a value or none. -/
theorem option {f : α → Except Fault β} {g : γ → Except Fault β} {h : α → γ} {a? : Option α}
    (hfg : ∀ a, a? = some a → Agree (f a) (g (h a))) : Agree (a?.mapM f) ((a?.map h).mapM g) := by
  cases a? with
  | none => exact ok none
  | some a => exact (hfg a rfl).map some

end Agree

end HeaderCatalog
