/-!
# Splitting at a character

`splitAt sep s` is the list of the pieces of a text between the separators, empty ones included; joined by separators
they are the text again (`join_splitAt`). The other way round, pieces without separators are found again in what they
are joined to (`splitAt_join`).
-/

namespace HeaderCatalog.Text

/-- A character in front of the first of the pieces. -/
def consFirst (c : Char) : List (List Char) → List (List Char)
  | [] => [[c]]
  | w :: ws => (c :: w) :: ws

/-- The pieces of a text between separators. -/
def splitAt (sep : Char) : List Char → List (List Char)
  | [] => [[]]
  | c :: s => if c = sep then [] :: splitAt sep s else consFirst c (splitAt sep s)

/-- Pieces with separators between them. -/
def join (sep : Char) : List (List Char) → List Char
  | [] => []
  | [w] => w
  | w :: v :: ws => w ++ sep :: join sep (v :: ws)

theorem splitAt_ne_nil (sep : Char) (s : List Char) : splitAt sep s ≠ [] := by
  cases s with
  | nil => simp [splitAt]
  | cons c s =>
    simp only [splitAt]
    split
    · simp
    · cases splitAt sep s <;> simp [consFirst]

theorem join_splitAt (sep : Char) (s : List Char) : join sep (splitAt sep s) = s := by
  induction s with
  | nil => rfl
  | cons c s ih =>
    have hne := splitAt_ne_nil sep s
    simp only [splitAt]
    split
    · rename_i hc
      subst hc
      cases h : splitAt c s with
      | nil => exact absurd h hne
      | cons w ws => rw [h] at ih; simp [join, ih]
    · cases h : splitAt sep s with
      | nil => exact absurd h hne
      | cons w ws => rw [h] at ih; cases ws <;> simp_all [consFirst, join]

theorem splitAt_of_not_mem {sep : Char} {w : List Char} (h : sep ∉ w) : splitAt sep w = [w] := by
  induction w with
  | nil => rfl
  | cons c w ih =>
    rw [List.mem_cons, not_or] at h
    rw [splitAt, if_neg (Ne.symm h.1), ih h.2, consFirst]

theorem splitAt_append {sep : Char} {w : List Char} (h : sep ∉ w) (s : List Char) :
    splitAt sep (w ++ sep :: s) = w :: splitAt sep s := by
  induction w with
  | nil => rw [List.nil_append, splitAt, if_pos rfl]
  | cons c w ih =>
    rw [List.mem_cons, not_or] at h
    rw [List.cons_append, splitAt, if_neg (Ne.symm h.1), ih h.2, consFirst]

theorem splitAt_join {sep : Char} {ws : List (List Char)} (hne : ws ≠ []) (h : ∀ w ∈ ws, sep ∉ w) :
    splitAt sep (join sep ws) = ws := by
  induction ws with
  | nil => exact absurd rfl hne
  | cons w ws ih =>
    have hw := h w List.mem_cons_self
    cases ws with
    | nil => exact splitAt_of_not_mem hw
    | cons v ws =>
      rw [join, splitAt_append hw, ih (List.cons_ne_nil v ws) fun u hu => h u (List.mem_cons_of_mem _ hu)]

/-- A character of joined pieces is a separator or one of a piece. -/
theorem mem_join {sep c : Char} {ws : List (List Char)} (h : c ∈ join sep ws) : c = sep ∨ ∃ w ∈ ws, c ∈ w := by
  induction ws with
  | nil => cases h
  | cons w ws ih =>
    cases ws with
    | nil => exact .inr ⟨w, List.mem_cons_self, h⟩
    | cons v ws =>
      rw [join, List.mem_append, List.mem_cons] at h
      rcases h with h | rfl | h
      · exact .inr ⟨w, List.mem_cons_self, h⟩
      · exact .inl rfl
      · rcases ih h with rfl | ⟨u, hu, hc⟩
        · exact .inl rfl
        · exact .inr ⟨u, List.mem_cons_of_mem _ hu, hc⟩

end HeaderCatalog.Text
