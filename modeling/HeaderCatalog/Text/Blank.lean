/-!
# Blanks

The characters of white space, as the Unicode property of that name lists them, and the removal of blanks from both
ends of a text. The last character that `trim` leaves is no blank (`getLast?_trimEnd`), a first character that is no
blank stays (`trimEnd_cons`), and a text without blanks stays as it is (`trim_eq_self`). Nothing but blanks is removed
(`exists_trim`), and blanks put around a text do not show (`trim_append`). This is all that there is to `trimEnd` and
`trim` (`trimEnd_eq_iff`, `trim_eq_iff`).
-/

namespace HeaderCatalog.Text

/-- A character of white space. -/
def isBlank (c : Char) : Bool :=
  let n := c.toNat
  (0x9 ≤ n && n ≤ 0xd) || n == 0x20 || n == 0x85 || n == 0xa0 || n == 0x1680 || (0x2000 ≤ n && n ≤ 0x200a) ||
    n == 0x2028 || n == 0x2029 || n == 0x202f || n == 0x205f || n == 0x3000

/-- The text without the blanks at its end. -/
def trimEnd (s : List Char) : List Char :=
  (s.reverse.dropWhile isBlank).reverse

/-- The text without the blanks at its two ends. -/
def trim (s : List Char) : List Char :=
  trimEnd (s.dropWhile isBlank)

/-- The last character that is left is no blank. -/
theorem getLast?_trimEnd {s : List Char} {c : Char} (h : (trimEnd s).getLast? = some c) : isBlank c = false := by
  rw [trimEnd, List.getLast?_reverse] at h
  have := List.head?_dropWhile_not isBlank s.reverse
  rw [h] at this
  simpa using this

/-- Removing blanks at the end keeps a first character that is no blank. -/
theorem trimEnd_cons {c : Char} {s : List Char} (h : isBlank c = false) : trimEnd (c :: s) = c :: trimEnd s := by
  simp only [trimEnd, List.reverse_cons]
  rw [List.dropWhile_append]
  split
  · rename_i hs
    have : (List.dropWhile isBlank s.reverse) = [] := by simpa using hs
    simp [h, this]
  · simp

theorem trimEnd_eq_self {s : List Char} (h : ∀ c ∈ s, isBlank c = false) : trimEnd s = s := by
  induction s with
  | nil => rfl
  | cons c s ih => rw [trimEnd_cons (h c List.mem_cons_self), ih fun d hd => h d (List.mem_cons_of_mem _ hd)]

/-- A text without blanks stays as it is. -/
theorem trim_eq_self {s : List Char} (h : ∀ c ∈ s, isBlank c = false) : trim s = s := by
  cases s with
  | nil => rfl
  | cons c s => rw [trim, List.dropWhile_cons_of_neg (by simp [h c List.mem_cons_self]), trimEnd_eq_self h]

/-- Blanks at the end do not show. -/
theorem trimEnd_append {s after : List Char} (h : ∀ c ∈ after, isBlank c = true) :
    trimEnd (s ++ after) = trimEnd s := by
  have hreverse : ∀ c ∈ after.reverse, isBlank c = true := fun c hc => h c (List.mem_reverse.mp hc)
  rw [trimEnd, List.reverse_append, List.dropWhile_append_of_pos hreverse, trimEnd]

/-- Only blanks are removed at the end. -/
theorem exists_trimEnd (s : List Char) : ∃ after, s = trimEnd s ++ after ∧ ∀ c ∈ after, isBlank c = true := by
  refine ⟨(s.reverse.takeWhile isBlank).reverse, ?_, ?_⟩
  · rw [trimEnd, ← List.reverse_append, List.takeWhile_append_dropWhile, List.reverse_reverse]
  · intro c hc
    exact List.all_eq_true.mp List.all_takeWhile c (List.mem_reverse.mp hc)

/-- Blanks around a text do not show. -/
theorem trim_append {before s after : List Char} (hbefore : ∀ c ∈ before, isBlank c = true)
    (hafter : ∀ c ∈ after, isBlank c = true) : trim (before ++ (s ++ after)) = trim s := by
  rw [trim, List.dropWhile_append_of_pos hbefore, trim, List.dropWhile_append]
  split
  · rename_i hs
    have hnil : s.dropWhile isBlank = [] := by simpa using hs
    have hafterNil : after.dropWhile isBlank = [] := by
      have happend : (after ++ []).dropWhile isBlank = [] := List.dropWhile_append_of_pos hafter
      rwa [List.append_nil] at happend
    rw [hnil, hafterNil]
  · exact trimEnd_append hafter

/-- Only blanks are removed, at the two ends. -/
theorem exists_trim (s : List Char) : ∃ before after, s = before ++ (trim s ++ after) ∧
    (∀ c ∈ before, isBlank c = true) ∧ ∀ c ∈ after, isBlank c = true := by
  obtain ⟨after, hs, hafter⟩ := exists_trimEnd (s.dropWhile isBlank)
  refine ⟨s.takeWhile isBlank, after, ?_, List.all_eq_true.mp List.all_takeWhile, hafter⟩
  rw [trim, ← hs, List.takeWhile_append_dropWhile]

/-! ## What is left -/

/-- A text is another one without the blanks at its end. -/
structure TrimmedEnd (core s : List Char) : Prop where
  only_blanks : ∃ after, s = core ++ after ∧ ∀ c ∈ after, isBlank c = true
  getLast? : ∀ c ∈ core.getLast?, isBlank c = false

/-- A text is another one without the blanks at its two ends. -/
structure Trimmed (core s : List Char) : Prop where
  only_blanks : ∃ before after, s = before ++ (core ++ after) ∧ (∀ c ∈ before, isBlank c = true) ∧
    ∀ c ∈ after, isBlank c = true
  head? : ∀ c ∈ core.head?, isBlank c = false
  getLast? : ∀ c ∈ core.getLast?, isBlank c = false

/-- Characters in front that are no blanks stay. -/
theorem trimEnd_append_of_not_blank {w s : List Char} (h : ∀ c ∈ w, isBlank c = false) :
    trimEnd (w ++ s) = w ++ trimEnd s := by
  induction w with
  | nil => rfl
  | cons c w ih =>
    rw [List.cons_append, trimEnd_cons (h c List.mem_cons_self), ih fun d hd => h d (List.mem_cons_of_mem _ hd),
      List.cons_append]

/-- Where there is no blank first, none is removed there. -/
theorem dropWhile_isBlank {s : List Char} (h : ∀ c ∈ s.head?, isBlank c = false) : s.dropWhile isBlank = s := by
  cases s with
  | nil => rfl
  | cons c s => exact List.dropWhile_cons_of_neg (by simp [h c rfl])

/-- A text whose last character is no blank stays as it is. -/
theorem trimEnd_of_getLast? {s : List Char} (h : ∀ c ∈ s.getLast?, isBlank c = false) : trimEnd s = s := by
  rw [trimEnd, dropWhile_isBlank (by rwa [List.head?_reverse]), List.reverse_reverse]

/-- The first character that is left is no blank. -/
theorem head?_trim {s : List Char} {c : Char} (h : (trim s).head? = some c) : isBlank c = false := by
  obtain ⟨after, hs, -⟩ := exists_trimEnd (s.dropWhile isBlank)
  have hfirst : (s.dropWhile isBlank).head? = some c := by
    rw [hs, List.head?_append]
    exact Option.or_eq_some_iff.mpr (Or.inl h)
  have hnot := List.head?_dropWhile_not isBlank s
  rw [hfirst] at hnot
  simpa using hnot

theorem trimEnd_eq_iff {s core : List Char} : trimEnd s = core ↔ TrimmedEnd core s := by
  constructor
  · rintro rfl
    exact ⟨exists_trimEnd s, fun c hc => getLast?_trimEnd hc⟩
  · rintro ⟨⟨after, rfl, hafter⟩, hlast⟩
    rw [trimEnd_append hafter, trimEnd_of_getLast? hlast]

theorem trim_eq_iff {s core : List Char} : trim s = core ↔ Trimmed core s := by
  constructor
  · rintro rfl
    exact ⟨exists_trim s, fun c hc => head?_trim hc, fun c hc => getLast?_trimEnd hc⟩
  · rintro ⟨⟨before, after, rfl, hbefore, hafter⟩, hhead, hlast⟩
    rw [trim_append hbefore hafter, trim, dropWhile_isBlank hhead, trimEnd_of_getLast? hlast]

end HeaderCatalog.Text
