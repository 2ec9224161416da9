import HeaderCatalog.Proofs.Json.Document

/-!
# How deep a text nests

`nesting` goes through a text once, from character to character, and counts how many arrays and objects are open at
most; brackets between quotes do not count. A written form comes back to where it began, with as many open in between
as lie in one another in the document (`foldl_write`), so both written forms of a document nest as deep as the document
is (`nesting_compactText`, `nesting_prettyText`).
-/

namespace HeaderCatalog.Json

/-- A point of a text: outside of quotes, between quotes, or there behind a backslash; each with how many arrays and
objects are open and how many have been at most. -/
inductive Nesting where
  | outside (level deepest : Nat)
  | quoted (level deepest : Nat)
  | escaped (level deepest : Nat)
deriving DecidableEq, Repr

namespace Nesting

/-- One character on. -/
def step : Nesting → Char → Nesting
  | outside level deepest, c =>
    if c = '"' then quoted level deepest
    else if c = '[' ∨ c = '\x7b' then outside (level + 1) (max deepest (level + 1))
    else if c = ']' ∨ c = '\x7d' then outside (level - 1) deepest
    else outside level deepest
  | quoted level deepest, c =>
    if c = '"' then outside level deepest
    else if c = '\\' then escaped level deepest
    else quoted level deepest
  | escaped level deepest, _ => quoted level deepest

/-- How many arrays and objects have been open at most. -/
def deepest : Nesting → Nat
  | outside _ deepest | quoted _ deepest | escaped _ deepest => deepest

end Nesting

/-- How many arrays and objects lie in one another in a text. -/
def nesting (text : String) : Nat := (text.toList.foldl Nesting.step (.outside 0 0)).deepest

namespace Nesting

variable {level deepest : Nat}

/-! ## Characters that do not count -/

/-- A character that is neither a quote nor a bracket. -/
def IsPlain (c : Char) : Prop := c ∉ ['"', '[', '\x7b', ']', '\x7d']

theorem step_plain {c : Char} (h : IsPlain c) : step (outside level deepest) c = outside level deepest := by
  simp only [IsPlain, List.mem_cons, List.not_mem_nil, or_false, not_or] at h
  obtain ⟨hquote, harray, hobject, harrayEnd, hobjectEnd⟩ := h
  simp [step, hquote, harray, hobject, harrayEnd, hobjectEnd]

theorem foldl_plain {s : List Char} (h : ∀ c ∈ s, IsPlain c) :
    s.foldl step (outside level deepest) = outside level deepest := by
  induction s with
  | nil => rfl
  | cons c s ih =>
    rw [List.forall_mem_cons] at h
    rw [List.foldl_cons, step_plain h.1, ih h.2]

theorem isPlain_of_isDigit {c : Char} (h : isDigit c = true) : IsPlain c := by
  have hother : ∀ d, isDigit d = false → c ≠ d := fun _ => ne_of_isDigit h
  simp [IsPlain, hother '"' rfl, hother '[' rfl, hother '\x7b' rfl, hother ']' rfl, hother '\x7d' rfl]

theorem isPlain_of_isSpace {c : Char} (h : isSpace c = true) : IsPlain c := by
  intro hmem
  simp only [List.mem_cons, List.not_mem_nil, or_false] at hmem
  rcases hmem with rfl | rfl | rfl | rfl | rfl <;> cases h

theorem foldl_word (value : Bool) : (word value).foldl step (outside level deepest) = outside level deepest := by
  cases value <;> exact foldl_plain (by simp [word, IsPlain])

theorem isPlain_of_mem_toDigits {n : Nat} {c : Char} (h : c ∈ Nat.toDigits 10 n) : IsPlain c :=
  isPlain_of_isDigit (isDigit_of_mem_toDigits h)

/-- A numeral has no brackets. -/
theorem foldl_numeral (n : Numeral) : n.text.foldl step (outside level deepest) = outside level deepest := by
  refine foldl_plain fun c hc => ?_
  have hsign : ∀ c, c = '-' ∨ c = '.' ∨ c = 'e' → IsPlain c := by
    rintro c (rfl | rfl | rfl) <;> simp [IsPlain]
  unfold Numeral.text at hc
  simp only [List.mem_append] at hc
  rcases hc with ((hc | hc) | hc) | hc
  · split at hc
    · exact hsign c (Or.inl (List.mem_singleton.mp hc))
    · cases hc
  · exact isPlain_of_mem_toDigits hc
  · split at hc
    · cases hc
    · rcases List.mem_cons.mp hc with rfl | hc
      · exact hsign _ (by simp)
      · obtain ⟨d, -, rfl⟩ := List.mem_map.mp hc
        exact isPlain_of_isDigit (isDigit_digitChar d)
  · split at hc
    · cases hc
    · rcases List.mem_cons.mp hc with rfl | hc
      · exact hsign _ (by simp)
      · rcases List.mem_append.mp hc with hc | hc
        · split at hc
          · exact hsign c (Or.inl (List.mem_singleton.mp hc))
          · cases hc
        · exact isPlain_of_mem_toDigits hc

/-! ## Texts -/

/-- A hexadecimal digit is neither a quote nor a backslash. -/
theorem digitChar_ne : ∀ d : Fin 16, Nat.digitChar d ≠ '"' ∧ Nat.digitChar d ≠ '\\' := by
  decide

theorem foldl_escape (c : Char) : (escape c).foldl step (quoted level deepest) = quoted level deepest := by
  unfold escape
  split_ifs with hquote hslash hb hf hn hr ht hcontrol
  · rfl
  · rfl
  · rfl
  · rfl
  · rfl
  · rfl
  · rfl
  · obtain ⟨hquote, hslash⟩ := digitChar_ne ⟨c.toNat / 16, by omega⟩
    obtain ⟨hquote', hslash'⟩ := digitChar_ne ⟨c.toNat % 16, by omega⟩
    simp [step, hquote, hslash, hquote', hslash']
  · simp [step, hquote, hslash]

/-- A quoted text ends where it began. -/
theorem foldl_quoted (s : String) : (Json.quoted s).foldl step (outside level deepest) = outside level deepest := by
  have hescape : (s.toList.flatMap escape).foldl step (quoted level deepest) = quoted level deepest := by
    induction s.toList with
    | nil => rfl
    | cons c cs ih => rw [List.flatMap_cons, List.foldl_append, foldl_escape, ih]
  rw [Json.quoted, List.foldl_cons, List.foldl_append]
  exact congrArg (step · '"') hescape

/-! ## Documents -/

section Write

variable (sp : Spacing)

theorem foldl_line (n : Nat) : (sp.line n).foldl step (outside level deepest) = outside level deepest :=
  foldl_plain fun c hc => isPlain_of_isSpace (sp.isSpace_line n c hc)

theorem foldl_afterColon : sp.afterColon.foldl step (outside level deepest) = outside level deepest :=
  foldl_plain fun c hc => isPlain_of_isSpace (sp.isSpace_afterColon c hc)

theorem step_array : step (outside level deepest) '[' = outside (level + 1) (max deepest (level + 1)) := rfl

theorem step_object : step (outside level deepest) '\x7b' = outside (level + 1) (max deepest (level + 1)) := rfl

-- What is open where a part begins counts among the greatest number before it, so a part adds its own depth to it.

mutual

/-- A written form ends where it began, and opens as many arrays and objects as lie in one another in the document. -/
theorem foldl_write : ∀ (n : Nat) {level deepest : Nat} (j : Json), level ≤ deepest →
    (sp.write n j).foldl step (outside level deepest) = outside level (max deepest (level + j.depth))
  | n, level, deepest, .null, hlevel => by
    rw [Spacing.write, foldl_plain (by simp [IsPlain]), depth_null, Nat.add_zero, Nat.max_eq_left hlevel]
  | n, level, deepest, .bool value, hlevel => by
    rw [Spacing.write, foldl_word, depth_bool, Nat.add_zero, Nat.max_eq_left hlevel]
  | n, level, deepest, .number value, hlevel => by
    rw [Spacing.write, foldl_numeral, depth_number, Nat.add_zero, Nat.max_eq_left hlevel]
  | n, level, deepest, .string value, hlevel => by
    rw [Spacing.write, foldl_quoted, depth_string, Nat.add_zero, Nat.max_eq_left hlevel]
  | n, level, deepest, .array [], _ => rfl
  | n, level, deepest, .array (j :: js), hlevel => by
    rw [Spacing.write, List.foldl_cons, List.foldl_append, List.foldl_append, step_array, foldl_line,
      foldl_write (n + 1) j (Nat.le_max_right ..), foldl_writeItems n js (by omega), depth, depthItems]
    congr 1
    omega
  | n, level, deepest, .object [], _ => rfl
  | n, level, deepest, .object ((name, j) :: ms), hlevel => by
    rw [Spacing.write, List.foldl_cons, List.foldl_append, List.foldl_append, step_object, foldl_line, foldl_quoted,
      List.foldl_cons, step_plain (by simp [IsPlain]), List.foldl_append, foldl_afterColon, List.foldl_append,
      foldl_write (n + 1) j (Nat.le_max_right ..), foldl_writeMembers n ms (by omega), depth, depthMembers]
    congr 1
    omega

/-- So do the items of an array after the first, but for the end of the array. -/
theorem foldl_writeItems : ∀ (n : Nat) {level deepest : Nat} (js : List Json), level + 1 ≤ deepest →
    (sp.writeItems n js).foldl step (outside (level + 1) deepest) =
      outside level (max deepest (level + 1 + depthItems js))
  | n, level, deepest, [], hlevel => by
    rw [Spacing.writeItems, List.foldl_append, foldl_line, depthItems, Nat.add_zero, Nat.max_eq_left hlevel]
    rfl
  | n, level, deepest, j :: js, hlevel => by
    rw [Spacing.writeItems, List.foldl_cons, step_plain (by simp [IsPlain]), List.foldl_append, foldl_line,
      List.foldl_append, foldl_write (n + 1) j hlevel, foldl_writeItems n js (by omega), depthItems]
    congr 1
    omega

theorem foldl_writeMembers : ∀ (n : Nat) {level deepest : Nat} (ms : List (String × Json)), level + 1 ≤ deepest →
    (sp.writeMembers n ms).foldl step (outside (level + 1) deepest) =
      outside level (max deepest (level + 1 + depthMembers ms))
  | n, level, deepest, [], hlevel => by
    rw [Spacing.writeMembers, List.foldl_append, foldl_line, depthMembers, Nat.add_zero, Nat.max_eq_left hlevel]
    rfl
  | n, level, deepest, (name, j) :: ms, hlevel => by
    rw [Spacing.writeMembers, List.foldl_cons, step_plain (by simp [IsPlain]), List.foldl_append, foldl_line,
      List.foldl_append, foldl_quoted, List.foldl_cons, step_plain (by simp [IsPlain]), List.foldl_append,
      foldl_afterColon, List.foldl_append, foldl_write (n + 1) j hlevel, foldl_writeMembers n ms (by omega),
      depthMembers]
    congr 1
    omega

end

end Write

end Nesting

/-- The compact form nests as deep as the document. -/
theorem nesting_compactText (j : Json) : nesting j.compactText = j.depth := by
  rw [nesting, compactText, String.toList_ofList, compact_eq_write 0, Nesting.foldl_write _ 0 j (Nat.le_refl 0)]
  simp [Nesting.deepest]

/-- So does the form over several lines. -/
theorem nesting_prettyText (j : Json) : nesting j.prettyText = j.depth := by
  rw [nesting, prettyText, String.toList_ofList, pretty_eq_write, Nesting.foldl_write _ 0 j (Nat.le_refl 0)]
  simp [Nesting.deepest]

/-- Brackets between quotes do not count, not even behind a quote that is written with a backslash. -/
example : nesting "[\"[[\\\"[\", [\x7b\x7d]]" = 3 := by decide

end HeaderCatalog.Json
