/-!
# Finding a text in another

`startsWith` compares with the beginning of a text; `from?` is the rest of a text from the first place where another
occurs on. The place is the first one: the text splits into a part before it, and the rest starts with the text that
is looked for (`eq_append_of_from?`, `startsWith_of_from?`). There is such a place exactly if the text has the other one
in it (`occursIn_iff`), and what stands before it is as short as can be (`from?_eq_some_iff`).
-/

namespace HeaderCatalog.Text

/-- Whether a text begins with another. -/
def startsWith : List Char → List Char → Bool
  | _, [] => true
  | [], _ :: _ => false
  | c :: s, d :: wanted => c == d && startsWith s wanted

/-- The rest of a text from the first occurrence of another on. -/
def from? (wanted : List Char) : List Char → Option (List Char)
  | [] => if wanted.isEmpty then some [] else none
  | c :: s => if startsWith (c :: s) wanted then some (c :: s) else from? wanted s

/-- Whether a text occurs in another. -/
def occursIn (wanted text : String) : Bool :=
  (from? wanted.toList text.toList).isSome

/-- A text begins with another exactly when the other is an initial piece of it. -/
theorem startsWith_iff {s wanted : List Char} : startsWith s wanted = true ↔ ∃ rest, s = wanted ++ rest := by
  induction wanted generalizing s with
  | nil => cases s <;> simp [startsWith]
  | cons d wanted ih => cases s <;> simp [startsWith, ih]

/-- The rest that is found is a final piece of the text. -/
theorem eq_append_of_from? {wanted s rest : List Char} (h : from? wanted s = some rest) :
    ∃ before, s = before ++ rest := by
  induction s with
  | nil =>
    simp only [from?] at h
    split at h
    · exact ⟨[], by simpa using h⟩
    · cases h
  | cons c s ih =>
    simp only [from?] at h
    split at h
    · exact ⟨[], by simpa using h⟩
    · obtain ⟨before, hs⟩ := ih h
      exact ⟨c :: before, by simp [hs]⟩

/-- The rest that is found begins with the text that is looked for. -/
theorem startsWith_of_from? {wanted s rest : List Char} (h : from? wanted s = some rest) :
    startsWith rest wanted = true := by
  induction s with
  | nil =>
    simp only [from?] at h
    split at h
    · rename_i hw
      cases wanted with
      | nil => cases rest <;> rfl
      | cons => simp at hw
    · cases h
  | cons c s ih =>
    simp only [from?] at h
    split at h
    · rename_i hw; cases h; exact hw
    · exact ih h

/-- A rest is found exactly if the text has the one that is looked for in it. -/
theorem isSome_from?_iff {wanted s : List Char} : (from? wanted s).isSome = true ↔ wanted <:+: s := by
  induction s with
  | nil =>
    rw [from?, List.infix_nil]
    cases wanted <;> simp
  | cons c s ih =>
    have hstart : startsWith (c :: s) wanted = true ↔ wanted <+: c :: s := by
      rw [startsWith_iff]
      exact ⟨fun ⟨rest, h⟩ => ⟨rest, h.symm⟩, fun ⟨rest, h⟩ => ⟨rest, h.symm⟩⟩
    rw [from?, List.infix_cons_iff, ← ih, ← hstart]
    by_cases h : startsWith (c :: s) wanted = true
    · simp [h]
    · simp [h]

theorem occursIn_iff {wanted text : String} : occursIn wanted text = true ↔ wanted.toList <:+: text.toList :=
  isSome_from?_iff

/-! ## The first place -/

/-- A text splits where another occurs in it for the first time: what stands before it is as short as can be. -/
structure FirstAt (wanted before rest s : List Char) : Prop where
  split : s = before ++ (wanted ++ rest)
  first : ∀ before' rest', s = before' ++ (wanted ++ rest') → before.length ≤ before'.length

/-- No place where a text occurs lies before the rest that is found. -/
theorem length_le_of_from? {wanted s found before rest : List Char} (h : from? wanted s = some found)
    (hs : s = before ++ (wanted ++ rest)) : s.length ≤ before.length + found.length := by
  induction s generalizing before with
  | nil => exact Nat.zero_le _
  | cons c s ih =>
    rw [from?] at h
    split at h
    · cases h
      exact Nat.le_add_left _ _
    · rename_i hnot
      cases before with
      | nil => exact absurd (startsWith_iff.mpr ⟨rest, hs⟩) hnot
      | cons b before =>
        have hrest := ih h (List.cons.inj hs).2
        simp only [List.length_cons]
        omega

theorem firstAt_of_from? {wanted s before rest : List Char} (h : from? wanted s = some (wanted ++ rest))
    (hs : s = before ++ (wanted ++ rest)) : FirstAt wanted before rest s where
  split := hs
  first before' rest' hs' := by
    have hle := length_le_of_from? h hs'
    rw [hs, List.length_append] at hle
    omega

/-- What is found is the text from the first place on. -/
theorem from?_eq_some_iff {wanted s found : List Char} :
    from? wanted s = some found ↔ ∃ before rest, FirstAt wanted before rest s ∧ found = wanted ++ rest := by
  constructor
  · intro h
    obtain ⟨before, hs⟩ := eq_append_of_from? h
    obtain ⟨rest, hfound⟩ := startsWith_iff.mp (startsWith_of_from? h)
    exact ⟨before, rest, firstAt_of_from? (hfound ▸ h) (hfound ▸ hs), hfound⟩
  · rintro ⟨before, rest, hfirst, rfl⟩
    have hsome : (from? wanted s).isSome = true :=
      isSome_from?_iff.mpr ⟨before, rest, by rw [List.append_assoc]; exact hfirst.split.symm⟩
    obtain ⟨found, hfound⟩ := Option.isSome_iff_exists.mp hsome
    obtain ⟨before', hs'⟩ := eq_append_of_from? hfound
    obtain ⟨rest', hfound'⟩ := startsWith_iff.mp (startsWith_of_from? hfound)
    -- both are the shortest that can stand before the place, and so the same
    have hle := length_le_of_from? hfound hfirst.split
    have hge := hfirst.first before' rest' (hfound' ▸ hs')
    have hlength : before'.length = before.length := by
      rw [hs', List.length_append] at hle
      omega
    have happend : before' ++ found = before ++ (wanted ++ rest) := hs'.symm.trans hfirst.split
    rw [hfound, (List.append_inj happend hlength).2]

end HeaderCatalog.Text
