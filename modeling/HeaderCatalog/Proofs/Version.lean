import HeaderCatalog.Version
import HeaderCatalog.Proofs.Json.Token

/-!
# Versions and their written form

A version is found again in its written form if it is normal: a subminor number comes with a minor one
(`parse?_text`). What is read from a text is always normal (`isNormal_of_parse?`).
-/

namespace HeaderCatalog.Version

open Json (isDigit)

/-- A subminor number comes with a minor one. -/
def IsNormal (v : Version) : Prop := v.subminor?.isSome → v.minor?.isSome

instance (v : Version) : Decidable v.IsNormal := inferInstanceAs (Decidable (_ → _))

/-- The numbers of a version as written, one by one. -/
def pieces (v : Version) : List (List Char) :=
  (v.major :: (v.minor?.toList ++ v.subminor?.toList)).map numberText

variable {v : Version}

/-- The written form of a normal version is that of its numbers, with points between them. -/
theorem chars_eq_join (h : v.IsNormal) : v.chars = Text.join '.' v.pieces := by
  obtain ⟨major, minor?, subminor?⟩ := v
  cases minor? with
  | none =>
    cases subminor? with
    | none => simp [chars, pieces, Text.join]
    | some _ => cases h rfl
  | some _ => cases subminor? <;> simp [chars, pieces, Text.join]

theorem isDigit_of_mem_pieces {w : List Char} (hw : w ∈ v.pieces) {c : Char} (hc : c ∈ w) : isDigit c = true := by
  obtain ⟨n, -, rfl⟩ := List.mem_map.mp hw
  exact Json.isDigit_of_mem_toDigits hc

theorem isBlank_of_isDigit {c : Char} (h : isDigit c = true) : Text.isBlank c = false := by
  have hc : 48 ≤ c.toNat ∧ c.toNat ≤ 57 := by
    simpa [isDigit, Char.le_def, UInt32.le_iff_toNat_le] using h
  simp only [Text.isBlank, Bool.or_eq_false_iff, Bool.and_eq_false_iff, decide_eq_false_iff_not, beq_eq_false_iff_ne]
  omega

/-- A number is found again in its written form. -/
theorem number?_numberText (n : UInt32) : number? (numberText n) = some n := by
  have hn := n.toNat_lt
  have hdigits : (numberText n).all isDigit = true := List.all_eq_true.mpr fun _ => Json.isDigit_of_mem_toDigits
  have hne : (numberText n).isEmpty = false := by simp [numberText, Nat.toDigits_ne_nil]
  have hvalue : Nat.ofDigitChars 10 (numberText n) 0 = n.toNat := Nat.ofDigitChars_ten_toDigits
  simp only [number?, hdigits, hne, hvalue]
  simp [hn]

theorem ofNumbers?_pieces (h : v.IsNormal) : ofNumbers? v.pieces = some v := by
  obtain ⟨major, minor?, subminor?⟩ := v
  cases minor? with
  | none =>
    cases subminor? with
    | none => simp [pieces, ofNumbers?, number?_numberText]
    | some _ => cases h rfl
  | some _ => cases subminor? <;> simp [pieces, ofNumbers?, number?_numberText]

/-- A normal version is found again in its written form. -/
theorem parse?_text (h : v.IsNormal) : parse? v.text = some v := by
  have hblank : ∀ c ∈ v.chars, Text.isBlank c = false := by
    intro c hc
    rw [chars_eq_join h] at hc
    rcases Text.mem_join hc with rfl | ⟨w, hw, hc⟩
    · rfl
    · exact isBlank_of_isDigit (isDigit_of_mem_pieces hw hc)
  have hpoint : ∀ w ∈ v.pieces, '.' ∉ w := fun w hw hc => Json.ne_of_isDigit (isDigit_of_mem_pieces hw hc) rfl rfl
  have hne : v.pieces ≠ [] := List.cons_ne_nil _ _
  rw [parse?, text, String.toList_ofList, Text.trim_eq_self hblank, chars_eq_join h, Text.splitAt_join hne hpoint,
    ofNumbers?_pieces h]

/-- A subminor number without a minor one is lost. -/
example : parse? (text ⟨1, none, some 2⟩) = some ⟨1, none, none⟩ := by decide

/-- What is read from a text is normal. -/
theorem isNormal_of_parse? {s : String} (h : parse? s = some v) : v.IsNormal := by
  unfold parse? ofNumbers? at h
  split at h
  · obtain ⟨a, -, ha⟩ := Option.bind_eq_some_iff.mp h
    cases ha
    exact fun hsome => by cases hsome
  · obtain ⟨a, -, ha⟩ := Option.bind_eq_some_iff.mp h
    obtain ⟨b, -, hb⟩ := Option.bind_eq_some_iff.mp ha
    cases hb
    exact fun _ => rfl
  · obtain ⟨a, -, ha⟩ := Option.bind_eq_some_iff.mp h
    obtain ⟨b, -, hb⟩ := Option.bind_eq_some_iff.mp ha
    obtain ⟨c, -, hc⟩ := Option.bind_eq_some_iff.mp hb
    cases hc
    exact fun _ => rfl
  · cases h

end HeaderCatalog.Version
