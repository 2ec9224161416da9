import HeaderCatalog.Json.Scan
import HeaderCatalog.Json.Value
import HeaderCatalog.Json.Printer
import Mathlib.Tactic.IntervalCases
import Mathlib.Tactic.SplitIfs

/-!
# What is written is scanned, word by word

Blanks are skipped; a quoted text is scanned as the pieces of its characters (`scanText_quoted`), which stand for the
text again (`value_ofString`); a numeral is scanned as it is (`scanValue_numeral`), as long as what follows does not
prolong it.
-/

namespace HeaderCatalog.Json

/-! ## Blanks -/

/-- Blanks in front are skipped. -/
theorem skipSpace_append {blanks s : List Char} (h : ∀ c ∈ blanks, isSpace c = true) :
    skipSpace (blanks ++ s) = skipSpace s :=
  List.dropWhile_append_of_pos h

theorem skipSpace_cons {c : Char} {s : List Char} (h : isSpace c = false) : skipSpace (c :: s) = c :: s := by
  rw [skipSpace, List.dropWhile_cons_of_neg (by simp [h])]

/-! ## Texts -/

/-- The piece that stands for a character. -/
def piece (c : Char) : Piece :=
  if c.toNat < 0x20 ∧ c ∉ ['\x08', '\x0c', '\n', '\r', '\t'] then .unit c.toNat else .char c

/-- A text as pieces. -/
def Quoted.ofString (s : String) : Quoted := ⟨s.toList.map piece, none⟩

/-- Two hexadecimal digits hold a control character. -/
theorem hexDigits?_control : ∀ n : Fin 32,
    hexDigits? '0' '0' (Nat.digitChar (n / 16)) (Nat.digitChar (n % 16)) = some n.val := by
  decide

theorem scanText_quote (s : List Char) : scanText ('"' :: s) = (⟨[], none⟩, s) := by
  unfold scanText
  simp

theorem scanText_plain {c : Char} (hquote : c ≠ '"') (hslash : c ≠ '\\') (hcontrol : ¬ c.toNat < 0x20)
    (s : List Char) : scanText (c :: s) = addPiece (.char c) (scanText s) := by
  rw [scanText.eq_def]
  simp [hquote, hslash, hcontrol]

theorem scanText_short {e meant : Char} (hunit : e ≠ 'u') (hmeant : shortEscape? e = some meant) (s : List Char) :
    scanText ('\\' :: e :: s) = addPiece (.char meant) (scanText s) := by
  rw [scanText.eq_def]
  simp [hunit, hmeant]

theorem scanText_unit {h₁ h₂ h₃ h₄ : Char} {code : Nat} (hcode : hexDigits? h₁ h₂ h₃ h₄ = some code) (s : List Char) :
    scanText ('\\' :: 'u' :: h₁ :: h₂ :: h₃ :: h₄ :: s) = addPiece (.unit code) (scanText s) := by
  rw [scanText.eq_def]
  simp [hcode]

/-- The written form of a character is scanned as its piece. -/
theorem scanText_escape (c : Char) (s : List Char) : scanText (escape c ++ s) = addPiece (piece c) (scanText s) := by
  unfold escape
  split_ifs with hquote hslash hb hf hn hr ht hcontrol
  · subst hquote; exact scanText_short (by decide) rfl s
  · subst hslash; exact scanText_short (by decide) rfl s
  · subst hb; exact scanText_short (by decide) rfl s
  · subst hf; exact scanText_short (by decide) rfl s
  · subst hn; exact scanText_short (by decide) rfl s
  · subst hr; exact scanText_short (by decide) rfl s
  · subst ht; exact scanText_short (by decide) rfl s
  · have hpiece : piece c = .unit c.toNat := by simp [piece, hcontrol, hb, hf, hn, hr, ht]
    rw [hpiece]
    exact scanText_unit (hexDigits?_control ⟨c.toNat, hcontrol⟩) s
  · have hpiece : piece c = .char c := by simp [piece, hcontrol]
    rw [hpiece]
    exact scanText_plain hquote hslash hcontrol s

/-- A quoted text is scanned as its pieces. -/
theorem scanText_quoted (s : String) (rest : List Char) :
    scanText (s.toList.flatMap escape ++ '"' :: rest) = (.ofString s, rest) := by
  unfold Quoted.ofString
  induction s.toList with
  | nil => exact scanText_quote rest
  | cons c cs ih => rw [List.flatMap_cons, List.append_assoc, scanText_escape, ih]; rfl

/-- A piece in front adds its character. -/
theorem Quoted.chars_piece (c : Char) {pieces : List Piece} {cs : List Char} (h : chars none pieces = .ok cs) :
    chars none (piece c :: pieces) = .ok (c :: cs) := by
  unfold piece
  split_ifs with hcontrol
  · have hlow : c.toNat < 0xd800 := by omega
    rw [chars.eq_def]
    simp only [hlow, decide_true, Bool.true_or, if_true, h, Char.ofNat_toNat]
    rfl
  · rw [chars.eq_def]
    simp only [h]
    rfl

/-- The pieces of a text stand for it. -/
theorem Quoted.value_ofString (s : String) : (ofString s).value = .ok s := by
  have hchars : ∀ cs : List Char, chars none (cs.map piece) = .ok cs := by
    intro cs
    induction cs with
    | nil => rfl
    | cons c cs ih => exact chars_piece c ih
  unfold value ofString
  rw [hchars]
  exact congrArg Except.ok String.ofList_toList

/-! ## Digits -/

theorem isDigit_of_mem_toDigits {n : Nat} {c : Char} (h : c ∈ Nat.toDigits 10 n) : isDigit c = true := by
  have hc := Nat.isDigit_of_mem_toDigits (by decide) (by decide) h
  simpa [isDigit, Char.isDigit, Char.le_def] using hc

theorem digit_digitChar : ∀ d : Fin 10, digit (Numeral.digitChar d) = d := by
  decide

theorem isDigit_digitChar : ∀ d : Fin 10, isDigit (Numeral.digitChar d) = true := by
  decide

theorem ne_of_isDigit {c d : Char} (hc : isDigit c = true) (hd : isDigit d = false) : c ≠ d := by
  rintro rfl
  rw [hc] at hd
  cases hd

theorem isSpace_of_isDigit {c : Char} (h : isDigit c = true) : isSpace c = false := by
  have hother : ∀ d, isDigit d = false → c ≠ d := fun _ => ne_of_isDigit h
  simp [isSpace, hother ' ' rfl, hother '\n' rfl, hother '\t' rfl, hother '\r' rfl]

/-- Only zero is written with a zero in front. -/
theorem head?_toDigits {n : Nat} (h : (Nat.toDigits 10 n).head? = some '0') : n = 0 := by
  induction n using Nat.strong_induction_on with
  | _ n ih =>
    by_cases hn : n < 10
    · rw [Nat.toDigits_of_lt_base hn] at h
      interval_cases n <;> simp_all [Nat.digitChar]
    · obtain ⟨d, ds, hd⟩ := List.exists_cons_of_ne_nil (Nat.toDigits_ne_nil (b := 10) (n := n / 10))
      rw [Nat.toDigits_of_base_le (by decide) (by omega), hd] at h
      have := ih (n / 10) (by omega) (by rw [hd]; exact h)
      omega

/-- A text with which no run of digits goes on. -/
def EndsDigits (s : List Char) : Prop := ∀ c, s.head? = some c → isDigit c = false

/-- A run of digits is cut off where it ends. -/
theorem takeWhile_digits {digits rest : List Char} (hdigits : ∀ c ∈ digits, isDigit c = true)
    (hrest : EndsDigits rest) :
    (digits ++ rest).takeWhile isDigit = digits ∧ (digits ++ rest).dropWhile isDigit = rest := by
  rw [List.takeWhile_append_of_pos hdigits, List.dropWhile_append_of_pos hdigits]
  cases rest with
  | nil => simp
  | cons c rest => simp [hrest c rfl]

/-! ## Numerals -/

/-- A text with which no numeral goes on. -/
def EndsNumeral (s : List Char) : Prop := ∀ c, s.head? = some c → isDigit c = false ∧ c ∉ ['.', 'e', 'E']

theorem EndsNumeral.endsDigits {s : List Char} (h : EndsNumeral s) : EndsDigits s := fun c hc => (h c hc).1

namespace Numeral

/-- The written exponent. -/
def exponentText : Option Int → List Char
  | none => []
  | some e => 'e' :: ((if e < 0 then ['-'] else []) ++ Nat.toDigits 10 e.natAbs)

/-- The written fraction. -/
def fractionText (fraction : List (Fin 10)) : List Char :=
  if fraction.isEmpty then [] else '.' :: fraction.map digitChar

/-- A numeral, part after part. -/
theorem text_eq (n : Numeral) :
    n.text = (if n.negative then ['-'] else []) ++ (Nat.toDigits 10 n.whole ++ (fractionText n.fraction ++
      exponentText n.exponent)) := by
  obtain ⟨negative, whole, fraction, exponent⟩ := n
  cases exponent <;> simp [text, fractionText, exponentText]

end Numeral

open Numeral

variable {rest : List Char}

/-- A written exponent is scanned as it is, and so is a missing one. -/
theorem scanExponent_text (n : Numeral) (exponent : Option Int) (hn : n.exponent = none) (hrest : EndsNumeral rest) :
    scanExponent n (exponentText exponent ++ rest) = (.number { n with exponent := exponent }, rest) := by
  obtain ⟨negative, whole, fraction, _⟩ := n
  subst hn
  cases exponent with
  | none =>
    cases rest with
    | nil => rfl
    | cons c rest =>
      have hc := (hrest c rfl).2
      simp only [List.mem_cons, not_or] at hc
      simp [exponentText, scanExponent, hc.2.1, hc.2.2.1]
  | some e =>
    have hsplit := takeWhile_digits (fun _ => isDigit_of_mem_toDigits (n := e.natAbs)) hrest.endsDigits
    have hne : Nat.toDigits 10 e.natAbs ≠ [] := Nat.toDigits_ne_nil
    by_cases he : e < 0
    · simp [exponentText, scanExponent, he, hsplit, hne, Nat.ofDigitChars_ten_toDigits, abs_of_neg he]
    · have hvalue : (e.natAbs : Int) = e := by omega
      obtain ⟨d, ds, hd⟩ := List.exists_cons_of_ne_nil hne
      have hdigit : isDigit d = true := isDigit_of_mem_toDigits (hd ▸ List.mem_cons_self)
      have hminus : d ≠ '-' := ne_of_isDigit hdigit rfl
      have hplus : d ≠ '+' := ne_of_isDigit hdigit rfl
      have hdrop : scanExponent ⟨negative, whole, fraction, none⟩ ('e' :: (Nat.toDigits 10 e.natAbs ++ rest)) =
          (.number ⟨negative, whole, fraction, some (Nat.ofDigitChars 10 (Nat.toDigits 10 e.natAbs) 0 : Nat)⟩,
            rest) := by
        rw [hd, List.cons_append] at hsplit ⊢
        simp [scanExponent, hminus, hplus, hsplit]
      simpa [exponentText, he, Nat.ofDigitChars_ten_toDigits, hvalue] using hdrop

theorem endsDigits_exponentText (exponent : Option Int) (hrest : EndsNumeral rest) :
    EndsDigits (exponentText exponent ++ rest) := by
  cases exponent with
  | none => exact hrest.endsDigits
  | some e =>
    intro c hc
    cases hc
    rfl

theorem endsDigits_fractionText (fraction : List (Fin 10)) {rest : List Char} (hrest : EndsDigits rest) :
    EndsDigits (fractionText fraction ++ rest) := by
  cases fraction with
  | nil => exact hrest
  | cons d ds =>
    intro c hc
    cases hc
    rfl

/-- A written fraction is scanned as it is, with the exponent after it. -/
theorem scanFraction_text (n : Numeral) (fraction : List (Fin 10)) (exponent : Option Int)
    (hfraction : n.fraction = []) (hexponent : n.exponent = none) (hrest : EndsNumeral rest) :
    scanFraction n (fractionText fraction ++ (exponentText exponent ++ rest)) =
      (.number ⟨n.negative, n.whole, fraction, exponent⟩, rest) := by
  obtain ⟨negative, whole, _, _⟩ := n
  subst hfraction hexponent
  cases fraction with
  | nil =>
    have hscan := scanExponent_text ⟨negative, whole, [], none⟩ exponent rfl hrest
    cases exponent with
    | none =>
      cases rest with
      | nil => rfl
      | cons c rest =>
        have hc := (hrest c rfl).2
        simp only [List.mem_cons, not_or] at hc
        simpa [fractionText, exponentText, scanFraction, hc.1] using hscan
    | some e => simpa [fractionText, exponentText, scanFraction] using hscan
  | cons d ds =>
    have hdigits : ∀ c ∈ (d :: ds).map digitChar, isDigit c = true := by
      intro c hc
      obtain ⟨d', -, rfl⟩ := List.mem_map.mp hc
      exact isDigit_digitChar d'
    have hsplit := takeWhile_digits hdigits (endsDigits_exponentText exponent hrest)
    have hvalues : ((d :: ds).map digitChar).map digit = d :: ds := by
      rw [List.map_map, show digit ∘ digitChar = id from funext digit_digitChar, List.map_id]
    have hscan := scanExponent_text ⟨negative, whole, d :: ds, none⟩ exponent rfl hrest
    have hcons : fractionText (d :: ds) ++ (exponentText exponent ++ rest) =
        '.' :: ((d :: ds).map digitChar ++ (exponentText exponent ++ rest)) := rfl
    rw [hcons, scanFraction, if_pos rfl]
    simp only [hsplit, hvalues, hscan]
    rfl

/-- A numeral is scanned after its sign. -/
theorem scanNumeral_text (n : Numeral) (hrest : EndsNumeral rest) :
    scanNumeral n.negative
        (Nat.toDigits 10 n.whole ++ (fractionText n.fraction ++ (exponentText n.exponent ++ rest))) =
      (.number n, rest) := by
  have hsplit := takeWhile_digits (fun _ => isDigit_of_mem_toDigits (n := n.whole))
    (endsDigits_fractionText n.fraction (endsDigits_exponentText n.exponent hrest))
  have hzero : ¬ ((Nat.toDigits 10 n.whole).head? = some '0' ∧ 1 < (Nat.toDigits 10 n.whole).length) := by
    rintro ⟨hhead, hlength⟩
    rw [head?_toDigits hhead, Nat.toDigits_zero] at hlength
    exact absurd hlength (by decide)
  have hscan := scanFraction_text ⟨n.negative, n.whole, [], none⟩ n.fraction n.exponent rfl rfl hrest
  unfold scanNumeral
  simp only [hsplit, Nat.ofDigitChars_ten_toDigits]
  rw [if_neg (by simp [Nat.toDigits_ne_nil]), if_neg (by simpa using hzero), hscan]

/-- What a numeral begins with. -/
theorem Numeral.exists_text_eq_cons (n : Numeral) : ∃ c s, n.text = c :: s ∧ (c = '-' ∨ isDigit c = true) := by
  rw [text_eq]
  cases n.negative with
  | true => exact ⟨_, _, rfl, .inl rfl⟩
  | false =>
    obtain ⟨d, ds, hd⟩ := List.exists_cons_of_ne_nil (Nat.toDigits_ne_nil (b := 10) (n := n.whole))
    exact ⟨d, _, by rw [hd]; rfl, .inr (isDigit_of_mem_toDigits (hd ▸ List.mem_cons_self))⟩


/-- A numeral is scanned as it is. -/
theorem scanValue_numeral (n : Numeral) (bound : Nat) (hrest : EndsNumeral rest) :
    scanValue (bound + 1) (n.text ++ rest) = (.number n, rest) := by
  have hscan := scanNumeral_text n hrest
  rw [text_eq, List.append_assoc, List.append_assoc, List.append_assoc]
  cases hnegative : n.negative with
  | true =>
    rw [hnegative] at hscan
    simp only [if_true, List.cons_append, List.nil_append, scanValue,
      skipSpace_cons (show isSpace '-' = false from rfl)]
    exact hscan
  | false =>
    obtain ⟨d, ds, hd⟩ := List.exists_cons_of_ne_nil (Nat.toDigits_ne_nil (b := 10) (n := n.whole))
    have hdigit : isDigit d = true := isDigit_of_mem_toDigits (hd ▸ List.mem_cons_self)
    have hother : ∀ c, isDigit c = false → d ≠ c := fun _ => ne_of_isDigit hdigit
    rw [hnegative, hd, List.cons_append] at hscan
    simp only [Bool.false_eq_true, if_false, List.nil_append, hd, List.cons_append, scanValue,
      skipSpace_cons (isSpace_of_isDigit hdigit), hother 'n' rfl, hother 't' rfl, hother 'f' rfl, hother '"' rfl,
      hother '-' rfl, hdigit, if_true]
    exact hscan

end HeaderCatalog.Json
