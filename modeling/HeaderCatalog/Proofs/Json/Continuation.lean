import HeaderCatalog.Proofs.Json.Token

/-!
# What follows a document is not looked at

When a text goes on, all that was scanned to its end is scanned as before, and what follows comes behind the rest
(`followedBy`). For a quoted text, an array or an object the end is its closing character; a numeral at the end of the
text has none, as further digits would belong to it (`Ended`). So a document that is an array or an object is the first
document of every text that begins with it (`ofChars_append`).
-/

namespace HeaderCatalog.Json

variable {α : Type} {u : List Char}

/-- The result of a scan when more of the text follows. -/
def followedBy (u : List Char) (scanned : α × List Char) : α × List Char := (scanned.1, scanned.2 ++ u)

/-- Both sides of a choice that does not look at what follows. -/
theorem followedBy_ite {p : Prop} [Decidable p] (P : α × List Char → Prop) {x y x' y' : α × List Char}
    (hx : P x → x' = followedBy u x) (hy : P y → y' = followedBy u y) (h : P (if p then x else y)) :
    (if p then x' else y') = followedBy u (if p then x else y) := by
  by_cases hp : p
  · rw [if_pos hp] at h
    rw [if_pos hp, if_pos hp]
    exact hx h
  · rw [if_neg hp] at h
    rw [if_neg hp, if_neg hp]
    exact hy h

/-! ## Words and quoted texts -/

theorem skipSpace_append_of_cons {c : Char} {s rest : List Char} (h : skipSpace s = c :: rest) :
    skipSpace (s ++ u) = c :: (rest ++ u) := by
  unfold skipSpace at h ⊢
  rw [List.dropWhile_append, h]
  rfl

theorem scanWord_append {value : Tree} {word s : List Char} (h : (scanWord value word s).1.flaw? = none) :
    scanWord value word (s ++ u) = followedBy u (scanWord value word s) := by
  induction word generalizing s with
  | nil => rfl
  | cons w word ih =>
    cases s with
    | nil => cases h
    | cons c s =>
      simp only [List.cons_append, scanWord] at h ⊢
      split_ifs at h ⊢
      · exact ih h
      · cases h

/-- A closed text is scanned up to its closing quote. -/
theorem scanText_append {s : List Char} (h : (scanText s).1.flaw? = none) :
    scanText (s ++ u) = followedBy u (scanText s) := by
  fun_induction scanText s with
  | case1 | case3 | case5 | case6 | case8 | case9 => cases h
  | case2 s => exact scanText_quote (s ++ u)
  | case4 h₁ h₂ h₃ h₄ s code hcode _ ih =>
    have hscan := scanText_unit hcode (s ++ u)
    rwa [ih h] at hscan
  | case7 e s hunit meant hmeant _ ih =>
    have hscan := scanText_short hunit hmeant (s ++ u)
    rwa [ih h] at hscan
  | case10 c s hquote hslash hcontrol ih =>
    have hscan := scanText_plain hquote hslash hcontrol (s ++ u)
    rwa [ih h] at hscan

/-! ## Numerals -/

/-- A run of digits that something follows is not prolonged. -/
theorem digits_append {s : List Char} (h : s.dropWhile isDigit ≠ []) :
    (s ++ u).takeWhile isDigit = s.takeWhile isDigit ∧ (s ++ u).dropWhile isDigit = s.dropWhile isDigit ++ u := by
  have hne : (s.dropWhile isDigit).isEmpty = false := by simpa using h
  refine ⟨?_, by rw [List.dropWhile_append, if_neg (by simp [hne])]⟩
  rw [List.takeWhile_append, if_neg]
  intro hlength
  refine h (List.length_eq_zero_iff.mp ?_)
  have hsplit := congrArg List.length (List.takeWhile_append_dropWhile (p := isDigit) (l := s))
  rw [List.length_append] at hsplit
  omega

/-- A number with its sign. -/
def signed (negative : Bool) (n : Nat) : Int := if negative then -n else n

/-- The digits of an exponent behind its sign. -/
def scanPower (n : Numeral) (negative : Bool) (s : List Char) : Tree × List Char :=
  if (s.takeWhile isDigit).isEmpty then cutNumeral (s.dropWhile isDigit)
  else
    (.number { n with exponent := some (signed negative (Nat.ofDigitChars 10 (s.takeWhile isDigit) 0)) },
      s.dropWhile isDigit)

/-- A text behind the sign with which it begins, if it begins with one. -/
def afterSign (s : List Char) : List Char :=
  if s.head? == some '-' || s.head? == some '+' then s.drop 1 else s

/-- Behind its letter an exponent has a sign, perhaps, and digits. -/
theorem scanExponent_letter {c : Char} (hletter : (decide (c = 'e') || decide (c = 'E')) = true) (n : Numeral)
    (s : List Char) : scanExponent n (c :: s) = scanPower n (s.head? == some '-') (afterSign s) := by
  rw [scanExponent, if_pos hletter]
  rfl

theorem afterSign_append {c : Char} {s : List Char} : afterSign (c :: s ++ u) = afterSign (c :: s) ++ u := by
  unfold afterSign
  rw [List.cons_append, List.head?_cons, List.head?_cons]
  split <;> rfl

theorem scanPower_append {n : Numeral} {negative : Bool} {s : List Char} (h : (scanPower n negative s).2 ≠ []) :
    scanPower n negative (s ++ u) = followedBy u (scanPower n negative s) := by
  unfold scanPower at h ⊢
  have hrest : s.dropWhile isDigit ≠ [] := by
    intro hnil
    rw [hnil] at h
    split_ifs at h <;> exact h rfl
  rw [(digits_append hrest).1, (digits_append hrest).2]
  split_ifs at h ⊢
  · exact absurd rfl h
  · rfl

theorem scanExponent_append {n : Numeral} {s : List Char} (h : (scanExponent n s).2 ≠ []) :
    scanExponent n (s ++ u) = followedBy u (scanExponent n s) := by
  cases s with
  | nil => exact absurd rfl h
  | cons c s =>
    by_cases hletter : (decide (c = 'e') || decide (c = 'E')) = true
    · rw [scanExponent_letter hletter] at h
      rw [List.cons_append, scanExponent_letter hletter, scanExponent_letter hletter]
      cases s with
      | nil => exact absurd rfl h
      | cons d s =>
        rw [afterSign_append]
        exact scanPower_append h
    · simp only [List.cons_append, scanExponent, if_neg hletter]
      rfl

theorem scanFraction_append {n : Numeral} {s : List Char} (h : (scanFraction n s).2 ≠ []) :
    scanFraction n (s ++ u) = followedBy u (scanFraction n s) := by
  cases s with
  | nil => exact absurd rfl h
  | cons c s =>
    simp only [List.cons_append, scanFraction] at h ⊢
    split
    · have hrest : s.dropWhile isDigit ≠ [] := by
        intro hnil
        rw [hnil] at h
        split_ifs at h <;> exact h rfl
      rw [(digits_append hrest).1, (digits_append hrest).2]
      split_ifs at h ⊢
      · exact absurd rfl h
      · exact scanExponent_append h
    · rename_i hpoint
      rw [if_neg hpoint] at h
      exact scanExponent_append h

/-- A numeral that something follows is not prolonged. -/
theorem scanNumeral_append {negative : Bool} {s : List Char} (h : (scanNumeral negative s).2 ≠ []) :
    scanNumeral negative (s ++ u) = followedBy u (scanNumeral negative s) := by
  simp only [scanNumeral] at h ⊢
  have hrest : s.dropWhile isDigit ≠ [] := by
    intro hnil
    rw [hnil] at h
    split_ifs at h <;> exact h rfl
  rw [(digits_append hrest).1, (digits_append hrest).2]
  split_ifs at h ⊢
  · exact absurd rfl h
  · exact absurd rfl h
  · exact scanFraction_append h

/-- A numeral, or the break in its place. -/
def IsNumeral (t : Tree) : Prop := (∃ n, t = .number n) ∨ ∃ flaw, t = .broken flaw

theorem isNumeral_scanExponent (n : Numeral) (s : List Char) : IsNumeral (scanExponent n s).1 := by
  cases s with
  | nil => exact .inl ⟨n, rfl⟩
  | cons c s =>
    by_cases hletter : (decide (c = 'e') || decide (c = 'E')) = true
    · rw [scanExponent_letter hletter, scanPower]
      split
      · exact .inr ⟨_, rfl⟩
      · exact .inl ⟨_, rfl⟩
    · rw [scanExponent, if_neg hletter]
      exact .inl ⟨n, rfl⟩

theorem isNumeral_scanFraction (n : Numeral) (s : List Char) : IsNumeral (scanFraction n s).1 := by
  cases s with
  | nil => exact .inl ⟨n, rfl⟩
  | cons c s =>
    simp only [scanFraction]
    split_ifs
    · exact .inr ⟨_, rfl⟩
    · exact isNumeral_scanExponent _ _
    · exact isNumeral_scanExponent _ _

theorem isNumeral_scanNumeral (negative : Bool) (s : List Char) : IsNumeral (scanNumeral negative s).1 := by
  simp only [scanNumeral]
  split_ifs
  · exact .inr ⟨_, rfl⟩
  · exact .inr ⟨_, rfl⟩
  · exact isNumeral_scanFraction _ _

/-! ## Values -/

/-- A value that is scanned to its end, which a numeral is not where the text ends. -/
structure Ended (scanned : Tree × List Char) : Prop where
  whole : scanned.1.flaw? = none
  numeral : ∀ n, scanned.1 = .number n → scanned.2 ≠ []

theorem Ended.scanNumeral_append {negative : Bool} {s : List Char} (h : Ended (scanNumeral negative s)) :
    scanNumeral negative (s ++ u) = followedBy u (scanNumeral negative s) := by
  rcases isNumeral_scanNumeral negative s with ⟨n, hn⟩ | ⟨flaw, hflaw⟩
  · exact Json.scanNumeral_append (h.numeral n hn)
  · have hwhole := h.whole
    rw [hflaw] at hwhole
    cases hwhole

/-- An item and those after it. -/
def scanItem (bound : Nat) (s : List Char) : Items × List Char :=
  let value := scanValue bound s
  let items := scanItems bound false value.2
  (.item value.1 items.1, items.2)

theorem scanItems_nil (bound : Nat) (first : Bool) : scanItems bound first [] = (.stop .absent, []) := by
  cases bound <;> rfl

theorem scanMembers_nil (bound : Nat) (first : Bool) : scanMembers bound first [] = (.stop .absent, []) := by
  cases bound <;> rfl

/-- An item that other items or the end of the array follow is scanned to its end. -/
theorem scanItem_append {bound more : Nat} {s : List Char}
    (hvalue : Ended (scanValue bound s) → scanValue more (s ++ u) = followedBy u (scanValue bound s))
    (hitems : ∀ rest, (scanItems bound false rest).1.flaw? = none →
      scanItems more false (rest ++ u) = followedBy u (scanItems bound false rest))
    (h : (scanItem bound s).1.flaw? = none) : scanItem more (s ++ u) = followedBy u (scanItem bound s) := by
  obtain ⟨hwhole, hrest⟩ := Option.or_eq_none_iff.mp h
  have hended : Ended (scanValue bound s) := by
    refine ⟨hwhole, fun n _ hnil => ?_⟩
    rw [hnil, scanItems_nil] at hrest
    cases hrest
  have htail := hitems _ hrest
  simp only [scanItem, hvalue hended, followedBy, htail]

-- The induction is on the bound. A longer text has a greater one, so the two scans run at different bounds, of which
-- the second is at least the first; a break is what a scan ends in whose bound was too small.

mutual

/-- A value that is scanned to its end is scanned alike when the text goes on. -/
theorem scanValue_append : ∀ (bound more : Nat) (s : List Char), bound ≤ more → Ended (scanValue bound s) →
    scanValue more (s ++ u) = followedBy u (scanValue bound s)
  | 0, _, _, _, h => by cases h.whole
  | bound + 1, 0, _, hmore, _ => absurd hmore (Nat.not_succ_le_zero bound)
  | bound + 1, more + 1, s, hmore, h => by
    have hbound := Nat.le_of_succ_le_succ hmore
    cases hs : skipSpace s with
    | nil =>
      simp only [scanValue, hs] at h
      cases h.whole
    | cons c s' =>
      simp only [scanValue, hs, skipSpace_append_of_cons hs] at h ⊢
      refine followedBy_ite Ended (fun h => scanWord_append h.whole) (fun h => ?_) h
      refine followedBy_ite Ended (fun h => scanWord_append h.whole) (fun h => ?_) h
      refine followedBy_ite Ended (fun h => scanWord_append h.whole) (fun h => ?_) h
      refine followedBy_ite Ended (fun h => ?_) (fun h => ?_) h
      · rw [scanText_append (Option.map_eq_none_iff.mp h.whole)]
        rfl
      refine followedBy_ite Ended Ended.scanNumeral_append (fun h => ?_) h
      refine followedBy_ite Ended Ended.scanNumeral_append (fun h => ?_) h
      refine followedBy_ite Ended (fun h => ?_) (fun h => ?_) h
      · rw [scanItems_append bound more true s' hbound h.whole]
        rfl
      refine followedBy_ite Ended (fun h => ?_) (fun h => nomatch h.whole) h
      rw [scanMembers_append bound more true s' hbound h.whole]
      rfl

theorem scanItems_append : ∀ (bound more : Nat) (first : Bool) (s : List Char), bound ≤ more →
    (scanItems bound first s).1.flaw? = none → scanItems more first (s ++ u) = followedBy u (scanItems bound first s)
  | 0, _, _, _, _, h => by cases h
  | bound + 1, 0, _, _, hmore, _ => absurd hmore (Nat.not_succ_le_zero bound)
  | bound + 1, more + 1, first, s, hmore, h => by
    have hbound := Nat.le_of_succ_le_succ hmore
    have hitem := fun s => scanItem_append (s := s) (scanValue_append bound more s hbound)
      fun rest => scanItems_append bound more false rest hbound
    cases hs : skipSpace s with
    | nil =>
      simp only [scanItems, hs] at h
      cases h
    | cons c s' =>
      simp only [scanItems, hs, skipSpace_append_of_cons hs] at h ⊢
      split_ifs at h ⊢
      · rfl
      · exact hitem (c :: s') h
      · cases hs' : skipSpace s' with
        | nil =>
          rw [hs'] at h
          cases h
        | cons d s'' =>
          rw [hs'] at h
          rw [skipSpace_append_of_cons hs']
          dsimp only at h ⊢
          split_ifs at h ⊢
          · cases h
          · exact hitem (d :: s'') h
      · cases h

theorem scanMembers_append : ∀ (bound more : Nat) (first : Bool) (s : List Char), bound ≤ more →
    (scanMembers bound first s).1.flaw? = none →
      scanMembers more first (s ++ u) = followedBy u (scanMembers bound first s)
  | 0, _, _, _, _, h => by cases h
  | bound + 1, 0, _, _, hmore, _ => absurd hmore (Nat.not_succ_le_zero bound)
  | bound + 1, more + 1, first, s, hmore, h => by
    have hbound := Nat.le_of_succ_le_succ hmore
    cases hs : skipSpace s with
    | nil =>
      simp only [scanMembers, hs] at h
      cases h
    | cons c s' =>
      simp only [scanMembers, hs, skipSpace_append_of_cons hs] at h ⊢
      split_ifs at h ⊢
      · rfl
      · exact scanMember_append bound more (c :: s') hbound h
      · cases hs' : skipSpace s' with
        | nil =>
          rw [hs'] at h
          cases h
        | cons d s'' =>
          rw [hs'] at h
          rw [skipSpace_append_of_cons hs']
          dsimp only at h ⊢
          split_ifs at h ⊢
          · cases h
          · exact scanMember_append bound more (d :: s'') hbound h
      · cases h

theorem scanMember_append : ∀ (bound more : Nat) (s : List Char), bound ≤ more →
    (scanMember bound s).1.flaw? = none → scanMember more (s ++ u) = followedBy u (scanMember bound s)
  | 0, _, _, _, h => by cases h
  | bound + 1, 0, _, hmore, _ => absurd hmore (Nat.not_succ_le_zero bound)
  | bound + 1, more + 1, [], hmore, h => by cases h
  | bound + 1, more + 1, c :: s, hmore, h => by
    have hbound := Nat.le_of_succ_le_succ hmore
    simp only [List.cons_append, scanMember] at h ⊢
    split_ifs at h ⊢
    · cases hs : skipSpace (scanText s).2 with
      | nil =>
        rw [hs] at h
        cases (Option.or_eq_none_iff.mp h).2
      | cons d rest =>
        rw [hs] at h
        dsimp only at h
        split_ifs at h with hcolon
        · obtain ⟨hkey, h⟩ := Option.or_eq_none_iff.mp h
          obtain ⟨hwhole, hmembers⟩ := Option.or_eq_none_iff.mp h
          have hended : Ended (scanValue bound rest) := by
            refine ⟨hwhole, fun n _ hnil => ?_⟩
            rw [hnil, scanMembers_nil] at hmembers
            cases hmembers
          have hvalue := scanValue_append bound more rest hbound hended
          have htail := scanMembers_append bound more false _ hbound hmembers
          rw [scanText_append (Option.map_eq_none_iff.mp hkey)]
          simp only [followedBy, skipSpace_append_of_cons hs, hcolon, if_true] at hvalue htail ⊢
          rw [hvalue, htail]
        · cases (Option.or_eq_none_iff.mp h).2
    · cases h

end

/-- An array or an object is the first document of every text that begins with it. -/
theorem ofChars_append {s : List Char} (hwhole : (Tree.ofChars s).flaw? = none)
    (hnumeral : ∀ n, Tree.ofChars s ≠ .number n) : Tree.ofChars (s ++ u) = Tree.ofChars s := by
  have hbound : 2 * s.length + 2 ≤ 2 * (s ++ u).length + 2 := by
    rw [List.length_append]
    omega
  have hended : Ended (scanValue (2 * s.length + 2) s) := ⟨hwhole, fun n hn => absurd hn (hnumeral n)⟩
  rw [Tree.ofChars, scanValue_append _ _ s hbound hended]
  rfl

/-- A numeral is prolonged by further digits. -/
example : Tree.ofChars ['1'] = .number ⟨false, 1, [], none⟩ ∧ Tree.ofChars ['1', '0'] = .number ⟨false, 10, [], none⟩ :=
  ⟨rfl, rfl⟩

end HeaderCatalog.Json
