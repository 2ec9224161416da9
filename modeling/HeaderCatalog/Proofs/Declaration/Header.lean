import HeaderCatalog.Declaration.Header

/-!
# What the header of a declaration is

`HeaderOf` says without the search what the header of a text is: the introducing word where it stands first, with the
longest piece behind it that stays on the line and does not open a body; and where that word does not occur, the longest
such beginning of the text. Blanks at the ends are left out. The header that is found is this one and no other
(`headerChars_eq_iff`).

A header stays on one line and has no blanks at its ends, it is a piece of the text, and it is its own header
(`header_determined`).
-/

namespace HeaderCatalog.Declaration

variable {s line line' : List Char}

/-! ## Beginnings that stay on the line -/

/-- A text in which no line ends and no body begins. -/
def OneLine (s : List Char) : Prop := ∀ c ∈ s, c ≠ '\n' ∧ c ≠ '\x7b'

/-- The longest beginning of a text in which no line ends and no body begins. -/
structure FirstLine (line s : List Char) : Prop where
  begins : line <+: s
  oneLine : OneLine line
  longest : ∀ other, other <+: s → OneLine other → other.length ≤ line.length

theorem endsHeader_eq_false_iff {c : Char} : endsHeader c = false ↔ c ≠ '\n' ∧ c ≠ '\x7b' := by
  simp [endsHeader]

theorem oneLine_introducer : OneLine introducer := by
  have hall : introducer.all (fun c => !endsHeader c) = true := by decide
  intro c hc
  exact endsHeader_eq_false_iff.mp (by simpa using List.all_eq_true.mp hall c hc)

theorem OneLine.append (h : OneLine s) (h' : OneLine line) : OneLine (s ++ line) :=
  List.forall_mem_append.mpr ⟨h, h'⟩

/-- A text on one line is passed over as a whole. -/
theorem OneLine.takeWhile_append (h : OneLine s) (rest : List Char) :
    (s ++ rest).takeWhile (fun c => !endsHeader c) = s ++ rest.takeWhile fun c => !endsHeader c :=
  List.takeWhile_append_of_pos fun c hc => by simp [endsHeader_eq_false_iff.mpr (h c hc)]

/-- What is passed over up to the first character that ends the header is the first line. -/
theorem firstLine_takeWhile (s : List Char) : FirstLine (s.takeWhile fun c => !endsHeader c) s where
  begins := List.takeWhile_prefix _
  oneLine c hc := endsHeader_eq_false_iff.mp (by simpa using List.all_eq_true.mp List.all_takeWhile c hc)
  longest other hother hline := by
    obtain ⟨rest, rfl⟩ := hother
    rw [hline.takeWhile_append, List.length_append]
    exact Nat.le_add_right _ _

/-- There is only one first line. -/
theorem FirstLine.unique (h : FirstLine line s) (h' : FirstLine line' s) : line = line' := by
  have hle : line.length ≤ line'.length := h'.longest line h.begins h.oneLine
  have hge : line'.length ≤ line.length := h.longest line' h'.begins h'.oneLine
  exact (List.prefix_of_prefix_length_le h.begins h'.begins hle).eq_of_length (Nat.le_antisymm hle hge)

/-- A text on one line is its own first line. -/
theorem OneLine.firstLine (h : OneLine s) : FirstLine s s :=
  ⟨List.prefix_rfl, h, fun _ hother _ => hother.length_le⟩

/-- A text on one line stays so without its ends. -/
theorem OneLine.of_infix (h : OneLine s) (hline : line <:+: s) : OneLine line := fun c hc => h c (hline.subset hc)

/-! ## Headers -/

/-- What the header of a text is. Behind the first place of the introducing word, the line that begins there is part of
it; where the word does not occur, it is the first line of the text. -/
inductive HeaderOf (s : List Char) : List Char → Prop
  | introduced {before rest line core : List Char} (hfirst : Text.FirstAt introducer before rest s)
      (hline : FirstLine line rest) (hcore : Text.TrimmedEnd core line) : HeaderOf s (introducer ++ core)
  | bare {line core : List Char} (habsent : ¬introducer <:+: s) (hline : FirstLine line s)
      (hcore : Text.Trimmed core line) : HeaderOf s core

theorem not_blank_introducer : ∀ c ∈ introducer, Text.isBlank c = false := by
  have hall : introducer.all (fun c => !Text.isBlank c) = true := by decide
  intro c hc
  simpa using List.all_eq_true.mp hall c hc

/-- The introducing word is no blank, so it stays where it stands first. -/
theorem not_blank_head?_introducer (w : List Char) : ∀ c ∈ (introducer ++ w).head?, Text.isBlank c = false := by
  intro c hc
  rw [List.head?_append] at hc
  rcases Option.or_eq_some_iff.mp hc with hc | ⟨hnone, -⟩
  · exact not_blank_introducer c (List.mem_of_head? hc)
  · exact absurd (List.head?_eq_none_iff.mp hnone) (by decide)

/-- Behind the first place of the introducing word, the header is that word and the rest of its line. -/
theorem headerChars_of_firstAt {before rest : List Char} (h : Text.FirstAt introducer before rest s) :
    headerChars s = introducer ++ Text.trimEnd (rest.takeWhile fun c => !endsHeader c) := by
  rw [headerChars, Text.from?_eq_some_iff.mpr ⟨before, rest, h, rfl⟩, Option.getD_some,
    oneLine_introducer.takeWhile_append, Text.trim, Text.dropWhile_isBlank (not_blank_head?_introducer _),
    Text.trimEnd_append_of_not_blank not_blank_introducer]

/-- Without the introducing word, the header is the first line. -/
theorem headerChars_of_absent (h : ¬introducer <:+: s) :
    headerChars s = Text.trim (s.takeWhile fun c => !endsHeader c) := by
  have hnone : Text.from? introducer s = none := by
    rwa [← Option.not_isSome_iff_eq_none, Text.isSome_from?_iff]
  rw [headerChars, hnone, Option.getD_none]

/-- A text with the introducing word in it has a first place of it. -/
theorem exists_firstAt (h : introducer <:+: s) : ∃ before rest, Text.FirstAt introducer before rest s := by
  obtain ⟨found, hfound⟩ := Option.isSome_iff_exists.mp (Text.isSome_from?_iff.mpr h)
  obtain ⟨before, rest, hfirst, -⟩ := Text.from?_eq_some_iff.mp hfound
  exact ⟨before, rest, hfirst⟩

/-- The header that is found is what the header is. -/
theorem headerChars_eq_iff {h : List Char} : headerChars s = h ↔ HeaderOf s h := by
  constructor
  · rintro rfl
    by_cases hword : introducer <:+: s
    · obtain ⟨before, rest, hfirst⟩ := exists_firstAt hword
      rw [headerChars_of_firstAt hfirst]
      exact .introduced hfirst (firstLine_takeWhile rest) (Text.trimEnd_eq_iff.mp rfl)
    · rw [headerChars_of_absent hword]
      exact .bare hword (firstLine_takeWhile s) (Text.trim_eq_iff.mp rfl)
  · intro hheader
    cases hheader with
    | @introduced before rest line core hfirst hline hcore =>
      rw [headerChars_of_firstAt hfirst, (firstLine_takeWhile rest).unique hline, Text.trimEnd_eq_iff.mpr hcore]
    | @bare line _ habsent hline hcore =>
      rw [headerChars_of_absent habsent, (firstLine_takeWhile s).unique hline, Text.trim_eq_iff.mpr hcore]

/-! ## What every header is like -/

variable {h : List Char}

theorem HeaderOf.oneLine (hh : HeaderOf s h) : OneLine h := by
  cases hh with
  | introduced hfirst hline hcore =>
    obtain ⟨after, rfl, -⟩ := hcore.only_blanks
    exact oneLine_introducer.append (hline.oneLine.of_infix (List.prefix_append _ _).isInfix)
  | bare habsent hline hcore =>
    obtain ⟨before, after, rfl, -, -⟩ := hcore.only_blanks
    exact hline.oneLine.of_infix ⟨before, after, List.append_assoc _ _ _⟩

/-- A header does not begin with a blank. -/
theorem HeaderOf.not_blank_head? (hh : HeaderOf s h) : ∀ c ∈ h.head?, Text.isBlank c = false := by
  cases hh with
  | introduced => exact not_blank_head?_introducer _
  | bare habsent hline hcore => exact hcore.head?

/-- A header does not end in a blank. -/
theorem HeaderOf.not_blank_getLast? (hh : HeaderOf s h) : ∀ c ∈ h.getLast?, Text.isBlank c = false := by
  cases hh with
  | introduced hfirst hline hcore =>
    intro c hc
    rw [List.getLast?_append] at hc
    rcases Option.or_eq_some_iff.mp hc with hc | ⟨-, hc⟩
    · exact hcore.getLast? c hc
    · exact not_blank_introducer c (List.mem_of_getLast? hc)
  | bare habsent hline hcore => exact hcore.getLast?

/-- A header is a piece of the text. -/
theorem HeaderOf.isInfix (hh : HeaderOf s h) : h <:+: s := by
  cases hh with
  | @introduced before rest line core hfirst hline hcore =>
    obtain ⟨after, rfl, -⟩ := hcore.only_blanks
    obtain ⟨more, rfl⟩ := hline.begins
    exact ⟨before, after ++ more, by rw [hfirst.split]; simp only [List.append_assoc]⟩
  | bare habsent hline hcore =>
    obtain ⟨before, after, rfl, -, -⟩ := hcore.only_blanks
    exact List.IsInfix.trans ⟨before, after, List.append_assoc _ _ _⟩ hline.begins.isInfix

/-- A header is its own header: the introducing word stands first in it, or not at all. -/
theorem HeaderOf.self (hh : HeaderOf s h) : HeaderOf h h := by
  have hline := hh.oneLine
  have hpiece := hh.isInfix
  cases hh with
  | @introduced before rest line core hfirst hline' hcore =>
    have hstart : Text.FirstAt introducer [] core (introducer ++ core) := ⟨rfl, fun _ _ _ => Nat.zero_le _⟩
    have hcoreLine : OneLine core := hline.of_infix (List.suffix_append _ _).isInfix
    exact .introduced hstart hcoreLine.firstLine ⟨⟨[], by simp, by simp⟩, hcore.getLast?⟩
  | bare habsent hline' hcore =>
    have hnone : ¬introducer <:+: h := fun hword => habsent (hword.trans hpiece)
    exact .bare hnone hline.firstLine ⟨⟨[], [], by simp, by simp, by simp⟩, hcore.head?, hcore.getLast?⟩

/-- A header does not depend on what stands before the introducing word. -/
theorem HeaderOf.behind {before rest : List Char} (hh : HeaderOf s h)
    (hfirst : Text.FirstAt introducer before rest s) : HeaderOf (introducer ++ rest) h := by
  have hstart : Text.FirstAt introducer [] rest (introducer ++ rest) := ⟨rfl, fun _ _ _ => Nat.zero_le _⟩
  rw [← headerChars_eq_iff] at hh ⊢
  rw [← hh, headerChars_of_firstAt hfirst, headerChars_of_firstAt hstart]

/-! ## Texts -/

theorem toList_header (s : String) : (header s).toList = headerChars s.toList := String.toList_ofList

/-- The header of a text is what is found. -/
theorem header_eq_iff {s h : String} : header s = h ↔ HeaderOf s.toList h.toList := by
  rw [← headerChars_eq_iff, ← toList_header, String.toList_inj]

/-- **The header of a text.** It is the one that `HeaderOf` describes and no other. No line ends in it and no body
begins, there is no blank at its ends, and it is a piece of the text. What stands before the introducing word does not
matter, and a header is its own header. -/
theorem header_determined (s : String) :
    (∀ h : String, header s = h ↔ HeaderOf s.toList h.toList) ∧
      OneLine (header s).toList ∧
      (∀ c ∈ (header s).toList.head?, Text.isBlank c = false) ∧
      (∀ c ∈ (header s).toList.getLast?, Text.isBlank c = false) ∧
      (header s).toList <:+: s.toList ∧
      (∀ before rest, Text.FirstAt introducer before rest s.toList →
        header s = header (String.ofList (introducer ++ rest))) ∧
      header (header s) = header s := by
  have hheader : HeaderOf s.toList (header s).toList := header_eq_iff.mp rfl
  refine ⟨fun h => header_eq_iff, hheader.oneLine, hheader.not_blank_head?, hheader.not_blank_getLast?,
    hheader.isInfix, fun before rest hfirst => ?_, header_eq_iff.mpr hheader.self⟩
  rw [eq_comm, header_eq_iff, String.toList_ofList]
  exact hheader.behind hfirst

namespace Example

/-- A text with the introducing word in its second line and in its third. -/
def twice : String := "\x7d\n@@interface Foo : Bar\u3000\n@interface Baz"

/-- What stands behind the introducing word. -/
def behind : String := " Foo : Bar\u3000\n@interface Baz"

/-- A text without the introducing word. -/
def bare : String := " \u2028int x\x85\x7b \x7d"

/-- Lines and braces before the introducing word do not count, nor does the same word further on. -/
theorem header_twice :
    Text.FirstAt introducer "\x7d\n@".toList behind.toList twice.toList ∧
      header twice = "@interface Foo : Bar" ∧ HeaderOf twice.toList "@interface Foo : Bar".toList ∧
      header twice = header (String.ofList (introducer ++ behind.toList)) ∧ header (header twice) = header twice ∧
      header bare = "int x" ∧ HeaderOf bare.toList "int x".toList ∧ header (header bare) = header bare := by
  have hfirst : Text.FirstAt introducer "\x7d\n@".toList behind.toList twice.toList :=
    Text.firstAt_of_from? (by decide) (by decide)
  have htwice : header twice = "@interface Foo : Bar" := by decide
  have hbare : header bare = "int x" := by decide
  obtain ⟨hiff, -, -, -, -, hbehind, hself⟩ := header_determined twice
  obtain ⟨hiff', -, -, -, -, -, hself'⟩ := header_determined bare
  exact ⟨hfirst, htwice, (hiff _).mp htwice, hbehind _ _ hfirst, hself, hbare, (hiff' _).mp hbare, hself'⟩

end Example

end HeaderCatalog.Declaration
