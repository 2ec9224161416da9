import HeaderCatalog.Proofs.Availability
import HeaderCatalog.Proofs.Version.Order

/-!
# Which texts are versions

`Spells w v` says without the reading what a version looks like: one, two or three runs of digits with single points
between them. A text is read as a version if it is one with blanks around it, and as that one (`parse?_eq_some_iff`);
every other text is refused, and quoted with its blanks. What was read is written in a normal form, in which it is read
again, and versions compare number by number (`parse?_spelled`).
-/

namespace HeaderCatalog.Version

open Json (isDigit)

variable {v : Version} {w : List Char} {n : UInt32}

/-! ## Numbers -/

/-- A run of digits that denotes a number; zeros may stand in front. -/
structure Denotes (w : List Char) (n : UInt32) : Prop where
  ne_nil : w ≠ []
  isDigit : ∀ c ∈ w, '0' ≤ c ∧ c ≤ '9'
  value : Nat.ofDigitChars 10 w 0 = n.toNat

/-- A number is read from the runs of digits that denote it, so from none whose value takes more than 32 bits. -/
theorem number?_eq_some_iff : number? w = some n ↔ Denotes w n := by
  have hdigits : w.all isDigit = true ↔ ∀ c ∈ w, '0' ≤ c ∧ c ≤ '9' := by simp [isDigit]
  simp only [number?]
  constructor
  · intro h
    split at h
    · rename_i hw
      simp only [Bool.and_eq_true, decide_eq_true_eq, hdigits] at hw
      obtain ⟨⟨hne, hall⟩, hlt⟩ := hw
      cases h
      refine ⟨by simpa using hne, hall, ?_⟩
      exact (UInt32.toNat_ofNat_of_lt' hlt).symm
    · cases h
  · intro h
    have hlt : Nat.ofDigitChars 10 w 0 < 4294967296 := h.value ▸ n.toNat_lt
    have hne : w.isEmpty = false := by simpa using h.ne_nil
    rw [if_pos (by simp [hne, hdigits.mpr h.isDigit, hlt]), h.value, UInt32.ofNat_toNat]

theorem Denotes.point_not_mem (h : Denotes w n) : '.' ∉ w := by
  intro hmem
  exact absurd (h.isDigit '.' hmem).1 (by decide)

/-! ## Versions -/

/-- A version as it is spelt: its numbers with single points between them. -/
inductive Spells : List Char → Version → Prop
  | major {a : List Char} {x : UInt32} (ha : Denotes a x) : Spells a ⟨x, none, none⟩
  | minor {a b : List Char} {x y : UInt32} (ha : Denotes a x) (hb : Denotes b y) :
      Spells (a ++ '.' :: b) ⟨x, some y, none⟩
  | subminor {a b c : List Char} {x y z : UInt32} (ha : Denotes a x) (hb : Denotes b y) (hc : Denotes c z) :
      Spells (a ++ '.' :: (b ++ '.' :: c)) ⟨x, some y, some z⟩

/-- The pieces between the points are the numbers of what is spelt. -/
theorem ofNumbers?_splitAt_eq_some_iff : ofNumbers? (Text.splitAt '.' w) = some v ↔ Spells w v := by
  constructor
  · intro h
    have hjoin := Text.join_splitAt '.' w
    unfold ofNumbers? at h
    split at h
    · rename_i a hpieces
      obtain ⟨x, ha, h⟩ := Option.bind_eq_some_iff.mp h
      cases h
      rw [hpieces] at hjoin
      exact hjoin ▸ .major (number?_eq_some_iff.mp ha)
    · rename_i a b hpieces
      obtain ⟨x, ha, h⟩ := Option.bind_eq_some_iff.mp h
      obtain ⟨y, hb, h⟩ := Option.bind_eq_some_iff.mp h
      cases h
      rw [hpieces] at hjoin
      exact hjoin ▸ .minor (number?_eq_some_iff.mp ha) (number?_eq_some_iff.mp hb)
    · rename_i a b c hpieces
      obtain ⟨x, ha, h⟩ := Option.bind_eq_some_iff.mp h
      obtain ⟨y, hb, h⟩ := Option.bind_eq_some_iff.mp h
      obtain ⟨z, hc, h⟩ := Option.bind_eq_some_iff.mp h
      cases h
      rw [hpieces] at hjoin
      exact hjoin ▸ .subminor (number?_eq_some_iff.mp ha) (number?_eq_some_iff.mp hb) (number?_eq_some_iff.mp hc)
    · cases h
  · intro h
    cases h with
    | major ha =>
      rw [Text.splitAt_of_not_mem ha.point_not_mem]
      simp [ofNumbers?, number?_eq_some_iff.mpr ha]
    | minor ha hb =>
      rw [Text.splitAt_append ha.point_not_mem, Text.splitAt_of_not_mem hb.point_not_mem]
      simp [ofNumbers?, number?_eq_some_iff.mpr ha, number?_eq_some_iff.mpr hb]
    | subminor ha hb hc =>
      rw [Text.splitAt_append ha.point_not_mem, Text.splitAt_append hb.point_not_mem,
        Text.splitAt_of_not_mem hc.point_not_mem]
      simp [ofNumbers?, number?_eq_some_iff.mpr ha, number?_eq_some_iff.mpr hb, number?_eq_some_iff.mpr hc]

/-- What is spelt has no blanks in it. -/
theorem Spells.not_isBlank (h : Spells w v) : ∀ c ∈ w, Text.isBlank c = false := by
  have hdigits : ∀ {w n}, Denotes w n → ∀ c ∈ w, Text.isBlank c = false := fun hw c hc =>
    isBlank_of_isDigit (by simpa [isDigit] using hw.isDigit c hc)
  have hpoint : Text.isBlank '.' = false := rfl
  cases h with
  | major ha => exact hdigits ha
  | minor ha hb => exact List.forall_mem_append.mpr ⟨hdigits ha, List.forall_mem_cons.mpr ⟨hpoint, hdigits hb⟩⟩
  | subminor ha hb hc =>
    have hrest := List.forall_mem_append.mpr ⟨hdigits hb, List.forall_mem_cons.mpr ⟨hpoint, hdigits hc⟩⟩
    exact List.forall_mem_append.mpr ⟨hdigits ha, List.forall_mem_cons.mpr ⟨hpoint, hrest⟩⟩

/-! ## Texts -/

/-- A text that is a version, with blanks around it. -/
def SpelledIn (s : String) (v : Version) : Prop :=
  ∃ before core after, s.toList = before ++ (core ++ after) ∧ (∀ c ∈ before, Text.isBlank c = true) ∧
    (∀ c ∈ after, Text.isBlank c = true) ∧ Spells core v

/-- A version is read from the texts in which it is spelt. -/
theorem parse?_eq_some_iff {s : String} : parse? s = some v ↔ SpelledIn s v := by
  rw [parse?, ofNumbers?_splitAt_eq_some_iff]
  constructor
  · intro h
    obtain ⟨before, after, hs, hbefore, hafter⟩ := Text.exists_trim s.toList
    exact ⟨before, _, after, hs, hbefore, hafter, h⟩
  · rintro ⟨before, core, after, hs, hbefore, hafter, h⟩
    rwa [hs, Text.trim_append hbefore hafter, Text.trim_eq_self h.not_isBlank]

theorem parse?_eq_none {s : String} (h : ∀ v, ¬ SpelledIn s v) : parse? s = none :=
  Option.eq_none_iff_forall_ne_some.mpr fun v hv => h v (parse?_eq_some_iff.mp hv)

/-- A text in which no version is spelt is refused as it is, with the blanks around it. -/
theorem read_eq_refused {s : String} (h : parse? s = none) (allowance : Nat) :
    read allowance (Json.string s).tree = .error ⟨[], .refused (refusal s)⟩ := by
  rw [read, Json.Reader.refined, (Json.reads_text s allowance).ok (Nat.zero_le _), ok_bind, h]
  rfl

/-- **Versions and their texts.** A text is read as a version if that version is spelt in it, with blanks around it at
most; any other text is refused and quoted as it is. A version whose subminor number comes with a minor one is read
back from its written form, and so is every version that was ever read, so that writing what was read gives a normal
form. Versions compare by the first number that differs, missing ones as zero. -/
theorem parse?_spelled :
    (∀ (s : String) (v : Version), parse? s = some v ↔ SpelledIn s v) ∧
      (∀ s : String, (∀ v, ¬ SpelledIn s v) → parse? s = none ∧ ∀ allowance,
        read allowance (Json.string s).tree =
          .error ⟨[], .refused ("invalid version `" ++ s ++ "` (expected major[.minor[.subminor]])")⟩) ∧
      (∀ v : Version, v.IsNormal → parse? v.text = some v) ∧
      (∀ (s : String) (v : Version), parse? s = some v → v.IsNormal ∧ parse? v.text = some v) ∧
      ∀ v w : Version, (v.compare w).Compares v.rank w.rank ∧ (v.same w = true ↔ v.rank = w.rank) := by
  refine ⟨fun s v => parse?_eq_some_iff, fun s h => ?_, fun v => parse?_text, fun s v h => ?_, fun v w => ?_⟩
  · exact ⟨parse?_eq_none h, read_eq_refused (parse?_eq_none h)⟩
  · exact ⟨isNormal_of_parse? h, parse?_text (isNormal_of_parse? h)⟩
  · exact ⟨compares_rank v w, same_iff⟩

namespace Example

/-- Blanks and zeros in front are no part of the normal form; a fourth number is refused, and quoted with its blank. -/
theorem parse?_padded : parse? "\u3000010.05\n" = some ⟨10, some 5, none⟩ ∧
    SpelledIn "\u3000010.05\n" ⟨10, some 5, none⟩ ∧ text ⟨10, some 5, none⟩ = "10.5" ∧
    parse? (text ⟨10, some 5, none⟩) = some ⟨10, some 5, none⟩ ∧
    Version.read 0 (Json.string " 1.2.3.4").tree =
      .error ⟨[], .refused "invalid version ` 1.2.3.4` (expected major[.minor[.subminor]])"⟩ := by
  obtain ⟨hread, hrefuse, hback, hagain, -⟩ := parse?_spelled
  have hparse : parse? "\u3000010.05\n" = some ⟨10, some 5, none⟩ := by decide
  have hfour : ∀ v, ¬ SpelledIn " 1.2.3.4" v := by
    intro v hv
    have hnone : parse? " 1.2.3.4" = none := by decide
    cases hnone.symm.trans ((hread " 1.2.3.4" v).mpr hv)
  exact ⟨hparse, (hread _ _).mp hparse, by decide, hback _ (by decide), (hrefuse " 1.2.3.4" hfour).2 0⟩

end Example

end HeaderCatalog.Version
