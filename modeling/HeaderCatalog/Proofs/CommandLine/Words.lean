import HeaderCatalog.CommandLine.Settings

/-!
# What words say

The words behind the name of an action say flags, one after the other, each with its values (`WordsSay`). A flag is
said by its name or its letter, values are the words behind it that are no flags themselves (`IsValue`), and a single
value may also stand in the word of its flag (`SaysFirst`).

* Words say one thing at most: the values of a flag end where the next one is said (`WordsSay.unique`).
* A switch that has no letter is said exactly if its name is among the words: a word that begins with two dashes is
  never a value (`mem_said_iff`).
-/

namespace HeaderCatalog.CommandLine

/-- A word that may be a value: no dash with something behind it stands at its front. -/
def IsValue (word : String) : Prop := ∀ c rest, word.toList ≠ '-' :: c :: rest

namespace Flag

/-- The word that names a flag. -/
def word : Flag → String
  | input => "--input"
  | platform => "--platform"
  | target => "--deployment-target"
  | framework => "--framework"
  | deprecated => "--include-deprecated"
  | out => "--out"
  | compact => "--compact"
  | noOp => "--no-op"
  | verbose => "--verbose"
  | help => "--help"
  | version => "--version"

/-- The letter of a flag, if it has one. -/
def letter? : Flag → Option Char
  | input => some 'i'
  | out => some 'o'
  | verbose => some 'v'
  | help => some 'h'
  | version => some 'V'
  | platform | target | framework | deprecated | compact | noOp => none

/-- The values that a flag may have: one or more, exactly one, or none. -/
def Fits (values : List String) : Flag → Prop
  | input => values ≠ []
  | platform | target | framework | out => values.length = 1
  | deprecated | compact | noOp | verbose | help | version => values = []

end Flag

/-- A word and the words behind it say a flag with its values first, and other words are left. -/
inductive SaysFirst : String → List String → Pending → List String → Prop
  /-- a flag by its name, and the values behind it -/
  | name {f : Flag} {values rest : List String} (hfits : f.Fits values) (hvalues : ∀ value ∈ values, IsValue value) :
      SaysFirst f.word (values ++ rest) ⟨f, values⟩ rest
  /-- a flag by its name, and its value in the same word -/
  | assigned {f : Flag} {value : String} {rest : List String} (hfits : f.Fits [value]) :
      SaysFirst (f.word ++ "=" ++ value) rest ⟨f, [value]⟩ rest
  /-- a flag by its letter, and the values behind it -/
  | letter {f : Flag} {c : Char} {values rest : List String} (hletter : f.letter? = some c) (hfits : f.Fits values)
      (hvalues : ∀ value ∈ values, IsValue value) :
      SaysFirst (String.ofList ['-', c]) (values ++ rest) ⟨f, values⟩ rest
  /-- a flag by its letter, and its value in the same word, perhaps behind a sign of equality -/
  | attached {f : Flag} {c d : Char} {text : List Char} {value : String} {rest : List String}
      (hletter : f.letter? = some c) (hfits : f.Fits [value])
      (hvalue : (d = '=' ∧ text = value.toList) ∨ (d ≠ '=' ∧ d :: text = value.toList)) :
      SaysFirst (String.ofList ('-' :: c :: d :: text)) rest ⟨f, [value]⟩ rest
  /-- a flag by its letter, and the letters of others in the same word -/
  | letters {f : Flag} {c d : Char} {text : List Char} {rest : List String} (hletter : f.letter? = some c)
      (hfits : f.Fits []) (hd : d ≠ '-') :
      SaysFirst (String.ofList ('-' :: c :: d :: text)) rest ⟨f, []⟩ (String.ofList ('-' :: d :: text) :: rest)

/-- Words say flags with their values, one after the other; two dashes may end them. -/
inductive WordsSay : List String → List Pending → Prop
  | nil : WordsSay [] []
  | separator : WordsSay ["--"] []
  | cons {word : String} {words rest : List String} {p : Pending} {said : List Pending}
      (hfirst : SaysFirst word words p rest) (hrest : WordsSay rest said) : WordsSay (word :: words) (p :: said)

/-! ## What words say is one thing -/

namespace Flag

variable {f g : Flag}

/-- The word of a flag begins with two dashes, and no sign of equality is in it. -/
theorem exists_word (f : Flag) : ∃ c rest, f.word.toList = '-' :: '-' :: c :: rest ∧ '=' ∉ f.word.toList := by
  cases f <;> exact ⟨_, _, rfl, by decide⟩

theorem not_isValue_word (f : Flag) : ¬IsValue f.word := by
  obtain ⟨c, rest, hword, -⟩ := f.exists_word
  exact fun h => h _ _ hword

theorem word_inj (h : f.word = g.word) : f = g := by
  cases f <;> cases g <;> first | rfl | exact absurd h (by decide)

theorem ne_dash_of_letter? {c : Char} (h : f.letter? = some c) : c ≠ '-' := by
  rintro rfl
  cases f <;> cases h

theorem letter?_inj {c : Char} (hf : f.letter? = some c) (hg : g.letter? = some c) : f = g := by
  cases f <;> cases hf <;> cases g <;> first | rfl | cases hg

/-- The word of a flag is no row of letters. -/
theorem word_ne_letters (f : Flag) {c : Char} (hc : c ≠ '-') (text : List Char) :
    f.word ≠ String.ofList ('-' :: c :: text) := by
  obtain ⟨d, rest, hword, -⟩ := f.exists_word
  rw [Ne, ← String.toList_inj, hword, String.toList_ofList]
  rintro ⟨⟩
  exact hc rfl

theorem word_ne_assigned (f g : Flag) (value : String) : f.word ≠ g.word ++ "=" ++ value := by
  obtain ⟨-, -, -, hno⟩ := f.exists_word
  intro h
  apply hno
  rw [h]
  simp

theorem assigned_ne_letters (f : Flag) (value : String) {c : Char} (hc : c ≠ '-') (text : List Char) :
    f.word ++ "=" ++ value ≠ String.ofList ('-' :: c :: text) := by
  obtain ⟨d, rest, hword, -⟩ := f.exists_word
  intro h
  have hlist := congrArg String.toList h
  simp only [String.toList_append, hword, String.toList_ofList, List.cons_append, List.cons.injEq] at hlist
  exact hc hlist.2.1.symm

theorem assigned_inj {value value' : String} (h : f.word ++ "=" ++ value = g.word ++ "=" ++ value') :
    f = g ∧ value = value' := by
  have hname : ∀ (f : Flag) (value : String), (f.word ++ "=" ++ value).toList.takeWhile (· != '=') = f.word.toList := by
    intro f value
    obtain ⟨-, -, -, hno⟩ := f.exists_word
    have hplain : ∀ c ∈ f.word.toList, (c != '=') = true := fun c hc => by
      simpa using ne_of_mem_of_not_mem hc hno
    simp [List.takeWhile_append_of_pos hplain]
  have hword : f.word.toList = g.word.toList := by rw [← hname f value, h, hname]
  obtain rfl := word_inj (String.toList_inj.mp hword)
  rw [← String.toList_inj] at h
  exact ⟨rfl, String.toList_inj.mp (by simpa using h)⟩

/-- A flag that may have no value has none. -/
theorem eq_nil_of_fits {values : List String} (hnil : f.Fits []) (h : f.Fits values) : values = [] := by
  cases f with
  | input => exact absurd rfl hnil
  | platform | target | framework | out => cases hnil
  | deprecated | compact | noOp | verbose | help | version => exact h

end Flag

/-- What is said first begins with two dashes and more, or with one dash and a letter. -/
theorem SaysFirst.toList_word {word : String} {words rest : List String} {p : Pending}
    (h : SaysFirst word words p rest) :
    ∃ c text, word.toList = '-' :: c :: text ∧ (c = '-' → text ≠ []) := by
  cases h with
  | @name f =>
    obtain ⟨c, text, hword, -⟩ := f.exists_word
    exact ⟨'-', c :: text, hword, fun _ => List.cons_ne_nil c text⟩
  | @assigned f value =>
    obtain ⟨c, text, hword, -⟩ := f.exists_word
    exact ⟨'-', c :: (text ++ '=' :: value.toList), by simp [hword], fun _ => List.cons_ne_nil _ _⟩
  | letter hletter => exact ⟨_, _, String.toList_ofList, fun hc => absurd hc (Flag.ne_dash_of_letter? hletter)⟩
  | attached hletter => exact ⟨_, _, String.toList_ofList, fun _ => List.cons_ne_nil _ _⟩
  | letters hletter => exact ⟨_, _, String.toList_ofList, fun _ => List.cons_ne_nil _ _⟩

theorem SaysFirst.ne_separator {word : String} {words rest : List String} {p : Pending}
    (h : SaysFirst word words p rest) : word ≠ "--" := by
  obtain ⟨c, text, hword, hmore⟩ := h.toList_word
  rintro rfl
  cases hword
  exact hmore rfl rfl

/-- Nothing that is said begins with a value. -/
theorem WordsSay.not_isValue {word : String} {words : List String} {said : List Pending}
    (h : WordsSay (word :: words) said) : ¬IsValue word := by
  cases h with
  | separator => exact fun hvalue => hvalue _ _ rfl
  | cons hfirst _ =>
    obtain ⟨c, text, hword, -⟩ := hfirst.toList_word
    exact fun hvalue => hvalue c text hword

/-- The values of a flag end where something is said again, by induction on them. -/
theorem values_unique {values values' rest rest' : List String} {said said' : List Pending}
    (hvalues : ∀ value ∈ values, IsValue value) (hvalues' : ∀ value ∈ values', IsValue value)
    (hrest : WordsSay rest said) (hrest' : WordsSay rest' said') (h : values ++ rest = values' ++ rest') :
    values = values' ∧ rest = rest' := by
  induction values generalizing values' with
  | nil =>
    cases values' with
    | nil => exact ⟨rfl, h⟩
    | cons value values' =>
      rw [List.nil_append, List.cons_append] at h
      subst h
      exact absurd (hvalues' value List.mem_cons_self) hrest.not_isValue
  | cons value values ih =>
    cases values' with
    | nil =>
      rw [List.nil_append, List.cons_append] at h
      subst h
      exact absurd (hvalues value List.mem_cons_self) hrest'.not_isValue
    | cons value' values' =>
      obtain ⟨rfl, htail⟩ := List.cons.inj h
      obtain ⟨rfl, rfl⟩ := ih (List.forall_mem_cons.mp hvalues).2 (List.forall_mem_cons.mp hvalues').2 htail
      exact ⟨rfl, rfl⟩

theorem attached_unique {d : Char} {text : List Char} {value value' : String}
    (h : (d = '=' ∧ text = value.toList) ∨ (d ≠ '=' ∧ d :: text = value.toList))
    (h' : (d = '=' ∧ text = value'.toList) ∨ (d ≠ '=' ∧ d :: text = value'.toList)) : value = value' := by
  rw [← String.toList_inj]
  rcases h with ⟨hd, h⟩ | ⟨hd, h⟩
  · rcases h' with ⟨-, h'⟩ | ⟨hd', -⟩
    · exact h.symm.trans h'
    · exact absurd hd hd'
  · rcases h' with ⟨hd', -⟩ | ⟨-, h'⟩
    · exact absurd hd' hd
    · exact h.symm.trans h'

/-- What is said first is one thing, where something is said by the words that are left. -/
theorem SaysFirst.unique {word word' : String} {words words' rest rest' : List String} {p p' : Pending}
    {said said' : List Pending} (h : SaysFirst word words p rest) (h' : SaysFirst word' words' p' rest')
    (hrest : WordsSay rest said) (hrest' : WordsSay rest' said') (hword : word = word') (hwords : words = words') :
    p = p' ∧ rest = rest' := by
  cases h with
  | @name f values rest hfits hvalues =>
    cases h' with
    | name hfits' hvalues' =>
      obtain rfl := Flag.word_inj hword
      obtain ⟨rfl, rfl⟩ := values_unique hvalues hvalues' hrest hrest' hwords
      exact ⟨rfl, rfl⟩
    | assigned => exact absurd hword (f.word_ne_assigned _ _)
    | letter hletter => exact absurd hword (f.word_ne_letters (Flag.ne_dash_of_letter? hletter) _)
    | attached hletter => exact absurd hword (f.word_ne_letters (Flag.ne_dash_of_letter? hletter) _)
    | letters hletter => exact absurd hword (f.word_ne_letters (Flag.ne_dash_of_letter? hletter) _)
  | @assigned f value rest hfits =>
    cases h' with
    | name => exact absurd hword.symm (Flag.word_ne_assigned _ _ _)
    | assigned =>
      obtain ⟨rfl, rfl⟩ := Flag.assigned_inj hword
      exact ⟨rfl, hwords⟩
    | letter hletter => exact absurd hword (f.assigned_ne_letters value (Flag.ne_dash_of_letter? hletter) _)
    | attached hletter => exact absurd hword (f.assigned_ne_letters value (Flag.ne_dash_of_letter? hletter) _)
    | letters hletter => exact absurd hword (f.assigned_ne_letters value (Flag.ne_dash_of_letter? hletter) _)
  | letter hletter hfits hvalues =>
    cases h' with
    | name => exact absurd hword.symm (Flag.word_ne_letters _ (Flag.ne_dash_of_letter? hletter) _)
    | assigned => exact absurd hword.symm (Flag.assigned_ne_letters _ _ (Flag.ne_dash_of_letter? hletter) _)
    | letter hletter' _ hvalues' =>
      cases String.ofList_injective hword
      obtain rfl := Flag.letter?_inj hletter hletter'
      obtain ⟨rfl, rfl⟩ := values_unique hvalues hvalues' hrest hrest' hwords
      exact ⟨rfl, rfl⟩
    | attached => cases String.ofList_injective hword
    | letters => cases String.ofList_injective hword
  | attached hletter hfits hvalue =>
    cases h' with
    | name => exact absurd hword.symm (Flag.word_ne_letters _ (Flag.ne_dash_of_letter? hletter) _)
    | assigned => exact absurd hword.symm (Flag.assigned_ne_letters _ _ (Flag.ne_dash_of_letter? hletter) _)
    | letter => cases String.ofList_injective hword
    | attached hletter' hfits' hvalue' =>
      cases String.ofList_injective hword
      obtain rfl := Flag.letter?_inj hletter hletter'
      rw [attached_unique hvalue hvalue']
      exact ⟨rfl, hwords⟩
    | letters hletter' hfits' =>
      cases String.ofList_injective hword
      obtain rfl := Flag.letter?_inj hletter hletter'
      cases Flag.eq_nil_of_fits hfits' hfits
  | letters hletter hfits hd =>
    cases h' with
    | name => exact absurd hword.symm (Flag.word_ne_letters _ (Flag.ne_dash_of_letter? hletter) _)
    | assigned => exact absurd hword.symm (Flag.assigned_ne_letters _ _ (Flag.ne_dash_of_letter? hletter) _)
    | letter => cases String.ofList_injective hword
    | attached hletter' hfits' =>
      cases String.ofList_injective hword
      obtain rfl := Flag.letter?_inj hletter hletter'
      cases Flag.eq_nil_of_fits hfits hfits'
    | letters hletter' =>
      cases String.ofList_injective hword
      obtain rfl := Flag.letter?_inj hletter hletter'
      exact ⟨rfl, by rw [hwords]⟩

/-- Words say one thing, by induction on it. -/
theorem WordsSay.unique {words : List String} {said said' : List Pending} (h : WordsSay words said)
    (h' : WordsSay words said') : said = said' := by
  induction h generalizing said' with
  | nil =>
    cases h'
    rfl
  | separator =>
    cases h' with
    | separator => rfl
    | cons hfirst _ => exact absurd rfl hfirst.ne_separator
  | cons hfirst hrest ih =>
    cases h' with
    | separator => exact absurd rfl hfirst.ne_separator
    | cons hfirst' hrest' =>
      obtain ⟨rfl, rfl⟩ := hfirst.unique hfirst' hrest hrest' rfl rfl
      rw [ih hrest']

theorem fits_of_wordsSay {words : List String} {said : List Pending} (h : WordsSay words said) :
    ∀ p ∈ said, p.flag.Fits p.values := by
  induction h with
  | nil | separator => exact List.forall_mem_nil _
  | cons hfirst _ ih =>
    refine List.forall_mem_cons.mpr ⟨?_, ih⟩
    cases hfirst with
    | name hfits | assigned hfits | letter _ hfits | attached _ hfits | letters _ hfits => exact hfits

/-! ## Switches -/

/-- A switch without a letter is said exactly if its name is among the words. -/
theorem mem_said_iff (f : Flag) (hletter : f.letter? = none) (hfits : f.Fits []) {words : List String}
    {said : List Pending} (h : WordsSay words said) : ⟨f, []⟩ ∈ said ↔ f.word ∈ words := by
  have hother : ∀ {g : Flag} {c : Char} (values : List String), g.letter? = some c →
      (⟨f, []⟩ : Pending) ≠ ⟨g, values⟩ := by
    rintro g c values hg ⟨⟩
    rw [hletter] at hg
    cases hg
  have hvalue : ∀ {values : List String}, (∀ value ∈ values, IsValue value) → f.word ∉ values :=
    fun hvalues hmem => f.not_isValue_word (hvalues _ hmem)
  induction h with
  | nil => exact iff_of_false List.not_mem_nil List.not_mem_nil
  | separator =>
    obtain ⟨c, rest, hword, -⟩ := f.exists_word
    refine iff_of_false List.not_mem_nil fun hmem => ?_
    rw [List.mem_singleton.mp hmem] at hword
    cases hword
  | @cons word words rest p said hfirst _ ih =>
    cases hfirst with
    | @name g values rest hvalid hvalues =>
      have hsame : (⟨f, []⟩ : Pending) = ⟨g, values⟩ ↔ f.word = g.word := by
        constructor
        · rintro ⟨⟩
          rfl
        · intro h
          obtain rfl := Flag.word_inj h
          rw [Flag.eq_nil_of_fits hfits hvalid]
      refine (List.mem_cons.trans (or_congr hsame ih)).trans ?_
      simp [hvalue hvalues]
    | @assigned g value rest =>
      have hsaid : (⟨f, []⟩ : Pending) ≠ ⟨g, [value]⟩ := nofun
      calc (⟨f, []⟩ : Pending) ∈ ⟨g, [value]⟩ :: said
        _ ↔ ⟨f, []⟩ ∈ said := List.mem_cons.trans (or_iff_right hsaid)
        _ ↔ f.word ∈ words := ih
        _ ↔ _ := (List.mem_cons.trans (or_iff_right (f.word_ne_assigned g value))).symm
    | @letter g c values rest hg _ hvalues =>
      have hword := f.word_ne_letters (Flag.ne_dash_of_letter? hg) []
      calc (⟨f, []⟩ : Pending) ∈ ⟨g, values⟩ :: said
        _ ↔ ⟨f, []⟩ ∈ said := List.mem_cons.trans (or_iff_right (hother values hg))
        _ ↔ f.word ∈ rest := ih
        _ ↔ f.word ∈ values ++ rest := by simp [hvalue hvalues]
        _ ↔ _ := (List.mem_cons.trans (or_iff_right hword)).symm
    | @attached g c d text value rest hg =>
      have hword := f.word_ne_letters (Flag.ne_dash_of_letter? hg) (d :: text)
      calc (⟨f, []⟩ : Pending) ∈ ⟨g, [value]⟩ :: said
        _ ↔ ⟨f, []⟩ ∈ said := List.mem_cons.trans (or_iff_right (hother [value] hg))
        _ ↔ f.word ∈ words := ih
        _ ↔ _ := (List.mem_cons.trans (or_iff_right hword)).symm
    | @letters g c d text rest hg _ hd =>
      have hword := f.word_ne_letters (Flag.ne_dash_of_letter? hg) (d :: text)
      calc (⟨f, []⟩ : Pending) ∈ ⟨g, []⟩ :: said
        _ ↔ ⟨f, []⟩ ∈ said := List.mem_cons.trans (or_iff_right (hother [] hg))
        _ ↔ f.word ∈ String.ofList ('-' :: d :: text) :: words := ih
        _ ↔ f.word ∈ words := List.mem_cons.trans (or_iff_right (f.word_ne_letters hd text))
        _ ↔ _ := (List.mem_cons.trans (or_iff_right hword)).symm

end HeaderCatalog.CommandLine
