import HeaderCatalog.Proofs.CommandLine.Meaning
import HeaderCatalog.Proofs.Result

/-!
# Reading a command line

`Settings.read` goes through the words with a flag in its hands that may still get values: it takes those that the next
words begin with (`Continues`). What is read is what the flags do that the words say, one after the other
(`wordsSay_of_read`). A flag changes one thing in the settings (`Settings.Applies`), and one that chooses stands once,
so that the settings after all flags are what was said (`Settings.Reflects`). A command line that is understood asks
for what it means (`Request.means_of_read`).
-/

namespace HeaderCatalog.CommandLine

/-! ## Words -/

namespace Word

variable {text name : String} {value? : Option String}

theorem eq_of_separator (h : ofText text = .separator) : text = "--" := by
  unfold ofText at h
  split at h
  · rename_i htext
    rw [← String.toList_inj, htext]
    rfl
  · unfold ofLong at h
    split at h <;> cases h
  · cases h
  · cases h

theorem isValue_of_plain (h : ofText text = .plain) : IsValue text := by
  intro c rest htext
  unfold ofText at h
  rw [htext] at h
  split at h
  · cases h
  · unfold ofLong at h
    split at h <;> cases h
  · cases h
  · rename_i hne
    exact hne c rest rfl

theorem not_isValue_of_ne_plain (h : ofText text ≠ .plain) : ¬IsValue text := by
  intro hvalue
  apply h
  unfold ofText
  split
  · rename_i htext
    exact absurd htext (hvalue _ _)
  · rename_i htext
    exact absurd htext (hvalue _ _)
  · rename_i htext
    exact absurd htext (hvalue _ _)
  · rfl

theorem exists_of_cluster {letters : List Char} (h : ofText text = .cluster letters) :
    ∃ c cs, letters = c :: cs ∧ text = String.ofList ('-' :: c :: cs) := by
  unfold ofText at h
  split at h
  · cases h
  · unfold ofLong at h
    split at h <;> cases h
  · rename_i c rest _ _ htext
    cases h
    refine ⟨c, rest, rfl, ?_⟩
    rw [← htext, String.ofList_toList]
  · cases h

/-- A long flag is its name behind two dashes, and perhaps a value behind a sign of equality. -/
theorem eq_of_long (h : ofText text = .long name value?) :
    text = "--" ++ name ++ (value?.map ("=" ++ ·)).getD "" := by
  unfold ofText at h
  split at h
  · cases h
  · rename_i rest _ htext
    unfold ofLong at h
    have hsplit := @List.takeWhile_append_dropWhile _ (· != '=') rest
    rw [← String.toList_inj, htext]
    split at h
    · cases h
      simp
    · rename_i c value hvalue
      cases h
      have hc : c = '=' := by
        have hnot := List.head?_dropWhile_not (· != '=') rest
        rw [hvalue] at hnot
        simpa using hnot
      rw [hvalue, hc] at hsplit
      simpa using hsplit.symm
  · cases h
  · cases h

end Word

namespace Flag

variable {f : Flag} {action : Action} {values : List String}

theorem mem_of_lookup {α : Type} [BEq α] [LawfulBEq α] {known : List (α × Flag)} {a : α}
    (h : (known.lookup a).filter (knows (some action)) = some f) : (a, f) ∈ known := by
  obtain ⟨hlookup, -⟩ := Option.filter_eq_some_iff.mp h
  obtain ⟨before, after, hsplit, -⟩ := List.lookup_eq_some_iff.mp hlookup
  rw [hsplit]
  exact List.mem_append_right _ List.mem_cons_self

/-- The names that are known are the words that name flags, less the two dashes. -/
theorem word_of_named {name : String} (h : named? (some action) name = some f) : f.word = "--" ++ name := by
  have hnames : names.all (fun known => known.2.word == "--" ++ known.1) = true := by decide
  exact beq_iff_eq.mp (List.all_eq_true.mp hnames (name, f) (mem_of_lookup h))

theorem letter?_of_lettered {c : Char} (h : lettered? (some action) c = some f) : f.letter? = some c := by
  have hletters : letters.all (fun known => known.2.letter? == some known.1) = true := by decide
  exact beq_iff_eq.mp (List.all_eq_true.mp hletters (c, f) (mem_of_lookup h))

theorem fits_nil (h : f.arity = .none) : f.Fits [] := by
  cases f <;> first | rfl | cases h

theorem fits_singleton (h : f.arity ≠ .none) (value : String) : f.Fits [value] := by
  cases f <;> first | exact absurd rfl h | simp [Fits]

/-- One more value fits if a flag takes several or has none so far. -/
theorem fits_concat (h : f.arity ≠ .none) (hmore : f.arity = .many ∨ values = []) (value : String) :
    f.Fits (values ++ [value]) := by
  rcases hmore with hmany | rfl
  · cases f with
    | input => simp [Fits]
    | _ => cases hmany
  · exact fits_singleton h value

end Flag

/-! ## Reading -/

/-- A flag that was met waits for values or has as many as it may have. -/
structure Waits (p : Pending) : Prop where
  arity : p.flag.arity ≠ .none
  values : p.values = [] ∨ p.flag.Fits p.values

/-- Words say flags behind one that may be waiting and takes the values that the words begin with. -/
inductive Continues : Option Pending → List String → List Pending → Prop
  | fresh {words : List String} {said : List Pending} (h : WordsSay words said) : Continues none words said
  | waiting {p : Pending} {values rest : List String} {said : List Pending} (hfits : p.flag.Fits (p.values ++ values))
      (hvalues : ∀ value ∈ values, IsValue value) (hrest : WordsSay rest said) :
      Continues (some p) (values ++ rest) (⟨p.flag, p.values ++ values⟩ :: said)

namespace Settings

variable {s s' next flags : Settings} {action : Action} {pending? pending?' : Option Pending} {p : Pending} {f : Flag}
  {word : String} {words rest : List String}

/-- Settings come of what words say, behind a flag that may be waiting. -/
def Becomes (s : Settings) (pending? : Option Pending) (words : List String) (flags : Settings) : Prop :=
  ∃ said, Continues pending? words said ∧ said.foldlM apply s = .ok flags

/-- A word that is read turns settings into others and leaves a flag waiting or not. -/
structure Advances (s : Settings) (word : String) (next : Settings) (pending? : Option Pending) : Prop where
  waits : ∀ p, pending? = some p → Waits p
  becomes : ∀ rest flags, next.Becomes pending? rest flags → s.Becomes none (word :: rest) flags

/-- A flag takes effect only with values that it may have. -/
theorem fits_of_apply (hwaits : Waits p) (h : s.apply p = .ok s') : p.flag.Fits p.values := by
  rcases hwaits.values with hnil | hfits
  · unfold apply at h
    rw [if_pos ⟨hwaits.arity, hnil⟩] at h
    cases h
  · exact hfits

/-- What is settled first is said first. -/
theorem Becomes.of_settle (hwaits : ∀ p, pending? = some p → Waits p) (h : s.settle pending? = .ok next)
    (hnext : next.Becomes none words flags) : s.Becomes pending? words flags := by
  obtain ⟨said, hsay, hfold⟩ := hnext
  cases pending? with
  | none =>
    cases h
    exact ⟨said, hsay, hfold⟩
  | some p =>
    obtain ⟨hsay⟩ := hsay
    have hfits := fits_of_apply (hwaits p rfl) h
    have hsay' : Continues (some p) ([] ++ words) (⟨p.flag, p.values ++ []⟩ :: said) :=
      .waiting (by rwa [List.append_nil]) (List.forall_mem_nil _) hsay
    rw [List.append_nil] at hsay'
    refine ⟨p :: said, hsay', ?_⟩
    rw [List.foldlM_cons, show s.apply p = .ok next from h]
    exact hfold

/-- A flag that takes effect at once is said first. -/
theorem Becomes.of_apply (h : s.apply p = .ok next) (hfirst : SaysFirst word words p rest)
    (hnext : next.Becomes none rest flags) : s.Becomes none (word :: words) flags := by
  obtain ⟨said, ⟨hrest⟩, hfold⟩ := hnext
  refine ⟨p :: said, .fresh (.cons hfirst hrest), ?_⟩
  rw [List.foldlM_cons, h]
  exact hfold

/-- A flag that waits is said with the values behind it. -/
theorem Becomes.of_waiting (h : s.Becomes (some ⟨f, []⟩) words flags)
    (hfirst : ∀ {values rest}, f.Fits values → (∀ value ∈ values, IsValue value) →
      SaysFirst word (values ++ rest) ⟨f, values⟩ rest) : s.Becomes none (word :: words) flags := by
  obtain ⟨said, hcontinues, hfold⟩ := h
  cases hcontinues with
  | waiting hfits hvalues hrest => exact ⟨_, .fresh (.cons (hfirst hfits hvalues) hrest), hfold⟩

theorem waits_none : ∀ p, none = some p → Waits p := fun _ h => nomatch h

theorem waits_flag (h : f.arity ≠ .none) : ∀ p, some (Pending.mk f []) = some p → Waits p := by
  rintro p ⟨⟩
  exact ⟨h, Or.inl rfl⟩

theorem advances_of_apply (h : s.apply p = .ok next) (hfirst : ∀ rest, SaysFirst word rest p rest) :
    s.Advances word next none :=
  ⟨waits_none, fun rest _ hrest => hrest.of_apply h (hfirst rest)⟩

theorem advances_of_arity (h : f.arity ≠ .none)
    (hfirst : ∀ {values rest}, f.Fits values → (∀ value ∈ values, IsValue value) →
      SaysFirst word (values ++ rest) ⟨f, values⟩ rest) : s.Advances word s (some ⟨f, []⟩) :=
  ⟨waits_flag h, fun _ _ hrest => hrest.of_waiting hfirst⟩

/-- A flag that is complete settles the one before it. -/
theorem settle_of_complete (h : s.complete pending? p = .ok (s', pending?')) :
    ∃ next, s.settle pending? = .ok next ∧ next.apply p = .ok s' ∧ pending?' = none := by
  obtain ⟨next, hnext, h⟩ := exists_of_bind_eq_ok h
  obtain ⟨applied, happlied, h⟩ := exists_of_bind_eq_ok h
  cases h
  exact ⟨next, hnext, happlied, rfl⟩

/-- A flag by its name settles the one before it and advances. -/
theorem advances_of_readLong {name : String} {value? : Option String}
    (h : s.readLong action pending? name value? = .ok (s', pending?')) :
    ∃ next, s.settle pending? = .ok next ∧
      next.Advances ("--" ++ name ++ (value?.map ("=" ++ ·)).getD "") s' pending?' := by
  unfold readLong at h
  split at h
  · cases h
  rename_i f hf
  rw [← Flag.word_of_named hf]
  cases value? with
  | some value =>
    dsimp only at h
    split at h
    · cases h
    · rename_i harity
      obtain ⟨next, hnext, happly, rfl⟩ := settle_of_complete h
      rw [Option.map_some, Option.getD_some, ← String.append_assoc]
      exact ⟨next, hnext, advances_of_apply happly fun _ => .assigned (Flag.fits_singleton harity value)⟩
  | none =>
    rw [Option.map_none, Option.getD_none, String.append_empty]
    dsimp only at h
    split at h
    · rename_i harity
      obtain ⟨next, hnext, happly, rfl⟩ := settle_of_complete h
      refine ⟨next, hnext, advances_of_apply happly fun _ => ?_⟩
      exact .name (Flag.fits_nil harity) (List.forall_mem_nil _)
    · rename_i harity
      obtain ⟨next, hnext, h⟩ := exists_of_bind_eq_ok h
      cases h
      exact ⟨s', hnext, advances_of_arity harity .name⟩

/-- The first letter settles the flag before it. -/
theorem settle_of_readCluster {c : Char} {cs : List Char}
    (h : s.readCluster action pending? (c :: cs) = .ok (s', pending?')) :
    ∃ next, s.settle pending? = .ok next ∧ next.readCluster action none (c :: cs) = .ok (s', pending?') := by
  cases hsettle : s.settle pending? with
  | error e =>
    unfold readCluster complete at h
    simp only [hsettle] at h
    split at h
    · cases h
    · split at h
      · cases h
      · split at h <;> cases h
  | ok next =>
    refine ⟨next, rfl, ?_⟩
    unfold readCluster complete at h ⊢
    simp only [hsettle] at h
    exact h

/-- What is attached to a letter is a value, without the sign of equality that may stand at its front. -/
theorem attached_cases (d : Char) (text : List Char) :
    (d = '=' ∧ text = (attached (d :: text)).toList) ∨ (d ≠ '=' ∧ d :: text = (attached (d :: text)).toList) := by
  unfold attached
  split
  · rename_i value heq
    cases heq
    simp
  · rename_i hne
    have hd : d ≠ '=' := by
      rintro rfl
      exact hne text rfl
    simp [hd]

/-- Letters advance one by one, by induction on those behind the first. -/
theorem advances_of_letters {c : Char} {cs : List Char}
    (h : s.readCluster action none (c :: cs) = .ok (s', pending?')) :
    c ≠ '-' ∧ s.Advances (String.ofList ('-' :: c :: cs)) s' pending?' := by
  induction cs generalizing c s with
  | nil =>
    unfold readCluster at h
    split at h
    · cases h
    rename_i f hf
    have hletter := Flag.letter?_of_lettered hf
    refine ⟨Flag.ne_dash_of_letter? hletter, ?_⟩
    split at h
    · rename_i harity
      obtain ⟨⟨applied, waiting?⟩, hcomplete, h⟩ := exists_of_bind_eq_ok h
      obtain ⟨next, hnext, happly, rfl⟩ := settle_of_complete hcomplete
      cases hnext
      cases h
      exact advances_of_apply happly fun _ => .letter hletter (Flag.fits_nil harity) (List.forall_mem_nil _)
    · rename_i harity
      rw [if_pos List.isEmpty_nil] at h
      cases h
      exact advances_of_arity harity (.letter hletter)
  | cons d text ih =>
    unfold readCluster at h
    split at h
    · cases h
    rename_i f hf
    have hletter := Flag.letter?_of_lettered hf
    refine ⟨Flag.ne_dash_of_letter? hletter, ?_⟩
    split at h
    · rename_i harity
      obtain ⟨⟨applied, waiting?⟩, hcomplete, h⟩ := exists_of_bind_eq_ok h
      obtain ⟨next, hnext, happly, rfl⟩ := settle_of_complete hcomplete
      cases hnext
      obtain ⟨hd, hwaits, hbecomes⟩ := ih h
      refine ⟨hwaits, fun rest flags hrest => (hbecomes rest flags hrest).of_apply happly ?_⟩
      exact .letters hletter (Flag.fits_nil harity) hd
    · rename_i harity
      rw [if_neg (by simp)] at h
      obtain ⟨next, hnext, happly, rfl⟩ := settle_of_complete h
      cases hnext
      refine advances_of_apply happly fun _ => ?_
      exact .attached hletter (Flag.fits_singleton harity _) (attached_cases d text)

/-- A value is collected for the flag that waits for it. -/
theorem waits_of_readPlain (hwaits : ∀ p, pending? = some p → Waits p) (h : readPlain pending? word = .ok p) :
    ∃ waiting, pending? = some waiting ∧ p = ⟨waiting.flag, waiting.values ++ [word]⟩ ∧ Waits p := by
  cases pending? with
  | none => cases h
  | some waiting =>
    dsimp only [readPlain] at h
    split at h
    · rename_i hmore
      cases h
      have harity := (hwaits waiting rfl).arity
      exact ⟨waiting, rfl, rfl, harity, Or.inr (Flag.fits_concat harity hmore word)⟩
    · cases h

/-- A value goes to the flag that waits. -/
theorem Becomes.of_value (hword : IsValue word) (h : s.Becomes (some ⟨p.flag, p.values ++ [word]⟩) rest flags) :
    s.Becomes (some p) (word :: rest) flags := by
  obtain ⟨said, hcontinues, hfold⟩ := h
  cases hcontinues with
  | @waiting _ values rest said hfits hvalues hrest =>
    simp only [List.append_assoc, List.singleton_append] at hfits hfold
    have hsay : Continues (some p) (word :: values ++ rest) (⟨p.flag, p.values ++ word :: values⟩ :: said) :=
      .waiting hfits (List.forall_mem_cons.mpr ⟨hword, hvalues⟩) hrest
    exact ⟨_, hsay, hfold⟩

/-- What is read is what the words say, behind a flag that may be waiting, by induction on the words. -/
theorem becomes_of_read (hwaits : ∀ p, pending? = some p → Waits p) (h : s.read action pending? words = .ok flags) :
    s.Becomes pending? words flags := by
  induction words generalizing s pending? with
  | nil => exact .of_settle hwaits h ⟨[], .fresh .nil, rfl⟩
  | cons word rest ih =>
    unfold Settings.read at h
    split at h
    · rename_i hword
      split at h
      · rename_i hrest
        obtain rfl := List.isEmpty_iff.mp hrest
        obtain rfl := Word.eq_of_separator hword
        exact .of_settle hwaits h ⟨[], .fresh .separator, rfl⟩
      · cases h
    · rename_i name value? hword
      obtain ⟨⟨s', pending?'⟩, hlong, h⟩ := exists_of_bind_eq_ok h
      obtain ⟨next, hnext, hadvances⟩ := advances_of_readLong hlong
      rw [← Word.eq_of_long hword] at hadvances
      exact .of_settle hwaits hnext (hadvances.becomes rest flags (ih hadvances.waits h))
    · rename_i letters hword
      obtain ⟨c, cs, rfl, rfl⟩ := Word.exists_of_cluster hword
      obtain ⟨⟨s', pending?'⟩, hcluster, h⟩ := exists_of_bind_eq_ok h
      obtain ⟨next, hnext, hcluster⟩ := settle_of_readCluster hcluster
      obtain ⟨-, hadvances⟩ := advances_of_letters hcluster
      exact .of_settle hwaits hnext (hadvances.becomes rest flags (ih hadvances.waits h))
    · rename_i hword
      obtain ⟨p, hplain, h⟩ := exists_of_bind_eq_ok h
      obtain ⟨waiting, rfl, rfl, hwaits'⟩ := waits_of_readPlain hwaits hplain
      have hnext := ih (fun q hq => Option.some.inj hq ▸ hwaits') h
      exact hnext.of_value (Word.isValue_of_plain hword)

/-- What is read is what the flags do that the words say, one after the other. -/
theorem wordsSay_of_read (h : s.read action none words = .ok flags) :
    ∃ said, WordsSay words said ∧ said.foldlM apply s = .ok flags := by
  obtain ⟨said, ⟨hsay⟩, hfold⟩ := becomes_of_read waits_none h
  exact ⟨said, hsay, hfold⟩

end Settings

namespace Gives

variable {said : List Pending} {f : Flag} {text? : Option String} {p : Pending}

theorem nil : Gives [] f none := rfl

/-- What other flags say does not matter. -/
theorem concat_of_ne (h : Gives said f text?) (hne : p.flag ≠ f) : Gives (said ++ [p]) f text? := by
  have hnone : [p].filter (·.flag = f) = [] := by simp [hne]
  rw [Gives, List.filter_append, hnone, List.append_nil]
  exact h

/-- A flag that was not said gives its text. -/
theorem concat_self (h : Gives said f none) (text : String) : Gives (said ++ [⟨f, [text]⟩]) f (some text) := by
  have hself : [(⟨f, [text]⟩ : Pending)].filter (·.flag = f) = [⟨f, [text]⟩] := by simp
  rw [Gives, List.filter_append, h, hself]
  rfl

end Gives

namespace Settings

variable {s next flags : Settings} {said : List Pending} {p : Pending}

/-! ## What a flag does -/

/-- What a flag does. One that stands once has not been there before. -/
inductive Applies (s : Settings) : Pending → Settings → Prop
  | input {values : List String} : Applies s ⟨.input, values⟩ { s with inputs := s.inputs ++ values }
  | platform {text : String} (hfirst : s.platform? = none) :
      Applies s ⟨.platform, [text]⟩ { s with platform? := some text }
  | target {text : String} {v : Version} (hfirst : s.target? = none) (hparse : Version.parse? text = some v) :
      Applies s ⟨.target, [text]⟩ { s with target? := some v }
  | framework {text : String} (hfirst : s.framework? = none) :
      Applies s ⟨.framework, [text]⟩ { s with framework? := some text }
  | out {text : String} (hfirst : s.out? = none) : Applies s ⟨.out, [text]⟩ { s with out? := some text }
  | deprecated : Applies s ⟨.deprecated, []⟩ { s with deprecated := true }
  | compact : Applies s ⟨.compact, []⟩ { s with compact := true }
  | noOp : Applies s ⟨.noOp, []⟩ { s with noOp := true }
  | verbose : Applies s ⟨.verbose, []⟩ { s with verbosity? := louder s.verbosity? }

theorem applies_of_apply (hfits : p.flag.Fits p.values) (h : s.apply p = .ok next) : s.Applies p next := by
  obtain ⟨f, values⟩ := p
  unfold apply at h
  split at h
  · cases h
  split at h
  · cases h
  rename_i hagain
  have hfirst : f.isRepeatable = false → s.has f = false := by
    intro honce
    simpa [honce] using hagain
  cases f with
  | input =>
    cases values with
    | nil => exact absurd rfl hfits
    | cons value others =>
      cases h
      exact .input
  | platform =>
    obtain ⟨text, rfl⟩ := List.length_eq_one_iff.mp hfits
    cases h
    exact .platform (by simpa [has] using hfirst rfl)
  | target =>
    obtain ⟨text, rfl⟩ := List.length_eq_one_iff.mp hfits
    dsimp only [take] at h
    split at h
    · rename_i v hparse
      cases h
      exact .target (by simpa [has] using hfirst rfl) hparse
    · cases h
  | framework =>
    obtain ⟨text, rfl⟩ := List.length_eq_one_iff.mp hfits
    cases h
    exact .framework (by simpa [has] using hfirst rfl)
  | out =>
    obtain ⟨text, rfl⟩ := List.length_eq_one_iff.mp hfits
    dsimp only [take] at h
    split at h
    · cases h
    · cases h
      exact .out (by simpa [has] using hfirst rfl)
  | deprecated =>
    obtain rfl : values = [] := hfits
    cases h
    exact .deprecated
  | compact =>
    obtain rfl : values = [] := hfits
    cases h
    exact .compact
  | noOp =>
    obtain rfl : values = [] := hfits
    cases h
    exact .noOp
  | verbose =>
    obtain rfl : values = [] := hfits
    cases h
    exact .verbose
  | help | version =>
    obtain rfl : values = [] := hfits
    cases h

/-! ## What flags have said -/

/-- Settings are what flags have said. -/
structure Reflects (s : Settings) (said : List Pending) : Prop where
  inputs : s.inputs = (said.filter (·.flag = .input)).flatMap (·.values)
  platform : Gives said .platform s.platform?
  target : ∃ text?, Gives said .target text? ∧ Option.Rel (fun text v => Version.parse? text = some v) text? s.target?
  framework : Gives said .framework s.framework?
  out : Gives said .out s.out?
  deprecated : s.deprecated = true ↔ ⟨.deprecated, []⟩ ∈ said
  compact : s.compact = true ↔ ⟨.compact, []⟩ ∈ said
  noOp : s.noOp = true ↔ ⟨.noOp, []⟩ ∈ said

theorem reflects_blank : blank.Reflects [] where
  inputs := rfl
  platform := .nil
  target := ⟨none, .nil, .none⟩
  framework := .nil
  out := .nil
  deprecated := iff_of_false nofun List.not_mem_nil
  compact := iff_of_false nofun List.not_mem_nil
  noOp := iff_of_false nofun List.not_mem_nil

/-- One more flag keeps this: it changes what it says and leaves the rest. -/
theorem Reflects.step (h : s.Reflects said) (happlies : s.Applies p next) : next.Reflects (said ++ [p]) where
  inputs := by
    cases happlies with
    | input => simp [h.inputs]
    | _ => simpa using h.inputs
  platform := by
    cases happlies with
    | platform hfirst => exact (hfirst ▸ h.platform).concat_self _
    | _ => exact h.platform.concat_of_ne nofun
  target := by
    obtain ⟨text?, hgives, hparse⟩ := h.target
    cases happlies with
    | target hfirst hparse' =>
      rw [hfirst] at hparse
      cases hparse
      exact ⟨some _, hgives.concat_self _, .some hparse'⟩
    | _ => exact ⟨text?, hgives.concat_of_ne nofun, hparse⟩
  framework := by
    cases happlies with
    | framework hfirst => exact (hfirst ▸ h.framework).concat_self _
    | _ => exact h.framework.concat_of_ne nofun
  out := by
    cases happlies with
    | out hfirst => exact (hfirst ▸ h.out).concat_self _
    | _ => exact h.out.concat_of_ne nofun
  deprecated := by
    cases happlies with
    | deprecated => simp
    | _ => simpa using h.deprecated
  compact := by
    cases happlies with
    | compact => simp
    | _ => simpa using h.compact
  noOp := by
    cases happlies with
    | noOp => simp
    | _ => simpa using h.noOp

/-- So do all flags that are said, by induction on them. -/
theorem Reflects.run {more : List Pending} (h : s.Reflects said) (hfits : ∀ p ∈ more, p.flag.Fits p.values)
    (hfold : more.foldlM apply s = .ok flags) : flags.Reflects (said ++ more) := by
  induction more generalizing s said with
  | nil =>
    cases hfold
    rwa [List.append_nil]
  | cons p more ih =>
    obtain ⟨hp, hmore⟩ := List.forall_mem_cons.mp hfits
    rw [List.foldlM_cons] at hfold
    obtain ⟨next, happly, hfold⟩ := exists_of_bind_eq_ok hfold
    have hstep := ih (h.step (applies_of_apply hp happly)) hmore hfold
    rwa [List.append_assoc] at hstep

end Settings

/-! ## What is read -/

/-- Flags may stand in front of a command line. -/
theorem Names.cons {words after : List String} {name word : String} (h : Names words name after)
    (hword : ¬IsValue word) : Names (word :: words) name after := by
  obtain ⟨before, rfl, hbefore⟩ := h
  exact ⟨word :: before, rfl, List.forall_mem_cons.mpr ⟨hword, hbefore⟩⟩

theorem Means.cons {words : List String} {command : Command} {word : String} (h : Means words command)
    (hword : ¬IsValue word) : Means (word :: words) command := by
  cases h with
  | extract hname hsay hchooses hout hcompact hnoOp =>
    exact .extract (hname.cons hword) hsay hchooses hout hcompact hnoOp
  | nothing hname hnoOp => exact .nothing (hname.cons hword) hnoOp
  | list hname hsay hchooses => exact .list (hname.cons hword) hsay hchooses

namespace Request

variable {words : List String} {request : Request} {verbosity? : Option Nat}

theorem chooses_of_reflects {said : List Pending} {flags : Settings} (hsay : WordsSay words said)
    (h : flags.Reflects said) (hinputs : flags.inputs ≠ []) : Chooses words said flags.inputs flags.options where
  ne_nil := hinputs
  inputs := h.inputs
  platform := ⟨flags.platform?, h.platform, rfl⟩
  target := h.target
  framework := h.framework
  deprecated := h.deprecated.trans (mem_said_iff .deprecated rfl rfl hsay)

theorem means_of_ofAction {action : Action} {name : String} (hname : Action.ofName? name = some action)
    (h : ofAction verbosity? action words = .ok request) : Means (name :: words) request.command := by
  obtain ⟨flags, hflags, h⟩ := exists_of_bind_eq_ok h
  split at h
  · cases h
  rename_i hinputs
  cases h
  have hnames : Names (name :: words) name words := ⟨[], rfl, fun _ hword => (List.not_mem_nil hword).elim⟩
  obtain ⟨said, hsay, hfold⟩ := Settings.wordsSay_of_read hflags
  have hreflects : flags.Reflects ([] ++ said) := Settings.reflects_blank.run (fits_of_wordsSay hsay) hfold
  rw [List.nil_append] at hreflects
  have hchooses := chooses_of_reflects hsay hreflects fun hnil => hinputs (List.isEmpty_iff.mpr hnil)
  have hcompact := hreflects.compact.trans (mem_said_iff .compact rfl rfl hsay)
  have hnoOp := hreflects.noOp.trans (mem_said_iff .noOp rfl rfl hsay)
  unfold Action.ofName? at hname
  split at hname
  · cases hname
    dsimp only [Action.command]
    split
    · rename_i hquiet
      exact .nothing hnames (hnoOp.mp hquiet)
    · rename_i hloud
      exact .extract hnames hsay hchooses hreflects.out hcompact fun hmem => hloud (hnoOp.mpr hmem)
  · cases hname
    exact .list hnames hsay hchooses
  · cases hname

/-- A command line that is understood asks for its command, by induction on the flags in front. -/
theorem means_of_read (h : read verbosity? words = .ok request) : Means words request.command := by
  induction words generalizing verbosity? with
  | nil => cases h
  | cons word rest ih =>
    unfold read at h
    cases hword : Word.ofText word with
    | separator =>
      rw [hword] at h
      cases rest <;> cases h
    | long name value? =>
      rw [hword] at h
      obtain ⟨louder?, -, h⟩ := exists_of_bind_eq_ok h
      exact (ih h).cons (Word.not_isValue_of_ne_plain (by rw [hword]; nofun))
    | cluster letters =>
      rw [hword] at h
      obtain ⟨louder?, -, h⟩ := exists_of_bind_eq_ok h
      exact (ih h).cons (Word.not_isValue_of_ne_plain (by rw [hword]; nofun))
    | plain =>
      rw [hword] at h
      cases hname : Action.ofName? word with
      | none =>
        rw [hname] at h
        cases h
      | some action =>
        rw [hname] at h
        exact means_of_ofAction hname h

end Request

end HeaderCatalog.CommandLine
