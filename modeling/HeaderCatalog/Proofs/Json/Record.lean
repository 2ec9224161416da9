import HeaderCatalog.Json.Schema
import HeaderCatalog.Proofs.Json.Reading

/-!
# Reading back records

The members of an object are read one after the other: those of no field are passed over, and each field is read once
(`members_passed`, `members_read`, `members_repeated`). A record is written member by member in the order of its
schema's fields; parts that are absent are left out. `Fills` follows the two side by side and keeps the draft that the
reading has come to, so that a record's document is read as the draft at the end (`reads_of_fills`). What every field
keeps of a draft, all records that are ever read have (`yields_read`).
-/

namespace HeaderCatalog.Json

variable {σ α : Type}

/-! ## One member after the other -/

section Members

variable {fields : List (Field σ)} {n : Nat} {name : String} {seen : List String}

/-- A member of another name than the fields' is passed over. -/
theorem members_passed (hname : fields.find? (·.name == name) = none) (j : Json) (ms : List (String × Json))
    (draft : σ) :
    Schema.members fields n (treeMembers ((name, j) :: ms)) seen draft =
      Schema.members fields n (treeMembers ms) seen draft := by
  rw [treeMembers, Schema.members, Quoted.value_ofString]
  simp only [located, under, ok_bind, hname, flaw?_tree]

/-- The first member of a field's name is read into the draft. -/
theorem members_read {field : Field σ} (hname : fields.find? (·.name == name) = some field) (hfresh : name ∉ seen)
    (j : Json) (ms : List (String × Json)) (draft : σ) :
    Schema.members fields n (treeMembers ((name, j) :: ms)) seen draft =
      under (.key name) (field.read n j.tree) >>= fun set =>
        Schema.members fields n (treeMembers ms) (name :: seen) (set draft) := by
  rw [treeMembers, Schema.members, Quoted.value_ofString]
  simp only [located, under, ok_bind, hname]
  rw [if_neg (by simpa using hfresh)]

/-- A second one is a problem. -/
theorem members_repeated {field : Field σ} (hname : fields.find? (·.name == name) = some field) (hseen : name ∈ seen)
    (j : Json) (ms : List (String × Json)) (draft : σ) :
    Schema.members fields n (treeMembers ((name, j) :: ms)) seen draft = fail (.duplicateField name) := by
  rw [treeMembers, Schema.members, Quoted.value_ofString]
  simp only [located, under, ok_bind, hname]
  rw [if_pos (by simpa using hseen)]

/-- What is read of a field is read into the draft. -/
theorem members_of_read {field : Field σ} (hname : fields.find? (·.name == name) = some field) (hfresh : name ∉ seen)
    {j : Json} {set : σ → σ} (hset : field.read n j.tree = .ok set) (ms : List (String × Json)) (draft : σ) :
    Schema.members fields n (treeMembers ((name, j) :: ms)) seen draft =
      Schema.members fields n (treeMembers ms) (name :: seen) (set draft) := by
  rw [members_read hname hfresh, hset]
  rfl

/-- If members are read, the first of them is read if it is a field's, and has not been seen before. -/
theorem exists_of_members_read {field : Field σ} (hname : fields.find? (·.name == name) = some field) {j : Json}
    {ms : List (String × Json)} {draft : σ} {result : List String × σ}
    (h : Schema.members fields n (treeMembers ((name, j) :: ms)) seen draft = .ok result) :
    name ∉ seen ∧ ∃ set, field.read n j.tree = .ok set ∧
      Schema.members fields n (treeMembers ms) (name :: seen) (set draft) = .ok result := by
  have hfresh : name ∉ seen := by
    intro hseen
    rw [members_repeated hname hseen] at h
    cases h
  rw [members_read hname hfresh] at h
  obtain ⟨set, hset, h⟩ := exists_of_bind_eq_ok h
  exact ⟨hfresh, set, eq_ok_of_under hset, h⟩

end Members

/-! ## Filling a draft -/

/-- `Fills fields ms draft result`: the members `ms`, one for each of the fields, turn the draft into the result. -/
inductive Fills : List (Field σ) → List (String × Option Json) → σ → σ → Prop
  | done {draft : σ} : Fills [] [] draft draft
  | given (field : Field σ) {fields : List (Field σ)} {j : Json} {ms : List (String × Option Json)} {set : σ → σ}
      {draft result : σ} (hread : Reads field.read j set) (hrest : Fills fields ms (set draft) result) :
      Fills (field :: fields) ((field.name, some j) :: ms) draft result
  | absent (field : Field σ) {fields : List (Field σ)} {ms : List (String × Option Json)} {draft result : σ}
      (hfield : field.isRequired = false) (hrest : Fills fields ms draft result) :
      Fills (field :: fields) ((field.name, none) :: ms) draft result

namespace Fills

variable {fields : List (Field σ)} {ms : List (String × Option Json)} {draft result : σ} {name : String}
  {r : Reader α} {j : Json} {a : α}

/-- A part that must be present. -/
theorem required {set : α → σ → σ} (h : Reads r j a) (hrest : Fills fields ms (set a draft) result) :
    Fills (.required name r set :: fields) ((name, some j) :: ms) draft result :=
  .given (.required name r set) (h.map set) hrest

/-- A part that could be absent and is always written. -/
theorem defaulted {set : α → σ → σ} (h : Reads r j a) (hrest : Fills fields ms (set a draft) result) :
    Fills (.defaulted name r set :: fields) ((name, some j) :: ms) draft result :=
  .given (.defaulted name r set) (h.map set) hrest

/-- A part that may be absent: what is written for it is no `null`, and where it is absent the draft has none yet. -/
theorem optional {set : Option α → σ → σ} {value : Option α} {write : α → Json}
    (h : ∀ a ∈ value, Reads r (write a) a ∧ write a ≠ .null) (hnone : set none draft = draft)
    (hrest : Fills fields ms (set value draft) result) :
    Fills (.optional name r set :: fields) ((name, value.map write) :: ms) draft result := by
  cases value with
  | none =>
    rw [hnone] at hrest
    exact .absent (.optional name r set) rfl hrest
  | some a => exact .given (.optional name r set) (((h a rfl).1.option (h a rfl).2).map set) hrest

/-- A text that may be absent. -/
theorem optionalText {set : Option String → σ → σ} {value : Option String} (hnone : set none draft = draft)
    (hrest : Fills fields ms (set value draft) result) :
    Fills (.optional name .text set :: fields) ((name, value.map .string) :: ms) draft result :=
  .optional (fun a _ => ⟨reads_text a, nofun⟩) hnone hrest

end Fills

/-! ## Reading what fills -/

/-- Among fields with names of their own each is found by its name. -/
theorem find?_name {fields : List (Field σ)} (h : (fields.map (·.name)).Nodup) :
    ∀ field ∈ fields, fields.find? (·.name == field.name) = some field := by
  induction fields with
  | nil => simp
  | cons f fields ih =>
    rw [List.map_cons, List.nodup_cons] at h
    intro field hfield
    rcases List.mem_cons.mp hfield with rfl | hfield
    · simp
    · have hne : f.name ≠ field.name := fun he => h.1 (he ▸ List.mem_map_of_mem hfield)
      rw [List.find?_cons_of_neg (by simpa using hne)]
      exact ih h.2 field hfield

/-- The members of a record are read one by one: afterwards all required fields have been seen. -/
theorem Fills.members {all fields : List (Field σ)} {ms : List (String × Option Json)} {draft result : σ}
    (h : Fills fields ms draft result) (n : Nat)
    (hall : ∀ field ∈ fields, all.find? (·.name == field.name) = some field)
    (hnames : (fields.map (·.name)).Nodup) (seen : List String) (hseen : ∀ field ∈ fields, field.name ∉ seen) :
    ∃ seen', seen ⊆ seen' ∧ (∀ field ∈ fields, field.isRequired = true → field.name ∈ seen') ∧
      Answer n (depthMembers (present ms)) (Schema.members all n (treeMembers (present ms)) seen draft)
        (seen', result) := by
  induction h generalizing seen with
  | done => exact ⟨seen, fun _ hname => hname, by simp, .of_ok rfl⟩
  | @given field fields j ms set draft result hread hrest ih =>
    rw [List.map_cons, List.nodup_cons] at hnames
    have hfresh : field.name ∉ seen := hseen field List.mem_cons_self
    obtain ⟨seen', hsub, hrequired, hanswer⟩ := ih (fun f hf => hall f (List.mem_cons_of_mem _ hf)) hnames.2
      (field.name :: seen) (by
        intro f hf hmem
        rcases List.mem_cons.mp hmem with he | hmem
        · exact hnames.1 (he ▸ List.mem_map_of_mem hf)
        · exact hseen f (List.mem_cons_of_mem _ hf) hmem)
    refine ⟨seen', fun name hname => hsub (List.mem_cons_of_mem _ hname), ?_, ?_⟩
    · intro f hf hisRequired
      rcases List.mem_cons.mp hf with rfl | hf
      · exact hsub List.mem_cons_self
      · exact hrequired f hf hisRequired
    · rw [present_cons_some, members_read (hall field List.mem_cons_self) hfresh]
      exact ((hread n).under (.key field.name)).bind hanswer
  | @absent field fields ms draft result hfield hrest ih =>
    rw [List.map_cons, List.nodup_cons] at hnames
    obtain ⟨seen', hsub, hrequired, hanswer⟩ := ih (fun f hf => hall f (List.mem_cons_of_mem _ hf)) hnames.2
      seen (fun f hf => hseen f (List.mem_cons_of_mem _ hf))
    rw [← present_cons_none field.name] at hanswer
    refine ⟨seen', hsub, ?_, hanswer⟩
    intro f hf hisRequired
    rcases List.mem_cons.mp hf with rfl | hf
    · rw [hfield] at hisRequired
      cases hisRequired
    · exact hrequired f hf hisRequired

/-- A record's document is read as the record that it fills in. -/
theorem reads_of_fills {schema : Schema σ} {ms : List (String × Option Json)} {result : σ}
    (hnames : (schema.fields.map (·.name)).Nodup) (h : Fills schema.fields ms schema.blank result) :
    Reads schema.read (.record ms) result := by
  intro n
  rw [record, depth, tree]
  cases n with
  | zero => exact ⟨fun hn => absurd hn (Nat.not_succ_le_zero _), fun _ => ⟨[], rfl⟩⟩
  | succ n =>
    obtain ⟨seen, -, hrequired, hanswer⟩ := h.members n (find?_name hnames) hnames [] (by simp)
    have hmissing : Schema.missing? schema.fields seen = none := by
      rw [Schema.missing?, Option.map_eq_none_iff, List.find?_eq_none]
      intro field hfield
      cases hisRequired : field.isRequired with
      | true => simp [hrequired field hfield hisRequired]
      | false => simp
    rw [Schema.read]
    refine ⟨fun hn => ?_, fun hn => ?_⟩
    · rw [hanswer.ok (Nat.le_of_succ_le_succ hn)]
      simp only [bind, Except.bind, hmissing]
      rfl
    · obtain ⟨path, hpath⟩ := hanswer.tooDeep (Nat.lt_of_succ_lt_succ hn)
      exact ⟨path, by rw [hpath]; rfl⟩

/-! ## What all records have -/

/-- What a field does to a draft keeps a property. -/
def Field.Keeps (field : Field σ) (P : σ → Prop) : Prop :=
  Yields field.read fun set => ∀ draft, P draft → P (set draft)

variable {P : σ → Prop} {Q : α → Prop} {r : Reader α}

/-- A field keeps a property if its value is put into the draft in a way that does. -/
theorem keeps_of_set {name : String} {isRequired : Bool} {set : α → σ → σ} (h : Yields r Q)
    (hset : ∀ a, Q a → ∀ draft, P draft → P (set a draft)) :
    Field.Keeps ⟨name, isRequired, fun n t => (r n t).map set⟩ P := by
  intro n t s hs
  obtain ⟨a, hread, rfl⟩ := exists_of_map_eq_ok hs
  exact hset a (h n t a hread)

/-- A field keeps a property that does not depend on its value. -/
theorem keeps_of_frame {name : String} {isRequired : Bool} {set : α → σ → σ}
    (hset : ∀ a draft, P draft → P (set a draft)) : Field.Keeps ⟨name, isRequired, fun n t => (r n t).map set⟩ P := by
  have htrue : Yields r fun _ => True := fun _ _ _ _ => trivial
  exact keeps_of_set htrue fun a _ => hset a

/-- Members of an object keep what every field keeps, whatever comes in between. -/
theorem members_keep {fields : List (Field σ)} (hfields : ∀ field ∈ fields, field.Keeps P) {n : Nat} :
    ∀ (given : Members) (seen : List String) (draft : σ) (result : List String × σ), P draft →
      Schema.members fields n given seen draft = .ok result → P result.2
  | .close, seen, draft, result, hdraft, h => by
    cases h
    exact hdraft
  | .stop flaw, seen, draft, result, _, h => by cases h
  | .noKey found, seen, draft, result, _, h => by cases h
  | .keyOnly key atEnd, seen, draft, result, _, h => by
    rw [Schema.members] at h
    obtain ⟨name, -, h⟩ := exists_of_bind_eq_ok h
    split at h <;> cases h
  | .member key value rest, seen, draft, result, hdraft, h => by
    rw [Schema.members] at h
    obtain ⟨name, -, h⟩ := exists_of_bind_eq_ok h
    split at h
    · split at h
      · cases h
      · exact members_keep hfields rest seen draft result hdraft h
    · rename_i field hfield
      split at h
      · cases h
      · obtain ⟨set, hread, h⟩ := exists_of_bind_eq_ok h
        have hset := hfields field (List.mem_of_find?_eq_some hfield) n value set (eq_ok_of_under hread) draft hdraft
        exact members_keep hfields rest (name :: seen) (set draft) result hset h

/-- So do the items of an array that is read as a record. -/
theorem row_keeps (label : String) (total n : Nat) {fields : List (Field σ)}
    (hfields : ∀ field ∈ fields, field.Keeps P) (i : Nat) (given : Items) (draft result : σ) (hdraft : P draft)
    (h : Schema.row label total n i fields given draft = .ok result) : P result := by
  induction fields generalizing i given draft with
  | nil =>
    rw [Schema.row] at h
    obtain ⟨-, -, h⟩ := exists_of_bind_eq_ok h
    cases h
    exact hdraft
  | cons field fields ih =>
    have hrest := ih fun f hf => hfields f (List.mem_cons_of_mem _ hf)
    cases given with
    | close =>
      rw [Schema.row] at h
      split at h
      · cases h
      · exact hrest (i + 1) .close draft hdraft h
    | stop flaw => cases h
    | item value rest =>
      rw [Schema.row] at h
      obtain ⟨set, hread, h⟩ := exists_of_bind_eq_ok h
      have hset := hfields field List.mem_cons_self n value set (eq_ok_of_under hread) draft hdraft
      exact hrest (i + 1) rest (set draft) hset h

/-- What the blank record has and every field keeps, all records have that are read. -/
theorem yields_read {schema : Schema σ} (hblank : P schema.blank) (hfields : ∀ field ∈ schema.fields, field.Keeps P) :
    Yields schema.read P := by
  intro n t a h
  unfold Schema.read at h
  split at h
  · cases h
  · cases h
  · obtain ⟨⟨seen, draft⟩, hmembers, h⟩ := exists_of_bind_eq_ok h
    have hdraft := members_keep hfields _ [] schema.blank _ hblank hmembers
    simp only at h
    split at h
    · cases h
    · cases h
      exact hdraft
  · exact row_keeps schema.label schema.fields.length _ hfields 0 _ schema.blank a hblank h
  · exact absurd h (mismatch_ne_ok _ _ a)

end HeaderCatalog.Json
