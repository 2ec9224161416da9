import Mathlib.Data.List.Pairwise
import Mathlib.Logic.Relation
import HeaderCatalog.Proofs.Json.Record

/-!
# Edits that a reader does not notice

The same record can be written in many ways: its members in any order, without those that have the value of a blank
record, with `null` for those that are absent, and with members that no field asks for. `Edit form j j'` is one such
change, at any place of a document whose form is given, and `Respects form r` says that a reader gives the same for
both. Arrays respect the edits of their items (`Respects.list`), and records theirs if no field of theirs undoes what
another one did (`Field.Commute`) and what is left out or `null` leaves a blank record as it is (`Layout.Suits`,
`Layout.Suits.respects`).
-/

namespace HeaderCatalog.Json

variable {α β σ : Type}

/-! ## Edits -/

/-- The members of an object. -/
def members : Json → List (String × Json)
  | .object ms => ms
  | _ => []

/-- The members of a record's objects: their names, those that must be present, and the document of a record of which
nothing else is known. -/
structure Layout where
  names : List String
  required : List String
  blank : Json

namespace Layout

/-- The members that may be left out, with the values that they then have. -/
def defaults (layout : Layout) : List (String × Json) := layout.blank.members.filter (·.1 ∉ layout.required)

/-- The members that a record may be without. -/
def optional (layout : Layout) : List String := layout.names.filter (· ∉ layout.blank.members.map (·.1))

end Layout

/-- Where in a document there are records, and which. -/
inductive Form where
  | list (item : Form)
  | record (layout : Layout) (parts : List (String × Form))

/-- One change in how a document is written, at any place. -/
inductive Edit : Form → Json → Json → Prop
  /-- in an item of an array -/
  | item {form : Form} {j j' : Json} (before after : List Json) (h : Edit form j j') :
      Edit (.list form) (.array (before ++ j :: after)) (.array (before ++ j' :: after))
  /-- in a part of a record that is an array or a record itself -/
  | part {layout : Layout} {parts : List (String × Form)} {name : String} {form : Form} {j j' : Json}
      (ms : List (String × Json)) (hpart : (name, form) ∈ parts) (h : Edit form j j') :
      Edit (.record layout parts) (.object ((name, j) :: ms)) (.object ((name, j') :: ms))
  /-- the members in another order -/
  | permute {layout : Layout} {parts : List (String × Form)} {ms ms' : List (String × Json)} (h : ms.Perm ms') :
      Edit (.record layout parts) (.object ms) (.object ms')
  /-- without a member that says what a blank record says -/
  | leaveOut {layout : Layout} {parts : List (String × Form)} {m : String × Json} (ms : List (String × Json))
      (hm : m ∈ layout.defaults) : Edit (.record layout parts) (.object (m :: ms)) (.object ms)
  /-- with `null` for a member that is absent -/
  | addNull {layout : Layout} {parts : List (String × Form)} {name : String} {ms : List (String × Json)}
      (hname : name ∈ layout.optional) (habsent : name ∉ ms.map (·.1)) :
      Edit (.record layout parts) (.object ms) (.object ((name, .null) :: ms))
  /-- with a member of an unknown name, whatever its value -/
  | addUnknown {layout : Layout} {parts : List (String × Form)} {name : String} (j : Json)
      (ms : List (String × Json)) (hname : name ∉ layout.names) :
      Edit (.record layout parts) (.object ms) (.object ((name, j) :: ms))

/-- Several members may be left out at once. -/
theorem edits_leaveOut {layout : Layout} {parts : List (String × Form)} {ms rest : List (String × Json)}
    (h : ∀ m ∈ ms, m ∈ layout.defaults) :
    Relation.ReflTransGen (Edit (.record layout parts)) (.object (ms ++ rest)) (.object rest) := by
  induction ms with
  | nil => exact .refl
  | cons m ms ih =>
    rw [List.forall_mem_cons] at h
    exact .head (.leaveOut _ h.1) (ih h.2)

/-- What a reader gives for a document, it gives for the edited one. -/
def Respects (form : Form) (r : Reader α) : Prop :=
  ∀ j j', Edit form j j' → ∀ n a, r n j.tree = .ok a → r n j'.tree = .ok a

variable {form : Form} {r : Reader α}

theorem Respects.map (h : Respects form r) (f : α → β) : Respects form (fun n t => (r n t).map f) := by
  intro j j' hedit n b hread
  obtain ⟨a, ha, rfl⟩ := exists_of_map_eq_ok hread
  exact congrArg (Except.map f) (h j j' hedit n a ha)

/-- However many edits are made. -/
theorem Respects.run (h : Respects form r) {j j' : Json} (hedits : Relation.ReflTransGen (Edit form) j j') {n : Nat}
    {a : α} (hread : r n j.tree = .ok a) : r n j'.tree = .ok a := by
  induction hedits with
  | refl => exact hread
  | tail _ hedit ih => exact h _ _ hedit n a ih

/-! ## Arrays -/

theorem items_edit {read : Tree → Except Problem α} {j j' : Json} {before after : List Json} {i : Nat} {l : List α}
    (h : ∀ a, read j.tree = .ok a → read j'.tree = .ok a)
    (hread : Reader.items read i (treeItems (before ++ j :: after)) = .ok l) :
    Reader.items read i (treeItems (before ++ j' :: after)) = .ok l := by
  induction before generalizing i l with
  | nil =>
    rw [List.nil_append, treeItems, Reader.items] at hread ⊢
    obtain ⟨a, ha, hrest⟩ := exists_of_bind_eq_ok hread
    rw [h a (eq_ok_of_under ha)]
    exact hrest
  | cons k before ih =>
    rw [List.cons_append, treeItems, Reader.items] at hread ⊢
    obtain ⟨a, ha, hread⟩ := exists_of_bind_eq_ok hread
    obtain ⟨as, has, hl⟩ := exists_of_bind_eq_ok hread
    rw [ha, ok_bind, ih has]
    exact hl

/-- An array is read item by item. -/
theorem Respects.list (h : Respects form r) : Respects (.list form) (.list r) := by
  intro j j' hedit n a hread
  cases hedit with
  | item before after hitem =>
    cases n with
    | zero => cases hread
    | succ n => exact items_edit (h _ _ hitem n) hread

/-! ## The members of an object in another order -/

section Members

variable {fields : List (Field σ)} {n : Nat} {ms ms' : List (String × Json)} {seen : List String} {draft : σ}
  {result : List String × σ}

/-- The names that were read before matter only for members that come again; they stay among those read. -/
theorem members_seen (seen' : List String)
    (h : Schema.members fields n (treeMembers ms) seen draft = .ok result)
    (hseen : ∀ m ∈ ms, m.1 ∈ seen' → m.1 ∈ seen) :
    ∃ names, Schema.members fields n (treeMembers ms) seen' draft = .ok (names, result.2) ∧
      ∀ name ∈ result.1, name ∈ names ∨ name ∈ seen ∧ name ∉ seen' := by
  induction ms generalizing seen seen' draft with
  | nil =>
    cases h
    refine ⟨seen', rfl, fun name hname => ?_⟩
    by_cases hmem : name ∈ seen'
    · exact .inl hmem
    · exact .inr ⟨hname, hmem⟩
  | cons m ms ih =>
    obtain ⟨key, j⟩ := m
    rw [List.forall_mem_cons] at hseen
    cases hfield : fields.find? (·.name == key) with
    | none =>
      rw [members_passed hfield] at h ⊢
      exact ih seen' h hseen.2
    | some field =>
      obtain ⟨hfresh, set, hset, h⟩ := exists_of_members_read hfield h
      rw [members_of_read hfield (fun hmem => hfresh (hseen.1 hmem)) hset]
      obtain ⟨names, hnames, hsub⟩ := ih (key :: seen') h (by
        intro m hm hmem
        rcases List.mem_cons.mp hmem with hkey | hmem
        · exact hkey ▸ List.mem_cons_self
        · exact List.mem_cons_of_mem _ (hseen.2 m hm hmem))
      refine ⟨names, hnames, fun name hname => ?_⟩
      rcases hsub name hname with hmem | ⟨hmem, hnot⟩
      · exact .inl hmem
      · rw [List.mem_cons, not_or] at hnot
        exact .inr ⟨(List.mem_cons.mp hmem).resolve_left hnot.1, hnot.2⟩

/-- What two fields do to a draft does not depend on which of them comes first. -/
def Field.Commute (f g : Field σ) : Prop :=
  ∀ m n t u set set', f.read m t = .ok set → g.read n u = .ok set' → ∀ draft, set' (set draft) = set (set' draft)

instance : Std.Symm (@Field.Commute σ) where
  symm _ _ h m n t u set set' hset hset' draft := (h n m u t set' set hset' hset draft).symm

/-- Two fields that set different parts of a draft. -/
theorem commute_of_set {name name' : String} {isRequired isRequired' : Bool} {r : Reader α} {r' : Reader β}
    {set : α → σ → σ} {set' : β → σ → σ} (h : ∀ a b draft, set' b (set a draft) = set a (set' b draft)) :
    Field.Commute ⟨name, isRequired, fun n t => (r n t).map set⟩ ⟨name', isRequired', fun n t => (r' n t).map set'⟩ := by
  intro m n t u f g hf hg draft
  obtain ⟨a, -, rfl⟩ := exists_of_map_eq_ok hf
  obtain ⟨b, -, rfl⟩ := exists_of_map_eq_ok hg
  exact h a b draft

/-- Two members that come one after the other may be read in the other order. -/
theorem members_swap (hcommute : fields.Pairwise Field.Commute) (m m' : String × Json)
    (h : Schema.members fields n (treeMembers (m' :: m :: ms)) seen draft = .ok result) :
    ∃ names, Schema.members fields n (treeMembers (m :: m' :: ms)) seen draft = .ok (names, result.2) ∧
      result.1 ⊆ names := by
  obtain ⟨key, j⟩ := m
  obtain ⟨key', j'⟩ := m'
  cases hfield : fields.find? (·.name == key) with
  | none =>
    rw [members_passed hfield]
    cases hfield' : fields.find? (·.name == key') with
    | none =>
      rw [members_passed hfield', members_passed hfield] at h
      rw [members_passed hfield']
      exact ⟨result.1, h, List.Subset.refl _⟩
    | some field' =>
      obtain ⟨hfresh', set', hset', h⟩ := exists_of_members_read hfield' h
      rw [members_passed hfield] at h
      rw [members_of_read hfield' hfresh' hset']
      exact ⟨result.1, h, List.Subset.refl _⟩
  | some field =>
    cases hfield' : fields.find? (·.name == key') with
    | none =>
      rw [members_passed hfield'] at h
      obtain ⟨hfresh, set, hset, h⟩ := exists_of_members_read hfield h
      rw [members_of_read hfield hfresh hset, members_passed hfield']
      exact ⟨result.1, h, List.Subset.refl _⟩
    | some field' =>
      obtain ⟨hfresh', set', hset', h⟩ := exists_of_members_read hfield' h
      obtain ⟨hfresh, set, hset, h⟩ := exists_of_members_read hfield h
      rw [List.mem_cons, not_or] at hfresh
      have hswapped : key' ∉ key :: seen := by
        rw [List.mem_cons, not_or]
        exact ⟨Ne.symm hfresh.1, hfresh'⟩
      have hne : field ≠ field' := by
        rintro rfl
        have hname := List.find?_some hfield
        have hname' := List.find?_some hfield'
        exact hfresh.1 ((beq_iff_eq.mp hname).symm.trans (beq_iff_eq.mp hname'))
      have hsets := hcommute.forall (List.mem_of_find?_eq_some hfield) (List.mem_of_find?_eq_some hfield') hne
        n n j.tree j'.tree set set' hset hset' draft
      rw [members_of_read hfield hfresh.2 hset, members_of_read hfield' hswapped hset', hsets]
      obtain ⟨names, hnames, hsub⟩ := members_seen (key' :: key :: seen) h fun _ _ hmem => by
        simpa [or_left_comm] using hmem
      refine ⟨names, hnames, fun name hname => ?_⟩
      rcases hsub name hname with hmem | ⟨hmem, hnot⟩
      · exact hmem
      · exact absurd (by simpa [or_left_comm] using hmem) hnot

/-- Members in another order are read alike. -/
theorem members_perm (hcommute : fields.Pairwise Field.Commute) (hms : ms.Perm ms')
    (h : Schema.members fields n (treeMembers ms) seen draft = .ok result) :
    ∃ names, Schema.members fields n (treeMembers ms') seen draft = .ok (names, result.2) ∧ result.1 ⊆ names := by
  induction hms generalizing seen draft result with
  | nil => exact ⟨result.1, h, fun _ hname => hname⟩
  | cons m _ ih =>
    obtain ⟨key, j⟩ := m
    cases hfield : fields.find? (·.name == key) with
    | none =>
      rw [members_passed hfield] at h ⊢
      exact ih h
    | some field =>
      obtain ⟨hfresh, set, hset, h⟩ := exists_of_members_read hfield h
      rw [members_of_read hfield hfresh hset]
      exact ih h
  | swap m m' ms => exact members_swap hcommute m m' h
  | trans _ _ ih ih' =>
    obtain ⟨names, hnames, hsub⟩ := ih h
    obtain ⟨names', hnames', hsub'⟩ := ih' hnames
    exact ⟨names', hnames', fun name hname => hsub' (hsub hname)⟩

end Members

/-! ## Records -/

/-- A member that leaves a blank record as it is. -/
def Schema.Idle (schema : Schema σ) (m : String × Json) : Prop :=
  ∃ field, schema.fields.find? (·.name == m.1) = some field ∧
    ∃ set, Reads field.read m.2 set ∧ set schema.blank = schema.blank

/-- A value that a blank record has anyway. -/
theorem Schema.idle_of_reads {schema : Schema σ} {name : String} {isRequired : Bool} {r : Reader α} {set : α → σ → σ}
    {j : Json} {a : α}
    (hfield : schema.fields.find? (·.name == name) = some ⟨name, isRequired, fun n t => (r n t).map set⟩)
    (h : Reads r j a) (hblank : set a schema.blank = schema.blank) : schema.Idle (name, j) :=
  ⟨_, hfield, set a, h.map set, hblank⟩

/-- A part that a blank record is without. -/
theorem Schema.idle_null {schema : Schema σ} {name : String} {r : Reader α} {set : Option α → σ → σ}
    (hfield : schema.fields.find? (·.name == name) = some (.optional name r set))
    (hblank : set none schema.blank = schema.blank) : schema.Idle (name, .null) :=
  idle_of_reads hfield (reads_null r) hblank

/-- A layout says of a schema's records what the schema says, and what it lets be left out or `null` leaves a blank
record as it is. -/
structure Layout.Suits (layout : Layout) (schema : Schema σ) : Prop where
  names : schema.fields.map (·.name) = layout.names
  required : ∀ field ∈ schema.fields, field.isRequired = true → field.name ∈ layout.required
  defaults : ∀ m ∈ layout.defaults, schema.Idle m
  optional : ∀ name ∈ layout.optional, schema.Idle (name, .null)
  commute : schema.fields.Pairwise Field.Commute

section Records

variable {schema : Schema σ} {layout : Layout} {n : Nat} {ms : List (String × Json)} {a : σ}

/-- A record is read from members that are read, all required ones among them. -/
theorem read_object_eq_ok_iff : Schema.read schema (n + 1) (.object (treeMembers ms)) = .ok a ↔
    ∃ names, Schema.members schema.fields n (treeMembers ms) [] schema.blank = .ok (names, a) ∧
      ∀ field ∈ schema.fields, field.isRequired = true → field.name ∈ names := by
  have hmissing : ∀ names, Schema.missing? schema.fields names = none ↔
      ∀ field ∈ schema.fields, field.isRequired = true → field.name ∈ names := by
    intro names
    simp [Schema.missing?, List.find?_eq_none]
  rw [Schema.read]
  constructor
  · intro h
    obtain ⟨⟨names, draft⟩, hmembers, h⟩ := exists_of_bind_eq_ok h
    simp only at h
    split at h
    · cases h
    · rename_i hnone
      cases h
      exact ⟨names, hmembers, (hmissing names).mp hnone⟩
  · rintro ⟨names, hmembers, hrequired⟩
    rw [hmembers, ok_bind]
    simp only [(hmissing names).mpr hrequired]
    rfl

namespace Layout.Suits

theorem read_permute (h : layout.Suits schema) {ms' : List (String × Json)} (hms : ms.Perm ms')
    (hread : schema.read (n + 1) (object ms).tree = .ok a) : schema.read (n + 1) (object ms').tree = .ok a := by
  obtain ⟨names, hmembers, hrequired⟩ := read_object_eq_ok_iff.mp hread
  obtain ⟨names', hmembers', hsub⟩ := members_perm h.commute hms hmembers
  exact read_object_eq_ok_iff.mpr ⟨names', hmembers', fun field hfield hf => hsub (hrequired field hfield hf)⟩

theorem read_part {name : String} {field : Field σ} {j j' : Json}
    (hfind : schema.fields.find? (·.name == name) = some field)
    (hj : ∀ set, field.read n j.tree = .ok set → field.read n j'.tree = .ok set)
    (hread : schema.read (n + 1) (object ((name, j) :: ms)).tree = .ok a) :
    schema.read (n + 1) (object ((name, j') :: ms)).tree = .ok a := by
  obtain ⟨names, hmembers, hrequired⟩ := read_object_eq_ok_iff.mp hread
  obtain ⟨hfresh, set, hset, hmembers⟩ := exists_of_members_read hfind hmembers
  refine read_object_eq_ok_iff.mpr ⟨names, ?_, hrequired⟩
  rw [members_of_read hfind hfresh (hj set hset)]
  exact hmembers

theorem read_leaveOut (h : layout.Suits schema) {m : String × Json} (hm : m ∈ layout.defaults)
    (hread : schema.read (n + 1) (object (m :: ms)).tree = .ok a) :
    schema.read (n + 1) (object ms).tree = .ok a := by
  obtain ⟨names, hmembers, hrequired⟩ := read_object_eq_ok_iff.mp hread
  obtain ⟨field, hfind, set, hreads, hblank⟩ := h.defaults m hm
  obtain ⟨-, set', hset, hmembers⟩ := exists_of_members_read hfind hmembers
  obtain ⟨-, rfl⟩ := hreads.eq_ok_iff.mp hset
  rw [hblank] at hmembers
  obtain ⟨names', hmembers', hsub⟩ := members_seen [] hmembers fun _ _ hmem => nomatch hmem
  refine read_object_eq_ok_iff.mpr ⟨names', hmembers', fun f hf hisRequired => ?_⟩
  rcases hsub _ (hrequired f hf hisRequired) with hmem | ⟨hmem, -⟩
  · exact hmem
  · have hnot : m.1 ∉ layout.required := by simpa using (List.mem_filter.mp hm).2
    exact absurd (List.mem_singleton.mp hmem ▸ h.required f hf hisRequired) hnot

theorem read_addNull (h : layout.Suits schema) {name : String} (hname : name ∈ layout.optional)
    (habsent : name ∉ ms.map (·.1)) (hread : schema.read (n + 1) (object ms).tree = .ok a) :
    schema.read (n + 1) (object ((name, .null) :: ms)).tree = .ok a := by
  obtain ⟨names, hmembers, hrequired⟩ := read_object_eq_ok_iff.mp hread
  obtain ⟨field, hfind, set, hreads, hblank⟩ := h.optional name hname
  have hset : field.read n Json.null.tree = .ok set := hreads.eq_ok_iff.mpr ⟨Nat.zero_le n, rfl⟩
  obtain ⟨names', hmembers', hsub⟩ := members_seen [name] hmembers fun m hm hmem =>
    absurd (List.mem_singleton.mp hmem ▸ List.mem_map_of_mem hm) habsent
  refine read_object_eq_ok_iff.mpr ⟨names', ?_, fun f hf hisRequired => ?_⟩
  · rw [members_of_read hfind List.not_mem_nil hset, hblank]
    exact hmembers'
  · exact (hsub _ (hrequired f hf hisRequired)).resolve_right fun hmem => nomatch hmem.1

theorem read_addUnknown (h : layout.Suits schema) {name : String} (hname : name ∉ layout.names) (j : Json)
    (hread : schema.read (n + 1) (object ms).tree = .ok a) :
    schema.read (n + 1) (object ((name, j) :: ms)).tree = .ok a := by
  obtain ⟨names, hmembers, hrequired⟩ := read_object_eq_ok_iff.mp hread
  have hnone : schema.fields.find? (·.name == name) = none := by
    rw [List.find?_eq_none]
    intro field hfield hfound
    rw [← h.names, ← beq_iff_eq.mp hfound] at hname
    exact hname (List.mem_map_of_mem hfield)
  refine read_object_eq_ok_iff.mpr ⟨names, ?_, hrequired⟩
  rw [members_passed hnone]
  exact hmembers

/-- A record is read alike however it is written. -/
theorem respects {parts : List (String × Form)} (h : layout.Suits schema)
    (hparts : ∀ p ∈ parts, ∃ field, schema.fields.find? (·.name == p.1) = some field ∧ Respects p.2 field.read) :
    Respects (.record layout parts) schema.read := by
  intro j j' hedit n a hread
  cases n with
  | zero => cases hedit <;> cases hread
  | succ n =>
    cases hedit with
    | part ms hpart hedit =>
      obtain ⟨field, hfind, hrespects⟩ := hparts _ hpart
      exact read_part hfind (hrespects _ _ hedit n) hread
    | permute hms => exact h.read_permute hms hread
    | leaveOut ms hm => exact h.read_leaveOut hm hread
    | addNull hname habsent => exact h.read_addNull hname habsent hread
    | addUnknown j ms hname => exact h.read_addUnknown hname j hread

end Layout.Suits

end Records

end HeaderCatalog.Json
