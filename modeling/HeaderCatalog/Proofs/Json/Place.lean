import HeaderCatalog.Proofs.Json.Record

/-!
# Places in documents

A path leads from a document to one of its parts (`at?`), and another document can be put in that part's place
(`put`). Of a document that holds a value of a wrong type (`Json.misfit`) at some place, a reader that can be trusted
tells that place and no other (`Pinpoints`): readers of single values tell their own place, and those of arrays and
records tell the way to the part that they could not read, since all parts before it are read (`pinpoints_list`,
`pinpoints_record`).
-/

namespace HeaderCatalog.Json

variable {α β σ : Type}

/-! ## Rendering places -/

namespace Path

theorem renderRest_append (p q : Path) : renderRest (p ++ q) = renderRest p ++ renderRest q := by
  induction p with
  | nil => rfl
  | cons step p ih => cases step <;> simp [renderRest, ih]

/-- The name of a member stands after a point; the first name stands alone. -/
theorem render_key (p : Path) (name : String) :
    render (p ++ [.key name]) = if p = [] then name else p.render ++ "." ++ name := by
  cases p with
  | nil => simp [render, renderRest]
  | cons step p =>
    rw [if_neg (List.cons_ne_nil step p), ← String.toList_inj]
    cases step <;> simp [render, renderRest, renderRest_append]

/-- The number of an item stands in brackets. -/
theorem render_index (p : Path) (i : Nat) :
    render (p ++ [.index i]) = (if p = [] then "" else p.render) ++ "[" ++ toString i ++ "]" := by
  cases p with
  | nil => simp [render, renderRest, ← String.toList_inj]
  | cons step p =>
    rw [if_neg (List.cons_ne_nil step p), ← String.toList_inj]
    cases step <;> simp [render, renderRest, renderRest_append]

end Path

/-! ## The parts of a document -/

/-- The part of a document one step in. -/
def part? : Json → Step → Option Json
  | .array items, .index i => items[i]?
  | .object members, .key name => members.lookup name
  | _, _ => none

/-- A document with another part one step in. -/
def setPart : Json → Step → Json → Json
  | .array items, .index i, new => .array (items.set i new)
  | .object members, .key name, new => .object (members.map fun m => if m.1 = name then (name, new) else m)
  | j, _, _ => j

/-- The part of a document at a place. -/
def at? : Json → Path → Option Json
  | j, [] => some j
  | j, step :: rest => (j.part? step).bind fun part => part.at? rest

/-- A document with another part at a place, if there is one. -/
def put : Json → Path → Json → Json
  | _, [], new => new
  | j, step :: rest, new =>
    match j.part? step with
    | some part => j.setPart step (part.put rest new)
    | none => j

theorem put_ne_null {j new : Json} {p : Path} (hj : j ≠ .null) (hnew : new ≠ .null) : j.put p new ≠ .null := by
  cases p with
  | nil => exact hnew
  | cons step rest =>
    rw [put]
    split
    · unfold setPart
      split
      · nofun
      · nofun
      · exact hj
    · exact hj

/-! ## Values of a wrong type -/

/-- A value of another type than a given one: zero in place of a truth value, a truth value in place of all else. -/
def misfit : Json → Json
  | .bool _ => .int 0
  | _ => .bool true

theorem misfit_ne_null (j : Json) : j.misfit ≠ .null := by
  cases j <;> nofun

/-- Of a document with a value of a wrong type at some place a reader tells that place. -/
def Pinpoints (r : Reader α) (j : Json) : Prop :=
  ∀ n, j.depth ≤ n → ∀ p part, j.at? p = some part →
    ∃ cause, r n (j.put p part.misfit).tree = .error ⟨p, cause⟩

variable {r : Reader α} {j : Json}

theorem Pinpoints.map (h : Pinpoints r j) (f : α → β) : Pinpoints (fun n t => (r n t).map f) j := by
  intro n hn p part hp
  obtain ⟨cause, hcause⟩ := h n hn p part hp
  exact ⟨cause, congrArg (Except.map f) hcause⟩

theorem Pinpoints.option (h : Pinpoints r j) (hj : j ≠ .null) : Pinpoints (.option r) j := by
  intro n hn p part hp
  obtain ⟨cause, hcause⟩ := h n hn p part hp
  exact ⟨cause, by rw [option_eq_map (put_ne_null hj part.misfit_ne_null), hcause]; rfl⟩

/-- A value without parts has no place but its own. -/
theorem pinpoints_leaf (hleaf : ∀ step, j.part? step = none)
    (h : ∀ n, ∃ cause, r n j.misfit.tree = .error ⟨[], cause⟩) : Pinpoints r j := by
  intro n _ p part hp
  cases p with
  | nil =>
    cases hp
    exact h n
  | cons step rest =>
    rw [at?, hleaf] at hp
    cases hp

theorem pinpoints_bool (value : Bool) : Pinpoints .bool (.bool value) :=
  pinpoints_leaf (fun step => by cases step <;> rfl) fun _ => ⟨_, rfl⟩

theorem pinpoints_text (value : String) : Pinpoints .text (.string value) :=
  pinpoints_leaf (fun step => by cases step <;> rfl) fun _ => ⟨_, rfl⟩

theorem pinpoints_refined (meaning : String → Except Cause α) (value : String) :
    Pinpoints (.refined meaning) (.string value) :=
  pinpoints_leaf (fun step => by cases step <;> rfl) fun _ => ⟨_, rfl⟩

theorem pinpoints_variant (meaning : String → Except Cause α) (value : String) :
    Pinpoints (.variant meaning) (.string value) :=
  pinpoints_leaf (fun step => by cases step <;> rfl) fun n => ⟨.noValue, by cases n <;> rfl⟩

theorem pinpoints_integer (low high : Int) (wanted : String) (value : Int) :
    Pinpoints (.integer low high wanted) (.int value) :=
  pinpoints_leaf (fun step => by cases step <;> rfl) fun _ => ⟨_, rfl⟩

theorem pinpoints_uint32 (value : Int) : Pinpoints .uint32 (.int value) := (pinpoints_integer _ _ _ value).map _

theorem pinpoints_int32 (value : Int) : Pinpoints .int32 (.int value) := (pinpoints_integer _ _ _ value).map _

theorem pinpoints_int64 (value : Int) : Pinpoints .int64 (.int value) := (pinpoints_integer _ _ _ value).map _

/-! ## Arrays -/

/-- An item that cannot be read stops the reading of the array. -/
theorem items_set {read : Tree → Except Problem α} {items : List Json} {l : List α} {new : Json} {p : Path}
    {cause : Cause} {i k : Nat} (hread : Reader.items read k (treeItems items) = .ok l) (hi : i < items.length)
    (hnew : read new.tree = .error ⟨p, cause⟩) :
    Reader.items read k (treeItems (items.set i new)) = .error ⟨.index (k + i) :: p, cause⟩ := by
  induction items generalizing i k l with
  | nil => exact absurd hi (Nat.not_lt_zero i)
  | cons j items ih =>
    rw [treeItems, Reader.items] at hread
    obtain ⟨a, ha, hread⟩ := exists_of_bind_eq_ok hread
    obtain ⟨as, has, -⟩ := exists_of_bind_eq_ok hread
    cases i with
    | zero =>
      rw [List.set_cons_zero, treeItems, Reader.items, hnew]
      rfl
    | succ i =>
      rw [List.set_cons_succ, treeItems, Reader.items, ha, ok_bind, ih has (Nat.lt_of_succ_lt_succ hi)]
      rw [Nat.add_right_comm]
      rfl

/-- In an array of what is written for some values, every place is told if all of them are read. -/
theorem pinpoints_list {write : α → Json} {l : List α} (hreads : ∀ a ∈ l, Reads r (write a) a)
    (h : ∀ a ∈ l, Pinpoints r (write a)) : Pinpoints (.list r) (.array (l.map write)) := by
  intro n hn p part hp
  have hok := (reads_list hreads n).ok hn
  rw [depth] at hn
  obtain ⟨n, rfl⟩ : ∃ m, n = m + 1 := ⟨n - 1, by omega⟩
  cases p with
  | nil =>
    cases hp
    exact ⟨_, rfl⟩
  | cons step rest =>
    obtain ⟨item, hitem, hrest⟩ := Option.bind_eq_some_iff.mp hp
    cases step with
    | index i =>
      have hmem := List.mem_of_getElem? hitem
      have hdepth := depth_le_depthItems hmem
      obtain ⟨a, ha, rfl⟩ := List.mem_map.mp hmem
      obtain ⟨cause, hcause⟩ := h a ha n (by omega) rest part hrest
      have hset := items_set (k := 0) hok (List.getElem?_eq_some_iff.mp hitem).1 hcause
      rw [Nat.zero_add] at hset
      exact ⟨cause, by rw [put, hitem]; exact hset⟩
    | key name => cases hitem
    | unknown => cases hitem

/-! ## Records -/

/-- A member that cannot be read stops the reading of the record. -/
theorem members_set {fields : List (Field σ)} {field : Field σ} {n : Nat} {ms : List (String × Json)}
    {seen : List String} {draft : σ} {result : List String × σ} {name : String} {old new : Json} {p : Path}
    {cause : Cause} (hread : Schema.members fields n (treeMembers ms) seen draft = .ok result)
    (hold : ms.lookup name = some old) (hname : fields.find? (·.name == name) = some field)
    (hnew : field.read n new.tree = .error ⟨p, cause⟩) :
    Schema.members fields n (treeMembers (ms.map fun m => if m.1 = name then (name, new) else m)) seen draft =
      .error ⟨.key name :: p, cause⟩ := by
  induction ms generalizing seen draft with
  | nil => cases hold
  | cons m ms ih =>
    obtain ⟨key, value⟩ := m
    rw [List.map_cons]
    cases hfield : fields.find? (·.name == key) with
    | none =>
      have hne : name ≠ key := by
        rintro rfl
        rw [hname] at hfield
        cases hfield
      rw [List.lookup_cons, beq_eq_false_iff_ne.mpr hne] at hold
      rw [members_passed hfield] at hread
      rw [if_neg (Ne.symm hne), members_passed hfield]
      exact ih hread hold
    | some field' =>
      obtain ⟨hfresh, set, hset, hread⟩ := exists_of_members_read hfield hread
      by_cases hkey : key = name
      · subst hkey
        rw [if_pos rfl, members_read hname hfresh, hnew]
        rfl
      · rw [List.lookup_cons, beq_eq_false_iff_ne.mpr (Ne.symm hkey)] at hold
        rw [if_neg hkey, members_of_read hfield hfresh hset]
        exact ih hread hold

theorem mem_of_lookup_present {ms : List (String × Option Json)} {name : String} {j : Json}
    (h : (present ms).lookup name = some j) : (name, some j) ∈ ms := by
  obtain ⟨before, after, hms, -⟩ := List.lookup_eq_some_iff.mp h
  have hmem : (name, j) ∈ present ms := by simp [hms]
  obtain ⟨⟨name', value?⟩, hmem, hvalue⟩ := List.mem_filterMap.mp hmem
  obtain ⟨j', rfl, hj⟩ := Option.map_eq_some_iff.mp hvalue
  cases hj
  exact hmem

/-- A field tells every place in what is written for it. -/
structure Field.Pinpoints (field : Field σ) (m : String × Option Json) : Prop where
  name : m.1 = field.name
  value : ∀ j ∈ m.2, Json.Pinpoints field.read j

/-- A part that is always written. -/
theorem Field.Pinpoints.given {name : String} {isRequired : Bool} {set : α → σ → σ} (h : Json.Pinpoints r j) :
    Field.Pinpoints ⟨name, isRequired, fun n t => (r n t).map set⟩ (name, some j) := by
  refine ⟨rfl, fun j' hj => ?_⟩
  cases hj
  exact h.map set

/-- A part that may be absent. -/
theorem Field.Pinpoints.optional {name : String} {set : Option α → σ → σ} {value : Option β} {write : β → Json}
    (h : ∀ b ∈ value, Json.Pinpoints r (write b) ∧ write b ≠ .null) :
    Field.Pinpoints (.optional name r set) (name, value.map write) := by
  refine ⟨rfl, fun j hj => ?_⟩
  obtain ⟨b, hb, rfl⟩ := Option.map_eq_some_iff.mp hj
  exact ((h b hb).1.option (h b hb).2).map set

/-- A text that may be absent. -/
theorem Field.Pinpoints.optionalText {name : String} {set : Option String → σ → σ} {value : Option String} :
    Field.Pinpoints (.optional name .text set) (name, value.map .string) :=
  .optional fun s _ => ⟨pinpoints_text s, nofun⟩

/-- In a record that is read, every place is told if its fields tell theirs. -/
theorem pinpoints_record {schema : Schema σ} {ms : List (String × Option Json)} {a : σ}
    (hnames : (schema.fields.map (·.name)).Nodup) (hreads : Reads schema.read (.record ms) a)
    (h : List.Forall₂ Field.Pinpoints schema.fields ms) : Pinpoints schema.read (.record ms) := by
  intro n hn p part hp
  have hok := (hreads n).ok hn
  cases n with
  | zero => exact absurd hn (Nat.not_succ_le_zero _)
  | succ n =>
    cases p with
    | nil =>
      cases hp
      exact ⟨_, rfl⟩
    | cons step rest =>
      obtain ⟨j, hj, hrest⟩ := Option.bind_eq_some_iff.mp hp
      cases step with
      | key name =>
        have hmem := mem_of_lookup_present hj
        obtain ⟨field, hfield, hpinpoints⟩ := exists_mem_of_forall₂ h hmem
        have hfind := find?_name hnames field hfield
        rw [← hpinpoints.name] at hfind
        have hdepth := depth_lt_record name hmem
        obtain ⟨cause, hcause⟩ := hpinpoints.value j rfl n (by omega) rest part hrest
        obtain ⟨result, hmembers, -⟩ := exists_of_bind_eq_ok hok
        have hset := members_set hmembers hj hfind hcause
        refine ⟨cause, ?_⟩
        rw [put, hj]
        show Schema.read schema (n + 1) (.object _) = _
        rw [Schema.read, hset]
        rfl
      | index i => cases hj
      | unknown => cases hj

end HeaderCatalog.Json
