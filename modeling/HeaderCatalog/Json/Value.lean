import HeaderCatalog.Json.Numeral

/-!
# JSON values

A document as a value, members of an object in the order in which they are written. `Json.record` builds an object
from named members of which some may be absent; `depth` counts how many arrays and objects lie in one another, one more
than in the parts at most (`depth_array_le`, `depth_record_le`) and more than in any of them (`depth_lt_array`,
`depth_lt_record`).
-/

namespace HeaderCatalog

/-- A JSON document. -/
inductive Json where
  | null
  | bool (value : Bool)
  | number (value : Json.Numeral)
  | string (value : String)
  | array (items : List Json)
  | object (members : List (String × Json))

namespace Json

/-- An integer as a document. -/
def int (n : Int) : Json := .number (.ofInt n)

/-- A natural number as a document. -/
def nat (n : Nat) : Json := .int n

/-- An optional value, absent as `null`. -/
def orNull (value : Option Json) : Json := value.getD .null

/-- The members that are present. -/
def present (members : List (String × Option Json)) : List (String × Json) :=
  members.filterMap fun (name, value) => value.map fun j => (name, j)

/-- An object of the members that are present. -/
def record (members : List (String × Option Json)) : Json := .object (present members)

mutual

/-- How many arrays and objects lie in one another. -/
def depth : Json → Nat
  | .array items => depthItems items + 1
  | .object members => depthMembers members + 1
  | _ => 0

/-- The greatest depth of the items. -/
def depthItems : List Json → Nat
  | [] => 0
  | j :: js => max (depth j) (depthItems js)

/-- The greatest depth of the members. -/
def depthMembers : List (String × Json) → Nat
  | [] => 0
  | (_, j) :: ms => max (depth j) (depthMembers ms)

end

theorem present_cons_some (name : String) (j : Json) (ms : List (String × Option Json)) :
    present ((name, some j) :: ms) = (name, j) :: present ms := rfl

theorem present_cons_none (name : String) (ms : List (String × Option Json)) :
    present ((name, none) :: ms) = present ms := rfl

@[simp] theorem depth_null : null.depth = 0 := rfl

@[simp] theorem depth_number (value : Json.Numeral) : (number value).depth = 0 := rfl

@[simp] theorem depth_bool (value : Bool) : (bool value).depth = 0 := rfl

@[simp] theorem depth_string (value : String) : (string value).depth = 0 := rfl

@[simp] theorem depth_int (n : Int) : (int n).depth = 0 := rfl

@[simp] theorem depth_nat (n : Nat) : (nat n).depth = 0 := rfl

theorem depthItems_le {js : List Json} {d : Nat} (h : ∀ j ∈ js, j.depth ≤ d) : depthItems js ≤ d := by
  induction js with
  | nil => exact Nat.zero_le d
  | cons j js ih =>
    rw [List.forall_mem_cons] at h
    exact Nat.max_le.mpr ⟨h.1, ih h.2⟩

theorem depth_array_le {α : Type} {write : α → Json} {d : Nat} (h : ∀ a, (write a).depth ≤ d) (l : List α) :
    (array (l.map write)).depth ≤ d + 1 := by
  refine Nat.succ_le_succ (depthItems_le ?_)
  simpa using fun a _ => h a

theorem depth_record_le {ms : List (String × Option Json)} {d : Nat} (h : ∀ m ∈ ms, ∀ j ∈ m.2, j.depth ≤ d) :
    (record ms).depth ≤ d + 1 := by
  refine Nat.succ_le_succ ?_
  induction ms with
  | nil => exact Nat.zero_le d
  | cons m ms ih =>
    rw [List.forall_mem_cons] at h
    obtain ⟨name, value?⟩ := m
    cases value? with
    | none => exact ih h.2
    | some j => exact Nat.max_le.mpr ⟨h.1 j rfl, ih h.2⟩

theorem depth_le_depthItems {js : List Json} {j : Json} (h : j ∈ js) : j.depth ≤ depthItems js := by
  induction js with
  | nil => cases h
  | cons j' js ih =>
    rcases List.mem_cons.mp h with rfl | h
    · exact Nat.le_max_left ..
    · exact Nat.le_trans (ih h) (Nat.le_max_right ..)

/-- An array nests deeper than what is written of any of its items. -/
theorem depth_lt_array {α : Type} {write : α → Json} {l : List α} {a : α} (h : a ∈ l) :
    (write a).depth < (array (l.map write)).depth :=
  Nat.lt_succ_of_le (depth_le_depthItems (List.mem_map_of_mem h))

/-- A record nests deeper than any part that is present. -/
theorem depth_lt_record {ms : List (String × Option Json)} (name : String) {j : Json}
    (h : (name, some j) ∈ ms) : j.depth < (record ms).depth := by
  refine Nat.lt_succ_of_le ?_
  induction ms with
  | nil => cases h
  | cons m ms ih =>
    rcases List.mem_cons.mp h with rfl | hrest
    · exact Nat.le_max_left ..
    · obtain ⟨name', value?⟩ := m
      cases value? with
      | none => exact ih hrest
      | some j' => exact Nat.le_trans (ih hrest) (Nat.le_max_right ..)

end Json

end HeaderCatalog
