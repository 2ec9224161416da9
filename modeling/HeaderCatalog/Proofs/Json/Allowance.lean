import HeaderCatalog.Json.Schema

/-!
# Parts are read with a smaller allowance

A reader of arrays or records asks the readers of its parts only at allowances below its own. So two readers that are
built alike of parts that do the same below an allowance do the same at that allowance (`list_congr`, `read_congr`).
-/

namespace HeaderCatalog.Json

variable {α σ : Type} {n : Nat}

namespace Reader

theorem option_congr {r r' : Reader α} (h : r n = r' n) : option r n = option r' n := by
  funext t
  cases t <;> simp only [option, h]

theorem list_congr {r r' : Reader α} (h : ∀ m < n, r m = r' m) : list r n = list r' n := by
  funext t
  cases n with
  | zero => cases t <;> rfl
  | succ n => cases t <;> simp only [list, h n (Nat.lt_succ_self n)]

end Reader

namespace Field

/-- The field as it is read at a given allowance, whatever the allowance is. -/
def atAllowance (n : Nat) (field : Field σ) : Field σ := { field with read := fun _ => field.read n }

variable {name : String} {r r' : Reader α}

theorem atAllowance_required {set : α → σ → σ} (h : r n = r' n) :
    (required name r set).atAllowance n = (required name r' set).atAllowance n := by
  simp only [atAllowance, required, h]

theorem atAllowance_optional {set : Option α → σ → σ} (h : r n = r' n) :
    (optional name r set).atAllowance n = (optional name r' set).atAllowance n := by
  simp only [atAllowance, optional, defaulted, Reader.option_congr h]

end Field

namespace Schema

/-! ## Fields at one allowance -/

theorem members_atAllowance (fields : List (Field σ)) : ∀ (given : Members) (seen : List String) (draft : σ),
    members (fields.map (·.atAllowance n)) n given seen draft = members fields n given seen draft
  | .close, _, _ | .stop _, _, _ | .noKey _, _, _ => by simp only [members]
  | .keyOnly key atEnd, seen, draft => by
    simp only [members, List.any_map]
    rfl
  | .member key value rest, seen, draft => by
    simp only [members]
    congr 1
    funext name
    have hfind : (fields.map (·.atAllowance n)).find? (·.name == name) =
        (fields.find? (·.name == name)).map (·.atAllowance n) := List.find?_map ..
    rw [hfind]
    cases fields.find? (·.name == name) with
    | none => simp only [Option.map_none, members_atAllowance fields rest]
    | some field =>
      simp only [Option.map_some, members_atAllowance fields rest]
      rfl

theorem row_atAllowance (label : String) (total : Nat) (fields : List (Field σ)) (i : Nat) (given : Items) (draft : σ) :
    row label total n i (fields.map (·.atAllowance n)) given draft = row label total n i fields given draft := by
  induction fields generalizing i given draft with
  | nil => rfl
  | cons field fields ih =>
    cases given with
    | close => simp only [List.map_cons, row, ih]; rfl
    | stop flaw => rfl
    | item value rest => simp only [List.map_cons, row, ih]; rfl

theorem missing?_atAllowance (fields : List (Field σ)) (seen : List String) :
    missing? (fields.map (·.atAllowance n)) seen = missing? fields seen := by
  rw [missing?, missing?, List.find?_map, Option.map_map]
  rfl

/-- Records are read alike if below the allowance their fields are. -/
theorem read_congr {schema schema' : Schema σ} (hlabel : schema.label = schema'.label)
    (hblank : schema.blank = schema'.blank)
    (hfields : ∀ m < n, schema.fields.map (·.atAllowance m) = schema'.fields.map (·.atAllowance m)) :
    schema.read n = schema'.read n := by
  funext t
  cases n with
  | zero => cases t <;> simp only [read, hlabel]
  | succ n =>
    have hsame := hfields n (Nat.lt_succ_self n)
    have hlength : schema.fields.length = schema'.fields.length := by simpa using congrArg List.length hsame
    cases t with
    | object given =>
      simp only [read, hblank]
      rw [← members_atAllowance schema.fields, ← members_atAllowance schema'.fields, hsame]
      simp only [← missing?_atAllowance (n := n) schema.fields, ← missing?_atAllowance (n := n) schema'.fields, hsame]
    | array given =>
      simp only [read, hlabel, hblank, hlength]
      rw [← row_atAllowance, ← row_atAllowance _ _ schema'.fields, hsame]
    | _ => simp only [read, hlabel]

end Schema

end HeaderCatalog.Json
