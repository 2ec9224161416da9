import HeaderCatalog.Json.Reader

/-!
# Schemas

A schema reads a record: a blank to begin with, and fields, each of which reads one value into the record. A record is
written as an object, whose members come in any order and of which unknown ones are passed over, or as an array with
the values in the fields' order. Fields that are not required keep the blank's value when they are absent.
-/

namespace HeaderCatalog.Json

/-- A named part of a record, and what its value does to the record. -/
structure Field (σ : Type) where
  name : String
  isRequired : Bool
  read : Reader (σ → σ)

namespace Field

/-- A field that must be present. -/
def required {σ α : Type} (name : String) (r : Reader α) (set : α → σ → σ) : Field σ :=
  ⟨name, true, fun n t => (r n t).map set⟩

/-- A field that may be absent. -/
def defaulted {σ α : Type} (name : String) (r : Reader α) (set : α → σ → σ) : Field σ :=
  ⟨name, false, fun n t => (r n t).map set⟩

/-- A field that may be absent or `null`. -/
def optional {σ α : Type} (name : String) (r : Reader α) (set : Option α → σ → σ) : Field σ :=
  defaulted name (.option r) set

end Field

/-- How a record is read. -/
structure Schema (σ : Type) where
  label : String
  blank : σ
  fields : List (Field σ)

namespace Schema

variable {σ : Type}

/-- The members of an object, with the names of the fields that were read before. A second value for a field is a
problem as soon as its key is read. -/
def members (fields : List (Field σ)) (n : Nat) : Members → List String → σ → Except Problem (List String × σ)
  | .close, seen, draft => .ok (seen, draft)
  | .stop flaw, _, _ => under .unknown (fail flaw.cause)
  | .noKey _, _, _ => under .unknown (fail .keyNotText)
  | .keyOnly key atEnd, seen, _ => do
    let name ← under .unknown (located key.value)
    if fields.any (·.name == name) && seen.contains name then fail (.duplicateField name)
    else fail (colonCause atEnd)
  | .member key value rest, seen, draft => do
    let name ← under .unknown (located key.value)
    match fields.find? (·.name == name) with
    | none =>
      match value.flaw? with
      | some cause => under (.key name) (fail cause)
      | none => members fields n rest seen draft
    | some field =>
      if seen.contains name then fail (.duplicateField name)
      else
        let set ← under (.key name) (field.read n value)
        members fields n rest (name :: seen) (set draft)

/-- The end of an array that has given every field a value. -/
def rowEnd : Items → Except Problem Unit
  | .close => .ok ()
  | .stop .absent => fail (.endOfText .array)
  | .stop .endAfterComma => fail .trailingComma
  | _ => fail .trailingItems

/-- The items of an array, the first of which has the given index and belongs to the first of the fields. -/
def row (label : String) (total n : Nat) : Nat → List (Field σ) → Items → σ → Except Problem σ
  | _, [], rest, draft => do
    rowEnd rest
    return draft
  | i, field :: fields, .item value rest, draft => do
    let set ← under (.index i) (field.read n value)
    row label total n (i + 1) fields rest (set draft)
  | _, _ :: _, .stop flaw, _ => fail flaw.cause
  | i, field :: fields, .close, draft =>
    if field.isRequired then fail (.wrongLength i label total) else row label total n (i + 1) fields .close draft

/-- The first required field that was not read. -/
def missing? (fields : List (Field σ)) (seen : List String) : Option String :=
  (fields.find? fun field => field.isRequired && !seen.contains field.name).map (·.name)

/-- Reads a record. -/
def read (schema : Schema σ) : Reader σ
  | 0, .object _ => fail .tooDeep
  | 0, .array _ => fail .tooDeep
  | n + 1, .object given => do
    let (seen, draft) ← members schema.fields n given [] schema.blank
    match missing? schema.fields seen with
    | some name => fail (.missingField name)
    | none => return draft
  | n + 1, .array given => row schema.label schema.fields.length n 0 schema.fields given schema.blank
  | _, t => mismatch ("struct " ++ schema.label) t

end Schema

end HeaderCatalog.Json
