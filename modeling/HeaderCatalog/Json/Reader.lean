import HeaderCatalog.Json.Scan

/-!
# Readers

A reader turns a tree into a value of a certain type, or names the first problem in the order of the text. Its first
argument is how many arrays and objects may still lie in one another: a reader that would open one more than that
refuses it. Problems carry the path from the tree that the reader was given; `under` prolongs it on the way out.
-/

namespace HeaderCatalog.Json

/-- From a nesting allowance and a tree to a value. -/
abbrev Reader (α : Type) := Nat → Tree → Except Problem α

/-- A problem at the tree itself. -/
def fail {α : Type} (cause : Cause) : Except Problem α := .error ⟨[], cause⟩

/-- The result of a part, its problem's path seen from the whole. -/
def under {α : Type} (step : Step) : Except Problem α → Except Problem α
  | .ok a => .ok a
  | .error p => .error (p.under step)

/-- A cause as a problem at the tree itself. -/
def located {α : Type} : Except Cause α → Except Problem α
  | .ok a => .ok a
  | .error cause => fail cause

/-- The problem of a reader that met another kind of value than it wanted. A text or a number that has no value is a
problem of its own. -/
def mismatch {α : Type} (wanted : String) : Tree → Except Problem α
  | .null => fail (.wrongType .null wanted)
  | .bool value => fail (.wrongType (.bool value) wanted)
  | .number value =>
    match value.number? with
    | some n => fail (.wrongType (.number n) wanted)
    | none => fail .numberOutOfRange
  | .text value =>
    match value.value with
    | .ok s => fail (.wrongType (.string s) wanted)
    | .error cause => fail cause
  | .array _ => fail (.wrongType .array wanted)
  | .object _ => fail (.wrongType .object wanted)
  | .broken flaw => fail flaw.cause

namespace Reader

/-- A truth value. -/
def bool : Reader Bool
  | _, .bool value => .ok value
  | _, t => mismatch "a boolean" t

/-- A text. -/
def text : Reader String
  | _, .text value => located value.value
  | _, t => mismatch "a string" t

/-- A text with a meaning of its own. -/
def refined {α : Type} (meaning : String → Except Cause α) : Reader α := fun n t => do
  located (meaning (← text n t))

/-- An integer from `low` on and below `high`. -/
def integer (low high : Int) (wanted : String) : Reader Int
  | _, .number value =>
    match value.number? with
    | some (.integer n) => if low ≤ n ∧ n < high then .ok n else fail (.outOfRange n wanted)
    | some n => fail (.wrongType (.number n) wanted)
    | none => fail .numberOutOfRange
  | _, t => mismatch wanted t

/-- An unsigned integer of 32 bits. -/
def uint32 : Reader UInt32 := fun n t => return UInt32.ofNat (← integer 0 4294967296 "u32" n t).toNat

/-- An unsigned integer of 64 bits. -/
def uint64 : Reader UInt64 := fun n t => return UInt64.ofNat (← integer 0 18446744073709551616 "u64" n t).toNat

/-- A signed integer of 32 bits. -/
def int32 : Reader Int32 := fun n t => return Int32.ofInt (← integer (-2147483648) 2147483648 "i32" n t)

/-- A signed integer of 64 bits. -/
def int64 : Reader Int64 := fun n t => return Int64.ofInt (← integer (-9223372036854775808) 9223372036854775808 "i64" n t)

/-- Nothing, written as `null`. -/
def unit : Reader Unit
  | _, .null => .ok ()
  | _, t => mismatch "unit" t

/-- A value that may be `null`. -/
def option {α : Type} (r : Reader α) : Reader (Option α)
  | _, .null => .ok none
  | n, t => (r n t).map some

/-- The items of an array, the first of which has the given index. -/
def items {α : Type} (r : Tree → Except Problem α) : Nat → Items → Except Problem (List α)
  | _, .close => .ok []
  | _, .stop flaw => fail flaw.cause
  | i, .item value rest => do
    let a ← under (.index i) (r value)
    return a :: (← items r (i + 1) rest)

/-- An array of values of one type. -/
def list {α : Type} (r : Reader α) : Reader (List α)
  | 0, .array _ => fail .tooDeep
  | n + 1, .array given => items (r n) 0 given
  | _, t => mismatch "a sequence" t

/-- What follows the only member of an object. -/
def variantEnd : Members → Except Problem Unit
  | .close => .ok ()
  | .stop .absent => fail (.endOfText .object)
  | _ => fail .noValue

/-- A named variant: a text, or an object whose only member has the name as its key and `null` as its value. -/
def variant {α : Type} (meaning : String → Except Cause α) : Reader α
  | _, .text name => located (name.value.bind meaning)
  | 0, .object _ => fail .tooDeep
  | n + 1, .object (.member key value rest) => do
    let name ← located key.value
    let a ← located (meaning name)
    under (.key name) (unit n value)
    variantEnd rest
    return a
  | _, .object (.keyOnly key atEnd) => do
    let _ ← located (key.value.bind meaning)
    fail (colonCause atEnd)
  | _, .object (.noKey found) => mismatch "variant identifier" found
  | _, .object (.stop _) => fail (.endOfText .value)
  | _, .object .close => fail .noValue
  | _, .broken .absent => fail (.endOfText .value)
  | _, _ => fail .noValue

end Reader

/-- How many arrays and objects may lie in one another in a document. -/
def maxDepth : Nat := 127

/-- The value that a text stands for. -/
def Reader.run {α : Type} (r : Reader α) (s : String) : Except Problem α :=
  r maxDepth (Tree.ofText s)

end HeaderCatalog.Json
