import HeaderCatalog.Json.Numeral
import HeaderCatalog.Text.Quoted

/-!
# Problems of a document

What can be wrong with a document (`Cause`), where (`Problem.path`, a list of steps from the document's root), and the
wording of both: `Cause.message` for the one, `Path.render` for the other.
-/

namespace HeaderCatalog.Json

/-! ## Places -/

/-- One step into a document. -/
inductive Step where
  /-- the value of a member -/
  | key (name : String)
  /-- an item of an array, from 0 on -/
  | index (i : Nat)
  /-- a member whose key could not be read -/
  | unknown
deriving DecidableEq, Repr

/-- A place in a document, from its root on. -/
abbrev Path := List Step

namespace Path

/-- Steps after the first: keys follow a point, indices stand in brackets. -/
def renderRest : Path → List Char
  | [] => []
  | .key name :: rest => '.' :: (name.toList ++ renderRest rest)
  | .index i :: rest => '[' :: (Nat.toDigits 10 i ++ ']' :: renderRest rest)
  | .unknown :: rest => '.' :: '?' :: renderRest rest

/-- The text of a place; the root is a point. -/
def render : Path → String
  | [] => "."
  | .key name :: rest => String.ofList (name.toList ++ renderRest rest)
  | .index i :: rest => String.ofList (renderRest (.index i :: rest))
  | .unknown :: rest => String.ofList ('?' :: renderRest rest)

end Path

/-! ## Causes -/

/-- A value that was found where another kind was wanted. -/
inductive Found where
  | null
  | bool (value : Bool)
  | number (value : Number)
  | string (value : String)
  | array
  | object
deriving DecidableEq, Repr

/-- What a text ended in. -/
inductive Within where
  | value
  | array
  | object
  | string
deriving DecidableEq, Repr

/-- What is wrong with a document. -/
inductive Cause where
  | endOfText (within : Within)
  | noValue
  | misspeltWord
  | noColon
  | noCommaInObject
  | noCommaInArray
  | trailingComma
  | trailingItems
  | keyNotText
  | invalidNumber
  | numberOutOfRange
  | invalidEscape
  | controlCharacter
  | unpairedSurrogate
  | loneSurrogate
  | tooDeep
  | wrongType (found : Found) (wanted : String)
  | outOfRange (value : Int) (wanted : String)
  | wrongLength (length : Nat) (label : String) (fields : Nat)
  | missingField (name : String)
  | duplicateField (name : String)
  | unknownVariant (name : String) (known : List String)
  /-- a text that is no value of its field's type, in that type's own words -/
  | refused (reason : String)
deriving DecidableEq, Repr

/-- What was found, in words. -/
def Found.text : Found → String
  | .null => "null"
  | .bool value => "boolean `" ++ (if value then "true" else "false") ++ "`"
  | .number (.integer value) => "integer `" ++ Number.intText value ++ "`"
  | .number (.float negative x) => "floating point `" ++ Number.floatText negative x ++ "`"
  | .string value => "string " ++ Text.quote value
  | .array => "sequence"
  | .object => "map"

/-- What a text ended in, in words. -/
def Within.text : Within → String
  | .value => "a value"
  | .array => "a list"
  | .object => "an object"
  | .string => "a string"

/-- The message of a cause. -/
def Cause.message : Cause → String
  | .endOfText within => "EOF while parsing " ++ within.text
  | .noValue => "expected value"
  | .misspeltWord => "expected ident"
  | .noColon => "expected `:`"
  | .noCommaInObject => "expected `,` or `\x7d`"
  | .noCommaInArray => "expected `,` or `]`"
  | .trailingComma => "trailing comma"
  | .trailingItems => "trailing characters"
  | .keyNotText => "key must be a string"
  | .invalidNumber => "invalid number"
  | .numberOutOfRange => "number out of range"
  | .invalidEscape => "invalid escape"
  | .controlCharacter => "control character (\\u0000-\\u001F) found while parsing a string"
  | .unpairedSurrogate => "unexpected end of hex escape"
  | .loneSurrogate => "lone leading surrogate in hex escape"
  | .tooDeep => "recursion limit exceeded"
  | .wrongType found wanted => "invalid type: " ++ found.text ++ ", expected " ++ wanted
  | .outOfRange value wanted => "invalid value: integer `" ++ Number.intText value ++ "`, expected " ++ wanted
  | .wrongLength length label fields =>
    "invalid length " ++ Number.intText length ++ ", expected struct " ++ label ++ " with " ++ Number.intText fields ++
      (if fields = 1 then " element" else " elements")
  | .missingField name => "missing field `" ++ name ++ "`"
  | .duplicateField name => "duplicate field `" ++ name ++ "`"
  | .unknownVariant name known =>
    "unknown variant `" ++ name ++ "`, expected one of " ++
      String.intercalate ", " (known.map fun variant => "`" ++ variant ++ "`")
  | .refused reason => reason

/-- A cause with its place. -/
structure Problem where
  path : Path
  cause : Cause
deriving DecidableEq, Repr

/-- The same problem seen from one step further out. -/
def Problem.under (step : Step) (p : Problem) : Problem := ⟨step :: p.path, p.cause⟩

/-- The place and the cause in one line. -/
def Problem.message (p : Problem) : String :=
  "at JSON path " ++ p.path.render ++ " → " ++ p.cause.message

end HeaderCatalog.Json
