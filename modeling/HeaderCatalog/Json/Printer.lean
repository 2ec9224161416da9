import HeaderCatalog.Json.Value

/-!
# Writing JSON

Two written forms of a document: `compact` on one line without blanks, and `pretty` with one item or member a line,
two blanks deeper than what holds it, empty arrays and objects closed at once. Both quote a text alike (`quoted`):
quote and backslash after a backslash, the five short escapes, other controls by number, all else as it is.
-/

namespace HeaderCatalog.Json

/-- The written form of one character of a text. -/
def escape (c : Char) : List Char :=
  if c = '"' then ['\\', '"']
  else if c = '\\' then ['\\', '\\']
  else if c = '\x08' then ['\\', 'b']
  else if c = '\x0c' then ['\\', 'f']
  else if c = '\n' then ['\\', 'n']
  else if c = '\r' then ['\\', 'r']
  else if c = '\t' then ['\\', 't']
  else if c.toNat < 0x20 then ['\\', 'u', '0', '0', Nat.digitChar (c.toNat / 16), Nat.digitChar (c.toNat % 16)]
  else [c]

/-- A text between quotes. -/
def quoted (s : String) : List Char :=
  '"' :: (s.toList.flatMap escape ++ ['"'])

/-- The written form of the values without parts. -/
def word (value : Bool) : List Char :=
  if value then ['t', 'r', 'u', 'e'] else ['f', 'a', 'l', 's', 'e']

mutual

/-- A document on one line. -/
def compact : Json → List Char
  | .null => ['n', 'u', 'l', 'l']
  | .bool value => word value
  | .number value => value.text
  | .string value => quoted value
  | .array [] => ['[', ']']
  | .array (j :: js) => '[' :: (compact j ++ compactItems js)
  | .object [] => ['\x7b', '\x7d']
  | .object ((name, j) :: ms) => '\x7b' :: (quoted name ++ ':' :: (compact j ++ compactMembers ms))

/-- The items after the first, and the end of the array. -/
def compactItems : List Json → List Char
  | [] => [']']
  | j :: js => ',' :: (compact j ++ compactItems js)

/-- The members after the first, and the end of the object. -/
def compactMembers : List (String × Json) → List Char
  | [] => ['\x7d']
  | (name, j) :: ms => ',' :: (quoted name ++ ':' :: (compact j ++ compactMembers ms))

end

/-- A new line `level` steps deep. -/
def newLine (level : Nat) : List Char :=
  '\n' :: List.replicate (2 * level) ' '

mutual

/-- A document over several lines, its own parts `level + 1` steps deep. -/
def pretty (level : Nat) : Json → List Char
  | .null => ['n', 'u', 'l', 'l']
  | .bool value => word value
  | .number value => value.text
  | .string value => quoted value
  | .array [] => ['[', ']']
  | .array (j :: js) => '[' :: (newLine (level + 1) ++ pretty (level + 1) j ++ prettyItems level js)
  | .object [] => ['\x7b', '\x7d']
  | .object ((name, j) :: ms) =>
    '\x7b' :: (newLine (level + 1) ++ quoted name ++ ':' :: ' ' :: (pretty (level + 1) j ++ prettyMembers level ms))

/-- The items after the first, and the end of the array. -/
def prettyItems (level : Nat) : List Json → List Char
  | [] => newLine level ++ [']']
  | j :: js => ',' :: (newLine (level + 1) ++ pretty (level + 1) j ++ prettyItems level js)

/-- The members after the first, and the end of the object. -/
def prettyMembers (level : Nat) : List (String × Json) → List Char
  | [] => newLine level ++ ['\x7d']
  | (name, j) :: ms =>
    ',' :: (newLine (level + 1) ++ quoted name ++ ':' :: ' ' :: (pretty (level + 1) j ++ prettyMembers level ms))

end

/-- The document on one line, as a text. -/
def compactText (j : Json) : String := String.ofList (compact j)

/-- The document over several lines, as a text. -/
def prettyText (j : Json) : String := String.ofList (pretty 0 j)

end HeaderCatalog.Json
