import HeaderCatalog.Text.Hidden

/-!
# Quoted text

The form in which messages show a text: between double quotes, with a backslash before a quote or a backslash, short
escapes for the line and tabulator controls, and for every character without a glyph of its own its number in
hexadecimal digits, in braces after `\u`.
-/

namespace HeaderCatalog.Text

/-- The quoted form of one character. -/
def quoteChar (c : Char) : List Char :=
  if c = '\x00' then ['\\', '0']
  else if c = '\t' then ['\\', 't']
  else if c = '\r' then ['\\', 'r']
  else if c = '\n' then ['\\', 'n']
  else if c = '\\' then ['\\', '\\']
  else if c = '"' then ['\\', '"']
  else if isHidden c then ['\\', 'u', '\x7b'] ++ Nat.toDigits 16 c.toNat ++ ['\x7d']
  else [c]

/-- A text as messages show it. -/
def quote (s : String) : String :=
  String.ofList ('"' :: s.toList.flatMap quoteChar ++ ['"'])

end HeaderCatalog.Text
