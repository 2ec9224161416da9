import HeaderCatalog.Text.Blank
import HeaderCatalog.Text.Find

/-!
# The header of an interface declaration

The first line of a declaration, without its body: from the word that introduces it to the end of the line or the
opening brace, whichever comes first.
-/

namespace HeaderCatalog.Declaration

/-- The word that introduces an interface. -/
def introducer : List Char := "@interface".toList

/-- Whether a character ends the header. -/
def endsHeader (c : Char) : Bool := c = '\n' || c = '\x7b'

/-- The header in a declaration's text; without the introducing word, that of the whole text. -/
def headerChars (s : List Char) : List Char :=
  Text.trim (((Text.from? introducer s).getD s).takeWhile fun c => !endsHeader c)

/-- The header in a declaration's text. -/
def header (s : String) : String := String.ofList (headerChars s.toList)

end HeaderCatalog.Declaration
