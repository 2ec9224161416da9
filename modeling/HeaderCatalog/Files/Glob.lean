import HeaderCatalog.Text.Split

/-!
# Patterns for paths

In a pattern `?` stands for one character and `*` for any number of them, `[…]` for one of a set and `[!…]` for one
outside a set; `**` alone between slashes stands for any number of directories. `Glob.ofText` reads a pattern or says
where it is wrong, and `Glob.accepts` matches a name with the tokens of one piece.
-/

namespace HeaderCatalog

/-- What is wrong with a pattern. -/
inductive GlobFlaw where
  | manyStars
  /-- two stars that are not alone between slashes -/
  | mixedStars
  | badSet
deriving DecidableEq, Repr

/-- A flaw in words. -/
def GlobFlaw.message : GlobFlaw → String
  | manyStars => "wildcards are either regular `*` or recursive `**`"
  | mixedStars => "recursive wildcards must form a single path component"
  | badSet => "invalid range pattern"

/-- A flaw of a pattern, and the character at which it shows. -/
structure GlobError where
  position : Nat
  flaw : GlobFlaw
deriving DecidableEq, Repr

/-- An error in words. -/
def GlobError.message (e : GlobError) : String :=
  "Pattern syntax error near position " ++ toString e.position ++ ": " ++ e.flaw.message

namespace Glob

/-- A token of a pattern; a set is a list of ranges of characters. -/
inductive Token where
  | char (c : Char)
  | anyChar
  | anySequence
  | anyDepth
  | oneOf (ranges : List (Char × Char))
  | noneOf (ranges : List (Char × Char))
deriving DecidableEq, Repr

/-! ## Reading -/

/-- The ranges that a set is made of: `a-z`, or a character alone. -/
def ranges : List Char → List (Char × Char)
  | a :: '-' :: b :: rest => (a, b) :: ranges rest
  | a :: rest => (a, a) :: ranges rest
  | [] => []

/-- A text up to a closing bracket, and what follows the bracket. -/
def upToBracket? : List Char → Option (List Char × List Char)
  | [] => none
  | ']' :: rest => some ([], rest)
  | c :: rest => (upToBracket? rest).map fun (inside, after) => (c :: inside, after)

/-- The set behind an opening bracket, and what follows it; the first character of a set may be a bracket. -/
def set? : List Char → Option (Token × List Char)
  | '!' :: c :: rest => (upToBracket? rest).map fun (inside, after) => (.noneOf (ranges (c :: inside)), after)
  | ['!'] => none
  | c :: rest => (upToBracket? rest).map fun (inside, after) => (.oneOf (ranges (c :: inside)), after)
  | [] => none

theorem length_upToBracket? {cs inside after : List Char} (h : upToBracket? cs = some (inside, after)) :
    after.length < cs.length := by
  fun_induction upToBracket? cs generalizing inside with
  | case1 => cases h
  | case2 => cases h; simp
  | case3 c rest _ ih =>
    obtain ⟨⟨i, a⟩, hi, heq⟩ := Option.map_eq_some_iff.mp h
    cases heq
    exact Nat.lt_succ_of_lt (ih hi)

theorem length_set? {cs after : List Char} {t : Token} (h : set? cs = some (t, after)) :
    after.length < cs.length := by
  fun_cases set? cs with
  | case1 c rest =>
    obtain ⟨⟨i, a⟩, hi, heq⟩ := Option.map_eq_some_iff.mp h
    cases heq
    have := length_upToBracket? hi
    simp only [List.length_cons]
    omega
  | case2 => cases h
  | case3 c rest _ _ =>
    simp only [set?] at h
    obtain ⟨⟨i, a⟩, hi, heq⟩ := Option.map_eq_some_iff.mp h
    cases heq
    exact Nat.lt_succ_of_lt (length_upToBracket? hi)
  | case4 => cases h

/-- The tokens of what remains of a pattern of `whole` characters, behind the character `before?`. -/
def tokensFrom (whole : Nat) (before? : Option Char) (cs : List Char) : Except GlobError (List Token) :=
  match cs with
  | [] => .ok []
  | '*' :: '*' :: '*' :: _ => .error ⟨whole - cs.length + 2, .manyStars⟩
  | '*' :: '*' :: rest =>
    if before?.all (· == '/') then
      match rest with
      | [] => .ok [.anyDepth]
      | '/' :: rest => do return .anyDepth :: (← tokensFrom whole (some '/') rest)
      | _ :: _ => .error ⟨whole - rest.length, .mixedStars⟩
    else .error ⟨whole - cs.length - 1, .mixedStars⟩
  | '*' :: rest => do return .anySequence :: (← tokensFrom whole (some '*') rest)
  | '?' :: rest => do return .anyChar :: (← tokensFrom whole (some '?') rest)
  | '[' :: rest =>
    match h : set? rest with
    | some (t, after) => do
      have := length_set? h
      return t :: (← tokensFrom whole (some ']') after)
    | none => .error ⟨whole - cs.length, .badSet⟩
  | c :: rest => do return .char c :: (← tokensFrom whole (some c) rest)
termination_by cs.length

/-- The tokens of a pattern. -/
def tokens (cs : List Char) : Except GlobError (List Token) := tokensFrom cs.length none cs

/-- A piece of a pattern: any number of directories, or the pattern of a name. -/
inductive Piece where
  | anyDepth
  | name (tokens : List Token)
deriving DecidableEq, Repr

/-- The piece that tokens make. -/
def Piece.ofTokens : List Token → Piece
  | [.anyDepth] => .anyDepth
  | ts => .name ts

/-- The pieces between slashes; a slash at the end opens no further piece. -/
def pieceTexts (cs : List Char) : List (List Char) :=
  let texts := Text.splitAt '/' cs
  if texts.getLast? = some [] then texts.dropLast else texts

end Glob

/-- A pattern for paths. -/
structure Glob where
  isAbsolute : Bool
  pieces : List Glob.Piece
  onlyDirectories : Bool
deriving DecidableEq, Repr

namespace Glob

/-- Whether a text is meant as a pattern. -/
def isMeant (text : String) : Bool := text.toList.any fun c => c == '*' || c == '?' || c == '['

/-- The pattern in a text; the text as a whole is checked before its pieces. -/
def ofText (text : String) : Except GlobError Glob := do
  let cs := text.toList
  discard (tokens cs)
  let isAbsolute := cs.head? == some '/'
  let pieces ← (pieceTexts (if isAbsolute then cs.drop 1 else cs)).mapM tokens
  return ⟨isAbsolute, pieces.map Piece.ofTokens, cs.getLast? == some '/'⟩

/-! ## Matching -/

/-- Whether a character is in a set. -/
def inRanges (rs : List (Char × Char)) (c : Char) : Bool := rs.any fun (first, last) => first ≤ c && c ≤ last

/-- Whether a token stands for a character. -/
def Token.standsFor : Token → Char → Bool
  | char d, c => c == d
  | anyChar, _ => true
  | oneOf rs, c => inRanges rs c
  | noneOf rs, c => !inRanges rs c
  | anySequence, _ => false
  | anyDepth, _ => false

/-- Whether a token stands for any number of characters. -/
def Token.isSequence : Token → Bool
  | anySequence | anyDepth => true
  | _ => false

/-- Whether tokens match a name from end to end. -/
def accepts : List Token → List Char → Bool
  | [], cs => cs.isEmpty
  | t :: ts, cs =>
    if t.isSequence then (List.range (cs.length + 1)).any fun n => accepts ts (cs.drop n)
    else
      match cs with
      | [] => false
      | c :: cs => t.standsFor c && accepts ts cs

/-- The name that tokens stand for if none of them leaves a choice. -/
def literal? : List Token → Option (List Char)
  | [] => some []
  | .char c :: ts => (literal? ts).map (c :: ·)
  | _ :: _ => none

end Glob

end HeaderCatalog
