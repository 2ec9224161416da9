import HeaderCatalog.Proofs.Json.Token

/-!
# What is written is scanned

A document has a tree (`tree`), which is what is scanned from every written form of the document, whatever blanks
stand between the parts (`Spacing`, `scanValue_write`). The two written forms in use are of this kind, so both give
the tree (`ofText_compactText`, `ofText_prettyText`).
-/

namespace HeaderCatalog.Json

/-! ## The tree of a document -/

mutual

/-- A document as a tree, in which nothing breaks off. -/
def tree : Json → Tree
  | .null => .null
  | .bool value => .bool value
  | .number value => .number value
  | .string value => .text (.ofString value)
  | .array items => .array (treeItems items)
  | .object members => .object (treeMembers members)

/-- The items of an array. -/
def treeItems : List Json → Items
  | [] => .close
  | j :: js => .item (tree j) (treeItems js)

/-- The members of an object. -/
def treeMembers : List (String × Json) → Members
  | [] => .close
  | (name, j) :: ms => .member (.ofString name) (tree j) (treeMembers ms)

end

mutual

/-- Nothing in the tree of a document breaks off. -/
theorem flaw?_tree : ∀ j : Json, j.tree.flaw? = none
  | .null | .bool _ | .number _ | .string _ => rfl
  | .array items => flaw?_treeItems items
  | .object members => flaw?_treeMembers members

theorem flaw?_treeItems : ∀ js : List Json, (treeItems js).flaw? = none
  | [] => rfl
  | j :: js => by
    rw [treeItems, Items.flaw?, flaw?_tree j, flaw?_treeItems js]
    rfl

theorem flaw?_treeMembers : ∀ ms : List (String × Json), (treeMembers ms).flaw? = none
  | [] => rfl
  | (name, j) :: ms => by
    rw [treeMembers, Members.flaw?, flaw?_tree j, flaw?_treeMembers ms]
    rfl

end

/-! ## Written forms -/

/-- The blanks of a written form: before the parts of an array or object so many steps deep, and after a colon. -/
structure Spacing where
  line : Nat → List Char
  afterColon : List Char
  isSpace_line : ∀ level, ∀ c ∈ line level, isSpace c = true
  isSpace_afterColon : ∀ c ∈ afterColon, isSpace c = true

namespace Spacing

/-- No blanks at all. -/
def none : Spacing := ⟨fun _ => [], [], by simp, by simp⟩

/-- One part a line. -/
def lines : Spacing where
  line := newLine
  afterColon := [' ']
  isSpace_line level c hc := by
    simp only [newLine, List.mem_cons, List.mem_replicate] at hc
    rcases hc with rfl | ⟨-, rfl⟩ <;> rfl
  isSpace_afterColon c hc := by
    rw [List.mem_singleton] at hc
    exact hc ▸ rfl

variable (sp : Spacing)

mutual

/-- A document whose own parts are `level + 1` steps deep. -/
def write (level : Nat) : Json → List Char
  | .null => ['n', 'u', 'l', 'l']
  | .bool value => word value
  | .number value => value.text
  | .string value => quoted value
  | .array [] => ['[', ']']
  | .array (j :: js) => '[' :: (sp.line (level + 1) ++ (write (level + 1) j ++ writeItems level js))
  | .object [] => ['\x7b', '\x7d']
  | .object ((name, j) :: ms) =>
    '\x7b' :: (sp.line (level + 1) ++ (quoted name ++ ':' :: (sp.afterColon ++
      (write (level + 1) j ++ writeMembers level ms))))

/-- The items after the first, and the end of the array. -/
def writeItems (level : Nat) : List Json → List Char
  | [] => sp.line level ++ [']']
  | j :: js => ',' :: (sp.line (level + 1) ++ (write (level + 1) j ++ writeItems level js))

/-- The members after the first, and the end of the object. -/
def writeMembers (level : Nat) : List (String × Json) → List Char
  | [] => sp.line level ++ ['\x7d']
  | (name, j) :: ms =>
    ',' :: (sp.line (level + 1) ++ (quoted name ++ ':' :: (sp.afterColon ++
      (write (level + 1) j ++ writeMembers level ms))))

end

end Spacing

mutual

/-- The compact form has no blanks; the depth does not show in it. -/
theorem compact_eq_write : ∀ (level : Nat) (j : Json), compact j = Spacing.none.write level j
  | _, .null | _, .bool _ | _, .number _ | _, .string _ | _, .array [] | _, .object [] => by
    simp only [compact, Spacing.write]
  | level, .array (j :: js) => by
    rw [compact, Spacing.write, compact_eq_write (level + 1) j, compactItems_eq_write level js]
    rfl
  | level, .object ((name, j) :: ms) => by
    rw [compact, Spacing.write, compact_eq_write (level + 1) j, compactMembers_eq_write level ms]
    rfl

theorem compactItems_eq_write : ∀ (level : Nat) (js : List Json), compactItems js = Spacing.none.writeItems level js
  | _, [] => rfl
  | level, j :: js => by
    rw [compactItems, Spacing.writeItems, compact_eq_write (level + 1) j, compactItems_eq_write level js]
    rfl

theorem compactMembers_eq_write : ∀ (level : Nat) (ms : List (String × Json)),
    compactMembers ms = Spacing.none.writeMembers level ms
  | _, [] => rfl
  | level, (name, j) :: ms => by
    rw [compactMembers, Spacing.writeMembers, compact_eq_write (level + 1) j, compactMembers_eq_write level ms]
    rfl

end

mutual

/-- The form over several lines puts each part on a line of its own. -/
theorem pretty_eq_write : ∀ (level : Nat) (j : Json), pretty level j = Spacing.lines.write level j
  | _, .null | _, .bool _ | _, .number _ | _, .string _ | _, .array [] | _, .object [] => by
    simp only [pretty, Spacing.write]
  | level, .array (j :: js) => by
    rw [pretty, Spacing.write, pretty_eq_write (level + 1) j, prettyItems_eq_write level js, List.append_assoc]
    rfl
  | level, .object ((name, j) :: ms) => by
    rw [pretty, Spacing.write, pretty_eq_write (level + 1) j, prettyMembers_eq_write level ms, List.append_assoc]
    rfl

theorem prettyItems_eq_write : ∀ (level : Nat) (js : List Json),
    prettyItems level js = Spacing.lines.writeItems level js
  | _, [] => rfl
  | level, j :: js => by
    rw [prettyItems, Spacing.writeItems, pretty_eq_write (level + 1) j, prettyItems_eq_write level js,
      List.append_assoc]
    rfl

theorem prettyMembers_eq_write : ∀ (level : Nat) (ms : List (String × Json)),
    prettyMembers level ms = Spacing.lines.writeMembers level ms
  | _, [] => rfl
  | level, (name, j) :: ms => by
    rw [prettyMembers, Spacing.writeMembers, pretty_eq_write (level + 1) j, prettyMembers_eq_write level ms,
      List.append_assoc]
    rfl

end

/-! ## Scanning by parts

What one step of the scan does on a text of each shape, from what it does on the parts. -/

section Scan

variable {bound : Nat} {blanks s rest : List Char} {c : Char} {value : Tree} {items : Items} {given : Members}

/-- Blanks in front of a value are skipped. -/
theorem scanValue_blanks (hblanks : ∀ c ∈ blanks, isSpace c = true) :
    scanValue bound (blanks ++ s) = scanValue bound s := by
  cases bound with
  | zero => rfl
  | succ bound => simp only [scanValue, skipSpace_append hblanks]

theorem scanValue_word (b : Bool) : scanValue (bound + 1) (word b ++ rest) = (.bool b, rest) := by
  cases b <;> simp [scanValue, word, skipSpace_cons (show isSpace 't' = false from rfl),
    skipSpace_cons (show isSpace 'f' = false from rfl), scanWord]

theorem scanValue_null : scanValue (bound + 1) (['n', 'u', 'l', 'l'] ++ rest) = (.null, rest) := by
  simp [scanValue, skipSpace_cons (show isSpace 'n' = false from rfl), scanWord]

theorem scanValue_quoted (name : String) :
    scanValue (bound + 1) (quoted name ++ rest) = (.text (.ofString name), rest) := by
  have hscan := scanText_quoted name rest
  simp [quoted, scanValue, skipSpace_cons (show isSpace '"' = false from rfl), hscan]

theorem scanValue_array (h : scanItems bound true s = (items, rest)) :
    scanValue (bound + 1) ('[' :: s) = (.array items, rest) := by
  simp [scanValue, skipSpace_cons (show isSpace '[' = false from rfl), h, isDigit]

theorem scanValue_object (h : scanMembers bound true s = (given, rest)) :
    scanValue (bound + 1) ('\x7b' :: s) = (.object given, rest) := by
  simp [scanValue, skipSpace_cons (show isSpace '\x7b' = false from rfl), h, isDigit]

theorem scanItems_close (first : Bool) (hblanks : ∀ c ∈ blanks, isSpace c = true) :
    scanItems (bound + 1) first (blanks ++ ']' :: rest) = (.close, rest) := by
  simp [scanItems, skipSpace_append hblanks, skipSpace_cons (show isSpace ']' = false from rfl)]

theorem scanItems_first {after : List Char} (hblanks : ∀ c ∈ blanks, isSpace c = true) (hc : isSpace c = false)
    (hclose : c ≠ ']') (hvalue : scanValue bound (c :: s) = (value, after))
    (hitems : scanItems bound false after = (items, rest)) :
    scanItems (bound + 1) true (blanks ++ c :: s) = (.item value items, rest) := by
  simp [scanItems, skipSpace_append hblanks, skipSpace_cons hc, hclose, hvalue, hitems]

theorem scanItems_next {after : List Char} (hblanks : ∀ c ∈ blanks, isSpace c = true) (hc : isSpace c = false)
    (hclose : c ≠ ']') (hvalue : scanValue bound (c :: s) = (value, after))
    (hitems : scanItems bound false after = (items, rest)) :
    scanItems (bound + 1) false (',' :: (blanks ++ c :: s)) = (.item value items, rest) := by
  simp [scanItems, skipSpace_cons (show isSpace ',' = false from rfl), skipSpace_append hblanks, skipSpace_cons hc,
    hclose, hvalue, hitems]

theorem scanMembers_close (first : Bool) (hblanks : ∀ c ∈ blanks, isSpace c = true) :
    scanMembers (bound + 1) first (blanks ++ '\x7d' :: rest) = (.close, rest) := by
  simp [scanMembers, skipSpace_append hblanks, skipSpace_cons (show isSpace '\x7d' = false from rfl)]

theorem scanMembers_first (hblanks : ∀ c ∈ blanks, isSpace c = true) (name : String) :
    scanMembers (bound + 1) true (blanks ++ (quoted name ++ s)) = scanMember bound (quoted name ++ s) := by
  simp [scanMembers, skipSpace_append hblanks, quoted, skipSpace_cons (show isSpace '"' = false from rfl)]

theorem scanMembers_next (hblanks : ∀ c ∈ blanks, isSpace c = true) (name : String) :
    scanMembers (bound + 1) false (',' :: (blanks ++ (quoted name ++ s))) = scanMember bound (quoted name ++ s) := by
  simp [scanMembers, skipSpace_cons (show isSpace ',' = false from rfl), skipSpace_append hblanks, quoted,
    skipSpace_cons (show isSpace '"' = false from rfl)]

theorem scanMember_member (name : String) {after : List Char} (hvalue : scanValue bound s = (value, after))
    (hmembers : scanMembers bound false after = (given, rest)) :
    scanMember (bound + 1) (quoted name ++ ':' :: s) = (.member (.ofString name) value given, rest) := by
  have hscan := scanText_quoted name (':' :: s)
  simp [scanMember, quoted, hscan, skipSpace_cons (show isSpace ':' = false from rfl), hvalue, hmembers]

end Scan

/-! ## Scanning a written form -/

namespace Spacing

variable (sp : Spacing)

/-- A written form begins with no blank and with no bracket that closes. -/
theorem exists_write_eq_cons (level : Nat) (j : Json) :
    ∃ c s, sp.write level j = c :: s ∧ isSpace c = false ∧ c ≠ ']' := by
  cases j with
  | null => exact ⟨_, _, rfl, rfl, by decide⟩
  | bool value => cases value <;> exact ⟨_, _, rfl, rfl, by decide⟩
  | number value =>
    obtain ⟨c, s, htext, hc⟩ := value.exists_text_eq_cons
    refine ⟨c, s, by rw [write, htext], ?_⟩
    rcases hc with rfl | hdigit
    · exact ⟨rfl, by decide⟩
    · exact ⟨isSpace_of_isDigit hdigit, ne_of_isDigit hdigit rfl⟩
  | string value => exact ⟨_, _, by rw [write, quoted], rfl, by decide⟩
  | array items => cases items <;> exact ⟨_, _, by rw [write], rfl, by decide⟩
  | object members =>
    cases members with
    | nil => exact ⟨_, _, by rw [write], rfl, by decide⟩
    | cons m ms => exact ⟨_, _, by rw [write], rfl, by decide⟩

/-- No numeral goes on with blanks and then with a character that ends it. -/
theorem endsNumeral_line (level : Nat) {c : Char} (s : List Char) (hdigit : isDigit c = false)
    (hc : c ∉ ['.', 'e', 'E']) : EndsNumeral (sp.line level ++ c :: s) := by
  intro d hd
  cases hline : sp.line level with
  | nil =>
    rw [hline] at hd
    cases hd
    exact ⟨hdigit, hc⟩
  | cons blank blanks =>
    rw [hline] at hd
    cases hd
    have hspace := sp.isSpace_line level d (hline ▸ List.mem_cons_self)
    refine ⟨?_, ?_⟩
    · by_contra hdigit
      rw [isSpace_of_isDigit (by simpa using hdigit)] at hspace
      cases hspace
    · intro hmem
      simp only [List.mem_cons, List.not_mem_nil, or_false] at hmem
      rcases hmem with rfl | rfl | rfl <;> cases hspace

theorem endsNumeral_writeItems (level : Nat) (js : List Json) (rest : List Char) :
    EndsNumeral (sp.writeItems level js ++ rest) := by
  cases js with
  | nil =>
    rw [writeItems, List.append_assoc]
    exact sp.endsNumeral_line level rest rfl (by decide)
  | cons j js =>
    intro c hc
    rw [writeItems] at hc
    cases hc
    exact ⟨rfl, by decide⟩

theorem endsNumeral_writeMembers (level : Nat) (ms : List (String × Json)) (rest : List Char) :
    EndsNumeral (sp.writeMembers level ms ++ rest) := by
  cases ms with
  | nil =>
    rw [writeMembers, List.append_assoc]
    exact sp.endsNumeral_line level rest rfl (by decide)
  | cons m ms =>
    intro c hc
    rw [writeMembers] at hc
    cases hc
    exact ⟨rfl, by decide⟩

-- The recursion is that of the written form. The bound is spent twice at most on each character, as an array that
-- opens costs one step for itself and one for its first item.

mutual

/-- A written form is scanned as the document's tree, whatever does not prolong it follows. -/
theorem scanValue_write : ∀ (level bound : Nat) (j : Json) (rest : List Char), EndsNumeral rest →
    2 * (sp.write level j).length ≤ bound → scanValue bound (sp.write level j ++ rest) = (j.tree, rest)
  | level, 0, j, rest, _, hbound => by
    obtain ⟨c, s, hs, -⟩ := sp.exists_write_eq_cons level j
    rw [hs] at hbound
    cases hbound
  | _, _ + 1, .null, _, _, _ => by
    rw [write]
    exact scanValue_null
  | _, _ + 1, .bool value, _, _, _ => by
    rw [write]
    exact scanValue_word value
  | _, bound + 1, .number value, _, hrest, _ => by
    rw [write]
    exact scanValue_numeral value bound hrest
  | _, _ + 1, .string value, _, _, _ => by
    rw [write]
    exact scanValue_quoted value
  | level, bound + 1, .array [], rest, _, hbound => by
    rw [write] at hbound ⊢
    obtain ⟨bound, rfl⟩ : ∃ b, bound = b + 1 := ⟨bound - 1, by simp at hbound; omega⟩
    have hblanks : ∀ c ∈ ([] : List Char), isSpace c = true := by simp
    exact scanValue_array (scanItems_close true hblanks)
  | level, bound + 1, .array (j :: js), rest, _, hbound => by
    rw [write] at hbound ⊢
    simp only [List.length_cons, List.length_append] at hbound
    obtain ⟨bound, rfl⟩ : ∃ b, bound = b + 1 := ⟨bound - 1, by omega⟩
    have hvalue := scanValue_write (level + 1) bound j (sp.writeItems level js ++ rest)
      (sp.endsNumeral_writeItems level js rest) (by omega)
    have hitems := scanItems_write level bound js rest (by omega)
    obtain ⟨c, s, hs, hc, hclose⟩ := sp.exists_write_eq_cons (level + 1) j
    rw [hs] at hvalue
    rw [hs, tree, treeItems, List.cons_append, List.append_assoc, List.append_assoc]
    exact scanValue_array (scanItems_first (sp.isSpace_line _) hc hclose hvalue hitems)
  | level, bound + 1, .object [], rest, _, hbound => by
    rw [write] at hbound ⊢
    obtain ⟨bound, rfl⟩ : ∃ b, bound = b + 1 := ⟨bound - 1, by simp at hbound; omega⟩
    have hblanks : ∀ c ∈ ([] : List Char), isSpace c = true := by simp
    exact scanValue_object (scanMembers_close true hblanks)
  | level, bound + 1, .object ((name, j) :: ms), rest, _, hbound => by
    rw [write] at hbound ⊢
    simp only [List.length_cons, List.length_append, quoted] at hbound
    obtain ⟨bound, rfl⟩ : ∃ b, bound = b + 2 := ⟨bound - 2, by omega⟩
    have hvalue := scanValue_write (level + 1) bound j (sp.writeMembers level ms ++ rest)
      (sp.endsNumeral_writeMembers level ms rest) (by omega)
    have hmembers := scanMembers_write level bound ms rest (by omega)
    rw [← scanValue_blanks sp.isSpace_afterColon] at hvalue
    simp only [List.append_assoc, List.cons_append]
    refine scanValue_object ?_
    rw [scanMembers_first (sp.isSpace_line _), scanMember_member name hvalue hmembers, treeMembers]

theorem scanItems_write : ∀ (level bound : Nat) (js : List Json) (rest : List Char),
    2 * (sp.writeItems level js).length ≤ bound →
    scanItems bound false (sp.writeItems level js ++ rest) = (treeItems js, rest)
  | _, 0, js, _, hbound => by cases js <;> simp [writeItems] at hbound
  | level, bound + 1, [], rest, _ => by
    rw [writeItems, List.append_assoc]
    exact scanItems_close false (sp.isSpace_line _)
  | level, bound + 1, j :: js, rest, hbound => by
    rw [writeItems] at hbound ⊢
    simp only [List.length_cons, List.length_append] at hbound
    have hvalue := scanValue_write (level + 1) bound j (sp.writeItems level js ++ rest)
      (sp.endsNumeral_writeItems level js rest) (by omega)
    have hitems := scanItems_write level bound js rest (by omega)
    obtain ⟨c, s, hs, hc, hclose⟩ := sp.exists_write_eq_cons (level + 1) j
    rw [hs] at hvalue
    rw [hs, treeItems, List.cons_append, List.append_assoc, List.append_assoc]
    exact scanItems_next (sp.isSpace_line _) hc hclose hvalue hitems

theorem scanMembers_write : ∀ (level bound : Nat) (ms : List (String × Json)) (rest : List Char),
    2 * (sp.writeMembers level ms).length ≤ bound →
    scanMembers bound false (sp.writeMembers level ms ++ rest) = (treeMembers ms, rest)
  | _, 0, ms, _, hbound => by cases ms <;> simp [writeMembers] at hbound
  | level, bound + 1, [], rest, _ => by
    rw [writeMembers, List.append_assoc]
    exact scanMembers_close false (sp.isSpace_line _)
  | level, bound + 1, (name, j) :: ms, rest, hbound => by
    rw [writeMembers] at hbound ⊢
    simp only [List.length_cons, List.length_append, quoted] at hbound
    obtain ⟨bound, rfl⟩ : ∃ b, bound = b + 1 := ⟨bound - 1, by omega⟩
    have hvalue := scanValue_write (level + 1) bound j (sp.writeMembers level ms ++ rest)
      (sp.endsNumeral_writeMembers level ms rest) (by omega)
    have hmembers := scanMembers_write level bound ms rest (by omega)
    rw [← scanValue_blanks sp.isSpace_afterColon] at hvalue
    simp only [List.append_assoc, List.cons_append]
    rw [scanMembers_next (sp.isSpace_line _), scanMember_member name hvalue hmembers, treeMembers]

end

/-- Written without blanks around it, a document is all that is scanned. -/
theorem ofChars_write (j : Json) : Tree.ofChars (sp.write 0 j) = j.tree := by
  have hscan := sp.scanValue_write 0 (2 * (sp.write 0 j).length + 2) j [] (by simp [EndsNumeral]) (by omega)
  rw [List.append_nil] at hscan
  rw [Tree.ofChars, hscan]

end Spacing

/-- The compact form is read as the document's tree. -/
theorem ofText_compactText (j : Json) : Tree.ofText j.compactText = j.tree := by
  rw [Tree.ofText, compactText, String.toList_ofList, compact_eq_write 0, Spacing.ofChars_write]

/-- The form over several lines is read as the document's tree. -/
theorem ofText_prettyText (j : Json) : Tree.ofText j.prettyText = j.tree := by
  rw [Tree.ofText, prettyText, String.toList_ofList, pretty_eq_write, Spacing.ofChars_write]

end HeaderCatalog.Json
