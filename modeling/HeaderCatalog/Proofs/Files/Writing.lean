import HeaderCatalog.Files.Path
import HeaderCatalog.Proofs.Result

/-!
# What was written is read

A file is written into a directory that a path leads to, under a name of its own (`exists_of_write`). Since no directory
gives way to it, all paths lead where they led before (`follow_put_file`), and the path leads to the file
(`read_write`).
-/

namespace HeaderCatalog

/-! ## The last piece of a path -/

namespace Text

/-- Joined with an empty piece at the end, pieces end with a separator. -/
theorem getLast?_join_nil {sep : Char} {ws : List (List Char)} (hne : ws ≠ []) :
    (join sep (ws ++ [[]])).getLast? = some sep := by
  induction ws with
  | nil => exact absurd rfl hne
  | cons w ws ih =>
    cases ws with
    | nil => rw [List.cons_append, List.nil_append, join, join, List.getLast?_concat]
    | cons v ws =>
      have hrest := ih (List.cons_ne_nil v ws)
      rw [List.cons_append, List.cons_append, join, List.getLast?_append, List.getLast?_cons, ← List.cons_append, hrest]
      rfl

/-- The last piece is empty only at the end of a text that is empty or ends with a separator. -/
theorem splitAt_getLast?_ne {sep : Char} {cs : List Char} (hne : cs ≠ []) (hlast : cs.getLast? ≠ some sep) :
    (splitAt sep cs).getLast? ≠ some [] := by
  intro hnil
  obtain ⟨ws, hws⟩ := List.getLast?_eq_some_iff.mp hnil
  have hjoin := join_splitAt sep cs
  rw [hws] at hjoin
  by_cases hempty : ws = []
  · subst hempty
    exact hne hjoin.symm
  · rw [← hjoin] at hlast
    exact hlast (getLast?_join_nil hempty)

end Text

/-- A path that does not end with a slash has a last piece. -/
theorem Path.exists_last {path : String} (hne : path ≠ "") (hlast : path.toList.getLast? ≠ some '/') :
    ∃ above name, pieces path = above ++ [name] ∧ name ≠ "" := by
  have hsplit := Text.splitAt_getLast?_ne (fun h => hne (String.toList_eq_nil_iff.mp h)) hlast
  obtain ⟨ws, w, hws⟩ := (List.eq_nil_or_concat' _).resolve_left (Text.splitAt_ne_nil '/' path.toList)
  refine ⟨ws.map String.ofList, String.ofList w, ?_, fun hw => ?_⟩
  · rw [pieces, hws, List.map_append, List.map_singleton]
  · rw [hws, List.getLast?_concat] at hsplit
    exact hsplit (congrArg some (String.ofList_eq_empty_iff.mp hw))

/-! ## A changed entry -/

namespace FileTree

variable {t made : FileTree} {l k : Location} {e : Entry}

/-- Behind an insertion, the new entry is found at its place and all others where they were. -/
theorem lookup_insertEntry (entries : List (Location × Entry)) :
    (insertEntry l e entries).lookup k = if k = l then some e else entries.lookup k := by
  induction entries with
  | nil =>
    rw [insertEntry, List.lookup_cons]
    by_cases hk : k = l
    · rw [if_pos hk, beq_iff_eq.mpr hk]
    · rw [if_neg hk, beq_eq_false_iff_ne.mpr hk]
  | cons first rest ih =>
    obtain ⟨place, old⟩ := first
    by_cases hplace : place = l
    · subst hplace
      rw [insertEntry, if_pos (beq_self_eq_true place), List.lookup_cons, List.lookup_cons]
      by_cases hk : k = place
      · rw [if_pos hk, beq_iff_eq.mpr hk]
      · rw [if_neg hk, beq_eq_false_iff_ne.mpr hk]
    · rw [insertEntry, if_neg (fun h => hplace (beq_iff_eq.mp h))]
      by_cases hbefore : l.before place
      · rw [if_pos hbefore, List.lookup_cons]
        by_cases hk : k = l
        · rw [if_pos hk, beq_iff_eq.mpr hk]
        · rw [if_neg hk, beq_eq_false_iff_ne.mpr hk]
      · rw [if_neg hbefore, List.lookup_cons, List.lookup_cons, ih]
        by_cases hk : k = place
        · have hkl : k ≠ l := fun h => hplace (hk.symm.trans h)
          rw [beq_iff_eq.mpr hk, if_neg hkl, if_neg hkl]
        · rw [beq_eq_false_iff_ne.mpr hk]

/-- The place of a changed entry holds the new one. -/
theorem entry?_put_self (hl : l ≠ []) : entry? (t.put l e) l = some e := by
  cases l with
  | nil => exact absurd rfl hl
  | cons name l => exact (lookup_insertEntry t.entries).trans (if_pos rfl)

/-- All other places hold what they held. -/
theorem entry?_put_of_ne (hk : k ≠ l) : entry? (t.put l e) k = t.entry? k := by
  cases k with
  | nil => rfl
  | cons name k => exact (lookup_insertEntry t.entries).trans (if_neg hk)

/-! ## Following a path -/

theorem entry?_of_step {piece : String} (h : t.step l piece = .ok k) :
    t.entry? l = some .directory ∧ k = Path.move l piece := by
  unfold step at h
  split at h
  · cases h
  · cases h
  · rename_i hdirectory
    cases h
    exact ⟨hdirectory, rfl⟩

theorem step_of_directory (h : t.entry? l = some .directory) (piece : String) :
    t.step l piece = .ok (Path.move l piece) := by
  rw [step, h]

/-- The last piece of a path starts from the place to which the others lead. -/
theorem follow_concat (ps : List String) (piece : String) :
    t.follow l (ps ++ [piece]) = (do t.step (← t.follow l ps) piece) := by
  unfold follow
  rw [List.foldlM_append]
  simp only [List.foldlM_cons, List.foldlM_nil, bind_pure]

/-- An empty piece at the end of a path asks for a directory there. -/
theorem follow_concat_empty {ps : List String} (h : t.follow l (ps ++ [""]) = .ok k) :
    t.follow l ps = .ok k ∧ t.entry? k = some .directory := by
  rw [follow_concat] at h
  obtain ⟨place, hplace, h⟩ := exists_of_bind_eq_ok h
  obtain ⟨hdirectory, rfl⟩ := entry?_of_step h
  exact ⟨hplace, hdirectory⟩

/-- Where a file is put in no directory's place, all paths lead where they led. -/
theorem follow_put_file {place : Location} {content : ByteArray} (hplace : t.entry? place ≠ some .directory)
    {ps : List String} (h : t.follow l ps = .ok k) : (t.put place (.file content)).follow l ps = .ok k := by
  induction ps generalizing l with
  | nil => exact h
  | cons piece ps ih =>
    obtain ⟨next, hnext, h⟩ := exists_of_bind_eq_ok h
    obtain ⟨hdirectory, rfl⟩ := entry?_of_step hnext
    have hne : l ≠ place := fun heq => hplace (heq ▸ hdirectory)
    have hstep : (t.put place (.file content)).step l piece = .ok (Path.move l piece) :=
      step_of_directory ((entry?_put_of_ne hne).trans hdirectory) piece
    unfold follow
    rw [List.foldlM_cons, hstep]
    exact ih h

/-! ## Writing and reading -/

/-- A last name of its own belongs in a directory to which the rest of the path leads. -/
theorem exists_of_lastName {path name : String} (hlast : path.toList.getLast? ≠ some '/')
    (h : t.lastName path = .ok (l, some name)) :
    ∃ above, path ≠ "" ∧ Path.pieces path = above ++ [name] ∧ Path.move l name = l ++ [name] ∧
      t.follow (t.start path) above = .ok l ∧ t.entry? l = some .directory := by
  unfold lastName at h
  split at h
  · cases h
  rename_i hempty
  have hne : path ≠ "" := fun heq => hempty (String.isEmpty_iff.mpr heq)
  obtain ⟨above, last, hpieces, hlastNe⟩ := Path.exists_last hne hlast
  have hdrop : (Path.pieces path).reverse.dropWhile (·.isEmpty) = last :: above.reverse := by
    rw [hpieces, List.reverse_concat]
    exact List.dropWhile_cons_of_neg fun h => hlastNe (String.isEmpty_iff.mp h)
  rw [hdrop] at h
  dsimp only at h
  rw [List.reverse_reverse] at h
  obtain ⟨place, hplace, h⟩ := exists_of_bind_eq_ok h
  obtain ⟨hfollow, hdirectory⟩ := follow_concat_empty hplace
  split at h
  · cases h
  · rename_i hname
    cases h
    rw [not_or] at hname
    refine ⟨above, hne, hpieces, ?_, hfollow, hdirectory⟩
    rw [Path.move, Path.stays, if_neg (by simp [hlastNe, hname.1]), if_neg hname.2]

/-- What is written is a file under a name of its own in a directory, to which the rest of the path leads. -/
theorem exists_of_write {path : String} {content : ByteArray} (h : t.write path content = .ok made) :
    ∃ above name l, path ≠ "" ∧ Path.pieces path = above ++ [name] ∧ Path.move l name = l ++ [name] ∧
      t.follow (t.start path) above = .ok l ∧ t.entry? l = some .directory ∧
        t.entry? (l ++ [name]) ≠ some .directory ∧ made = t.put (l ++ [name]) (.file content) := by
  obtain ⟨⟨l, name?⟩, hlast, h⟩ := exists_of_bind_eq_ok h
  cases name? with
  | none => cases h
  | some name =>
    dsimp only at h
    split at h
    · cases h
    · rename_i hplace
      cases h
      rw [not_or] at hplace
      obtain ⟨above, hne, hpieces, hmove, hfollow, hdirectory⟩ := exists_of_lastName hplace.1 hlast
      refine ⟨above, name, l, hne, hpieces, hmove, hfollow, hdirectory, fun heq => hplace.2 ?_, rfl⟩
      rw [heq]
      rfl

/-- **What was written is read.** -/
theorem read_write {path : String} {content : ByteArray} (h : t.write path content = .ok made) :
    made.read path = .ok content := by
  obtain ⟨above, name, l, hne, hpieces, hmove, hfollow, hdirectory, hplace, rfl⟩ := exists_of_write h
  have hplaceNe : l ≠ l ++ [name] := by
    intro heq
    have hlength := congrArg List.length heq
    rw [List.length_append, List.length_singleton] at hlength
    omega
  have hl : entry? (t.put (l ++ [name]) (.file content)) l = some .directory :=
    (entry?_put_of_ne hplaceNe).trans hdirectory
  have hfollow' : (t.put (l ++ [name]) (.file content)).follow (t.start path) (Path.pieces path) =
      .ok (l ++ [name]) := by
    rw [hpieces, follow_concat, follow_put_file hplace hfollow]
    exact (step_of_directory hl name).trans (congrArg Except.ok hmove)
  have hfind : (t.put (l ++ [name]) (.file content)).find path = .ok (l ++ [name], .file content) := by
    rw [find, if_neg (fun h => hne (String.isEmpty_iff.mp h))]
    have hstart : (t.put (l ++ [name]) (.file content)).start path = t.start path := rfl
    rw [hstart, hfollow', ok_bind, entry?_put_self (List.append_ne_nil_of_right_ne_nil l (List.cons_ne_nil name []))]
  rw [read, hfind]

end FileTree

end HeaderCatalog
