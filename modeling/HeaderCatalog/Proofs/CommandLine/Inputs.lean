import HeaderCatalog.CommandLine.Run
import HeaderCatalog.Proofs.Catalog.Totality
import HeaderCatalog.Proofs.Snapshot.RoundTrip

/-!
# From inputs to a catalogue

The inputs of a run stand for paths, one input after the other (`matchedPaths`). An input is bad if it is a pattern
that is malformed or matches nothing, or if one of its paths leads to no file that is read as a snapshot (`BadInput`).
Gathering gives the merged catalogue of the files at all paths (`exists_of_gather`), and fails exactly if some input is
bad (`exists_gather`): a snapshot that was loaded is extracted without failure (`loadSnapshot_eq_error_of_extractFile`).
-/

namespace HeaderCatalog.CommandLine

variable {t : FileTree} {o : Options} {input path : String} {inputs : List String}

/-- An input is a pattern if one of the characters with a meaning of their own is in it. -/
def IsPattern (input : String) : Prop := ∃ c ∈ input.toList, c = '*' ∨ c = '?' ∨ c = '['

theorem isMeant_iff : Glob.isMeant input = true ↔ IsPattern input := by
  simp [Glob.isMeant, IsPattern, or_assoc]

instance (input : String) : Decidable (IsPattern input) := decidable_of_iff _ isMeant_iff

/-- The paths that an input stands for: itself, or what it matches as a pattern. -/
def matchedPaths (t : FileTree) (input : String) : List String :=
  if IsPattern input then
    match Glob.ofText input with
    | .ok g => g.expand t
    | .error _ => []
  else [input]

/-- An input that no run can do with. -/
inductive BadInput (t : FileTree) (input : String) : Prop
  | malformed {e : GlobError} (hmeant : IsPattern input) (hpattern : Glob.ofText input = .error e)
  | noMatch {g : Glob} (hmeant : IsPattern input) (hpattern : Glob.ofText input = .ok g) (hnone : g.expand t = [])
  | unreadable {path : String} {e : FileError} (hpath : path ∈ matchedPaths t input)
      (hread : t.readText path = .error e)
  | rejected {path text : String} {e : LoadError} (hpath : path ∈ matchedPaths t input)
      (hread : t.readText path = .ok text) (hload : Snapshot.ofText text = .error e)

/-- The file at a path holds a snapshot with the given catalogue. -/
def HoldsCatalog (t : FileTree) (o : Options) (path : String) (catalog : Catalog) : Prop :=
  ∃ text s log, t.readText path = .ok text ∧ Snapshot.ofText text = .ok s ∧ s.extract o = .ok (catalog, log)

/-! ## Paths -/

/-- An input is resolved to its paths if there are any. -/
theorem inputPaths_eq_ok_iff {paths : List String} :
    inputPaths t input = .ok paths ↔ paths = matchedPaths t input ∧ matchedPaths t input ≠ [] := by
  unfold inputPaths matchedPaths
  by_cases hmeant : IsPattern input
  · rw [if_pos (isMeant_iff.mpr hmeant), if_pos hmeant]
    cases hpattern : Glob.ofText input with
    | error e => exact ⟨nofun, fun h => absurd rfl h.2⟩
    | ok g =>
      dsimp only
      cases hexpand : g.expand t with
      | nil => exact ⟨nofun, fun h => absurd rfl h.2⟩
      | cons first rest =>
        constructor
        · rintro ⟨⟩
          exact ⟨rfl, List.cons_ne_nil first rest⟩
        · rintro ⟨rfl, -⟩
          rfl
  · rw [if_neg (fun h => hmeant (isMeant_iff.mp h)), if_neg hmeant]
    constructor
    · rintro ⟨⟩
      exact ⟨rfl, List.cons_ne_nil input []⟩
    · rintro ⟨rfl, -⟩
      rfl

/-- Inputs are resolved to their paths, one input after the other, if each has any. -/
theorem resolveInputs_eq_ok_iff {paths : List String} :
    resolveInputs t inputs = .ok paths ↔
      paths = inputs.flatMap (matchedPaths t) ∧ ∀ input ∈ inputs, matchedPaths t input ≠ [] := by
  constructor
  · intro h
    obtain ⟨groups, hgroups, rfl⟩ := exists_of_map_eq_ok (eq_ok_of_mapError h)
    rw [mapM_eq_ok_iff] at hgroups
    clear h
    induction hgroups with
    | nil => exact ⟨rfl, fun _ hinput => (List.not_mem_nil hinput).elim⟩
    | cons hgroup _ ih =>
      obtain ⟨rfl, hne⟩ := inputPaths_eq_ok_iff.mp hgroup
      rw [List.flatten_cons, List.flatMap_cons, ih.1]
      exact ⟨rfl, List.forall_mem_cons.mpr ⟨hne, ih.2⟩⟩
  · rintro ⟨rfl, hpaths⟩
    have hgroups : inputs.mapM (inputPaths t) = .ok (inputs.map (matchedPaths t)) := by
      rw [mapM_eq_ok_iff, List.forall₂_map_right_iff, List.forall₂_same]
      exact fun input hinput => inputPaths_eq_ok_iff.mpr ⟨rfl, hpaths input hinput⟩
    rw [resolveInputs, hgroups, List.flatMap_def]
    rfl

/-! ## Files -/

theorem loadSnapshot_eq_ok_iff {s : Snapshot} :
    loadSnapshot t path = .ok s ↔ ∃ text, t.readText path = .ok text ∧ Snapshot.ofText text = .ok s := by
  constructor
  · intro h
    obtain ⟨text, hread, h⟩ := exists_of_bind_eq_ok h
    exact ⟨text, eq_ok_of_mapError hread, eq_ok_of_mapError h⟩
  · rintro ⟨text, hread, hload⟩
    rw [loadSnapshot, hread]
    exact congrArg (Except.mapError (RunError.rejected path)) hload

/-- What was loaded is extracted without failure. -/
theorem exists_extractFile {s : Snapshot} (h : loadSnapshot t path = .ok s) :
    ∃ result, extractFile t o path = .ok result := by
  obtain ⟨text, -, hload⟩ := loadSnapshot_eq_ok_iff.mp h
  obtain ⟨catalog, log, hextract⟩ := Snapshot.exists_extract (Snapshot.validate_of_ofText hload).1 o
  rw [extractFile, h, ok_bind, hextract]
  exact ⟨_, rfl⟩

theorem holdsCatalog_of_extractFile {result : Catalog × List Event} (h : extractFile t o path = .ok result) :
    HoldsCatalog t o path result.1 ∧ ∃ s, loadSnapshot t path = .ok s := by
  obtain ⟨s, hs, h⟩ := exists_of_bind_eq_ok h
  obtain ⟨⟨catalog, log⟩, hextract, h⟩ := exists_of_bind_eq_ok h
  cases h
  obtain ⟨text, hread, hload⟩ := loadSnapshot_eq_ok_iff.mp hs
  exact ⟨⟨text, s, log, hread, hload, eq_ok_of_mapError hextract⟩, s, hs⟩

/-- Only the loading of a file can go wrong. -/
theorem loadSnapshot_eq_error_of_extractFile {e : RunError} (h : extractFile t o path = .error e) :
    loadSnapshot t path = .error e := by
  rcases of_bind_eq_error h with hload | ⟨s, hs, -⟩
  · exact hload
  · obtain ⟨result, hresult⟩ := exists_extractFile (o := o) hs
    rw [hresult] at h
    cases h

/-- An input is bad if it has no paths or one of them leads to no snapshot. -/
theorem badInput_iff : BadInput t input ↔
    matchedPaths t input = [] ∨ ∃ path ∈ matchedPaths t input, ∃ e, loadSnapshot t path = .error e := by
  constructor
  · rintro (⟨hmeant, hpattern⟩ | ⟨hmeant, hpattern, hnone⟩ | ⟨hpath, hread⟩ | ⟨hpath, hread, hload⟩)
    · left
      rw [matchedPaths, if_pos hmeant, hpattern]
    · left
      rw [matchedPaths, if_pos hmeant, hpattern]
      exact hnone
    · refine Or.inr ⟨_, hpath, ?_⟩
      rw [loadSnapshot, hread]
      exact ⟨_, rfl⟩
    · refine Or.inr ⟨_, hpath, ?_⟩
      rw [loadSnapshot, hread]
      exact ⟨_, congrArg (Except.mapError _) hload⟩
  · rintro (hnone | ⟨path, hpath, e, hload⟩)
    · unfold matchedPaths at hnone
      split at hnone
      · rename_i hmeant
        cases hpattern : Glob.ofText input with
        | error e => exact .malformed hmeant hpattern
        | ok g =>
          rw [hpattern] at hnone
          exact .noMatch hmeant hpattern hnone
      · cases hnone
    · cases hread : t.readText path with
      | error e => exact .unreadable hpath hread
      | ok text =>
        cases htext : Snapshot.ofText text with
        | error e => exact .rejected hpath hread htext
        | ok s =>
          rw [loadSnapshot_eq_ok_iff.mpr ⟨text, hread, htext⟩] at hload
          cases hload

/-! ## All inputs -/

/-- A catalogue that was gathered is merged from those of all files, and no input was bad. -/
theorem exists_of_gather {catalog : Catalog} {log : List Event} (h : gather t o inputs = .ok (catalog, log)) :
    (∀ input ∈ inputs, ¬BadInput t input) ∧
      ∃ parts, List.Forall₂ (HoldsCatalog t o) (inputs.flatMap (matchedPaths t)) parts ∧
        catalog = .merge o parts := by
  obtain ⟨paths, hpaths, h⟩ := exists_of_bind_eq_ok h
  obtain ⟨results, hresults, h⟩ := exists_of_bind_eq_ok h
  cases h
  obtain ⟨rfl, hne⟩ := resolveInputs_eq_ok_iff.mp hpaths
  refine ⟨fun input hinput hbad => ?_, results.map Prod.fst, ?_, rfl⟩
  · rcases badInput_iff.mp hbad with hnone | ⟨path, hpath, e, hload⟩
    · exact hne input hinput hnone
    · have hmem : path ∈ inputs.flatMap (matchedPaths t) := List.mem_flatMap.mpr ⟨input, hinput, hpath⟩
      obtain ⟨result, -, hresult⟩ := exists_mem_of_mapM hresults hmem
      obtain ⟨-, s, hs⟩ := holdsCatalog_of_extractFile hresult
      rw [hs] at hload
      cases hload
  · rw [List.forall₂_map_right_iff]
    exact (mapM_eq_ok_iff.mp hresults).imp fun _ _ hresult => (holdsCatalog_of_extractFile hresult).1

/-- Where no input is bad, a catalogue is gathered. -/
theorem exists_gather (h : ∀ input ∈ inputs, ¬BadInput t input) :
    ∃ catalog log, gather t o inputs = .ok (catalog, log) := by
  have hpaths : resolveInputs t inputs = .ok (inputs.flatMap (matchedPaths t)) :=
    resolveInputs_eq_ok_iff.mpr ⟨rfl, fun input hinput hnone => h input hinput (badInput_iff.mpr (Or.inl hnone))⟩
  have hfiles : ∀ path ∈ inputs.flatMap (matchedPaths t), ∃ result, extractFile t o path = .ok result := by
    intro path hpath
    obtain ⟨input, hinput, hpath⟩ := List.mem_flatMap.mp hpath
    cases hload : loadSnapshot t path with
    | ok s => exact exists_extractFile hload
    | error e => exact absurd (badInput_iff.mpr (Or.inr ⟨path, hpath, e, hload⟩)) (h input hinput)
  obtain ⟨results, hresults⟩ := exists_mapM_eq_ok hfiles
  rw [gather, hpaths, ok_bind, hresults]
  exact ⟨_, _, rfl⟩

/-- Gathering does not fail at an extraction. -/
theorem gather_ne_notExtracted (path : String) (e : Failure) : gather t o inputs ≠ .error (.notExtracted path e) := by
  intro h
  rcases of_bind_eq_error h with h | ⟨paths, -, h⟩
  · obtain ⟨_, -, h⟩ := exists_of_mapError_eq_error h
    cases h
  rcases of_bind_eq_error h with h | ⟨results, -, h⟩
  · obtain ⟨source, -, h⟩ := exists_of_mapM_eq_error h
    rcases of_bind_eq_error (loadSnapshot_eq_error_of_extractFile h) with h | ⟨text, -, h⟩
    · obtain ⟨_, -, h⟩ := exists_of_mapError_eq_error h
      cases h
    · obtain ⟨_, -, h⟩ := exists_of_mapError_eq_error h
      cases h
  · cases h

end HeaderCatalog.CommandLine
