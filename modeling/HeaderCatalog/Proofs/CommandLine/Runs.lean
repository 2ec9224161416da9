import HeaderCatalog.Proofs.CommandLine.Inputs
import HeaderCatalog.Proofs.CommandLine.Reading
import HeaderCatalog.Proofs.Files.Writing

/-!
# All or nothing

A run with a bad input puts nothing out, on the standard output or into a file. Any other run puts out the one
catalogue that is merged from all inputs in their order: its document, or a line for each of its classes
(`CarriesOut`, `run_of_ofWords`). Both actions gather alike, so what they put out is about the same catalogue.
-/

namespace HeaderCatalog

/-! ## Lines -/

/-- A text without a line break. -/
def Unbroken (s : String) : Prop := '\n' ∉ s.toList

instance (s : String) : Decidable (Unbroken s) := inferInstanceAs (Decidable (Not ('\n' ∈ s.toList)))

theorem unbroken_append {s s' : String} : Unbroken (s ++ s') ↔ Unbroken s ∧ Unbroken s' := by
  rw [Unbroken, String.toList_append, List.mem_append, not_or]
  rfl

/-- The digits of a number are no line breaks. -/
theorem unbroken_toString (n : Nat) : Unbroken (toString n) := by
  intro h
  rw [Nat.toString_eq_repr, Nat.toList_repr] at h
  exact absurd (Nat.isDigit_of_mem_toDigits (by decide) (by decide) h) (by decide)

/-- A class whose line shows no text with a line break. -/
structure Interface.Unbroken (i : Interface) : Prop where
  name : HeaderCatalog.Unbroken i.name
  superclass : ∀ c, i.superclass? = some c → HeaderCatalog.Unbroken c.name
  file : HeaderCatalog.Unbroken i.file

namespace CommandLine

variable {colored : Bool} {t : FileTree} {catalog : Catalog}

theorem unbroken_show (style : Style) {text : String} (h : Unbroken text) : Unbroken (style.show colored text) := by
  cases colored with
  | false => exact h
  | true =>
    have hcode : Unbroken style.code := by cases style <;> decide
    rw [Style.show, if_pos rfl]
    simp only [unbroken_append]
    exact ⟨⟨⟨⟨by decide, hcode⟩, by decide⟩, h⟩, by decide⟩

theorem unbroken_listingLine {i : Interface} (h : i.Unbroken) : Unbroken (listingLine colored i) := by
  have hheading : Unbroken (heading colored i) := by
    unfold heading
    rw [unbroken_append]
    refine ⟨unbroken_show .bold h.name, ?_⟩
    split
    · decide
    · rename_i superclass hsuperclass
      rw [unbroken_append]
      exact ⟨by decide, unbroken_show .cyan (h.superclass superclass hsuperclass)⟩
  unfold listingLine
  simp only [unbroken_append]
  refine ⟨⟨⟨⟨⟨⟨⟨⟨hheading, by decide⟩, unbroken_toString _⟩, by decide⟩, unbroken_toString _⟩, by decide⟩,
    unbroken_toString _⟩, by decide⟩, unbroken_show .dimmed h.file⟩

/-- The lines of a listing are those of the classes, each ended by a line break. -/
theorem splitAt_listing (h : ∀ i ∈ catalog.interfaces, i.Unbroken) :
    Text.splitAt '\n' (listing colored catalog).toList =
      (catalog.interfaces.map fun i => (listingLine colored i).toList) ++ [[]] := by
  unfold listing
  generalize catalog.interfaces = is at h
  induction is with
  | nil => rfl
  | cons i is ih =>
    obtain ⟨hi, his⟩ := List.forall_mem_cons.mp h
    rw [List.map_cons, String.join_cons, String.toList_append, String.toList_append, List.append_assoc, List.map_cons,
      List.cons_append, ← ih his]
    exact Text.splitAt_append (unbroken_listingLine hi) _

/-- Without colours all texts are shown as they are. -/
theorem heading_plain (i : Interface) : heading false i = i.name ++ (i.superclass?.elim "" fun c => " : " ++ c.name) := by
  unfold heading
  cases i.superclass? <;> rfl

/-! ## What is put out -/

/-- A listing shows each class, in the order of the catalogue, on a line with the numbers of its members between its
heading and its file; without colours the heading is its name and that of its superclass. A text that has line breaks of
its own is shown with them; where none has, there are no other lines. -/
structure Lists (colored : Bool) (catalog : Catalog) (stdout : String) : Prop where
  entries : stdout = String.join (catalog.interfaces.map fun i =>
    heading colored i ++ "  " ++ toString i.properties.length ++ " properties, " ++
      toString i.instanceMethods.length ++ " instance methods, " ++ toString i.classMethods.length ++
        " class methods  " ++ Style.dimmed.show colored i.file ++ "\n")
  plain : colored = false → stdout = String.join (catalog.interfaces.map fun i =>
    i.name ++ (i.superclass?.elim "" fun c => " : " ++ c.name) ++ "  " ++ toString i.properties.length ++
      " properties, " ++ toString i.instanceMethods.length ++ " instance methods, " ++
        toString i.classMethods.length ++ " class methods  " ++ i.file ++ "\n")
  lines : (∀ i ∈ catalog.interfaces, i.Unbroken) → Text.splitAt '\n' stdout.toList =
    (catalog.interfaces.map fun i => (listingLine colored i).toList) ++ [[]]

/-- A file can be written at a path, once the directories above it are there or have been made. -/
def Writable (t : FileTree) (path : String) : Prop :=
  ∃ made, t.makeDirectories (Path.parents path) = (made, none) ∧
    ∀ content, ∃ written, made.write path content = .ok written

/-- Whether a run succeeds. -/
def Outcome.Succeeds (outcome : Outcome) : Prop := ∃ log, outcome.result = .ok log

/-- A text is put out: on the standard output, with a line break behind it, or into the file that is named. -/
structure PutsOut (t : FileTree) (out? : Option String) (text : String) (outcome : Outcome) : Prop where
  stdout : out? = none → outcome.stdout = text ++ "\n" ∧ outcome.tree = t ∧ outcome.Succeeds
  file : ∀ path, out? = some path → Writable t path →
    outcome.stdout = "" ∧ outcome.tree.read path = .ok text.toUTF8 ∧ outcome.Succeeds

/-- An extraction puts out the document of a catalogue, without blanks or indented. -/
structure Extracts (t : FileTree) (out? : Option String) (isCompact : Bool) (catalog : Catalog) (outcome : Outcome) :
    Prop where
  compact : isCompact = true → PutsOut t out? catalog.toJson.compactText outcome
  pretty : isCompact = false → PutsOut t out? catalog.toJson.prettyText outcome

/-- A run shows the listing of a catalogue. -/
structure Shows (colored : Bool) (t : FileTree) (catalog : Catalog) (outcome : Outcome) : Prop where
  stdout : Lists colored catalog outcome.stdout
  tree : outcome.tree = t
  succeeds : outcome.Succeeds

/-- If one of the inputs is bad, nothing is put out, neither on the standard output nor into a file. If none is, the run
delivers the catalogue merged from the files of all inputs, in their order. A file that can be loaded can be extracted,
and no run fails at an extraction. -/
structure AllOrNothing (t : FileTree) (inputs : List String) (o : Options) (delivers : Catalog → Outcome → Prop)
    (outcome : Outcome) : Prop where
  nothing : (∃ input ∈ inputs, BadInput t input) →
    outcome.stdout = "" ∧ outcome.tree = t ∧ ∃ e, outcome.result = .error e
  all : (∀ input ∈ inputs, ¬BadInput t input) → ∃ parts,
    List.Forall₂ (HoldsCatalog t o) (inputs.flatMap (matchedPaths t)) parts ∧ delivers (.merge o parts) outcome
  loaded : ∀ path text s, t.readText path = .ok text → Snapshot.ofText text = .ok s →
    ∃ catalog, HoldsCatalog t o path catalog
  extracted : ∀ source e, outcome.result ≠ .error (.notExtracted source e)

/-- What comes of a command. -/
inductive CarriesOut (colored : Bool) (t : FileTree) (outcome : Outcome) : Command → Prop
  | extract {inputs : List String} {o : Options} {out? : Option String} {isCompact : Bool}
      (h : AllOrNothing t inputs o (Extracts t out? isCompact) outcome) :
      CarriesOut colored t outcome (.extract inputs o out? isCompact)
  | list {inputs : List String} {o : Options} (h : AllOrNothing t inputs o (Shows colored t) outcome) :
      CarriesOut colored t outcome (.list inputs o)
  | nothing (hstdout : outcome.stdout = "") (htree : outcome.tree = t) (hsucceeds : outcome.Succeeds) :
      CarriesOut colored t outcome .nothing

theorem lists_listing : Lists colored catalog (listing colored catalog) where
  entries := rfl
  plain := by
    rintro rfl
    simp only [listing, listingLine, heading_plain]
    rfl
  lines := splitAt_listing

/-- What was written to a file is there. -/
theorem writeFile_of_writable {path : String} (h : Writable t path) (text : String) (log : List Event) :
    (writeFile t path text log).stdout = "" ∧ (writeFile t path text log).tree.read path = .ok text.toUTF8 ∧
      (writeFile t path text log).Succeeds := by
  obtain ⟨made, hmade, hwrite⟩ := h
  obtain ⟨written, hwritten⟩ := hwrite text.toUTF8
  have hrun : writeFile t path text log = .silent written (.ok (log ++ [.written path])) := by
    dsimp only [writeFile]
    rw [hmade]
    dsimp only
    rw [hwritten]
  rw [hrun]
  exact ⟨rfl, FileTree.read_write hwritten, _, rfl⟩

/-- Writing a file does not fail at an extraction. -/
theorem writeFile_ne_notExtracted {path text source : String} {log : List Event} {e : Failure} :
    (writeFile t path text log).result ≠ .error (.notExtracted source e) := by
  dsimp only [writeFile]
  split
  · nofun
  · split
    · nofun
    · nofun

/-! ## Runs -/

/-- A run that fails if nothing is gathered, and delivers what is gathered else, delivers all or nothing. -/
theorem allOrNothing_of_gather {inputs : List String} {o : Options} {delivers : Catalog → Outcome → Prop}
    {outcome : Outcome} (hfails : ∀ e, gather t o inputs = .error e → outcome = ⟨"", t, .error e⟩)
    (hdelivers : ∀ catalog log, gather t o inputs = .ok (catalog, log) →
      delivers catalog outcome ∧ ∀ source e, outcome.result ≠ .error (.notExtracted source e)) :
    AllOrNothing t inputs o delivers outcome where
  nothing := by
    rintro ⟨input, hinput, hbad⟩
    cases hgather : gather t o inputs with
    | error e =>
      rw [hfails e hgather]
      exact ⟨rfl, rfl, e, rfl⟩
    | ok result => exact absurd hbad ((exists_of_gather hgather).1 input hinput)
  all := by
    intro hgood
    obtain ⟨catalog, log, hgather⟩ := exists_gather (o := o) hgood
    obtain ⟨-, parts, hparts, rfl⟩ := exists_of_gather hgather
    exact ⟨parts, hparts, (hdelivers _ log hgather).1⟩
  loaded := by
    intro path text s hread hload
    obtain ⟨catalog, log, hextract⟩ := Snapshot.exists_extract (Snapshot.validate_of_ofText hload).1 o
    exact ⟨catalog, text, s, log, hread, hload, hextract⟩
  extracted := by
    intro source e
    cases hgather : gather t o inputs with
    | error e' =>
      rw [hfails e' hgather]
      rintro ⟨⟩
      exact gather_ne_notExtracted source e hgather
    | ok result => exact (hdelivers _ _ hgather).2 source e

/-- What is gathered is put out as text. -/
theorem putsOut_of_gather {inputs : List String} {o : Options} {out? : Option String} {isCompact : Bool}
    {log : List Event} (h : gather t o inputs = .ok (catalog, log)) :
    PutsOut t out? (documentText isCompact catalog) (Command.run colored t (.extract inputs o out? isCompact)) := by
  rw [Command.run, h]
  constructor
  · rintro rfl
    exact ⟨rfl, rfl, log, rfl⟩
  · rintro path rfl hwritable
    exact writeFile_of_writable hwritable _ log

/-- An extraction delivers all or nothing. -/
theorem allOrNothing_extract (inputs : List String) (o : Options) (out? : Option String) (isCompact : Bool) :
    AllOrNothing t inputs o (Extracts t out? isCompact)
      (Command.run colored t (.extract inputs o out? isCompact)) := by
  refine allOrNothing_of_gather (fun e h => ?_) fun catalog log h => ⟨⟨?_, ?_⟩, fun source e => ?_⟩
  · rw [Command.run, h]
    rfl
  · rintro rfl
    exact @putsOut_of_gather colored t catalog inputs o out? true log h
  · rintro rfl
    exact @putsOut_of_gather colored t catalog inputs o out? false log h
  · rw [Command.run, h]
    cases out? with
    | none => nofun
    | some path => exact writeFile_ne_notExtracted

/-- So does a listing. -/
theorem allOrNothing_list (inputs : List String) (o : Options) :
    AllOrNothing t inputs o (Shows colored t) (Command.run colored t (.list inputs o)) := by
  refine allOrNothing_of_gather (fun e h => ?_) fun catalog log h => ?_
  · rw [Command.run, h]
    rfl
  · rw [Command.run, h]
    exact ⟨⟨lists_listing, rfl, log, rfl⟩, nofun⟩

theorem carriesOut_run (command : Command) : CarriesOut colored t (command.run colored t) command := by
  cases command with
  | extract inputs o out? isCompact => exact .extract (allOrNothing_extract inputs o out? isCompact)
  | list inputs o => exact .list (allOrNothing_list inputs o)
  | nothing => exact .nothing rfl rfl ⟨[], rfl⟩

/-- **All or nothing.** A command line asks for the one command that its words mean: they say the inputs and the options,
where the text goes and whether it is compact. A run of it delivers the catalogue of all inputs or nothing. -/
theorem run_of_ofWords {words : List String} {request : Request} (h : Request.ofWords words = .ok request) :
    Means words request.command ∧ (∀ command, Means words command → command = request.command) ∧
      ∀ colored t, CarriesOut colored t (request.command.run colored t) request.command := by
  have hmeans := Request.means_of_read h
  exact ⟨hmeans, fun _ h' => h'.unique hmeans, fun _ _ => carriesOut_run request.command⟩

namespace Example

/-- One file, with a class. -/
def shelf : FileTree where
  entries := [(["a"], .file ("\x7b\"cursors\":[\x7b\"kind\":\"TranslationUnit\",\"children\":[1]\x7d," ++
    "\x7b\"kind\":\"ObjCInterfaceDecl\",\"spelling\":\"A\"\x7d]\x7d").toUTF8)]
  home := []

theorem shelf_good : ∀ input ∈ ["a", "a"], ¬BadInput shelf input := by
  have hload : (loadSnapshot shelf "a").isOk = true := by decide +kernel
  have hgood : ¬BadInput shelf "a" := by
    intro hbad
    rcases badInput_iff.mp hbad with hnone | ⟨path, hpath, e, herror⟩
    · cases hnone
    · obtain rfl : path = "a" := List.mem_singleton.mp hpath
      rw [herror] at hload
      cases hload
  simpa using hgood

theorem writable_shelf : Writable shelf "d/b" := ⟨_, rfl, fun _ => ⟨_, rfl⟩⟩

/-- The options where only a platform is said. -/
def handheld : Options := ⟨"ios", none, none, false⟩

/-- The file is met twice. Its classes are listed, or its catalogue is put out, compact or not, or written to a file in a
directory that arises. -/
theorem run_shelf :
    (Means ["list", "-i", "a", "a"] (.list ["a", "a"] .standard) ∧
      ∃ parts, List.Forall₂ (HoldsCatalog shelf .standard) ["a", "a"] parts ∧
        Lists false (.merge .standard parts) (Command.run false shelf (.list ["a", "a"] .standard)).stdout) ∧
    (Means ["extract", "-i", "a", "a", "--compact", "--platform", "ios"] (.extract ["a", "a"] handheld none true) ∧
      ∃ parts, List.Forall₂ (HoldsCatalog shelf handheld) ["a", "a"] parts ∧
        (Command.run false shelf (.extract ["a", "a"] handheld none true)).stdout =
          (Catalog.merge handheld parts).toJson.compactText ++ "\n") ∧
    (Means ["-v", "extract", "--platform=ios", "-ia", "-i=a"] (.extract ["a", "a"] handheld none false) ∧
      ∃ parts, List.Forall₂ (HoldsCatalog shelf handheld) ["a", "a"] parts ∧
        (Command.run false shelf (.extract ["a", "a"] handheld none false)).stdout =
          (Catalog.merge handheld parts).toJson.prettyText ++ "\n") ∧
    (Means ["extract", "-vo", "d/b", "-i", "a", "a", "--"] (.extract ["a", "a"] .standard (some "d/b") false) ∧
      ∃ parts, List.Forall₂ (HoldsCatalog shelf .standard) ["a", "a"] parts ∧
        (Command.run false shelf (.extract ["a", "a"] .standard (some "d/b") false)).tree.read "d/b" =
          .ok (Catalog.merge .standard parts).toJson.prettyText.toUTF8) := by
  have hlist : Request.ofWords ["list", "-i", "a", "a"] = .ok ⟨0, .list ["a", "a"] .standard⟩ := rfl
  have hcompact : Request.ofWords ["extract", "-i", "a", "a", "--compact", "--platform", "ios"] =
    .ok ⟨0, .extract ["a", "a"] handheld none true⟩ := rfl
  have hpretty : Request.ofWords ["-v", "extract", "--platform=ios", "-ia", "-i=a"] =
    .ok ⟨1, .extract ["a", "a"] handheld none false⟩ := rfl
  have hfile : Request.ofWords ["extract", "-vo", "d/b", "-i", "a", "a", "--"] =
    .ok ⟨1, .extract ["a", "a"] .standard (some "d/b") false⟩ := rfl
  refine ⟨⟨(run_of_ofWords hlist).1, ?_⟩, ⟨(run_of_ofWords hcompact).1, ?_⟩, ⟨(run_of_ofWords hpretty).1, ?_⟩,
    (run_of_ofWords hfile).1, ?_⟩
  · cases (run_of_ofWords hlist).2.2 false shelf with
    | list h =>
      obtain ⟨parts, hparts, hshows⟩ := h.all shelf_good
      exact ⟨parts, hparts, hshows.stdout⟩
  · cases (run_of_ofWords hcompact).2.2 false shelf with
    | extract h =>
      obtain ⟨parts, hparts, hextracts⟩ := h.all shelf_good
      exact ⟨parts, hparts, ((hextracts.compact rfl).stdout rfl).1⟩
  · cases (run_of_ofWords hpretty).2.2 false shelf with
    | extract h =>
      obtain ⟨parts, hparts, hextracts⟩ := h.all shelf_good
      exact ⟨parts, hparts, ((hextracts.pretty rfl).stdout rfl).1⟩
  · cases (run_of_ofWords hfile).2.2 false shelf with
    | extract h =>
      obtain ⟨parts, hparts, hextracts⟩ := h.all shelf_good
      exact ⟨parts, hparts, ((hextracts.pretty rfl).file "d/b" rfl writable_shelf).2.1⟩

/-- A class that is met twice has one line and one entry. -/
example : ((Command.list ["a", "a"] .standard).run false shelf).stdout =
    "A  0 properties, 0 instance methods, 0 class methods  \n" := by decide +kernel

example : ((Command.extract ["a", "a"] handheld none true).run false shelf).stdout =
    "\x7b\"platform\":\"ios\",\"interfaces\":[\x7b\"name\":\"A\",\"file\":\"\",\"protocols\":[],\"properties\":[]," ++
      "\"instanceMethods\":[],\"classMethods\":[],\"availability\":[],\"typeString\":\"A\"\x7d]\x7d\n" := by
  decide +kernel

end Example

end CommandLine

end HeaderCatalog
