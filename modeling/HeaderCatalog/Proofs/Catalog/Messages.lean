import HeaderCatalog.Catalog.Extract
import HeaderCatalog.Proofs.Catalog.Firsts

/-!
# How often a message is logged

The log of a class has an event for each member that was left out (`occurrences_skipped_memberLog`) and for each
superclass behind another one (`occurrences_superclass_memberLog`). Of the classes that are gone through, each stands
afterwards or has an event (`length_firstsLog`). Up to its order, the log of findings is the logs of the single ones,
followed by the events of going through the classes among them (`findingsLog_perm`).
-/

namespace HeaderCatalog

/-! ## Messages of a log -/

/-- How many events of a log have a message. -/
def occurrences (message : String) (log : List Event) : Nat := log.countP (·.message == message)

variable {message : String} {log log' : List Event}

@[simp] theorem occurrences_cons (e : Event) :
    occurrences message (e :: log) = (if e.message = message then 1 else 0) + occurrences message log := by
  simp only [occurrences, List.countP_cons, beq_iff_eq]
  exact Nat.add_comm _ _

@[simp] theorem occurrences_append :
    occurrences message (log ++ log') = occurrences message log + occurrences message log' :=
  List.countP_append

theorem occurrences_perm (h : log.Perm log') : occurrences message log = occurrences message log' :=
  h.countP_eq _

/-- A message that no event has does not occur. -/
theorem occurrences_eq_zero (h : ∀ e ∈ log, e.message ≠ message) : occurrences message log = 0 := by
  refine List.countP_eq_zero.mpr fun e he => ?_
  rw [beq_iff_eq]
  exact h e he

/-- A message that all events have occurs once for each. -/
theorem occurrences_eq_length (h : ∀ e ∈ log, e.message = message) : occurrences message log = log.length := by
  refine List.countP_eq_length.mpr fun e he => ?_
  rw [beq_iff_eq]
  exact h e he

/-! ## Members of a class -/

/-- Whether a member was left out by the gate. -/
def Member.isSkipped : Member → Bool
  | skipped .. => true
  | _ => false

/-- The events of one member, behind the superclass that was named last. -/
def Member.events (interface : String) (last? : Option ClassReference) : Member → List Event
  | superclass _ => (last?.map fun previous => Event.secondSuperclass interface previous.name).toList
  | skipped kind name reason => [.skipped kind name reason]
  | _ => []

section Members

variable {name : String} {last? : Option ClassReference} {m : Member} {members : List Member}

theorem memberLog_cons :
    memberLog name last? (m :: members) = m.events name last? ++ memberLog name (m.superclass?.or last?) members := by
  cases m with
  | superclass c => cases last? <;> rfl
  | _ => rfl

/-- Each member that was left out has an event. -/
theorem occurrences_skipped_memberLog :
    occurrences "skipping declaration" (memberLog name last? members) = members.countP Member.isSkipped := by
  induction members generalizing last? with
  | nil => cases last? <;> rfl
  | cons m members ih =>
    have hevents : occurrences "skipping declaration" (m.events name last?) = if m.isSkipped then 1 else 0 := by
      cases m with
      | superclass c => cases last? <;> rfl
      | _ => rfl
    rw [memberLog_cons, occurrences_append, hevents, ih, List.countP_cons, Nat.add_comm]

/-- Each superclass that comes behind another one has an event. -/
theorem occurrences_superclass_memberLog :
    occurrences "multiple superclass references" (memberLog name last? members) =
      members.countP (fun m => m.superclass?.isSome) - if last?.isNone then 1 else 0 := by
  induction members generalizing last? with
  | nil => cases last? <;> rfl
  | cons m members ih =>
    rw [memberLog_cons, occurrences_append, ih, List.countP_cons]
    cases m with
    | superclass c =>
      cases last? with
      | none => exact Nat.zero_add _
      | some previous => exact Nat.add_comm 1 _
    | _ => exact Nat.zero_add _

/-- No other events come from the members of a class. -/
theorem message_of_mem_memberLog {e : Event} (he : e ∈ memberLog name last? members) :
    e.message = "skipping declaration" ∨ e.message = "multiple superclass references" := by
  induction members generalizing last? with
  | nil => cases last? <;> cases he
  | cons m members ih =>
    rw [memberLog_cons] at he
    rcases List.mem_append.mp he with he | he
    · cases m with
      | superclass c =>
        obtain ⟨previous, -, rfl⟩ := Option.map_eq_some_iff.mp (Option.mem_toList.mp he)
        exact Or.inr rfl
      | skipped kind name reason =>
        rw [List.mem_singleton.mp he]
        exact Or.inl rfl
      | _ => cases he
    · exact ih he

end Members

/-! ## Passing classes over -/

namespace Interface

variable {kept is : List Interface} {i : Interface}

/-- A class that is met either stands afterwards or gives an event. -/
theorem length_duplicateEvents :
    (insertFirst kept i).length + (duplicateEvents kept i).length = kept.length + 1 := by
  unfold duplicateEvents
  cases hfind : kept.find? (·.name == i.name) with
  | some first =>
    have hname : HasName kept i.name :=
      ⟨first, List.mem_of_find?_eq_some hfind, by simpa using List.find?_some hfind⟩
    rw [insertFirst_of_hasName hname]
    rfl
  | none =>
    have hname : ¬HasName kept i.name := by
      rintro ⟨first, hfirst, hsame⟩
      exact absurd (beq_iff_eq.mpr hsame) (List.find?_eq_none.mp hfind first hfirst)
    rw [insertFirst_of_not_hasName hname, List.length_append]
    rfl

/-- Of the classes that are gone through, each stands afterwards or gives an event. -/
theorem length_firstsLog :
    (is.foldl insertFirst kept).length + (firstsLog kept is).length = kept.length + is.length := by
  induction is generalizing kept with
  | nil => rfl
  | cons i is ih =>
    have hone : (insertFirst kept i).length + (duplicateEvents kept i).length = kept.length + 1 :=
      length_duplicateEvents
    have hrest := @ih (insertFirst kept i)
    rw [List.foldl_cons, firstsLog, List.length_append, List.length_cons]
    omega

/-- Passing classes over is reported by one kind of event. -/
theorem message_of_mem_firstsLog {e : Event} (he : e ∈ firstsLog kept is) :
    e.message = "duplicate interface definition" := by
  induction is generalizing kept with
  | nil => cases he
  | cons i is ih =>
    rcases List.mem_append.mp he with he | he
    · unfold duplicateEvents at he
      split at he
      · rw [List.mem_singleton.mp he]
        rfl
      · cases he
    · exact ih he

theorem occurrences_firstsLog_of_ne (h : message ≠ "duplicate interface definition") :
    occurrences message (firstsLog kept is) = 0 :=
  occurrences_eq_zero fun _ he heq => h (heq ▸ message_of_mem_firstsLog he)

end Interface

/-! ## Findings -/

/-- The events of one finding by itself. -/
def Finding.events : Finding → List Event
  | forward name => [.forward name]
  | filtered kind name reason => [.skipped kind name reason]
  | interface _ log => log
  | unrelated => []
  | outside => []

/-- Up to its order, the log of findings is the logs of the single ones, and the events of going through the classes
among them. -/
theorem findingsLog_perm (kept : List Interface) (found : List Finding) :
    (findingsLog kept found).Perm
      (found.flatMap Finding.events ++ Interface.firstsLog kept (foundInterfaces found)) := by
  induction found generalizing kept with
  | nil => exact .nil
  | cons f found ih =>
    cases f with
    | unrelated => exact ih kept
    | outside => exact ih kept
    | forward name => exact (ih kept).cons _
    | filtered kind name reason => exact (ih kept).cons _
    | interface i log =>
      -- the event of passing the class over moves behind the events of the later findings
      have hrest := ih (Interface.insertFirst kept i)
      have hmove : (Interface.duplicateEvents kept i ++ findingsLog (Interface.insertFirst kept i) found).Perm
          (found.flatMap Finding.events ++ (Interface.duplicateEvents kept i ++
            Interface.firstsLog (Interface.insertFirst kept i) (foundInterfaces found))) :=
        (hrest.append_left _).trans (List.perm_append_comm_assoc ..)
      have hlog := hmove.append_left log
      rw [← List.append_assoc, ← List.append_assoc] at hlog
      exact hlog

end HeaderCatalog
