import HeaderCatalog.Proofs.Snapshot.Walk

/-!
# A walk is a list of cursors to be shown

A walk is under way (`Worklist`) with a list of cursors that are still to be shown. A step (`Worklist.Step`) shows the
first one: the visitor ends the walk, goes on with the rest of the list, or puts the cursor's children in front of it.
What a walk does to the state of a visitor, and what it shows to one that keeps a record (`recorded`), is what a run of
such steps does and shows (`steps_of_walkBelow`, `map_walkBelow_recorded`). Steps leave no choice (`Step.unique`), so
there is no other run (`steps_of_steps`).
-/

namespace HeaderCatalog.Snapshot

open Relation

/-! ## Steps -/

/-- A cursor that was shown, and what the visitor answered. -/
structure Shown where
  cursor : CursorId
  answer : Visit
deriving DecidableEq, Repr

/-- A walk that is under way: what is to be shown, what was shown, and the visitor's state. -/
structure Worklist (σ : Type) where
  todo : List CursorId
  shown : List Shown
  state : σ

variable {s : Snapshot} {σ : Type} {visitor : σ → CursorId → Visit × σ}

/-- The first cursor of the list is shown. -/
inductive Worklist.Step (s : Snapshot) (visitor : σ → CursorId → Visit × σ) : Worklist σ → Worklist σ → Prop
  | leave {id : CursorId} {todo : List CursorId} {shown : List Shown} {state state' : σ} :
      visitor state id = (.leave, state') →
      Step s visitor ⟨id :: todo, shown, state⟩ ⟨[], shown ++ [⟨id, .leave⟩], state'⟩
  | next {id : CursorId} {todo : List CursorId} {shown : List Shown} {state state' : σ} :
      visitor state id = (.next, state') →
      Step s visitor ⟨id :: todo, shown, state⟩ ⟨todo, shown ++ [⟨id, .next⟩], state'⟩
  | descend {id : CursorId} {c : CursorNode} {todo : List CursorId} {shown : List Shown} {state state' : σ} :
      visitor state id = (.descend, state') → s.cursor id = .ok c →
      Step s visitor ⟨id :: todo, shown, state⟩ ⟨c.children ++ todo, shown ++ [⟨id, .descend⟩], state'⟩

/-- The steps of a run. -/
abbrev Worklist.Steps (s : Snapshot) (visitor : σ → CursorId → Visit × σ) : Worklist σ → Worklist σ → Prop :=
  ReflTransGen (Worklist.Step s visitor)

open Worklist (Step Steps)

/-- What the visitor answers leaves one step. -/
theorem Worklist.Step.unique {w w₁ w₂ : Worklist σ} (h₁ : Step s visitor w w₁) (h₂ : Step s visitor w w₂) :
    w₁ = w₂ := by
  cases h₁ with
  | leave h₁ => cases h₂ <;> simp_all
  | next h₁ => cases h₂ <;> simp_all
  | descend h₁ hc₁ => cases h₂ <;> simp_all

/-- There is no step from an empty list. -/
theorem eq_of_steps_nil {shown : List Shown} {state : σ} {w : Worklist σ} (h : Steps s visitor ⟨[], shown, state⟩ w) :
    w = ⟨[], shown, state⟩ := by
  rcases ReflTransGen.cases_head h with heq | ⟨_, hstep, -⟩
  · exact heq.symm
  · cases hstep

/-- A run that comes to an empty list goes on from wherever a run of the same walk comes to. -/
theorem steps_of_steps {w w' : Worklist σ} {shown : List Shown} {state : σ} (h : Steps s visitor w ⟨[], shown, state⟩)
    (h' : Steps s visitor w w') : Steps s visitor w' ⟨[], shown, state⟩ := by
  have hunique : Relator.RightUnique (Step s visitor) := fun _ _ _ => Step.unique
  rcases ReflTransGen.total_of_right_unique hunique h' h with hsteps | hsteps
  · exact hsteps
  · exact eq_of_steps_nil hsteps ▸ .refl

/-- A visitor that always goes on is shown the list as it is. -/
theorem steps_of_next (hnext : ∀ state id, (visitor state id).1 = .next) (ids : List CursorId) :
    ∀ (shown : List Shown) (state : σ), Steps s visitor ⟨ids, shown, state⟩
      ⟨[], shown ++ ids.map (⟨·, .next⟩), ids.foldl (fun state id => (visitor state id).2) state⟩ := by
  induction ids with
  | nil => intro shown state; simpa using .refl
  | cons id ids ih =>
    intro shown state
    have hstep : Step s visitor ⟨id :: ids, shown, state⟩ ⟨ids, shown ++ [⟨id, .next⟩], (visitor state id).2⟩ :=
      .next (Prod.ext (hnext state id) rfl)
    simpa using ReflTransGen.head hstep (ih _ _)

/-! ## A visitor with a record -/

/-- The visitor, with a record of what it is shown and answers. -/
def recorded (visitor : σ → CursorId → Visit × σ) (record : List Shown × σ) (id : CursorId) :
    Visit × (List Shown × σ) :=
  let (answer, state) := visitor record.2 id
  (answer, (record.1 ++ [⟨id, answer⟩], state))

/-- A list of children is walked in steps, if what is below each of them is. -/
theorem steps_of_walkList {below : CursorId → List Shown × σ → Except Fault (Bool × (List Shown × σ))}
    (hbelow : ∀ id shown state goesOn record, below id (shown, state) = .ok (goesOn, record) →
      ∃ c, s.cursor id = .ok c ∧ ∀ todo, Steps s visitor ⟨c.children ++ todo, shown, state⟩
        ⟨if goesOn then todo else [], record.1, record.2⟩)
    {ids : List CursorId} {shown : List Shown} {state : σ} {goesOn : Bool} {record : List Shown × σ}
    (h : walkList (recorded visitor) below ids (shown, state) = .ok (goesOn, record)) (todo : List CursorId) :
    Steps s visitor ⟨ids ++ todo, shown, state⟩ ⟨if goesOn then todo else [], record.1, record.2⟩ := by
  induction ids generalizing shown state with
  | nil =>
    cases h
    exact .refl
  | cons id ids ih =>
    rw [walkList, recorded] at h
    cases hanswer : visitor state id with
    | mk answer next =>
      simp only [hanswer] at h
      cases answer with
      | leave =>
        cases h
        exact .single (.leave hanswer)
      | next => exact .head (.next hanswer) (ih h)
      | descend =>
        obtain ⟨⟨onward, record'⟩, hrecord', h⟩ := exists_of_bind_eq_ok h
        obtain ⟨c, hc, hsteps⟩ := hbelow id _ _ _ _ hrecord'
        -- below the cursor the rest of its list waits, together with what waits behind the list
        have hdown := ReflTransGen.head (.descend hanswer hc) (hsteps (ids ++ todo))
        cases onward with
        | true => exact hdown.trans (ih h)
        | false =>
          cases h
          exact hdown

/-- A walk below a cursor shows its children in steps, and then goes on or not. -/
theorem steps_of_walkBelow {depth : Nat} : ∀ {id : CursorId} {shown : List Shown} {state : σ} {goesOn : Bool}
    {record : List Shown × σ}, s.walkBelow (recorded visitor) depth id (shown, state) = .ok (goesOn, record) →
      ∃ c, s.cursor id = .ok c ∧ ∀ todo, Steps s visitor ⟨c.children ++ todo, shown, state⟩
        ⟨if goesOn then todo else [], record.1, record.2⟩ := by
  induction depth with
  | zero => intro _ _ _ _ _ h; cases h
  | succ depth ih =>
    intro id shown state goesOn record h
    obtain ⟨c, hc, h⟩ := exists_of_bind_eq_ok h
    exact ⟨c, hc, steps_of_walkList (fun _ _ _ _ _ => ih) h⟩

/-! ## The visitor itself -/

/-- A walk that a record is kept of, without the record. -/
def unrecorded (result : Bool × (List Shown × σ)) : Bool × σ := (result.1, result.2.2)

/-- A list of children is walked alike with a record and without, if what is below each of them is. -/
theorem map_walkList_recorded {below : CursorId → σ → Except Fault (Bool × σ)}
    {below' : CursorId → List Shown × σ → Except Fault (Bool × (List Shown × σ))}
    (hbelow : ∀ id record, (below' id record).map unrecorded = below id record.2) (ids : List CursorId) :
    ∀ record, (walkList (recorded visitor) below' ids record).map unrecorded =
      walkList visitor below ids record.2 := by
  induction ids with
  | nil => exact fun _ => rfl
  | cons id ids ih =>
    intro record
    rw [walkList, walkList, recorded]
    cases hanswer : visitor record.2 id with
    | mk answer next =>
      cases answer with
      | leave => rfl
      | next => exact ih _
      | descend =>
        dsimp only
        rw [← hbelow id (record.1 ++ [⟨id, .descend⟩], next)]
        cases below' id (record.1 ++ [⟨id, .descend⟩], next) with
        | error fault => rfl
        | ok result =>
          obtain ⟨goesOn, record'⟩ := result
          cases goesOn with
          | true => exact ih record'
          | false => rfl

/-- A walk below a cursor is the same with a record and without. -/
theorem map_walkBelow_recorded (depth : Nat) :
    ∀ (id : CursorId) (record : List Shown × σ), (s.walkBelow (recorded visitor) depth id record).map unrecorded =
      s.walkBelow visitor depth id record.2 := by
  induction depth with
  | zero => exact fun _ _ => rfl
  | succ depth ih =>
    intro id record
    rw [walkBelow, walkBelow]
    cases s.cursor id with
    | error fault => rfl
    | ok c => exact map_walkList_recorded ih c.children record

/-- In a sound snapshot the steps from the children of a cursor come to an empty list, with the state that the walk
ends in and all that it showed. -/
theorem Sound.exists_steps (h : s.Sound) (visitor : σ → CursorId → Visit × σ) {start : CursorId} {c : CursorNode}
    (hc : s.cursor start = .ok c) (state : σ) :
    ∃ shown final, s.walk visitor start state = .ok final ∧
      s.walk (recorded visitor) start ([], state) = .ok (shown, final) ∧
      Steps s visitor ⟨c.children, [], state⟩ ⟨[], shown, final⟩ := by
  obtain ⟨⟨goesOn, shown, final⟩, hrecorded, hdepth⟩ :=
    h.exists_walk (recorded visitor) (hasCursor_of_cursor hc) ([], state)
  have hbelow := hdepth _ (Nat.lt_succ_self _)
  have hplain : (s.walkBelow (recorded visitor) (s.cursors.size + 1) start ([], state)).map unrecorded =
      s.walkBelow visitor (s.cursors.size + 1) start state := map_walkBelow_recorded _ _ _
  obtain ⟨c', hc', hsteps⟩ := steps_of_walkBelow hbelow
  obtain rfl : c = c' := Except.ok.inj (hc.symm.trans hc')
  refine ⟨shown, final, ?_, hrecorded, by simpa using hsteps []⟩
  rw [walk, ← hplain, hbelow]
  rfl

/-- A visitor that always goes on is shown the children. -/
theorem Sound.walk_of_next (h : s.Sound) (hnext : ∀ state id, (visitor state id).1 = .next) {start : CursorId}
    {c : CursorNode} (hc : s.cursor start = .ok c) (state : σ) :
    s.walk visitor start state = .ok (c.children.foldl (fun state id => (visitor state id).2) state) ∧
      s.walk (recorded visitor) start ([], state) =
        .ok (c.children.map (⟨·, .next⟩), c.children.foldl (fun state id => (visitor state id).2) state) := by
  obtain ⟨shown, final, hwalk, hrecorded, hsteps⟩ := h.exists_steps visitor hc state
  have hend := eq_of_steps_nil (steps_of_steps (steps_of_next hnext c.children [] state) hsteps)
  obtain ⟨-, rfl, rfl⟩ := Worklist.mk.inj hend
  exact ⟨hwalk, hrecorded⟩

end HeaderCatalog.Snapshot
