import HeaderCatalog.Proofs.Snapshot.Agreement
import HeaderCatalog.Proofs.Snapshot.Answers
import HeaderCatalog.Snapshot.Walk

/-!
# Walks end

In a sound snapshot a walk below any cursor comes to its end, whatever the visitor answers and remembers
(`Sound.exists_walk`): each level lies lower than the one above it, so the bound on the levels is never met.
-/

namespace HeaderCatalog.Snapshot

variable {s : Snapshot} {σ : Type} {visitor : σ → CursorId → Visit × σ}

/-- A list of children is walked alike where the cursors below them are. -/
theorem walkList_agree {below below' : CursorId → σ → Except Fault (Bool × σ)} {ids : List CursorId} :
    ∀ {state : σ}, (∀ id ∈ ids, ∀ state, Agree (below id state) (below' id state)) →
      Agree (walkList visitor below ids state) (walkList visitor below' ids state) := by
  induction ids with
  | nil => intro state _; exact Agree.ok (true, state)
  | cons id ids ih =>
    intro state h
    have hrest : ∀ state, Agree (walkList visitor below ids state) (walkList visitor below' ids state) := fun state =>
      ih fun id hid => h id (List.mem_cons_of_mem _ hid)
    unfold walkList
    obtain ⟨answer, next⟩ := visitor state id
    cases answer with
    | leave => exact Agree.ok (false, next)
    | next => exact hrest next
    | descend =>
      refine (h id List.mem_cons_self next).bind fun result => ?_
      obtain ⟨goesOn, state⟩ := result
      cases goesOn with
      | true => exact hrest state
      | false => exact Agree.ok (false, state)

/-- Below a cursor two bounds beyond its height make no difference. -/
theorem Sound.walkBelow_agree (h : s.Sound) :
    ∀ {depth depth' : Nat} {id : CursorId} {state : σ}, s.hasCursor id → s.childHeight id < depth →
      s.childHeight id < depth' →
        Agree (s.walkBelow visitor depth id state) (s.walkBelow visitor depth' id state) := by
  intro depth
  induction depth with
  | zero => intro _ _ _ _ hdepth; omega
  | succ depth ih =>
    intro depth' id state hid hdepth hdepth'
    cases depth' with
    | zero => omega
    | succ depth' =>
      obtain ⟨c, hc⟩ := exists_cursor hid
      unfold walkBelow
      rw [hc]
      refine walkList_agree fun child hchild state => ?_
      have hlt := h.childHeight_lt hc hchild
      exact ih ((h.cursorAnswers hc).child child hchild) (by omega) (by omega)

/-- Every walk ends, and more depth than there are cursors makes no difference. -/
theorem Sound.exists_walk (h : s.Sound) (visitor : σ → CursorId → Visit × σ) {start : CursorId}
    (hstart : s.hasCursor start) (state : σ) :
    ∃ result, s.walk visitor start state = .ok result.2 ∧
      ∀ depth, s.cursors.size < depth → s.walkBelow visitor depth start state = .ok result := by
  have hheight := h.childHeight_lt_size hstart
  have hagree : ∀ depth, s.cursors.size < depth →
      Agree (s.walkBelow visitor (s.cursors.size + 1) start state) (s.walkBelow visitor depth start state) :=
    fun depth hdepth => h.walkBelow_agree hstart (by omega) (by omega)
  obtain ⟨result, hresult, -⟩ := hagree (s.cursors.size + 1) (Nat.lt_succ_self _)
  refine ⟨result, ?_, fun depth hdepth => ?_⟩
  · unfold walk
    rw [hresult]
    rfl
  · rw [← (hagree depth hdepth).eq, hresult]

end HeaderCatalog.Snapshot
