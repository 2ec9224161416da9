import HeaderCatalog.Json.Schema
import HeaderCatalog.Proofs.Json.Reading

/-!
# Readers accept whole documents only

Reading goes through a tree from left to right and stops at the first problem, so a reader that gives a value has met no
break: neither in the values that it read nor in the members that it passed over (`NeedsWhole`). Every reader has this
property, that of a record if the readers of its fields have (`needsWhole_read`).
-/

namespace HeaderCatalog.Json

variable {α β σ : Type}

/-- A reader gives nothing of a tree that breaks off somewhere. -/
def NeedsWhole (r : Reader α) : Prop := ∀ n t a, r n t = .ok a → t.flaw? = none

/-! ## Values without parts -/

/-- The characters of a text are known only if the text is closed. -/
theorem Quoted.flaw?_eq_none_of_chars {flaw? : Option TextFlaw} {pieces : List Piece} {cs : List Char}
    (h : chars flaw? pieces = .ok cs) : flaw? = none := by
  fun_induction chars flaw? pieces generalizing cs with
  | case1 hnone => exact hnone
  | case2 | case5 | case6 | case8 | case9 => cases h
  | case3 _ _ ih | case4 _ _ _ ih | case7 _ _ _ _ _ _ ih =>
    obtain ⟨cs', hrest, -⟩ := exists_of_bind_eq_ok h
    exact ih hrest

theorem flaw?_text {q : Quoted} {s : String} (h : q.value = .ok s) : (Tree.text q).flaw? = none := by
  obtain ⟨cs, hchars, -⟩ := exists_of_bind_eq_ok h
  rw [Tree.flaw?, Quoted.flaw?_eq_none_of_chars hchars]
  rfl

theorem needsWhole_bool : NeedsWhole .bool := by
  intro n t a h
  unfold Reader.bool at h
  split at h
  · rfl
  · exact absurd h (mismatch_ne_ok _ _ a)

theorem needsWhole_text : NeedsWhole .text := by
  intro n t a h
  unfold Reader.text at h
  split at h
  · exact flaw?_text (eq_ok_of_located h)
  · exact absurd h (mismatch_ne_ok _ _ a)

theorem NeedsWhole.map {r : Reader α} (h : NeedsWhole r) (f : α → β) : NeedsWhole fun n t => (r n t).map f := by
  intro n t b hb
  obtain ⟨a, ha, -⟩ := exists_of_map_eq_ok hb
  exact h n t a ha

theorem needsWhole_refined (meaning : String → Except Cause α) : NeedsWhole (.refined meaning) := by
  intro n t a h
  obtain ⟨s, hs, -⟩ := exists_of_bind_eq_ok h
  exact needsWhole_text n t s hs

theorem needsWhole_integer (low high : Int) (wanted : String) : NeedsWhole (.integer low high wanted) := by
  intro n t a h
  unfold Reader.integer at h
  split at h
  · rfl
  · exact absurd h (mismatch_ne_ok _ _ a)

theorem needsWhole_uint32 : NeedsWhole .uint32 := (needsWhole_integer 0 4294967296 "u32").map _

theorem needsWhole_int32 : NeedsWhole .int32 := (needsWhole_integer (-2147483648) 2147483648 "i32").map _

theorem needsWhole_int64 : NeedsWhole .int64 :=
  (needsWhole_integer (-9223372036854775808) 9223372036854775808 "i64").map _

theorem NeedsWhole.option {r : Reader α} (h : NeedsWhole r) : NeedsWhole (.option r) := by
  intro n t value hvalue
  unfold Reader.option at hvalue
  split at hvalue
  · rfl
  · exact (h.map some) n t value hvalue

theorem needsWhole_unit : NeedsWhole .unit := by
  intro n t a h
  unfold Reader.unit at h
  split at h
  · rfl
  · exact absurd h (mismatch_ne_ok _ _ a)

theorem flaw?_of_variantEnd {given : Members} {u : Unit} (h : Reader.variantEnd given = .ok u) :
    given.flaw? = none := by
  unfold Reader.variantEnd at h
  split at h
  · rfl
  · cases h
  · cases h

theorem needsWhole_variant (meaning : String → Except Cause α) : NeedsWhole (.variant meaning) := by
  intro n t a h
  unfold Reader.variant at h
  split at h
  · obtain ⟨s, hs, -⟩ := exists_of_bind_eq_ok (eq_ok_of_located h)
    exact flaw?_text hs
  · cases h
  · rename_i key value rest
    obtain ⟨name, hkey, h⟩ := exists_of_bind_eq_ok h
    obtain ⟨_, -, h⟩ := exists_of_bind_eq_ok h
    obtain ⟨_, hvalue, h⟩ := exists_of_bind_eq_ok h
    obtain ⟨_, hend, -⟩ := exists_of_bind_eq_ok h
    have hkey' := flaw?_text (eq_ok_of_located hkey)
    rw [Tree.flaw?] at hkey'
    rw [Tree.flaw?, Members.flaw?, hkey', needsWhole_unit _ value _ (eq_ok_of_under hvalue), flaw?_of_variantEnd hend]
    rfl
  · obtain ⟨_, -, h⟩ := exists_of_bind_eq_ok h
    cases h
  · exact absurd h (mismatch_ne_ok _ _ a)
  all_goals cases h

/-! ## Values with parts -/

theorem flaw?_of_items {read : Tree → Except Problem α} (h : ∀ t a, read t = .ok a → t.flaw? = none) :
    ∀ (given : Items) (i : Nat) (l : List α), Reader.items read i given = .ok l → given.flaw? = none
  | .close, _, _, _ => rfl
  | .stop _, _, _, hl => by cases hl
  | .item value rest, i, l, hl => by
    rw [Reader.items] at hl
    obtain ⟨b, hread, hl⟩ := exists_of_bind_eq_ok hl
    obtain ⟨bs, hrest, -⟩ := exists_of_bind_eq_ok hl
    rw [Items.flaw?, h value b (eq_ok_of_under hread), flaw?_of_items h rest (i + 1) bs hrest]
    rfl

theorem NeedsWhole.list {r : Reader α} (h : NeedsWhole r) : NeedsWhole (.list r) := by
  intro n t l hl
  unfold Reader.list at hl
  split at hl
  · cases hl
  · exact flaw?_of_items (h _) _ 0 l hl
  · exact absurd hl (mismatch_ne_ok _ _ l)

/-! ## Records -/

/-- What is passed over is asked for breaks, what is read has none. -/
theorem flaw?_of_members {fields : List (Field σ)} (hfields : ∀ field ∈ fields, NeedsWhole field.read) {n : Nat} :
    ∀ (given : Members) (seen : List String) (draft : σ) (result : List String × σ),
      Schema.members fields n given seen draft = .ok result → given.flaw? = none
  | .close, _, _, _, _ => rfl
  | .stop _, _, _, _, h => by cases h
  | .noKey _, _, _, _, h => by cases h
  | .keyOnly key atEnd, seen, _, _, h => by
    rw [Schema.members] at h
    obtain ⟨name, -, h⟩ := exists_of_bind_eq_ok h
    split at h <;> cases h
  | .member key value rest, seen, draft, result, h => by
    rw [Schema.members] at h
    obtain ⟨name, hname, h⟩ := exists_of_bind_eq_ok h
    have hkey := flaw?_text (eq_ok_of_located (eq_ok_of_under hname))
    rw [Tree.flaw?] at hkey
    rw [Members.flaw?, hkey]
    split at h
    · split at h
      · cases h
      · rename_i hvalue
        rw [hvalue, flaw?_of_members hfields rest seen draft result h]
        rfl
    · rename_i field hfield
      split at h
      · cases h
      · obtain ⟨set, hread, h⟩ := exists_of_bind_eq_ok h
        have hvalue := hfields field (List.mem_of_find?_eq_some hfield) n value set (eq_ok_of_under hread)
        rw [hvalue, flaw?_of_members hfields rest (name :: seen) (set draft) result h]
        rfl

theorem flaw?_of_rowEnd {given : Items} {u : Unit} (h : Schema.rowEnd given = .ok u) : given.flaw? = none := by
  unfold Schema.rowEnd at h
  split at h
  · rfl
  all_goals cases h

theorem flaw?_of_row (label : String) (total n : Nat) {fields : List (Field σ)}
    (hfields : ∀ field ∈ fields, NeedsWhole field.read) (i : Nat) (given : Items) (draft result : σ)
    (h : Schema.row label total n i fields given draft = .ok result) : given.flaw? = none := by
  induction fields generalizing i given draft with
  | nil =>
    rw [Schema.row] at h
    obtain ⟨_, hend, -⟩ := exists_of_bind_eq_ok h
    exact flaw?_of_rowEnd hend
  | cons field fields ih =>
    cases given with
    | close => rfl
    | stop flaw => cases h
    | item value rest =>
      rw [Schema.row] at h
      obtain ⟨set, hread, h⟩ := exists_of_bind_eq_ok h
      have hvalue := hfields field List.mem_cons_self n value set (eq_ok_of_under hread)
      have hrest := ih (fun f hf => hfields f (List.mem_cons_of_mem _ hf)) (i + 1) rest (set draft) h
      rw [Items.flaw?, hvalue, hrest]
      rfl

/-- A record is read from a whole tree if its fields are. -/
theorem needsWhole_read {schema : Schema σ} (hfields : ∀ field ∈ schema.fields, NeedsWhole field.read) :
    NeedsWhole schema.read := by
  intro n t a h
  unfold Schema.read at h
  split at h
  · cases h
  · cases h
  · obtain ⟨result, hmembers, -⟩ := exists_of_bind_eq_ok h
    exact flaw?_of_members hfields _ [] schema.blank result hmembers
  · exact flaw?_of_row schema.label schema.fields.length _ hfields 0 _ schema.blank a h
  · exact absurd h (mismatch_ne_ok _ _ a)

end HeaderCatalog.Json
