import HeaderCatalog.Json.Reader
import HeaderCatalog.Proofs.Json.Document
import HeaderCatalog.Proofs.Result

/-!
# Reading back what was written

`Reads r j a` says what a reader `r` makes of a document `j` that stands for `a`: it gives `a` where the nesting
allowance covers the depth of the document, and refuses the document as too deep where it does not. The readers of
single values and of arrays have this property of what is written for their values. `Yields r P` is the other side:
all that a reader ever gives, whatever it reads, has a property.
-/

namespace HeaderCatalog.Json

variable {α β : Type} {n : Nat}

/-! ## What a result comes from -/

theorem eq_ok_of_under {step : Step} {x : Except Problem α} {a : α} (h : under step x = .ok a) : x = .ok a := by
  cases x with
  | error p => cases h
  | ok b => exact h

theorem eq_ok_of_located {x : Except Cause α} {a : α} (h : located x = .ok a) : x = .ok a := by
  cases x with
  | error cause => cases h
  | ok b => exact congrArg Except.ok (Except.ok.inj h)

/-! ## Answers -/

/-- What comes of reading a document of a certain depth, at an allowance that may be smaller. -/
structure Answer (n depth : Nat) (result : Except Problem α) (a : α) : Prop where
  ok : depth ≤ n → result = .ok a
  tooDeep : n < depth → ∃ path, result = .error ⟨path, .tooDeep⟩

namespace Answer

variable {depth depth' : Nat} {result : Except Problem α} {a : α} {b : β}

theorem of_ok (h : result = .ok a) : Answer n 0 result a :=
  ⟨fun _ => h, fun hn => absurd hn (Nat.not_lt_zero n)⟩

theorem under (step : Step) (h : Answer n depth result a) : Answer n depth (under step result) a := by
  refine ⟨fun hn => ?_, fun hn => ?_⟩
  · rw [h.ok hn]
    rfl
  · obtain ⟨path, hpath⟩ := h.tooDeep hn
    exact ⟨step :: path, by rw [hpath]; rfl⟩

/-- Of two documents read one after the other, the deeper one decides. -/
theorem bind {next : α → Except Problem β} (h : Answer n depth result a) (hnext : Answer n depth' (next a) b) :
    Answer n (max depth depth') (result >>= next) b := by
  refine ⟨fun hn => ?_, fun hn => ?_⟩
  · rw [h.ok (le_trans (le_max_left ..) hn)]
    exact hnext.ok (le_trans (le_max_right ..) hn)
  · by_cases hfirst : n < depth
    · obtain ⟨path, hpath⟩ := h.tooDeep hfirst
      exact ⟨path, by rw [hpath]; rfl⟩
    · rw [h.ok (Nat.not_lt.mp hfirst)]
      exact hnext.tooDeep ((lt_max_iff.mp hn).resolve_left hfirst)

theorem map (f : α → β) (h : Answer n depth result a) : Answer n depth (result.map f) (f a) := by
  refine ⟨fun hn => ?_, fun hn => ?_⟩
  · rw [h.ok hn]
    rfl
  · obtain ⟨path, hpath⟩ := h.tooDeep hn
    exact ⟨path, by rw [hpath]; rfl⟩

end Answer

/-- What a reader makes of a document that stands for `a`. -/
def Reads (r : Reader α) (j : Json) (a : α) : Prop := ∀ n, Answer n j.depth (r n j.tree) a

/-- A document that stands for a value is read as that value and no other, where its depth is allowed. -/
theorem Reads.eq_ok_iff {r : Reader α} {j : Json} {a b : α} (h : Reads r j a) :
    r n j.tree = .ok b ↔ j.depth ≤ n ∧ a = b := by
  constructor
  · intro hread
    have hn : j.depth ≤ n := by
      by_contra hdeep
      obtain ⟨path, hpath⟩ := (h n).tooDeep (Nat.lt_of_not_le hdeep)
      rw [hread] at hpath
      cases hpath
    exact ⟨hn, eq_of_eq_ok ((h n).ok hn) hread⟩
  · rintro ⟨hn, rfl⟩
    exact (h n).ok hn

theorem Reads.map {r : Reader α} {j : Json} {a : α} (f : α → β) (h : Reads r j a) :
    Reads (fun n t => (r n t).map f) j (f a) := fun n => (h n).map f

/-! ## Values without parts -/

theorem reads_bool (value : Bool) : Reads .bool (.bool value) value := fun _ => .of_ok rfl

theorem reads_text (value : String) : Reads .text (.string value) value := by
  intro n
  refine .of_ok ?_
  rw [tree, Reader.text, Quoted.value_ofString, located]

theorem reads_refined {meaning : String → Except Cause α} {value : String} {a : α} (h : meaning value = .ok a) :
    Reads (.refined meaning) (.string value) a := by
  intro n
  refine .of_ok ?_
  rw [Reader.refined, (reads_text value n).ok (Nat.zero_le n)]
  exact congrArg located h

theorem reads_variant {meaning : String → Except Cause α} {value : String} {a : α} (h : meaning value = .ok a) :
    Reads (.variant meaning) (.string value) a := by
  intro n
  refine .of_ok ?_
  rw [tree, Reader.variant, Quoted.value_ofString]
  exact congrArg located h

/-- An integer within bounds that a word holds is read back. -/
theorem reads_integer (low high : Int) (wanted : String) {value : Int} (hlow : -9223372036854775808 ≤ low)
    (hhigh : high ≤ 18446744073709551616) (h : low ≤ value ∧ value < high) :
    Reads (.integer low high wanted) (.int value) value := by
  intro n
  refine .of_ok ?_
  rw [int, tree, Reader.integer, Numeral.number?_ofInt (le_trans hlow h.1) (lt_of_lt_of_le h.2 hhigh)]
  exact if_pos h

theorem reads_uint32 (value : UInt32) : Reads .uint32 (.nat value.toNat) value := by
  have hvalue := value.toNat_lt
  have hread := (reads_integer 0 4294967296 "u32" (by decide) (by decide)
    ⟨Int.natCast_nonneg value.toNat, by omega⟩).map fun k => UInt32.ofNat k.toNat
  rwa [Int.toNat_natCast, UInt32.ofNat_toNat] at hread

theorem reads_uint64 (value : UInt64) : Reads .uint64 (.nat value.toNat) value := by
  have hvalue := value.toNat_lt
  have hread := (reads_integer 0 18446744073709551616 "u64" (by decide) (by decide)
    ⟨Int.natCast_nonneg value.toNat, by omega⟩).map fun k => UInt64.ofNat k.toNat
  rwa [Int.toNat_natCast, UInt64.ofNat_toNat] at hread

theorem reads_int32 (value : Int32) : Reads .int32 (.int value.toInt) value := by
  have hread := (reads_integer (-2147483648) 2147483648 "i32" (by decide) (by decide)
    ⟨value.le_toInt, value.toInt_lt⟩).map Int32.ofInt
  rwa [Int32.ofInt_toInt] at hread

theorem reads_int64 (value : Int64) : Reads .int64 (.int value.toInt) value := by
  have hread := (reads_integer (-9223372036854775808) 9223372036854775808 "i64" (by decide) (by decide)
    ⟨value.le_toInt, value.toInt_lt⟩).map Int64.ofInt
  rwa [Int64.ofInt_toInt] at hread

/-! ## Values with parts -/

/-- What is not `null` is read as a value that is present. -/
theorem option_eq_map {r : Reader α} {j : Json} (hj : j ≠ .null) (n : Nat) :
    Reader.option r n j.tree = (r n j.tree).map some := by
  cases j with
  | null => exact absurd rfl hj
  | _ => rfl

/-- A value that is absent may be written as `null`. -/
theorem reads_null (r : Reader α) : Reads (.option r) .null none := fun _ => .of_ok rfl

/-- A value that is present and not written as `null` is read as such. -/
theorem Reads.option {r : Reader α} {j : Json} {a : α} (h : Reads r j a) (hj : j ≠ .null) :
    Reads (.option r) j (some a) := by
  intro n
  rw [option_eq_map hj]
  exact (h n).map some

/-- Items are read one after the other. -/
theorem answer_items {r : Reader α} {write : α → Json} {l : List α} (h : ∀ a ∈ l, Reads r (write a) a) (i : Nat) :
    Answer n (depthItems (l.map write)) (Reader.items (r n) i (treeItems (l.map write))) l := by
  induction l generalizing i with
  | nil => exact .of_ok rfl
  | cons a l ih =>
    have hhead := (h a List.mem_cons_self n).under (.index i)
    have htail := ih (fun b hb => h b (List.mem_cons_of_mem _ hb)) (i + 1)
    exact hhead.bind (htail.map (a :: ·))

/-- An array of what is written for its items is read item by item. -/
theorem reads_list {r : Reader α} {write : α → Json} {l : List α} (h : ∀ a ∈ l, Reads r (write a) a) :
    Reads (.list r) (.array (l.map write)) l := by
  intro n
  rw [depth, tree]
  cases n with
  | zero => exact ⟨fun hn => absurd hn (Nat.not_succ_le_zero _), fun _ => ⟨[], rfl⟩⟩
  | succ n =>
    have hitems := answer_items (n := n) h 0
    exact ⟨fun hn => hitems.ok (Nat.le_of_succ_le_succ hn), fun hn => hitems.tooDeep (Nat.lt_of_succ_lt_succ hn)⟩

/-! ## What readers give -/

/-- All that a reader gives has a property. -/
def Yields (r : Reader α) (P : α → Prop) : Prop := ∀ n t a, r n t = .ok a → P a

variable {r : Reader α} {P : α → Prop}

/-- A value of another kind is never accepted. -/
theorem mismatch_ne_ok (wanted : String) (t : Tree) (a : α) : mismatch wanted t ≠ .ok a := by
  intro h
  unfold mismatch at h
  split at h
  case h_3 | h_4 => split at h <;> cases h
  all_goals cases h

theorem Yields.option (h : Yields r P) : Yields (.option r) fun value => ∀ a ∈ value, P a := by
  intro n t value hvalue a ha
  unfold Reader.option at hvalue
  split at hvalue
  · cases hvalue
    cases ha
  · obtain ⟨b, hread, rfl⟩ := exists_of_map_eq_ok hvalue
    cases ha
    exact h n t a hread

theorem forall_mem_of_items {read : Tree → Except Problem α} (h : ∀ t a, read t = .ok a → P a) :
    ∀ (given : Items) (i : Nat) (l : List α), Reader.items read i given = .ok l → ∀ a ∈ l, P a
  | .close, i, l, hl, a, ha => by
    cases hl
    cases ha
  | .stop flaw, i, l, hl, a, ha => by cases hl
  | .item value rest, i, l, hl, a, ha => by
    rw [Reader.items] at hl
    obtain ⟨b, hread, hl⟩ := exists_of_bind_eq_ok hl
    obtain ⟨bs, hrest, hl⟩ := exists_of_bind_eq_ok hl
    cases hl
    rcases List.mem_cons.mp ha with rfl | ha
    · exact h value a (eq_ok_of_under hread)
    · exact forall_mem_of_items h rest (i + 1) bs hrest a ha

theorem Yields.list (h : Yields r P) : Yields (.list r) fun l => ∀ a ∈ l, P a := by
  intro n t l hl
  unfold Reader.list at hl
  split at hl
  · cases hl
  · exact forall_mem_of_items (h _) _ 0 l hl
  · exact absurd hl (mismatch_ne_ok "a sequence" _ l)

/-- A text with a meaning of its own gives what has been meant by some text. -/
theorem Yields.refined {meaning : String → Except Cause α} (h : ∀ s a, meaning s = .ok a → P a) :
    Yields (.refined meaning) P := by
  intro n t a ha
  obtain ⟨s, -, hmeaning⟩ := exists_of_bind_eq_ok ha
  exact h s a (eq_ok_of_located hmeaning)

end HeaderCatalog.Json
