import HeaderCatalog.Proofs.Json.Allowance
import HeaderCatalog.Proofs.Snapshot.RoundTrip
import HeaderCatalog.TypeInfo.Document

/-!
# Types are read back

The number of levels that a type's reader may still go down never runs out before the nesting allowance does, as every
level takes one or two of it; so the reader of types is that of the schema whose types within are read by the same
reader (`read_eq`). By this equation, whatever types lie in one another, what is written is read back as it was, as
far as the allowance goes, and refused as too deep beyond (`reads_toJson`).
-/

namespace HeaderCatalog.TypeInfo

open Json

/-! ## The levels do not matter -/

section Levels

variable {type type' : Reader TypeInfo} {n : Nat}

theorem blockSchema_read_congr (h : ∀ m < n, type m = type' m) :
    (blockSchema type).read n = (blockSchema type').read n := by
  refine Schema.read_congr rfl rfl fun m hm => ?_
  have hlist : Reader.list type m = Reader.list type' m := Reader.list_congr fun k hk => h k (hk.trans hm)
  simp only [blockSchema, List.map_cons, Field.atAllowance_optional (h m hm), Field.atAllowance_required hlist]

/-- What types there are at an allowance depends on the types within at smaller ones. -/
theorem schema_read_congr (h : ∀ m < n, type m = type' m) : (schema type).read n = (schema type').read n := by
  refine Schema.read_congr rfl rfl fun m hm => ?_
  have hblock : (blockSchema type).read m = (blockSchema type').read m :=
    blockSchema_read_congr fun k hk => h k (hk.trans hm)
  simp only [schema, List.map_cons, Field.atAllowance_optional (h m hm), Field.atAllowance_optional hblock]

end Levels

/-- More levels than the allowance make no difference. -/
theorem readLevels_eq {n levels : Nat} (h : n < levels) : readLevels levels n = read n := by
  induction n using Nat.strong_induction_on generalizing levels with
  | _ n ih =>
    obtain ⟨levels, rfl⟩ : ∃ l, levels = l + 1 := ⟨levels - 1, by omega⟩
    show (schema (readLevels levels)).read n = (schema (readLevels n)).read n
    exact schema_read_congr fun m hm => (ih m hm (by omega)).trans (ih m hm hm).symm

/-- The reader of types is what the schema makes of itself. -/
theorem read_eq : read = (schema read).read := by
  funext n
  exact schema_read_congr fun m hm => readLevels_eq hm

/-! ## Reading back -/

theorem toJson?_eq_map (t? : Option TypeInfo) : toJson? t? = t?.map toJson := by
  cases t? <;> rfl

theorem blockToJson?_eq_map (block? : Option (BlockSignature TypeInfo)) :
    blockToJson? block? = block?.map blockToJson := by
  cases block? <;> rfl

theorem listToJson_eq_map (ts : List TypeInfo) : listToJson ts = ts.map toJson := by
  induction ts with
  | nil => rfl
  | cons t ts ih => rw [listToJson, List.map_cons, ih]

/-- A size that may be unknown. -/
theorem part_size (n : UInt64) : Reads .uint64 (.nat n.toNat) n ∧ Json.nat n.toNat ≠ .null := ⟨reads_uint64 n, nofun⟩

theorem toJson_ne_null (t : TypeInfo) : t.toJson ≠ .null := by
  cases t
  nofun

theorem blockToJson_ne_null (block : BlockSignature TypeInfo) : blockToJson block ≠ .null := by
  cases block
  nofun

-- The recursion is that of the written form: over a type, the types and the signature that it may have, and the types
-- that a signature lists.

mutual

/-- A type is read back, with all types within it. -/
theorem reads_toJson : ∀ t : TypeInfo, Reads read t.toJson t
  | ⟨name, file?, kind, nullability, canonical, canonicalKind, size?, alignment?, element?, pointee?, arraySize?,
      block?⟩ => by
    rw [read_eq, toJson, toJson?_eq_map, toJson?_eq_map, blockToJson?_eq_map]
    refine reads_of_fills (by decide) ?_
    refine .required (reads_text _) ?_
    refine .optionalText rfl ?_
    refine .required (reads_text _) ?_
    refine .required nullability.reads_toJson ?_
    refine .required (reads_text _) ?_
    refine .required (reads_text _) ?_
    refine .optional (fun n _ => part_size n) rfl ?_
    refine .optional (fun n _ => part_size n) rfl ?_
    refine .optional (reads_toJson? element?) rfl ?_
    refine .optional (reads_toJson? pointee?) rfl ?_
    refine .optional (fun n _ => part_size n) rfl ?_
    refine .optional (reads_blockToJson? block?) rfl ?_
    exact .done

theorem reads_toJson? : ∀ (t? : Option TypeInfo), ∀ t ∈ t?, Reads read t.toJson t ∧ t.toJson ≠ .null
  | none, _, h => nomatch h
  | some t, _, rfl => ⟨reads_toJson t, toJson_ne_null t⟩

theorem reads_blockToJson? : ∀ (block? : Option (BlockSignature TypeInfo)), ∀ block ∈ block?,
    Reads (blockSchema read).read (blockToJson block) block ∧ blockToJson block ≠ .null
  | none, _, h => nomatch h
  | some block, _, rfl => ⟨reads_blockToJson block, blockToJson_ne_null block⟩

/-- The signature of a block is read back. -/
theorem reads_blockToJson : ∀ block : BlockSignature TypeInfo,
    Reads (blockSchema read).read (blockToJson block) block
  | ⟨returnType?, parameters⟩ => by
    rw [blockToJson, toJson?_eq_map, listToJson_eq_map]
    refine reads_of_fills (by decide) ?_
    refine .optional (reads_toJson? returnType?) rfl ?_
    refine .required (reads_list (reads_listToJson parameters)) ?_
    exact .done

theorem reads_listToJson : ∀ (ts : List TypeInfo), ∀ t ∈ ts, Reads read t.toJson t
  | [], _, h => nomatch h
  | t :: ts, u, h => by
    rcases List.mem_cons.mp h with heq | h
    · exact heq ▸ reads_toJson t
    · exact reads_listToJson ts u h

end

end HeaderCatalog.TypeInfo
