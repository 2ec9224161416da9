import HeaderCatalog.Version
import Mathlib.Data.Prod.Lex
import Mathlib.Order.Compare

/-!
# The order of versions

Versions are compared like their ranks, triples of numbers in lexicographic order in which a missing number is zero
(`atMost_iff`, `compares_rank`).
-/

namespace HeaderCatalog.Version

/-- The numbers of a version, missing ones as zero, by the first of which two versions differ. -/
def rank (v : Version) : Nat ×ₗ Nat ×ₗ Nat :=
  toLex (v.major.toNat, toLex ((v.minor?.getD 0).toNat, (v.subminor?.getD 0).toNat))

/-- One version is at most another if its rank is. -/
theorem atMost_iff {v w : Version} : v.atMost w = true ↔ v.rank ≤ w.rank := by
  unfold atMost compare rank
  rw [Ordering.isLE_then_iff_or, Ordering.isLE_then_iff_or, Prod.Lex.toLex_le_toLex, Prod.Lex.toLex_le_toLex]
  simp only [Nat.compare_eq_lt, Nat.compare_eq_eq, Nat.isLE_compare, key]

/-- A missing number is zero. -/
example : (⟨11, none, none⟩ : Version).atMost ⟨11, some 0, some 0⟩ = true ∧
    (⟨11, some 0, some 0⟩ : Version).atMost ⟨11, none, none⟩ = true := by decide

/-- Versions are the same if their ranks are. -/
theorem same_iff {v w : Version} : v.same w = true ↔ v.rank = w.rank := by
  unfold same rank key
  simp [Prod.ext_iff]

/-- Versions compare as their ranks do. -/
theorem compares_rank (v w : Version) : (v.compare w).Compares v.rank w.rank := by
  have hcompare : v.compare w = Ord.compare v.rank w.rank := by
    simp only [compare, key, rank, Prod.Lex.compare_def, compareLex, compareOn, ofLex_toLex]
  rw [hcompare, ← cmp_eq_compare]
  exact cmp_compares v.rank w.rank

/-- Versions that are the same are at most the same versions. -/
theorem atMost_congr {v w v' w' : Version} (hv : v.same v' = true) (hw : w.same w' = true) :
    v.atMost w = v'.atMost w' := by
  rw [Bool.eq_iff_iff, atMost_iff, atMost_iff, same_iff.mp hv, same_iff.mp hw]

end HeaderCatalog.Version
