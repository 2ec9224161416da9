import HeaderCatalog.Catalog.Merge
import Mathlib.Data.List.Forall2
import Mathlib.Data.List.Induction
import Mathlib.Data.List.Nodup

/-!
# The first class of each name

Going through classes keeps only classes that were there (`mem_of_mem_firsts`) and loses no name
(`exists_mem_firsts`). What stands after a first pass decides for a second one like all that went into it
(`foldl_insertFirst_firsts`), so that it makes no difference whether parts of a list are gone through before the whole
(`firsts_flatMap_firsts`). What stands is the list without the classes that repeat a name (`firsts_eq_eraseDupsBy`), and
stands at the places of a list at which no name was met before (`exists_places`).
-/

namespace HeaderCatalog.Interface

/-- Whether a class of the given name is among others. -/
def HasName (is : List Interface) (name : String) : Prop := ∃ i ∈ is, i.name = name

variable {kept is : List Interface} {i : Interface}

/-! ## One class more -/

theorem insertFirst_of_hasName (h : HasName kept i.name) : insertFirst kept i = kept := by
  obtain ⟨first, hfirst, hname⟩ := h
  exact if_pos (List.any_eq_true.mpr ⟨first, hfirst, by simpa using hname⟩)

theorem insertFirst_of_not_hasName (h : ¬HasName kept i.name) : insertFirst kept i = kept ++ [i] := by
  refine if_neg fun hany => h ?_
  obtain ⟨first, hfirst, hname⟩ := List.any_eq_true.mp hany
  exact ⟨first, hfirst, by simpa using hname⟩

theorem mem_of_mem_insertFirst {j : Interface} (h : j ∈ insertFirst kept i) : j ∈ kept ∨ j = i := by
  by_cases hname : HasName kept i.name
  · rw [insertFirst_of_hasName hname] at h
    exact Or.inl h
  · rw [insertFirst_of_not_hasName hname, List.mem_append, List.mem_singleton] at h
    exact h

theorem hasName_insertFirst {name : String} :
    HasName (insertFirst kept i) name ↔ HasName kept name ∨ i.name = name := by
  by_cases hname : HasName kept i.name
  · rw [insertFirst_of_hasName hname]
    exact ⟨Or.inl, fun h => h.elim id fun heq => heq ▸ hname⟩
  · rw [insertFirst_of_not_hasName hname]
    simp [HasName, or_and_right, exists_or]

/-! ## A list of classes -/

theorem mem_of_mem_foldl {j : Interface} (h : j ∈ is.foldl insertFirst kept) : j ∈ kept ∨ j ∈ is := by
  induction is generalizing kept with
  | nil => exact Or.inl h
  | cons i is ih =>
    rcases ih h with h | h
    · rcases mem_of_mem_insertFirst h with h | rfl
      · exact Or.inl h
      · exact Or.inr List.mem_cons_self
    · exact Or.inr (List.mem_cons_of_mem _ h)

theorem hasName_foldl {name : String} :
    HasName (is.foldl insertFirst kept) name ↔ HasName kept name ∨ HasName is name := by
  induction is generalizing kept with
  | nil => simp [HasName]
  | cons i is ih =>
    rw [List.foldl_cons, ih, hasName_insertFirst, or_assoc]
    simp [HasName]

/-- A class that stands is one of those gone through. -/
theorem mem_of_mem_firsts (h : i ∈ firsts is) : i ∈ is :=
  (mem_of_mem_foldl h).resolve_left List.not_mem_nil

theorem hasName_firsts {name : String} : HasName (firsts is) name ↔ HasName is name := by
  rw [firsts, hasName_foldl]
  simp [HasName]

/-- Every class that is gone through leaves one of its name. -/
theorem exists_mem_firsts (h : i ∈ is) : ∃ first ∈ firsts is, first.name = i.name :=
  hasName_firsts.mpr ⟨i, h, rfl⟩

/-! ## One pass after another -/

/-- A second pass through what stands after a first one goes on like the first. -/
theorem foldl_insertFirst_foldl {before : List Interface} :
    (is.foldl insertFirst before).foldl insertFirst kept =
      is.foldl insertFirst (before.foldl insertFirst kept) := by
  induction is generalizing before with
  | nil => rfl
  | cons i is ih =>
    rw [List.foldl_cons, ih, List.foldl_cons]
    congr 1
    -- a name that the first pass has seen, the second pass has seen by then
    by_cases hname : HasName before i.name
    · rw [insertFirst_of_hasName hname, insertFirst_of_hasName (hasName_foldl.mpr (Or.inr hname))]
    · rw [insertFirst_of_not_hasName hname, List.foldl_append, List.foldl_cons, List.foldl_nil]

theorem foldl_insertFirst_firsts (kept is : List Interface) :
    (firsts is).foldl insertFirst kept = is.foldl insertFirst kept :=
  foldl_insertFirst_foldl

/-- Parts may be gone through one by one before the whole. -/
theorem firsts_flatMap_firsts (parts : List (List Interface)) :
    firsts (parts.flatMap firsts) = firsts parts.flatten := by
  have hfrom : ∀ kept, (parts.flatMap firsts).foldl insertFirst kept = parts.flatten.foldl insertFirst kept := by
    induction parts with
    | nil => exact fun _ => rfl
    | cons part parts ih =>
      intro kept
      rw [List.flatMap_cons, List.foldl_append, foldl_insertFirst_firsts, ih, List.flatten_cons, List.foldl_append]
  exact hfrom []

/-! ## What stands -/

theorem any_eq_true_iff {name : String} : (kept.any (·.name == name)) = true ↔ HasName kept name := by
  simp [HasName]

/-- Behind those that stand comes what has none of their names, each name once. -/
theorem foldl_insertFirst_eq : is.foldl insertFirst kept =
    kept ++ (is.filter fun i => !kept.any (·.name == i.name)).eraseDupsBy fun i j => i.name == j.name := by
  induction is generalizing kept with
  | nil => simp
  | cons i is ih =>
    rw [List.foldl_cons, ih]
    by_cases hname : HasName kept i.name
    · have hdrop : ¬(!kept.any (·.name == i.name)) = true := by simpa using any_eq_true_iff.mpr hname
      rw [insertFirst_of_hasName hname, List.filter_cons, if_neg hdrop]
    · have hkeep : (!kept.any (·.name == i.name)) = true := by
        rw [Bool.not_eq_true', ← Bool.not_eq_true, any_eq_true_iff]
        exact hname
      rw [insertFirst_of_not_hasName hname, List.filter_cons, if_pos hkeep, List.eraseDupsBy_cons, List.filter_filter,
        List.append_assoc, List.singleton_append]
      congr 3
      refine List.filter_congr fun j _ => ?_
      have hsymm : (i.name == j.name) = (j.name == i.name) := BEq.comm
      rw [List.any_append, List.any_cons, List.any_nil, Bool.or_false, Bool.not_or, Bool.and_comm, hsymm,
        Bool.decide_eq_false]

/-- What stands are the classes without those that repeat a name. -/
theorem firsts_eq_eraseDupsBy (is : List Interface) : firsts is = is.eraseDupsBy fun i j => i.name == j.name := by
  rw [firsts, foldl_insertFirst_eq]
  simp

theorem nodup_foldl (h : (kept.map (·.name)).Nodup) : ((is.foldl insertFirst kept).map (·.name)).Nodup := by
  induction is generalizing kept with
  | nil => exact h
  | cons i is ih =>
    refine ih ?_
    by_cases hname : HasName kept i.name
    · rwa [insertFirst_of_hasName hname]
    · rw [insertFirst_of_not_hasName hname, List.map_append]
      refine h.append (List.nodup_singleton i.name) fun name hkept hi => hname ?_
      obtain ⟨j, hj, rfl⟩ := List.mem_map.mp hkept
      exact ⟨j, hj, List.mem_singleton.mp hi⟩

/-- No two classes that stand have the same name. -/
theorem nodup_firsts (is : List Interface) : ((firsts is).map (·.name)).Nodup := nodup_foldl List.nodup_nil

/-! ## Where it stands -/

/-- At a place of a list with gaps there is a class whose name no place before it has. -/
def FirstAt (found : List (Option Interface)) (n : Nat) (i : Interface) : Prop :=
  found[n]? = some (some i) ∧ ∀ (m : Nat) (j : Interface), m < n → found[m]? = some (some j) → j.name ≠ i.name

variable {found : List (Option Interface)} {next : Option Interface} {n : Nat}

theorem lt_of_firstAt (h : FirstAt found n i) : n < found.length := (List.getElem?_eq_some_iff.mp h.1).1

theorem hasName_filterMap_iff {name : String} :
    HasName (found.filterMap id) name ↔ ∃ (m : Nat) (j : Interface), found[m]? = some (some j) ∧ j.name = name := by
  constructor
  · rintro ⟨j, hj, hname⟩
    obtain ⟨_, hmem, rfl⟩ := List.mem_filterMap.mp hj
    obtain ⟨m, hm⟩ := List.mem_iff_getElem?.mp hmem
    exact ⟨m, j, hm, hname⟩
  · rintro ⟨m, j, hm, hname⟩
    exact ⟨j, List.mem_filterMap.mpr ⟨some j, List.mem_of_getElem? hm, rfl⟩, hname⟩

/-- One place more changes nothing at the places before it. -/
theorem firstAt_append_iff : FirstAt (found ++ [next]) n i ↔
    FirstAt found n i ∨ n = found.length ∧ next = some i ∧ ¬HasName (found.filterMap id) i.name := by
  have hget : ∀ m < found.length, (found ++ [next])[m]? = found[m]? := fun m hm => List.getElem?_append_left hm
  constructor
  · intro h
    have hlt : n < found.length + 1 := by simpa using lt_of_firstAt h
    obtain ⟨hn, hfirst⟩ := h
    rcases Nat.lt_succ_iff_lt_or_eq.mp hlt with hlt | rfl
    · rw [hget n hlt] at hn
      exact Or.inl ⟨hn, fun m j hm hj => hfirst m j hm ((hget m (by omega)).trans hj)⟩
    · rw [List.getElem?_concat_length, Option.some.injEq] at hn
      refine Or.inr ⟨rfl, hn, fun hname => ?_⟩
      obtain ⟨m, j, hj, hname⟩ := hasName_filterMap_iff.mp hname
      have hm : m < found.length := (List.getElem?_eq_some_iff.mp hj).1
      exact hfirst m j hm ((hget m hm).trans hj) hname
  · rintro (h | ⟨rfl, rfl, hname⟩)
    · have hlt := lt_of_firstAt h
      exact ⟨(hget n hlt).trans h.1, fun m j hm hj => h.2 m j hm ((hget m (by omega)).symm.trans hj)⟩
    · refine ⟨List.getElem?_concat_length, fun m j hm hj heq => hname ?_⟩
      exact hasName_filterMap_iff.mpr ⟨m, j, (hget m hm).symm.trans hj, heq⟩

/-- What stands are the classes at the places, in order, at which a name is met first. -/
theorem exists_places (found : List (Option Interface)) : ∃ places : List Nat, places.Pairwise (· < ·) ∧
    (∀ n, n ∈ places ↔ ∃ i, FirstAt found n i) ∧
      List.Forall₂ (FirstAt found) places (firsts (found.filterMap id)) := by
  induction found using List.reverseRecOn with
  | nil =>
    refine ⟨[], .nil, fun n => ⟨fun h => absurd h List.not_mem_nil, ?_⟩, .nil⟩
    rintro ⟨i, hi⟩
    exact absurd (lt_of_firstAt hi) (Nat.not_lt_zero n)
  | append_singleton found next ih =>
    obtain ⟨places, hincreasing, hmem, hplaces⟩ := ih
    have hbefore : List.Forall₂ (FirstAt (found ++ [next])) places (firsts (found.filterMap id)) :=
      hplaces.imp fun n i hi => firstAt_append_iff.mpr (Or.inl hi)
    have hfirsts : firsts ((found ++ [next]).filterMap id) =
        next.toList.foldl insertFirst (firsts (found.filterMap id)) := by
      rw [List.filterMap_append, firsts, List.foldl_append]
      cases next <;> rfl
    by_cases hnew : ∃ i, next = some i ∧ ¬HasName (found.filterMap id) i.name
    · obtain ⟨i, rfl, hname⟩ := hnew
      have hlast : firsts ((found ++ [some i]).filterMap id) = firsts (found.filterMap id) ++ [i] := by
        rw [hfirsts]
        exact insertFirst_of_not_hasName fun h => hname (hasName_firsts.mp h)
      refine ⟨places ++ [found.length], ?_, fun n => ?_, ?_⟩
      · refine List.pairwise_append.mpr ⟨hincreasing, List.pairwise_singleton _ _, fun n hn m hm => ?_⟩
        obtain ⟨j, hj⟩ := (hmem n).mp hn
        rw [List.mem_singleton.mp hm]
        exact lt_of_firstAt hj
      · rw [List.mem_append, List.mem_singleton, hmem]
        simp only [firstAt_append_iff, exists_or]
        refine or_congr_right ⟨fun hn => ⟨i, hn, rfl, hname⟩, ?_⟩
        rintro ⟨j, hn, -⟩
        exact hn
      · rw [hlast]
        exact List.rel_append hbefore (.cons (firstAt_append_iff.mpr (Or.inr ⟨rfl, rfl, hname⟩)) .nil)
    · have hsame : firsts ((found ++ [next]).filterMap id) = firsts (found.filterMap id) := by
        rw [hfirsts]
        cases next with
        | none => rfl
        | some i =>
          refine insertFirst_of_hasName (hasName_firsts.mpr ?_)
          by_contra hname
          exact hnew ⟨i, rfl, hname⟩
      refine ⟨places, hincreasing, fun n => ?_, hsame ▸ hbefore⟩
      rw [hmem]
      simp only [firstAt_append_iff, exists_or]
      refine (or_iff_left ?_).symm
      rintro ⟨j, -, hnext, hname⟩
      exact hnew ⟨j, hnext, hname⟩

end HeaderCatalog.Interface
