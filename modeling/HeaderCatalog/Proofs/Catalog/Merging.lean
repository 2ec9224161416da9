import HeaderCatalog.Proofs.Catalog.Firsts

/-!
# Merging catalogues

A merged catalogue has each name once, with the class that comes first of all that the parts have under it, and in the
order in which the names come up (`HasFirsts`, `merge_has_firsts`). What was merged in groups before is merged further as
if it had not been (`merge_merge`), and a catalogue without repeated names is merged to itself (`merge_self`).
-/

namespace HeaderCatalog

namespace Interface

variable {kept is : List Interface}

/-! ## Nothing to pass over, nothing to add -/

/-- Classes whose names are all new are added as they are. -/
theorem foldl_insertFirst_of_nodup (h : ((kept ++ is).map (·.name)).Nodup) :
    is.foldl insertFirst kept = kept ++ is := by
  induction is generalizing kept with
  | nil => simp
  | cons i is ih =>
    have hnew : ¬HasName kept i.name := by
      rintro ⟨j, hj, hname⟩
      rw [List.map_append, List.map_cons, List.nodup_append] at h
      exact h.2.2 j.name (List.mem_map_of_mem hj) i.name List.mem_cons_self hname
    rw [List.foldl_cons, insertFirst_of_not_hasName hnew]
    rw [List.append_cons kept i is] at h ⊢
    exact ih h

/-- Classes whose names are all there add nothing. -/
theorem foldl_insertFirst_of_hasName (h : ∀ i ∈ is, HasName kept i.name) : is.foldl insertFirst kept = kept := by
  induction is with
  | nil => rfl
  | cons i is ih =>
    rw [List.foldl_cons, insertFirst_of_hasName (h i List.mem_cons_self)]
    exact ih fun j hj => h j (List.mem_cons_of_mem _ hj)

/-- Without repeated names all classes stand. -/
theorem firsts_of_nodup (h : (is.map (·.name)).Nodup) : firsts is = is :=
  foldl_insertFirst_of_nodup h

/-- A second pass through the same classes changes nothing. -/
theorem firsts_append_self (is : List Interface) : firsts (is ++ is) = firsts is := by
  rw [firsts, List.foldl_append]
  exact foldl_insertFirst_of_hasName fun i hi => hasName_firsts.mpr ⟨i, hi, rfl⟩

end Interface

namespace Catalog

open Interface

variable {o : Options} {parts : List Catalog} {m : Catalog}

/-- The names of a merged catalogue are those of its parts. -/
theorem mem_names_merge_iff {name : String} :
    name ∈ (merge o parts).interfaces.map (·.name) ↔ ∃ part ∈ parts, ∃ i ∈ part.interfaces, i.name = name := by
  have hnames : name ∈ (merge o parts).interfaces.map (·.name) ↔ HasName (allInterfaces parts) name := by
    rw [← hasName_firsts, List.mem_map]
    rfl
  rw [hnames, HasName, allInterfaces]
  simp only [List.mem_flatMap]
  constructor
  · rintro ⟨i, ⟨part, hpart, hi⟩, hname⟩
    exact ⟨part, hpart, i, hi, hname⟩
  · rintro ⟨part, hpart, i, hi, hname⟩
    exact ⟨i, ⟨part, hpart, hi⟩, hname⟩

/-- The classes of a merged catalogue stand at the places, in order, at which the parts have a name first. -/
theorem exists_places_merge (o : Options) (parts : List Catalog) : ∃ places : List Nat, places.Pairwise (· < ·) ∧
    (∀ n, n ∈ places ↔ ∃ i, FirstAt ((allInterfaces parts).map some) n i) ∧
      List.Forall₂ (FirstAt ((allInterfaces parts).map some)) places (merge o parts).interfaces := by
  have hall : ((allInterfaces parts).map some).filterMap id = allInterfaces parts := by simp
  have hplaces := exists_places ((allInterfaces parts).map some)
  rwa [hall] at hplaces

/-- Parts may be merged in groups first, under whatever options. -/
theorem merge_merge (o : Options) (groups : List (Options × List Catalog)) :
    merge o (groups.map fun group => merge group.1 group.2) = merge o (groups.flatMap (·.2)) := by
  have hgroups : allInterfaces (groups.map fun group => merge group.1 group.2) =
      (groups.map fun group => allInterfaces group.2).flatMap firsts := by
    rw [allInterfaces, List.flatMap_map, List.flatMap_map]
    rfl
  have hall : (groups.map fun group => allInterfaces group.2).flatten = allInterfaces (groups.flatMap (·.2)) := by
    rw [allInterfaces, List.flatMap_assoc, List.flatMap_def]
    rfl
  rw [merge, hgroups, firsts_flatMap_firsts, hall, merge]

/-- A catalogue of the same framework and platform, without repeated names, is all that comes of merging it. -/
theorem merge_self (hnames : (m.interfaces.map (·.name)).Nodup) (hframework : m.framework? = o.framework?)
    (hplatform : m.platform = o.platform) : merge o [m] = m ∧ merge o [m, m] = m := by
  have hcatalog : ofInterfaces o m.interfaces = m := by
    rw [ofInterfaces, ← hframework, ← hplatform]
  have hone : merge o [m] = ofInterfaces o (firsts m.interfaces) := by
    rw [merge, allInterfaces, List.flatMap_singleton]
  have htwo : merge o [m, m] = ofInterfaces o (firsts (m.interfaces ++ m.interfaces)) := by
    simp [merge, allInterfaces]
  rw [hone, htwo, firsts_append_self, firsts_of_nodup hnames]
  exact ⟨hcatalog, hcatalog⟩

/-- A catalogue has each name of the parts once, with the class that all of them, one part after the other, have first
under it, and in the order of the places of these classes. Framework and platform are those of the options. -/
structure HasFirsts (o : Options) (parts : List Catalog) (m : Catalog) : Prop where
  framework : m.framework? = o.framework?
  platform : m.platform = o.platform
  nodup : (m.interfaces.map (·.name)).Nodup
  names : ∀ name, name ∈ m.interfaces.map (·.name) ↔ ∃ part ∈ parts, ∃ i ∈ part.interfaces, i.name = name
  places : ∃ places : List Nat, places.Pairwise (· < ·) ∧
    (∀ n, n ∈ places ↔ ∃ i, FirstAt ((parts.flatMap (·.interfaces)).map some) n i) ∧
      List.Forall₂ (FirstAt ((parts.flatMap (·.interfaces)).map some)) places m.interfaces

/-- **A merged catalogue has the first class of each name.** It makes no difference whether the parts are merged in groups
before, under whatever options, and a catalogue without repeated names, alone or twice, is merged to itself. -/
theorem merge_has_firsts (o : Options) (parts : List Catalog) :
    HasFirsts o parts (merge o parts) ∧
      (∀ groups : List (Options × List Catalog), groups.flatMap (·.2) = parts →
        merge o (groups.map fun group => merge group.1 group.2) = merge o parts) ∧
      ∀ m : Catalog, (m.interfaces.map (·.name)).Nodup → m.framework? = o.framework? → m.platform = o.platform →
        merge o [m] = m ∧ merge o [m, m] = m := by
  refine ⟨⟨rfl, rfl, nodup_firsts _, fun name => mem_names_merge_iff, exists_places_merge o parts⟩, ?_, ?_⟩
  · rintro groups rfl
    exact merge_merge o groups
  · exact fun m hnames hframework hplatform => merge_self hnames hframework hplatform

namespace Example

/-- A class without members. -/
def empty (name file : String) : Interface := ⟨name, file, none, [], [], [], [], [], ""⟩

/-- A catalogue with a name that it repeats. -/
def doubled : Catalog := ⟨none, "macos", [empty "A" "a.h", empty "B" "b.h", empty "A" "c.h"]⟩

/-- A catalogue with a name of the other one. -/
def other : Catalog := ⟨some "F", "ios", [empty "B" "d.h", empty "C" "d.h"]⟩

/-- Both catalogues in groups of their own, with an empty one between them. -/
def grouped : List (Options × List Catalog) :=
  [(⟨"ios", none, some "F", true⟩, [doubled]), (.standard, []), (.standard, [other])]

/-- What comes of both catalogues, in groups or not. -/
def merged : Catalog := ⟨none, "macos", [empty "A" "a.h", empty "B" "b.h", empty "C" "d.h"]⟩

/-- The groups merge like the two catalogues, and what comes of them is merged to itself. -/
theorem merge_grouped : grouped.flatMap (·.2) = [doubled, other] ∧ (merged.interfaces.map (·.name)).Nodup ∧
    merge .standard (grouped.map fun group => merge group.1 group.2) = merged ∧
      merge .standard [merged] = merged ∧ merge .standard [merged, merged] = merged := by
  obtain ⟨-, hgroups, hself⟩ := merge_has_firsts .standard [doubled, other]
  have hnames : (merged.interfaces.map (·.name)).Nodup := by decide
  have hmerged : merge .standard [doubled, other] = merged := rfl
  exact ⟨rfl, hnames, (hgroups grouped rfl).trans hmerged, hself merged hnames rfl rfl⟩

end Example

end Catalog

end HeaderCatalog
