import HeaderCatalog.Proofs.First
import HeaderCatalog.Proofs.Snapshot.Soundness
import Mathlib.Data.Prod.Lex

/-!
# The check names the first defect

What can be wrong with a snapshot has a place (`Snapshot.Place`), and places have an order: the root, then the cursors
one by one with what they name, then the types one by one with what they name, then circles of children, then circles
of parts. `Snapshot.DefectAt` says which defect there is at a place. The check fails exactly if there is one, and then
names one at the first place (`validate_first_defect`).
-/

namespace HeaderCatalog

open Relation

/-! ## What nodes name -/

/-- The cursors that a cursor names in one of its parts. -/
def CursorNode.cursorsIn (c : CursorNode) : Link → List CursorId
  | .children => c.children
  | .arguments => c.arguments
  | .referenced => c.referenced?.toList
  | .definition => c.definition?.toList
  | _ => []

/-- The types that a cursor names in one of its parts. -/
def CursorNode.typesIn (c : CursorNode) : Link → List TypeId
  | .type => c.type?.toList
  | .resultType => c.resultType?.toList
  | _ => []

/-- The types that a type names in one of its parts. What it is composed of counts as one part. -/
def TypeNode.typesIn (t : TypeNode) : Link → List TypeId
  | .canonical => t.canonical?.toList
  | .composition => t.element?.toList ++ t.pointee?.toList ++ t.result?.toList ++ t.arguments?.getD []
  | _ => []

/-- The cursors that a type names in one of its parts. -/
def TypeNode.cursorsIn (t : TypeNode) : Link → List CursorId
  | .declaration => t.declaration?.toList
  | _ => []

/-- The place of a part among those of its node. -/
def Link.rank : Link → Nat
  | children => 0
  | arguments => 1
  | referenced => 2
  | definition => 3
  | type => 4
  | resultType => 5
  | canonical => 6
  | composition => 7
  | declaration => 8

namespace Snapshot

/-! ## Places -/

/-- A place at which there can be a defect. -/
inductive Place where
  | root
  /-- what a node names in one of its parts, at a position -/
  | naming (holder : Holder) (link : Link) (position : Nat)
  | childCircle
  | partCircle

/-- Places in order: the root, cursors, types, circles of children, circles of parts. -/
def Place.rank : Place → Nat ×ₗ Nat ×ₗ Nat ×ₗ Nat
  | root => toLex (0, toLex (0, toLex (0, 0)))
  | naming (.cursor i) link position => toLex (1, toLex (i, toLex (link.rank, position)))
  | naming (.type i) link position => toLex (2, toLex (i, toLex (link.rank, position)))
  | childCircle => toLex (3, toLex (0, toLex (0, 0)))
  | partCircle => toLex (4, toLex (0, toLex (0, 0)))

instance : LE Place := ⟨fun place place' => place.rank ≤ place'.rank⟩

/-- There is a defect at a place: a position that does not exist, or a node that reaches itself. -/
inductive DefectAt (s : Snapshot) : Place → Defect → Prop
  | root (hout : s.cursors.size ≤ s.root.toNat) : DefectAt s .root (.missingRoot s.root)
  | cursorOfCursor {i : Nat} {c : CursorNode} {link : Link} {position : Nat} {id : CursorId}
      (hc : s.cursors[i]? = some c) (hid : (c.cursorsIn link)[position]? = some id)
      (hout : s.cursors.size ≤ id.toNat) :
      DefectAt s (.naming (.cursor i) link position) (.danglingCursor (.cursor i) link id)
  | typeOfCursor {i : Nat} {c : CursorNode} {link : Link} {position : Nat} {id : TypeId}
      (hc : s.cursors[i]? = some c) (hid : (c.typesIn link)[position]? = some id) (hout : s.types.size ≤ id.toNat) :
      DefectAt s (.naming (.cursor i) link position) (.danglingType (.cursor i) link id)
  | typeOfType {i : Nat} {t : TypeNode} {link : Link} {position : Nat} {id : TypeId}
      (ht : s.types[i]? = some t) (hid : (t.typesIn link)[position]? = some id) (hout : s.types.size ≤ id.toNat) :
      DefectAt s (.naming (.type i) link position) (.danglingType (.type i) link id)
  | cursorOfType {i : Nat} {t : TypeNode} {link : Link} {position : Nat} {id : CursorId}
      (ht : s.types[i]? = some t) (hid : (t.cursorsIn link)[position]? = some id)
      (hout : s.cursors.size ≤ id.toNat) :
      DefectAt s (.naming (.type i) link position) (.danglingCursor (.type i) link id)
  | childCircle {id : CursorId} (hcircle : TransGen s.HasChild id.toNat id.toNat) :
      DefectAt s .childCircle (.childCycle id)
  | partCircle {id : TypeId} (hcircle : TransGen s.HasPart id.toNat id.toNat) :
      DefectAt s .partCircle (.typeCycle id)

variable {s : Snapshot}

/-! ## Links -/

/-- The places of what a node names in some of its parts. -/
def namingPlaces (holder : Holder) (links : List Link) : Set Place :=
  {place | ∃ link ∈ links, ∃ n, place = .naming holder link n}

theorem naming_le_naming {holder : Holder} {link : Link} {n n' : Nat} (h : n ≤ n') :
    Place.naming holder link n ≤ Place.naming holder link n' := by
  show Place.rank _ ≤ Place.rank _
  cases holder <;> simpa [Place.rank, Prod.Lex.toLex_le_toLex] using h

theorem naming_le_of_rank_lt {holder : Holder} {link link' : Link} {n n' : Nat} (h : link.rank < link'.rank) :
    Place.naming holder link n ≤ Place.naming holder link' n' := by
  show Place.rank _ ≤ Place.rank _
  cases holder <;> simp [Place.rank, Prod.Lex.toLex_le_toLex, h]

/-- A search through some parts of a node and then through others that come later. -/
theorem findsFirst_or_naming {holder : Holder} {links links' : List Link} {d? e? : Option Defect}
    (hd : FindsFirst s.DefectAt (namingPlaces holder links) d?)
    (he : FindsFirst s.DefectAt (namingPlaces holder links') e?)
    (hrank : ∀ link ∈ links, ∀ link' ∈ links', link.rank < link'.rank) :
    FindsFirst s.DefectAt (namingPlaces holder (links ++ links')) (d?.or e?) := by
  refine (hd.or he ?_).congr ?_ ?_
  · rintro k ⟨link, hlink, n, rfl⟩ k' ⟨link', hlink', n', rfl⟩
    exact naming_le_of_rank_lt (hrank link hlink link' hlink')
  · rintro k (⟨link, hlink, hk⟩ | ⟨link, hlink, hk⟩)
    · exact ⟨link, List.mem_append_left _ hlink, hk⟩
    · exact ⟨link, List.mem_append_right _ hlink, hk⟩
  · rintro k ⟨link, hlink, hk⟩ d -
    exact (List.mem_append.mp hlink).imp (fun h => ⟨link, h, hk⟩) fun h => ⟨link, h, hk⟩

theorem range_naming (holder : Holder) (link : Link) :
    Set.range (Place.naming holder link) = namingPlaces holder [link] := by
  ext k
  simp [namingPlaces, eq_comm]

theorem danglingCursor?_append (holder : Holder) (links links' : List (Link × CursorId)) :
    s.danglingCursor? holder (links ++ links') =
      (s.danglingCursor? holder links).or (s.danglingCursor? holder links') := by
  simp [danglingCursor?, List.find?_append, Option.map_or]

theorem danglingType?_append (holder : Holder) (links links' : List (Link × TypeId)) :
    s.danglingType? holder (links ++ links') = (s.danglingType? holder links).or (s.danglingType? holder links') := by
  simp [danglingType?, List.find?_append, Option.map_or]

/-- A search through what a node names in one of its parts for the first that is missing. -/
theorem findsFirst_named {α : Type} {holder : Holder} {link : Link} {ids : List α} {missing : α → Bool}
    {defect : Link → α → Defect}
    (hat : ∀ n d, s.DefectAt (.naming holder link n) d ↔
      ∃ id, ids[n]? = some id ∧ missing id = true ∧ d = defect link id) :
    FindsFirst s.DefectAt (namingPlaces holder [link])
      (((ids.map (link, ·)).find? fun l => missing l.2).map fun l => defect l.1 l.2) := by
  rw [List.find?_map, Option.map_map, ← range_naming]
  exact findsFirst_find? hat fun n n' => naming_le_naming

/-- A search through the cursors that a node names in one of its parts. -/
theorem findsFirst_danglingCursor? {holder : Holder} {link : Link} {ids : List CursorId}
    (hat : ∀ n d, s.DefectAt (.naming holder link n) d ↔
      ∃ id, ids[n]? = some id ∧ s.cursors.size ≤ id.toNat ∧ d = .danglingCursor holder link id) :
    FindsFirst s.DefectAt (namingPlaces holder [link]) (s.danglingCursor? holder (ids.map (link, ·))) := by
  have hmissing : ∀ id, (!s.hasCursor id) = true ↔ s.cursors.size ≤ id.toNat := by simp [hasCursor]
  simp only [← hmissing] at hat
  exact findsFirst_named hat

/-- A search through the types that a node names in one of its parts. -/
theorem findsFirst_danglingType? {holder : Holder} {link : Link} {ids : List TypeId}
    (hat : ∀ n d, s.DefectAt (.naming holder link n) d ↔
      ∃ id, ids[n]? = some id ∧ s.types.size ≤ id.toNat ∧ d = .danglingType holder link id) :
    FindsFirst s.DefectAt (namingPlaces holder [link]) (s.danglingType? holder (ids.map (link, ·))) := by
  have hmissing : ∀ id, (!s.hasType id) = true ↔ s.types.size ≤ id.toNat := by simp [hasType]
  simp only [← hmissing] at hat
  exact findsFirst_named hat

/-- The defects in what a cursor names. -/
theorem defectAt_cursor_iff {i : Nat} {c : CursorNode} (hc : s.cursors[i]? = some c) {link : Link} {n : Nat}
    {d : Defect} : s.DefectAt (.naming (.cursor i) link n) d ↔
      (∃ id, (c.cursorsIn link)[n]? = some id ∧ s.cursors.size ≤ id.toNat ∧
        d = .danglingCursor (.cursor i) link id) ∨
      ∃ id, (c.typesIn link)[n]? = some id ∧ s.types.size ≤ id.toNat ∧ d = .danglingType (.cursor i) link id := by
  constructor
  · intro h
    cases h with
    | cursorOfCursor hc' hid hout =>
      obtain rfl := Option.some.inj (hc.symm.trans hc')
      exact Or.inl ⟨_, hid, hout, rfl⟩
    | typeOfCursor hc' hid hout =>
      obtain rfl := Option.some.inj (hc.symm.trans hc')
      exact Or.inr ⟨_, hid, hout, rfl⟩
  · rintro (⟨id, hid, hout, rfl⟩ | ⟨id, hid, hout, rfl⟩)
    · exact .cursorOfCursor hc hid hout
    · exact .typeOfCursor hc hid hout

/-- The defects in what a type names. -/
theorem defectAt_type_iff {i : Nat} {t : TypeNode} (ht : s.types[i]? = some t) {link : Link} {n : Nat}
    {d : Defect} : s.DefectAt (.naming (.type i) link n) d ↔
      (∃ id, (t.typesIn link)[n]? = some id ∧ s.types.size ≤ id.toNat ∧ d = .danglingType (.type i) link id) ∨
      ∃ id, (t.cursorsIn link)[n]? = some id ∧ s.cursors.size ≤ id.toNat ∧
        d = .danglingCursor (.type i) link id := by
  constructor
  · intro h
    cases h with
    | typeOfType ht' hid hout =>
      obtain rfl := Option.some.inj (ht.symm.trans ht')
      exact Or.inl ⟨_, hid, hout, rfl⟩
    | cursorOfType ht' hid hout =>
      obtain rfl := Option.some.inj (ht.symm.trans ht')
      exact Or.inr ⟨_, hid, hout, rfl⟩
  · rintro (⟨id, hid, hout, rfl⟩ | ⟨id, hid, hout, rfl⟩)
    · exact .typeOfType ht hid hout
    · exact .cursorOfType ht hid hout

/-! ## Nodes -/

/-- All places of what a node names. -/
def holderPlaces (holder : Holder) : Set Place := {place | ∃ link n, place = .naming holder link n}

/-- The first defect of a cursor. -/
theorem findsFirst_cursorDefect? {i : Nat} {c : CursorNode} (hc : s.cursors[i]? = some c) :
    FindsFirst s.DefectAt (holderPlaces (.cursor i)) (s.cursorDefect? c i) := by
  have hcursor (link : Link) (hlink : c.typesIn link = []) : FindsFirst s.DefectAt (namingPlaces (.cursor i) [link])
      (s.danglingCursor? (.cursor i) ((c.cursorsIn link).map (link, ·))) :=
    findsFirst_danglingCursor? fun n d => by simp [defectAt_cursor_iff hc, hlink]
  have htype (link : Link) (hlink : c.cursorsIn link = []) : FindsFirst s.DefectAt (namingPlaces (.cursor i) [link])
      (s.danglingType? (.cursor i) ((c.typesIn link).map (link, ·))) :=
    findsFirst_danglingType? fun n d => by simp [defectAt_cursor_iff hc, hlink]
  have hlisted := findsFirst_or_naming (hcursor .children rfl) (hcursor .arguments rfl) (by decide)
  have hnamed := findsFirst_or_naming hlisted (hcursor .referenced rfl) (by decide)
  have hcursors := findsFirst_or_naming hnamed (hcursor .definition rfl) (by decide)
  have htypes := findsFirst_or_naming (htype .type rfl) (htype .resultType rfl) (by decide)
  have hsearch := findsFirst_or_naming hcursors htypes (by decide)
  rw [← danglingCursor?_append, ← danglingCursor?_append, ← danglingCursor?_append, ← danglingType?_append] at hsearch
  refine hsearch.congr ?_ ?_
  · rintro k ⟨link, -, n, rfl⟩
    exact ⟨link, n, rfl⟩
  · rintro k ⟨link, n, rfl⟩ d hd
    refine ⟨link, ?_, n, rfl⟩
    rw [defectAt_cursor_iff hc] at hd
    cases link <;> simp [CursorNode.cursorsIn, CursorNode.typesIn] at hd ⊢

/-- The first defect of a type. -/
theorem findsFirst_typeDefect? {i : Nat} {t : TypeNode} (ht : s.types[i]? = some t) :
    FindsFirst s.DefectAt (holderPlaces (.type i)) (s.typeDefect? t i) := by
  have htype (link : Link) (hlink : t.cursorsIn link = []) : FindsFirst s.DefectAt (namingPlaces (.type i) [link])
      (s.danglingType? (.type i) ((t.typesIn link).map (link, ·))) :=
    findsFirst_danglingType? fun n d => by simp [defectAt_type_iff ht, hlink]
  have hcursor (link : Link) (hlink : t.typesIn link = []) : FindsFirst s.DefectAt (namingPlaces (.type i) [link])
      (s.danglingCursor? (.type i) ((t.cursorsIn link).map (link, ·))) :=
    findsFirst_danglingCursor? fun n d => by simp [defectAt_type_iff ht, hlink]
  have htypes := findsFirst_or_naming (htype .canonical rfl) (htype .composition rfl) (by decide)
  have hsearch := findsFirst_or_naming htypes (hcursor .declaration rfl) (by decide)
  rw [← danglingType?_append] at hsearch
  refine hsearch.congr ?_ ?_
  · rintro k ⟨link, -, n, rfl⟩
    exact ⟨link, n, rfl⟩
  · rintro k ⟨link, n, rfl⟩ d hd
    refine ⟨link, ?_, n, rfl⟩
    rw [defectAt_type_iff ht] at hd
    cases link <;> simp [TypeNode.cursorsIn, TypeNode.typesIn] at hd ⊢

/-! ## Arenas -/

/-- A search through the nodes of an arena. -/
theorem findsFirst_arena {α : Type} {nodes : Array α} {f : α → Nat → Option Defect} {holder : Nat → Holder}
    (hnode : ∀ i a, nodes[i]? = some a → FindsFirst s.DefectAt (holderPlaces (holder i)) (f a i))
    (hbefore : ∀ i j, i < j → ∀ k ∈ holderPlaces (holder i), ∀ k' ∈ holderPlaces (holder j), k ≤ k')
    (hout : ∀ i link n d, s.DefectAt (.naming (holder i) link n) d → i < nodes.size) :
    FindsFirst s.DefectAt (⋃ i, holderPlaces (holder i)) (nodes.toList.zipIdx.findSome? fun (a, i) => f a i) := by
  have hitem : ∀ n entry, nodes.toList.zipIdx[n]? = some entry →
      FindsFirst s.DefectAt (holderPlaces (holder n)) (f entry.1 entry.2) := by
    rintro n ⟨a, i⟩ hentry
    rw [List.getElem?_zipIdx, Nat.zero_add, Option.map_eq_some_iff] at hentry
    obtain ⟨b, hb, heq⟩ := hentry
    cases heq
    exact hnode n a (by rw [← Array.getElem?_toList]; exact hb)
  refine (findsFirst_findSome? hitem hbefore).congr (fun k hk => ?_) fun k hk d hd => ?_
  · obtain ⟨n, -, hk⟩ := Set.mem_iUnion₂.mp hk
    exact Set.mem_iUnion.mpr ⟨n, hk⟩
  · obtain ⟨n, link, m, rfl⟩ := Set.mem_iUnion.mp hk
    exact Set.mem_iUnion₂.mpr ⟨n, by simpa using hout n link m d hd, link, m, rfl⟩

theorem findsFirst_cursors : FindsFirst s.DefectAt (⋃ i, holderPlaces (.cursor i))
    (s.cursors.toList.zipIdx.findSome? fun (c, i) => s.cursorDefect? c i) := by
  refine findsFirst_arena (fun i c hc => findsFirst_cursorDefect? hc) ?_ ?_
  · rintro i j hij k ⟨link, n, rfl⟩ k' ⟨link', n', rfl⟩
    show Place.rank _ ≤ Place.rank _
    simp [Place.rank, Prod.Lex.toLex_le_toLex, hij]
  · intro i link n d hd
    cases hd with
    | cursorOfCursor hc _ _ => exact (Array.getElem?_eq_some_iff.mp hc).1
    | typeOfCursor hc _ _ => exact (Array.getElem?_eq_some_iff.mp hc).1

theorem findsFirst_types : FindsFirst s.DefectAt (⋃ i, holderPlaces (.type i))
    (s.types.toList.zipIdx.findSome? fun (t, i) => s.typeDefect? t i) := by
  refine findsFirst_arena (fun i t ht => findsFirst_typeDefect? ht) ?_ ?_
  · rintro i j hij k ⟨link, n, rfl⟩ k' ⟨link', n', rfl⟩
    show Place.rank _ ≤ Place.rank _
    simp [Place.rank, Prod.Lex.toLex_le_toLex, hij]
  · intro i link n d hd
    cases hd with
    | typeOfType ht _ _ => exact (Array.getElem?_eq_some_iff.mp ht).1
    | cursorOfType ht _ _ => exact (Array.getElem?_eq_some_iff.mp ht).1

theorem root_le (k : Place) : Place.root ≤ k := by
  show Place.rank _ ≤ Place.rank _
  rcases k with _ | ⟨_ | _, _, _⟩ | _ | _ <;> simp [Place.rank, Prod.Lex.toLex_le_toLex]

theorem cursor_le_type : ∀ k ∈ ⋃ i, holderPlaces (.cursor i), ∀ k' ∈ ⋃ i, holderPlaces (.type i), k ≤ k' := by
  intro k hk k' hk'
  obtain ⟨i, link, n, rfl⟩ := Set.mem_iUnion.mp hk
  obtain ⟨i', link', n', rfl⟩ := Set.mem_iUnion.mp hk'
  show Place.rank _ ≤ Place.rank _
  simp [Place.rank, Prod.Lex.toLex_le_toLex]

/-- The places at which a position may not exist. -/
def danglingPlaces : Set Place := {place | place ≠ .childCircle ∧ place ≠ .partCircle}

theorem dangling_le_circle : ∀ k ∈ danglingPlaces, ∀ k' ∉ danglingPlaces, k ≤ k' := by
  rintro k ⟨hchild, hpart⟩ k' hk'
  show Place.rank _ ≤ Place.rank _
  rcases k with _ | ⟨_ | _, _, _⟩ | _ | _ <;> rcases k' with _ | _ | _ | _ <;>
    simp_all [danglingPlaces, Place.rank, Prod.Lex.toLex_le_toLex]

/-- The first position that does not exist. -/
theorem findsFirst_dangling? : FindsFirst s.DefectAt danglingPlaces s.dangling? := by
  have hroot : FindsFirst s.DefectAt {.root} (if s.hasCursor s.root then none else some (.missingRoot s.root)) := by
    split
    · rename_i h
      rintro k rfl d ⟨hout⟩
      exact absurd (of_decide_eq_true h) (Nat.not_lt_of_le hout)
    · rename_i h
      refine ⟨.root, rfl, .root ?_, ?_⟩
      · simpa [hasCursor] using h
      · rintro k rfl d -
        exact le_refl Place.root.rank
  have hnodes : FindsFirst s.DefectAt _ _ := findsFirst_cursors.or findsFirst_types cursor_le_type
  refine (hroot.or hnodes fun k hk k' _ => hk ▸ root_le k').congr ?_ ?_
  · rintro k (rfl | hk | hk)
    · exact ⟨nofun, nofun⟩
    all_goals
      obtain ⟨i, link, n, rfl⟩ := Set.mem_iUnion.mp hk
      exact ⟨nofun, nofun⟩
  · rintro k ⟨hchild, hpart⟩ d -
    match k with
    | .root => exact Or.inl rfl
    | .naming (.cursor i) link n => exact Or.inr (Or.inl (Set.mem_iUnion.mpr ⟨i, link, n, rfl⟩))
    | .naming (.type i) link n => exact Or.inr (Or.inr (Set.mem_iUnion.mpr ⟨i, link, n, rfl⟩))
    | .childCircle => exact absurd rfl hchild
    | .partCircle => exact absurd rfl hpart

/-- Where all positions exist, nothing is wrong at the places at which one may not. -/
theorem not_defectAt_of_dangling? (h : s.dangling? = none) {place : Place} (hplace : place ∈ danglingPlaces)
    (d : Defect) : ¬s.DefectAt place d := by
  have hsearch := findsFirst_dangling? (s := s)
  rw [h] at hsearch
  exact hsearch place hplace d

/-! ## The check -/

theorem toNat_ofNat_of_hasChild {i j : Nat} (h : s.HasChild i j) : (CursorId.ofNat j).toNat = j := by
  obtain ⟨c, -, id, -, rfl⟩ := h
  simp [CursorId.ofNat, CursorId.toNat]

theorem toNat_ofNat_of_hasPart {i j : Nat} (h : s.HasPart i j) : (TypeId.ofNat j).toNat = j := by
  obtain ⟨t, -, id, -, rfl⟩ := h
  simp [TypeId.ofNat, TypeId.toNat]

/-- A defect at a place before which there is no other. -/
def FirstDefect (s : Snapshot) (d : Defect) : Prop :=
  ∃ place, s.DefectAt place d ∧ ∀ place' d', s.DefectAt place' d' → place ≤ place'

/-- A position that does not exist is the first defect if it is the first such position. -/
theorem firstDefect_of_dangling? {d : Defect} (h : s.dangling? = some d) : s.FirstDefect d := by
  have hsearch := findsFirst_dangling? (s := s)
  rw [h] at hsearch
  obtain ⟨k, hk, hat, hfirst⟩ := hsearch
  refine ⟨k, hat, fun k' d' hat' => ?_⟩
  by_cases hk' : k' ∈ danglingPlaces
  · exact hfirst k' hk' d' hat'
  · exact dangling_le_circle k hk k' hk'

/-- Where all positions exist, a circle of children is the first defect. -/
theorem firstDefect_of_childCircle (h : s.dangling? = none) {id : CursorId}
    (hcircle : TransGen s.HasChild id.toNat id.toNat) : s.FirstDefect (.childCycle id) := by
  refine ⟨.childCircle, .childCircle hcircle, fun k' d' hat' => ?_⟩
  show Place.rank _ ≤ Place.rank _
  by_cases hk' : k' ∈ danglingPlaces
  · exact absurd hat' (not_defectAt_of_dangling? h hk' d')
  · cases hat' with
    | childCircle => exact le_rfl
    | partCircle => simp [Place.rank, Prod.Lex.toLex_le_toLex]
    | _ => exact absurd ⟨nofun, nofun⟩ hk'

/-- Where all positions exist and children do not run in circles, a circle of parts is the first defect. -/
theorem firstDefect_of_partCircle (h : s.dangling? = none) (hchildren : ∀ i, ¬TransGen s.HasChild i i) {id : TypeId}
    (hcircle : TransGen s.HasPart id.toNat id.toNat) : s.FirstDefect (.typeCycle id) := by
  refine ⟨.partCircle, .partCircle hcircle, fun k' d' hat' => ?_⟩
  show Place.rank _ ≤ Place.rank _
  by_cases hk' : k' ∈ danglingPlaces
  · exact absurd hat' (not_defectAt_of_dangling? h hk' d')
  · cases hat' with
    | childCircle hcircle' => exact absurd hcircle' (hchildren _)
    | partCircle => exact le_rfl
    | _ => exact absurd ⟨nofun, nofun⟩ hk'

/-- A snapshot that does not pass the check has the defect that is named, and none before it. -/
theorem exists_firstDefect {e : Failure} (h : s.validate = .error e) : ∃ d, e = .defect d ∧ s.FirstDefect d := by
  cases hdangling : s.dangling? with
  | some d =>
    rw [validate, hdangling] at h
    cases h
    exact ⟨d, rfl, firstDefect_of_dangling? hdangling⟩
  | none =>
    have hlinked := dangling?_eq_none_iff.mp hdangling
    rw [validate_of_linked hlinked] at h
    rcases checkChildren_spec hlinked with ⟨hok, hchildren⟩ | ⟨i, -, herror, hcircle⟩
    · rw [hok] at h
      rcases checkParts_spec hlinked with ⟨hok, -⟩ | ⟨i, -, herror, hcircle⟩
      · rw [hok] at h
        cases h
      · rw [herror] at h
        cases h
        obtain ⟨j, -, hedge⟩ := TransGen.tail'_iff.mp hcircle
        have hid := toNat_ofNat_of_hasPart hedge
        exact ⟨_, rfl, firstDefect_of_partCircle hdangling hchildren (by rwa [hid])⟩
    · rw [herror] at h
      cases h
      obtain ⟨j, -, hedge⟩ := TransGen.tail'_iff.mp hcircle
      have hid := toNat_ofNat_of_hasChild hedge
      exact ⟨_, rfl, firstDefect_of_childCircle hdangling (by rwa [hid])⟩

/-- A sound snapshot has no defect. -/
theorem Sound.not_defectAt (hs : s.Sound) (place : Place) (d : Defect) : ¬s.DefectAt place d := by
  intro hat
  by_cases hplace : place ∈ danglingPlaces
  · exact not_defectAt_of_dangling? (dangling?_eq_none_iff.mpr hs.toLinked) hplace d hat
  · cases hat with
    | childCircle hcircle => exact hs.children_acyclic _ hcircle
    | partCircle hcircle => exact hs.parts_acyclic _ hcircle
    | _ => exact absurd ⟨nofun, nofun⟩ hplace

/-- **The check names the first defect.** It fails exactly if there is a defect at some place, and then it names one that
is there, at the first place of all. -/
theorem validate_first_defect (s : Snapshot) : ((∃ e, s.validate = .error e) ↔ ∃ place d, s.DefectAt place d) ∧
    ∀ e, s.validate = .error e → ∃ d, e = .defect d ∧ s.FirstDefect d := by
  refine ⟨⟨?_, ?_⟩, fun e h => exists_firstDefect h⟩
  · rintro ⟨e, h⟩
    obtain ⟨d, -, place, hat, -⟩ := exists_firstDefect h
    exact ⟨place, d, hat⟩
  · rintro ⟨place, d, hat⟩
    rcases validate_spec s with ⟨-, hsound⟩ | ⟨d', herror, -⟩
    · exact absurd hat (hsound.not_defectAt place d)
    · exact ⟨_, herror⟩

namespace Example

/-- A root that is its own grandchild, and a type with two links that lead nowhere. -/
def faulty : Snapshot where
  root := .ofNat 0
  cursors := #[
    { CursorNode.blank .translationUnit "" with children := [.ofNat 1] },
    { CursorNode.blank .interfaceDeclaration "A" with children := [.ofNat 0] }]
  types := #[{ TypeNode.pointer "A *" (.ofNat 4) with canonical? := some (.ofNat 0), declaration? := some (.ofNat 9) }]

/-- The pointee is named, before the declaration and before the circle of children. -/
theorem validate_faulty :
    faulty.validate = .error (.defect (.danglingType (.type 0) .composition (.ofNat 4))) ∧
      faulty.FirstDefect (.danglingType (.type 0) .composition (.ofNat 4)) ∧
        faulty.DefectAt (.naming (.type 0) .declaration 0) (.danglingCursor (.type 0) .declaration (.ofNat 9)) ∧
          faulty.DefectAt .childCircle (.childCycle (.ofNat 1)) := by
  obtain ⟨d, hd, hfirst⟩ := (validate_first_defect faulty).2 _ rfl
  cases hd
  have hdown : faulty.HasChild 0 1 := ⟨_, rfl, .ofNat 1, List.mem_singleton.mpr rfl, rfl⟩
  have hup : faulty.HasChild 1 0 := ⟨_, rfl, .ofNat 0, List.mem_singleton.mpr rfl, rfl⟩
  exact ⟨rfl, hfirst, .cursorOfType rfl rfl (by decide), .childCircle (.tail (.single hup) hdown)⟩

/-- In words, the type is named by its place, and the pointee as what it is composed of. -/
example : Defect.message (.danglingType (.type 0) .composition (.ofNat 4)) =
    "type #0 field `composition` points at missing type #4" := by decide

end Example

end Snapshot

end HeaderCatalog
